import Rendezvous.Fault.Links

/-!
# Fault handlers

The conductor only says what is to be done to the links of a node; the fault handler of its player
does it. A handler may change a memory of its own, may fail with the text that is reported to the
conductor, and may never come back. The recorder is a handler that does nothing but remember.
-/

namespace Rendezvous

/-- A handler of faults with a memory in `σ`. Where it answers nothing, it never comes back. -/
structure FaultHandler (σ : Type) where
  /-- Throttles the link to a target. -/
  throttle : σ → Address → Direction → Single → Option (Except String Unit × σ)
  /-- Drops the link to a target. -/
  disconnect : σ → Address → Bool → Option (Except String Unit × σ)
  /-- Takes the node down. -/
  terminate : σ → Exit → Option σ

/-- What a recorder remembers. -/
structure Record where
  links : Links := {}
  /-- How the node was told to go down, if it was. -/
  terminated : Option Exit := none
deriving DecidableEq, Repr, Inhabited

/-- How a handler meets a kind of command. -/
inductive Manner where
  /-- It carries it out. -/
  | obeys
  /-- It fails with a text. -/
  | fails (reason : String)
  /-- It never comes back. -/
  | stalls
deriving DecidableEq, Repr, Inhabited

/-- Meets a command that would leave a memory behind. A command that fails is not remembered. -/
def Manner.meet {σ : Type} (m : Manner) (before after : σ) : Option (Except String Unit × σ) :=
  match m with
  | obeys => some (.ok (), after)
  | fails reason => some (.error reason, before)
  | stalls => none

/-- The handler that records throttles and dropped links in the given manners. -/
def FaultHandler.recorder (throttling disconnecting : Manner) : FaultHandler Record where
  throttle r target direction rate :=
    throttling.meet r { r with links := r.links.throttle target direction rate }
  disconnect r target abort :=
    disconnecting.meet r { r with links := r.links.disconnect target abort }
  terminate r exit := some { r with terminated := some exit }

end Rendezvous
