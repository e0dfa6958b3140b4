import Rendezvous.Barrier.Basic

/-!
# The gate

The gate holds the barrier that is awaited, at most one at a time. Its operations answer with
effects, which whoever holds the gate carries out in their order, and with the gate behind the
operation. Those that can be refused answer with a gate in that case, too.

Every opening is ended by `resolve`, which makes the gate idle and publishes the outcome.
-/

namespace Rendezvous

/-- The barrier that is awaited. -/
structure Awaited where
  name : String
  epoch : Epoch
  /-- The roles that must arrive, in order and without repeats. -/
  expected : List Role
  /-- The roles that have arrived, in order and without repeats. -/
  arrived : List Role
  timeout : Option Span
deriving DecidableEq, Repr, Inhabited

namespace Awaited

/-- The expected roles that have not arrived. -/
def missing (b : Awaited) : List Role := b.expected.filter (· ∉ b.arrived)

/-- The outcome of this opening. -/
def outcome (b : Awaited) (failure : Option Reason) : Outcome :=
  ⟨b.name, b.epoch, failure, b.expected⟩

end Awaited

/-- What is to be done on behalf of the gate. -/
inductive GateEffect where
  /-- Tell the expected roles that the barrier is open. -/
  | announce (name : String) (timeout : Option Span) (recipients : List Role)
  /-- Arm the timer of the opening. -/
  | startTimer (epoch : Epoch) (timeout : Span)
  /-- Disarm the timer of the opening. -/
  | cancelTimer (epoch : Epoch)
  /-- Tell the other members that one gave up. -/
  | relayFailure (name : String) (failedBy : Role) (recipients : List Role)
  /-- Make the outcome known. -/
  | publish (outcome : Outcome)
deriving DecidableEq, Repr, Inhabited

/-- Why the gate refuses an operation. -/
inductive GateRefusal where
  /-- Another barrier is still awaited. -/
  | busy (active : String)
  /-- A barrier needs members. -/
  | empty (name : String)
  /-- A role is expected that is not registered. -/
  | unknownRole (role : Role) (name : String)
  /-- The role is no member of the awaited barrier. -/
  | unexpectedRole (role : Role) (name : String)
  /-- The named barrier is not the awaited one. -/
  | stale (name : String) (active : Option String)
deriving DecidableEq, Repr, Inhabited

namespace GateRefusal

/-- The name of a refusal. -/
def kind : GateRefusal → String
  | busy _ => "BarrierBusy"
  | empty _ => "EmptyBarrier"
  | unknownRole .. => "UnknownRole"
  | unexpectedRole .. => "UnexpectedRole"
  | stale .. => "StaleBarrier"

/-- The wording of a refusal. -/
def message : GateRefusal → String
  | busy active => "barrier busy: " ++ active ++ " is still awaited"
  | empty name => "barrier " ++ name ++ " has no expected roles"
  | unknownRole role name => "unknown role " ++ role.name ++ " for barrier " ++ name
  | unexpectedRole role name => "role " ++ role.name ++ " is not expected in barrier " ++ name
  | stale name active => "stale barrier " ++ name ++ " (active: " ++ active.getD "none" ++ ")"

end GateRefusal

/-- The rendezvous point. Every opening takes the next epoch, and 64 bits hold all that can be given
out (`Gate.nextEpoch_run_le`). -/
structure Gate where
  awaited : Option Awaited := none
  nextEpoch : Nat := 1
deriving DecidableEq, Repr, Inhabited

namespace Gate

/-- Whether no barrier is awaited. -/
def isIdle (g : Gate) : Bool := g.awaited.isNone

/-- Ends the opening `b` and makes the gate idle. -/
def resolve (g : Gate) (b : Awaited) (failure : Option Reason) : List GateEffect × Gate :=
  ((if b.timeout.isSome then [.cancelTimer b.epoch] else []) ++ [.publish (b.outcome failure)],
    { g with awaited := none })

/-- Opens a barrier over the given roles, all of which must be registered. -/
def openBarrier (g : Gate) (name : String) (roles : List Role) (timeout : Option Span)
    (isRegistered : Role → Bool) : Gate × Except GateRefusal (Epoch × List GateEffect) :=
  match g.awaited with
  | some b => (g, .error (.busy b.name))
  | none =>
    let expected := Role.sortedSet roles
    if expected = [] then (g, .error (.empty name))
    else match expected.find? (fun r => !isRegistered r) with
      | some r => (g, .error (.unknownRole r name))
      | none =>
        let epoch : Epoch := ⟨g.nextEpoch⟩
        let timer := match timeout with
          | some t => [.startTimer epoch t]
          | none => []
        ({ awaited := some ⟨name, epoch, expected, [], timeout⟩, nextEpoch := g.nextEpoch + 1 },
          .ok (epoch, .announce name timeout expected :: timer))

/-- The awaited barrier, if it has this name. -/
def awaitedNamed (g : Gate) (name : String) : Except GateRefusal Awaited :=
  match g.awaited with
  | none => .error (.stale name none)
  | some b => if b.name = name then .ok b else .error (.stale name (some b.name))

/-- The awaited barrier, if it has this name and the role is a member. -/
def awaitedBy (g : Gate) (role : Role) (name : String) : Except GateRefusal Awaited :=
  match g.awaitedNamed name with
  | .error e => .error e
  | .ok b => if role ∈ b.expected then .ok b else .error (.unexpectedRole role name)

/-- A member arrives; a second arrival changes nothing, the last missing one releases. -/
def enter (g : Gate) (role : Role) (name : String) :
    Gate × Except GateRefusal (List GateEffect) :=
  match g.awaitedBy role name with
  | .error e => (g, .error e)
  | .ok b =>
    if role ∈ b.arrived then (g, .ok [])
    else
      let b' := { b with arrived := Role.insert role b.arrived }
      if b'.arrived.length < b'.expected.length then ({ g with awaited := some b' }, .ok [])
      else
        let (effects, g') := g.resolve b' none
        (g', .ok effects)

/-- A member gives the barrier up: the others are told, and it fails. -/
def fail (g : Gate) (role : Role) (name : String) :
    Gate × Except GateRefusal (List GateEffect) :=
  match g.awaitedBy role name with
  | .error e => (g, .error e)
  | .ok b =>
    let (effects, g') := g.resolve b (some (.failed role))
    (g', .ok (.relayFailure b.name role (b.expected.filter (· ≠ role)) :: effects))

/-- The deadline of an opening has passed; of any other opening than the awaited one nothing
follows. -/
def timeout (g : Gate) (epoch : Epoch) : List GateEffect × Gate :=
  match g.awaited with
  | some b => if b.epoch = epoch then g.resolve b (some .timeout) else ([], g)
  | none => ([], g)

/-- A role is gone. A barrier that expects it fails, even if the role had arrived: it could not
receive the outcome. -/
def departed (g : Gate) (role : Role) (reason : Reason) : List GateEffect × Gate :=
  match g.awaited with
  | some b => if role ∈ b.expected then g.resolve b (some reason) else ([], g)
  | none => ([], g)

/-- Whatever barrier is awaited fails. -/
def abort (g : Gate) (reason : Reason) : List GateEffect × Gate :=
  match g.awaited with
  | some b => g.resolve b (some reason)
  | none => ([], g)

end Gate

end Rendezvous
