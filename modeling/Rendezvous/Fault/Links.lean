import Rendezvous.Data.Table
import Rendezvous.Wire.Message

/-!
# Faults on links

A player keeps the faults of its links by the address of the other end, so that a fault of one link
never touches another. Each of the two directions of a link has a rate of its own.
-/

namespace Rendezvous

/-- The faults of one player's links. -/
structure Links where
  /-- The throttled directions of links, with their rates. -/
  throttles : Table (Address × Direction) Single := []
  /-- The dropped links; `true` for those that were aborted. -/
  dropped : Table Address Bool := []
deriving DecidableEq, Repr, Inhabited

namespace Links

/-- Sets or lifts the throttle of one direction. -/
def throttleOne (l : Links) (target : Address) (d : Direction) (rate : Single) : Links :=
  { l with
    throttles := if rate.isNegative then l.throttles.erase (target, d)
      else l.throttles.set (target, d) rate }

/-- Throttles the link to a target; a negative rate lifts the throttle. -/
def throttle (l : Links) (target : Address) (d : Direction) (rate : Single) : Links :=
  ([.send, .receive].filter d.includes).foldl (fun l e => l.throttleOne target e rate) l

/-- The rate towards a target, if it is throttled; of both directions the lower one. -/
def rate (l : Links) (target : Address) (d : Direction) : Option Single :=
  let send := l.throttles.get? (target, .send)
  let receive := l.throttles.get? (target, .receive)
  match d with
  | .send => send
  | .receive => receive
  | .both => match send, receive with
    | some s, some r => some (s.min r)
    | s, r => s.or r

/-- Whether nothing passes: the rate is zero. -/
def isBlackholed (l : Links) (target : Address) (d : Direction) : Bool :=
  (l.rate target d).any Single.isZero

/-- Drops the link to a target. -/
def disconnect (l : Links) (target : Address) (abort : Bool) : Links :=
  { l with dropped := l.dropped.set target abort }

/-- Whether the link to a target was dropped. -/
def isDisconnected (l : Links) (target : Address) : Bool := l.dropped.has target

/-- Whether the link to a target was aborted. -/
def wasAborted (l : Links) (target : Address) : Bool := (l.dropped.get? target).getD false

/-- Forgets every fault. -/
def clear (_ : Links) : Links := {}

/-- The number of faults. -/
def size (l : Links) : Nat := l.throttles.length + l.dropped.length

/-- Whether no link has a fault. -/
def isEmpty (l : Links) : Bool := l.throttles.isEmpty && l.dropped.isEmpty

end Links

end Rendezvous
