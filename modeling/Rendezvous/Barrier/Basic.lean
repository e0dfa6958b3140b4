import Rendezvous.Node.Role
import Rendezvous.Time.Span

/-!
# Barriers

A barrier is opened over a set of roles and is released when every one of them has arrived. Each
opening has an epoch of its own, so that openings of one name can be told apart. An opening ends
with one outcome: success, or failure for a reason.
-/

namespace Rendezvous

/-- The number of an opening, counted from one. -/
structure Epoch where
  number : Nat
deriving DecidableEq, Repr, Inhabited

/-- The text of an epoch. -/
def Epoch.text (e : Epoch) : String := "#" ++ Decimal.text e.number

/-- Why a barrier failed. -/
inductive Reason where
  /-- The deadline passed before every role had arrived. -/
  | timeout
  /-- A member gave the barrier up. -/
  | failed (role : Role)
  /-- The connection of a member was lost. -/
  | sessionLost (role : Role)
  /-- A member was removed. -/
  | removed (role : Role)
  /-- The conductor was shut down. -/
  | shutdown
deriving DecidableEq, Repr, Inhabited

namespace Reason

/-- The name of a reason. -/
def name : Reason → String
  | timeout => "Timeout"
  | failed _ => "Failed"
  | sessionLost _ => "SessionLost"
  | removed _ => "Removed"
  | shutdown => "Shutdown"

/-- The role a reason speaks of. -/
def role? : Reason → Option Role
  | failed r | sessionLost r | removed r => some r
  | timeout | shutdown => none

/-- The wording of a reason. -/
def text : Reason → String
  | timeout => "timeout"
  | failed r => "failed by " ++ r.name
  | sessionLost r => "session of " ++ r.name ++ " lost"
  | removed r => r.name ++ " removed"
  | shutdown => "conductor shutdown"

end Reason

/-- How an opening ended. -/
structure Outcome where
  name : String
  epoch : Epoch
  /-- Nothing when every role arrived. -/
  failure : Option Reason
  /-- The roles that were expected, in order. -/
  recipients : List Role
deriving DecidableEq, Repr, Inhabited

/-- Whether every role arrived. -/
def Outcome.isSuccess (o : Outcome) : Bool := o.failure.isNone

end Rendezvous
