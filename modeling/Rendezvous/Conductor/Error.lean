import Rendezvous.Barrier.Gate
import Rendezvous.Fault.Ledger
import Rendezvous.Node.Roster
import Rendezvous.Wire.Frame

/-!
# What goes wrong at the conductor

`SessionError` is what a player's message can lead to. Some of these errors only say that the player
used the protocol wrongly; the others end its session (`isFatal`). `FaultError` is how a fault
command fails.
-/

namespace Rendezvous

/-- The errors of one session. -/
inductive SessionError where
  /-- The message is not allowed where it came. -/
  | violation (expected actual : String)
  /-- Nothing said who the player is in time. -/
  | helloTimeout (after : Span)
  /-- The message speaks for another role than the session's. -/
  | roleMismatch (session claimed : Role)
  | duplicateRole (e : DuplicateRole)
  | barrier (e : GateRefusal)
  /-- An acknowledgement that no command waits for. -/
  | unsolicited (role : Role) (ack : String)
  /-- New players are no longer taken. -/
  | shuttingDown
  | wire (e : WireError)
deriving DecidableEq, Repr, Inhabited

namespace SessionError

/-- Whether the error ends the session. -/
def isFatal : SessionError → Bool
  | roleMismatch .. | barrier _ | unsolicited .. => false
  | _ => true

/-- The wording of the error, where it does not depend on the platform. -/
def message? : SessionError → Option String
  | violation expected actual =>
    some ("protocol violation: expected " ++ expected ++ ", got " ++ actual)
  | helloTimeout after => some ("no Hello within " ++ after.text)
  | roleMismatch session claimed =>
    some ("role mismatch: session is " ++ session.name ++ ", message claims " ++ claimed.name)
  | duplicateRole e => some e.message
  | barrier e => some e.message
  | unsolicited role ack => some ("unsolicited " ++ ack ++ " from " ++ role.name)
  | shuttingDown => some "conductor is shutting down"
  | wire e => e.message?.map ("wire error: " ++ ·)

/-- The wording of the error as the end of a session. -/
def report? (e : SessionError) : Option String := e.message?.map ("protocol error: " ++ ·)

end SessionError

/-- How a fault command fails. -/
inductive FaultError where
  /-- The node or the target is not registered. -/
  | unknownRole (role : Role)
  /-- A command of the same kind is outstanding for the node. -/
  | commandPending (node : Role) (kind : CommandKind)
  /-- The node went away before it acknowledged. -/
  | sessionLost (node : Role)
  /-- No acknowledgement came in time. -/
  | timeout (node : Role) (kind : CommandKind) (after : Span)
  /-- The node could not carry the command out. -/
  | rejected (node : Role) (kind : CommandKind) (reason : String)
  /-- The command could not be queued. -/
  | send (node : Role) (kind : CommandKind)
deriving DecidableEq, Repr, Inhabited

namespace FaultError

/-- The name of the error. -/
def kindName : FaultError → String
  | unknownRole _ => "UnknownRole"
  | commandPending .. => "CommandPending"
  | sessionLost _ => "SessionLost"
  | timeout .. => "Timeout"
  | rejected .. => "Rejected"
  | send .. => "Send"

/-- The wording of the error. -/
def message : FaultError → String
  | unknownRole role => "unknown role: " ++ role.name
  | commandPending node kind => kind.name ++ " already pending for " ++ node.name
  | sessionLost node => "session of " ++ node.name ++ " lost before ack"
  | timeout node kind after =>
    kind.name ++ " to " ++ node.name ++ " not acknowledged within " ++ after.text
  | rejected node kind reason => kind.name ++ " to " ++ node.name ++ " rejected: " ++ reason
  | send node kind => "failed to send " ++ kind.name ++ " to " ++ node.name

end FaultError

end Rendezvous
