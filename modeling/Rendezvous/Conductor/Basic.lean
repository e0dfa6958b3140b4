import Rendezvous.Conductor.Error
import Rendezvous.Conductor.Line
import Rendezvous.Settings
import Rendezvous.Time.Clock

/-!
# The conductor

The conductor owns the roster, the gate, the ledger of outstanding commands, the barrier timer and
the lines of all sessions. Its operations are functions on this one record, so that each of them is
one step: nothing can be seen half done.

What the driver of a test waits for is delivered into two lists, the outcomes of barriers and the
verdicts on commands, each entry of which stands for one handle that is resolved.
-/

namespace Rendezvous

/-- The counters of a conductor. None of them ever goes down, and in a run none is above the number
of moves, so that 64 bits hold them (`Hall.counters_follow`). -/
structure Tally where
  connections : Nat := 0
  rejectedConnections : Nat := 0
  handshakes : Nat := 0
  protocolErrors : Nat := 0
  barriersOpened : Nat := 0
  barriersSucceeded : Nat := 0
  barriersFailed : Nat := 0
  commandsIssued : Nat := 0
  commandsAcked : Nat := 0
  commandsFailed : Nat := 0
deriving DecidableEq, Repr, Inhabited

/-- The armed barrier timer. -/
structure Alarm where
  epoch : Epoch
  /-- The millisecond at which it fires. -/
  due : Nat
deriving DecidableEq, Repr, Inhabited

/-- How a node acknowledged a command. -/
inductive CommandAck where
  | done
  | address (a : Address)
deriving DecidableEq, Repr, Inhabited

/-- How a command ended. -/
abbrev Verdict := Except FaultError CommandAck

/-- The conductor of a test. -/
structure Conductor where
  settings : Settings := {}
  /-- Nanoseconds since the start. -/
  clock : Nat := 0
  roster : Roster SessionId := {}
  gate : Gate := {}
  ledger : Ledger Unit := {}
  /-- The openings whose outcome has not been delivered. -/
  waiters : List Epoch := []
  timer : Option Alarm := none
  /-- Whether the conductor was shut down. -/
  closing : Bool := false
  /-- The open connections, registered or not. -/
  connections : List SessionId := []
  lines : Table SessionId Line := []
  tally : Tally := {}
  /-- The delivered outcomes, in order. -/
  outcomes : List Outcome := []
  /-- The ids of the commands that have ended, and how, in order. -/
  verdicts : List (Nat × Verdict) := []

namespace Conductor

/-! ## Lines -/

/-- The line of a session; a session that was never attached has a shut one. -/
def line (c : Conductor) (s : SessionId) : Line :=
  (c.lines.get? s).getD { isOpen := false }

/-- Queues an item on the line of a session. -/
def post (c : Conductor) (s : SessionId) (o : Outbound) : Conductor :=
  { c with lines := c.lines.adjust s (·.push o) }

/-- Queues a message for a role, if it is registered. -/
def tell (c : Conductor) (role : Role) (m : Downlink) : Conductor :=
  match c.roster.members.get? role with
  | some member => c.post member.handle (.message m)
  | none => c

/-- Queues a message for each of the roles that is registered. -/
def tellAll (c : Conductor) (roles : List Role) (m : Role → Downlink) : Conductor :=
  roles.foldl (fun c r => c.tell r (m r)) c

/-! ## Effects of the gate -/

/-- Sends an outcome to every expected role that is still registered, counts it, and delivers it to
the handle of the opening. -/
def publish (c : Conductor) (o : Outcome) : Conductor :=
  let c := c.tellAll o.recipients fun _ => .barrierResult o.name o.isSuccess
  let c := { c with
    tally := if o.isSuccess
      then { c.tally with barriersSucceeded := c.tally.barriersSucceeded + 1 }
      else { c.tally with barriersFailed := c.tally.barriersFailed + 1 } }
  if o.epoch ∈ c.waiters then
    { c with waiters := c.waiters.erase o.epoch, outcomes := c.outcomes ++ [o] }
  else c

/-- Disarms the timer if it belongs to the opening. -/
def disarm (c : Conductor) (epoch : Epoch) : Conductor :=
  if c.timer.any (·.epoch = epoch) then { c with timer := none } else c

/-- Carries out one effect. -/
def carryOut (c : Conductor) : GateEffect → Conductor
  | .announce name timeout recipients =>
    c.tellAll recipients fun r => .enterBarrier name timeout (some r)
  | .startTimer epoch timeout => { c with timer := some ⟨epoch, timerDue c.clock timeout⟩ }
  | .cancelTimer epoch => c.disarm epoch
  | .relayFailure name failedBy recipients =>
    c.tellAll recipients fun _ => .failBarrier name failedBy
  | .publish o => c.publish o

/-- Takes over the gate behind an operation and carries out the effects of that operation. -/
def settleGate (c : Conductor) (r : List GateEffect × Gate) : Conductor :=
  r.1.foldl carryOut { c with gate := r.2 }

/-! ## Ends of commands -/

/-- Counts a command as failed and delivers how. -/
def failCommand (c : Conductor) (id : Nat) (e : FaultError) : Conductor :=
  { c with
    tally := { c.tally with commandsFailed := c.tally.commandsFailed + 1 }
    verdicts := c.verdicts ++ [(id, .error e)] }

/-- Fails every command that is outstanding for a node, as its session is lost. -/
def failPending (c : Conductor) (node : Role) : Conductor :=
  let (entries, ledger) := c.ledger.drainNode node
  entries.foldl (fun c e => c.failCommand e.id (.sessionLost node)) { c with ledger }

/-- Fails every outstanding command. -/
def failAllPending (c : Conductor) : Conductor :=
  let (entries, ledger) := c.ledger.drainAll
  entries.foldl (fun c (node, e) => c.failCommand e.id (.sessionLost node)) { c with ledger }

end Conductor

end Rendezvous
