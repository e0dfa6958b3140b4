import Rendezvous.Conductor.Basic

/-!
# Operations of the conductor

An operation that can be refused answers with the conductor behind it and with its result, and so do
those of its roster, its gate and its ledger: what they come to is taken over whether they refused
or not.
-/

namespace Rendezvous.Conductor

/-! ## Connections -/

/-- Takes in a new connection. -/
def attach (c : Conductor) (s : SessionId) : Conductor :=
  { c with connections := c.connections ++ [s], lines := c.lines.put s {} }

/-- Registers a player under the role it names. It is told `Done`, and those who waited for the
address of this role are told it. -/
def handshake (c : Conductor) (s : SessionId) (name : String) (address : Address) :
    Conductor × Except SessionError Role :=
  if name = "" then (c, .error (.violation "non-empty role name" "Hello"))
  else if c.closing then (c, .error .shuttingDown)
  else match c.roster.register ⟨name⟩ address s with
    | (roster, .error e) => ({ c with roster }, .error (.duplicateRole e))
    | (roster, .ok waiting) =>
      let c := { c with
        roster
        tally := { c.tally with handshakes := c.tally.handshakes + 1 } }
      let c := c.post s (.message .done)
      (waiting.foldl (fun c h => c.post h (.message (.addressReply ⟨name⟩ address))) c, .ok ⟨name⟩)

/-- Gives up everything that a closed session held. A role that is no longer bound to this session
is left alone. -/
def sessionClosed (c : Conductor) (s : SessionId) (role : Option Role) : Conductor :=
  let c := { c with
    connections := c.connections.erase s
    roster := c.roster.dropInterest (· = s) }
  match role with
  | none => c
  | some role =>
    match c.roster.unregister role (· = s) with
    | (roster, none) => { c with roster }
    | (roster, some _) =>
      let c := { c with roster }
      (c.settleGate (c.gate.departed role (.sessionLost role))).failPending role

/-! ## Barriers -/

/-- Opens a barrier. Without a deadline of its own it gets the one of the settings. -/
def openBarrier (c : Conductor) (name : String) (roles : List Role) (timeout : Option Span) :
    Conductor × Except GateRefusal Epoch :=
  match c.gate.openBarrier name roles (timeout.or c.settings.defaultTimeout)
      c.roster.isRegistered with
  | (gate, .error e) => ({ c with gate }, .error e)
  | (gate, .ok (epoch, effects)) =>
    let c := { c with
      waiters := c.waiters ++ [epoch]
      tally := { c.tally with barriersOpened := c.tally.barriersOpened + 1 } }
    (c.settleGate (effects, gate), .ok epoch)

/-- A session speaks only for its own role. -/
def checkClaim (session : Role) (claimed : Option Role) : Except SessionError Unit :=
  match claimed with
  | some claimed => if claimed = session then .ok () else .error (.roleMismatch session claimed)
  | none => .ok ()

/-- A player arrives at a barrier. -/
def enterBarrier (c : Conductor) (role : Role) (name : String) (claimed : Option Role) :
    Conductor × Except SessionError Unit :=
  match checkClaim role claimed with
  | .error e => (c, .error e)
  | .ok () =>
    match c.gate.enter role name with
    | (gate, .error e) => ({ c with gate }, .error (.barrier e))
    | (gate, .ok effects) => (c.settleGate (effects, gate), .ok ())

/-- A player gives a barrier up. -/
def failBarrier (c : Conductor) (role : Role) (name : String) (claimed : Role) :
    Conductor × Except SessionError Unit :=
  match checkClaim role (some claimed) with
  | .error e => (c, .error e)
  | .ok () =>
    match c.gate.fail role name with
    | (gate, .error e) => ({ c with gate }, .error (.barrier e))
    | (gate, .ok effects) => (c.settleGate (effects, gate), .ok ())

/-- The timer of an opening fires, perhaps late. -/
def barrierTimeout (c : Conductor) (epoch : Epoch) : Conductor :=
  let c := c.disarm epoch
  c.settleGate (c.gate.timeout epoch)

/-! ## Addresses -/

/-- Answers a session that asks for the address of a role, now or as soon as it is registered. -/
def requestAddress (c : Conductor) (s : SessionId) (node : Role) : Conductor :=
  match c.roster.addressOf node with
  | some address => c.post s (.message (.addressReply node address))
  | none => { c with roster := c.roster.park node s }

/-! ## Commands -/

/-- Forgets a node: its role becomes free, what waits on it fails, its session is told to close. -/
def remove (c : Conductor) (node : Role) : Conductor :=
  match c.roster.remove node with
  | (roster, none) => { c with roster }
  | (roster, some member) =>
    let c := { c with roster }
    let c := (c.settleGate (c.gate.departed node (.removed node))).failPending node
    c.post member.handle .close

/-- What the driver of a test keeps of a command it issued. -/
structure CommandHandle where
  node : Role
  kind : CommandKind
  /-- The id of the outstanding command; nothing if it is complete already. -/
  id : Option Nat
deriving DecidableEq, Repr, Inhabited

/-- The address of a link's other end. -/
def resolveTarget (c : Conductor) (target : Role) : Except FaultError Address :=
  match c.roster.addressOf target with
  | some a => .ok a
  | none => .error (.unknownRole target)

/-- Records a command and queues its message for the session of the node; a command that cannot be
queued is taken back. -/
def dispatch (c : Conductor) (s : SessionId) (node : Role) (kind : CommandKind) (m : Downlink) :
    Conductor × Except FaultError CommandHandle :=
  match c.ledger.insert node kind () with
  | (ledger, .error (.alreadyPending node kind)) =>
    ({ c with ledger }, .error (.commandPending node kind))
  | (ledger, .error (.unconfirmed kind)) => ({ c with ledger }, .error (.send node kind))
  | (ledger, .ok id) =>
    if (c.line s).isOpen then
      let c := { c with
        ledger
        tally := { c.tally with commandsIssued := c.tally.commandsIssued + 1 } }
      (c.post s (.message m), .ok ⟨node, kind, some id⟩)
    else ({ c with ledger := (ledger.cancel node id).1 }, .error (.send node kind))

/-- Sends a command to its node. `remove` is complete at once and is told to nobody. -/
def issue (c : Conductor) (cmd : Command) : Conductor × Except FaultError CommandHandle :=
  if cmd.kind = .remove then (c.remove cmd.node, .ok ⟨cmd.node, .remove, none⟩)
  else match c.roster.members.get? cmd.node with
    | none => (c, .error (.unknownRole cmd.node))
    | some member =>
      match cmd.wireForm c.resolveTarget with
      | .error e => (c, .error e)
      | .ok none => (c, .ok ⟨cmd.node, cmd.kind, none⟩)
      | .ok (some m) => c.dispatch member.handle cmd.node cmd.kind m

/-- What a player acknowledges with. -/
inductive Ack where
  | done
  | failed (reason : String)
  | address (node : Role) (a : Address)
deriving DecidableEq, Repr, Inhabited

namespace Ack

/-- The acknowledgement that this stands for; a failure stands in for `done`. -/
def kind : Ack → AckKind
  | done | failed _ => .done
  | address .. => .addressReply

/-- The name of the message it came as. -/
def name : Ack → String
  | done => "Done"
  | failed _ => "CommandFailed"
  | address .. => "AddressReply"

end Ack

/-- Delivers the end of an acknowledged command. -/
def concludeCommand (c : Conductor) (role : Role) (e : LedgerEntry Unit) : Ack → Conductor
  | .failed reason => c.failCommand e.id (.rejected role e.kind reason)
  | .done => { c with
    tally := { c.tally with commandsAcked := c.tally.commandsAcked + 1 }
    verdicts := c.verdicts ++ [(e.id, .ok .done)] }
  | .address _ a => { c with
    tally := { c.tally with commandsAcked := c.tally.commandsAcked + 1 }
    verdicts := c.verdicts ++ [(e.id, .ok (.address a))] }

/-- The role that an acknowledgement speaks for, if it names one. -/
def Ack.claimed : Ack → Option Role
  | address node _ => some node
  | _ => none

/-- A player acknowledges the oldest of its commands that waits for this. -/
def acknowledge (c : Conductor) (role : Role) (ack : Ack) :
    Conductor × Except SessionError Unit :=
  match checkClaim role ack.claimed with
  | .error e => (c, .error e)
  | .ok () =>
    match c.ledger.complete role ack.kind with
    | (ledger, none) => ({ c with ledger }, .error (.unsolicited role ack.name))
    | (ledger, some e) => (concludeCommand { c with ledger } role e ack, .ok ())

/-- The one who waited for a command gives up: the command is no longer outstanding, and a late
acknowledgement finds nothing. -/
def cancelCommand (c : Conductor) (node : Role) (id : Nat) (after : Span) : Conductor :=
  match c.ledger.cancel node id with
  | (ledger, none) => { c with ledger }
  | (ledger, some e) => failCommand { c with ledger } e.id (.timeout node e.kind after)

/-! ## Deliveries -/

/-- The outcome of an opening, if it was delivered. -/
def outcome? (c : Conductor) (epoch : Epoch) : Option Outcome :=
  c.outcomes.find? (·.epoch = epoch)

/-- How a command ended, if it has. -/
def verdict? (c : Conductor) (handle : CommandHandle) : Option Verdict :=
  match handle.id with
  | none => some (.ok .done)
  | some id => (c.verdicts.find? (·.1 = id)).map (·.2)

/-! ## The end -/

/-- Shuts the conductor down: the awaited barrier and every outstanding command fail, every role is
forgotten, and every session is told to close. A second time nothing happens. -/
def shutdown (c : Conductor) : Conductor :=
  if c.closing then c
  else
    let c := { c with closing := true }
    let c := c.settleGate (c.gate.abort .shutdown)
    let c := failAllPending { c with timer := none }
    let c := { c with roster := c.roster.drain.2 }
    c.connections.foldl (fun c s => c.post s .close) c

end Rendezvous.Conductor
