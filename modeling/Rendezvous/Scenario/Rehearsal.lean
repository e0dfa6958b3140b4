import Rendezvous.Conductor.Hall
import Rendezvous.Conductor.Status

/-!
# Rehearsals

A rehearsal plays both sides of a conductor: the driver of a test, who opens barriers and issues
commands, and the clients at the far ends of the connections. The clock stands still except where a
step moves it, and after every step everything happens that can happen by itself before the step is
answered.

## Handles

What the driver waits for has a label. A handle ends when the conductor delivers its outcome or
verdict, or at its deadline; a verdict that is there wins over a deadline that has come.

## Steps without an answer

The clock cannot be moved to its end, and what is no request cannot be asked; a script with such a
step has no answer.
-/

namespace Rendezvous

namespace Rehearsal

/-! ## Steps -/

/-- What is done in one step. Sessions and handles go by labels. -/
inductive Step where
  | connect (session : String)
  /-- Bytes for a session. -/
  | send (session : String) (bytes : List UInt8)
  | hangUp (session : String)
  | kill (session : String)
  | openBarrier (name : String) (roles : List Role) (timeout : Option Span)
      (handle : Option String)
  /-- A command, with a deadline or none for the one who waits. -/
  | issue (cmd : Command) (handle : Option String) (wait : Option Span)
  /-- A command that is waited for with the deadline of the settings. -/
  | call (cmd : Command) (handle : String)
  | remove (node : Role)
  | advance (span : Span)
  | shutdown
  | query (role : Role)
  /-- A request for a page, as it is written. -/
  | request (method target : String)

/-! ## Handles -/

/-- What a handle waits for. -/
inductive Subject where
  | barrier (name : String) (epoch : Epoch)
  | command (handle : Conductor.CommandHandle)
  /-- A command of which only a reported address matters. -/
  | call (handle : Conductor.CommandHandle)

/-- A handle that waits. -/
structure Await where
  label : String
  subject : Subject
  /-- The span it waits and the millisecond at which that is over. -/
  limit : Option (Span × Nat) := none

/-- How a handle ends. -/
inductive Ending where
  | outcome (o : Outcome)
  | acknowledged (ack : CommandAck)
  | answered (address : Option Address)
  | failed (e : FaultError)

/-- The end of a call: a reported address if the command asks for one, else nothing. -/
def endOfCall (handle : Conductor.CommandHandle) : Verdict → Ending
  | .error e => .failed e
  | .ok (.address a) => .answered (if handle.kind = .getAddress then some a else none)
  | .ok .done =>
    if handle.kind = .getAddress then .failed (.sessionLost handle.node) else .answered none

/-- The end of a waited-for command. -/
def endOfCommand : Verdict → Ending
  | .error e => .failed e
  | .ok ack => .acknowledged ack

/-- What the conductor has delivered for a handle. -/
def Await.delivered? (a : Await) (c : Conductor) : Option Ending :=
  match a.subject with
  | .barrier _ epoch => (c.outcome? epoch).map .outcome
  | .command handle => (c.verdict? handle).map endOfCommand
  | .call handle => (c.verdict? handle).map (endOfCall handle)

/-- The command whose deadline has come, and the end of the handle by that. -/
def Await.expired? (a : Await) (now : Nat) : Option (Conductor.CommandHandle × Span) :=
  match a.subject, a.limit with
  | .command handle, some (after, due) | .call handle, some (after, due) =>
    if isDue now due then some (handle, after) else none
  | _, _ => none

/-- What becomes of a handle when the conductor is gone. -/
def Await.abandoned (a : Await) : Ending :=
  match a.subject with
  | .barrier name epoch => .outcome ⟨name, epoch, some .shutdown, []⟩
  | .command handle | .call handle => .failed (.sessionLost handle.node)

/-! ## Clients -/

/-- The far end of a connection. -/
structure Client where
  label : String
  id : SessionId
  /-- Whether the client has not closed its end. -/
  isOpen : Bool := true
  /-- How many of the written messages were reported. -/
  seen : Nat := 0
  /-- Whether the end of the session was reported. -/
  sawEnd : Bool := false

/-- What a client receives: messages, and at last perhaps the end of the stream. -/
structure Received where
  messages : List Downlink
  closed : Bool

/-- How a session ended. -/
inductive SessionEnd where
  | returned (result : Except SessionError Unit)
  | killed

/-- How a session ended, if it has. -/
def sessionEnd? (x : Session) : Option SessionEnd :=
  match x.stage with
  | .ended result => some (.returned result)
  | .killed => some .killed
  | _ => none

/-! ## Answers -/

/-- The answer to what was done in a step. -/
inductive Result where
  | nothing
  | sent
  /-- The session has ended. -/
  | gone
  | opened (name : String) (epoch : Epoch)
  | refused (e : GateRefusal)
  | issued (handle : Conductor.CommandHandle)
  | faulted (e : FaultError)
  | state (roles : List Role) (closing : Bool) (connections : Nat) (address : Option Address)
  | page (r : Response)

/-- The answer to a step: its result, a snapshot, and what happened since the last step. -/
structure Entry where
  result : Result
  status : Status
  received : List (String × Received)
  ended : List (String × SessionEnd)
  done : List (String × Ending)

end Rehearsal

open Rehearsal

/-- The state of a rehearsal. -/
structure Rehearsal where
  hall : Hall
  clients : List Client := []
  awaits : List Await := []

namespace Rehearsal

/-- A rehearsal with a new conductor. -/
def start (settings : Settings) : Rehearsal := { hall := { conductor := { settings } } }

/-- The client with a label; of several the newest. -/
def client? (r : Rehearsal) (label : String) : Option Client :=
  r.clients.find? (·.label = label)

/-- Does something with the session of a client. -/
def onSession (r : Rehearsal) (label : String) (f : Hall → SessionId → Hall) : Rehearsal :=
  match r.client? label with
  | some x => { r with hall := f r.hall x.id }
  | none => r

/-- Whether the session of a client still runs. -/
def isLive (r : Rehearsal) (label : String) : Bool :=
  ((r.client? label).bind fun x => r.hall.sessions.get? x.id).any Session.isLive

/-- Adds a handle, if the driver keeps it. -/
def await (r : Rehearsal) (label : Option String) (subject : Subject)
    (wait : Option Span := none) : Rehearsal :=
  match label with
  | none => r
  | some label =>
    let limit := wait.bind fun d => (deadline? r.hall.conductor.clock d).map (d, ·)
    { r with awaits := r.awaits ++ [⟨label, subject, limit⟩] }

/-- Issues a command and keeps the handle of a successful one. -/
def issueFor (r : Rehearsal) (cmd : Command) :
    Rehearsal × Except FaultError Conductor.CommandHandle :=
  let (c, result) := r.hall.conductor.issue cmd
  ({ r with hall := r.hall.withConductor c }, result)

/-! ## What happens by itself -/

/-- The ends of the handles that end now, and the conductor behind them. -/
def resolve : List Await → Conductor → List Await × List (String × Ending) × Conductor
  | [], c => ([], [], c)
  | a :: rest, c =>
    match a.delivered? c with
    | some e =>
      let (awaits, done, c) := resolve rest c
      (awaits, (a.label, e) :: done, c)
    | none =>
      match a.expired? c.clock with
      | some (handle, after) =>
        let c := match handle.id with
          | some id => c.cancelCommand handle.node id after
          | none => c
        let (awaits, done, c) := resolve rest c
        (awaits, (a.label, .failed (.timeout handle.node handle.kind after)) :: done, c)
      | none =>
        let (awaits, done, c) := resolve rest c
        (a :: awaits, done, c)

/-- What a client has received since the last report. -/
def Client.news (x : Client) (s : Session) : Received :=
  ⟨s.written.drop x.seen, !x.sawEnd && (sessionEnd? s).isSome⟩

/-- Marks everything as reported. -/
def Client.caughtUp (x : Client) (s : Session) : Client :=
  { x with seen := s.written.length, sawEnd := (sessionEnd? s).isSome }

/-- What all clients have received, without those that received nothing. -/
def received (h : Hall) (clients : List Client) : List (String × Received) :=
  clients.filterMap fun x => do
    let s ← h.sessions.get? x.id
    let news := x.news s
    if x.isOpen ∧ (news.closed ∨ news.messages ≠ []) then some (x.label, news) else none

/-- The sessions whose end has not been reported. -/
def endings (h : Hall) (clients : List Client) : List (String × SessionEnd) :=
  clients.filterMap fun x => do
    let s ← h.sessions.get? x.id
    if x.sawEnd then none else (sessionEnd? s).map (x.label, ·)

/-- Lets everything happen and answers the step. -/
def conclude (r : Rehearsal) (result : Result) : Rehearsal × Entry :=
  let hall := r.hall.settle
  let (awaits, done, c) := resolve r.awaits hall.conductor
  let hall := hall.withConductor c
  let clients := r.clients.map fun x =>
    match hall.sessions.get? x.id with
    | some s => x.caughtUp s
    | none => x
  ({ hall, clients, awaits },
    { result, status := c.status, done,
      received := received hall r.clients
      ended := endings hall r.clients })

/-! ## Playing -/

/-- Whether a step can be played. -/
def allows (r : Rehearsal) : Step → Bool
  | .advance span => r.hall.conductor.clock + span.toNanos < clockEnd
  | .request method target => (Request.read? method target).isSome
  | _ => true

/-- Does what a step says. -/
def act (r : Rehearsal) : Step → Rehearsal × Result
  | .connect label =>
    let (id, hall) := r.hall.connect
    ({ r with hall, clients := { label, id } :: r.clients }, .nothing)
  | .send label bytes =>
    if r.isLive label then (r.onSession label fun h s => h.deliver s bytes, .sent) else (r, .gone)
  | .hangUp label =>
    let r := r.onSession label Hall.hangUp
    ({ r with clients := r.clients.map fun x =>
        if x.label = label then { x with isOpen := false } else x }, .nothing)
  | .kill label => (r.onSession label Hall.kill, .nothing)
  | .openBarrier name roles timeout handle =>
    match r.hall.conductor.openBarrier name roles timeout with
    | (c, .ok epoch) =>
      (await { r with hall := r.hall.withConductor c } handle (.barrier name epoch) none,
        .opened name epoch)
    | (c, .error e) => ({ r with hall := r.hall.withConductor c }, .refused e)
  | .issue cmd handle wait =>
    match r.issueFor cmd with
    | (r, .ok h) => (r.await handle (.command h) wait, .issued h)
    | (r, .error e) => (r, .faulted e)
  | .call cmd handle =>
    match r.issueFor cmd with
    | (r, .ok h) => (r.await handle (.call h) r.hall.conductor.settings.commandTimeout, .nothing)
    | (r, .error e) => (r, .faulted e)
  | .remove node =>
    ({ r with hall := r.hall.withConductor (r.hall.conductor.remove node) }, .nothing)
  | .advance span => ({ r with hall := r.hall.advance span.toNanos }, .nothing)
  | .shutdown => ({ r with hall := r.hall.withConductor r.hall.conductor.shutdown }, .nothing)
  | .query role =>
    let c := r.hall.conductor
    (r, .state c.roster.roles c.closing c.connections.length (c.roster.addressOf role))
  | .request method target =>
    match Request.read? method target with
    | some request => (r, .page (r.hall.conductor.respond request))
    | none => (r, .nothing)

/-- Plays one step. -/
def play (r : Rehearsal) (s : Step) : Option (Rehearsal × Entry) :=
  if r.allows s then
    match s, r.act s with
    | .call _ label, (r, .faulted e) =>
      let (r, entry) := r.conclude .nothing
      some (r, { entry with done := (label, .failed e) :: entry.done })
    | _, (r, result) => some (r.conclude result)
  else none

/-- Plays a script; there is no answer if a step of it has none. -/
def playAll (r : Rehearsal) : List Step → Option (Rehearsal × List Entry)
  | [] => some (r, [])
  | s :: rest => do
    let (r, entry) ← r.play s
    let (r, entries) ← r.playAll rest
    some (r, entry :: entries)

/-- The labels of the handles that still wait, sorted. -/
def unresolved (r : Rehearsal) : List String :=
  (r.awaits.map (·.label)).mergeSort fun a b => !(b < a)

/-- Whether something keeps the conductor: a session that runs or a call that is under way. -/
def isBusy (r : Rehearsal) : Bool :=
  r.hall.sessions.any (·.2.isLive) || r.awaits.any fun a => match a.subject with
    | .call _ => true
    | _ => false

/-- How the waiting handles end when the conductor is given up; as long as something keeps it, none
ends. -/
def dropped (r : Rehearsal) : List (String × Option Ending) :=
  r.awaits.map fun a => (a.label, if r.isBusy then none else some a.abandoned)

end Rehearsal

end Rendezvous
