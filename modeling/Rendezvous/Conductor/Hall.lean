import Rendezvous.Conductor.Operations

/-!
# Sessions

The hall is a conductor together with its sessions. A session reads frames from its connection and
takes items off its line, one at a time and in either order, so there are two ways in which it can
go on (`takeInbound?`, `takeOutbound?`). Whatever ends a session, the conductor is told
(`conclude`).
-/

namespace Rendezvous

/-- Where a session is in its life. -/
inductive Stage where
  /-- The player has not said who it is; the deadline for that is a millisecond number. -/
  | awaitingHello (due : Nat)
  | active (role : Role)
  | ended (result : Except SessionError Unit)
  /-- The session was stopped from outside, and nothing was given up. -/
  | killed

/-- One session and its end of the connection. -/
structure Session where
  stage : Stage
  /-- The bytes that have arrived and are not read yet. -/
  arrived : List UInt8 := []
  /-- Whether the player has closed its end, so that nothing more arrives and nothing is read. -/
  peerGone : Bool := false
  /-- The messages that were written, in order. -/
  written : List Downlink := []

namespace Session

/-- Whether the session still runs. -/
def isLive (s : Session) : Bool :=
  match s.stage with
  | .awaitingHello _ | .active _ => true
  | .ended _ | .killed => false

/-- The role that the session is bound to. -/
def role? (s : Session) : Option Role :=
  match s.stage with
  | .active role => some role
  | _ => none

/-- What can be read next: a message or the error that ends the stream. -/
def inbound? (s : Session) (limit : Nat) : Option (Except WireError Uplink × Session) :=
  (Frame.next? limit s.peerGone s.arrived).map fun (frame, rest) =>
    (frame.bind Uplink.ofBody, { s with arrived := rest })

end Session

/-- A conductor and its sessions. -/
structure Hall where
  conductor : Conductor := {}
  sessions : Table SessionId Session := []
  nextSession : SessionId := 0

namespace Hall

/-- Changes a session. -/
def adjustSession (h : Hall) (s : SessionId) (f : Session → Session) : Hall :=
  { h with sessions := h.sessions.adjust s f }

/-- Puts the conductor behind an operation in its place. -/
def withConductor (h : Hall) (c : Conductor) : Hall := { h with conductor := c }

/-- Shuts the line of a session that runs no more. -/
def shutLine (h : Hall) (s : SessionId) : Hall :=
  h.withConductor { h.conductor with lines := h.conductor.lines.adjust s Line.shut }

/-! ## From outside -/

/-- A new connection. -/
def connect (h : Hall) : SessionId × Hall :=
  let s := h.nextSession
  let due := timerDue h.conductor.clock h.conductor.settings.helloTimeout
  (s, { conductor := h.conductor.attach s
        sessions := h.sessions.put s { stage := .awaitingHello due }
        nextSession := s + 1 })

/-- Takes in a connection from the network, unless there are as many as the settings allow: such a
connection is dropped. -/
def accept (h : Hall) : Option SessionId × Hall :=
  let tally := h.conductor.tally
  if h.conductor.settings.maxPlayers.toNat ≤ h.conductor.connections.length then
    (none, h.withConductor { h.conductor with
      tally := { tally with rejectedConnections := tally.rejectedConnections + 1 } })
  else
    let (s, h) := (h.withConductor { h.conductor with
      tally := { tally with connections := tally.connections + 1 } }).connect
    (some s, h)

/-- Bytes arrive at a session. -/
def deliver (h : Hall) (s : SessionId) (bytes : List UInt8) : Hall :=
  h.adjustSession s fun x => { x with arrived := x.arrived ++ bytes }

/-- The player closes its end of the connection. -/
def hangUp (h : Hall) (s : SessionId) : Hall :=
  h.adjustSession s fun x => { x with peerGone := true }

/-- A session is stopped where it stands. -/
def kill (h : Hall) (s : SessionId) : Hall :=
  match h.sessions.get? s with
  | some x =>
    if x.isLive then (h.adjustSession s fun x => { x with stage := .killed }).shutLine s else h
  | none => h

/-- Time passes. -/
def advance (h : Hall) (by_ : Nat) : Hall :=
  h.withConductor { h.conductor with clock := h.conductor.clock + by_ }

/-! ## The end of a session -/

/-- Counts an error of the protocol. -/
def countError (h : Hall) : Hall :=
  h.withConductor { h.conductor with
    tally := { h.conductor.tally with
      protocolErrors := h.conductor.tally.protocolErrors + 1 } }

/-- Ends a session with a result: an error is counted, and what the session held is given up. -/
def conclude (h : Hall) (s : SessionId) (result : Except SessionError Unit) : Hall :=
  let role := (h.sessions.get? s).bind Session.role?
  let h := match result with
    | .error _ => h.countError
    | .ok () => h
  let h := h.adjustSession s fun x => { x with stage := .ended result }
  (h.withConductor (h.conductor.sessionClosed s role)).shutLine s

/-! ## Messages from the player -/

/-- The first message must say who the player is. -/
def greet (h : Hall) (s : SessionId) : Uplink → Hall
  | .hello name address =>
    match h.conductor.handshake s name address with
    | (c, .ok role) => (h.withConductor c).adjustSession s fun x => { x with stage := .active role }
    | (c, .error e) => (h.withConductor c).conclude s (.error e)
  | m => h.conclude s (.error (.violation "Hello" m.kind))

/-- What the conductor does with a message of an active player. -/
def perform (c : Conductor) (s : SessionId) (role : Role) :
    Uplink → Conductor × Except SessionError Unit
  | .hello .. => (c, .error (.violation "no second Hello" "Hello"))
  | .enterBarrier name _ claimed => c.enterBarrier role name claimed
  | .failBarrier name claimed => c.failBarrier role name claimed
  | .getAddress node => (c.requestAddress s node, .ok ())
  | .addressReply node address => c.acknowledge role (.address node address)
  | .done => c.acknowledge role .done
  | .commandFailed reason => c.acknowledge role (.failed reason)

/-- A message of an active player. Errors of usage are counted and the session goes on. -/
def handle (h : Hall) (s : SessionId) (role : Role) (m : Uplink) : Hall :=
  match perform h.conductor s role m with
  | (c, .ok ()) => h.withConductor c
  | (c, .error e) =>
    if e.isFatal then (h.withConductor c).conclude s (.error e) else (h.withConductor c).countError

/-! ## Going on -/

/-- A live session reads what comes next, if something does. The end of the stream ends the
session in good order. -/
def takeInbound? (h : Hall) (s : SessionId) : Option Hall := do
  let x ← h.sessions.get? s
  if !x.isLive then none
  else
    let (inbound, x') ← x.inbound? h.conductor.settings.maxFrameSize.toNat
    let h := h.adjustSession s fun _ => x'
    match inbound, x.stage with
    | .error .connectionClosed, _ => some (h.conclude s (.ok ()))
    | .error e, _ => some (h.conclude s (.error (.wire e)))
    | .ok m, .active role => some (h.handle s role m)
    | .ok m, _ => some (h.greet s m)

/-- Writes a message to the player. -/
def writeMessage (x : Session) (m : Downlink) : Except WireError Session :=
  match Frame.write m.encode with
  | .error e => .error e
  | .ok _ => if x.peerGone then .error .brokenPipe else .ok { x with written := x.written ++ [m] }

/-- A live session takes the next item off its line, if there is one. -/
def takeOutbound? (h : Hall) (s : SessionId) : Option Hall := do
  let x ← h.sessions.get? s
  if !x.isLive then none
  else
    let item ← (h.conductor.line s).next?
    let h := h.withConductor { h.conductor with
      lines := h.conductor.lines.adjust s Line.advance }
    match item with
    | .close => some (h.conclude s (.ok ()))
    | .message m =>
      match writeMessage x m with
      | .error e => some (h.conclude s (.error (.wire e)))
      | .ok x' => some (h.adjustSession s fun _ => x')

/-- The deadline of a session whose player has not said who it is passes. -/
def expireHello? (h : Hall) (s : SessionId) : Option Hall := do
  let x ← h.sessions.get? s
  match x.stage with
  | .awaitingHello due =>
    if isDue h.conductor.clock due then
      some (h.conclude s (.error (.helloTimeout h.conductor.settings.helloTimeout)))
    else none
  | _ => none

/-- The barrier timer fires, if it is due. -/
def fireTimer? (h : Hall) : Option Hall := do
  let alarm ← h.conductor.timer
  if isDue h.conductor.clock alarm.due then
    some (h.withConductor (h.conductor.barrierTimeout alarm.epoch))
  else none

/-! ## Settling -/

/-- Something that can go on by itself, if anything can: timers first, then for each session what
it has to write before what it has to read. -/
def next? (h : Hall) : Option Hall :=
  h.fireTimer?.or <|
    h.sessions.findSome? fun (s, _) =>
      (h.expireHello? s).or ((h.takeOutbound? s).or (h.takeInbound? s))

/-- Goes on for at most `fuel` steps. -/
def run : (fuel : Nat) → Hall → Hall
  | 0, h => h
  | fuel + 1, h =>
    match h.next? with
    | some h' => run fuel h'
    | none => h

/-- More than the number of steps that can follow. Reading takes bytes, ends a session or fires the
timer, which happens at most `reads` times; each time every session gets two items at most, and an
answer for each address request. -/
def settleBound (h : Hall) : Nat :=
  let reads := h.sessions.total (·.arrived.length + 2) + 2
  let perRead := 3 * h.sessions.length + h.conductor.roster.interestCount + reads + 3
  let waiting := h.conductor.lines.total (·.waiting.length)
  reads * (perRead + 1) + waiting + 1

/-- Lets everything happen that can happen by itself. -/
def settle (h : Hall) : Hall := run h.settleBound h

end Hall

end Rendezvous
