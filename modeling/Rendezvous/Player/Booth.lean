import Rendezvous.Player.Basic
import Rendezvous.Player.Handler
import Rendezvous.Time.Clock

/-!
# Booths

A booth is a player with all that it works with: its transport, its fault handler, the listener that
receives what the conductor says, and the calls that are under way. The listener and each of the
calls go on one step at a time and in any order (`listen?`, `expireGreeting?`, `proceed?`).

A confirmed message is answered by the step that receives it, before anything else is received.
-/

namespace Rendezvous

/-- Where the listener of a booth is. -/
inductive Listener where
  /-- There is no player: it has not joined, could not, or was closed. -/
  | absent
  /-- The greeting was sent and the reply has not come; its deadline, if it has one, is a
  millisecond number. -/
  | greeting (due : Option Nat)
  | listening
  /-- The fault handler does not come back. -/
  | stalled
  /-- Nothing more will be received, and the player does not know it yet. -/
  | leaving
  /-- The player has lost the connection. -/
  | done
deriving DecidableEq, Repr, Inhabited

/-- What a call asks for. -/
inductive Inquiry where
  | barrier (name : String) (timeout : Option Span)
  | address (node : Role)
deriving DecidableEq, Repr, Inhabited

/-- Where a call is. -/
inductive CallStage where
  /-- It waits already, and nothing was sent to the conductor. -/
  | sending
  /-- It waits, for a span and until a millisecond if it has a deadline. -/
  | waiting (limit : Option (Span × Nat))
  /-- It fails, and has not stopped to wait. -/
  | failing (e : PlayerError)
deriving DecidableEq, Repr, Inhabited

/-- A call that is under way. -/
structure Call where
  id : CallId
  inquiry : Inquiry
  stage : CallStage := .sending
deriving DecidableEq, Repr, Inhabited

/-- What a call that succeeds brings. -/
inductive Finding where
  | passed
  | address (a : Address)
deriving DecidableEq, Repr, Inhabited

/-- A player with its surroundings. -/
structure Booth (τ σ : Type) where
  role : Role
  address : Address
  /-- Where the conductor is. -/
  conductor : String
  /-- How long the reply to the greeting may take. -/
  patience : Span := .ofSecs 10
  transport : τ
  handler : FaultHandler σ
  /-- The memory of the handler. -/
  memory : σ
  /-- Nanoseconds since the start. -/
  clock : Nat := 0
  listener : Listener := .absent
  player : Player := {}
  calls : List Call := []
  nextCall : CallId := 0
  /-- How the attempts to join ended, in order. -/
  joins : List (Except PlayerError Unit) := []
  /-- The calls that have ended and how, in order. -/
  endings : List (CallId × Except PlayerError Finding) := []

namespace Booth

variable {τ σ : Type} [Transport τ]

/-- Whether there is a player, connected or not. -/
def hasPlayer (b : Booth τ σ) : Bool :=
  match b.listener with
  | .absent | .greeting _ => false
  | _ => true

/-- Whether the player and its transport are connected. -/
def isConnected (b : Booth τ σ) : Bool := b.player.connected && Transport.isConnected b.transport

/-- Sends a message to the conductor. -/
def send (b : Booth τ σ) (m : Uplink) : Except PlayerError Unit × Booth τ σ :=
  match Transport.send b.transport m.encode with
  | (.ok (), transport) => (.ok (), { b with transport })
  | (.error e, transport) => (.error (.transport e), { b with transport })

/-- Closes the connection, whatever that leads to. -/
def closeTransport (b : Booth τ σ) : Booth τ σ :=
  { b with transport := (Transport.close b.transport).2 }

/-- Time passes. -/
def advance (b : Booth τ σ) (by_ : Nat) : Booth τ σ := { b with clock := b.clock + by_ }

/-! ## Joining -/

/-- An attempt to join ends without a player. -/
def failToJoin (b : Booth τ σ) (e : PlayerError) : Booth τ σ :=
  { b with listener := .absent, joins := b.joins ++ [.error e] }

/-- Connects to the conductor and says who the player is. -/
def join (b : Booth τ σ) : Booth τ σ :=
  match Transport.connect b.transport b.conductor with
  | (.error e, transport) => { b with transport }.failToJoin (.transport e)
  | (.ok (), transport) =>
    match { b with transport }.send (.hello b.role.name b.address) with
    | (.error e, b) => b.failToJoin e
    | (.ok (), b) => { b with listener := .greeting (deadline? b.clock b.patience) }

/-- Takes the reply to the greeting: only `Done` makes a player. -/
def welcome (b : Booth τ σ) (body : List UInt8) : Booth τ σ :=
  match Downlink.ofBody body with
  | .error e => b.failToJoin (.wire e)
  | .ok .done => { b with listener := .listening, player := {}, joins := b.joins ++ [.ok ()] }
  | .ok m => b.closeTransport.failToJoin (.violation "Done" m.kind)

/-- The deadline of the reply to the greeting passes. -/
def expireGreeting? (b : Booth τ σ) : Option (Booth τ σ) :=
  match b.listener with
  | .greeting (some due) =>
    if isDue b.clock due then some (b.failToJoin (.handshakeTimeout b.patience)) else none
  | _ => none

/-! ## Listening -/

/-- Answers the conductor. A reply that cannot be sent ends the listening. -/
def reply (b : Booth τ σ) (m : Uplink) : Booth τ σ :=
  match b.send m with
  | (.ok (), b) => b
  | (.error _, b) => { b with listener := .leaving }

/-- Acknowledges a command that the handler has met. -/
def acknowledge (b : Booth τ σ) : Option (Except String Unit × σ) → Booth τ σ
  | none => { b with listener := .stalled }
  | some (.ok (), memory) => { b with memory }.reply .done
  | some (.error reason, memory) => { b with memory }.reply (.commandFailed reason)

/-- Goes down: acknowledged before the handler is called, as the node may not survive that. -/
def terminate (b : Booth τ σ) (exit : Exit) : Booth τ σ :=
  let b := (b.send .done).2
  match b.handler.terminate b.memory exit with
  | none => { b with listener := .stalled }
  | some memory => { { b with memory }.closeTransport with listener := .leaving }

/-- What the player does with a message from the conductor. -/
def hear (b : Booth τ σ) : Downlink → Booth τ σ
  | .done | .enterBarrier .. | .failBarrier .. => b
  | .barrierResult name success => { b with player := b.player.barrierResolved name success }
  | .addressReply node address => { b with player := b.player.addressKnown node address }
  | .getAddress _ => b.reply (.addressReply b.role b.address)
  | .throttle target direction rate =>
    b.acknowledge (b.handler.throttle b.memory target direction rate)
  | .disconnect target abort => b.acknowledge (b.handler.disconnect b.memory target abort)
  | .terminate exit => b.terminate exit

/-- What the listener does with what it receives. An error and bytes that are no message end the
listening. -/
def receive (b : Booth τ σ) : Except TransportError (List UInt8) → Booth τ σ
  | .error _ => { b with listener := .leaving }
  | .ok body =>
    match Downlink.ofBody body with
    | .error _ => { b with listener := .leaving }
    | .ok m => b.hear m

/-- The listener goes on, if it can. -/
def listen? (b : Booth τ σ) : Option (Booth τ σ) :=
  match b.listener with
  | .greeting _ =>
    (Transport.receive? b.transport).map fun
      | (.error e, transport) => { b with transport }.failToJoin (.transport e)
      | (.ok body, transport) => { b with transport }.welcome body
  | .listening =>
    (Transport.receive? b.transport).map fun (r, transport) => { b with transport }.receive r
  | .leaving => some { b with listener := .done, player := b.player.disconnect }
  | .absent | .stalled | .done => none

/-! ## Calls -/

/-- Begins a call: if it may wait, it waits from here on. -/
def begin (b : Booth τ σ) (inquiry : Inquiry) : CallId × Booth τ σ :=
  let id := b.nextCall
  let b := { b with nextCall := id + 1 }
  let waiting := match inquiry with
    | .barrier name _ => b.player.waitAtBarrier id name
    | .address node => b.player.waitForAddress id node
  match waiting with
  | .error e => (id, { b with endings := b.endings ++ [(id, .error e)] })
  | .ok player => (id, { b with player, calls := b.calls ++ [{ id, inquiry }] })

/-- The message that asks the conductor for what a call is about. -/
def request (b : Booth τ σ) : Inquiry → Uplink
  | .barrier name timeout => .enterBarrier name timeout (some b.role)
  | .address node => .getAddress node

/-- Puts a call into another stage. -/
def setStage (b : Booth τ σ) (id : CallId) (stage : CallStage) : Booth τ σ :=
  { b with calls := b.calls.map fun c => if c.id = id then { c with stage } else c }

/-- Ends a call. -/
def finish (b : Booth τ σ) (id : CallId) (result : Except PlayerError Finding) : Booth τ σ :=
  { b with calls := b.calls.filter (·.id ≠ id), endings := b.endings ++ [(id, result)] }

/-- Drops a call where it stands: what waits for it goes on waiting. -/
def cancel (b : Booth τ σ) (id : CallId) : Booth τ σ :=
  { b with calls := b.calls.filter (·.id ≠ id) }

/-- The deadline of a call that waits from now on. -/
def limitOf (b : Booth τ σ) : Inquiry → Option (Span × Nat)
  | .barrier _ timeout => timeout.bind fun d => (deadline? b.clock d).map (d, ·)
  | .address _ => none

/-- What a call has come to, if it has been served or nobody will serve it. -/
def found? (b : Booth τ σ) (c : Call) : Option (Except PlayerError Finding) :=
  match c.inquiry with
  | .barrier name _ =>
    match b.player.barrierWait c.id with
    | .served true => some (.ok .passed)
    | .served false => some (.error (.barrierFailed name))
    | .pending => none
    | .closed => some (.error .notConnected)
  | .address _ =>
    match b.player.addressWait c.id with
    | .served a => some (.ok (.address a))
    | .pending => none
    | .closed => some (.error .notConnected)

/-- The error of a call whose deadline has passed. -/
def overdue? (b : Booth τ σ) (c : Call) : Option PlayerError :=
  match c.inquiry, c.stage with
  | .barrier name _, .waiting (some (after, due)) =>
    if isDue b.clock due then some (.barrierTimeout name after) else none
  | _, _ => none

/-- A call goes on, if it can. What it was served wins over a deadline that has passed, and a call
at a barrier that fails stops to wait there. -/
def proceed? (b : Booth τ σ) (c : Call) : Option (Booth τ σ) :=
  match c.stage with
  | .sending =>
    match b.send (b.request c.inquiry), c.inquiry with
    | (.ok (), b), i => some (b.setStage c.id (.waiting (b.limitOf i)))
    | (.error e, b), .barrier .. => some (b.setStage c.id (.failing e))
    | (.error e, b), .address _ => some (b.finish c.id (.error e))
  | .waiting _ =>
    match b.found? c with
    | some result => some (b.finish c.id result)
    | none => (b.overdue? c).map fun e => b.setStage c.id (.failing e)
  | .failing e =>
    match c.inquiry with
    | .barrier name _ =>
      some ({ b with player := b.player.leaveBarrier name }.finish c.id (.error e))
    | .address _ => some (b.finish c.id (.error e))

/-- Tells the conductor that a barrier has failed. -/
def failBarrier (b : Booth τ σ) (name : String) : Except PlayerError Unit × Booth τ σ :=
  b.send (.failBarrier name b.role)

/-- Closes the connection and gives the player up. -/
def close (b : Booth τ σ) : Except PlayerError Unit × Booth τ σ :=
  let (result, transport) := Transport.close b.transport
  (result.mapError .transport,
    { b with transport, listener := .absent, player := b.player.disconnect, calls := [] })

/-! ## Settling -/

/-- Something that can go on by itself, if anything can: the listener first, then the calls in the
order in which they began. -/
def next? (b : Booth τ σ) : Option (Booth τ σ) :=
  b.listen?.or (b.expireGreeting?.or (b.calls.findSome? b.proceed?))

/-- Goes on for at most `fuel` steps. -/
def run : (fuel : Nat) → Booth τ σ → Booth τ σ
  | 0, b => b
  | fuel + 1, b =>
    match b.next? with
    | some b' => run fuel b'
    | none => b

/-- More than the number of steps that can follow: each step of the listener receives something or
is one of its last three, and a call takes three at most. -/
def settleBound (b : Booth τ σ) : Nat :=
  Transport.backlog b.transport + 3 * b.calls.length + 4

/-- Lets everything happen that can happen by itself. -/
def settle (b : Booth τ σ) : Booth τ σ := run b.settleBound b

end Booth

end Rendezvous
