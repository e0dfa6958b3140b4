import Rendezvous.Player.Booth
import Rendezvous.Transport.Scripted

/-!
# Dialogues

A dialogue plays a player on a scripted transport: the conductor's words are queued by hand. The
clock stands still except where a step moves it, and after every step everything happens that can
happen by itself before the step is answered. Calls go by labels. A step that needs the player has
no answer while there is none, nor has one that moves the clock to its end.
-/

namespace Rendezvous

namespace Dialogue

/-! ## Steps -/

/-- What is done in one step. -/
inductive Step where
  /-- Bytes from the conductor. -/
  | queue (bytes : List UInt8)
  | closeRemote
  | failConnect (detail : String)
  | failSend (detail : String)
  | failReceive (detail : String)
  | join
  /-- A call, with a label for its end. -/
  | call (label : String) (inquiry : Inquiry)
  | cancel (label : String)
  | failBarrier (name : String)
  | advance (span : Span)
  /-- Asks for what the fault handler recorded, and about one target of it. -/
  | faults (target : Address)
  | identity
  | close

/-! ## Answers -/

/-- The answer to what was done in a step. -/
inductive Result where
  | nothing
  | succeeded
  | failed (e : PlayerError)
  | recorded (r : Record) (target : Address)
  | identity (role : Role) (address : Address) (peer : Option String)

/-- How a call ends. -/
inductive Ending where
  | returned (result : Except PlayerError Finding)
  | cancelled

/-- What can be seen of a player. -/
structure View where
  connected : Bool
  results : List BarrierResult

/-- The answer to a step: its result, what can be seen behind it, and what happened since the last
step. -/
structure Entry where
  result : Result
  transport : Bool
  player : Option View
  sent : List Uplink
  joins : List (Except PlayerError Unit)
  done : List (String × Ending)

end Dialogue

open Dialogue

/-- The state of a dialogue. -/
structure Dialogue where
  booth : Booth Scripted Record
  /-- The calls that have not ended. -/
  labels : List (CallId × String) := []
  /-- How many of the sent messages were reported. -/
  seenSent : Nat := 0
  /-- How many of the attempts to join were reported. -/
  seenJoins : Nat := 0
  /-- How many of the ended calls were reported. -/
  seenEndings : Nat := 0

namespace Dialogue

/-- The manner of a handler that a text stands for: a text that names nothing else is the detail of
the fault with which the handler fails. -/
def mannerOf : Option String → Manner
  | none => .obeys
  | some "stall" => .stalls
  | some text =>
    let e : PlayerError := if text = "not connected" then .notConnected else .fault text
    .fails (e.message?.getD text)

/-- A dialogue of a player that has not joined. -/
def start (role : Role) (address : Address) (conductor : String) (patience : Option Span)
    (throttling disconnecting : Manner) : Dialogue where
  booth := {
    role, address, conductor
    patience := patience.getD (.ofSecs 10)
    transport := {}
    handler := .recorder throttling disconnecting
    memory := {} }

/-- Does something with the transport. -/
def withTransport (d : Dialogue) (f : Scripted → Scripted) : Dialogue :=
  { d with booth := { d.booth with transport := f d.booth.transport } }

/-- The result of something that either succeeds or fails. -/
def Result.of : Except PlayerError Unit → Result
  | .ok () => .succeeded
  | .error e => .failed e

/-- Whether a step can be played: some need the player, and the clock cannot be moved to its end. -/
def allows (d : Dialogue) : Step → Bool
  | .call .. | .failBarrier _ | .identity | .close => d.booth.hasPlayer
  | .advance span => d.booth.clock + span.toNanos < clockEnd
  | _ => true

/-- Does what a step says, with the ends of the calls that it cancels. -/
def act (d : Dialogue) : Step → Dialogue × Result × List (String × Ending)
  | .queue bytes => (d.withTransport (·.enqueue bytes), .nothing, [])
  | .closeRemote => (d.withTransport (·.closeRemote), .nothing, [])
  | .failConnect detail => (d.withTransport (·.failNextConnect detail), .nothing, [])
  | .failSend detail => (d.withTransport (·.failNextSend detail), .nothing, [])
  | .failReceive detail => (d.withTransport (·.failNextReceive detail), .nothing, [])
  | .join => ({ d with booth := d.booth.join }, .nothing, [])
  | .call label inquiry =>
    let (id, booth) := d.booth.begin inquiry
    ({ d with booth, labels := d.labels ++ [(id, label)] }, .nothing, [])
  | .cancel label =>
    let (dropped, labels) := d.labels.partition (·.2 = label)
    let booth := dropped.foldl (fun b p => b.cancel p.1) d.booth
    ({ d with booth, labels }, .nothing, dropped.map fun p => (p.2, .cancelled))
  | .failBarrier name =>
    let (result, booth) := d.booth.failBarrier name
    ({ d with booth }, .of result, [])
  | .advance span => ({ d with booth := d.booth.advance span.toNanos }, .nothing, [])
  | .faults target => (d, .recorded d.booth.memory target, [])
  | .identity => (d, .identity d.booth.role d.booth.address d.booth.transport.peer, [])
  | .close =>
    let (result, booth) := d.booth.close
    ({ d with booth, labels := [] }, .of result, d.labels.map fun p => (p.2, .cancelled))

/-- The ends of calls that were not reported, with their labels. -/
def newEndings (d : Dialogue) : List (String × Ending) :=
  (d.booth.endings.drop d.seenEndings).filterMap fun (id, result) =>
    (d.labels.find? (·.1 = id)).map fun p => (p.2, .returned result)

/-- Lets everything happen and answers the step. -/
def conclude (d : Dialogue) (result : Result) (cancelled : List (String × Ending)) :
    Dialogue × Entry :=
  let booth := d.booth.settle
  let d := { d with booth }
  let entry := {
    result
    transport := booth.transport.connected
    player := if booth.hasPlayer then some ⟨booth.isConnected, booth.player.results⟩ else none
    sent := (booth.transport.sent.drop d.seenSent).filterMap Uplink.decode?
    joins := booth.joins.drop d.seenJoins
    done := cancelled ++ d.newEndings }
  ({ d with
      labels := d.labels.filter fun p => !booth.endings.any (·.1 = p.1)
      seenSent := booth.transport.sent.length
      seenJoins := booth.joins.length
      seenEndings := booth.endings.length }, entry)

/-- Plays one step. -/
def play (d : Dialogue) (s : Step) : Option (Dialogue × Entry) :=
  if d.allows s then
    let (d, result, cancelled) := d.act s
    some (d.conclude result cancelled)
  else none

/-- Plays a script; there is no answer if a step of it has none. -/
def playAll (d : Dialogue) : List Step → Option (Dialogue × List Entry)
  | [] => some (d, [])
  | s :: rest => do
    let (d, entry) ← d.play s
    let (d, entries) ← d.playAll rest
    some (d, entry :: entries)

/-- The labels of the calls that have not ended, sorted. -/
def unresolved (d : Dialogue) : List String := (d.labels.map (·.2)).mergeSort fun a b => !(b < a)

end Dialogue

end Rendezvous
