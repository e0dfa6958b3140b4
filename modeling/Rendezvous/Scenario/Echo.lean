import Rendezvous.Transport.Socket

/-!
# Echoes

An echo plays with a socket against a listener that sends the first frames of each connection back,
so many as it was told, and then ends the stream. The listener may be out of reach.
-/

namespace Rendezvous

/-- The listener at the other end of one connection. -/
structure Echoer where
  /-- The bytes that have arrived and were not answered. -/
  heard : List UInt8 := []
  /-- How many frames will still be sent back. -/
  left : Nat

namespace Echoer

/-- Sends back every whole frame that has arrived, as long as some are left: the bytes to send, and
the listener behind that. -/
def answer : (left : Nat) → List UInt8 → List UInt8 × Echoer
  | 0, heard => ([], { heard, left := 0 })
  | left + 1, heard =>
    match Frame.next? Frame.maxSize false heard with
    | some (.ok body, rest) =>
      let (bytes, e) := answer left rest
      (Frame.ofBody body ++ bytes, e)
    | _ => ([], { heard, left := left + 1 })

/-- Takes bytes in and answers them. -/
def hear (e : Echoer) (bytes : List UInt8) : List UInt8 × Echoer := answer e.left (e.heard ++ bytes)

end Echoer

namespace Echo

/-- What is done in one step. -/
inductive Step where
  | connect
  /-- Connects to an address at which nobody takes connections. -/
  | connectNowhere
  | send (bytes : List UInt8)
  | receive
  | close

/-- The answer to a step. -/
inductive Result where
  | succeeded
  | received (bytes : List UInt8)
  | failed (e : TransportError)
  /-- There is nothing to receive, and the stream has not ended. -/
  | waits

/-- The answer to a step, and whether the socket is connected behind it. -/
structure Entry where
  result : Result
  connected : Bool

end Echo

open Echo

/-- The state of an echo. -/
structure Echo where
  socket : Socket
  /-- How many frames of a connection are sent back. -/
  echoes : Nat
  echoer : Option Echoer := none

namespace Echo

/-- The address of the listener, and one at which nobody takes connections. -/
def here : String := "here"
def nowhere : String := "nowhere"

/-- An echo with a socket that is not connected. -/
def start (reachable : Bool) (limit : Option Nat) (echoes : Nat) : Echo where
  socket := { limit := limit.getD Frame.maxSize, reaches := fun a => reachable && a == here }
  echoes

/-- Carries what was written to the listener and its answer back. Behind its last frame, and behind
the end of what it hears, the listener ends the stream. -/
def exchange (e : Echo) : Echo :=
  match e.echoer with
  | none => e
  | some echoer =>
    let (bytes, socket) := e.socket.drain
    let (back, echoer) := echoer.hear bytes
    let socket := socket.deliver back
    let socket := if echoer.left = 0 ∨ !socket.writable then socket.hangUp else socket
    { e with socket, echoer := some echoer }

/-- The result of something that either succeeds or fails. -/
def Result.of : Except TransportError Unit → Result
  | .ok () => .succeeded
  | .error e => .failed e

/-- Connects to an address. -/
def dial (e : Echo) (address : String) : Echo × Result :=
  match e.socket.connect address with
  | (.ok (), socket) => ({ e with socket, echoer := some { left := e.echoes } }, .succeeded)
  | (.error x, socket) => ({ e with socket }, .failed x)

/-- Does what a step says. -/
def act (e : Echo) : Step → Echo × Result
  | .connect => e.dial here
  | .connectNowhere => e.dial nowhere
  | .send bytes =>
    let (result, socket) := e.socket.send bytes
    ({ e with socket }, .of result)
  | .receive =>
    match e.socket.receive? with
    | some (.ok bytes, socket) => ({ e with socket }, .received bytes)
    | some (.error x, socket) => ({ e with socket }, .failed x)
    | none => (e, .waits)
  | .close =>
    let (result, socket) := e.socket.close
    ({ e with socket }, .of result)

/-- Plays one step. -/
def play (e : Echo) (s : Step) : Echo × Entry :=
  let (e, result) := e.act s
  let e := e.exchange
  (e, { result, connected := e.socket.connected })

/-- Plays a script. -/
def playAll (e : Echo) : List Step → List Entry
  | [] => []
  | s :: rest =>
    let (e, entry) := e.play s
    entry :: e.playAll rest

end Echo

end Rendezvous
