import Rendezvous.Transport.Basic
import Rendezvous.Wire.Frame

/-!
# Sockets

A socket is a transport over a stream of bytes, on which every message travels in a frame. Its two
halves fail apart: what can be written after an error is still written, and closing gives up the
writing half alone.
-/

namespace Rendezvous

/-- The half of a connection from which bytes are read. -/
structure Inlet where
  /-- The bytes that have arrived and are not read yet. -/
  arrived : List UInt8 := []
  /-- Whether the other side has ended the stream. -/
  ended : Bool := false
deriving DecidableEq, Repr, Inhabited

/-- A transport over a stream of bytes. -/
structure Socket where
  /-- The longest frame that is accepted. -/
  limit : Nat := Frame.maxSize
  /-- Whether somebody takes connections at an address. -/
  reaches : String → Bool
  inlet : Option Inlet := none
  /-- Whether the half to which bytes are written is there. -/
  writable : Bool := false
  /-- The bytes that were written and are not carried away yet. -/
  outgoing : List UInt8 := []
  connected : Bool := false

namespace Socket

/-! ## The operations -/

/-- Connects to an address, if somebody takes connections there. -/
def connect (t : Socket) (address : String) : Except TransportError Unit × Socket :=
  if t.reaches address then
    (.ok (), { t with inlet := some {}, writable := true, outgoing := [], connected := true })
  else (.error (.connectionFailed none), t)

/-- Sends bytes in a frame. -/
def send (t : Socket) (bytes : List UInt8) : Except TransportError Unit × Socket :=
  if !t.writable then (.error .notConnected, t)
  else match Frame.write bytes with
    | .ok frame => (.ok (), { t with outgoing := t.outgoing ++ frame })
    | .error e => (.error (.sendFailed e.message?), { t with connected := false })

/-- Receives the bytes of the next frame. Behind an error the reading half stands where the error
left it. -/
def receive? (t : Socket) : Option (Except TransportError (List UInt8) × Socket) :=
  match t.inlet with
  | none => some (.error .notConnected, t)
  | some inlet =>
    (Frame.next? t.limit inlet.ended inlet.arrived).map fun
      | (.ok bytes, rest) => (.ok bytes, { t with inlet := some { inlet with arrived := rest } })
      | (.error e, rest) =>
        (.error (match e with
          | .connectionClosed => .connectionClosed
          | e => .receiveFailed e.message?),
        { t with inlet := some { inlet with arrived := rest }, connected := false })

/-- Gives up the writing half. -/
def close (t : Socket) : Except TransportError Unit × Socket :=
  (.ok (), { t with writable := false, connected := false })

instance : Transport Socket where
  connect := connect
  send := send
  receive? := receive?
  isConnected := connected
  close := close
  backlog t := t.inlet.elim 0 (·.arrived.length)

/-! ## The other end -/

/-- Bytes arrive. -/
def deliver (t : Socket) (bytes : List UInt8) : Socket :=
  { t with inlet := t.inlet.map fun i => { i with arrived := i.arrived ++ bytes } }

/-- The other side ends the stream. -/
def hangUp (t : Socket) : Socket :=
  { t with inlet := t.inlet.map fun i => { i with ended := true } }

/-- Carries away what was written. -/
def drain (t : Socket) : List UInt8 × Socket := (t.outgoing, { t with outgoing := [] })

end Socket

end Rendezvous
