import Rendezvous.Transport.Basic

/-!
# Scripted transports

A scripted transport has nobody at the other end. What it receives is queued by hand, what it sends
is kept, and each kind of operation can be made to fail once.

Closing does not forget what is queued: a transport that is connected again goes on where it was.
-/

namespace Rendezvous

/-- A transport that follows a script. -/
structure Scripted where
  connected : Bool := false
  /-- The address it was last connected to. -/
  peer : Option String := none
  /-- Whether the other side will close the connection once everything queued is received. -/
  remoteClosed : Bool := false
  /-- Everything that was sent, in order. -/
  sent : List (List UInt8) := []
  /-- What is still to be received, in order. -/
  queue : List (List UInt8) := []
  /-- The details with which the next operation of each kind will fail. -/
  failConnect : Option String := none
  failSend : Option String := none
  failReceive : Option String := none
deriving DecidableEq, Repr, Inhabited

namespace Scripted

/-! ## The script -/

/-- Queues bytes to be received. -/
def enqueue (t : Scripted) (bytes : List UInt8) : Scripted := { t with queue := t.queue ++ [bytes] }

/-- Lets the other side close the connection. -/
def closeRemote (t : Scripted) : Scripted := { t with remoteClosed := true }

/-- Lets the next attempt to connect fail. -/
def failNextConnect (t : Scripted) (detail : String) : Scripted :=
  { t with failConnect := some detail }

/-- Lets the next attempt to send on a connection fail. -/
def failNextSend (t : Scripted) (detail : String) : Scripted := { t with failSend := some detail }

/-- Lets the next attempt to receive on a connection fail. -/
def failNextReceive (t : Scripted) (detail : String) : Scripted :=
  { t with failReceive := some detail }

/-! ## The operations -/

/-- Connects to an address. -/
def connect (t : Scripted) (address : String) : Except TransportError Unit × Scripted :=
  match t.failConnect with
  | some detail => (.error (.connectionFailed (some detail)), { t with failConnect := none })
  | none => (.ok (), { t with connected := true, peer := some address })

/-- Sends bytes. -/
def send (t : Scripted) (bytes : List UInt8) : Except TransportError Unit × Scripted :=
  if !t.connected then (.error .notConnected, t)
  else match t.failSend with
    | some detail => (.error (.sendFailed (some detail)), { t with failSend := none })
    | none => (.ok (), { t with sent := t.sent ++ [bytes] })

/-- Receives the oldest bytes in the queue; on a connection that has nothing to say, waits. -/
def receive? (t : Scripted) : Option (Except TransportError (List UInt8) × Scripted) :=
  if !t.connected then some (.error .notConnected, t)
  else match t.failReceive with
    | some detail => some (.error (.receiveFailed (some detail)), { t with failReceive := none })
    | none =>
      match t.queue with
      | bytes :: rest => some (.ok bytes, { t with queue := rest })
      | [] =>
        if t.remoteClosed then some (.error .connectionClosed, { t with connected := false })
        else none

/-- Closes the connection. -/
def close (t : Scripted) : Except TransportError Unit × Scripted :=
  (.ok (), { t with connected := false })

instance : Transport Scripted where
  connect := connect
  send := send
  receive? := receive?
  isConnected := connected
  close := close
  backlog t := t.queue.length

end Scripted

end Rendezvous
