/-!
# Transports

A transport moves whole encoded messages between a player and the conductor; how they are set apart
on the way is its own business. Its operations answer with the transport behind them. Receiving may
have to wait, and then nothing is answered.
-/

namespace Rendezvous

/-- The ways in which a transport fails. A detail that only the platform words is left out. -/
inductive TransportError where
  | connectionFailed (detail : Option String)
  | notConnected
  /-- The other side has closed the connection. -/
  | connectionClosed
  | sendFailed (detail : Option String)
  | receiveFailed (detail : Option String)
deriving DecidableEq, Repr, Inhabited

namespace TransportError

/-- The name of the error. -/
def kind : TransportError → String
  | connectionFailed _ => "ConnectionFailed"
  | notConnected => "NotConnected"
  | connectionClosed => "ConnectionClosed"
  | sendFailed _ => "SendFailed"
  | receiveFailed _ => "ReceiveFailed"

/-- The wording of the error, where it does not depend on the platform. -/
def message? : TransportError → Option String
  | connectionFailed detail => detail.map ("connection failed: " ++ ·)
  | notConnected => some "not connected"
  | connectionClosed => some "connection closed"
  | sendFailed detail => detail.map ("send failed: " ++ ·)
  | receiveFailed detail => detail.map ("receive failed: " ++ ·)

end TransportError

/-- What a player needs of its connection to the conductor. -/
class Transport (τ : Type) where
  /-- Connects to an address. -/
  connect : τ → String → Except TransportError Unit × τ
  /-- Sends one encoded message. -/
  send : τ → List UInt8 → Except TransportError Unit × τ
  /-- The next encoded message, if it need not be waited for. -/
  receive? : τ → Option (Except TransportError (List UInt8) × τ)
  isConnected : τ → Bool
  close : τ → Except TransportError Unit × τ
  /-- No more messages than this can be received before something is sent to the transport. -/
  backlog : τ → Nat

end Rendezvous
