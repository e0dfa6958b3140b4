import Rendezvous.Transport.Basic
import Rendezvous.Wire.Frame

/-!
# What goes wrong at a player
-/

namespace Rendezvous

/-- The ways in which a player's operations fail. -/
inductive PlayerError where
  | transport (e : TransportError)
  | wire (e : WireError)
  /-- The conductor sent something out of order. -/
  | violation (expected actual : String)
  /-- The conductor did not answer the greeting in time. -/
  | handshakeTimeout (after : Span)
  /-- The barrier was resolved as failed. -/
  | barrierFailed (name : String)
  /-- No result came within the deadline of the call. -/
  | barrierTimeout (name : String) (after : Span)
  /-- Another call of this player waits at a barrier. -/
  | barrierInFlight (active : String)
  /-- The connection to the conductor is gone. -/
  | notConnected
  /-- A fault could not be applied. -/
  | fault (detail : String)
deriving DecidableEq, Repr, Inhabited

namespace PlayerError

/-- The wording of the error, where it does not depend on the platform. -/
def message? : PlayerError → Option String
  | transport e => e.message?.map ("transport error: " ++ ·)
  | wire e => e.message?.map ("wire error: " ++ ·)
  | violation expected actual =>
    some ("protocol violation: expected " ++ expected ++ ", got " ++ actual)
  | handshakeTimeout after => some ("no handshake reply within " ++ after.text)
  | barrierFailed name => some ("barrier " ++ name ++ " failed")
  | barrierTimeout name after => some ("barrier " ++ name ++ " not resolved within " ++ after.text)
  | barrierInFlight active => some ("already waiting on barrier " ++ active)
  | notConnected => some "not connected"
  | fault detail => some ("fault handler failed: " ++ detail)

end PlayerError

end Rendezvous
