import Rendezvous.Node.Address
import Rendezvous.Number.Single
import Rendezvous.Time.Span

/-!
# Messages

The conductor and a player exchange two kinds of messages: `Downlink` messages go to the player,
`Uplink` messages to the conductor. Five of them exist in both directions. A downlink message that
the player must answer is called confirmed.
-/

namespace Rendezvous

/-! ## Parts of messages -/

/-- The traffic a throttle applies to, seen from the throttled node. -/
inductive Direction where
  | send | receive | both
deriving DecidableEq, Repr, Inhabited

namespace Direction

/-- The name of a direction. -/
def name : Direction → String
  | send => "Send"
  | receive => "Receive"
  | both => "Both"

/-- The place of a direction in their order. -/
def rank : Direction → Nat
  | send => 0
  | receive => 1
  | both => 2

/-- Every direction, in order. -/
def all : List Direction := [send, receive, both]

/-- Whether traffic in direction `e` is also traffic in direction `d`. -/
def includes (d e : Direction) : Bool := d = both ∨ d = e

end Direction

/-- How a player that is told to terminate goes down. -/
inductive Exit where
  /-- Shut down in good order. -/
  | graceful
  /-- Leave the process with this code. -/
  | code (n : Int32)
deriving DecidableEq, Repr, Inhabited

/-! ## To the player -/

/-- A message from the conductor to a player. -/
inductive Downlink where
  /-- The registration was accepted. -/
  | done
  /-- A barrier is open. -/
  | enterBarrier (name : String) (timeout : Option Span) (role : Option Role)
  /-- Another member failed the barrier. -/
  | failBarrier (name : String) (role : Role)
  /-- A barrier has been resolved. -/
  | barrierResult (name : String) (success : Bool)
  /-- The player is asked for its own address. -/
  | getAddress (node : Role)
  /-- The answer to a player's address query. -/
  | addressReply (node : Role) (address : Address)
  /-- Traffic with the target is to be throttled. -/
  | throttle (target : Address) (direction : Direction) (rate : Single)
  /-- The link to the target is to be dropped. -/
  | disconnect (target : Address) (abort : Bool)
  /-- The player is to go down. -/
  | terminate (exit : Exit)
deriving DecidableEq, Repr, Inhabited

namespace Downlink

/-- The name of a message's kind. -/
def kind : Downlink → String
  | done => "Done"
  | enterBarrier .. => "EnterBarrier"
  | failBarrier .. => "FailBarrier"
  | barrierResult .. => "BarrierResult"
  | getAddress .. => "GetAddress"
  | addressReply .. => "AddressReply"
  | throttle .. => "Throttle"
  | disconnect .. => "Disconnect"
  | terminate .. => "Terminate"

/-- Whether the player answers this message with an acknowledgement. -/
def isConfirmed : Downlink → Bool
  | getAddress .. | throttle .. | disconnect .. | terminate .. => true
  | _ => false

end Downlink

/-! ## To the conductor -/

/-- A message from a player to the conductor. -/
inductive Uplink where
  /-- A node asks to take part under a role. -/
  | hello (name : String) (address : Address)
  /-- The player has arrived at a barrier. -/
  | enterBarrier (name : String) (timeout : Option Span) (role : Option Role)
  /-- The player gives a barrier up. -/
  | failBarrier (name : String) (role : Role)
  /-- The player asks for the address of a node. -/
  | getAddress (node : Role)
  /-- The player reports its own address. -/
  | addressReply (node : Role) (address : Address)
  /-- A command was carried out. -/
  | done
  /-- A command could not be carried out. -/
  | commandFailed (reason : String)
deriving DecidableEq, Repr, Inhabited

namespace Uplink

/-- The name of a message's kind. -/
def kind : Uplink → String
  | hello .. => "Hello"
  | enterBarrier .. => "EnterBarrier"
  | failBarrier .. => "FailBarrier"
  | getAddress .. => "GetAddress"
  | addressReply .. => "AddressReply"
  | done => "Done"
  | commandFailed .. => "CommandFailed"

end Uplink

end Rendezvous
