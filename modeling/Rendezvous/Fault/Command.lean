import Rendezvous.Wire.Message

/-!
# Fault commands

A test driver tells a node what to do by a command that names roles. All commands but `remove` have
a wire form, the message that the node receives, and each kind of those is acknowledged in one way.
-/

namespace Rendezvous

/-- A command for exactly one node. -/
inductive Command where
  /-- Throttle the node's traffic with the target. -/
  | throttle (node target : Role) (direction : Direction) (rate : Single)
  /-- Drop the node's link to the target. -/
  | disconnect (node target : Role) (abort : Bool)
  /-- Make the node go down. -/
  | terminate (node : Role) (exit : Exit)
  /-- Forget the node; it is told nothing. -/
  | remove (node : Role)
  /-- Ask the node for its own address. -/
  | getAddress (node : Role)
deriving DecidableEq, Repr, Inhabited

/-- What kind of command it is. -/
inductive CommandKind where
  | throttle | disconnect | terminate | remove | getAddress
deriving DecidableEq, Repr, Inhabited

/-- How a command is acknowledged. -/
inductive AckKind where
  | done | addressReply
deriving DecidableEq, Repr, Inhabited

namespace AckKind

/-- The name of the acknowledging message. -/
def name : AckKind → String
  | done => "Done"
  | addressReply => "AddressReply"

end AckKind

namespace CommandKind

/-- Every kind, in order. -/
def all : List CommandKind := [throttle, disconnect, terminate, remove, getAddress]

/-- The name of a kind. -/
def name : CommandKind → String
  | throttle => "throttle"
  | disconnect => "disconnect"
  | terminate => "terminate"
  | remove => "remove"
  | getAddress => "get_address"

/-- The kinds of a list in their order, repeats included. -/
def sorted (kinds : List CommandKind) : List CommandKind :=
  all.flatMap fun k => kinds.filter (· = k)

/-- The acknowledgement that a command of this kind waits for, if any. -/
def expectedAck : CommandKind → Option AckKind
  | throttle | disconnect | terminate => some .done
  | getAddress => some .addressReply
  | remove => none

end CommandKind

namespace Command

/-- The node that the command is for. -/
def node : Command → Role
  | throttle node .. | disconnect node .. | terminate node _ | remove node | getAddress node => node

/-- The other end of the link, for commands about a link. -/
def target : Command → Option Role
  | throttle _ target .. | disconnect _ target _ => some target
  | _ => none

/-- The kind of the command. -/
def kind : Command → CommandKind
  | throttle .. => .throttle
  | disconnect .. => .disconnect
  | terminate .. => .terminate
  | remove _ => .remove
  | getAddress _ => .getAddress

/-- The message that the node receives, if the command has one; `resolve` finds the address of the
target and is asked only for commands about a link. -/
def wireForm {ε : Type} (resolve : Role → Except ε Address) :
    Command → Except ε (Option Downlink)
  | throttle _ target direction rate =>
    (resolve target).map fun a => some (.throttle a direction rate)
  | disconnect _ target abort => (resolve target).map fun a => some (.disconnect a abort)
  | terminate _ exit => .ok (some (.terminate exit))
  | remove _ => .ok none
  | getAddress node => .ok (some (.getAddress node))

end Command

end Rendezvous
