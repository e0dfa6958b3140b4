import Rendezvous.MessagePack.Printer
import Rendezvous.Wire.Message

/-!
# Messages as MessagePack

A message is a map that names its kind under `type` first and its fields after that, in the order
of their declaration. Numbers are written in their shortest form and absent values as nil.
-/

namespace Rendezvous

open MessagePack (Value)

/-! ## Parts -/

/-- A map with text keys. -/
def MessagePack.Value.record (fields : List (String × Value)) : Value :=
  .map (fields.map fun (k, v) => (.str k, v))

/-- A value that may be absent. -/
def MessagePack.Value.optional {α : Type} (f : α → Value) : Option α → Value
  | none => .nil
  | some a => f a

def Role.toValue (r : Role) : Value := .str r.name

def Span.toValue (d : Span) : Value :=
  .record [("secs", .ofNat d.secs.toNat), ("nanos", .ofNat d.nanos.val)]

def Address.toValue (a : Address) : Value :=
  .record [("protocol", .str a.protocol), ("system", .str a.system),
    ("host", .optional .str a.host), ("port", .optional (fun p => .ofNat p.toNat) a.port)]

def Direction.toValue (d : Direction) : Value := .str d.name

def Single.toValue (x : Single) : Value := .single x.bits

/-- Going down in good order is written as `true`, an exit code as a number. -/
def Exit.toValue : Exit → Value
  | .graceful => .bool true
  | .code n => .ofInt n.toInt

/-! ## Messages -/

/-- The map of a message of the given kind. -/
def taggedRecord (kind : String) (fields : List (String × Value)) : Value :=
  .record (("type", .str kind) :: fields)

/-- The fields of a message behind its kind. -/
def Downlink.fields : Downlink → List (String × Value)
  | done => []
  | enterBarrier name timeout role =>
    [("name", .str name), ("timeout", .optional Span.toValue timeout),
      ("role", .optional Role.toValue role)]
  | failBarrier name role => [("name", .str name), ("role", role.toValue)]
  | barrierResult name success => [("name", .str name), ("success", .bool success)]
  | getAddress node => [("node", node.toValue)]
  | addressReply node address => [("node", node.toValue), ("address", address.toValue)]
  | throttle target direction rate =>
    [("target", target.toValue), ("direction", direction.toValue), ("rate_mbit", rate.toValue)]
  | disconnect target abort => [("target", target.toValue), ("abort", .bool abort)]
  | terminate exit => [("shutdown_or_exit", exit.toValue)]

def Downlink.toValue (m : Downlink) : Value := taggedRecord m.kind m.fields

/-- The bytes of a message to a player. -/
def Downlink.encode (m : Downlink) : List UInt8 := m.toValue.print

/-- The fields of a message behind its kind. -/
def Uplink.fields : Uplink → List (String × Value)
  | hello name address => [("name", .str name), ("address", address.toValue)]
  | enterBarrier name timeout role =>
    [("name", .str name), ("timeout", .optional Span.toValue timeout),
      ("role", .optional Role.toValue role)]
  | failBarrier name role => [("name", .str name), ("role", role.toValue)]
  | getAddress node => [("node", node.toValue)]
  | addressReply node address => [("node", node.toValue), ("address", address.toValue)]
  | done => []
  | commandFailed reason => [("reason", .str reason)]

def Uplink.toValue (m : Uplink) : Value := taggedRecord m.kind m.fields

/-- The bytes of a message to the conductor. -/
def Uplink.encode (m : Uplink) : List UInt8 := m.toValue.print

end Rendezvous
