import Rendezvous.MessagePack.Parser
import Rendezvous.Wire.Encode
import Rendezvous.Wire.Record

/-!
# Messages from MessagePack

The bytes of a message are read as one value, which is then matched against the kinds of messages
of its direction. Which of several faults a value has is not told.
-/

namespace Rendezvous

open MessagePack (Value)
open Wire (fields? strictFields? required optional bool? intIn? variant?)

/-! ## Parts -/

def Role.ofValue? (v : Value) : Option Role := v.text?.map Role.mk

/-- A span; nanoseconds of a second and more carry over into the seconds. -/
def Span.ofValue? (v : Value) : Option Span :=
  (strictFields? ["secs", "nanos"] v).bind fun
    | [secs, nanos] => do
      let s ← required (intIn? 0 0x10000000000000000) secs
      let n ← required (intIn? 0 0x100000000) nanos
      let total := s.toNat + n.toNat / 1000000000
      if total < 0x10000000000000000 then
        some ⟨UInt64.ofNat total, ⟨n.toNat % 1000000000, Nat.mod_lt _ (by decide)⟩⟩
      else none
    | _ => none

def Address.port? (v : Value) : Option UInt16 :=
  (intIn? 0 0x10000 v).map fun n => UInt16.ofNat n.toNat

def Address.ofValue? (v : Value) : Option Address :=
  (fields? ["protocol", "system", "host", "port"] v).bind fun
    | [protocol, system, host, port] => do
      return ⟨← required Value.text? protocol, ← required Value.text? system,
        ← optional Value.text? host, ← optional Address.port? port⟩
    | _ => none

def Direction.named? (name : String) : Option Direction :=
  Direction.all.find? (·.name = name)

/-- A direction is its name, or a map with the name or the place of the direction as its only key
and nothing as its value. -/
def Direction.ofValue? : Value → Option Direction
  | .str s => named? s
  | .map [(key, payload)] =>
    let chosen := match key with
      | .uint w n => if Wire.indexForm w then Direction.all[n]? else none
      | key => key.text?.bind named?
    match payload with
    | .nil | .map [] => chosen
    | _ => none
  | _ => none

/-- A binary32 number; numbers of other kinds are rounded to the nearest one. -/
def Single.ofValue? : Value → Option Single
  | .single bits => some ⟨bits⟩
  | .double bits => some (ofDoubleBits bits)
  | v => v.int?.map ofInt

/-- Only `true` and exit codes tell how to go down. -/
def Exit.ofValue? : Value → Option Exit
  | .bool true => some .graceful
  | v => (intIn? (-0x80000000) 0x80000000 v).map fun n => .code (Int32.ofInt n)

/-! ## Messages -/

/-- The fields of `EnterBarrier`, by what they are used for. -/
def enterBarrier? {α : Type} (f : String → Option Span → Option Role → α) (v : Value) :
    Option α :=
  (fields? ["name", "timeout", "role"] v).bind fun
    | [name, timeout, role] => do
      return f (← required Value.text? name) (← optional Span.ofValue? timeout)
        (← optional Role.ofValue? role)
    | _ => none

/-- A record of one field. -/
def record₁? {α β : Type} (name : String) (read : Value → Option α) (f : α → β) (v : Value) :
    Option β :=
  (fields? [name] v).bind fun
    | [x] => (required read x).map f
    | _ => none

/-- A record of two fields. -/
def record₂? {α β γ : Type} (name₁ : String) (read₁ : Value → Option α) (name₂ : String)
    (read₂ : Value → Option β) (f : α → β → γ) (v : Value) : Option γ :=
  (fields? [name₁, name₂] v).bind fun
    | [x, y] => do return f (← required read₁ x) (← required read₂ y)
    | _ => none

/-- A message without fields; a map may hold any, an array none. -/
def bare? {α : Type} (a : α) : Value → Option α
  | .map _ => some a
  | .arr [] => some a
  | _ => none

/-- The kinds of messages to a player, in the order of their places. -/
def Downlink.kinds : List String :=
  ["Done", "EnterBarrier", "FailBarrier", "BarrierResult", "GetAddress", "AddressReply",
    "Throttle", "Disconnect", "Terminate"]

/-- Matches a value against the messages to a player. -/
def Downlink.ofValue? (v : Value) : Option Downlink :=
  (variant? kinds v).bind fun (i, body) =>
    match i with
    | 0 => bare? done body
    | 1 => enterBarrier? enterBarrier body
    | 2 => record₂? "name" Value.text? "role" Role.ofValue? failBarrier body
    | 3 => record₂? "name" Value.text? "success" bool? barrierResult body
    | 4 => record₁? "node" Role.ofValue? getAddress body
    | 5 => record₂? "node" Role.ofValue? "address" Address.ofValue? addressReply body
    | 6 =>
      (fields? ["target", "direction", "rate_mbit"] body).bind fun
        | [target, direction, rate] => do
          return throttle (← required Address.ofValue? target)
            (← required Direction.ofValue? direction) (← required Single.ofValue? rate)
        | _ => none
    | 7 => record₂? "target" Address.ofValue? "abort" bool? disconnect body
    | 8 => record₁? "shutdown_or_exit" Exit.ofValue? terminate body
    | _ => none

/-- Reads a message to a player; bytes behind it are passed over. -/
def Downlink.decode? (bytes : List UInt8) : Option Downlink :=
  (MessagePack.parse? bytes).bind ofValue?

/-- The kinds of messages to the conductor, in the order of their places. -/
def Uplink.kinds : List String :=
  ["Hello", "EnterBarrier", "FailBarrier", "GetAddress", "AddressReply", "Done", "CommandFailed"]

/-- Matches a value against the messages to the conductor. -/
def Uplink.ofValue? (v : Value) : Option Uplink :=
  (variant? kinds v).bind fun (i, body) =>
    match i with
    | 0 => record₂? "name" Value.text? "address" Address.ofValue? hello body
    | 1 => enterBarrier? enterBarrier body
    | 2 => record₂? "name" Value.text? "role" Role.ofValue? failBarrier body
    | 3 => record₁? "node" Role.ofValue? getAddress body
    | 4 => record₂? "node" Role.ofValue? "address" Address.ofValue? addressReply body
    | 5 => bare? done body
    | 6 => record₁? "reason" Value.text? commandFailed body
    | _ => none

/-- Reads a message to the conductor; bytes behind it are passed over. -/
def Uplink.decode? (bytes : List UInt8) : Option Uplink :=
  (MessagePack.parse? bytes).bind ofValue?

end Rendezvous
