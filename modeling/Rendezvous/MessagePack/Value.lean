/-!
# MessagePack values

The tree of a MessagePack value. An integer keeps the form it is written in, since readers of field
keys tell the forms apart; the widths of string, array and map headers are not kept.
-/

namespace Rendezvous.MessagePack

/-- How many bytes an integer takes behind its marker; `fix` stands in the marker itself. -/
inductive Width where
  | fix | one | two | four | eight
deriving DecidableEq, Repr, Inhabited

/-- The number of bytes. -/
def Width.size : Width → Nat
  | fix => 0
  | one => 1
  | two => 2
  | four => 4
  | eight => 8

/-- A MessagePack value. Text that is not well-formed UTF-8 is held as `bin`. -/
inductive Value where
  | nil
  | bool (b : Bool)
  /-- An unsigned form. -/
  | uint (w : Width) (n : Nat)
  /-- A signed form; the one without further bytes is for negative numbers only. -/
  | sint (w : Width) (i : Int)
  /-- A binary32 number by its bits. -/
  | single (bits : UInt32)
  /-- A binary64 number by its bits. -/
  | double (bits : UInt64)
  | str (s : String)
  | bin (bytes : List UInt8)
  | arr (items : List Value)
  | map (entries : List (Value × Value))
  | ext (tag : UInt8) (bytes : List UInt8)
deriving Repr, Inhabited

namespace Value

/-- A natural number in the shortest unsigned form. -/
def ofNat (n : Nat) : Value :=
  if n < 0x80 then uint .fix n
  else if n < 0x100 then uint .one n
  else if n < 0x10000 then uint .two n
  else if n < 0x100000000 then uint .four n
  else uint .eight n

/-- A whole number in the shortest form; only negative ones take a signed form. -/
def ofInt (i : Int) : Value :=
  if 0 ≤ i then ofNat i.toNat
  else if -0x20 ≤ i then sint .fix i
  else if -0x80 ≤ i then sint .one i
  else if -0x8000 ≤ i then sint .two i
  else if -0x80000000 ≤ i then sint .four i
  else sint .eight i

/-- The whole number that a value is, if it is one. -/
def int? : Value → Option Int
  | uint _ n => some n
  | sint _ i => some i
  | _ => none

/-- The text that a value is: a string, or a binary that holds well-formed UTF-8. -/
def text? : Value → Option String
  | str s => some s
  | bin bytes => String.fromUTF8? ⟨bytes.toArray⟩
  | _ => none

end Value

end Rendezvous.MessagePack
