import Rendezvous.MessagePack.Value

/-!
# Writing MessagePack

Every value is written with the shortest header that its length allows; integers are written in the
form they are held in.
-/

namespace Rendezvous.MessagePack

/-! ## Whole numbers as bytes -/

/-- How many numbers `k` bytes can hold. -/
def byteSpan (k : Nat) : Nat := 1 <<< (8 * k)

/-- The last `k` bytes of `n`, highest first. -/
def beBytes : (k : Nat) → (n : Nat) → List UInt8
  | 0, _ => []
  | k + 1, n => UInt8.ofNat (n / byteSpan k) :: beBytes k n

@[simp] theorem length_beBytes (k n : Nat) : (beBytes k n).length = k := by
  induction k with
  | zero => rfl
  | succ k ih => simp [beBytes, ih]

/-- The number whose bytes are given, highest first, behind the value `acc`. -/
def ofBytes (acc : Nat) (bytes : List UInt8) : Nat :=
  bytes.foldl (fun n b => 256 * n + b.toNat) acc

/-! ## Headers -/

/-- The header of a string of `n` bytes. -/
def strHeader (n : Nat) : List UInt8 :=
  if n < 32 then [UInt8.ofNat (0xa0 + n)]
  else if n < 0x100 then 0xd9 :: beBytes 1 n
  else if n < 0x10000 then 0xda :: beBytes 2 n
  else 0xdb :: beBytes 4 n

/-- The header of a binary of `n` bytes. -/
def binHeader (n : Nat) : List UInt8 :=
  if n < 0x100 then 0xc4 :: beBytes 1 n
  else if n < 0x10000 then 0xc5 :: beBytes 2 n
  else 0xc6 :: beBytes 4 n

/-- The header of an array of `n` items. -/
def arrHeader (n : Nat) : List UInt8 :=
  if n < 16 then [UInt8.ofNat (0x90 + n)]
  else if n < 0x10000 then 0xdc :: beBytes 2 n
  else 0xdd :: beBytes 4 n

/-- The header of a map of `n` entries. -/
def mapHeader (n : Nat) : List UInt8 :=
  if n < 16 then [UInt8.ofNat (0x80 + n)]
  else if n < 0x10000 then 0xde :: beBytes 2 n
  else 0xdf :: beBytes 4 n

/-- The header of an extension of `n` bytes, without its tag. -/
def extHeader (n : Nat) : List UInt8 :=
  if n = 1 then [0xd4]
  else if n = 2 then [0xd5]
  else if n = 4 then [0xd6]
  else if n = 8 then [0xd7]
  else if n = 16 then [0xd8]
  else if n < 0x100 then 0xc7 :: beBytes 1 n
  else if n < 0x10000 then 0xc8 :: beBytes 2 n
  else 0xc9 :: beBytes 4 n

/-- The marker of an unsigned integer with bytes behind it. -/
def uintMarker : Width → UInt8
  | .fix => 0
  | .one => 0xcc
  | .two => 0xcd
  | .four => 0xce
  | .eight => 0xcf

/-- The marker of a signed integer with bytes behind it. -/
def sintMarker : Width → UInt8
  | .fix => 0
  | .one => 0xd0
  | .two => 0xd1
  | .four => 0xd2
  | .eight => 0xd3

/-- An unsigned integer. -/
def printUint (w : Width) (n : Nat) : List UInt8 :=
  match w with
  | .fix => [UInt8.ofNat n]
  | w => uintMarker w :: beBytes w.size n

/-- A signed integer, in two's complement. -/
def printSint (w : Width) (i : Int) : List UInt8 :=
  match w with
  | .fix => [UInt8.ofNat (i + 256).toNat]
  | w => sintMarker w :: beBytes w.size (i % (byteSpan w.size : Nat)).toNat

/-! ## Values -/

mutual

/-- The bytes of a value. -/
def Value.print : Value → List UInt8
  | .nil => [0xc0]
  | .bool false => [0xc2]
  | .bool true => [0xc3]
  | .uint w n => printUint w n
  | .sint w i => printSint w i
  | .single bits => 0xca :: beBytes 4 bits.toNat
  | .double bits => 0xcb :: beBytes 8 bits.toNat
  | .str s => strHeader s.utf8ByteSize ++ s.toUTF8.data.toList
  | .bin bytes => binHeader bytes.length ++ bytes
  | .arr items => arrHeader items.length ++ printItems items
  | .map entries => mapHeader entries.length ++ printEntries entries
  | .ext tag bytes => extHeader bytes.length ++ tag :: bytes

/-- The bytes of the items of an array. -/
def printItems : List Value → List UInt8
  | [] => []
  | v :: rest => v.print ++ printItems rest

/-- The bytes of the entries of a map. -/
def printEntries : List (Value × Value) → List UInt8
  | [] => []
  | (k, v) :: rest => k.print ++ (v.print ++ printEntries rest)

end

end Rendezvous.MessagePack
