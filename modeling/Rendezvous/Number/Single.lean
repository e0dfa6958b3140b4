/-!
# Single-precision numbers

A binary32 number, kept as its 32 bits: sign, eight bits of exponent, 23 bits of fraction. Whole
numbers and binary64 numbers are rounded to the nearest one, ties to the even fraction, and what is
too large becomes an infinity (`ofScaled`).
-/

namespace Rendezvous

/-- A binary32 number by its bits. -/
structure Single where
  bits : UInt32
deriving DecidableEq, Repr, Inhabited

namespace Single

/-! ## Parts -/

/-- Whether the sign bit is set. -/
def signBit (x : Single) : Bool := 0x80000000 ≤ x.bits.toNat

/-- Exponent and fraction as one number; it grows with the absolute value. -/
def magnitude (x : Single) : Nat := x.bits.toNat % 0x80000000

/-- The infinite magnitude; those above it are no numbers. -/
def infinite : Nat := 0x7f800000

/-- Whether this is no number. -/
def isNaN (x : Single) : Bool := infinite < x.magnitude

/-- Whether this is one of the two zeros. -/
def isZero (x : Single) : Bool := x.magnitude = 0

/-- Whether this is a number below zero. -/
def isNegative (x : Single) : Bool := x.signBit && !x.isZero && !x.isNaN

/-- A key that orders the numbers; both zeros have key zero. -/
def orderKey (x : Single) : Int := if x.signBit then -(x.magnitude : Int) else x.magnitude

/-- Equality of numbers: the zeros are equal, and nothing equals what is no number. -/
def numEq (x y : Single) : Bool := !x.isNaN && !y.isNaN && x.orderKey = y.orderKey

/-- The lower of two, and of equal ones the second; what is no number gives way to what is one. -/
def min (x y : Single) : Single :=
  if x.isNaN then y else if y.isNaN then x else if y.orderKey ≤ x.orderKey then y else x

/-! ## Rounding -/

/-- `n / 2 ^ k` rounded to the nearest whole number, a half to the even one. -/
def halfEven (n k : Nat) : Nat :=
  let unit := 1 <<< k
  let q := n / unit
  let twice := 2 * (n % unit)
  if unit < twice ∨ (twice = unit ∧ q % 2 = 1) then q + 1 else q

/-- The magnitude nearest to `m * 2 ^ (e - 2000)`. The fraction has its last place at the weight
`2 ^ (q - 2000)`, which is never below `2 ^ (-149)`. -/
def magnitudeOf (m e : Nat) : Nat :=
  if m = 0 then 0
  else
    let q := max (Nat.log2 m + e - 23) (2000 - 149)
    let fraction := if q ≤ e then m <<< (e - q) else halfEven m (q - e)
    Nat.min ((q - (2000 - 149)) * 0x800000 + fraction) infinite

/-- The number nearest to `m * 2 ^ (e - 2000)` with the given sign. -/
def ofScaled (negative : Bool) (m e : Nat) : Single :=
  ⟨UInt32.ofNat ((if negative then 0x80000000 else 0) + magnitudeOf m e)⟩

/-- The number nearest to a whole number. -/
def ofInt (i : Int) : Single := ofScaled (decide (i < 0)) i.natAbs 2000

/-- The number nearest to a binary64 number, given by its bits. What is no number keeps its sign and
the leading bits of its fraction and is made quiet. -/
def ofDoubleBits (bits : UInt64) : Single :=
  let negative : Bool := 0x8000000000000000 ≤ bits.toNat
  let exponent := bits.toNat / 0x10000000000000 % 2048
  let fraction := bits.toNat % 0x10000000000000
  if exponent = 2047 then
    let payload := if fraction = 0 then 0 else (fraction / 0x20000000) ||| 0x400000
    ⟨UInt32.ofNat ((if negative then 0x80000000 else 0) + (infinite + payload))⟩
  else if exponent = 0 then ofScaled negative fraction (2000 - 1074)
  else ofScaled negative (0x10000000000000 + fraction) (exponent + (2000 - 1075))

end Single

end Rendezvous
