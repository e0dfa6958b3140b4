import Rendezvous.Text.Decimal
import Rendezvous.Toml.Value

/-!
# Scalars of TOML

Truth values, numbers and points in time are runs of letters, digits and the signs `+ - _ . :`; each
function here takes such a run as a whole.

* Digits may be grouped by single underscores between two digits.
* Whole numbers have 64 bits with sign; decimal ones have no leading zeros, and only they a sign.
* A number with a fraction or an exponent must not be too large for binary64.
* Points in time must exist: months have their days, leap years included.
-/

namespace Rendezvous.Toml

/-! ## Digits -/

/-- The value of a hexadecimal digit. -/
def hexValue? (c : Char) : Option Nat :=
  let n := c.toNat
  if 48 ≤ n ∧ n ≤ 57 then some (n - 48)
  else if 97 ≤ n ∧ n ≤ 102 then some (n - 87)
  else if 65 ≤ n ∧ n ≤ 70 then some (n - 55)
  else none

/-- The value of a digit of the given base. -/
def digitOf? (base : Nat) (c : Char) : Option Nat :=
  (hexValue? c).bind fun d => if d < base then some d else none

/-- Reads grouped digits of the given base behind a digit. -/
def readGroupedFrom? (base acc : Nat) : List Char → Option Nat
  | [] => some acc
  | '_' :: c :: rest =>
    (digitOf? base c).bind fun d => readGroupedFrom? base (base * acc + d) rest
  | c :: rest => (digitOf? base c).bind fun d => readGroupedFrom? base (base * acc + d) rest

/-- Reads a non-empty run of grouped digits. -/
def readGrouped? (base : Nat) : List Char → Option Nat
  | [] => none
  | c :: rest => (digitOf? base c).bind fun d => readGroupedFrom? base d rest

/-- The number of digits of a run, without the underscores. -/
def digitCount (cs : List Char) : Nat := cs.countP (· ≠ '_')

/-! ## Whole numbers -/

/-- The sign of a numeral and what follows it. -/
def cutSign : List Char → Bool × List Char
  | '+' :: rest => (false, rest)
  | '-' :: rest => (true, rest)
  | cs => (false, cs)

/-- Decimal digits without a leading zero. -/
def readPlain? : List Char → Option Nat
  | '0' :: _ :: _ => none
  | cs => readGrouped? 10 cs

/-- A number if it fits into 64 bits with sign. -/
def fit? (negative : Bool) (n : Nat) : Option Int :=
  if negative then (if n ≤ 0x8000000000000000 then some (-(n : Int)) else none)
  else if n < 0x8000000000000000 then some n else none

/-- A whole number. -/
def int? : List Char → Option Int
  | '0' :: 'x' :: rest => (readGrouped? 16 rest).bind (fit? false)
  | '0' :: 'o' :: rest => (readGrouped? 8 rest).bind (fit? false)
  | '0' :: 'b' :: rest => (readGrouped? 2 rest).bind (fit? false)
  | cs =>
    let (negative, body) := cutSign cs
    (readPlain? body).bind (fit? negative)

/-! ## Numbers with a fraction or an exponent -/

/-- Whether `m * 10 ^ (up - down)` is at least the bound from which on numbers round to infinity
in binary64. -/
def overflows (m up down : Nat) : Bool :=
  let bound := 0x3fffffffffffff <<< 970
  let size := (Decimal.digits m).length + up
  if m = 0 ∨ size < down + 300 then false
  else if down + 311 < size then true
  else bound * Nat.pow 10 (down - up) ≤ m * Nat.pow 10 (up - down)

/-- What stands before and behind the first character with the property, if there is one. -/
def cutWhere (p : Char → Bool) (cs : List Char) : List Char × Option (List Char) :=
  (cs.takeWhile (!p ·), match cs.dropWhile (!p ·) with | [] => none | _ :: rest => some rest)

/-- Whether the run is a number with a fraction or an exponent. -/
def isFloat (cs : List Char) : Bool :=
  let (negative, body) := cutSign cs
  if body = ['i', 'n', 'f'] ∨ body = ['n', 'a', 'n'] then true
  else
    let (mantissa, exponent) := cutWhere (fun c => c = 'e' ∨ c = 'E') body
    let (whole, fraction) := cutWhere (· = '.') mantissa
    if exponent.isNone ∧ fraction.isNone then false
    else
      let places := (fraction.map digitCount).getD 0
      let parts := do
        let w ← readPlain? whole
        let f ← match fraction with | none => some 0 | some cs => readGrouped? 10 cs
        let (down, e) ← match exponent with
          | none => some (false, 0)
          | some cs =>
            let (down, digits) := cutSign cs
            (readGrouped? 10 digits).map (down, ·)
        return (w * Nat.pow 10 places + f, down, e)
      match parts with
      | none => false
      | some (m, down, e) =>
        negative || !(if down then overflows m 0 (e + places) else overflows m e places)

/-! ## Points in time -/

/-- The number of days of a month. -/
def daysIn (year month : Nat) : Nat :=
  if month = 2 then
    if year % 4 = 0 ∧ (year % 100 ≠ 0 ∨ year % 400 = 0) then 29 else 28
  else if month = 4 ∨ month = 6 ∨ month = 9 ∨ month = 11 then 30
  else 31

/-- Whether the run is a date. -/
def isDate : List Char → Bool
  | [y₁, y₂, y₃, y₄, '-', m₁, m₂, '-', d₁, d₂] =>
    match Decimal.read? [y₁, y₂, y₃, y₄], Decimal.read? [m₁, m₂], Decimal.read? [d₁, d₂] with
    | some y, some m, some d => 1 ≤ m && m ≤ 12 && 1 ≤ d && d ≤ daysIn y m
    | _, _, _ => false
  | _ => false

/-- Whether the two characters are a number of at most `top`. -/
def isPart (top : Nat) (a b : Char) : Bool := (Decimal.read? [a, b]).any (· ≤ top)

/-- Whether the run is hours and minutes. -/
def isHourMinute : List Char → Bool
  | [h₁, h₂, ':', m₁, m₂] => isPart 23 h₁ h₂ && isPart 59 m₁ m₂
  | _ => false

/-- Whether the run is a time of day; a leap second is allowed. -/
def isTime (cs : List Char) : Bool :=
  isHourMinute (cs.take 5) &&
    match cs.drop 5 with
    | ':' :: s₁ :: s₂ :: rest =>
      isPart 60 s₁ s₂ && match rest with
        | [] => true
        | '.' :: fraction => (Decimal.read? fraction).isSome
        | _ => false
    | _ => false

/-- Whether the run is a time of day with or without an offset. -/
def isOffsetTime (cs : List Char) : Bool :=
  let (time, rest) := cs.span fun c => c ≠ 'Z' ∧ c ≠ 'z' ∧ c ≠ '+' ∧ c ≠ '-'
  isTime time && match rest with
    | [] => true
    | ['Z'] | ['z'] => true
    | '+' :: offset | '-' :: offset => isHourMinute offset
    | _ => false

/-- Whether the run is a date, a time of day or both, joined by `T`. -/
def isDatetime (cs : List Char) : Bool :=
  isTime cs || isDate (cs.take 10) &&
    match cs.drop 10 with
    | [] => true
    | 'T' :: time | 't' :: time => isOffsetTime time
    | _ => false

/-! ## All of them -/

/-- The value of a run. -/
def scalar? (cs : List Char) : Option Value :=
  if cs = "true".toList then some (.bool true)
  else if cs = "false".toList then some (.bool false)
  else match int? cs with
    | some i => some (.int i)
    | none =>
      if isFloat cs then some (.float (String.ofList cs))
      else if isDatetime cs then some (.datetime (String.ofList cs))
      else none

end Rendezvous.Toml
