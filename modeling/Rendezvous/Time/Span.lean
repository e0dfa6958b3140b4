import Rendezvous.Text.Decimal

/-!
# Spans of time

A span is a number of whole seconds and of nanoseconds below one second. Its text uses the largest
of the units `s`, `ms`, `µs`, `ns` that has a non-zero whole part, with a decimal fraction that ends
in no zero: `1.5s`, `20ms`, `999ns`.
-/

namespace Rendezvous

/-- A span of time, exact to the nanosecond. -/
structure Span where
  secs : UInt64
  nanos : Fin 1000000000
deriving DecidableEq, Repr, Inhabited

namespace Span

/-- The span of whole seconds. -/
def ofSecs (secs : UInt64) : Span := ⟨secs, 0⟩

/-- The length in nanoseconds. -/
def toNanos (d : Span) : Nat := d.secs.toNat * 1000000000 + d.nanos.val

/-- The length in whole milliseconds, as a 64-bit number. -/
def wholeMillis (d : Span) : UInt64 := UInt64.ofNat (d.toNanos / 1000000)

/-! ## Text -/

/-- The decimal fraction of `width` digits that stands for `n`, without trailing zeros; nothing for
zero. -/
def fractionChars (width n : Nat) : List Char :=
  let kept := ((Decimal.padded width n).reverse.dropWhile (· == '0')).reverse
  if kept.isEmpty then [] else '.' :: kept

/-- The text of a span. -/
def text (d : Span) : String :=
  let (whole, width, rest, unit) :=
    if d.secs ≠ 0 then (d.secs.toNat, 9, d.nanos.val, "s")
    else if 1000000 ≤ d.nanos.val then (d.nanos.val / 1000000, 6, d.nanos.val % 1000000, "ms")
    else if 1000 ≤ d.nanos.val then (d.nanos.val / 1000, 3, d.nanos.val % 1000, "µs")
    else (d.nanos.val, 0, 0, "ns")
  String.ofList (Decimal.digits whole ++ fractionChars width rest) ++ unit

end Span

end Rendezvous
