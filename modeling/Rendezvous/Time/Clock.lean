import Rendezvous.Time.Span

/-!
# Deadlines

Time is the number of nanoseconds since the start. Deadlines have millisecond resolution: a deadline
is the number of the first whole millisecond that is not before the end of its span, and it is due
once the clock has reached that millisecond.

The clock counts seconds in 63 bits, and a span that leads beyond its end bounds no wait
(`deadline?`). A timer is a task that sleeps, and no sleep is longer than thirty years, although the
clock goes on for much longer (`timerDue`).
-/

namespace Rendezvous

/-- Where the clock ends. -/
def clockEnd : Nat := 0x7ffffffffffffffe * 1000000000

/-- The last millisecond that a deadline can have. -/
def lastTick : Nat := 0xfffffffffffffffd

/-- The deadline at a point in time. -/
def tickAt (time : Nat) : Nat := min ((time + 999999) / 1000000) lastTick

/-- Whether the clock has reached a deadline. -/
def isDue (now tick : Nat) : Bool := tick * 1000000 ≤ now

/-- The deadline of a wait that begins now; there is none if the clock ends first. -/
def deadline? (now : Nat) (d : Span) : Option Nat :=
  if now + d.toNanos < clockEnd then some (tickAt (now + d.toNanos)) else none

/-- The longest sleep: thirty years of 365 days. -/
def Span.thirtyYears : Span := .ofSecs (86400 * 365 * 30)

/-- The deadline of a timer that is set now. A longer span than the longest sleep is cut down to it,
wherever it ends: such a timer goes off early. -/
def timerDue (now : Nat) (d : Span) : Nat :=
  tickAt (now + min d.toNanos Span.thirtyYears.toNanos)

/-! ## When deadlines are due -/

/-- Sixty years are cut down to thirty. -/
example : timerDue 0 (.ofSecs (86400 * 365 * 60)) * 1000000 = Span.thirtyYears.toNanos := by decide

end Rendezvous
