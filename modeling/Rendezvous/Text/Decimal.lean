/-!
# Decimal numerals

Natural numbers written with ASCII digits and no leading zero, and the reader that accepts any
non-empty run of ASCII digits. Reading a written number gives it back (`read?_digits`).
-/

namespace Rendezvous.Decimal

/-! ## Digits -/

/-- The character of a digit below ten. -/
def digitChar (d : Nat) : Char := Char.ofNat (48 + d)

/-- The value of an ASCII digit. -/
def digitValue? (c : Char) : Option Nat :=
  if 48 ≤ c.toNat ∧ c.toNat ≤ 57 then some (c.toNat - 48) else none

theorem digitValue?_digitChar {d : Nat} (h : d < 10) : digitValue? (digitChar d) = some d := by
  have hall : ∀ e ∈ List.range 10, digitValue? (digitChar e) = some e := by decide
  exact hall d (List.mem_range.mpr h)

/-! ## Writing -/

/-- The shortest decimal numeral of `n`. -/
def digits (n : Nat) : List Char :=
  if n < 10 then [digitChar n] else digits (n / 10) ++ [digitChar (n % 10)]
termination_by n
decreasing_by omega

theorem digits_ne_nil (n : Nat) : digits n ≠ [] := by
  unfold digits
  split <;> simp

/-- The numeral of `n` as text. -/
def text (n : Nat) : String := String.ofList (digits n)

/-- The numeral of `n`, filled up with zeros on the left to `width` digits. -/
def padded (width n : Nat) : List Char :=
  List.replicate (width - (digits n).length) '0' ++ digits n

/-! ## Reading -/

/-- Reads further digits behind the value `acc`. -/
def readFrom? (acc : Nat) : List Char → Option Nat
  | [] => some acc
  | c :: rest => (digitValue? c).bind fun d => readFrom? (10 * acc + d) rest

/-- Reads a non-empty run of ASCII digits; leading zeros are allowed. -/
def read? : List Char → Option Nat
  | [] => none
  | cs => readFrom? 0 cs

theorem readFrom?_append (acc : Nat) (as bs : List Char) :
    readFrom? acc (as ++ bs) = (readFrom? acc as).bind (readFrom? · bs) := by
  induction as generalizing acc with
  | nil => rfl
  | cons c rest ih =>
    simp only [List.cons_append, readFrom?, Option.bind_assoc]
    congr 1
    funext d
    exact ih _

theorem readFrom?_digits (n : Nat) : readFrom? 0 (digits n) = some n := by
  fun_induction digits n with
  | case1 n h => simp [readFrom?, digitValue?_digitChar h]
  | case2 n h ih =>
    rw [readFrom?_append, ih]
    have hd : n % 10 < 10 := Nat.mod_lt _ (by decide)
    simp only [readFrom?, Option.bind_some, digitValue?_digitChar hd]
    congr 1
    omega

theorem read?_digits (n : Nat) : read? (digits n) = some n := by
  rw [← readFrom?_digits n]
  unfold read?
  split
  · next h => exact absurd h (digits_ne_nil n)
  · rfl

end Rendezvous.Decimal
