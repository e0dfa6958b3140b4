import Rendezvous.Text.Decimal

/-!
# What numerals say

A numeral is read if it is a non-empty run of ASCII digits, and its value is that of these digits in
base ten (`read?_eq_some_iff`). The numeral that is written is the one without leading zeros
(`digits_eq_toDigits`).
-/

namespace Rendezvous.Decimal

variable {c : Char} {cs : List Char} {d n acc : Nat}

theorem digitValue?_of_isDigit (h : c.isDigit = true) :
    digitValue? c = some (c.toNat - '0'.toNat) := if_pos (Char.isDigit_iff_toNat.mp h)

theorem digitValue?_of_not_isDigit (h : c.isDigit = false) : digitValue? c = none := by
  refine if_neg fun hrange => ?_
  rw [Char.isDigit_iff_toNat.mpr hrange] at h
  cases h

/-- Digits are read from the left, one more place at a time. -/
theorem readFrom?_eq (acc : Nat) (cs : List Char) :
    readFrom? acc cs = if cs.all Char.isDigit then some (Nat.ofDigitChars 10 cs acc) else none := by
  induction cs generalizing acc with
  | nil => rfl
  | cons c cs ih =>
    rw [readFrom?, List.all_cons, Nat.ofDigitChars_cons]
    cases hc : c.isDigit with
    | true =>
      rw [digitValue?_of_isDigit hc, Option.bind_some, ih]
      rfl
    | false =>
      rw [digitValue?_of_not_isDigit hc]
      rfl

theorem read?_eq_some_iff : read? cs = some n ↔
    cs ≠ [] ∧ (∀ c ∈ cs, c.isDigit = true) ∧ Nat.ofDigitChars 10 cs 0 = n := by
  cases cs with
  | nil => simp [read?]
  | cons c cs =>
    show readFrom? 0 (c :: cs) = some n ↔ _
    rw [readFrom?_eq, ← List.all_eq_true]
    split
    · next hall => simp [hall]
    · next hall => simp [hall]

theorem digitChar_eq (h : d < 10) : digitChar d = d.digitChar := by
  have hall : ∀ e ∈ List.range 10, digitChar e = e.digitChar := by decide
  exact hall d (List.mem_range.mpr h)

theorem digits_eq_toDigits (n : Nat) : digits n = Nat.toDigits 10 n := by
  fun_induction digits n with
  | case1 n h => rw [digitChar_eq h, Nat.toDigits_of_lt_base h]
  | case2 n h ih =>
    rw [ih, digitChar_eq (Nat.mod_lt n (by decide)),
      Nat.toDigits_of_base_le (by decide) (Nat.le_of_not_lt h)]

end Rendezvous.Decimal
