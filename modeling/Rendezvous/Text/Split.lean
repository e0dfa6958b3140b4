/-!
# Cutting text at separators

`cutAt sep` cuts at the first occurrence of a separator, `cutAtLast c` at the last occurrence of
one character. What is cut can be put together again (`eq_of_cutAt`, `eq_of_cutAtLast`).
-/

namespace Rendezvous.Text

variable {α : Type} [DecidableEq α]

/-! ## The first occurrence -/

/-- `cs` without `lead`, if it starts with it. -/
def dropLead? : List α → List α → Option (List α)
  | [], cs => some cs
  | _ :: _, [] => none
  | x :: xs, c :: cs => if x = c then dropLead? xs cs else none

theorem dropLead?_append (lead rest : List α) : dropLead? lead (lead ++ rest) = some rest := by
  induction lead with
  | nil => rfl
  | cons x xs ih => simpa [dropLead?] using ih

theorem eq_of_dropLead? {lead cs rest : List α} (h : dropLead? lead cs = some rest) :
    cs = lead ++ rest := by
  induction lead generalizing cs with
  | nil => simpa [dropLead?] using h
  | cons x xs ih =>
    cases cs with
    | nil => simp [dropLead?] at h
    | cons c cs =>
      unfold dropLead? at h
      split at h
      · next hx => rw [hx, ih h]; rfl
      · simp at h

/-- What stands before and behind the first occurrence of `sep`. -/
def cutAt (sep : List α) : List α → Option (List α × List α)
  | [] => (dropLead? sep []).map ([], ·)
  | c :: cs =>
    match dropLead? sep (c :: cs) with
    | some rest => some ([], rest)
    | none => (cutAt sep cs).map fun p => (c :: p.1, p.2)

theorem eq_of_cutAt {sep cs before behind : List α} (h : cutAt sep cs = some (before, behind)) :
    cs = before ++ sep ++ behind := by
  induction cs generalizing before with
  | nil =>
    simp only [cutAt, Option.map_eq_some_iff, Prod.mk.injEq] at h
    obtain ⟨r, hr, rfl, rfl⟩ := h
    simpa using eq_of_dropLead? hr
  | cons c cs ih =>
    unfold cutAt at h
    split at h
    · next rest hd =>
      simp only [Option.some.injEq, Prod.mk.injEq] at h
      obtain ⟨rfl, rfl⟩ := h
      simpa using eq_of_dropLead? hd
    · simp only [Option.map_eq_some_iff, Prod.mk.injEq] at h
      obtain ⟨⟨p, q⟩, hp, rfl, rfl⟩ := h
      simp [ih hp]

/-! ## The last occurrence -/

/-- What stands before and behind the last occurrence of `x`. -/
def cutAtLast (x : α) : List α → Option (List α × List α)
  | [] => none
  | c :: cs =>
    match cutAtLast x cs with
    | some p => some (c :: p.1, p.2)
    | none => if c = x then some ([], cs) else none

theorem eq_of_cutAtLast {x : α} {cs before behind : List α}
    (h : cutAtLast x cs = some (before, behind)) : cs = before ++ x :: behind := by
  induction cs generalizing before with
  | nil => simp [cutAtLast] at h
  | cons c cs ih =>
    unfold cutAtLast at h
    split at h
    · next p hp =>
      obtain ⟨p, q⟩ := p
      simp only [Option.some.injEq, Prod.mk.injEq] at h
      obtain ⟨rfl, rfl⟩ := h
      simp [ih hp]
    · split at h
      · next hx =>
        simp only [Option.some.injEq, Prod.mk.injEq] at h
        obtain ⟨rfl, rfl⟩ := h
        simp [hx]
      · simp at h

theorem cutAtLast_eq_none_iff {x : α} {cs : List α} : cutAtLast x cs = none ↔ x ∉ cs := by
  induction cs with
  | nil => simp [cutAtLast]
  | cons c cs ih =>
    unfold cutAtLast
    split
    · next p hp =>
      have : x ∈ cs := by
        rw [← Decidable.not_not (p := x ∈ cs), ← ih]
        simp [hp]
      simp [this]
    · next hn =>
      have : x ∉ cs := ih.mp hn
      split
      · next hx => simp [hx]
      · next hx => simp [this, Ne.symm hx]

/-- The part behind the last occurrence is free of the separator. -/
theorem not_mem_of_cutAtLast {x : α} {cs before behind : List α}
    (h : cutAtLast x cs = some (before, behind)) : x ∉ behind := by
  induction cs generalizing before with
  | nil => simp [cutAtLast] at h
  | cons c cs ih =>
    unfold cutAtLast at h
    split at h
    · next p hp =>
      obtain ⟨p, q⟩ := p
      simp only [Option.some.injEq, Prod.mk.injEq] at h
      obtain ⟨rfl, rfl⟩ := h
      exact ih hp
    · next hn =>
      split at h
      · simp only [Option.some.injEq, Prod.mk.injEq] at h
        obtain ⟨rfl, rfl⟩ := h
        exact cutAtLast_eq_none_iff.mp hn
      · simp at h

end Rendezvous.Text
