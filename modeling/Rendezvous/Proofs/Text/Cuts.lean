import Mathlib.Data.List.Infix
import Rendezvous.Text.Split

/-!
# Where a text is cut

A cut at the first occurrence of a separator leaves it out of what stands before
(`not_infix_of_cutAt`). The other way round, a separator that does not occur in a text might still
begin within it and reach into what follows; one that overlaps with no shifted copy of itself
(`Unbordered`) cannot, so a text that is put together around it is cut there again
(`cutAt_eq_some_iff`). A cut at the last occurrence of a character is known by what stands behind
(`cutAtLast_eq_some_iff`).
-/

namespace Rendezvous.Text

variable {α : Type} {sep cs before behind : List α} {x : α}

/-! ## Separators -/

/-- No end of the separator is also a beginning of it, but for the trivial ones. -/
def Unbordered (sep : List α) : Prop := ∀ t ∈ sep.tails, t <+: sep → t = [] ∨ t = sep

/-- A separator that does not occur in `before` does not begin there either. -/
theorem Unbordered.not_prefix_append (hu : Unbordered sep) (hb : ¬ sep <:+: before)
    (hne : before ≠ []) : ¬ sep <+: before ++ (sep ++ behind) := by
  intro hstart
  rcases List.prefix_or_prefix_of_prefix hstart (List.prefix_append before _) with hin | ⟨t, ht⟩
  · exact hb hin.isInfix
  · -- what reaches out of `before` is an end of the separator and a beginning of it
    have hsuffix : t <:+ sep := ⟨before, ht⟩
    have hbegin : t <+: sep ++ behind :=
      (List.prefix_append_right_inj before).mp (ht.symm ▸ hstart)
    have hborder : t <+: sep :=
      List.prefix_of_prefix_length_le hbegin (List.prefix_append sep behind) hsuffix.length_le
    rcases hu t ((List.mem_tails t sep).mpr hsuffix) hborder with rfl | rfl
    · rw [List.append_nil] at ht
      exact hb (ht ▸ List.infix_rfl)
    · exact hne (List.append_left_eq_self.mp ht)

variable [DecidableEq α]

instance (sep : List α) : Decidable (Unbordered sep) :=
  inferInstanceAs (Decidable (∀ t ∈ sep.tails, t <+: sep → t = [] ∨ t = sep))

/-! ## The first occurrence -/

theorem dropLead?_eq_none_iff {lead : List α} : dropLead? lead cs = none ↔ ¬ lead <+: cs := by
  constructor
  · rintro h ⟨rest, rfl⟩
    rw [dropLead?_append] at h
    cases h
  · intro h
    cases hd : dropLead? lead cs with
    | none => rfl
    | some rest => exact absurd ⟨rest, (eq_of_dropLead? hd).symm⟩ h

/-- What stands before the first occurrence is free of the separator. -/
theorem not_infix_of_cutAt (hsep : sep ≠ []) (h : cutAt sep cs = some (before, behind)) :
    ¬ sep <:+: before := by
  induction cs generalizing before with
  | nil =>
    obtain ⟨_, _, he⟩ := Option.map_eq_some_iff.mp h
    cases he
    exact fun hin => hsep (List.infix_nil.mp hin)
  | cons c cs ih =>
    unfold cutAt at h
    split at h
    · cases h
      exact fun hin => hsep (List.infix_nil.mp hin)
    · next hlead =>
      obtain ⟨⟨p, q⟩, hp, he⟩ := Option.map_eq_some_iff.mp h
      cases he
      intro hin
      rcases List.infix_cons_iff.mp hin with hstart | hin
      · -- the separator would begin right here, where the cut was not made
        refine dropLead?_eq_none_iff.mp hlead (hstart.trans ?_)
        rw [eq_of_cutAt hp, List.append_assoc]
        exact List.prefix_append (c :: p) _
      · exact ih hp hin

theorem cutAt_eq_none_iff (hsep : sep ≠ []) : cutAt sep cs = none ↔ ¬ sep <:+: cs := by
  induction cs with
  | nil => cases sep with
    | nil => exact absurd rfl hsep
    | cons x sep => simp [cutAt, dropLead?]
  | cons c cs ih =>
    rw [List.infix_cons_iff, not_or, ← dropLead?_eq_none_iff, ← ih, cutAt]
    split
    · next hd => simp [hd]
    · next hd => simp [hd]

theorem cutAt_append (hsep : sep ≠ []) (hu : Unbordered sep) (hb : ¬ sep <:+: before) :
    cutAt sep (before ++ (sep ++ behind)) = some (before, behind) := by
  induction before with
  | nil =>
    cases sep with
    | nil => exact absurd rfl hsep
    | cons x sep =>
      have hlead := dropLead?_append (x :: sep) behind
      rw [List.cons_append] at hlead
      rw [List.nil_append, List.cons_append, cutAt, hlead]
  | cons c before ih =>
    have hstart : ¬ sep <+: c :: before ++ (sep ++ behind) :=
      hu.not_prefix_append hb (List.cons_ne_nil c before)
    have hlead := dropLead?_eq_none_iff.mpr hstart
    rw [List.cons_append] at hlead
    rw [List.cons_append, cutAt, hlead]
    dsimp only
    rw [ih fun hin => hb (List.infix_cons hin), Option.map_some]

/-- A text is cut where it can be put together again, with no separator before the cut. -/
theorem cutAt_eq_some_iff (hsep : sep ≠ []) (hu : Unbordered sep) :
    cutAt sep cs = some (before, behind) ↔ cs = before ++ (sep ++ behind) ∧ ¬ sep <:+: before := by
  constructor
  · intro h
    exact ⟨by rw [eq_of_cutAt h, List.append_assoc], not_infix_of_cutAt hsep h⟩
  · rintro ⟨rfl, hb⟩
    exact cutAt_append hsep hu hb

/-! ## The last occurrence -/

theorem cutAtLast_append (hb : x ∉ behind) :
    cutAtLast x (before ++ x :: behind) = some (before, behind) := by
  induction before with
  | nil => rw [List.nil_append, cutAtLast, cutAtLast_eq_none_iff.mpr hb, if_pos rfl]
  | cons c before ih => rw [List.cons_append, cutAtLast, ih]

theorem cutAtLast_eq_some_iff :
    cutAtLast x cs = some (before, behind) ↔ cs = before ++ x :: behind ∧ x ∉ behind := by
  constructor
  · exact fun h => ⟨eq_of_cutAtLast h, not_mem_of_cutAtLast h⟩
  · rintro ⟨rfl, hb⟩
    exact cutAtLast_append hb

end Rendezvous.Text
