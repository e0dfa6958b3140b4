import Rendezvous.Node.Role

/-!
# Sets of roles

A set of roles is a list in order without repeats. `insert` and `sortedSet` build such lists
(`pairwise_insert`, `pairwise_sortedSet`), so the length of a set is its size, and two sets of which
one holds the other have the same members as soon as they have the same length
(`subset_of_length_le`).
-/

namespace Rendezvous.Role

variable {r s : Role} {roles : List Role}

/-! ## Order -/

theorem lt_of_not_lt_of_ne (h : ¬r < s) (hne : r ≠ s) : s < r := by
  have hle : s.name ≤ r.name := String.not_lt.mp h
  refine String.not_le.mp fun hge => hne ?_
  cases r
  cases s
  simp only [mk.injEq]
  exact String.le_antisymm hge hle

theorem ne_of_lt (h : r < s) : r ≠ s := fun he => lt_irrefl s (he ▸ h)

/-! ## Building sets -/

theorem pairwise_insert (h : roles.Pairwise (· < ·)) : (insert r roles).Pairwise (· < ·) := by
  induction roles with
  | nil => simp [insert]
  | cons s rest ih =>
    obtain ⟨hs, hrest⟩ := List.pairwise_cons.mp h
    unfold insert
    split
    · next hlt =>
      refine List.pairwise_cons.mpr ⟨?_, h⟩
      intro x hx
      rcases List.mem_cons.mp hx with rfl | hx
      · exact hlt
      · exact lt_trans hlt (hs x hx)
    · next hlt =>
      split
      · exact h
      · next hne =>
        refine List.pairwise_cons.mpr ⟨?_, ih hrest⟩
        intro x hx
        rcases mem_insert.mp hx with rfl | hx
        · exact lt_of_not_lt_of_ne hlt hne
        · exact hs x hx

/-- A role that is in a set already is not put there again. -/
theorem insert_of_mem (h : roles.Pairwise (· < ·)) (hr : r ∈ roles) : insert r roles = roles := by
  induction roles with
  | nil => cases hr
  | cons s rest ih =>
    obtain ⟨hs, hrest⟩ := List.pairwise_cons.mp h
    unfold insert
    rcases List.mem_cons.mp hr with rfl | hm
    · rw [if_neg (lt_irrefl r), if_pos rfl]
    · have hlt := hs r hm
      rw [if_neg fun hc => lt_irrefl r (lt_trans hc hlt), if_neg (ne_of_lt hlt).symm, ih hrest hm]

theorem pairwise_sortedSet (roles : List Role) : (sortedSet roles).Pairwise (· < ·) := by
  induction roles with
  | nil => exact List.Pairwise.nil
  | cons r rest ih => exact pairwise_insert ih

theorem nodup_of_pairwise (h : roles.Pairwise (· < ·)) : roles.Nodup :=
  h.imp ne_of_lt

/-! ## Sizes -/

/-- A set without repeats that lies in another one and is not smaller holds all of it. -/
theorem subset_of_length_le {some all : List Role} (hn : some.Nodup) (hs : some ⊆ all)
    (hl : all.length ≤ some.length) : all ⊆ some := by
  intro x hx
  by_cases hm : x ∈ some
  · exact hm
  · exfalso
    have hn' : (x :: some).Nodup := List.nodup_cons.mpr ⟨hm, hn⟩
    have hle := hn'.length_le_of_subset (List.cons_subset.mpr ⟨hx, hs⟩)
    simp only [List.length_cons] at hle
    omega

/-- A set that lies in another one and is smaller misses a member of it. -/
theorem exists_not_mem_of_length_lt {some all : List Role} (hn : all.Nodup)
    (hl : some.length < all.length) : ∃ x ∈ all, x ∉ some := by
  by_cases h : all ⊆ some
  · have := hn.length_le_of_subset h
    omega
  · simpa [List.subset_def] using h

end Rendezvous.Role
