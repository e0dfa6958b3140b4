import Mathlib.Data.List.Sort
import Rendezvous.Data.Table
import Rendezvous.Proofs.Roles

/-!
# What is found in tables

A pair is in a table that has no key twice exactly if it is found under its key
(`Keyed.mem_iff_get?`), so what is found says which pairs there are (`Keyed.perm`).

A table of roles whose keys are in order has no key twice. `put` and `erase` keep the order, and
what is found says which table it is (`Ordered.ext`), also behind a change of all values (`get?_map`,
`get?_filter`). A sum over its values changes with the value that is put or taken out (`total_put`,
`total_erase`).
-/

namespace Rendezvous.Table

section Keyed

variable {κ α : Type} [DecidableEq κ] {t t' : Table κ α}

/-! ## Tables without repeats -/

/-- No key is in a table twice. -/
def Keyed (t : Table κ α) : Prop := t.Pairwise (·.1 ≠ ·.1)

theorem Keyed.erase (h : t.Keyed) (k : κ) : (t.erase k).Keyed := List.Pairwise.filter _ h

theorem Keyed.set (h : t.Keyed) (k : κ) (a : α) : (t.set k a).Keyed := by
  refine List.pairwise_cons.mpr ⟨fun p hp => ?_, h.erase k⟩
  exact Ne.symm (of_decide_eq_true (List.mem_filter.mp hp).2)

theorem Keyed.mem_iff_get? (h : t.Keyed) {k : κ} {a : α} : (k, a) ∈ t ↔ t.get? k = some a := by
  induction t with
  | nil => simp
  | cons p rest ih =>
    obtain ⟨hp, hrest⟩ := List.pairwise_cons.mp h
    rw [List.mem_cons, ih hrest, get?_cons]
    split
    · next hk =>
      subst hk
      -- what is found behind the pair has another key
      have hnone : get? rest p.1 ≠ some a := fun ha => hp _ ((ih hrest).mpr ha) rfl
      simp [hnone, Prod.ext_iff, @eq_comm _ a]
    · next hk => simp [Prod.ext_iff, Ne.symm hk]

/-- Tables in which the same is found have the same pairs. -/
theorem Keyed.perm (h : t.Keyed) (h' : t'.Keyed) (hget : ∀ k, t.get? k = t'.get? k) :
    t.Perm t' := by
  have hnodup : ∀ {t : Table κ α}, t.Keyed → t.Nodup :=
    fun h => h.imp fun hne => mt (congrArg Prod.fst) hne
  refine (List.perm_ext_iff_of_nodup (hnodup h) (hnodup h')).mpr fun p => ?_
  rw [h.mem_iff_get?, h'.mem_iff_get?, hget]

/-- A table in which nothing is found is empty. -/
theorem eq_nil_of_get? (h : ∀ k, t.get? k = none) : t = [] := by
  cases t with
  | nil => rfl
  | cons p rest =>
    have hp := h p.1
    rw [get?_cons, if_pos rfl] at hp
    cases hp

end Keyed

variable {α : Type} {t : Table Role α} {k : Role} {a : α}

/-! ## Tables in order -/

/-- The keys of a table are in order, without repeats. -/
def Ordered (t : Table Role α) : Prop := t.Pairwise (·.1 < ·.1)

theorem Ordered.erase (h : t.Ordered) (k : Role) : (t.erase k).Ordered := h.filter _

theorem mem_put {p : Role × α} (h : p ∈ t.put k a) : p = (k, a) ∨ p ∈ t := by
  induction t with
  | nil => exact Or.inl (List.mem_singleton.mp h)
  | cons q rest ih =>
    unfold put at h
    split at h
    · exact List.mem_cons.mp h
    · split at h
      · rcases List.mem_cons.mp h with h | h
        · exact Or.inl h
        · exact Or.inr (List.mem_cons_of_mem q h)
      · rcases List.mem_cons.mp h with rfl | h
        · exact Or.inr List.mem_cons_self
        · exact (ih h).imp id (List.mem_cons_of_mem q)

theorem Ordered.put (h : t.Ordered) (k : Role) (a : α) : (t.put k a).Ordered := by
  induction t with
  | nil => exact List.pairwise_singleton _ _
  | cons q rest ih =>
    obtain ⟨hq, hrest⟩ := List.pairwise_cons.mp h
    unfold Table.put
    split
    · next hlt =>
      refine List.pairwise_cons.mpr ⟨?_, h⟩
      intro p hp
      rcases List.mem_cons.mp hp with rfl | hp
      · exact hlt
      · exact Role.lt_trans hlt (hq p hp)
    · next hlt =>
      split
      · next heq => exact List.pairwise_cons.mpr ⟨fun p hp => heq ▸ hq p hp, hrest⟩
      · next hne =>
        refine List.pairwise_cons.mpr ⟨?_, ih hrest⟩
        intro p hp
        rcases mem_put hp with rfl | hp
        · exact Role.lt_of_not_lt_of_ne hlt hne
        · exact hq p hp

/-- Of two values that are put under a key the second one stays. -/
theorem put_put (t : Table Role α) (k : Role) (a b : α) : (t.put k a).put k b = t.put k b := by
  induction t with
  | nil => simp [put, Role.lt_irrefl]
  | cons p rest ih =>
    by_cases hlt : k < p.1
    · simp [put, hlt, Role.lt_irrefl]
    · by_cases heq : k = p.1
      · simp [put, heq, Role.lt_irrefl]
      · simp [put, hlt, heq, ih]

/-- A key that is less than all others is not in the table. -/
theorem get?_of_forall_lt (h : ∀ p ∈ t, k < p.1) : t.get? k = none := by
  unfold get?
  rw [List.find?_eq_none.mpr, Option.map_none]
  intro p hp he
  exact Role.ne_of_lt (h p hp) (of_decide_eq_true he).symm

theorem Ordered.keyed (h : t.Ordered) : t.Keyed := h.imp Role.ne_of_lt

theorem mem_iff_get? (h : t.Ordered) : (k, a) ∈ t ↔ t.get? k = some a := h.keyed.mem_iff_get?

/-- Tables in order in which the same is found are the same. -/
theorem Ordered.ext {t' : Table Role α} (h : t.Ordered) (h' : t'.Ordered)
    (heq : ∀ k, t.get? k = t'.get? k) : t = t' := by
  have : Std.Asymm fun p q : Role × α => p.1 < q.1 :=
    ⟨fun p _ hpq hqp => Role.lt_irrefl p.1 (Role.lt_trans hpq hqp)⟩
  have : Std.Irrefl fun p q : Role × α => p.1 < q.1 := ⟨fun p => Role.lt_irrefl p.1⟩
  refine List.Pairwise.eq_of_mem_iff h h' fun p => ?_
  rw [mem_iff_get? h, mem_iff_get? h', heq]

/-! ## All values at once -/

theorem get?_map {β : Type} (t : Table Role α) (f : α → β) (k : Role) :
    get? (t.map fun p => (p.1, f p.2)) k = (t.get? k).map f := by
  induction t with
  | nil => rfl
  | cons p rest ih =>
    rw [List.map_cons, get?_cons, get?_cons, ih]
    split <;> rfl

theorem Ordered.map {β : Type} (h : t.Ordered) (f : α → β) :
    Ordered (t.map fun p => (p.1, f p.2)) :=
  List.pairwise_map.mpr h

theorem get?_filter (h : t.Ordered) (p : α → Bool) (k : Role) :
    get? (t.filter fun q => p q.2) k = (t.get? k).filter p := by
  induction t with
  | nil => rfl
  | cons q rest ih =>
    obtain ⟨hq, hrest⟩ := List.pairwise_cons.mp h
    rw [List.filter_cons, get?_cons]
    by_cases hk : q.1 = k
    · -- no other pair has this key, whether this one stays or not
      have hnone : get? rest k = none := get?_of_forall_lt fun x hx => hk ▸ hq x hx
      have hrestNone := ih hrest
      rw [hnone] at hrestNone
      rw [if_pos hk, Option.filter_some]
      split
      · rw [get?_cons, if_pos hk]
      · exact hrestNone
    · rw [if_neg hk, ← ih hrest]
      split
      · rw [get?_cons, if_neg hk]
      · rfl

/-! ## Sums -/

variable (f : α → Nat)

theorem erase_of_get?_eq_none (h : t.get? k = none) : t.erase k = t := by
  refine List.filter_eq_self.mpr fun p hp => decide_eq_true fun he => ?_
  have hnone := List.find?_eq_none.mp (Option.map_eq_none_iff.mp h) p hp
  exact hnone (decide_eq_true he)

theorem total_erase (h : t.Ordered) (k : Role) :
    (t.erase k).total f + ((t.get? k).map f).getD 0 = t.total f := by
  induction t with
  | nil => rfl
  | cons p rest ih =>
    obtain ⟨hp, hrest⟩ := List.pairwise_cons.mp h
    have ih := ih hrest
    rw [get?_cons]
    by_cases hk : p.1 = k
    · -- no other pair has this key
      have hnone : get? rest k = none := get?_of_forall_lt fun q hq => hk ▸ hp q hq
      have herase : Table.erase (p :: rest) k = rest := by
        unfold Table.erase
        rw [List.filter_cons_of_neg (by simp [hk])]
        exact erase_of_get?_eq_none hnone
      rw [herase, if_pos hk]
      simp only [Option.map_some, Option.getD_some, total_cons]
      omega
    · have herase : Table.erase (p :: rest) k = p :: Table.erase rest k := by
        unfold Table.erase
        rw [List.filter_cons_of_pos (by simp [hk])]
      rw [herase, if_neg hk]
      simp only [total_cons]
      omega

theorem total_put (h : t.Ordered) (k : Role) (a : α) :
    (t.put k a).total f + ((t.get? k).map f).getD 0 = t.total f + f a := by
  induction t with
  | nil => exact Nat.add_comm (f a) 0
  | cons p rest ih =>
    obtain ⟨hp, hrest⟩ := List.pairwise_cons.mp h
    have ih := ih hrest
    rw [get?_cons]
    unfold put
    split
    · next hlt =>
      have hnone : get? rest k = none := get?_of_forall_lt fun q hq => Role.lt_trans hlt (hp q hq)
      rw [if_neg (Role.ne_of_lt hlt).symm, hnone]
      simp only [total_cons, Option.map_none, Option.getD_none]
      omega
    · split
      · next heq =>
        rw [if_pos heq.symm]
        simp only [total_cons, Option.map_some, Option.getD_some]
        omega
      · next hne =>
        rw [if_neg (Ne.symm hne)]
        simp only [total_cons]
        omega

end Rendezvous.Table
