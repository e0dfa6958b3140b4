import Rendezvous.Node.Roster
import Rendezvous.Proofs.Tables

/-!
# Who waits for a role

The handles that wait for a role (`parked`), behind each operation of the roster. In a sound roster
nobody waits for a role that is bound (`Sound.free`); as its lists of waiting handles are in order
and none of them is empty, forgetting a handle that waits for nothing changes nothing
(`Sound.dropInterest_eq`).
-/

namespace Rendezvous.Roster

variable {η : Type} {r : Roster η} {role : Role} {address : Address} {a : η}

/-- The handles that wait for a role, in the order they came. -/
def parked (r : Roster η) (role : Role) : List η := (r.waiting.get? role).getD []

/-- The waiting handles are kept in order, and none of them waits for a role that is bound. -/
structure Sound (r : Roster η) : Prop where
  ordered : r.waiting.Ordered
  nonempty : ∀ role, r.waiting.get? role ≠ some []
  free : ∀ role, (r.members.get? role).isSome → r.parked role = []

theorem sound_new : ({} : Roster η).Sound where
  ordered := List.Pairwise.nil
  nonempty := nofun
  free := nofun

theorem parked_of_waiting {r' : Roster η} (h : r'.waiting = r.waiting) :
    r'.parked = r.parked := by
  funext role
  rw [parked, h, ← parked]

/-- The bindings that are left are some of those that were there. -/
theorem Sound.of_members {r' : Roster η} (h : r.Sound) (hw : r'.waiting = r.waiting)
    (hm : ∀ role, (r'.members.get? role).isSome → (r.members.get? role).isSome) : r'.Sound where
  ordered := hw ▸ h.ordered
  nonempty := hw ▸ h.nonempty
  free role hr := by
    rw [parked_of_waiting hw]
    exact h.free role (hm role hr)

/-! ## Waiting -/

theorem parked_park (r : Roster η) (role role' : Role) (a : η) :
    (r.park role a).parked role' =
      if role' = role then r.parked role ++ [a] else r.parked role' := by
  unfold parked park
  rw [Table.get?_put]
  split <;> rfl

theorem Sound.park (h : r.Sound) (hfree : r.members.get? role = none) (a : η) :
    (r.park role a).Sound where
  ordered := h.ordered.put role _
  nonempty role' := by
    unfold Roster.park
    rw [Table.get?_put]
    split
    · simp
    · exact h.nonempty role'
  free role' hr := by
    have hne : role' ≠ role := by
      rintro rfl
      have hsome : (r.members.get? role').isSome := hr
      rw [hfree] at hsome
      cases hsome
    rw [parked_park, if_neg hne]
    exact h.free role' hr

/-! ## Registering -/

/-- Behind a registration nobody waits for the role, and all others wait as before. -/
theorem parked_of_erased {r' : Roster η} (h : r'.waiting = r.waiting.erase role) (role' : Role) :
    r'.parked role' = if role' = role then [] else r.parked role' := by
  unfold parked
  rw [h, Table.get?_erase]
  split <;> rfl

/-- A role that is bound is refused, and those who wait for it go on waiting. -/
theorem register_refused {r' : Roster η} {e : DuplicateRole}
    (h : r.register role address a = (r', .error e)) : r' = r := by
  unfold register at h
  split at h
  · exact (Prod.mk.inj h).1.symm
  · cases h

/-- A role that was free is bound, and those who waited for it are let go. -/
theorem register_ok {r' : Roster η} {waiting : List η}
    (h : r.register role address a = (r', .ok waiting)) :
    r.isRegistered role = false ∧ r'.members = r.members.put role ⟨address, a⟩ ∧
      waiting = r.parked role ∧ r'.waiting = r.waiting.erase role := by
  unfold register at h
  split at h
  · cases h
  · next hfree =>
    cases h
    exact ⟨Bool.eq_false_iff.mpr hfree, rfl, rfl, rfl⟩

theorem Sound.registered {r' : Roster η} {m : Member η} (h : r.Sound)
    (hm : r'.members = r.members.put role m) (hw : r'.waiting = r.waiting.erase role) :
    r'.Sound where
  ordered := hw ▸ h.ordered.erase role
  nonempty role' := by
    rw [hw, Table.get?_erase]
    split
    · exact (Option.some_ne_none []).symm
    · exact h.nonempty role'
  free role' hr := by
    rw [parked_of_erased hw]
    split
    · rfl
    · next hne =>
      rw [hm, Table.get?_put, if_neg hne] at hr
      exact h.free role' hr

/-! ## Giving up -/

/-- There is nothing to unbind of a role that is free. -/
theorem remove_of_free (h : r.members.get? role = none) : r.remove role = (r, none) := by
  rw [remove, h, Table.erase_of_get?_eq_none h]

theorem get?_waiting_dropInterest (h : r.waiting.Ordered) (gone : η → Bool) (role : Role) :
    (r.dropInterest gone).waiting.get? role =
      ((r.waiting.get? role).map (·.filter (!gone ·))).filter (!·.isEmpty) := by
  have hfilter := Table.get?_filter (h.map (·.filter (!gone ·))) (!·.isEmpty) role
  rwa [Table.get?_map] at hfilter

theorem parked_dropInterest (h : r.waiting.Ordered) (gone : η → Bool) (role : Role) :
    (r.dropInterest gone).parked role = (r.parked role).filter (!gone ·) := by
  unfold parked
  rw [get?_waiting_dropInterest h]
  cases r.waiting.get? role with
  | none => rfl
  | some hs =>
    rw [Option.map_some, Option.filter_some]
    cases hempty : (hs.filter (!gone ·)).isEmpty with
    | true => simp [List.isEmpty_iff.mp hempty]
    | false => rfl

theorem Sound.dropInterest (h : r.Sound) (gone : η → Bool) : (r.dropInterest gone).Sound where
  ordered := (h.ordered.map _).filter _
  nonempty role := by
    rw [get?_waiting_dropInterest h.ordered]
    intro he
    exact absurd (Option.filter_eq_some_iff.mp he).2 (by simp)
  free role hr := by
    rw [parked_dropInterest h.ordered, h.free role hr, List.filter_nil]

/-- Nothing changes if nobody who waits has the property. -/
theorem Sound.dropInterest_eq (h : r.Sound) {gone : η → Bool}
    (hnone : ∀ role, ∀ a ∈ r.parked role, gone a = false) : r.dropInterest gone = r := by
  have hlists : ∀ p ∈ r.waiting, p.2.filter (!gone ·) = p.2 := by
    intro p hp
    have hget := (Table.mem_iff_get? h.ordered).mp hp
    refine List.filter_eq_self.mpr fun a ha => ?_
    rw [hnone p.1 a (by rw [parked, hget]; exact ha)]
    rfl
  have hmap : r.waiting.map (fun p => (p.1, p.2.filter (!gone ·))) = r.waiting := by
    calc r.waiting.map (fun p => (p.1, p.2.filter (!gone ·)))
        = r.waiting.map id := List.map_congr_left fun p hp => by rw [hlists p hp, id]
      _ = r.waiting := List.map_id _
  have hkept : ∀ p ∈ r.waiting, (!p.2.isEmpty) = true := by
    intro p hp
    have hget := (Table.mem_iff_get? h.ordered).mp hp
    refine Bool.not_eq_true' _ ▸ Bool.eq_false_iff.mpr fun hempty => h.nonempty p.1 ?_
    rw [hget, List.isEmpty_iff.mp hempty]
  have hwaiting : (r.dropInterest gone).waiting = r.waiting := by
    show (r.waiting.map fun p => (p.1, p.2.filter (!gone ·))).filter (!·.2.isEmpty) = r.waiting
    rw [hmap]
    exact List.filter_eq_self.mpr hkept
  show (⟨r.members, (r.dropInterest gone).waiting⟩ : Roster η) = r
  rw [hwaiting]

/-- Nobody waits if there is nobody to wait for. -/
theorem Sound.waiting_eq_nil (h : r.Sound) (hnone : ∀ role, r.parked role = []) :
    r.waiting = [] := by
  refine Table.eq_nil_of_get? fun role => ?_
  cases hw : r.waiting.get? role with
  | none => rfl
  | some hs =>
    have hempty := hnone role
    rw [parked, hw] at hempty
    exact absurd (hw.trans (congrArg some hempty)) (h.nonempty role)

end Rendezvous.Roster
