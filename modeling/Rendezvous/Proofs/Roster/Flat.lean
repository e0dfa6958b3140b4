import Mathlib.Data.Finmap
import Rendezvous.Proofs.Roster

/-!
# The roster as a map and a list

A flat roster is one finite map of bindings and one list of pairs, of a role and a handle that waits
for it, in the order they came. What it does is said case by case (`Flat.Step`), with one answer and
one outcome for each operation (`Flat.Step.unique`).

A roster keeps one list of handles for each role instead. It goes with a flat one if it finds the
same bindings and each of its lists is what the flat list holds for the role (`Refines`); every step
keeps this (`Refines.step`). So a run of a roster and the run of the flat one give the same answers,
and behind them all that can be read is the same (`run_flat`).
-/

namespace Rendezvous.Roster

variable {η : Type}

/-! ## Operations -/

/-- What a roster can be asked to do. -/
inductive Operation (η : Type) where
  | register (role : Role) (address : Address) (handle : η)
  | unregister (role : Role) (owns : η → Bool)
  | remove (role : Role)
  | park (role : Role) (handle : η)
  | dropInterest (gone : η → Bool)
  | drain

/-- What a roster answers. -/
inductive Answer (η : Type) where
  | refused (e : DuplicateRole)
  | released (handles : List η)
  | unbound (member : Option (Member η))
  | drained (members : List (Role × Member η))
  | done

/-- The answer of a roster, and the roster behind it, whether it refused or not. -/
def step (r : Roster η) : Operation η → Answer η × Roster η
  | .register role address handle =>
    match r.register role address handle with
    | (r', .ok handles) => (.released handles, r')
    | (r', .error e) => (.refused e, r')
  | .unregister role owns =>
    let (r', member) := r.unregister role owns
    (.unbound member, r')
  | .remove role =>
    let (r', member) := r.remove role
    (.unbound member, r')
  | .park role handle => (.done, r.park role handle)
  | .dropInterest gone => (.done, r.dropInterest gone)
  | .drain => (.drained r.drain.1, r.drain.2)

/-- The answers to some operations, and the roster behind them. -/
def run (r : Roster η) : List (Operation η) → List (Answer η) × Roster η
  | [] => ([], r)
  | op :: ops =>
    let rest := (r.step op).2.run ops
    ((r.step op).1 :: rest.1, rest.2)

/-! ## Flat rosters -/

/-- A finite map of bindings, and who waits for which role in the order they came. -/
structure Flat (η : Type) where
  bound : Finmap fun _ : Role => Member η := ∅
  waiting : List (Role × η) := []

namespace Flat

/-- The handles that wait for a role. -/
def parked (s : Flat η) (role : Role) : List η := (s.waiting.filter (·.1 = role)).map (·.2)

/-- What a flat roster does. -/
inductive Step (s : Flat η) : Operation η → Answer η → Flat η → Prop
  /-- A role that is bound stays so. -/
  | refused {role address handle} (h : role ∈ s.bound) :
    Step s (.register role address handle) (.refused ⟨role⟩) s
  /-- A role that is newly bound lets go all who waited for it. -/
  | registered {role address handle} (h : role ∉ s.bound) :
    Step s (.register role address handle) (.released (s.parked role))
      ⟨s.bound.insert role ⟨address, handle⟩, s.waiting.filter (·.1 ≠ role)⟩
  | unregistered {role owns m} (h : s.bound.lookup role = some m) (ho : owns m.handle = true) :
    Step s (.unregister role owns) (.unbound (some m)) { s with bound := s.bound.erase role }
  | kept {role owns} (h : ∀ m, s.bound.lookup role = some m → owns m.handle = false) :
    Step s (.unregister role owns) (.unbound none) s
  | removed {role m} (h : s.bound.lookup role = some m) :
    Step s (.remove role) (.unbound (some m)) { s with bound := s.bound.erase role }
  | missing {role} (h : role ∉ s.bound) : Step s (.remove role) (.unbound none) s
  | parked {role handle} :
    Step s (.park role handle) .done { s with waiting := s.waiting ++ [(role, handle)] }
  | dropped {gone} :
    Step s (.dropInterest gone) .done { s with waiting := s.waiting.filter (!gone ·.2) }
  /-- All bindings are handed out in the order of their roles, and nobody waits any longer. -/
  | drained {members : List (Role × Member η)} (ho : members.Pairwise (·.1 < ·.1))
    (h : ∀ role m, (role, m) ∈ members ↔ s.bound.lookup role = some m) :
    Step s .drain (.drained members) {}

/-- The answers of a flat roster to some operations. -/
inductive Run : Flat η → List (Operation η) → List (Answer η) → Flat η → Prop
  | nil {s} : Run s [] [] s
  | cons {s s' t op ops answer answers} (h : Step s op answer s') (hr : Run s' ops answers t) :
    Run s (op :: ops) (answer :: answers) t

variable {s t t' : Flat η} {op : Operation η} {ops : List (Operation η)} {a a' : Answer η}
  {as as' : List (Answer η)}

theorem Step.unique (h : s.Step op a t) (h' : s.Step op a' t') : a = a' ∧ t = t' := by
  cases h with
  | refused hb =>
    cases h' with
    | refused => exact ⟨rfl, rfl⟩
    | registered hb' => exact absurd hb hb'
  | registered hb =>
    cases h' with
    | refused hb' => exact absurd hb' hb
    | registered => exact ⟨rfl, rfl⟩
  | unregistered hm ho =>
    cases h' with
    | unregistered hm' => simp_all
    | kept hk => simp [hk _ hm] at ho
  | kept hk =>
    cases h' with
    | unregistered hm ho => simp [hk _ hm] at ho
    | kept => exact ⟨rfl, rfl⟩
  | removed hm =>
    cases h' with
    | removed hm' => simp_all
    | missing hb => simp [Finmap.lookup_eq_none.mpr hb] at hm
  | missing hb =>
    cases h' with
    | removed hm => simp [Finmap.lookup_eq_none.mpr hb] at hm
    | missing => exact ⟨rfl, rfl⟩
  | parked =>
    cases h'
    exact ⟨rfl, rfl⟩
  | dropped =>
    cases h'
    exact ⟨rfl, rfl⟩
  | @drained members ho hm =>
    cases h' with
    | @drained members' ho' hm' =>
      have hget : ∀ role, Table.get? members role = Table.get? members' role := by
        intro role
        ext m
        rw [← Table.mem_iff_get? ho, ← Table.mem_iff_get? ho', hm, hm']
      rw [Table.Ordered.ext ho ho' hget]
      exact ⟨rfl, rfl⟩

theorem Run.unique (h : s.Run ops as t) (h' : s.Run ops as' t') : as = as' ∧ t = t' := by
  induction h generalizing as' t' with
  | nil =>
    cases h'
    exact ⟨rfl, rfl⟩
  | cons hs _ ih =>
    obtain _ | ⟨hs', hr'⟩ := h'
    obtain ⟨rfl, rfl⟩ := hs.unique hs'
    obtain ⟨rfl, rfl⟩ := ih hr'
    exact ⟨rfl, rfl⟩

end Flat

/-! ## Rosters and flat rosters -/

/-- A roster that goes with a flat one. -/
structure Refines (r : Roster η) (s : Flat η) : Prop where
  members : r.members.Ordered
  waiting : r.waiting.Ordered
  lookup : ∀ role, r.members.get? role = s.bound.lookup role
  parked : ∀ role, r.parked role = s.parked role

variable {r : Roster η} {s : Flat η} {role : Role} {m : Member η}

theorem refines_new : ({} : Roster η).Refines {} where
  members := List.Pairwise.nil
  waiting := List.Pairwise.nil
  lookup _ := rfl
  parked _ := rfl

theorem Refines.isRegistered (h : r.Refines s) (role : Role) :
    r.isRegistered role = true ↔ role ∈ s.bound := by
  rw [Roster.isRegistered, Table.has_eq_isSome, h.lookup, Finmap.lookup_isSome]

theorem Refines.register (h : r.Refines s) :
    Refines ⟨r.members.put role m, r.waiting.erase role⟩
      ⟨s.bound.insert role m, s.waiting.filter (·.1 ≠ role)⟩ where
  members := h.members.put role m
  waiting := h.waiting.erase role
  lookup role' := by
    rw [Table.get?_put]
    split
    · next he => rw [he, Finmap.lookup_insert]
    · next hne => rw [Finmap.lookup_insert_of_ne _ hne, h.lookup]
  parked role' := by
    rw [@parked_of_erased _ r role _ rfl, h.parked, Flat.parked, Flat.parked, List.filter_filter]
    split
    · next he => simp [he]
    · next hne =>
      congr 1
      refine List.filter_congr fun x _ => ?_
      by_cases hx : x.1 = role' <;> simp [hx, hne]

theorem Refines.unbind (h : r.Refines s) :
    Refines { r with members := r.members.erase role }
      { s with bound := s.bound.erase role } where
  members := h.members.erase role
  waiting := h.waiting
  lookup role' := by
    rw [Table.get?_erase]
    split
    · next he => rw [he, Finmap.lookup_erase]
    · next hne => rw [Finmap.lookup_erase_ne hne, h.lookup]
  parked := h.parked

theorem Refines.park (h : r.Refines s) {handle : η} :
    (r.park role handle).Refines { s with waiting := s.waiting ++ [(role, handle)] } where
  members := h.members
  waiting := h.waiting.put role _
  lookup := h.lookup
  parked role' := by
    rw [parked_park, h.parked, h.parked, Flat.parked, Flat.parked, Flat.parked, List.filter_append]
    split
    · next he => simp [he]
    · next hne => simp [Ne.symm hne]

theorem Refines.dropInterest (h : r.Refines s) {gone : η → Bool} :
    (r.dropInterest gone).Refines { s with waiting := s.waiting.filter (!gone ·.2) } where
  members := h.members
  waiting := (h.waiting.map _).filter _
  lookup := h.lookup
  parked role' := by
    rw [parked_dropInterest h.waiting, h.parked, Flat.parked, Flat.parked, List.filter_map,
      List.filter_filter, List.filter_filter]
    simp only [Function.comp_def, Bool.and_comm]

/-- What a roster does, the flat one does. -/
theorem Refines.step (h : r.Refines s) (op : Operation η) :
    ∃ t, s.Step op (r.step op).1 t ∧ (r.step op).2.Refines t := by
  cases op with
  | register role address handle =>
    by_cases hb : role ∈ s.bound
    · simp only [Roster.step, Roster.register, if_pos ((h.isRegistered role).mpr hb)]
      exact ⟨s, .refused hb, h⟩
    · simp only [Roster.step, Roster.register, if_neg (mt (h.isRegistered role).mp hb)]
      rw [← Roster.parked, h.parked]
      exact ⟨_, .registered hb, h.register⟩
  | unregister role owns =>
    have hlookup := h.lookup role
    cases hm : r.members.get? role with
    | none =>
      simp only [Roster.step, Roster.unregister, hm]
      refine ⟨s, .kept ?_, h⟩
      simp [← hlookup, hm]
    | some m =>
      by_cases ho : owns m.handle = true
      · simp only [Roster.step, Roster.unregister, Roster.remove, hm, if_pos ho]
        exact ⟨_, .unregistered (hlookup.symm.trans hm) ho, h.unbind⟩
      · simp only [Roster.step, Roster.unregister, hm, if_neg ho]
        refine ⟨s, .kept ?_, h⟩
        simpa [← hlookup, hm] using ho
  | remove role =>
    have hlookup := h.lookup role
    cases hm : r.members.get? role with
    | none =>
      simp only [Roster.step, remove_of_free hm]
      exact ⟨s, .missing (Finmap.lookup_eq_none.mp (hlookup.symm.trans hm)), h⟩
    | some m =>
      simp only [Roster.step, Roster.remove, hm]
      exact ⟨_, .removed (hlookup.symm.trans hm), h.unbind⟩
  | park role handle => exact ⟨_, .parked, h.park⟩
  | dropInterest gone => exact ⟨_, .dropped, h.dropInterest⟩
  | drain =>
    refine ⟨{}, .drained h.members fun role m => ?_, refines_new⟩
    rw [← h.lookup]
    exact Table.mem_iff_get? h.members

theorem Refines.run (h : r.Refines s) (ops : List (Operation η)) :
    ∃ t, s.Run ops (r.run ops).1 t ∧ (r.run ops).2.Refines t := by
  induction ops generalizing r s with
  | nil => exact ⟨s, .nil, h⟩
  | cons op ops ih =>
    obtain ⟨s', hs, h'⟩ := h.step op
    obtain ⟨t, hr, ht⟩ := ih h'
    exact ⟨t, .cons hs hr, ht⟩

/-! ## What can be read -/

/-- As many handles wait as the lists of all roles hold. -/
theorem total_length {α : Type} {t : Table Role (List α)} (h : t.Ordered) (all : List (Role × α))
    (hget : ∀ k, (t.get? k).getD [] = (all.filter (·.1 = k)).map (·.2)) :
    t.total List.length = all.length := by
  induction t generalizing all with
  | nil =>
    suffices all = [] by rw [this]; rfl
    refine List.eq_nil_iff_forall_not_mem.mpr fun x hx => ?_
    have hnil : all.filter (·.1 = x.1) = [] := by simpa using hget x.1
    exact List.filter_eq_nil_iff.mp hnil x hx (by simp)
  | cons p rest ih =>
    obtain ⟨hp, hrest⟩ := List.pairwise_cons.mp h
    have hlist := hget p.1
    rw [Table.get?_cons, if_pos rfl, Option.getD_some] at hlist
    -- the rest of the table holds what waits for other roles
    have hothers := ih hrest (all.filter (·.1 ≠ p.1)) fun k => ?_
    · rw [Table.total_cons, hothers, hlist, List.length_map]
      have := List.length_eq_length_filter_add (l := all) (·.1 = p.1)
      simpa using this.symm
    · rw [List.filter_filter]
      by_cases hk : k = p.1
      · rw [hk, Table.get?_of_forall_lt hp]
        simp
      · have hget := hget k
        rw [Table.get?_cons, if_neg (Ne.symm hk)] at hget
        rw [hget]
        congr 1
        refine List.filter_congr fun x _ => ?_
        by_cases hx : x.1 = k <;> simp [hx, hk]

/-- What a roster shows if it goes with a flat one. -/
structure Shows (r : Roster η) (s : Flat η) : Prop where
  isRegistered : ∀ role, r.isRegistered role = true ↔ role ∈ s.bound
  lookup : ∀ role, r.lookup role = (s.bound.lookup role).elim (.error ⟨role⟩) .ok
  addressOf : ∀ role, r.addressOf role = (s.bound.lookup role).map (·.address)
  roles : r.roles.Pairwise (· < ·) ∧ ∀ role, role ∈ r.roles ↔ role ∈ s.bound
  size : r.size = s.bound.keys.card
  isEmpty : r.isEmpty = true ↔ s.bound = ∅
  parked : ∀ role, r.parked role = s.parked role
  interestCount : r.interestCount = s.waiting.length

theorem Refines.roles (h : r.Refines s) (role : Role) : role ∈ r.roles ↔ role ∈ s.bound := by
  rw [Finmap.mem_iff, Roster.roles, List.mem_map]
  constructor
  · rintro ⟨⟨_, m⟩, hm, rfl⟩
    exact ⟨m, (h.lookup _).symm.trans ((Table.mem_iff_get? h.members).mp hm)⟩
  · rintro ⟨m, hm⟩
    exact ⟨(role, m), (Table.mem_iff_get? h.members).mpr ((h.lookup role).trans hm), rfl⟩

theorem Refines.size (h : r.Refines s) : r.size = s.bound.keys.card := by
  have hnodup : r.roles.Nodup := Role.nodup_of_pairwise (List.pairwise_map.mpr h.members)
  have hkeys : s.bound.keys = r.roles.toFinset := by
    ext role
    rw [Finmap.mem_keys, List.mem_toFinset, h.roles]
  rw [hkeys, List.toFinset_card_of_nodup hnodup, Roster.roles, List.length_map]
  rfl

theorem Refines.isEmpty (h : r.Refines s) : r.isEmpty = true ↔ s.bound = ∅ := by
  rw [Roster.isEmpty, List.isEmpty_iff]
  constructor
  · intro hnil
    refine Finmap.ext_lookup fun role => ?_
    rw [← h.lookup, hnil]
    rfl
  · intro hempty
    refine Table.eq_nil_of_get? fun role => ?_
    rw [h.lookup, hempty, Finmap.lookup_empty]

theorem Refines.shows (h : r.Refines s) : r.Shows s where
  isRegistered := h.isRegistered
  lookup role := by
    rw [Roster.lookup, h.lookup]
    cases s.bound.lookup role <;> rfl
  addressOf role := by rw [Roster.addressOf, h.lookup]
  roles := ⟨List.pairwise_map.mpr h.members, h.roles⟩
  size := h.size
  isEmpty := h.isEmpty
  parked := h.parked
  interestCount := total_length h.waiting s.waiting h.parked

/-- Whatever a new roster is asked, a new flat one gives the same answers and no others, and behind
them the roster shows what is in the flat one. -/
theorem run_flat (ops : List (Operation η)) :
    (∃ s, Flat.Run {} ops (({} : Roster η).run ops).1 s) ∧
      ∀ answers s, Flat.Run {} ops answers s →
        answers = (({} : Roster η).run ops).1 ∧ (({} : Roster η).run ops).2.Shows s := by
  obtain ⟨s, hrun, hs⟩ := (@refines_new η).run ops
  refine ⟨⟨s, hrun⟩, fun answers s' hrun' => ?_⟩
  obtain ⟨rfl, rfl⟩ := hrun'.unique hrun
  exact ⟨rfl, hs.shows⟩

/-- Who waits is let go in the order they came, as often as they came, and without those who have
given up. -/
example (address : Address) :
    (({} : Roster Nat).run [.park ⟨"b"⟩ 7, .park ⟨"b"⟩ 8, .park ⟨"a"⟩ 7, .park ⟨"b"⟩ 7,
      .dropInterest (· = 8), .register ⟨"b"⟩ address 1]).1.getLast? =
    some (.released [7, 7]) :=
  rfl

end Rendezvous.Roster
