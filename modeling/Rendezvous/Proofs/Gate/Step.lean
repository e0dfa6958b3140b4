import Rendezvous.Barrier.Gate
import Rendezvous.Proofs.Roles

/-!
# Steps of the gate

Every operation of the gate takes one of six steps (`Gate.Step`): it does nothing, opens a barrier,
lets a member arrive, releases the barrier, or breaks it, with or without telling the other members
who gave it up. The lemmas `step_of_*` say which step each operation takes, and everything later is
derived from the steps alone. An operation that is refused leaves the gate as it was
(`openBarrier_refused`, `enter_refused`, `fail_refused`).

`Gate.Sound` is what every step keeps: of the awaited barrier some but not all expected roles have
arrived, nobody else has, and its epoch has been given out.
-/

namespace Rendezvous

namespace Awaited

variable {b : Awaited} {role : Role}

/-- The barrier with one more role arrived. -/
def arrive (b : Awaited) (role : Role) : Awaited :=
  { b with arrived := Role.insert role b.arrived }

/-- The effects of opening the barrier. -/
def openEffects (b : Awaited) : List GateEffect :=
  .announce b.name b.timeout b.expected :: match b.timeout with
    | some t => [.startTimer b.epoch t]
    | none => []

/-- The effects of ending the barrier. -/
def endEffects (b : Awaited) (failure : Option Reason) : List GateEffect :=
  (if b.timeout.isSome then [.cancelTimer b.epoch] else []) ++ [.publish (b.outcome failure)]

/-- The effect of telling all members but one that this one gave the barrier up. -/
def relay (b : Awaited) (role : Role) : GateEffect :=
  .relayFailure b.name role (b.expected.filter (· ≠ role))

/-- Both lists of roles are sets, only expected roles have arrived, and not all of them. -/
structure Sound (b : Awaited) : Prop where
  expected_ordered : b.expected.Pairwise (· < ·)
  arrived_ordered : b.arrived.Pairwise (· < ·)
  arrived_subset : b.arrived ⊆ b.expected
  incomplete : b.arrived.length < b.expected.length

theorem Sound.exists_missing (h : b.Sound) : ∃ r ∈ b.expected, r ∉ b.arrived :=
  Role.exists_not_mem_of_length_lt (Role.nodup_of_pairwise h.expected_ordered) h.incomplete

theorem Sound.expected_ne_nil (h : b.Sound) : b.expected ≠ [] := by
  intro he
  have := h.incomplete
  rw [he] at this
  exact absurd this (Nat.not_lt_zero _)

theorem mem_arrived_arrive {r : Role} : r ∈ (b.arrive role).arrived ↔ r = role ∨ r ∈ b.arrived :=
  Role.mem_insert

theorem Sound.arrive (h : b.Sound) (hr : role ∈ b.expected)
    (hl : (b.arrive role).arrived.length < b.expected.length) : (b.arrive role).Sound where
  expected_ordered := h.expected_ordered
  arrived_ordered := Role.pairwise_insert h.arrived_ordered
  arrived_subset := by
    intro x hx
    rcases mem_arrived_arrive.mp hx with rfl | hx
    · exact hr
    · exact h.arrived_subset hx
  incomplete := hl

/-- When the arrived roles are no fewer than the expected ones, everybody is there. -/
theorem Sound.all_arrived (h : b.Sound) (hr : role ∈ b.expected)
    (hl : ¬(b.arrive role).arrived.length < b.expected.length) :
    ∀ r ∈ b.expected, r = role ∨ r ∈ b.arrived := by
  intro r hm
  have hs : (b.arrive role).arrived ⊆ b.expected := by
    intro x hx
    rcases mem_arrived_arrive.mp hx with rfl | hx
    · exact hr
    · exact h.arrived_subset hx
  have hn := Role.nodup_of_pairwise (Role.pairwise_insert (r := role) h.arrived_ordered)
  exact mem_arrived_arrive.mp (Role.subset_of_length_le hn hs (Nat.le_of_not_lt hl) hm)

/-- The last member that has not arrived is all that is missing. -/
theorem Sound.missing_eq (h : b.Sound) (hr : role ∈ b.expected) (hn : role ∉ b.arrived)
    (hall : ∀ r ∈ b.expected, r = role ∨ r ∈ b.arrived) : b.missing = [role] := by
  have hnodup : b.missing.Nodup := (Role.nodup_of_pairwise h.expected_ordered).filter _
  refine List.perm_singleton.mp ((List.perm_ext_iff_of_nodup hnodup
    (List.pairwise_singleton _ role)).mpr fun r => ?_)
  unfold missing
  rw [List.mem_filter, List.mem_singleton]
  constructor
  · rintro ⟨hm, hr⟩
    exact (hall r hm).resolve_right (by simpa using hr)
  · rintro rfl
    exact ⟨hr, by simpa using hn⟩

/-- With others still missing, a member is not the last one. -/
theorem Sound.missing_ne (h : b.Sound) (hr : role ∈ b.expected)
    (hl : (b.arrive role).arrived.length < b.expected.length) : b.missing ≠ [role] := by
  intro hlast
  obtain ⟨r, hm, hn⟩ := (h.arrive hr hl).exists_missing
  have hmissing : r ∈ b.missing := by
    refine List.mem_filter.mpr ⟨hm, ?_⟩
    simpa using fun ha => hn (mem_arrived_arrive.mpr (Or.inr ha))
  rw [hlast] at hmissing
  exact hn (mem_arrived_arrive.mpr (Or.inl (List.mem_singleton.mp hmissing)))

end Awaited

namespace Gate

variable {g g' : Gate} {b : Awaited} {role : Role} {name : String} {effects : List GateEffect}

/-- The awaited barrier is in order, and epochs yet to come are beyond its own. -/
structure Sound (g : Gate) : Prop where
  awaited : ∀ b, g.awaited = some b → b.Sound
  epoch_lt : ∀ b, g.awaited = some b → b.epoch.number < g.nextEpoch

theorem sound_idle (n : Nat) : (⟨none, n⟩ : Gate).Sound where
  awaited := nofun
  epoch_lt := nofun

theorem sound_new : ({} : Gate).Sound := sound_idle _

theorem sound_opened {n : Nat} (hb : b.Sound) (he : b.epoch = ⟨n⟩) :
    (⟨some b, n + 1⟩ : Gate).Sound := by
  constructor
  · intro b' h'
    cases h'
    exact hb
  · intro b' h'
    cases h'
    rw [he]
    exact Nat.lt_succ_self _

/-- An arrival changes neither the epoch of the barrier nor the next one. -/
theorem Sound.arrived (hg : g.Sound) (ha : g.awaited = some b) (hb : (b.arrive role).Sound) :
    ({ g with awaited := some (b.arrive role) } : Gate).Sound := by
  constructor
  · intro b' h'
    cases h'
    exact hb
  · intro b' h'
    cases h'
    exact hg.epoch_lt b ha

/-- The barrier that opens next under this name. -/
def opening (g : Gate) (name : String) (roles : List Role) (timeout : Option Span) : Awaited :=
  ⟨name, ⟨g.nextEpoch⟩, Role.sortedSet roles, [], timeout⟩

/-- What an operation can do to the gate, with the effects it has. -/
inductive Step (g : Gate) : List GateEffect → Gate → Prop where
  | rests : Step g [] g
  | opens {b : Awaited} (idle : g.awaited = none) (sound : b.Sound)
      (epoch : b.epoch = ⟨g.nextEpoch⟩) (arrived : b.arrived = []) :
      Step g b.openEffects ⟨some b, g.nextEpoch + 1⟩
  | arrives {b : Awaited} {role : Role} (awaited : g.awaited = some b)
      (member : role ∈ b.expected) (missing : role ∉ b.arrived)
      (others : (b.arrive role).arrived.length < b.expected.length) :
      Step g [] { g with awaited := some (b.arrive role) }
  | releases {b : Awaited} {role : Role} (awaited : g.awaited = some b)
      (member : role ∈ b.expected) (missing : role ∉ b.arrived)
      (all : ∀ r ∈ b.expected, r = role ∨ r ∈ b.arrived) :
      Step g (b.endEffects none) { g with awaited := none }
  | givesUp {b : Awaited} {role : Role} (awaited : g.awaited = some b)
      (member : role ∈ b.expected) :
      Step g (b.relay role :: b.endEffects (some (.failed role))) { g with awaited := none }
  | breaks {b : Awaited} {reason : Reason} (awaited : g.awaited = some b) :
      Step g (b.endEffects (some reason)) { g with awaited := none }

/-! ## The operations -/

theorem awaitedBy_eq_ok_iff :
    g.awaitedBy role name = .ok b ↔ g.awaited = some b ∧ b.name = name ∧ role ∈ b.expected := by
  unfold awaitedBy awaitedNamed
  cases ha : g.awaited with
  | none => simp
  | some a =>
    by_cases hn : a.name = name
    · by_cases hr : role ∈ a.expected
      · simp only [hn, if_true, hr, Except.ok.injEq, Option.some.injEq]
        constructor
        · rintro rfl
          exact ⟨rfl, hn, hr⟩
        · exact fun h => h.1
      · simp only [hn, if_true, hr, if_false, Option.some.injEq]
        constructor
        · intro h
          cases h
        · rintro ⟨rfl, -, hm⟩
          exact absurd hm hr
    · simp only [hn, if_false, Option.some.injEq]
      constructor
      · intro h
        cases h
      · rintro ⟨rfl, hm, -⟩
        exact absurd hm hn

/-- A refused operation leaves the gate as it was. -/
theorem openBarrier_refused {roles : List Role} {timeout : Option Span}
    {isRegistered : Role → Bool} {e : GateRefusal} :
    g.openBarrier name roles timeout isRegistered = (g', .error e) → g' = g := by
  fun_cases g.openBarrier name roles timeout isRegistered with
  | case1 | case2 | case3 => exact fun h => (Prod.mk.inj h).1.symm
  | case4 => nofun

theorem openBarrier_ok {roles : List Role} {timeout : Option Span} {isRegistered : Role → Bool}
    {epoch : Epoch}
    (h : g.openBarrier name roles timeout isRegistered = (g', .ok (epoch, effects))) :
    g.awaited = none ∧ Role.sortedSet roles ≠ [] ∧
      (∀ r ∈ Role.sortedSet roles, isRegistered r = true) ∧ epoch = ⟨g.nextEpoch⟩ ∧
      effects = (g.opening name roles timeout).openEffects ∧
      g' = ⟨some (g.opening name roles timeout), g.nextEpoch + 1⟩ := by
  unfold openBarrier at h
  cases hi : g.awaited with
  | some b =>
    simp only [hi] at h
    cases h
  | none =>
    simp only [hi] at h
    by_cases hne : Role.sortedSet roles = []
    · rw [if_pos hne] at h
      cases h
    · rw [if_neg hne] at h
      cases hf : (Role.sortedSet roles).find? (fun r => !isRegistered r) with
      | some r =>
        rw [hf] at h
        cases h
      | none =>
        rw [hf] at h
        cases h
        refine ⟨rfl, hne, ?_, rfl, rfl, rfl⟩
        intro r hr
        simpa using List.find?_eq_none.mp hf r hr

theorem sound_opening {roles : List Role} {timeout : Option Span}
    (hne : Role.sortedSet roles ≠ []) : (g.opening name roles timeout).Sound where
  expected_ordered := Role.pairwise_sortedSet roles
  arrived_ordered := List.Pairwise.nil
  arrived_subset := List.nil_subset _
  incomplete := List.length_pos_iff.mpr hne

theorem step_of_openBarrier {roles : List Role} {timeout : Option Span}
    {isRegistered : Role → Bool} {epoch : Epoch}
    (h : g.openBarrier name roles timeout isRegistered = (g', .ok (epoch, effects))) :
    Step g effects g' := by
  obtain ⟨hi, hne, -, -, rfl, rfl⟩ := openBarrier_ok h
  exact .opens hi (sound_opening hne) rfl rfl

theorem enter_refused {e : GateRefusal} :
    g.enter role name = (g', .error e) → g' = g := by
  fun_cases g.enter role name with
  | case1 => exact fun h => (Prod.mk.inj h).1.symm
  | case2 | case3 | case4 => nofun

/-- A member that enters has arrived already, arrives with others missing, or is the last one. -/
theorem enter_ok (hg : g.Sound) (h : g.enter role name = (g', .ok effects)) :
    ∃ b, g.awaited = some b ∧ b.name = name ∧ role ∈ b.expected ∧
      ((role ∈ b.arrived ∧ effects = [] ∧ g' = g) ∨
       (role ∉ b.arrived ∧ (b.arrive role).arrived.length < b.expected.length ∧
        effects = [] ∧ g' = { g with awaited := some (b.arrive role) }) ∨
       (role ∉ b.arrived ∧ (∀ r ∈ b.expected, r = role ∨ r ∈ b.arrived) ∧
        effects = b.endEffects none ∧ g' = { g with awaited := none })) := by
  unfold enter at h
  split at h
  · cases h
  · next b hb =>
    obtain ⟨ha, hn, hr⟩ := awaitedBy_eq_ok_iff.mp hb
    refine ⟨b, ha, hn, hr, ?_⟩
    split at h
    · next hm =>
      cases h
      exact Or.inl ⟨hm, rfl, rfl⟩
    · next hm =>
      dsimp only at h
      split at h
      · next hl =>
        cases h
        exact Or.inr (Or.inl ⟨hm, hl, rfl, rfl⟩)
      · next hl =>
        cases h
        exact Or.inr (Or.inr ⟨hm, (hg.awaited b ha).all_arrived hr hl, rfl, rfl⟩)

/-- No member of the awaited barrier is turned away. -/
theorem enter_of_member (ha : g.awaited = some b) (hr : role ∈ b.expected) :
    ∃ effects g', g.enter role b.name = (g', .ok effects) := by
  unfold enter
  rw [awaitedBy_eq_ok_iff.mpr ⟨ha, rfl, hr⟩]
  dsimp only
  split
  · exact ⟨_, _, rfl⟩
  · split
    · exact ⟨_, _, rfl⟩
    · exact ⟨_, _, rfl⟩

theorem step_of_enter (hg : g.Sound) (h : g.enter role name = (g', .ok effects)) :
    Step g effects g' := by
  obtain ⟨b, ha, -, hr, ⟨-, rfl, rfl⟩ | ⟨hm, hl, rfl, rfl⟩ | ⟨hm, hall, rfl, rfl⟩⟩ := enter_ok hg h
  · exact .rests
  · exact .arrives ha hr hm hl
  · exact .releases ha hr hm hall

theorem fail_refused {e : GateRefusal} : g.fail role name = (g', .error e) → g' = g := by
  fun_cases g.fail role name with
  | case1 => exact fun h => (Prod.mk.inj h).1.symm
  | case2 => nofun

theorem fail_ok (h : g.fail role name = (g', .ok effects)) :
    ∃ b, g.awaited = some b ∧ b.name = name ∧ role ∈ b.expected ∧
      effects = b.relay role :: b.endEffects (some (.failed role)) ∧
      g' = { g with awaited := none } := by
  unfold fail at h
  split at h
  · cases h
  · next b hb =>
    obtain ⟨ha, hn, hr⟩ := awaitedBy_eq_ok_iff.mp hb
    cases h
    exact ⟨b, ha, hn, hr, rfl, rfl⟩

theorem step_of_fail (h : g.fail role name = (g', .ok effects)) : Step g effects g' := by
  obtain ⟨b, ha, -, hr, rfl, rfl⟩ := fail_ok h
  exact .givesUp ha hr

theorem timeout_eq (g : Gate) (epoch : Epoch) :
    (∃ b, g.awaited = some b ∧ b.epoch = epoch ∧
      g.timeout epoch = (b.endEffects (some .timeout), { g with awaited := none })) ∨
    ((∀ b, g.awaited = some b → b.epoch ≠ epoch) ∧ g.timeout epoch = ([], g)) := by
  unfold timeout
  cases ha : g.awaited with
  | none => exact Or.inr ⟨nofun, rfl⟩
  | some b =>
    by_cases he : b.epoch = epoch
    · exact Or.inl ⟨b, rfl, he, by simp only [he, if_true]; rfl⟩
    · refine Or.inr ⟨?_, by simp only [he, if_false]⟩
      intro a h
      cases h
      exact he

theorem departed_eq (g : Gate) (role : Role) (reason : Reason) :
    (∃ b, g.awaited = some b ∧ role ∈ b.expected ∧
      g.departed role reason = (b.endEffects (some reason), { g with awaited := none })) ∨
    ((∀ b, g.awaited = some b → role ∉ b.expected) ∧ g.departed role reason = ([], g)) := by
  unfold departed
  cases ha : g.awaited with
  | none => exact Or.inr ⟨nofun, rfl⟩
  | some b =>
    by_cases hr : role ∈ b.expected
    · exact Or.inl ⟨b, rfl, hr, by simp only [hr, if_true]; rfl⟩
    · refine Or.inr ⟨?_, by simp only [hr, if_false]⟩
      intro a h
      cases h
      exact hr

theorem abort_eq (g : Gate) (reason : Reason) :
    (∃ b, g.awaited = some b ∧
      g.abort reason = (b.endEffects (some reason), { g with awaited := none })) ∨
    (g.awaited = none ∧ g.abort reason = ([], g)) := by
  unfold abort
  cases g.awaited with
  | none => exact Or.inr ⟨rfl, rfl⟩
  | some b => exact Or.inl ⟨b, rfl, rfl⟩

theorem step_timeout (g : Gate) (epoch : Epoch) :
    Step g (g.timeout epoch).1 (g.timeout epoch).2 := by
  obtain ⟨b, ha, -, he⟩ | ⟨-, he⟩ := timeout_eq g epoch
  · rw [he]
    exact .breaks ha
  · rw [he]
    exact .rests

theorem step_departed (g : Gate) (role : Role) (reason : Reason) :
    Step g (g.departed role reason).1 (g.departed role reason).2 := by
  obtain ⟨b, ha, -, he⟩ | ⟨-, he⟩ := departed_eq g role reason
  · rw [he]
    exact .breaks ha
  · rw [he]
    exact .rests

theorem step_abort (g : Gate) (reason : Reason) : Step g (g.abort reason).1 (g.abort reason).2 := by
  obtain ⟨b, ha, he⟩ | ⟨-, he⟩ := abort_eq g reason
  · rw [he]
    exact .breaks ha
  · rw [he]
    exact .rests

/-! ## What every step keeps -/

theorem Step.sound (hg : g.Sound) (h : Step g effects g') : g'.Sound := by
  cases h with
  | rests => exact hg
  | opens _ hb he _ => exact sound_opened hb he
  | arrives ha hr hm hl => exact hg.arrived ha ((hg.awaited _ ha).arrive hr hl)
  | releases | givesUp | breaks => exact sound_idle _

/-- Epochs are never given out again. -/
theorem Step.nextEpoch_le (h : Step g effects g') : g.nextEpoch ≤ g'.nextEpoch := by
  cases h with
  | opens => exact Nat.le_succ _
  | rests | arrives | releases | givesUp | breaks => exact Nat.le_refl _

theorem Step.nextEpoch_le_succ (h : Step g effects g') : g'.nextEpoch ≤ g.nextEpoch + 1 := by
  cases h with
  | opens => exact Nat.le_refl _
  | rests | arrives | releases | givesUp | breaks => exact Nat.le_succ _

end Gate

end Rendezvous
