import Mathlib.Data.List.Induction
import Rendezvous.Proofs.Conductor.Turn

/-!
# The awaited barrier of a conductor

What is true of a conductor at any time, whatever it was asked to do before: the barrier it awaits
was opened by an accepted operation, its members are bound to the sessions they were bound to then,
and the waiters and the timer are those of this opening (`awaiting_run`).

Soundness gives the second half. For the first one, `OpenedIn` remembers the operation that opened
the barrier, and every turn but an opening keeps the opening that it finds.
-/

namespace Rendezvous.Conductor

variable {c : Conductor} {b : Awaited} {done : List Operation} {op : Operation}

/-- The barrier was opened in a list of operations, and its members are still bound as they were
then. -/
def OpenedIn (start : Conductor) (done : List Operation) (b : Awaited) : Prop :=
  ∃ before roles timeout after, done = before ++ .openBarrier b.name roles timeout :: after ∧
    ((run start before).openBarrier b.name roles timeout).2 = .ok b.epoch ∧
    b.expected = Role.sortedSet roles ∧
    b.timeout = timeout.or (run start before).settings.defaultTimeout ∧
    ∀ r ∈ b.expected, ∃ m, (run start before).roster.members.get? r = some m ∧
      (run start done).roster.members.get? r = some m

theorem run_concat (start : Conductor) (done : List Operation) (op : Operation) :
    run start (done ++ [op]) = (run start done).after op :=
  run_append start done [op]

/-- An operation that keeps the bindings keeps the opening. -/
theorem OpenedIn.concat {start : Conductor} {b' : Awaited} (h : OpenedIn start done b)
    (hname : b'.name = b.name) (hepoch : b'.epoch = b.epoch) (hexpected : b'.expected = b.expected)
    (htimeout : b'.timeout = b.timeout)
    (hb : ∀ r ∈ b.expected, (run start (done ++ [op])).roster.members.get? r =
      (run start done).roster.members.get? r) : OpenedIn start (done ++ [op]) b' := by
  obtain ⟨before, roles, timeout, after, hd, hok, he, ht, hm⟩ := h
  refine ⟨before, roles, timeout, after ++ [op], ?_, ?_, ?_, ?_, ?_⟩
  · rw [hd, hname, List.append_assoc]
    rfl
  · rw [hname, hepoch]
    exact hok
  · rw [hexpected, he]
  · rw [htimeout, ht]
  · intro r hr
    rw [hexpected] at hr
    obtain ⟨m, hm, hm'⟩ := hm r hr
    exact ⟨m, hm, (hb r hr).trans hm'⟩

theorem openedIn_after {start : Conductor} (hs : (run start done).Sound)
    (h : ∀ b, (run start done).gate.awaited = some b → OpenedIn start done b) :
    ∀ b, (run start (done ++ [op])).gate.awaited = some b → OpenedIn start (done ++ [op]) b := by
  intro b ha
  have hturn := turn hs op
  rw [← run_concat] at hturn
  cases hturn with
  | rests _ hg _ hb =>
    rw [hg] at ha
    exact (h b ha).concat rfl rfl rfl rfl (hb b ha)
  | arrives _ _ ha' _ hg _ hr =>
    rw [hg] at ha
    cases ha
    exact (h _ ha').concat rfl rfl rfl rfl fun r _ => by rw [hr]
  | opens hop _ hok _ _ _ he _ ht hg hreg hr =>
    rw [hg] at ha
    cases ha
    refine ⟨done, _, _, [], by rw [hop], hok, he, ht, ?_⟩
    intro r hm
    obtain ⟨m, hm⟩ := Option.isSome_iff_exists.mp (hreg r hm)
    exact ⟨m, hm, by rw [hr, hm]⟩
  | ends _ _ _ hg =>
    rw [hg] at ha
    cases ha

theorem openedIn_run {start : Conductor} (hs : start.Sound) (hi : start.gate.awaited = none)
    (ops : List Operation) :
    ∀ b, (run start ops).gate.awaited = some b → OpenedIn start ops b := by
  induction ops using List.reverseRecOn with
  | nil =>
    intro b ha
    rw [show run start [] = start from rfl, hi] at ha
    cases ha
  | append_singleton ops op ih => exact openedIn_after (sound_run hs ops) ih

theorem settings_run (hc : c.Sound) (ops : List Operation) : (run c ops).settings = c.settings := by
  induction ops generalizing c with
  | nil => rfl
  | cons op rest ih =>
    refine (ih (sound_after hc op)).trans ?_
    cases turn hc op with
    | rests _ _ hd => exact hd.settings
    | arrives _ _ _ _ _ hd => exact hd.settings
    | opens _ _ _ _ _ _ _ _ _ _ _ _ hs => exact hs
    | ends _ _ _ _ hs => exact hs

/-- A conductor that was asked anything at all, in any order: if it awaits a barrier, an operation
opened it under this epoch, each member is bound to the session it was bound to then, some but not
all members have arrived, nobody waits for another opening, and the timer is that of the opening if
it was opened with a deadline. Otherwise nobody waits and no timer is armed. -/
theorem awaiting_run (settings : Settings) (ops : List Operation) :
    match (run { settings } ops).gate.awaited with
    | some b =>
      (∃ before roles timeout after, ops = before ++ .openBarrier b.name roles timeout :: after ∧
        ((run { settings } before).openBarrier b.name roles timeout).2 = .ok b.epoch ∧
        (∀ r, r ∈ b.expected ↔ r ∈ roles) ∧
        (∀ r ∈ b.expected, ∃ m, (run { settings } before).roster.members.get? r = some m ∧
          (run { settings } ops).roster.members.get? r = some m) ∧
        (run { settings } ops).timer.map (·.epoch) =
          if (timeout.or settings.defaultTimeout).isSome then some b.epoch else none) ∧
      b.expected ≠ [] ∧ b.arrived ⊆ b.expected ∧ (∃ r ∈ b.expected, r ∉ b.arrived) ∧
      (run { settings } ops).waiters = [b.epoch]
    | none => (run { settings } ops).waiters = [] ∧ (run { settings } ops).timer = none := by
  have hs := sound_run (sound_new settings) ops
  cases ha : (run { settings } ops).gate.awaited with
  | none =>
    have hw := hs.waiters
    have ht := hs.timer
    rw [ha] at hw ht
    exact ⟨hw, Option.map_eq_none_iff.mp ht⟩
  | some b =>
    have hb := hs.gate.awaited b ha
    obtain ⟨before, roles, timeout, after, hops, hok, he, ht, hm⟩ :=
      openedIn_run (sound_new settings) rfl ops b ha
    refine ⟨⟨before, roles, timeout, after, hops, hok, ?_, hm, ?_⟩, hb.expected_ne_nil,
      hb.arrived_subset, hb.exists_missing, ?_⟩
    · intro r
      rw [he, Role.mem_sortedSet]
    · rw [hs.timer, ha, Option.bind_some, ht, settings_run (sound_new settings)]
    · rw [hs.waiters, ha]
      rfl

end Rendezvous.Conductor
