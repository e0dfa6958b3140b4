import Rendezvous.Proofs.Transport.Course
import Rendezvous.Scenario.Reception

/-!
# Who receives

In a reception many may receive from one scripted transport, and who has to wait looks again behind
each step. So whatever is done in a reception is a course of its transport, with the same answers
(`course_playAll`), and all that holds of courses holds of it. Whoever receives is served in the
order in which they began, what they receive is the beginning of what was queued, and nobody waits
for what is there (`served`).
-/

namespace Rendezvous.Reception

open Scripted

/-! ## Events -/

/-- What a step does to the transport. -/
def Step.operation? : Step → Option Operation
  | queue bytes => some (.enqueue bytes)
  | closeRemote => some .closeRemote
  | failConnect detail => some (.failNext .connect detail)
  | failSend detail => some (.failNext .send detail)
  | failReceive detail => some (.failNext .receive detail)
  | connect address => some (.connect address)
  | send bytes => some (.send bytes)
  | close => some .close
  | receive _ => none

/-- Who begins to receive in a step. -/
def Step.label? : Step → Option String
  | receive label => some label
  | _ => none

/-- The bytes that a step queues. -/
def Step.queued? : Step → Option (List UInt8)
  | queue bytes => some bytes
  | _ => none

/-- What a step and its result tell of the transport. -/
def Step.event? (s : Step) (result : Option (Except TransportError Unit)) : Option Event :=
  s.operation?.map (⟨·, result.elim .noted .finished⟩)

namespace Entry

/-- Those whose calls have ended, in order. -/
def served (e : Entry) : List String := e.done.map (·.1)

/-- The bytes that were received, in order. -/
def received (e : Entry) : List (List UInt8) := e.done.filterMap (·.2.toOption)

/-- What a step and its answer tell of the transport. -/
def events (e : Entry) (s : Step) : List Event :=
  (s.event? e.result).toList ++ e.done.map (⟨.look, .received ·.2⟩)

end Entry

/-- What a script and the answers to it tell of the transport. -/
def events (steps : List Step) (entries : List Entry) : List Event :=
  (steps.zip entries).flatMap fun p => p.2.events p.1

variable {r : Reception} {s : Step} {c : Course}

theorem events_cons (r : Reception) (s : Step) (rest : List Step) :
    events (s :: rest) (r.playAll (s :: rest)).2 =
      (r.play s).2.events s ++ events rest ((r.play s).1.playAll rest).2 :=
  rfl

/-! ## Those who wait -/

theorem serve_order (labels : List String) (t : Scripted) :
    (serve labels t).1.map (·.1) ++ (serve labels t).2.1 = labels := by
  induction labels generalizing t with
  | nil => rfl
  | cons label rest ih =>
    unfold serve
    split
    · next result t' _ => exact congrArg (label :: ·) (ih t')
    · rfl

/-- Who still waits has nothing to receive. -/
theorem serve_idle (labels : List String) (t : Scripted) (h : (serve labels t).2.1 ≠ []) :
    (serve labels t).2.2.receive? = none := by
  induction labels generalizing t with
  | nil => exact absurd rfl h
  | cons label rest ih =>
    unfold serve at h ⊢
    split at h
    · next result t' _ => exact ih t' h
    · next hr => exact hr

/-- Those who are served look one after the other. -/
theorem serve_course (labels : List String) (c : Course) :
    ∃ ops, c.through ops = ⟨(serve labels c.transport).2.2,
      c.events ++ (serve labels c.transport).1.map (⟨.look, .received ·.2⟩)⟩ := by
  induction labels generalizing c with
  | nil => exact ⟨[], by simp [Course.through, serve]⟩
  | cons label rest ih =>
    unfold serve
    split
    · next result t hr =>
      have hafter : c.after .look = ⟨t, c.events ++ [⟨.look, .received result⟩]⟩ := by
        simp [Course.after, Course.answer, Scripted.step, hr]
      obtain ⟨ops, hops⟩ := ih (c.after .look)
      refine ⟨.look :: ops, ?_⟩
      rw [Course.through, List.foldl_cons, ← Course.through, hops, hafter]
      simp
    · -- the look of who has to wait changes nothing and is left out
      exact ⟨[], by simp [Course.through]⟩

/-! ## Steps -/

theorem act_of_operation {op : Operation} (h : s.operation? = some op) :
    (r.act s).1.transport = (r.transport.step op).2 ∧
      (r.act s).2.elim .noted .finished = (r.transport.step op).1 := by
  cases s <;> cases h <;> exact ⟨rfl, rfl⟩

theorem act_of_label (h : s.operation? = none) : (r.act s).1.transport = r.transport := by
  cases s <;> cases h
  rfl

theorem act_course (s : Step) (h : c.transport = r.transport) :
    ∃ ops, c.through ops =
      ⟨(r.act s).1.transport, c.events ++ (s.event? (r.act s).2).toList⟩ := by
  cases hop : s.operation? with
  | none =>
    refine ⟨[], ?_⟩
    simp [Course.through, Step.event?, hop, act_of_label hop, ← h]
  | some op =>
    obtain ⟨htransport, hanswer⟩ := act_of_operation (r := r) hop
    refine ⟨[op], ?_⟩
    simp [Course.through, Course.after, Course.answer, Step.event?, hop, htransport, hanswer, h]

theorem play_course (s : Step) (h : c.transport = r.transport) :
    ∃ ops, c.through ops =
      ⟨(r.play s).1.transport, c.events ++ (r.play s).2.events s⟩ := by
  obtain ⟨ops, hops⟩ := act_course s h
  obtain ⟨looks, hlooks⟩ := serve_course (r.act s).1.receivers (c.through ops)
  refine ⟨ops ++ looks, ?_⟩
  rw [Course.through_append, hlooks, hops, List.append_assoc]
  rfl

/-- A script is a part of a course. -/
theorem course_playAll (steps : List Step) (h : c.transport = r.transport) :
    ∃ ops, c.through ops =
      ⟨(r.playAll steps).1.transport, c.events ++ events steps (r.playAll steps).2⟩ := by
  induction steps generalizing r c with
  | nil =>
    refine ⟨[], ?_⟩
    simp [Course.through, playAll, events, ← h]
  | cons s rest ih =>
    obtain ⟨ops, hops⟩ := play_course s h
    obtain ⟨later, hlater⟩ := ih (congrArg Course.transport hops)
    refine ⟨ops ++ later, ?_⟩
    rw [Course.through_append, hlater, hops, List.append_assoc, events_cons]
    rfl

/-! ## What is received -/

theorem Entry.queued_events (e : Entry) (s : Step) :
    (e.events s).filterMap Event.queued? = s.queued?.toList := by
  have hlooks : (e.done.map fun d => (⟨.look, .received d.2⟩ : Event)).filterMap Event.queued? =
      [] := by
    rw [List.filterMap_map]
    exact List.filterMap_eq_nil_iff.mpr fun _ _ => rfl
  rw [Entry.events, List.filterMap_append, hlooks, List.append_nil]
  cases s <;> rfl

theorem Entry.received_events (e : Entry) (s : Step) :
    (e.events s).filterMap Event.received? = e.received := by
  -- what is answered to the step itself is never something received
  have hstep : (s.event? e.result).toList.filterMap Event.received? = [] := by
    cases s <;> cases e.result <;> rfl
  have hlook : Event.received? ∘ (⟨.look, .received ·.2⟩) =
      fun d : String × Except TransportError (List UInt8) => d.2.toOption := by
    funext d
    obtain ⟨-, result⟩ := d
    cases result <;> rfl
  rw [Entry.events, List.filterMap_append, hstep, List.filterMap_map, hlook]
  rfl

theorem queued_events (r : Reception) (steps : List Step) :
    (events steps (r.playAll steps).2).filterMap Event.queued? = steps.filterMap Step.queued? := by
  induction steps generalizing r with
  | nil => rfl
  | cons s rest ih =>
    rw [events_cons, List.filterMap_append, Entry.queued_events, ih]
    cases h : s.queued? <;> simp [h]

theorem received_events (r : Reception) (steps : List Step) :
    (events steps (r.playAll steps).2).filterMap Event.received? =
      (r.playAll steps).2.flatMap Entry.received := by
  induction steps generalizing r with
  | nil => rfl
  | cons s rest ih =>
    rw [events_cons, List.filterMap_append, Entry.received_events, ih]
    rfl

theorem order_playAll (r : Reception) (steps : List Step) :
    (r.playAll steps).2.flatMap Entry.served ++ (r.playAll steps).1.receivers =
      r.receivers ++ steps.filterMap Step.label? := by
  induction steps generalizing r with
  | nil => simp [playAll]
  | cons s rest ih =>
    have hact : (r.act s).1.receivers = r.receivers ++ s.label?.toList := by
      cases s <;> simp [act, Step.label?]
    have hplay : (r.play s).2.served ++ (r.play s).1.receivers = (r.act s).1.receivers :=
      serve_order _ _
    calc (r.playAll (s :: rest)).2.flatMap Entry.served ++ (r.playAll (s :: rest)).1.receivers
        = (r.play s).2.served ++ (((r.play s).1.playAll rest).2.flatMap Entry.served ++
            ((r.play s).1.playAll rest).1.receivers) := List.append_assoc ..
      _ = (r.play s).2.served ++ ((r.play s).1.receivers ++ rest.filterMap Step.label?) := by
        rw [ih]
      _ = r.receivers ++ (s.label?.toList ++ rest.filterMap Step.label?) := by
        rw [← List.append_assoc, hplay, hact, List.append_assoc]
      _ = r.receivers ++ (s :: rest).filterMap Step.label? := by
        cases h : s.label? <;> simp [h]

theorem idle_playAll (steps : List Step) (h : r.receivers ≠ [] → r.transport.receive? = none)
    (hw : (r.playAll steps).1.receivers ≠ []) :
    (r.playAll steps).1.transport.receive? = none := by
  induction steps generalizing r with
  | nil => exact h hw
  | cons s rest ih => exact ih (serve_idle _ _) hw

/-- Whatever is done in a reception, those who receive are served in the order in which they began,
what they receive is the beginning of what was queued, and who still waits has nothing to
receive. -/
theorem served (steps : List Step) :
    let r := (({} : Reception).playAll steps).1
    let entries := (({} : Reception).playAll steps).2
    entries.flatMap Entry.served ++ r.receivers = steps.filterMap Step.label? ∧
      entries.flatMap Entry.received ++ r.transport.queue = steps.filterMap Step.queued? ∧
      (r.receivers ≠ [] → r.transport.receive? = none) := by
  refine ⟨order_playAll {} steps, ?_, idle_playAll steps fun h => absurd rfl h⟩
  obtain ⟨ops, hops⟩ := course_playAll (c := {}) (r := {}) steps rfl
  have hstream := (Course.sound_of ops).stream
  rw [Course.of, hops, Course.received, Course.queued, List.nil_append, received_events,
    queued_events] at hstream
  exact hstream

end Rendezvous.Reception
