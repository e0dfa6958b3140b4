import Rendezvous.Proofs.Gate.History

/-!
# One outcome for every opening

For every list of operations on a new gate: the epochs of the openings increase, and for each
opening one outcome is published when it ends and none before. The outcome is a success exactly if
every member entered before the first fault, and otherwise a failure by the first fault
(`outcome_of_opening`).

The proof follows an opening through the history from the operation behind it. While it is awaited,
`treatment` says what each operation does; once it has ended, it is past, and stays so.
-/

namespace Rendezvous.Gate

variable {g g' : Gate} {b : Awaited} {op : Operation} {ops : List Operation} {epoch : Epoch}

/-! ## Runs -/

theorem run_append (g : Gate) (before after : List Operation) :
    run g (before ++ after) = run (run g before) after := List.foldl_append

theorem history_append (g : Gate) (before after : List Operation) :
    history g (before ++ after) = history g before ++ history (run g before) after := by
  induction before generalizing g with
  | nil => rfl
  | cons op rest ih => exact congrArg (g.entry op :: ·) (ih (g.after op))

theorem published_append (epoch : Epoch) (h h' : List Entry) :
    published epoch (h ++ h') = published epoch h ++ published epoch h' := by
  simp [published]

theorem published_cons (epoch : Epoch) (x : Entry) (h : List Entry) :
    published epoch (x :: h) = x.outcomes.filter (·.epoch = epoch) ++ published epoch h := by
  simp [published]

/-! ## Epochs -/

/-- An operation begins no opening, or the one with the next epoch. -/
theorem epoch?_entry (hg : g.Sound) (op : Operation) :
    ((g.entry op).epoch? = none ∧ g.nextEpoch ≤ (g.after op).nextEpoch) ∨
    ((g.entry op).epoch? = some ⟨g.nextEpoch⟩ ∧ (g.after op).nextEpoch = g.nextEpoch + 1) := by
  obtain ⟨ha, -, he⟩ | ⟨e, effects, hans, hs⟩ := entry_cases hg op
  · exact Or.inl ⟨he, Nat.le_of_eq (by rw [ha])⟩
  · rw [epoch?_of_answer hans]
    cases op with
    | openBarrier name roles timeout isRegistered =>
      obtain ⟨⟨epoch, r⟩, ho, he⟩ := map_eq_ok hans
      obtain ⟨-, -, -, rfl, -, hg'⟩ := openBarrier_ok ho
      obtain ⟨rfl, -⟩ := Prod.mk.inj he
      exact Or.inr ⟨rfl, by rw [hg']⟩
    | enter role name =>
      obtain ⟨r, -, he⟩ := map_eq_ok hans
      exact Or.inl ⟨(Prod.mk.inj he).1.symm, hs.nextEpoch_le⟩
    | fail role name =>
      obtain ⟨r, -, he⟩ := map_eq_ok hans
      exact Or.inl ⟨(Prod.mk.inj he).1.symm, hs.nextEpoch_le⟩
    | timeout | departed | abort =>
      obtain ⟨-, hr⟩ := Prod.mk.inj hans
      exact Or.inl ⟨(Prod.mk.inj (Except.ok.inj hr)).1.symm, hs.nextEpoch_le⟩

theorem nextEpoch_le_run (hg : g.Sound) (ops : List Operation) :
    g.nextEpoch ≤ (run g ops).nextEpoch := by
  induction ops generalizing g with
  | nil => exact Nat.le_refl _
  | cons op rest ih =>
    have hrest := ih (sound_after hg op)
    obtain ⟨-, hle⟩ | ⟨-, heq⟩ := epoch?_entry hg op
    · exact Nat.le_trans hle hrest
    · exact Nat.le_trans (by omega) hrest

/-- No more epochs are given out than operations are asked for. -/
theorem nextEpoch_run_le (hg : g.Sound) (ops : List Operation) :
    (run g ops).nextEpoch ≤ g.nextEpoch + ops.length := by
  induction ops generalizing g with
  | nil => exact Nat.le_refl _
  | cons op rest ih =>
    have hrest := ih (sound_after hg op)
    have hop : (g.after op).nextEpoch ≤ g.nextEpoch + 1 := by
      obtain ⟨ha, -, -⟩ | ⟨e, effects, -, hs⟩ := entry_cases hg op
      · rw [ha]
        exact Nat.le_succ _
      · exact hs.nextEpoch_le_succ
    rw [List.length_cons]
    exact Nat.le_trans hrest (by omega)

theorem le_epoch_of_mem_history (hg : g.Sound)
    (h : epoch ∈ (history g ops).filterMap Entry.epoch?) : g.nextEpoch ≤ epoch.number := by
  induction ops generalizing g with
  | nil => cases h
  | cons op rest ih =>
    rw [history, List.filterMap_cons] at h
    have hrest := fun h => ih (sound_after hg op) h
    obtain ⟨he, hle⟩ | ⟨he, heq⟩ := epoch?_entry hg op
    · rw [he] at h
      exact Nat.le_trans hle (hrest h)
    · rw [he] at h
      rcases List.mem_cons.mp h with rfl | h
      · exact Nat.le_refl _
      · have := hrest h
        omega

/-- The epochs of the openings increase. -/
theorem pairwise_epochs (hg : g.Sound) (ops : List Operation) :
    ((history g ops).filterMap Entry.epoch?).Pairwise (·.number < ·.number) := by
  induction ops generalizing g with
  | nil => exact List.Pairwise.nil
  | cons op rest ih =>
    rw [history, List.filterMap_cons]
    have hrest := ih (sound_after hg op)
    obtain ⟨he, -⟩ | ⟨he, heq⟩ := epoch?_entry hg op
    · rw [he]
      exact hrest
    · rw [he]
      refine List.pairwise_cons.mpr ⟨?_, hrest⟩
      intro e hm
      have hle := le_epoch_of_mem_history (sound_after hg op) hm
      show g.nextEpoch < e.number
      omega

/-! ## Openings that have ended -/

/-- The opening with this epoch has been and is not awaited. -/
structure Past (epoch : Epoch) (g : Gate) : Prop where
  lt : epoch.number < g.nextEpoch
  not_awaited : ∀ b, g.awaited = some b → b.epoch ≠ epoch

/-- What is published is the outcome of the awaited opening. -/
theorem epoch_of_mem_outcomes (hg : g.Sound) {o : Outcome} (h : o ∈ (g.entry op).outcomes) :
    ∃ b, g.awaited = some b ∧ o.epoch = b.epoch := by
  cases ha : g.awaited with
  | some b =>
    refine ⟨b, rfl, ?_⟩
    cases treatment hg ha op with
    | fault _ _ ho | release _ _ _ _ ho _ =>
      rw [ho] at h
      rw [List.mem_singleton.mp h]
      rfl
    | arrival _ _ _ _ ho _ | foreign _ _ _ ho =>
      rw [ho] at h
      cases h
  | none =>
    obtain ⟨-, ho, -⟩ | ⟨e, effects, hans, hs⟩ := entry_cases hg op
    · rw [ho] at h
      cases h
    · rw [outcomes_of_answer hans] at h
      generalize g.after op = g' at hs
      cases hs with
      | rests => cases h
      | opens idle sound he hr =>
        unfold Awaited.openEffects at h
        split at h <;> cases h
      | arrives ha' | releases ha' | givesUp ha' | breaks ha' =>
        rw [ha] at ha'
        cases ha'

theorem Past.after (hg : g.Sound) (h : Past epoch g) (op : Operation) :
    Past epoch (g.after op) := by
  obtain ⟨he, -, -⟩ | ⟨e, effects, -, hs⟩ := entry_cases hg op
  · rw [he]
    exact h
  · refine ⟨Nat.lt_of_lt_of_le h.lt hs.nextEpoch_le, ?_⟩
    generalize g.after op = g' at hs
    cases hs with
    | rests => exact h.not_awaited
    | opens idle sound he hr =>
      -- a new opening has the next epoch, and this one was given out before
      intro b hb hcontra
      cases hb
      have hlt := h.lt
      rw [← hcontra, he] at hlt
      exact Nat.lt_irrefl _ hlt
    | arrives ha =>
      have hne := h.not_awaited _ ha
      intro b hb
      cases hb
      exact hne
    | releases | givesUp | breaks => exact nofun

theorem Past.run (hg : g.Sound) (h : Past epoch g) (ops : List Operation) :
    Past epoch (run g ops) := by
  induction ops generalizing g with
  | nil => exact h
  | cons op rest ih => exact ih (sound_after hg op) (h.after hg op)

theorem published_history_of_past (hg : g.Sound) (h : Past epoch g) :
    published epoch (history g ops) = [] := by
  induction ops generalizing g with
  | nil => rfl
  | cons op rest ih =>
    rw [history, published_cons, ih (sound_after hg op) (h.after hg op), List.append_nil,
      List.filter_eq_nil_iff]
    intro o ho
    obtain ⟨b, hb, he⟩ := epoch_of_mem_outcomes hg ho
    simpa [he] using h.not_awaited b hb

/-- Nothing is published for an epoch that has not been given out. -/
theorem published_history_of_future (hg : g.Sound) (h : (run g ops).nextEpoch ≤ epoch.number) :
    published epoch (history g ops) = [] := by
  induction ops generalizing g with
  | nil => rfl
  | cons op rest ih =>
    rw [history, published_cons, ih (sound_after hg op) h, List.append_nil,
      List.filter_eq_nil_iff]
    intro o ho
    obtain ⟨b, hb, he⟩ := epoch_of_mem_outcomes hg ho
    have hlt := hg.epoch_lt b hb
    have hle := nextEpoch_le_run hg (op :: rest)
    simp only [decide_eq_true_eq, he]
    rintro rfl
    omega

/-! ## An opening from its beginning to its end -/

theorem past_of_ended (hg : g.Sound) (ha : g.awaited = some b) :
    Past b.epoch { g with awaited := none } :=
  ⟨hg.epoch_lt b ha, nofun⟩

/-- What is published for an awaited opening is its verdict, if it has one. -/
theorem published_history (hg : g.Sound) (ha : g.awaited = some b) (ops : List Operation) :
    published b.epoch (history g ops) = ((b.verdict ops).map b.outcome).toList := by
  -- who has arrived changes on the way, so the induction is over every awaited opening
  induction ops generalizing g b with
  | nil =>
    rw [(hg.awaited b ha).verdict_nil]
    rfl
  | cons op rest ih =>
    have hsound := sound_after hg op
    rw [history, published_cons]
    cases treatment hg ha op with
    | fault hf hafter ho =>
      rw [hafter] at hsound ⊢
      rw [ho, published_history_of_past hsound (past_of_ended hg ha),
        (hg.awaited b ha).verdict_of_fault hf]
      simp [Awaited.outcome]
    | arrival hf hc hb hafter ho _ =>
      rw [hafter] at hsound ⊢
      rw [ho, Awaited.verdict_of_arrival hf hc]
      exact ih hsound rfl
    | release hf hc hall hafter ho _ =>
      rw [hafter] at hsound ⊢
      rw [ho, published_history_of_past hsound (past_of_ended hg ha),
        Awaited.verdict_of_last hf hc hall]
      simp [Awaited.outcome]
    | foreign hf hc hafter ho =>
      rw [hafter, ho, Awaited.verdict_of_stranger hf hc]
      exact ih hg ha

/-- An awaited opening stays awaited until it has a verdict. -/
theorem awaited_run_iff (hg : g.Sound) (ha : g.awaited = some b) (ops : List Operation) :
    (∃ b', (run g ops).awaited = some b' ∧ b'.epoch = b.epoch) ↔ b.verdict ops = none := by
  induction ops generalizing g b with
  | nil => simp [run, ha, (hg.awaited b ha).verdict_nil]
  | cons op rest ih =>
    have hsound := sound_after hg op
    -- an epoch is not given out again, so what has ended is not awaited later either
    have hended : g.after op = { g with awaited := none } →
        ¬∃ b', (run g (op :: rest)).awaited = some b' ∧ b'.epoch = b.epoch := by
      rintro hafter ⟨b', hb', he⟩
      rw [hafter] at hsound
      refine ((past_of_ended hg ha).run hsound rest).not_awaited b' ?_ he
      rw [← hafter]
      exact hb'
    cases treatment hg ha op with
    | fault hf hafter ho =>
      rw [(hg.awaited b ha).verdict_of_fault hf]
      exact iff_of_false (hended hafter) nofun
    | arrival hf hc hb hafter ho _ =>
      rw [Awaited.verdict_of_arrival hf hc, ← ih (hafter ▸ hsound) rfl, run, List.foldl_cons,
        hafter]
      rfl
    | release hf hc hall hafter ho _ =>
      rw [Awaited.verdict_of_last hf hc hall]
      exact iff_of_false (hended hafter) nofun
    | foreign hf hc hafter ho =>
      rw [Awaited.verdict_of_stranger hf hc, ← ih hg ha, run, List.foldl_cons, hafter]
      rfl

/-- An opening succeeds exactly if each member has arrived, or enters before the first fault and is
not refused. -/
theorem verdict_eq_success_iff (hg : g.Sound) (ha : g.awaited = some b) (ops : List Operation) :
    b.verdict ops = some none ↔
      ∀ r ∈ b.expected, r ∈ b.arrived ∨ r ∈ b.arrivals (history g ops) := by
  induction ops generalizing g b with
  | nil =>
    -- of an awaited opening a member is missing, and nobody else comes
    obtain ⟨r, hr, hm⟩ := (hg.awaited b ha).exists_missing
    rw [(hg.awaited b ha).verdict_nil]
    refine iff_of_false nofun fun hall => (hall r hr).elim hm nofun
  | cons op rest ih =>
    have hsound := sound_after hg op
    rw [history]
    cases treatment hg ha op with
    | fault hf hafter ho =>
      obtain ⟨r, hr, hm⟩ := (hg.awaited b ha).exists_missing
      rw [(hg.awaited b ha).verdict_of_fault hf]
      refine iff_of_false nofun fun hall => (hall r hr).elim hm ?_
      rw [Awaited.arrivals_cons_of_fault hf]
      exact nofun
    | arrival hf hc hb hafter ho hacc =>
      rw [Awaited.verdict_of_arrival hf hc, hafter, ih (hafter ▸ hsound) rfl]
      refine forall₂_congr ?_
      intro r _
      rw [Awaited.mem_arrivals_cons hf, operation_entry, hc, Awaited.mem_arrived_arrive,
        Awaited.arrivals_arrive, Option.some.injEq, and_iff_right hacc, @eq_comm _ _ r, or_assoc,
        or_left_comm]
    | release hf hc hall hafter ho hacc =>
      rw [Awaited.verdict_of_last hf hc hall]
      refine iff_of_true rfl ?_
      intro r hr
      rcases hall r hr with rfl | hm
      · exact Or.inr ((Awaited.mem_arrivals_cons hf).mpr (Or.inl ⟨hacc, hc⟩))
      · exact Or.inl hm
    | foreign hf hc hafter ho =>
      rw [Awaited.verdict_of_stranger hf hc, hafter, ih hg ha]
      refine forall₂_congr ?_
      intro r hr
      have hno : ¬((g.entry op).isAccepted = true ∧ b.caller? (g.entry op).operation = some r) :=
        fun h => hc r h.2 hr
      rw [Awaited.mem_arrivals_cons hf, or_iff_right hno]

/-! ## The outcome of an opening -/

/-- An opening that fails does so for the first fault. -/
theorem failure_of_verdict {reason : Reason} (h : b.verdict ops = some (some reason)) :
    ops.findSome? b.fault? = some reason := by
  unfold Awaited.verdict at h
  split at h
  · cases h
  · obtain ⟨r, hr, he⟩ := Option.map_eq_some_iff.mp h
    rw [hr, Option.some.inj he]

theorem verdict_eq_none_iff :
    b.verdict ops = none ↔ ¬b.verdict ops = some none ∧ ops.findSome? b.fault? = none := by
  unfold Awaited.verdict
  split
  · simp
  · cases ops.findSome? b.fault? <;> simp

theorem verdict_congr {ops' : List Operation}
    (hc : ∀ r ∈ b.expected, r ∈ b.callers ops' ↔ r ∈ b.callers ops)
    (hf : ops'.findSome? b.fault? = ops.findSome? b.fault?) : b.verdict ops' = b.verdict ops := by
  have hiff : (∀ r ∈ b.expected, r ∈ b.arrived ∨ r ∈ b.callers ops') ↔
      ∀ r ∈ b.expected, r ∈ b.arrived ∨ r ∈ b.callers ops :=
    forall₂_congr fun r hr => or_congr Iff.rfl (hc r hr)
  unfold Awaited.verdict
  simp only [hiff, hf]

section Opening

variable {before : List Operation} {name : String} {roles : List Role} {timeout : Option Span}
  {isRegistered : Role → Bool} {effects : List GateEffect}
  (h : (run {} before).openBarrier name roles timeout isRegistered = (g, .ok (epoch, effects)))

include h

theorem answer_openBarrier :
    (run {} before).answer (.openBarrier name roles timeout isRegistered) =
      (g, .ok (some epoch, effects)) := by
  rw [answer, h]
  rfl

theorem sound_of_openBarrier : g.Sound := by
  have hs := sound_after (sound_run sound_new before)
    (.openBarrier name roles timeout isRegistered)
  rwa [after_of_answer (answer_openBarrier h)] at hs

theorem awaited_of_openBarrier :
    g.awaited = some ⟨name, epoch, Role.sortedSet roles, [], timeout⟩ := by
  obtain ⟨-, -, -, rfl, -, rfl⟩ := openBarrier_ok h
  rfl

/-- What comes before an opening and the opening itself publish nothing for its epoch. -/
theorem published_history_openBarrier (after : List Operation) :
    published epoch
        (history {} (before ++ .openBarrier name roles timeout isRegistered :: after)) =
      published epoch (history g after) := by
  obtain ⟨hidle, -, -, hepoch, -, -⟩ := openBarrier_ok h
  have hold : published epoch (history {} before) = [] :=
    published_history_of_future sound_new (Nat.le_of_eq (by rw [hepoch]))
  have hnone : ((run {} before).entry
      (.openBarrier name roles timeout isRegistered)).outcomes = [] := by
    refine List.eq_nil_iff_forall_not_mem.mpr ?_
    intro o ho
    obtain ⟨b, hb, -⟩ := epoch_of_mem_outcomes (sound_run sound_new before) ho
    rw [hidle] at hb
    cases hb
  rw [history_append, published_append, hold, List.nil_append, history, published_cons, hnone,
    after_of_answer (answer_openBarrier h)]
  rfl

theorem run_openBarrier (after : List Operation) :
    run {} (before ++ .openBarrier name roles timeout isRegistered :: after) = run g after := by
  rw [run_append, run, List.foldl_cons, after_of_answer (answer_openBarrier h)]
  rfl

end Opening

/-- For every list of operations on a new gate: the epochs of the openings increase. For each
opening nothing is published as long as it is awaited, and one outcome when it is not any more. The
outcome goes to the members; it is a success exactly if each of them entered without being refused
before the first fault, and fails by that fault otherwise. The outcome depends on nothing but which
members enter before the first fault, and on that fault. -/
theorem outcome_of_opening (ops : List Operation) :
    ((history {} ops).filterMap Entry.epoch?).Pairwise (·.number < ·.number) ∧
    ∀ (before after : List Operation) (name : String) (roles : List Role) (timeout : Option Span)
      (isRegistered : Role → Bool) (epoch : Epoch) (effects : List GateEffect) (g : Gate),
      ops = before ++ .openBarrier name roles timeout isRegistered :: after →
      (run {} before).openBarrier name roles timeout isRegistered = (g, .ok (epoch, effects)) →
      let b : Awaited := ⟨name, epoch, Role.sortedSet roles, [], timeout⟩
      let isAwaited := ∃ b', (run {} ops).awaited = some b' ∧ b'.epoch = epoch
      let allArrive := ∀ r ∈ roles, r ∈ b.arrivals (history g after)
      (isAwaited ↔ ¬allArrive ∧ after.findSome? b.fault? = none) ∧
      (isAwaited → published epoch (history {} ops) = []) ∧
      (¬isAwaited → ∃ o, published epoch (history {} ops) = [o] ∧ o.name = name ∧
        o.recipients.Pairwise (· < ·) ∧ (∀ r, r ∈ o.recipients ↔ r ∈ roles) ∧
        (o.failure = none ↔ allArrive) ∧
        (o.failure ≠ none → o.failure = after.findSome? b.fault?)) ∧
      ∀ after', (∀ r ∈ roles, r ∈ b.callers after' ↔ r ∈ b.callers after) →
        after'.findSome? b.fault? = after.findSome? b.fault? →
        published epoch (history {} (before ++ .openBarrier name roles timeout isRegistered ::
          after')) = published epoch (history {} ops) := by
  refine ⟨pairwise_epochs sound_new ops, ?_⟩
  rintro before after name roles timeout isRegistered epoch effects g rfl h b isAwaited allArrive
  have hg : g.Sound := sound_of_openBarrier h
  have hb : g.awaited = some b := awaited_of_openBarrier h
  -- everything that is claimed of the outcome is read off the verdict of the opening
  have hpublished : ∀ after', published epoch (history {} (before ++
      .openBarrier name roles timeout isRegistered :: after')) =
        ((b.verdict after').map b.outcome).toList := fun after' =>
    (published_history_openBarrier h after').trans (published_history hg hb after')
  have hawaited : isAwaited ↔ b.verdict after = none := by
    rw [← awaited_run_iff hg hb after, ← run_openBarrier h after]
  have hsuccess : b.verdict after = some none ↔ allArrive := by
    rw [verdict_eq_success_iff hg hb]
    simp only [b, Role.mem_sortedSet, List.not_mem_nil, false_or]
    rfl
  refine ⟨?_, ?_, ?_, ?_⟩
  · rw [hawaited, verdict_eq_none_iff, hsuccess]
  · intro ha
    rw [hpublished, hawaited.mp ha]
    rfl
  · intro ha
    obtain ⟨failure, hv⟩ := Option.ne_none_iff_exists'.mp fun hn => ha (hawaited.mpr hn)
    refine ⟨b.outcome failure, by rw [hpublished, hv]; rfl, rfl,
      Role.pairwise_sortedSet roles, fun r => Role.mem_sortedSet, ?_, ?_⟩
    · rw [← hsuccess, hv]
      simp [Awaited.outcome]
    · intro hf
      obtain ⟨reason, rfl⟩ := Option.ne_none_iff_exists'.mp hf
      rw [failure_of_verdict hv]
      rfl
  · intro after' hcallers hfault
    rw [hpublished, hpublished,
      verdict_congr (fun r hr => hcallers r (Role.mem_sortedSet.mp hr)) hfault]

/-- A member that has arrived twice waits in vain when the other one loses its session, whatever
timers and strangers say in between. -/
theorem outcome_of_opening_lost_session :
    let a : Role := ⟨"a"⟩
    let b : Role := ⟨"b"⟩
    let after : List Operation := [.enter a "start", .timeout ⟨2⟩, .enter a "start",
      .fail ⟨"c"⟩ "start", .departed b (.sessionLost b), .enter b "start"]
    let ops : List Operation := .openBarrier "start" [b, a] none (fun _ => true) :: after
    (run {} ops).awaited = none ∧
      ∃ o, published ⟨1⟩ (history {} ops) = [o] ∧ o.name = "start" ∧
        o.recipients.Pairwise (· < ·) ∧ o.failure = some (.sessionLost b) := by
  intro a b after ops
  have hidle : (run {} ops).awaited = none := by decide
  have hopen : (run {} []).openBarrier "start" [b, a] none (fun _ => true) =
      (⟨some ⟨"start", ⟨1⟩, [a, b], [], none⟩, 2⟩,
        .ok (⟨1⟩, [.announce "start" none [a, b]])) := by cbv
  have h := (outcome_of_opening ops).2 [] after "start" [b, a] none (fun _ => true) ⟨1⟩ _ _ rfl
    hopen
  obtain ⟨-, -, hended, -⟩ := h
  obtain ⟨o, ho, hname, hr, -, hsuccess, hfailure⟩ := hended (by simp [hidle])
  refine ⟨hidle, o, ho, hname, hr, ?_⟩
  rw [hfailure]
  · decide
  · rw [Ne, hsuccess]
    decide

end Rendezvous.Gate
