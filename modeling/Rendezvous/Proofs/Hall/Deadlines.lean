import Rendezvous.Proofs.Conductor.Refusals
import Rendezvous.Proofs.Hall.Replies

/-!
# Deadlines

An opening of a barrier has a deadline, its own or that of the settings, or none (`Opening`,
`openings`). A move can be a timer that goes off, on time or late (`fires?`). What a move does to
the barrier and to the armed timer (`Timing`, `timing`) decides how every opening stands
(`Standing`): it is awaited, and the armed timer is its own if it has one, or some move has ended
it, with `Timeout` exactly if that was its timer. `deadlines_kept` reads this off for every run in
which no timer goes off before its span is over (`Punctual`).
-/

namespace Rendezvous

namespace Conductor

variable {c : Conductor} {op : Operation} {b : Awaited} {failure : Option Reason}
  {effects : List GateEffect} {o : Outcome}

/-! ## What a timer does -/

theorem outcomes_of_ends (he : b.Ends failure effects) :
    effects.filterMap GateEffect.outcome? = [b.outcome failure] := by
  cases he with
  | quietly failure => exact Gate.outcomes_endEffects b failure
  | relayed role _ =>
    rw [List.filterMap_cons]
    exact Gate.outcomes_endEffects b _

theorem failure_of_endEffects {reason : Option Reason}
    (ho : o ∈ (b.endEffects reason).filterMap GateEffect.outcome?) : o.failure = reason := by
  rw [Gate.outcomes_endEffects] at ho
  rw [List.mem_singleton.mp ho]
  rfl

theorem failure_of_departed {g : Gate} {role : Role} {reason : Reason}
    (ho : o ∈ (g.departed role reason).1.filterMap GateEffect.outcome?) :
    o.failure = some reason := by
  obtain ⟨b, -, -, heq⟩ | ⟨-, heq⟩ := Gate.departed_eq g role reason
  · rw [heq] at ho
    exact failure_of_endEffects ho
  · rw [heq] at ho
    cases ho

theorem failure_of_abort {g : Gate} {reason : Reason}
    (ho : o ∈ (g.abort reason).1.filterMap GateEffect.outcome?) : o.failure = some reason := by
  obtain ⟨b, -, heq⟩ | ⟨-, heq⟩ := Gate.abort_eq g reason
  · rw [heq] at ho
    exact failure_of_endEffects ho
  · rw [heq] at ho
    cases ho

theorem failure_of_barrierTimeout {epoch : Epoch}
    (ho : o ∈ (c.effects (.barrierTimeout epoch)).filterMap GateEffect.outcome?) :
    o.failure = some .timeout := by
  rw [effects] at ho
  obtain ⟨b, -, -, heq⟩ | ⟨-, heq⟩ := Gate.timeout_eq c.gate epoch
  · rw [heq] at ho
    exact failure_of_endEffects ho
  · rw [heq] at ho
    cases ho

/-- A barrier that opens has no outcome yet. -/
theorem outcomes_openBarrier (c : Conductor) (name : String) (roles : List Role)
    (timeout : Option Span) :
    (c.effects (.openBarrier name roles timeout)).filterMap GateEffect.outcome? = [] := by
  rw [effects]
  split
  · next hok =>
    obtain ⟨-, -, -, -, heffects, -⟩ := Gate.openBarrier_ok (Prod.ext rfl hok)
    rw [heffects, Awaited.openEffects]
    split <;> rfl
  · rfl

/-- A barrier that its last member enters is a success, -/
theorem failure_of_enterBarrier (hc : c.Sound) {role : Role} {name : String}
    {claimed : Option Role}
    (ho : o ∈ (c.effects (.enterBarrier role name claimed)).filterMap GateEffect.outcome?) :
    o.failure = none := by
  rw [effects] at ho
  split at ho
  · next hok =>
    obtain ⟨b, -, -, -, ⟨-, he, -⟩ | ⟨-, -, he, -⟩ | ⟨-, -, he, -⟩⟩ :=
      Gate.enter_ok hc.gate (Prod.ext rfl hok)
    · rw [he] at ho
      cases ho
    · rw [he] at ho
      cases ho
    · rw [he] at ho
      exact failure_of_endEffects ho
  · cases ho

/-- and one that a member gives up fails by this member. -/
theorem failure_of_failBarrier {role : Role} {name : String} {claimed : Role}
    (ho : o ∈ (c.effects (.failBarrier role name claimed)).filterMap GateEffect.outcome?) :
    o.failure = some (.failed role) := by
  rw [effects] at ho
  split at ho
  · next hok =>
    obtain ⟨b, -, -, hr, he, -⟩ := Gate.fail_ok (Prod.ext rfl hok)
    rw [he, outcomes_of_ends (.relayed role hr)] at ho
    rw [List.mem_singleton.mp ho]
    rfl
  · cases ho

/-- A barrier that is ended by something else than a timer does not fail with `Timeout`. -/
theorem failure_ne_timeout (hc : c.Sound) (hop : ∀ epoch, op ≠ .barrierTimeout epoch)
    (ho : o ∈ (c.effects op).filterMap GateEffect.outcome?) : o.failure ≠ some .timeout := by
  cases op with
  | barrierTimeout epoch => exact absurd rfl (hop epoch)
  | openBarrier name roles timeout =>
    rw [outcomes_openBarrier] at ho
    cases ho
  | enterBarrier role name claimed =>
    rw [failure_of_enterBarrier hc ho]
    simp
  | failBarrier role name claimed =>
    rw [failure_of_failBarrier ho]
    simp
  | sessionClosed s role =>
    cases role with
    | none => cases ho
    | some role =>
      rw [effects] at ho
      split at ho
      · rw [failure_of_departed ho]
        simp
      · cases ho
  | issue | remove =>
    rw [effects] at ho
    split at ho
    · rw [failure_of_departed ho]
      simp
    · cases ho
  | shutdown =>
    rw [effects] at ho
    split at ho
    · cases ho
    · rw [failure_of_abort ho]
      simp
  | attach | handshake | requestAddress | acknowledge | cancelCommand | count | tick | take
  | shut => cases ho

/-- A barrier that is ended fails with `Timeout` exactly if a timer ends it. -/
theorem failure_of_effects (hc : c.Sound)
    (ho : o ∈ (c.effects op).filterMap GateEffect.outcome?) :
    o.failure = some .timeout ↔ ∃ epoch, op = .barrierTimeout epoch := by
  constructor
  · intro hfailure
    by_contra hop
    exact failure_ne_timeout hc (not_exists.mp hop) ho hfailure
  · rintro ⟨epoch, rfl⟩
    exact failure_of_barrierTimeout ho

theorem timeout_iff_of_ends (hc : c.Sound) (he : b.Ends failure (c.effects op)) :
    failure = some .timeout ↔ ∃ epoch, op = .barrierTimeout epoch := by
  have ho : b.outcome failure ∈ (c.effects op).filterMap GateEffect.outcome? := by
    rw [outcomes_of_ends he]
    exact List.mem_singleton.mpr rfl
  exact failure_of_effects hc ho

/-- The timer of the awaited barrier ends it. -/
theorem barrierTimeout_of_awaited (hc : c.Sound) (ha : c.gate.awaited = some b) :
    (c.barrierTimeout b.epoch).gate = { c.gate with awaited := none } ∧
      (c.barrierTimeout b.epoch).outcomes = c.outcomes ++ [b.outcome (some .timeout)] := by
  have hgate : (c.barrierTimeout b.epoch).gate = { c.gate with awaited := none } := by
    have htimeout : (c.disarm b.epoch).gate = c.gate := by rw [disarm_eq]
    obtain ⟨b', ha', -, heq⟩ | ⟨hother, -⟩ := Gate.timeout_eq c.gate b.epoch
    · unfold barrierTimeout
      dsimp only
      rw [gate_settleGate, htimeout, heq]
    · exact absurd rfl (hother b ha)
  refine ⟨hgate, ?_⟩
  have hidle : (c.barrierTimeout b.epoch).gate.awaited = none := by rw [hgate]
  cases turn_barrierTimeout hc b.epoch with
  | rests _ gate =>
    rw [gate, ha] at hidle
    cases hidle
  | arrives operation => cases operation
  | opens operation => cases operation
  | @ends b' failure ha' effects _ _ _ _ _ outcomes =>
    rw [ha] at ha'
    cases ha'
    rw [outcomes, (timeout_iff_of_ends hc effects).mpr ⟨b.epoch, rfl⟩]

end Conductor

namespace Hall

open Conductor

variable {h h' : Hall} {m : Move} {moves : List Move} {start : Hall} {epoch : Epoch}

/-! ## Openings -/

/-- An opening of a barrier. -/
structure Opening where
  epoch : Epoch
  /-- When the barrier was opened. -/
  time : Nat
  /-- The deadline that was given with the barrier, or else that of the settings. -/
  deadline : Option Span
deriving DecidableEq

/-- The alarm that is set for an opening. -/
def Opening.alarm? (x : Opening) : Option Alarm :=
  x.deadline.map fun d => ⟨x.epoch, timerDue x.time d⟩

/-- The deadline of an opening has elapsed. -/
def Opening.Elapsed (x : Opening) (now : Nat) : Prop :=
  ∃ d ∈ x.deadline, x.time + d.toNanos ≤ now

/-- What a move opens. -/
def newOpenings (h : Hall) : Move → List Opening
  | .openBarrier name roles timeout =>
    match (h.conductor.openBarrier name roles timeout).2 with
    | .ok epoch => [⟨epoch, h.conductor.clock, timeout.or h.conductor.settings.defaultTimeout⟩]
    | .error _ => []
  | _ => []

/-- The openings of a run, in order. -/
def openings : Hall → List Move → List Opening := gathered newOpenings

theorem openings_concat (start : Hall) (moves : List Move) (m : Move) :
    openings start (moves ++ [m]) = openings start moves ++ newOpenings (start.follow moves) m :=
  gathered_concat _ _ _ _

/-! ## Timers that go off -/

/-- The opening whose timer goes off in a move. -/
def fires? (h : Hall) : Move → Option Epoch
  | .lateTimer epoch => some epoch
  | .fireTimer => (h.conductor.timer.filter fun a => isDue h.conductor.clock a.due).map (·.epoch)
  | _ => none

theorem alarm_of_fires (hf : h.fires? .fireTimer = some epoch) :
    ∃ a, h.conductor.timer = some a ∧ a.epoch = epoch ∧ isDue h.conductor.clock a.due = true := by
  obtain ⟨a, ha, he⟩ := Option.map_eq_some_iff.mp hf
  obtain ⟨ht, hd⟩ := Option.filter_eq_some_iff.mp ha
  exact ⟨a, ht, he, hd⟩

theorem fireTimer?_eq (h : Hall) :
    h.fireTimer? = (h.fires? .fireTimer).map fun e => h.withConductor (h.conductor.barrierTimeout e)
    := by
  unfold fireTimer? fires?
  cases h.conductor.timer with
  | none => rfl
  | some a =>
    rw [Option.bind_eq_bind, Option.bind_some, Option.filter_some]
    split <;> rfl

theorem after_of_fires (hf : h.fires? m = some epoch) :
    h.after m = h.withConductor (h.conductor.barrierTimeout epoch) := by
  cases m with
  | lateTimer e =>
    obtain rfl := Option.some.inj hf
    rfl
  | fireTimer =>
    show h.fireTimer?.getD h = _
    rw [fireTimer?_eq, hf]
    rfl
  | _ => cases hf

/-- A move opens a barrier or is a timer that may go off. -/
def Move.isTimed : Move → Bool
  | .openBarrier .. | .lateTimer _ | .fireTimer => true
  | _ => false

theorem newOpenings_of_fires (hf : h.fires? m = some epoch) : newOpenings h m = [] := by
  cases m with
  | openBarrier => cases hf
  | _ => rfl

theorem newOpenings_of_untimed (hm : m.isTimed = false) : newOpenings h m = [] := by
  cases m with
  | openBarrier => cases hm
  | _ => rfl

theorem fires?_of_untimed (hm : m.isTimed = false) : h.fires? m = none := by
  cases m with
  | lateTimer | fireTimer => cases hm
  | _ => rfl

theorem Origin.untimed {op : Operation} (ho : Origin h m op) (hm : m.isTimed = false) :
    (∀ name roles timeout, op ≠ .openBarrier name roles timeout) ∧
      ∀ epoch, op ≠ .barrierTimeout epoch := by
  cases ho with
  | source hs =>
    cases hs with
    | openBarrier | lateTimer | fireTimer => cases hm
    | @heard m s role u => cases u <;> exact ⟨nofun, nofun⟩
    | _ => exact ⟨nofun, nofun⟩
  | arrival | greeting | conclusion => exact ⟨nofun, nofun⟩

/-! ## What a move does to the timer -/

/-- What a move does to the barrier and to the armed timer. -/
inductive Timing (h : Hall) (m : Move) (h' : Hall) : Prop where
  | rests (opened : newOpenings h m = [])
      (awaited : h'.conductor.gate.awaited.map (·.epoch) = h.conductor.gate.awaited.map (·.epoch))
      (next : h'.conductor.gate.nextEpoch = h.conductor.gate.nextEpoch)
      (timer : h'.conductor.timer = h.conductor.timer)
      (outcomes : h'.conductor.outcomes = h.conductor.outcomes)
  /-- A barrier is opened, and the armed timer is its own. -/
  | opens {x : Opening} (opened : newOpenings h m = [x]) (idle : h.conductor.gate.awaited = none)
      (epoch : x.epoch = ⟨h.conductor.gate.nextEpoch⟩)
      (awaits : h'.conductor.gate.awaited.map (·.epoch) = some x.epoch)
      (next : h'.conductor.gate.nextEpoch = h.conductor.gate.nextEpoch + 1)
      (timer : h'.conductor.timer = x.alarm?)
      (outcomes : h'.conductor.outcomes = h.conductor.outcomes)
  /-- The barrier ends, with `Timeout` if its timer goes off. -/
  | ends {b : Awaited} {failure : Option Reason} (opened : newOpenings h m = [])
      (awaited : h.conductor.gate.awaited = some b) (idle : h'.conductor.gate.awaited = none)
      (next : h'.conductor.gate.nextEpoch = h.conductor.gate.nextEpoch)
      (outcomes : h'.conductor.outcomes = h.conductor.outcomes ++ [b.outcome failure])
      (fired : failure = some .timeout ↔ h.fires? m = some b.epoch)

theorem timing_of_fires (ho : h.Orderly) (hf : h.fires? m = some epoch) :
    Timing h m (h.after m) := by
  rw [after_of_fires hf]
  by_cases hb : ∃ b, h.conductor.gate.awaited = some b ∧ b.epoch = epoch
  · obtain ⟨b, ha, rfl⟩ := hb
    obtain ⟨hg, hout⟩ := barrierTimeout_of_awaited ho.sound ha
    refine .ends (newOpenings_of_fires hf) ha (congrArg Gate.awaited hg) ?_ hout
      (iff_of_true rfl hf)
    exact (congrArg Gate.nextEpoch hg).trans rfl
  · have heq := barrierTimeout_of_ne ho.sound fun b ha he => hb ⟨b, ha, he⟩
    rw [heq]
    exact .rests (newOpenings_of_fires hf) rfl rfl rfl rfl

theorem timing_openBarrier (ho : h.Orderly) (name : String) (roles : List Role)
    (timeout : Option Span) :
    Timing h (.openBarrier name roles timeout) (h.after (.openBarrier name roles timeout)) := by
  cases hres : (h.conductor.openBarrier name roles timeout).2 with
  | error e =>
    have hopened : newOpenings h (.openBarrier name roles timeout) = [] := by
      simp only [newOpenings, hres]
    have hsame := openBarrier_error h.conductor name roles timeout hres
    refine .rests hopened ?_ ?_ ?_ ?_ <;> rw [after, hsame] <;> rfl
  | ok epoch =>
    have hopened : newOpenings h (.openBarrier name roles timeout) =
        [⟨epoch, h.conductor.clock, timeout.or h.conductor.settings.defaultTimeout⟩] := by
      simp only [newOpenings, hres]
    obtain ⟨b, hidle, hb, hnext, hdeadline, hgate, htimer, hout⟩ := opens_of_accepted hres
    refine .opens hopened hidle hnext ?_ (congrArg Gate.nextEpoch hgate) ?_ hout
    · refine (congrArg (fun g => g.awaited.map (·.epoch)) hgate).trans ?_
      exact congrArg some hb
    · -- no timer is armed without a barrier, so none is armed for one without a deadline
      have hunarmed := ho.sound.timer
      rw [hidle, Option.bind_none, Option.map_eq_none_iff] at hunarmed
      refine htimer.trans ?_
      rw [Opening.alarm?, ← hdeadline, hunarmed, hb]
      cases b.timeout <;> rfl

theorem timing_of_untimed (ho : h.Orderly) (hm : m.isTimed = false) : Timing h m (h.after m) := by
  obtain ⟨c₁, op, before, behind, horigin⟩ := operates h m
  obtain ⟨hopen, hlate⟩ := horigin.untimed hm
  have hsound : c₁.Sound := ho.sound.of_quiet before
  have hopened : newOpenings h m = [] := newOpenings_of_untimed hm
  cases turn hsound op with
  | rests _ gate desk =>
    refine .rests hopened ?_ ?_ ((behind.desk.timer.trans desk.timer).trans before.desk.timer)
      ((behind.desk.outcomes.trans desk.outcomes).trans before.desk.outcomes)
    · rw [behind.gate, gate, before.gate]
    · rw [behind.gate, gate, before.gate]
  | arrives _ _ awaited _ gate desk =>
    refine .rests hopened ?_ ?_ ((behind.desk.timer.trans desk.timer).trans before.desk.timer)
      ((behind.desk.outcomes.trans desk.outcomes).trans before.desk.outcomes)
    · rw [behind.gate, gate, ← before.gate, awaited]
      rfl
    · rw [behind.gate, gate, before.gate]
  | opens operation => exact absurd operation (hopen _ _ _)
  | @ends b failure awaited effects _ gate _ _ _ outcomes =>
    have hnot : failure ≠ some .timeout := fun hf => by
      obtain ⟨epoch, hop⟩ := (timeout_iff_of_ends hsound effects).mp hf
      exact hlate epoch hop
    have hunfired : h.fires? m ≠ some b.epoch := by
      rw [fires?_of_untimed hm]
      nofun
    refine .ends hopened (before.gate ▸ awaited) ?_ ?_ ?_ (iff_of_false hnot hunfired)
    · rw [behind.gate, gate]
    · rw [behind.gate, gate, before.gate]
    · rw [behind.desk.outcomes, outcomes, before.desk.outcomes]

theorem timing (ho : h.Orderly) (m : Move) : Timing h m (h.after m) := by
  cases hf : h.fires? m with
  | some epoch => exact timing_of_fires ho hf
  | none =>
    cases hm : m.isTimed with
    | false => exact timing_of_untimed ho hm
    | true =>
      cases m with
      | openBarrier name roles timeout => exact timing_openBarrier ho name roles timeout
      | lateTimer => cases hf
      | fireTimer =>
        have hsame : h.after .fireTimer = h := by
          show h.fireTimer?.getD h = h
          rw [fireTimer?_eq, hf]
          rfl
        rw [hsame]
        exact .rests rfl rfl rfl rfl rfl
      | _ => cases hm

/-! ## How openings stand -/

/-- How an opening of a run stands: it is awaited and has its timer, or a move has ended it. -/
inductive Standing (start : Hall) (moves : List Move) (x : Opening) : Prop where
  | awaited (awaited : (start.follow moves).conductor.gate.awaited.map (·.epoch) = some x.epoch)
      (timer : (start.follow moves).conductor.timer = x.alarm?)
  | ended {before after : List Move} {m : Move} {o : Outcome}
      (split : moves = before ++ m :: after)
      (awaited : (start.follow before).conductor.gate.awaited.map (·.epoch) = some x.epoch)
      (gone : (start.follow (before ++ [m])).conductor.gate.awaited.map (·.epoch) ≠ some x.epoch)
      (fired : o.failure = some .timeout ↔ (start.follow before).fires? m = some x.epoch)
      (outcome : (start.follow moves).conductor.outcome? x.epoch = some o)

theorem Standing.concat {x : Opening} (hs : Standing start moves x)
    (ho : (start.follow moves).Orderly) (m : Move) : Standing start (moves ++ [m]) x := by
  cases hs with
  | awaited ha htimer =>
    cases timing ho m with
    | rests _ awaited _ timer =>
      refine .awaited ?_ ?_
      · rw [follow_concat, awaited, ha]
      · rw [follow_concat, timer, htimer]
    | opens _ idle =>
      rw [idle] at ha
      cases ha
    | @ends b failure _ awaited idle _ outcomes fired =>
      have hb : b.epoch = x.epoch := by
        rw [awaited] at ha
        exact Option.some.inj ha
      refine .ended (o := b.outcome failure) rfl ha ?_ ?_ ?_
      · rw [follow_concat, idle]
        nofun
      · rw [← hb]
        exact fired
      · rw [follow_concat, ← hb]
        exact outcome?_of_ends ho.sound awaited outcomes
  | @ended before after m' o split awaited gone fired outcome =>
    have hsplit : moves ++ [m] = before ++ m' :: (after ++ [m]) := by
      rw [split, List.append_assoc, List.cons_append]
    refine .ended hsplit awaited gone fired ?_
    rw [follow_concat]
    exact outcome?_after ho outcome

/-- What is known of the openings of a run. -/
structure Timetable (start : Hall) (moves : List Move) : Prop where
  standing : ∀ x ∈ openings start moves, Standing start moves x
  earlier : ∀ x ∈ openings start moves,
    x.epoch.number < (start.follow moves).conductor.gate.nextEpoch
  increasing : (openings start moves).Pairwise (·.epoch.number < ·.epoch.number)
  opened : ∀ b, (start.follow moves).conductor.gate.awaited = some b →
    ∃ x ∈ openings start moves, x.epoch = b.epoch

/-- A move by which no barrier opens adds nothing to what is known. -/
theorem Timetable.of_unopened (ht : Timetable start moves) (ho : (start.follow moves).Orderly)
    {m : Move} (hnew : newOpenings (start.follow moves) m = [])
    (hnext : ((start.follow moves).after m).conductor.gate.nextEpoch =
      (start.follow moves).conductor.gate.nextEpoch)
    (hawaited : ∀ b, ((start.follow moves).after m).conductor.gate.awaited = some b →
      ∃ b', (start.follow moves).conductor.gate.awaited = some b' ∧ b'.epoch = b.epoch) :
    Timetable start (moves ++ [m]) := by
  have hsame : openings start (moves ++ [m]) = openings start moves := by
    rw [openings_concat, hnew, List.append_nil]
  constructor
  · rw [hsame]
    exact fun x hx => (ht.standing x hx).concat ho m
  · rw [hsame, follow_concat, hnext]
    exact ht.earlier
  · rw [hsame]
    exact ht.increasing
  · rw [hsame, follow_concat]
    intro b hb
    obtain ⟨b', hb', he⟩ := hawaited b hb
    rw [← he]
    exact ht.opened b' hb'

theorem Timetable.concat (ht : Timetable start moves) (ho : (start.follow moves).Orderly)
    (m : Move) : Timetable start (moves ++ [m]) := by
  cases timing ho m with
  | rests opened awaited next =>
    refine ht.of_unopened ho opened next ?_
    intro b hb
    rw [hb, Option.map_some] at awaited
    exact Option.map_eq_some_iff.mp awaited.symm
  | @opens x opened _ epoch awaits next timer =>
    have hopened : openings start (moves ++ [m]) = openings start moves ++ [x] := by
      rw [openings_concat, opened]
    have hlast : x.epoch.number = (start.follow moves).conductor.gate.nextEpoch := by rw [epoch]
    refine ⟨?_, ?_, ?_, ?_⟩
    · intro y hy
      rw [hopened] at hy
      rcases List.mem_append.mp hy with hy | hy
      · exact (ht.standing y hy).concat ho m
      · obtain rfl := List.mem_singleton.mp hy
        exact .awaited (by rw [follow_concat, awaits]) (by rw [follow_concat, timer])
    · intro y hy
      rw [hopened] at hy
      rw [follow_concat, next]
      rcases List.mem_append.mp hy with hy | hy
      · exact Nat.lt_succ_of_lt (ht.earlier y hy)
      · rw [List.mem_singleton.mp hy, hlast]
        exact Nat.lt_succ_self _
    · rw [hopened, List.pairwise_append]
      refine ⟨ht.increasing, List.pairwise_singleton _ _, fun y hy z hz => ?_⟩
      rw [List.mem_singleton.mp hz, hlast]
      exact ht.earlier y hy
    · intro b hb
      rw [follow_concat] at hb
      rw [hb] at awaits
      rw [hopened]
      exact ⟨x, List.mem_append_right _ (List.mem_singleton.mpr rfl),
        (Option.some.inj awaits).symm⟩
  | ends opened _ idle next =>
    refine ht.of_unopened ho opened next ?_
    intro b hb
    rw [idle] at hb
    cases hb

/-- While an opening is awaited, the armed timer is its own. -/
theorem Timetable.timer (ht : Timetable start moves) (ho : (start.follow moves).Orderly)
    {x : Opening} (hx : x ∈ openings start moves)
    (ha : (start.follow moves).conductor.gate.awaited.map (·.epoch) = some x.epoch) :
    (start.follow moves).conductor.timer = x.alarm? := by
  cases ht.standing x hx with
  | awaited _ timer => exact timer
  | ended _ _ _ _ outcome =>
    rw [outcome?_of_awaited ho.sound ha] at outcome
    cases outcome

/-! ## Timers that keep their time -/

/-- The opening whose timer goes off late in a move. -/
def Move.late? : Move → Option Epoch
  | .lateTimer epoch => some epoch
  | _ => none

/-- The timers of a run keep their time. One that goes off late was set for an opening and is due,
and one that is due before its span is over, as no sleep is that long, does not go off before the
end of its span either. -/
structure Punctual (start : Hall) (moves : List Move) : Prop where
  late : Throughout moves fun before m => ∀ epoch ∈ m.late?, ∃ x ∈ openings start before,
    x.epoch = epoch ∧ ∃ a ∈ x.alarm?, isDue (start.follow before).conductor.clock a.due = true
  span : Throughout moves fun before m => ∀ x ∈ openings start before,
    (start.follow before).fires? m = some x.epoch → ∀ d ∈ x.deadline,
      timerDue x.time d * 1000000 < x.time + d.toNanos →
      x.time + d.toNanos ≤ (start.follow before).conductor.clock

theorem Punctual.init {rest : List Move} (hp : Punctual start (moves ++ rest)) :
    Punctual start moves where
  late := hp.late.init
  span := hp.span.init

/-- A timer that goes off when it is due does so behind the deadline. -/
theorem Punctual.elapsed (hp : Punctual start (moves ++ [m])) {x : Opening}
    (hx : x ∈ openings start moves) (hf : (start.follow moves).fires? m = some x.epoch) {a : Alarm}
    (ha : a ∈ x.alarm?) (hd : isDue (start.follow moves).conductor.clock a.due = true) :
    x.Elapsed (start.follow moves).conductor.clock := by
  obtain ⟨d, hdeadline, rfl⟩ := Option.map_eq_some_iff.mp ha
  refine ⟨d, hdeadline, ?_⟩
  rcases Nat.lt_or_ge (timerDue x.time d * 1000000) (x.time + d.toNanos) with hcut | hfull
  · exact hp.span.last x hx hf d hdeadline hcut
  · exact hfull.trans (of_decide_eq_true hd)

theorem Timetable.elapsed (ht : Timetable start moves) (ho : (start.follow moves).Orderly)
    (hp : Punctual start (moves ++ [m])) {b : Awaited}
    (hb : (start.follow moves).conductor.gate.awaited = some b)
    (hf : (start.follow moves).fires? m = some b.epoch) :
    ∃ x ∈ openings start moves, x.epoch = b.epoch ∧
      x.Elapsed (start.follow moves).conductor.clock := by
  cases m with
  | lateTimer epoch =>
    obtain ⟨x, hx, rfl, a, ha, hd⟩ := hp.late.last epoch rfl
    exact ⟨x, hx, Option.some.inj hf, hp.elapsed hx rfl ha hd⟩
  | fireTimer =>
    obtain ⟨a, htimer, -, hd⟩ := alarm_of_fires hf
    obtain ⟨x, hx, he⟩ := ht.opened b hb
    have ha : x.alarm? = some a := by
      rw [← ht.timer ho hx (by rw [hb, Option.map_some, he]), htimer]
    exact ⟨x, hx, he, hp.elapsed hx (he ▸ hf) ha hd⟩
  | _ => cases hf

/-- Every outcome that a move publishes is that of an opening, and says `Timeout` only behind the
deadline of that opening. -/
theorem Timetable.published (ht : Timetable start moves) (ho : (start.follow moves).Orderly)
    (hp : Punctual start (moves ++ [m])) :
    ∃ news, (start.follow (moves ++ [m])).conductor.outcomes =
        (start.follow moves).conductor.outcomes ++ news ∧
      ∀ o ∈ news, ∃ x ∈ openings start moves, x.epoch = o.epoch ∧
        (o.failure = some .timeout → x.Elapsed (start.follow moves).conductor.clock) := by
  rw [follow_concat]
  cases timing ho m with
  | rests _ _ _ _ outcomes | opens _ _ _ _ _ _ outcomes =>
    exact ⟨[], by rw [outcomes, List.append_nil], nofun⟩
  | @ends b failure _ awaited _ _ outcomes fired =>
    refine ⟨[b.outcome failure], outcomes, fun o hmem => ?_⟩
    obtain rfl := List.mem_singleton.mp hmem
    by_cases hf : failure = some .timeout
    · obtain ⟨x, hx, he, helapsed⟩ := ht.elapsed ho hp awaited (fired.mp hf)
      exact ⟨x, hx, he, fun _ => helapsed⟩
    · obtain ⟨x, hx, he⟩ := ht.opened b awaited
      exact ⟨x, hx, he, fun h => absurd h hf⟩

end Hall

end Rendezvous
