import Rendezvous.Proofs.Gate.Step

/-!
# Histories of the gate

A history lists what a gate was asked and what it answered. Behind an opening `b` two things count:
the first operation that is a fault for it (`Awaited.fault?`), and the members that enter it before
that (`Awaited.callers`). `Awaited.verdict` reads from them whether the opening has ended, and how;
`published_history` says that the gate publishes just that, once.

* Between the opening and its end the gate keeps the opening's name, epoch and members, so a fault
  and a call can be recognised without the gate (`treatment`).
* Behind its end nothing is published for the epoch any more (`published_history_of_past`).
-/

namespace Rendezvous

/-! ## What is asked and answered -/

/-- The outcome that an effect makes known. -/
def GateEffect.outcome? : GateEffect → Option Outcome
  | .publish o => some o
  | _ => none

namespace Gate

/-- What a gate can be asked. -/
inductive Operation where
  | openBarrier (name : String) (roles : List Role) (timeout : Option Span)
      (isRegistered : Role → Bool)
  | enter (role : Role) (name : String)
  | fail (role : Role) (name : String)
  | timeout (epoch : Epoch)
  | departed (role : Role) (reason : Reason)
  | abort (reason : Reason)

/-- The gate behind an operation, and the answer to it: the epoch of a new opening and the effects,
or the refusal. -/
def answer (g : Gate) : Operation → Gate × Except GateRefusal (Option Epoch × List GateEffect)
  | .openBarrier name roles timeout isRegistered =>
    (g.openBarrier name roles timeout isRegistered).map id (·.map fun r => (some r.1, r.2))
  | .enter role name => (g.enter role name).map id (·.map fun effects => (none, effects))
  | .fail role name => (g.fail role name).map id (·.map fun effects => (none, effects))
  | .timeout epoch => ((g.timeout epoch).2, .ok (none, (g.timeout epoch).1))
  | .departed role reason =>
    ((g.departed role reason).2, .ok (none, (g.departed role reason).1))
  | .abort reason => ((g.abort reason).2, .ok (none, (g.abort reason).1))

/-- The gate behind an operation, whether it was refused or not. -/
def after (g : Gate) (op : Operation) : Gate := (g.answer op).1

/-- The gate behind a list of operations. -/
def run (g : Gate) (ops : List Operation) : Gate := ops.foldl after g

/-- One line of a history. -/
structure Entry where
  operation : Operation
  answer : Except GateRefusal (Option Epoch × List GateEffect)

/-- The line that an operation adds. -/
def entry (g : Gate) (op : Operation) : Entry := ⟨op, (g.answer op).2⟩

@[simp] theorem operation_entry (g : Gate) (op : Operation) : (g.entry op).operation = op := rfl

/-- What a gate is asked and what it answers. -/
def history : Gate → List Operation → List Entry
  | _, [] => []
  | g, op :: rest => g.entry op :: history (g.after op) rest

namespace Entry

/-- Whether the operation was not refused. -/
def isAccepted (x : Entry) : Bool := x.answer.isOk

/-- The epoch of the opening that the operation began. -/
def epoch? (x : Entry) : Option Epoch :=
  match x.answer with
  | .ok (epoch, _) => epoch
  | .error _ => none

/-- The outcomes that the operation published. -/
def outcomes (x : Entry) : List Outcome :=
  match x.answer with
  | .ok (_, effects) => effects.filterMap GateEffect.outcome?
  | .error _ => []

end Entry

/-- The outcomes that are published for an epoch in a history. -/
def published (epoch : Epoch) (h : List Entry) : List Outcome :=
  (h.flatMap Entry.outcomes).filter (·.epoch = epoch)

end Gate

open Gate

/-! ## What counts for an opening -/

namespace Awaited

/-- The reason for which an operation makes the opening fail, as long as it is awaited. -/
def fault? (b : Awaited) : Operation → Option Reason
  | .fail role name => if name = b.name ∧ role ∈ b.expected then some (.failed role) else none
  | .timeout epoch => if epoch = b.epoch then some .timeout else none
  | .departed role reason => if role ∈ b.expected then some reason else none
  | .abort reason => some reason
  | .openBarrier .. | .enter .. => none

/-- The role that enters a barrier of the opening's name. -/
def caller? (b : Awaited) : Operation → Option Role
  | .enter role name => if name = b.name then some role else none
  | _ => none

/-- The roles that enter before the first fault. -/
def callers (b : Awaited) (ops : List Operation) : List Role :=
  (ops.takeWhile fun op => (b.fault? op).isNone).filterMap b.caller?

/-- The roles that enter before the first fault and are not refused. -/
def arrivals (b : Awaited) (h : List Entry) : List Role :=
  ((h.takeWhile fun x => (b.fault? x.operation).isNone).filter Entry.isAccepted).filterMap
    fun x => b.caller? x.operation

/-- How the opening has ended behind the operations, if it has: it succeeds if all members have
come before the first fault, and fails by that one otherwise. -/
def verdict (b : Awaited) (ops : List Operation) : Option (Option Reason) :=
  if ∀ r ∈ b.expected, r ∈ b.arrived ∨ r ∈ b.callers ops then some none
  else (ops.findSome? b.fault?).map some

variable {b : Awaited} {op : Operation} {ops : List Operation} {role : Role} {reason : Reason}

@[simp] theorem fault?_arrive : (b.arrive role).fault? op = b.fault? op := by
  cases op <;> rfl

@[simp] theorem caller?_arrive : (b.arrive role).caller? op = b.caller? op := by
  cases op <;> rfl

theorem callers_arrive : (b.arrive role).callers ops = b.callers ops := by
  unfold callers
  rw [show (b.arrive role).fault? = b.fault? from funext fun _ => fault?_arrive,
    show (b.arrive role).caller? = b.caller? from funext fun _ => caller?_arrive]

theorem callers_cons_of_fault (h : b.fault? op = some reason) : b.callers (op :: ops) = [] := by
  simp [callers, h]

theorem mem_callers_cons (h : b.fault? op = none) {r : Role} :
    r ∈ b.callers (op :: ops) ↔ b.caller? op = some r ∨ r ∈ b.callers ops := by
  cases hc : b.caller? op with
  | none => simp [callers, h, hc]
  | some x => simp [callers, h, hc, eq_comm]

theorem arrivals_arrive {h : List Entry} : (b.arrive role).arrivals h = b.arrivals h := by
  unfold arrivals
  simp only [fault?_arrive, caller?_arrive]

theorem arrivals_cons_of_fault {x : Entry} {h : List Entry}
    (hf : b.fault? x.operation = some reason) : b.arrivals (x :: h) = [] := by
  simp [arrivals, hf]

theorem mem_arrivals_cons {x : Entry} {h : List Entry} (hf : b.fault? x.operation = none)
    {r : Role} :
    r ∈ b.arrivals (x :: h) ↔
      (x.isAccepted = true ∧ b.caller? x.operation = some r) ∨ r ∈ b.arrivals h := by
  unfold arrivals
  rw [List.takeWhile_cons, if_pos (by rw [hf]; rfl), List.filter_cons]
  cases ha : x.isAccepted with
  | false => simp
  | true =>
    rw [if_pos rfl, List.filterMap_cons]
    cases b.caller? x.operation with
    | none => simp
    | some s => simp [@eq_comm _ r s]

/-- An opening that is awaited has no verdict yet. -/
theorem Sound.verdict_nil (hb : b.Sound) : b.verdict [] = none := by
  obtain ⟨r, hr, hm⟩ := hb.exists_missing
  unfold verdict
  rw [if_neg fun hall => (hall r hr).elim hm (by simp [callers])]
  rfl

theorem Sound.verdict_of_fault (hb : b.Sound) (h : b.fault? op = some reason) :
    b.verdict (op :: ops) = some (some reason) := by
  obtain ⟨r, hr, hm⟩ := hb.exists_missing
  unfold verdict
  rw [if_neg fun hall => (hall r hr).elim hm (by simp [callers_cons_of_fault h])]
  simp [h]

theorem verdict_of_last (h : b.fault? op = none) (hc : b.caller? op = some role)
    (hall : ∀ r ∈ b.expected, r = role ∨ r ∈ b.arrived) : b.verdict (op :: ops) = some none := by
  unfold verdict
  refine if_pos ?_
  intro r hr
  rcases hall r hr with rfl | hm
  · exact Or.inr ((mem_callers_cons h).mpr (Or.inl hc))
  · exact Or.inl hm

theorem verdict_of_arrival (h : b.fault? op = none) (hc : b.caller? op = some role) :
    b.verdict (op :: ops) = (b.arrive role).verdict ops := by
  have hiff : (∀ r ∈ b.expected, r ∈ b.arrived ∨ r ∈ b.callers (op :: ops)) ↔
      ∀ r ∈ b.expected, r ∈ (b.arrive role).arrived ∨ r ∈ b.callers ops := by
    refine forall₂_congr ?_
    intro r _
    rw [mem_callers_cons h, hc, mem_arrived_arrive, Option.some.injEq, @eq_comm _ role, or_assoc,
      or_left_comm]
  unfold verdict
  rw [callers_arrive, show (b.arrive role).expected = b.expected from rfl, List.findSome?_cons, h,
    show (b.arrive role).fault? = b.fault? from funext fun _ => fault?_arrive]
  simp only [hiff]

theorem verdict_of_stranger (h : b.fault? op = none)
    (hc : ∀ r, b.caller? op = some r → r ∉ b.expected) :
    b.verdict (op :: ops) = b.verdict ops := by
  have hiff : (∀ r ∈ b.expected, r ∈ b.arrived ∨ r ∈ b.callers (op :: ops)) ↔
      ∀ r ∈ b.expected, r ∈ b.arrived ∨ r ∈ b.callers ops := by
    refine forall₂_congr ?_
    intro r hr
    have hne : b.caller? op ≠ some r := fun he => hc r he hr
    rw [mem_callers_cons h, or_iff_right hne]
  unfold verdict
  rw [List.findSome?_cons, h]
  simp only [hiff]

end Awaited

/-! ## What the gate does with an operation -/

namespace Gate

variable {g : Gate} {b : Awaited} {op : Operation} {ops : List Operation} {epoch : Epoch}

theorem map_eq_ok {ε α β : Type} {f : α → β} {x : Gate × Except ε α} {g' : Gate} {b : β}
    (h : x.map id (·.map f) = (g', .ok b)) : ∃ a, x = (g', .ok a) ∧ f a = b := by
  obtain ⟨g, r⟩ := x
  obtain ⟨rfl, hr⟩ := Prod.mk.inj h
  cases r with
  | error _ => cases hr
  | ok a => exact ⟨a, rfl, Except.ok.inj hr⟩

theorem map_eq_error {ε α β : Type} {f : α → β} {x : Gate × Except ε α} {g' : Gate} {e : ε}
    (h : x.map id (·.map f) = (g', .error e)) : x = (g', .error e) := by
  obtain ⟨g, r⟩ := x
  obtain ⟨rfl, hr⟩ := Prod.mk.inj h
  cases r with
  | error _ => rw [Except.error.inj hr, id]
  | ok a => cases hr

/-- A refused operation leaves the gate as it was. -/
theorem answer_refused {g' : Gate} {e : GateRefusal} (h : g.answer op = (g', .error e)) :
    g' = g := by
  cases op with
  | openBarrier name roles timeout isRegistered => exact openBarrier_refused (map_eq_error h)
  | enter role name => exact enter_refused (map_eq_error h)
  | fail role name => exact fail_refused (map_eq_error h)
  | timeout | departed | abort => cases h

theorem step_of_answer (hg : g.Sound) {e : Option Epoch} {effects : List GateEffect} {g' : Gate}
    (h : g.answer op = (g', .ok (e, effects))) : Step g effects g' := by
  cases op with
  | openBarrier name roles timeout isRegistered =>
    obtain ⟨⟨epoch, r⟩, hr, he⟩ := map_eq_ok h
    cases he
    exact step_of_openBarrier hr
  | enter role name =>
    obtain ⟨r, hr, he⟩ := map_eq_ok h
    cases he
    exact step_of_enter hg hr
  | fail role name =>
    obtain ⟨r, hr, he⟩ := map_eq_ok h
    cases he
    exact step_of_fail hr
  | timeout epoch =>
    cases h
    exact step_timeout g epoch
  | departed role reason =>
    cases h
    exact step_departed g role reason
  | abort reason =>
    cases h
    exact step_abort g reason

/-- An operation is refused and changes nothing, or takes a step with the effects of its entry. -/
theorem entry_cases (hg : g.Sound) (op : Operation) :
    (g.after op = g ∧ (g.entry op).outcomes = [] ∧ (g.entry op).epoch? = none) ∨
    ∃ e effects, g.answer op = (g.after op, .ok (e, effects)) ∧ Step g effects (g.after op) := by
  unfold after entry
  rcases h : g.answer op with ⟨g', e | ⟨e, effects⟩⟩
  · exact Or.inl ⟨answer_refused h, rfl, rfl⟩
  · exact Or.inr ⟨e, effects, rfl, step_of_answer hg h⟩

theorem sound_after (hg : g.Sound) (op : Operation) : (g.after op).Sound := by
  obtain ⟨he, -, -⟩ | ⟨e, effects, -, hs⟩ := entry_cases hg op
  · rw [he]
    exact hg
  · exact hs.sound hg

theorem sound_run (hg : g.Sound) (ops : List Operation) : (run g ops).Sound := by
  induction ops generalizing g with
  | nil => exact hg
  | cons op rest ih => exact ih (sound_after hg op)

theorem outcomes_of_answer {e : Option Epoch} {effects : List GateEffect} {g' : Gate}
    (h : g.answer op = (g', .ok (e, effects))) :
    (g.entry op).outcomes = effects.filterMap GateEffect.outcome? := by
  simp [entry, h, Entry.outcomes]

theorem epoch?_of_answer {e : Option Epoch} {effects : List GateEffect} {g' : Gate}
    (h : g.answer op = (g', .ok (e, effects))) : (g.entry op).epoch? = e := by
  simp [entry, h, Entry.epoch?]

theorem after_of_answer {r : Except GateRefusal (Option Epoch × List GateEffect)} {g' : Gate}
    (h : g.answer op = (g', r)) : g.after op = g' := by
  rw [after, h]

theorem isAccepted_of_answer {r : Option Epoch × List GateEffect} {g' : Gate}
    (h : g.answer op = (g', .ok r)) : (g.entry op).isAccepted = true := by
  simp [entry, h, Entry.isAccepted, Except.isOk, Except.toBool]

/-! ## An awaited opening -/

theorem outcomes_endEffects (b : Awaited) (failure : Option Reason) :
    (b.endEffects failure).filterMap GateEffect.outcome? = [b.outcome failure] := by
  unfold Awaited.endEffects
  cases b.timeout <;> rfl

/-- What an operation does to an awaited opening. -/
inductive Treatment (g : Gate) (b : Awaited) (op : Operation) : Prop where
  /-- It is a fault and ends the opening. -/
  | fault {reason : Reason} (faulty : b.fault? op = some reason)
      (after : g.after op = { g with awaited := none })
      (outcomes : (g.entry op).outcomes = [b.outcome (some reason)])
  /-- A member enters, and others are missing. -/
  | arrival {role : Role} (faultless : b.fault? op = none) (caller : b.caller? op = some role)
      (sound : (b.arrive role).Sound)
      (after : g.after op = { g with awaited := some (b.arrive role) })
      (outcomes : (g.entry op).outcomes = []) (accepted : (g.entry op).isAccepted = true)
  /-- The last member enters. -/
  | release {role : Role} (faultless : b.fault? op = none) (caller : b.caller? op = some role)
      (all : ∀ r ∈ b.expected, r = role ∨ r ∈ b.arrived)
      (after : g.after op = { g with awaited := none })
      (outcomes : (g.entry op).outcomes = [b.outcome none])
      (accepted : (g.entry op).isAccepted = true)
  /-- It does not concern the opening. -/
  | foreign (faultless : b.fault? op = none)
      (stranger : ∀ r, b.caller? op = some r → r ∉ b.expected) (after : g.after op = g)
      (outcomes : (g.entry op).outcomes = [])

theorem Treatment.of_error {g' : Gate} {e : GateRefusal} (h : g.answer op = (g', .error e))
    (hf : b.fault? op = none) (hc : ∀ r, b.caller? op = some r → r ∉ b.expected) :
    Treatment g b op :=
  .foreign hf hc ((after_of_answer h).trans (answer_refused h))
    (by simp [entry, h, Entry.outcomes])

theorem Treatment.of_fault {reason : Reason} {effects : List GateEffect}
    (h : g.answer op = ({ g with awaited := none }, .ok (none, effects)))
    (hf : b.fault? op = some reason)
    (ho : effects.filterMap GateEffect.outcome? = [b.outcome (some reason)]) :
    Treatment g b op :=
  .fault hf (after_of_answer h) (by rw [outcomes_of_answer h, ho])

theorem Treatment.of_rest (h : g.answer op = (g, .ok (none, []))) (hf : b.fault? op = none)
    (hc : b.caller? op = none) : Treatment g b op :=
  .foreign hf (fun r hr => by rw [hc] at hr; cases hr) (after_of_answer h)
    (by rw [outcomes_of_answer h]; rfl)

theorem treatment_enter_of_member {role : Role} (hg : g.Sound) (ha : g.awaited = some b)
    (hr : role ∈ b.expected) : Treatment g b (.enter role b.name) := by
  have hc : b.caller? (.enter role b.name) = some role := if_pos rfl
  obtain ⟨effects, g', h⟩ := enter_of_member ha hr
  have hans : g.answer (.enter role b.name) = (g', .ok (none, effects)) := by
    rw [answer, h]
    rfl
  obtain ⟨b', ha', -, -, hcase⟩ := enter_ok hg h
  obtain rfl : b = b' := Option.some.inj (ha.symm.trans ha')
  rcases hcase with ⟨hin, rfl, hg'⟩ | ⟨-, hl, rfl, rfl⟩ | ⟨-, hall, rfl, rfl⟩
  · -- to enter again is an arrival that changes nothing
    have hsame : b.arrive role = b := by
      unfold Awaited.arrive
      rw [Role.insert_of_mem (hg.awaited b ha).arrived_ordered hin]
    refine .arrival rfl hc (by rw [hsame]; exact hg.awaited b ha) ?_
      (outcomes_of_answer hans) (isAccepted_of_answer hans)
    rw [after_of_answer hans, hg', hsame, ← ha]
  · exact .arrival rfl hc ((hg.awaited b ha).arrive hr hl) (after_of_answer hans)
      (outcomes_of_answer hans) (isAccepted_of_answer hans)
  · exact .release rfl hc hall (after_of_answer hans)
      (by rw [outcomes_of_answer hans, outcomes_endEffects]) (isAccepted_of_answer hans)

theorem treatment_enter (hg : g.Sound) (ha : g.awaited = some b) (role : Role) (name : String) :
    Treatment g b (.enter role name) := by
  by_cases hn : name = b.name
  · by_cases hr : role ∈ b.expected
    · rw [hn]
      exact treatment_enter_of_member hg ha hr
    · have hans : g.answer (.enter role name) = (g, .error (.unexpectedRole role name)) := by
        simp only [answer, enter, awaitedBy, awaitedNamed, ha, hn, if_true, hr, if_false]
        rfl
      refine .of_error hans rfl ?_
      intro r hc
      simp only [Awaited.caller?, hn, if_true, Option.some.injEq] at hc
      exact hc ▸ hr
  · have hans : g.answer (.enter role name) = (g, .error (.stale name (some b.name))) := by
      simp only [answer, enter, awaitedBy, awaitedNamed, ha, if_neg (Ne.symm hn)]
      rfl
    refine .of_error hans rfl ?_
    intro r hc
    simp [Awaited.caller?, hn] at hc

theorem treatment_fail (ha : g.awaited = some b) (role : Role) (name : String) :
    Treatment g b (.fail role name) := by
  cases h : g.awaitedBy role name with
  | ok b' =>
    obtain ⟨ha', hn, hr⟩ := awaitedBy_eq_ok_iff.mp h
    obtain rfl : b = b' := Option.some.inj (ha.symm.trans ha')
    have hans : g.answer (.fail role name) = ({ g with awaited := none },
        .ok (none, b.relay role :: b.endEffects (some (.failed role)))) := by
      simp only [answer, fail, h]
      rfl
    refine .of_fault hans (if_pos ⟨hn.symm, hr⟩) ?_
    rw [List.filterMap_cons]
    exact outcomes_endEffects b _
  | error e =>
    have hans : g.answer (.fail role name) = (g, .error e) := by
      simp only [answer, fail, h]
      rfl
    -- a fault of the opening is not refused
    refine .of_error hans (if_neg ?_) nofun
    intro hm
    have hb := awaitedBy_eq_ok_iff.mpr ⟨ha, hm.1.symm, hm.2⟩
    rw [h] at hb
    cases hb

theorem treatment_timeout (ha : g.awaited = some b) (epoch : Epoch) :
    Treatment g b (.timeout epoch) := by
  obtain ⟨b', ha', he, ht⟩ | ⟨hne, ht⟩ := timeout_eq g epoch
  · obtain rfl : b = b' := Option.some.inj (ha.symm.trans ha')
    exact .of_fault (by rw [answer, ht]) (if_pos he.symm) (outcomes_endEffects b _)
  · exact .of_rest (by rw [answer, ht]) (if_neg (Ne.symm (hne b ha))) rfl

theorem treatment_departed (ha : g.awaited = some b) (role : Role) (reason : Reason) :
    Treatment g b (.departed role reason) := by
  obtain ⟨b', ha', hr, hd⟩ | ⟨hnot, hd⟩ := departed_eq g role reason
  · obtain rfl : b = b' := Option.some.inj (ha.symm.trans ha')
    exact .of_fault (by rw [answer, hd]) (if_pos hr) (outcomes_endEffects b _)
  · exact .of_rest (by rw [answer, hd]) (if_neg (hnot b ha)) rfl

theorem treatment_abort (ha : g.awaited = some b) (reason : Reason) :
    Treatment g b (.abort reason) := by
  obtain ⟨b', ha', hd⟩ | ⟨hnone, -⟩ := abort_eq g reason
  · obtain rfl : b = b' := Option.some.inj (ha.symm.trans ha')
    exact .of_fault (by rw [answer, hd]) rfl (outcomes_endEffects b _)
  · rw [ha] at hnone
    cases hnone

theorem treatment (hg : g.Sound) (ha : g.awaited = some b) (op : Operation) :
    Treatment g b op := by
  cases op with
  | openBarrier name roles timeout isRegistered =>
    have hans : g.answer (.openBarrier name roles timeout isRegistered) =
        (g, .error (.busy b.name)) := by
      simp only [answer, openBarrier, ha]
      rfl
    exact .of_error hans rfl nofun
  | enter role name => exact treatment_enter hg ha role name
  | fail role name => exact treatment_fail ha role name
  | timeout epoch => exact treatment_timeout ha epoch
  | departed role reason => exact treatment_departed ha role reason
  | abort reason => exact treatment_abort ha reason

end Gate

end Rendezvous
