import Rendezvous.Conductor.Operations
import Rendezvous.Proofs.Gate.Step

/-!
# Effects on the conductor

What the pieces of the conductor's operations leave alone. Each `_eq` names the fields that a piece
can change and takes all others from the conductor before it, so that any other field can be read
off by rewriting with it.

Of what is kept for an opening, the list of waiters and the timer, the effects of opening a barrier
arm the timer (`settleGate_openEffects`), and those of ending it take away both and deliver the
outcome (`Awaited.Ends`, `ends_settleGate`).
-/

namespace Rendezvous

/-- How a barrier ends: its members are told why, and if one gave it up the others are told who. -/
inductive Awaited.Ends (b : Awaited) : Option Reason → List GateEffect → Prop where
  | quietly (failure : Option Reason) : Ends b failure (b.endEffects failure)
  | relayed (role : Role) (member : role ∈ b.expected) :
      Ends b (some (.failed role)) (b.relay role :: b.endEffects (some (.failed role)))

namespace GateEffect

/-- Whether an effect publishes a success. -/
def isSuccess : GateEffect → Bool
  | publish o => o.isSuccess
  | _ => false

/-- Whether an effect publishes a failure. -/
def isFailure : GateEffect → Bool
  | publish o => !o.isSuccess
  | _ => false

end GateEffect

namespace Conductor

variable {c : Conductor} {b : Awaited} {g : Gate} {failure : Option Reason}
  {effects : List GateEffect}

/-! ## Messages -/

theorem tell_eq (c : Conductor) (role : Role) (m : Downlink) :
    c.tell role m = { c with lines := (c.tell role m).lines } := by
  unfold tell
  cases c.roster.members.get? role with
  | none => rfl
  | some member => rfl

theorem tellAll_eq (c : Conductor) (roles : List Role) (m : Role → Downlink) :
    c.tellAll roles m = { c with lines := (c.tellAll roles m).lines } := by
  induction roles generalizing c with
  | nil => rfl
  | cons r rest ih =>
    have h : c.tellAll (r :: rest) m = (c.tell r (m r)).tellAll rest m := rfl
    rw [h, ih, tell_eq]

theorem foldl_post_eq {α : Type} (c : Conductor) (s : α → SessionId) (o : α → Outbound)
    (as : List α) :
    as.foldl (fun c a => c.post (s a) (o a)) c =
      { c with lines := (as.foldl (fun c a => c.post (s a) (o a)) c).lines } := by
  induction as generalizing c with
  | nil => rfl
  | cons a rest ih =>
    rw [List.foldl_cons, ih]
    rfl

/-! ## Effects of the gate -/

/-- The outcome of an opening is delivered if somebody waits for it. -/
theorem publish_eq (c : Conductor) (o : Outcome) :
    c.publish o = { c with
      lines := (c.publish o).lines
      tally := (c.publish o).tally
      waiters := c.waiters.erase o.epoch
      outcomes := if o.epoch ∈ c.waiters then c.outcomes ++ [o] else c.outcomes } := by
  unfold publish
  rw [tellAll_eq]
  dsimp only
  by_cases h : o.epoch ∈ c.waiters
  · rw [if_pos h, if_pos h]
  · rw [if_neg h, if_neg h, List.erase_of_not_mem h]

theorem tally_publish (c : Conductor) (o : Outcome) :
    (c.publish o).tally = if o.isSuccess
      then { c.tally with barriersSucceeded := c.tally.barriersSucceeded + 1 }
      else { c.tally with barriersFailed := c.tally.barriersFailed + 1 } := by
  unfold publish
  rw [tellAll_eq]
  dsimp only
  split <;> rfl

theorem disarm_eq (c : Conductor) (epoch : Epoch) :
    c.disarm epoch = { c with timer := (c.disarm epoch).timer } := by
  unfold disarm
  split <;> rfl

theorem timer_disarm_of_eq {epoch : Epoch} (h : c.timer.map (·.epoch) = some epoch) :
    (c.disarm epoch).timer = none := by
  obtain ⟨alarm, ha, he⟩ := Option.map_eq_some_iff.mp h
  simp [disarm, ha, he]

/-- The timer of another opening is not disarmed. -/
theorem disarm_of_ne {epoch : Epoch} (h : c.timer.map (·.epoch) ≠ some epoch) :
    c.disarm epoch = c := by
  unfold disarm
  refine if_neg fun hany => h ?_
  cases ha : c.timer with
  | none =>
    rw [ha] at hany
    cases hany
  | some alarm =>
    rw [ha] at hany
    rw [Option.map_some, of_decide_eq_true hany]

/-- What an effect of the gate can change. -/
theorem carryOut_eq (c : Conductor) (e : GateEffect) :
    c.carryOut e = { c with
      lines := (c.carryOut e).lines
      tally := (c.carryOut e).tally
      timer := (c.carryOut e).timer
      waiters := (c.carryOut e).waiters
      outcomes := (c.carryOut e).outcomes } := by
  cases e with
  | announce name timeout recipients =>
    simp only [carryOut]
    rw [tellAll_eq]
  | startTimer epoch timeout => rfl
  | cancelTimer epoch =>
    simp only [carryOut]
    rw [disarm_eq]
  | relayFailure name failedBy recipients =>
    simp only [carryOut]
    rw [tellAll_eq]
  | publish o =>
    simp only [carryOut]
    rw [publish_eq]

theorem foldl_carryOut_eq (c : Conductor) (effects : List GateEffect) :
    effects.foldl carryOut c = { c with
      lines := (effects.foldl carryOut c).lines
      tally := (effects.foldl carryOut c).tally
      timer := (effects.foldl carryOut c).timer
      waiters := (effects.foldl carryOut c).waiters
      outcomes := (effects.foldl carryOut c).outcomes } := by
  induction effects generalizing c with
  | nil => rfl
  | cons e rest ih => rw [List.foldl_cons, ih, carryOut_eq]

/-- What the effects of an operation of the gate can change, besides the gate. -/
theorem settleGate_eq (c : Conductor) (r : List GateEffect × Gate) :
    c.settleGate r = { c with
      gate := r.2
      lines := (c.settleGate r).lines
      tally := (c.settleGate r).tally
      timer := (c.settleGate r).timer
      waiters := (c.settleGate r).waiters
      outcomes := (c.settleGate r).outcomes } :=
  foldl_carryOut_eq { c with gate := r.2 } r.1

theorem gate_settleGate (c : Conductor) (r : List GateEffect × Gate) :
    (c.settleGate r).gate = r.2 := by
  rw [settleGate_eq]

theorem roster_settleGate (c : Conductor) (r : List GateEffect × Gate) :
    (c.settleGate r).roster = c.roster := by
  rw [settleGate_eq]

/-! ## Opening a barrier -/

theorem settleGate_openEffects (c : Conductor) (b : Awaited) (g : Gate) :
    c.settleGate (b.openEffects, g) = { c with
      gate := g
      lines := (c.settleGate (b.openEffects, g)).lines
      timer := match b.timeout with
        | some t => some ⟨b.epoch, timerDue c.clock t⟩
        | none => c.timer } := by
  unfold settleGate Awaited.openEffects
  cases b.timeout with
  | none =>
    simp only [List.foldl_cons, List.foldl_nil, carryOut]
    rw [tellAll_eq]
  | some t =>
    simp only [List.foldl_cons, List.foldl_nil, carryOut]
    rw [tellAll_eq]

/-! ## Ending a barrier -/

theorem foldl_endEffects (c : Conductor) (b : Awaited) (failure : Option Reason) :
    (b.endEffects failure).foldl carryOut c =
      (if b.timeout.isSome then c.disarm b.epoch else c).publish (b.outcome failure) := by
  unfold Awaited.endEffects
  cases b.timeout with
  | none => rfl
  | some t => rfl

/-- Nobody waits for an opening behind its end, its timer is not armed, and its outcome is
delivered. -/
theorem ends_endEffects (hw : c.waiters = [b.epoch])
    (ht : ∀ a, c.timer = some a → b.timeout.isSome ∧ a.epoch = b.epoch) :
    ((b.endEffects failure).foldl carryOut c).waiters = [] ∧
    ((b.endEffects failure).foldl carryOut c).timer = none ∧
    ((b.endEffects failure).foldl carryOut c).outcomes = c.outcomes ++ [b.outcome failure] := by
  have htimer : (if b.timeout.isSome then c.disarm b.epoch else c).timer = none := by
    cases ha : c.timer with
    | none =>
      rw [disarm_of_ne (by rw [ha]; nofun), ite_self, ha]
    | some a =>
      obtain ⟨hs, he⟩ := ht a ha
      rw [if_pos hs, timer_disarm_of_eq (by rw [ha, Option.map_some, he])]
  have hframe : (if b.timeout.isSome then c.disarm b.epoch else c) =
      { c with timer := (if b.timeout.isSome then c.disarm b.epoch else c).timer } := by
    split
    · exact disarm_eq c b.epoch
    · rfl
  rw [foldl_endEffects, publish_eq, hframe]
  refine ⟨?_, htimer, ?_⟩
  · simp [hw, Awaited.outcome]
  · exact if_pos (by rw [hw]; exact List.mem_singleton.mpr rfl)

theorem ends_settleGate (he : b.Ends failure effects) (hw : c.waiters = [b.epoch])
    (ht : ∀ a, c.timer = some a → b.timeout.isSome ∧ a.epoch = b.epoch) :
    (c.settleGate (effects, g)).waiters = [] ∧ (c.settleGate (effects, g)).timer = none ∧
    (c.settleGate (effects, g)).outcomes = c.outcomes ++ [b.outcome failure] := by
  cases he with
  | quietly failure => exact ends_endEffects (c := { c with gate := g }) hw ht
  | relayed role _ =>
    have hrelay : c.settleGate (b.relay role :: b.endEffects (some (.failed role)), g) =
        (b.endEffects (some (.failed role))).foldl carryOut
          ({ c with gate := g }.tellAll (b.expected.filter (· ≠ role))
            fun _ => .failBarrier b.name role) := rfl
    rw [hrelay, tellAll_eq]
    exact ends_endEffects hw ht

/-! ## Counting outcomes -/

/-- The effects of the gate count the outcomes that they publish, and nothing else. -/
theorem tally_foldl_carryOut (c : Conductor) (effects : List GateEffect) :
    (effects.foldl carryOut c).tally = { c.tally with
      barriersSucceeded := c.tally.barriersSucceeded + effects.countP GateEffect.isSuccess
      barriersFailed := c.tally.barriersFailed + effects.countP GateEffect.isFailure } := by
  induction effects generalizing c with
  | nil => rfl
  | cons e rest ih =>
    rw [List.foldl_cons, ih, List.countP_cons, List.countP_cons]
    cases e with
    | announce | relayFailure =>
      simp only [carryOut]
      rw [tellAll_eq]
      rfl
    | startTimer => rfl
    | cancelTimer epoch =>
      simp only [carryOut]
      rw [disarm_eq]
      rfl
    | publish o =>
      simp only [carryOut]
      rw [tally_publish]
      cases ho : o.isSuccess <;>
        simp [GateEffect.isSuccess, GateEffect.isFailure, ho, Nat.add_comm, Nat.add_left_comm]

theorem tally_settleGate (c : Conductor) (r : List GateEffect × Gate) :
    (c.settleGate r).tally = { c.tally with
      barriersSucceeded := c.tally.barriersSucceeded + r.1.countP GateEffect.isSuccess
      barriersFailed := c.tally.barriersFailed + r.1.countP GateEffect.isFailure } :=
  tally_foldl_carryOut { c with gate := r.2 } r.1

/-! ## Commands that fail -/

theorem foldl_failCommand_eq {α : Type} (c : Conductor) (id : α → Nat) (e : α → FaultError)
    (as : List α) :
    as.foldl (fun c a => c.failCommand (id a) (e a)) c = { c with
      tally := { c.tally with commandsFailed := c.tally.commandsFailed + as.length }
      verdicts := c.verdicts ++ as.map fun a => (id a, .error (e a)) } := by
  induction as generalizing c with
  | nil => simp
  | cons a rest ih =>
    rw [List.foldl_cons, ih]
    simp [failCommand, Nat.add_comm, Nat.add_left_comm]

theorem failPending_eq (c : Conductor) (node : Role) :
    c.failPending node = { c with
      ledger := (c.ledger.drainNode node).2
      tally := { c.tally with
        commandsFailed := c.tally.commandsFailed + (c.ledger.queue node).length }
      verdicts := c.verdicts ++
        (c.ledger.queue node).map fun e => (e.id, .error (.sessionLost node)) } := by
  unfold failPending
  dsimp only
  rw [foldl_failCommand_eq]
  rfl

theorem failAllPending_eq (c : Conductor) :
    c.failAllPending = { c with
      ledger := c.ledger.drainAll.2
      tally := { c.tally with
        commandsFailed := c.tally.commandsFailed + c.ledger.toList.length }
      verdicts := c.verdicts ++
        c.ledger.toList.map fun p => (p.2.id, .error (.sessionLost p.1)) } := by
  have h : c.failAllPending = c.ledger.toList.foldl
      (fun c p => c.failCommand p.2.id (.sessionLost p.1))
      { c with ledger := c.ledger.drainAll.2 } := rfl
  rw [h, foldl_failCommand_eq]

end Conductor

end Rendezvous
