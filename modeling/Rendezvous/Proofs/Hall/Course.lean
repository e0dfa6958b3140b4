import Rendezvous.Proofs.Hall.Rounds

/-!
# The course of a barrier

What a move does to the barrier, whoever is told of it (`Course`, `course`), and what the results
that it queues say (`verdict_of_told`): each of them is told while its opening ends, and says of it
what the outcome says that is delivered for it.
-/

namespace Rendezvous.Hall

open Conductor

variable {h : Hall} {m : Move} {moves : List Move} {s : SessionId}

/-! ## What becomes of the barrier -/

/-- What a move does to the barrier. -/
inductive Course (h : Hall) (m : Move) (h' : Hall) : Prop where
  | rests (awaited : h'.conductor.gate.awaited = h.conductor.gate.awaited)
      (outcomes : h'.conductor.outcomes = h.conductor.outcomes)
  /-- A player arrives, and others are missing. -/
  | arrives {b : Awaited} {s : SessionId} {role : Role} {timeout : Option Span}
      {claimed : Option Role} (awaited : h.conductor.gate.awaited = some b)
      (heard : h.heard? m = some (s, role, .enterBarrier b.name timeout claimed))
      (awaits : h'.conductor.gate.awaited = some (b.arrive role))
      (outcomes : h'.conductor.outcomes = h.conductor.outcomes)
  | opens {b : Awaited} (idle : h.conductor.gate.awaited = none)
      (awaits : h'.conductor.gate.awaited = some b) (arrived : b.arrived = [])
      (outcomes : h'.conductor.outcomes = h.conductor.outcomes)
  /-- The barrier ends; with success only if the last player that was missing arrives. -/
  | ends {b : Awaited} {failure : Option Reason} (awaited : h.conductor.gate.awaited = some b)
      (idle : h'.conductor.gate.awaited = none)
      (outcomes : h'.conductor.outcomes = h.conductor.outcomes ++ [b.outcome failure])
      (released : failure = none → ∃ s role timeout claimed,
        h.heard? m = some (s, role, .enterBarrier b.name timeout claimed) ∧
        ∀ r ∈ b.expected, r = role ∨ r ∈ b.arrived)

theorem course (ho : h.Orderly) (m : Move) : Course h m (h.after m) := by
  obtain ⟨c₁, op, before, behind, horigin⟩ := operates h m
  have hawaited := congrArg Gate.awaited before.gate
  have hawaits := congrArg Gate.awaited behind.gate
  have houtcomes := before.desk.outcomes
  cases turn (ho.sound.of_quiet before) op with
  | rests _ gate desk =>
    refine .rests ?_ ((behind.desk.outcomes.trans desk.outcomes).trans houtcomes)
    rw [hawaits, gate, hawaited]
  | arrives operation _ awaited _ gate desk =>
    obtain ⟨s, timeout, hs⟩ := Origin.enters (operation ▸ horigin)
    refine .arrives (hawaited ▸ awaited) hs ?_
      ((behind.desk.outcomes.trans desk.outcomes).trans houtcomes)
    rw [hawaits, gate]
  | opens _ _ _ idle _ _ _ arrived _ gate _ _ _ _ _ outcomes =>
    refine .opens (hawaited ▸ idle) ?_ arrived
      ((behind.desk.outcomes.trans outcomes).trans houtcomes)
    rw [hawaits, gate]
  | @ends b failure awaited _ released gate _ _ _ outcomes =>
    have hended : (h.after m).conductor.outcomes = h.conductor.outcomes ++ [b.outcome failure] := by
      rw [behind.desk.outcomes, outcomes, houtcomes]
    refine .ends (hawaited ▸ awaited) ?_ hended ?_
    · rw [hawaits, gate]
    · intro hf
      obtain ⟨role, claimed, hop, hall⟩ := released hf
      obtain ⟨s, timeout, hs⟩ := Origin.enters (hop ▸ horigin)
      exact ⟨s, role, timeout, claimed, hs, hall⟩

/-! ## What the results say -/

/-- The result that is told when a barrier ends is that of its end. -/
theorem result_of_words {b : Awaited} {failure : Option Reason} {effects : List GateEffect}
    {hears : Role → Bool} {name : String} {success : Bool} (he : b.Ends failure effects)
    (hw : .barrierResult name success ∈ effects.flatMap (·.words hears)) :
    name = b.name ∧ success = failure.isNone := by
  have hend : ∀ failure : Option Reason,
      .barrierResult name success ∈ (b.endEffects failure).flatMap (·.words hears) →
      name = b.name ∧ success = failure.isNone := by
    intro failure hw
    rw [words_endEffects] at hw
    obtain ⟨-, -, hd⟩ := List.mem_map.mp hw
    cases hd
    exact ⟨rfl, rfl⟩
  cases he with
  | quietly failure => exact hend failure hw
  | relayed role _ =>
    rw [List.flatMap_cons] at hw
    rcases List.mem_append.mp hw with hw | hw
    · obtain ⟨-, -, hd⟩ := List.mem_map.mp hw
      cases hd
    · exact hend _ hw

/-- A result is queued while the barrier that it speaks of ends. -/
theorem result_of_news (ho : h.Orderly) {e : Option Epoch} {name : String} {success : Bool}
    (hn : (e, .barrierResult name success) ∈ h.news m s) :
    ∃ b failure, h.conductor.gate.awaited = some b ∧ e = some b.epoch ∧ name = b.name ∧
      success = failure.isNone ∧
      (h.after m).conductor.outcomes = h.conductor.outcomes ++ [b.outcome failure] := by
  obtain ⟨c₁, op, before, behind, horigin⟩ := operates h m
  have hspoken : ∀ {w : List Downlink}, (c₁.after op).spoken s = c₁.spoken s ++ w →
      e = h.epochOf m ∧ .barrierResult name success ∈ w := by
    intro w hw
    rw [news_of_spoken (by rw [behind.spoken, hw, before.spoken])] at hn
    obtain ⟨d, hd, he⟩ := List.mem_map.mp hn
    cases he
    exact ⟨rfl, hd⟩
  by_cases ht : op.tends? = some s
  · -- a line that has just been opened has nothing on it
    obtain ⟨rfl, rfl⟩ := horigin.tends ht
    have hnew := (ho.new h.nextSession (Nat.le_refl _)).2.2
    rw [← before.spoken] at hnew
    have hblank : (c₁.after (.attach h.nextSession)).spoken h.nextSession = [] := by
      unfold Conductor.after attach Conductor.spoken line
      rw [Table.get?_put, if_pos rfl]
      rfl
    obtain ⟨-, hmem⟩ := hspoken (w := []) (by rw [hblank, hnew, List.append_nil])
    cases hmem
  · obtain ⟨audience, hsaid, -⟩ := says_after c₁ s op ht
    obtain ⟨he, hmem⟩ := hspoken hsaid.spoken
    -- only words of effects were queued, and only an end has a result among its words
    have hword : .barrierResult name success ∈
        (c₁.effects op).flatMap (·.words (audience.binds s)) := by
      split at hmem
      · exact hmem
      · cases hmem
    cases turn (ho.sound.of_quiet before) op with
    | rests effects | arrives _ effects =>
      rw [effects] at hword
      cases hword
    | opens _ effects =>
      rw [effects, words_openEffects] at hword
      obtain ⟨r, -, hd⟩ := List.mem_map.mp hword
      cases hd
    | @ends b failure awaited effects _ _ _ _ _ outcomes =>
      obtain ⟨hname, hsuccess⟩ := result_of_words effects hword
      rw [before.gate] at awaited
      refine ⟨b, failure, awaited, ?_, hname, hsuccess, ?_⟩
      · rw [he, epochOf_of_awaited awaited]
      · rw [behind.desk.outcomes, outcomes, before.desk.outcomes]

/-- The outcome of an opening stays the one that was delivered. -/
theorem outcome?_after (ho : h.Orderly) {e : Epoch} {o : Outcome}
    (hout : h.conductor.outcome? e = some o) : (h.after m).conductor.outcome? e = some o := by
  cases course ho m with
  | rests _ outcomes | arrives _ _ _ outcomes | opens _ _ _ outcomes =>
    unfold outcome? at hout ⊢
    rwa [outcomes]
  | ends _ _ outcomes => exact outcome?_append outcomes hout

/-- Every result that was queued for a session, whether its line is open or not, says of its opening
what the outcome says that was delivered for it. -/
theorem verdict_of_told (settings : Settings) (moves : List Move) {e : Option Epoch}
    {name : String} {success : Bool}
    (ht : (e, .barrierResult name success) ∈ told s { conductor := { settings } } moves) :
    ∃ epoch o, e = some epoch ∧
      (follow { conductor := { settings } } moves).conductor.outcome? epoch = some o ∧
      o.name = name ∧ o.isSuccess = success := by
  induction moves using List.reverseRecOn with
  | nil => cases ht
  | append_singleton moves m ih =>
    have ho := orderly_follow (orderly_new settings) moves
    rw [told_concat] at ht
    rw [follow_concat]
    rcases List.mem_append.mp ht with ht | ht
    · obtain ⟨epoch, o, he, hout, hname, hsuccess⟩ := ih ht
      exact ⟨epoch, o, he, outcome?_after ho hout, hname, hsuccess⟩
    · obtain ⟨b, failure, ha, he, hname, hsuccess, hout⟩ := result_of_news ho ht
      refine ⟨b.epoch, b.outcome failure, he, outcome?_of_ends ho.sound ha hout, hname.symm, ?_⟩
      rw [hsuccess]
      rfl

end Rendezvous.Hall
