import Rendezvous.Proofs.Hall.Attendance
import Rendezvous.Proofs.Hall.Superseded

/-!
# Shutdown

Only the driver shuts a conductor down, and then it is at its end (`closing_iff`, `final_follow`).
Whatever moves come behind that, roles, barriers and commands stay as the shutdown left them, and
nothing is queued for the sessions that were there (`rests_follow`). `shutdown_final` puts this
together with what the shutdown itself does.
-/

namespace Rendezvous

open Conductor

namespace Conductor

/-- What a session is told of the awaited barrier at a shutdown: that it has failed, if the session
has the role of a member. -/
def lastResults (c : Conductor) (s : SessionId) : List Downlink :=
  c.gate.awaited.toList.flatMap fun b =>
    (b.expected.filter (c.roster.binds s)).map fun _ => .barrierResult b.name false

theorem words_abort (c : Conductor) (s : SessionId) :
    (c.gate.abort .shutdown).1.flatMap (·.words (c.roster.binds s)) = c.lastResults s := by
  unfold lastResults
  obtain ⟨b, ha, habort⟩ | ⟨hidle, habort⟩ := Gate.abort_eq c.gate .shutdown
  · rw [habort, ha, words_endEffects, Option.toList_some, List.flatMap_singleton]
    rfl
  · rw [habort, hidle]
    rfl

end Conductor

namespace Hall

variable {h : Hall} {m : Move} {s : SessionId}

/-! ## Who shuts down -/

theorem Origin.shuts (ho : Origin h m .shutdown) : m = .shutdown := by
  generalize hop : Operation.shutdown = op at ho
  cases ho with
  | source hs =>
    cases hs with
    | shutdown => rfl
    | @heard m s role u => cases u <;> cases hop
    | _ => cases hop
  | arrival | greeting | conclusion => cases hop

theorem closing_of_move (hm : m ≠ .shutdown) :
    (h.after m).conductor.closing = h.conductor.closing := by
  obtain ⟨c₁, op, before, behind, horigin⟩ := operates h m
  have hop : op ≠ .shutdown := by
    rintro rfl
    exact hm horigin.shuts
  rw [behind.closing, closing_after hop, before.closing]

theorem closing_shutdown (ho : h.Orderly) : h.conductor.shutdown.closing = true := by
  cases hclosing : h.conductor.closing with
  | true => rwa [shutdown, if_pos hclosing]
  | false => exact (final_shutdown ho.sound hclosing).closing

/-- A conductor is closing exactly when it was shut down. -/
theorem closing_iff (settings : Settings) (moves : List Move) :
    (follow { conductor := { settings } } moves).conductor.closing = true ↔
      .shutdown ∈ moves := by
  induction moves using List.reverseRecOn with
  | nil => exact iff_of_false nofun List.not_mem_nil
  | append_singleton moves m ih =>
    rw [follow_concat, List.mem_append, List.mem_singleton]
    by_cases hm : m = .shutdown
    · subst hm
      exact iff_of_true (closing_shutdown (orderly_follow (orderly_new settings) moves))
        (Or.inr rfl)
    · rw [closing_of_move hm, ih]
      exact (or_iff_left (Ne.symm hm)).symm

/-! ## At the end -/

theorem stands_after (hf : h.conductor.Final) (m : Move) :
    h.conductor.Stands (h.after m).conductor := by
  obtain ⟨c₁, op, before, behind, -⟩ := operates h m
  exact before.stands.trans (((hf.of_stands before.stands).after op).1.trans behind.stands)

theorem final_after (ho : h.Orderly) (hf : h.conductor.closing = true → h.conductor.Final)
    (m : Move) (hclosing : (h.after m).conductor.closing = true) : (h.after m).conductor.Final := by
  by_cases hc : h.conductor.closing = true
  · exact (hf hc).of_stands (stands_after (hf hc) m)
  · by_cases hm : m = .shutdown
    · subst hm
      exact final_shutdown ho.sound (Bool.eq_false_iff.mpr hc)
    · exact absurd (closing_of_move hm ▸ hclosing) hc

/-- In every run, a conductor that was shut down is at its end. -/
theorem final_follow (settings : Settings) (moves : List Move)
    (hclosing : (follow { conductor := { settings } } moves).conductor.closing = true) :
    (follow { conductor := { settings } } moves).conductor.Final := by
  induction moves using List.reverseRecOn with
  | nil => cases hclosing
  | append_singleton moves m ih =>
    rw [follow_concat] at hclosing ⊢
    exact final_after (orderly_follow (orderly_new settings) moves) ih m hclosing

/-- A conductor at its end queues nothing for a session that is there. -/
theorem queued_after (hf : h.conductor.Final) (ho : h.Orderly) (hs : h.stage? s ≠ none)
    (m : Move) : ((h.after m).conductor.line s).queued = (h.conductor.line s).queued := by
  obtain ⟨c₁, op, before, behind, horigin⟩ := operates h m
  have htends : op.tends? ≠ some s := by
    intro ht
    exact ho.ne_of_known hs (horigin.tends ht).2
  rw [behind.queued, ((hf.of_stands before.stands).after op).2 s htends, before.queued]

/-- Whatever moves come, nothing goes on at a conductor at its end. -/
theorem rests_follow (hf : h.conductor.Final) (ho : h.Orderly) (moves : List Move) :
    h.conductor.Stands (follow h moves).conductor ∧ ∀ s, h.stage? s ≠ none →
      ((follow h moves).conductor.line s).queued = (h.conductor.line s).queued := by
  induction moves generalizing h with
  | nil => exact ⟨.refl _, fun _ _ => rfl⟩
  | cons m rest ih =>
    have hstands := stands_after hf m
    obtain ⟨hrest, hqueued⟩ := ih (hf.of_stands hstands) (orderly_after ho m)
    refine ⟨hstands.trans hrest, fun s hs => ?_⟩
    exact (hqueued s (known_after ho hs m)).trans (queued_after hf ho hs m)

/-! ## The end of a run -/

/-- At its shutdown a conductor tells each session to close, behind the result of the barrier, but
for those that were stopped. -/
theorem queued_of_connected (settings : Settings) (moves : List Move)
    (hopen : (follow { conductor := { settings } } moves).conductor.closing = false)
    (hs : s ∈ (follow { conductor := { settings } } moves).conductor.connections) :
    let h := follow { conductor := { settings } } moves
    h.stage? s = some .killed ∨ (h.conductor.shutdown.line s).queued =
      (h.conductor.line s).queued ++ (h.conductor.lastResults s).map .message ++ [.close] := by
  intro h
  have ht : h.Tidy := tidy_follow settings moves
  rcases runs_or_killed ((ht.connected s).mp hs) with ⟨role, hruns⟩ | hkilled
  · refine Or.inr ?_
    have hline := (attached_follow settings moves hruns).isOpen
    rw [queued_shutdown hopen ht.nodup hs hline, words_abort]
  · exact Or.inl hkilled

/-- In every run, a shutdown fails the awaited barrier and all outstanding commands, tells every
session that still runs to close, behind the result of the barrier, and leaves no role, no parked
request, no barrier, no command, no waiter and no timer. Whatever moves come later, this stays: no
player is taken, no barrier opens, no command is taken on but a removal, which has no effect, and a
timer or another shutdown has none either. -/
theorem shutdown_final (settings : Settings) (moves later : List Move) :
    let start : Hall := { conductor := { settings } }
    let h := follow start moves
    let c := h.conductor
    let c' := c.shutdown
    let d := (follow start (moves ++ .shutdown :: later)).conductor
    (∀ b, c.gate.awaited = some b →
      c'.outcome? b.epoch = some (b.outcome (some .shutdown))) ∧
    (∀ x ∈ c.ledger.toList,
      c'.verdict? ⟨x.1, x.2.kind, some x.2.id⟩ = some (.error (.sessionLost x.1))) ∧
    (c.closing = true ↔ .shutdown ∈ moves) ∧
    (c.closing = false → c'.roster.waiting = [] ∧
      ∀ s ∈ c.connections, h.stage? s = some .killed ∨ (c'.line s).queued =
        (c.line s).queued ++ (c.lastResults s).map .message ++ [.close]) ∧
    c'.Final ∧ d.Final ∧ c'.Stands d ∧
    (∀ s, h.stage? s ≠ none → (d.line s).queued = (c'.line s).queued) ∧
    (∀ s name address, ∃ e, d.handshake s name address = (d, .error e)) ∧
    (∀ name roles timeout, ∃ e, d.openBarrier name roles timeout = (d, .error e)) ∧
    (∀ cmd : Command, cmd.kind ≠ .remove → d.issue cmd = (d, .error (.unknownRole cmd.node))) ∧
    (∀ node, d.remove node = d) ∧ (∀ epoch, d.barrierTimeout epoch = d) ∧ d.shutdown = d := by
  intro start h c c' d
  have ho : h.Orderly := orderly_follow (orderly_new settings) moves
  have hb : c.Books := books_follow settings moves
  have hdown : follow start (moves ++ [.shutdown]) = h.after .shutdown := follow_concat _ _ _
  have hfinal : c'.Final := by
    have hlast := final_follow settings (moves ++ [.shutdown])
      ((closing_iff settings _).mpr (List.mem_append_right _ (List.mem_singleton_self _)))
    rwa [hdown] at hlast
  have hrun : d = (follow (h.after .shutdown) later).conductor := by
    rw [← hdown, ← follow_append, List.append_assoc]
    rfl
  obtain ⟨hstands, hqueued⟩ := rests_follow (h := h.after .shutdown) hfinal
    (orderly_after ho .shutdown) later
  rw [← hrun] at hstands hqueued
  have hend : d.Final := hfinal.of_stands hstands
  -- a conductor that is closing awaits no barrier and no command
  have hopen : c.closing = false ∨ c.Final := by
    cases hclosing : c.closing with
    | false => exact Or.inl rfl
    | true => exact Or.inr (final_follow settings moves hclosing)
  refine ⟨?_, ?_, closing_iff settings moves, ?_, hfinal, hend, hstands, hqueued, hend.handshake,
    hend.openBarrier, fun _ => hend.issue, hend.remove, hend.barrierTimeout, hend.shutdown⟩
  · intro b ha
    rcases hopen with hopen | hclosed
    · exact outcome?_of_ends ho.sound ha (outcomes_shutdown ho.sound hopen ha)
    · rw [hclosed.awaited] at ha
      cases ha
  · intro x hx
    rcases hopen with hopen | hclosed
    · exact verdict?_shutdown hb.commands hopen hx
    · have hqueue := (Ledger.mem_toList hb.commands.ledger.ordered).mp hx
      rw [hclosed.queue_eq_nil] at hqueue
      cases hqueue
  · intro hopen
    exact ⟨congrArg Roster.waiting (roster_shutdown hopen), fun s => queued_of_connected settings moves hopen⟩

/-- A shutdown with a barrier, a command and a request under way; later another player comes, and
the one that was there goes on as if nothing had happened. -/
theorem shutdown_final_under_way :
    let r : Role := ⟨"r"⟩
    let moves : List Move := [
      .connect, .deliver 0 (Frame.ofBody (Uplink.hello "r" default).encode), .read 0,
      .openBarrier "start" [r] none, .issue (.terminate r .graceful),
      .deliver 0 (Frame.ofBody (Uplink.getAddress ⟨"x"⟩).encode), .read 0]
    let later : List Move := [
      .connect, .deliver 1 (Frame.ofBody (Uplink.hello "r" default).encode), .read 1,
      .deliver 0 (Frame.ofBody (Uplink.enterBarrier "start" none none).encode), .read 0,
      .lateTimer ⟨1⟩, .openBarrier "again" [r] none]
    let c := (follow {} moves).conductor
    let d := (follow {} (moves ++ .shutdown :: later)).conductor
    (c.shutdown.outcome? ⟨1⟩ = some ⟨"start", ⟨1⟩, some .shutdown, [r]⟩ ∧
      c.shutdown.verdict? ⟨r, .terminate, some 1⟩ = some (.error (.sessionLost r))) ∧
    (c.roster.parked ⟨"x"⟩ = [0] ∧ c.shutdown.roster.waiting = []) ∧
    (d.line 0).queued = (c.line 0).queued ++ [.message (.barrierResult "start" false), .close] ∧
    d.Final ∧ ∃ e, d.handshake 1 "r" default = (d, .error e) := by
  intro r moves later
  dsimp only
  obtain ⟨hbarrier, hcommands, -, hclose, -, hend, -, hqueued, hrefused, -⟩ :=
    shutdown_final {} moves later
  obtain ⟨hwaiting, hsessions⟩ := hclose (by decide +kernel)
  have hactive : (follow {} moves).stage? 0 = some (.active r) := by decide +kernel
  have hfailed : (follow {} moves).conductor.lastResults 0 = [.barrierResult "start" false] := by
    decide +kernel
  refine ⟨⟨?_, ?_⟩, ⟨by decide +kernel, hwaiting⟩, ?_, hend, hrefused 1 "r" default⟩
  · exact hbarrier ⟨"start", ⟨1⟩, [r], [], none⟩ (by decide +kernel)
  · exact hcommands (r, ⟨.terminate, 1, ()⟩) (by decide +kernel)
  · rcases hsessions 0 (by decide +kernel) with hkilled | hline
    · rw [hactive] at hkilled
      cases hkilled
    · rw [hqueued 0 (by rw [hactive]; nofun), hline, hfailed, List.append_assoc]
      rfl

end Hall

end Rendezvous
