import Rendezvous.Proofs.Player.Waiting

/-!
# Cleaning up

A call at a barrier that fails takes away who waits at a barrier of this name. That is the call
itself, unless its barrier was resolved between its failure and its clean-up (`Belated`). In a run
without such a clean-up every call at a barrier waits there or was told how it was resolved, as long
as the player is connected (`Attended.cared_through`), and so none ends for want of a connection
(`cleans_up_behind_itself`). In another one it may take away a call that has come since
(`cleanup_takes_another`).
-/

namespace Rendezvous.Booth

variable {τ σ : Type} {b b' : Booth τ σ} {c : Call} {e : Happening τ σ}
  {events : List (Happening τ σ)}

/-- A call that has failed cleans up, although it was told since how its barrier was resolved. -/
def Belated (b : Booth τ σ) (e : Happening τ σ) : Prop :=
  ∃ c ∈ b.calls, e = .deed (.proceed c.id) ∧ (∃ error, c.stage = .failing error) ∧
    ∃ success, (c.id, success) ∈ b.player.decided

/-- Every call at a barrier waits there or was told how it was resolved. -/
def Cared (b : Booth τ σ) : Prop :=
  ∀ c ∈ b.calls, ∀ name, c.inquiry.IsAt name →
    b.player.barrierWaiter = some ⟨c.id, name⟩ ∨ ∃ success, (c.id, success) ∈ b.player.decided

theorem Cared.of_player (h : b.Cared) (hw : b'.player.barrierWaiter = b.player.barrierWaiter)
    (hd : b'.player.decided = b.player.decided)
    (hc : ∀ c' ∈ b'.calls, ∃ c ∈ b.calls, c.id = c'.id ∧ c.inquiry = c'.inquiry) : b'.Cared := by
  intro c' hc' name hat
  obtain ⟨c, hmem, hid, hinquiry⟩ := hc c' hc'
  rw [hw, hd, ← hid]
  exact h c hmem name (hinquiry ▸ hat)

/-- A call that is cared for does not end for want of a connection. -/
theorem Cared.found?_ne (h : b.Cared) (hc : c ∈ b.calls) {name : String}
    (hat : c.inquiry.IsAt name) : b.found? c ≠ some (.error .notConnected) := by
  have hserved : b.player.barrierWait c.id ≠ .closed := by
    unfold Player.barrierWait
    split
    · nofun
    · next hnone =>
      rcases h c hc name hat with hw | ⟨success, hd⟩
      · rw [hw]
        simp
      · exact absurd (decide_eq_true rfl) (List.find?_eq_none.mp hnone _ hd)
  obtain ⟨timeout, hinquiry⟩ := hat
  unfold found?
  rw [hinquiry]
  dsimp only
  split
  · nofun
  · nofun
  · nofun
  · next hwait => exact absurd hwait hserved

theorem waiter_or_decided_hear {p : Player} {w : BarrierWaiter} (hw : p.barrierWaiter = some w)
    (m : Downlink) : (p.hear m).barrierWaiter = some w ∨
      ∃ success, (w.call, success) ∈ (p.hear m).decided := by
  cases m with
  | barrierResult name success =>
    unfold Player.hear Player.barrierResolved
    rw [hw]
    dsimp only
    split
    · exact Or.inr ⟨success, List.mem_append_right _ (List.mem_singleton.mpr rfl)⟩
    · exact Or.inl rfl
  | _ => exact Or.inl hw

theorem decided_hear {p : Player} {d : CallId × Bool} (hd : d ∈ p.decided) (m : Downlink) :
    d ∈ (p.hear m).decided := by
  cases m with
  | barrierResult name success =>
    unfold Player.hear Player.barrierResolved
    dsimp only
    split
    · split
      · exact List.mem_append_left _ hd
      · exact hd
    · exact hd
  | _ => exact hd

/-- A clean-up that is not belated takes away nobody else, so the others go on to wait. -/
theorem Cared.proceeding (h : b.Cared) (hc : c ∈ b.calls) (hp : Proceeding b c b')
    (hb : ¬ b.Belated (.deed (.proceed c.id))) : b'.Cared := by
  cases hp with
  | sends _ _ _ after | fails _ _ _ _ after | expires _ _ _ after =>
    subst after
    refine h.of_player rfl rfl fun c' hc' => ?_
    obtain ⟨c₀, hmem, hid, hinquiry, -⟩ := mem_setStage hc'
    exact ⟨c₀, hmem, hid, hinquiry⟩
  | breaks _ _ _ _ after | finds _ _ after | ends _ _ after =>
    subst after
    exact h.of_player rfl rfl fun c' hc' => ⟨c', (List.mem_filter.mp hc').1, rfl, rfl⟩
  | @leaves error name timeout stage inquiry after =>
    subst after
    intro c' hc' name' hat
    obtain ⟨hmem, hne⟩ := List.mem_filter.mp hc'
    rcases h c' hmem name' hat with hw | ⟨success, hd⟩
    · -- the one that waits is another call, so the one that cleans up was told
      rcases h c hc name ⟨timeout, inquiry⟩ with hown | htold
      · rw [hw] at hown
        have hid : c'.id = c.id := congrArg BarrierWaiter.call (Option.some.inj hown)
        exact absurd hid (of_decide_eq_true hne)
      · exact absurd ⟨c, hc, rfl, ⟨error, stage⟩, htold⟩ hb
    · refine Or.inr ⟨success, ?_⟩
      show _ ∈ (b.player.leaveBarrier name).decided
      rcases leaveBarrier_cases b.player name with he | he <;> rwa [he]

variable [Transport τ]

theorem Cared.effect (h : b.Cared) (he : Effect b e b') (hb : ¬ b.Belated e)
    (hc : b'.player.connected = true) : b'.Cared := by
  have hsame : ∀ c' ∈ b.calls, ∃ c ∈ b.calls, c.id = c'.id ∧ c.inquiry = c'.inquiry :=
    fun c' hc' => ⟨c', hc', rfl, rfl⟩
  cases he with
  | rests _ steady _ =>
    exact h.of_player (by rw [steady.player]) (by rw [steady.player]) (steady.calls ▸ hsame)
  | @hears m _ _ _ _ calls _ player _ =>
    intro c hc name hat
    rw [player]
    rcases h c (calls ▸ hc) name hat with hw | ⟨success, hd⟩
    · exact waiter_or_decided_hear hw m
    · exact Or.inr ⟨success, decided_hear hd m⟩
  | loses _ _ after | closes _ _ after =>
    subst after
    cases hc
  | refuses _ _ after =>
    subst after
    exact h.of_player rfl rfl hsame
  | @arrives name timeout _ _ _ free after =>
    subst after
    intro c hc name' hat
    rcases List.mem_append.mp hc with hc | hc
    · refine Or.inr ((h c hc name' hat).resolve_left ?_)
      rw [free]
      nofun
    · rw [List.mem_singleton.mp hc] at hat ⊢
      obtain ⟨_, ⟨⟩⟩ := hat
      exact Or.inl rfl
  | asks _ _ after =>
    subst after
    intro c hc name hat
    rcases List.mem_append.mp hc with hc | hc
    · exact h c hc name hat
    · rw [List.mem_singleton.mp hc] at hat
      obtain ⟨_, ⟨⟩⟩ := hat
  | proceeds deed call proceeding =>
    subst deed
    exact h.proceeding (List.mem_of_find?_eq_some call) proceeding hb
  | drops _ after =>
    subst after
    exact h.of_player rfl rfl fun c' hc' => ⟨c', (List.mem_filter.mp hc').1, rfl, rfl⟩

theorem cared_through (hb : b.Fresh) (events : List (Happening τ σ))
    (hpunctual : ∀ i, ¬ b.Occurs events i Belated)
    (hc : (b.through events).player.connected = true) : (b.through events).Cared := by
  induction events using List.reverseRecOn with
  | nil =>
    intro c hmem
    have hmem' : c ∈ b.calls := hmem
    rw [hb.calls] at hmem'
    cases hmem'
  | append_singleton events e ih =>
    have heffect := effect (attended_through hb.attended events).joined e
    rw [through_concat] at hc ⊢
    have hconnected : (b.through events).player.connected = true := by
      rcases heffect.attendance with ⟨-, hsame⟩ | ⟨-, hlost⟩
      · exact hsame ▸ hc
      · rw [hlost] at hc
        cases hc
    have hcared := ih (fun i hi => hpunctual i (hi.append [e])) hconnected
    exact hcared.effect heffect (fun hbelated => hpunctual _ (occurs_last hbelated)) hc

/-- As long as a player is connected and no call cleans up belatedly, no call at a barrier ends for
want of a connection, and a call that takes another one away with it is the first to be belated. -/
theorem cleans_up_behind_itself (hb : b.Fresh) (hpunctual : ∀ i, ¬ b.Occurs events i Belated)
    (hc : (b.through events).player.connected = true) (hmem : c ∈ (b.through events).calls)
    {name : String} (hat : c.inquiry.IsAt name) :
    (b.through events).found? c ≠ some (.error .notConnected) ∧
      ∀ error w, c.stage = .failing error → (b.through events).player.barrierWaiter = some w →
        w.call = c.id ∨ (b.through events).Belated (.deed (.proceed c.id)) := by
  have hcared := cared_through hb events hpunctual hc
  refine ⟨hcared.found?_ne hmem hat, ?_⟩
  intro error w hfailing hw
  rcases hcared c hmem name hat with hown | htold
  · rw [hw] at hown
    exact Or.inl (congrArg BarrierWaiter.call (Option.some.inj hown))
  · exact Or.inr ⟨c, hmem, rfl, ⟨error, hfailing⟩, htold⟩

/-- The deadline of a call passes, then its barrier is resolved, then another call comes to a
barrier of the same name. The first one takes it away as it cleans up, and the other ends for want
of a connection that is there all the time. -/
theorem cleanup_takes_another :
    let b : Booth Scripted Record := {
      role := ⟨"a"⟩, address := default, conductor := "c"
      transport := {
        connected := true
        queue := [Downlink.barrierResult "x" true].map Downlink.encode }
      handler := .recorder .obeys .obeys, memory := {}, listener := .listening }
    let events : List (Happening Scripted Record) := [.begin (.barrier "x" (some (.ofSecs 1))),
      .proceed 0, .wait 1000000000, .proceed 0, .listen, .begin (.barrier "x" none), .proceed 1,
      .proceed 0, .proceed 1].map .deed
    let s := b.through events
    s.endings = [(0, .error (.barrierTimeout "x" (.ofSecs 1))), (1, .error .notConnected)] ∧
      s.isConnected = true ∧ s.listener = .listening := by
  intro b events s
  decide +kernel

end Rendezvous.Booth
