import Rendezvous.Proofs.Player.Happenings

/-!
# Waiting at barriers

All calls of a player share one place at which to wait for a barrier. What becomes of it is known by
four cases (`BarrierTurn`): a call goes to wait, a resolution is told to the call that waits, a
resolution is told to nobody, or nothing is resolved. So over a run every verdict that a call ends
with comes from one resolution, which is told while this call waits (`Chronicle`).
-/

namespace Rendezvous

/-- How a barrier was resolved, by what a call at it ends with. -/
def verdict? : Except PlayerError Finding → Option Bool
  | .ok .passed => some true
  | .error (.barrierFailed _) => some false
  | _ => none

namespace Booth

variable {τ σ : Type} {b b' : Booth τ σ} {c : Call} {e : Happening τ σ}
  {events : List (Happening τ σ)}

/-! ## Calls and verdicts -/

/-- A call is under way already, or begins. No stage is a verdict, unless it was one before. -/
structure Goes (c c' : Call) : Prop where
  id : c.id = c'.id
  inquiry : c.inquiry = c'.inquiry
  stage : c'.stage = c.stage ∨ ∀ error, c'.stage = .failing error → verdict? (.error error) = none

theorem Goes.refl (c : Call) : Goes c c := ⟨rfl, rfl, Or.inl rfl⟩

theorem goes_proceeding (h : Proceeding b c b') {c' : Call} (hc : c' ∈ b'.calls) :
    ∃ c ∈ b.calls, Goes c c' := by
  have hstage : ∀ {b₁ : Booth τ σ} {stage : CallStage}, b₁.calls = b.calls →
      (∀ error, stage = .failing error → verdict? (.error error) = none) →
      c' ∈ (b₁.setStage c.id stage).calls → ∃ c ∈ b.calls, Goes c c' := by
    intro b₁ stage hcalls hverdict hmem
    obtain ⟨c₀, hmem, hid, hinquiry, hst⟩ := mem_setStage hmem
    refine ⟨c₀, hcalls ▸ hmem, hid, hinquiry, hst.imp_right ?_⟩
    rintro rfl
    exact hverdict
  cases h with
  | sends _ _ _ after =>
    subst after
    refine hstage rfl ?_ hc
    nofun
  | fails _ _ _ _ after | expires _ _ _ after =>
    subst after
    refine hstage rfl ?_ hc
    rintro _ ⟨⟩
    rfl
  | breaks _ _ _ _ after | finds _ _ after | leaves _ _ after | ends _ _ after =>
    subst after
    exact ⟨c', (List.mem_filter.mp hc).1, .refl c'⟩

/-- What decides a call is the resolution that it was told. -/
theorem decided_of_found {result : Except PlayerError Finding} {success : Bool}
    (hf : b.found? c = some result) (hv : verdict? result = some success) :
    (c.id, success) ∈ b.player.decided ∧
      ∀ name, result = .error (.barrierFailed name) → c.inquiry.IsAt name := by
  unfold found? at hf
  split at hf
  · next name timeout hinquiry =>
    have hat : c.inquiry.IsAt name := ⟨timeout, hinquiry⟩
    split at hf
    · next hwait =>
      cases hf
      cases hv
      exact ⟨decided_of_served hwait, nofun⟩
    · next hwait =>
      cases hf
      cases hv
      refine ⟨decided_of_served hwait, ?_⟩
      rintro _ ⟨⟩
      exact hat
    · cases hf
    · cases hf
      cases hv
  · split at hf <;> cases hf <;> cases hv

variable [Transport τ]

/-- A call that is under way was it before, or begins. -/
theorem Effect.goes (h : Effect b e b') {c' : Call} (hc : c' ∈ b'.calls) :
    (∃ c ∈ b.calls, Goes c c') ∨ c'.id = b.nextCall ∧ c'.stage = .sending := by
  have hold : c' ∈ b.calls →
      (∃ c ∈ b.calls, Goes c c') ∨ c'.id = b.nextCall ∧ c'.stage = .sending :=
    fun hmem => Or.inl ⟨c', hmem, .refl c'⟩
  cases h with
  | rests _ steady _ => exact hold (steady.calls ▸ hc)
  | hears _ _ _ _ calls _ _ _ => exact hold (calls ▸ hc)
  | loses _ _ after | refuses _ _ after =>
    rw [after] at hc
    exact hold hc
  | closes _ _ after =>
    rw [after] at hc
    cases hc
  | arrives _ _ _ _ after | asks _ _ after =>
    rw [after] at hc
    rcases List.mem_append.mp hc with hc | hc
    · exact hold hc
    · rw [List.mem_singleton.mp hc]
      exact Or.inr ⟨rfl, rfl⟩
  | proceeds _ _ proceeding => exact Or.inl (goes_proceeding proceeding hc)
  | drops _ after =>
    rw [after] at hc
    exact hold (List.mem_filter.mp hc).1

/-- What is said of the calls of an id below the next one holds behind the happening. -/
theorem Effect.isAt (h : Effect b e b') {id : CallId} {name : String} (hlt : id < b.nextCall)
    (hat : ∀ c ∈ b.calls, c.id = id → c.inquiry.IsAt name) :
    ∀ c ∈ b'.calls, c.id = id → c.inquiry.IsAt name := by
  intro c hc hid
  rcases h.goes hc with ⟨c₀, hc₀, hgoes⟩ | ⟨hnew, -⟩
  · rw [← hgoes.inquiry]
    exact hat c₀ hc₀ (hgoes.id.trans hid)
  · rw [← hid, hnew] at hlt
    exact absurd hlt (Nat.lt_irrefl _)

/-- A call ends with what it was served or fails with, unless its request could not be sent or it
was refused. -/
theorem Effect.ending (h : Effect b e b') {x : CallId × Except PlayerError Finding}
    (hx : x ∈ b'.endings) : x ∈ b.endings ∨ verdict? x.2 = none ∨ ∃ c ∈ b.calls, c.id = x.1 ∧
      (b.found? c = some x.2 ∨ ∃ error, c.stage = .failing error ∧ x.2 = .error error) := by
  -- one ending is added at most
  have hadded : ∀ {y : CallId × Except PlayerError Finding}, x ∈ b.endings ++ [y] →
      x ∈ b.endings ∨ x = y := fun hx => (List.mem_append.mp hx).imp_right List.mem_singleton.mp
  cases h with
  | rests _ steady _ => exact Or.inl (steady.endings ▸ hx)
  | hears _ _ _ _ _ endings _ _ => exact Or.inl (endings ▸ hx)
  | loses _ _ after | closes _ _ after | arrives _ _ _ _ after | asks _ _ after | drops _ after =>
    subst after
    exact Or.inl hx
  | refuses _ reason after =>
    subst after
    refine (hadded hx).imp_right fun hnew => Or.inl ?_
    rw [hnew]
    rcases reason with rfl | ⟨_, rfl⟩ <;> rfl
  | @proceeds c _ call proceeding =>
    have hc := List.mem_of_find?_eq_some call
    cases proceeding with
    | sends _ _ _ after | fails _ _ _ _ after | expires _ _ _ after =>
      subst after
      exact Or.inl hx
    | breaks _ _ _ _ after =>
      subst after
      refine (hadded hx).imp_right fun hnew => Or.inl ?_
      rw [hnew]
      rfl
    | finds _ found after =>
      subst after
      refine (hadded hx).imp_right fun hnew => Or.inr ?_
      rw [hnew]
      exact ⟨c, hc, rfl, Or.inl found⟩
    | leaves stage _ after | ends stage _ after =>
      subst after
      refine (hadded hx).imp_right fun hnew => Or.inr ?_
      rw [hnew]
      exact ⟨c, hc, rfl, Or.inr ⟨_, stage, rfl⟩⟩

/-! ## Resolutions -/

/-- The resolution that the listener takes in by what happens. -/
def resolution? (b : Booth τ σ) (e : Happening τ σ) : Option BarrierResult :=
  (b.dispatched? e).bind Downlink.result?

/-- The resolutions that are taken in over a run, in order. -/
def told : Booth τ σ → List (Happening τ σ) → List BarrierResult
  | _, [] => []
  | b, e :: rest => (b.resolution? e).toList ++ told (b.behind e) rest

theorem told_concat (b : Booth τ σ) (events : List (Happening τ σ)) (e : Happening τ σ) :
    b.told (events ++ [e]) = b.told events ++ ((b.through events).resolution? e).toList := by
  induction events generalizing b with
  | nil => exact List.append_nil _
  | cons first rest ih =>
    rw [List.cons_append, told, told, ih, List.append_assoc]
    rfl

/-- A call goes to wait at a barrier, where no other call does. -/
structure Enters (call : CallId) (name : String) (b : Booth τ σ) (e : Happening τ σ) : Prop where
  deed : ∃ timeout, e = .deed (.begin (.barrier name timeout))
  next : b.nextCall = call
  free : b.player.barrierWaiter = none
  waits : (b.behind e).player.barrierWaiter = some ⟨call, name⟩

/-- The resolution of a barrier is taken in while a call waits at a barrier of this name. -/
structure Decides (call : CallId) (name : String) (success : Bool) (b : Booth τ σ)
    (e : Happening τ σ) : Prop where
  waits : b.player.barrierWaiter = some ⟨call, name⟩
  told : b.resolution? e = some ⟨name, success⟩

/-- What a happening comes to for the player, as far as barriers are concerned. -/
inductive BarrierTurn (b : Booth τ σ) (e : Happening τ σ) (p : Player) : Prop where
  | enters {call : CallId} {name : String} (enters : Enters call name b e)
      (silent : b.resolution? e = none)
      (player : p = { b.player with barrierWaiter := some ⟨call, name⟩ })
  | decides {call : CallId} {name : String} {success : Bool}
      (decides : Decides call name success b e) (player : p = { b.player with
        results := b.player.results ++ [⟨name, success⟩]
        barrierWaiter := none
        decided := b.player.decided ++ [(call, success)] })
  | misses {name : String} {success : Bool} (told : b.resolution? e = some ⟨name, success⟩)
      (missed : ∀ w, b.player.barrierWaiter = some w → w.name ≠ name)
      (player : p = { b.player with results := b.player.results ++ [⟨name, success⟩] })
  | rests (silent : b.resolution? e = none) (results : p.results = b.player.results)
      (decided : p.decided = b.player.decided)
      (waiter : p.barrierWaiter = none ∨ p.barrierWaiter = b.player.barrierWaiter)

theorem turn_resolved {name : String} {success : Bool}
    (ht : b.resolution? e = some ⟨name, success⟩) :
    BarrierTurn b e (b.player.barrierResolved name success) := by
  unfold Player.barrierResolved
  dsimp only
  split
  · next w hw =>
    split
    · next hn =>
      subst hn
      exact .decides ⟨hw, ht⟩ rfl
    · next hn =>
      refine .misses ht (fun w' hw' => ?_) rfl
      rw [hw] at hw'
      cases hw'
      exact hn
  · next hw =>
    refine .misses ht (fun w' hw' => ?_) rfl
    rw [hw] at hw'
    cases hw'

theorem turn_hear {m : Downlink} (hm : b.dispatched? e = some m) :
    BarrierTurn b e (b.player.hear m) := by
  have hresolution : b.resolution? e = m.result? := by rw [resolution?, hm, Option.bind_some]
  cases m with
  | barrierResult name success => exact turn_resolved hresolution
  | done | enterBarrier | failBarrier | addressReply | getAddress | throttle | disconnect
  | terminate => exact .rests hresolution rfl rfl (Or.inr rfl)

theorem barrierTurn (hg : ∀ due, b.listener ≠ .greeting due) (e : Happening τ σ) :
    BarrierTurn b e (b.behind e).player := by
  -- what is no step of the listener takes nothing in
  have hsilent : ∀ {d : Deed}, e = .deed d → d ≠ .listen → b.resolution? e = none := by
    rintro d rfl hne
    unfold resolution? dispatched?
    split
    · next hlisten => exact absurd (Happening.deed.inj hlisten) hne
    · rfl
  cases effect hg e with
  | rests silent steady _ =>
    rw [steady.player]
    refine .rests ?_ rfl rfl (Or.inr rfl)
    rw [resolution?, silent, Option.bind_none]
  | hears _ _ message _ _ _ player _ =>
    rw [player]
    exact turn_hear message
  | loses deed leaving after =>
    rw [after]
    refine .rests ?_ rfl rfl (Or.inl rfl)
    simp [resolution?, dispatched?, deed, leaving]
  | closes _ deed after =>
    rw [after]
    exact .rests (hsilent deed (by simp)) rfl rfl (Or.inl rfl)
  | refuses deed _ after | asks deed _ after | drops deed after =>
    rw [after]
    exact .rests (hsilent deed (by simp)) rfl rfl (Or.inr rfl)
  | @arrives name timeout deed _ _ free after =>
    have henters : Enters b.nextCall name b e := ⟨⟨timeout, deed⟩, rfl, free, by rw [after]⟩
    rw [after]
    exact .enters henters (hsilent deed (by simp)) rfl
  | proceeds deed _ proceeding =>
    rcases proceeding.player with hp | hp
    · rw [hp]
      exact .rests (hsilent deed (by simp)) rfl rfl (Or.inr rfl)
    · rw [hp]
      exact .rests (hsilent deed (by simp)) rfl rfl (Or.inl rfl)

namespace BarrierTurn

variable {p : Player} (h : BarrierTurn b e p)
include h

theorem results : p.results = b.player.results ++ (b.resolution? e).toList := by
  cases h with
  | enters _ silent player =>
    rw [silent, player]
    exact (List.append_nil _).symm
  | decides decides player =>
    rw [decides.told, player]
    rfl
  | misses told _ player =>
    rw [told, player]
    rfl
  | rests silent results =>
    rw [silent, results]
    exact (List.append_nil _).symm

/-- Who waits has waited before or goes to wait, and nobody is told anything then. -/
theorem waiter {w : BarrierWaiter} (hw : p.barrierWaiter = some w) :
    p.decided = b.player.decided ∧
      (b.player.barrierWaiter = some w ∨ Enters w.call w.name b e) := by
  cases h with
  | enters enters _ player =>
    rw [player] at hw ⊢
    cases hw
    exact ⟨rfl, Or.inr enters⟩
  | decides _ player =>
    rw [player] at hw
    cases hw
  | misses _ _ player =>
    rw [player] at hw ⊢
    exact ⟨rfl, Or.inl hw⟩
  | rests _ _ decided waiter =>
    refine ⟨decided, Or.inl ?_⟩
    rcases waiter with hnone | hsame
    · rw [hnone] at hw
      cases hw
    · exact hsame ▸ hw

/-- A call is told how its barrier was resolved by the resolution that is taken in. -/
theorem mem_decided {d : CallId × Bool} :
    d ∈ p.decided ↔ d ∈ b.player.decided ∨ ∃ name, Decides d.1 name d.2 b e := by
  have hsame : p.decided = b.player.decided → (∀ name, ¬ Decides d.1 name d.2 b e) →
      (d ∈ p.decided ↔ d ∈ b.player.decided ∨ ∃ name, Decides d.1 name d.2 b e) := by
    intro hd hnone
    rw [hd]
    exact ⟨Or.inl, fun h => h.resolve_right fun ⟨name, hdecides⟩ => hnone name hdecides⟩
  cases h with
  | enters _ silent player =>
    refine hsame (by rw [player]) fun name hdecides => ?_
    rw [hdecides.told] at silent
    cases silent
  | @decides call name success decides player =>
    rw [player, List.mem_append, List.mem_singleton]
    refine or_congr_right ⟨?_, ?_⟩
    · rintro rfl
      exact ⟨name, decides⟩
    · rintro ⟨name', hdecides⟩
      have hwaits := hdecides.waits.symm.trans decides.waits
      have htold := hdecides.told.symm.trans decides.told
      cases hwaits
      cases htold
      rfl
  | misses told missed player =>
    refine hsame (by rw [player]) fun name hdecides => ?_
    have htold := hdecides.told.symm.trans told
    cases htold
    exact missed _ hdecides.waits rfl
  | rests silent _ decided =>
    refine hsame decided fun name hdecides => ?_
    rw [hdecides.told] at silent
    cases silent

end BarrierTurn

/-! ## Positions of a run -/

/-- What happens at a position of a run has a property, together with the booth at which it does. -/
def Occurs (b : Booth τ σ) (events : List (Happening τ σ)) (i : Nat)
    (p : Booth τ σ → Happening τ σ → Prop) : Prop :=
  ∃ e, events[i]? = some e ∧ p (b.through (events.take i)) e

variable {i j : Nat} {p : Booth τ σ → Happening τ σ → Prop}

theorem Occurs.lt (h : b.Occurs events i p) : i < events.length := by
  obtain ⟨e, he, -⟩ := h
  exact (List.getElem?_eq_some_iff.mp he).1

theorem Occurs.append (h : b.Occurs events i p) (later : List (Happening τ σ)) :
    b.Occurs (events ++ later) i p := by
  have hlt := h.lt
  obtain ⟨e, he, hp⟩ := h
  refine ⟨e, ?_, ?_⟩
  · rw [List.getElem?_append_left hlt, he]
  · rwa [List.take_append_of_le_length (Nat.le_of_lt hlt)]

theorem Occurs.take (h : b.Occurs events i p) (hi : i < j) : b.Occurs (events.take j) i p := by
  obtain ⟨e, he, hp⟩ := h
  refine ⟨e, ?_, ?_⟩
  · rw [List.getElem?_take_of_lt hi, he]
  · rwa [List.take_take, Nat.min_eq_left (Nat.le_of_lt hi)]

theorem Occurs.of_take (h : b.Occurs (events.take j) i p) : b.Occurs events i p := by
  have happ := h.append (events.drop j)
  rwa [List.take_append_drop] at happ

theorem occurs_last (hp : p (b.through events) e) :
    b.Occurs (events ++ [e]) events.length p := by
  refine ⟨e, List.getElem?_concat_length, ?_⟩
  rwa [List.take_left]

theorem occurs_concat (h : b.Occurs (events ++ [e]) i p) :
    b.Occurs events i p ∨ i = events.length ∧ p (b.through events) e := by
  have hlt := h.lt
  rw [List.length_append, List.length_singleton] at hlt
  rcases Nat.lt_succ_iff_lt_or_eq.mp hlt with hi | rfl
  · have htake := h.take hi
    rw [List.take_left] at htake
    exact Or.inl htake
  · obtain ⟨e', he, hp⟩ := h
    rw [List.getElem?_concat_length, Option.some.injEq] at he
    rw [List.take_left, ← he] at hp
    exact Or.inr ⟨rfl, hp⟩

/-! ## Runs -/

/-- What a run tells of the calls at barriers. -/
structure Chronicle (b : Booth τ σ) (events : List (Happening τ σ)) (s : Booth τ σ) : Prop where
  results : s.player.results = b.told events
  entered : ∀ w, s.player.barrierWaiter = some w → ∃ i, b.Occurs events i (Enters w.call w.name)
  undecided : ∀ w, s.player.barrierWaiter = some w → ∀ d ∈ s.player.decided, d.1 ≠ w.call
  /-- Each decision has its resolution, -/
  decided : ∀ d ∈ s.player.decided, ∃ i name, b.Occurs events i (Decides d.1 name d.2) ∧
    ∀ c ∈ s.calls, c.id = d.1 → c.inquiry.IsAt name
  /-- and each resolution of an awaited barrier its decision. -/
  recorded : ∀ i call name success, b.Occurs events i (Decides call name success) →
    (call, success) ∈ s.player.decided
  failing : ∀ c ∈ s.calls, ∀ error, c.stage = .failing error → verdict? (.error error) = none
  verdicts : ∀ x ∈ s.endings, ∀ success, verdict? x.2 = some success →
    ∃ i name, b.Occurs events i (Decides x.1 name success) ∧
      ∀ name', x.2 = .error (.barrierFailed name') → name' = name

theorem Chronicle.nil (hb : b.Fresh) : Chronicle b [] b where
  results := by
    rw [hb.player]
    rfl
  entered := by
    rw [hb.player]
    nofun
  undecided := by
    rw [hb.player]
    nofun
  decided := by
    rw [hb.player]
    nofun
  recorded i call name success h := absurd h.lt (Nat.not_lt_zero i)
  failing := by
    rw [hb.calls]
    nofun
  verdicts := by
    rw [hb.endings]
    nofun

/-- A verdict that a call finds is that of a resolution of its own barrier. -/
theorem Chronicle.of_found {s : Booth τ σ} {result : Except PlayerError Finding} {success : Bool}
    (h : Chronicle b events s) (hc : c ∈ s.calls) (hfound : s.found? c = some result)
    (hv : verdict? result = some success) :
    ∃ i name, b.Occurs events i (Decides c.id name success) ∧
      ∀ name', result = .error (.barrierFailed name') → name' = name := by
  obtain ⟨hdecided, hat⟩ := decided_of_found hfound hv
  obtain ⟨i, name, hi, hname⟩ := h.decided _ hdecided
  refine ⟨i, name, hi, fun name' hfailed => ?_⟩
  obtain ⟨timeout, hinquiry⟩ := hname c hc rfl
  obtain ⟨timeout', hinquiry'⟩ := hat name' hfailed
  rw [hinquiry] at hinquiry'
  cases hinquiry'
  rfl

theorem Chronicle.concat (h : Chronicle b events (b.through events)) (hb : b.Fresh)
    (e : Happening τ σ) : Chronicle b (events ++ [e]) (b.through (events ++ [e])) := by
  have hattends := attends_through hb events
  have hjoined := (attended_through hb.attended events).joined
  rw [through_concat]
  have hturn := barrierTurn hjoined e
  have heffect := effect hjoined e
  refine ⟨?_, ?_, ?_, ?_, ?_, ?_, ?_⟩
  · rw [told_concat, hturn.results, h.results]
  · intro w hw
    rcases (hturn.waiter hw).2 with hw | henters
    · obtain ⟨i, hi⟩ := h.entered w hw
      exact ⟨i, hi.append [e]⟩
    · exact ⟨events.length, occurs_last henters⟩
  · intro w hw d hd
    obtain ⟨hsame, hw⟩ := hturn.waiter hw
    rw [hsame] at hd
    rcases hw with hw | henters
    · exact h.undecided w hw d hd
    · rw [← henters.next]
      exact Nat.ne_of_lt (hattends.decided d hd).1
  · intro d hd
    rcases hturn.mem_decided.mp hd with hd | ⟨name, hdecides⟩
    · obtain ⟨i, name, hi, hat⟩ := h.decided d hd
      exact ⟨i, name, hi.append [e], heffect.isAt (hattends.decided d hd).1 hat⟩
    · obtain ⟨hlt, hat⟩ := hattends.waiter _ hdecides.waits
      exact ⟨events.length, name, occurs_last hdecides, heffect.isAt hlt hat⟩
  · intro i call name success hi
    refine hturn.mem_decided.mpr ?_
    rcases occurs_concat hi with hi | ⟨-, hdecides⟩
    · exact Or.inl (h.recorded i call name success hi)
    · exact Or.inr ⟨name, hdecides⟩
  · intro c hc error hfailing
    rcases heffect.goes hc with ⟨c₀, hc₀, hgoes⟩ | ⟨-, hsending⟩
    · rcases hgoes.stage with hsame | hverdict
      · exact h.failing c₀ hc₀ error (hsame.symm.trans hfailing)
      · exact hverdict error hfailing
    · rw [hsending] at hfailing
      cases hfailing
  · intro x hx success hv
    rcases heffect.ending hx with hx | hnone | ⟨c, hc, hid, hfound | ⟨error, hfailing, hx⟩⟩
    · obtain ⟨i, name, hi, hname⟩ := h.verdicts x hx success hv
      exact ⟨i, name, hi.append [e], hname⟩
    · rw [hnone] at hv
      cases hv
    · obtain ⟨i, name, hi, hname⟩ := h.of_found hc hfound hv
      exact ⟨i, name, hid ▸ hi.append [e], hname⟩
    · rw [hx, h.failing c hc error hfailing] at hv
      cases hv

theorem chronicle (hb : b.Fresh) (events : List (Happening τ σ)) :
    Chronicle b events (b.through events) := by
  induction events using List.reverseRecOn with
  | nil => exact .nil hb
  | append_singleton events e ih => exact ih.concat hb e

theorem Chronicle.pending {s : Booth τ σ} (h : Chronicle b events s) (call : CallId) :
    s.player.barrierWait call = .pending ↔ ∃ name, s.player.barrierWaiter = some ⟨call, name⟩ := by
  unfold Player.barrierWait
  cases hw : s.player.barrierWaiter with
  | none => split <;> simp
  | some w =>
    split
    · next d success hfind =>
      -- a call that is decided waits no more
      have hcall : d = call := by simpa using List.find?_some hfind
      have hne := h.undecided w hw _ (List.mem_of_find?_eq_some hfind)
      refine ⟨nofun, ?_⟩
      rintro ⟨name, ⟨⟩⟩
      exact absurd hcall hne
    · obtain ⟨call', name⟩ := w
      simp

/-- No call is decided again: behind the first resolution it does not wait. -/
theorem not_lt_of_decides (hb : b.Fresh) {i j : Nat} {call : CallId} {name name' : String}
    {success success' : Bool} (hi : b.Occurs events i (Decides call name success))
    (hj : b.Occurs events j (Decides call name' success')) : ¬ i < j := by
  intro hlt
  have hchronicle := chronicle hb (events.take j)
  have hdecided := hchronicle.recorded i call name success (hi.take hlt)
  obtain ⟨e, -, hdecides⟩ := hj
  exact hchronicle.undecided _ hdecides.waits _ hdecided rfl

/-! ## How calls wait -/

/-- How the calls of a player wait at barriers, after any run. -/
structure BarrierWaits (b : Booth τ σ) (events : List (Happening τ σ)) (s : Booth τ σ) : Prop where
  /-- All resolutions that were taken in are known, in order. -/
  results : s.player.results = b.told events
  /-- One call waits at most, -/
  pending : ∀ call, s.player.barrierWait call = .pending ↔
    ∃ name, s.player.barrierWaiter = some ⟨call, name⟩
  /-- which came when no other one did. -/
  entered : ∀ w, s.player.barrierWaiter = some w → ∃ i, b.Occurs events i (Enters w.call w.name)
  /-- Meanwhile every other call at a barrier is refused. Nothing is sent for it, and the one that
  waits goes on to. -/
  refused : s.player.connected = true → ∀ w, s.player.barrierWaiter = some w →
    ∀ name timeout, s.behind (.deed (.begin (.barrier name timeout))) = { s with
      nextCall := s.nextCall + 1
      endings := s.endings ++ [(s.nextCall, .error (.barrierInFlight w.name))] }
  /-- A call ends once. -/
  once : (s.endings.map Prod.fst).Nodup
  /-- If it ends with a verdict, then a resolution with this verdict of its own barrier was taken in
  after it went to wait, and before it stopped to. -/
  verdicts : ∀ call result success, (call, result) ∈ s.endings → verdict? result = some success →
    ∃ i j name, b.Occurs events i (Enters call name) ∧ i < j ∧
      b.Occurs events j (Decides call name success) ∧
      ∀ name', result = .error (.barrierFailed name') → name' = name
  /-- No resolution decides two calls, and no call is decided by two. -/
  distinct : ∀ i j call call' name name' success success',
    b.Occurs events i (Decides call name success) →
    b.Occurs events j (Decides call' name' success') → (i = j ↔ call = call')
  /-- The resolution of another barrier is known and changes nothing else. -/
  others : ∀ e w r, s.player.barrierWaiter = some w → s.resolution? e = some r → w.name ≠ r.name →
    (s.behind e).player = { s.player with results := s.player.results ++ [r] }

/-- Whatever a player's calls, the conductor, the connection and the time do: one call waits at a
barrier at most, every verdict is the one of the resolution that the call was told, and all
resolutions are known. -/
theorem barrier_waits (b : Booth τ σ) (hb : b.Fresh) (events : List (Happening τ σ)) :
    BarrierWaits b events (b.through events) := by
  have hchronicle := chronicle hb events
  have hattended := attended_through hb.attended events
  refine ⟨hchronicle.results, hchronicle.pending, hchronicle.entered, ?_, ?_, ?_, ?_, ?_⟩
  · intro hc w hw name timeout
    rw [behind, after, if_pos (hattended.hasPlayer hc)]
    exact begin_of_waiter hc hw name timeout
  · exact (List.nodup_append.mp (numbered_through hb events).once).2.1
  · intro call result success hmem hv
    obtain ⟨j, name, hj, hname⟩ := hchronicle.verdicts _ hmem success hv
    obtain ⟨e, he, hdecides⟩ := hj
    -- it waits where it is decided, so it has gone to wait before
    obtain ⟨i, hi⟩ := (chronicle hb (events.take j)).entered _ hdecides.waits
    have hij : i < j := Nat.lt_of_lt_of_le hi.lt (List.length_take_le _ _)
    exact ⟨i, j, name, hi.of_take, hij, ⟨e, he, hdecides⟩, hname⟩
  · intro i j call call' name name' success success' hi hj
    constructor
    · rintro rfl
      obtain ⟨e, -, hdecides⟩ := hi
      obtain ⟨e', -, hdecides'⟩ := hj
      have hwaits := hdecides.waits.symm.trans hdecides'.waits
      cases hwaits
      rfl
    · rintro rfl
      exact Nat.le_antisymm (Nat.not_lt.mp (not_lt_of_decides hb hj hi))
        (Nat.not_lt.mp (not_lt_of_decides hb hi hj))
  · intro e w r hw hr hne
    cases barrierTurn hattended.joined e with
    | enters _ silent _ | rests silent _ _ _ =>
      rw [hr] at silent
      cases silent
    | decides decides _ =>
      have hwaits := hw.symm.trans decides.waits
      have htold := hr.symm.trans decides.told
      cases hwaits
      cases htold
      exact absurd rfl hne
    | misses told _ player =>
      have htold := hr.symm.trans told
      cases htold
      exact player

/-- A player goes to wait at a barrier, and a second call of it is refused. Then come the
resolutions of another barrier and of this one. -/
theorem barrier_waits_scripted :
    let b : Booth Scripted Record := {
      role := ⟨"a"⟩, address := default, conductor := "c"
      transport := {
        connected := true
        queue := [Downlink.barrierResult "y" false, .barrierResult "x" true].map Downlink.encode }
      handler := .recorder .obeys .obeys, memory := {}, listener := .listening }
    let events : List (Happening Scripted Record) := [.begin (.barrier "x" none), .proceed 0,
      .begin (.barrier "y" none), .listen, .listen, .proceed 0].map .deed
    BarrierWaits b events (b.through events) ∧
      (b.through events).endings = [(1, .error (.barrierInFlight "x")), (0, .ok .passed)] ∧
      (b.through events).player.results = [⟨"y", false⟩, ⟨"x", true⟩] := by
  intro b events
  refine ⟨barrier_waits b ⟨rfl, rfl, rfl, rfl⟩ events, ?_, ?_⟩
  · decide +kernel
  · decide +kernel

end Booth

end Rendezvous
