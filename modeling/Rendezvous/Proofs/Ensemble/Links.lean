import Rendezvous.Proofs.Ensemble.Wires

/-!
# Players and sessions

Every session is that of one player (`Linked.owned`, `Linked.unique`), and the two ends of every
connection go together (`Linked.wired`). Every move of an ensemble keeps this (`Linked.after`).
-/

namespace Rendezvous.Ensemble

variable {σ : Type} {setups : Nat → Setup σ} {log : List Event} {w : Ensemble σ} {g : Nat}
  {s : SessionId} {x : Seat σ}

/-- The record at the other end of a seat's connection, blank if it is still to be taken in. -/
def other (w : Ensemble σ) (g : Nat) : Option Session :=
  match (w.seats g).link with
  | .apart => none
  | .waiting | .refused => some { stage := .awaitingHello 0 }
  | .session s => w.hall.sessions.get? s

/-- How the seats go with the sessions. -/
structure Linked (setups : Nat → Setup σ) (log : List Event) (w : Ensemble σ) : Prop where
  apart : ∀ g, (w.seats g).link = .apart → w.seats g = (setups g).seat
  wired : ∀ g, (w.seats g).link ≠ .apart → ∃ r, w.other g = some r ∧ Wired log g (w.seats g) r
  owned : ∀ s r, w.hall.sessions.get? s = some r → ∃ g, (w.seats g).link = .session s
  unique : ∀ g g' s, (w.seats g).link = .session s → (w.seats g').link = .session s → g = g'

theorem other_of_session (h : (w.seats g).link = .session s) :
    w.other g = w.hall.sessions.get? s := by
  rw [other, h]

theorem other_congr {w' : Ensemble σ} (hs : w'.seats g = w.seats g) (hh : w'.hall = w.hall) :
    w'.other g = w.other g := by
  rw [other, hs, hh, other]

theorem linked_start (settings : Settings) (setups : Nat → Setup σ) :
    Linked setups [] (start settings setups) where
  apart _ _ := rfl
  wired _ h := absurd rfl h
  owned := nofun
  unique := nofun

theorem Linked.session (h : Linked setups log w) (hl : (w.seats g).link = .session s) :
    ∃ r, w.hall.sessions.get? s = some r ∧ Wired log g (w.seats g) r := by
  obtain ⟨r, hr, hw⟩ := h.wired g (by rw [hl]; nofun)
  exact ⟨r, (other_of_session hl).symm.trans hr, hw⟩

theorem Linked.append (h : Linked setups log w) (more : List Event) :
    Linked setups (log ++ more) w where
  apart := h.apart
  wired g hg := by
    obtain ⟨r, hr, hw⟩ := h.wired g hg
    exact ⟨r, hr, hw.append more⟩
  owned := h.owned
  unique := h.unique

/-! ## Moves of the hall -/

/-- A seat at which nothing happens stays wired, unless the hall brings bytes to its session. -/
theorem Linked.stays {w' : Ensemble σ} (h : Linked setups log w) (ho : w.hall.Orderly)
    {m : Hall.Move} (hh : w'.hall = w.hall.after m) (hs : w'.seats g = w.seats g)
    (hg : (w.seats g).link ≠ .apart)
    (hm : ∀ s bytes, (w.seats g).link = .session s → m ≠ .deliver s bytes) :
    ∃ r, w'.other g = some r ∧ Wired log g (w'.seats g) r := by
  obtain ⟨r, hr, hw⟩ := h.wired g hg
  rw [hs]
  cases hl : (w.seats g).link with
  | apart => exact absurd hl hg
  | waiting | refused =>
    rw [other, hl] at hr
    exact ⟨r, by rw [other, hs, hl, hr], hw⟩
  | session s =>
    rw [other_of_session hl] at hr
    obtain ⟨r', hr', hrecorded⟩ := Hall.recorded hr (ho.ne_nextSession hr) m
    refine ⟨r', ?_, hw.recorded hrecorded fun bytes => hm s bytes hl⟩
    rw [other_of_session (by rw [hs, hl]), hh, hr']

/-- No session comes but with a connection. -/
theorem Linked.owned_after (h : Linked setups log w) {m : Hall.Move} (hm : m.isArrival = false)
    {r : Session} (hr : (w.hall.after m).sessions.get? s = some r) :
    ∃ g, (w.seats g).link = .session s := by
  cases hx : w.hall.sessions.get? s with
  | none =>
    have harrival := (Hall.created hx hr).1
    rw [hm] at harrival
    cases harrival
  | some r' => exact h.owned s r' hx

theorem Linked.conduct (h : Linked setups log w) (ho : w.hall.Orderly) {m : Hall.Move}
    (hm : m.isArrival = false) (hd : ∀ s bytes, m ≠ .deliver s bytes) :
    Linked setups log { w with hall := w.hall.after m } where
  apart := h.apart
  wired _ hg := h.stays ho rfl rfl hg fun s bytes _ => hd s bytes
  owned _ _ hr := h.owned_after hm hr
  unique := h.unique

/-! ## Steps at a seat -/

section Seat

variable {w' : Ensemble σ}

/-- A seat at which something happened kept its link, and so did the others. -/
theorem link_of_touched (ho : ∀ g', g' ≠ g → w'.seats g' = w.seats g')
    (hl : (w'.seats g).link = (w.seats g).link) (g' : Nat) :
    (w'.seats g').link = (w.seats g').link := by
  by_cases he : g' = g
  · rw [he, hl]
  · rw [ho g' he]

/-- Whatever happens at a seat that has a link and keeps it, if it is wired behind it. -/
theorem Linked.touch (h : Linked setups log w) (hs : ∀ g', g' ≠ g → w'.seats g' = w.seats g')
    (hl : (w'.seats g).link = (w.seats g).link) (ha : (w.seats g).link ≠ .apart)
    (hself : ∃ r, w'.other g = some r ∧ Wired log g (w'.seats g) r)
    (hothers : ∀ g', g' ≠ g → (w.seats g').link ≠ .apart →
      ∃ r, w'.other g' = some r ∧ Wired log g' (w'.seats g') r)
    (hsessions : ∀ s r, w'.hall.sessions.get? s = some r → ∃ g, (w.seats g).link = .session s) :
    Linked setups log w' where
  apart g' hg := by
    rw [link_of_touched hs hl] at hg
    have hne : g' ≠ g := by
      rintro rfl
      exact ha hg
    rw [hs g' hne]
    exact h.apart g' hg
  wired g' hg := by
    rw [link_of_touched hs hl] at hg
    by_cases he : g' = g
    · rw [he]
      exact hself
    · exact hothers g' he hg
  owned s r hr := by
    obtain ⟨g', hg⟩ := hsessions s r hr
    exact ⟨g', (link_of_touched hs hl g').trans hg⟩
  unique g₁ g₂ s h₁ h₂ := by
    rw [link_of_touched hs hl] at h₁ h₂
    exact h.unique g₁ g₂ s h₁ h₂

/-- What happens at a seat is nothing to the hall. -/
theorem Linked.place (h : Linked setups log w) (hh : w'.hall = w.hall)
    (hs : ∀ g', g' ≠ g → w'.seats g' = w.seats g') (hl : (w'.seats g).link = (w.seats g).link)
    (ha : (w.seats g).link ≠ .apart)
    (hx : ∀ r, w.other g = some r → Wired log g (w.seats g) r → Wired log g (w'.seats g) r) :
    Linked setups log w' := by
  refine h.touch hs hl ha ?_ ?_ fun s r hr => h.owned s r (hh ▸ hr)
  · obtain ⟨r, hr, hw⟩ := h.wired g ha
    refine ⟨r, ?_, hx r hr hw⟩
    rw [other] at hr ⊢
    rw [hl, hh]
    exact hr
  · intro g' hne hg
    rw [other_congr (hs g' hne) hh, hs g' hne]
    exact h.wired g' hg

theorem Linked.carryUp (h : Linked setups log w) (ho : w.hall.Orderly) {n : Nat} {r : Session}
    (hl : (w.seats g).link = .session s) (hr : w.hall.sessions.get? s = some r)
    (hh : w'.hall = w.hall.after (.deliver s ((w.seats g).booth.transport.outgoing.take n)))
    (hs : ∀ g', g' ≠ g → w'.seats g' = w.seats g')
    (hself : w'.seats g = (w.seats g).withTransport { (w.seats g).booth.transport with
      outgoing := (w.seats g).booth.transport.outgoing.drop n }) : Linked setups log w' := by
  have hlink : (w'.seats g).link = (w.seats g).link := by
    rw [hself]
    rfl
  have hapart : (w.seats g).link ≠ .apart := by
    rw [hl]
    nofun
  refine h.touch hs hlink hapart ?_ ?_ ?_
  · obtain ⟨r', hr', hw⟩ := h.session hl
    rw [hr] at hr'
    cases hr'
    refine ⟨_, ?_, hself ▸ hw.carryUp n⟩
    rw [other_of_session (hlink.trans hl), hh]
    refine (Hall.get?_adjustSession w.hall s s _).trans ?_
    rw [if_pos rfl, hr]
    rfl
  · intro g' hne hg
    refine h.stays ho hh (hs g' hne) hg fun s' bytes hl' hdeliver => hne ?_
    cases hdeliver
    exact h.unique g' g s hl' hl
  · intro s r hr
    rw [hh] at hr
    exact h.owned_after rfl hr

/-- A seat without a session gets another link, perhaps a session that is nobody's. -/
theorem Linked.relink (h : Linked setups log w) (hs : ∀ g', g' ≠ g → w'.seats g' = w.seats g')
    (hno : ∀ s, (w.seats g).link ≠ .session s) (ha : (w'.seats g).link ≠ .apart)
    (hself : ∃ r, w'.other g = some r ∧ Wired log g (w'.seats g) r)
    (hothers : ∀ g', g' ≠ g → (w.seats g').link ≠ .apart →
      ∃ r, w'.other g' = some r ∧ Wired log g' (w'.seats g') r)
    (hsessions : ∀ s r, w'.hall.sessions.get? s = some r →
      (w'.seats g).link = .session s ∨ ∃ g, (w.seats g).link = .session s)
    (hfresh : ∀ s, (w'.seats g).link = .session s → ∀ g', (w.seats g').link ≠ .session s) :
    Linked setups log w' where
  apart g' hg := by
    have hne : g' ≠ g := by
      rintro rfl
      exact ha hg
    rw [hs g' hne] at hg ⊢
    exact h.apart g' hg
  wired g' hg := by
    by_cases he : g' = g
    · rw [he]
      exact hself
    · rw [hs g' he] at hg
      exact hothers g' he hg
  owned s r hr := by
    rcases hsessions s r hr with hg | ⟨g', hg⟩
    · exact ⟨g, hg⟩
    · have hne : g' ≠ g := by
        rintro rfl
        exact hno s hg
      exact ⟨g', by rw [hs g' hne, hg]⟩
  unique g₁ g₂ s h₁ h₂ := by
    by_cases h₁g : g₁ = g
    · by_cases h₂g : g₂ = g
      · rw [h₁g, h₂g]
      · subst h₁g
        rw [hs g₂ h₂g] at h₂
        exact absurd h₂ (hfresh s h₁ g₂)
    · rw [hs g₁ h₁g] at h₁
      by_cases h₂g : g₂ = g
      · subst h₂g
        exact absurd h₁ (hfresh s h₂ g₁)
      · rw [hs g₂ h₂g] at h₂
        exact h.unique g₁ g₂ s h₁ h₂

theorem Linked.join (h : Linked setups log w) (hl : (w.seats g).link = .apart)
    (hh : w'.hall = w.hall) (hs : ∀ g', g' ≠ g → w'.seats g' = w.seats g')
    (hself : w'.seats g = { w.seats g with booth := (w.seats g).booth.join, link := .waiting }) :
    Linked setups log w' := by
  have hlink : (w'.seats g).link = .waiting := by rw [hself]
  refine h.relink hs (by rw [hl]; nofun) (by rw [hlink]; nofun) ?_ ?_
    (fun s r hr => Or.inr (h.owned s r (hh ▸ hr))) (by rw [hlink]; nofun)
  · refine ⟨{ stage := .awaitingHello 0 }, by rw [other, hlink], ?_⟩
    rw [hself, h.apart g hl]
    exact (setups g).wired_join log g ⟨0, rfl⟩
  · intro g' hne hg
    rw [other_congr (hs g' hne) hh, hs g' hne]
    exact h.wired g' hg

/-- The conductor takes a connection in as its next session, or drops it. -/
theorem accept_cases (h : Hall) :
    (h.accept.1 = none ∧ (h.after .accept).sessions = h.sessions) ∨
      (h.accept.1 = some h.nextSession ∧ ∃ r : Session, r.IsBlank ∧
        (h.after .accept).sessions = h.sessions.put h.nextSession r) := by
  unfold Hall.after Hall.accept
  dsimp only
  split
  · exact Or.inl ⟨rfl, rfl⟩
  · exact Or.inr ⟨rfl, _, ⟨_, rfl⟩, rfl⟩

theorem Linked.accept (h : Linked setups log w) (ho : w.hall.Orderly)
    (hl : (w.seats g).link = .waiting) (hh : w'.hall = w.hall.after .accept)
    (hs : ∀ g', g' ≠ g → w'.seats g' = w.seats g')
    (hself : w'.seats g = match w.hall.accept.1 with
      | some s => { w.seats g with link := .session s }
      | none => { (w.seats g).withTransport (w.seats g).booth.transport.hangUp with
        link := .refused }) : Linked setups log w' := by
  obtain ⟨r, hr, hw⟩ := h.wired g (by rw [hl]; nofun)
  rw [other, hl] at hr
  cases hr
  have hothers : ∀ g', g' ≠ g → (w.seats g').link ≠ .apart →
      ∃ r, w'.other g' = some r ∧ Wired log g' (w'.seats g') r :=
    fun g' hne hg => h.stays ho hh (hs g' hne) hg nofun
  rcases accept_cases w.hall with ⟨hnone, hsessions⟩ | ⟨hsome, r, hblank, hsessions⟩
  · rw [hnone] at hself
    dsimp only at hself
    have hlink : (w'.seats g).link = .refused := by rw [hself]
    refine h.relink hs (by rw [hl]; nofun) (by rw [hlink]; nofun) ?_ hothers
      (fun s r hr => Or.inr (h.owned s r ?_)) (by rw [hlink]; nofun)
    · refine ⟨{ stage := .awaitingHello 0 }, by rw [other, hlink], ?_⟩
      rw [hself]
      exact hw.hangUp.withLink _
    · rwa [hh, hsessions] at hr
  · rw [hsome] at hself
    dsimp only at hself
    have hlink : (w'.seats g).link = .session w.hall.nextSession := by rw [hself]
    refine h.relink hs (by rw [hl]; nofun) (by rw [hlink]; nofun) ?_ hothers ?_
      ?_
    · refine ⟨r, ?_, ?_⟩
      · rw [other_of_session hlink, hh, hsessions, Table.get?_put, if_pos rfl]
      · rw [hself]
        exact (hw.of_blank ⟨0, rfl⟩ hblank).withLink _
    · intro s r hr
      rw [hh, hsessions, Table.get?_put] at hr
      split at hr
      · next he => exact Or.inl (he ▸ hlink)
      · exact Or.inr (h.owned s r hr)
    · -- the session is new, so no other player has it
      intro s he g' hg
      rw [hlink] at he
      cases he
      obtain ⟨r', hr', -⟩ := h.session hg
      exact ho.ne_nextSession hr' rfl

end Seat

/-! ## All moves -/

theorem after_of_idle {m : Move} (hm : w.hallMove? m = none) (hs : w.seatsAfter m = w.seats) :
    w.after m = w := by
  rw [Ensemble.after, hm, hs]
  rfl

theorem after_step_of_idle {x : Step} (hx : (w.seats g).take w.hall x = (none, w.seats g)) :
    w.after (.step g x) = w := by
  refine after_of_idle ?_ ?_
  · rw [hallMove?, hx]
  · rw [seatsAfter, hx, place_seats]

/-- A step at a seat changes no other one. -/
theorem seats_after_step {g' : Nat} (hg : g' ≠ g) (x : Step) :
    (w.after (.step g x)).seats g' = w.seats g' := place_of_ne hg _

theorem seat_after_step {x : Step} {m : Option Hall.Move} {seat : Seat σ}
    (hx : (w.seats g).take w.hall x = (m, seat)) : (w.after (.step g x)).seats g = seat := by
  rw [Ensemble.after, seatsAfter, hx]
  exact place_self w g seat

theorem hall_after_step {x : Step} {m : Option Hall.Move} {seat : Seat σ}
    (hx : (w.seats g).take w.hall x = (m, seat)) :
    (w.after (.step g x)).hall = m.elim w.hall w.hall.after := by
  rw [Ensemble.after, hallMove?, hx]

theorem Linked.after_conduct (h : Linked setups log w) (ho : w.hall.Orderly) (m : Hall.Move) :
    Linked setups log (w.after (.conduct m)) := by
  cases hm : m.isInner with
  | false =>
    rw [after_of_idle (by rw [hallMove?, hm]; rfl) rfl]
    exact h
  | true =>
    have hafter : w.after (.conduct m) = { w with hall := w.hall.after m } := by
      rw [Ensemble.after, hallMove?, if_pos hm]
      rfl
    rw [hafter]
    refine h.conduct ho ?_ ?_
    · cases m <;> first | rfl | cases hm
    · rintro s bytes rfl
      cases hm

/-- What a session wrote went into frames. -/
theorem sendable_of_other (hp : ∀ s r, w.hall.sessions.get? s = some r → w.hall.Posted s r)
    {r : Session} (hr : w.other g = some r) : ∀ d ∈ r.written, d.IsSendable := by
  unfold other at hr
  split at hr
  · cases hr
  · cases hr
    exact nofun
  · cases hr
    exact nofun
  · next s _ => exact (hp s r hr).sendable

/-- A step keeps players and sessions together, if a call that it begins is in the log. -/
theorem Linked.after_step (h : Linked setups log w) (ho : w.hall.Orderly)
    (hp : ∀ s r, w.hall.sessions.get? s = some r → w.hall.Posted s r) (x : Step)
    (hk : ∀ inquiry, x = .play (.begin inquiry) → (w.seats g).booth.hasPlayer = true →
      Called log g (w.seats g).booth.nextCall inquiry) :
    Linked setups log (w.after (.step g x)) := by
  have hothers : ∀ g', g' ≠ g → (w.after (.step g x)).seats g' = w.seats g' :=
    fun g' hne => seats_after_step hne x
  have htaking := Seat.taking (w.seats g) w.hall x
  obtain ⟨p, htake⟩ : ∃ p, (w.seats g).take w.hall x = p := ⟨_, rfl⟩
  rw [htake] at htaking
  have hhall := hall_after_step htake
  have hself := seat_after_step htake
  cases htaking with
  | idles =>
    rw [after_step_of_idle htake]
    exact h
  | joins hl => exact h.join hl hhall hothers hself
  | plays d hl =>
    refine h.place hhall hothers ?_ hl ?_
    · rw [hself]
    · intro r hr hw
      rw [hself]
      exact hw.play (sendable_of_other hp hr) d fun inquiry hd => hk inquiry (by rw [hd])
  | accepts hl => exact h.accept ho hl hhall hothers hself
  | carriesUp n hl hr => exact h.carryUp ho hl hr hhall hothers hself
  | @carriesDown s r n hl hr =>
    refine h.place hhall hothers ?_ (by rw [hl]; nofun) ?_
    · rw [hself]
      exact Seat.link_carryDown _ _ _
    · intro r' hr' hw
      rw [other_of_session hl, hr] at hr'
      cases hr'
      rw [hself]
      exact hw.carryDown n
  | @cutsUp s hl =>
    have hafter : w.after (.step g .cutUp) = { w with hall := w.hall.after (.hangUp s) } := by
      rw [Ensemble.after, hallMove?, seatsAfter, htake, place_seats]
      rfl
    rw [hafter]
    exact h.conduct ho rfl nofun
  | cutsDown =>
    by_cases hl : (w.seats g).link = .apart
    · rw [after_step_of_idle]
      · exact h
      · rw [htake, h.apart g hl]
        rfl
    · refine h.place hhall hothers ?_ hl ?_
      · rw [hself]
        rfl
      · intro r hr hw
        rw [hself]
        exact hw.hangUp

/-- Every move keeps players and sessions together. -/
theorem Linked.after (h : Linked setups log w) (ho : w.hall.Orderly)
    (hp : ∀ s r, w.hall.sessions.get? s = some r → w.hall.Posted s r) (m : Move) :
    Linked setups (log ++ w.events m) (w.after m) := by
  have hmore := h.append (w.events m)
  cases m with
  | conduct m => exact hmore.after_conduct ho m
  | step g x =>
    refine hmore.after_step ho hp x ?_
    intro inquiry hx hplayer
    subst hx
    by_cases hl : (w.seats g).link = .apart
    · -- a booth that has not tried to join has no player
      rw [h.apart g hl] at hplayer
      cases hplayer
    · refine List.mem_append_right log (List.mem_append_right _ ?_)
      rw [seatEvents, Seat.events, if_neg hl, Seat.calling, if_pos hplayer]
      exact List.mem_append_left _ List.mem_cons_self

/-! ## Who is who -/

/-- A player has its session for good. -/
theorem link_after (hl : (w.seats g).link = .session s) (m : Move) :
    ((w.after m).seats g).link = .session s := by
  cases m with
  | conduct m => exact hl
  | step g' x =>
    by_cases hne : g = g'
    · subst hne
      have htaking := Seat.taking (w.seats g) w.hall x
      obtain ⟨p, htake⟩ : ∃ p, (w.seats g).take w.hall x = p := ⟨_, rfl⟩
      rw [htake] at htaking
      rw [seat_after_step htake]
      cases htaking with
      | idles | plays | carriesUp | cutsUp | cutsDown => exact hl
      | carriesDown => exact (Seat.link_carryDown _ _ _).trans hl
      | joins hapart =>
        rw [hl] at hapart
        cases hapart
      | accepts hwaiting =>
        rw [hl] at hwaiting
        cases hwaiting
    · rw [seats_after_step hne]
      exact hl

/-- A player has its role for good. -/
theorem Linked.role_after (h : Linked setups log w) (g : Nat) (m : Move) :
    ((w.after m).seats g).booth.role = (w.seats g).booth.role := by
  cases m with
  | conduct m => rfl
  | step g' x =>
    by_cases hne : g = g'
    · subst hne
      have htaking := Seat.taking (w.seats g) w.hall x
      obtain ⟨p, htake⟩ : ∃ p, (w.seats g).take w.hall x = p := ⟨_, rfl⟩
      rw [htake] at htaking
      rw [seat_after_step htake]
      cases htaking with
      | idles | carriesUp | cutsUp | cutsDown => rfl
      | carriesDown => exact Seat.role_carryDown _ _ _
      | joins hapart =>
        rw [h.apart g hapart]
        exact (Booth.join_cases (setups g).seat.booth rfl rfl).1
      | plays d hl =>
        obtain ⟨r, -, hw⟩ := h.wired g hl
        obtain ⟨sent, taken, -, hprogress⟩ := Booth.progress_after hw.greeting d
        exact hprogress.role
      | accepts =>
        dsimp only
        split <;> rfl
    · rw [seats_after_step hne]

end Rendezvous.Ensemble
