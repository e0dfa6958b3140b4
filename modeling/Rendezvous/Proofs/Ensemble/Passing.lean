import Rendezvous.Proofs.Ensemble.Gathering
import Rendezvous.Proofs.Ensemble.Links

/-!
# Passing a barrier

What a call that passes its barrier can rely on (`passing_of_run`): the conductor had published the
success of an opening of this name, and between the opening and the publication it handled an
arrival of every member, each from a player of that role that had called before. And what players
are told of an opening is what its outcome says.

The log is justified event by event by what stands before it (`Justified`). An arrival is justified
by what goes over connections (`Linked`), and a passing by the results that a player has heard
(`results_of_seat`) together with what the log holds of their barriers (`Gathering`).
-/

namespace Rendezvous.Ensemble

variable {σ : Type} {setups : Nat → Setup σ} {log : List Event} {w : Ensemble σ} {g : Nat}
  {s : SessionId}

/-! ## Chronicles -/

/-- Every event of a log has a property of what stands before it. -/
def Chronicle (p : List Event → Event → Prop) (log : List Event) : Prop :=
  ∀ before e behind, log = before ++ e :: behind → p before e

theorem Chronicle.append {p : List Event → Event → Prop} {new : List Event}
    (h : Chronicle p log) (hmono : ∀ {log e} more, p log e → p (log ++ more) e)
    (hnew : ∀ e ∈ new, p log e) : Chronicle p (log ++ new) := by
  intro before e behind heq
  rcases List.append_eq_append_iff.mp heq with ⟨middle, rfl, hnew'⟩ | ⟨middle, rfl, hbehind⟩
  · refine hmono middle (hnew e ?_)
    rw [hnew']
    exact List.mem_append_right middle List.mem_cons_self
  · cases middle with
    | nil =>
      rw [List.append_nil] at hnew
      refine hnew e ?_
      rw [← show e :: behind = new from hbehind]
      exact List.mem_cons_self
    | cons e' rest =>
      cases hbehind
      exact h before e rest rfl

/-- What stands before an event that would not have come otherwise. A message that is handled for a
role is that of a player who has the role and had called; a call passes a barrier of which success
was published. -/
def Justified (setups : Nat → Setup σ) (w : Ensemble σ) (log : List Event) : Event → Prop
  | .handled s role (.enterBarrier name timeout claimed) => claimed = some role ∧
      ∃ g id, (w.seats g).link = .session s ∧ (setups g).role = role ∧
        .called g id (.barrier name timeout) ∈ log
  | .passed _ _ inquiry => ∃ b, inquiry.IsAt b.name ∧ Concluded log b none
  | _ => True

theorem Justified.append {e : Event} (h : Justified setups w log e) (more : List Event) :
    Justified setups w (log ++ more) e := by
  unfold Justified at h ⊢
  split at h
  · obtain ⟨hclaimed, g, id, hl, hrole, hcalled⟩ := h
    exact ⟨hclaimed, g, id, hl, hrole, List.mem_append_left more hcalled⟩
  · obtain ⟨b, hat, hconcluded⟩ := h
    exact ⟨b, hat, hconcluded.append more⟩
  · trivial

/-- What is justified stays so, as players keep their sessions. -/
theorem Justified.after {e : Event} (h : Justified setups w log e) (m : Move) :
    Justified setups (w.after m) log e := by
  unfold Justified at h ⊢
  split at h
  · obtain ⟨hclaimed, g, id, hl, hrole, hcalled⟩ := h
    exact ⟨hclaimed, g, id, link_after hl m, hrole, hcalled⟩
  · exact h
  · trivial

/-! ## Runs -/

section Runs

variable (settings : Settings) (setups : Nat → Setup σ) (moves : List Move)

/-- The hall makes a run of its own. -/
theorem hall_run : ((start settings setups).follow moves).hall =
    Hall.follow { conductor := { settings } } ((start settings setups).hallMoves moves) :=
  hall_follow (start settings setups) moves

theorem orderly_run : ((start settings setups).follow moves).hall.Orderly := by
  rw [hall_run]
  exact Hall.orderly_follow (Hall.orderly_new settings) _

theorem posted_run : ∀ s r, ((start settings setups).follow moves).hall.sessions.get? s = some r →
    ((start settings setups).follow moves).hall.Posted s r := by
  rw [hall_run]
  exact Hall.posted_follow settings _

theorem linked_run : Linked setups ((start settings setups).log moves)
    ((start settings setups).follow moves) := by
  induction moves using List.reverseRecOn with
  | nil => exact linked_start settings setups
  | append_singleton moves m ih =>
    rw [log_concat, follow_concat]
    exact ih.after (orderly_run settings setups moves) (posted_run settings setups moves) m

theorem role_run (g : Nat) :
    (((start settings setups).follow moves).seats g).booth.role = (setups g).role := by
  induction moves using List.reverseRecOn with
  | nil => rfl
  | append_singleton moves m ih =>
    rw [follow_concat, (linked_run settings setups moves).role_after, ih]

theorem gathering_run : Gathering ((start settings setups).log moves)
    ((start settings setups).follow moves).hall.conductor := by
  induction moves using List.reverseRecOn with
  | nil => exact gathering_nil settings
  | append_singleton moves m ih =>
    have ho := orderly_run settings setups moves
    rw [log_concat, follow_concat, events, ← List.append_assoc, Ensemble.after]
    cases ((start settings setups).follow moves).hallMove? m with
    | none => exact (ih.append _).append _
    | some m => exact (ih.after ho m).append _

end Runs

/-! ## Results -/

/-- The resolutions that are queued on a line are among what is said of barriers. -/
theorem results_messages (items : List Outbound) :
    (Hall.messages items).filterMap Downlink.result? =
      (items.filterMap Outbound.barrier?).filterMap Downlink.result? := by
  rw [Hall.messages, List.filterMap_filterMap, List.filterMap_filterMap]
  refine congrArg (fun f => items.filterMap f) (funext ?_)
  intro item
  cases item with
  | close => rfl
  | message m => cases m <;> rfl

/-- The results that a player has heard are those that its session was told, as far as they have
come. -/
theorem results_of_seat (settings : Settings) (setups : Nat → Setup σ) (moves : List Move)
    (g : Nat) :
    (((start settings setups).follow moves).seats g).booth.player.results = [] ∨
      ∃ s, (((start settings setups).follow moves).seats g).link = .session s ∧
        (((start settings setups).follow moves).seats g).booth.player.results <+:
          (Hall.told s { conductor := { settings } }
            ((start settings setups).hallMoves moves)).filterMap (·.2.result?) := by
  have hlinked := linked_run settings setups moves
  have hposted := posted_run settings setups moves
  have hhall := hall_run settings setups moves
  generalize (start settings setups).follow moves = w at hlinked hposted hhall ⊢
  generalize (start settings setups).hallMoves moves = hallMoves at hhall ⊢
  cases hl : (w.seats g).link with
  | apart =>
    rw [hlinked.apart g hl]
    exact Or.inl rfl
  | waiting | refused =>
    obtain ⟨r, hr, hw⟩ := hlinked.wired g (by simp [hl])
    rw [other, hl] at hr
    cases hr
    exact Or.inl (List.prefix_nil.mp hw.results)
  | session s =>
    -- heard are results that were written, written are messages that were queued, and queued is
    -- what was told
    obtain ⟨r, hr, hw⟩ := hlinked.session hl
    refine Or.inr ⟨s, rfl, hw.results.trans ?_⟩
    have hqueued := List.IsPrefix.filterMap Downlink.result? (hposted s r hr).written
    rw [results_messages] at hqueued
    have htold := Hall.told_follow settings s hallMoves
    rw [← hhall] at htold
    have hheard : (Hall.told s { conductor := { settings } } hallMoves).filterMap (·.2.result?) =
        (w.hall.conductor.spoken s).filterMap Downlink.result? := by
      rw [← htold, List.filterMap_map]
      rfl
    rw [hheard]
    exact hqueued

/-- A success that a player has heard was published before. -/
theorem concluded_of_result (settings : Settings) (setups : Nat → Setup σ) (moves : List Move)
    {name : String}
    (hr : ⟨name, true⟩ ∈ (((start settings setups).follow moves).seats g).booth.player.results) :
    ∃ b, b.name = name ∧ Concluded ((start settings setups).log moves) b none := by
  have hgathering := gathering_run settings setups moves
  have hhall := hall_run settings setups moves
  rcases results_of_seat settings setups moves g with hnil | ⟨s, -, hheard⟩
  · rw [hnil] at hr
    cases hr
  · obtain ⟨⟨e, d⟩, htold, hd⟩ := List.mem_filterMap.mp (hheard.subset hr)
    cases d with
    | barrierResult name' success =>
      cases hd
      obtain ⟨epoch, o, -, hout, hname, hsuccess⟩ := Hall.verdict_of_told settings _ htold
      have hmem : o ∈ ((start settings setups).follow moves).hall.conductor.outcomes := by
        rw [hhall]
        exact List.mem_of_find?_eq_some hout
      obtain ⟨b, failure, rfl, hconcluded⟩ := hgathering.published o hmem
      have hnone : failure = none := Option.isNone_iff_eq_none.mp hsuccess
      subst hnone
      exact ⟨b, hname, hconcluded⟩
    | done | enterBarrier | failBarrier | getAddress | addressReply | throttle | disconnect
    | terminate => cases hd

/-! ## Justifications -/

/-- A message that is handled comes from the player at whose connection the session is. -/
theorem justified_hall (h : Linked setups log w)
    (hrole : ∀ g, (w.seats g).booth.role = (setups g).role) {m : Hall.Move} {e : Event}
    (he : e ∈ w.hall.events m) : Justified setups w log e := by
  rcases List.mem_append.mp he with he | he
  · obtain ⟨⟨s, role, u⟩, hheard, rfl⟩ := List.mem_map.mp he
    obtain ⟨-, r, r', hr, hstage, hi⟩ := Hall.heard?_some (Option.mem_toList.mp hheard)
    obtain ⟨frame, rest, hnext, hu, -⟩ := Hall.inbound?_some hi
    obtain ⟨g, hl⟩ := h.owned s r hr
    obtain ⟨r₁, hr₁, hw⟩ := h.session hl
    rw [hr] at hr₁
    cases hr₁
    obtain ⟨hauthored, -⟩ := hw.reads (isLive_of_active hstage) hnext hu.symm
    have hsame : role = (setups g).role := (hw.role role hstage).trans (hrole g)
    cases u with
    | enterBarrier name timeout claimed =>
      obtain ⟨hclaimed, id, hcalled⟩ := hauthored.enter name timeout claimed rfl
      rw [hrole, ← hsame] at hclaimed
      exact ⟨hclaimed, g, id, hl, hsame.symm, hcalled⟩
    | hello | failBarrier | getAddress | addressReply | done | commandFailed => trivial
  · rcases List.mem_append.mp he with he | he
    · unfold Hall.opening at he
      split at he
      · obtain ⟨b, -, rfl⟩ := List.mem_map.mp he
        trivial
      · cases he
    · obtain ⟨o, -, rfl⟩ := List.mem_map.mp he
      trivial

theorem justified_seat (settings : Settings) (setups : Nat → Setup σ) (moves : List Move)
    (g : Nat) {x : Step} {e : Event}
    (he : e ∈ (((start settings setups).follow moves).seats g).events g x) :
    Justified setups ((start settings setups).follow moves) ((start settings setups).log moves)
      e := by
  have hlinked := linked_run settings setups moves
  have hconcluded : ∀ name,
      ⟨name, true⟩ ∈ (((start settings setups).follow moves).seats g).booth.player.results →
      ∃ b, b.name = name ∧ Concluded ((start settings setups).log moves) b none :=
    fun _ hr => concluded_of_result settings setups moves hr
  generalize (start settings setups).follow moves = w at hlinked hconcluded he ⊢
  unfold Seat.events at he
  split at he
  · next d =>
    split at he
    · cases he
    · next hl =>
      rcases List.mem_append.mp he with he | he
      · unfold Seat.calling at he
        split at he
        · split at he
          · rw [List.mem_singleton.mp he]
            trivial
          · cases he
        · cases he
      · obtain ⟨c, hc, rfl⟩ := List.mem_map.mp he
        obtain ⟨r, -, hw⟩ := hlinked.wired g hl
        obtain ⟨name, hat, hheard⟩ := hw.attends.heard_of_passed hc
        obtain ⟨b, rfl, hb⟩ := hconcluded name hheard
        exact ⟨b, hat, hb⟩
  · cases he

theorem justified_run (settings : Settings) (setups : Nat → Setup σ) (moves : List Move) :
    Chronicle (Justified setups ((start settings setups).follow moves))
      ((start settings setups).log moves) := by
  induction moves using List.reverseRecOn with
  | nil =>
    intro before e behind heq
    exact absurd heq (by simp [log])
  | append_singleton moves m ih =>
    have hlinked := linked_run settings setups moves
    have hrole := role_run settings setups moves
    have hseat := fun g x e => justified_seat settings setups moves g (x := x) (e := e)
    rw [log_concat, follow_concat]
    -- the new events are justified by the log before the move alone
    have hnow : Chronicle (Justified setups ((start settings setups).follow moves))
        ((start settings setups).log moves ++ ((start settings setups).follow moves).events m) := by
      refine ih.append (fun more h => h.append more) ?_
      intro e he
      rcases List.mem_append.mp he with he | he
      · cases hm : ((start settings setups).follow moves).hallMove? m with
        | none =>
          rw [hm] at he
          cases he
        | some hallMove =>
          rw [hm] at he
          exact justified_hall hlinked hrole he
      · cases m with
        | conduct m => cases he
        | step g x => exact hseat g x e he
    exact fun before e behind heq => (hnow before e behind heq).after m

/-! ## Passing -/

/-- In every run of a conductor and any number of players, whatever is done in whatever order: when
a call at a barrier passes, an opening of this name was published with success before, and for each
of its members an arrival was handled between the opening and the publication, which is that of a
call that a player of this role had made. The results that a player hears are those that its session
was told, in order; and each of them says of its opening what the outcome says that was delivered
for it. -/
theorem passing_of_run (settings : Settings) (setups : Nat → Setup σ) (moves : List Move) :
    let w := (start settings setups).follow moves
    let log := (start settings setups).log moves
    let told := fun s => Hall.told s { conductor := { settings } }
      ((start settings setups).hallMoves moves)
    (∀ earlier g id name timeout later,
      log = earlier ++ .passed g id (.barrier name timeout) :: later →
      ∃ b before between behind, b.name = name ∧
        earlier = before ++ .opened b :: (between ++ .published (b.outcome none) :: behind) ∧
        ∀ role ∈ b.expected, ∃ s timeout' before' behind',
          between = before' ++ .handled s role (.enterBarrier name timeout' (some role)) ::
            behind' ∧
          ∃ g' id', (setups g').role = role ∧ (w.seats g').link = .session s ∧
            .called g' id' (.barrier name timeout') ∈ before ++ .opened b :: before') ∧
    (∀ g, (w.seats g).booth.player.results = [] ∨ ∃ s, (w.seats g).link = .session s ∧
      (w.seats g).booth.player.results <+: (told s).filterMap (·.2.result?)) ∧
    ∀ s e name success, (e, .barrierResult name success) ∈ told s →
      ∃ epoch o, e = some epoch ∧ w.hall.conductor.outcome? epoch = some o ∧ o.name = name ∧
        o.isSuccess = success := by
  intro w log told
  refine ⟨?_, results_of_seat settings setups moves,
    ?_⟩
  · intro earlier g id name timeout later hlog
    have hjustified := justified_run settings setups moves
    obtain ⟨b, ⟨timeout', hat⟩, between, behind, ⟨before, hearlier⟩, henters⟩ :=
      hjustified earlier (.passed g id (.barrier name timeout)) later hlog
    cases hat
    refine ⟨b.blank, before, between, behind, rfl, hearlier, ?_⟩
    -- the arrival is in the log of the run as well, where its call stands before it
    intro role hrole
    obtain ⟨s, timeout', claimed, hmem⟩ := henters rfl role hrole
    obtain ⟨before', behind', hbetween⟩ := List.append_of_mem hmem
    have hhandled : log = (before ++ .opened b.blank :: before') ++
        .handled s role (.enterBarrier b.name timeout' claimed) ::
          (behind' ++ .published (b.outcome none) :: behind ++
            .passed g id (.barrier b.name timeout) :: later) := by
      rw [hlog, hearlier, hbetween]
      simp only [List.append_assoc, List.cons_append]
    obtain ⟨rfl, g', id', hlink, hsetup, hcalled⟩ := hjustified _ _ _ hhandled
    exact ⟨s, timeout', before', behind', hbetween, g', id', hsetup, hlink, hcalled⟩
  · intro s e name success ht
    have hverdict := Hall.verdict_of_told settings _ ht
    rw [← hall_run] at hverdict
    exact hverdict

/-- Two players meet at a barrier, and the call of the first one passes. -/
theorem passing_of_run_pair :
    let pair : Nat → Setup Record := fun g =>
      { role := if g = 0 then ⟨"a"⟩ else ⟨"b"⟩
        address := default
        conductor := "hall"
        handler := .recorder .obeys .obeys
        memory := {}
        reaches := fun _ => true }
    let join : Nat → List Move := fun g =>
      [.step g .join, .step g .accept, .step g (.carryUp 99), .conduct (.read g),
        .conduct (.write g), .step g (.carryDown 99), .step g (.play .listen)]
    let arrive : Nat → List Move := fun g =>
      [.step g (.play (.begin (.barrier "start" none))), .step g (.play (.proceed 0)),
        .step g (.carryUp 99), .conduct (.read g)]
    let moves : List Move := join 0 ++ join 1 ++
      [.conduct (.openBarrier "start" [⟨"a"⟩, ⟨"b"⟩] none)] ++ arrive 0 ++ arrive 1 ++
      [.conduct (.write 0), .conduct (.write 0), .step 0 (.carryDown 99), .step 0 (.play .listen),
        .step 0 (.play .listen), .step 0 (.play (.proceed 0))]
    ∃ earlier, (start {} pair).log moves = earlier ++ [.passed 0 0 (.barrier "start" none)] ∧
      ∃ b before between behind, b.name = "start" ∧
        earlier = before ++ .opened b :: (between ++ .published (b.outcome none) :: behind) ∧
        ∀ role ∈ b.expected, Enters between "start" role := by
  intro pair join arrive moves
  have hlast : ((start {} pair).log moves).drop 6 = [.passed 0 0 (.barrier "start" none)] := by
    decide +kernel
  have hlog := List.take_append_drop 6 ((start {} pair).log moves)
  rw [hlast] at hlog
  refine ⟨_, hlog.symm, ?_⟩
  obtain ⟨b, before, between, behind, hname, hearlier, harrivals⟩ :=
    (passing_of_run {} pair moves).1 _ 0 0 "start" none [] hlog.symm
  refine ⟨b, before, between, behind, hname, hearlier, ?_⟩
  intro role hr
  obtain ⟨s, timeout, before', behind', hbetween, -⟩ := harrivals role hr
  refine ⟨s, timeout, some role, ?_⟩
  rw [hbetween]
  exact List.mem_append_right before' List.mem_cons_self

end Rendezvous.Ensemble
