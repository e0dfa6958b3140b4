import Rendezvous.Proofs.Conductor.Closing
import Rendezvous.Proofs.Conductor.Dismissal
import Rendezvous.Proofs.Hall.Accounts

/-!
# Attendance

What the conductor keeps of sessions goes with the sessions that are there (`Tidy`): the connection
table counts those that have not ended, once each, a role is bound to one of them, and one that
waits for an address has had a role of its own. Every move keeps this (`tidy_follow`). So nothing is
left of a session that has ended, whatever it sent and however it ended, and nothing at all once all
of them have (`departed_follow`).
-/

namespace Rendezvous

namespace Conductor

variable {c : Conductor} {op : Operation} {s : SessionId} {r : Role}

/-- The session was taken in and has not ended. One that was stopped stays. -/
def IsPresent (stage? : SessionId → Option Stage) (s : SessionId) : Prop :=
  ∃ stage, stage? s = some stage ∧ ∀ result, stage ≠ .ended result

/-- What the conductor keeps of sessions goes with those that are there. -/
structure Tidy (c : Conductor) (stage? : SessionId → Option Stage) : Prop where
  roster : c.roster.Sound
  nodup : c.connections.Nodup
  connected : ∀ s, s ∈ c.connections ↔ IsPresent stage? s
  /-- A session waits for an address only once it has a role itself. -/
  waits : ∀ node, ∀ s ∈ c.roster.parked node,
    (∃ r, stage? s = some (.active r)) ∨ stage? s = some .killed
  single : ∀ s r r', c.roster.binds s r = true → c.roster.binds s r' = true → r = r'

variable {c' : Conductor} {stage? stage?' : SessionId → Option Stage}

theorem isPresent_congr (hs : stage?' s = stage? s) :
    IsPresent stage?' s ↔ IsPresent stage? s := by
  unfold IsPresent
  rw [hs]

theorem not_isPresent_of_ended {result : Except SessionError Unit}
    (hs : stage? s = some (.ended result)) : ¬IsPresent stage? s := by
  rintro ⟨stage, hstage, hne⟩
  rw [hs] at hstage
  cases hstage
  exact hne result rfl

/-- A session that goes on in another way is there still, and all others are as before. -/
theorem isPresent_of_kept {s' : SessionId} (hp : IsPresent stage? s) (hp' : IsPresent stage?' s)
    (ho : ∀ s', s' ≠ s → stage?' s' = stage? s') : IsPresent stage?' s' ↔ IsPresent stage? s' := by
  by_cases hs : s' = s
  · subst hs
    exact iff_of_true hp' hp
  · exact isPresent_congr (ho s' hs)

theorem Tidy.of_quiet {t : Option SessionId} (h : c.Tidy stage?) (hq : Quiet t c c') :
    c'.Tidy stage? where
  roster := hq.roster ▸ h.roster
  nodup := hq.connections ▸ h.nodup
  connected := hq.connections ▸ h.connected
  waits := hq.roster ▸ h.waits
  single := hq.roster ▸ h.single

theorem Tidy.of_plain (h : c.Tidy stage?) (hp : op.isPlain = true)
    (hask : ∀ s node, op = .requestAddress s node → ∃ r, stage? s = some (.active r)) :
    (c.after op).Tidy stage? where
  roster := rosterSound_after h.roster op
  nodup := by
    rw [connections_after hp]
    exact h.nodup
  connected := by
    rw [connections_after hp]
    exact h.connected
  waits n s hs := by
    rcases mem_parked_of_plain hp hs with hold | ⟨node, hop⟩
    · exact h.waits n s hold
    · exact Or.inl (hask s node hop)
  single s r r' hb hb' := h.single s r r' (binds_of_plain hp hb) (binds_of_plain hp hb')

theorem Tidy.attach (h : c.Tidy stage?) (hnew : stage? s = none)
    (hst : ∃ due, stage?' s = some (.awaitingHello due))
    (ho : ∀ s', s' ≠ s → stage?' s' = stage? s') : (c.attach s).Tidy stage?' where
  roster := h.roster
  nodup := by
    refine List.nodup_append.mpr ⟨h.nodup, List.nodup_singleton s, ?_⟩
    intro a ha b hb heq
    rw [heq, List.mem_singleton.mp hb, h.connected] at ha
    obtain ⟨stage, hs, -⟩ := ha
    rw [hnew] at hs
    cases hs
  connected s' := by
    show s' ∈ c.connections ++ [s] ↔ _
    rw [List.mem_append, List.mem_singleton]
    by_cases hs : s' = s
    · obtain ⟨due, hst⟩ := hst
      subst hs
      exact ⟨fun _ => ⟨_, hst, nofun⟩, fun _ => Or.inr rfl⟩
    · rw [isPresent_congr (ho s' hs), ← h.connected]
      exact or_iff_left hs
  waits n s' hs' := by
    have hold := h.waits n s' hs'
    have hne : s' ≠ s := by
      rintro rfl
      rw [hnew] at hold
      rcases hold with ⟨r, hst⟩ | hst <;> cases hst
    rwa [ho s' hne]
  single := h.single

theorem Tidy.handshake (h : c.Tidy stage?) {name : String} {address : Address} {role : Role}
    {due : Nat} (hw : stage? s = some (.awaitingHello due))
    (hunbound : ∀ r, c.roster.binds s r = false)
    (hok : (c.handshake s name address).2 = .ok role) (hst : stage?' s = some (.active role))
    (ho : ∀ s', s' ≠ s → stage?' s' = stage? s') :
    (c.handshake s name address).1.Tidy stage?' where
  roster := rosterSound_after h.roster (.handshake s name address)
  nodup := by
    rw [handshake_eq]
    exact h.nodup
  connected s' := by
    rw [handshake_eq]
    exact (h.connected s').trans (isPresent_of_kept ⟨_, hw, nofun⟩ ⟨_, hst, nofun⟩ ho).symm
  waits n s' hs' := by
    obtain ⟨roster, -, hwaiting, heq⟩ := handshake_answers hok
    rw [heq, reply_eq] at hs'
    have hroster : s' ∈ roster.parked n := hs'
    rw [Roster.parked_of_erased hwaiting] at hroster
    split at hroster
    · cases hroster
    · by_cases hs : s' = s
      · subst hs
        exact Or.inl ⟨role, hst⟩
      · rw [ho s' hs]
        exact h.waits n s' hroster
  single s' r r' hb hb' := by
    rw [binds_handshake hok] at hb hb'
    by_cases hs : s = s'
    · -- the session that registers had no role before
      subst hs
      rw [hunbound] at hb hb'
      simp only [Bool.or_false, decide_eq_true_eq] at hb hb'
      rw [hb.1, hb'.1]
    · simp only [hs, and_false, decide_false, Bool.false_or] at hb hb'
      exact h.single s' r r' hb hb'

theorem Tidy.close (h : c.Tidy stage?) (role : Option Role)
    (hst : ∃ result, stage?' s = some (.ended result))
    (ho : ∀ s', s' ≠ s → stage?' s' = stage? s') : (c.sessionClosed s role).Tidy stage?' where
  roster := rosterSound_after h.roster (.sessionClosed s role)
  nodup := by
    rw [connections_sessionClosed]
    exact h.nodup.erase s
  connected s' := by
    rw [connections_sessionClosed, h.nodup.mem_erase_iff, h.connected]
    by_cases hs : s' = s
    · obtain ⟨result, hst⟩ := hst
      subst hs
      exact iff_of_false (fun hmem => hmem.1 rfl) (not_isPresent_of_ended hst)
    · rw [isPresent_congr (ho s' hs)]
      exact and_iff_right hs
  waits n s' hs' := by
    rw [parked_sessionClosed h.roster.ordered] at hs'
    obtain ⟨hold, hne⟩ := List.mem_filter.mp hs'
    rw [ho s' (of_decide_eq_true hne)]
    exact h.waits n s' hold
  single s' r r' hb hb' := by
    have hold : ∀ x, (c.sessionClosed s role).roster.binds s' x = true →
        c.roster.binds s' x = true := by
      intro x hx
      obtain ⟨b, hb, hs⟩ := Roster.binds_eq_true_iff.mp hx
      exact Roster.binds_eq_true_iff.mpr ⟨b, (members_sessionClosed hb).1, hs⟩
    exact h.single s' r r' (hold r hb) (hold r' hb')

/-- A session that is stopped gives nothing up. -/
theorem Tidy.stop (h : c.Tidy stage?) (hp : IsPresent stage? s) (hst : stage?' s = some .killed)
    (ho : ∀ s', s' ≠ s → stage?' s' = stage? s') : c.Tidy stage?' where
  roster := h.roster
  nodup := h.nodup
  connected s' := (h.connected s').trans (isPresent_of_kept hp ⟨_, hst, nofun⟩ ho).symm
  waits n s' hs' := by
    by_cases hs : s' = s
    · subst hs
      exact Or.inr hst
    · rw [ho s' hs]
      exact h.waits n s' hs'
  single := h.single

end Conductor

open Conductor

namespace Hall

deriving instance DecidableEq for Stage

variable {h h' : Hall} {m : Move} {moves : List Move} {s : SessionId} {r : Role}
  {result : Except SessionError Unit}

/-- What the conductor of a hall keeps of sessions goes with those that are there. -/
def Tidy (h : Hall) : Prop := h.conductor.Tidy h.stage?

theorem tidy_new (settings : Settings) : Tidy { conductor := { settings } } where
  roster := Roster.sound_new
  nodup := List.nodup_nil
  connected s := ⟨nofun, by rintro ⟨stage, hs, -⟩; cases hs⟩
  waits _ _ hs := absurd hs List.not_mem_nil
  single _ _ _ := nofun

theorem Runs.isPresent {role : Option Role} (hr : h.Runs s role) : IsPresent h.stage? s := by
  rcases hr with ⟨-, due, hs⟩ | ⟨r, -, hs⟩
  · exact ⟨_, hs, nofun⟩
  · exact ⟨_, hs, nofun⟩

/-- A session that is there runs or was stopped. -/
theorem runs_or_killed (hp : IsPresent h.stage? s) :
    (∃ role, h.Runs s role) ∨ h.stage? s = some .killed := by
  obtain ⟨stage, hst, hne⟩ := hp
  cases stage with
  | awaitingHello due => exact Or.inl ⟨none, Or.inl ⟨rfl, due, hst⟩⟩
  | active r => exact Or.inl ⟨some r, Or.inr ⟨r, rfl, hst⟩⟩
  | ended result => exact absurd rfl (hne result)
  | killed => exact Or.inr hst

/-- Only an active session asks for an address. -/
theorem Source.asks {node : Role} (hs : Source h m (.requestAddress s node)) :
    ∃ r, h.stage? s = some (.active r) ∧ h.heard? m = some (s, r, .getAddress node) := by
  generalize hop : Operation.requestAddress s node = op at hs
  cases hs with
  | @heard m s' role u hheard =>
    obtain ⟨-, x, -, hx, hst, -⟩ := heard?_some hheard
    cases u <;> cases hop
    exact ⟨role, by rw [stage?, hx, Option.map_some, hst], hheard⟩
  | _ => cases hop

theorem Tidy.shift (ht : h.Tidy) (ho : h.Orderly) (hs : Shift h m h') : h'.Tidy := by
  unfold Tidy at ht ⊢
  cases hs with
  | works source before behind stages =>
    rw [show h'.stage? = h.stage? from funext stages]
    refine ((ht.of_quiet before).of_plain source.plain ?_).of_quiet behind
    rintro s node rfl
    obtain ⟨r, hst, -⟩ := source.asks
    exact ⟨r, hst⟩
  | attaches arrival before conductor stage others =>
    rw [conductor]
    exact (ht.of_quiet before).attach (ho.new h.nextSession (Nat.le_refl _)).1 stage others
  | registers waits conductor accepted stage others =>
    obtain ⟨due, hw⟩ := waits
    rw [conductor]
    exact ht.handshake hw (ho.unbound hw) accepted stage others
  | concludes runs before behind stage others =>
    exact ((ht.of_quiet before).close _ stage others).of_quiet behind
  | kills runs quiet stage others => exact (ht.of_quiet quiet).stop runs.isPresent stage others

theorem tidy_follow (settings : Settings) (moves : List Move) :
    (follow { conductor := { settings } } moves).Tidy := by
  induction moves using List.reverseRecOn with
  | nil => exact tidy_new settings
  | append_singleton moves m ih =>
    rw [follow_concat]
    exact ih.shift (orderly_follow (orderly_new settings) moves) (shift _ m)

/-! ## Sessions that have ended -/

theorem isPresent_of_binds (ho : h.Orderly) (hb : h.conductor.roster.binds s r = true) :
    IsPresent h.stage? s := by
  obtain ⟨m, hbound, rfl⟩ := Roster.binds_eq_true_iff.mp hb
  rcases ho.bound r m hbound with hst | hst
  · exact ⟨_, hst, nofun⟩
  · exact ⟨_, hst, nofun⟩

theorem Tidy.isPresent_of_parked (ht : h.Tidy) (hs : s ∈ h.conductor.roster.parked r) :
    IsPresent h.stage? s := by
  rcases ht.waits r s hs with ⟨r', hst⟩ | hst
  · exact ⟨_, hst, nofun⟩
  · exact ⟨_, hst, nofun⟩

/-- Nothing is left of a session that has ended. -/
theorem Tidy.absent (ht : h.Tidy) (ho : h.Orderly) (hs : h.stage? s = some (.ended result)) :
    s ∉ h.conductor.connections ∧ (∀ r, h.conductor.roster.binds s r = false) ∧
      ∀ node, s ∉ h.conductor.roster.parked node := by
  have hgone := not_isPresent_of_ended hs
  exact ⟨fun hmem => hgone ((ht.connected s).mp hmem),
    fun r => Bool.eq_false_iff.mpr fun hb => hgone (isPresent_of_binds ho hb),
    fun node hmem => hgone (ht.isPresent_of_parked hmem)⟩

/-- The move by which an active session ends is the one in which it gives up its role. -/
theorem closes_of_ended (hst : h.stage? s = some (.active r))
    (hended : (h.after m).stage? s = some (.ended result)) :
    ∃ c₁, Quiet m.taker? h.conductor c₁ ∧
      Quiet m.taker? (c₁.sessionClosed s (some r)) (h.after m).conductor := by
  have hshift := shift h m
  generalize h.after m = h' at hshift hended ⊢
  have hmoved : h'.stage? s ≠ h.stage? s := by
    rw [hst, hended]
    nofun
  cases hshift with
  | works source before behind stages => exact absurd (stages s) hmoved
  | attaches arrival before conductor stage others =>
    by_cases hs : s = h.nextSession
    · obtain ⟨due, hstage⟩ := stage
      rw [← hs, hended] at hstage
      cases hstage
    · exact absurd (others s hs) hmoved
  | @registers s' _ _ _ waits conductor accepted stage others =>
    by_cases hs : s = s'
    · rw [← hs, hended] at stage
      cases stage
    · exact absurd (others s hs) hmoved
  | @concludes s' role c₁ runs before behind stage others =>
    by_cases hs : s = s'
    · subst hs
      rcases runs with ⟨-, due, hstage⟩ | ⟨r', rfl, hstage⟩
      · rw [hst] at hstage
        cases hstage
      · rw [hst] at hstage
        cases hstage
        exact ⟨c₁, before, behind⟩
    · exact absurd (others s hs) hmoved
  | @kills s' role runs quiet stage others =>
    by_cases hs : s = s'
    · rw [← hs, hended] at stage
      cases stage
    · exact absurd (others s hs) hmoved

/-- An active session that ends while it has its role fails the barrier that expects the role. -/
theorem barrier_of_ended {b : Awaited} (ho : h.Orderly) (hst : h.stage? s = some (.active r))
    (hended : (h.after m).stage? s = some (.ended result))
    (hown : h.conductor.roster.binds s r = true) (ha : h.conductor.gate.awaited = some b)
    (hr : r ∈ b.expected) :
    (h.after m).conductor.gate.awaited = none ∧
      (h.after m).conductor.outcome? b.epoch = some (b.outcome (some (.sessionLost r))) := by
  obtain ⟨c₁, before, behind⟩ := closes_of_ended hst hended
  rw [← before.roster] at hown
  rw [← before.gate] at ha
  obtain ⟨hidle, houtcomes⟩ := awaited_sessionClosed (ho.sound.of_quiet before) hown ha hr
  refine ⟨by rw [behind.gate, hidle], outcome?_of_ends (ho.sound.of_quiet before) ha ?_⟩
  rw [behind.desk.outcomes, houtcomes]

/-- An active session that ends while it has its role fails every command for its node. -/
theorem commands_of_ended (hb : h.conductor.Books) (hst : h.stage? s = some (.active r))
    (hended : (h.after m).stage? s = some (.ended result))
    (hown : h.conductor.roster.binds s r = true) :
    (h.after m).conductor.ledger.queue r = [] ∧
      ∀ e ∈ h.conductor.ledger.queue r,
        (h.after m).conductor.verdict? ⟨r, e.kind, some e.id⟩ =
          some (.error (.sessionLost r)) := by
  obtain ⟨c₁, before, behind⟩ := closes_of_ended hst hended
  rw [← before.roster] at hown
  obtain ⟨hqueue, hverdicts⟩ := queue_sessionClosed (hb.of_quiet before).commands hown
  refine ⟨by rw [behind.ledger, hqueue], fun e he => ?_⟩
  rw [← before.ledger] at he
  rw [verdict?_of_verdicts behind.verdicts]
  exact hverdicts e he

/-! ## Sessions without a name -/

/-- The session whose doing a move is: the one that is taken in, or the one that reads, writes or
is acted upon from outside. -/
def doer? (h : Hall) (m : Move) : Option SessionId :=
  if m.isArrival then some h.nextSession else m.session?

/-- As long as a session has not said who it is, its doings change nothing that the conductor keeps
of roles, requests, barriers and commands. -/
theorem unnamed_after (ht : h.Tidy) (hd : h.doer? m = some s)
    (hst : ∀ r, h.stage? s ≠ some (.active r))
    (hst' : ∀ r, (h.after m).stage? s ≠ some (.active r)) :
    (h.after m).conductor.roster = h.conductor.roster ∧
      Stands h.conductor (h.after m).conductor := by
  have hshift := shift h m
  generalize h.after m = h' at hshift hst' ⊢
  cases hshift with
  | @works c₁ op source before behind =>
    cases source with
    | @heard m s' role u hheard =>
      -- what is heard is heard of an active session
      obtain ⟨rfl, x, -, hx, hactive, -⟩ := heard?_some hheard
      cases hd
      exact absurd (by rw [stage?, hx, Option.map_some, hactive]) (hst role)
    | tick m nanoseconds =>
      have hticks : Stands c₁ (c₁.after (.tick nanoseconds)) :=
        ⟨rfl, rfl, rfl, rfl, rfl, rfl, rfl, rfl⟩
      exact ⟨behind.roster.trans before.roster,
        before.stands.trans (hticks.trans behind.stands)⟩
    | _ => cases hd
  | attaches arrival before conductor =>
    rw [conductor]
    exact ⟨before.roster, before.stands.trans ⟨rfl, rfl, rfl, rfl, rfl, rfl, rfl, rfl⟩⟩
  | registers waits conductor accepted stage others next greeted =>
    obtain ⟨rfl, -⟩ := greeted?_some greeted
    cases hd
    exact absurd stage (hst' _)
  | @concludes s' role c₁ runs before behind stage others shut next opens doer =>
    have hs : s' = s := by
      unfold doer? at hd
      cases m <;> cases doer <;> cases hd <;> rfl
    subst hs
    rcases runs with ⟨rfl, due, hw⟩ | ⟨r, -, hactive⟩
    · -- it waits for no address
      have hdrop : c₁.roster.dropInterest (· = s') = c₁.roster := by
        refine (ht.of_quiet before).roster.dropInterest_eq fun node a ha => ?_
        refine decide_eq_false ?_
        rintro rfl
        rcases (ht.of_quiet before).waits node a ha with ⟨r, hactive⟩ | hkilled
        · exact hst r hactive
        · rw [hw] at hkilled
          cases hkilled
      have hcloses : Stands c₁ (c₁.after (.sessionClosed s' none)) :=
        ⟨rfl, rfl, rfl, rfl, rfl, rfl, rfl, rfl⟩
      exact ⟨behind.roster.trans (hdrop.trans before.roster),
        before.stands.trans (hcloses.trans behind.stands)⟩
    · exact absurd hactive (hst r)
  | kills runs quiet => exact ⟨quiet.roster, quiet.stands⟩

/-! ## Everybody gone -/

/-- Once every session has ended, the conductor keeps nothing. -/
theorem Tidy.empty (ht : h.Tidy) (ho : h.Orderly) (hb : h.conductor.Books)
    (hgone : ∀ s stage, h.stage? s = some stage → ∃ result, stage = .ended result) :
    h.conductor.roster.members = [] ∧ h.conductor.roster.waiting = [] ∧
      h.conductor.gate.awaited = none ∧ h.conductor.ledger.toList = [] ∧
      h.conductor.connections = [] := by
  have hnobody : ∀ s, ¬IsPresent h.stage? s := by
    rintro s ⟨stage, hst, hne⟩
    obtain ⟨result, rfl⟩ := hgone s stage hst
    exact hne result rfl
  have hfree : ∀ r, h.conductor.roster.members.get? r = none := fun r =>
    Option.eq_none_iff_forall_ne_some.mpr fun b hbound =>
      hnobody b.handle (isPresent_of_binds ho (Roster.binds_eq_true_iff.mpr ⟨b, hbound, rfl⟩))
  refine ⟨Table.eq_nil_of_get? hfree, ht.roster.waiting_eq_nil ?_, ?_, ?_, ?_⟩
  · intro node
    exact List.eq_nil_iff_forall_not_mem.mpr fun s hs => hnobody s (ht.isPresent_of_parked hs)
  · -- a barrier has members, and all of them are bound
    refine Option.eq_none_iff_forall_ne_some.mpr fun b ha => ?_
    obtain ⟨r, hr, -⟩ := (ho.sound.gate.awaited b ha).exists_missing
    have hbound := ho.sound.bound b ha r hr
    rw [hfree] at hbound
    cases hbound
  · refine List.eq_nil_iff_forall_not_mem.mpr fun x hx => ?_
    have hqueue := (Ledger.mem_toList hb.commands.ledger.ordered).mp hx
    rw [hb.commands.queue_eq_nil (hfree x.1)] at hqueue
    cases hqueue
  · exact List.eq_nil_iff_forall_not_mem.mpr fun s hs => hnobody s ((ht.connected s).mp hs)

/-- In every run, nothing is left of a session that has ended, in whatever way. As it ends while it
still has its role, the barrier that expects the role fails and so does every command for its node.
A session that has not said who it is changes nothing that the conductor keeps of roles, requests,
barriers and commands. Every role and every parked request is that of a connected session, and no
session has two roles. So nothing is left at all once every session has ended. -/
theorem departed_follow (settings : Settings) (moves : List Move) :
    let start : Hall := { conductor := { settings } }
    let h := follow start moves
    let c := h.conductor
    (∀ s result, h.stage? s = some (.ended result) →
      s ∉ c.connections ∧ (∀ r, c.roster.binds s r = false) ∧
        ∀ node, s ∉ c.roster.parked node) ∧
    (∀ m s r result, h.stage? s = some (.active r) →
      (h.after m).stage? s = some (.ended result) → c.roster.binds s r = true →
      (∀ b, c.gate.awaited = some b → r ∈ b.expected →
        (h.after m).conductor.gate.awaited = none ∧
        (h.after m).conductor.outcome? b.epoch = some (b.outcome (some (.sessionLost r)))) ∧
      (h.after m).conductor.ledger.queue r = [] ∧
      ∀ e ∈ c.ledger.queue r, (h.after m).conductor.verdict? ⟨r, e.kind, some e.id⟩ =
        some (.error (.sessionLost r))) ∧
    (∀ m s, h.doer? m = some s → (∀ r, h.stage? s ≠ some (.active r)) →
      (∀ r, (h.after m).stage? s ≠ some (.active r)) →
      (h.after m).conductor.roster = c.roster ∧ Stands c (h.after m).conductor) ∧
    (∀ s r, c.roster.binds s r = true → s ∈ c.connections) ∧
    (∀ node, ∀ s ∈ c.roster.parked node, s ∈ c.connections) ∧
    (∀ s r r', c.roster.binds s r = true → c.roster.binds s r' = true → r = r') ∧
    ((∀ s stage, h.stage? s = some stage → ∃ result, stage = .ended result) →
      c.roster.members = [] ∧ c.roster.waiting = [] ∧ c.gate.awaited = none ∧
        c.ledger.toList = [] ∧ c.connections = []) := by
  intro start h c
  have ho : h.Orderly := orderly_follow (orderly_new settings) moves
  have ht : h.Tidy := tidy_follow settings moves
  have hb : c.Books := books_follow settings moves
  refine ⟨fun s result => ht.absent ho, ?_, fun m s => unnamed_after ht, ?_, ?_, ht.single,
    ht.empty ho hb⟩
  · intro m s r result hst hended hown
    exact ⟨fun b => barrier_of_ended ho hst hended hown, commands_of_ended hb hst hended hown⟩
  · intro s r hbound
    exact (ht.connected s).mpr (isPresent_of_binds ho hbound)
  · intro node s hs
    exact (ht.connected s).mpr (ht.isPresent_of_parked hs)

/-- The player of a member hangs up with a command outstanding and a request parked, and then the
other one does. -/
theorem departed_follow_hung_up :
    let r : Role := ⟨"r"⟩
    let q : Role := ⟨"q"⟩
    let moves : List Move := [
      .connect, .deliver 0 (Frame.ofBody (Uplink.hello "r" default).encode), .read 0,
      .connect, .deliver 1 (Frame.ofBody (Uplink.hello "q" default).encode), .read 1,
      .openBarrier "start" [r, q] none, .issue (.terminate r .graceful),
      .deliver 0 (Frame.ofBody (Uplink.getAddress ⟨"x"⟩).encode), .read 0, .hangUp 0]
    let h := follow {} moves
    let h' := follow {} (moves ++ [.read 0])
    let gone := follow {} (moves ++ [.read 0, .hangUp 1, .read 1])
    (h.conductor.roster.parked ⟨"x"⟩ = [0] ∧ h'.stage? 0 = some (.ended (.ok ()))) ∧
    (∀ node, 0 ∉ h'.conductor.roster.parked node) ∧
    h'.conductor.outcome? ⟨1⟩ = some ⟨"start", ⟨1⟩, some (.sessionLost r), [q, r]⟩ ∧
    h'.conductor.verdict? ⟨r, .terminate, some 1⟩ = some (.error (.sessionLost r)) ∧
    gone.conductor.roster.members = [] := by
  intro r q moves
  dsimp only
  have hactive : (follow {} moves).stage? 0 = some (.active r) := by decide +kernel
  have hended : (follow {} (moves ++ [.read 0])).stage? 0 = some (.ended (.ok ())) := by
    decide +kernel
  -- there are two sessions, and both have ended
  have hall : ∀ p ∈ (follow {} (moves ++ [.read 0, .hangUp 1, .read 1])).sessions,
      p.2.stage = .ended (.ok ()) := by decide +kernel
  obtain ⟨habsent, -⟩ := departed_follow {} (moves ++ [.read 0])
  obtain ⟨-, hends, -⟩ := departed_follow {} moves
  obtain ⟨-, -, -, -, -, -, hempty⟩ :=
    departed_follow {} (moves ++ [.read 0, .hangUp 1, .read 1])
  obtain ⟨hbarrier, -, hcommands⟩ := hends (.read 0) 0 r _ hactive
    (by rw [← follow_concat]; exact hended) (by decide +kernel)
  rw [← follow_concat] at hbarrier hcommands
  refine ⟨⟨by decide +kernel, hended⟩, (habsent 0 _ hended).2.2, ?_, ?_, (hempty ?_).1⟩
  · exact (hbarrier ⟨"start", ⟨1⟩, [q, r], [], none⟩ (by decide +kernel) (by decide +kernel)).2
  · exact hcommands ⟨.terminate, 1, ()⟩ (by decide +kernel)
  · intro s stage hst
    obtain ⟨x, hx, rfl⟩ := Option.map_eq_some_iff.mp hst
    obtain ⟨p, hp, rfl⟩ := Option.map_eq_some_iff.mp hx
    exact ⟨_, hall p (List.mem_of_find?_eq_some hp)⟩

end Hall

end Rendezvous
