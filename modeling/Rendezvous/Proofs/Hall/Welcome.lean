import Rendezvous.Proofs.Conductor.Strangers
import Rendezvous.Proofs.Hall.Attendance
import Rendezvous.Proofs.Hall.Replies
import Rendezvous.Proofs.Hall.Superseded
import Rendezvous.Proofs.Wire.Cut

/-!
# Welcome

The messages that are queued for a session (`mail`), before and behind its welcome, which is the
move in which its greeting is accepted (`welcomed?`). Before it the session is unmet and has no mail
(`Unmet`); the welcome brings it a `done`, and behind it no other one comes (`Met`). In every run a
session is unmet until it is welcomed, and met ever after (`unmet_or_met`). What a player can read
from its connection are the first messages of the mail, and all those before the `close` if the
session has taken that off its line (`welcome_comes_first`).
-/

namespace Rendezvous.Hall

open Conductor

variable {h h' : Hall} {m : Move} {moves : List Move} {s s' : SessionId} {role : Role}
  {x : Session} {result : Except SessionError Unit}

/-! ## Mail -/

/-- The messages that were queued for a session, in order. -/
def mail (h : Hall) (s : SessionId) : List Downlink := messages (h.conductor.line s).queued

/-- The session and the role whose greeting is accepted in a move. -/
def welcomed? (h : Hall) (m : Move) : Option (SessionId × Role) :=
  (h.greeted? m).bind fun (s, name, address) =>
    match (h.conductor.handshake s name address).2 with
    | .ok role => some (s, role)
    | .error _ => none

theorem welcomed?_of_greeted {name : String} {address : Address}
    (hg : h.greeted? m = some (s, name, address))
    (hok : (h.conductor.handshake s name address).2 = .ok role) :
    h.welcomed? m = some (s, role) := by
  rw [welcomed?, hg, Option.bind_some]
  dsimp only
  rw [hok]

theorem welcomed?_some (hw : h.welcomed? m = some (s, role)) :
    ∃ name address, h.greeted? m = some (s, name, address) ∧
      (h.conductor.handshake s name address).2 = .ok role := by
  obtain ⟨⟨s', name, address⟩, hg, hok⟩ := Option.bind_eq_some_iff.mp hw
  dsimp only at hok
  split at hok
  · next hh =>
    cases hok
    exact ⟨name, address, hg, hh⟩
  · cases hok

/-- A session is welcomed as it waits to say who it is. -/
theorem runs_of_welcomed (hw : h.welcomed? m = some (s, role)) : h.Runs s none := by
  obtain ⟨name, address, hg, -⟩ := welcomed?_some hw
  obtain ⟨-, y, -, due, hy, hst, -⟩ := greeted?_some hg
  exact Or.inl ⟨rfl, due, by rw [stage?, hy, Option.map_some, hst]⟩

/-- To close is no message. -/
theorem messages_eq_nil {items : List Outbound} (hi : ∀ o ∈ items, o.topic ∈ [Topic.close]) :
    messages items = [] := by
  refine List.filterMap_eq_nil_iff.mpr fun o ho => ?_
  have htopic := List.mem_singleton.mp (hi o ho)
  cases o with
  | close => rfl
  | message d => cases d <;> cases htopic

theorem mail_of_adds (ha : Adds [.close] h.conductor h'.conductor s) : h'.mail s = h.mail s := by
  obtain ⟨items, hqueued, htopics⟩ := ha
  rw [mail, hqueued, messages_append, messages_eq_nil htopics, List.append_nil]
  rfl

/-! ## Before the welcome -/

/-- The session has not been welcomed: it has no role, waits for no address and has no mail. -/
structure Unmet (h : Hall) (s : SessionId) : Prop where
  stranger : h.conductor.Stranger s
  nameless : ∀ r, h.stage? s ≠ some (.active r)
  silent : h.mail s = []

theorem unmet_new (settings : Settings) (s : SessionId) :
    Unmet { conductor := { settings } } s :=
  ⟨⟨fun _ => rfl, fun _ => List.not_mem_nil⟩, nofun, rfl⟩

/-- Only by its welcome a session comes to be active. -/
theorem welcomed_of_active {r : Role} (hs : Shift h m h') (hst : h'.stage? s = some (.active r)) :
    h.stage? s = some (.active r) ∨ h.welcomed? m = some (s, r) := by
  cases hs with
  | works _ _ _ stages => exact Or.inl (stages s ▸ hst)
  | attaches _ _ _ stage others =>
    by_cases hn : s = h.nextSession
    · obtain ⟨due, hwaits⟩ := stage
      rw [hn, hwaits] at hst
      cases hst
    · exact Or.inl (others s hn ▸ hst)
  | @registers s' _ _ _ _ _ accepted stage others _ greeted =>
    by_cases hn : s = s'
    · subst hn
      rw [stage] at hst
      cases hst
      exact Or.inr (welcomed?_of_greeted greeted accepted)
    · exact Or.inl (others s hn ▸ hst)
  | @concludes s' _ _ _ _ _ stage others =>
    by_cases hn : s = s'
    · obtain ⟨result, hended⟩ := stage
      rw [hn, hended] at hst
      cases hst
    · exact Or.inl (others s hn ▸ hst)
  | @kills s' _ _ _ stage others =>
    by_cases hn : s = s'
    · rw [hn, stage] at hst
      cases hst
    · exact Or.inl (others s hn ▸ hst)

/-- A session that is not active asks for nothing. -/
theorem Source.ne_ask {op : Operation} (hs : Source h m op)
    (hn : ∀ r, h.stage? s ≠ some (.active r)) (node : Role) : op ≠ .requestAddress s node := by
  rintro rfl
  obtain ⟨r, hst, -⟩ := hs.asks
  exact hn r hst

/-- A session that is not welcomed stays a stranger. -/
theorem Unmet.stranger_shift (hu : h.Unmet s) (ht : h.Tidy) (hs : Shift h m h')
    (hw : ∀ role, h.welcomed? m ≠ some (s, role)) : h'.conductor.Stranger s := by
  cases hs with
  | works source before behind =>
    exact ((hu.stranger.of_quiet before).of_plain source.plain
      (source.ne_ask hu.nameless)).of_quiet behind
  | attaches arrival before conductor =>
    have hstranger := hu.stranger.of_quiet before
    rw [conductor]
    exact ⟨hstranger.unbound, hstranger.unparked⟩
  | registers waits conductor accepted stage others next greeted =>
    rw [conductor]
    refine hu.stranger.handshake ?_ accepted
    rintro rfl
    exact hw _ (welcomed?_of_greeted greeted accepted)
  | concludes runs before behind =>
    refine ((hu.stranger.of_quiet before).sessionClosed ?_ _ _).of_quiet behind
    rw [before.roster]
    exact ht.roster.ordered
  | kills runs quiet => exact hu.stranger.of_quiet quiet

/-- A session that is not welcomed is told at most to close. -/
theorem Unmet.silent_shift (hu : h.Unmet s) (hs : Shift h m h')
    (hw : ∀ role, h.welcomed? m ≠ some (s, role)) : h'.mail s = [] := by
  have htold : Adds [.close] h.conductor h'.conductor s → h'.mail s = [] :=
    fun hadds => (mail_of_adds hadds).trans hu.silent
  cases hs with
  | works source before behind =>
    exact htold (((hu.stranger.of_quiet before).adds (Operation.tends?_of_plain source.plain s)
      (Operation.ne_handshake_of_plain source.plain) (source.ne_ask hu.nameless)).around
      before behind)
  | attaches arrival before conductor =>
    rw [mail, conductor, line_attach]
    split
    · rfl
    · rw [before.queued]
      exact hu.silent
  | @registers s' _ _ role waits conductor accepted stage others next greeted =>
    have hne : s ≠ s' := fun he => hw role (he ▸ welcomed?_of_greeted greeted accepted)
    rw [mail, conductor, line_handshake accepted (hu.stranger.unparked role), if_neg hne]
    exact hu.silent
  | @concludes s' role c₁ runs before behind =>
    have hadds : Adds [.close] c₁ (c₁.after (.sessionClosed s' role)) s :=
      (hu.stranger.of_quiet before).adds (Option.some_ne_none s).symm
        (fun _ _ he => by cases he) fun _ he => by cases he
    exact htold (hadds.around before behind)
  | kills runs quiet => exact htold (.of_queued (quiet.queued s))

/-- A session that is not welcomed stays unmet. -/
theorem Unmet.shift (hu : h.Unmet s) (ht : h.Tidy) (hs : Shift h m h')
    (hw : ∀ role, h.welcomed? m ≠ some (s, role)) : h'.Unmet s where
  stranger := hu.stranger_shift ht hs hw
  nameless r hst := (welcomed_of_active hs hst).elim (hu.nameless r) (hw r)
  silent := hu.silent_shift hs hw

/-! ## The welcome -/

/-- The session has been welcomed: its first message is the `done` that it was welcomed with, and
there is no other one. -/
structure Met (h : Hall) (s : SessionId) : Prop where
  welcome : ∃ rest, h.mail s = .done :: rest ∧ .done ∉ rest
  known : h.stage? s ≠ none
  named : ∀ due, h.stage? s ≠ some (.awaitingHello due)

/-- The welcome brings its role to a session, and a `done`. -/
theorem Unmet.welcome (hu : h.Unmet s) (hopen : (h.conductor.line s).isOpen = true)
    (hw : h.welcomed? m = some (s, role)) :
    (h.after m).mail s = [.done] ∧ (h.after m).conductor.roster.binds s role = true ∧
      (h.after m).stage? s = some (.active role) := by
  obtain ⟨name, address, hg, hok⟩ := welcomed?_some hw
  obtain ⟨-, y, -, -, hy, -⟩ := greeted?_some hg
  obtain ⟨x', hafter⟩ := after_of_accepted hg hok
  have hconductor : (h.after m).conductor = (h.conductor.handshake s name address).1 := by
    rw [hafter]
    rfl
  refine ⟨?_, ?_, ?_⟩
  · rw [mail, hconductor, line_handshake hok (hu.stranger.unparked role), if_pos rfl, Line.push,
      if_pos hopen, messages_append, show messages _ = [] from hu.silent]
    rfl
  · rw [hconductor, binds_handshake hok]
    simp
  · rw [hafter, stage?_adjustSession, if_pos rfl]
    have hget : ((h.adjustSession s fun _ => x').withConductor
        (h.conductor.handshake s name address).1).sessions.get? s = some x' := by
      refine (get?_adjustSession h s s fun _ => x').trans ?_
      rw [if_pos rfl, hy, Option.map_some]
    rw [hget]
    rfl

/-! ## Behind the welcome -/

/-- A session that is there and is not welcomed in a move is queued no `done` in it. -/
theorem adds_of_shift (hs : Shift h m h') (hn : s ≠ h.nextSession)
    (hw : ∀ role, h.welcomed? m ≠ some (s, role)) :
    Adds [.barrier, .address, .command, .close] h.conductor h'.conductor s := by
  cases hs with
  | works source before behind =>
    exact (adds_after_greeting (Operation.tends?_of_plain source.plain s)
      (Operation.ne_handshake_of_plain source.plain)).around before behind
  | attaches arrival before conductor =>
    refine .of_queued ?_
    rw [conductor, line_attach, if_neg hn]
    exact before.queued s
  | @registers s' name address role waits conductor accepted stage others next greeted =>
    have hne : s ≠ s' := fun he => hw role (he ▸ welcomed?_of_greeted greeted accepted)
    rw [conductor]
    exact (adds_handshake_others hne name address).mono (by simp)
  | @concludes s' role c₁ runs before behind =>
    have hadds : Adds [.barrier, .address, .command, .close] c₁
        (c₁.after (.sessionClosed s' role)) s :=
      adds_after_greeting (Option.some_ne_none s).symm fun _ _ he => by cases he
    exact hadds.around before behind
  | kills runs quiet => exact .of_queued (quiet.queued s)

/-- Nobody is welcomed twice. -/
theorem Met.not_welcomed (hm : h.Met s) (role : Role) : h.welcomed? m ≠ some (s, role) := by
  intro hw
  rcases runs_of_welcomed hw with ⟨-, due, hst⟩ | ⟨r, hr, -⟩
  · exact hm.named due hst
  · cases hr

theorem Met.after (hm : h.Met s) (ho : h.Orderly) (m : Move) : (h.after m).Met s := by
  obtain ⟨rest, hmail, hnone⟩ := hm.welcome
  obtain ⟨items, hqueued, htopics⟩ :=
    adds_of_shift (Hall.shift h m) (ho.ne_of_known hm.known) hm.not_welcomed
  refine ⟨⟨rest ++ messages items, ?_, ?_⟩, known_after ho hm.known m, ?_⟩
  · rw [mail, hqueued, messages_append, ← mail, hmail, List.cons_append]
  · rw [List.mem_append, not_or]
    refine ⟨hnone, fun hmem => ?_⟩
    obtain ⟨o, ho, hdone⟩ := List.mem_filterMap.mp hmem
    have htopic := htopics o ho
    cases o with
    | close => cases hdone
    | message d =>
      cases hdone
      simp [Outbound.topic, Downlink.topic] at htopic
  · have hadvances := advances ho m s
    have hknown := hm.known
    have hnamed := hm.named
    generalize h.stage? s = stage, (h.after m).stage? s = stage' at hadvances hknown hnamed ⊢
    cases hadvances with
    | rests => exact hnamed
    | arrives => exact absurd rfl hknown
    | registers | ends | dies =>
      intro due he
      cases he

/-! ## Runs -/

/-- A session is not welcomed in a run. -/
def Unwelcomed (settings : Settings) (s : SessionId) (moves : List Move) : Prop :=
  Throughout moves fun before m =>
    ∀ role, (follow { conductor := { settings } } before).welcomed? m ≠ some (s, role)

/-- In every run a session is unmet until it is welcomed, and met ever after. -/
theorem unmet_or_met (settings : Settings) (s : SessionId) (moves : List Move) :
    Unwelcomed settings s moves ∧ (follow { conductor := { settings } } moves).Unmet s ∨
      ¬Unwelcomed settings s moves ∧ (follow { conductor := { settings } } moves).Met s := by
  induction moves using List.reverseRecOn with
  | nil => exact Or.inl ⟨fun before m after h => by simp at h, unmet_new settings s⟩
  | append_singleton moves m ih =>
    have ho := orderly_follow (orderly_new settings) moves
    rw [follow_concat]
    rcases ih with ⟨hnone, hu⟩ | ⟨hsome, hm⟩
    · by_cases hw : ∃ role,
          (follow { conductor := { settings } } moves).welcomed? m = some (s, role)
      · obtain ⟨role, hw⟩ := hw
        have ha := attached_follow settings moves (runs_of_welcomed hw)
        obtain ⟨hmail, -, hst⟩ := hu.welcome ha.isOpen hw
        refine Or.inr ⟨fun hall => hall.last role hw, ⟨[], hmail, List.not_mem_nil⟩, ?_, ?_⟩
        · rw [hst]
          nofun
        · rw [hst]
          nofun
      · have hw : ∀ role, _ ≠ some (s, role) := fun role h => hw ⟨role, h⟩
        exact Or.inl ⟨hnone.concat hw, hu.shift (tidy_follow settings moves) (Hall.shift _ m) hw⟩
    · exact Or.inr ⟨fun hall => hsome hall.init, hm.after ho m⟩

/-- A session that is welcomed was unmet before. -/
theorem unmet_of_welcomed (settings : Settings)
    (hw : (follow { conductor := { settings } } moves).welcomed? m = some (s, role)) :
    (follow { conductor := { settings } } moves).Unmet s := by
  rcases unmet_or_met settings s moves with ⟨-, hu⟩ | ⟨-, hm⟩
  · exact hu
  · exact absurd hw (hm.not_welcomed role)

/-! ## The close -/

/-- A session that has ended stays so. -/
theorem ended_after (ho : h.Orderly) (hst : h.stage? s = some (.ended result)) (m : Move) :
    (h.after m).stage? s = some (.ended result) := by
  have hruns : ∀ {s' role}, h.Runs s' role → s ≠ s' := by
    rintro s' role hr rfl
    exact hr.stage?_ne_ended result hst
  have hknown : h.stage? s ≠ none := by
    rw [hst]
    nofun
  cases Hall.shift h m with
  | works _ _ _ stages => rw [stages, hst]
  | attaches _ _ _ _ others => rw [others s (ho.ne_of_known hknown), hst]
  | registers waits _ _ _ others =>
    obtain ⟨due, hw⟩ := waits
    rw [others s (hruns (Or.inl ⟨rfl, due, hw⟩)), hst]
  | concludes runs _ _ _ others => rw [others s (hruns runs), hst]
  | kills runs _ _ others => rw [others s (hruns runs), hst]

/-- A session that has ended writes nothing more. -/
theorem record_of_ended (ho : h.Orderly) (hx : h.sessions.get? s = some x)
    (hst : x.stage = .ended result) (m : Move) :
    ∃ x', (h.after m).sessions.get? s = some x' ∧ x'.stage = .ended result ∧
      x'.written = x.written := by
  obtain ⟨x', hx', hrecorded⟩ := recorded hx (ho.ne_nextSession hx) m
  have hstage := ended_after ho (by rw [stage?, hx, Option.map_some, hst]) m
  rw [stage?, hx', Option.map_some] at hstage
  have hdead : x.isLive ≠ true := by
    intro hl
    rw [Session.isLive, hst] at hl
    cases hl
  refine ⟨x', hx', Option.some.inj hstage, ?_⟩
  cases hrecorded with
  | keeps kept => exact kept.written
  | receives _ record | parts _ record => rw [record]
  | reads _ live | writes _ live => exact absurd live hdead

/-- Whatever moves come, the record of a session that has ended is the same, and its line is only
added to. -/
theorem record_of_ended_follow (ho : h.Orderly) (hx : h.sessions.get? s = some x)
    (hst : x.stage = .ended result) (moves : List Move) :
    ∃ x', (h.follow moves).sessions.get? s = some x' ∧ x'.stage = .ended result ∧
      x'.written = x.written ∧ ∃ items,
        ((h.follow moves).conductor.line s).queued = (h.conductor.line s).queued ++ items := by
  induction moves generalizing h x with
  | nil => exact ⟨x, hx, hst, rfl, [], (List.append_nil _).symm⟩
  | cons m rest ih =>
    obtain ⟨x₁, hx₁, hst₁, hwritten₁⟩ := record_of_ended ho hx hst m
    obtain ⟨⟨items, hqueued⟩, -⟩ := line_after m (ho.ne_nextSession hx)
    obtain ⟨x', hx', hst', hwritten, items', hqueued'⟩ := ih (orderly_after ho m) hx₁ hst₁
    refine ⟨x', hx', hst', hwritten.trans hwritten₁, items ++ items', ?_⟩
    rw [← List.append_assoc, ← hqueued]
    exact hqueued'

/-- A session that takes off its line that it is to close has ended in good order. -/
theorem ends_at_close (hx : h.sessions.get? s = some x) (hl : x.isLive = true)
    (hi : (h.conductor.line s).next? = some .close) :
    (h.after (.write s)).sessions.get? s = some { x with stage := .ended (.ok ()) } := by
  have hwrite : h.takeOutbound? s = some ((h.takeItem s).conclude s (.ok ())) := by
    simp [takeOutbound?, hx, hl, hi, takeItem]
  show ((h.takeOutbound? s).getD h).sessions.get? s = _
  rw [hwrite, Option.getD_some, get?_conclude, if_pos rfl,
    show (h.takeItem s).sessions.get? s = some x from hx, Option.map_some]

/-- As it takes off its line that it is to close, a session has written all its mail before that. -/
theorem written_at_close (hp : h.Posted s x) (ha : h.Attached s) (hl : x.isLive = true)
    (hi : (h.conductor.line s).next? = some .close) (items : List Outbound) :
    x.written =
      messages (((h.conductor.line s).queued ++ items).takeWhile fun o => o ≠ .close) := by
  obtain ⟨hlt, hitem⟩ := List.getElem?_eq_some_iff.mp hi
  have hbefore : ∀ o ∈ (h.conductor.line s).queued.take (h.conductor.line s).taken,
      decide (o ≠ .close) = true := fun o ho => decide_eq_true fun he => ha.unaware (he ▸ ho)
  rw [← List.take_append_drop (h.conductor.line s).taken (h.conductor.line s).queued,
    List.drop_eq_getElem_cons hlt, hitem, List.append_assoc, List.cons_append,
    List.takeWhile_append_of_pos hbefore, List.takeWhile_cons_of_neg (by simp), List.append_nil]
  exact (hp.live hl).2

/-! ## What the player can read -/

/-- In every run, a session has no mail until it is welcomed. The welcome queues `done` for it in
the move in which its role is bound to it, and no other `done` is ever queued for it. Wherever the
bytes that the session has written are cut off, the messages that are read from them are the first
of its mail, in order; they are all its mail before the `close` if the session ends as it takes
that. -/
theorem welcome_comes_first (settings : Settings) (moves : List Move) (s : SessionId) :
    let run := follow { conductor := { settings } }
    let h := run moves
    (Unwelcomed settings s moves → h.mail s = []) ∧
    (∀ before m after role, moves = before ++ m :: after →
      (run before).welcomed? m = some (s, role) →
      (run before).mail s = [] ∧ (∀ r, (run before).conductor.roster.binds s r = false) ∧
      (run (before ++ [m])).mail s = [.done] ∧
      (run (before ++ [m])).conductor.roster.binds s role = true ∧
      ∃ rest, h.mail s = .done :: rest ∧ .done ∉ rest) ∧
    (∀ x, h.sessions.get? s = some x → ∀ limit cut,
      (Frame.readAll Downlink.ofBody limit ((Downlink.framed x.written).take cut)).items <+:
        h.mail s) ∧
    ∀ before after x, moves = before ++ .write s :: after →
      (run before).sessions.get? s = some x → x.isLive = true →
      ((run before).conductor.line s).next? = some .close →
      ∃ x', h.sessions.get? s = some x' ∧ x'.stage = .ended (.ok ()) ∧
        ∀ limit, Frame.maxSize ≤ limit →
          (Frame.readAll Downlink.ofBody limit (Downlink.framed x'.written)).items =
            messages ((h.conductor.line s).queued.takeWhile fun o => o ≠ .close) := by
  intro run h
  refine ⟨?_, ?_, ?_, ?_⟩
  · intro hnone
    rcases unmet_or_met settings s moves with ⟨-, hu⟩ | ⟨hsome, -⟩
    · exact hu.silent
    · exact absurd hnone hsome
  · intro before m after role hmoves hw
    have hu := unmet_of_welcomed settings hw
    have ha := attached_follow settings before (runs_of_welcomed hw)
    obtain ⟨hmail, hbound, -⟩ := hu.welcome ha.isOpen hw
    refine ⟨hu.silent, hu.stranger.unbound, ?_, ?_, ?_⟩
    · rw [show run (before ++ [m]) = (run before).after m from follow_concat _ before m]
      exact hmail
    · rw [show run (before ++ [m]) = (run before).after m from follow_concat _ before m]
      exact hbound
    · rcases unmet_or_met settings s moves with ⟨hnone, -⟩ | ⟨-, hm⟩
      · exact absurd hw (hnone before m after hmoves role)
      · exact hm.welcome
  · intro x hx limit cut
    have hp := posted_follow settings moves s x hx
    exact (Downlink.items_framed_take hp.sendable limit cut).trans hp.written
  · intro before after x hmoves hx hl hi
    have ho := orderly_follow (orderly_new settings) before
    have hp := posted_follow settings before s x hx
    have ha := attached_follow settings before (runs_of_live hx hl)
    have hended := ends_at_close hx hl hi
    obtain ⟨x', hx', hst, hwritten, items, hqueued⟩ :=
      record_of_ended_follow (orderly_after ho (.write s)) hended rfl after
    have hrun : h = ((run before).after (.write s)).follow after := by
      show run moves = _
      rw [hmoves]
      exact follow_append _ before (.write s :: after)
    obtain ⟨⟨items', hqueued'⟩, -⟩ := line_after (.write s) (ho.ne_nextSession hx)
    rw [hqueued', List.append_assoc, ← hrun] at hqueued
    rw [← hrun] at hx'
    refine ⟨x', hx', hst, fun limit hlimit => ?_⟩
    rw [Downlink.items_framed (posted_follow settings moves s x' hx').sendable hlimit, hqueued,
      hwritten]
    exact written_at_close hp ha hl hi _

/-- A player is removed as it waits for an address: it reads its welcome, and not the address that
is queued behind the `close`. -/
theorem welcome_comes_first_removed :
    let r : Role := ⟨"r"⟩
    let x : Role := ⟨"x"⟩
    let run := follow { conductor := { settings := {} } }
    let before : List Move := [
      .connect, .deliver 0 (Frame.ofBody (Uplink.hello "r" default).encode)]
    let behind : List Move := [
      .deliver 0 (Frame.ofBody (Uplink.getAddress x).encode), .read 0, .remove r,
      .connect, .deliver 1 (Frame.ofBody (Uplink.hello "x" default).encode), .read 1, .write 0]
    let moves := before ++ .read 0 :: behind
    let h := run (moves ++ [.write 0])
    (run before).mail 0 = [] ∧ (run before).welcomed? (.read 0) = some (0, r) ∧
      (run (before ++ [.read 0])).mail 0 = [.done] ∧
      h.mail 0 = [.done, .addressReply x default] ∧
      ((run moves).conductor.line 0).next? = some .close ∧
      ∃ y, h.sessions.get? 0 = some y ∧ y.stage = .ended (.ok ()) ∧
        (Frame.readAll Downlink.ofBody Frame.maxSize (Downlink.framed y.written)).items =
          [.done] := by
  intro r x run before behind moves h
  have hnone : Unwelcomed {} 0 before := by
    refine throughout_iff.mpr fun i hi role => ?_
    match i, hi with
    | 0, _ => nofun
    | 1, _ => nofun
  have hwelcomed : (run before).welcomed? (.read 0) = some (0, r) := by decide +kernel
  have hnext : ((run moves).conductor.line 0).next? = some .close := by decide +kernel
  obtain ⟨y, hy, hlive⟩ : ∃ y, (run moves).sessions.get? 0 = some y ∧ y.isLive = true :=
    ⟨((run moves).sessions.get? 0).get (by decide +kernel), Option.some_get _ |>.symm,
      by decide +kernel⟩
  obtain ⟨-, hwelcome, -, hclose⟩ := welcome_comes_first {} (moves ++ [.write 0]) 0
  obtain ⟨-, -, hdone, -⟩ := hwelcome before (.read 0) (behind ++ [.write 0]) r rfl hwelcomed
  obtain ⟨y', hy', hended, hread⟩ := hclose moves [] y rfl hy hlive hnext
  refine ⟨(welcome_comes_first {} before 0).1 hnone, hwelcomed, hdone, by decide +kernel, hnext,
    y', hy', hended, (hread Frame.maxSize (Nat.le_refl _)).trans ?_⟩
  decide +kernel

end Rendezvous.Hall
