import Mathlib.Data.List.Induction
import Rendezvous.Proofs.Hall.Orderly
import Rendezvous.Proofs.Wire.Stream

/-!
# The record of a session

What a move does to the record of one session (`Recorded`): bytes arrive at it or end, a frame is
read off the front of what has arrived, a message is written, or only its stage changes. What a
session wrote are the messages that were queued for it, in order and without gaps (`Posted`,
`posted_follow`).
-/

namespace Rendezvous.Hall

open Conductor

variable {h h' : Hall} {s s' : SessionId} {m : Move} {x x' : Session}

/-! ## One move -/

/-- A session is as it was, except that it may have ended. -/
structure Kept (x x' : Session) : Prop where
  arrived : x'.arrived = x.arrived
  peerGone : x'.peerGone = x.peerGone
  written : x'.written = x.written
  stage : x'.isLive = true → x'.stage = x.stage

theorem Kept.refl (x : Session) : Kept x x := ⟨rfl, rfl, rfl, fun _ => rfl⟩

theorem Kept.isLive (h : Kept x x') (hl : x'.isLive = true) : x.isLive = true := by
  rwa [Session.isLive, h.stage hl, ← Session.isLive] at hl

/-- A session that stops keeps all but its stage. -/
theorem Kept.stop (x : Session) {stage : Stage}
    (h : ({ x with stage } : Session).isLive = false) : Kept x { x with stage } := by
  refine ⟨rfl, rfl, rfl, fun hl => ?_⟩
  rw [h] at hl
  cases hl

/-- The stage apart, a session is as it was whether it has ended or not. -/
theorem Kept.apart (h : Kept x x') : Kept x { x' with stage := x.stage } :=
  ⟨h.arrived, h.peerGone, h.written, fun _ => rfl⟩

/-- The stage of a session that has just read a message: as it was, or that of the role that the
player named. -/
def Heard (x : Session) (u : Uplink) (stage : Stage) : Prop :=
  stage = x.stage ∨ ∃ due name address, x.stage = .awaitingHello due ∧ u = .hello name address ∧
    stage = .active ⟨name⟩

/-- What a move does to the record of a session. -/
inductive Recorded (h : Hall) (m : Move) (s : SessionId) (x x' : Session) : Prop where
  | keeps (kept : Kept x x')
  | receives {bytes : List UInt8} (move : m = .deliver s bytes)
      (record : x' = { x with arrived := x.arrived ++ bytes })
  | parts (move : m = .hangUp s) (record : x' = { x with peerGone := true })
  /-- A frame is read off, or an error. Behind an error the session is over. -/
  | reads {frame : Except WireError (List UInt8)} {rest : List UInt8} (move : m = .read s)
      (live : x.isLive = true)
      (next : Frame.next? h.conductor.settings.maxFrameSize.toNat x.peerGone x.arrived =
        some (frame, rest))
      (record : Kept { x with arrived := rest } { x' with stage := x.stage })
      (stage : x'.isLive = true → ∃ u, frame.bind Uplink.ofBody = .ok u ∧ Heard x u x'.stage)
  | writes {d : Downlink} (move : m = .write s) (live : x.isLive = true)
      (item : (h.conductor.line s).next? = some (.message d)) (sendable : d.IsSendable)
      (record : x' = { x with written := x.written ++ [d] })

theorem get?_adjustSession (h : Hall) (s s' : SessionId) (f : Session → Session) :
    (h.adjustSession s' f).sessions.get? s =
      if s = s' then (h.sessions.get? s).map f else h.sessions.get? s := by
  unfold adjustSession
  rw [Table.get?_adjust]
  by_cases hs : s = s'
  · rw [if_pos hs, if_pos hs, hs]
  · rw [if_neg hs, if_neg hs]

theorem get?_conclude (h : Hall) (s s' : SessionId) (result : Except SessionError Unit) :
    (h.conclude s' result).sessions.get? s =
      if s = s' then (h.sessions.get? s).map ({ · with stage := .ended result })
      else h.sessions.get? s := by
  rw [← get?_adjustSession]
  cases result <;> rfl

/-- A session that is concluded is over, and nothing else has happened to any session. -/
theorem kept_conclude (hx : h.sessions.get? s = some x) (s' : SessionId)
    (result : Except SessionError Unit) :
    ∃ x', (h.conclude s' result).sessions.get? s = some x' ∧ Kept x x' ∧
      (s = s' → x'.isLive = false) := by
  rw [get?_conclude]
  split
  · exact ⟨{ x with stage := .ended result }, by rw [hx]; rfl, .stop x rfl, fun _ => rfl⟩
  · next hne => exact ⟨x, hx, .refl x, fun he => absurd he hne⟩

theorem kept_kill (hx : h.sessions.get? s = some x) (s' : SessionId) :
    ∃ x', (h.kill s').sessions.get? s = some x' ∧ Kept x x' := by
  unfold kill
  split
  · split
    · have hget := get?_adjustSession h s s' ({ · with stage := .killed })
      rw [hx] at hget
      split at hget
      · exact ⟨{ x with stage := .killed }, hget, .stop x rfl⟩
      · exact ⟨x, hget, .refl x⟩
    · exact ⟨x, hx, .refl x⟩
  · exact ⟨x, hx, .refl x⟩

/-- An operation of the conductor touches no session. -/
theorem recorded_of_sessions (hx : h.sessions.get? s = some x) (hs : h'.sessions = h.sessions) :
    ∃ x', h'.sessions.get? s = some x' ∧ Recorded h m s x x' :=
  ⟨x, by rw [hs, hx], .keeps (.refl x)⟩

theorem recorded_expireHello (hx : h.sessions.get? s = some x) (s' : SessionId) :
    ∃ x', ((h.expireHello? s').getD h).sessions.get? s = some x' ∧ Kept x x' := by
  unfold expireHello?
  cases h.sessions.get? s' with
  | none => exact ⟨x, hx, .refl x⟩
  | some y =>
    rw [Option.bind_eq_bind, Option.bind_some]
    cases y.stage with
    | awaitingHello due =>
      dsimp only
      split
      · obtain ⟨x', hx', hk, -⟩ := kept_conclude hx s'
          (.error (.helloTimeout h.conductor.settings.helloTimeout))
        exact ⟨x', hx', hk⟩
      · exact ⟨x, hx, .refl x⟩
    | active | ended | killed => exact ⟨x, hx, .refl x⟩

/-! ### Writing -/

theorem sendable_of_writeMessage {d : Downlink} (h : writeMessage x d = .ok x') :
    d.IsSendable := by
  unfold writeMessage at h
  split at h
  · cases h
  · next hw => exact (Frame.write_eq_ok hw).1

theorem recorded_write (hx : h.sessions.get? s = some x) (s' : SessionId) :
    ∃ x', ((h.takeOutbound? s').getD h).sessions.get? s = some x' ∧
      Recorded h (.write s') s x x' := by
  have hwriting := writing h s'
  generalize (h.takeOutbound? s').getD h = h' at hwriting ⊢
  have hx' : (h.takeItem s').sessions.get? s = some x := hx
  cases hwriting with
  | rests => exact ⟨x, hx, .keeps (.refl x)⟩
  | closes =>
    obtain ⟨x', hget, hk, -⟩ := kept_conclude hx' s' (.ok ())
    exact ⟨x', hget, .keeps hk⟩
  | @breaks y d e =>
    obtain ⟨x', hget, hk, -⟩ := kept_conclude hx' s' (.error (.wire e))
    exact ⟨x', hget, .keeps hk⟩
  | @writes y y' d hy hl hi hw =>
    rw [get?_adjustSession, hx']
    split
    · next hs =>
      subst hs
      rw [hx] at hy
      cases hy
      exact ⟨y', rfl, .writes rfl hl hi (sendable_of_writeMessage hw) (writeMessage_ok hw)⟩
    · exact ⟨x, rfl, .keeps (.refl x)⟩

/-! ### Reading -/

theorem kept_handle (hx : h.sessions.get? s = some x) (s' : SessionId) (role : Role) (u : Uplink) :
    ∃ x', (h.handle s' role u).sessions.get? s = some x' ∧ Kept x x' := by
  unfold handle
  split
  · exact ⟨x, hx, .refl x⟩
  · next c e _ =>
    split
    · have hx' : (h.withConductor c).sessions.get? s = some x := hx
      obtain ⟨x', hget, hk, -⟩ := kept_conclude hx' s' (.error e)
      exact ⟨x', hget, hk⟩
    · exact ⟨x, hx, .refl x⟩

/-- The role of a session is the one that its player named. -/
theorem role_of_handshake {c : Conductor} {name : String} {address : Address} {role : Role}
    (h : (c.handshake s name address).2 = .ok role) : role = ⟨name⟩ := by
  unfold handshake at h
  split at h
  · cases h
  · split at h
    · cases h
    · split at h
      · cases h
      · cases h
        rfl

/-- The greeting: only the session that is greeted changes, and it is given the role that it names
or is over. -/
theorem recorded_greet (hx : h.sessions.get? s = some x) (s' : SessionId) (u : Uplink) :
    ∃ x', (h.greet s' u).sessions.get? s = some x' ∧ Kept x { x' with stage := x.stage } ∧
      (s ≠ s' → Kept x x') ∧ (x'.isLive = true → s = s' →
        ∃ name address, u = .hello name address ∧ x'.stage = .active ⟨name⟩) := by
  have hover : ∀ (h₁ : Hall) (result : Except SessionError Unit), h₁.sessions.get? s = some x →
      ∃ x', (h₁.conclude s' result).sessions.get? s = some x' ∧
        Kept x { x' with stage := x.stage } ∧ (s ≠ s' → Kept x x') ∧ (x'.isLive = true → s = s' →
          ∃ name address, u = .hello name address ∧ x'.stage = .active ⟨name⟩) := by
    intro h₁ result h₁x
    obtain ⟨x', hget, hk, hdead⟩ := kept_conclude h₁x s' result
    refine ⟨x', hget, hk.apart, fun _ => hk, ?_⟩
    intro hl hs
    rw [hdead hs] at hl
    cases hl
  cases u with
  | hello name address =>
    rw [greet_hello]
    cases hh : h.conductor.handshake s' name address with
    | mk c r =>
      cases r with
      | ok role =>
        have hok : (h.conductor.handshake s' name address).2 = .ok role := by rw [hh]
        obtain rfl := role_of_handshake hok
        have hx' : (h.withConductor c).sessions.get? s = some x := hx
        dsimp only
        rw [get?_adjustSession, hx']
        split
        · next hs =>
          exact ⟨_, rfl, ⟨rfl, rfl, rfl, fun _ => rfl⟩, fun hne => absurd hs hne,
            fun _ _ => ⟨name, address, rfl, rfl⟩⟩
        · next hne =>
          exact ⟨x, rfl, ⟨rfl, rfl, rfl, fun _ => rfl⟩, fun _ => .refl x,
            fun _ hs => absurd hs hne⟩
      | error e => exact hover (h.withConductor c) _ hx
  | enterBarrier | failBarrier | getAddress | addressReply | done | commandFailed =>
    exact hover h _ hx

/-- What is read is taken off the record before anything is done with it. -/
theorem recorded_of_taken {y y' : Session} {r : Except WireError Uplink}
    (hx : h.sessions.get? s = some x) (hy : h.sessions.get? s' = some y) (hl : y.isLive = true)
    (hi : y.inbound? h.conductor.settings.maxFrameSize.toNat = some (r, y'))
    (hdone : ∀ x₁, (h.adjustSession s' fun _ => y').sessions.get? s = some x₁ →
      (s = s' → x₁.stage = y.stage) →
      ∃ x', h'.sessions.get? s = some x' ∧ Kept x₁ { x' with stage := x₁.stage } ∧
        (s ≠ s' → Kept x₁ x') ∧
        (s = s' → x'.isLive = true → ∃ u, r = .ok u ∧ Heard y u x'.stage)) :
    ∃ x', h'.sessions.get? s = some x' ∧ Recorded h (.read s') s x x' := by
  obtain ⟨frame, rest, hnext, hu, rfl⟩ := inbound?_some hi
  -- the session that reads has a frame less in front of it, and all others have what they had
  have hget := get?_adjustSession h s s' fun _ => { y with arrived := rest }
  by_cases hs : s = s'
  · subst hs
    rw [hx] at hy
    cases hy
    rw [if_pos rfl, hx, Option.map_some] at hget
    obtain ⟨x', hx', hkept, -, hheard⟩ := hdone _ hget fun _ => rfl
    refine ⟨x', hx', .reads rfl hl hnext hkept ?_⟩
    intro hlive
    obtain ⟨u, hr, hstage⟩ := hheard rfl hlive
    exact ⟨u, hu.symm.trans hr, hstage⟩
  · rw [if_neg hs, hx] at hget
    obtain ⟨x', hx', -, hkept, -⟩ := hdone _ hget fun he => absurd he hs
    exact ⟨x', hx', .keeps (hkept hs)⟩

theorem recorded_read (hx : h.sessions.get? s = some x) (s' : SessionId) :
    ∃ x', ((h.takeInbound? s').getD h).sessions.get? s = some x' ∧
      Recorded h (.read s') s x x' := by
  have hreading := reading h s'
  generalize (h.takeInbound? s').getD h = h' at hreading ⊢
  cases hreading with
  | rests => exact ⟨x, hx, .keeps (.refl x)⟩
  | @ends y y' e result hy hl hi =>
    refine recorded_of_taken hx hy hl hi ?_
    intro x₁ hx₁ _
    obtain ⟨x', hget, hk, hdead⟩ := kept_conclude hx₁ s' result
    refine ⟨x', hget, hk.apart, fun _ => hk, ?_⟩
    intro hs hlive
    rw [hdead hs] at hlive
    cases hlive
  | @hears y y' u role hy hst hi =>
    refine recorded_of_taken hx hy (by rw [Session.isLive, hst]) hi ?_
    intro x₁ hx₁ hstage
    obtain ⟨x', hget, hk⟩ := kept_handle hx₁ s' role u
    exact ⟨x', hget, hk.apart, fun _ => hk, fun hs hlive =>
      ⟨u, rfl, Or.inl ((hk.stage hlive).trans (hstage hs))⟩⟩
  | @greets y y' u due hy hst hi =>
    refine recorded_of_taken hx hy (by rw [Session.isLive, hst]) hi ?_
    intro x₁ hx₁ _
    obtain ⟨x', hget, hk, hapart, hnamed⟩ := recorded_greet hx₁ s' u
    refine ⟨x', hget, hk, hapart, ?_⟩
    intro hs hlive
    obtain ⟨name, address, rfl, hnew⟩ := hnamed hlive hs
    exact ⟨_, rfl, Or.inr ⟨due, name, address, hst, rfl, hnew⟩⟩

/-! ### All moves -/

/-- When a connection arrives, one session is taken in at most, with an empty record and an empty
line, and it is in the connection table. -/
theorem sessions_of_arrival (h : Hall) (hm : m.isArrival = true) :
    (h.after m).sessions = h.sessions ∨
      ∃ due, (h.after m).sessions = h.sessions.put h.nextSession { stage := .awaitingHello due } ∧
        (h.after m).conductor.line h.nextSession = {} ∧
        h.nextSession ∈ (h.after m).conductor.connections := by
  have hline : ∀ c : Conductor, (c.attach h.nextSession).line h.nextSession = {} := by
    intro c
    rw [line_attach, if_pos rfl]
  have htable : ∀ c : Conductor, h.nextSession ∈ (c.attach h.nextSession).connections :=
    fun c => List.mem_append_right _ (List.mem_singleton.mpr rfl)
  cases m with
  | connect => exact Or.inr ⟨_, rfl, hline _, htable _⟩
  | accept =>
    unfold after accept
    dsimp only
    split
    · exact Or.inl rfl
    · exact Or.inr ⟨_, rfl, hline _, htable _⟩
  | _ => cases hm

/-- A session stays, and its record changes in one way only. -/
theorem recorded (hx : h.sessions.get? s = some x) (hn : s ≠ h.nextSession) (m : Move) :
    ∃ x', (h.after m).sessions.get? s = some x' ∧ Recorded h m s x x' := by
  by_cases hm : m.isArrival = true
  · rcases sessions_of_arrival h hm with hsame | ⟨due, hput, -⟩
    · exact recorded_of_sessions hx hsame
    · exact ⟨x, by rw [hput, Table.get?_put, if_neg hn, hx], .keeps (.refl x)⟩
  cases m with
  | connect | accept => exact absurd rfl hm
  | deliver s' bytes =>
    have hget := get?_adjustSession h s s' fun x => { x with arrived := x.arrived ++ bytes }
    rw [hx] at hget
    split at hget
    · next hs => exact ⟨_, hget, .receives (by rw [hs]) rfl⟩
    · exact ⟨x, hget, .keeps (.refl x)⟩
  | hangUp s' =>
    have hget := get?_adjustSession h s s' fun x => { x with peerGone := true }
    rw [hx] at hget
    split at hget
    · next hs => exact ⟨_, hget, .parts (by rw [hs]) rfl⟩
    · exact ⟨x, hget, .keeps (.refl x)⟩
  | kill s' =>
    obtain ⟨x', hget, hk⟩ := kept_kill hx s'
    exact ⟨x', hget, .keeps hk⟩
  | expireHello s' =>
    obtain ⟨x', hget, hk⟩ := recorded_expireHello hx s'
    exact ⟨x', hget, .keeps hk⟩
  | read s' => exact recorded_read hx s'
  | write s' => exact recorded_write hx s'
  | fireTimer =>
    have hsessions : (h.fireTimer?.getD h).sessions = h.sessions := by
      unfold fireTimer?
      cases h.conductor.timer with
      | none => rfl
      | some alarm =>
        rw [Option.bind_eq_bind, Option.bind_some]
        split <;> rfl
    exact recorded_of_sessions hx hsessions
  | advance | openBarrier | issue | cancelCommand | remove | shutdown | lateTimer =>
    exact recorded_of_sessions hx rfl

/-- No session comes but by an arrival. -/
theorem isArrival_of_new (hx : h.sessions.get? s = none)
    (hx' : (h.after m).sessions.get? s = some x') : m.isArrival = true := by
  have hnone : h.stage? s = none := by rw [stage?, hx, Option.map_none]
  have hsome : (h.after m).stage? s ≠ none := by
    rw [stage?, hx', Option.map_some]
    exact Option.some_ne_none _
  have hruns : ∀ {s' role}, h.Runs s' role → s ≠ s' := by
    rintro s' role hr rfl
    exact hr.stage?_ne_none hnone
  cases shift h m with
  | attaches arrival => exact arrival
  | works _ _ _ stages => exact absurd (by rw [stages, hnone]) hsome
  | @registers s' _ _ _ hwaits _ _ _ others =>
    have hne : s ≠ s' := by
      rintro rfl
      obtain ⟨due, hw⟩ := hwaits
      rw [hnone] at hw
      cases hw
    exact absurd (by rw [others s hne, hnone]) hsome
  | concludes runs _ _ _ others => exact absurd (by rw [others s (hruns runs), hnone]) hsome
  | kills runs _ _ others => exact absurd (by rw [others s (hruns runs), hnone]) hsome

/-- A session that was not there is one that is taken in, with an empty record and an empty line,
and it is in the connection table. -/
theorem created (hx : h.sessions.get? s = none) (hx' : (h.after m).sessions.get? s = some x') :
    m.isArrival = true ∧ s = h.nextSession ∧ (∃ due, x' = { stage := .awaitingHello due }) ∧
      (h.after m).conductor.line s = {} ∧ s ∈ (h.after m).conductor.connections := by
  have harrival := isArrival_of_new hx hx'
  rcases sessions_of_arrival h harrival with hsame | ⟨due, hput, hline, htable⟩
  · rw [hsame, hx] at hx'
    cases hx'
  · rw [hput, Table.get?_put] at hx'
    split at hx'
    · next hs =>
      subst hs
      cases hx'
      exact ⟨harrival, rfl, ⟨due, rfl⟩, hline, htable⟩
    · rw [hx] at hx'
      cases hx'

/-! ## What is queued and written -/

/-- A line is only added to, and nothing is taken off it but by its session. -/
theorem line_after (m : Move) (hn : s ≠ h.nextSession) :
    (∃ items, ((h.after m).conductor.line s).queued = (h.conductor.line s).queued ++ items) ∧
      (m.taker? ≠ some s → ((h.after m).conductor.line s).taken = (h.conductor.line s).taken) := by
  obtain ⟨c₁, op, before, behind, horigin⟩ := operates h m
  have ht : op.tends? ≠ some s := fun ht => hn (horigin.tends ht).2
  obtain ⟨audience, hsaid, -⟩ := says_after c₁ s op ht
  obtain ⟨items, hline⟩ := hsaid.grows
  refine ⟨⟨items, ?_⟩, ?_⟩
  · rw [behind.queued, hline, before.queued]
  · intro hm
    rw [behind.taken s hm, hline, before.taken s hm]

/-- The messages among the items of a line. -/
def messages (items : List Outbound) : List Downlink :=
  items.filterMap fun
    | .message m => some m
    | .close => none

theorem messages_append (items items' : List Outbound) :
    messages (items ++ items') = messages items ++ messages items' := List.filterMap_append

/-- A session has written messages that were queued for it, in order; as long as it runs, all those
that it has taken off its line. -/
structure Posted (h : Hall) (s : SessionId) (x : Session) : Prop where
  written : x.written <+: messages (h.conductor.line s).queued
  live : x.isLive = true → (h.conductor.line s).taken ≤ (h.conductor.line s).queued.length ∧
    x.written = messages ((h.conductor.line s).queued.take (h.conductor.line s).taken)
  sendable : ∀ d ∈ x.written, d.IsSendable

/-- A session that writes nothing. -/
theorem Posted.of_silent (hp : h.Posted s x) (hw : x'.written = x.written)
    (hl : x'.isLive = true → x.isLive = true)
    (hq : ∃ items, (h'.conductor.line s).queued = (h.conductor.line s).queued ++ items)
    (ht : x'.isLive = true → (h'.conductor.line s).taken = (h.conductor.line s).taken) :
    h'.Posted s x' := by
  obtain ⟨items, hitems⟩ := hq
  refine ⟨?_, ?_, fun d hd => hp.sendable d (hw ▸ hd)⟩
  · rw [hw, hitems, messages_append]
    exact hp.written.trans (List.prefix_append _ _)
  · intro hlive
    obtain ⟨hle, hwritten⟩ := hp.live (hl hlive)
    rw [hw, ht hlive, hitems, List.take_append_of_le_length hle, List.length_append]
    exact ⟨Nat.le_trans hle (Nat.le_add_right _ _), hwritten⟩

/-- A session that writes what is next on its line. -/
theorem Posted.advance {d : Downlink} (hp : h.Posted s x) (hl : x.isLive = true)
    (hi : (h.conductor.line s).next? = some (.message d)) (hd : d.IsSendable)
    (hline : h'.conductor.line s = (h.conductor.line s).advance) :
    h'.Posted s { x with written := x.written ++ [d] } := by
  obtain ⟨-, hwritten⟩ := hp.live hl
  have hitem : (h.conductor.line s).queued[(h.conductor.line s).taken]? = some (.message d) := hi
  have hlt : (h.conductor.line s).taken < (h.conductor.line s).queued.length :=
    (List.getElem?_eq_some_iff.mp hitem).1
  have hsent : x.written ++ [d] =
      messages ((h.conductor.line s).queued.take ((h.conductor.line s).taken + 1)) := by
    rw [List.take_add_one, hitem, messages_append, ← hwritten]
    rfl
  refine ⟨?_, ?_, ?_⟩
  · rw [hline, hsent]
    exact List.IsPrefix.filterMap _ (List.take_prefix _ _)
  · intro _
    rw [hline]
    exact ⟨hlt, hsent⟩
  · intro d' hd'
    rcases List.mem_append.mp hd' with hd' | hd'
    · exact hp.sendable d' hd'
    · rw [List.mem_singleton.mp hd']
      exact hd

theorem posted_write (hp : h.Posted s x) (hx : h.sessions.get? s = some x)
    (hx' : (h.after (.write s)).sessions.get? s = some x') (hn : s ≠ h.nextSession) :
    (h.after (.write s)).Posted s x' := by
  have hqueued := (line_after (.write s) hn).1
  have hwriting := writing h s
  have hafter : h.after (.write s) = (h.takeOutbound? s).getD h := rfl
  rw [hafter] at hx' hqueued ⊢
  generalize (h.takeOutbound? s).getD h = h' at hwriting hx' hqueued ⊢
  -- a session that is over has written what it had written before
  have hover : ∀ {result}, h' = (h.takeItem s).conclude s result → h'.Posted s x' := by
    rintro result rfl
    obtain ⟨y, hget, hk, hdead⟩ := kept_conclude (h := h.takeItem s) hx s result
    rw [hget] at hx'
    cases hx'
    have hdead : x'.isLive ≠ true := fun hl => by
      rw [hdead rfl] at hl
      cases hl
    exact hp.of_silent hk.written (fun hl => absurd hl hdead) hqueued fun hl => absurd hl hdead
  cases hwriting with
  | rests =>
    rw [hx] at hx'
    cases hx'
    exact hp
  | closes => exact hover rfl
  | breaks => exact hover rfl
  | @writes y y' d hy hl hi hw =>
    rw [get?_adjustSession, if_pos rfl, show (h.takeItem s).sessions.get? s = some x from hx] at hx'
    rw [hx] at hy
    cases hy
    cases hx'
    rw [writeMessage_ok hw]
    exact hp.advance hl hi (sendable_of_writeMessage hw) (line_take_self hi)

/-- What a session wrote stays what was queued for it. -/
theorem posted_after (ho : h.Orderly) (hp : ∀ s x, h.sessions.get? s = some x → h.Posted s x)
    (m : Move) (hx' : (h.after m).sessions.get? s = some x') : (h.after m).Posted s x' := by
  cases hx : h.sessions.get? s with
  | none =>
    obtain ⟨-, -, ⟨due, rfl⟩, hline, -⟩ := created hx hx'
    refine ⟨List.nil_prefix, ?_, nofun⟩
    intro _
    rw [hline]
    exact ⟨Nat.le_refl _, rfl⟩
  | some x =>
    have hn := ho.ne_nextSession hx
    have hpx := hp s x hx
    -- only in a write is something taken off the line
    by_cases hm : m = .write s
    · subst hm
      exact posted_write hpx hx hx' hn
    · obtain ⟨hqueued, htaken⟩ := line_after m hn
      have hsame : ((h.after m).conductor.line s).taken = (h.conductor.line s).taken := by
        refine htaken fun ht => hm ?_
        cases m <;> cases ht
        rfl
      obtain ⟨x₁, hx₁, hrecorded⟩ := recorded hx hn m
      rw [hx'] at hx₁
      cases hx₁
      cases hrecorded with
      | keeps kept =>
        exact hpx.of_silent kept.written kept.isLive hqueued fun _ => hsame
      | receives _ hrecord =>
        subst hrecord
        exact hpx.of_silent rfl id hqueued fun _ => hsame
      | parts _ hrecord =>
        subst hrecord
        exact hpx.of_silent rfl id hqueued fun _ => hsame
      | reads _ live _ record =>
        exact hpx.of_silent record.written (fun _ => live) hqueued fun _ => hsame
      | writes move => exact absurd move hm

theorem posted_follow (settings : Settings) (moves : List Move) :
    ∀ s x, (follow { conductor := { settings } } moves).sessions.get? s = some x →
      (follow { conductor := { settings } } moves).Posted s x := by
  induction moves using List.reverseRecOn with
  | nil => exact nofun
  | append_singleton moves m ih =>
    intro s x hx
    rw [follow_concat] at hx ⊢
    exact posted_after (orderly_follow (orderly_new settings) moves) ih m hx

end Rendezvous.Hall
