import Rendezvous.Proofs.Conductor.Dismissal
import Rendezvous.Proofs.Hall.Records

/-!
# Superseded sessions

A session that runs is in the connection table and its line is open. If its role is not bound to it
any more, it was told to close, and it has not taken that off its line yet, or it would have ended
(`Attached`, `attached_follow`). So what is heard under a role comes from the session that the role
is bound to, as long as no session reads while a `close` waits on its line (`heard_from_owner`). A
session that does read then acts for the one that has its role now (`superseded_session_acts`).
-/

namespace Rendezvous.Hall

open Conductor

variable {h h' : Hall} {m : Move} {moves : List Move} {s : SessionId} {r : Role} {x x' : Session}

/-! ## What a running session has -/

/-- What a session has as long as it runs. -/
structure Attached (h : Hall) (s : SessionId) : Prop where
  connected : s ∈ h.conductor.connections
  isOpen : (h.conductor.line s).isOpen = true
  /-- It has not taken off its line that it is to close. -/
  unaware : .close ∉ (h.conductor.line s).queued.take (h.conductor.line s).taken
  /-- It has the role that it is active under, or it was told to close. -/
  bound : ∀ r, h.stage? s = some (.active r) →
    h.conductor.roster.binds s r = true ∨ h.conductor.IsDismissed s

theorem Runs.of_active (h' : h.stage? s = some (.active r)) : h.Runs s (some r) :=
  Or.inr ⟨r, rfl, h'⟩

theorem Runs.stage?_ne_ended {role : Option Role} (hr : h.Runs s role)
    (result : Except SessionError Unit) : h.stage? s ≠ some (.ended result) := by
  rcases hr with ⟨-, due, hst⟩ | ⟨r, -, hst⟩ <;> rw [hst] <;> nofun

theorem Runs.stage?_ne_killed {role : Option Role} (hr : h.Runs s role) :
    h.stage? s ≠ some .killed := by
  rcases hr with ⟨-, due, hst⟩ | ⟨r, -, hst⟩ <;> rw [hst] <;> nofun

/-- A session that runs is not the one that has ended -/
theorem Runs.ne_of_ended {s' : SessionId} {role : Option Role} (hr : h.Runs s role)
    (hended : ∃ result, h.stage? s' = some (.ended result)) : s ≠ s' := by
  rintro rfl
  obtain ⟨result, hst⟩ := hended
  exact hr.stage?_ne_ended result hst

/-- or that was stopped. -/
theorem Runs.ne_of_killed {s' : SessionId} {role : Option Role} (hr : h.Runs s role)
    (hkilled : h.stage? s' = some .killed) : s ≠ s' := by
  rintro rfl
  exact hr.stage?_ne_killed hkilled

theorem Runs.isLive {role : Option Role} (hr : h.Runs s role) (hx : h.sessions.get? s = some x) :
    x.isLive = true := by
  unfold Runs stage? at hr
  rw [hx, Option.map_some] at hr
  unfold Session.isLive
  rcases hr with ⟨-, due, hst⟩ | ⟨r, -, hst⟩ <;> rw [Option.some.inj hst]

/-- A session that takes off its line that it is to close does not go on. -/
theorem unaware_after (hx : h.sessions.get? s = some x) (hn : s ≠ h.nextSession)
    (hle : (h.conductor.line s).taken ≤ (h.conductor.line s).queued.length)
    (hu : .close ∉ (h.conductor.line s).queued.take (h.conductor.line s).taken) (m : Move)
    {role : Option Role} (hr : (h.after m).Runs s role) :
    .close ∉ ((h.after m).conductor.line s).queued.take ((h.after m).conductor.line s).taken := by
  obtain ⟨⟨items, hqueued⟩, htaken⟩ := line_after m hn
  by_cases hm : m = .write s
  · subst hm
    have hwriting := writing h s
    have hafter : h.after (.write s) = (h.takeOutbound? s).getD h := rfl
    rw [hafter] at hr ⊢
    generalize (h.takeOutbound? s).getD h = h' at hwriting hr ⊢
    -- a session that is over does not run
    have hover : ∀ {result}, h' = (h.takeItem s).conclude s result → False := by
      rintro result rfl
      obtain ⟨y, hget, -, hdead⟩ := kept_conclude (h := h.takeItem s) hx s result
      have hlive := hr.isLive hget
      rw [hdead rfl] at hlive
      cases hlive
    cases hwriting with
    | rests => exact hu
    | closes => exact (hover rfl).elim
    | breaks => exact (hover rfl).elim
    | @writes y y' d hy hl hi hw =>
      have hitem : (h.conductor.line s).queued[(h.conductor.line s).taken]? = some (.message d) :=
        hi
      have hline : (((h.takeItem s).adjustSession s fun _ => y').conductor.line s) =
          (h.conductor.line s).advance := line_take_self hi
      rw [hline]
      show .close ∉ (h.conductor.line s).queued.take ((h.conductor.line s).taken + 1)
      rw [List.take_add_one, hitem]
      simp [hu]
  · have hsame := htaken fun ht => hm (by cases m <;> cases ht; rfl)
    rw [hsame, hqueued, List.take_append_of_le_length hle]
    exact hu

theorem connected_after (hc : s ∈ h.conductor.connections) (m : Move) {role : Option Role}
    (hr : (h.after m).Runs s role) : s ∈ (h.after m).conductor.connections := by
  have hshift := shift h m
  generalize h.after m = h' at hshift hr ⊢
  cases hshift with
  | works source before behind =>
    rwa [behind.connections, connections_after source.plain, before.connections]
  | attaches arrival before conductor =>
    rw [conductor, Conductor.attach, before.connections]
    exact List.mem_append_left _ hc
  | registers waits conductor accepted =>
    rwa [conductor, (handshake_ok accepted).2.2.2]
  | @concludes s' role₁ c₁ runs before behind stage =>
    have hconnections : h'.conductor.connections = c₁.connections.erase s' :=
      behind.connections.trans (connections_sessionClosed c₁ s' role₁)
    rw [hconnections, before.connections]
    exact (List.mem_erase_of_ne (hr.ne_of_ended stage)).mpr hc
  | kills runs quiet => rwa [quiet.connections]

/-- The line of a session is shut only as the session stops. -/
theorem open_after (hopen : (h.conductor.line s).isOpen = true) (hn : s ≠ h.nextSession) (m : Move)
    {role : Option Role} (hr : (h.after m).Runs s role) :
    ((h.after m).conductor.line s).isOpen = true := by
  have hshift := shift h m
  generalize h.after m = h' at hshift hr ⊢
  cases hshift with
  | works source before behind stages next opens => exact opens s hopen
  | attaches arrival before conductor stage others next opens =>
    have hattach : (Operation.attach h.nextSession).tends? ≠ some s :=
      fun he => hn (Option.some.inj he).symm
    rw [conductor]
    exact (isOpen_after _ (.attach h.nextSession) hattach).trans (opens s hopen)
  | @registers s' name address _ waits conductor =>
    rw [conductor]
    exact (isOpen_after h.conductor (.handshake s' name address) nofun).trans hopen
  | concludes runs before behind stage others shut next opens =>
    exact opens s (hr.ne_of_ended stage) hopen
  | kills runs quiet stage others shut next opens =>
    exact opens s (hr.ne_of_killed stage) hopen

/-- An active session that has its role keeps it, or it is told to close. -/
theorem bound_or_dismissed (ha : h.Attached s) (hn : s ≠ h.nextSession) (m : Move)
    (hopen : ((h.after m).conductor.line s).isOpen = true)
    (hst : (h.after m).stage? s = some (.active r)) :
    (h.after m).conductor.roster.binds s r = true ∨ (h.after m).conductor.IsDismissed s := by
  have hdismissed : h.conductor.IsDismissed s → (h.after m).conductor.IsDismissed s :=
    fun hd => hd.of_grown (line_after m hn).1
  have hshift := shift h m
  generalize h.after m = h' at hshift hst hopen hdismissed ⊢
  cases hshift with
  | @works c₁ op source before behind stages =>
    rw [stages] at hst
    rcases ha.bound r hst with hb | hd
    · have hopen₁ : (c₁.line s).isOpen = true := by
        refine Bool.not_eq_false _ ▸ fun hshut => ?_
        have hafter := isOpen_after c₁ op (Operation.tends?_of_plain source.plain s)
        rw [behind.shut s (hafter.trans hshut)] at hopen
        cases hopen
      have hconnected : s ∈ c₁.connections := by
        rw [before.connections]
        exact ha.connected
      rw [← binds_of_members before.members] at hb
      rw [binds_of_members behind.members]
      refine (bound_or_dismissed_after source.plain hconnected hopen₁ hb).imp_right fun hd => ?_
      exact hd.of_grown ⟨[], by rw [behind.queued, List.append_nil]⟩
    · exact Or.inr (hdismissed hd)
  | attaches arrival before conductor stage others =>
    rw [others s hn] at hst
    refine (ha.bound r hst).imp (fun hb => ?_) hdismissed
    rw [← binds_of_members before.members] at hb
    rw [conductor]
    exact hb
  | @registers s' name address role₁ waits conductor accepted stage others =>
    rw [conductor, binds_handshake accepted]
    by_cases hs : s = s'
    · subst hs
      rw [stage] at hst
      cases hst
      simp
    · rw [others s hs] at hst
      refine (ha.bound r hst).imp (fun hb => ?_) fun hd => conductor ▸ hdismissed hd
      simp [hb]
  | @concludes s' role₁ c₁ runs before behind stage others =>
    have hs : s ≠ s' := (Runs.of_active hst).ne_of_ended stage
    rw [others s hs] at hst
    refine (ha.bound r hst).imp (fun hb => ?_) hdismissed
    rw [← binds_of_members before.members] at hb
    rw [binds_of_members behind.members]
    exact binds_sessionClosed (Ne.symm hs) role₁ hb
  | @kills s' role₁ runs quiet stage others =>
    have hs : s ≠ s' := (Runs.of_active hst).ne_of_killed stage
    rw [others s hs] at hst
    refine (ha.bound r hst).imp (fun hb => ?_) hdismissed
    rwa [binds_of_members quiet.members]

/-- A session that goes on keeps what it has. -/
theorem Attached.after (ha : h.Attached s) (hp : h.Posted s x) (hx : h.sessions.get? s = some x)
    (hn : s ≠ h.nextSession) {role role' : Option Role} (hr : h.Runs s role) (m : Move)
    (hr' : (h.after m).Runs s role') : (h.after m).Attached s where
  connected := connected_after ha.connected m hr'
  isOpen := open_after ha.isOpen hn m hr'
  unaware := unaware_after hx hn (hp.live (hr.isLive hx)).1 ha.unaware m hr'
  bound _ := bound_or_dismissed ha hn m (open_after ha.isOpen hn m hr')

/-- A session that is taken in has what a running session has. -/
theorem attached_created (hx : h.sessions.get? s = none)
    (hx' : (h.after m).sessions.get? s = some x') : (h.after m).Attached s := by
  obtain ⟨-, -, ⟨due, rfl⟩, hline, htable⟩ := created hx hx'
  refine ⟨htable, by rw [hline], by rw [hline]; nofun, ?_⟩
  intro r hst
  rw [stage?, hx', Option.map_some] at hst
  cases hst

/-! ## Runs -/

/-- A session that runs behind a move ran before, or is one that is taken in. -/
theorem runs_before (hx : h.sessions.get? s = some x) (ho : h.Orderly) {role : Option Role}
    (hr : (h.after m).Runs s role) : ∃ role', h.Runs s role' := by
  obtain ⟨x', hx'⟩ := hr.exists_session
  obtain ⟨x₁, hx₁, hrecorded⟩ := recorded hx (ho.ne_nextSession hx) m
  rw [hx'] at hx₁
  cases hx₁
  refine ⟨x.role?, runs_of_live hx ?_⟩
  have hlive := hr.isLive hx'
  cases hrecorded with
  | keeps kept => exact kept.isLive hlive
  | receives _ record | parts _ record =>
    subst record
    exact hlive
  | reads _ live => exact live
  | writes _ live => exact live

theorem attached_follow (settings : Settings) (moves : List Move) {role : Option Role}
    (hr : (follow { conductor := { settings } } moves).Runs s role) :
    (follow { conductor := { settings } } moves).Attached s := by
  induction moves using List.reverseRecOn generalizing s role with
  | nil => rcases hr with ⟨-, due, hst⟩ | ⟨r, -, hst⟩ <;> cases hst
  | append_singleton moves m ih =>
    have ho := orderly_follow (orderly_new settings) moves
    rw [follow_concat] at hr ⊢
    cases hx : (follow { conductor := { settings } } moves).sessions.get? s with
    | none =>
      obtain ⟨x', hx'⟩ := hr.exists_session
      exact attached_created hx hx'
    | some x =>
      obtain ⟨role', hr₀⟩ := runs_before hx ho hr
      exact (ih hr₀).after (posted_follow settings moves s x hx) hx (ho.ne_nextSession hx) hr₀ m hr

/-- In every run, an active session that its role is not bound to was told to close, and that still
waits on its line. -/
theorem close_waits (settings : Settings) (moves : List Move)
    (hst : (follow { conductor := { settings } } moves).stage? s = some (.active r))
    (hb : (follow { conductor := { settings } } moves).conductor.roster.binds s r = false) :
    .close ∈ ((follow { conductor := { settings } } moves).conductor.line s).waiting := by
  have ha := attached_follow settings moves (.of_active hst)
  rcases ha.bound r hst with hbound | hdismissed
  · rw [hb] at hbound
    cases hbound
  · unfold IsDismissed at hdismissed
    rw [← List.take_append_drop ((follow _ moves).conductor.line s).taken
      ((follow _ moves).conductor.line s).queued] at hdismissed
    exact (List.mem_append.mp hdismissed).resolve_left ha.unaware

/-- In every run, what is heard under a role from a session that has nothing on its line but
messages is heard from the session that the role is bound to. -/
theorem heard_from_owner (settings : Settings) (moves : List Move) {u : Uplink}
    (hh : (follow { conductor := { settings } } moves).heard? m = some (s, r, u))
    (hclose : .close ∉ ((follow { conductor := { settings } } moves).conductor.line s).waiting) :
    (follow { conductor := { settings } } moves).conductor.roster.binds s r = true := by
  obtain ⟨-, x, -, hx, hst, -⟩ := heard?_some hh
  have hactive : (follow { conductor := { settings } } moves).stage? s = some (.active r) := by
    rw [stage?, hx, Option.map_some, hst]
  refine Bool.not_eq_false _ ▸ fun hb => ?_
  exact hclose (close_waits settings moves hactive hb)

/-- A session that was told to close and reads first acts under the role that it has lost: it enters
the barrier of the session that has the role now, and completes the command that was issued for that
one, which has written nothing yet. -/
theorem superseded_session_acts :
    let r : Role := ⟨"r"⟩
    let moves : List Move := [
      .connect, .deliver 0 (Frame.ofBody (Uplink.hello "r" default).encode), .read 0,
      .remove r,
      .connect, .deliver 1 (Frame.ofBody (Uplink.hello "r" default).encode), .read 1,
      .openBarrier "start" [r] none, .issue (.terminate r .graceful),
      .deliver 0 (Frame.ofBody (Uplink.enterBarrier "start" none none).encode), .read 0,
      .deliver 0 (Frame.ofBody Uplink.done.encode), .read 0]
    let c := (follow {} moves).conductor
    c.roster.binds 1 r = true ∧ c.roster.binds 0 r = false ∧ .close ∈ (c.line 0).waiting ∧
      (c.line 1).taken = 0 ∧ c.outcomes.map (fun o => (o.name, o.isSuccess)) = [("start", true)] ∧
      c.verdicts = [(1, .ok .done)] := by
  intro r moves c
  decide +kernel

end Rendezvous.Hall
