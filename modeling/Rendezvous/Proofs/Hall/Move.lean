import Rendezvous.Conductor.Hall
import Rendezvous.Proofs.Conductor.Bindings
import Rendezvous.Proofs.Conductor.Quiet

/-!
# Moves of the hall

A hall goes on in moves (`Move`, `after`, `follow`): the outside connects, delivers bytes and hangs
up, the driver asks for barriers and commands, and the sessions and the timer do what they can do,
in any order. Each move is one operation of the conductor, with doings around it that no barrier
notices (`Quiet`), and changes the stage of one session at most (`Shift`, `shift`).
-/

namespace Rendezvous

open Conductor

namespace Hall

/-! ## Moves -/

/-- One move of a hall. The last four are what sessions and the timer do by themselves. -/
inductive Move where
  | connect
  | accept
  | deliver (s : SessionId) (bytes : List UInt8)
  | hangUp (s : SessionId)
  | kill (s : SessionId)
  | advance (nanoseconds : Nat)
  | openBarrier (name : String) (roles : List Role) (timeout : Option Span)
  | issue (cmd : Command)
  | cancelCommand (node : Role) (id : Nat) (after : Span)
  | remove (node : Role)
  | shutdown
  /-- The timer of any opening fires, however late. -/
  | lateTimer (epoch : Epoch)
  | expireHello (s : SessionId)
  | read (s : SessionId)
  | write (s : SessionId)
  | fireTimer

/-- The session that may take an item off its line in a move. -/
def Move.taker? : Move → Option SessionId
  | .write s => some s
  | _ => none

/-- The session that a move is a doing of, or is done to. -/
def Move.session? : Move → Option SessionId
  | .deliver s _ | .hangUp s | .kill s | .expireHello s | .read s | .write s => some s
  | _ => none

/-- Whether a connection may be taken in by a move. -/
def Move.isArrival : Move → Bool
  | .connect | .accept => true
  | _ => false

/-- The hall behind a move; what cannot be done is not done. -/
def after (h : Hall) : Move → Hall
  | .connect => h.connect.2
  | .accept => h.accept.2
  | .deliver s bytes => h.deliver s bytes
  | .hangUp s => h.hangUp s
  | .kill s => h.kill s
  | .advance nanoseconds => h.advance nanoseconds
  | .openBarrier name roles timeout =>
    h.withConductor (h.conductor.openBarrier name roles timeout).1
  | .issue cmd => h.withConductor (h.conductor.issue cmd).1
  | .cancelCommand node id after => h.withConductor (h.conductor.cancelCommand node id after)
  | .remove node => h.withConductor (h.conductor.remove node)
  | .shutdown => h.withConductor h.conductor.shutdown
  | .lateTimer epoch => h.withConductor (h.conductor.barrierTimeout epoch)
  | .expireHello s => (h.expireHello? s).getD h
  | .read s => (h.takeInbound? s).getD h
  | .write s => (h.takeOutbound? s).getD h
  | .fireTimer => h.fireTimer?.getD h

/-- The hall behind a list of moves. -/
def follow (h : Hall) (moves : List Move) : Hall := moves.foldl after h

variable {h h' : Hall} {s : SessionId}

theorem follow_append (h : Hall) (moves moves' : List Move) :
    follow h (moves ++ moves') = follow (follow h moves) moves' := List.foldl_append

theorem follow_concat (h : Hall) (moves : List Move) (m : Move) :
    h.follow (moves ++ [m]) = (h.follow moves).after m := follow_append h moves [m]

/-- The message that an active session reads in a move, with its role. -/
def heard? (h : Hall) : Move → Option (SessionId × Role × Uplink)
  | .read s => do
    let x ← h.sessions.get? s
    let (inbound, _) ← x.inbound? h.conductor.settings.maxFrameSize.toNat
    match inbound, x.stage with
    | .ok m, .active role => some (s, role, m)
    | _, _ => none
  | _ => none

/-- The name and the address that a session reads in a move as it waits for them. -/
def greeted? (h : Hall) : Move → Option (SessionId × String × Address)
  | .read s => do
    let x ← h.sessions.get? s
    let (inbound, _) ← x.inbound? h.conductor.settings.maxFrameSize.toNat
    match inbound, x.stage with
    | .ok (.hello name address), .awaitingHello _ => some (s, name, address)
    | _, _ => none
  | _ => none

/-- The operation that a message of an active player asks for. A second greeting asks for none. -/
def operation (s : SessionId) (role : Role) : Uplink → Operation
  | .hello .. => .tick 0
  | .enterBarrier name _ claimed => .enterBarrier role name claimed
  | .failBarrier name claimed => .failBarrier role name claimed
  | .getAddress node => .requestAddress s node
  | .addressReply node address => .acknowledge role (.address node address)
  | .done => .acknowledge role .done
  | .commandFailed reason => .acknowledge role (.failed reason)

/-- What asks for an operation in a move: the driver, a message that is read then, or the passing of
time. -/
inductive Source (h : Hall) : Move → Operation → Prop where
  | openBarrier (name : String) (roles : List Role) (timeout : Option Span) :
      Source h (.openBarrier name roles timeout) (.openBarrier name roles timeout)
  | issue (cmd : Command) : Source h (.issue cmd) (.issue cmd)
  | cancelCommand (node : Role) (id : Nat) (after : Span) :
      Source h (.cancelCommand node id after) (.cancelCommand node id after)
  | remove (node : Role) : Source h (.remove node) (.remove node)
  | shutdown : Source h .shutdown .shutdown
  | heard {m : Move} {s : SessionId} {role : Role} {u : Uplink}
      (heard : h.heard? m = some (s, role, u)) : Source h m (operation s role u)
  | lateTimer (epoch : Epoch) : Source h (.lateTimer epoch) (.barrierTimeout epoch)
  | fireTimer (epoch : Epoch) : Source h .fireTimer (.barrierTimeout epoch)
  | tick (m : Move) (nanoseconds : Nat) : Source h m (.tick nanoseconds)

theorem Source.plain {m : Move} {op : Operation} (hs : Source h m op) : op.isPlain = true := by
  cases hs with
  | @heard m s role u => cases u <;> rfl
  | _ => rfl

/-! ## Stages -/

/-- The stage of a session. -/
def stage? (h : Hall) (s : SessionId) : Option Stage := (h.sessions.get? s).map (·.stage)

theorem stage?_adjustSession (h : Hall) (s s' : SessionId) (f : Session → Session) :
    (h.adjustSession s' f).stage? s =
      if s = s' then (h.sessions.get? s).map fun x => (f x).stage else h.stage? s := by
  unfold stage? adjustSession
  rw [Table.get?_adjust]
  by_cases hs : s = s'
  · rw [if_pos hs, if_pos hs, hs, Option.map_map]
    rfl
  · rw [if_neg hs, if_neg hs]

@[simp] theorem stage?_shutLine (h : Hall) (s s' : SessionId) :
    (h.shutLine s').stage? s = h.stage? s := rfl

/-- What is done to a session besides its stage. -/
theorem stage?_adjustSession_of_same (h : Hall) (s s' : SessionId) (f : Session → Session)
    (hf : ∀ x, h.sessions.get? s' = some x → (f x).stage = x.stage) :
    (h.adjustSession s' f).stage? s = h.stage? s := by
  rw [stage?_adjustSession]
  split
  · next hs =>
    subst hs
    unfold stage?
    cases hx : h.sessions.get? s with
    | none => rfl
    | some x => rw [Option.map_some, Option.map_some, hf x hx]
  · rfl

/-! ## What a move changes -/

/-- The session runs, and this is its role if it has one. -/
def Runs (h : Hall) (s : SessionId) (role : Option Role) : Prop :=
  (role = none ∧ ∃ due, h.stage? s = some (.awaitingHello due)) ∨
    ∃ r, role = some r ∧ h.stage? s = some (.active r)

/-- Which operation of the conductor a move is, and what it does to the stages of sessions. -/
inductive Shift (h : Hall) (m : Move) (h' : Hall) : Prop where
  /-- Nothing happens to a session. -/
  | works {c₁ : Conductor} {op : Operation} (source : Source h m op)
      (before : Quiet m.taker? h.conductor c₁) (behind : Quiet m.taker? (c₁.after op) h'.conductor)
      (stages : ∀ s, h'.stage? s = h.stage? s) (next : h'.nextSession = h.nextSession)
      (opens : ∀ s, (h.conductor.line s).isOpen = true → (h'.conductor.line s).isOpen = true)
  /-- A connection is taken in. -/
  | attaches {c₁ : Conductor} (arrival : m.isArrival = true)
      (before : Quiet m.taker? h.conductor c₁)
      (conductor : h'.conductor = c₁.attach h.nextSession)
      (stage : ∃ due, h'.stage? h.nextSession = some (.awaitingHello due))
      (others : ∀ s, s ≠ h.nextSession → h'.stage? s = h.stage? s)
      (next : h'.nextSession = h.nextSession + 1)
      (opens : ∀ s, (h.conductor.line s).isOpen = true → (c₁.line s).isOpen = true)
  /-- A session is bound to the role that its player names. -/
  | registers {s : SessionId} {name : String} {address : Address} {role : Role}
      (waits : ∃ due, h.stage? s = some (.awaitingHello due))
      (conductor : h'.conductor = (h.conductor.handshake s name address).1)
      (accepted : (h.conductor.handshake s name address).2 = .ok role)
      (stage : h'.stage? s = some (.active role))
      (others : ∀ s', s' ≠ s → h'.stage? s' = h.stage? s')
      (next : h'.nextSession = h.nextSession)
      (greeted : h.greeted? m = some (s, name, address))
  /-- A session ends and gives up what it held. -/
  | concludes {s : SessionId} {role : Option Role} {c₁ : Conductor} (runs : h.Runs s role)
      (before : Quiet m.taker? h.conductor c₁)
      (behind : Quiet m.taker? (c₁.after (.sessionClosed s role)) h'.conductor)
      (stage : ∃ result, h'.stage? s = some (.ended result))
      (others : ∀ s', s' ≠ s → h'.stage? s' = h.stage? s')
      (shut : (h'.conductor.line s).isOpen = false) (next : h'.nextSession = h.nextSession)
      (opens : ∀ s', s' ≠ s → (h.conductor.line s').isOpen = true →
        (h'.conductor.line s').isOpen = true)
      (doer : m.session? = some s)
  /-- A session is stopped and gives nothing up. -/
  | kills {s : SessionId} {role : Option Role} (runs : h.Runs s role)
      (quiet : Quiet m.taker? h.conductor h'.conductor)
      (stage : h'.stage? s = some .killed)
      (others : ∀ s', s' ≠ s → h'.stage? s' = h.stage? s')
      (shut : (h'.conductor.line s).isOpen = false) (next : h'.nextSession = h.nextSession)
      (opens : ∀ s', s' ≠ s → (h.conductor.line s').isOpen = true →
        (h'.conductor.line s').isOpen = true)

variable {m : Move}

/-- A move that is only an operation of the conductor. -/
theorem Shift.of_operation {op : Operation} (hs : Source h m op) :
    Shift h m (h.withConductor (h.conductor.after op)) :=
  .works hs (.refl _) (.refl _) (fun _ => rfl) rfl fun s hopen =>
    (isOpen_after h.conductor op (Operation.tends?_of_plain hs.plain s)).trans hopen

/-- A move of which no barrier takes notice. -/
theorem Shift.of_quiet (hq : Quiet m.taker? h.conductor h'.conductor)
    (hs : ∀ s, h'.stage? s = h.stage? s) (hn : h'.nextSession = h.nextSession)
    (ho : ∀ s, (h.conductor.line s).isOpen = true → (h'.conductor.line s).isOpen = true) :
    Shift h m h' := by
  -- it is the operation of letting no time pass
  have htick : Quiet m.taker? (h.conductor.after (.tick 0)) h'.conductor := hq
  exact .works (.tick m 0) (.refl _) htick hs hn ho

theorem Shift.refl (h : Hall) (m : Move) : Shift h m h :=
  .of_quiet (.refl _) (fun _ => rfl) rfl fun _ hopen => hopen

theorem role?_of_runs {role : Option Role} (h : h'.Runs s role) :
    (h'.sessions.get? s).bind Session.role? = role := by
  unfold Runs stage? at h
  rcases h with ⟨rfl, due, hx⟩ | ⟨r, rfl, hx⟩
  · obtain ⟨x, hx, hstage⟩ := Option.map_eq_some_iff.mp hx
    simp [hx, Session.role?, hstage]
  · obtain ⟨x, hx, hstage⟩ := Option.map_eq_some_iff.mp hx
    simp [hx, Session.role?, hstage]

theorem Runs.exists_session {role : Option Role} (h : h'.Runs s role) :
    ∃ x, h'.sessions.get? s = some x := by
  rcases h with ⟨-, due, hx⟩ | ⟨r, -, hx⟩
  · exact ⟨_, (Option.map_eq_some_iff.mp hx).choose_spec.1⟩
  · exact ⟨_, (Option.map_eq_some_iff.mp hx).choose_spec.1⟩

/-- What `conclude` does: an error is counted, the session gives up its role, and its line is
shut. -/
theorem conclude_eq (h : Hall) (s : SessionId) (result : Except SessionError Unit) :
    ∃ f : Tally → Tally, (∀ t : Tally, (f t).accounts = t.accounts) ∧
      (h.conclude s result) = (({ h with
      conductor := { h.conductor with tally := f h.conductor.tally }.sessionClosed s
        ((h.sessions.get? s).bind Session.role?) } : Hall).adjustSession s
          fun x => { x with stage := .ended result }).shutLine s := by
  cases result with
  | ok u => exact ⟨id, fun _ => rfl, rfl⟩
  | error e =>
    exact ⟨fun t => { t with protocolErrors := t.protocolErrors + 1 }, fun _ => rfl, rfl⟩

/-- A session ends, after what no barrier takes notice of. -/
theorem shift_conclude (h₁ : Hall) {role : Option Role} (result : Except SessionError Unit)
    (hr : h.Runs s role) (hq : Quiet m.taker? h.conductor h₁.conductor)
    (hs : ∀ s, h₁.stage? s = h.stage? s) (hn : h₁.nextSession = h.nextSession)
    (ho : ∀ s, (h.conductor.line s).isOpen = true → (h₁.conductor.line s).isOpen = true)
    (hd : m.session? = some s) : Shift h m (h₁.conclude s result) := by
  have hr₁ : h₁.Runs s role := by
    unfold Runs
    rw [hs]
    exact hr
  obtain ⟨x, hx⟩ := hr₁.exists_session
  obtain ⟨f, hf, heq⟩ := conclude_eq h₁ s result
  rw [role?_of_runs hr₁] at heq
  rw [heq]
  refine .concludes hr (hq.trans (quiet_count _ f hf)) (quiet_shut _ s) ⟨result, ?_⟩ ?_ ?_ hn ?_ hd
  · rw [stage?_shutLine, stage?_adjustSession, if_pos rfl, hx]
    rfl
  · intro s' hne
    rw [stage?_shutLine, stage?_adjustSession, if_neg hne]
    exact hs s'
  · refine (congrArg Line.isOpen (line_shut _ s s)).trans ?_
    rw [if_pos rfl]
    rfl
  · intro s' hne hopen
    refine (congrArg Line.isOpen (line_shut _ s' s)).trans ?_
    rw [if_neg hne]
    exact (isOpen_after _ (.sessionClosed s role) nofun).trans (ho s' hopen)

theorem stage?_connect (h : Hall) (s : SessionId) :
    h.connect.2.stage? s = if s = h.nextSession
      then some (.awaitingHello (timerDue h.conductor.clock h.conductor.settings.helloTimeout))
      else h.stage? s := by
  unfold stage? connect
  dsimp only
  rw [Table.get?_put]
  split <;> rfl

/-- A connection is taken in, perhaps counted before. -/
theorem shift_connect {h₁ : Hall} (hm : m.isArrival = true)
    (hq : Quiet m.taker? h.conductor h₁.conductor)
    (hs : h₁.sessions = h.sessions) (hn : h₁.nextSession = h.nextSession)
    (ho : ∀ s, (h.conductor.line s).isOpen = true → (h₁.conductor.line s).isOpen = true) :
    Shift h m h₁.connect.2 := by
  have hstages : ∀ s, h₁.stage? s = h.stage? s := fun s => by rw [stage?, hs, ← stage?]
  refine .attaches hm hq (by rw [← hn]; rfl) ?_ ?_ (by rw [← hn]; rfl) ho
  · rw [← hn, stage?_connect, if_pos rfl]
    exact ⟨_, rfl⟩
  · intro s hne
    rw [stage?_connect, hn, if_neg hne, hstages]

theorem shift_accept (h : Hall) : Shift h .accept h.accept.2 := by
  unfold accept
  dsimp only
  split
  · exact .of_quiet (quiet_count h.conductor
      (fun t => { t with rejectedConnections := t.rejectedConnections + 1 }) fun _ => rfl)
      (fun _ => rfl) rfl fun _ hopen => hopen
  · exact shift_connect rfl (quiet_count h.conductor
      (fun t => { t with connections := t.connections + 1 }) fun _ => rfl) rfl rfl
      fun _ hopen => hopen

theorem runs_of_live {x : Session} (hx : h.sessions.get? s = some x) (hl : x.isLive = true) :
    h.Runs s x.role? := by
  unfold Runs stage?
  rw [hx]
  unfold Session.isLive at hl
  unfold Session.role?
  cases hst : x.stage with
  | awaitingHello due => exact Or.inl ⟨rfl, due, congrArg some hst⟩
  | active r => exact Or.inr ⟨r, rfl, congrArg some hst⟩
  | ended result =>
    rw [hst] at hl
    cases hl
  | killed =>
    rw [hst] at hl
    cases hl

theorem shift_kill (h : Hall) (s : SessionId) (m : Move) : Shift h m (h.kill s) := by
  unfold kill
  split
  · next x hx =>
    split
    · next hl =>
      refine .kills (runs_of_live hx hl) (quiet_shut h.conductor s) ?_ ?_ ?_ rfl ?_
      · rw [stage?_shutLine, stage?_adjustSession, if_pos rfl, hx]
        rfl
      · intro s' hne
        rw [stage?_shutLine, stage?_adjustSession, if_neg hne]
      · refine (congrArg Line.isOpen (line_shut _ s s)).trans ?_
        rw [if_pos rfl]
        rfl
      · intro s' hne hopen
        refine (congrArg Line.isOpen (line_shut _ s' s)).trans ?_
        rw [if_neg hne]
        exact hopen
    · exact .refl h m
  · exact .refl h m

/-! ## What sessions and the timer do -/

theorem shift_expireHello (h : Hall) (s : SessionId) :
    Shift h (.expireHello s) ((h.expireHello? s).getD h) := by
  unfold expireHello?
  cases hx : h.sessions.get? s with
  | none => exact .refl h _
  | some x =>
    rw [Option.bind_eq_bind, Option.bind_some]
    cases hst : x.stage with
    | awaitingHello due =>
      dsimp only
      split
      · rw [Option.getD_some]
        have hr := runs_of_live hx (by rw [Session.isLive, hst])
        exact shift_conclude h _ hr (.refl _) (fun _ => rfl) rfl (fun _ hopen => hopen) rfl
      · exact .refl h _
    | active | ended | killed => exact .refl h _

theorem shift_fireTimer (h : Hall) : Shift h .fireTimer (h.fireTimer?.getD h) := by
  unfold fireTimer?
  cases h.conductor.timer with
  | none => exact .refl h _
  | some alarm =>
    rw [Option.bind_eq_bind, Option.bind_some]
    split
    · rw [Option.getD_some]
      exact .of_operation (.fireTimer alarm.epoch)
    · rw [Option.getD_none]
      exact .refl h _

/-! ## Writing -/

/-- Takes the next item off the line of a session. -/
def takeItem (h : Hall) (s : SessionId) : Hall :=
  h.withConductor { h.conductor with lines := h.conductor.lines.adjust s Line.advance }

/-- What a session does that is to write. -/
inductive Writing (h : Hall) (s : SessionId) : Hall → Prop where
  | rests : Writing h s h
  | closes {x : Session} (session : h.sessions.get? s = some x) (live : x.isLive = true)
      (item : (h.conductor.line s).next? = some .close) :
      Writing h s ((h.takeItem s).conclude s (.ok ()))
  | breaks {x : Session} {d : Downlink} {e : WireError} (session : h.sessions.get? s = some x)
      (live : x.isLive = true) (item : (h.conductor.line s).next? = some (.message d)) :
      Writing h s ((h.takeItem s).conclude s (.error (.wire e)))
  | writes {x x' : Session} {d : Downlink} (session : h.sessions.get? s = some x)
      (live : x.isLive = true) (item : (h.conductor.line s).next? = some (.message d))
      (written : writeMessage x d = .ok x') :
      Writing h s ((h.takeItem s).adjustSession s fun _ => x')

theorem writing (h : Hall) (s : SessionId) : Writing h s ((h.takeOutbound? s).getD h) := by
  unfold takeOutbound?
  cases hx : h.sessions.get? s with
  | none => exact .rests
  | some x =>
    rw [Option.bind_eq_bind, Option.bind_some]
    cases hl : x.isLive with
    | false => exact .rests
    | true =>
      simp only [Bool.not_true, Bool.false_eq_true, if_false]
      cases hi : (h.conductor.line s).next? with
      | none => exact .rests
      | some item =>
        rw [Option.bind_eq_bind, Option.bind_some]
        cases item with
        | close => exact .closes hx hl hi
        | message d =>
          dsimp only
          cases hw : writeMessage x d with
          | error e => exact .breaks hx hl hi
          | ok x' => exact .writes hx hl hi hw

/-- Writing a message changes what was written, and not the stage. -/
theorem writeMessage_ok {x x' : Session} {d : Downlink} (h : writeMessage x d = .ok x') :
    x' = { x with written := x.written ++ [d] } := by
  unfold writeMessage at h
  split at h
  · cases h
  · split at h
    · cases h
    · cases h
      rfl

theorem shift_write (h : Hall) (s : SessionId) :
    Shift h (.write s) ((h.takeOutbound? s).getD h) := by
  have hq : Quiet (Move.write s).taker? h.conductor (h.takeItem s).conductor :=
    quiet_take h.conductor s
  have hopens : ∀ s', (h.conductor.line s').isOpen = true →
      ((h.takeItem s).conductor.line s').isOpen = true := fun s' hopen =>
    (line_take h.conductor s' s).2.1.trans hopen
  have hwriting := writing h s
  generalize (h.takeOutbound? s).getD h = h' at hwriting ⊢
  cases hwriting with
  | rests => exact .refl h _
  | closes hx hl _ =>
    exact shift_conclude (h.takeItem s) _ (runs_of_live hx hl) hq (fun _ => rfl) rfl hopens rfl
  | breaks hx hl _ =>
    exact shift_conclude (h.takeItem s) _ (runs_of_live hx hl) hq (fun _ => rfl) rfl hopens rfl
  | @writes x x' d hx hl _ hw =>
    refine .of_quiet hq ?_ rfl hopens
    intro s'
    refine stage?_adjustSession_of_same (h.takeItem s) s' s (fun _ => x') fun y hy => ?_
    have hxy : some y = some x := hy.symm.trans hx
    rw [Option.some.inj hxy, writeMessage_ok hw]

/-! ## Reading -/

/-- What a session does that is to read. -/
inductive Reading (h : Hall) (s : SessionId) : Hall → Prop where
  | rests : Reading h s h
  | ends {x x' : Session} {e : WireError} {result : Except SessionError Unit}
      (session : h.sessions.get? s = some x) (live : x.isLive = true)
      (inbound : x.inbound? h.conductor.settings.maxFrameSize.toNat = some (.error e, x')) :
      Reading h s ((h.adjustSession s fun _ => x').conclude s result)
  | hears {x x' : Session} {m : Uplink} {role : Role} (session : h.sessions.get? s = some x)
      (active : x.stage = .active role)
      (inbound : x.inbound? h.conductor.settings.maxFrameSize.toNat = some (.ok m, x')) :
      Reading h s ((h.adjustSession s fun _ => x').handle s role m)
  | greets {x x' : Session} {m : Uplink} {due : Nat} (session : h.sessions.get? s = some x)
      (waits : x.stage = .awaitingHello due)
      (inbound : x.inbound? h.conductor.settings.maxFrameSize.toNat = some (.ok m, x')) :
      Reading h s ((h.adjustSession s fun _ => x').greet s m)

theorem reading (h : Hall) (s : SessionId) : Reading h s ((h.takeInbound? s).getD h) := by
  unfold takeInbound?
  cases hx : h.sessions.get? s with
  | none => exact .rests
  | some x =>
    rw [Option.bind_eq_bind, Option.bind_some]
    cases hl : x.isLive with
    | false => exact .rests
    | true =>
      simp only [Bool.not_true, Bool.false_eq_true, if_false]
      cases hi : x.inbound? h.conductor.settings.maxFrameSize.toNat with
      | none => exact .rests
      | some p =>
        rw [Option.bind_eq_bind, Option.bind_some]
        obtain ⟨inbound, x'⟩ := p
        dsimp only
        split
        · rw [Option.getD_some]
          exact .ends hx hl hi
        · rw [Option.getD_some]
          exact .ends hx hl hi
        · next hst => exact .hears hx hst hi
        · next hna =>
          cases hst : x.stage with
          | awaitingHello due => exact .greets hx hst hi
          | active role => exact absurd hst (hna role)
          | ended result =>
            rw [Session.isLive, hst] at hl
            cases hl
          | killed =>
            rw [Session.isLive, hst] at hl
            cases hl

/-- What is read changes what has arrived, and not the stage. -/
theorem inbound?_some {x x' : Session} {limit : Nat} {r : Except WireError Uplink}
    (h : x.inbound? limit = some (r, x')) :
    ∃ frame rest, Frame.next? limit x.peerGone x.arrived = some (frame, rest) ∧
      r = frame.bind Uplink.ofBody ∧ x' = { x with arrived := rest } := by
  obtain ⟨⟨frame, rest⟩, hn, he⟩ := Option.map_eq_some_iff.mp h
  cases he
  exact ⟨frame, rest, hn, rfl, rfl⟩

/-- The hall behind the reading of a frame. -/
theorem stage?_of_inbound {x x' : Session} {limit : Nat} {r : Except WireError Uplink}
    (hx : h.sessions.get? s = some x) (hi : x.inbound? limit = some (r, x')) (s' : SessionId) :
    (h.adjustSession s fun _ => x').stage? s' = h.stage? s' := by
  obtain ⟨frame, rest, -, -, rfl⟩ := inbound?_some hi
  refine stage?_adjustSession_of_same h s' s _ fun y hy => ?_
  have hxy : some y = some x := hy.symm.trans hx
  rw [Option.some.inj hxy]

theorem perform_fst (c : Conductor) (s : SessionId) (role : Role) (u : Uplink) :
    (perform c s role u).1 = c.after (operation s role u) := by
  cases u <;> rfl

/-- A message that is refused changes nothing. -/
theorem perform_error (c : Conductor) (s : SessionId) (role : Role) (u : Uplink)
    {e : SessionError} (h : (perform c s role u).2 = .error e) : (perform c s role u).1 = c := by
  cases u with
  | hello => rfl
  | enterBarrier name timeout claimed => exact enterBarrier_error c role name claimed h
  | failBarrier name claimed => exact failBarrier_error c role name claimed h
  | getAddress node => cases h
  | addressReply | done | commandFailed => exact acknowledge_error c role _ h

theorem heard?_read {x x' : Session} {u : Uplink} {role : Role} (hx : h.sessions.get? s = some x)
    (hst : x.stage = .active role)
    (hi : x.inbound? h.conductor.settings.maxFrameSize.toNat = some (.ok u, x')) :
    h.heard? (.read s) = some (s, role, u) := by
  simp only [heard?, hx, hi, hst, Option.bind_eq_bind, Option.bind_some]

theorem heard?_some {role : Role} {u : Uplink} (hh : h.heard? m = some (s, role, u)) :
    m = .read s ∧ ∃ x x', h.sessions.get? s = some x ∧ x.stage = .active role ∧
      x.inbound? h.conductor.settings.maxFrameSize.toNat = some (.ok u, x') := by
  cases m with
  | read s' =>
    obtain ⟨x, hx, hh⟩ := Option.bind_eq_some_iff.mp hh
    obtain ⟨⟨inbound, x'⟩, hi, hh⟩ := Option.bind_eq_some_iff.mp hh
    dsimp only at hh
    split at hh
    · next hstage =>
      cases hh
      exact ⟨rfl, x, x', hx, hstage, hi⟩
    · cases hh
  | _ => cases hh

/-- What an active session reads is handled in the move in which it is heard. -/
theorem after_of_heard {role : Role} {u : Uplink} (hh : h.heard? m = some (s, role, u)) :
    ∃ x x', h.sessions.get? s = some x ∧ x.stage = .active role ∧
      x.inbound? h.conductor.settings.maxFrameSize.toNat = some (.ok u, x') ∧
      h.after m = (h.adjustSession s fun _ => x').handle s role u := by
  obtain ⟨rfl, x, x', hx, hst, hi⟩ := heard?_some hh
  refine ⟨x, x', hx, hst, hi, ?_⟩
  have hlive : x.isLive = true := by rw [Session.isLive, hst]
  have hread : h.takeInbound? s = some ((h.adjustSession s fun _ => x').handle s role u) := by
    simp [takeInbound?, hx, hlive, hi, hst]
  show (h.takeInbound? s).getD h = _
  rw [hread, Option.getD_some]

theorem shift_handle {x x' : Session} {u : Uplink} {role : Role}
    (hx : h.sessions.get? s = some x) (hst : x.stage = .active role)
    (hi : x.inbound? h.conductor.settings.maxFrameSize.toNat = some (.ok u, x')) :
    Shift h (.read s) ((h.adjustSession s fun _ => x').handle s role u) := by
  have hstages := stage?_of_inbound hx hi
  have hruns : h.Runs s (some role) := Or.inr ⟨role, rfl, by rw [stage?, hx, Option.map_some, hst]⟩
  have hfst := perform_fst h.conductor s role u
  have herror := fun e => perform_error h.conductor s role u (e := e)
  have hcond : (h.adjustSession s fun _ => x').conductor = h.conductor := rfl
  unfold handle
  rw [hcond]
  -- what counts is the operation that was performed, and that nothing was if it was refused
  generalize perform h.conductor s role u = p at hfst herror ⊢
  obtain ⟨c', r⟩ := p
  cases r with
  | ok u' =>
    obtain rfl : c' = h.conductor.after (operation s role u) := hfst
    have hsource := Source.heard (heard?_read hx hst hi)
    exact .works hsource (.refl _) (.refl _) hstages rfl fun s' hopen =>
      (isOpen_after _ _ (Operation.tends?_of_plain hsource.plain s')).trans hopen
  | error e =>
    obtain rfl : c' = h.conductor := herror e rfl
    dsimp only
    split
    · exact shift_conclude (h.adjustSession s fun _ => x') _ hruns (.refl _) hstages rfl
        (fun _ hopen => hopen) rfl
    · exact .of_quiet (quiet_count _ (fun t => { t with protocolErrors := t.protocolErrors + 1 })
        fun _ => rfl) hstages rfl fun _ hopen => hopen

theorem greet_hello (h : Hall) (s : SessionId) (name : String) (address : Address) :
    h.greet s (.hello name address) = match h.conductor.handshake s name address with
      | (c, .ok role) =>
        (h.withConductor c).adjustSession s fun x => { x with stage := .active role }
      | (c, .error e) => (h.withConductor c).conclude s (.error e) := rfl

theorem greeted?_read {x x' : Session} {due : Nat} {name : String} {address : Address}
    (hx : h.sessions.get? s = some x) (hst : x.stage = .awaitingHello due)
    (hi : x.inbound? h.conductor.settings.maxFrameSize.toNat =
      some (.ok (.hello name address), x')) :
    h.greeted? (.read s) = some (s, name, address) := by
  simp only [greeted?, hx, hi, hst, Option.bind_eq_bind, Option.bind_some]

theorem greeted?_some {name : String} {address : Address}
    (hg : h.greeted? m = some (s, name, address)) :
    m = .read s ∧ ∃ x x' due, h.sessions.get? s = some x ∧ x.stage = .awaitingHello due ∧
      x.inbound? h.conductor.settings.maxFrameSize.toNat =
        some (.ok (.hello name address), x') := by
  cases m with
  | read s' =>
    obtain ⟨x, hx, hg⟩ := Option.bind_eq_some_iff.mp hg
    obtain ⟨⟨inbound, x'⟩, hi, hg⟩ := Option.bind_eq_some_iff.mp hg
    dsimp only at hg
    split at hg
    · next hstage =>
      cases hg
      exact ⟨rfl, x, x', _, hx, hstage, hi⟩
    · cases hg
  | _ => cases hg

/-- The hall behind a greeting that is accepted. -/
theorem after_of_accepted {name : String} {address : Address} {role : Role}
    (hg : h.greeted? m = some (s, name, address))
    (hok : (h.conductor.handshake s name address).2 = .ok role) :
    ∃ x', h.after m = ((h.adjustSession s fun _ => x').withConductor
      (h.conductor.handshake s name address).1).adjustSession s
        fun x => { x with stage := .active role } := by
  obtain ⟨rfl, x, x', due, hx, hst, hi⟩ := greeted?_some hg
  refine ⟨x', ?_⟩
  have hlive : x.isLive = true := by rw [Session.isLive, hst]
  have hread : h.takeInbound? s = some ((h.adjustSession s fun _ => x').greet s
      (.hello name address)) := by
    simp [takeInbound?, hx, hlive, hi, hst]
  have hcond : (h.adjustSession s fun _ => x').conductor = h.conductor := rfl
  show (h.takeInbound? s).getD h = _
  rw [hread, Option.getD_some, greet_hello, hcond]
  generalize h.conductor.handshake s name address = p at hok ⊢
  obtain ⟨c, r⟩ := p
  obtain rfl : r = .ok role := hok
  rfl

theorem shift_greet (h₁ : Hall) {due : Nat} (hc : h₁.conductor = h.conductor)
    (hs : ∀ s, h₁.stage? s = h.stage? s) (hn : h₁.nextSession = h.nextSession)
    (hw : h.stage? s = some (.awaitingHello due)) (u : Uplink)
    (hu : ∀ name address, u = .hello name address → h.greeted? m = some (s, name, address))
    (hd : m.session? = some s) : Shift h m (h₁.greet s u) := by
  have hruns : h.Runs s none := Or.inl ⟨rfl, due, hw⟩
  have hquiet : Quiet m.taker? h.conductor h₁.conductor := by
    rw [hc]
    exact .refl _
  have hopens : ∀ s, (h.conductor.line s).isOpen = true → (h₁.conductor.line s).isOpen = true :=
    fun s hopen => hc ▸ hopen
  cases u with
  | hello name address =>
    have herror := fun e => handshake_error h₁.conductor s name address (e := e)
    rw [greet_hello]
    cases hh : h₁.conductor.handshake s name address with
    | mk c' r =>
      rw [hh] at herror
      cases r with
      | ok role =>
        have hw₁ := hw
        rw [← hs] at hw₁
        obtain ⟨x, hx, -⟩ := Option.map_eq_some_iff.mp hw₁
        dsimp only
        refine .registers ⟨due, hw⟩ (by rw [← hc, hh]; rfl) (by rw [← hc, hh]) ?_ ?_ hn
          (hu name address rfl)
        · rw [stage?_adjustSession, if_pos rfl, show (h₁.withConductor c').sessions.get? s = some x
            from hx]
          rfl
        · intro s' hne
          rw [stage?_adjustSession, if_neg hne]
          exact hs s'
      | error e =>
        obtain rfl : c' = h₁.conductor := herror e rfl
        exact shift_conclude h₁ _ hruns hquiet hs hn hopens hd
  | enterBarrier | failBarrier | getAddress | addressReply | done | commandFailed =>
    unfold greet
    exact shift_conclude h₁ _ hruns hquiet hs hn hopens hd

theorem shift_read (h : Hall) (s : SessionId) : Shift h (.read s) ((h.takeInbound? s).getD h) := by
  have hreading := reading h s
  generalize (h.takeInbound? s).getD h = h' at hreading ⊢
  cases hreading with
  | rests => exact .refl h _
  | ends hx hl hi =>
    exact shift_conclude _ _ (runs_of_live hx hl) (.refl _) (stage?_of_inbound hx hi) rfl
      (fun _ hopen => hopen) rfl
  | hears hx hst hi => exact shift_handle hx hst hi
  | @greets x x' u due hx hst hi =>
    have hwaits : h.stage? s = some (.awaitingHello due) := by
      rw [stage?, hx, Option.map_some, hst]
    refine shift_greet (h := h) (h.adjustSession s fun _ => x') rfl (stage?_of_inbound hx hi) rfl
      hwaits u ?_ rfl
    rintro name address rfl
    exact greeted?_read hx hst hi

/-! ## All moves -/

theorem shift (h : Hall) (m : Move) : Shift h m (h.after m) := by
  cases m with
  | connect => exact shift_connect rfl (.refl _) rfl rfl fun _ hopen => hopen
  | accept => exact shift_accept h
  | deliver s bytes =>
    refine .of_quiet (.refl _) ?_ rfl fun _ hopen => hopen
    intro s'
    exact stage?_adjustSession_of_same h s' s _ fun _ _ => rfl
  | hangUp s =>
    refine .of_quiet (.refl _) ?_ rfl fun _ hopen => hopen
    intro s'
    exact stage?_adjustSession_of_same h s' s _ fun _ _ => rfl
  | kill s => exact shift_kill h s _
  | advance nanoseconds => exact .of_operation (.tick _ nanoseconds)
  | openBarrier name roles timeout => exact .of_operation (.openBarrier name roles timeout)
  | issue cmd => exact .of_operation (.issue cmd)
  | cancelCommand node id after => exact .of_operation (.cancelCommand node id after)
  | remove node => exact .of_operation (.remove node)
  | shutdown => exact .of_operation .shutdown
  | lateTimer epoch => exact .of_operation (.lateTimer epoch)
  | expireHello s => exact shift_expireHello h s
  | read s => exact shift_read h s
  | write s => exact shift_write h s
  | fireTimer => exact shift_fireTimer h

/-- Where the operation of a move comes from. -/
inductive Origin (h : Hall) (m : Move) : Operation → Prop where
  | source {op : Operation} (source : Source h m op) : Origin h m op
  | arrival (arrival : m.isArrival = true) : Origin h m (.attach h.nextSession)
  | greeting (s : SessionId) (name : String) (address : Address) :
      Origin h m (.handshake s name address)
  | conclusion (s : SessionId) (role : Option Role) : Origin h m (.sessionClosed s role)

theorem Source.ne_count {op : Operation} (hs : Source h m op) (f : Tally → Tally) :
    op ≠ .count f := by
  cases hs with
  | @heard m s role u => cases u <;> nofun
  | _ => nofun

theorem Origin.ne_count {op : Operation} (ho : Origin h m op) (f : Tally → Tally) :
    op ≠ .count f := by
  cases ho with
  | source hs => exact hs.ne_count f
  | arrival | greeting | conclusion => nofun

/-- Only a new session has its line tended by the operation of a move. -/
theorem Origin.tends {op : Operation} (ho : Origin h m op) (ht : op.tends? = some s) :
    op = .attach s ∧ s = h.nextSession := by
  cases ho with
  | source hs => exact absurd ht (Operation.tends?_of_plain hs.plain s)
  | arrival =>
    obtain rfl := Option.some.inj ht
    exact ⟨rfl, rfl⟩
  | greeting | conclusion => cases ht

/-- A player arrives only by a message that is read then. -/
theorem Origin.enters {role : Role} {name : String} {claimed : Option Role}
    (ho : Origin h m (.enterBarrier role name claimed)) :
    ∃ s timeout, h.heard? m = some (s, role, .enterBarrier name timeout claimed) := by
  generalize hop : Operation.enterBarrier role name claimed = op at ho
  cases ho with
  | source hs =>
    cases hs with
    | @heard m s role' u hheard =>
      cases u with
      | enterBarrier name' timeout claimed' =>
        cases hop
        exact ⟨s, timeout, hheard⟩
      | _ => cases hop
    | _ => cases hop
  | arrival | greeting | conclusion => cases hop

/-- Whatever a move does to sessions, it is one operation of the conductor, with doings before and
behind it that no barrier notices. -/
theorem operates (h : Hall) (m : Move) : ∃ c₁ op, Quiet m.taker? h.conductor c₁ ∧
    Quiet m.taker? (c₁.after op) (h.after m).conductor ∧ Origin h m op := by
  have hshift := shift h m
  generalize h.after m = h' at hshift ⊢
  cases hshift with
  | works source before behind => exact ⟨_, _, before, behind, .source source⟩
  | attaches arrival before conductor =>
    rw [conductor]
    exact ⟨_, .attach h.nextSession, before, .refl _, .arrival arrival⟩
  | @registers s name address _ _ conductor =>
    rw [conductor]
    exact ⟨_, .handshake s name address, .refl _, .refl _, .greeting s name address⟩
  | @concludes s role c₁ _ before behind =>
    exact ⟨c₁, .sessionClosed s role, before, behind, .conclusion s role⟩
  | kills _ quiet => exact ⟨_, .tick 0, quiet, .refl _, .source (.tick m 0)⟩

end Hall

end Rendezvous
