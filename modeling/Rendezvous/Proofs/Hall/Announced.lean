import Rendezvous.Proofs.Hall.Requests
import Rendezvous.Proofs.Hall.Superseded
import Rendezvous.Proofs.Wire.Cut
import Rendezvous.Proofs.Wire.Sizes

/-!
# What becomes of announced addresses

The address that a player announces is told to others, in answers to their requests and in commands
about links. A message that tells it tells what was announced in a greeting within the limit of the
reader (`Vouched`, `vouched_follow`). The limit of the reader is not the one of the writer, and the
message is longer than the greeting was. With room for the difference no session ends because of
what another player announced (`announced_sendable`); without it a greeting that is accepted can end
the session of whoever waits for the address (`waiting_ended_by_greeting`).
-/

namespace Rendezvous

/-- A name and an address that a player can announce in so many bytes. -/
def Announced (limit : Nat) (name : String) (address : Address) : Prop :=
  name ≠ "" ∧ ∃ body : List UInt8, body.length ≤ limit ∧
    Uplink.ofBody body = .ok (.hello name address)

namespace Downlink

/-- Whether a message tells an address that a player announced. -/
def tellsAddress : Downlink → Bool
  | addressReply .. | throttle .. | disconnect .. => true
  | _ => false

/-- If a message tells an address, a player can have announced it in so many bytes. -/
def Tells (limit : Nat) : Downlink → Prop
  | addressReply node address => Announced limit node.name address
  | throttle target .. | disconnect target _ => ∃ name, Announced limit name target
  | _ => True

theorem tells_of_topic {limit : Nat} {d : Downlink} (ha : d.topic ≠ .address)
    (hc : d.topic ≠ .command) : d.Tells limit := by
  cases d with
  | addressReply => exact absurd rfl ha
  | throttle | disconnect => exact absurd rfl hc
  | _ => trivial

/-- What tells an address is not much longer than what it was announced in. -/
theorem Tells.length_le {limit : Nat} {d : Downlink} (h : d.Tells limit)
    (ht : d.tellsAddress = true) : d.encode.length ≤ limit + 77 := by
  cases d with
  | addressReply node address =>
    obtain ⟨hname, body, hle, hbody⟩ := h
    have hsize := (sizes_of_greeting hname hbody).1
    exact Nat.le_trans hsize (by omega)
  | throttle target direction rate =>
    obtain ⟨name, hname, body, hle, hbody⟩ := h
    have hsize := (sizes_of_greeting hname hbody).2.1 direction rate
    exact Nat.le_trans hsize (by omega)
  | disconnect target abort =>
    obtain ⟨name, hname, body, hle, hbody⟩ := h
    have hsize := (sizes_of_greeting hname hbody).2.2 abort
    exact Nat.le_trans hsize (by omega)
  | _ => cases ht

end Downlink

namespace Conductor

variable {c c' : Conductor} {limit : Nat} {s : SessionId} {op : Operation}

/-! ## What was announced -/

/-- The registered addresses, and those that were told, were announced in so many bytes. -/
structure Vouched (limit : Nat) (c : Conductor) : Prop where
  members : ∀ r b, c.roster.members.get? r = some b → Announced limit r.name b.address
  queued : ∀ s d, .message d ∈ (c.line s).queued → d.Tells limit

theorem Vouched.of_quiet {t : Option SessionId} (h : c.Vouched limit) (hq : Quiet t c c') :
    c'.Vouched limit where
  members r b hb := h.members r b (by rwa [hq.members] at hb)
  queued s d hd := h.queued s d (by rwa [hq.queued] at hd)

theorem Vouched.of_lines (h : c.Vouched limit) (hl : c'.lines = c.lines)
    (hm : ∀ r b, c'.roster.members.get? r = some b → Announced limit r.name b.address) :
    c'.Vouched limit := by
  refine ⟨hm, fun s d hd => h.queued s d ?_⟩
  unfold line at hd ⊢
  rwa [hl] at hd

/-- What is about other things tells no address. -/
theorem Vouched.of_adds {topics : List Topic} (h : c.Vouched limit)
    (hm : ∀ r b, c'.roster.members.get? r = some b → c.roster.members.get? r = some b)
    (hadds : ∀ s, Adds topics c c' s) (ha : .address ∉ topics) (hc : .command ∉ topics) :
    c'.Vouched limit := by
  refine ⟨fun r b hb => h.members r b (hm r b hb), fun s d hd => ?_⟩
  obtain ⟨items, hqueued, htopics⟩ := hadds s
  rw [hqueued] at hd
  rcases List.mem_append.mp hd with hold | hnew
  · exact h.queued s d hold
  · have htopic : d.topic ∈ topics := htopics _ hnew
    exact Downlink.tells_of_topic (fun he => ha (he ▸ htopic)) fun he => hc (he ▸ htopic)

theorem Vouched.post (h : c.Vouched limit) (s : SessionId) {m : Downlink} (hm : m.Tells limit) :
    (c.post s (.message m)).Vouched limit := by
  refine ⟨h.members, fun s' d hd => ?_⟩
  rw [line_post, Line.push] at hd
  split at hd
  · split at hd
    · rcases List.mem_append.mp hd with hold | hnew
      · exact h.queued s' d hold
      · cases List.mem_singleton.mp hnew
        exact hm
    · exact h.queued s' d hd
  · exact h.queued s' d hd

theorem Vouched.reply (h : c.Vouched limit) {xs : List Answer}
    (hx : ∀ x ∈ xs, Announced limit x.node.name x.address) : (c.reply xs).Vouched limit := by
  induction xs generalizing c with
  | nil => exact h
  | cons x rest ih =>
    have hfirst := h.post x.session (m := .addressReply x.node x.address) (hx x List.mem_cons_self)
    exact ih hfirst fun y hy => hx y (List.mem_cons_of_mem x hy)

/-! ## Operations -/

theorem Vouched.attach (h : c.Vouched limit) (s : SessionId) : (c.attach s).Vouched limit := by
  refine ⟨h.members, fun s' d hd => ?_⟩
  rw [line_attach] at hd
  split at hd
  · cases hd
  · exact h.queued s' d hd

theorem Vouched.handshake (h : c.Vouched limit) {name : String} {address : Address} {role : Role}
    (hok : (c.handshake s name address).2 = .ok role) (ha : Announced limit role.name address) :
    (c.handshake s name address).1.Vouched limit := by
  obtain ⟨roster, hmembers, -, heq⟩ := handshake_answers hok
  rw [heq]
  have hnamed : ({ c with
      roster
      tally := { c.tally with handshakes := c.tally.handshakes + 1 } } : Conductor).Vouched
        limit := by
    refine h.of_lines rfl fun r b hb => ?_
    have hb : roster.members.get? r = some b := hb
    rw [hmembers, Table.get?_put] at hb
    split at hb
    · next hr =>
      cases hb
      exact hr ▸ ha
    · exact h.members r b hb
  refine (hnamed.post s (m := .done) trivial).reply fun x hx => ?_
  obtain ⟨t, -, rfl⟩ := List.mem_map.mp hx
  exact ha

theorem Vouched.requestAddress (h : c.Vouched limit) (s : SessionId) (node : Role) :
    (c.requestAddress s node).Vouched limit := by
  cases hbound : c.roster.members.get? node with
  | some b =>
    rw [requestAddress_of_bound hbound]
    refine h.reply fun x hx => ?_
    cases List.mem_singleton.mp hx
    exact h.members node b hbound
  | none =>
    rw [requestAddress_of_free hbound]
    exact h.of_lines rfl h.members

/-- The message of a command tells a registered address, if any. -/
theorem Vouched.wireForm (h : c.Vouched limit) {cmd : Command} {m : Downlink}
    (hw : cmd.wireForm c.resolveTarget = .ok (some m)) : m.Tells limit := by
  have hresolved : ∀ target a, c.resolveTarget target = .ok a → Announced limit target.name a := by
    intro target a ha
    unfold resolveTarget Roster.addressOf at ha
    cases hb : c.roster.members.get? target with
    | none =>
      rw [hb] at ha
      cases ha
    | some b =>
      rw [hb] at ha
      cases ha
      exact h.members target b hb
  cases cmd with
  | throttle node target direction rate =>
    cases ha : c.resolveTarget target with
    | error e =>
      simp only [Command.wireForm, ha] at hw
      cases hw
    | ok a =>
      simp only [Command.wireForm, ha] at hw
      cases hw
      exact ⟨_, hresolved target a ha⟩
  | disconnect node target abort =>
    cases ha : c.resolveTarget target with
    | error e =>
      simp only [Command.wireForm, ha] at hw
      cases hw
    | ok a =>
      simp only [Command.wireForm, ha] at hw
      cases hw
      exact ⟨_, hresolved target a ha⟩
  | terminate | getAddress =>
    cases hw
    trivial
  | remove => cases hw

theorem Vouched.issue (h : c.Vouched limit) (cmd : Command) : (c.issue cmd).1.Vouched limit := by
  have hissuing := issuing c cmd
  generalize c.issue cmd = r at hissuing ⊢
  cases hissuing with
  | removes =>
    exact h.of_adds (fun _ _ => members_remove) (fun s => adds_remove c s cmd.node) (by simp)
      (by simp)
  | refused => exact h
  | @sends member m id ledger kind bound wire =>
    have hrecorded : ({ c with
        ledger
        tally := { c.tally with commandsIssued := c.tally.commandsIssued + 1 } } :
          Conductor).Vouched limit := h.of_lines rfl h.members
    exact hrecorded.post member.handle (h.wireForm wire)
  | undone => exact h.of_lines rfl h.members

/-- Operations that name no role tell no address that was not announced. -/
theorem Vouched.after (h : c.Vouched limit) (hp : op.isPlain = true) :
    (c.after op).Vouched limit := by
  cases op with
  | requestAddress s node => exact h.requestAddress s node
  | issue cmd => exact h.issue cmd
  | attach | handshake | sessionClosed | shut | take => cases hp
  | _ =>
    refine h.of_adds (fun _ _ => members_of_plain hp)
      (fun s => adds_after c _ (Operation.tends?_of_plain hp s)) ?_ ?_ <;>
        simp [Operation.topics]

theorem Vouched.sessionClosed (h : c.Vouched limit) (s : SessionId) (role : Option Role) :
    (c.sessionClosed s role).Vouched limit :=
  h.of_adds (fun _ _ hb => (members_sessionClosed hb).1) (fun s' => adds_sessionClosed c s' s role)
    (by simp) (by simp)

theorem Turn.settings (h : Turn c op c') : c'.settings = c.settings := by
  cases h with
  | rests _ _ desk => exact desk.settings
  | arrives _ _ _ _ _ desk => exact desk.settings
  | opens _ _ _ _ _ _ _ _ _ _ _ _ settings => exact settings
  | ends _ _ _ _ settings => exact settings

end Conductor

open Conductor

namespace Hall

variable {h h' : Hall} {m : Move} {moves : List Move} {s t : SessionId} {role : Role}
  {name : String} {address : Address}

/-! ## Runs -/

theorem settings_after (ho : h.Orderly) (m : Move) :
    (h.after m).conductor.settings = h.conductor.settings := by
  obtain ⟨c₁, op, before, behind, -⟩ := operates h m
  rw [behind.desk.settings, (turn (ho.sound.of_quiet before) op).settings, before.desk.settings]

theorem settings_follow (settings : Settings) (moves : List Move) :
    (follow { conductor := { settings } } moves).conductor.settings = settings := by
  induction moves using List.reverseRecOn with
  | nil => rfl
  | append_singleton moves m ih =>
    rw [follow_concat, settings_after (orderly_follow (orderly_new settings) moves), ih]

theorem name_of_handshake {c : Conductor} (hok : (c.handshake s name address).2 = .ok role) :
    name ≠ "" := by
  rintro rfl
  cases hok

/-- A greeting that is accepted was read from a frame within the limit. -/
theorem announced_of_greeted (hg : h.greeted? m = some (s, name, address))
    (hok : (h.conductor.handshake s name address).2 = .ok role) :
    Announced h.conductor.settings.maxFrameSize.toNat role.name address := by
  obtain ⟨rfl, x, x', due, hx, hst, hi⟩ := greeted?_some hg
  obtain ⟨frame, rest, hn, hr, -⟩ := inbound?_some hi
  obtain rfl := role_of_handshake hok
  refine ⟨name_of_handshake hok, ?_⟩
  cases frame with
  | error e => cases hr
  | ok body =>
    exact ⟨body, Frame.length_le_of_read (Frame.read_of_next? hn), hr.symm⟩

theorem vouched_shift {limit : Nat} (hv : h.conductor.Vouched limit)
    (hl : h.conductor.settings.maxFrameSize.toNat = limit) (hs : Shift h m h') :
    h'.conductor.Vouched limit := by
  cases hs with
  | works source before behind => exact ((hv.of_quiet before).after source.plain).of_quiet behind
  | attaches arrival before conductor =>
    rw [conductor]
    exact (hv.of_quiet before).attach _
  | registers waits conductor accepted stage others next greeted =>
    rw [conductor]
    exact hv.handshake accepted (hl ▸ announced_of_greeted greeted accepted)
  | concludes runs before behind => exact ((hv.of_quiet before).sessionClosed _ _).of_quiet behind
  | kills runs quiet => exact hv.of_quiet quiet

theorem vouched_follow (settings : Settings) (moves : List Move) :
    (follow { conductor := { settings } } moves).conductor.Vouched settings.maxFrameSize.toNat := by
  induction moves using List.reverseRecOn with
  | nil => exact ⟨nofun, nofun⟩
  | append_singleton moves m ih =>
    rw [follow_concat]
    exact vouched_shift ih (by rw [settings_follow]) (Hall.shift _ m)

/-! ## Messages that are too long -/

theorem writeMessage_eq (x : Session) (d : Downlink) :
    writeMessage x d = if d.encode.length ≤ Frame.maxSize
      then if x.peerGone then .error .brokenPipe else .ok { x with written := x.written ++ [d] }
      else .error (.frameTooLarge d.encode.length Frame.maxSize) := by
  unfold writeMessage Frame.write
  by_cases hd : d.encode.length ≤ Frame.maxSize
  · rw [if_pos hd, if_pos hd]
  · rw [if_neg hd, if_neg hd]

theorem not_isSendable_of_writeMessage {x : Session} {d : Downlink} {size bound : Nat}
    (hw : writeMessage x d = .error (.frameTooLarge size bound)) : ¬d.IsSendable := by
  intro hd
  have hle : d.encode.length ≤ Frame.maxSize := hd
  rw [writeMessage_eq, if_pos hle] at hw
  split at hw <;> cases hw

/-- The session behind an item that it takes. -/
theorem stage?_write {x : Session} (hx : h.sessions.get? s = some x) (hl : x.isLive = true) :
    (h.after (.write s)).stage? s = match (h.conductor.line s).next? with
      | none => some x.stage
      | some .close => some (.ended (.ok ()))
      | some (.message d) => match writeMessage x d with
        | .error e => some (.ended (.error (.wire e)))
        | .ok _ => some x.stage := by
  have hx' : (h.takeItem s).sessions.get? s = some x := hx
  have hends : ∀ result, ((h.takeItem s).conclude s result).stage? s = some (.ended result) := by
    intro result
    rw [stage?, get?_conclude, if_pos rfl, hx']
    rfl
  show ((h.takeOutbound? s).getD h).stage? s = _
  cases hi : (h.conductor.line s).next? with
  | none =>
    have htake : h.takeOutbound? s = none := by simp [takeOutbound?, hx, hi]
    rw [htake, Option.getD_none, stage?, hx]
    rfl
  | some item =>
    cases item with
    | close =>
      have htake : h.takeOutbound? s = some ((h.takeItem s).conclude s (.ok ())) := by
        simp [takeOutbound?, hx, hl, hi]
        rfl
      rw [htake, Option.getD_some, hends]
    | message d =>
      dsimp only
      cases hw : writeMessage x d with
      | error e =>
        have htake : h.takeOutbound? s = some ((h.takeItem s).conclude s (.error (.wire e))) := by
          simp [takeOutbound?, hx, hl, hi, hw]
          rfl
        rw [htake, Option.getD_some, hends]
      | ok x' =>
        have htake : h.takeOutbound? s = some ((h.takeItem s).adjustSession s fun _ => x') := by
          simp [takeOutbound?, hx, hl, hi, hw]
          rfl
        rw [htake, Option.getD_some, stage?, get?_adjustSession, if_pos rfl, hx',
          writeMessage_ok hw]
        rfl

/-- A running session that ends over a message which is too long was about to write it. -/
theorem long_of_ended {role : Option Role} {size bound : Nat} (hr : h.Runs s role)
    (he : (h.after (.write s)).stage? s =
      some (.ended (.error (.wire (.frameTooLarge size bound))))) :
    ∃ d, (h.conductor.line s).next? = some (.message d) ∧ ¬d.IsSendable := by
  obtain ⟨x, hx⟩ := hr.exists_session
  have hne : ∀ result, some x.stage ≠ some (.ended result) := by
    intro result
    have hended := hr.stage?_ne_ended result
    rwa [stage?, hx, Option.map_some] at hended
  rw [stage?_write hx (hr.isLive hx)] at he
  cases hi : (h.conductor.line s).next? with
  | none =>
    rw [hi] at he
    exact absurd he (hne _)
  | some item =>
    rw [hi] at he
    cases item with
    | close => cases he
    | message d =>
      dsimp only at he
      cases hw : writeMessage x d with
      | error e =>
        rw [hw] at he
        cases he
        exact ⟨d, rfl, not_isSendable_of_writeMessage hw⟩
      | ok x' =>
        rw [hw] at he
        exact absurd he (hne _)

/-! ## With room for what is added -/

/-- Over every run of a conductor whose readers leave room for what writers add: each answer that
tells an accepted name and address, and each command about a link to that address, can be written;
all messages of these kinds on the lines of sessions can; and if a running session ends over a
message that is too long, it was none of them. -/
theorem announced_sendable (settings : Settings) (moves : List Move)
    (hlimit : settings.maxFrameSize.toNat + 77 ≤ Frame.maxSize) :
    let h := follow { conductor := { settings } } moves
    (∀ m s name address role, h.greeted? m = some (s, name, address) →
      (h.conductor.handshake s name address).2 = .ok role →
      (Downlink.addressReply role address).encode.length ≤ Frame.maxSize ∧
        (∀ direction rate,
          (Downlink.throttle address direction rate).encode.length ≤ Frame.maxSize) ∧
        ∀ abort, (Downlink.disconnect address abort).encode.length ≤ Frame.maxSize) ∧
    (∀ s d, .message d ∈ (h.conductor.line s).queued → d.tellsAddress = true →
      d.encode.length ≤ Frame.maxSize) ∧
    ∀ s role size bound, h.Runs s role →
      (h.after (.write s)).stage? s =
        some (.ended (.error (.wire (.frameTooLarge size bound)))) →
      ∃ d, (h.conductor.line s).next? = some (.message d) ∧ d.tellsAddress = false := by
  intro h
  have hv : h.conductor.Vouched settings.maxFrameSize.toNat := vouched_follow settings moves
  have hsettings : h.conductor.settings = settings := settings_follow settings moves
  have htells : ∀ d : Downlink, d.Tells settings.maxFrameSize.toNat → d.tellsAddress = true →
      d.encode.length ≤ Frame.maxSize := fun d hd ht => Nat.le_trans (hd.length_le ht) hlimit
  have hqueued : ∀ s d, .message d ∈ (h.conductor.line s).queued → d.tellsAddress = true →
      d.encode.length ≤ Frame.maxSize := fun s d hd => htells d (hv.queued s d hd)
  refine ⟨?_, hqueued, ?_⟩
  · intro m s name address role hg hok
    have ha := announced_of_greeted hg hok
    rw [hsettings] at ha
    exact ⟨htells _ ha rfl, fun direction rate => htells _ ⟨_, ha⟩ rfl,
      fun abort => htells _ ⟨_, ha⟩ rfl⟩
  · intro s role size bound hr he
    obtain ⟨d, hi, hlong⟩ := long_of_ended hr he
    refine ⟨d, hi, Bool.eq_false_iff.mpr fun ht => hlong ?_⟩
    exact hqueued s d (List.mem_of_getElem? hi) ht

/-- A session asks for the address of a role, and answers that tell it can be written. -/
theorem announced_sendable_parked :
    let settings : Settings := { maxFrameSize := 65459 }
    let r : Role := ⟨"r"⟩
    let moves : List Move := [
      .connect, .deliver 0 (Frame.ofBody (Uplink.hello "a" default).encode), .read 0,
      .deliver 0 (Frame.ofBody (Uplink.getAddress r).encode), .read 0,
      .connect, .deliver 1 (Frame.ofBody (Uplink.hello "r" default).encode)]
    settings.maxFrameSize.toNat + 77 = Frame.maxSize ∧
      (Downlink.addressReply r default).encode.length ≤ Frame.maxSize ∧
      .message (.addressReply r default) ∈
        ((follow { conductor := { settings } } (moves ++ [.read 1])).conductor.line 0).queued := by
  intro settings r moves
  have hgreets : (follow { conductor := { settings } } moves).greeted? (.read 1) =
      some (1, "r", default) := by decide +kernel
  have haccepted : ((follow { conductor := { settings } } moves).conductor.handshake 1 "r"
      default).2 = .ok r := by decide +kernel
  have hlimit : settings.maxFrameSize.toNat + 77 = Frame.maxSize := by decide
  have hfits := (announced_sendable settings moves (Nat.le_of_eq hlimit)).1 _ _ _ _ _ hgreets
    haccepted
  exact ⟨hlimit, hfits.1, by decide +kernel⟩

/-! ## Without it -/

theorem line_reply {c : Conductor} (hopen : (c.line s).isOpen = true) (xs : List Answer) :
    (c.reply xs).line s = { c.line s with
      queued := (c.line s).queued ++ (xs.filter (·.session = s)).map fun x =>
        .message (.addressReply x.node x.address) } := by
  induction xs generalizing c with
  | nil => simp [reply]
  | cons x rest ih =>
    have hpost := line_post c s x.session (.message (.addressReply x.node x.address))
    show ((c.post x.session (.message (.addressReply x.node x.address))).reply rest).line s = _
    rw [ih (by rw [isOpen_post, hopen]), hpost]
    by_cases hs : s = x.session
    · rw [if_pos hs, Line.push, if_pos hopen]
      simp [hs]
    · rw [if_neg hs, List.filter_cons_of_neg (by simpa using Ne.symm hs)]

/-- A greeting that is accepted changes the stage of no other session. -/
theorem after_of_greeted (hg : h.greeted? (.read s) = some (s, name, address))
    (hok : (h.conductor.handshake s name address).2 = .ok role) :
    (h.after (.read s)).conductor = (h.conductor.handshake s name address).1 ∧
      ∀ t, t ≠ s → (h.after (.read s)).stage? t = h.stage? t := by
  obtain ⟨x', hafter⟩ := after_of_accepted hg hok
  rw [hafter]
  refine ⟨rfl, fun t hne => ?_⟩
  rw [stage?_adjustSession, if_neg hne]
  exact (stage?_adjustSession h t s fun _ => x').trans (if_neg hne)

/-- A greeting that is accepted ends the session of a player that has asked for the address, has
nothing else to be told, and runs, if the answer is too long to be written. -/
theorem waiting_ended_by_greeting {r : Role}
    (hg : h.greeted? (.read s) = some (s, name, address))
    (hok : (h.conductor.handshake s name address).2 = .ok role)
    (hlong : Frame.maxSize < (Downlink.addressReply role address).encode.length)
    (hparked : t ∈ h.conductor.roster.parked role) (hne : t ≠ s)
    (hactive : h.stage? t = some (.active r)) (hopen : (h.conductor.line t).isOpen = true)
    (htaken : (h.conductor.line t).taken = (h.conductor.line t).queued.length) :
    ((h.after (.read s)).after (.write t)).stage? t = some (.ended (.error (.wire
      (.frameTooLarge (Downlink.addressReply role address).encode.length Frame.maxSize)))) := by
  obtain ⟨hcond, hstages⟩ := after_of_greeted hg hok
  obtain ⟨roster, -, -, hanswers⟩ := handshake_answers hok
  have hstage := (hstages t hne).trans hactive
  obtain ⟨x, hx, hst⟩ := Option.map_eq_some_iff.mp hstage
  have hnext : ((h.after (.read s)).conductor.line t).next? =
      some (.message (.addressReply role address)) := by
    rw [hcond, hanswers]
    -- the session is told nothing before it, as it is not the one that registers
    have hline : (({ h.conductor with
        roster
        tally := { h.conductor.tally with handshakes := h.conductor.tally.handshakes + 1 } } :
          Conductor).post s (.message .done)).line t = h.conductor.line t :=
      (line_post _ t s _).trans (if_neg hne)
    have hwaits : t ∈ (h.conductor.roster.parked role).filter (· = t) :=
      List.mem_filter.mpr ⟨hparked, decide_eq_true rfl⟩
    obtain ⟨u, us, hus⟩ := List.exists_cons_of_ne_nil (List.ne_nil_of_mem hwaits)
    rw [line_reply (by rw [hline, hopen]), hline, List.filter_map, Line.next?]
    dsimp only
    rw [htaken, List.getElem?_append_right (Nat.le_refl _), Nat.sub_self]
    show ((((h.conductor.roster.parked role).filter (· = t)).map _).map _)[0]? = _
    rw [hus]
    rfl
  have hsize : ¬(Downlink.addressReply role address).encode.length ≤ Frame.maxSize :=
    Nat.not_le.mpr hlong
  rw [stage?_write hx (by rw [Session.isLive, hst]), hnext]
  dsimp only
  rw [writeMessage_eq, if_neg hsize]

theorem greeted?_of_frame {x : Session} {due : Nat} (hx : h.sessions.get? s = some x)
    (hst : x.stage = .awaitingHello due)
    (harrived : x.arrived = Frame.ofBody (Uplink.hello name address).encode)
    (hlimit : (Uplink.hello name address).encode.length ≤
      h.conductor.settings.maxFrameSize.toNat)
    (hs : (Uplink.hello name address).IsSendable) :
    h.greeted? (.read s) = some (s, name, address) := by
  have hle : (Uplink.hello name address).encode.length ≤ Frame.maxSize := hs
  have hread := Frame.read_ofBody_append hlimit (Nat.lt_of_le_of_lt hle (by decide)) []
  rw [List.append_nil] at hread
  have hnext : Frame.next? h.conductor.settings.maxFrameSize.toNat x.peerGone x.arrived =
      some (.ok (Uplink.hello name address).encode, []) := by
    rw [harrived, Frame.next?, hread]
  have hinbound : x.inbound? h.conductor.settings.maxFrameSize.toNat =
      some (Uplink.ofBody (Uplink.hello name address).encode, { x with arrived := [] }) := by
    rw [Session.inbound?, hnext, Option.map_some]
    simp only [Except.bind]
  rw [Uplink.ofBody_encode hs] at hinbound
  exact greeted?_read hx hst hinbound

theorem handshake_of_free {c : Conductor} (hn : name ≠ "") (hc : c.closing = false)
    (hfree : c.roster.isRegistered ⟨name⟩ = false) (s : SessionId) (address : Address) :
    (c.handshake s name address).2 = .ok ⟨name⟩ := by
  simp [handshake, hn, hc, Roster.register, hfree]

theorem utf8ByteSize_replicate (n : Nat) :
    (String.ofList (List.replicate n 'x')).utf8ByteSize = n := by
  induction n with
  | zero => rfl
  | succ n ih =>
    have hone : "x".utf8ByteSize = 1 := by decide
    simp [List.replicate_succ, String.ofList_cons, ih, hone, Nat.add_comm]

theorem stage?_of_role? {r : Role} (hr : (h.sessions.get? s).bind Session.role? = some r) :
    h.stage? s = some (.active r) := by
  obtain ⟨x, hx, hrole⟩ := Option.bind_eq_some_iff.mp hr
  unfold Session.role? at hrole
  split at hrole
  · next hst =>
    cases hrole
    rw [stage?, hx, Option.map_some, hst]
  · cases hrole

/-- Whoever connects and announces an address that is not too long to be read, but too long to be
told, ends the session of a player that has asked for it. -/
theorem waiting_ended_by_newcomer {r : Role} (hn : name ≠ "")
    (hclosing : h.conductor.closing = false)
    (hfree : h.conductor.roster.isRegistered ⟨name⟩ = false)
    (hlimit : (Uplink.hello name address).encode.length ≤
      h.conductor.settings.maxFrameSize.toNat)
    (hs : (Uplink.hello name address).IsSendable)
    (hlong : Frame.maxSize < (Downlink.addressReply ⟨name⟩ address).encode.length)
    (hparked : t ∈ h.conductor.roster.parked ⟨name⟩) (hne : t ≠ h.nextSession)
    (hactive : h.stage? t = some (.active r)) (hopen : (h.conductor.line t).isOpen = true)
    (htaken : (h.conductor.line t).taken = (h.conductor.line t).queued.length) :
    (h.follow [.connect, .deliver h.nextSession
      (Frame.ofBody (Uplink.hello name address).encode), .read h.nextSession,
      .write t]).stage? t = some (.ended (.error (.wire (.frameTooLarge
        (Downlink.addressReply ⟨name⟩ address).encode.length Frame.maxSize)))) := by
  have hline : (h.conductor.attach h.nextSession).line t = h.conductor.line t := by
    rw [line_attach, if_neg hne]
  let h' := h.connect.2.deliver h.nextSession (Frame.ofBody (Uplink.hello name address).encode)
  have hcond : h'.conductor = h.conductor.attach h.nextSession := rfl
  have hnew : h'.sessions.get? h.nextSession = some
      { stage := .awaitingHello (timerDue h.conductor.clock h.conductor.settings.helloTimeout)
        arrived := Frame.ofBody (Uplink.hello name address).encode } := by
    show (h.connect.2.adjustSession _ _).sessions.get? _ = _
    rw [get?_adjustSession, if_pos rfl, connect]
    dsimp only
    rw [Table.get?_put, if_pos rfl]
    rfl
  have hstage : h'.stage? t = some (.active r) := by
    show (h.connect.2.adjustSession _ _).stage? t = _
    rw [stage?_adjustSession, if_neg hne, stage?_connect, if_neg hne, hactive]
  have hgreets : h'.greeted? (.read h.nextSession) = some (h.nextSession, name, address) :=
    greeted?_of_frame hnew rfl rfl hlimit hs
  have haccepted : (h'.conductor.handshake h.nextSession name address).2 = .ok ⟨name⟩ :=
    handshake_of_free (c := h'.conductor) hn hclosing hfree h.nextSession address
  refine waiting_ended_by_greeting hgreets haccepted hlong hparked hne hstage ?_ ?_
  · show (h'.conductor.line t).isOpen = true
    rw [hcond, hline, hopen]
  · show (h'.conductor.line t).taken = (h'.conductor.line t).queued.length
    rw [hcond, hline, htaken]

/-- With the settings that are the default, a greeting in a frame of the greatest size is accepted,
and its announcement ends the session of a player that has asked for the address. -/
theorem waiting_ended_by_longest_greeting :
    let r : Role := ⟨"r"⟩
    let address : Address := ⟨"akka", String.ofList (List.replicate 65472 'x'), none, none⟩
    let hello := (Uplink.hello "r" address).encode
    let moves : List Move := [
      .connect, .deliver 0 (Frame.ofBody (Uplink.hello "a" default).encode), .read 0, .write 0,
      .deliver 0 (Frame.ofBody (Uplink.getAddress r).encode), .read 0,
      .connect, .deliver 1 (Frame.ofBody hello), .read 1, .write 0]
    hello.length = Frame.maxSize ∧ ({} : Settings).maxFrameSize.toNat = Frame.maxSize ∧
      (follow {} moves).stage? 0 =
        some (.ended (.error (.wire (.frameTooLarge 65543 Frame.maxSize)))) := by
  intro r address hello moves
  have hsystem : textSize address.system = 65475 := by
    show textSize (String.ofList (List.replicate 65472 'x')) = 65475
    rw [textSize, utf8ByteSize_replicate]
    decide
  have haddress : address.size = 65482 := by
    have hrest : textSize "akka" = 5 ∧
        (MessagePack.Value.optional MessagePack.Value.str none).print.length = 1 := by
      decide
    show textSize "akka" + textSize address.system + _ + _ = _
    rw [hsystem, hrest.1]
    rfl
  have hr : textSize "r" = 2 := by decide
  have hhello : hello.length = Frame.maxSize := by
    show (Uplink.hello "r" address).encode.length = 65536
    rw [Uplink.length_hello, hr, haddress]
  have hreply : (Downlink.addressReply r address).encode.length = 65543 := by
    rw [Downlink.length_addressReply, haddress]
    show 59 + textSize "r" + 65482 = 65543
    rw [hr]
  clear_value address
  let first : List Move := [
    .connect, .deliver 0 (Frame.ofBody (Uplink.hello "a" default).encode), .read 0, .write 0,
    .deliver 0 (Frame.ofBody (Uplink.getAddress r).encode), .read 0]
  have hnew : (follow {} first).nextSession = 1 := by decide +kernel
  have hclosing : (follow {} first).conductor.closing = false := by decide +kernel
  have hfree : (follow {} first).conductor.roster.isRegistered r = false := by decide +kernel
  have hparked : 0 ∈ (follow {} first).conductor.roster.parked r := by decide +kernel
  have hrole : ((follow {} first).sessions.get? 0).bind Session.role? = some ⟨"a"⟩ := by
    decide +kernel
  have hopen : ((follow {} first).conductor.line 0).isOpen = true := by decide +kernel
  have htaken : ((follow {} first).conductor.line 0).taken =
      ((follow {} first).conductor.line 0).queued.length := by decide +kernel
  have hlimit : hello.length ≤ (follow {} first).conductor.settings.maxFrameSize.toNat := by
    rw [settings_follow, hhello]
    decide
  have hended := waiting_ended_by_newcomer (by decide) hclosing hfree hlimit (Nat.le_of_eq hhello)
    (by rw [hreply]; decide) hparked (by rw [hnew]; decide) (stage?_of_role? hrole) hopen htaken
  rw [hnew, hreply, ← follow_append] at hended
  exact ⟨hhello, rfl, hended⟩

end Hall

end Rendezvous
