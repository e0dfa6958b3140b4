import Rendezvous.Proofs.Conductor.Bindings
import Rendezvous.Proofs.Conductor.Topics

/-!
# Requests for addresses

A request is answered at once or parked. What an operation does to the parked requests is said of
the list of those who wait for a role (`Roster.parked`): a request for a free role is appended to
it, a registration takes it away and answers all who stand in it in order (`handshake_answers`), the
end of a session takes its requests out (`parked_sessionClosed`), and a shutdown drops all of them.
No other operation touches it (`waiting_after`), and none queues an answer (`Adds.answered`). So only
a session that asks begins to wait (`mem_parked_of_plain`).
-/

namespace Rendezvous

/-- An answer to a session that asked for the address of a node. -/
structure Answer where
  session : SessionId
  node : Role
  address : Address
deriving DecidableEq

/-- The node and the address that an item of a line tells. -/
def Outbound.answer? : Outbound → Option (Role × Address)
  | .message (.addressReply node address) => some (node, address)
  | _ => none

theorem Outbound.answer?_of_topic {o : Outbound} (h : o.topic ≠ .address) : o.answer? = none := by
  cases o with
  | close => rfl
  | message m =>
    cases m with
    | addressReply => exact absurd rfl h
    | _ => rfl

namespace Conductor

variable {c c' : Conductor} {s : SessionId} {op : Operation} {node : Role} {name : String}
  {address : Address} {role : Role}

/-! ## Answers -/

/-- What a session was told of addresses, in order. -/
def answered (c : Conductor) (s : SessionId) : List (Role × Address) :=
  (c.line s).queued.filterMap Outbound.answer?

/-- Queues answers, one after the other. -/
def reply (c : Conductor) (xs : List Answer) : Conductor :=
  xs.foldl (fun c x => c.post x.session (.message (.addressReply x.node x.address))) c

theorem reply_eq (c : Conductor) (xs : List Answer) :
    c.reply xs = { c with lines := (c.reply xs).lines } :=
  foldl_post_eq c Answer.session (fun x => .message (.addressReply x.node x.address)) xs

/-- What answers are told to one session. -/
def toldTo (s : SessionId) (xs : List Answer) : List (Role × Address) :=
  (xs.filter (·.session = s)).map fun x => (x.node, x.address)

theorem answered_reply (c : Conductor) (s : SessionId) (xs : List Answer) :
    (c.reply xs).answered s =
      c.answered s ++ if (c.line s).isOpen = true then toldTo s xs else [] := by
  induction xs generalizing c with
  | nil => simp [reply, toldTo]
  | cons x rest ih =>
    refine (ih (c.post x.session (.message (.addressReply x.node x.address)))).trans ?_
    have hpost := filterMap_post Outbound.answer? c s x.session
      (.message (.addressReply x.node x.address))
    unfold answered
    rw [hpost, isOpen_post]
    cases (c.line s).isOpen with
    | false => simp
    | true =>
      by_cases hs : s = x.session
      · simp [toldTo, hs, Outbound.answer?]
      · simp [toldTo, hs, Ne.symm hs]

theorem isOpen_reply (c : Conductor) (s : SessionId) (xs : List Answer) :
    ((c.reply xs).line s).isOpen = (c.line s).isOpen := by
  induction xs generalizing c with
  | nil => rfl
  | cons x rest ih => exact (ih _).trans (isOpen_post c s x.session _)

/-- What is not about addresses answers nothing. -/
theorem Adds.answered {topics : List Topic} (h : Adds topics c c' s) (ha : .address ∉ topics) :
    c'.answered s = c.answered s :=
  h.filterMap_eq fun _ ho => Outbound.answer?_of_topic fun heq => ha (heq ▸ ho)

theorem Quiet.answered {t : Option SessionId} (h : Quiet t c c') (s : SessionId) :
    c'.answered s = c.answered s := by
  unfold Conductor.answered
  rw [h.queued]

/-! ## Requests -/

theorem requestAddress_of_bound {m : Member SessionId} (h : c.roster.members.get? node = some m) :
    c.requestAddress s node = c.reply [⟨s, node, m.address⟩] := by
  unfold requestAddress Roster.addressOf
  rw [h]
  rfl

theorem requestAddress_of_free (h : c.roster.members.get? node = none) :
    c.requestAddress s node = { c with roster := c.roster.park node s } := by
  unfold requestAddress Roster.addressOf
  rw [h]
  rfl

/-- A player that registers is told `done`, and then those who wait for its address are told it, in
the order in which they wait; behind that nobody waits for the role. -/
theorem handshake_answers (hok : (c.handshake s name address).2 = .ok role) :
    ∃ roster : Roster SessionId,
      roster.members = c.roster.members.put role ⟨address, s⟩ ∧
      roster.waiting = c.roster.waiting.erase role ∧
      (c.handshake s name address).1 = (({ c with
        roster
        tally := { c.tally with handshakes := c.tally.handshakes + 1 } } : Conductor).post s
          (.message .done)).reply ((c.roster.parked role).map (⟨·, role, address⟩)) := by
  have hgreeting := greeting c s name address
  generalize c.handshake s name address = p at hgreeting hok ⊢
  cases hgreeting with
  | refused e => cases hok
  | registers roster waiting free members parked erased =>
    cases hok
    refine ⟨roster, members, erased, ?_⟩
    rw [reply, List.foldl_map, parked]

/-! ## Those who wait -/

theorem waiting_sessionClosed (c : Conductor) (s : SessionId) (role : Option Role) :
    (c.sessionClosed s role).roster.waiting = (c.roster.dropInterest (· = s)).waiting := by
  rw [sessionClosed_eq]

theorem parked_sessionClosed (h : c.roster.waiting.Ordered) (s : SessionId) (role : Option Role)
    (node : Role) :
    (c.sessionClosed s role).roster.parked node = (c.roster.parked node).filter (· ≠ s) := by
  rw [Roster.parked_of_waiting (waiting_sessionClosed c s role), Roster.parked_dropInterest h]
  simp

/-- A shutdown forgets every role and every parked request. -/
theorem roster_shutdown (h : c.closing = false) : c.shutdown.roster = {} := by
  obtain ⟨ledger, tally, verdicts, heq, -⟩ := shutdown_of_open h
  rw [heq, foldl_post_eq _ (fun s => s) fun _ => .close]

/-- Whether an operation can change who waits for a role. -/
def Operation.isOnWaiting : Operation → Bool
  | .handshake .. | .requestAddress .. | .sessionClosed .. | .shutdown => true
  | _ => false

theorem Operation.isOnWaiting_of_plain (hp : op.isPlain = true)
    (hr : ∀ s node, op ≠ .requestAddress s node) (hs : op ≠ .shutdown) :
    op.isOnWaiting = false := by
  cases op with
  | handshake | sessionClosed => cases hp
  | requestAddress s node => exact absurd rfl (hr s node)
  | shutdown => exact absurd rfl hs
  | _ => rfl

theorem Operation.address_notMem_topics (hp : op.isPlain = true)
    (hr : ∀ s node, op ≠ .requestAddress s node) : .address ∉ op.topics := by
  cases op with
  | handshake => cases hp
  | requestAddress s node => exact absurd rfl (hr s node)
  | _ => simp [Operation.topics]

theorem waiting_after (h : op.isOnWaiting = false) :
    (c.after op).roster.waiting = c.roster.waiting := by
  cases op with
  | handshake | requestAddress | sessionClosed | shutdown => cases h
  | openBarrier | enterBarrier | failBarrier | barrierTimeout => rw [(consulted_after rfl).roster]
  | issue cmd => rw [after, issue_eq]
  | acknowledge role ack => rw [after, acknowledge_eq]
  | cancelCommand node id after => rw [Conductor.after, cancelCommand_eq]
  | remove node => rw [after, remove_eq]
  | attach | count | tick | take | shut => rfl

/-- An operation that names no role gives no session a role. -/
theorem binds_of_plain (hp : op.isPlain = true) (hb : (c.after op).roster.binds s role = true) :
    c.roster.binds s role = true := by
  obtain ⟨m, hm, hs⟩ := Roster.binds_eq_true_iff.mp hb
  exact Roster.binds_eq_true_iff.mpr ⟨m, members_of_plain hp hm, hs⟩

/-- Only a session that asks for an address begins to wait for it. -/
theorem mem_parked_of_plain (hp : op.isPlain = true) (hs : s ∈ (c.after op).roster.parked role) :
    s ∈ c.roster.parked role ∨ ∃ node, op = .requestAddress s node := by
  cases op with
  | attach | handshake | sessionClosed | shut | take => cases hp
  | requestAddress s' node =>
    cases hm : c.roster.members.get? node with
    | some m =>
      rw [after, requestAddress_of_bound hm, reply_eq] at hs
      exact Or.inl hs
    | none =>
      rw [after, requestAddress_of_free hm] at hs
      have hpark : s ∈ (c.roster.park node s').parked role := hs
      rw [Roster.parked_park] at hpark
      split at hpark
      · next hr =>
        rcases List.mem_append.mp hpark with hold | hnew
        · exact Or.inl (hr ▸ hold)
        · exact Or.inr ⟨node, by rw [List.mem_singleton.mp hnew]⟩
      · exact Or.inl hpark
  | shutdown =>
    refine Or.inl ?_
    cases hclosing : c.closing with
    | true => rwa [after, show c.shutdown = c from if_pos hclosing] at hs
    | false =>
      rw [after, roster_shutdown hclosing] at hs
      cases hs
  | _ =>
    rw [Roster.parked_of_waiting (waiting_after rfl)] at hs
    exact Or.inl hs

/-- In a sound roster nobody waits for a role that is bound, and every operation keeps this. -/
theorem rosterSound_after (h : c.roster.Sound) (op : Operation) : (c.after op).roster.Sound := by
  -- a binding that is left was there before
  have hkept : ∀ {op : Operation}, (∀ {r b}, (c.after op).roster.members.get? r = some b →
      c.roster.members.get? r = some b) → ∀ r, ((c.after op).roster.members.get? r).isSome →
      (c.roster.members.get? r).isSome := by
    intro op hmembers r hr
    obtain ⟨b, hb⟩ := Option.isSome_iff_exists.mp hr
    rw [hmembers hb]
    rfl
  by_cases hw : op.isOnWaiting = true
  · cases op with
    | handshake s name address =>
      have hrefused := fun e => handshake_error c s name address (e := e)
      cases hok : (c.handshake s name address).2 with
      | error e =>
        rw [after, hrefused e hok]
        exact h
      | ok role =>
        obtain ⟨roster, hmembers, hwaiting, heq⟩ := handshake_answers hok
        rw [after, heq, reply_eq]
        exact h.registered hmembers hwaiting
    | requestAddress s node =>
      cases hm : c.roster.members.get? node with
      | some m =>
        rw [after, requestAddress_of_bound hm]
        exact h
      | none =>
        rw [after, requestAddress_of_free hm]
        exact h.park hm s
    | sessionClosed s role =>
      exact (h.dropInterest (· = s)).of_members (waiting_sessionClosed c s role)
        (hkept fun hb => (members_sessionClosed hb).1)
    | shutdown =>
      cases hclosing : c.closing with
      | true => rwa [after, show c.shutdown = c from if_pos hclosing]
      | false =>
        rw [after, roster_shutdown hclosing]
        exact Roster.sound_new
    | _ => cases hw
  · have hplain := waiting_after (c := c) (Bool.eq_false_iff.mpr hw)
    cases op with
    | handshake | requestAddress | sessionClosed | shutdown => exact absurd rfl hw
    | attach | take | shut => exact h
    | _ => exact h.of_members hplain (hkept (members_of_plain rfl))

end Conductor

end Rendezvous
