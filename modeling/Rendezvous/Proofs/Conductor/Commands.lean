import Rendezvous.Proofs.Conductor.Frames

/-!
# What becomes of commands

For the outstanding commands an operation is one of two dealings (`Deal`, `deal`). It records a
command and queues its message, or it ends outstanding commands, perhaps none: each of those leaves
the ledger, its verdict is delivered, and one counter goes up. What ends a command is its
acknowledgement, the end of the wait for it, or the departure of its node (`Cause`).
-/

namespace Rendezvous

/-- The counters of commands: how many were issued, acknowledged and failed. -/
def Tally.commands (t : Tally) : Nat × Nat × Nat :=
  (t.commandsIssued, t.commandsAcked, t.commandsFailed)

namespace Conductor

/-- The verdict that an acknowledgement stands for. -/
def Ack.verdict (node : Role) (kind : CommandKind) : Ack → Verdict
  | .done => .ok .done
  | .failed reason => .error (.rejected node kind reason)
  | .address _ a => .ok (.address a)

/-- A command that ends, with the node it was for. -/
structure Ended where
  node : Role
  entry : LedgerEntry Unit
  verdict : Verdict

/-- Whether the command was carried out. -/
def Ended.isAcked (x : Ended) : Bool := x.verdict.isOk

/-- What ends a command. -/
inductive Cause (op : Operation) (c' : Conductor) : Ended → Prop where
  | acknowledged {node : Role} {e : LedgerEntry Unit} {ack : Ack}
      (operation : op = .acknowledge node ack) (kind : e.kind.expectedAck = some ack.kind) :
      Cause op c' ⟨node, e, ack.verdict node e.kind⟩
  /-- The one who waited has given up. -/
  | expired {node : Role} {e : LedgerEntry Unit} {after : Span}
      (operation : op = .cancelCommand node e.id after) :
      Cause op c' ⟨node, e, .error (.timeout node e.kind after)⟩
  /-- The node is gone. -/
  | lost {node : Role} {e : LedgerEntry Unit} (free : c'.roster.members.get? node = none) :
      Cause op c' ⟨node, e, .error (.sessionLost node)⟩

variable {c c' : Conductor} {op : Operation} {node : Role}

/-- What an operation does to the outstanding commands. -/
inductive Deal (c : Conductor) (op : Operation) (c' : Conductor) : Prop where
  /-- A command is recorded. -/
  | issues {cmd : Command} {id : Nat} (operation : op = .issue cmd)
      (accepted : (c.issue cmd).2 = .ok ⟨cmd.node, cmd.kind, some id⟩)
      (registered : (c.roster.members.get? cmd.node).isSome)
      (recorded : c.ledger.insert cmd.node cmd.kind () = (c'.ledger, .ok id))
      (members : c'.roster.members = c.roster.members) (verdicts : c'.verdicts = c.verdicts)
      (counters : c'.tally.commands =
        (c.tally.commandsIssued + 1, c.tally.commandsAcked, c.tally.commandsFailed))
  /-- Some commands end; a node that has others left is still registered. -/
  | ends (ended : List Ended) (causes : ∀ x ∈ ended, Cause op c' x)
      (ledger : c.ledger.Without c'.ledger (ended.map fun x => (x.node, x.entry)))
      (registered : ∀ r, (c.roster.members.get? r).isSome → c'.ledger.queue r ≠ [] →
        (c'.roster.members.get? r).isSome)
      (verdicts : c'.verdicts = c.verdicts ++ ended.map fun x => (x.entry.id, x.verdict))
      (counters : c'.tally.commands = (c.tally.commandsIssued,
        c.tally.commandsAcked + ended.countP Ended.isAcked,
        c.tally.commandsFailed + ended.countP (!·.isAcked)))

/-! ## Operations that end no command -/

/-- Nothing that is kept of commands has changed. -/
structure SameCommands (c c' : Conductor) : Prop where
  ledger : c'.ledger = c.ledger
  verdicts : c'.verdicts = c.verdicts
  counters : c'.tally.commands = c.tally.commands

theorem SameCommands.trans {c'' : Conductor} (h : SameCommands c c') (h' : SameCommands c' c'') :
    SameCommands c c'' :=
  ⟨h'.ledger.trans h.ledger, h'.verdicts.trans h.verdicts, h'.counters.trans h.counters⟩

theorem SameCommands.settle (h : SameCommands c c') (r : List GateEffect × Gate) :
    SameCommands c (c'.settleGate r) := by
  refine h.trans ⟨by rw [settleGate_eq], by rw [settleGate_eq], ?_⟩
  rw [tally_settleGate]
  rfl

/-- An operation that ends no command and frees no role. -/
theorem Deal.of_same (hs : c.ledger.Sound) (h : SameCommands c c')
    (hm : ∀ r, (c.roster.members.get? r).isSome → (c'.roster.members.get? r).isSome) :
    Deal c op c' := by
  refine .ends [] nofun ?_ (fun r hr _ => hm r hr) ?_ h.counters
  · rw [h.ledger]
    exact .refl hs
  · rw [h.verdicts, List.map_nil, List.append_nil]

/-- An operation that does not touch the roster. -/
theorem Deal.of_roster (hs : c.ledger.Sound) (h : SameCommands c c') (hr : c'.roster = c.roster) :
    Deal c op c' :=
  .of_same hs h fun r h => by rwa [hr]

theorem Deal.of_settled (hs : c.ledger.Sound) {c₁ : Conductor} (r : List GateEffect × Gate)
    (h : SameCommands c c₁) (hr : c₁.roster = c.roster) : Deal c op (c₁.settleGate r) :=
  .of_roster hs (h.settle r) (by rw [settleGate_eq, hr])

/-- Nothing that concerns commands happens behind. -/
theorem Deal.behind {c₁ : Conductor} (h : Deal c op c₁) (hsame : SameCommands c₁ c')
    (hm : c'.roster.members = c₁.roster.members) : Deal c op c' := by
  cases h with
  | issues operation accepted registered recorded members verdicts counters =>
    rw [← hsame.ledger] at recorded
    exact .issues operation accepted registered recorded (hm.trans members)
      (hsame.verdicts.trans verdicts) (hsame.counters.trans counters)
  | ends ended causes ledger registered verdicts counters =>
    rw [← hsame.ledger] at ledger registered
    refine .ends ended ?_ ledger ?_ (hsame.verdicts.trans verdicts)
      (hsame.counters.trans counters)
    · intro x hx
      cases causes x hx with
      | acknowledged operation kind => exact .acknowledged operation kind
      | expired operation => exact .expired operation
      | lost free => exact .lost (by rw [hm, free])
    · intro r hr hq
      rw [hm]
      exact registered r hr hq

theorem deal_handshake (hs : c.ledger.Sound) (s : SessionId) (name : String) (address : Address) :
    Deal c (.handshake s name address) (c.handshake s name address).1 := by
  have hgreeting := greeting c s name address
  generalize c.handshake s name address = p at hgreeting ⊢
  cases hgreeting with
  | refused e => exact .of_roster hs ⟨rfl, rfl, rfl⟩ rfl
  | registers roster waiting free members =>
    dsimp only
    rw [foldl_post_eq]
    refine .of_same hs ⟨rfl, rfl, rfl⟩ fun r hr => ?_
    show (roster.members.get? r).isSome
    rw [members, Table.get?_put]
    split
    · rfl
    · exact hr

/-- An operation on the barrier ends no command. -/
theorem Consulted.deal (h : Consulted c c') (hs : c.ledger.Sound) : Deal c op c' := by
  cases h with
  | refused => exact .of_roster hs ⟨rfl, rfl, rfl⟩ rfl
  | settled waiters opened timer r => exact .of_settled hs r ⟨rfl, rfl, rfl⟩ rfl

theorem deal_requestAddress (hs : c.ledger.Sound) (s : SessionId) (node : Role) :
    Deal c (.requestAddress s node) (c.requestAddress s node) := by
  rw [requestAddress_eq]
  exact .of_same hs ⟨rfl, rfl, rfl⟩ fun _ h => h

/-! ## Acknowledgements and waits that end -/

/-- One command of a node ends, and nothing else happens. -/
theorem Deal.of_one {ledger : Ledger Unit} {e : LedgerEntry Unit} {p : LedgerEntry Unit → Bool}
    {verdict : Verdict} (hs : c.ledger.Sound) (ht : c.ledger.takeFirst node p = (ledger, some e))
    (hcause : Cause op c' ⟨node, e, verdict⟩) (hl : c'.ledger = ledger)
    (hr : c'.roster = c.roster) (hv : c'.verdicts = c.verdicts ++ [(e.id, verdict)])
    (hc : c'.tally.commands = (c.tally.commandsIssued,
      c.tally.commandsAcked + [verdict.isOk].countP (·),
      c.tally.commandsFailed + [verdict.isOk].countP (!·))) : Deal c op c' := by
  refine .ends [⟨node, e, verdict⟩] ?_ ?_ (fun r h _ => by rwa [hr]) hv ?_
  · intro x hx
    rw [List.mem_singleton.mp hx]
    exact hcause
  · rw [hl]
    exact hs.takeFirst ht
  · rw [hc]
    rfl

/-- An acknowledgement ends the oldest command that waits for one of its kind. -/
theorem acknowledge_of_complete {ack : Ack} {e : LedgerEntry Unit} {ledger : Ledger Unit}
    (hclaim : checkClaim node ack.claimed = .ok ())
    (hl : c.ledger.complete node ack.kind = (ledger, some e)) :
    c.acknowledge node ack = ({ c with
      ledger
      tally := { c.tally with
        commandsAcked := c.tally.commandsAcked + [(ack.verdict node e.kind).isOk].countP (·)
        commandsFailed := c.tally.commandsFailed + [(ack.verdict node e.kind).isOk].countP (!·) }
      verdicts := c.verdicts ++ [(e.id, ack.verdict node e.kind)] }, .ok ()) := by
  unfold acknowledge
  rw [hclaim]
  dsimp only
  rw [hl]
  cases ack <;> rfl

theorem deal_acknowledge (hs : c.ledger.Sound) (role : Role) (ack : Ack) :
    Deal c (.acknowledge role ack) (c.acknowledge role ack).1 := by
  cases hclaim : checkClaim role ack.claimed with
  | error e =>
    unfold acknowledge
    rw [hclaim]
    exact .of_roster hs ⟨rfl, rfl, rfl⟩ rfl
  | ok u =>
    rcases hl : c.ledger.complete role ack.kind with ⟨ledger, _ | e⟩
    · unfold acknowledge
      rw [hclaim]
      dsimp only
      rw [hl, (Ledger.takeFirst_none hl).1]
      exact .of_roster hs ⟨rfl, rfl, rfl⟩ rfl
    · rw [acknowledge_of_complete hclaim hl]
      obtain ⟨-, -, -, -, hkind, -⟩ := Ledger.takeFirst_some hl
      exact .of_one hs hl (.acknowledged rfl (of_decide_eq_true hkind)) rfl rfl rfl rfl

theorem deal_cancelCommand (hs : c.ledger.Sound) (node : Role) (id : Nat) (after : Span) :
    Deal c (.cancelCommand node id after) (c.cancelCommand node id after) := by
  unfold cancelCommand
  split
  · next ledger hl =>
    rw [(Ledger.takeFirst_none hl).1]
    exact .of_roster hs ⟨rfl, rfl, rfl⟩ rfl
  · next ledger e hl =>
    obtain ⟨-, -, -, -, hid, -⟩ := Ledger.takeFirst_some hl
    obtain rfl : e.id = id := of_decide_eq_true hid
    exact .of_one hs hl (.expired rfl) rfl rfl rfl rfl

/-! ## Departures -/

/-- Commands that fail together are counted together. -/
theorem countP_of_failed (ended : List Ended) (h : ∀ x ∈ ended, x.isAcked = false) :
    ended.countP Ended.isAcked = 0 ∧ ended.countP (!·.isAcked) = ended.length :=
  ⟨List.countP_eq_zero.mpr fun x hx => by simp [h x hx],
    List.countP_eq_length.mpr fun x hx => by simp [h x hx]⟩

/-- Commands fail as their nodes are gone. -/
theorem Deal.of_lost (gone : List (Role × LedgerEntry Unit))
    (hw : c.ledger.Without c'.ledger gone)
    (hfree : ∀ p ∈ gone, c'.roster.members.get? p.1 = none)
    (hr : ∀ r, (c.roster.members.get? r).isSome → c'.ledger.queue r ≠ [] →
      (c'.roster.members.get? r).isSome)
    (hv : c'.verdicts = c.verdicts ++ gone.map fun p => (p.2.id, .error (.sessionLost p.1)))
    (hc : c'.tally.commands = (c.tally.commandsIssued, c.tally.commandsAcked,
      c.tally.commandsFailed + gone.length)) : Deal c op c' := by
  have hcount := countP_of_failed
    (gone.map fun p => ⟨p.1, p.2, .error (.sessionLost p.1)⟩) (by
      intro x hx
      obtain ⟨p, -, rfl⟩ := List.mem_map.mp hx
      rfl)
  rw [List.length_map] at hcount
  refine .ends (gone.map fun p => ⟨p.1, p.2, .error (.sessionLost p.1)⟩) ?_ ?_ hr ?_ ?_
  · intro x hx
    obtain ⟨p, hp, rfl⟩ := List.mem_map.mp hx
    exact .lost (hfree p hp)
  · rw [List.map_map]
    exact (List.map_id gone).symm ▸ hw
  · rw [List.map_map]
    exact hv
  · rw [hcount.1, hcount.2]
    exact hc

/-- The commands of a node fail once its role is free. -/
theorem Deal.of_failPending (hs : c.ledger.Sound) {c₁ : Conductor} (h : SameCommands c c₁)
    (hm : c₁.roster.members = c.roster.members.erase node) :
    Deal c op (c₁.failPending node) := by
  have hget : ∀ r, c₁.roster.members.get? r =
      if r = node then none else c.roster.members.get? r := by
    intro r
    rw [hm, Table.get?_erase]
  rw [failPending_eq]
  have hw := (h.ledger ▸ hs : c₁.ledger.Sound).drainNode node
  rw [h.ledger] at hw
  refine .of_lost ((c.ledger.queue node).map (node, ·)) ?_ ?_ ?_ ?_ ?_
  · show c.ledger.Without (c₁.ledger.drainNode node).2 _
    rw [h.ledger]
    exact hw
  · intro p hp
    obtain ⟨e, -, rfl⟩ := List.mem_map.mp hp
    exact (hget node).trans (if_pos rfl)
  · intro r hr hq
    have hne : r ≠ node := by
      rintro rfl
      refine hq ?_
      exact (Ledger.queue_setQueue c₁.ledger r r []).trans (if_pos rfl)
    show (c₁.roster.members.get? r).isSome
    rw [hget r, if_neg hne]
    exact hr
  · rw [List.map_map]
    show c₁.verdicts ++ (c₁.ledger.queue node).map _ = _
    rw [h.verdicts, h.ledger]
    rfl
  · rw [List.length_map]
    have hc := h.counters
    simp only [Tally.commands, Prod.mk.injEq] at hc ⊢
    rw [h.ledger]
    exact ⟨hc.1, hc.2.1, by rw [hc.2.2]⟩

theorem deal_sessionClosed (hs : c.ledger.Sound) (s : SessionId) (role : Option Role) :
    Deal c (.sessionClosed s role) (c.sessionClosed s role) := by
  cases role with
  | none => exact .of_same hs ⟨rfl, rfl, rfl⟩ fun _ h => h
  | some role =>
    cases hown : (c.roster.members.get? role).any (·.handle = s) with
    | true =>
      obtain ⟨roster, hmem, heq⟩ := sessionClosed_of_owned hown
      rw [heq]
      have hsame : SameCommands c
          { c with connections := c.connections.erase s, roster } := ⟨rfl, rfl, rfl⟩
      refine .of_failPending hs (hsame.settle _) ?_
      rw [roster_settleGate, hmem]
    | false =>
      rw [sessionClosed_of_not_owned hown]
      exact .of_same hs ⟨rfl, rfl, rfl⟩ fun _ h => h

theorem deal_remove (hs : c.ledger.Sound) (node : Role) : Deal c op (c.remove node) := by
  cases hreg : c.roster.isRegistered node with
  | true =>
    obtain ⟨roster, s, hmem, -, heq⟩ := remove_of_registered hreg
    rw [heq]
    have hsame : SameCommands c { c with roster } := ⟨rfl, rfl, rfl⟩
    have hfailed : Deal c op ((({ c with roster } : Conductor).settleGate
        (c.gate.departed node (.removed node))).failPending node) := by
      refine .of_failPending hs (hsame.settle _) ?_
      rw [roster_settleGate, hmem]
    exact hfailed.behind ⟨rfl, rfl, rfl⟩ rfl
  | false =>
    rw [remove_of_not_registered hreg]
    exact .of_roster hs ⟨rfl, rfl, rfl⟩ rfl

theorem deal_shutdown (hs : c.ledger.Sound) : Deal c .shutdown c.shutdown := by
  cases hclosing : c.closing with
  | true =>
    rw [show c.shutdown = c from if_pos hclosing]
    exact .of_roster hs ⟨rfl, rfl, rfl⟩ rfl
  | false =>
    obtain ⟨ledger, tally, verdicts, heq, rfl, rfl, rfl⟩ := shutdown_of_open hclosing
    rw [heq, foldl_post_eq _ (fun s => s) fun _ => .close]
    refine .of_lost _ hs.drainAll (fun _ _ => rfl) ?_ rfl rfl
    -- nothing is outstanding any more
    intro r _ hq
    exact absurd rfl hq

/-! ## Issuing -/

/-- What issuing a command comes to. -/
inductive Issuing (c : Conductor) (cmd : Command) :
    Conductor × Except FaultError CommandHandle → Prop where
  | removes (kind : cmd.kind = .remove) :
      Issuing c cmd (c.remove cmd.node, .ok ⟨cmd.node, .remove, none⟩)
  | refused (kind : cmd.kind ≠ .remove) (e : FaultError) : Issuing c cmd (c, .error e)
  | sends {member : Member SessionId} {m : Downlink} {id : Nat} {ledger : Ledger Unit}
      (kind : cmd.kind ≠ .remove) (bound : c.roster.members.get? cmd.node = some member)
      (wire : cmd.wireForm c.resolveTarget = .ok (some m))
      (recorded : c.ledger.insert cmd.node cmd.kind () = (ledger, .ok id))
      (isOpen : (c.line member.handle).isOpen = true) :
      Issuing c cmd (({ c with
        ledger
        tally := { c.tally with commandsIssued := c.tally.commandsIssued + 1 } } : Conductor).post
          member.handle (.message m), .ok ⟨cmd.node, cmd.kind, some id⟩)
  /-- The message cannot be queued, so the command is taken back. -/
  | undone {id : Nat} {ledger : Ledger Unit} (kind : cmd.kind ≠ .remove)
      (recorded : c.ledger.insert cmd.node cmd.kind () = (ledger, .ok id)) :
      Issuing c cmd ({ c with ledger := (ledger.cancel cmd.node id).1 },
        .error (.send cmd.node cmd.kind))

/-- Only `remove` has no wire form. -/
theorem kind_of_wireForm_none {ε : Type} {resolve : Role → Except ε Address} {cmd : Command}
    (h : cmd.wireForm resolve = .ok none) : cmd.kind = .remove := by
  cases cmd with
  | throttle node target | disconnect node target =>
    cases ht : resolve target with
    | error e =>
      simp only [Command.wireForm, ht] at h
      cases h
    | ok a =>
      simp only [Command.wireForm, ht] at h
      cases h
  | terminate | getAddress => cases h
  | remove => rfl

theorem issuing (c : Conductor) (cmd : Command) : Issuing c cmd (c.issue cmd) := by
  unfold issue
  split
  · next hk => exact .removes hk
  · next hk =>
    split
    · exact .refused hk _
    · next member hm =>
      split
      · exact .refused hk _
      · next hw => exact absurd (kind_of_wireForm_none hw) hk
      · next m hw =>
        unfold dispatch
        split
        · next ledger _ _ hi =>
          rw [Ledger.insert_refused hi]
          exact .refused hk _
        · next ledger _ hi =>
          rw [Ledger.insert_refused hi]
          exact .refused hk _
        · next ledger id hi =>
          split
          · next ho => exact .sends hk hm hw hi ho
          · exact .undone hk hi

theorem deal_issue (hs : c.ledger.Sound) (cmd : Command) : Deal c (.issue cmd) (c.issue cmd).1 := by
  have hissuing := issuing c cmd
  generalize hr : c.issue cmd = r at hissuing ⊢
  cases hissuing with
  | removes => exact deal_remove hs cmd.node
  | refused => exact .of_roster hs ⟨rfl, rfl, rfl⟩ rfl
  | sends _ bound _ recorded =>
    exact .issues rfl (by rw [hr]) (by rw [bound]; rfl) recorded rfl rfl rfl
  | undone _ recorded =>
    refine .ends [] nofun (hs.cancel_inserted recorded) (fun _ h _ => h) ?_ rfl
    rw [List.map_nil, List.append_nil]

/-! ## All operations -/

theorem deal (hs : c.ledger.Sound) (op : Operation) (hop : ∀ f, op ≠ .count f) :
    Deal c op (c.after op) := by
  cases op with
  | handshake s name address => exact deal_handshake hs s name address
  | sessionClosed s role => exact deal_sessionClosed hs s role
  | openBarrier | enterBarrier | failBarrier | barrierTimeout =>
    exact (consulted_after rfl).deal hs
  | requestAddress s node => exact deal_requestAddress hs s node
  | issue cmd => exact deal_issue hs cmd
  | acknowledge role ack => exact deal_acknowledge hs role ack
  | cancelCommand node id after => exact deal_cancelCommand hs node id after
  | remove node => exact deal_remove hs node
  | shutdown => exact deal_shutdown hs
  | attach | tick | take | shut => exact .of_roster hs ⟨rfl, rfl, rfl⟩ rfl
  | count f => exact absurd rfl (hop f)

end Conductor

end Rendezvous
