import Rendezvous.Proofs.Hall.Accounts

/-!
# Counters

Epochs, the ids of commands and the counters of a tally are natural numbers without a bound, and
none of them outgrows the number of moves (`counters_follow`): 64 bits are enough for a run of fewer
than `2 ^ 64 - 1` moves.

What is given out, opened and issued goes up by one at most in a move (`Raised`), and so do the
connections, greetings and errors that are counted, taken together (`Tally.traffic`). A single move
can end any number of commands, but all of them were issued before, as the books say.
-/

namespace Rendezvous

/-- The connections, the greetings and the errors of the protocol. -/
def Tally.traffic (t : Tally) : Nat :=
  t.connections + t.rejectedConnections + t.handshakes + t.protocolErrors

namespace Conductor

variable {c c₁ c₂ c' : Conductor} {t : Option SessionId} {op : Operation}

/-! ## What goes up by one at most -/

/-- The numbers that are given out, and the counters of what is opened and issued. -/
structure Raised (c c' : Conductor) : Prop where
  epochs : c'.gate.nextEpoch ≤ c.gate.nextEpoch + 1
  ids : c'.ledger.nextId ≤ c.ledger.nextId + 1
  opened : c'.tally.barriersOpened ≤ c.tally.barriersOpened + 1
  issued : c'.tally.commandsIssued ≤ c.tally.commandsIssued + 1

theorem Turn.nextEpoch_le (h : Turn c op c') : c'.gate.nextEpoch ≤ c.gate.nextEpoch + 1 := by
  cases h with
  | rests _ gate => exact gate ▸ Nat.le_succ _
  | arrives _ _ _ _ gate => exact gate ▸ Nat.le_succ _
  | opens _ _ _ _ _ _ _ _ _ gate => exact gate ▸ Nat.le_refl _
  | ends _ _ _ gate => exact gate ▸ Nat.le_succ _

theorem Deal.le (h : Deal c op c') : c'.ledger.nextId ≤ c.ledger.nextId + 1 ∧
    c'.tally.commandsIssued ≤ c.tally.commandsIssued + 1 := by
  cases h with
  | issues _ _ _ recorded _ _ counters =>
    obtain ⟨-, -, hid, hl⟩ := Ledger.insert_ok recorded
    exact ⟨by rw [hl, hid], Nat.le_of_eq (congrArg Prod.fst counters)⟩
  | ends _ _ ledger _ _ counters =>
    exact ⟨ledger.spent, Nat.le_succ_of_le (Nat.le_of_eq (congrArg Prod.fst counters))⟩

theorem raised_after (hc : c.Sound) (hl : c.ledger.Sound) (hop : ∀ f, op ≠ .count f) :
    Raised c (c.after op) where
  epochs := (turn hc op).nextEpoch_le
  ids := (deal hl op hop).le.1
  opened := by
    rw [show (c.after op).tally.barriersOpened = _ from congrArg Prod.fst (counts_after c op hop)]
    split
    · exact Nat.le_refl _
    · exact Nat.le_succ _
  issued := (deal hl op hop).le.2

theorem Raised.of_quiet (before : Quiet t c c₁) (h : Raised c₁ c₂) (behind : Quiet t c₂ c') :
    Raised c c' where
  epochs := by
    rw [behind.gate, ← before.gate]
    exact h.epochs
  ids := by
    rw [behind.ledger, ← before.ledger]
    exact h.ids
  opened := by
    have hbefore : c₁.tally.barriersOpened = c.tally.barriersOpened :=
      congrArg Prod.fst (Tally.barriers_of_accounts before.accounts)
    have hbehind : c'.tally.barriersOpened = c₂.tally.barriersOpened :=
      congrArg Prod.fst (Tally.barriers_of_accounts behind.accounts)
    rw [hbehind, ← hbefore]
    exact h.opened
  issued := by
    have hbefore : c₁.tally.commandsIssued = c.tally.commandsIssued :=
      congrArg Prod.fst (Tally.commands_of_accounts before.accounts)
    have hbehind : c'.tally.commandsIssued = c₂.tally.commandsIssued :=
      congrArg Prod.fst (Tally.commands_of_accounts behind.accounts)
    rw [hbehind, ← hbefore]
    exact h.issued

/-! ## Traffic -/

theorem traffic_settleGate (c : Conductor) (r : List GateEffect × Gate) :
    (c.settleGate r).tally.traffic = c.tally.traffic := by
  rw [tally_settleGate]
  rfl

theorem traffic_remove (c : Conductor) (node : Role) :
    (c.remove node).tally.traffic = c.tally.traffic := by
  cases hreg : c.roster.isRegistered node with
  | true =>
    obtain ⟨roster, s, -, -, heq⟩ := remove_of_registered hreg
    rw [heq, failPending_eq]
    exact traffic_settleGate { c with roster } _
  | false => rw [remove_of_not_registered hreg]

theorem traffic_sessionClosed (c : Conductor) (s : SessionId) (role : Option Role) :
    (c.sessionClosed s role).tally.traffic = c.tally.traffic := by
  cases role with
  | none => rfl
  | some role =>
    cases hown : (c.roster.members.get? role).any (·.handle = s) with
    | true =>
      obtain ⟨roster, -, heq⟩ := sessionClosed_of_owned hown
      rw [heq, failPending_eq]
      exact traffic_settleGate { c with connections := c.connections.erase s, roster } _
    | false => rw [sessionClosed_of_not_owned hown]

theorem traffic_issue (c : Conductor) (cmd : Command) :
    (c.issue cmd).1.tally.traffic = c.tally.traffic := by
  have hissuing := issuing c cmd
  generalize c.issue cmd = r at hissuing ⊢
  cases hissuing with
  | removes => exact traffic_remove c cmd.node
  | refused | sends | undone => rfl

theorem traffic_shutdown (c : Conductor) : c.shutdown.tally.traffic = c.tally.traffic := by
  cases hclosing : c.closing with
  | true => rw [show c.shutdown = c from if_pos hclosing]
  | false =>
    obtain ⟨ledger, tally, verdicts, heq, -, -, rfl⟩ := shutdown_of_open hclosing
    rw [heq, foldl_post_eq _ (fun s => s) fun _ => .close]
    rfl

theorem Consulted.traffic (h : Consulted c c') : c'.tally.traffic = c.tally.traffic := by
  cases h with
  | refused => rfl
  | settled => rw [traffic_settleGate]; rfl

/-- A greeting that is accepted is counted, -/
theorem traffic_handshake (c : Conductor) (s : SessionId) (name : String) (address : Address) :
    (c.handshake s name address).1.tally.traffic ≤ c.tally.traffic + 1 := by
  have hgreeting := greeting c s name address
  generalize c.handshake s name address = p at hgreeting ⊢
  cases hgreeting with
  | refused => exact Nat.le_succ _
  | registers =>
    dsimp only
    rw [foldl_post_eq]
    simp only [post, Tally.traffic]
    omega

/-- and no other operation is traffic. -/
theorem traffic_after (c : Conductor) (hop : ∀ f, op ≠ .count f)
    (hgreeting : ∀ s name address, op ≠ .handshake s name address) :
    (c.after op).tally.traffic = c.tally.traffic := by
  cases op with
  | count f => exact absurd rfl (hop f)
  | handshake s name address => exact absurd rfl (hgreeting s name address)
  | sessionClosed s role => exact traffic_sessionClosed c s role
  | openBarrier | enterBarrier | failBarrier | barrierTimeout => exact (consulted_after rfl).traffic
  | requestAddress s node => rw [after, requestAddress_eq]
  | issue cmd => exact traffic_issue c cmd
  | acknowledge role ack => exact congrArg (fun c => c.tally.traffic) (acknowledge_eq c role ack)
  | cancelCommand node id after =>
    exact congrArg (fun c => c.tally.traffic) (cancelCommand_eq c node id after)
  | remove node => exact traffic_remove c node
  | shutdown => exact traffic_shutdown c
  | attach | tick | take | shut => rfl

end Conductor

open Conductor

namespace Hall

variable {h : Hall} {s : SessionId}

/-! ## Moves -/

theorem raised_move (ho : h.Orderly) (hb : h.conductor.Books) (m : Move) :
    Raised h.conductor (h.after m).conductor := by
  obtain ⟨c₁, op, before, behind, horigin⟩ := operates h m
  have hledger := (hb.of_quiet before).commands.ledger
  exact .of_quiet before (raised_after (ho.sound.of_quiet before) hledger horigin.ne_count) behind

theorem traffic_conclude (h : Hall) (s : SessionId) (result : Except SessionError Unit) :
    (h.conclude s result).conductor.tally.traffic ≤ h.conductor.tally.traffic + 1 := by
  cases result with
  | ok u => exact Nat.le_succ_of_le (Nat.le_of_eq (traffic_sessionClosed h.conductor s _))
  | error e => exact Nat.le_of_eq (traffic_sessionClosed h.countError.conductor s _)

theorem traffic_handle (h : Hall) (s : SessionId) (role : Role) (u : Uplink) :
    (h.handle s role u).conductor.tally.traffic ≤ h.conductor.tally.traffic + 1 := by
  have hfst := perform_fst h.conductor s role u
  have herror := fun e => perform_error h.conductor s role u (e := e)
  have hperformed : (h.conductor.after (operation s role u)).tally.traffic =
      h.conductor.tally.traffic := by
    cases u <;> exact traffic_after h.conductor nofun nofun
  unfold handle
  generalize perform h.conductor s role u = p at hfst herror ⊢
  obtain ⟨c, e | done⟩ := p
  · -- a message that is refused changes nothing but that the error is counted
    obtain rfl : c = h.conductor := herror e rfl
    dsimp only
    split
    · exact traffic_conclude h s _
    · exact Nat.le_refl _
  · obtain rfl : c = h.conductor.after (operation s role u) := hfst
    exact Nat.le_succ_of_le (Nat.le_of_eq hperformed)

theorem traffic_greet (h : Hall) (s : SessionId) (u : Uplink) :
    (h.greet s u).conductor.tally.traffic ≤ h.conductor.tally.traffic + 1 := by
  cases u with
  | hello name address =>
    have hhandshake := traffic_handshake h.conductor s name address
    have herror := fun e => handshake_error h.conductor s name address (e := e)
    rw [greet_hello]
    generalize h.conductor.handshake s name address = p at hhandshake herror ⊢
    obtain ⟨c, e | role⟩ := p
    · obtain rfl : c = h.conductor := herror e rfl
      exact traffic_conclude h s _
    · exact hhandshake
  | _ => exact traffic_conclude h s _

theorem traffic_fireTimer (h : Hall) :
    (h.fireTimer?.getD h).conductor.tally.traffic ≤ h.conductor.tally.traffic + 1 := by
  unfold fireTimer?
  cases h.conductor.timer with
  | none => exact Nat.le_succ _
  | some alarm =>
    rw [Option.bind_eq_bind, Option.bind_some]
    split
    · rw [Option.getD_some]
      have hfired : (h.conductor.after (.barrierTimeout alarm.epoch)).tally.traffic =
          h.conductor.tally.traffic := traffic_after h.conductor nofun nofun
      exact Nat.le_succ_of_le (Nat.le_of_eq hfired)
    · exact Nat.le_succ _

theorem traffic_expireHello (h : Hall) (s : SessionId) :
    ((h.expireHello? s).getD h).conductor.tally.traffic ≤ h.conductor.tally.traffic + 1 := by
  unfold expireHello?
  cases h.sessions.get? s with
  | none => exact Nat.le_succ _
  | some x =>
    rw [Option.bind_eq_bind, Option.bind_some]
    split
    · split
      · rw [Option.getD_some]
        exact traffic_conclude h s _
      · exact Nat.le_succ _
    · exact Nat.le_succ _

theorem traffic_read (h : Hall) (s : SessionId) :
    ((h.takeInbound? s).getD h).conductor.tally.traffic ≤ h.conductor.tally.traffic + 1 := by
  have hreading := reading h s
  generalize (h.takeInbound? s).getD h = h' at hreading ⊢
  cases hreading with
  | rests => exact Nat.le_succ _
  | @ends x x' => exact traffic_conclude (h.adjustSession s fun _ => x') s _
  | @hears x x' u role => exact traffic_handle (h.adjustSession s fun _ => x') s role u
  | @greets x x' u => exact traffic_greet (h.adjustSession s fun _ => x') s u

theorem traffic_write (h : Hall) (s : SessionId) :
    ((h.takeOutbound? s).getD h).conductor.tally.traffic ≤ h.conductor.tally.traffic + 1 := by
  have hwriting := writing h s
  generalize (h.takeOutbound? s).getD h = h' at hwriting ⊢
  cases hwriting with
  | rests | writes => exact Nat.le_succ _
  | closes | breaks => exact traffic_conclude (h.takeItem s) s _

theorem traffic_move (h : Hall) (m : Move) :
    (h.after m).conductor.tally.traffic ≤ h.conductor.tally.traffic + 1 := by
  have hplain : ∀ op : Operation, (∀ f, op ≠ .count f) →
      (∀ s name address, op ≠ .handshake s name address) →
      (h.conductor.after op).tally.traffic ≤ h.conductor.tally.traffic + 1 :=
    fun op hop hgreeting => Nat.le_succ_of_le (Nat.le_of_eq (traffic_after _ hop hgreeting))
  cases m with
  | connect | deliver | hangUp | advance => exact Nat.le_succ _
  | accept =>
    show h.accept.2.conductor.tally.traffic ≤ _
    unfold accept
    dsimp only
    split <;> simp only [connect, attach, withConductor, Tally.traffic] <;> omega
  | kill s =>
    show (h.kill s).conductor.tally.traffic ≤ _
    unfold kill
    split
    · split <;> exact Nat.le_succ _
    · exact Nat.le_succ _
  | openBarrier name roles timeout => exact hplain (.openBarrier name roles timeout) nofun nofun
  | issue cmd => exact hplain (.issue cmd) nofun nofun
  | cancelCommand node id span => exact hplain (.cancelCommand node id span) nofun nofun
  | remove node => exact hplain (.remove node) nofun nofun
  | shutdown => exact hplain .shutdown nofun nofun
  | lateTimer epoch => exact hplain (.barrierTimeout epoch) nofun nofun
  | fireTimer => exact traffic_fireTimer h
  | expireHello s => exact traffic_expireHello h s
  | read s => exact traffic_read h s
  | write s => exact traffic_write h s

/-! ## Runs -/

/-- What was given out, counted as traffic, opened and issued in so many moves. -/
structure Counted (h : Hall) (moves : Nat) : Prop where
  epochs : h.conductor.gate.nextEpoch ≤ moves + 1
  ids : h.conductor.ledger.nextId ≤ moves + 1
  traffic : h.conductor.tally.traffic ≤ moves
  opened : h.conductor.tally.barriersOpened ≤ moves
  issued : h.conductor.tally.commandsIssued ≤ moves

theorem Counted.after {n : Nat} (hn : h.Counted n) (ho : h.Orderly) (hb : h.conductor.Books)
    (m : Move) : (h.after m).Counted (n + 1) where
  epochs := (raised_move ho hb m).epochs.trans (Nat.succ_le_succ hn.epochs)
  ids := (raised_move ho hb m).ids.trans (Nat.succ_le_succ hn.ids)
  traffic := (traffic_move h m).trans (Nat.succ_le_succ hn.traffic)
  opened := (raised_move ho hb m).opened.trans (Nat.succ_le_succ hn.opened)
  issued := (raised_move ho hb m).issued.trans (Nat.succ_le_succ hn.issued)

theorem counted_follow (settings : Settings) (moves : List Move) :
    (follow { conductor := { settings } } moves).Counted moves.length := by
  induction moves using List.reverseRecOn with
  | nil => exact ⟨Nat.le_refl _, Nat.le_refl _, Nat.le_refl _, Nat.le_refl _, Nat.le_refl _⟩
  | append_singleton moves m ih =>
    rw [follow_concat, List.length_append, List.length_singleton]
    exact ih.after (orderly_follow (orderly_new settings) moves) (books_follow settings moves) m

/-- In every run neither the next epoch nor the next id of a command is more than one above the
number of moves, and no counter is above it. -/
theorem counters_follow (settings : Settings) (moves : List Move) :
    let c := (follow { conductor := { settings } } moves).conductor
    c.gate.nextEpoch ≤ moves.length + 1 ∧ c.ledger.nextId ≤ moves.length + 1 ∧
    c.tally.connections + c.tally.rejectedConnections + c.tally.handshakes +
      c.tally.protocolErrors ≤ moves.length ∧
    c.tally.barriersOpened ≤ moves.length ∧
    c.tally.barriersSucceeded + c.tally.barriersFailed ≤ moves.length ∧
    c.tally.commandsIssued ≤ moves.length ∧
    c.tally.commandsAcked + c.tally.commandsFailed ≤ moves.length := by
  intro c
  have hcounted := counted_follow settings moves
  have hbooks := books_follow settings moves
  refine ⟨hcounted.epochs, hcounted.ids, hcounted.traffic, hcounted.opened, ?_, hcounted.issued, ?_⟩
  · refine Nat.le_trans ?_ hcounted.opened
    rw [hbooks.barriers]
    exact Nat.le_add_right _ _
  · refine Nat.le_trans ?_ hcounted.issued
    rw [hbooks.commands.issued]
    exact Nat.le_add_right _ _

end Hall

end Rendezvous
