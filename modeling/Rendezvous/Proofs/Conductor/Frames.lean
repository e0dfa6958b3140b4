import Rendezvous.Proofs.Conductor.Turn
import Rendezvous.Proofs.Ledger.Queues

/-!
# What operations leave alone

An operation on the barrier is refused, or it settles the gate (`Consulted`), and a greeting is
refused, or it registers a role (`Greeting`). What acknowledgements, waits that end and requests for
addresses can change is named by an `_eq` for each. A refused operation changes nothing.
-/

namespace Rendezvous.Conductor

variable {c c' : Conductor} {op : Operation} {role r : Role}

/-! ## The barrier -/

/-- Whether an operation opens a barrier or is one on the awaited barrier. -/
def Operation.isOnBarrier : Operation → Bool
  | .openBarrier .. | .enterBarrier .. | .failBarrier .. | .barrierTimeout _ => true
  | _ => false

/-- What an operation on the barrier comes to. -/
inductive Consulted (c : Conductor) : Conductor → Prop where
  | refused : Consulted c c
  | settled (waiters : List Epoch) (opened : Nat) (timer : Option Alarm)
      (r : List GateEffect × Gate) :
      Consulted c (({ c with
        waiters, timer, tally := { c.tally with barriersOpened := opened } } :
          Conductor).settleGate r)

/-- The gate is settled, and nothing else happens. -/
theorem Consulted.of_settled (c : Conductor) (r : List GateEffect × Gate) :
    Consulted c (c.settleGate r) := .settled c.waiters c.tally.barriersOpened c.timer r

theorem consulted_after (h : op.isOnBarrier = true) : Consulted c (c.after op) := by
  cases op with
  | openBarrier name roles timeout =>
    show Consulted c (c.openBarrier name roles timeout).1
    fun_cases c.openBarrier name roles timeout with
    | case1 gate e h =>
      obtain rfl := Gate.openBarrier_refused h
      exact .refused
    | case2 => exact .settled _ _ _ _
  | enterBarrier role name claimed =>
    show Consulted c (c.enterBarrier role name claimed).1
    fun_cases c.enterBarrier role name claimed with
    | case1 => exact .refused
    | case2 _ gate e h =>
      obtain rfl := Gate.enter_refused h
      exact .refused
    | case3 => exact .of_settled c _
  | failBarrier role name claimed =>
    show Consulted c (c.failBarrier role name claimed).1
    fun_cases c.failBarrier role name claimed with
    | case1 => exact .refused
    | case2 _ gate e h =>
      obtain rfl := Gate.fail_refused h
      exact .refused
    | case3 => exact .of_settled c _
  | barrierTimeout epoch =>
    show Consulted c (c.barrierTimeout epoch)
    unfold barrierTimeout
    rw [disarm_eq]
    exact .settled c.waiters c.tally.barriersOpened _ _
  | _ => cases h

theorem Consulted.roster (h : Consulted c c') : c'.roster = c.roster := by
  cases h with
  | refused => rfl
  | settled waiters opened timer r => exact roster_settleGate _ r

theorem Consulted.connections (h : Consulted c c') : c'.connections = c.connections := by
  cases h with
  | refused => rfl
  | settled => rw [settleGate_eq]

theorem Consulted.closing (h : Consulted c c') : c'.closing = c.closing := by
  cases h with
  | refused => rfl
  | settled => rw [settleGate_eq]

/-! ## Departures -/

theorem remove_eq (c : Conductor) (node : Role) :
    c.remove node = { c with
      roster := { c.roster with members := (c.remove node).roster.members }
      gate := (c.remove node).gate
      ledger := (c.remove node).ledger
      waiters := (c.remove node).waiters
      timer := (c.remove node).timer
      lines := (c.remove node).lines
      tally := (c.remove node).tally
      outcomes := (c.remove node).outcomes
      verdicts := (c.remove node).verdicts } := by
  unfold remove Roster.remove
  cases c.roster.members.get? node with
  | none => rfl
  | some m =>
    dsimp only
    rw [failPending_eq, settleGate_eq]
    rfl

theorem issue_eq (c : Conductor) (cmd : Command) :
    (c.issue cmd).1 = { c with
      roster := { c.roster with members := (c.issue cmd).1.roster.members }
      gate := (c.issue cmd).1.gate
      ledger := (c.issue cmd).1.ledger
      waiters := (c.issue cmd).1.waiters
      timer := (c.issue cmd).1.timer
      lines := (c.issue cmd).1.lines
      tally := (c.issue cmd).1.tally
      outcomes := (c.issue cmd).1.outcomes
      verdicts := (c.issue cmd).1.verdicts } := by
  unfold issue
  split
  · exact remove_eq c cmd.node
  · split
    · rfl
    · split
      · rfl
      · rfl
      · rw [dispatch_eq]

theorem sessionClosed_eq (c : Conductor) (s : SessionId) (role : Option Role) :
    c.sessionClosed s role = { c with
      connections := c.connections.erase s
      roster := { c.roster.dropInterest (· = s) with
        members := (c.sessionClosed s role).roster.members }
      gate := (c.sessionClosed s role).gate
      ledger := (c.sessionClosed s role).ledger
      waiters := (c.sessionClosed s role).waiters
      timer := (c.sessionClosed s role).timer
      lines := (c.sessionClosed s role).lines
      tally := (c.sessionClosed s role).tally
      outcomes := (c.sessionClosed s role).outcomes
      verdicts := (c.sessionClosed s role).verdicts } := by
  cases role with
  | none => rfl
  | some role =>
    cases hown : (c.roster.members.get? role).any (·.handle = s) with
    | true => rw [sessionClosed_owned hown, failPending_eq, settleGate_eq]
    | false => rw [sessionClosed_of_not_owned hown]

/-! ## Greetings -/

/-- What a greeting comes to. -/
inductive Greeting (c : Conductor) (s : SessionId) (name : String) (address : Address) :
    Conductor × Except SessionError Role → Prop where
  | refused (e : SessionError) : Greeting c s name address (c, .error e)
  | registers (roster : Roster SessionId) (waiting : List SessionId)
      (free : c.roster.members.get? ⟨name⟩ = none)
      (members : roster.members = c.roster.members.put ⟨name⟩ ⟨address, s⟩)
      (parked : waiting = c.roster.parked ⟨name⟩)
      (erased : roster.waiting = c.roster.waiting.erase ⟨name⟩) :
      Greeting c s name address
        (waiting.foldl (fun c h => c.post h (.message (.addressReply ⟨name⟩ address)))
          (({ c with
            roster
            tally := { c.tally with handshakes := c.tally.handshakes + 1 } } : Conductor).post s
              (.message .done)), .ok ⟨name⟩)

theorem greeting (c : Conductor) (s : SessionId) (name : String) (address : Address) :
    Greeting c s name address (c.handshake s name address) := by
  unfold handshake
  split
  · exact .refused _
  · split
    · exact .refused _
    · split
      · next roster e hreg =>
        obtain rfl := Roster.register_refused hreg
        exact .refused _
      · next roster waiting hreg =>
        obtain ⟨hfree, hmem, hparked, herased⟩ := Roster.register_ok hreg
        rw [Roster.isRegistered, Table.has_eq_isSome, Option.isSome_eq_false_iff,
          Option.isNone_iff_eq_none] at hfree
        exact .registers roster waiting hfree hmem hparked herased

theorem handshake_eq (c : Conductor) (s : SessionId) (name : String) (address : Address) :
    (c.handshake s name address).1 = { c with
      roster := (c.handshake s name address).1.roster
      lines := (c.handshake s name address).1.lines
      tally := (c.handshake s name address).1.tally } := by
  have hgreeting := greeting c s name address
  generalize c.handshake s name address = p at hgreeting ⊢
  cases hgreeting with
  | refused e => rfl
  | registers =>
    dsimp only
    rw [foldl_post_eq]
    rfl

/-! ## Addresses and commands -/

theorem requestAddress_eq (c : Conductor) (s : SessionId) (node : Role) :
    c.requestAddress s node = { c with
      lines := (c.requestAddress s node).lines
      roster := { c.roster with waiting := (c.requestAddress s node).roster.waiting } } := by
  unfold requestAddress
  split <;> rfl

theorem acknowledge_eq (c : Conductor) (role : Role) (ack : Ack) :
    (c.acknowledge role ack).1 = { c with
      ledger := (c.acknowledge role ack).1.ledger
      tally := { c.tally with
        commandsAcked := (c.acknowledge role ack).1.tally.commandsAcked
        commandsFailed := (c.acknowledge role ack).1.tally.commandsFailed }
      verdicts := (c.acknowledge role ack).1.verdicts } := by
  fun_cases c.acknowledge role ack with
  | case1 => rfl
  | case2 => rfl
  | case3 => cases ack <;> rfl

theorem cancelCommand_eq (c : Conductor) (node : Role) (id : Nat) (after : Span) :
    c.cancelCommand node id after = { c with
      ledger := (c.cancelCommand node id after).ledger
      tally := { c.tally with
        commandsFailed := (c.cancelCommand node id after).tally.commandsFailed }
      verdicts := (c.cancelCommand node id after).verdicts } := by
  unfold cancelCommand
  split <;> rfl

/-! ## Refusals -/

theorem checkClaim_eq_ok {claimed : Option Role} (h : checkClaim role claimed = .ok ()) :
    ∀ r, claimed = some r → r = role := by
  rintro r rfl
  unfold checkClaim at h
  dsimp only at h
  split at h
  · assumption
  · cases h

theorem checkClaim_of_ne (h : r ≠ role) :
    checkClaim role (some r) = .error (.roleMismatch role r) := by
  unfold checkClaim
  exact if_neg h

theorem isFatal_of_checkClaim {claimed : Option Role} {e : SessionError}
    (h : checkClaim role claimed = .error e) : e.isFatal = false := by
  unfold checkClaim at h
  split at h
  · split at h
    · cases h
    · cases h
      rfl
  · cases h

theorem handshake_error (c : Conductor) (s : SessionId) (name : String) (address : Address)
    {e : SessionError} (h : (c.handshake s name address).2 = .error e) :
    (c.handshake s name address).1 = c := by
  have hgreeting := greeting c s name address
  generalize c.handshake s name address = p at hgreeting h ⊢
  cases hgreeting with
  | refused e => rfl
  | registers => cases h

theorem enterBarrier_error (c : Conductor) (role : Role) (name : String) (claimed : Option Role)
    {e : SessionError} :
    (c.enterBarrier role name claimed).2 = .error e →
      (c.enterBarrier role name claimed).1 = c := by
  fun_cases c.enterBarrier role name claimed with
  | case1 => exact fun _ => rfl
  | case2 _ gate e h =>
    obtain rfl := Gate.enter_refused h
    exact fun _ => rfl
  | case3 => nofun

theorem failBarrier_error (c : Conductor) (role : Role) (name : String) (claimed : Role)
    {e : SessionError} :
    (c.failBarrier role name claimed).2 = .error e → (c.failBarrier role name claimed).1 = c := by
  fun_cases c.failBarrier role name claimed with
  | case1 => exact fun _ => rfl
  | case2 _ gate e h =>
    obtain rfl := Gate.fail_refused h
    exact fun _ => rfl
  | case3 => nofun

theorem acknowledge_error (c : Conductor) (role : Role) (ack : Ack) {e : SessionError} :
    (c.acknowledge role ack).2 = .error e → (c.acknowledge role ack).1 = c := by
  fun_cases c.acknowledge role ack with
  | case1 => exact fun _ => rfl
  | case2 _ ledger h =>
    obtain ⟨rfl, -⟩ := Ledger.takeFirst_none h
    exact fun _ => rfl
  | case3 => nofun

end Rendezvous.Conductor
