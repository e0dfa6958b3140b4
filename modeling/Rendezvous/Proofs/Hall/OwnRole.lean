import Rendezvous.Proofs.Hall.Requests

/-!
# Speaking for one's own role

What an active session can bring about by a message that is no greeting. The message is refused, or
it comes to one of five things (`Heeding`), and each of them touches only what belongs to the
session and its role (`KeepsToRole`): no binding, no command of another node, of the awaited barrier
only the arrival or the failure of the role itself, of the parked requests only one more of the
session. A message that names another role is counted as an error, and nothing else happens.
-/

namespace Rendezvous

open Conductor

namespace Uplink

/-- The role that a message names as that of its sender, if it names one. -/
def claimed? : Uplink → Option Role
  | enterBarrier _ _ claimed => claimed
  | failBarrier _ claimed => some claimed
  | addressReply node _ => some node
  | _ => none

/-- Whether a message says who the player is. -/
def isHello : Uplink → Bool
  | hello .. => true
  | _ => false

end Uplink

namespace Conductor

variable {c c' : Conductor} {s : SessionId} {role r : Role} {u : Uplink}

/-! ## What a message comes to -/

/-- What a message of an active session comes to, if it is no greeting, with the answer to it. -/
inductive Heeding (c : Conductor) (s : SessionId) (role : Role) :
    Uplink → Conductor → Except SessionError Unit → Prop where
  /-- The player used the protocol wrongly. -/
  | refused (u : Uplink) {e : SessionError} (harmless : e.isFatal = false) :
      Heeding c s role u c (.error e)
  | answers {node : Role} {m : Member SessionId} (bound : c.roster.members.get? node = some m) :
      Heeding c s role (.getAddress node) (c.reply [⟨s, node, m.address⟩]) (.ok ())
  | parks {node : Role} (free : c.roster.members.get? node = none) :
      Heeding c s role (.getAddress node) { c with roster := c.roster.park node s } (.ok ())
  /-- The oldest command of the role that waits for this acknowledgement ends. -/
  | completes {u : Uplink} {ack : Ack} {e : LedgerEntry Unit} {ledger : Ledger Unit}
      (acknowledges : u.ack? = some ack)
      (oldest : c.ledger.complete role ack.kind = (ledger, some e)) :
      Heeding c s role u (concludeCommand { c with ledger } role e ack) (.ok ())
  | enters {name : String} {timeout : Option Span} {claimed : Option Role}
      {effects : List GateEffect} {g : Gate} (own : ∀ r, claimed = some r → r = role)
      (accepted : c.gate.enter role name = (g, .ok effects)) :
      Heeding c s role (.enterBarrier name timeout claimed) (c.settleGate (effects, g)) (.ok ())
  | givesUp {name : String} {effects : List GateEffect} {g : Gate}
      (accepted : c.gate.fail role name = (g, .ok effects)) :
      Heeding c s role (.failBarrier name role) (c.settleGate (effects, g)) (.ok ())

theorem heeding_enterBarrier (c : Conductor) (s : SessionId) (role : Role) (name : String)
    (timeout : Option Span) (claimed : Option Role) :
    Heeding c s role (.enterBarrier name timeout claimed) (c.enterBarrier role name claimed).1
      (c.enterBarrier role name claimed).2 := by
  fun_cases c.enterBarrier role name claimed with
  | case1 e hclaim => exact .refused _ (isFatal_of_checkClaim hclaim)
  | case2 _ gate e henter =>
    obtain rfl := Gate.enter_refused henter
    exact .refused _ rfl
  | case3 hclaim gate effects henter => exact .enters (checkClaim_eq_ok hclaim) henter

theorem heeding_failBarrier (c : Conductor) (s : SessionId) (role : Role) (name : String)
    (claimed : Role) :
    Heeding c s role (.failBarrier name claimed) (c.failBarrier role name claimed).1
      (c.failBarrier role name claimed).2 := by
  fun_cases c.failBarrier role name claimed with
  | case1 e hclaim => exact .refused _ (isFatal_of_checkClaim hclaim)
  | case2 _ gate e hfail =>
    obtain rfl := Gate.fail_refused hfail
    exact .refused _ rfl
  | case3 hclaim gate effects hfail =>
    obtain rfl := checkClaim_eq_ok hclaim claimed rfl
    exact .givesUp hfail

theorem heeding_acknowledge {ack : Ack} (hu : u.ack? = some ack) (c : Conductor) (s : SessionId)
    (role : Role) :
    Heeding c s role u (c.acknowledge role ack).1 (c.acknowledge role ack).2 := by
  fun_cases c.acknowledge role ack with
  | case1 e hclaim => exact .refused u (isFatal_of_checkClaim hclaim)
  | case2 _ ledger hcomplete =>
    obtain ⟨rfl, -⟩ := Ledger.takeFirst_none hcomplete
    exact .refused u rfl
  | case3 hclaim ledger e hcomplete => exact .completes hu hcomplete

theorem heeding_requestAddress (c : Conductor) (s : SessionId) (role node : Role) :
    Heeding c s role (.getAddress node) (c.requestAddress s node) (.ok ()) := by
  cases hbound : c.roster.members.get? node with
  | some m =>
    rw [requestAddress_of_bound hbound]
    exact .answers hbound
  | none =>
    rw [requestAddress_of_free hbound]
    exact .parks hbound

theorem heeding (c : Conductor) (s : SessionId) (role : Role) (hu : u.isHello = false) :
    Heeding c s role u (Hall.perform c s role u).1 (Hall.perform c s role u).2 := by
  cases u with
  | hello => cases hu
  | enterBarrier name timeout claimed => exact heeding_enterBarrier c s role name timeout claimed
  | failBarrier name claimed => exact heeding_failBarrier c s role name claimed
  | getAddress node => exact heeding_requestAddress c s role node
  | addressReply | done | commandFailed => exact heeding_acknowledge rfl c s role

/-- A message that names another role is refused before anything else is looked at. -/
theorem perform_of_claimed (c : Conductor) (s : SessionId) (hclaim : u.claimed? = some r)
    (hr : r ≠ role) : Hall.perform c s role u = (c, .error (.roleMismatch role r)) := by
  have hrefused := checkClaim_of_ne hr
  cases u with
  | enterBarrier name timeout claimed =>
    obtain rfl : claimed = some r := hclaim
    simp only [Hall.perform, enterBarrier, hrefused]
  | failBarrier name claimed =>
    obtain rfl := Option.some.inj hclaim
    simp only [Hall.perform, failBarrier, hrefused]
  | addressReply node address =>
    obtain rfl := Option.some.inj hclaim
    simp only [Hall.perform, acknowledge, Ack.claimed, hrefused]
  | hello | getAddress | done | commandFailed => cases hclaim

/-! ## What it leaves alone -/

/-- What a message of a session leaves alone, and what it can do to the rest. -/
structure KeepsToRole (c : Conductor) (s : SessionId) (role : Role) (u : Uplink) (c' : Conductor) :
    Prop where
  bindings : c'.roster.members = c.roster.members
  commands : ∀ node, node ≠ role → c'.ledger.queue node = c.ledger.queue node
  idle : c.gate.awaited = none → c'.gate.awaited = none
  /-- While a barrier is awaited, the role alone can arrive at it. -/
  arrivals : ∀ b b', c.gate.awaited = some b → c'.gate.awaited = some b' →
    b' = b ∨ role ∈ b.expected ∧ b' = b.arrive role
  /-- A barrier is resolved only by a member that gives it up or is the last to arrive. -/
  resolution : ∀ b, c.gate.awaited = some b → c'.gate.awaited = none → role ∈ b.expected ∧
    (u = .failBarrier b.name role ∨
      (∃ timeout claimed, u = .enterBarrier b.name timeout claimed) ∧ b.missing = [role])
  requests : c'.roster.waiting = c.roster.waiting ∨
    ∃ node, u = .getAddress node ∧ c'.roster = c.roster.park node s

/-- A message that leaves the barrier as it is. -/
theorem KeepsToRole.of_gate (hm : c'.roster.members = c.roster.members)
    (hl : ∀ node, node ≠ role → c'.ledger.queue node = c.ledger.queue node)
    (hg : c'.gate.awaited = c.gate.awaited)
    (hw : c'.roster.waiting = c.roster.waiting ∨
      ∃ node, u = .getAddress node ∧ c'.roster = c.roster.park node s) :
    KeepsToRole c s role u c' where
  bindings := hm
  commands := hl
  idle hi := hg.trans hi
  arrivals b b' ha ha' := by
    rw [hg, ha] at ha'
    exact Or.inl (Option.some.inj ha').symm
  resolution b ha ha' := by
    rw [hg, ha] at ha'
    cases ha'
  requests := hw

/-- A message of a member of the awaited barrier: whatever effects are carried out, the gate says
what became of the barrier. -/
theorem KeepsToRole.of_settled {b : Awaited} {effects : List GateEffect} {g : Gate}
    (ha : c.gate.awaited = some b) (hmember : role ∈ b.expected)
    (hg : g.awaited = some b ∨ g.awaited = some (b.arrive role) ∨
      g.awaited = none ∧ (u = .failBarrier b.name role ∨
        (∃ timeout claimed, u = .enterBarrier b.name timeout claimed) ∧ b.missing = [role])) :
    KeepsToRole c s role u (c.settleGate (effects, g)) := by
  have hgate : (c.settleGate (effects, g)).gate = g := gate_settleGate c _
  have hroster : (c.settleGate (effects, g)).roster = c.roster := roster_settleGate c _
  refine ⟨by rw [hroster], fun node _ => by rw [settleGate_eq], ?_, ?_, ?_,
    Or.inl (by rw [hroster])⟩
  · intro hi
    rw [ha] at hi
    cases hi
  · intro b₁ b' ha₁ ha'
    obtain rfl : b = b₁ := Option.some.inj (ha.symm.trans ha₁)
    rw [hgate] at ha'
    rcases hg with hg | hg | ⟨hg, -⟩
    · exact Or.inl (Option.some.inj (ha'.symm.trans hg))
    · exact Or.inr ⟨hmember, Option.some.inj (ha'.symm.trans hg)⟩
    · cases ha'.symm.trans hg
  · intro b₁ ha₁ ha'
    obtain rfl : b = b₁ := Option.some.inj (ha.symm.trans ha₁)
    rw [hgate] at ha'
    rcases hg with hg | hg | ⟨-, hcause⟩
    · cases ha'.symm.trans hg
    · cases ha'.symm.trans hg
    · exact ⟨hmember, hcause⟩

theorem Heeding.keepsToRole {answer : Except SessionError Unit} (hg : c.gate.Sound)
    (h : Heeding c s role u c' answer) : KeepsToRole c s role u c' := by
  cases h with
  | refused => exact .of_gate rfl (fun _ _ => rfl) rfl (Or.inl rfl)
  | answers =>
    rw [reply_eq]
    exact .of_gate rfl (fun _ _ => rfl) rfl (Or.inl rfl)
  | @parks node => exact .of_gate rfl (fun _ _ => rfl) rfl (Or.inr ⟨node, rfl, rfl⟩)
  | @completes _ ack e ledger _ oldest =>
    obtain ⟨before, behind, -, -, -, hledger⟩ := Ledger.takeFirst_some oldest
    have hqueue : ∀ node, node ≠ role → ledger.queue node = c.ledger.queue node := by
      intro node hn
      rw [hledger, Ledger.queue_setQueue, if_neg hn]
    -- each kind of acknowledgement counts and delivers the end, which is nobody's queue
    cases ack <;> exact .of_gate rfl hqueue rfl (Or.inl rfl)
  | enters own accepted =>
    obtain ⟨b, ha, rfl, hmember, hcases⟩ := Gate.enter_ok hg accepted
    refine .of_settled ha hmember ?_
    rcases hcases with ⟨-, -, rfl⟩ | ⟨-, -, -, rfl⟩ | ⟨hmissing, hall, -, rfl⟩
    · exact Or.inl ha
    · exact Or.inr (Or.inl rfl)
    · exact Or.inr (Or.inr ⟨rfl, Or.inr ⟨⟨_, _, rfl⟩,
        (hg.awaited b ha).missing_eq hmember hmissing hall⟩⟩)
  | givesUp accepted =>
    obtain ⟨b, ha, rfl, hmember, -, rfl⟩ := Gate.fail_ok accepted
    exact .of_settled ha hmember (Or.inr (Or.inr ⟨rfl, Or.inl rfl⟩))

end Conductor

namespace Hall

variable {h : Hall} {m : Move} {s : SessionId} {role : Role} {u : Uplink}

/-! ## Runs -/

/-- Behind a message of an active session, if it is no greeting, the conductor is as the message
made it, but for an error that is counted where it was refused. -/
theorem conductor_of_heard (hh : h.heard? m = some (s, role, u)) (hu : u.isHello = false) :
    ∃ tally, (h.after m).conductor = { (perform h.conductor s role u).1 with tally } := by
  obtain ⟨x, x', -, -, -, hafter⟩ := after_of_heard hh
  have hheeding := heeding h.conductor s role hu
  have hcond : (h.adjustSession s fun _ => x').conductor = h.conductor := rfl
  rw [hafter]
  unfold handle
  rw [hcond]
  generalize perform h.conductor s role u = p at hheeding ⊢
  obtain ⟨c', answer⟩ := p
  cases answer with
  | ok _ => exact ⟨c'.tally, rfl⟩
  | error e =>
    cases hheeding with
    | refused _ harmless =>
      dsimp only
      rw [harmless]
      exact ⟨_, rfl⟩

theorem keepsToRole_after (hg : h.conductor.gate.Sound) (hh : h.heard? m = some (s, role, u))
    (hu : u.isHello = false) :
    KeepsToRole h.conductor s role u (h.after m).conductor := by
  obtain ⟨tally, hcond⟩ := conductor_of_heard hh hu
  have hkeeps := (heeding h.conductor s role hu).keepsToRole hg
  rw [hcond]
  exact ⟨hkeeps.bindings, hkeeps.commands, hkeeps.idle, hkeeps.arrivals, hkeeps.resolution,
    hkeeps.requests⟩

/-- In every run, a message of an active session that is no greeting leaves alone what does not
belong to the session and its role. If it names another role, it is taken from what has arrived and
counted as an error, and nothing else happens. -/
theorem speaks_for_own_role (settings : Settings) (moves : List Move)
    (hh : (follow { conductor := { settings } } moves).heard? m = some (s, role, u))
    (hu : u.isHello = false) :
    KeepsToRole (follow { conductor := { settings } } moves).conductor s role u
        ((follow { conductor := { settings } } moves).after m).conductor ∧
      ∀ r, u.claimed? = some r → r ≠ role →
        ∃ x rest, (follow { conductor := { settings } } moves).sessions.get? s = some x ∧
          x.inbound? (follow { conductor := { settings } }
            moves).conductor.settings.maxFrameSize.toNat =
              some (.ok u, { x with arrived := rest }) ∧
          (follow { conductor := { settings } } moves).after m =
            ((follow { conductor := { settings } } moves).adjustSession s
              fun _ => { x with arrived := rest }).countError := by
  have ho := orderly_follow (orderly_new settings) moves
  generalize follow { conductor := { settings } } moves = h at ho hh ⊢
  refine ⟨keepsToRole_after ho.sound.gate hh hu, fun r hclaim hr => ?_⟩
  -- the claim is looked at first, so that a false one is the only thing the conductor sees
  obtain ⟨x, x', hx, -, hi, hafter⟩ := after_of_heard hh
  obtain ⟨frame, rest, -, -, rfl⟩ := inbound?_some hi
  refine ⟨x, rest, hx, hi, ?_⟩
  rw [hafter]
  unfold handle
  rw [perform_of_claimed _ s hclaim hr]
  rfl

/-- A player that gives a barrier up in the name of the other member: the barrier stays awaited, and
an error is counted. -/
theorem speaks_for_own_role_named :
    let a : Role := ⟨"a"⟩
    let b : Role := ⟨"b"⟩
    let u := Uplink.failBarrier "start" b
    let moves : List Move := [
      .connect, .deliver 0 (Frame.ofBody (Uplink.hello "a" default).encode), .read 0,
      .connect, .deliver 1 (Frame.ofBody (Uplink.hello "b" default).encode), .read 1,
      .openBarrier "start" [a, b] none, .deliver 0 (Frame.ofBody u.encode)]
    let h := follow {} moves
    (h.heard? (.read 0) = some (0, a, u) ∧ u.isHello = false ∧ u.claimed? = some b ∧ b ≠ a) ∧
      KeepsToRole h.conductor 0 a u (h.after (.read 0)).conductor ∧
      ∃ x rest, h.sessions.get? 0 = some x ∧
        x.inbound? h.conductor.settings.maxFrameSize.toNat =
          some (.ok u, { x with arrived := rest }) ∧
        h.after (.read 0) =
          (h.adjustSession 0 fun _ => { x with arrived := rest }).countError := by
  intro a b u moves h
  have hheard : h.heard? (.read 0) = some (0, a, u) := by decide +kernel
  have hne : b ≠ a := by decide
  obtain ⟨hkeeps, hrefused⟩ := speaks_for_own_role {} moves hheard rfl
  exact ⟨⟨hheard, rfl, rfl, hne⟩, hkeeps, hrefused b rfl hne⟩

end Hall

end Rendezvous
