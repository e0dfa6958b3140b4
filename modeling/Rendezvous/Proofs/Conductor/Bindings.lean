import Rendezvous.Proofs.Conductor.Frames
import Rendezvous.Proofs.Conductor.Spoken

/-!
# Bindings of roles

What the operations of a conductor do to the roster: a greeting binds a role that was free
(`handshake_ok`), the end of a session gives its role up (`members_sessionClosed`), and no other
operation binds a role (`members_of_plain`).
-/

namespace Rendezvous.Conductor

variable {c c' : Conductor} {op : Operation} {r : Role} {b : Member SessionId} {s : SessionId}

/-- Whether an operation neither takes in, names, ends nor shuts a session, nor takes an item off
its line. -/
def Operation.isPlain : Operation → Bool
  | .attach _ | .handshake .. | .sessionClosed .. | .shut _ | .take _ => false
  | _ => true

theorem Operation.tends?_of_plain {op : Operation} (h : op.isPlain = true) (s : SessionId) :
    op.tends? ≠ some s := by
  cases op with
  | attach | shut | take => cases h
  | _ => nofun

/-! ## Bindings -/

theorem binds_of_members (h : c'.roster.members = c.roster.members) :
    c'.roster.binds s r = c.roster.binds s r := by
  unfold Roster.binds
  rw [h]

/-- A session that closes is bound to its role no more, and binds no other. -/
theorem members_sessionClosed {role : Option Role}
    (h : (c.sessionClosed s role).roster.members.get? r = some b) :
    c.roster.members.get? r = some b ∧ (role = some r → b.handle ≠ s) := by
  cases role with
  | none => exact ⟨h, nofun⟩
  | some role =>
    cases hown : (c.roster.members.get? role).any (·.handle = s) with
    | true =>
      obtain ⟨roster, hmem, heq⟩ := sessionClosed_of_owned hown
      rw [heq, roster_failPending, roster_settleGate, hmem, Table.get?_erase] at h
      split at h
      · cases h
      · next hne => exact ⟨h, fun hr => absurd (Option.some.inj hr).symm hne⟩
    | false =>
      rw [sessionClosed_of_not_owned hown] at h
      have hb : c.roster.members.get? r = some b := h
      refine ⟨hb, ?_⟩
      intro hr hs
      rw [Option.some.inj hr, hb] at hown
      simp [hs] at hown

theorem members_remove {node : Role} (h : (c.remove node).roster.members.get? r = some b) :
    c.roster.members.get? r = some b := by
  cases hreg : c.roster.isRegistered node with
  | true =>
    obtain ⟨roster, s, hmem, -, heq⟩ := remove_of_registered hreg
    rw [heq, post, roster_failPending, roster_settleGate, hmem, Table.get?_erase] at h
    split at h
    · cases h
    · exact h
  | false => rwa [remove_of_not_registered hreg] at h

theorem members_issue {cmd : Command} (h : (c.issue cmd).1.roster.members.get? r = some b) :
    c.roster.members.get? r = some b := by
  unfold issue at h
  split at h
  · exact members_remove h
  · split at h
    · exact h
    · split at h
      · exact h
      · exact h
      · rwa [dispatch_eq] at h

theorem members_shutdown (h : c.shutdown.roster.members.get? r = some b) :
    c.roster.members.get? r = some b := by
  cases hclosing : c.closing with
  | true => rwa [show c.shutdown = c from if_pos hclosing] at h
  | false =>
    obtain ⟨ledger, tally, verdicts, heq, -⟩ := shutdown_of_open hclosing
    rw [heq, foldl_post_eq _ (fun s => s) fun _ => .close] at h
    cases h

/-- An operation that names no role binds none. -/
theorem members_of_plain (hp : op.isPlain = true)
    (h : (c.after op).roster.members.get? r = some b) : c.roster.members.get? r = some b := by
  cases op with
  | attach | handshake | sessionClosed | shut => cases hp
  | openBarrier | enterBarrier | failBarrier | barrierTimeout =>
    rwa [(consulted_after rfl).roster] at h
  | requestAddress s node => rwa [after, requestAddress_eq] at h
  | issue cmd => exact members_issue h
  | acknowledge role ack => rwa [after, acknowledge_eq] at h
  | cancelCommand node id after => rwa [Conductor.after, cancelCommand_eq] at h
  | remove node => exact members_remove h
  | shutdown => exact members_shutdown h
  | count | tick | take => exact h

/-- A player that registers names a role that is free, and is bound to its session. -/
theorem handshake_ok {name : String} {address : Address} {role : Role}
    (hok : (c.handshake s name address).2 = .ok role) :
    c.roster.members.get? role = none ∧
      (c.handshake s name address).1.roster.members =
        c.roster.members.put role ⟨address, s⟩ ∧
      (c.handshake s name address).1.ledger = c.ledger ∧
      (c.handshake s name address).1.connections = c.connections := by
  have hgreeting := greeting c s name address
  generalize c.handshake s name address = p at hgreeting hok ⊢
  cases hgreeting with
  | refused e => cases hok
  | registers roster waiting free members =>
    cases hok
    dsimp only
    rw [foldl_post_eq]
    exact ⟨free, members, rfl, rfl⟩

theorem members_handshake {name : String} {address : Address} {role : Role}
    (hok : (c.handshake s name address).2 = .ok role)
    (h : (c.handshake s name address).1.roster.members.get? r = some b) :
    (r = role ∧ b.handle = s) ∨ c.roster.members.get? r = some b := by
  rw [(handshake_ok hok).2.1, Table.get?_put] at h
  split at h
  · next hr =>
    cases h
    exact Or.inl ⟨hr, rfl⟩
  · exact Or.inr h

/-- A player that registers takes no session its role. -/
theorem binds_handshake {s' : SessionId} {name : String} {address : Address} {role : Role}
    (hok : (c.handshake s' name address).2 = .ok role) :
    (c.handshake s' name address).1.roster.binds s r =
      (decide (r = role ∧ s' = s) || c.roster.binds s r) := by
  obtain ⟨hfree, hmem, -⟩ := handshake_ok hok
  unfold Roster.binds
  rw [hmem, Table.get?_put]
  by_cases hr : r = role
  · subst hr
    simp [hfree]
  · simp [hr]

end Rendezvous.Conductor
