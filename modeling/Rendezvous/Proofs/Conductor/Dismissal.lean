import Rendezvous.Proofs.Conductor.Bindings
import Rendezvous.Proofs.Conductor.Commands

/-!
# Dismissals

A session keeps its role until the role is removed or the conductor is shut down, unless it gives
the role up itself as it ends, and in both cases it is told to close (`bound_or_dismissed_after`).
Only taking a session in and its end change the connection table (`connections_after`,
`connections_sessionClosed`).
-/

namespace Rendezvous.Conductor

variable {c c' : Conductor} {s : SessionId} {r node : Role} {op : Operation}

/-- The session was told to close. -/
def IsDismissed (c : Conductor) (s : SessionId) : Prop := .close ∈ (c.line s).queued

/-! ## Lines -/

theorem IsDismissed.of_grown (hd : c.IsDismissed s)
    (h : ∃ items, (c'.line s).queued = (c.line s).queued ++ items) : c'.IsDismissed s := by
  obtain ⟨items, hline⟩ := h
  unfold IsDismissed
  rw [hline]
  exact List.mem_append_left _ hd

theorem dismissed_post (hopen : (c.line s).isOpen = true) : (c.post s .close).IsDismissed s := by
  unfold IsDismissed
  rw [line_post, if_pos rfl, Line.push, if_pos hopen]
  exact List.mem_append_right _ (List.mem_singleton.mpr rfl)

/-- Every session of a list is told to close. -/
theorem dismissed_foldl_post {sessions : List SessionId} (hs : s ∈ sessions)
    (hopen : (c.line s).isOpen = true) :
    (sessions.foldl (fun c s => c.post s .close) c).IsDismissed s := by
  induction sessions generalizing c with
  | nil => cases hs
  | cons s' rest ih =>
    rw [List.foldl_cons]
    by_cases h : s = s'
    · subst h
      obtain ⟨items, hline⟩ := (says_foldl_post (c.post s .close) s (fun s => s)
        (fun _ => .close) rest fun _ => rfl).grows
      exact (dismissed_post hopen).of_grown ⟨items, by rw [hline]⟩
    · refine ih ((List.mem_cons.mp hs).resolve_left h) ?_
      rw [line_post, if_neg h]
      exact hopen

/-! ## Operations -/

theorem dismissed_remove (hb : c.roster.binds s node = true)
    (hopen : (c.line s).isOpen = true) : (c.remove node).IsDismissed s := by
  obtain ⟨m, hget, rfl⟩ := Roster.binds_eq_true_iff.mp hb
  have hreg : c.roster.isRegistered node = true := by
    rw [Roster.isRegistered, Table.has_eq_isSome, hget]
    rfl
  obtain ⟨roster, s, -, hs, heq⟩ := remove_of_registered hreg
  rw [hget] at hs
  obtain rfl := Option.some.inj hs
  rw [heq]
  refine dismissed_post ?_
  have hlines : Says c { c with roster } m.handle [] := .of_lines rfl
  rw [(says_failPending _ _ node).isOpen, (says_settleGate _ _ _).isOpen, hlines.isOpen]
  exact hopen

theorem binds_remove (hb : c.roster.binds s r = true) (hopen : (c.line s).isOpen = true) :
    (c.remove node).roster.binds s r = true ∨ (c.remove node).IsDismissed s := by
  by_cases hr : r = node
  · exact Or.inr (dismissed_remove (hr ▸ hb) hopen)
  · refine Or.inl ?_
    cases hreg : c.roster.isRegistered node with
    | true =>
      obtain ⟨roster, s', hmem, -, heq⟩ := remove_of_registered hreg
      unfold Roster.binds at hb ⊢
      rw [heq, post, roster_failPending, roster_settleGate, hmem, Table.get?_erase, if_neg hr]
      exact hb
    | false => rwa [remove_of_not_registered hreg]

theorem binds_issue (hb : c.roster.binds s r = true) (hopen : (c.line s).isOpen = true)
    (cmd : Command) :
    (c.issue cmd).1.roster.binds s r = true ∨ (c.issue cmd).1.IsDismissed s := by
  have hissuing := issuing c cmd
  generalize c.issue cmd = p at hissuing ⊢
  cases hissuing with
  | removes => exact binds_remove hb hopen
  | refused | sends | undone => exact Or.inl hb

theorem dismissed_shutdown (hs : s ∈ c.connections) (hopen : (c.line s).isOpen = true)
    (hclosing : c.closing = false) : c.shutdown.IsDismissed s := by
  obtain ⟨ledger, tally, verdicts, heq, -⟩ := shutdown_of_open hclosing
  rw [heq]
  refine dismissed_foldl_post hs ?_
  have hclosed : Says c { c with closing := true } s [] := .of_lines rfl
  have hsettled := hclosed.trans
    (says_settleGate { c with closing := true } s (c.gate.abort .shutdown))
  exact hsettled.isOpen.trans hopen

/-- An operation that ends no session leaves a session its role, or the session is told to close. -/
theorem bound_or_dismissed_after (hp : op.isPlain = true) (hs : s ∈ c.connections)
    (hopen : (c.line s).isOpen = true) (hb : c.roster.binds s r = true) :
    (c.after op).roster.binds s r = true ∨ (c.after op).IsDismissed s := by
  cases op with
  | attach | handshake | sessionClosed | shut | take => cases hp
  | openBarrier | enterBarrier | failBarrier | barrierTimeout =>
    exact Or.inl (by rwa [(consulted_after rfl).roster])
  | requestAddress s' node => exact Or.inl (by rwa [after, requestAddress_eq])
  | issue cmd => exact binds_issue hb hopen cmd
  | acknowledge role ack => exact Or.inl (by rwa [after, acknowledge_eq])
  | cancelCommand node id after => exact Or.inl (by rwa [Conductor.after, cancelCommand_eq])
  | remove node => exact binds_remove hb hopen
  | shutdown =>
    cases hclosing : c.closing with
    | true =>
      refine Or.inl ?_
      rwa [after, show c.shutdown = c from if_pos hclosing]
    | false => exact Or.inr (dismissed_shutdown hs hopen hclosing)
  | count | tick => exact Or.inl hb

/-- Another session that ends takes no role away. -/
theorem binds_sessionClosed {s' : SessionId} (hne : s' ≠ s) (role : Option Role)
    (hb : c.roster.binds s r = true) : (c.sessionClosed s' role).roster.binds s r = true := by
  cases role with
  | none => exact hb
  | some role =>
    cases hown : (c.roster.members.get? role).any (·.handle = s') with
    | true =>
      obtain ⟨roster, hmem, heq⟩ := sessionClosed_of_owned hown
      have hr : r ≠ role := by
        rintro rfl
        obtain ⟨m, hget, rfl⟩ := Roster.binds_eq_true_iff.mp hb
        rw [hget] at hown
        exact hne (of_decide_eq_true hown).symm
      unfold Roster.binds at hb ⊢
      rw [heq, roster_failPending, roster_settleGate, hmem, Table.get?_erase, if_neg hr]
      exact hb
    | false =>
      rw [sessionClosed_of_not_owned hown]
      exact hb

/-! ## Connections -/

/-- Only taking in a session and its end change the connection table. -/
theorem connections_after (hp : op.isPlain = true) : (c.after op).connections = c.connections := by
  cases op with
  | attach | handshake | sessionClosed | shut | take => cases hp
  | openBarrier | enterBarrier | failBarrier | barrierTimeout =>
    exact (consulted_after rfl).connections
  | requestAddress s' node => rw [after, requestAddress_eq]
  | issue cmd => rw [after, issue_eq]
  | acknowledge role ack => rw [after, acknowledge_eq]
  | cancelCommand node id after => rw [Conductor.after, cancelCommand_eq]
  | remove node => rw [after, remove_eq]
  | shutdown =>
    cases hclosing : c.closing with
    | true => rw [after, show c.shutdown = c from if_pos hclosing]
    | false =>
      obtain ⟨ledger, tally, verdicts, heq, -⟩ := shutdown_of_open hclosing
      rw [after, heq, foldl_post_eq _ (fun s => s) fun _ => .close, settleGate_eq]
  | count | tick => rfl

theorem connections_sessionClosed (c : Conductor) (s : SessionId) (role : Option Role) :
    (c.sessionClosed s role).connections = c.connections.erase s := by
  rw [sessionClosed_eq]

end Rendezvous.Conductor
