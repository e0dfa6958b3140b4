import Mathlib.Data.List.Induction
import Rendezvous.Proofs.Conductor.Commands
import Rendezvous.Proofs.Gate.History
import Rendezvous.Proofs.Ledger.Journal

/-!
# Refusals

An operation that answers with an error leaves the conductor as it was, whatever the reason
(`refused_unchanged`). The conductor takes over what its roster, its gate and its ledger come to,
so this rests on what they do when they refuse (`Roster.register_refused`, `Gate.enter_refused`,
`Ledger.insert_refused` and others of that name). Only a command that cannot be queued has left a
trace: it was recorded under the next id and taken back, so that this id is used up. For that the
ledger must be in order and keep no empty queues, which every operation preserves
(`ledgerSound_after`, `ledgerCompact_after`).

As the gate is left as it was, the operations that it refuses can be left out of what it is asked:
it comes to the same and answers all others in the same way (`Gate.history_accepted`).
-/

namespace Rendezvous

/-! ## What the gate refuses -/

namespace Gate

/-- The operations of a list that the gate does not refuse. -/
def accepted : Gate → List Operation → List Operation
  | _, [] => []
  | g, op :: rest =>
    if (g.entry op).isAccepted then op :: accepted (g.after op) rest else accepted (g.after op) rest

variable {g : Gate} {op : Operation}

theorem after_of_refused (h : (g.entry op).isAccepted = false) : g.after op = g := by
  unfold Entry.isAccepted entry at h
  rcases ha : g.answer op with ⟨g', e | r⟩
  · exact (after_of_answer ha).trans (answer_refused ha)
  · rw [ha] at h
    cases h

theorem run_accepted (g : Gate) (ops : List Operation) : g.run (g.accepted ops) = g.run ops := by
  induction ops generalizing g with
  | nil => rfl
  | cons op rest ih =>
    rw [accepted]
    split
    · exact ih (g.after op)
    · next h =>
      have hsame := after_of_refused (Bool.eq_false_iff.mpr h)
      have hcons : g.run (op :: rest) = (g.after op).run rest := rfl
      rw [hcons, hsame, ih]

theorem history_accepted (g : Gate) (ops : List Operation) :
    g.history (g.accepted ops) = (g.history ops).filter Entry.isAccepted := by
  induction ops generalizing g with
  | nil => rfl
  | cons op rest ih =>
    rw [accepted, history, List.filter_cons]
    split
    · rw [history, ih]
    · next h =>
      have hsame := after_of_refused (Bool.eq_false_iff.mpr h)
      rw [hsame, ih]

end Gate

namespace Conductor

variable {c : Conductor} {op : Operation}

/-! ## What is kept of the ledger -/

theorem ledgerSound_after (h : c.ledger.Sound) (op : Operation) : (c.after op).ledger.Sound := by
  by_cases hop : ∃ f, op = .count f
  · obtain ⟨f, rfl⟩ := hop
    exact h
  · cases deal h op (not_exists.mp hop) with
    | issues _ _ _ recorded => exact h.insert recorded
    | ends _ _ ledger => exact ledger.sound

theorem Consulted.ledger {c' : Conductor} (h : Consulted c c') : c'.ledger = c.ledger := by
  cases h with
  | refused => rfl
  | settled => rw [settleGate_eq]

theorem ledgerCompact_failPending (h : c.ledger.Compact) (node : Role) :
    (c.failPending node).ledger.Compact := by
  rw [failPending_eq]
  exact h.setQueue node []

theorem ledgerCompact_remove (h : c.ledger.Compact) (node : Role) :
    (c.remove node).ledger.Compact := by
  cases hreg : c.roster.isRegistered node with
  | true =>
    obtain ⟨roster, s, -, -, heq⟩ := remove_of_registered hreg
    rw [heq]
    refine ledgerCompact_failPending ?_ node
    rwa [settleGate_eq]
  | false => rwa [remove_of_not_registered hreg]

theorem ledgerCompact_sessionClosed (h : c.ledger.Compact) (s : SessionId) (role : Role) :
    (c.sessionClosed s (some role)).ledger.Compact := by
  cases hown : (c.roster.members.get? role).any (·.handle = s) with
  | true =>
    obtain ⟨roster, -, heq⟩ := sessionClosed_of_owned hown
    rw [heq]
    refine ledgerCompact_failPending ?_ role
    rwa [settleGate_eq]
  | false => rwa [sessionClosed_of_not_owned hown]

theorem ledgerCompact_issue (h : c.ledger.Compact) (cmd : Command) :
    (c.issue cmd).1.ledger.Compact := by
  have hissuing := issuing c cmd
  generalize c.issue cmd = r at hissuing ⊢
  cases hissuing with
  | removes => exact ledgerCompact_remove h cmd.node
  | refused => exact h
  | sends _ _ _ recorded => exact h.insert recorded
  | undone _ recorded => exact (h.insert recorded).takeFirst cmd.node _

theorem ledgerCompact_acknowledge (h : c.ledger.Compact) (role : Role) (ack : Ack) :
    (c.acknowledge role ack).1.ledger.Compact := by
  cases hclaim : checkClaim role ack.claimed with
  | error e =>
    have hrefused : c.acknowledge role ack = (c, .error e) := by
      unfold acknowledge
      rw [hclaim]
    rwa [hrefused]
  | ok u =>
    have hkept : (c.ledger.complete role ack.kind).1.Compact := h.takeFirst role _
    rcases hl : c.ledger.complete role ack.kind with ⟨ledger, _ | e⟩
    · rw [hl] at hkept
      have hrefused : c.acknowledge role ack =
          ({ c with ledger }, .error (.unsolicited role ack.name)) := by
        unfold acknowledge
        rw [hclaim]
        dsimp only
        rw [hl]
      rwa [hrefused]
    · rw [hl] at hkept
      rwa [acknowledge_of_complete hclaim hl]

theorem ledgerCompact_cancelCommand (h : c.ledger.Compact) (node : Role) (id : Nat)
    (after : Span) : (c.cancelCommand node id after).ledger.Compact := by
  have hkept : (c.ledger.cancel node id).1.Compact := h.takeFirst node _
  unfold cancelCommand
  split
  · next hl => rwa [hl] at hkept
  · next hl => rwa [hl] at hkept

theorem ledgerCompact_shutdown (h : c.ledger.Compact) : c.shutdown.ledger.Compact := by
  cases hclosing : c.closing with
  | true => rwa [show c.shutdown = c from if_pos hclosing]
  | false =>
    obtain ⟨ledger, tally, verdicts, heq, rfl, -, -⟩ := shutdown_of_open hclosing
    rw [heq, foldl_post_eq _ (fun s => s) fun _ => .close]
    exact nofun

theorem ledgerCompact_after (h : c.ledger.Compact) (op : Operation) :
    (c.after op).ledger.Compact := by
  cases op with
  | handshake s name address => rwa [after, handshake_eq]
  | sessionClosed s role =>
    cases role with
    | none => exact h
    | some role => exact ledgerCompact_sessionClosed h s role
  | openBarrier | enterBarrier | failBarrier | barrierTimeout =>
    rwa [Consulted.ledger (consulted_after rfl)]
  | requestAddress s node => rwa [after, requestAddress_eq]
  | issue cmd => exact ledgerCompact_issue h cmd
  | acknowledge role ack => exact ledgerCompact_acknowledge h role ack
  | cancelCommand node id after => exact ledgerCompact_cancelCommand h node id after
  | remove node => exact ledgerCompact_remove h node
  | shutdown => exact ledgerCompact_shutdown h
  | attach | count | tick | take | shut => exact h

theorem ledger_run (settings : Settings) (ops : List Operation) :
    (run { settings } ops).ledger.Sound ∧ (run { settings } ops).ledger.Compact := by
  induction ops using List.reverseRecOn with
  | nil => exact ⟨Ledger.sound_new, Ledger.compact_new⟩
  | append_singleton ops op ih =>
    rw [run_append]
    exact ⟨ledgerSound_after ih.1 op, ledgerCompact_after ih.2 op⟩

/-! ## What the conductor refuses -/

/-- Whether the answer to an operation is an error. -/
def refuses (c : Conductor) : Operation → Bool
  | .handshake s name address => !(c.handshake s name address).2.isOk
  | .openBarrier name roles timeout => !(c.openBarrier name roles timeout).2.isOk
  | .enterBarrier role name claimed => !(c.enterBarrier role name claimed).2.isOk
  | .failBarrier role name claimed => !(c.failBarrier role name claimed).2.isOk
  | .issue cmd => !(c.issue cmd).2.isOk
  | .acknowledge role ack => !(c.acknowledge role ack).2.isOk
  | _ => false

/-- How many ids an operation uses up although it is refused. -/
def idsSpent (c : Conductor) : Operation → Nat
  | .issue cmd => if (c.issue cmd).2 = .error (.send cmd.node cmd.kind) then 1 else 0
  | _ => 0

/-- The conductor with some ids used up. -/
def spend (c : Conductor) (n : Nat) : Conductor :=
  { c with ledger := { c.ledger with nextId := c.ledger.nextId + n } }

theorem spend_zero (c : Conductor) : c.spend 0 = c := rfl

theorem error_of_not_isOk {ε α : Type} {r : Except ε α} (h : (!r.isOk) = true) :
    ∃ e, r = .error e := by
  cases r with
  | error e => exact ⟨e, rfl⟩
  | ok a => cases h

theorem openBarrier_error (c : Conductor) (name : String) (roles : List Role)
    (timeout : Option Span) {e : GateRefusal} :
    (c.openBarrier name roles timeout).2 = .error e →
      (c.openBarrier name roles timeout).1 = c := by
  fun_cases c.openBarrier name roles timeout with
  | case1 gate e h =>
    obtain rfl := Gate.openBarrier_refused h
    exact fun _ => rfl
  | case2 =>
    intro h
    cases h

/-- A message fails to be made only where an address is not found. -/
theorem resolve_of_wireForm_error {ε : Type} {resolve : Role → Except ε Address} {cmd : Command}
    {e : ε} (h : cmd.wireForm resolve = .error e) : ∃ target, resolve target = .error e := by
  cases cmd with
  | throttle node target | disconnect node target =>
    cases ht : resolve target with
    | error e' =>
      simp only [Command.wireForm, ht] at h
      cases h
      exact ⟨target, ht⟩
    | ok a =>
      simp only [Command.wireForm, ht] at h
      cases h
  | terminate | remove | getAddress => cases h

theorem error_of_resolveTarget {target : Role} {e : FaultError}
    (h : c.resolveTarget target = .error e) : e = .unknownRole target := by
  unfold resolveTarget at h
  split at h
  · cases h
  · cases h
    rfl

/-- All commands but `remove` are acknowledged, so only a command of the same kind is in the way of
one. -/
theorem insert_error {node : Role} {kind : CommandKind} {e : LedgerRefusal} (hk : kind ≠ .remove)
    (h : (c.ledger.insert node kind ()).2 = .error e) : e = .alreadyPending node kind := by
  rcases Ledger.insert_eq_error_iff.mp h with ⟨-, hack⟩ | ⟨he, -⟩
  · cases kind with
    | remove => exact absurd rfl hk
    | throttle | disconnect | terminate | getAddress => cases hack
  · exact he

/-- A command that is not recorded is refused for another one; a recorded one that cannot be queued
is taken back. -/
theorem dispatch_error {s : SessionId} {node : Role} {kind : CommandKind} {m : Downlink}
    {e : FaultError} (hk : kind ≠ .remove) (h : (c.dispatch s node kind m).2 = .error e) :
    (c.dispatch s node kind m).1 = c ∧ e = .commandPending node kind ∨
    e = .send node kind ∧ ∃ id ledger, c.ledger.insert node kind () = (ledger, .ok id) ∧
      (c.dispatch s node kind m).1 = { c with ledger := (ledger.cancel node id).1 } := by
  revert h
  unfold dispatch
  rcases hi : c.ledger.insert node kind () with ⟨ledger, e' | id⟩
  · obtain rfl := Ledger.insert_refused hi
    obtain rfl := insert_error hk (congrArg Prod.snd hi)
    intro h
    cases h
    exact Or.inl ⟨rfl, rfl⟩
  · dsimp only
    split
    · nofun
    · intro h
      cases h
      exact Or.inr ⟨rfl, id, ledger, rfl, rfl⟩

/-- The same of issuing it, which may also find the node or the target unknown. -/
theorem issue_error {cmd : Command} {e : FaultError} (h : (c.issue cmd).2 = .error e) :
    (c.issue cmd).1 = c ∧ e ≠ .send cmd.node cmd.kind ∨
    e = .send cmd.node cmd.kind ∧ ∃ id ledger,
      c.ledger.insert cmd.node cmd.kind () = (ledger, .ok id) ∧
      (c.issue cmd).1 = { c with ledger := (ledger.cancel cmd.node id).1 } := by
  revert h
  fun_cases c.issue cmd with
  | case1 => nofun
  | case2 =>
    intro h
    cases h
    exact Or.inl ⟨rfl, nofun⟩
  | case3 _ _ _ e' hw =>
    obtain ⟨target, ht⟩ := resolve_of_wireForm_error hw
    obtain rfl := error_of_resolveTarget ht
    intro h
    cases h
    exact Or.inl ⟨rfl, nofun⟩
  | case4 => nofun
  | case5 hk =>
    intro h
    refine (dispatch_error hk h).imp_left fun ⟨hsame, he⟩ => ⟨hsame, ?_⟩
    rw [he]
    nofun

/-- What is left of a command that was refused is the id that it may have used up. -/
theorem issue_of_error (hs : c.ledger.Sound) (hc : c.ledger.Compact) {cmd : Command}
    {e : FaultError} (h : (c.issue cmd).2 = .error e) :
    (c.issue cmd).1 = c.spend (c.idsSpent (.issue cmd)) := by
  rw [idsSpent, h]
  rcases issue_error h with ⟨hsame, hne⟩ | ⟨rfl, id, ledger, hi, heq⟩
  · rw [if_neg fun he => hne (Except.error.inj he), hsame, spend_zero]
  · rw [if_pos rfl, heq, Ledger.cancel_inserted_eq hs hc hi, spend]

/-- In every run, an operation that is refused leaves the conductor as it was, but that a command
which cannot be queued has used up an id. What the gate refuses leaves the gate as it was, and no
trace in what it answers later. -/
theorem refused_unchanged (settings : Settings) :
    (∀ (g : Gate) (ops : List Gate.Operation),
      (∀ op e, (g.answer op).2 = .error e → (g.answer op).1 = g) ∧
      g.run (g.accepted ops) = g.run ops ∧
      g.history (g.accepted ops) = (g.history ops).filter Gate.Entry.isAccepted) ∧
    ∀ (ops : List Operation) (op : Operation), (run { settings } ops).refuses op = true →
      (run { settings } ops).after op =
        (run { settings } ops).spend ((run { settings } ops).idsSpent op) := by
  refine ⟨fun g ops => ⟨?_, g.run_accepted ops, g.history_accepted ops⟩, ?_⟩
  · exact fun op e h => Gate.answer_refused (Prod.ext rfl h)
  · intro ops op hr
    obtain ⟨hs, hc⟩ := ledger_run settings ops
    generalize run { settings } ops = c at hr hs hc ⊢
    cases op with
    | handshake s name address =>
      obtain ⟨e, he⟩ := error_of_not_isOk hr
      exact handshake_error c s name address he
    | openBarrier name roles timeout =>
      obtain ⟨e, he⟩ := error_of_not_isOk hr
      exact openBarrier_error c name roles timeout he
    | enterBarrier role name claimed =>
      obtain ⟨e, he⟩ := error_of_not_isOk hr
      exact enterBarrier_error c role name claimed he
    | failBarrier role name claimed =>
      obtain ⟨e, he⟩ := error_of_not_isOk hr
      exact failBarrier_error c role name claimed he
    | issue cmd =>
      obtain ⟨e, he⟩ := error_of_not_isOk hr
      exact issue_of_error hs hc he
    | acknowledge role ack =>
      obtain ⟨e, he⟩ := error_of_not_isOk hr
      exact acknowledge_error c role ack he
    | _ => cases hr

/-- A command for a node whose line is shut is the one that uses up an id. -/
theorem refused_unchanged_unqueued :
    let ops : List Operation := [.attach 0, .handshake 0 "r" default, .shut 0]
    let op : Operation := .issue (.getAddress ⟨"r"⟩)
    let c := run { settings := {} } ops
    c.refuses op = true ∧ c.ledger.nextId = 1 ∧ c.after op = c.spend 1 := by
  intro ops op c
  have hr : c.refuses op = true := by decide +kernel
  have hn : c.idsSpent op = 1 := by decide +kernel
  have hafter : c.after op = c.spend (c.idsSpent op) := (refused_unchanged {}).2 ops op hr
  exact ⟨hr, by decide +kernel, hn ▸ hafter⟩

end Conductor

end Rendezvous
