import Rendezvous.Proofs.Conductor.Topics

/-!
# Errands

An errand is an accepted command with the message that its node must answer. Of such messages the
line of a session holds those that are queued when an errand is issued (`Issued`), and no other
operation adds one (`demands_issue_of_none`, `demands_after`). An acknowledgement that answers the message is of the kind
that the command waits for (`Errand.Wired`).
-/

namespace Rendezvous

/-- The message that must be answered which an item of a line is. -/
def Outbound.demand? : Outbound → Option Downlink
  | .message m => if m.isConfirmed then some m else none
  | .close => none

namespace Conductor

variable {c c' : Conductor} {s : SessionId} {op : Operation} {node : Role}

/-! ## Messages that must be answered -/

/-- The messages that were queued for a session and must be answered. -/
def demands (c : Conductor) (s : SessionId) : List Downlink :=
  (c.line s).queued.filterMap Outbound.demand?

theorem demands_of_queued (h : (c'.line s).queued = (c.line s).queued) :
    c'.demands s = c.demands s := by
  unfold demands
  rw [h]

theorem demands_post (c : Conductor) (s s' : SessionId) (o : Outbound) :
    (c.post s' o).demands s =
      c.demands s ++ if s = s' ∧ (c.line s).isOpen = true then o.demand?.toList else [] :=
  filterMap_post Outbound.demand? c s s' o

/-- Only what is about commands must be answered. -/
theorem Adds.demands {topics : List Topic} (h : Adds topics c c' s) (hc : .command ∉ topics) :
    c'.demands s = c.demands s := by
  refine h.filterMap_eq fun o ho => ?_
  cases o with
  | close => rfl
  | message m =>
    refine if_neg fun hm => hc ?_
    rwa [← (Downlink.isConfirmed_iff_topic m).mp hm]

/-! ## Issuing -/

/-- An accepted command that was told to its node. -/
structure Errand where
  node : Role
  kind : CommandKind
  id : Nat
  /-- What the node was told. -/
  message : Downlink
deriving DecidableEq, Repr

namespace Errand

/-- What the driver keeps of it. -/
def handle (x : Errand) : CommandHandle := ⟨x.node, x.kind, some x.id⟩

/-- What the ledger keeps of it as long as it is outstanding. -/
def entry (x : Errand) : LedgerEntry Unit := ⟨x.kind, x.id, ()⟩

end Errand

/-- Whether an acknowledgement is an answer to a message. -/
def Ack.answers (ack : Ack) : Downlink → Bool
  | .throttle .. | .disconnect .. | .terminate _ => ack.kind = .done
  | .getAddress node => ack.kind = .addressReply ∧ ack.claimed = some node
  | _ => false

/-- An answer to the message is what the command waits for, and it speaks for the node. -/
def Errand.Wired (x : Errand) : Prop :=
  ∀ ack : Ack, ack.answers x.message = true →
    x.kind.expectedAck = some ack.kind ∧ checkClaim x.node ack.claimed = .ok ()

/-- The errand that issuing a command makes, if the command is accepted and told to its node. -/
def errand? (c : Conductor) (cmd : Command) : Option Errand :=
  match (c.issue cmd).2, cmd.wireForm c.resolveTarget with
  | .ok ⟨node, kind, some id⟩, .ok (some message) => some ⟨node, kind, id, message⟩
  | _, _ => none

/-- An acknowledgement without an address speaks for nobody in particular. -/
theorem claimed_of_done {ack : Ack} (h : ack.kind = .done) : ack.claimed = none := by
  cases ack with
  | done | failed => rfl
  | address => cases h

/-- An answer to the message of a command is what the command waits for. -/
theorem wired_of_wireForm {ε : Type} {resolve : Role → Except ε Address} {cmd : Command}
    {m : Downlink} (h : cmd.wireForm resolve = .ok (some m)) (id : Nat) :
    Errand.Wired ⟨cmd.node, cmd.kind, id, m⟩ := by
  have hdone : ∀ ack : Ack, decide (ack.kind = .done) = true →
      some AckKind.done = some ack.kind ∧ checkClaim cmd.node ack.claimed = .ok () := by
    intro ack hack
    have hkind := of_decide_eq_true hack
    rw [claimed_of_done hkind, hkind]
    exact ⟨rfl, rfl⟩
  cases cmd with
  | throttle node target | disconnect node target =>
    cases hr : resolve target with
    | error e =>
      simp only [Command.wireForm, hr] at h
      cases h
    | ok a =>
      simp only [Command.wireForm, hr] at h
      cases h
      exact hdone
  | terminate node exit =>
    cases h
    exact hdone
  | getAddress node =>
    cases h
    intro ack hack
    obtain ⟨hkind, hclaimed⟩ := of_decide_eq_true hack
    rw [hkind, hclaimed]
    exact ⟨rfl, if_pos rfl⟩
  | remove => cases h

/-- What issuing an errand comes to. -/
structure Issued (c : Conductor) (cmd : Command) (x : Errand) : Prop where
  node : x.node = cmd.node
  wired : x.Wired
  recorded : c.ledger.insert x.node x.kind () = ((c.issue cmd).1.ledger, .ok x.id)
  members : (c.issue cmd).1.roster.members = c.roster.members
  verdicts : (c.issue cmd).1.verdicts = c.verdicts
  /-- The message is queued for the session of the node and for no other one. -/
  demands : ∀ s, (c.issue cmd).1.demands s =
    c.demands s ++ if c.roster.binds s cmd.node then [x.message] else []
  isOpen : ∀ s, c.roster.binds s cmd.node = true → (c.line s).isOpen = true

theorem issued_of_errand? {cmd : Command} {x : Errand} (h : c.errand? cmd = some x) :
    Issued c cmd x := by
  have hissuing := issuing c cmd
  unfold errand? at h
  generalize hr : c.issue cmd = r at hissuing h
  cases hissuing with
  | removes => cases h
  | refused => cases h
  | undone => cases h
  | @sends member m id ledger kind bound wire recorded isOpen =>
    rw [wire] at h
    cases h
    have hconfirmed := Command.isConfirmed_wireForm wire
    have hwired := wired_of_wireForm wire id
    have hbinds : ∀ s, c.roster.binds s cmd.node = true ↔ member.handle = s := by
      intro s
      unfold Roster.binds
      rw [bound, Option.any_some, decide_eq_true_eq]
    refine ⟨rfl, hwired, by rw [hr]; exact recorded, by rw [hr]; rfl, by rw [hr]; rfl, ?_, ?_⟩
    · intro s
      rw [hr]
      refine (demands_post _ s member.handle _).trans ?_
      by_cases hs : member.handle = s
      · subst hs
        rw [if_pos ⟨rfl, isOpen⟩, if_pos ((hbinds _).mpr rfl)]
        simp only [Outbound.demand?, hconfirmed, if_true, Option.toList_some]
        rfl
      · rw [if_neg fun h => hs h.1.symm, if_neg fun h => hs ((hbinds s).mp h)]
        rfl
    · intro s hs
      rw [← (hbinds s).mp hs]
      exact isOpen

/-- A command that is no errand queues nothing that must be answered. -/
theorem demands_issue_of_none {cmd : Command} (h : c.errand? cmd = none) :
    (c.issue cmd).1.demands s = c.demands s := by
  have hissuing := issuing c cmd
  unfold errand? at h
  generalize c.issue cmd = r at hissuing h
  cases hissuing with
  | removes => exact (adds_remove c s cmd.node).demands (by decide)
  | refused => rfl
  | undone => rfl
  | sends kind bound wire =>
    rw [wire] at h
    cases h

/-- A command that is recorded is an errand. -/
theorem errand?_of_accepted {cmd : Command} {id : Nat}
    (h : (c.issue cmd).2 = .ok ⟨cmd.node, cmd.kind, some id⟩) : c.errand? cmd ≠ none := by
  have hissuing := issuing c cmd
  unfold errand?
  generalize c.issue cmd = r at hissuing h ⊢
  cases hissuing with
  | removes => simp at h
  | refused | undone => cases h
  | sends kind bound wire =>
    rw [wire]
    nofun

/-- No operation but issuing a command queues a message that must be answered. -/
theorem demands_after (c : Conductor) (s : SessionId) (op : Operation)
    (ht : op.tends? ≠ some s) (hop : ∀ cmd, op ≠ .issue cmd) :
    (c.after op).demands s = c.demands s := by
  refine (adds_after c op ht).demands ?_
  cases op with
  | issue cmd => exact absurd rfl (hop cmd)
  | _ => simp [Operation.topics]

end Conductor

end Rendezvous
