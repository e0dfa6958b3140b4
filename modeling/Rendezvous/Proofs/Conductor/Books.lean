import Rendezvous.Proofs.Conductor.Commands
import Rendezvous.Proofs.Conductor.Quiet

/-!
# The books of a conductor

The counters of a conductor agree with what it keeps (`Books`): of the barriers that were opened and
of the commands that were issued, those that are not counted as ended are still there. `Books.after`
says that every operation keeps this. For barriers that follows from its turn and the effects that
it counts (`counts_after`), for commands from its dealing.
-/

namespace Rendezvous

/-- The counters of barriers: how many were opened, succeeded and failed. -/
def Tally.barriers (t : Tally) : Nat × Nat × Nat :=
  (t.barriersOpened, t.barriersSucceeded, t.barriersFailed)

theorem Tally.barriers_of_accounts {t t' : Tally} (h : t'.accounts = t.accounts) :
    t'.barriers = t.barriers :=
  show t'.accounts.barriers = t.accounts.barriers by rw [h]

theorem Tally.commands_of_accounts {t t' : Tally} (h : t'.accounts = t.accounts) :
    t'.commands = t.commands :=
  show t'.accounts.commands = t.accounts.commands by rw [h]

theorem Awaited.countP_openEffects (b : Awaited) :
    b.openEffects.countP GateEffect.isSuccess = 0 ∧
      b.openEffects.countP GateEffect.isFailure = 0 := by
  unfold openEffects
  cases b.timeout <;> exact ⟨rfl, rfl⟩

/-- One outcome is published at the end of a barrier. -/
theorem Awaited.Ends.countP {b : Awaited} {failure : Option Reason} {effects : List GateEffect}
    (h : b.Ends failure effects) :
    effects.countP GateEffect.isSuccess + effects.countP GateEffect.isFailure = 1 := by
  have hend : ∀ failure : Option Reason, (b.endEffects failure).countP GateEffect.isSuccess +
      (b.endEffects failure).countP GateEffect.isFailure = 1 := by
    intro failure
    unfold endEffects
    cases b.timeout <;> cases failure <;> rfl
  cases h with
  | quietly failure => exact hend failure
  | relayed role _ => exact hend (some (.failed role))

namespace Conductor

variable {c c' : Conductor} {op : Operation} {t : Option SessionId} {node : Role}

/-! ## Counting barriers -/

/-- Whether an operation opens a barrier. -/
def opens (c : Conductor) : Operation → Bool
  | .openBarrier name roles timeout => (c.openBarrier name roles timeout).2.isOk
  | _ => false

/-- What an operation adds to the counters of barriers: one for an opening, and one for each outcome
among its effects. -/
def CountsBarriers (c : Conductor) (op : Operation) (c' : Conductor) : Prop :=
  c'.tally.barriers = (c.tally.barriersOpened + (if c.opens op then 1 else 0),
    c.tally.barriersSucceeded + (c.effects op).countP GateEffect.isSuccess,
    c.tally.barriersFailed + (c.effects op).countP GateEffect.isFailure)

/-- An operation of which no barrier takes notice. -/
theorem CountsBarriers.of_same (he : c.effects op = []) (hop : c.opens op = false)
    (h : c'.tally.barriers = c.tally.barriers) : CountsBarriers c op c' := by
  unfold CountsBarriers
  rw [he, hop, h]
  rfl

/-- An operation that opens no barrier and settles the gate somewhere. -/
theorem CountsBarriers.of_settled {effects : List GateEffect} {g : Gate} (c₁ : Conductor)
    (he : c.effects op = effects) (hop : c.opens op = false)
    (h₁ : c₁.tally.barriers = c.tally.barriers)
    (h' : c'.tally.barriers = (c₁.settleGate (effects, g)).tally.barriers) :
    CountsBarriers c op c' := by
  simp only [Tally.barriers, Prod.mk.injEq] at h₁
  unfold CountsBarriers
  rw [h', tally_settleGate, hop, he]
  simp only [Tally.barriers, h₁]
  rfl

theorem counts_handshake (c : Conductor) (s : SessionId) (name : String) (address : Address) :
    CountsBarriers c (.handshake s name address) (c.handshake s name address).1 := by
  refine .of_same rfl rfl ?_
  have hgreeting := greeting c s name address
  generalize c.handshake s name address = p at hgreeting ⊢
  cases hgreeting with
  | refused e => rfl
  | registers roster waiting =>
    dsimp only
    rw [foldl_post_eq]
    rfl

theorem counts_sessionClosed (c : Conductor) (s : SessionId) (role : Option Role) :
    CountsBarriers c (.sessionClosed s role) (c.sessionClosed s role) := by
  cases role with
  | none => exact .of_same rfl rfl rfl
  | some role =>
    cases hown : (c.roster.members.get? role).any (·.handle = s) with
    | true =>
      obtain ⟨roster, -, heq⟩ := sessionClosed_of_owned hown
      rw [heq, failPending_eq]
      exact .of_settled { c with connections := c.connections.erase s, roster }
        (if_pos hown) rfl rfl rfl
    | false =>
      rw [sessionClosed_of_not_owned hown]
      exact .of_same (by simp [effects, hown]) rfl rfl

theorem counts_openBarrier (c : Conductor) (name : String) (roles : List Role)
    (timeout : Option Span) :
    CountsBarriers c (.openBarrier name roles timeout) (c.openBarrier name roles timeout).1 := by
  rcases h : c.gate.openBarrier name roles (timeout.or c.settings.defaultTimeout)
      c.roster.isRegistered with ⟨gate, e | ⟨epoch, effects⟩⟩
  · have hopens : c.opens (.openBarrier name roles timeout) = false := by
      simp only [opens, openBarrier, h]
      rfl
    exact .of_same (by simp only [effects, h]) hopens (by simp only [openBarrier, h])
  · have hopens : c.opens (.openBarrier name roles timeout) = true := by
      simp only [opens, openBarrier, h]
      rfl
    unfold CountsBarriers
    rw [hopens]
    simp only [Conductor.effects, openBarrier, h]
    rw [tally_settleGate]
    rfl

theorem counts_enterBarrier (c : Conductor) (role : Role) (name : String)
    (claimed : Option Role) :
    CountsBarriers c (.enterBarrier role name claimed) (c.enterBarrier role name claimed).1 := by
  unfold enterBarrier
  cases hclaim : checkClaim role claimed with
  | error e => exact .of_same (by simp [effects, hclaim]) rfl rfl
  | ok u =>
    rcases h : c.gate.enter role name with ⟨gate, e | effects⟩
    · exact .of_same (by simp [effects, h]) rfl rfl
    · exact .of_settled c (by simp [Conductor.effects, hclaim, h]) rfl rfl rfl

theorem counts_failBarrier (c : Conductor) (role : Role) (name : String) (claimed : Role) :
    CountsBarriers c (.failBarrier role name claimed) (c.failBarrier role name claimed).1 := by
  unfold failBarrier
  cases hclaim : checkClaim role (some claimed) with
  | error e => exact .of_same (by simp [effects, hclaim]) rfl rfl
  | ok u =>
    rcases h : c.gate.fail role name with ⟨gate, e | effects⟩
    · exact .of_same (by simp [effects, h]) rfl rfl
    · exact .of_settled c (by simp [Conductor.effects, hclaim, h]) rfl rfl rfl

theorem counts_barrierTimeout (c : Conductor) (epoch : Epoch) :
    CountsBarriers c (.barrierTimeout epoch) (c.barrierTimeout epoch) := by
  unfold barrierTimeout
  rw [disarm_eq]
  exact .of_settled { c with timer := (c.disarm epoch).timer } rfl rfl rfl rfl

theorem counts_remove (he : c.effects op =
    if c.roster.isRegistered node then (c.gate.departed node (.removed node)).1 else [])
    (hop : c.opens op = false) : CountsBarriers c op (c.remove node) := by
  cases hreg : c.roster.isRegistered node with
  | true =>
    rw [hreg, if_pos rfl] at he
    obtain ⟨roster, s, -, -, heq⟩ := remove_of_registered hreg
    rw [heq, failPending_eq]
    exact .of_settled { c with roster } he hop rfl rfl
  | false =>
    rw [hreg] at he
    rw [remove_of_not_registered hreg]
    exact .of_same he hop rfl

theorem counts_issue (c : Conductor) (cmd : Command) :
    CountsBarriers c (.issue cmd) (c.issue cmd).1 := by
  have he : cmd.kind ≠ .remove → c.effects (.issue cmd) = [] := fun hk => if_neg fun h => hk h.1
  have hissuing := issuing c cmd
  generalize c.issue cmd = r at hissuing ⊢
  cases hissuing with
  | removes hk => exact counts_remove (by simp [effects, hk]) rfl
  | refused hk | sends hk | undone hk => exact .of_same (he hk) rfl rfl

theorem counts_shutdown (c : Conductor) : CountsBarriers c .shutdown c.shutdown := by
  cases hclosing : c.closing with
  | true =>
    rw [show c.shutdown = c from if_pos hclosing]
    exact .of_same (if_pos hclosing) rfl rfl
  | false =>
    have he : c.effects .shutdown = (c.gate.abort .shutdown).1 := by simp [effects, hclosing]
    obtain ⟨ledger, tally, verdicts, heq, -, -, rfl⟩ := shutdown_of_open hclosing
    rw [heq, foldl_post_eq _ (fun s => s) fun _ => .close]
    unfold CountsBarriers
    rw [he]
    rfl

theorem counts_after (c : Conductor) (op : Operation) (hop : ∀ f, op ≠ .count f) :
    CountsBarriers c op (c.after op) := by
  cases op with
  | handshake s name address => exact counts_handshake c s name address
  | sessionClosed s role => exact counts_sessionClosed c s role
  | openBarrier name roles timeout => exact counts_openBarrier c name roles timeout
  | enterBarrier role name claimed => exact counts_enterBarrier c role name claimed
  | failBarrier role name claimed => exact counts_failBarrier c role name claimed
  | barrierTimeout epoch => exact counts_barrierTimeout c epoch
  | requestAddress s node => exact .of_same rfl rfl (by rw [after, requestAddress_eq])
  | issue cmd => exact counts_issue c cmd
  | acknowledge role ack =>
    exact .of_same rfl rfl (by rw [after, acknowledge_eq]; rfl)
  | cancelCommand node id after =>
    exact .of_same rfl rfl (by rw [Conductor.after, cancelCommand_eq]; rfl)
  | remove node => exact counts_remove rfl rfl
  | shutdown => exact counts_shutdown c
  | attach | tick | take | shut => exact .of_same rfl rfl rfl
  | count f => exact absurd rfl (hop f)

/-! ## Barriers -/

/-- Of the barriers that were opened all have ended but the awaited one. -/
def BarriersBalance (c : Conductor) : Prop :=
  c.tally.barriersOpened = c.tally.barriersSucceeded + c.tally.barriersFailed +
    if c.gate.awaited.isSome then 1 else 0

/-- A barrier is opened only if none is awaited, and it is announced. -/
theorem idle_of_opens (h : c.opens op = true) :
    c.gate.awaited = none ∧ c.effects op ≠ [] := by
  cases op with
  | openBarrier name roles timeout =>
    rcases hg : c.gate.openBarrier name roles (timeout.or c.settings.defaultTimeout)
        c.roster.isRegistered with ⟨gate, e | ⟨epoch, effects⟩⟩
    · simp only [opens, openBarrier, hg] at h
      cases h
    · obtain ⟨hidle, -, -, -, heffects, -⟩ := Gate.openBarrier_ok hg
      refine ⟨hidle, ?_⟩
      simp only [Conductor.effects, hg, heffects]
      exact List.cons_ne_nil _ _
  | _ => cases h

theorem BarriersBalance.after (h : c.BarriersBalance) (hc : c.Sound)
    (hop : ∀ f, op ≠ .count f) : (c.after op).BarriersBalance := by
  have hcounts : CountsBarriers c op (c.after op) := counts_after c op hop
  unfold BarriersBalance CountsBarriers Tally.barriers at *
  simp only [Prod.mk.injEq] at hcounts
  obtain ⟨hopened, hsucceeded, hfailed⟩ := hcounts
  -- without effects no barrier is opened and none ends
  have hsilent : c.effects op = [] → c.opens op = false := fun he =>
    Bool.eq_false_iff.mpr fun ho => (idle_of_opens ho).2 he
  rw [hopened, hsucceeded, hfailed]
  cases turn hc op with
  | rests he hg =>
    rw [hsilent he, he, hg]
    simpa using h
  | arrives _ he ha _ hg =>
    rw [hsilent he, he, hg]
    rw [ha] at h
    simpa using h
  | opens hop he hok hi _ _ _ _ _ hg =>
    rw [he, (Awaited.countP_openEffects _).1, (Awaited.countP_openEffects _).2, hg, hop]
    rw [hi] at h
    simp only [Conductor.opens, hok]
    simpa [Except.isOk, Except.toBool] using h
  | ends ha he _ hg =>
    have hnot : c.opens op = false := Bool.eq_false_iff.mpr fun ho => by
      rw [(idle_of_opens ho).1] at ha
      cases ha
    have hone := he.countP
    rw [ha] at h
    rw [hnot, hg]
    simp only [Option.isSome_some, if_true, Option.isSome_none, Bool.false_eq_true, if_false] at h ⊢
    omega

/-! ## Commands -/

/-- What a conductor keeps of commands agrees with its counters. -/
structure CommandsBalance (c : Conductor) : Prop where
  ledger : c.ledger.Sound
  /-- Of the commands that were issued all have ended but the outstanding ones. -/
  issued : c.tally.commandsIssued =
    c.tally.commandsAcked + c.tally.commandsFailed + c.ledger.size
  registered : ∀ r, c.ledger.queue r ≠ [] → (c.roster.members.get? r).isSome
  /-- No command ends before it is issued. -/
  dated : ∀ p ∈ c.verdicts, p.1 < c.ledger.nextId
  /-- No command that has ended is outstanding. -/
  settled : ∀ p ∈ c.verdicts, ∀ node, ∀ e ∈ c.ledger.queue node, e.id ≠ p.1

/-- No command is outstanding for a free role. -/
theorem CommandsBalance.queue_eq_nil (h : c.CommandsBalance) {r : Role}
    (hfree : c.roster.members.get? r = none) : c.ledger.queue r = [] := by
  refine Decidable.not_not.mp fun hne => ?_
  have hregistered := h.registered r hne
  rw [hfree] at hregistered
  cases hregistered

/-- A command that was recorded is outstanding, or it has ended. -/
def Accounted (c : Conductor) (node : Role) (e : LedgerEntry Unit) : Prop :=
  e ∈ c.ledger.queue node ∨ ∃ v, (e.id, v) ∈ c.verdicts

/-- The books agree behind a command that is recorded. -/
theorem CommandsBalance.recorded (h : c.CommandsBalance) {kind : CommandKind} {id : Nat}
    (registered : (c.roster.members.get? node).isSome)
    (recorded : c.ledger.insert node kind () = (c'.ledger, .ok id))
    (members : c'.roster.members = c.roster.members) (verdicts : c'.verdicts = c.verdicts)
    (counters : c'.tally.commands =
      (c.tally.commandsIssued + 1, c.tally.commandsAcked, c.tally.commandsFailed)) :
    c'.CommandsBalance := by
  have hissued := h.issued
  obtain ⟨-, -, hid, hl⟩ := Ledger.insert_ok recorded
  have hqueue := Ledger.queue_of_insert recorded
  have hnext : c'.ledger.nextId = c.ledger.nextId + 1 := by rw [hl, hid]
  simp only [Tally.commands, Prod.mk.injEq] at counters
  refine ⟨h.ledger.insert recorded, ?_, ?_, ?_, ?_⟩
  · rw [counters.1, counters.2.1, counters.2.2, Ledger.size_of_insert h.ledger recorded]
    omega
  · intro r hr
    rw [members]
    rw [hqueue] at hr
    split at hr
    · next hn => exact hn ▸ registered
    · exact h.registered r hr
  · intro p hp
    rw [verdicts] at hp
    rw [hnext]
    exact Nat.lt_succ_of_lt (h.dated p hp)
  · intro p hp r e he
    rw [verdicts] at hp
    rw [hqueue] at he
    split at he
    · rcases List.mem_append.mp he with he | he
      · exact h.settled p hp _ e he
      · -- the id of the new command is higher than those of all others
        rw [List.mem_singleton.mp he, hid]
        exact Nat.ne_of_gt (h.dated p hp)
    · exact h.settled p hp r e he

/-- The books agree behind the end of some commands. -/
theorem CommandsBalance.ended (h : c.CommandsBalance) {ended : List Ended}
    (ledger : c.ledger.Without c'.ledger (ended.map fun x => (x.node, x.entry)))
    (registered : ∀ r, (c.roster.members.get? r).isSome → c'.ledger.queue r ≠ [] →
      (c'.roster.members.get? r).isSome)
    (verdicts : c'.verdicts = c.verdicts ++ ended.map fun x => (x.entry.id, x.verdict))
    (counters : c'.tally.commands = (c.tally.commandsIssued,
      c.tally.commandsAcked + ended.countP Ended.isAcked,
      c.tally.commandsFailed + ended.countP (!·.isAcked))) : c'.CommandsBalance := by
  have hissued := h.issued
  have hcount := List.length_eq_countP_add_countP Ended.isAcked (l := ended)
  have hsize := ledger.size
  simp only [Tally.commands, Prod.mk.injEq] at counters
  have hmem : ∀ r, ∀ e ∈ c'.ledger.queue r, e ∈ c.ledger.queue r ∧
      ∀ x ∈ ended, e.id ≠ x.entry.id := by
    intro r e he
    rw [ledger.queue] at he
    obtain ⟨hmem, hnot⟩ := List.mem_filter.mp he
    refine ⟨hmem, fun x hx heq => of_decide_eq_true hnot ?_⟩
    exact List.mem_map.mpr ⟨(x.node, x.entry), List.mem_map.mpr ⟨x, hx, rfl⟩, heq.symm⟩
  refine ⟨ledger.sound, ?_, ?_, ?_, ?_⟩
  · rw [List.length_map] at hsize
    rw [counters.1, counters.2.1, counters.2.2]
    simp only [Bool.not_eq_true, Bool.decide_eq_false] at hcount
    omega
  · intro r hr
    refine registered r (h.registered r fun hnil => ?_) hr
    rw [ledger.queue, hnil] at hr
    exact hr rfl
  · intro p hp
    rw [verdicts] at hp
    refine Nat.lt_of_lt_of_le ?_ ledger.nextId
    rcases List.mem_append.mp hp with hp | hp
    · exact h.dated p hp
    · obtain ⟨x, hx, rfl⟩ := List.mem_map.mp hp
      exact h.ledger.fresh x.node x.entry (ledger.mem _ (List.mem_map.mpr ⟨x, hx, rfl⟩))
  · intro p hp r e he
    obtain ⟨he, hnot⟩ := hmem r e he
    rw [verdicts] at hp
    rcases List.mem_append.mp hp with hp | hp
    · exact h.settled p hp r e he
    · obtain ⟨x, hx, rfl⟩ := List.mem_map.mp hp
      exact hnot x hx

theorem CommandsBalance.deal (h : c.CommandsBalance) (hd : Deal c op c') :
    c'.CommandsBalance := by
  cases hd with
  | issues _ _ registered recorded members verdicts counters =>
    exact h.recorded registered recorded members verdicts counters
  | ends _ _ ledger registered verdicts counters =>
    exact h.ended ledger registered verdicts counters

theorem Accounted.deal {e : LedgerEntry Unit} (h : c.Accounted node e) (hd : Deal c op c') :
    c'.Accounted node e := by
  cases hd with
  | issues _ _ _ recorded _ verdicts =>
    rcases h with he | ⟨v, hv⟩
    · refine Or.inl ?_
      rw [Ledger.queue_of_insert recorded]
      split
      · next hn => exact List.mem_append_left _ (hn ▸ he)
      · exact he
    · exact Or.inr ⟨v, verdicts ▸ hv⟩
  | ends ended _ ledger _ verdicts =>
    rcases h with he | ⟨v, hv⟩
    · by_cases hid : e.id ∈ (ended.map fun x => (x.node, x.entry)).map (·.2.id)
      · -- it is one of those that end
        rw [List.map_map] at hid
        obtain ⟨x, hx, hxid⟩ := List.mem_map.mp hid
        refine Or.inr ⟨x.verdict, ?_⟩
        rw [verdicts, ← hxid]
        exact List.mem_append_right _ (List.mem_map.mpr ⟨x, hx, rfl⟩)
      · refine Or.inl ?_
        rw [ledger.queue]
        exact List.mem_filter.mpr ⟨he, decide_eq_true hid⟩
    · refine Or.inr ⟨v, ?_⟩
      rw [verdicts]
      exact List.mem_append_left _ hv

/-! ## Both -/

/-- The counters of a conductor agree with what it keeps. -/
structure Books (c : Conductor) : Prop where
  barriers : c.BarriersBalance
  commands : c.CommandsBalance

theorem books_new (settings : Settings) : ({ settings } : Conductor).Books where
  barriers := rfl
  commands := ⟨Ledger.sound_new, rfl, fun _ h => absurd rfl h, nofun, nofun⟩

theorem Books.after (h : c.Books) (hc : c.Sound) (op : Operation) (hop : ∀ f, op ≠ .count f) :
    (c.after op).Books :=
  ⟨h.barriers.after hc hop, h.commands.deal (deal h.commands.ledger op hop)⟩

theorem Books.of_quiet (h : c.Books) (hq : Quiet t c c') : c'.Books := by
  have hbarriers := Tally.barriers_of_accounts hq.accounts
  have hcommands := Tally.commands_of_accounts hq.accounts
  simp only [Tally.barriers, Tally.commands, Prod.mk.injEq] at hbarriers hcommands
  refine ⟨?_, ?_, ?_, ?_, ?_, ?_⟩
  · unfold BarriersBalance
    rw [hbarriers.1, hbarriers.2.1, hbarriers.2.2, hq.gate]
    exact h.barriers
  · exact hq.ledger ▸ h.commands.ledger
  · rw [hcommands.1, hcommands.2.1, hcommands.2.2, hq.ledger]
    exact h.commands.issued
  · intro r hr
    rw [hq.ledger] at hr
    rw [hq.members]
    exact h.commands.registered r hr
  · rw [hq.verdicts, hq.ledger]
    exact h.commands.dated
  · rw [hq.verdicts, hq.ledger]
    exact h.commands.settled

theorem Accounted.of_quiet {e : LedgerEntry Unit} (h : c.Accounted node e) (hq : Quiet t c c') :
    c'.Accounted node e := by
  unfold Accounted
  rw [hq.ledger, hq.verdicts]
  exact h

theorem verdict?_of_verdicts (h : c'.verdicts = c.verdicts) (handle : CommandHandle) :
    c'.verdict? handle = c.verdict? handle := by
  unfold verdict?
  rw [h]

/-- The verdict on a command is awaited exactly as long as the command is outstanding. -/
theorem verdict?_eq_none_iff (h : c.CommandsBalance) {kind : CommandKind} {id : Nat}
    (ha : c.Accounted node ⟨kind, id, ()⟩) :
    c.verdict? ⟨node, kind, some id⟩ = none ↔ (node, ⟨kind, id, ()⟩) ∈ c.ledger.toList := by
  rw [Ledger.mem_toList h.ledger.ordered]
  unfold verdict?
  dsimp only
  rw [Option.map_eq_none_iff, List.find?_eq_none]
  constructor
  · intro hnone
    rcases ha with he | ⟨v, hv⟩
    · exact he
    · exact absurd (decide_eq_true rfl) (hnone _ hv)
  · intro he p hp hid
    exact h.settled p hp node _ he (of_decide_eq_true hid).symm

/-- There is no verdict on an outstanding command yet. -/
theorem CommandsBalance.find?_verdicts (h : c.CommandsBalance) {e : LedgerEntry Unit}
    (he : e ∈ c.ledger.queue node) : c.verdicts.find? (·.1 = e.id) = none :=
  List.find?_eq_none.mpr fun p hp hid =>
    h.settled p hp node e he (of_decide_eq_true hid).symm

/-- With the end of the wait for it, an outstanding command is the one that leaves the ledger, and
its verdict is that the wait has ended. -/
theorem CommandsBalance.cancelled (h : c.CommandsBalance) {e : LedgerEntry Unit}
    (he : e ∈ c.ledger.queue node) (after : Span) :
    let c' := c.cancelCommand node e.id after
    (∀ x, x ∈ c'.ledger.toList ↔ x ∈ c.ledger.toList ∧ x ≠ (node, e)) ∧
    c'.verdict? ⟨node, e.kind, some e.id⟩ = some (.error (.timeout node e.kind after)) := by
  obtain ⟨ledger, hcancel, hw⟩ := h.ledger.cancel_of_mem he
  have heq : c.cancelCommand node e.id after =
      failCommand { c with ledger } e.id (.timeout node e.kind after) := by
    unfold cancelCommand
    rw [hcancel]
  rw [heq]
  constructor
  · rintro ⟨r, x⟩
    show (r, x) ∈ ledger.toList ↔ _
    rw [Ledger.mem_toList hw.sound.ordered, Ledger.mem_toList h.ledger.ordered, hw.queue,
      List.mem_filter]
    refine and_congr_right fun hx => ?_
    rw [decide_eq_true_iff, List.map_singleton, List.mem_singleton]
    refine not_congr ⟨fun hid => ?_, fun hxe => congrArg (·.2.id) hxe⟩
    obtain ⟨rfl, rfl⟩ := h.ledger.eq_of_id hx he hid
    rfl
  · show ((c.verdicts ++ [_]).find? _).map _ = _
    rw [List.find?_append, h.find?_verdicts he, Option.none_or]
    simp

/-- Commands that fail together, as their nodes are gone, have that for a verdict. -/
theorem verdict?_of_lost (h : c.CommandsBalance) {gone : List (Role × LedgerEntry Unit)}
    (hmem : ∀ x ∈ gone, x.2 ∈ c.ledger.queue x.1)
    (hv : c'.verdicts = c.verdicts ++ gone.map fun x => (x.2.id, .error (.sessionLost x.1)))
    {x : Role × LedgerEntry Unit} (hx : x ∈ gone) :
    c'.verdict? ⟨x.1, x.2.kind, some x.2.id⟩ = some (.error (.sessionLost x.1)) := by
  unfold verdict?
  dsimp only
  rw [hv, List.find?_append, h.find?_verdicts (hmem x hx), Option.none_or, List.find?_map, Option.map_map]
  show (gone.find? fun y => y.2.id = x.2.id).map _ = _
  cases hfind : gone.find? fun y => y.2.id = x.2.id with
  | none => exact absurd (decide_eq_true rfl) (List.find?_eq_none.mp hfind x hx)
  | some y =>
    -- an id stands in one place, so it is this command that was found
    have hy := List.mem_of_find?_eq_some hfind
    have hid := List.find?_some hfind
    obtain ⟨hnode, -⟩ := h.ledger.eq_of_id (hmem y hy) (hmem x hx) (of_decide_eq_true hid)
    rw [Option.map_some, Function.comp_apply, hnode]

end Conductor

end Rendezvous
