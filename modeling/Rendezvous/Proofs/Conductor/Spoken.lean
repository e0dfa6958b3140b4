import Rendezvous.Proofs.Conductor.Turn

/-!
# What a session is told of barriers

The messages about barriers on the line of a session (`spoken`), and what an operation adds to them:
the words of its effects, for those roles that are bound to the session when the effects are carried
out (`says_after`). That is before a shutdown drains the roster, and after a role that departs has
been taken off it.
-/

namespace Rendezvous

/-- Whether a message is about a barrier. -/
def Downlink.isBarrier : Downlink → Bool
  | .enterBarrier .. | .failBarrier .. | .barrierResult .. => true
  | _ => false

/-- The message about a barrier that an item of a line is. -/
def Outbound.barrier? : Outbound → Option Downlink
  | .message m => if m.isBarrier then some m else none
  | .close => none

/-- What an effect of the gate tells a session, as one that hears for certain roles. -/
def GateEffect.words (hears : Role → Bool) : GateEffect → List Downlink
  | .announce name timeout recipients =>
    (recipients.filter hears).map fun r => .enterBarrier name timeout (some r)
  | .relayFailure name failedBy recipients =>
    (recipients.filter hears).map fun _ => .failBarrier name failedBy
  | .publish o => (o.recipients.filter hears).map fun _ => .barrierResult o.name o.isSuccess
  | .startTimer .. | .cancelTimer .. => []

/-- Whether a role is bound to a session. -/
def Roster.binds (r : Roster SessionId) (s : SessionId) (role : Role) : Bool :=
  (r.members.get? role).any (·.handle = s)

theorem Roster.binds_eq_true_iff {r : Roster SessionId} {s : SessionId} {role : Role} :
    r.binds s role = true ↔ ∃ m, r.members.get? role = some m ∧ m.handle = s := by
  unfold binds
  rw [Option.any_eq_true]
  simp only [decide_eq_true_eq]

/-- The message of a command must be answered. -/
theorem Command.isConfirmed_wireForm {ε : Type} {resolve : Role → Except ε Address} {cmd : Command}
    {m : Downlink} (h : cmd.wireForm resolve = .ok (some m)) : m.isConfirmed = true := by
  cases cmd with
  | throttle node target | disconnect node target =>
    cases hr : resolve target with
    | error e =>
      simp only [wireForm, hr] at h
      cases h
    | ok a =>
      simp only [wireForm, hr] at h
      cases h
      rfl
  | terminate | getAddress =>
    cases h
    rfl
  | remove => cases h

theorem Downlink.isBarrier_of_isConfirmed {m : Downlink} (h : m.isConfirmed = true) :
    m.isBarrier = false := by
  cases m with
  | enterBarrier | failBarrier | barrierResult => cases h
  | _ => rfl

namespace Conductor

variable {c c' : Conductor} {s : SessionId} {op : Operation}

/-- The messages about barriers that were queued for a session. -/
def spoken (c : Conductor) (s : SessionId) : List Downlink :=
  (c.line s).queued.filterMap Outbound.barrier?

/-! ## Adding to a line -/

/-- Between two conductors the line of a session was only added to, and these are the messages
about barriers that were queued on it, if it is open. -/
structure Says (c c' : Conductor) (s : SessionId) (ms : List Downlink) : Prop where
  spoken : c'.spoken s = c.spoken s ++ if (c.line s).isOpen then ms else []
  grows : ∃ items, c'.line s = { c.line s with queued := (c.line s).queued ++ items }

theorem Says.isOpen {ms : List Downlink} (h : Says c c' s ms) :
    (c'.line s).isOpen = (c.line s).isOpen := by
  obtain ⟨items, hline⟩ := h.grows
  rw [hline]

theorem Says.of_line (h : c'.line s = c.line s) : Says c c' s [] where
  spoken := by
    rw [ite_self, List.append_nil, Conductor.spoken, h]
    rfl
  grows := ⟨[], by rw [h, List.append_nil]⟩

theorem Says.of_lines (h : c'.lines = c.lines) : Says c c' s [] :=
  .of_line (by unfold line; rw [h])

theorem Says.trans {c'' : Conductor} {ms ms' : List Downlink} (h : Says c c' s ms)
    (h' : Says c' c'' s ms') : Says c c'' s (ms ++ ms') where
  spoken := by
    rw [h'.spoken, h.spoken, h.isOpen, List.append_assoc]
    cases (c.line s).isOpen <;> rfl
  grows := by
    obtain ⟨items, hline⟩ := h.grows
    obtain ⟨items', hline'⟩ := h'.grows
    exact ⟨items ++ items', by rw [hline', hline, List.append_assoc]⟩

theorem line_adjust (c : Conductor) (s s' : SessionId) (f : Line → Line)
    (hf : f { isOpen := false } = { isOpen := false }) :
    ({ c with lines := c.lines.adjust s' f } : Conductor).line s =
      if s = s' then f (c.line s) else c.line s := by
  unfold line
  rw [Table.get?_adjust]
  by_cases h : s = s'
  · subst h
    rw [if_pos rfl, if_pos rfl]
    cases c.lines.get? s with
    | none => exact hf.symm
    | some l => rfl
  · rw [if_neg h, if_neg h]

theorem line_post (c : Conductor) (s s' : SessionId) (o : Outbound) :
    (c.post s' o).line s = if s = s' then (c.line s).push o else c.line s :=
  line_adjust c s s' (·.push o) rfl

/-- The line of a session that is taken in is a new one, and all others are as before. -/
theorem line_attach (c : Conductor) (s s' : SessionId) :
    (c.attach s').line s = if s = s' then {} else c.line s := by
  unfold attach line
  rw [Table.get?_put]
  split <;> rfl

theorem says_post (c : Conductor) (s s' : SessionId) (o : Outbound) :
    Says c (c.post s' o) s (if s = s' then o.barrier?.toList else []) := by
  have hline := line_post c s s' o
  by_cases h : s = s'
  · rw [if_pos h] at hline ⊢
    cases hopen : (c.line s).isOpen with
    | true =>
      have hpush := hline.trans (if_pos hopen)
      refine ⟨?_, [o], hpush⟩
      rw [spoken, hpush, hopen, if_pos rfl, List.filterMap_append]
      cases ho : o.barrier? <;> simp [spoken, ho]
    | false =>
      have hsame := hline.trans (if_neg (Bool.eq_false_iff.mp hopen))
      exact ⟨by simp [spoken, hsame, hopen], [], by rw [hsame, List.append_nil]⟩
  · rw [if_neg h] at hline ⊢
    exact .of_line hline

theorem says_post_silent (c : Conductor) (s s' : SessionId) {o : Outbound}
    (h : o.barrier? = none) : Says c (c.post s' o) s [] := by
  have hsaid := says_post c s s' o
  rwa [h, Option.toList_none, ite_self] at hsaid

theorem says_foldl_post {α : Type} (c : Conductor) (s : SessionId) (s' : α → SessionId)
    (o : α → Outbound) (as : List α) (h : ∀ a, (o a).barrier? = none) :
    Says c (as.foldl (fun c a => c.post (s' a) (o a)) c) s [] := by
  induction as generalizing c with
  | nil => exact .of_lines rfl
  | cons a rest ih => exact (says_post_silent c s (s' a) (h a)).trans (ih _)

/-! ## Effects of the gate -/

theorem says_tell (c : Conductor) (s : SessionId) (role : Role) {m : Downlink}
    (hm : m.isBarrier = true) :
    Says c (c.tell role m) s (if c.roster.binds s role then [m] else []) := by
  unfold tell Roster.binds
  cases c.roster.members.get? role with
  | none => exact .of_lines rfl
  | some member =>
    have h := says_post c s member.handle (.message m)
    simp only [Outbound.barrier?, hm, if_true, Option.toList_some] at h
    by_cases hs : s = member.handle
    · rw [if_pos hs] at h
      simpa [hs.symm] using h
    · rw [if_neg hs] at h
      simpa [Ne.symm hs] using h

theorem says_tellAll (c : Conductor) (s : SessionId) (roles : List Role) {m : Role → Downlink}
    (hm : ∀ r, (m r).isBarrier = true) :
    Says c (c.tellAll roles m) s ((roles.filter (c.roster.binds s)).map m) := by
  induction roles generalizing c with
  | nil => exact .of_lines rfl
  | cons r rest ih =>
    have hroster : (c.tell r (m r)).roster = c.roster := by rw [tell_eq]
    have h := (says_tell c s r (hm r)).trans (ih (c.tell r (m r)))
    rw [hroster] at h
    have hcons : (if c.roster.binds s r then [m r] else []) ++
        (rest.filter (c.roster.binds s)).map m = ((r :: rest).filter (c.roster.binds s)).map m := by
      cases hb : c.roster.binds s r <;> simp [hb]
    rwa [hcons] at h

theorem says_publish (c : Conductor) (s : SessionId) (o : Outcome) :
    Says c (c.publish o) s ((GateEffect.publish o).words (c.roster.binds s)) := by
  have h := says_tellAll c s o.recipients (m := fun _ => .barrierResult o.name o.isSuccess)
    fun _ => rfl
  rw [← List.append_nil (GateEffect.words _ _)]
  refine h.trans (.of_lines ?_)
  unfold publish
  dsimp only
  split <;> rfl

theorem says_carryOut (c : Conductor) (s : SessionId) (e : GateEffect) :
    Says c (c.carryOut e) s (e.words (c.roster.binds s)) := by
  cases e with
  | announce name timeout recipients => exact says_tellAll c s recipients fun _ => rfl
  | startTimer epoch timeout => exact .of_lines rfl
  | cancelTimer epoch =>
    refine .of_lines ?_
    rw [carryOut, disarm_eq]
  | relayFailure name failedBy recipients => exact says_tellAll c s recipients fun _ => rfl
  | publish o => exact says_publish c s o

theorem says_foldl_carryOut (c : Conductor) (s : SessionId) (effects : List GateEffect) :
    Says c (effects.foldl carryOut c) s (effects.flatMap (·.words (c.roster.binds s))) := by
  induction effects generalizing c with
  | nil => exact .of_lines rfl
  | cons e rest ih =>
    -- no effect binds or frees a role, so all of them have the same audience
    have hroster : (c.carryOut e).roster = c.roster := by rw [carryOut_eq]
    have h := (says_carryOut c s e).trans (ih (c.carryOut e))
    rwa [hroster] at h

theorem says_settleGate (c : Conductor) (s : SessionId) (r : List GateEffect × Gate) :
    Says c (c.settleGate r) s (r.1.flatMap (·.words (c.roster.binds s))) :=
  have h : Says c { c with gate := r.2 } s [] := .of_lines rfl
  h.trans (says_foldl_carryOut { c with gate := r.2 } s r.1)

/-! ## Operations -/

/-- The session whose line an operation opens, shuts or takes an item off. -/
def Operation.tends? : Operation → Option SessionId
  | .attach s | .shut s | .take s => some s
  | _ => none

/-- The roster when the effects of an operation are carried out, against the ones before and behind
it: a role that is not there any more is lost behind the operation. -/
def Hears (c c' : Conductor) (audience : Roster SessionId) : Prop :=
  ∀ r, audience.members.get? r = c.roster.members.get? r ∨
    (audience.members.get? r = none ∧ c'.roster.members.get? r = none)

theorem Hears.refl (c c' : Conductor) : Hears c c' c.roster := fun _ => Or.inl rfl

/-- An operation of whose effects a session hears nothing. -/
theorem says_of_silent (he : c.effects op = []) (h : Says c c' s []) :
    ∃ audience, Says c c' s ((c.effects op).flatMap (·.words (audience.binds s))) ∧
      Hears c c' audience := by
  refine ⟨c.roster, ?_, .refl c c'⟩
  rw [he]
  exact h

theorem says_failPending (c : Conductor) (s : SessionId) (node : Role) :
    Says c (c.failPending node) s [] :=
  .of_lines (by rw [failPending_eq])

theorem says_handshake (c : Conductor) (s s' : SessionId) (name : String) (address : Address) :
    Says c (c.handshake s' name address).1 s [] := by
  unfold handshake
  split
  · exact .of_lines rfl
  · split
    · exact .of_lines rfl
    · split
      · exact .of_lines rfl
      · next roster waiting _ =>
        have h : Says c { c with
            roster, tally := { c.tally with handshakes := c.tally.handshakes + 1 } } s [] :=
          .of_lines rfl
        exact (h.trans (says_post_silent _ s s' rfl)).trans
          (says_foldl_post _ s (fun h => h) _ waiting fun _ => rfl)

theorem says_requestAddress (c : Conductor) (s s' : SessionId) (node : Role) :
    Says c (c.requestAddress s' node) s [] := by
  unfold requestAddress
  split
  · exact says_post_silent c s s' rfl
  · exact .of_lines rfl

theorem says_acknowledge (c : Conductor) (s : SessionId) (role : Role) (ack : Ack) :
    Says c (c.acknowledge role ack).1 s [] := by
  unfold acknowledge
  split
  · exact .of_lines rfl
  · split
    · exact .of_lines rfl
    · cases ack <;> exact .of_lines rfl

theorem says_cancelCommand (c : Conductor) (s : SessionId) (node : Role) (id : Nat)
    (after : Span) : Says c (c.cancelCommand node id after) s [] := by
  unfold cancelCommand
  split <;> exact .of_lines rfl

theorem says_dispatch (c : Conductor) (s s' : SessionId) (node : Role) (kind : CommandKind)
    {m : Downlink} (hm : m.isBarrier = false) : Says c (c.dispatch s' node kind m).1 s [] := by
  unfold dispatch
  split
  · exact .of_lines rfl
  · exact .of_lines rfl
  · next ledger id _ =>
    split
    · have h : Says c { c with
          ledger, tally := { c.tally with commandsIssued := c.tally.commandsIssued + 1 } } s [] :=
        .of_lines rfl
      exact h.trans (says_post_silent _ s s' (by simp [Outbound.barrier?, hm]))
    · exact .of_lines rfl

/-- What a session hears of a role that departs: it may be bound to the session no more. -/
theorem says_departed (c₁ : Conductor) {role : Role} {reason : Reason}
    (he : c.effects op = (c.gate.departed role reason).1) (hl : c₁.lines = c.lines)
    (hm : c₁.roster.members = c.roster.members.erase role)
    (h' : Says (c₁.settleGate (c.gate.departed role reason)) c' s [])
    (hr : c'.roster = c₁.roster) :
    ∃ audience, Says c c' s ((c.effects op).flatMap (·.words (audience.binds s))) ∧
      Hears c c' audience := by
  refine ⟨c₁.roster, ?_, ?_⟩
  · have h := ((Says.of_lines hl).trans (says_settleGate c₁ s (c.gate.departed role reason))).trans
      h'
    rwa [List.nil_append, List.append_nil, ← he] at h
  · intro r
    rw [hr, hm, Table.get?_erase]
    by_cases h : r = role
    · exact Or.inr ⟨if_pos h, if_pos h⟩
    · exact Or.inl (if_neg h)

theorem says_sessionClosed (c : Conductor) (s s' : SessionId) (role : Option Role) :
    ∃ audience, Says c (c.sessionClosed s' role) s
        ((c.effects (.sessionClosed s' role)).flatMap (·.words (audience.binds s))) ∧
      Hears c (c.sessionClosed s' role) audience := by
  cases role with
  | none => exact says_of_silent rfl (.of_lines rfl)
  | some role =>
    cases hown : (c.roster.members.get? role).any (·.handle = s') with
    | true =>
      obtain ⟨roster, hmem, heq⟩ := sessionClosed_of_owned hown
      rw [heq]
      refine says_departed { c with connections := c.connections.erase s', roster } (if_pos hown)
        rfl hmem (says_failPending _ s role) ?_
      rw [roster_failPending, roster_settleGate]
    | false =>
      rw [sessionClosed_of_not_owned hown]
      exact says_of_silent (by simp [effects, hown]) (.of_lines rfl)

theorem says_remove {node : Role} (s : SessionId) (he : c.effects op =
    if c.roster.isRegistered node then (c.gate.departed node (.removed node)).1 else []) :
    ∃ audience, Says c (c.remove node) s ((c.effects op).flatMap (·.words (audience.binds s))) ∧
      Hears c (c.remove node) audience := by
  cases hreg : c.roster.isRegistered node with
  | true =>
    rw [hreg, if_pos rfl] at he
    obtain ⟨roster, s', hmem, -, heq⟩ := remove_of_registered hreg
    rw [heq]
    refine says_departed { c with roster } he rfl hmem
      ((says_failPending _ s node).trans (says_post_silent _ s s' rfl)) ?_
    rw [post, roster_failPending, roster_settleGate]
  | false =>
    rw [hreg] at he
    rw [remove_of_not_registered hreg]
    exact says_of_silent he (.of_lines rfl)

theorem says_issue (c : Conductor) (s : SessionId) (cmd : Command) :
    ∃ audience, Says c (c.issue cmd).1 s
        ((c.effects (.issue cmd)).flatMap (·.words (audience.binds s))) ∧
      Hears c (c.issue cmd).1 audience := by
  unfold issue
  by_cases hk : cmd.kind = .remove
  · rw [if_pos hk]
    exact says_remove s (by simp [effects, hk])
  · have he : c.effects (.issue cmd) = [] := if_neg fun h => hk h.1
    rw [if_neg hk]
    refine says_of_silent he ?_
    split
    · exact .of_lines rfl
    · split
      · exact .of_lines rfl
      · exact .of_lines rfl
      · next hw =>
        have hsilent := Downlink.isBarrier_of_isConfirmed (Command.isConfirmed_wireForm hw)
        exact says_dispatch c s _ cmd.node cmd.kind hsilent

theorem says_shutdown (c : Conductor) (s : SessionId) :
    ∃ audience, Says c c.shutdown s ((c.effects .shutdown).flatMap (·.words (audience.binds s))) ∧
      Hears c c.shutdown audience := by
  cases hclosing : c.closing with
  | true =>
    have heq : c.shutdown = c := if_pos hclosing
    rw [heq]
    exact says_of_silent (if_pos hclosing) (.of_lines rfl)
  | false =>
    have he : c.effects .shutdown = (c.gate.abort .shutdown).1 := by simp [effects, hclosing]
    obtain ⟨ledger, tally, verdicts, heq, -⟩ := shutdown_of_open hclosing
    rw [heq, he]
    have h : Says c { c with closing := true } s [] := .of_lines rfl
    have hsettled := h.trans (says_settleGate { c with closing := true } s (c.gate.abort .shutdown))
    have hclose := fun c₁ : Conductor =>
      says_foldl_post c₁ s (fun s => s) (fun _ => .close) c.connections fun _ => rfl
    -- the roles are taken away only behind the effects, which all members hear
    refine ⟨c.roster, ?_, .refl _ _⟩
    rw [List.nil_append] at hsettled
    obtain ⟨c₁, hc₁, hlines⟩ : ∃ c₁ : Conductor, c₁ =
        { ({ c with closing := true } : Conductor).settleGate (c.gate.abort .shutdown) with
          timer := none, roster := {}, ledger, tally, verdicts } ∧
        c₁.lines = (({ c with closing := true } : Conductor).settleGate
          (c.gate.abort .shutdown)).lines := ⟨_, rfl, rfl⟩
    have htidied := (hsettled.trans (.of_lines hlines)).trans (hclose c₁)
    rw [← hc₁]
    rwa [List.append_nil, List.append_nil] at htidied

theorem says_openBarrier (c : Conductor) (s : SessionId) (name : String) (roles : List Role)
    (timeout : Option Span) :
    Says c (c.openBarrier name roles timeout).1 s
      ((c.effects (.openBarrier name roles timeout)).flatMap (·.words (c.roster.binds s))) := by
  rcases h : c.gate.openBarrier name roles (timeout.or c.settings.defaultTimeout)
      c.roster.isRegistered with ⟨gate, e | ⟨epoch, effects⟩⟩
  · simp only [effects, openBarrier, h]
    exact .of_lines rfl
  · simp only [Conductor.effects, openBarrier, h]
    have h : Says c { c with
        waiters := c.waiters ++ [epoch]
        tally := { c.tally with barriersOpened := c.tally.barriersOpened + 1 } } s [] :=
      .of_lines rfl
    exact h.trans (says_settleGate _ s (effects, gate))

theorem says_enterBarrier (c : Conductor) (s : SessionId) (role : Role) (name : String)
    (claimed : Option Role) :
    Says c (c.enterBarrier role name claimed).1 s
      ((c.effects (.enterBarrier role name claimed)).flatMap (·.words (c.roster.binds s))) := by
  cases hclaim : checkClaim role claimed with
  | error e =>
    simp only [effects, enterBarrier, hclaim]
    exact .of_lines rfl
  | ok u =>
    rcases h : c.gate.enter role name with ⟨gate, e | effects⟩
    · simp only [effects, enterBarrier, hclaim, h]
      exact .of_lines rfl
    · simp only [Conductor.effects, enterBarrier, hclaim, h]
      exact says_settleGate c s (effects, gate)

theorem says_failBarrier (c : Conductor) (s : SessionId) (role : Role) (name : String)
    (claimed : Role) :
    Says c (c.failBarrier role name claimed).1 s
      ((c.effects (.failBarrier role name claimed)).flatMap (·.words (c.roster.binds s))) := by
  cases hclaim : checkClaim role (some claimed) with
  | error e =>
    simp only [effects, failBarrier, hclaim]
    exact .of_lines rfl
  | ok u =>
    rcases h : c.gate.fail role name with ⟨gate, e | effects⟩
    · simp only [effects, failBarrier, hclaim, h]
      exact .of_lines rfl
    · simp only [Conductor.effects, failBarrier, hclaim, h]
      exact says_settleGate c s (effects, gate)

theorem says_barrierTimeout (c : Conductor) (s : SessionId) (epoch : Epoch) :
    Says c (c.barrierTimeout epoch) s
      ((c.effects (.barrierTimeout epoch)).flatMap (·.words (c.roster.binds s))) := by
  have h : Says c (c.disarm epoch) s [] := .of_lines (by rw [disarm_eq])
  have hsettled :=
    h.trans (says_settleGate (c.disarm epoch) s ((c.disarm epoch).gate.timeout epoch))
  have hroster : (c.disarm epoch).roster = c.roster := by rw [disarm_eq]
  have he : c.effects (.barrierTimeout epoch) = ((c.disarm epoch).gate.timeout epoch).1 := by
    rw [disarm_eq]
    rfl
  rw [hroster, List.nil_append, ← he] at hsettled
  exact hsettled

/-- What an operation adds to the line of a session, if it does nothing else to it. -/
theorem says_after (c : Conductor) (s : SessionId) (op : Operation) (ht : op.tends? ≠ some s) :
    ∃ audience, Says c (c.after op) s ((c.effects op).flatMap (·.words (audience.binds s))) ∧
      Hears c (c.after op) audience := by
  cases op with
  | attach s' =>
    have hne : s ≠ s' := fun h => ht (h ▸ rfl)
    exact says_of_silent rfl (.of_line (by rw [after, line_attach, if_neg hne]))
  | handshake s' name address => exact says_of_silent rfl (says_handshake c s s' name address)
  | sessionClosed s' role => exact says_sessionClosed c s s' role
  | openBarrier name roles timeout =>
    exact ⟨c.roster, says_openBarrier c s name roles timeout, .refl _ _⟩
  | enterBarrier role name claimed =>
    exact ⟨c.roster, says_enterBarrier c s role name claimed, .refl _ _⟩
  | failBarrier role name claimed =>
    exact ⟨c.roster, says_failBarrier c s role name claimed, .refl _ _⟩
  | barrierTimeout epoch => exact ⟨c.roster, says_barrierTimeout c s epoch, .refl _ _⟩
  | requestAddress s' node => exact says_of_silent rfl (says_requestAddress c s s' node)
  | issue cmd => exact says_issue c s cmd
  | acknowledge role ack => exact says_of_silent rfl (says_acknowledge c s role ack)
  | cancelCommand node id after =>
    exact says_of_silent rfl (says_cancelCommand c s node id after)
  | remove node => exact says_remove s rfl
  | shutdown => exact says_shutdown c s
  | count f => exact says_of_silent rfl (.of_lines rfl)
  | tick nanoseconds => exact says_of_silent rfl (.of_lines rfl)
  | take s' =>
    refine says_of_silent rfl (.of_line ?_)
    have hne : s ≠ s' := fun h => ht (h ▸ rfl)
    unfold after line
    rw [Table.get?_adjust, if_neg hne]
  | shut s' =>
    refine says_of_silent rfl (.of_line ?_)
    have hne : s ≠ s' := fun h => ht (h ▸ rfl)
    exact (line_adjust c s s' Line.shut rfl).trans (if_neg hne)

theorem isOpen_after (c : Conductor) (op : Operation) (ht : op.tends? ≠ some s) :
    ((c.after op).line s).isOpen = (c.line s).isOpen := by
  obtain ⟨audience, hsaid, -⟩ := says_after c s op ht
  exact hsaid.isOpen

/-! ## Who hears nothing -/

theorem words_of_deaf {hears : Role → Bool} (h : ∀ r, hears r = false) (e : GateEffect) :
    e.words hears = [] := by
  have hnil : ∀ roles : List Role, roles.filter hears = [] := fun roles =>
    List.filter_eq_nil_iff.mpr fun r _ => by simp [h r]
  cases e <;> simp [GateEffect.words, hnil]

theorem Hears.binds {audience : Roster SessionId} (h : Hears c c' audience) {r : Role}
    (hb : audience.binds s r = true) : c.roster.binds s r = true := by
  unfold Roster.binds at hb ⊢
  rcases h r with heq | ⟨hnone, -⟩
  · rwa [heq] at hb
  · rw [hnone] at hb
    cases hb

/-- A session without a role is told nothing of barriers. -/
theorem spoken_after_of_unbound (op : Operation) (ht : op.tends? ≠ some s)
    (h : ∀ r, c.roster.binds s r = false) : (c.after op).spoken s = c.spoken s := by
  obtain ⟨audience, hsaid, hhears⟩ := says_after c s op ht
  have hdeaf : ∀ r, audience.binds s r = false := by
    intro r
    refine Bool.eq_false_iff.mpr ?_
    intro hb
    have hbound := hhears.binds hb
    rw [h r] at hbound
    cases hbound
  rw [hsaid.spoken, List.flatMap_eq_nil_iff.mpr fun e _ => words_of_deaf hdeaf e, ite_self,
    List.append_nil]

theorem spoken_after_of_shut (op : Operation) (ht : op.tends? ≠ some s)
    (h : (c.line s).isOpen = false) :
    (c.after op).spoken s = c.spoken s ∧ ((c.after op).line s).isOpen = false := by
  obtain ⟨audience, hsaid, -⟩ := says_after c s op ht
  refine ⟨?_, (isOpen_after c op ht).trans h⟩
  rw [hsaid.spoken, h, if_neg Bool.false_ne_true, List.append_nil]

end Conductor

end Rendezvous
