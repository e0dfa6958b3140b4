import Rendezvous.Proofs.Conductor.Commands
import Rendezvous.Proofs.Conductor.Quiet

/-!
# What operations are about

What can be queued for a session falls under five topics (`Topic`). An operation adds to the lines
of sessions, and all that it adds is on its own topics (`adds_after`): barriers are spoken of by all
that can open or end one, and commands only by issuing them. So what a line holds on a topic is left
alone by every operation that is about other things (`Adds.filterMap_eq`), and where it is left
alone, nothing was added on this topic (`Adds.without`).
-/

namespace Rendezvous

/-- What an item of a line is about. -/
inductive Topic where
  | registration
  | barrier
  | address
  | command
  | close
deriving DecidableEq

/-- What a message to a player is about. -/
def Downlink.topic : Downlink → Topic
  | done => .registration
  | enterBarrier .. | failBarrier .. | barrierResult .. => .barrier
  | addressReply .. => .address
  | getAddress _ | throttle .. | disconnect .. | terminate _ => .command

/-- What an item of a line is about. -/
def Outbound.topic : Outbound → Topic
  | .message m => m.topic
  | .close => .close

/-- The messages about commands are those that must be answered. -/
theorem Downlink.isConfirmed_iff_topic (m : Downlink) :
    m.isConfirmed = true ↔ m.topic = .command := by
  cases m <;> simp [isConfirmed, topic]

theorem Downlink.isBarrier_iff_topic (m : Downlink) : m.isBarrier = true ↔ m.topic = .barrier := by
  cases m <;> simp [isBarrier, topic]

/-- The message of a command is about a command. -/
theorem Command.topic_wireForm {ε : Type} {resolve : Role → Except ε Address} {cmd : Command}
    {m : Downlink} (h : cmd.wireForm resolve = .ok (some m)) : m.topic = .command :=
  (Downlink.isConfirmed_iff_topic m).mp (isConfirmed_wireForm h)

namespace Conductor

/-- What an operation queues is on these topics. -/
def Operation.topics : Operation → List Topic
  | .handshake .. => [.registration, .address]
  | .requestAddress .. => [.address]
  | .sessionClosed .. | .openBarrier .. | .enterBarrier .. | .failBarrier .. | .barrierTimeout _ =>
    [.barrier]
  | .remove _ | .shutdown => [.barrier, .close]
  | .issue _ => [.barrier, .close, .command]
  | .attach _ | .acknowledge .. | .cancelCommand .. | .count _ | .tick _ | .take _ | .shut _ => []

variable {c c' c'' : Conductor} {s : SessionId} {topics : List Topic}

/-! ## Adding to a line -/

/-- Between two conductors the line of a session was only added to, with items on these topics. -/
def Adds (topics : List Topic) (c c' : Conductor) (s : SessionId) : Prop :=
  ∃ items, (c'.line s).queued = (c.line s).queued ++ items ∧ ∀ o ∈ items, o.topic ∈ topics

theorem Adds.of_queued (h : (c'.line s).queued = (c.line s).queued) : Adds topics c c' s :=
  ⟨[], by rw [h, List.append_nil], nofun⟩

theorem Adds.of_lines (h : c'.lines = c.lines) : Adds topics c c' s :=
  .of_queued (by unfold line; rw [h])

theorem Adds.trans (h : Adds topics c c' s) (h' : Adds topics c' c'' s) : Adds topics c c'' s := by
  obtain ⟨items, hqueued, htopics⟩ := h
  obtain ⟨items', hqueued', htopics'⟩ := h'
  refine ⟨items ++ items', by rw [hqueued', hqueued, List.append_assoc], ?_⟩
  intro o ho
  exact (List.mem_append.mp ho).elim (htopics o) (htopics' o)

/-- Nothing is queued around an operation by what no barrier notices. -/
theorem Adds.around {t t' : Option SessionId} {c₁ c₂ : Conductor} (h : Adds topics c₁ c₂ s)
    (before : Quiet t c c₁) (behind : Quiet t' c₂ c') : Adds topics c c' s :=
  ((Adds.of_queued (before.queued s)).trans h).trans (.of_queued (behind.queued s))

theorem Adds.mono {topics' : List Topic} (h : Adds topics c c' s) (hsub : topics ⊆ topics') :
    Adds topics' c c' s := by
  obtain ⟨items, hqueued, htopics⟩ := h
  exact ⟨items, hqueued, fun o ho => hsub (htopics o ho)⟩

/-- What a line holds on other topics is the same. -/
theorem Adds.filterMap_eq {α : Type} {f : Outbound → Option α} (h : Adds topics c c' s)
    (hf : ∀ o, o.topic ∈ topics → f o = none) :
    (c'.line s).queued.filterMap f = (c.line s).queued.filterMap f := by
  obtain ⟨items, hqueued, htopics⟩ := h
  have hnone : items.filterMap f = [] :=
    List.filterMap_eq_nil_iff.mpr fun o ho => hf o (htopics o ho)
  rw [hqueued, List.filterMap_append, hnone, List.append_nil]

/-- What a line that is open holds on any matter grows by what is posted. -/
theorem filterMap_post {α : Type} (f : Outbound → Option α) (c : Conductor) (s s' : SessionId)
    (o : Outbound) : ((c.post s' o).line s).queued.filterMap f = (c.line s).queued.filterMap f ++
      if s = s' ∧ (c.line s).isOpen = true then (f o).toList else [] := by
  rw [line_post]
  by_cases hs : s = s'
  · rw [if_pos hs]
    unfold Line.push
    cases (c.line s).isOpen with
    | true =>
      rw [if_pos rfl, if_pos ⟨hs, rfl⟩, List.filterMap_append]
      cases ho : f o <;> simp [ho]
    | false => simp
  · rw [if_neg hs, if_neg fun h => hs h.1, List.append_nil]

theorem isOpen_post (c : Conductor) (s s' : SessionId) (o : Outbound) :
    ((c.post s' o).line s).isOpen = (c.line s).isOpen := by
  rw [line_post, Line.push]
  split
  · split <;> rfl
  · rfl

/-- If a line holds on a topic what it held before, nothing on this topic was added to it. -/
theorem Adds.without {α : Type} {t : Topic} {f : Outbound → Option α} (h : Adds topics c c' s)
    (hsame : (c'.line s).queued.filterMap f = (c.line s).queued.filterMap f)
    (hf : ∀ o, o.topic = t → f o ≠ none) : Adds (topics.filter (· ≠ t)) c c' s := by
  obtain ⟨items, hqueued, htopics⟩ := h
  have hnone : items.filterMap f = [] := by
    rw [hqueued, List.filterMap_append] at hsame
    exact List.append_right_eq_self.mp hsame
  refine ⟨items, hqueued, fun o ho => List.mem_filter.mpr ⟨htopics o ho, ?_⟩⟩
  exact decide_eq_true fun ht => hf o ht (List.filterMap_eq_nil_iff.mp hnone o ho)

/-! ## Pieces of operations -/

theorem adds_post (c : Conductor) (s s' : SessionId) {o : Outbound} (ho : o.topic ∈ topics) :
    Adds topics c (c.post s' o) s := by
  have hline := line_post c s s' o
  split at hline
  · unfold Line.push at hline
    split at hline
    · refine ⟨[o], by rw [hline], ?_⟩
      intro o' ho'
      exact List.mem_singleton.mp ho' ▸ ho
    · exact .of_queued (by rw [hline])
  · exact .of_queued (by rw [hline])

theorem adds_foldl_post {α : Type} (c : Conductor) (s : SessionId) (s' : α → SessionId)
    (o : α → Outbound) (as : List α) (ho : ∀ a, (o a).topic ∈ topics) :
    Adds topics c (as.foldl (fun c a => c.post (s' a) (o a)) c) s := by
  induction as generalizing c with
  | nil => exact .of_lines rfl
  | cons a rest ih => exact (adds_post c s (s' a) (ho a)).trans (ih _)

theorem adds_tellAll (c : Conductor) (s : SessionId) (roles : List Role) {m : Role → Downlink}
    (hm : ∀ r, (m r).topic ∈ topics) : Adds topics c (c.tellAll roles m) s := by
  induction roles generalizing c with
  | nil => exact .of_lines rfl
  | cons r rest ih =>
    have hfirst : Adds topics c (c.tell r (m r)) s := by
      unfold tell
      split
      · exact adds_post c s _ (hm r)
      · exact .of_lines rfl
    exact hfirst.trans (ih _)

theorem adds_carryOut (c : Conductor) (s : SessionId) (e : GateEffect) :
    Adds [.barrier] c (c.carryOut e) s := by
  have htell : ∀ (roles : List Role) (m : Role → Downlink), (∀ r, (m r).topic = .barrier) →
      Adds [.barrier] c (c.tellAll roles m) s := fun roles m hm =>
    adds_tellAll c s roles fun r => List.mem_singleton.mpr (hm r)
  cases e with
  | announce name timeout recipients => exact htell recipients _ fun _ => rfl
  | startTimer epoch timeout => exact .of_lines rfl
  | cancelTimer epoch => exact .of_lines (by rw [carryOut, disarm_eq])
  | relayFailure name failedBy recipients => exact htell recipients _ fun _ => rfl
  | publish o =>
    refine (htell o.recipients (fun _ => .barrierResult o.name o.isSuccess) fun _ => rfl).trans
      (.of_lines ?_)
    unfold carryOut publish
    dsimp only
    split <;> rfl

theorem adds_settleGate (c : Conductor) (s : SessionId) (r : List GateEffect × Gate) :
    Adds [.barrier] c (c.settleGate r) s := by
  have hfold : ∀ (effects : List GateEffect) (c : Conductor),
      Adds [.barrier] c (effects.foldl carryOut c) s := by
    intro effects
    induction effects with
    | nil => exact fun c => .of_lines rfl
    | cons e rest ih => exact fun c => (adds_carryOut c s e).trans (ih _)
  have hgate : Adds [.barrier] c { c with gate := r.2 } s := .of_lines rfl
  exact hgate.trans (hfold r.1 { c with gate := r.2 })

/-! ## Operations -/

theorem adds_handshake (c : Conductor) (s s' : SessionId) (name : String) (address : Address) :
    Adds [.registration, .address] c (c.handshake s' name address).1 s := by
  have hgreeting := greeting c s' name address
  generalize c.handshake s' name address = p at hgreeting ⊢
  cases hgreeting with
  | refused e => exact .of_lines rfl
  | registers roster waiting =>
    refine .trans ?_ (adds_foldl_post _ s (fun h => h) _ waiting fun _ => by simp [Outbound.topic,
      Downlink.topic])
    have hnamed : Adds [.registration, .address] c { c with
        roster, tally := { c.tally with handshakes := c.tally.handshakes + 1 } } s := .of_lines rfl
    exact hnamed.trans (adds_post _ s s' (by simp [Outbound.topic, Downlink.topic]))

theorem adds_requestAddress (c : Conductor) (s s' : SessionId) (node : Role) :
    Adds [.address] c (c.requestAddress s' node) s := by
  unfold requestAddress
  split
  · exact adds_post c s s' (by simp [Outbound.topic, Downlink.topic])
  · exact .of_lines rfl

theorem Consulted.adds (h : Consulted c c') (s : SessionId) : Adds [.barrier] c c' s := by
  cases h with
  | refused => exact .of_lines rfl
  | settled waiters opened timer r =>
    have hstart : Adds [.barrier] c { c with
        waiters, timer, tally := { c.tally with barriersOpened := opened } } s := .of_lines rfl
    exact hstart.trans (adds_settleGate _ s r)

theorem adds_failPending (c : Conductor) (s : SessionId) (node : Role) :
    Adds topics c (c.failPending node) s :=
  .of_lines (by rw [failPending_eq])

theorem adds_sessionClosed (c : Conductor) (s s' : SessionId) (role : Option Role) :
    Adds [.barrier] c (c.sessionClosed s' role) s := by
  cases role with
  | none => exact .of_lines rfl
  | some role =>
    cases hown : (c.roster.members.get? role).any (·.handle = s') with
    | true =>
      obtain ⟨roster, -, heq⟩ := sessionClosed_of_owned hown
      rw [heq]
      have hgiven : Adds [.barrier] c
          { c with connections := c.connections.erase s', roster } s := .of_lines rfl
      exact (hgiven.trans (adds_settleGate _ s _)).trans (adds_failPending _ s role)
    | false =>
      rw [sessionClosed_of_not_owned hown]
      exact .of_lines rfl

theorem adds_remove (c : Conductor) (s : SessionId) (node : Role) :
    Adds [.barrier, .close] c (c.remove node) s := by
  cases hreg : c.roster.isRegistered node with
  | true =>
    obtain ⟨roster, s', -, -, heq⟩ := remove_of_registered hreg
    rw [heq]
    have hfreed : Adds [.barrier] c { c with roster } s := .of_lines rfl
    have hfailed := (hfreed.trans (adds_settleGate _ s _)).trans
      (adds_failPending (({ c with roster } : Conductor).settleGate
        (c.gate.departed node (.removed node))) s node)
    exact (hfailed.mono (by simp)).trans (adds_post _ s s' (by simp [Outbound.topic]))
  | false =>
    rw [remove_of_not_registered hreg]
    exact .of_lines rfl

theorem adds_issue (c : Conductor) (s : SessionId) (cmd : Command) :
    Adds [.barrier, .close, .command] c (c.issue cmd).1 s := by
  have hissuing := issuing c cmd
  generalize c.issue cmd = r at hissuing ⊢
  cases hissuing with
  | removes => exact (adds_remove c s cmd.node).mono (by simp)
  | refused | undone => exact .of_lines rfl
  | @sends member m id ledger kind bound wire =>
    have hrecorded : Adds [.barrier, .close, .command] c { c with
        ledger
        tally := { c.tally with commandsIssued := c.tally.commandsIssued + 1 } } s := .of_lines rfl
    refine hrecorded.trans (adds_post _ s member.handle ?_)
    rw [Outbound.topic, Command.topic_wireForm wire]
    simp

theorem adds_shutdown (c : Conductor) (s : SessionId) :
    Adds [.barrier, .close] c c.shutdown s := by
  cases hclosing : c.closing with
  | true =>
    rw [show c.shutdown = c from if_pos hclosing]
    exact .of_lines rfl
  | false =>
    obtain ⟨ledger, tally, verdicts, heq, -⟩ := shutdown_of_open hclosing
    rw [heq]
    refine .trans ?_ (adds_foldl_post _ s (fun s => s) (fun _ => .close) c.connections fun _ =>
      by simp [Outbound.topic])
    exact (adds_settleGate { c with closing := true } s _).mono (by simp)

/-- What an operation queues is on its topics. -/
theorem adds_after (c : Conductor) (op : Operation) (ht : op.tends? ≠ some s) :
    Adds op.topics c (c.after op) s := by
  cases op with
  | attach s' =>
    have hne : s ≠ s' := fun h => ht (h ▸ rfl)
    exact .of_queued (by rw [after, line_attach, if_neg hne])
  | handshake s' name address => exact adds_handshake c s s' name address
  | sessionClosed s' role => exact adds_sessionClosed c s s' role
  | openBarrier | enterBarrier | failBarrier | barrierTimeout => exact (consulted_after rfl).adds s
  | requestAddress s' node => exact adds_requestAddress c s s' node
  | issue cmd => exact adds_issue c s cmd
  | acknowledge role ack => exact .of_lines (by rw [after, acknowledge_eq])
  | cancelCommand node id after => exact .of_lines (by rw [Conductor.after, cancelCommand_eq])
  | remove node => exact adds_remove c s node
  | shutdown => exact adds_shutdown c s
  | count | tick => exact .of_lines rfl
  | take s' => exact .of_queued (line_take c s s').1
  | shut s' =>
    refine .of_queued ?_
    unfold after
    rw [line_shut]
    split <;> rfl

end Conductor

end Rendezvous
