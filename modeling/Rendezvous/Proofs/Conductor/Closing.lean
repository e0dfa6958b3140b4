import Rendezvous.Proofs.Conductor.Books
import Rendezvous.Proofs.Conductor.Requests

/-!
# What ends with a session and with the conductor

A session that gives its role up fails the barrier that expects the role and the commands of its
node (`awaited_sessionClosed`, `queue_sessionClosed`). A shutdown fails the awaited barrier and every
command (`outcomes_shutdown`, `verdict?_shutdown`), tells every session to close behind all that it
is told of the barrier (`queued_shutdown`), and leaves a conductor that is at its end (`Final`). No
operation makes that go on: each is refused or without effect on roles, barriers and commands, and
nothing is queued for anyone (`Final.after`).
-/

namespace Rendezvous.Conductor

variable {c c' : Conductor} {s : SessionId} {r : Role} {b : Awaited} {op : Operation}
  {t : Option SessionId}

/-! ## The end of a session -/

/-- The barrier that expects the role of a session fails as the session closes. -/
theorem awaited_sessionClosed (hc : c.Sound) (hown : c.roster.binds s r = true)
    (ha : c.gate.awaited = some b) (hr : r ∈ b.expected) :
    (c.sessionClosed s (some r)).gate.awaited = none ∧
      (c.sessionClosed s (some r)).outcomes =
        c.outcomes ++ [b.outcome (some (.sessionLost r))] := by
  obtain ⟨roster, -, heq⟩ := sessionClosed_of_owned hown
  obtain ⟨b', ha', -, hdeparted⟩ | ⟨hstranger, -⟩ := Gate.departed_eq c.gate r (.sessionLost r)
  · rw [ha] at ha'
    cases ha'
    obtain ⟨-, -, houtcomes⟩ := hc.settles { c with connections := c.connections.erase s, roster }
      { c.gate with awaited := none } ha (.quietly (some (.sessionLost r))) rfl (Or.inl rfl)
    rw [heq, hdeparted]
    refine ⟨?_, (sameDesk_failPending _ r).outcomes.trans houtcomes⟩
    rw [gate_failPending, gate_settleGate]
  · exact absurd hr (hstranger b ha)

/-- The commands for the node of a session fail as the session closes. -/
theorem queue_sessionClosed (h : c.CommandsBalance) (hown : c.roster.binds s r = true) :
    (c.sessionClosed s (some r)).ledger.queue r = [] ∧
      ∀ e ∈ c.ledger.queue r, (c.sessionClosed s (some r)).verdict? ⟨r, e.kind, some e.id⟩ =
        some (.error (.sessionLost r)) := by
  obtain ⟨roster, -, heq⟩ := sessionClosed_of_owned hown
  rw [failPending_eq, settleGate_eq] at heq
  rw [heq]
  refine ⟨(Ledger.queue_setQueue c.ledger r r []).trans (if_pos rfl), ?_⟩
  intro e he
  have hlost : ∀ x ∈ (c.ledger.queue r).map (r, ·), x.2 ∈ c.ledger.queue x.1 := by
    intro x hx
    obtain ⟨e', he', rfl⟩ := List.mem_map.mp hx
    exact he'
  refine verdict?_of_lost h hlost ?_ (x := (r, e)) (List.mem_map_of_mem he)
  rw [List.map_map]
  rfl

/-! ## The shutdown -/

/-- No other operation shuts a conductor down. -/
theorem closing_after (hop : op ≠ .shutdown) : (c.after op).closing = c.closing := by
  cases op with
  | shutdown => exact absurd rfl hop
  | handshake s name address => rw [after, handshake_eq]
  | sessionClosed s role => rw [after, sessionClosed_eq]
  | openBarrier | enterBarrier | failBarrier | barrierTimeout => exact (consulted_after rfl).closing
  | requestAddress s node => rw [after, requestAddress_eq]
  | issue cmd => rw [after, issue_eq]
  | acknowledge role ack => rw [after, acknowledge_eq]
  | cancelCommand node id after => rw [Conductor.after, cancelCommand_eq]
  | remove node => rw [after, remove_eq]
  | attach | count | tick | take | shut => rfl

theorem outcomes_shutdown (hc : c.Sound) (hopen : c.closing = false)
    (ha : c.gate.awaited = some b) :
    c.shutdown.outcomes = c.outcomes ++ [b.outcome (some .shutdown)] := by
  obtain ⟨ledger, tally, verdicts, heq, -⟩ := shutdown_of_open hopen
  obtain ⟨b', ha', habort⟩ | ⟨hidle, -⟩ := Gate.abort_eq c.gate .shutdown
  · rw [ha] at ha'
    cases ha'
    obtain ⟨-, -, houtcomes⟩ := hc.settles { c with closing := true }
      { c.gate with awaited := none } ha (.quietly (some .shutdown)) rfl (Or.inl rfl)
    rw [heq, foldl_post_eq _ (fun s => s) fun _ => .close, habort]
    exact houtcomes
  · rw [ha] at hidle
    cases hidle

theorem verdict?_shutdown (h : c.CommandsBalance) (hopen : c.closing = false)
    {x : Role × LedgerEntry Unit} (hx : x ∈ c.ledger.toList) :
    c.shutdown.verdict? ⟨x.1, x.2.kind, some x.2.id⟩ = some (.error (.sessionLost x.1)) := by
  obtain ⟨ledger, tally, verdicts, heq, -, hverdicts, -⟩ := shutdown_of_open hopen
  refine verdict?_of_lost h (fun y hy => (Ledger.mem_toList h.ledger.ordered).mp hy) ?_ hx
  rw [heq, foldl_post_eq _ (fun s => s) fun _ => .close]
  exact hverdicts

/-- What a session with an open line is told of barriers is all that is queued for it. -/
theorem Says.queued {ms : List Downlink} (h : Says c c' s ms) (ha : Adds [.barrier] c c' s)
    (hopen : (c.line s).isOpen = true) :
    (c'.line s).queued = (c.line s).queued ++ ms.map .message := by
  obtain ⟨items, hqueued, htopics⟩ := ha
  have hspoken := h.spoken
  rw [if_pos hopen, Conductor.spoken, hqueued, List.filterMap_append] at hspoken
  have hmessages : items.filterMap Outbound.barrier? = ms := List.append_cancel_left hspoken
  have hitem : ∀ o ∈ items, (o.barrier?).map .message = some o := by
    intro o ho
    have htopic := List.mem_singleton.mp (htopics o ho)
    cases o with
    | close => cases htopic
    | message m => cases m <;> cases htopic <;> rfl
  rw [hqueued, ← hmessages, List.map_filterMap, List.filterMap_congr hitem, List.filterMap_some]

theorem queued_foldl_post (c : Conductor) (s : SessionId) (o : Outbound)
    (sessions : List SessionId) :
    ((sessions.foldl (fun c s => c.post s o) c).line s).queued = (c.line s).queued ++
      if (c.line s).isOpen = true then List.replicate (sessions.count s) o else [] := by
  induction sessions generalizing c with
  | nil => simp
  | cons s' rest ih =>
    rw [List.foldl_cons, ih, isOpen_post, line_post, Line.push]
    by_cases hs : s = s'
    · subst hs
      cases (c.line s).isOpen <;> simp [List.replicate_succ]
    · simp [hs, Ne.symm hs]

/-- Every session with an open line is told of the end of the barrier, and then to close. -/
theorem queued_shutdown (hopen : c.closing = false) (hn : c.connections.Nodup)
    (hs : s ∈ c.connections) (hline : (c.line s).isOpen = true) :
    (c.shutdown.line s).queued = (c.line s).queued ++
      ((c.gate.abort .shutdown).1.flatMap (·.words (c.roster.binds s))).map .message ++
        [.close] := by
  obtain ⟨ledger, tally, verdicts, heq, -⟩ := shutdown_of_open hopen
  have hsaid := says_settleGate { c with closing := true } s (c.gate.abort .shutdown)
  have hadds := adds_settleGate { c with closing := true } s (c.gate.abort .shutdown)
  have hlast := queued_foldl_post { ({ c with closing := true } : Conductor).settleGate
    (c.gate.abort .shutdown) with timer := none, roster := {}, ledger, tally, verdicts } s .close
      c.connections
  rw [heq]
  refine hlast.trans ?_
  rw [List.count_eq_one_of_mem hn hs]
  refine congrArg₂ (· ++ ·) (hsaid.queued hadds hline) (if_pos ?_)
  exact hsaid.isOpen.trans hline

/-! ## Behind a shutdown -/

/-- The conductor was shut down, and nothing is left of roles, barriers and commands. -/
structure Final (c : Conductor) : Prop where
  closing : c.closing = true
  members : c.roster.members = []
  awaited : c.gate.awaited = none
  queues : c.ledger.queues = []
  waiters : c.waiters = []
  timer : c.timer = none

theorem final_shutdown (hc : c.Sound) (hopen : c.closing = false) : c.shutdown.Final := by
  have hsound : c.shutdown.Sound := sound_after hc .shutdown
  obtain ⟨ledger, tally, verdicts, heq, rfl, -⟩ := shutdown_of_open hopen
  rw [foldl_post_eq _ (fun s => s) fun _ => .close] at heq
  have hidle : c.shutdown.gate.awaited = none := by
    rw [heq]
    refine (congrArg Gate.awaited (gate_settleGate _ _)).trans ?_
    obtain ⟨b, -, habort⟩ | ⟨hidle, habort⟩ := Gate.abort_eq c.gate .shutdown
    · rw [habort]
    · rwa [habort]
  refine ⟨?_, by rw [roster_shutdown hopen], hidle, by rw [heq]; rfl, ?_, by rw [heq]⟩
  · rw [heq]
    exact (congrArg Conductor.closing (settleGate_eq _ _)).trans rfl
  · rw [hsound.waiters, hidle]
    rfl

theorem Final.queue_eq_nil (h : c.Final) (r : Role) : c.ledger.queue r = [] := by
  rw [Ledger.queue, h.queues]
  rfl

theorem Final.free (h : c.Final) (r : Role) : c.roster.members.get? r = none := by
  rw [h.members]
  rfl

theorem Final.isRegistered (h : c.Final) (r : Role) : c.roster.isRegistered r = false := by
  rw [Roster.isRegistered, h.members]
  rfl

/-! ### What comes of each operation -/

theorem Final.handshake (h : c.Final) (s : SessionId) (name : String) (address : Address) :
    ∃ e, c.handshake s name address = (c, .error e) := by
  unfold Conductor.handshake
  split
  · exact ⟨_, rfl⟩
  · rw [if_pos h.closing]
    exact ⟨_, rfl⟩

theorem Final.openBarrier (h : c.Final) (name : String) (roles : List Role)
    (timeout : Option Span) : ∃ e, c.openBarrier name roles timeout = (c, .error e) := by
  rcases hg : c.gate.openBarrier name roles (timeout.or c.settings.defaultTimeout)
      c.roster.isRegistered with ⟨gate, e | ⟨epoch, effects⟩⟩
  · exact ⟨e, by rw [Conductor.openBarrier, hg, Gate.openBarrier_refused hg]⟩
  · -- a barrier has members, and all of them would be registered
    obtain ⟨-, hne, hregistered, -⟩ := Gate.openBarrier_ok hg
    obtain ⟨role, hrole⟩ := List.exists_mem_of_ne_nil _ hne
    have hbound := hregistered role hrole
    rw [h.isRegistered] at hbound
    cases hbound

theorem Final.enterBarrier (h : c.Final) (role : Role) (name : String) (claimed : Option Role) :
    ∃ e, c.enterBarrier role name claimed = (c, .error e) := by
  unfold Conductor.enterBarrier
  split
  · exact ⟨_, rfl⟩
  · rw [Gate.enter, Gate.awaitedBy, Gate.awaitedNamed, h.awaited]
    exact ⟨_, rfl⟩

theorem Final.failBarrier (h : c.Final) (role : Role) (name : String) (claimed : Role) :
    ∃ e, c.failBarrier role name claimed = (c, .error e) := by
  unfold Conductor.failBarrier
  split
  · exact ⟨_, rfl⟩
  · rw [Gate.fail, Gate.awaitedBy, Gate.awaitedNamed, h.awaited]
    exact ⟨_, rfl⟩

theorem Final.barrierTimeout (h : c.Final) (epoch : Epoch) : c.barrierTimeout epoch = c := by
  have hdisarm : c.disarm epoch = c := by
    rw [disarm, h.timer]
    rfl
  rw [Conductor.barrierTimeout, hdisarm, Gate.timeout, h.awaited]
  rfl

theorem Final.remove (h : c.Final) (node : Role) : c.remove node = c :=
  remove_of_not_registered (h.isRegistered node)

theorem Final.issue (h : c.Final) {cmd : Command} (hk : cmd.kind ≠ .remove) :
    c.issue cmd = (c, .error (.unknownRole cmd.node)) := by
  rw [Conductor.issue, if_neg hk, h.free]

theorem Final.acknowledge (h : c.Final) (role : Role) (ack : Ack) :
    ∃ e, c.acknowledge role ack = (c, .error e) := by
  unfold Conductor.acknowledge
  split
  · exact ⟨_, rfl⟩
  · rw [Ledger.complete, Ledger.takeFirst, h.queue_eq_nil]
    exact ⟨_, rfl⟩

theorem Final.cancelCommand (h : c.Final) (node : Role) (id : Nat) (after : Span) :
    c.cancelCommand node id after = c := by
  rw [Conductor.cancelCommand, Ledger.cancel, Ledger.takeFirst, h.queue_eq_nil]
  rfl

theorem Final.shutdown (h : c.Final) : c.shutdown = c := if_pos h.closing

theorem Final.sessionClosed (h : c.Final) (s : SessionId) (role : Option Role) :
    c.sessionClosed s role = { c with
      connections := c.connections.erase s
      roster := c.roster.dropInterest (· = s) } := by
  cases role with
  | none => rfl
  | some role => exact sessionClosed_of_not_owned (by rw [h.free]; rfl)

/-! ### Nothing goes on -/

/-- Nothing has changed that a shutdown brings to its end, and nothing was delivered. -/
structure Stands (c c' : Conductor) : Prop where
  closing : c'.closing = c.closing
  members : c'.roster.members = c.roster.members
  gate : c'.gate = c.gate
  ledger : c'.ledger = c.ledger
  waiters : c'.waiters = c.waiters
  timer : c'.timer = c.timer
  outcomes : c'.outcomes = c.outcomes
  verdicts : c'.verdicts = c.verdicts

theorem Stands.refl (c : Conductor) : Stands c c := ⟨rfl, rfl, rfl, rfl, rfl, rfl, rfl, rfl⟩

theorem Stands.trans {c'' : Conductor} (h : Stands c c') (h' : Stands c' c'') : Stands c c'' where
  closing := h'.closing.trans h.closing
  members := h'.members.trans h.members
  gate := h'.gate.trans h.gate
  ledger := h'.ledger.trans h.ledger
  waiters := h'.waiters.trans h.waiters
  timer := h'.timer.trans h.timer
  outcomes := h'.outcomes.trans h.outcomes
  verdicts := h'.verdicts.trans h.verdicts

theorem Quiet.stands (h : Quiet t c c') : Stands c c' :=
  ⟨h.closing, h.members, h.gate, h.ledger, h.desk.waiters, h.desk.timer, h.desk.outcomes,
    h.verdicts⟩

theorem Final.of_stands (h : c.Final) (hs : Stands c c') : c'.Final :=
  ⟨hs.closing.trans h.closing, hs.members.trans h.members, by rw [hs.gate, h.awaited],
    by rw [hs.ledger, h.queues], hs.waiters.trans h.waiters, hs.timer.trans h.timer⟩

/-- Behind a shutdown no operation has an effect on roles, barriers and commands, and none queues
anything. -/
theorem Final.after (h : c.Final) (op : Operation) :
    Stands c (c.after op) ∧
      ∀ s, op.tends? ≠ some s → ((c.after op).line s).queued = (c.line s).queued := by
  have hsame : ∀ {c'}, c' = c → Stands c c' ∧
      ∀ s, op.tends? ≠ some s → (c'.line s).queued = (c.line s).queued := by
    rintro c' rfl
    exact ⟨.refl c', fun _ _ => rfl⟩
  have hrefused : ∀ {ε α : Type} {p : Conductor × Except ε α}, (∃ e, p = (c, .error e)) →
      p.1 = c := by
    rintro ε α p ⟨e, rfl⟩
    rfl
  cases op with
  | handshake s name address => exact hsame (hrefused (h.handshake s name address))
  | openBarrier name roles timeout => exact hsame (hrefused (h.openBarrier name roles timeout))
  | enterBarrier role name claimed => exact hsame (hrefused (h.enterBarrier role name claimed))
  | failBarrier role name claimed => exact hsame (hrefused (h.failBarrier role name claimed))
  | acknowledge role ack => exact hsame (hrefused (h.acknowledge role ack))
  | barrierTimeout epoch => exact hsame (h.barrierTimeout epoch)
  | cancelCommand node id after => exact hsame (h.cancelCommand node id after)
  | remove node => exact hsame (h.remove node)
  | shutdown => exact hsame h.shutdown
  | issue cmd =>
    refine hsame ?_
    by_cases hk : cmd.kind = .remove
    · rw [Conductor.after, Conductor.issue, if_pos hk, h.remove]
    · rw [Conductor.after, h.issue hk]
  | requestAddress s node =>
    rw [Conductor.after, requestAddress_of_free (h.free node)]
    exact ⟨⟨rfl, rfl, rfl, rfl, rfl, rfl, rfl, rfl⟩, fun _ _ => rfl⟩
  | sessionClosed s role =>
    rw [Conductor.after, h.sessionClosed]
    exact ⟨⟨rfl, rfl, rfl, rfl, rfl, rfl, rfl, rfl⟩, fun _ _ => rfl⟩
  | attach | count | tick | take | shut =>
    refine ⟨⟨rfl, rfl, rfl, rfl, rfl, rfl, rfl, rfl⟩, fun s hs => ?_⟩
    obtain ⟨items, hqueued, htopics⟩ := adds_after c _ hs
    have hnil : items = [] := List.eq_nil_iff_forall_not_mem.mpr fun o ho =>
      absurd (htopics o ho) List.not_mem_nil
    rw [hqueued, hnil, List.append_nil]

end Rendezvous.Conductor
