import Rendezvous.Proofs.Conductor.Effects
import Rendezvous.Proofs.Roster

/-!
# Turns of the conductor

A conductor changes by one operation after the other (`Operation`, `after`, `run`). For the barrier
every operation takes one of four turns (`Turn`): it lets the barrier rest, lets a member arrive,
opens a barrier, or ends the awaited one. `turn` says so for every conductor in which what is kept
for an opening, the waiters, the timer and the bindings of its members, agrees with the gate
(`Sound`), and `Turn.sound` that every turn keeps this.
-/

namespace Rendezvous.Conductor

/-! ## Operations -/

/-- What can happen to a conductor. The last four are the doings of sessions and of time: the
counters, the clock, a session that takes an item off its line, and one that stops. -/
inductive Operation where
  | attach (s : SessionId)
  | handshake (s : SessionId) (name : String) (address : Address)
  | sessionClosed (s : SessionId) (role : Option Role)
  | openBarrier (name : String) (roles : List Role) (timeout : Option Span)
  | enterBarrier (role : Role) (name : String) (claimed : Option Role)
  | failBarrier (role : Role) (name : String) (claimed : Role)
  | barrierTimeout (epoch : Epoch)
  | requestAddress (s : SessionId) (node : Role)
  | issue (cmd : Command)
  | acknowledge (role : Role) (ack : Ack)
  | cancelCommand (node : Role) (id : Nat) (after : Span)
  | remove (node : Role)
  | shutdown
  | count (f : Tally → Tally)
  | tick (nanoseconds : Nat)
  | take (s : SessionId)
  | shut (s : SessionId)

/-- The conductor behind an operation, whether it was refused or not. -/
def after (c : Conductor) : Operation → Conductor
  | .attach s => c.attach s
  | .handshake s name address => (c.handshake s name address).1
  | .sessionClosed s role => c.sessionClosed s role
  | .openBarrier name roles timeout => (c.openBarrier name roles timeout).1
  | .enterBarrier role name claimed => (c.enterBarrier role name claimed).1
  | .failBarrier role name claimed => (c.failBarrier role name claimed).1
  | .barrierTimeout epoch => c.barrierTimeout epoch
  | .requestAddress s node => c.requestAddress s node
  | .issue cmd => (c.issue cmd).1
  | .acknowledge role ack => (c.acknowledge role ack).1
  | .cancelCommand node id after => c.cancelCommand node id after
  | .remove node => c.remove node
  | .shutdown => c.shutdown
  | .count f => { c with tally := f c.tally }
  | .tick nanoseconds => { c with clock := c.clock + nanoseconds }
  | .take s => { c with lines := c.lines.adjust s Line.advance }
  | .shut s => { c with lines := c.lines.adjust s Line.shut }

/-- The conductor behind a list of operations. -/
def run (c : Conductor) (ops : List Operation) : Conductor := ops.foldl after c

/-- The effects that the gate asks for in an operation. -/
def effects (c : Conductor) : Operation → List GateEffect
  | .openBarrier name roles timeout =>
    match (c.gate.openBarrier name roles (timeout.or c.settings.defaultTimeout)
        c.roster.isRegistered).2 with
    | .ok (_, effects) => effects
    | .error _ => []
  | .enterBarrier role name claimed =>
    match checkClaim role claimed, (c.gate.enter role name).2 with
    | .ok (), .ok effects => effects
    | _, _ => []
  | .failBarrier role name claimed =>
    match checkClaim role (some claimed), (c.gate.fail role name).2 with
    | .ok (), .ok effects => effects
    | _, _ => []
  | .barrierTimeout epoch => (c.gate.timeout epoch).1
  | .sessionClosed s (some role) =>
    if (c.roster.members.get? role).any (·.handle = s)
    then (c.gate.departed role (.sessionLost role)).1 else []
  | .issue cmd =>
    if cmd.kind = .remove ∧ c.roster.isRegistered cmd.node
    then (c.gate.departed cmd.node (.removed cmd.node)).1 else []
  | .remove node =>
    if c.roster.isRegistered node then (c.gate.departed node (.removed node)).1 else []
  | .shutdown => if c.closing then [] else (c.gate.abort .shutdown).1
  | _ => []

variable {c c' : Conductor} {op : Operation} {ops : List Operation}

theorem run_append (c : Conductor) (ops ops' : List Operation) :
    run c (ops ++ ops') = run (run c ops) ops' := List.foldl_append

/-! ## Soundness -/

/-- Every opening that has ended has an epoch below this number. -/
def frontier (c : Conductor) : Nat :=
  match c.gate.awaited with
  | some b => b.epoch.number
  | none => c.gate.nextEpoch

/-- What is kept for an opening agrees with the gate: somebody waits for the awaited barrier and for
no other one, the timer is armed for it if it has a deadline, its members are registered, and the
delivered outcomes are those of earlier openings. -/
structure Sound (c : Conductor) : Prop where
  gate : c.gate.Sound
  bound : ∀ b, c.gate.awaited = some b → ∀ r ∈ b.expected, (c.roster.members.get? r).isSome
  waiters : c.waiters = (c.gate.awaited.map (·.epoch)).toList
  timer : c.timer.map (·.epoch) =
    c.gate.awaited.bind fun b => if b.timeout.isSome then some b.epoch else none
  past : ∀ o ∈ c.outcomes, o.epoch.number < c.frontier

theorem frontier_of_awaited {b : Awaited} (h : c.gate.awaited = some b) :
    c.frontier = b.epoch.number := by
  unfold frontier
  rw [h]

theorem frontier_of_idle (h : c.gate.awaited = none) : c.frontier = c.gate.nextEpoch := by
  unfold frontier
  rw [h]

theorem frontier_of_same (ha : c'.gate.awaited.map (·.epoch) = c.gate.awaited.map (·.epoch))
    (hn : c'.gate.nextEpoch = c.gate.nextEpoch) : c'.frontier = c.frontier := by
  cases hb : c.gate.awaited with
  | none =>
    rw [hb, Option.map_none, Option.map_eq_none_iff] at ha
    rw [frontier_of_idle ha, frontier_of_idle hb, hn]
  | some b =>
    rw [hb] at ha
    obtain ⟨b', hb', he⟩ := Option.map_eq_some_iff.mp ha
    rw [frontier_of_awaited hb', frontier_of_awaited hb, he]

/-- An opening takes the epoch that was next. -/
theorem frontier_of_opened {b : Awaited} (hi : c.gate.awaited = none)
    (ha : c'.gate.awaited = some b) (he : b.epoch = ⟨c.gate.nextEpoch⟩) :
    c'.frontier = c.frontier := by
  rw [frontier_of_awaited ha, frontier_of_idle hi, he]

theorem lt_frontier_of_ended {b : Awaited} (hg : c.gate.Sound) (ha : c.gate.awaited = some b)
    (hi : c'.gate.awaited = none) (hn : c'.gate.nextEpoch = c.gate.nextEpoch) :
    b.epoch.number < c'.frontier := by
  rw [frontier_of_idle hi, hn]
  exact hg.epoch_lt b ha

theorem sound_new (settings : Settings) : ({ settings } : Conductor).Sound where
  gate := Gate.sound_new
  bound := nofun
  waiters := rfl
  timer := rfl
  past := nofun

/-- Nothing that is kept for an opening has changed, the gate apart. -/
structure SameDesk (c c' : Conductor) : Prop where
  settings : c'.settings = c.settings
  waiters : c'.waiters = c.waiters
  timer : c'.timer = c.timer
  outcomes : c'.outcomes = c.outcomes

/-- The members of the awaited barrier are bound to what they were bound to. -/
def KeepsBound (c c' : Conductor) : Prop :=
  ∀ b, c.gate.awaited = some b → ∀ r ∈ b.expected,
    c'.roster.members.get? r = c.roster.members.get? r

/-- What an operation does to the barrier. -/
inductive Turn (c : Conductor) (op : Operation) (c' : Conductor) : Prop where
  /-- Nothing. -/
  | rests (effects : c.effects op = []) (gate : c'.gate = c.gate) (desk : SameDesk c c')
      (bound : KeepsBound c c')
  /-- A member enters, and others are missing. -/
  | arrives {b : Awaited} {role : Role} {claimed : Option Role}
      (operation : op = .enterBarrier role b.name claimed) (effects : c.effects op = [])
      (awaited : c.gate.awaited = some b) (sound : (b.arrive role).Sound)
      (gate : c'.gate = { c.gate with awaited := some (b.arrive role) }) (desk : SameDesk c c')
      (roster : c'.roster = c.roster)
  /-- A barrier is opened over registered roles. -/
  | opens {b : Awaited} {roles : List Role} {timeout : Option Span}
      (operation : op = .openBarrier b.name roles timeout) (effects : c.effects op = b.openEffects)
      (accepted : (c.openBarrier b.name roles timeout).2 = .ok b.epoch)
      (idle : c.gate.awaited = none) (sound : b.Sound) (epoch : b.epoch = ⟨c.gate.nextEpoch⟩)
      (expected : b.expected = Role.sortedSet roles) (arrived : b.arrived = [])
      (deadline : b.timeout = timeout.or c.settings.defaultTimeout)
      (gate : c'.gate = ⟨some b, c.gate.nextEpoch + 1⟩)
      (registered : ∀ r ∈ b.expected, (c.roster.members.get? r).isSome)
      (roster : c'.roster = c.roster) (settings : c'.settings = c.settings)
      (waiters : c'.waiters = c.waiters ++ [b.epoch])
      (timer : c'.timer = match b.timeout with
        | some t => some ⟨b.epoch, timerDue c.clock t⟩
        | none => c.timer)
      (outcomes : c'.outcomes = c.outcomes)
  /-- The awaited barrier ends. -/
  | ends {b : Awaited} {failure : Option Reason} (awaited : c.gate.awaited = some b)
      (effects : b.Ends failure (c.effects op))
      (released : failure = none → ∃ role claimed, op = .enterBarrier role b.name claimed ∧
        ∀ r ∈ b.expected, r = role ∨ r ∈ b.arrived)
      (gate : c'.gate = { c.gate with awaited := none }) (settings : c'.settings = c.settings)
      (waiters : c'.waiters = []) (timer : c'.timer = none)
      (outcomes : c'.outcomes = c.outcomes ++ [b.outcome failure])

theorem Turn.sound (hc : c.Sound) (h : Turn c op c') : c'.Sound := by
  cases h with
  | rests _ hg hd hb =>
    refine ⟨hg ▸ hc.gate, ?_, ?_, ?_, ?_⟩
    · intro b ha r hr
      rw [hg] at ha
      rw [hb b ha r hr]
      exact hc.bound b ha r hr
    · rw [hd.waiters, hg, hc.waiters]
    · rw [hd.timer, hg, hc.timer]
    · intro o ho
      rw [hd.outcomes] at ho
      rw [frontier_of_same (c := c) (by rw [hg]) (by rw [hg])]
      exact hc.past o ho
  | @arrives b role claimed _ _ ha hs hg hd hr =>
    -- what is kept for an opening goes by its epoch, members and deadline, which are the same
    refine ⟨hg ▸ hc.gate.arrived ha hs, ?_, ?_, ?_, ?_⟩
    · intro b' h' r hm
      rw [hg] at h'
      cases h'
      rw [hr]
      exact hc.bound b ha r hm
    · rw [hd.waiters, hg, hc.waiters, ha]
      rfl
    · rw [hd.timer, hg, hc.timer, ha]
      rfl
    · intro o ho
      rw [hd.outcomes] at ho
      rw [frontier_of_same (c := c) (by rw [hg, ha]; rfl) (by rw [hg])]
      exact hc.past o ho
  | @opens b roles timeout _ _ _ hi hs he _ _ _ hg hreg hr _ hw ht ho =>
    have hwaiters := hc.waiters
    have htimer := hc.timer
    rw [hi] at hwaiters htimer
    refine ⟨hg ▸ Gate.sound_opened hs he, ?_, ?_, ?_, ?_⟩
    · intro b' h' r hm
      rw [hg] at h'
      cases h'
      rw [hr]
      exact hreg r hm
    · rw [hw, hwaiters, hg]
      rfl
    · -- without a deadline the timer stays as it was, which is unarmed
      rw [ht, hg]
      cases hb : b.timeout with
      | some t => simp [hb]
      | none => simpa [hb] using htimer
    · intro o hmem
      rw [ho] at hmem
      rw [frontier_of_opened hi (by rw [hg]) he]
      exact hc.past o hmem
  | @ends b failure ha _ _ hg _ hw ht ho =>
    have hlt : b.epoch.number < c'.frontier :=
      lt_frontier_of_ended hc.gate ha (by rw [hg]) (by rw [hg])
    refine ⟨hg ▸ Gate.sound_idle _, ?_, ?_, ?_, ?_⟩
    · intro b' h'
      rw [hg] at h'
      cases h'
    · rw [hw, hg]
      rfl
    · rw [ht, hg]
      rfl
    · intro o hmem
      rw [ho] at hmem
      rcases List.mem_append.mp hmem with hold | hnew
      · have hpast := hc.past o hold
        rw [frontier_of_awaited ha] at hpast
        exact Nat.lt_trans hpast hlt
      · rw [List.mem_singleton.mp hnew]
        exact hlt

/-! ## Operations that leave the barrier alone -/

theorem SameDesk.refl (c : Conductor) : SameDesk c c := ⟨rfl, rfl, rfl, rfl⟩

theorem SameDesk.trans {c'' : Conductor} (h : SameDesk c c') (h' : SameDesk c' c'') :
    SameDesk c c'' :=
  ⟨h'.settings.trans h.settings, h'.waiters.trans h.waiters, h'.timer.trans h.timer,
    h'.outcomes.trans h.outcomes⟩

theorem KeepsBound.of_members (h : c'.roster.members = c.roster.members) : KeepsBound c c' :=
  fun _ _ _ _ => by rw [h]

/-- An operation that changes neither the gate nor a binding. -/
theorem Turn.of_same (he : c.effects op = []) (hg : c'.gate = c.gate) (hd : SameDesk c c')
    (hm : c'.roster.members = c.roster.members) : Turn c op c' :=
  .rests he hg hd (.of_members hm)

theorem Turn.of_refused (he : c.effects op = []) (h : c' = c) : Turn c op c' := by
  subst h
  exact .of_same he rfl (.refl c') rfl

/-- A role that registers was not bound, so it is no member of the awaited barrier. -/
theorem keepsBound_of_put (hc : c.Sound) {role : Role} {m : Member SessionId}
    (hr : c.roster.isRegistered role = false)
    (hm : c'.roster.members = c.roster.members.put role m) : KeepsBound c c' := by
  intro b ha r hmem
  have hbound := hc.bound b ha r hmem
  have hne : r ≠ role := by
    rintro rfl
    rw [Roster.isRegistered, Table.has_eq_isSome, hbound] at hr
    cases hr
  rw [hm, Table.get?_put, if_neg hne]

theorem turn_handshake (hc : c.Sound) (s : SessionId) (name : String) (address : Address) :
    Turn c (.handshake s name address) (c.handshake s name address).1 := by
  unfold handshake
  split
  · exact .of_refused rfl rfl
  · split
    · exact .of_refused rfl rfl
    · split
      · next roster e hreg =>
        obtain rfl := Roster.register_refused hreg
        exact .of_refused rfl rfl
      · next roster waiting hreg =>
        obtain ⟨hfree, hmem, -⟩ := Roster.register_ok hreg
        dsimp only
        rw [foldl_post_eq]
        exact .rests rfl rfl ⟨rfl, rfl, rfl, rfl⟩ (keepsBound_of_put hc hfree hmem)

theorem turn_requestAddress (c : Conductor) (s : SessionId) (node : Role) :
    Turn c (.requestAddress s node) (c.requestAddress s node) := by
  unfold requestAddress
  split
  · exact .of_same rfl rfl ⟨rfl, rfl, rfl, rfl⟩ rfl
  · exact .of_same rfl rfl ⟨rfl, rfl, rfl, rfl⟩ rfl

theorem turn_acknowledge (c : Conductor) (role : Role) (ack : Ack) :
    Turn c (.acknowledge role ack) (c.acknowledge role ack).1 := by
  unfold acknowledge
  split
  · exact .of_refused rfl rfl
  · split
    · exact .of_same rfl rfl ⟨rfl, rfl, rfl, rfl⟩ rfl
    · cases ack with
      | done | failed | address => exact .of_same rfl rfl ⟨rfl, rfl, rfl, rfl⟩ rfl

theorem turn_cancelCommand (c : Conductor) (node : Role) (id : Nat) (after : Span) :
    Turn c (.cancelCommand node id after) (c.cancelCommand node id after) := by
  unfold cancelCommand
  split <;> exact .of_same rfl rfl ⟨rfl, rfl, rfl, rfl⟩ rfl

theorem dispatch_eq (c : Conductor) (s : SessionId) (node : Role) (kind : CommandKind)
    (m : Downlink) :
    (c.dispatch s node kind m).1 = { c with
      ledger := (c.dispatch s node kind m).1.ledger
      lines := (c.dispatch s node kind m).1.lines
      tally := (c.dispatch s node kind m).1.tally } := by
  unfold dispatch
  split
  · rfl
  · rfl
  · split <;> rfl

/-! ## Operations that end the barrier -/

/-- The awaited barrier ends in `c₁`, in which its timer may have been disarmed already. -/
theorem Sound.settles (hc : c.Sound) {b : Awaited} {failure : Option Reason}
    {effects : List GateEffect} (c₁ : Conductor) (g : Gate) (ha : c.gate.awaited = some b)
    (he : b.Ends failure effects) (hw : c₁.waiters = c.waiters)
    (ht : c₁.timer = c.timer ∨ c₁.timer = none) :
    (c₁.settleGate (effects, g)).waiters = [] ∧ (c₁.settleGate (effects, g)).timer = none ∧
    (c₁.settleGate (effects, g)).outcomes = c₁.outcomes ++ [b.outcome failure] := by
  refine ends_settleGate he ?_ ?_
  · rw [hw, hc.waiters, ha]
    rfl
  · -- a timer that is still armed is that of the barrier, which has a deadline then
    intro a h
    rcases ht with ht | ht
    · have hsound := hc.timer
      rw [ha, ← ht, h] at hsound
      cases hb : b.timeout.isSome with
      | true => exact ⟨rfl, by simpa [hb] using hsound⟩
      | false => simp [hb] at hsound
    · rw [ht] at h
      cases h

theorem Turn.of_ends (hc : c.Sound) {b : Awaited} {failure : Option Reason} (c₁ : Conductor)
    (g : Gate) (ha : c.gate.awaited = some b) (he : b.Ends failure (c.effects op))
    (hr : failure = none → ∃ role claimed, op = .enterBarrier role b.name claimed ∧
      ∀ r ∈ b.expected, r = role ∨ r ∈ b.arrived)
    (hs : c₁.settings = c.settings) (hw : c₁.waiters = c.waiters)
    (ht : c₁.timer = c.timer ∨ c₁.timer = none) (ho : c₁.outcomes = c.outcomes)
    (hg' : c'.gate = { c.gate with awaited := none })
    (hd' : SameDesk (c₁.settleGate (c.effects op, g)) c') : Turn c op c' := by
  obtain ⟨hw', ht', ho'⟩ := hc.settles c₁ g ha he hw ht
  refine .ends ha he hr hg' ?_ ?_ ?_ ?_
  · rw [hd'.settings, settleGate_eq, hs]
  · rw [hd'.waiters, hw']
  · rw [hd'.timer, ht']
  · rw [hd'.outcomes, ho', ho]

/-- A role has departed in `c₁`, and nothing that concerns the barrier happens behind that. -/
theorem Turn.of_departed (hc : c.Sound) (c₁ : Conductor) {role : Role} {reason : Reason}
    (he : c.effects op = (c.gate.departed role reason).1) (hd : SameDesk c c₁)
    (hm : ∀ r, r ≠ role → c₁.roster.members.get? r = c.roster.members.get? r)
    (hg' : c'.gate = (c.gate.departed role reason).2)
    (hd' : SameDesk (c₁.settleGate (c.gate.departed role reason)) c')
    (hr : c'.roster = c₁.roster) : Turn c op c' := by
  obtain ⟨b, ha, hrole, heq⟩ | ⟨hstranger, heq⟩ := Gate.departed_eq c.gate role reason
  · rw [heq] at he hg' hd'
    dsimp only at he
    rw [← he] at hd'
    have hends : b.Ends (some reason) (c.effects op) := by
      rw [he]
      exact .quietly (some reason)
    exact .of_ends hc c₁ _ ha hends nofun hd.settings hd.waiters (Or.inl hd.timer) hd.outcomes
      hg' hd'
  · rw [heq] at he hg' hd'
    have hnil : SameDesk c₁ (c₁.settleGate ([], c.gate)) := ⟨rfl, rfl, rfl, rfl⟩
    refine .rests he hg' (hd.trans (hnil.trans hd')) ?_
    -- the role that departs is no member, so the members are bound as before
    intro b ha r hmem
    rw [hr]
    exact hm r fun hcontra => hstranger b ha (hcontra ▸ hmem)

theorem sameDesk_failPending (c : Conductor) (node : Role) : SameDesk c (c.failPending node) := by
  rw [failPending_eq]
  exact ⟨rfl, rfl, rfl, rfl⟩

theorem gate_failPending (c : Conductor) (node : Role) : (c.failPending node).gate = c.gate := by
  rw [failPending_eq]

theorem roster_failPending (c : Conductor) (node : Role) :
    (c.failPending node).roster = c.roster := by
  rw [failPending_eq]

/-- A session that closes gives its role up, if the role is still bound to it. -/
theorem sessionClosed_owned {s : SessionId} {role : Role}
    (h : (c.roster.members.get? role).any (·.handle = s) = true) :
    c.sessionClosed s (some role) = (({ c with
      connections := c.connections.erase s
      roster := ⟨c.roster.members.erase role, (c.roster.dropInterest (· = s)).waiting⟩ } :
        Conductor).settleGate (c.gate.departed role (.sessionLost role))).failPending role := by
  have hmem : (c.roster.dropInterest (· = s)).members = c.roster.members := rfl
  unfold sessionClosed Roster.unregister Roster.remove
  dsimp only
  rw [hmem]
  cases hm : c.roster.members.get? role with
  | none =>
    rw [hm] at h
    cases h
  | some m =>
    rw [hm] at h
    simp only [show decide (m.handle = s) = true from h, if_true]

theorem sessionClosed_of_owned {s : SessionId} {role : Role}
    (h : (c.roster.members.get? role).any (·.handle = s) = true) :
    ∃ roster : Roster SessionId, roster.members = c.roster.members.erase role ∧
      c.sessionClosed s (some role) =
        (({ c with connections := c.connections.erase s, roster } : Conductor).settleGate
          (c.gate.departed role (.sessionLost role))).failPending role :=
  ⟨_, rfl, sessionClosed_owned h⟩

theorem sessionClosed_of_not_owned {s : SessionId} {role : Role}
    (h : (c.roster.members.get? role).any (·.handle = s) = false) :
    c.sessionClosed s (some role) = { c with
      connections := c.connections.erase s
      roster := c.roster.dropInterest (· = s) } := by
  have hmem : (c.roster.dropInterest (· = s)).members = c.roster.members := rfl
  unfold sessionClosed Roster.unregister
  dsimp only
  rw [hmem]
  cases hm : c.roster.members.get? role with
  | none => rfl
  | some m =>
    rw [hm] at h
    simp only [show decide (m.handle = s) = false from h, Bool.false_eq_true, if_false]

theorem turn_sessionClosed (hc : c.Sound) (s : SessionId) (role : Option Role) :
    Turn c (.sessionClosed s role) (c.sessionClosed s role) := by
  cases role with
  | none => exact .of_same rfl rfl ⟨rfl, rfl, rfl, rfl⟩ rfl
  | some role =>
    cases hown : (c.roster.members.get? role).any (·.handle = s) with
    | true =>
      obtain ⟨roster, hmem, heq⟩ := sessionClosed_of_owned hown
      rw [heq]
      refine .of_departed hc { c with connections := c.connections.erase s, roster }
        (if_pos hown) ⟨rfl, rfl, rfl, rfl⟩ ?_ ?_ (sameDesk_failPending _ _) ?_
      · intro r hr
        rw [hmem, Table.get?_erase, if_neg hr]
      · rw [gate_failPending, gate_settleGate]
      · rw [roster_failPending, roster_settleGate]
    | false =>
      rw [sessionClosed_of_not_owned hown]
      exact .of_same (by simp [effects, hown]) rfl ⟨rfl, rfl, rfl, rfl⟩ rfl

/-- A node that is removed loses its role. -/
theorem remove_of_registered {node : Role} (h : c.roster.isRegistered node = true) :
    ∃ (roster : Roster SessionId) (s : SessionId),
      roster.members = c.roster.members.erase node ∧
      (c.roster.members.get? node).map (·.handle) = some s ∧
      c.remove node = ((({ c with roster } : Conductor).settleGate
        (c.gate.departed node (.removed node))).failPending node).post s .close := by
  rw [Roster.isRegistered, Table.has_eq_isSome, Option.isSome_iff_exists] at h
  obtain ⟨m, hm⟩ := h
  refine ⟨⟨c.roster.members.erase node, c.roster.waiting⟩, m.handle, rfl, by rw [hm]; rfl, ?_⟩
  unfold remove Roster.remove
  rw [hm]

theorem remove_of_not_registered {node : Role} (h : c.roster.isRegistered node = false) :
    c.remove node = c := by
  rw [Roster.isRegistered, Table.has_eq_isSome, Option.isSome_eq_false_iff,
    Option.isNone_iff_eq_none] at h
  unfold remove
  rw [Roster.remove_of_free h]

theorem turn_of_removed (hc : c.Sound) {node : Role} (he : c.effects op =
    if c.roster.isRegistered node then (c.gate.departed node (.removed node)).1 else []) :
    Turn c op (c.remove node) := by
  cases hreg : c.roster.isRegistered node with
  | true =>
    rw [hreg, if_pos rfl] at he
    obtain ⟨roster, s, hmem, -, heq⟩ := remove_of_registered hreg
    rw [heq]
    refine .of_departed hc { c with roster } he ⟨rfl, rfl, rfl, rfl⟩ ?_ ?_
      ((sameDesk_failPending _ node).trans ⟨rfl, rfl, rfl, rfl⟩) ?_
    · intro r hr
      rw [hmem, Table.get?_erase, if_neg hr]
    · rw [post, gate_failPending, gate_settleGate]
    · rw [post, roster_failPending, roster_settleGate]
  | false =>
    rw [hreg] at he
    exact .of_refused he (remove_of_not_registered hreg)

theorem turn_issue (hc : c.Sound) (cmd : Command) : Turn c (.issue cmd) (c.issue cmd).1 := by
  unfold issue
  by_cases hk : cmd.kind = .remove
  · rw [if_pos hk]
    exact turn_of_removed hc (by simp [effects, hk])
  · have he : c.effects (.issue cmd) = [] := if_neg fun h => hk h.1
    rw [if_neg hk]
    split
    · exact .of_refused he rfl
    · split
      · exact .of_refused he rfl
      · exact .of_refused he rfl
      · rw [dispatch_eq]
        exact .of_same he rfl ⟨rfl, rfl, rfl, rfl⟩ rfl

/-- Behind the end of the awaited barrier a shutdown takes every role and the timer away, and tells
every session to close; every outstanding command has failed. -/
theorem shutdown_of_open (h : c.closing = false) :
    ∃ (ledger : Ledger Unit) (tally : Tally) (verdicts : List (Nat × Verdict)),
      c.shutdown = c.connections.foldl (fun c s => c.post s .close)
        { ({ c with closing := true } : Conductor).settleGate (c.gate.abort .shutdown) with
          timer := none, roster := {}, ledger, tally, verdicts } ∧
      ledger = c.ledger.drainAll.2 ∧
      verdicts = c.verdicts ++
        c.ledger.toList.map (fun p => (p.2.id, .error (.sessionLost p.1))) ∧
      tally = { c.tally with
        barriersSucceeded := c.tally.barriersSucceeded +
          (c.gate.abort .shutdown).1.countP GateEffect.isSuccess
        barriersFailed := c.tally.barriersFailed +
          (c.gate.abort .shutdown).1.countP GateEffect.isFailure
        commandsFailed := c.tally.commandsFailed + c.ledger.toList.length } := by
  -- the conductor in between has a name, lest it be written out at every place it stands
  obtain ⟨c₁, hc₁⟩ : ∃ c₁ : Conductor, c₁ = { ({ c with closing := true } : Conductor).settleGate
      (c.gate.abort .shutdown) with timer := none } := ⟨_, rfl⟩
  have hconnections : c₁.failAllPending.connections = c.connections := by
    rw [failAllPending_eq, hc₁, settleGate_eq]
  have heq : c.shutdown = c.connections.foldl (fun c s => c.post s .close)
      { c₁.failAllPending with roster := {} } := by
    rw [← hconnections]
    subst hc₁
    exact if_neg (by rw [h]; exact Bool.false_ne_true)
  rw [failAllPending_eq] at heq
  rw [heq, hc₁]
  refine ⟨_, _, _, rfl, ?_, ?_, ?_⟩
  · rw [settleGate_eq]
  · rw [settleGate_eq]
  · rw [tally_settleGate, settleGate_eq]

theorem turn_shutdown (hc : c.Sound) : Turn c .shutdown c.shutdown := by
  cases hclosing : c.closing with
  | true => exact .of_refused (by simp [effects, hclosing]) (by simp [shutdown, hclosing])
  | false =>
    have he : c.effects .shutdown = (c.gate.abort .shutdown).1 := by simp [effects, hclosing]
    obtain ⟨ledger, tally, verdicts, heq, -⟩ := shutdown_of_open hclosing
    rw [heq, foldl_post_eq _ (fun s => s) fun _ => .close]
    obtain ⟨b, ha, habort⟩ | ⟨hidle, habort⟩ := Gate.abort_eq c.gate .shutdown
    · rw [habort] at he ⊢
      have hends : b.Ends (some .shutdown) (c.effects .shutdown) := by
        rw [he]
        exact .quietly (some .shutdown)
      rw [← show c.effects .shutdown = b.endEffects (some .shutdown) from he]
      -- the timer that is taken away has been disarmed by the effects already
      obtain ⟨-, ht, -⟩ := hc.settles { c with closing := true } { c.gate with awaited := none }
        ha hends rfl (Or.inl rfl)
      refine .of_ends hc { c with closing := true } { c.gate with awaited := none } ha hends nofun
        rfl rfl (Or.inl rfl) rfl ?_ ⟨rfl, rfl, ht.symm, rfl⟩
      exact gate_settleGate _ _
    · rw [habort] at he ⊢
      have htimer := hc.timer
      rw [hidle, Option.bind_none, Option.map_eq_none_iff] at htimer
      refine .rests he rfl ⟨rfl, rfl, htimer.symm, rfl⟩ ?_
      intro b ha
      rw [hidle] at ha
      cases ha

/-! ## Operations of players and of the driver on the barrier -/

theorem turn_openBarrier (c : Conductor) (name : String) (roles : List Role)
    (timeout : Option Span) :
    Turn c (.openBarrier name roles timeout) (c.openBarrier name roles timeout).1 := by
  rcases h : c.gate.openBarrier name roles (timeout.or c.settings.defaultTimeout)
      c.roster.isRegistered with ⟨g, e | ⟨epoch, effects⟩⟩
  · obtain rfl := Gate.openBarrier_refused h
    exact .of_refused (by simp [effects, h]) (by simp [openBarrier, h])
  · obtain ⟨hidle, hne, hreg, rfl, rfl, rfl⟩ := Gate.openBarrier_ok h
    have he : c.effects (.openBarrier name roles timeout) =
        (c.gate.opening name roles (timeout.or c.settings.defaultTimeout)).openEffects := by
      simp [Conductor.effects, h]
    have hok : (c.openBarrier name roles timeout).2 = .ok ⟨c.gate.nextEpoch⟩ := by
      simp [openBarrier, h]
    have hafter : (c.openBarrier name roles timeout).1 = ({ c with
        waiters := c.waiters ++ [⟨c.gate.nextEpoch⟩]
        tally := { c.tally with barriersOpened := c.tally.barriersOpened + 1 } } :
          Conductor).settleGate
        ((c.gate.opening name roles (timeout.or c.settings.defaultTimeout)).openEffects,
          ⟨some (c.gate.opening name roles (timeout.or c.settings.defaultTimeout)),
            c.gate.nextEpoch + 1⟩) := by
      simp [openBarrier, h]
    rw [hafter, settleGate_openEffects]
    refine .opens rfl he hok hidle (Gate.sound_opening hne) rfl rfl rfl rfl rfl ?_ rfl rfl rfl rfl
      rfl
    intro r hr
    rw [← Table.has_eq_isSome]
    exact hreg r hr

theorem turn_enterBarrier (hc : c.Sound) (role : Role) (name : String) (claimed : Option Role) :
    Turn c (.enterBarrier role name claimed) (c.enterBarrier role name claimed).1 := by
  unfold enterBarrier
  cases hclaim : checkClaim role claimed with
  | error e => exact .of_refused (by simp [effects, hclaim]) rfl
  | ok u =>
    rcases h : c.gate.enter role name with ⟨g, e | effects⟩
    · obtain rfl := Gate.enter_refused h
      exact .of_refused (by simp [effects, h]) rfl
    · have he : c.effects (.enterBarrier role name claimed) = effects := by
        simp [Conductor.effects, hclaim, h]
      obtain ⟨b, ha, rfl, hr, ⟨-, rfl, rfl⟩ | ⟨hm, hl, rfl, rfl⟩ | ⟨hm, hall, rfl, rfl⟩⟩ :=
        Gate.enter_ok hc.gate h
      · exact .of_same he rfl ⟨rfl, rfl, rfl, rfl⟩ rfl
      · exact .arrives rfl he ha ((hc.gate.awaited b ha).arrive hr hl) rfl ⟨rfl, rfl, rfl, rfl⟩ rfl
      · have hends : b.Ends none (c.effects (.enterBarrier role b.name claimed)) := by
          rw [he]
          exact .quietly none
        refine .of_ends hc c { c.gate with awaited := none } ha hends
          (fun _ => ⟨role, claimed, rfl, hall⟩) rfl rfl (Or.inl rfl) rfl
          (gate_settleGate _ _) ?_
        rw [he]
        exact .refl _

theorem turn_failBarrier (hc : c.Sound) (role : Role) (name : String) (claimed : Role) :
    Turn c (.failBarrier role name claimed) (c.failBarrier role name claimed).1 := by
  unfold failBarrier
  cases hclaim : checkClaim role (some claimed) with
  | error e => exact .of_refused (by simp [effects, hclaim]) rfl
  | ok u =>
    rcases h : c.gate.fail role name with ⟨g, e | effects⟩
    · obtain rfl := Gate.fail_refused h
      exact .of_refused (by simp [effects, h]) rfl
    · have he : c.effects (.failBarrier role name claimed) = effects := by
        simp [Conductor.effects, hclaim, h]
      obtain ⟨b, ha, rfl, hr, rfl, rfl⟩ := Gate.fail_ok h
      have hends : b.Ends (some (.failed role))
          (c.effects (.failBarrier role b.name claimed)) := by
        rw [he]
        exact .relayed role hr
      refine .of_ends hc c { c.gate with awaited := none } ha hends nofun rfl rfl (Or.inl rfl) rfl
        (gate_settleGate _ _) ?_
      rw [he]
      exact .refl _

/-- A late timer finds no opening of its own, and the armed timer is not its. -/
theorem barrierTimeout_of_ne (hc : c.Sound) {epoch : Epoch}
    (hother : ∀ b, c.gate.awaited = some b → b.epoch ≠ epoch) : c.barrierTimeout epoch = c := by
  -- the armed timer is that of the awaited barrier, which has another epoch
  have hne : c.timer.map (·.epoch) ≠ some epoch := by
    rw [hc.timer]
    cases ha : c.gate.awaited with
    | none => nofun
    | some b =>
      intro h
      simp only [Option.bind_some] at h
      split at h
      · exact hother b ha (Option.some.inj h)
      · cases h
  unfold barrierTimeout
  dsimp only
  rw [disarm_of_ne hne]
  obtain ⟨b, ha, he, -⟩ | ⟨-, heq⟩ := Gate.timeout_eq c.gate epoch
  · exact absurd he (hother b ha)
  · rw [heq]
    rfl

theorem turn_barrierTimeout (hc : c.Sound) (epoch : Epoch) :
    Turn c (.barrierTimeout epoch) (c.barrierTimeout epoch) := by
  obtain ⟨b, ha, rfl, heq⟩ | ⟨hother, heq⟩ := Gate.timeout_eq c.gate epoch
  · have he : c.effects (.barrierTimeout b.epoch) = b.endEffects (some .timeout) := by
      simp [effects, heq]
    have hends : b.Ends (some .timeout) (c.effects (.barrierTimeout b.epoch)) := by
      rw [he]
      exact .quietly (some .timeout)
    have htimer : (c.disarm b.epoch).timer = c.timer ∨ (c.disarm b.epoch).timer = none := by
      unfold disarm
      split
      · exact Or.inr rfl
      · exact Or.inl rfl
    have hgate : (c.disarm b.epoch).gate = c.gate := by rw [disarm_eq]
    unfold barrierTimeout
    dsimp only
    rw [hgate, heq, ← he]
    exact .of_ends hc (c.disarm b.epoch) { c.gate with awaited := none } ha hends nofun
      (by rw [disarm_eq]) (by rw [disarm_eq]) htimer (by rw [disarm_eq]) (gate_settleGate _ _)
      (.refl _)
  · exact .of_refused (by simp [effects, heq]) (barrierTimeout_of_ne hc hother)

/-! ## All operations -/

theorem turn (hc : c.Sound) (op : Operation) : Turn c op (c.after op) := by
  cases op with
  | handshake s name address => exact turn_handshake hc s name address
  | sessionClosed s role => exact turn_sessionClosed hc s role
  | openBarrier name roles timeout => exact turn_openBarrier c name roles timeout
  | enterBarrier role name claimed => exact turn_enterBarrier hc role name claimed
  | failBarrier role name claimed => exact turn_failBarrier hc role name claimed
  | barrierTimeout epoch => exact turn_barrierTimeout hc epoch
  | requestAddress s node => exact turn_requestAddress c s node
  | issue cmd => exact turn_issue hc cmd
  | acknowledge role ack => exact turn_acknowledge c role ack
  | cancelCommand node id after => exact turn_cancelCommand c node id after
  | remove node => exact turn_of_removed hc rfl
  | shutdown => exact turn_shutdown hc
  | attach | count | tick | take | shut => exact .of_same rfl rfl ⟨rfl, rfl, rfl, rfl⟩ rfl

theorem sound_after (hc : c.Sound) (op : Operation) : (c.after op).Sound := (turn hc op).sound hc

theorem sound_run (hc : c.Sound) (ops : List Operation) : (run c ops).Sound := by
  induction ops generalizing c with
  | nil => exact hc
  | cons op rest ih => exact ih (sound_after hc op)

end Rendezvous.Conductor
