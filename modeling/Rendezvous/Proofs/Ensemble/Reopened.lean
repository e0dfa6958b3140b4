import Rendezvous.Proofs.Ensemble.Passing
import Rendezvous.Proofs.Hall.OwnRole

/-!
# Reopened barriers

Openings of one name are told apart by their epochs, but the message of a player that arrives names
the barrier alone. So a message that was sent for an earlier opening and is handled while a later
one of this name is awaited is an arrival at the later one, under the same conditions as any other
(`Arrival`, `late_arrival_of_run`): it counts for its own role if that is a member which is still
missing. If the earlier opening had succeeded with that member, it was not the message that counted
there.
-/

namespace Rendezvous

namespace Conductor

variable {c c' : Conductor} {b : Awaited} {role : Role}

/-- What the arrival of a role at the awaited barrier comes to. -/
inductive Arrival (c : Conductor) (b : Awaited) (role : Role) (c' : Conductor) : Prop where
  /-- The role is no member. -/
  | refused (stranger : role ∉ b.expected) (gate : c'.gate = c.gate)
      (outcomes : c'.outcomes = c.outcomes)
  /-- The role had arrived before. -/
  | repeats (member : role ∈ b.expected) (arrived : role ∈ b.arrived) (gate : c'.gate = c.gate)
      (outcomes : c'.outcomes = c.outcomes)
  | counts (member : role ∈ b.expected) (missing : role ∈ b.missing) (others : b.missing ≠ [role])
      (gate : c'.gate = { c.gate with awaited := some (b.arrive role) })
      (outcomes : c'.outcomes = c.outcomes)
  /-- The role was the last one that was missing. -/
  | releases (member : role ∈ b.expected) (last : b.missing = [role])
      (gate : c'.gate = { c.gate with awaited := none })
      (outcomes : c'.outcomes = c.outcomes ++ [b.outcome none])

theorem arrival (hc : c.Sound) (ha : c.gate.awaited = some b) (role : Role) :
    Arrival c b role (c.enterBarrier role b.name (some role)).1 := by
  have hclaim : checkClaim role (some role) = .ok () := if_pos rfl
  unfold enterBarrier
  rw [hclaim]
  dsimp only
  by_cases hr : role ∈ b.expected
  · obtain ⟨effects, g, henter⟩ := Gate.enter_of_member ha hr
    obtain ⟨b', ha', -, -, hcases⟩ := Gate.enter_ok hc.gate henter
    obtain rfl : b = b' := Option.some.inj (ha.symm.trans ha')
    rw [henter]
    rcases hcases with ⟨harrived, rfl, rfl⟩ | ⟨hmissing, hl, rfl, rfl⟩ | ⟨hmissing, hall, rfl, rfl⟩
    · exact .repeats hr harrived rfl rfl
    · refine .counts hr ?_ ((hc.gate.awaited b ha).missing_ne hr hl) rfl rfl
      exact List.mem_filter.mpr ⟨hr, by simpa using hmissing⟩
    · obtain ⟨-, -, houtcomes⟩ := hc.settles c { c.gate with awaited := none } ha (.quietly none)
        rfl (Or.inl rfl)
      exact .releases hr ((hc.gate.awaited b ha).missing_eq hr hmissing hall)
        (gate_settleGate c _) houtcomes
  · rcases henter : c.gate.enter role b.name with ⟨g, e | effects⟩
    · obtain rfl := Gate.enter_refused henter
      exact .refused hr rfl rfl
    · obtain ⟨b', ha', -, hr', -⟩ := Gate.enter_ok hc.gate henter
      obtain rfl : b = b' := Option.some.inj (ha.symm.trans ha')
      exact absurd hr' hr

theorem Arrival.of_same {c'' : Conductor} (h : Arrival c b role c') (hg : c''.gate = c'.gate)
    (ho : c''.outcomes = c'.outcomes) : Arrival c b role c'' := by
  cases h with
  | refused stranger gate outcomes =>
    exact .refused stranger (hg.trans gate) (ho.trans outcomes)
  | repeats member arrived gate outcomes =>
    exact .repeats member arrived (hg.trans gate) (ho.trans outcomes)
  | counts member missing others gate outcomes =>
    exact .counts member missing others (hg.trans gate) (ho.trans outcomes)
  | releases member last gate outcomes =>
    exact .releases member last (hg.trans gate) (ho.trans outcomes)

end Conductor

open Conductor

/-- An arrival that is heard is one at the barrier that is awaited then, if it has the name. -/
theorem Hall.arrival_of_heard {h : Hall} {m : Hall.Move} {s : SessionId} {role : Role} {b : Awaited}
    {timeout : Option Span} (ho : h.Orderly) (ha : h.conductor.gate.awaited = some b)
    (hh : h.heard? m = some (s, role, .enterBarrier b.name timeout (some role))) :
    Arrival h.conductor b role (h.after m).conductor := by
  obtain ⟨tally, hcond⟩ := conductor_of_heard hh rfl
  exact (arrival ho.sound ha role).of_same (by rw [hcond]; rfl) (by rw [hcond]; rfl)

namespace Ensemble

variable {σ : Type}

/-- In every run of a conductor and any number of players: let an arrival at a name be handled while
a barrier of this name is awaited and an earlier opening of the name has ended, whenever the message
was sent. The message is that of a player that called at this name under its own role, and it is an
arrival of this role at the later opening like any other. If the earlier opening was a success, each
of its members had entered it by a message that was handled before its end was published. -/
theorem late_arrival_of_run (settings : Settings) (setups : Nat → Setup σ) (moves : List Move)
    {s : SessionId} {role : Role} {timeout : Option Span} {claimed : Option Role} {o : Outcome}
    {b : Awaited} (ho : o ∈ ((start settings setups).follow moves).hall.conductor.outcomes)
    (hb : ((start settings setups).follow moves).hall.conductor.gate.awaited = some b)
    (hn : o.name = b.name)
    (hs : ((start settings setups).follow moves).hall.heard? (.read s) =
      some (s, role, .enterBarrier b.name timeout claimed)) :
    let w := (start settings setups).follow moves
    let log := (start settings setups).log moves
    o.epoch.number < b.epoch.number ∧
    (claimed = some role ∧ ∃ g id, (w.seats g).link = .session s ∧ (setups g).role = role ∧
      .called g id (.barrier b.name timeout) ∈ log) ∧
    Arrival w.hall.conductor b role (w.after (.conduct (.read s))).hall.conductor ∧
    ∃ (e : Awaited) (before between behind : List Event), e.outcome o.failure = o ∧
      log = before ++ .opened e.blank :: (between ++ .published o :: behind) ∧
      (o.isSuccess = true → ∀ r ∈ o.recipients, Enters between b.name r) := by
  intro w log
  have horderly : w.hall.Orderly := orderly_run settings setups moves
  have hjustified :
      Justified setups w log (.handled s role (.enterBarrier b.name timeout claimed)) := by
    refine justified_hall (linked_run settings setups moves) (role_run settings setups moves)
      (m := .read s) (List.mem_append_left _ ?_)
    rw [Hall.handling, hs]
    exact List.mem_cons_self
  obtain ⟨rfl, hplayer⟩ := hjustified
  refine ⟨?_, ⟨rfl, hplayer⟩, Hall.arrival_of_heard horderly hb hs, ?_⟩
  · rw [← frontier_of_awaited hb]
    exact horderly.sound.past o ho
  · obtain ⟨e, failure, rfl, between, behind, ⟨before, hlog⟩, henters⟩ :=
      (gathering_run settings setups moves).published o ho
    refine ⟨e, before, between, behind, rfl, hlog, fun hsuccess => ?_⟩
    rw [← hn]
    exact henters (Option.isNone_iff_eq_none.mp hsuccess)

/-! ## A late arrival -/

/-- Two players. -/
def duo : Nat → Setup Record := fun g =>
  { role := if g = 0 then ⟨"a"⟩ else ⟨"b"⟩
    address := default
    conductor := "hall"
    handler := .recorder .obeys .obeys
    memory := {}
    reaches := fun _ => true }

/-- Both players join, a barrier is opened with a deadline, and the first player, which knows that it
is registered, calls at it: its message is written and not carried any further. -/
def sending : List Move :=
  let join : Nat → List Move := fun g =>
    [.step g .join, .step g .accept, .step g (.carryUp 99), .conduct (.read g)]
  join 0 ++ join 1 ++
    [.conduct (.write 0), .step 0 (.carryDown 99), .step 0 (.play .listen),
      .conduct (.openBarrier "start" [⟨"a"⟩, ⟨"b"⟩] (some (.ofSecs 1))),
      .step 0 (.play (.begin (.barrier "start" none))), .step 0 (.play (.proceed 0))]

/-- The deadline of the barrier passes, and a barrier of the same name is opened. -/
def reopening : List Move :=
  [.conduct (.advance 1000000000), .conduct .fireTimer,
    .conduct (.openBarrier "start" [⟨"a"⟩, ⟨"b"⟩] none)]

/-- The message that was sent for the first opening is an arrival at the second one. -/
theorem late_arrival_of_run_duo :
    let w := (start {} duo).follow (sending ++ reopening ++ [.step 0 (.carryUp 99)])
    let o : Outcome := ⟨"start", ⟨1⟩, some .timeout, [⟨"a"⟩, ⟨"b"⟩]⟩
    let b : Awaited := ⟨"start", ⟨2⟩, [⟨"a"⟩, ⟨"b"⟩], [], none⟩
    (o ∈ w.hall.conductor.outcomes ∧ w.hall.conductor.gate.awaited = some b ∧ o.name = b.name ∧
      w.hall.heard? (.read 0) = some (0, ⟨"a"⟩, .enterBarrier "start" none (some ⟨"a"⟩))) ∧
    Arrival w.hall.conductor b ⟨"a"⟩ (w.after (.conduct (.read 0))).hall.conductor := by
  intro w o b
  have ho : o ∈ w.hall.conductor.outcomes := by decide +kernel
  have hb : w.hall.conductor.gate.awaited = some b := by decide +kernel
  have hs : w.hall.heard? (.read 0) =
      some (0, ⟨"a"⟩, .enterBarrier "start" none (some ⟨"a"⟩)) := by decide +kernel
  obtain ⟨-, -, harrival, -⟩ := late_arrival_of_run {} duo _ ho hb rfl hs
  exact ⟨⟨ho, hb, rfl, hs⟩, harrival⟩

/-- The first player's message is written while the first opening is awaited, and handled when that
one has failed and the second one is awaited, at which it counts. -/
theorem late_arrival_enters_reopened :
    let roles : List Role := [⟨"a"⟩, ⟨"b"⟩]
    let message := Uplink.enterBarrier "start" none (some ⟨"a"⟩)
    let sent := (start {} duo).follow sending
    let reopened := (start {} duo).follow (sending ++ reopening)
    let handled := (start {} duo).follow
      (sending ++ reopening ++ [.step 0 (.carryUp 99), .conduct (.read 0)])
    (sent.hall.conductor.gate.awaited = some ⟨"start", ⟨1⟩, roles, [], some (.ofSecs 1)⟩ ∧
      (sent.seats 0).booth.transport.outgoing = Frame.ofBody message.encode) ∧
    (reopened.hall.conductor.outcomes = [⟨"start", ⟨1⟩, some .timeout, roles⟩] ∧
      reopened.hall.conductor.gate.awaited = some ⟨"start", ⟨2⟩, roles, [], none⟩ ∧
      (reopened.seats 0).booth.transport.outgoing = Frame.ofBody message.encode) ∧
    handled.hall.conductor.gate.awaited = some ⟨"start", ⟨2⟩, roles, [⟨"a"⟩], none⟩ := by
  decide +kernel

end Ensemble

end Rendezvous
