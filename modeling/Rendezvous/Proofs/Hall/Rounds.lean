import Mathlib.Data.List.Induction
import Rendezvous.Proofs.Hall.Telling

/-!
# The rounds of a session

What a session is told of barriers in a run of moves, message by message, with the epoch of the
barrier that was awaited then (`told`). As long as its line is open this is a list of complete
rounds, one for each opening that had its role as a member, and perhaps the beginning of another one
(`rounds_of_session`).

The induction on the moves carries `Story`: for a session with a role, what was told so far is
complete rounds of openings that are past, and a tail that goes with the barrier that is awaited. A
session without a role has been told nothing.
-/

namespace Rendezvous.Hall

open Conductor

variable {h : Hall} {s : SessionId} {r : Role} {m : Move} {moves : List Move}
  {t : Option SessionId}

/-! ## What a session is told -/

/-- The epoch of the barrier that is awaited before a move, or else of the one that it opens. -/
def epochOf (h : Hall) (m : Move) : Option Epoch :=
  (h.conductor.gate.awaited.or (h.after m).conductor.gate.awaited).map (·.epoch)

/-- The messages about barriers that a move queues for a session. -/
def news (h : Hall) (m : Move) (s : SessionId) : List (Option Epoch × Downlink) :=
  (((h.after m).conductor.spoken s).drop (h.conductor.spoken s).length).map (h.epochOf m, ·)

/-- The messages about barriers that a list of moves queues for a session. -/
def told (s : SessionId) : Hall → List Move → List (Option Epoch × Downlink)
  | _, [] => []
  | h, m :: rest => h.news m s ++ told s (h.after m) rest

theorem told_concat (h : Hall) (moves : List Move) (m : Move) :
    told s h (moves ++ [m]) = told s h moves ++ (h.follow moves).news m s := by
  induction moves generalizing h with
  | nil => simp [told, follow]
  | cons m' rest ih =>
    rw [List.cons_append, told, told, ih, List.append_assoc]
    rfl

theorem news_of_spoken {w : List Downlink}
    (hw : (h.after m).conductor.spoken s = h.conductor.spoken s ++ w) :
    h.news m s = w.map (h.epochOf m, ·) := by
  unfold news
  rw [hw, List.drop_left]

/-! ## Rounds -/

/-- One opening as the session of a member hears of it. -/
structure Round where
  epoch : Epoch
  name : String
  timeout : Option Span
  /-- The role of the session. -/
  role : Role
  /-- The other member that gave the barrier up, if one did. -/
  failedBy : Option Role
  success : Bool

namespace Round

/-- The messages of a round. -/
def messages (x : Round) : List Downlink :=
  .enterBarrier x.name x.timeout (some x.role) ::
    (x.failedBy.toList.map (.failBarrier x.name ·) ++ [.barrierResult x.name x.success])

/-- The messages of a round, all with its epoch. -/
def entries (x : Round) : List (Option Epoch × Downlink) := x.messages.map (some x.epoch, ·)

/-- The round agrees with the outcome that was delivered for its opening: the name and the verdict
are the same, and who is said to have given the barrier up is another member that did. -/
structure Agrees (x : Round) (o : Outcome) : Prop where
  name : o.name = x.name
  success : x.success = o.isSuccess
  member : x.role ∈ o.recipients
  failedBy : ∀ f, x.failedBy = some f → f ≠ x.role ∧ f ∈ o.recipients ∧ o.failure = some (.failed f)

/-- The opening of the round is past, and its outcome was delivered. -/
def Settled (c : Conductor) (x : Round) : Prop :=
  x.epoch.number < c.frontier ∧ ∃ o, c.outcome? x.epoch = some o ∧ x.Agrees o

end Round

/-! ## The story of a session -/

/-- In a move of the run the role was lost while a barrier was awaited in which it had a part. -/
def LosesRole (start : Hall) (moves : List Move) (s : SessionId) (e : Epoch) (name : String)
    (r : Role) : Prop :=
  ∃ before m after b, moves = before ++ m :: after ∧
    (start.follow before).conductor.gate.awaited = some b ∧ b.epoch = e ∧ b.name = name ∧
    r ∈ b.expected ∧ (start.follow before).conductor.roster.binds s r = true ∧
    ((start.follow before).after m).conductor.roster.binds s r = false

theorem LosesRole.concat {start : Hall} {e : Epoch} {name : String}
    (hl : LosesRole start moves s e name r) (m : Move) :
    LosesRole start (moves ++ [m]) s e name r := by
  obtain ⟨before, m', after, b, rfl, hrest⟩ := hl
  exact ⟨before, m', after ++ [m], b, by simp, hrest⟩

/-- What a session with a role was told of an opening that it knows no result of. -/
inductive Tail (start : Hall) (moves : List Move) (s : SessionId) (r : Role) (c : Conductor) :
    List (Option Epoch × Downlink) → Prop where
  /-- It has no part in the awaited barrier. -/
  | none (apart : ∀ b, c.gate.awaited = some b → r ∈ b.expected → c.roster.binds s r = false) :
      Tail start moves s r c []
  /-- It is a member of the awaited barrier. -/
  | waits {b : Awaited} (awaited : c.gate.awaited = some b) (member : r ∈ b.expected)
      (bound : c.roster.binds s r = true) :
      Tail start moves s r c [(some b.epoch, .enterBarrier b.name b.timeout (some r))]
  /-- It lost its role before the barrier ended. -/
  | lost {e : Epoch} {name : String} {timeout : Option Span}
      (unbound : c.roster.binds s r = false) (loses : LosesRole start moves s e name r) :
      Tail start moves s r c [(some e, .enterBarrier name timeout (some r))]

/-- What a session with a role was told: complete rounds in the order of their epochs, and perhaps
the beginning of one more. -/
def Story (start : Hall) (moves : List Move) (s : SessionId) (r : Role) (c : Conductor)
    (log : List (Option Epoch × Downlink)) : Prop :=
  ∃ (rounds : List Round) (tail : _), log = rounds.flatMap Round.entries ++ tail ∧
    rounds.Pairwise (·.epoch.number < ·.epoch.number) ∧
    (∀ x ∈ rounds, x.role = r ∧ x.Settled c) ∧ Tail start moves s r c tail

/-! ### Settled rounds stay settled -/

theorem outcome?_append {c c' : Conductor} {o o' : Outcome} {e : Epoch}
    (ho : c'.outcomes = c.outcomes ++ [o']) (h : c.outcome? e = some o) :
    c'.outcome? e = some o := by
  unfold outcome? at h ⊢
  rw [ho, List.find?_append, h]
  rfl

/-- The outcome of the barrier that ends is the one that is delivered for its epoch. -/
theorem outcome?_of_ends {c c' : Conductor} {b : Awaited} {failure : Option Reason}
    (hc : c.Sound) (ha : c.gate.awaited = some b)
    (ho : c'.outcomes = c.outcomes ++ [b.outcome failure]) :
    c'.outcome? b.epoch = some (b.outcome failure) := by
  have hnone : c.outcomes.find? (·.epoch = b.epoch) = none := by
    refine List.find?_eq_none.mpr fun o hm he => ?_
    have hlt := hc.past o hm
    rw [frontier_of_awaited ha, of_decide_eq_true he] at hlt
    exact Nat.lt_irrefl _ hlt
  unfold outcome?
  rw [ho, List.find?_append, hnone]
  simp [Awaited.outcome]

theorem Tells.frontier_le {c c' : Conductor} {w : List Downlink} (hc : c.Sound)
    (ht : Tells s r c c' w) : c.frontier ≤ c'.frontier := by
  cases ht with
  | rests ha hn =>
    have hepochs := congrArg (Option.map (·.epoch)) ha
    rw [Option.map_map, Option.map_map] at hepochs
    exact Nat.le_of_eq (frontier_of_same hepochs hn).symm
  | opensElsewhere hi ha he | opens hi ha he =>
    exact Nat.le_of_eq (frontier_of_opened hi ha he).symm
  | endsElsewhere ha hi hn | ends ha hi hn =>
    rw [frontier_of_awaited ha]
    exact Nat.le_of_lt (lt_frontier_of_ended hc.gate ha hi hn)

theorem Round.Settled.of_tells {c c' : Conductor} {w : List Downlink} {x : Round} (hc : c.Sound)
    (hx : x.Settled c) (ht : Tells s r c c' w) : x.Settled c' := by
  obtain ⟨hlt, o, ho, hagrees⟩ := hx
  refine ⟨Nat.lt_of_lt_of_le hlt (Tells.frontier_le hc ht), o, ?_, hagrees⟩
  cases ht with
  | rests _ _ hout | opensElsewhere _ _ _ hout | opens _ _ _ hout =>
    unfold outcome? at ho ⊢
    rw [hout]
    exact ho
  | endsElsewhere _ _ _ hout | ends _ _ _ hout => exact outcome?_append hout ho

/-! ### One move -/

/-- What a move tells an active session, and what it does to its role. -/
theorem tells_of_quiet {c c₁ c' : Conductor} {op : Operation} {stage? : SessionId → Option Stage}
    {next : SessionId} (ho : c.Orderly stage? next) (hst : stage? s = some (.active r))
    (before : Quiet t c c₁) (behind : Quiet t (c₁.after op) c') (ht : op.tends? ≠ some s)
    (hopen : (c'.line s).isOpen = true)
    (hm : ∀ b, (c₁.after op).roster.members.get? r = some b → b.handle = s →
      c₁.roster.members.get? r = some b) :
    (c.line s).isOpen = true ∧ (∃ w, c'.spoken s = c.spoken s ++ w ∧ Tells s r c c' w) ∧
      (c'.roster.binds s r = true → c.roster.binds s r = true) := by
  have ho₁ := ho.of_quiet before
  -- a line that is shut stays so, hence it has been open all the time
  have hopen₁ : (c₁.line s).isOpen = true := by
    refine Bool.not_eq_false _ ▸ fun hl => ?_
    rw [behind.shut s (spoken_after_of_shut op ht hl).2] at hopen
    cases hopen
  obtain ⟨w, hw, htells⟩ := tells_after ho₁.sound ht hopen₁ fun _ hx => ho₁.eq_of_binds hst hx
  refine ⟨?_, ⟨w, ?_, (htells.before before).behind behind⟩, ?_⟩
  · refine Bool.not_eq_false _ ▸ fun hl => ?_
    rw [before.shut s hl] at hopen₁
    cases hopen₁
  · rw [behind.spoken, hw, before.spoken]
  · intro hb
    rw [binds_of_members behind.members] at hb
    rw [← binds_of_members before.members]
    obtain ⟨b, hget, hbs⟩ := Roster.binds_eq_true_iff.mp hb
    exact Roster.binds_eq_true_iff.mpr ⟨b, hm b hget hbs, hbs⟩

/-- A session that says who it is has heard nothing, and has no part in the awaited barrier: the
members of that one were bound before, and to other sessions. -/
theorem apart_of_handshake (ho : h.Orderly) {due : Nat}
    (hw : h.stage? s = some (.awaitingHello due)) (name : String) (address : Address) :
    (h.conductor.handshake s name address).1.spoken s = [] ∧
      ∀ b, (h.conductor.handshake s name address).1.gate.awaited = some b → r ∈ b.expected →
        (h.conductor.handshake s name address).1.roster.binds s r = false := by
  have hfree := Conductor.Orderly.unbound ho hw
  constructor
  · exact (spoken_after_of_unbound (.handshake s name address) nofun hfree).trans
      (ho.unheard s due hw)
  · intro b hb hr
    cases turn_handshake ho.sound s name address with
    | rests _ hg _ hkeeps =>
      rw [hg] at hb
      rw [← hfree r]
      unfold Roster.binds
      rw [hkeeps b hb r hr]
    | arrives hop | opens hop => cases hop
    | ends _ _ _ hg =>
      rw [hg] at hb
      cases hb

/-- A session that is active behind a move has just been given its role, and has heard nothing yet,
or it was active before. -/
theorem active_after (ho : h.Orderly) (m : Move) (hst : (h.after m).stage? s = some (.active r))
    (hopen : ((h.after m).conductor.line s).isOpen = true) :
    ((h.after m).conductor.spoken s = [] ∧
      ∀ b, (h.after m).conductor.gate.awaited = some b → r ∈ b.expected →
        (h.after m).conductor.roster.binds s r = false) ∨
    (h.stage? s = some (.active r) ∧ (h.conductor.line s).isOpen = true ∧
      (∃ w, (h.after m).conductor.spoken s = h.conductor.spoken s ++ w ∧
        Tells s r h.conductor (h.after m).conductor w) ∧
      ((h.after m).conductor.roster.binds s r = true → h.conductor.roster.binds s r = true)) := by
  have hshift := shift h m
  generalize h.after m = h' at hshift hst hopen ⊢
  cases hshift with
  | @works c₁ op source before behind stages next =>
    rw [stages] at hst
    obtain ⟨hline, hw, hb⟩ := tells_of_quiet ho hst before behind
      (Operation.tends?_of_plain source.plain s) hopen fun b hb _ =>
        members_of_plain source.plain hb
    exact Or.inr ⟨hst, hline, hw, hb⟩
  | @attaches c₁ arrival before conductor stage others next =>
    have hne : s ≠ h.nextSession := by
      rintro rfl
      obtain ⟨due, hw⟩ := stage
      rw [hst] at hw
      cases hw
    rw [others s hne] at hst
    have hattach : (Operation.attach h.nextSession).tends? ≠ some s :=
      fun he => hne (Option.some.inj he).symm
    rw [conductor] at hopen ⊢
    obtain ⟨hline, hw, hb⟩ := tells_of_quiet ho hst before
      (.refl (c₁.after (.attach h.nextSession)))
      hattach hopen fun b hb _ => hb
    exact Or.inr ⟨hst, hline, hw, hb⟩
  | @registers s' name address role waits conductor accepted stage others next =>
    rw [conductor] at hopen ⊢
    by_cases hs : s = s'
    · subst hs
      obtain ⟨due, hwaits⟩ := waits
      exact Or.inl (apart_of_handshake ho hwaits name address)
    · rw [others s hs] at hst
      obtain ⟨hline, hw, hb⟩ := tells_of_quiet (t := none) ho hst (.refl _)
        (.refl (h.conductor.after (.handshake s' name address))) nofun hopen fun b hb hbs => by
          rcases members_handshake accepted hb with ⟨-, hb'⟩ | hb'
          · exact absurd (hbs.symm.trans hb') hs
          · exact hb'
      exact Or.inr ⟨hst, hline, hw, hb⟩
  | @concludes s' role c₁ runs before behind stage others shut next =>
    have hne : s ≠ s' := by
      rintro rfl
      rw [shut] at hopen
      cases hopen
    rw [others s hne] at hst
    obtain ⟨hline, hw, hb⟩ := tells_of_quiet ho hst before behind nofun hopen fun b hb _ =>
      (members_sessionClosed hb).1
    exact Or.inr ⟨hst, hline, hw, hb⟩
  | @kills s' role runs quiet stage others shut next =>
    have hne : s ≠ s' := by
      rintro rfl
      rw [shut] at hopen
      cases hopen
    rw [others s hne] at hst
    obtain ⟨hline, hw, hb⟩ := tells_of_quiet ho hst quiet (.refl (h'.conductor.after (.tick 0)))
      nofun hopen fun b hb _ => hb
    exact Or.inr ⟨hst, hline, hw, hb⟩

theorem epochOf_of_awaited {b : Awaited} (ha : h.conductor.gate.awaited = some b) :
    h.epochOf m = some b.epoch := by
  unfold epochOf
  rw [ha]
  rfl

theorem epochOf_of_idle {b : Awaited} (hi : h.conductor.gate.awaited = none)
    (ha : (h.after m).conductor.gate.awaited = some b) : h.epochOf m = some b.epoch := by
  unfold epochOf
  rw [hi, ha]
  rfl

/-- When no barrier is awaited, a session that has its role has no unfinished round. -/
theorem Tail.eq_nil {start : Hall} {c : Conductor} {tail : List (Option Epoch × Downlink)}
    (h : Tail start moves s r c tail) (hi : c.gate.awaited = Option.none)
    (hb : c.roster.binds s r = true) : tail = [] := by
  cases h with
  | none => rfl
  | waits ha =>
    rw [hi] at ha
    cases ha
  | lost hun =>
    rw [hb] at hun
    cases hun

/-- A member of the awaited barrier that has its role was told that it is open. -/
theorem Tail.eq_of_member {start : Hall} {c : Conductor} {b : Awaited}
    {tail : List (Option Epoch × Downlink)} (h : Tail start moves s r c tail)
    (ha : c.gate.awaited = some b) (hm : r ∈ b.expected) (hb : c.roster.binds s r = true) :
    tail = [(some b.epoch, .enterBarrier b.name b.timeout (some r))] := by
  cases h with
  | none hapart =>
    rw [hapart b ha hm] at hb
    cases hb
  | waits ha' =>
    rw [ha] at ha'
    cases ha'
    rfl
  | lost hun =>
    rw [hb] at hun
    cases hun

/-- What is left of a session's part in a barrier when it hears nothing. -/
theorem Tail.of_silence {start : Hall} {c c' : Conductor} {tail : List (Option Epoch × Downlink)}
    (hc : Tail start moves s r c tail)
    (hb : c'.roster.binds s r = true → c.roster.binds s r = true)
    (hnone : (∀ b, c.gate.awaited = some b → r ∈ b.expected → c.roster.binds s r = false) →
      ∀ b, c'.gate.awaited = some b → r ∈ b.expected → c'.roster.binds s r = false)
    (hwaits : ∀ b, c.gate.awaited = some b → r ∈ b.expected → c.roster.binds s r = true →
      Tail start (moves ++ [m]) s r c' [(some b.epoch, .enterBarrier b.name b.timeout (some r))]) :
    Tail start (moves ++ [m]) s r c' tail := by
  cases hc with
  | none apart => exact .none (hnone apart)
  | waits ha hm hbound => exact hwaits _ ha hm hbound
  | lost hun hl =>
    refine .lost ?_ (hl.concat m)
    refine Bool.eq_false_iff.mpr ?_
    intro h
    rw [hb h] at hun
    cases hun

/-- A move by which no barrier opens or ends leaves the tail as it is. -/
theorem Tail.of_rests {start : Hall} {c c' : Conductor} {tail : List (Option Epoch × Downlink)}
    (hc : Tail start moves s r c tail)
    (hb : c'.roster.binds s r = true → c.roster.binds s r = true)
    (ha : c'.gate.awaited.map Awaited.blank = c.gate.awaited.map Awaited.blank)
    (hbound : ∀ b, c.gate.awaited = some b → r ∈ b.expected →
      c'.roster.binds s r = c.roster.binds s r) : Tail start (moves ++ [m]) s r c' tail := by
  refine hc.of_silence hb ?_ ?_
  · intro hapart b' hb' hr
    rw [hb'] at ha
    obtain ⟨b, hb₀, he⟩ := Option.map_eq_some_iff.mp ha.symm
    obtain ⟨-, -, hexpected, -⟩ := Awaited.blank_eq_iff.mp he
    have hr₀ : r ∈ b.expected := by rwa [hexpected]
    rw [hbound b hb₀ hr₀]
    exact hapart b hb₀ hr₀
  · intro b hb₀ hr hbd
    rw [hb₀] at ha
    obtain ⟨b', hb', he⟩ := Option.map_eq_some_iff.mp ha
    obtain ⟨hname, hepoch, hexpected, htimeout⟩ := Awaited.blank_eq_iff.mp he
    rw [← hname, ← hepoch, ← htimeout]
    exact .waits hb' (by rwa [hexpected]) ((hbound b hb₀ hr).trans hbd)

/-- The round that is complete when the awaited barrier ends. -/
def Round.ofEnded (b : Awaited) (r : Role) (failedBy : Option Role) (failure : Option Reason) :
    Round :=
  ⟨b.epoch, b.name, b.timeout, r, failedBy, failure.isNone⟩

theorem Round.settled_ofEnded {c c' : Conductor} {b : Awaited} {failedBy : Option Role}
    {failure : Option Reason} (hc : c.Sound) (ha : c.gate.awaited = some b)
    (hi : c'.gate.awaited = none) (hn : c'.gate.nextEpoch = c.gate.nextEpoch)
    (hout : c'.outcomes = c.outcomes ++ [b.outcome failure]) (hm : r ∈ b.expected)
    (hreason : ∀ f, failedBy = some f → f ≠ r ∧ f ∈ b.expected ∧ failure = some (.failed f)) :
    (Round.ofEnded b r failedBy failure).Settled c' :=
  ⟨lt_frontier_of_ended hc.gate ha hi hn, b.outcome failure, outcome?_of_ends hc ha hout,
    rfl, rfl, hm, hreason⟩

/-- What a session was told before is a story still, with what the move tells it: the announcement
begins a round where none was unfinished, and the result completes the one that was. -/
theorem Story.step {start : Hall} {log : List (Option Epoch × Downlink)} {w : List Downlink}
    (ho : (start.follow moves).Orderly)
    (hs : Story start moves s r (start.follow moves).conductor log)
    (ht : Tells s r (start.follow moves).conductor ((start.follow moves).after m).conductor w)
    (hb : ((start.follow moves).after m).conductor.roster.binds s r = true →
      (start.follow moves).conductor.roster.binds s r = true) :
    Story start (moves ++ [m]) s r ((start.follow moves).after m).conductor
      (log ++ w.map ((start.follow moves).epochOf m, ·)) := by
  obtain ⟨rounds, tail, rfl, horder, hrounds, htail⟩ := hs
  have hsound : (start.follow moves).conductor.Sound := ho.sound
  have hsettled : ∀ x ∈ rounds, x.role = r ∧
      x.Settled ((start.follow moves).after m).conductor := fun x hx =>
    ⟨(hrounds x hx).1, (hrounds x hx).2.of_tells hsound ht⟩
  cases ht with
  | rests ha _ _ hbound =>
    exact ⟨rounds, tail, by simp, horder, hsettled, htail.of_rests hb ha hbound⟩
  | @opensElsewhere b hi ha he hout hapart =>
    refine ⟨rounds, tail, by simp, horder, hsettled, htail.of_silence hb ?_ ?_⟩
    · intro _ b' hb' hr
      rw [ha] at hb'
      cases hb'
      exact Bool.eq_false_iff.mpr fun h => hapart ⟨hr, h⟩
    · intro b' hb'
      rw [hi] at hb'
      cases hb'
  | @opens b hi ha he hout hm hbound =>
    obtain rfl := htail.eq_nil hi (hb hbound)
    refine ⟨rounds, _, ?_, horder, hsettled, .waits ha hm hbound⟩
    rw [epochOf_of_idle hi ha, List.append_nil]
    rfl
  | @endsElsewhere b failure ha hi hn hout hapart =>
    refine ⟨rounds, tail, by simp, horder, hsettled, htail.of_silence hb ?_ ?_⟩
    · intro _ b' hb'
      rw [hi] at hb'
      cases hb'
    · -- a member that is not told the result has lost its role in this move
      intro b' hb' hr hbd
      rw [ha] at hb'
      cases hb'
      have hun := hapart hr hbd
      exact .lost hun ⟨moves, m, [], b, rfl, ha, rfl, rfl, hr, hbd, hun⟩
  | @ends b failedBy failure ha hi hn hout hm hbound hreason =>
    obtain rfl := htail.eq_of_member ha hm hbound
    have hx := Round.settled_ofEnded hsound ha hi hn hout hm hreason
    refine ⟨rounds ++ [.ofEnded b r failedBy failure], [], ?_, ?_, ?_, .none ?_⟩
    · rw [epochOf_of_awaited ha]
      simp [Round.entries, Round.messages, lastWords, Round.ofEnded]
    · -- the rounds before are past, and this one was awaited till now
      refine List.pairwise_append.mpr ⟨horder, List.pairwise_singleton _ _, ?_⟩
      intro y hy z hz
      rw [List.mem_singleton.mp hz]
      have hlt := (hrounds y hy).2.1
      rwa [frontier_of_awaited ha] at hlt
    · intro y hy
      rcases List.mem_append.mp hy with hy | hy
      · exact hsettled y hy
      · rw [List.mem_singleton.mp hy]
        exact ⟨rfl, hx⟩
    · intro b' hb'
      rw [hi] at hb'
      cases hb'

/-! ### Runs -/

/-- A line is only ever added to. -/
theorem spoken_after (ho : h.Orderly) (m : Move) (s : SessionId) :
    ∃ w, (h.after m).conductor.spoken s = h.conductor.spoken s ++ w := by
  obtain ⟨c₁, op, before, behind, horigin⟩ := operates h m
  by_cases ht : op.tends? = some s
  · -- the line of a session that is only taken in has nothing on it
    obtain ⟨-, hs⟩ := horigin.tends ht
    have hnil : h.conductor.spoken s = [] := (ho.new s (Nat.le_of_eq hs.symm)).2.2
    exact ⟨_, by rw [hnil, List.nil_append]⟩
  · obtain ⟨audience, hsaid, -⟩ := says_after c₁ s op ht
    exact ⟨_, by rw [behind.spoken, hsaid.spoken, before.spoken]⟩

/-- What a session was told is what was queued for it. -/
theorem told_follow (settings : Settings) (s : SessionId) (moves : List Move) :
    (told s { conductor := { settings } } moves).map (·.2) =
      (follow { conductor := { settings } } moves).conductor.spoken s := by
  induction moves using List.reverseRecOn with
  | nil => rfl
  | append_singleton moves m ih =>
    obtain ⟨w, hw⟩ := spoken_after (orderly_follow (orderly_new settings) moves) m s
    rw [told_concat, follow_concat, List.map_append, ih, news_of_spoken hw, hw, List.map_map]
    exact congrArg _ (List.map_id w)

theorem told_eq_nil {settings : Settings}
    (h : (follow { conductor := { settings } } moves).conductor.spoken s = []) :
    told s { conductor := { settings } } moves = [] := by
  rw [← told_follow, List.map_eq_nil_iff] at h
  exact h

theorem story_follow (settings : Settings) (s : SessionId) (moves : List Move) (r : Role)
    (hst : (follow { conductor := { settings } } moves).stage? s = some (.active r))
    (hopen : ((follow { conductor := { settings } } moves).conductor.line s).isOpen = true) :
    Story { conductor := { settings } } moves s r
      (follow { conductor := { settings } } moves).conductor
      (told s { conductor := { settings } } moves) := by
  induction moves using List.reverseRecOn with
  | nil => cases hst
  | append_singleton moves m ih =>
    have ho := orderly_follow (orderly_new settings) moves
    rw [follow_concat] at hst hopen ⊢
    rcases active_after ho m hst hopen with ⟨hspoken, hapart⟩ | ⟨hst₀, hopen₀, ⟨w, hw, ht⟩, hb⟩
    · rw [← follow_concat] at hspoken
      rw [told_eq_nil hspoken]
      exact ⟨[], [], rfl, List.Pairwise.nil, nofun, .none hapart⟩
    · rw [told_concat, news_of_spoken hw]
      exact (ih hst₀ hopen₀).step ho ht hb

/-- In every run, as long as the line of a session is open, the messages about barriers that were
queued on it are complete rounds followed by at most one unfinished round, which is the announcement
alone. A complete round agrees with the outcome that was delivered for its opening: another member
is said to have given the barrier up only if the outcome is a failure by that member, and the
verdict is that of the outcome. The unfinished round is that of the awaited barrier, of which the
session's role is a member, or of one that was awaited when the session lost its role. -/
theorem rounds_of_session (settings : Settings) (moves : List Move) (s : SessionId)
    (hopen : ((follow { conductor := { settings } } moves).conductor.line s).isOpen = true) :
    let start : Hall := { conductor := { settings } }
    let h := follow start moves
    (told s start moves).map (·.2) = h.conductor.spoken s ∧
    ∃ (r : Role) (rounds : List Round) (tail : List (Option Epoch × Downlink)),
      told s start moves = rounds.flatMap Round.entries ++ tail ∧
      rounds.Pairwise (·.epoch.number < ·.epoch.number) ∧
      (∀ x ∈ rounds, x.role = r ∧ ∃ o, h.conductor.outcome? x.epoch = some o ∧ x.Agrees o) ∧
      (tail = [] ∨ ∃ e name timeout, tail = [(some e, .enterBarrier name timeout (some r))] ∧
        ((∃ b, h.conductor.gate.awaited = some b ∧ b.epoch = e ∧ b.name = name ∧ r ∈ b.expected ∧
            h.conductor.roster.binds s r = true) ∨
          LosesRole start moves s e name r)) := by
  intro start h
  refine ⟨told_follow settings s moves, ?_⟩
  have ho : h.Orderly := orderly_follow (orderly_new settings) moves
  rcases ho.runs s hopen with ⟨due, hst⟩ | ⟨r, hst⟩
  · have hnil : told s start moves = [] := told_eq_nil (ho.unheard s due hst)
    exact ⟨default, [], [], by rw [hnil]; rfl, List.Pairwise.nil, nofun, Or.inl rfl⟩
  · obtain ⟨rounds, tail, hlog, horder, hrounds, htail⟩ := story_follow settings s moves r hst hopen
    refine ⟨r, rounds, tail, hlog, horder,
      fun x hx => ⟨(hrounds x hx).1, (hrounds x hx).2.2⟩, ?_⟩
    cases htail with
    | none => exact Or.inl rfl
    | @waits b ha hm hb =>
      exact Or.inr ⟨b.epoch, b.name, b.timeout, rfl, Or.inl ⟨b, ha, rfl, rfl, hm, hb⟩⟩
    | @lost e name timeout _ hl => exact Or.inr ⟨e, name, timeout, rfl, Or.inr hl⟩

/-- The session of a member is told that the other one gave the barrier up. -/
theorem rounds_of_session_given_up :
    let a : Role := ⟨"a"⟩
    let b : Role := ⟨"b"⟩
    let moves : List Move := [
      .connect, .deliver 0 (Frame.ofBody (Uplink.hello "a" default).encode), .read 0,
      .connect, .deliver 1 (Frame.ofBody (Uplink.hello "b" default).encode), .read 1,
      .openBarrier "start" [a, b] none,
      .deliver 1 (Frame.ofBody (Uplink.failBarrier "start" b).encode), .read 1]
    told 0 {} moves = [(some ⟨1⟩, .enterBarrier "start" none (some a)),
      (some ⟨1⟩, .failBarrier "start" b), (some ⟨1⟩, .barrierResult "start" false)] ∧
    ∃ (r : Role) (rounds : List Round) (tail : List (Option Epoch × Downlink)),
      told 0 {} moves = rounds.flatMap Round.entries ++ tail ∧
      ∀ x ∈ rounds, x.role = r ∧
        ∃ o, (follow {} moves).conductor.outcome? x.epoch = some o ∧ x.Agrees o := by
  intro a b moves
  have hopen : ((follow {} moves).conductor.line 0).isOpen = true := by decide +kernel
  obtain ⟨-, r, rounds, tail, hlog, -, hrounds, -⟩ := rounds_of_session {} moves 0 hopen
  refine ⟨by decide +kernel, r, rounds, tail, hlog, hrounds⟩

end Rendezvous.Hall
