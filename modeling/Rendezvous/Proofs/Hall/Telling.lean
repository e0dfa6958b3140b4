import Rendezvous.Proofs.Hall.Orderly

/-!
# Telling a session

What one operation of the conductor tells a session that can be bound to one role only (`Tells`).
It is told that the barrier is open if its role is expected, and how the barrier ended if its role
was expected and is bound to it still; in between it can only lose its role.
-/

namespace Rendezvous

/-- A barrier as it was opened, nobody having arrived. -/
def Awaited.blank (b : Awaited) : Awaited := { b with arrived := [] }

theorem Awaited.blank_eq_iff {b b' : Awaited} : b'.blank = b.blank ↔
    b'.name = b.name ∧ b'.epoch = b.epoch ∧ b'.expected = b.expected ∧ b'.timeout = b.timeout := by
  simp [blank]

namespace Role

/-- Of a set without repeats a property that one role alone can have leaves that role or none. -/
theorem filter_eq_of_unique {roles : List Role} {r : Role} {p : Role → Bool} (hn : roles.Nodup)
    (hp : ∀ x, p x = true → x = r) : roles.filter p = if r ∈ roles ∧ p r then [r] else [] := by
  induction roles with
  | nil => simp
  | cons x rest ih =>
    obtain ⟨hx, hrest⟩ := List.nodup_cons.mp hn
    rw [List.filter_cons, ih hrest]
    by_cases hpx : p x = true
    · obtain rfl := hp x hpx
      simp [hpx, hx]
    · have hne : r ∈ x :: rest ∧ p r = true ↔ r ∈ rest ∧ p r = true := by
        constructor
        · rintro ⟨hm, hpr⟩
          rcases List.mem_cons.mp hm with rfl | hm
          · exact absurd hpr hpx
          · exact ⟨hm, hpr⟩
        · exact fun h => ⟨List.mem_cons_of_mem x h.1, h.2⟩
      rw [if_neg hpx]
      simp only [hne]

end Role

namespace Conductor

variable {c c' : Conductor} {s : SessionId} {r : Role} {op : Operation} {w : List Downlink}
  {t : Option SessionId}

/-- What a session is told of a barrier that has ended, if its role was a member. -/
def lastWords (b : Awaited) (failedBy : Option Role) (failure : Option Reason) : List Downlink :=
  failedBy.toList.map (.failBarrier b.name ·) ++ [.barrierResult b.name failure.isNone]

/-- What a session that can be bound to the role `r` only is told between two conductors. -/
inductive Tells (s : SessionId) (r : Role) (c c' : Conductor) : List Downlink → Prop where
  /-- No barrier opens or ends. -/
  | rests (awaited : c'.gate.awaited.map Awaited.blank = c.gate.awaited.map Awaited.blank)
      (next : c'.gate.nextEpoch = c.gate.nextEpoch) (outcomes : c'.outcomes = c.outcomes)
      (bound : ∀ b, c.gate.awaited = some b → r ∈ b.expected →
        c'.roster.binds s r = c.roster.binds s r) : Tells s r c c' []
  /-- A barrier opens in which the session has no part. -/
  | opensElsewhere {b : Awaited} (idle : c.gate.awaited = none)
      (awaited : c'.gate.awaited = some b) (epoch : b.epoch = ⟨c.gate.nextEpoch⟩)
      (outcomes : c'.outcomes = c.outcomes)
      (apart : ¬(r ∈ b.expected ∧ c'.roster.binds s r = true)) : Tells s r c c' []
  /-- A barrier opens of which the session's role is a member. -/
  | opens {b : Awaited} (idle : c.gate.awaited = none) (awaited : c'.gate.awaited = some b)
      (epoch : b.epoch = ⟨c.gate.nextEpoch⟩) (outcomes : c'.outcomes = c.outcomes)
      (member : r ∈ b.expected) (bound : c'.roster.binds s r = true) :
      Tells s r c c' [.enterBarrier b.name b.timeout (some r)]
  /-- The barrier ends, and the session hears nothing: it had no part in it or has none any more. -/
  | endsElsewhere {b : Awaited} {failure : Option Reason} (awaited : c.gate.awaited = some b)
      (idle : c'.gate.awaited = none) (next : c'.gate.nextEpoch = c.gate.nextEpoch)
      (outcomes : c'.outcomes = c.outcomes ++ [b.outcome failure])
      (apart : r ∈ b.expected → c.roster.binds s r = true → c'.roster.binds s r = false) :
      Tells s r c c' []
  /-- The barrier ends, and the session is told how. -/
  | ends {b : Awaited} {failedBy : Option Role} {failure : Option Reason}
      (awaited : c.gate.awaited = some b) (idle : c'.gate.awaited = none)
      (next : c'.gate.nextEpoch = c.gate.nextEpoch)
      (outcomes : c'.outcomes = c.outcomes ++ [b.outcome failure]) (member : r ∈ b.expected)
      (bound : c.roster.binds s r = true)
      (reason : ∀ f, failedBy = some f → f ≠ r ∧ f ∈ b.expected ∧ failure = some (.failed f)) :
      Tells s r c c' (lastWords b failedBy failure)

/-- What no barrier takes notice of may come before. -/
theorem Tells.before {c₁ : Conductor} (hq : Quiet t c c₁) (h : Tells s r c₁ c' w) :
    Tells s r c c' w := by
  have hb : c₁.roster.binds s r = c.roster.binds s r := binds_of_members hq.members
  cases h with
  | rests ha hn ho hbound =>
    rw [hq.gate] at ha hn hbound
    rw [hb] at hbound
    exact .rests ha hn (ho.trans hq.desk.outcomes) hbound
  | opensElsewhere hi ha he ho hapart =>
    rw [hq.gate] at hi he
    exact .opensElsewhere hi ha he (ho.trans hq.desk.outcomes) hapart
  | opens hi ha he ho hm hbound =>
    rw [hq.gate] at hi he
    exact .opens hi ha he (ho.trans hq.desk.outcomes) hm hbound
  | endsElsewhere ha hi hn ho hapart =>
    rw [hq.gate] at ha hn
    rw [hq.desk.outcomes] at ho
    rw [hb] at hapart
    exact .endsElsewhere ha hi hn ho hapart
  | ends ha hi hn ho hm hbound hreason =>
    rw [hq.gate] at ha hn
    rw [hq.desk.outcomes] at ho
    rw [hb] at hbound
    exact .ends ha hi hn ho hm hbound hreason

/-- What no barrier takes notice of may come behind. -/
theorem Tells.behind {c₁ : Conductor} (h : Tells s r c c₁ w) (hq : Quiet t c₁ c') :
    Tells s r c c' w := by
  have hb : c'.roster.binds s r = c₁.roster.binds s r := binds_of_members hq.members
  cases h with
  | rests ha hn ho hbound =>
    refine .rests (by rw [hq.gate, ha]) (by rw [hq.gate, hn]) (hq.desk.outcomes.trans ho) ?_
    rw [hb]
    exact hbound
  | opensElsewhere hi ha he ho hapart =>
    refine .opensElsewhere hi (by rw [hq.gate, ha]) he (hq.desk.outcomes.trans ho) ?_
    rwa [hb]
  | opens hi ha he ho hm hbound =>
    refine .opens hi (by rw [hq.gate, ha]) he (hq.desk.outcomes.trans ho) hm ?_
    rwa [hb]
  | endsElsewhere ha hi hn ho hapart =>
    refine .endsElsewhere ha (by rw [hq.gate, hi]) (by rw [hq.gate, hn])
      (hq.desk.outcomes.trans ho) ?_
    rwa [hb]
  | ends ha hi hn ho hm hbound hreason =>
    exact .ends ha (by rw [hq.gate, hi]) (by rw [hq.gate, hn]) (hq.desk.outcomes.trans ho) hm hbound
      hreason

/-! ## One operation -/

section Words

variable {audience : Roster SessionId} {b : Awaited} {roles : List Role}

theorem filter_binds (hu : ∀ x, audience.binds s x = true → x = r) (hn : roles.Nodup) :
    roles.filter (audience.binds s) = if r ∈ roles ∧ audience.binds s r then [r] else [] :=
  Role.filter_eq_of_unique hn hu

theorem words_openEffects (b : Awaited) (hears : Role → Bool) :
    b.openEffects.flatMap (·.words hears) =
      (b.expected.filter hears).map fun x => .enterBarrier b.name b.timeout (some x) := by
  unfold Awaited.openEffects
  cases b.timeout <;> simp [GateEffect.words]

theorem words_endEffects (b : Awaited) (failure : Option Reason) (hears : Role → Bool) :
    (b.endEffects failure).flatMap (·.words hears) =
      (b.expected.filter hears).map fun _ => .barrierResult b.name failure.isNone := by
  unfold Awaited.endEffects
  cases b.timeout <;> simp [GateEffect.words, Awaited.outcome, Outcome.isSuccess]

/-- A session whose role is not there hears nothing of the end. -/
theorem words_of_apart {failure : Option Reason} {effects : List GateEffect}
    (h : b.Ends failure effects) (hu : ∀ x, audience.binds s x = true → x = r)
    (hapart : ¬(r ∈ b.expected ∧ audience.binds s r = true)) :
    effects.flatMap (·.words (audience.binds s)) = [] := by
  have hdeaf : ∀ roles : List Role, roles ⊆ b.expected → roles.filter (audience.binds s) = [] := by
    intro roles hsub
    refine List.filter_eq_nil_iff.mpr fun x hx hb => hapart ?_
    obtain rfl := hu x hb
    exact ⟨hsub hx, hb⟩
  cases h with
  | quietly failure => rw [words_endEffects, hdeaf _ (List.Subset.refl _), List.map_nil]
  | relayed role _ =>
    rw [List.flatMap_cons, words_endEffects, hdeaf _ (List.Subset.refl _), Awaited.relay,
      GateEffect.words, hdeaf _ fun _ hx => (List.mem_filter.mp hx).1]
    rfl

/-- A member's session hears who gave the barrier up, if it was another one, and the result. -/
theorem words_of_member {failure : Option Reason} {effects : List GateEffect}
    (h : b.Ends failure effects) (hn : b.expected.Nodup)
    (hu : ∀ x, audience.binds s x = true → x = r) (hm : r ∈ b.expected)
    (hb : audience.binds s r = true) :
    ∃ failedBy, effects.flatMap (·.words (audience.binds s)) = lastWords b failedBy failure ∧
      ∀ f, failedBy = some f → f ≠ r ∧ f ∈ b.expected ∧ failure = some (.failed f) := by
  have hresult : b.expected.filter (audience.binds s) = [r] := by
    rw [filter_binds hu hn, if_pos ⟨hm, hb⟩]
  cases h with
  | quietly failure =>
    refine ⟨none, ?_, nofun⟩
    rw [words_endEffects, hresult]
    rfl
  | relayed role hrole =>
    rw [List.flatMap_cons, words_endEffects, hresult, Awaited.relay, GateEffect.words,
      filter_binds hu (hn.filter _)]
    by_cases he : role = r
    · refine ⟨none, ?_, nofun⟩
      rw [if_neg (by simp [he])]
      rfl
    · refine ⟨some role, ?_, ?_⟩
      · rw [if_pos (by simp [hm, hb, Ne.symm he])]
        rfl
      · intro f hf
        cases hf
        exact ⟨he, hrole, rfl⟩

end Words

/-- What an operation tells a session with an open line that has one role at most. -/
theorem tells_after (hc : c.Sound) (ht : op.tends? ≠ some s)
    (hopen : (c.line s).isOpen = true) (hu : ∀ x, c.roster.binds s x = true → x = r) :
    ∃ w, (c.after op).spoken s = c.spoken s ++ w ∧ Tells s r c (c.after op) w := by
  obtain ⟨audience, hsaid, hhears⟩ := says_after c s op ht
  have hspoken := hsaid.spoken
  rw [hopen, if_pos rfl] at hspoken
  refine ⟨_, hspoken, ?_⟩
  have hua : ∀ x, audience.binds s x = true → x = r := fun x hx => hu x (hhears.binds hx)
  cases turn hc op with
  | rests he hg hd hb =>
    rw [he]
    refine .rests (by rw [hg]) (by rw [hg]) hd.outcomes ?_
    intro b hb' hr
    rw [Roster.binds, hb b hb' r hr]
    rfl
  | arrives _ he ha' _ hg hd hr =>
    rw [he]
    refine .rests ?_ (by rw [hg]) hd.outcomes fun _ _ _ => by rw [hr]
    rw [hg, ha']
    rfl
  | @opens b _ _ _ he _ hi hb hepoch _ _ _ hg _ hr _ _ _ ho =>
    have hn := Role.nodup_of_pairwise hb.expected_ordered
    -- an opening frees no role, so those that hear of it are bound behind it as well
    have hsame : ∀ x, audience.binds s x = (c.after op).roster.binds s x := by
      intro x
      unfold Roster.binds
      rcases hhears x with heq | ⟨hnone, hnone'⟩
      · rw [heq, hr]
      · rw [hnone, hnone']
    rw [he, words_openEffects, filter_binds hua hn]
    by_cases hmem : r ∈ b.expected ∧ audience.binds s r = true
    · rw [if_pos hmem]
      exact .opens hi (by rw [hg]) hepoch ho hmem.1 ((hsame r).symm.trans hmem.2)
    · rw [if_neg hmem]
      rw [hsame] at hmem
      exact .opensElsewhere hi (by rw [hg]) hepoch ho hmem
  | @ends b failure ha' he _ hg _ _ _ ho =>
    by_cases hmem : r ∈ b.expected ∧ audience.binds s r = true
    · have hn := Role.nodup_of_pairwise (hc.gate.awaited b ha').expected_ordered
      obtain ⟨failedBy, hw, hreason⟩ := words_of_member he hn hua hmem.1 hmem.2
      rw [hw]
      exact .ends ha' (by rw [hg]) (by rw [hg]) ho hmem.1 (hhears.binds hmem.2) hreason
    · rw [words_of_apart he hua hmem]
      -- a member that was bound and hears nothing has lost its role in between
      refine .endsElsewhere ha' (by rw [hg]) (by rw [hg]) ho ?_
      intro hr hb
      unfold Roster.binds at hb hmem ⊢
      rcases hhears r with heq | ⟨-, hnone⟩
      · rw [heq] at hmem
        exact absurd ⟨hr, hb⟩ hmem
      · rw [hnone]
        rfl

end Conductor

end Rendezvous
