import Mathlib.Data.List.Induction
import Rendezvous.Fault.Links
import Rendezvous.Proofs.Tables

/-!
# What the last command says about a link

The faults of a player's links are what a history of commands has made of them. Everything that can
be read of a link can be read off the history as well: the newest command counts that is about the
link and the direction and came behind the last one that forgets every fault (`latest`). So commands
about different links, and about different directions of one link, change nothing for each other,
and it is the same in which order they come (`last_command_counts`).
-/

namespace Rendezvous

namespace Single

variable {x y : Single}

/-! ## Lower numbers -/

theorem min_eq_or (x y : Single) : x.min y = x ∨ x.min y = y := by
  unfold Single.min
  split_ifs <;> simp

theorem orderKey_min_le (hx : x.isNaN = false) (hy : y.isNaN = false) :
    (x.min y).orderKey ≤ x.orderKey ∧ (x.min y).orderKey ≤ y.orderKey := by
  simp only [Single.min, hx, hy, Bool.false_eq_true, if_false]
  split <;> omega

/-- Both zeros equal zero, and nothing else does. -/
theorem isZero_eq_numEq (x : Single) : x.isZero = x.numEq ⟨0⟩ := by
  have hnumber : x.magnitude = 0 → x.isNaN = false := by
    intro h
    simp [isNaN, h]
  have hkey : x.orderKey = orderKey ⟨0⟩ ↔ x.magnitude = 0 := by
    show x.orderKey = 0 ↔ _
    unfold orderKey
    split <;> omega
  have hzero : isNaN ⟨0⟩ = false := rfl
  by_cases h : x.magnitude = 0
  · simp [isZero, numEq, hzero, hkey, h, hnumber h]
  · simp [isZero, numEq, hkey, h]

end Single

namespace Links

variable {l l' : Links} {t : Address} {d : Direction}

/-! ## Histories -/

/-- A command about faults. -/
inductive Operation where
  | throttle (target : Address) (d : Direction) (rate : Single)
  | disconnect (target : Address) (abort : Bool)
  | clear
deriving DecidableEq

namespace Operation

/-- The link that a command is about. -/
def target? : Operation → Option Address
  | throttle target .. | disconnect target _ => some target
  | clear => none

/-- The rate that a command sets for one direction of a link. -/
def rate? (target : Address) (d : Direction) : Operation → Option Single
  | throttle t d' rate => if target = t ∧ d'.includes d then some rate else none
  | _ => none

/-- How a command drops a link. -/
def abort? (target : Address) : Operation → Option Bool
  | disconnect t abort => if target = t then some abort else none
  | _ => none

end Operation

/-- The faults behind a command. -/
def step (l : Links) : Operation → Links
  | .throttle target d rate => l.throttle target d rate
  | .disconnect target abort => l.disconnect target abort
  | .clear => l.clear

/-- The faults that a history leaves. -/
def after (past : List Operation) : Links := past.foldl step {}

@[simp]
theorem after_concat (past : List Operation) (op : Operation) :
    after (past ++ [op]) = (after past).step op := by
  rw [after, List.foldl_append]
  rfl

/-- The newest answer of the commands since the last `clear`. -/
def latest {α : Type} (f : Operation → Option α) (past : List Operation) : Option α :=
  (past.reverse.takeWhile (· ≠ .clear)).findSome? f

theorem latest_concat {α : Type} (f : Operation → Option α) (past : List Operation)
    (op : Operation) :
    latest f (past ++ [op]) =
      if op = .clear then none else (f op).or (latest f past) := by
  simp only [latest, List.reverse_append, List.reverse_singleton, List.singleton_append,
    List.takeWhile_cons]
  by_cases h : op = .clear
  · simp [h]
  · simp [h, List.findSome?_cons]
    cases f op <;> rfl

/-! ## One command -/

theorem get?_throttleOne (l : Links) (target : Address) (d : Direction) (rate : Single)
    (k : Address × Direction) :
    (l.throttleOne target d rate).throttles.get? k =
      if k = (target, d) then (some rate).filter (!·.isNegative) else l.throttles.get? k := by
  unfold throttleOne
  cases h : rate.isNegative with
  | true =>
    rw [if_pos rfl, Table.get?_erase, Option.filter_some, h]
    rfl
  | false =>
    rw [if_neg Bool.false_ne_true, Table.get?_set, Option.filter_some, h]
    rfl

theorem get?_throttle (l : Links) (target : Address) (d : Direction) (rate : Single) (t : Address)
    (e : Direction) :
    (l.throttle target d rate).throttles.get? (t, e) =
      if t = target ∧ d.includes e ∧ e ≠ .both then (some rate).filter (!·.isNegative)
      else l.throttles.get? (t, e) := by
  unfold throttle
  cases d <;> cases e <;> simp [Direction.includes, get?_throttleOne]

theorem dropped_throttle (l : Links) (target : Address) (d : Direction) (rate : Single) :
    (l.throttle target d rate).dropped = l.dropped := by
  cases d <;> rfl

theorem keyed_throttle (h : l.throttles.Keyed) (target : Address) (d : Direction) (rate : Single) :
    (l.throttle target d rate).throttles.Keyed := by
  have hone : ∀ {l : Links} (e : Direction), l.throttles.Keyed →
      (l.throttleOne target e rate).throttles.Keyed := by
    intro l e h
    unfold throttleOne
    dsimp only
    split
    · exact h.erase _
    · exact h.set _ _
  cases d with
  | send => exact hone .send h
  | receive => exact hone .receive h
  | both => exact hone .receive (hone .send h)

/-! ## Runs -/

/-- Tables that say what a history says last. -/
structure Follows (past : List Operation) (l : Links) : Prop where
  throttles : ∀ t d, l.throttles.get? (t, d) =
    if d = .both then none else (latest (·.rate? t d) past).filter (!·.isNegative)
  dropped : ∀ t, l.dropped.get? t = latest (·.abort? t) past
  throttlesKeyed : l.throttles.Keyed
  droppedKeyed : l.dropped.Keyed

theorem follows_nil : Follows [] {} where
  throttles t d := by cases d <;> rfl
  dropped _ := rfl
  throttlesKeyed := List.Pairwise.nil
  droppedKeyed := List.Pairwise.nil

theorem Follows.step {past : List Operation} (h : Follows past l) (op : Operation) :
    Follows (past ++ [op]) (l.step op) := by
  cases op with
  | throttle target d rate =>
    refine ⟨fun t e => ?_, fun t => ?_, keyed_throttle h.throttlesKeyed target d rate, ?_⟩
    · rw [latest_concat, Links.step, get?_throttle, h.throttles]
      simp only [Operation.rate?, reduceCtorEq, if_false]
      by_cases he : e = .both
      · simp [he]
      · by_cases hsets : t = target ∧ d.includes e
        · simp [he, hsets]
        · simp [he, hsets]
    · rw [latest_concat, Links.step, dropped_throttle, h.dropped]
      rfl
    · rw [Links.step, dropped_throttle]
      exact h.droppedKeyed
  | disconnect target abort =>
    refine ⟨fun t e => ?_, fun t => ?_, h.throttlesKeyed, h.droppedKeyed.set target abort⟩
    · rw [latest_concat]
      exact h.throttles t e
    · rw [latest_concat, Links.step, disconnect, Table.get?_set, h.dropped]
      simp only [Operation.abort?, @eq_comm _ t]
      split <;> simp
  | clear =>
    refine ⟨fun t e => ?_, fun t => ?_, List.Pairwise.nil, List.Pairwise.nil⟩
    · simp [latest_concat, Links.step, clear]
    · simp [latest_concat, Links.step, clear]

theorem follows_after (past : List Operation) : Follows past (after past) := by
  induction past using List.reverseRecOn with
  | nil => exact follows_nil
  | append_singleton past op ih =>
    rw [after_concat]
    exact ih.step op

/-! ## What can be read -/

/-- All that can be read about a link. -/
structure Report where
  rate : Direction → Option Single
  isBlackholed : Direction → Bool
  isDisconnected : Bool
  wasAborted : Bool

/-- What is read about the link to a target. -/
def report (l : Links) (t : Address) : Report where
  rate := l.rate t
  isBlackholed := l.isBlackholed t
  isDisconnected := l.isDisconnected t
  wasAborted := l.wasAborted t

theorem report_congr (ht : ∀ d, l.throttles.get? (t, d) = l'.throttles.get? (t, d))
    (hd : l.dropped.get? t = l'.dropped.get? t) : l.report t = l'.report t := by
  have hrate : l.rate t = l'.rate t := by
    funext d
    simp [rate, ht]
  have hzero : l.isBlackholed t = l'.isBlackholed t := by
    funext d
    simp [isBlackholed, hrate]
  simp [report, hrate, hzero, isDisconnected, wasAborted, Table.has_eq_isSome, hd]

theorem Follows.rate {past : List Operation} (h : Follows past l) (hd : d ≠ .both) :
    l.rate t d = (latest (·.rate? t d) past).filter (!·.isNegative) := by
  have hget := h.throttles t d
  rw [if_neg hd] at hget
  cases d with
  | send => exact hget
  | receive => exact hget
  | both => exact absurd rfl hd

theorem isBlackholed_iff :
    l.isBlackholed t d = true ↔ ∃ rate, l.rate t d = some rate ∧ rate.numEq ⟨0⟩ = true := by
  simp [isBlackholed, Option.any_eq_true, Single.isZero_eq_numEq]

theorem Follows.isEmpty_iff {past : List Operation} (h : Follows past l) :
    l.isEmpty = true ↔ ∀ t, (∀ d, l.rate t d = none) ∧ l.isDisconnected t = false := by
  unfold isEmpty
  rw [Bool.and_eq_true, List.isEmpty_iff, List.isEmpty_iff]
  constructor
  · rintro ⟨ht, hd⟩ t
    refine ⟨fun d => ?_, ?_⟩
    · cases d <;> simp [Links.rate, ht]
    · simp [isDisconnected, hd, Table.has]
  · intro hnone
    refine ⟨Table.eq_nil_of_get? fun k => ?_, Table.eq_nil_of_get? fun t => ?_⟩
    · obtain ⟨t, d⟩ := k
      cases d with
      | send => exact (hnone t).1 .send
      | receive => exact (hnone t).1 .receive
      | both => exact h.throttles t .both
    · have ht := (hnone t).2
      rw [isDisconnected, Table.has_eq_isSome] at ht
      simpa using ht

/-! ## Commands that are apart -/

/-- Commands that are about different links, or throttle different directions of one. -/
inductive Apart : Operation → Operation → Prop
  | targets {a b : Operation} {t t' : Address} (ha : a.target? = some t) (hb : b.target? = some t')
    (h : t ≠ t') : Apart a b
  | directions {t : Address} {d d' : Direction} {rate rate' : Single} (hd : d ≠ .both)
    (hd' : d' ≠ .both) (h : d ≠ d') : Apart (.throttle t d rate) (.throttle t d' rate')

variable {a b : Operation}

theorem Operation.rate?_of_target? (h : a.target? ≠ some t) : a.rate? t d = none := by
  cases a with
  | throttle target d' rate =>
    have hne : t ≠ target := fun he => h (he ▸ rfl)
    simp [rate?, hne]
  | _ => rfl

theorem Operation.abort?_of_target? (h : a.target? ≠ some t) : a.abort? t = none := by
  cases a with
  | disconnect target abort =>
    have hne : t ≠ target := fun he => h (he ▸ rfl)
    simp [abort?, hne]
  | _ => rfl

theorem Apart.rate? (h : Apart a b) (t : Address) (d : Direction) :
    a.rate? t d = none ∨ b.rate? t d = none := by
  cases h with
  | @targets _ _ ta tb ha hb h =>
    by_cases ht : ta = t
    · exact Or.inr (Operation.rate?_of_target? (by simp [hb, ← ht, Ne.symm h]))
    · exact Or.inl (Operation.rate?_of_target? (by simp [ha, ht]))
  | @directions ta da db _ _ ha hb h =>
    by_cases he : da = d
    · exact Or.inr (by simp [Operation.rate?, Direction.includes, hb, ← he, Ne.symm h])
    · exact Or.inl (by simp [Operation.rate?, Direction.includes, ha, he])

theorem Apart.abort? (h : Apart a b) (t : Address) : a.abort? t = none ∨ b.abort? t = none := by
  cases h with
  | @targets _ _ ta tb ha hb h =>
    by_cases ht : ta = t
    · exact Or.inr (Operation.abort?_of_target? (by simp [hb, ← ht, Ne.symm h]))
    · exact Or.inl (Operation.abort?_of_target? (by simp [ha, ht]))
  | directions => exact Or.inl rfl

theorem Apart.ne_clear (h : Apart a b) : a ≠ .clear ∧ b ≠ .clear := by
  cases h with
  | targets ha hb =>
    refine ⟨?_, ?_⟩
    · rintro rfl
      cases ha
    · rintro rfl
      cases hb
  | directions => exact ⟨nofun, nofun⟩

/-- A command that does not answer is passed over. -/
theorem latest_skip {α : Type} {f : Operation → Option α} (ha : a ≠ .clear) (h : f a = none)
    (past behind : List Operation) :
    latest f (past ++ a :: behind) = latest f (past ++ behind) := by
  induction behind using List.reverseRecOn with
  | nil => simp [latest_concat, ha, h]
  | append_singleton behind op ih =>
    rw [← List.cons_append, ← List.append_assoc, ← List.append_assoc, latest_concat, latest_concat,
      ih]

/-- Two commands of which one does not answer may come in any order. -/
theorem latest_swap {α : Type} {f : Operation → Option α} (ha : a ≠ .clear) (hb : b ≠ .clear)
    (h : f a = none ∨ f b = none) (past behind : List Operation) :
    latest f (past ++ a :: b :: behind) = latest f (past ++ b :: a :: behind) := by
  have hsecond : ∀ {a b : Operation}, a ≠ .clear → f a = none →
      latest f (past ++ b :: a :: behind) = latest f (past ++ b :: behind) := by
    intro a b ha h
    simpa using latest_skip ha h (past ++ [b]) behind
  rcases h with h | h
  · rw [latest_skip ha h, hsecond ha h]
  · rw [latest_skip hb h, hsecond hb h]

/-- Faults of which the same can be read. -/
structure Alike (l l' : Links) : Prop where
  report : ∀ t, l.report t = l'.report t
  size : l.size = l'.size
  isEmpty : l.isEmpty = l'.isEmpty

/-- Histories that say the same leave faults of which the same can be read. -/
theorem Follows.alike {past past' : List Operation} (h : Follows past l) (h' : Follows past' l')
    (hrate : ∀ t d, latest (·.rate? t d) past = latest (·.rate? t d) past')
    (habort : ∀ t, latest (·.abort? t) past = latest (·.abort? t) past') : Alike l l' := by
  have hthrottles : ∀ k, l.throttles.get? k = l'.throttles.get? k :=
    fun ⟨t, d⟩ => by rw [h.throttles, h'.throttles, hrate]
  have hdropped : ∀ t, l.dropped.get? t = l'.dropped.get? t :=
    fun t => by rw [h.dropped, h'.dropped, habort]
  have hp := h.throttlesKeyed.perm h'.throttlesKeyed hthrottles
  have hq := h.droppedKeyed.perm h'.droppedKeyed hdropped
  refine ⟨fun t => report_congr (fun d => hthrottles (t, d)) (hdropped t), ?_, ?_⟩
  · rw [size, size, hp.length_eq, hq.length_eq]
  · rw [isEmpty, isEmpty, hp.isEmpty_eq, hq.isEmpty_eq]

theorem alike_swap (h : Apart a b) (past behind : List Operation) :
    Alike (after (past ++ a :: b :: behind)) (after (past ++ b :: a :: behind)) := by
  obtain ⟨ha, hb⟩ := h.ne_clear
  exact (follows_after _).alike (follows_after _)
    (fun t d => latest_swap ha hb (h.rate? t d) past behind)
    (fun t => latest_swap ha hb (h.abort? t) past behind)

/-- Nothing that is read of a link depends on a command about another. -/
theorem report_skip {target : Address} (ha : a.target? = some target) (h : target ≠ t)
    (past behind : List Operation) :
    (after (past ++ a :: behind)).report t = (after (past ++ behind)).report t := by
  have hclear : a ≠ .clear := by
    rintro rfl
    cases ha
  have hother : a.target? ≠ some t := by simpa [ha] using h
  have hrate := fun d => @latest_skip a _ (·.rate? t d) hclear (Operation.rate?_of_target? hother)
  have habort := @latest_skip a _ (·.abort? t) hclear (Operation.abort?_of_target? hother)
  refine report_congr (fun d => ?_) ?_
  · rw [(follows_after _).throttles, (follows_after _).throttles, hrate]
  · rw [(follows_after _).dropped, (follows_after _).dropped, habort]

/-- The rate of one direction does not depend on a throttle of the other. -/
theorem rate_skip {e : Direction} (hd : d ≠ .both) (he : e ≠ .both) (h : d ≠ e) (target : Address)
    (x : Single) (past behind : List Operation) (t : Address) :
    (after (past ++ .throttle target d x :: behind)).rate t e =
      (after (past ++ behind)).rate t e := by
  have hnone : (Operation.throttle target d x).rate? t e = none := by
    simp [Operation.rate?, Direction.includes, hd, h]
  have hskip := @latest_skip _ _ (·.rate? t e) Operation.noConfusion hnone past behind
  rw [(follows_after _).rate he, (follows_after _).rate he, hskip]

/-! ## Faults behind a history -/

/-- What is read of the faults that a history left. -/
structure Replays (past : List Operation) (l : Links) : Prop where
  /-- The last throttle of a direction counts; a negative rate lifts it. -/
  rate : ∀ t d, d ≠ .both →
    l.rate t d = (latest (·.rate? t d) past).filter (!·.isNegative)
  /-- Of both directions it is the lower rate. -/
  lower : ∀ t s r, l.rate t .send = some s → l.rate t .receive = some r →
    ∃ m, l.rate t .both = some m ∧ (m = s ∨ m = r) ∧
      (s.isNaN = false → r.isNaN = false → m.orderKey ≤ s.orderKey ∧ m.orderKey ≤ r.orderKey)
  /-- If one direction is not throttled it is the rate of the other. -/
  single : ∀ t, l.rate t .send = none ∨ l.rate t .receive = none →
    l.rate t .both = (l.rate t .send).or (l.rate t .receive)
  isBlackholed : ∀ t d, l.isBlackholed t d = true ↔
    ∃ x, l.rate t d = some x ∧ x.numEq ⟨0⟩ = true
  /-- The last disconnect of a link counts. -/
  isDisconnected : ∀ t, l.isDisconnected t = (latest (·.abort? t) past).isSome
  wasAborted : ∀ t, l.wasAborted t = (latest (·.abort? t) past).getD false
  isEmpty : l.isEmpty = true ↔ ∀ t, (∀ d, l.rate t d = none) ∧ l.isDisconnected t = false

theorem rate_both_of_some {s r : Single} (hs : l.rate t .send = some s)
    (hr : l.rate t .receive = some r) : l.rate t .both = some (s.min r) := by
  simp only [rate] at hs hr ⊢
  rw [hs, hr]

theorem rate_both_of_none (h : l.rate t .send = none ∨ l.rate t .receive = none) :
    l.rate t .both = (l.rate t .send).or (l.rate t .receive) := by
  simp only [rate] at h ⊢
  split
  · simp_all
  · rfl

theorem Follows.replays {past : List Operation} (h : Follows past l) : Replays past l where
  rate _ _ hd := h.rate hd
  lower t s r hs hr :=
    ⟨s.min r, rate_both_of_some hs hr, Single.min_eq_or s r, Single.orderKey_min_le⟩
  single _ := rate_both_of_none
  isBlackholed _ _ := isBlackholed_iff
  isDisconnected t := by rw [isDisconnected, Table.has_eq_isSome, h.dropped]
  wasAborted t := by rw [wasAborted, h.dropped]
  isEmpty := h.isEmpty_iff

/-- Behind every history the last command counts for each link and direction, and commands that are
about different links, or throttle different directions of one, change nothing for each other and
may come in any order. -/
theorem last_command_counts (past : List Operation) :
    Replays past (after past) ∧
      (∀ a target t behind, a.target? = some target → target ≠ t →
        (after (past ++ a :: behind)).report t = (after (past ++ behind)).report t) ∧
      (∀ d e target x t behind, d ≠ .both → e ≠ .both → d ≠ e →
        (after (past ++ .throttle target d x :: behind)).rate t e =
          (after (past ++ behind)).rate t e) ∧
      ∀ a b behind, Apart a b →
        Alike (after (past ++ a :: b :: behind)) (after (past ++ b :: a :: behind)) :=
  ⟨(follows_after past).replays,
    fun _ _ _ behind ha h => report_skip ha h past behind,
    fun _ _ target x t behind hd he h => rate_skip hd he h target x past behind t,
    fun _ _ behind h => alike_swap h past behind⟩

end Links

end Rendezvous
