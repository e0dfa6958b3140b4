import Rendezvous.Proofs.MessagePack.Sizes

/-!
# How deep a value goes

A reader of a smaller depth reads just the values that a reader of a greater one reads and that go
no deeper than it may (`restricts_readValue`). So once bytes can be read at some depth, it is settled
what a message makes of them: that value, or nothing if it is too deep (`parse?_eq_some_iff`).
-/

namespace Rendezvous.MessagePack

variable {α : Type} {p : α → Prop} {bs rest : List UInt8} {depth depth' : Nat} {v : Value}

/-- Arrays, maps and extensions stand inside each other to this depth at most. -/
def Value.Within : (depth : Nat) → Value → Prop
  | 0, .arr _ | 0, .map _ | 0, .ext .. => False
  | depth + 1, .arr items => ∀ v ∈ items, v.Within depth
  | depth + 1, .map entries => ∀ e ∈ entries, e.1.Within depth ∧ e.2.Within depth
  | _, _ => True

/-! ## Readers that read less -/

/-- A reader reads what the other one reads, but only if it has the property. -/
def Restricts (p : α → Prop) (read read' : Reader α) : Prop :=
  ∀ bs a rest, read' bs = some (a, rest) ↔ read bs = some (a, rest) ∧ p a

theorem Restricts.readMany {item item' : Reader α} (h : Restricts p item item') (n : Nat) :
    Restricts (fun xs => ∀ x ∈ xs, p x) (readMany item n) (readMany item' n) := by
  induction n with
  | zero =>
    intro bs xs rest
    simp only [MessagePack.readMany, Option.some.injEq, Prod.mk.injEq]
    exact ⟨fun he => ⟨he, by simp [← he.1]⟩, And.left⟩
  | succ n ih =>
    intro bs xs rest
    simp only [MessagePack.readMany, Option.bind_eq_some_iff, Option.map_eq_some_iff]
    constructor
    · rintro ⟨⟨x, mid⟩, hx, ⟨xs', rest'⟩, hxs, he⟩
      obtain ⟨hx, hp⟩ := (h _ _ _).mp hx
      obtain ⟨hxs, hall⟩ := (ih _ _ _).mp hxs
      cases he
      exact ⟨⟨(x, mid), hx, (xs', rest'), hxs, rfl⟩, List.forall_mem_cons.mpr ⟨hp, hall⟩⟩
    · rintro ⟨⟨⟨x, mid⟩, hx, ⟨xs', rest'⟩, hxs, he⟩, hall⟩
      cases he
      obtain ⟨hp, hall⟩ := List.forall_mem_cons.mp hall
      exact ⟨(x, mid), (h _ _ _).mpr ⟨hx, hp⟩, (xs', rest'), (ih _ _ _).mpr ⟨hxs, hall⟩, rfl⟩

theorem Restricts.readPair {item item' : Reader α} (h : Restricts p item item') :
    Restricts (fun e => p e.1 ∧ p e.2) (readPair item item) (readPair item' item') := by
  intro bs e rest
  simp only [MessagePack.readPair, Option.bind_eq_some_iff, Option.map_eq_some_iff]
  constructor
  · rintro ⟨⟨x, mid⟩, hx, ⟨y, rest'⟩, hy, he⟩
    obtain ⟨hx, hpx⟩ := (h _ _ _).mp hx
    obtain ⟨hy, hpy⟩ := (h _ _ _).mp hy
    cases he
    exact ⟨⟨(x, mid), hx, (y, rest'), hy, rfl⟩, hpx, hpy⟩
  · rintro ⟨⟨⟨x, mid⟩, hx, ⟨y, rest'⟩, hy, he⟩, hp⟩
    cases he
    exact ⟨(x, mid), (h _ _ _).mpr ⟨hx, hp.1⟩, (y, rest'), (h _ _ _).mpr ⟨hy, hp.2⟩, rfl⟩

theorem Restricts.map {β : Type} {q : β → Prop} {read read' : Reader α}
    (h : Restricts p read read') {f : α → β} (hq : ∀ a, q (f a) ↔ p a) :
    Restricts q (fun bs => (read bs).map fun (a, rest) => (f a, rest))
      (fun bs => (read' bs).map fun (a, rest) => (f a, rest)) := by
  intro bs b rest
  simp only [Option.map_eq_some_iff]
  constructor
  · rintro ⟨⟨a, rest'⟩, ha, he⟩
    obtain ⟨ha, hp⟩ := (h _ _ _).mp ha
    cases he
    exact ⟨⟨(a, rest'), ha, rfl⟩, (hq a).mpr hp⟩
  · rintro ⟨⟨⟨a, rest'⟩, ha, he⟩, hb⟩
    cases he
    exact ⟨(a, rest'), (h _ _ _).mpr ⟨ha, (hq a).mp hb⟩, rfl⟩

theorem Restricts.readMeasured {body body' : Nat → Reader α}
    (h : ∀ n, Restricts p (body n) (body' n)) (length : Nat ⊕ Nat) :
    Restricts p (readMeasured length body) (readMeasured length body') := by
  intro bs a rest
  cases length with
  | inl n => exact h n bs a rest
  | inr k =>
    simp only [MessagePack.readMeasured, readSized, Option.bind_eq_some_iff]
    constructor
    · rintro ⟨⟨n, mid⟩, hn, hread⟩
      obtain ⟨hread, hp⟩ := (h n mid a rest).mp hread
      exact ⟨⟨(n, mid), hn, hread⟩, hp⟩
    · rintro ⟨⟨⟨n, mid⟩, hn, hread⟩, hp⟩
      exact ⟨(n, mid), hn, (h n mid a rest).mpr ⟨hread, hp⟩⟩

/-! ## Values -/

theorem Value.Within.of_zero (h : v.Within 0) (depth : Nat) : v.Within depth := by
  cases v with
  | arr | map | ext => exact h.elim
  | nil | bool | uint | sint | single | double | str | bin => cases depth <;> trivial

/-- What a marker settles holds nothing inside. -/
theorem within_of_shape? {marker : UInt8} (h : shape? marker = some (.whole v)) : v.Within 0 := by
  unfold shape? at h
  dsimp only at h
  generalize marker.toNat = m at h
  repeat' split at h
  all_goals cases h
  all_goals trivial

/-- Whether what a marker announces takes a level of its own. -/
def Shape.isNested : Shape → Bool
  | .arr _ | .map _ | .ext _ => true
  | _ => false

variable {s : Shape} {items items' : Option (Reader Value)}

theorem readShaped_of_flat (hs : s.isNested = false) (items items' : Option (Reader Value))
    (bs : List UInt8) : readShaped items s bs = readShaped items' s bs := by
  cases s with
  | arr | map | ext => cases hs
  | whole | uint | sint | single | double | str | bin => rfl

theorem within_of_readStr {n : Nat} (h : readStr n bs = some (v, rest)) : v.Within 0 := by
  obtain ⟨⟨xs, rest'⟩, -, he⟩ := Option.map_eq_some_iff.mp h
  dsimp only at he
  split at he <;> cases he <;> trivial

theorem within_of_readShaped (hw : ∀ w, s = .whole w → w.Within 0) (hs : s.isNested = false)
    (h : readShaped items s bs = some (v, rest)) : v.Within 0 := by
  cases s with
  | arr | map | ext => cases hs
  | whole w =>
    cases h
    exact hw v rfl
  | uint | sint | single | double =>
    obtain ⟨_, -, he⟩ := Option.map_eq_some_iff.mp h
    cases he
    trivial
  | str length =>
    cases length with
    | inl n => exact within_of_readStr h
    | inr k =>
      obtain ⟨_, -, h⟩ := Option.bind_eq_some_iff.mp h
      exact within_of_readStr h
  | bin k =>
    obtain ⟨_, -, h⟩ := Option.bind_eq_some_iff.mp h
    obtain ⟨_, -, he⟩ := Option.map_eq_some_iff.mp h
    cases he
    trivial

/-- Nothing nested is read below the last level. -/
theorem readShaped_none (hs : s.isNested) (bs : List UInt8) : readShaped none s bs = none := by
  cases s with
  | arr | map | ext => rfl
  | whole | uint | sint | single | double | str | bin => cases hs

theorem exists_ext_of_readMeasured {length : Nat ⊕ Nat}
    (h : readMeasured length readExt bs = some (v, rest)) : ∃ tag bytes, v = .ext tag bytes := by
  obtain ⟨n, mid, -, -, hbody⟩ := readMeasured_some h
  cases mid with
  | nil => cases hbody
  | cons tag mid =>
    obtain ⟨⟨xs, rest'⟩, -, he⟩ := Option.map_eq_some_iff.mp hbody
    cases he
    exact ⟨tag, xs, rfl⟩

/-- What takes a level of its own is not read without one. -/
theorem not_within_of_readShaped (hs : s.isNested) (h : readShaped items s bs = some (v, rest)) :
    ¬v.Within 0 := by
  cases s with
  | whole | uint | sint | single | double | str | bin => cases hs
  | arr length | map length =>
    obtain ⟨item, -, h⟩ := Option.bind_eq_some_iff.mp h
    obtain ⟨n, mid, -, -, hbody⟩ := readMeasured_some h
    obtain ⟨_, -, he⟩ := Option.map_eq_some_iff.mp hbody
    cases he
    exact id
  | ext length =>
    obtain ⟨item, -, h⟩ := Option.bind_eq_some_iff.mp h
    obtain ⟨tag, bytes, rfl⟩ := exists_ext_of_readMeasured h
    exact id

theorem restricts_flat (hw : ∀ w, s = .whole w → w.Within 0) (hs : s.isNested = false) :
    Restricts (·.Within depth) (readShaped items s) (readShaped items' s) := by
  intro bs v rest
  rw [readShaped_of_flat hs items' items]
  exact ⟨fun h => ⟨h, (within_of_readShaped hw hs h).of_zero _⟩, And.left⟩

theorem restricts_lowest (hs : s.isNested) :
    Restricts (·.Within 0) (readShaped items s) (readShaped none s) := by
  intro bs v rest
  rw [readShaped_none hs]
  exact ⟨nofun, fun ⟨h, hv⟩ => absurd hv (not_within_of_readShaped hs h)⟩

theorem restricts_nested {item item' : Reader Value} (hs : s.isNested)
    (h : Restricts (·.Within depth) item item') :
    Restricts (·.Within (depth + 1)) (readShaped (some item) s) (readShaped (some item') s) := by
  cases s with
  | whole | uint | sint | single | double | str | bin => cases hs
  | arr length =>
    have hitems : ∀ xs, (Value.arr xs).Within (depth + 1) ↔ ∀ x ∈ xs, x.Within depth :=
      fun _ => Iff.rfl
    exact .readMeasured (fun n => (h.readMany n).map hitems) length
  | map length =>
    have hentries : ∀ es, (Value.map es).Within (depth + 1) ↔
        ∀ e ∈ es, e.1.Within depth ∧ e.2.Within depth := fun _ => Iff.rfl
    exact .readMeasured (fun n => (h.readPair.readMany n).map hentries) length
  | ext length =>
    intro bs v rest
    refine ⟨fun h => ⟨h, ?_⟩, And.left⟩
    obtain ⟨tag, bytes, rfl⟩ := exists_ext_of_readMeasured h
    trivial

theorem Restricts.of_nested (h : ∀ s : Shape, s.isNested →
    Restricts (·.Within depth') (readShaped (inner depth) s) (readShaped (inner depth') s)) :
    Restricts (·.Within depth') (readValue depth) (readValue depth') := by
  intro bs v rest
  cases bs with
  | nil => cases depth <;> cases depth' <;> simp [readValue]
  | cons marker bs =>
    rw [readValue_cons, readValue_cons]
    cases hs : shape? marker with
    | none => simp
    | some s =>
      have hw : ∀ w, s = .whole w → w.Within 0 := fun w he => within_of_shape? (he ▸ hs)
      cases hn : s.isNested with
      | false => exact restricts_flat hw hn bs v rest
      | true => exact h s hn bs v rest

/-- A reader of a smaller depth reads just what goes no deeper. -/
theorem restricts_readValue (hle : depth' ≤ depth) :
    Restricts (·.Within depth') (readValue depth) (readValue depth') := by
  induction depth' generalizing depth with
  | zero => exact .of_nested fun s hs => restricts_lowest hs
  | succ depth' ih =>
    obtain ⟨depth, rfl⟩ := Nat.exists_eq_succ_of_ne_zero (Nat.ne_zero_of_lt hle)
    exact .of_nested fun s hs => restricts_nested hs (ih (Nat.le_of_succ_le_succ hle))

/-- Bytes that can be read at some depth are read as the same value, if it is not too deep. -/
theorem parse?_eq_some_iff {w : Value} (h : readValue depth bs = some (v, rest)) :
    parse? bs = some w ↔ w = v ∧ v.Within maxDepth := by
  -- a reader that is deep enough for both reads what either of them does
  have hdepth := restricts_readValue (Nat.le_max_left depth maxDepth) bs
  have hmax := restricts_readValue (Nat.le_max_right depth maxDepth) bs
  obtain ⟨h, -⟩ := (hdepth v rest).mp h
  constructor
  · intro hp
    obtain ⟨⟨w', rest'⟩, hread, he⟩ := Option.map_eq_some_iff.mp hp
    obtain ⟨hread, hw⟩ := (hmax w' rest').mp hread
    rw [h] at hread
    cases hread
    exact ⟨he.symm, hw⟩
  · rintro ⟨rfl, hw⟩
    rw [parse?, (hmax w rest).mpr ⟨h, hw⟩]
    rfl

end Rendezvous.MessagePack
