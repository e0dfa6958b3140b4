/-!
# Tables

A table is a list of pairs with at most one pair for a key. `put` keeps tables of ordered keys in
the order of the keys. Looking up after `put` and after `erase` is settled by the equations below,
for every list of pairs.
-/

namespace Rendezvous

/-- A finite map, as the list of its pairs. -/
abbrev Table (κ α : Type) := List (κ × α)

namespace Table

variable {κ α : Type} [DecidableEq κ]

/-- The value under a key. -/
def get? (t : Table κ α) (k : κ) : Option α := (t.find? (·.1 = k)).map (·.2)

/-- Whether there is a value under a key. -/
def has (t : Table κ α) (k : κ) : Bool := t.any (·.1 = k)

/-- Takes out the pair of a key. -/
def erase (t : Table κ α) (k : κ) : Table κ α := t.filter (·.1 ≠ k)

/-- Puts a value under a key, in the place that the order of the keys gives it. -/
def put [LT κ] [DecidableLT κ] (t : Table κ α) (k : κ) (a : α) : Table κ α :=
  match t with
  | [] => [(k, a)]
  | p :: rest =>
    if k < p.1 then (k, a) :: p :: rest
    else if k = p.1 then (k, a) :: rest
    else p :: put rest k a

/-- Puts a value under a key; the table need not be in any order. -/
def set (t : Table κ α) (k : κ) (a : α) : Table κ α := (k, a) :: t.erase k

/-- Changes the value under a key, if there is one. -/
def adjust (t : Table κ α) (k : κ) (f : α → α) : Table κ α :=
  t.map fun p => if p.1 = k then (p.1, f p.2) else p

omit [DecidableEq κ] in
/-- The sum over all values. -/
def total (f : α → Nat) (t : Table κ α) : Nat := t.foldr (fun p n => f p.2 + n) 0

omit [DecidableEq κ] in
theorem total_cons (f : α → Nat) (p : κ × α) (t : Table κ α) :
    total f (p :: t) = f p.2 + t.total f := rfl

/-! ## Looking up -/

@[simp] theorem get?_nil (k : κ) : get? ([] : Table κ α) k = none := rfl

theorem get?_cons (p : κ × α) (t : Table κ α) (k : κ) :
    get? (p :: t) k = if p.1 = k then some p.2 else get? t k := by
  unfold get?
  by_cases h : p.1 = k <;> simp [h]

theorem get?_erase (t : Table κ α) (k k' : κ) :
    get? (t.erase k) k' = if k' = k then none else get? t k' := by
  induction t with
  | nil => simp [erase, get?]
  | cons p rest ih =>
    unfold erase at ih ⊢
    by_cases h : p.1 = k
    · simp only [List.filter_cons, h, ne_eq, not_true_eq_false, decide_false, Bool.false_eq_true,
        if_false]
      rw [ih, get?_cons]
      by_cases hk : k' = k
      · simp [hk]
      · simp [hk, h, Ne.symm hk]
    · simp only [List.filter_cons, ne_eq, h, not_false_eq_true, decide_true, if_true, get?_cons]
      by_cases hk : p.1 = k'
      · simp [hk ▸ h, hk]
      · simpa [hk] using ih

theorem get?_set (t : Table κ α) (k k' : κ) (a : α) :
    get? (t.set k a) k' = if k' = k then some a else get? t k' := by
  unfold set
  rw [get?_cons, get?_erase]
  by_cases h : k' = k
  · simp [h]
  · simp [h, Ne.symm h]

theorem get?_put [LT κ] [DecidableLT κ] (t : Table κ α) (k k' : κ) (a : α) :
    get? (t.put k a) k' = if k' = k then some a else get? t k' := by
  induction t with
  | nil => simp [put, get?_cons, eq_comm]
  | cons p rest ih =>
    unfold put
    split
    · rw [get?_cons]
      simp [eq_comm]
    · split
      · next h =>
        rw [get?_cons, get?_cons, ← h]
        by_cases hk : k' = k
        · simp [hk]
        · simp [hk, Ne.symm hk]
      · next h =>
        rw [get?_cons, ih, get?_cons]
        by_cases hp : p.1 = k'
        · have : ¬k' = k := fun e => h (by rw [hp, e])
          simp [hp, this]
        · simp [hp]

theorem get?_adjust (t : Table κ α) (k k' : κ) (f : α → α) :
    get? (t.adjust k f) k' = if k' = k then (get? t k).map f else get? t k' := by
  induction t with
  | nil => simp [adjust]
  | cons p rest ih =>
    have hcons : adjust (p :: rest) k f =
        (if p.1 = k then (p.1, f p.2) else p) :: adjust rest k f := rfl
    rw [hcons, get?_cons, ih, get?_cons, get?_cons]
    by_cases hp : p.1 = k
    · by_cases hk : k' = k
      · simp [hp, hk]
      · simp [hp, hk, Ne.symm hk]
    · by_cases hk : k' = k
      · simp [hp, hk]
      · simp [hp, hk]

theorem has_eq_isSome (t : Table κ α) (k : κ) : t.has k = (t.get? k).isSome := by
  induction t with
  | nil => rfl
  | cons p rest ih =>
    rw [get?_cons]
    simp only [has] at ih ⊢
    by_cases h : p.1 = k <;> simp [List.any_cons, h, ih]

end Table

end Rendezvous
