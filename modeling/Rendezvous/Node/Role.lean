/-!
# Roles

A role is the name under which a node takes part in a test. Roles are ordered by their names,
character by character, and a set of roles is kept as a list in that order without repeats.
-/

namespace Rendezvous

/-- The name under which a node takes part in a test. -/
structure Role where
  /-- The name itself; the empty name is a role, but no node may register under it. -/
  name : String
deriving DecidableEq, Repr, Inhabited

namespace Role

instance : LT Role := ⟨fun a b => a.name < b.name⟩

instance (a b : Role) : Decidable (a < b) := inferInstanceAs (Decidable (a.name < b.name))

theorem lt_irrefl (a : Role) : ¬a < a := String.lt_irrefl a.name

theorem lt_trans {a b c : Role} (h : a < b) (h' : b < c) : a < c := String.lt_trans h h'

/-- The diagnostic text of a role. -/
def debugText (r : Role) : String := "Role(" ++ r.name ++ ")"

/-! ## Sets of roles -/

/-- Puts a role into its place in a sorted list, keeping one copy of it. -/
def insert (r : Role) : List Role → List Role
  | [] => [r]
  | s :: rest => if r < s then r :: s :: rest else if r = s then s :: rest else s :: insert r rest

/-- The roles of a list in order and without repeats. -/
def sortedSet (roles : List Role) : List Role := roles.foldr insert []

/-- Puts a role into its place in a sorted list, repeats included. -/
def insertCopy (r : Role) : List Role → List Role
  | [] => [r]
  | s :: rest => if s < r then s :: insertCopy r rest else r :: s :: rest

/-- The roles of a list in order, repeats included. -/
def sorted (roles : List Role) : List Role := roles.foldr insertCopy []

@[simp] theorem mem_insert {r x : Role} {roles : List Role} :
    x ∈ insert r roles ↔ x = r ∨ x ∈ roles := by
  induction roles with
  | nil => simp [insert]
  | cons s rest ih =>
    unfold insert
    split
    · simp
    · split
      · next h => simp [h]
      · simp [ih, or_left_comm]

@[simp] theorem mem_sortedSet {x : Role} {roles : List Role} :
    x ∈ sortedSet roles ↔ x ∈ roles := by
  induction roles with
  | nil => simp [sortedSet]
  | cons r rest ih =>
    simp only [sortedSet, List.foldr_cons] at ih ⊢
    simp [ih]

end Role

end Rendezvous
