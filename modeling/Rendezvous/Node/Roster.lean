import Rendezvous.Data.Table
import Rendezvous.Node.Address

/-!
# The roster

The roster binds roles to the address and the handle of the session they registered from. Sessions
that ask for a role which is not bound yet are parked until it is.
-/

namespace Rendezvous

/-- A registered role. -/
structure Member (η : Type) where
  address : Address
  handle : η
deriving DecidableEq, Repr, Inhabited

/-- The role is bound already. -/
structure DuplicateRole where
  role : Role
deriving DecidableEq, Repr, Inhabited

/-- The wording of the error. -/
def DuplicateRole.message (e : DuplicateRole) : String := "duplicate role: " ++ e.role.name

/-- The role is not bound. -/
structure UnknownRole where
  role : Role
deriving DecidableEq, Repr, Inhabited

/-- The wording of the error. -/
def UnknownRole.message (e : UnknownRole) : String := "unknown role: " ++ e.role.name

/-- Which roles are bound to what, and who waits for the others. -/
structure Roster (η : Type) where
  /-- The registered roles, in order. -/
  members : Table Role (Member η) := []
  /-- The handles that wait for a role, in the order they came; no list in it is empty. -/
  waiting : Table Role (List η) := []
deriving DecidableEq, Repr, Inhabited

namespace Roster

variable {η : Type}

/-- Whether a role is bound. -/
def isRegistered (r : Roster η) (role : Role) : Bool := r.members.has role

/-- Binds a role; answers with the handles that waited for it. -/
def register (r : Roster η) (role : Role) (address : Address) (handle : η) :
    Roster η × Except DuplicateRole (List η) :=
  if r.isRegistered role then (r, .error ⟨role⟩)
  else
    ({ members := r.members.put role ⟨address, handle⟩, waiting := r.waiting.erase role },
      .ok ((r.waiting.get? role).getD []))

/-- What a role is bound to. -/
def lookup (r : Roster η) (role : Role) : Except UnknownRole (Member η) :=
  match r.members.get? role with
  | some m => .ok m
  | none => .error ⟨role⟩

/-- The address of a role, if it is bound. -/
def addressOf (r : Roster η) (role : Role) : Option Address :=
  (r.members.get? role).map (·.address)

/-- Unbinds a role; answers with what it was bound to. -/
def remove (r : Roster η) (role : Role) : Roster η × Option (Member η) :=
  ({ r with members := r.members.erase role }, r.members.get? role)

/-- Unbinds a role if its handle has the property. -/
def unregister (r : Roster η) (role : Role) (owns : η → Bool) : Roster η × Option (Member η) :=
  match r.members.get? role with
  | some m => if owns m.handle then r.remove role else (r, none)
  | none => (r, none)

/-- Lets a handle wait for a role. -/
def park (r : Roster η) (role : Role) (handle : η) : Roster η :=
  { r with waiting := r.waiting.put role ((r.waiting.get? role).getD [] ++ [handle]) }

/-- Forgets the waiting handles that have the property. -/
def dropInterest (r : Roster η) (gone : η → Bool) : Roster η :=
  { r with
    waiting := (r.waiting.map fun (role, hs) => (role, hs.filter fun h => !gone h)).filter
      fun (_, hs) => !hs.isEmpty }

/-- The number of waiting handles, one that waits for several roles counted for each. -/
def interestCount (r : Roster η) : Nat := r.waiting.total List.length

/-- The registered roles, in order. -/
def roles (r : Roster η) : List Role := r.members.map (·.1)

/-- The number of registered roles. -/
def size (r : Roster η) : Nat := r.members.length

/-- Whether no role is registered. -/
def isEmpty (r : Roster η) : Bool := r.members.isEmpty

/-- Unbinds every role and forgets who waits. -/
def drain (r : Roster η) : Table Role (Member η) × Roster η := (r.members, {})

end Roster

end Rendezvous
