/-!
# TOML values

The tree of a TOML document. Numbers with a fraction or an exponent and points in time are held as
they are written.
-/

namespace Rendezvous.Toml

/-- A TOML value. -/
inductive Value where
  | str (s : String)
  | int (i : Int)
  | float (literal : String)
  | bool (b : Bool)
  | datetime (literal : String)
  | arr (items : List Value)
  | table (entries : List (String × Value))
deriving Repr, Inhabited

/-- The value under a key. -/
def lookup {α : Type} (key : String) (entries : List (String × α)) : Option α :=
  (entries.find? (·.1 = key)).map (·.2)

end Rendezvous.Toml
