import Rendezvous.MessagePack.Value

/-!
# Reading records

A record is a map from field names to values or the array of its fields in order. In a map a key is
the name of a field, as text, or the place of the field among them; what else is named is passed
over, a repeated field is refused, and a key of another kind is refused. An array holds all fields
and nothing more.

## Messages

A message is a record with one more field, its kind, under the key `type` anywhere in the map or
first in the array (`variant?`).
-/

namespace Rendezvous.Wire

open MessagePack (Value)

/-! ## Fields -/

/-- What a key says: the place of a known field, or that the entry is passed over. -/
inductive Key where
  | field (index : Nat)
  | passedOver
deriving DecidableEq, Repr

/-- The place of a known name. -/
def keyOfName (names : List String) (name : Option String) : Key :=
  match name.bind (names.idxOf? ·) with
  | some i => .field i
  | none => .passedOver

/-- The text of a key that is a string or a binary; `none` inside for a binary that is no text. -/
def keyText? : Value → Option (Option String)
  | .str s => some (some s)
  | .bin bytes => some (String.fromUTF8? ⟨bytes.toArray⟩)
  | _ => none

/-- Whether an unsigned integer in this form may stand for the place of a field. -/
def indexForm : MessagePack.Width → Bool
  | .fix | .one | .eight => true
  | .two | .four => false

/-- Reads a key that may be a name or the place of a field. -/
def key? (names : List String) : Value → Option Key
  | .uint w n =>
    if indexForm w then some (if n < names.length then .field n else .passedOver) else none
  | v => (keyText? v).map (keyOfName names)

/-- Reads a key that must be a known name. -/
def strictKey? (names : List String) (v : Value) : Option Key :=
  match (keyText? v).map (keyOfName names) with
  | some (.field i) => some (.field i)
  | _ => none

/-- Puts a value into its place, which must be free. -/
def fill (slots : List (Option Value)) (i : Nat) (v : Value) : Option (List (Option Value)) :=
  match slots[i]? with
  | some none => some (slots.set i (some v))
  | _ => none

/-- Sorts the entries of a map into the places of the fields. -/
def fillAll (key : Value → Option Key) :
    List (Value × Value) → List (Option Value) → Option (List (Option Value))
  | [], slots => some slots
  | (k, v) :: rest, slots =>
    match key k with
    | some (.field i) => (fill slots i v).bind (fillAll key rest)
    | some .passedOver => fillAll key rest slots
    | none => none

/-- The values of the fields of a record, `none` where a map leaves one out. -/
def slots? (key : Value → Option Key) (size : Nat) : Value → Option (List (Option Value))
  | .arr items => if items.length = size then some (items.map some) else none
  | .map entries => fillAll key entries (List.replicate size none)
  | _ => none

/-- The fields of a record whose keys may be names or places. -/
def fields? (names : List String) : Value → Option (List (Option Value)) :=
  slots? (key? names) names.length

/-- The fields of a record whose keys must be known names. -/
def strictFields? (names : List String) : Value → Option (List (Option Value)) :=
  slots? (strictKey? names) names.length

/-! ## Values of fields -/

/-- A field that must be there. -/
def required {α : Type} (f : Value → Option α) (slot : Option Value) : Option α := slot.bind f

/-- A field that may be left out or nil. -/
def optional {α : Type} (f : Value → Option α) : Option Value → Option (Option α)
  | none => some none
  | some .nil => some none
  | some v => (f v).map some

/-- A truth value. -/
def bool? : Value → Option Bool
  | .bool b => some b
  | _ => none

/-- A whole number from `lo` up to but not including `hi`. -/
def intIn? (lo hi : Int) (v : Value) : Option Int :=
  v.int?.bind fun i => if lo ≤ i ∧ i < hi then some i else none

/-! ## Kinds -/

/-- The place of the kind that a tag names. -/
def tag? (kinds : List String) : Value → Option Nat
  | .uint _ n => if n < kinds.length then some n else none
  | v => (keyText? v).bind fun name => name.bind (kinds.idxOf? ·)

/-- Whether a key is the one of the kind. -/
def isTagKey (v : Value) : Bool := keyText? v = some (some "type")

/-- The place of a message's kind, and the record of its fields. -/
def variant? (kinds : List String) : Value → Option (Nat × Value)
  | .arr (tag :: items) => (tag? kinds tag).map (·, .arr items)
  | .map entries =>
    match entries.filter (fun e => isTagKey e.1) with
    | [(_, tag)] => (tag? kinds tag).map (·, .map (entries.filter fun e => !isTagKey e.1))
    | _ => none
  | _ => none

end Rendezvous.Wire
