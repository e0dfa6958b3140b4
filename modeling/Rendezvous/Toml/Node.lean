import Rendezvous.Toml.Value

/-!
# Tables under construction

While a document is read, a table remembers how it came to be: by a header of its own, implied by
the header of a table inside it, or by a dotted key. From this follows what may still be added.

* Dotted keys add to tables that dotted keys made, and may pass through implied ones.
* A header opens a table once; it may take over an implied one.
* A header with double brackets adds a table to an array that only such headers made.
-/

namespace Rendezvous.Toml

/-- How a table came to be. -/
inductive Origin where
  | header | implied | dotted
deriving DecidableEq, Repr, Inhabited

/-- What stands under a key of a table under construction. -/
inductive Node where
  | value (v : Value)
  | table (origin : Origin) (entries : List (String × Node))
  /-- The tables of an array, oldest first. -/
  | tables (elements : List (List (String × Node)))
deriving Inhabited

/-- The entries of a table under construction. -/
abbrev Entries := List (String × Node)

/-! ## Changing entries -/

/-- Replaces what stands under a key that is there. -/
def replaceEntry (key : String) (node : Node) (entries : Entries) : Entries :=
  entries.map fun p => if p.1 = key then (key, node) else p

/-- Changes the table at the end of a path. Tables that are missing on the way are made, as dotted
or as implied ones; of an array the last table is meant; and a dotted path may not enter a table
that has a header. -/
def modifyAt (dotted : Bool) (f : Origin → Entries → Option Entries) :
    List String → Origin → Entries → Option Entries
  | [], origin, entries => f origin entries
  | key :: path, _, entries =>
    match lookup key entries with
    | none =>
      let origin := if dotted then .dotted else .implied
      (modifyAt dotted f path origin []).map fun sub => entries ++ [(key, .table origin sub)]
    | some (.value _) => none
    | some (.table origin sub) =>
      if dotted ∧ origin = .header then none
      else (modifyAt dotted f path origin sub).map fun sub' =>
        replaceEntry key (.table origin sub') entries
    | some (.tables elements) =>
      match elements.getLast? with
      | none => none
      | some last => (modifyAt dotted f path .header last).map fun last' =>
        replaceEntry key (.tables (elements.dropLast ++ [last'])) entries

/-- Puts a value under a key that must be free. -/
def addValue (key : String) (v : Value) (entries : Entries) : Option Entries :=
  match lookup key entries with
  | none => some (entries ++ [(key, .value v)])
  | some _ => none

/-- Assigns a value to a dotted key, the names before the last one being the path. -/
def assign (path : List String) (key : String) (v : Value) (entries : Entries) : Option Entries :=
  modifyAt true
    (fun origin sub => if path = [] ∨ origin = .dotted then addValue key v sub else none)
    path .header entries

/-- The entries of a table that a header opens: none, or those of an implied table. -/
def openTable (key : String) (entries : Entries) : Option Entries :=
  match lookup key entries with
  | none => some (entries ++ [(key, .table .header [])])
  | some (.table .implied sub) => some (replaceEntry key (.table .header sub) entries)
  | some _ => none

/-- Adds an empty table to an array of tables. -/
def openElement (key : String) (entries : Entries) : Option Entries :=
  match lookup key entries with
  | none => some (entries ++ [(key, .tables [[]])])
  | some (.tables elements) => some (replaceEntry key (.tables (elements ++ [[]])) entries)
  | some _ => none

/-! ## Finished tables -/

mutual

/-- The value of a node. -/
def Node.toValue : Node → Value
  | .value v => v
  | .table _ entries => .table (entriesToValues entries)
  | .tables elements => .arr (elementsToValues elements)

/-- The entries of a finished table. -/
def entriesToValues : List (String × Node) → List (String × Value)
  | [] => []
  | (k, n) :: rest => (k, n.toValue) :: entriesToValues rest

/-- The tables of a finished array. -/
def elementsToValues : List (List (String × Node)) → List Value
  | [] => []
  | e :: rest => .table (entriesToValues e) :: elementsToValues rest

end

/-! ## Documents -/

/-- One line of a document that says something. -/
inductive Statement where
  | header (path : List String) (key : String)
  | elementHeader (path : List String) (key : String)
  | assign (path : List String) (key : String) (v : Value)

/-- A document under construction, and the table that assignments go to. -/
structure Draft where
  root : Entries := []
  current : List String := []

/-- Takes one line into account. -/
def Draft.step (d : Draft) : Statement → Option Draft
  | .header path key =>
    (modifyAt false (fun _ => openTable key) path .header d.root).map
      fun root => ⟨root, path ++ [key]⟩
  | .elementHeader path key =>
    (modifyAt false (fun _ => openElement key) path .header d.root).map
      fun root => ⟨root, path ++ [key]⟩
  | .assign path key v =>
    (modifyAt false (fun _ => assign path key v) d.current .header d.root).map
      fun root => { d with root }

/-- The entries of the table that the lines of a document make up. -/
def documentOf? (lines : List Statement) : Option (List (String × Value)) :=
  (lines.foldlM Draft.step {}).map fun d => entriesToValues d.root

/-- The table that the assignments in braces make up. -/
def inlineTable? (assignments : List (List String × String × Value)) : Option Value :=
  (assignments.foldlM (fun es (path, key, v) => assign path key v es) ([] : Entries)).map
    fun es => .table (entriesToValues es)

end Rendezvous.Toml
