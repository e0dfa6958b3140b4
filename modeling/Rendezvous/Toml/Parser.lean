import Rendezvous.Toml.Node
import Rendezvous.Toml.Quoted

/-!
# Reading TOML

A document is read line by line into statements, which are then put together. Arrays and inline
tables may stand inside each other, and keys may have parts, up to 79 of them (`maxDepth`).

## Termination

Values inside values are read with a smaller depth. The loops over items and lines take as a bound
the number of characters that are left, and each of their steps consumes some.
-/

namespace Rendezvous.Toml

/-- How deep values may stand inside each other, and how many parts a key may have. -/
def maxDepth : Nat := 79

/-! ## Space -/

/-- Drops blanks. -/
def dropBlanks (cs : List Char) : List Char := cs.dropWhile isBlank

/-- Drops blanks, line ends and comments; `inComment` tells whether a comment has begun. -/
def dropTrivia (inComment : Bool) : List Char → List Char
  | [] => []
  | '\n' :: rest => dropTrivia false rest
  | '\r' :: '\n' :: rest => dropTrivia false rest
  | c :: rest =>
    if inComment then (if isPrintable c then dropTrivia true rest else c :: rest)
    else if isBlank c then dropTrivia false rest
    else if c = '#' then dropTrivia true rest
    else c :: rest

/-- Drops a comment, if there is one. -/
def dropComment : List Char → List Char
  | '#' :: rest => rest.dropWhile isPrintable
  | cs => cs

/-- Drops the rest of a line, which may hold only blanks and a comment, and its end. -/
def dropLineRest? (cs : List Char) : Option (List Char) :=
  match dropComment (dropBlanks cs) with
  | [] => some []
  | cs => dropNewline? cs

/-! ## Keys -/

/-- Characters of keys without quotes. -/
def isBareKeyChar (c : Char) : Bool := c.isAlphanum || c = '_' || c = '-'

/-- One part of a key. -/
def readKeyPart? : List Char → Read String
  | '"' :: rest => (readBasic rest).map fun p => (String.ofList p.1, p.2)
  | '\'' :: rest => (readLiteral rest).map fun p => (String.ofList p.1, p.2)
  | cs =>
    match cs.span isBareKeyChar with
    | ([], _) => none
    | (name, rest) => some (String.ofList name, rest)

/-- The parts of a key, separated by dots with blanks around them; at most `bound` of them. -/
def readKeyParts? : (bound : Nat) → List Char → Read (List String)
  | 0, _ => none
  | bound + 1, cs =>
    (readKeyPart? (dropBlanks cs)).bind fun (part, rest) =>
      match dropBlanks rest with
      | '.' :: rest => (readKeyParts? bound rest).map fun p => (part :: p.1, p.2)
      | rest => some ([part], rest)

/-- A key: the parts before the last one, and the last one. -/
def readKey? (cs : List Char) : Read (List String × String) :=
  (readKeyParts? maxDepth cs).bind fun (parts, rest) =>
    match parts.getLast? with
    | some key => some ((parts.dropLast, key), rest)
    | none => none

/-! ## Values -/

/-- Characters of truth values, numbers and points in time. -/
def isScalarChar (c : Char) : Bool :=
  c.isAlphanum || c = '+' || c = '-' || c = '_' || c = '.' || c = ':'

/-- A truth value, a number or a point in time. A date and a time of day may have a space between
them. -/
def readScalar? (cs : List Char) : Read Value :=
  let (run, rest) := cs.span isScalarChar
  match rest with
  | ' ' :: rest' =>
    let (time, rest'') := rest'.span isScalarChar
    if isDate run ∧ time ≠ [] then
      if isOffsetTime time then some (.datetime (String.ofList (run ++ ' ' :: time)), rest'')
      else none
    else (scalar? run).map (·, rest)
  | _ => (scalar? run).map (·, rest)

/-- The items of an array behind its opening bracket or a comma, up to the closing bracket. -/
def readItems? (item : List Char → Read Value) : (bound : Nat) → List Char → Read (List Value)
  | 0, _ => none
  | bound + 1, cs =>
    match dropTrivia false cs with
    | ']' :: rest => some ([], rest)
    | cs =>
      (item cs).bind fun (v, rest) =>
        match dropTrivia false rest with
        | ',' :: rest => (readItems? item bound rest).map fun p => (v :: p.1, p.2)
        | ']' :: rest => some ([v], rest)
        | _ => none

/-- A key, the sign `=` and a value. -/
def readAssignment? (item : List Char → Read Value) (cs : List Char) :
    Read (List String × String × Value) :=
  (readKey? cs).bind fun ((path, key), rest) =>
    match rest with
    | '=' :: rest => (item (dropBlanks rest)).map fun p => ((path, key, p.1), p.2)
    | _ => none

/-- The assignments of an inline table behind its opening brace, of which there is at least one. -/
def readAssignments? (item : List Char → Read Value) :
    (bound : Nat) → List Char → Read (List (List String × String × Value))
  | 0, _ => none
  | bound + 1, cs =>
    (readAssignment? item cs).bind fun (a, rest) =>
      match dropBlanks rest with
      | ',' :: rest => (readAssignments? item bound rest).map fun p => (a :: p.1, p.2)
      | '\x7d' :: rest => some ([a], rest)
      | _ => none

/-- An inline table behind its opening brace. -/
def readInline? (item : List Char → Read Value) (cs : List Char) : Read Value :=
  match dropBlanks cs with
  | '\x7d' :: rest => some (.table [], rest)
  | cs =>
    (readAssignments? item (cs.length + 1) cs).bind fun (assignments, rest) =>
      (inlineTable? assignments).map (·, rest)

/-- A value with others inside it to a depth of at most `depth`. -/
def readValue? : (depth : Nat) → List Char → Read Value
  | depth, cs =>
    match cs with
    | '[' :: rest =>
      match depth with
      | 0 => none
      | depth + 1 =>
        (readItems? (readValue? depth) (rest.length + 1) rest).map fun p => (.arr p.1, p.2)
    | '\x7b' :: rest =>
      match depth with
      | 0 => none
      | depth + 1 => readInline? (readValue? depth) rest
    | '"' :: _ | '\'' :: _ => (readQuoted? cs).map fun p => (.str (String.ofList p.1), p.2)
    | _ => readScalar? cs

/-! ## Documents -/

/-- A header behind its opening brackets, up to the closing ones. -/
def readHeader? (closing : List Char → Option (List Char)) (cs : List Char) :
    Read (List String × String) :=
  (readKey? cs).bind fun (key, rest) => (closing rest).map (key, ·)

/-- A line that says something, up to its end. -/
def readStatement? : List Char → Read Statement
  | '[' :: '[' :: rest =>
    (readHeader? (fun | ']' :: ']' :: cs => some cs | _ => none) rest).map
      fun ((path, key), rest) => (.elementHeader path key, rest)
  | '[' :: rest =>
    (readHeader? (fun | ']' :: cs => some cs | _ => none) rest).map
      fun ((path, key), rest) => (.header path key, rest)
  | cs =>
    (readAssignment? (readValue? maxDepth) cs).map
      fun ((path, key, v), rest) => (.assign path key v, rest)

/-- The statements of a document. -/
def readStatements? : (bound : Nat) → List Char → Option (List Statement)
  | 0, _ => none
  | bound + 1, cs =>
    match dropBlanks cs with
    | [] => some []
    | cs =>
      match dropLineRest? cs with
      | some rest => readStatements? bound rest
      | none => do
        let (statement, rest) ← readStatement? cs
        let rest ← dropLineRest? rest
        return statement :: (← readStatements? bound rest)

/-- The entries of the table that a document describes; a byte order mark may stand in front. -/
def parse? (text : String) : Option (List (String × Value)) :=
  let cs := match text.toList with
    | '\ufeff' :: rest => rest
    | cs => cs
  (readStatements? (cs.length + 1) cs).bind documentOf?

end Rendezvous.Toml
