import Rendezvous.Toml.Scalar

/-!
# Quoted text of TOML

The four kinds of quoted text, each read from behind its opening quotes up to and including its
closing quotes. Control characters other than the tab are refused, and a line end is a line feed,
with or without a carriage return, that counts as a line feed.
-/

namespace Rendezvous.Toml

/-- Text that was read, and what follows it. -/
abbrev Read (α : Type) := Option (α × List Char)

/-- Adds a character in front of what is read. -/
def Read.cons (c : Char) (r : Read (List Char)) : Read (List Char) :=
  r.map fun p => (c :: p.1, p.2)

/-! ## Characters -/

/-- Space and tab. -/
def isBlank (c : Char) : Bool := c = ' ' || c = '\t'

/-- Characters that may stand in comments and in quoted text. -/
def isPrintable (c : Char) : Bool := c = '\t' || (0x20 ≤ c.toNat && c.toNat ≠ 0x7f)

/-- What follows a line end, if the text begins with one. -/
def dropNewline? : List Char → Option (List Char)
  | '\n' :: rest => some rest
  | '\r' :: '\n' :: rest => some rest
  | _ => none

/-- Drops blanks and line ends. -/
def dropSpace : List Char → List Char
  | ' ' :: rest => dropSpace rest
  | '\t' :: rest => dropSpace rest
  | '\n' :: rest => dropSpace rest
  | '\r' :: '\n' :: rest => dropSpace rest
  | cs => cs

theorem length_dropSpace_le (cs : List Char) : (dropSpace cs).length ≤ cs.length := by
  fun_induction dropSpace cs with
  | case1 rest ih => exact Nat.le_succ_of_le ih
  | case2 rest ih => exact Nat.le_succ_of_le ih
  | case3 rest ih => exact Nat.le_succ_of_le ih
  | case4 rest ih => exact Nat.le_succ_of_le (Nat.le_succ_of_le ih)
  | case5 => exact Nat.le_refl _

theorem length_dropWhile_le (p : Char → Bool) (cs : List Char) :
    (cs.dropWhile p).length ≤ cs.length :=
  (List.dropWhile_sublist p).length_le

theorem length_lt_of_dropNewline? {cs rest : List Char} (h : dropNewline? cs = some rest) :
    rest.length < cs.length := by
  unfold dropNewline? at h
  split at h <;> simp only [Option.some.injEq, reduceCtorEq] at h
  · subst h; simp
  · subst h; simp only [List.length_cons]; omega

/-! ## Escapes -/

/-- The character behind a backslash that stands for one character. -/
def simpleEscape? : Char → Option Char
  | 'b' => some '\x08'
  | 't' => some '\t'
  | 'n' => some '\n'
  | 'f' => some '\x0c'
  | 'r' => some '\r'
  | '"' => some '"'
  | '\\' => some '\\'
  | _ => none

/-- The number that hexadecimal digits stand for. -/
def hexNumber? (cs : List Char) : Option Nat :=
  cs.foldl (fun acc c => acc.bind fun n => (hexValue? c).map (16 * n + ·)) (some 0)

/-- The character with a number, which must be a Unicode scalar value. -/
def charOfNumber? (n : Nat) : Option Char :=
  if n < 0xd800 ∨ (0xdfff < n ∧ n < 0x110000) then some (Char.ofNat n) else none

/-- The character that the text behind a backslash stands for, and what follows it. -/
def escape? : List Char → Option (Char × List Char)
  | 'u' :: a :: b :: c :: d :: rest =>
    ((hexNumber? [a, b, c, d]).bind charOfNumber?).map (·, rest)
  | 'U' :: a :: b :: c :: d :: e :: f :: g :: h :: rest =>
    ((hexNumber? [a, b, c, d, e, f, g, h]).bind charOfNumber?).map (·, rest)
  | c :: rest => (simpleEscape? c).map (·, rest)
  | [] => none

theorem length_lt_of_escape? {cs rest : List Char} {c : Char} (h : escape? cs = some (c, rest)) :
    rest.length < cs.length := by
  unfold escape? at h
  split at h <;> simp only [Option.map_eq_some_iff, Prod.mk.injEq, reduceCtorEq] at h
  · obtain ⟨_, _, _, rfl⟩ := h; simp only [List.length_cons]; omega
  · obtain ⟨_, _, _, rfl⟩ := h; simp only [List.length_cons]; omega
  · obtain ⟨_, _, _, rfl⟩ := h; simp

/-! ## The four kinds -/

/-- Text in double quotes. -/
def readBasic : List Char → Read (List Char)
  | [] => none
  | '"' :: rest => some ([], rest)
  | '\\' :: rest =>
    match h : escape? rest with
    | some (c, rest') =>
      have := length_lt_of_escape? h
      Read.cons c (readBasic rest')
    | none => none
  | c :: rest => if isPrintable c then Read.cons c (readBasic rest) else none
termination_by cs => cs.length
decreasing_by all_goals simp only [List.length_cons]; omega

/-- Text in single quotes. -/
def readLiteral : List Char → Read (List Char)
  | [] => none
  | '\'' :: rest => some ([], rest)
  | c :: rest => if isPrintable c then Read.cons c (readLiteral rest) else none

/-- Text in three double quotes; one or two quotes may stand inside, also right before the end.
A backslash at the end of a line takes the line end and the space after it away. -/
def readLongBasic : List Char → Read (List Char)
  | [] => none
  | '"' :: '"' :: '"' :: '"' :: '"' :: rest => some (['"', '"'], rest)
  | '"' :: '"' :: '"' :: '"' :: rest => some (['"'], rest)
  | '"' :: '"' :: '"' :: rest => some ([], rest)
  | '\\' :: rest =>
    match h : escape? rest with
    | some (c, rest') =>
      have := length_lt_of_escape? h
      Read.cons c (readLongBasic rest')
    | none =>
      match hn : dropNewline? (rest.dropWhile isBlank) with
      | some rest' =>
        have _h₁ := length_lt_of_dropNewline? hn
        have _h₂ := length_dropWhile_le isBlank rest
        have _h₃ := length_dropSpace_le rest'
        readLongBasic (dropSpace rest')
      | none => none
  | '\n' :: rest => Read.cons '\n' (readLongBasic rest)
  | '\r' :: '\n' :: rest => Read.cons '\n' (readLongBasic rest)
  | c :: rest => if isPrintable c then Read.cons c (readLongBasic rest) else none
termination_by cs => cs.length
decreasing_by all_goals simp only [List.length_cons]; omega

/-- Text in three single quotes; one or two quotes may stand inside, also right before the end. -/
def readLongLiteral : List Char → Read (List Char)
  | [] => none
  | '\'' :: '\'' :: '\'' :: '\'' :: '\'' :: rest => some (['\'', '\''], rest)
  | '\'' :: '\'' :: '\'' :: '\'' :: rest => some (['\''], rest)
  | '\'' :: '\'' :: '\'' :: rest => some ([], rest)
  | '\n' :: rest => Read.cons '\n' (readLongLiteral rest)
  | '\r' :: '\n' :: rest => Read.cons '\n' (readLongLiteral rest)
  | c :: rest => if isPrintable c then Read.cons c (readLongLiteral rest) else none

/-- A line end right behind the three opening quotes does not count. -/
def dropFirstNewline (cs : List Char) : List Char := (dropNewline? cs).getD cs

/-- Quoted text of any kind, with its opening quotes. -/
def readQuoted? : List Char → Read (List Char)
  | '"' :: '"' :: '"' :: rest => readLongBasic (dropFirstNewline rest)
  | '\'' :: '\'' :: '\'' :: rest => readLongLiteral (dropFirstNewline rest)
  | '"' :: rest => readBasic rest
  | '\'' :: rest => readLiteral rest
  | _ => none

end Rendezvous.Toml
