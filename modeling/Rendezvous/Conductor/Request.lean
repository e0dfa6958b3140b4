/-!
# Requests

A request asks for a page: it has a method and a target. The target is a path, an absolute address
with a scheme and an authority in front of the path, or a bare authority. A query and a fragment may
stand behind a path; they must be well formed and say nothing about the page.

* A scheme has at most 64 letters, digits and signs, and `://` follows it.
* An authority has a host, perhaps after user and password, perhaps with a port (`isAuthority`).
* Paths and queries may hold most characters (`isPathChar`, `isQueryChar`).
-/

namespace Rendezvous

/-- A request for a page. -/
structure Request where
  method : String
  /-- The path of the target; empty if the target is a bare authority. -/
  path : String
deriving DecidableEq, Repr, Inhabited

namespace Request

/-! ## Characters -/

/-- Characters of methods. -/
def isTokenChar (c : Char) : Bool :=
  c.isAlphanum ||
    c ∈ ['!', '#', '$', '%', '&', '\'', '*', '+', '-', '.', '^', '_', '\x60', '|', '~']

/-- Characters of schemes. -/
def isSchemeChar (c : Char) : Bool := c.isAlphanum || c ∈ ['+', '-', '.', '~']

/-- Characters of authorities that have no role of their own. -/
def isHostChar (c : Char) : Bool :=
  c.isAlphanum ||
    c ∈ ['!', '$', '&', '\'', '(', ')', '*', '+', ',', '-', '.', ';', '=', '_', '~']

/-- Whether the character ends an authority. -/
def endsAuthority (c : Char) : Bool := c = '/' || c = '?' || c = '#'

/-- Characters of paths. -/
def isPathChar (c : Char) : Bool :=
  0x20 < c.toNat && c ∉ ['#', '<', '>', '?', '\x60']

/-- Characters of queries. -/
def isQueryChar (c : Char) : Bool :=
  0x20 < c.toNat && c ∉ ['"', '#', '<', '>']

/-! ## Authorities -/

/-- What matters of the part of an authority that has been read. -/
structure AuthorityScan where
  /-- The colons behind the last `@` and the last `]`. -/
  colons : Nat := 0
  /-- Whether a percent sign stands behind the last `@` and the last `]`. -/
  percent : Bool := false
  opened : Bool := false
  closed : Bool := false
  /-- Whether the last character was `@`. -/
  hostMissing : Bool := false
deriving DecidableEq, Repr, Inhabited

/-- Reads one more character: there is at most one pair of brackets, no more than eight colons stand
together in an address in brackets, and percent signs only before `@` or in brackets. -/
def AuthorityScan.step? (s : AuthorityScan) (c : Char) : Option AuthorityScan :=
  let s' := { s with hostMissing := false }
  if c = ':' then if s.colons < 8 then some { s' with colons := s.colons + 1 } else none
  else if c = '[' then if s.percent || s.opened then none else some { s' with opened := true }
  else if c = ']' then
    if s.opened && !s.closed then some { s' with closed := true, colons := 0, percent := false }
    else none
  else if c = '@' then some { s with colons := 0, percent := false, hostMissing := true }
  else if c = '%' then some { s' with percent := true }
  else if isHostChar c then some s'
  else none

/-- Whether the text is an authority: its brackets are closed, at most one colon and no percent sign
stand in what is behind `@` and brackets, and something stands behind `@`. -/
def isAuthority (cs : List Char) : Bool :=
  !cs.isEmpty && (cs.foldlM AuthorityScan.step? {}).any fun s =>
    s.opened == s.closed && s.colons ≤ 1 && !s.percent && !s.hostMissing

/-! ## Targets -/

/-- The path in front of a query and a fragment. -/
def pathOf? (cs : List Char) : Option (List Char) :=
  let (path, rest) := cs.span fun c => c ≠ '?' && c ≠ '#'
  let query := match rest with
    | '?' :: query => query.takeWhile (· ≠ '#')
    | _ => []
  if path.all isPathChar && query.all isQueryChar then some path else none

/-- The path of a target; an absolute one without a path has the path `/`. -/
def targetPath? : List Char → Option (List Char)
  | '/' :: rest => pathOf? ('/' :: rest)
  | cs =>
    let (scheme, rest) := cs.span isSchemeChar
    match rest with
    | ':' :: '/' :: '/' :: rest =>
      let (authority, rest) := rest.span (!endsAuthority ·)
      if scheme.length ≤ 64 && isAuthority authority then
        (pathOf? rest).map fun path => if path.isEmpty then ['/'] else path
      else none
    | _ => if isAuthority cs then some [] else none

/-- How many bytes a target may have. -/
def maxTargetSize : Nat := 65534

/-- The request with a method and a target, if both are well formed. -/
def read? (method target : String) : Option Request :=
  if !method.isEmpty && method.toList.all isTokenChar && target.utf8ByteSize ≤ maxTargetSize then
    (targetPath? target.toList).map fun path => ⟨method, String.ofList path⟩
  else none

end Request

end Rendezvous
