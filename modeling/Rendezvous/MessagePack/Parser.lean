import Rendezvous.MessagePack.Printer

/-!
# Reading MessagePack

A value is read off the front of the bytes and the rest is given back. Headers may be of any width.
Arrays, maps and extensions may stand inside each other to a depth of 1023 (`maxDepth`); the marker
`c1` and running out of bytes are the other ways to fail.
-/

namespace Rendezvous.MessagePack

/-- Reads one thing off the front of the bytes. -/
abbrev Reader (α : Type) := List UInt8 → Option (α × List UInt8)

/-! ## Pieces -/

/-- The first `n` bytes. -/
def takeBytes : (n : Nat) → Reader (List UInt8)
  | 0, bs => some ([], bs)
  | _ + 1, [] => none
  | n + 1, b :: bs => (takeBytes n bs).map fun p => (b :: p.1, p.2)

theorem takeBytes_append (xs rest : List UInt8) :
    takeBytes xs.length (xs ++ rest) = some (xs, rest) := by
  induction xs with
  | nil => rfl
  | cons x xs ih => simp [takeBytes, ih]

theorem eq_of_takeBytes {n : Nat} {bs xs rest : List UInt8} (h : takeBytes n bs = some (xs, rest)) :
    bs = xs ++ rest ∧ xs.length = n := by
  induction n generalizing bs xs with
  | zero => simp [takeBytes] at h; simp [h]
  | succ n ih =>
    cases bs with
    | nil => simp [takeBytes] at h
    | cons b bs =>
      simp only [takeBytes, Option.map_eq_some_iff, Prod.mk.injEq] at h
      obtain ⟨⟨p, q⟩, hp, rfl, rfl⟩ := h
      obtain ⟨h₁, h₂⟩ := ih hp
      simp [h₁, h₂]

/-- A number of `k` bytes, highest first. -/
def readNat (k : Nat) : Reader Nat := fun bs =>
  (takeBytes k bs).map fun (xs, rest) => (ofBytes 0 xs, rest)

/-- `n` things one after the other. -/
def readMany {α : Type} (item : Reader α) : (n : Nat) → Reader (List α)
  | 0, bs => some ([], bs)
  | n + 1, bs =>
    (item bs).bind fun (x, rest) => (readMany item n rest).map fun (xs, rest) => (x :: xs, rest)

/-- Two things one after the other. -/
def readPair {α β : Type} (first : Reader α) (second : Reader β) : Reader (α × β) := fun bs =>
  (first bs).bind fun (x, rest) => (second rest).map fun (y, rest) => ((x, y), rest)

/-- A string of `n` bytes. -/
def readStr (n : Nat) : Reader Value := fun bs =>
  (takeBytes n bs).map fun (xs, rest) =>
    match String.fromUTF8? ⟨xs.toArray⟩ with
    | some s => (.str s, rest)
    | none => (.bin xs, rest)

/-- A binary of `n` bytes. -/
def readBin (n : Nat) : Reader Value := fun bs =>
  (takeBytes n bs).map fun (xs, rest) => (.bin xs, rest)

/-- An unsigned integer with the bytes of the width. -/
def readUint (w : Width) : Reader Value := fun bs =>
  (readNat w.size bs).map fun (n, rest) => (.uint w n, rest)

/-- The number that `k` bytes of value `n` are in two's complement. -/
def signed (k n : Nat) : Int := if 2 * n < byteSpan k then n else (n : Int) - byteSpan k

/-- A signed integer with the bytes of the width. -/
def readSint (w : Width) : Reader Value := fun bs =>
  (readNat w.size bs).map fun (n, rest) => (.sint w (signed w.size n), rest)

/-- The tag and the `n` bytes of an extension. -/
def readExt (n : Nat) : Reader Value
  | [] => none
  | tag :: bs => (takeBytes n bs).map fun (xs, rest) => (.ext tag xs, rest)

/-- A length of `k` bytes and what it is the length of. -/
def readSized {α : Type} (k : Nat) (body : Nat → Reader α) : Reader α := fun bs =>
  (readNat k bs).bind fun (n, rest) => body n rest

/-! ## Values -/

/-- What a marker announces. -/
inductive Shape where
  /-- A value that the marker settles. -/
  | whole (v : Value)
  | uint (w : Width)
  | sint (w : Width)
  | single
  | double
  /-- A string whose length is given, or stands in the next bytes. -/
  | str (length : Nat ⊕ Nat)
  | bin (lengthBytes : Nat)
  | arr (length : Nat ⊕ Nat)
  | map (length : Nat ⊕ Nat)
  | ext (length : Nat ⊕ Nat)

/-- The meaning of a marker; in a sum, the left side is a length and the right side the number of
bytes that hold the length. -/
def shape? (marker : UInt8) : Option Shape :=
  let m := marker.toNat
  if m < 0x80 then some (.whole (.uint .fix m))
  else if m < 0x90 then some (.map (.inl (m - 0x80)))
  else if m < 0xa0 then some (.arr (.inl (m - 0x90)))
  else if m < 0xc0 then some (.str (.inl (m - 0xa0)))
  else if 0xe0 ≤ m then some (.whole (.sint .fix ((m : Int) - 256)))
  else match m with
    | 0xc0 => some (.whole .nil)
    | 0xc2 => some (.whole (.bool false))
    | 0xc3 => some (.whole (.bool true))
    | 0xc4 => some (.bin 1)
    | 0xc5 => some (.bin 2)
    | 0xc6 => some (.bin 4)
    | 0xc7 => some (.ext (.inr 1))
    | 0xc8 => some (.ext (.inr 2))
    | 0xc9 => some (.ext (.inr 4))
    | 0xca => some .single
    | 0xcb => some .double
    | 0xcc => some (.uint .one)
    | 0xcd => some (.uint .two)
    | 0xce => some (.uint .four)
    | 0xcf => some (.uint .eight)
    | 0xd0 => some (.sint .one)
    | 0xd1 => some (.sint .two)
    | 0xd2 => some (.sint .four)
    | 0xd3 => some (.sint .eight)
    | 0xd4 => some (.ext (.inl 1))
    | 0xd5 => some (.ext (.inl 2))
    | 0xd6 => some (.ext (.inl 4))
    | 0xd7 => some (.ext (.inl 8))
    | 0xd8 => some (.ext (.inl 16))
    | 0xd9 => some (.str (.inr 1))
    | 0xda => some (.str (.inr 2))
    | 0xdb => some (.str (.inr 4))
    | 0xdc => some (.arr (.inr 2))
    | 0xdd => some (.arr (.inr 4))
    | 0xde => some (.map (.inr 2))
    | 0xdf => some (.map (.inr 4))
    | _ => none

/-- What follows a length that is known or stands in the next bytes. -/
def readMeasured {α : Type} (length : Nat ⊕ Nat) (body : Nat → Reader α) : Reader α :=
  match length with
  | .inl n => body n
  | .inr k => readSized k body

/-- The rest of a value whose marker has been read; `inner` reads the values inside it, if there may
be any. -/
def readShaped (inner : Option (Reader Value)) : Shape → Reader Value
  | .whole v, bs => some (v, bs)
  | .uint w, bs => readUint w bs
  | .sint w, bs => readSint w bs
  | .single, bs => (readNat 4 bs).map fun (n, rest) => (.single (UInt32.ofNat n), rest)
  | .double, bs => (readNat 8 bs).map fun (n, rest) => (.double (UInt64.ofNat n), rest)
  | .str length, bs => readMeasured length readStr bs
  | .bin k, bs => readSized k readBin bs
  | .arr length, bs => inner.bind fun item =>
    readMeasured length (fun n bs => (readMany item n bs).map fun (xs, rest) => (.arr xs, rest)) bs
  | .map length, bs => inner.bind fun item =>
    readMeasured length
      (fun n bs => (readMany (readPair item item) n bs).map fun (xs, rest) => (.map xs, rest)) bs
  | .ext length, bs => inner.bind fun _ => readMeasured length readExt bs

/-- Reads a value that holds others to a depth of at most `depth`. -/
def readValue : (depth : Nat) → Reader Value
  | _, [] => none
  | 0, marker :: bs => (shape? marker).bind fun s => readShaped none s bs
  | depth + 1, marker :: bs =>
    (shape? marker).bind fun s => readShaped (some (readValue depth)) s bs

/-- How deep arrays, maps and extensions may stand inside each other. -/
def maxDepth : Nat := 1023

/-- The value at the front of the bytes; what follows it is left unread. -/
def parse? (bytes : List UInt8) : Option Value := (readValue maxDepth bytes).map (·.1)

end Rendezvous.MessagePack
