import Mathlib.Algebra.Group.Int.Defs
import Mathlib.Algebra.Group.Nat.Defs
import Rendezvous.MessagePack.Parser

/-!
# Reading values back

A value is legible at a depth if a reader of that depth takes exactly the bytes of the value off
whatever begins with them (`Legible`). Each kind of value that messages are made of is legible as
long as its length can be written at all; a map is legible one level above its entries.
-/

namespace Rendezvous.MessagePack

variable {rest : List UInt8}

/-! ## Whole numbers -/

theorem byteSpan_eq (k : Nat) : byteSpan k = 256 ^ k := by
  unfold byteSpan
  rw [Nat.one_shiftLeft]
  exact Nat.pow_mul 2 8 k

theorem ofBytes_beBytes (acc k n : Nat) :
    ofBytes acc (beBytes k n) = acc * 256 ^ k + n % 256 ^ k := by
  induction k generalizing acc with
  | zero => simp [ofBytes, beBytes, Nat.mod_one]
  | succ k ih =>
    have hcons : ofBytes acc (beBytes (k + 1) n) =
        ofBytes (256 * acc + (UInt8.ofNat (n / 256 ^ k)).toNat) (beBytes k n) := by
      rw [← byteSpan_eq]
      rfl
    have hdigit : n % 256 ^ (k + 1) = n % 256 ^ k + 256 ^ k * (n / 256 ^ k % 256) :=
      Nat.mod_pow_succ
    rw [hcons, ih, hdigit, UInt8.toNat_ofNat', Nat.pow_succ 256 k]
    grind

theorem readNat_beBytes {k n : Nat} (h : n < 256 ^ k) :
    readNat k (beBytes k n ++ rest) = some (n, rest) := by
  have htake := takeBytes_append (beBytes k n) rest
  rw [length_beBytes] at htake
  rw [readNat, htake, Option.map_some]
  dsimp only
  rw [ofBytes_beBytes, Nat.zero_mul, Nat.zero_add, Nat.mod_eq_of_lt h]

theorem readSized_beBytes {α : Type} {k n : Nat} (h : n < 256 ^ k) (body : Nat → Reader α) :
    readSized k body (beBytes k n ++ rest) = body n rest := by
  rw [readSized, readNat_beBytes h, Option.bind_some]

/-! ## Values -/

/-- A reader of this depth takes the value off its bytes. -/
def Legible (depth : Nat) (v : Value) : Prop :=
  ∀ rest, readValue depth (v.print ++ rest) = some (v, rest)

/-- The reader of the values inside one that is read at this depth. -/
def inner : (depth : Nat) → Option (Reader Value)
  | 0 => none
  | depth + 1 => some (readValue depth)

theorem readValue_cons (depth : Nat) (marker : UInt8) (bs : List UInt8) :
    readValue depth (marker :: bs) =
      (shape? marker).bind fun s => readShaped (inner depth) s bs := by
  cases depth <;> rfl

/-- The marker that holds a small number settles it. -/
theorem shape?_of_low {base n : Nat} (bound : base + n < 256) :
    (UInt8.ofNat (base + n)).toNat = base + n := by
  rw [UInt8.toNat_ofNat', Nat.mod_eq_of_lt bound]

theorem shape?_fixStr {n : Nat} (h : n < 32) :
    shape? (UInt8.ofNat (0xa0 + n)) = some (.str (.inl n)) := by
  unfold shape?
  rw [shape?_of_low (by omega)]
  simp only [show ¬0xa0 + n < 0x80 by omega, show ¬0xa0 + n < 0x90 by omega,
    show ¬0xa0 + n < 0xa0 by omega, show 0xa0 + n < 0xc0 by omega, if_true, if_false,
    Nat.add_sub_cancel_left]

theorem shape?_fixMap {n : Nat} (h : n < 16) :
    shape? (UInt8.ofNat (0x80 + n)) = some (.map (.inl n)) := by
  unfold shape?
  rw [shape?_of_low (by omega)]
  simp only [show ¬0x80 + n < 0x80 by omega, show 0x80 + n < 0x90 by omega, if_true, if_false,
    Nat.add_sub_cancel_left]

theorem shape?_fixUint {n : Nat} (h : n < 0x80) :
    shape? (UInt8.ofNat n) = some (.whole (.uint .fix n)) := by
  unfold shape?
  rw [UInt8.toNat_ofNat', Nat.mod_eq_of_lt (by omega)]
  simp only [h, if_true]

theorem legible_nil (depth : Nat) : Legible depth .nil := fun rest =>
  readValue_cons depth 0xc0 rest

theorem legible_bool (depth : Nat) (b : Bool) : Legible depth (.bool b) := fun rest => by
  cases b with
  | false => exact readValue_cons depth 0xc2 rest
  | true => exact readValue_cons depth 0xc3 rest

theorem legible_single (depth : Nat) (bits : UInt32) : Legible depth (.single bits) :=
    fun rest => by
  have hlt : bits.toNat < 256 ^ 4 := bits.toNat_lt
  have hread : (readNat 4 (beBytes 4 bits.toNat ++ rest)).map
      (fun p => (Value.single (UInt32.ofNat p.1), p.2)) = some (.single bits, rest) := by
    rw [readNat_beBytes hlt, Option.map_some]
    dsimp only
    rw [UInt32.ofNat_toNat]
  exact (readValue_cons depth 0xca _).trans hread

/-! ### Integers -/

/-- An unsigned form holds the number. -/
def Width.Holds : Width → Nat → Prop
  | fix, n => n < 0x80
  | w, n => n < 256 ^ w.size

theorem legible_uint (depth : Nat) {w : Width} {n : Nat} (h : w.Holds n) :
    Legible depth (.uint w n) := fun rest => by
  -- behind the marker stands the number itself, except in the form without further bytes
  have hread : ∀ k, n < 256 ^ k → ∀ v : Nat → Value,
      (readNat k (beBytes k n ++ rest)).map (fun p => (v p.1, p.2)) = some (v n, rest) := by
    intro k hk v
    rw [readNat_beBytes hk, Option.map_some]
  cases w with
  | fix =>
    refine (readValue_cons depth _ rest).trans ?_
    rw [shape?_fixUint h, Option.bind_some]
    rfl
  | one => exact (readValue_cons depth 0xcc _).trans (hread 1 h _)
  | two => exact (readValue_cons depth 0xcd _).trans (hread 2 h _)
  | four => exact (readValue_cons depth 0xce _).trans (hread 4 h _)
  | eight => exact (readValue_cons depth 0xcf _).trans (hread 8 h _)

theorem legible_ofNat (depth : Nat) {n : Nat} (h : n < 2 ^ 64) : Legible depth (.ofNat n) := by
  unfold Value.ofNat
  split
  · next h => exact legible_uint depth (w := .fix) h
  · split
    · next h => exact legible_uint depth (w := .one) h
    · split
      · next h => exact legible_uint depth (w := .two) h
      · split
        · next h => exact legible_uint depth (w := .four) h
        · exact legible_uint depth (w := .eight) h

/-- A signed form holds the number; the one without further bytes only if it is negative. -/
def Width.HoldsSigned : Width → Int → Prop
  | fix, i => -32 ≤ i ∧ i < 0
  | w, i => -(256 ^ w.size : Nat) ≤ 2 * i ∧ 2 * i < (256 ^ w.size : Nat)

/-- The number whose bytes in two's complement are written. -/
theorem signed_emod {k : Nat} {i : Int} (hlo : -(256 ^ k : Nat) ≤ 2 * i)
    (hhi : 2 * i < (256 ^ k : Nat)) : signed k (i % (256 ^ k : Nat)).toNat = i := by
  unfold signed
  rw [byteSpan_eq]
  generalize 256 ^ k = b at hlo hhi ⊢
  have hb : (0 : Int) < b := by omega
  have hnonneg := Int.emod_nonneg i (Int.ne_of_gt hb)
  by_cases hi : 0 ≤ i
  · rw [Int.emod_eq_of_lt hi (by omega), if_pos (by omega)]
    omega
  · have hmod : i % b = i + b := by
      rw [← Int.add_emod_right, Int.emod_eq_of_lt (by omega) (by omega)]
    rw [hmod, if_neg (by omega)]
    omega

theorem legible_sint (depth : Nat) {w : Width} {i : Int} (h : w.HoldsSigned i) :
    Legible depth (.sint w i) := fun rest => by
  have hread : ∀ k, -(256 ^ k : Nat) ≤ 2 * i ∧ 2 * i < (256 ^ k : Nat) → ∀ w : Width,
      (readNat k (beBytes k (i % (256 ^ k : Nat)).toNat ++ rest)).map
        (fun p => (Value.sint w (signed k p.1), p.2)) = some (.sint w i, rest) := by
    intro k hk w
    have hpos : (0 : Int) < (256 ^ k : Nat) := Int.natCast_pos.mpr (Nat.pow_pos (by decide))
    have hlt : (i % (256 ^ k : Nat)).toNat < 256 ^ k := by
      have h₁ := Int.emod_lt_of_pos i hpos
      have h₀ := Int.emod_nonneg i (Int.ne_of_gt hpos)
      omega
    rw [readNat_beBytes hlt, Option.map_some]
    dsimp only
    rw [signed_emod hk.1 hk.2]
  cases w with
  | fix =>
    obtain ⟨hlo, hhi⟩ := h
    -- the marker itself is the number, in two's complement
    obtain ⟨n, hn⟩ : ∃ n : Nat, i = (n : Int) - 256 := ⟨(i + 256).toNat, by omega⟩
    subst hn
    have hshape : shape? (UInt8.ofNat n) = some (.whole (.sint .fix ((n : Int) - 256))) := by
      unfold shape?
      rw [UInt8.toNat_ofNat', Nat.mod_eq_of_lt (by omega)]
      simp only [show ¬n < 0x80 by omega, show ¬n < 0x90 by omega, show ¬n < 0xa0 by omega,
        show ¬n < 0xc0 by omega, show 0xe0 ≤ n by omega, if_true, if_false]
    have hprint : (Value.sint .fix ((n : Int) - 256)).print = [UInt8.ofNat n] := by
      simp [Value.print, printSint]
    rw [hprint]
    refine (readValue_cons depth _ rest).trans ?_
    rw [hshape, Option.bind_some]
    rfl
  | one => exact (readValue_cons depth 0xd0 _).trans (hread 1 h _)
  | two => exact (readValue_cons depth 0xd1 _).trans (hread 2 h _)
  | four => exact (readValue_cons depth 0xd2 _).trans (hread 4 h _)
  | eight => exact (readValue_cons depth 0xd3 _).trans (hread 8 h _)

theorem legible_ofInt (depth : Nat) {i : Int} (hlo : -2 ^ 63 ≤ i) (hhi : i < 2 ^ 64) :
    Legible depth (.ofInt i) := by
  unfold Value.ofInt
  split
  · exact legible_ofNat depth (by omega)
  · split
    · exact legible_sint depth (w := .fix) (by constructor <;> omega)
    · split
      · exact legible_sint depth (w := .one) (by constructor <;> simp only [Width.size] <;> omega)
      · split
        · exact legible_sint depth (w := .two) (by constructor <;> simp only [Width.size] <;> omega)
        · split
          · exact legible_sint depth (w := .four)
              (by constructor <;> simp only [Width.size] <;> omega)
          · exact legible_sint depth (w := .eight)
              (by constructor <;> simp only [Width.size] <;> omega)

/-! ### Strings -/

theorem fromUTF8?_bytes (s : String) :
    String.fromUTF8? ⟨s.toUTF8.data.toList.toArray⟩ = some s := by
  have hbytes : (⟨s.toUTF8.data.toList.toArray⟩ : ByteArray) = s.toByteArray := by simp
  rw [hbytes, String.fromUTF8?, dif_pos s.isValidUTF8]
  rfl

theorem readStr_bytes (s : String) (rest : List UInt8) :
    readStr s.utf8ByteSize (s.toUTF8.data.toList ++ rest) = some (.str s, rest) := by
  have hlength : s.toUTF8.data.toList.length = s.utf8ByteSize := rfl
  have htake := takeBytes_append s.toUTF8.data.toList rest
  rw [hlength] at htake
  rw [readStr, htake, Option.map_some]
  dsimp only
  rw [fromUTF8?_bytes]

theorem legible_str (depth : Nat) {s : String} (h : s.utf8ByteSize < 2 ^ 32) :
    Legible depth (.str s) := fun rest => by
  rw [Value.print, strHeader, List.append_assoc]
  have hbytes := readStr_bytes s rest
  generalize s.toUTF8.data.toList ++ rest = tail at hbytes ⊢
  have hsized : ∀ k, s.utf8ByteSize < 256 ^ k →
      readSized k readStr (beBytes k s.utf8ByteSize ++ tail) = some (.str s, rest) := by
    intro k hk
    rw [readSized_beBytes hk, hbytes]
  split
  · next h =>
    refine (readValue_cons depth _ tail).trans ?_
    rw [shape?_fixStr h, Option.bind_some]
    exact hbytes
  · split
    · next h => exact (readValue_cons depth 0xd9 _).trans (hsized 1 h)
    · split
      · next h => exact (readValue_cons depth 0xda _).trans (hsized 2 h)
      · exact (readValue_cons depth 0xdb _).trans (hsized 4 h)

/-! ### Maps -/

theorem readPair_print {depth : Nat} {k v : Value} (hk : Legible depth k) (hv : Legible depth v)
    (rest : List UInt8) : readPair (readValue depth) (readValue depth)
      (k.print ++ (v.print ++ rest)) = some ((k, v), rest) := by
  rw [readPair, hk, Option.bind_some]
  dsimp only
  rw [hv, Option.map_some]

/-- Entries that are legible are read one after the other. -/
theorem readMany_entries {depth : Nat} {entries : List (Value × Value)}
    (h : ∀ e ∈ entries, Legible depth e.1 ∧ Legible depth e.2) (rest : List UInt8) :
    readMany (readPair (readValue depth) (readValue depth)) entries.length
      (printEntries entries ++ rest) = some (entries, rest) := by
  induction entries with
  | nil => rfl
  | cons e entries ih =>
    obtain ⟨k, v⟩ := e
    obtain ⟨hk, hv⟩ := h (k, v) List.mem_cons_self
    rw [printEntries, List.append_assoc, List.append_assoc, List.length_cons, readMany,
      readPair_print hk hv, Option.bind_some]
    dsimp only
    rw [ih fun e he => h e (List.mem_cons_of_mem _ he), Option.map_some]

/-- What is read off a short map begins with its first entry, if that is legible. -/
theorem entries_of_readValue {depth : Nat} {k v w : Value} {entries : List (Value × Value)}
    {tail rest : List UInt8} (hk : Legible depth k) (hv : Legible depth v)
    (hlength : entries.length + 1 < 16)
    (h : readValue (depth + 1) ((Value.map ((k, v) :: entries)).print ++ tail) = some (w, rest)) :
    ∃ entries', w = .map ((k, v) :: entries') := by
  rw [Value.print, List.length_cons, mapHeader, if_pos hlength, printEntries, List.append_assoc,
    List.append_assoc, List.append_assoc, List.singleton_append, readValue_cons,
    shape?_fixMap hlength, Option.bind_some] at h
  obtain ⟨⟨read, _⟩, hmany, he⟩ := Option.map_eq_some_iff.mp h
  cases he
  rw [readMany, readPair_print hk hv, Option.bind_some] at hmany
  obtain ⟨⟨entries', _⟩, -, he⟩ := Option.map_eq_some_iff.mp hmany
  cases he
  exact ⟨entries', rfl⟩

theorem legible_map {depth : Nat} {entries : List (Value × Value)}
    (hlength : entries.length < 2 ^ 32)
    (h : ∀ e ∈ entries, Legible depth e.1 ∧ Legible depth e.2) :
    Legible (depth + 1) (.map entries) := fun rest => by
  rw [Value.print, mapHeader, List.append_assoc]
  have hentries := readMany_entries h rest
  generalize printEntries entries ++ rest = tail at hentries ⊢
  have hbody : (fun n bs => (readMany (readPair (readValue depth) (readValue depth)) n bs).map
      fun p => (Value.map p.1, p.2)) entries.length tail = some (.map entries, rest) := by
    dsimp only
    rw [hentries, Option.map_some]
  have hsized : ∀ k, entries.length < 256 ^ k →
      readSized k (fun n bs => (readMany (readPair (readValue depth) (readValue depth)) n bs).map
        fun p => (Value.map p.1, p.2)) (beBytes k entries.length ++ tail) =
        some (.map entries, rest) := by
    intro k hk
    rw [readSized_beBytes hk]
    exact hbody
  split
  · next h =>
    refine (readValue_cons (depth + 1) _ tail).trans ?_
    rw [shape?_fixMap h, Option.bind_some]
    exact hbody
  · split
    · next h => exact (readValue_cons (depth + 1) 0xde _).trans (hsized 2 h)
    · exact (readValue_cons (depth + 1) 0xdf _).trans (hsized 4 hlength)

end Rendezvous.MessagePack
