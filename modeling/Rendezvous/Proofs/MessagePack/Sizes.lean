import Mathlib.Algebra.GroupWithZero.Nat
import Rendezvous.Proofs.MessagePack.RoundTrip

/-!
# How few bytes hold a value

A reader takes headers of any width, so a value that was read need not have stood there as it is
written. It cannot have stood in fewer bytes than its weight (`pays_readValue`): a text or a number
weighs what it takes when it is written, and an array or a map one byte more than what it holds.
-/

namespace Rendezvous.MessagePack

variable {α β : Type} {bs rest : List UInt8} {n k : Nat}

/-! ## Weights -/

/-- The bytes of a text of `n` bytes with its shortest header. -/
def textWeight (n : Nat) : Nat := (strHeader n).length + n

mutual

/-- The fewest bytes from which a value can be read. -/
def Value.weight : Value → Nat
  | .uint _ n => (Value.ofNat n).print.length
  | .sint _ i => (Value.ofNat i.toNat).print.length
  | .str s => textWeight s.utf8ByteSize
  | .bin bytes => textWeight bytes.length
  | .arr items => 1 + itemsWeight items
  | .map entries => 1 + entriesWeight entries
  | .nil | .bool _ | .single _ | .double _ | .ext _ _ => 1

/-- The weight of the items of an array. -/
def itemsWeight : List Value → Nat
  | [] => 0
  | v :: rest => v.weight + itemsWeight rest

/-- The weight of the entries of a map. -/
def entriesWeight : List (Value × Value) → Nat
  | [] => 0
  | (k, v) :: rest => k.weight + v.weight + entriesWeight rest

end

theorem length_printUint (w : Width) (n : Nat) : (printUint w n).length = 1 + w.size := by
  cases w with
  | fix => rfl
  | one | two | four | eight => simp [printUint, Width.size]

/-- A number takes no more bytes in its shortest form than in another that holds it. -/
theorem length_print_ofNat_le {w : Width} (h : w.Holds n) :
    (Value.ofNat n).print.length ≤ 1 + w.size := by
  unfold Value.ofNat
  repeat' split
  all_goals
    rw [Value.print, length_printUint]
    cases w <;> simp [Width.Holds, Width.size] at h ⊢ <;> omega

theorem length_print_ofNat_pos (n : Nat) : 1 ≤ (Value.ofNat n).print.length := by
  unfold Value.ofNat
  repeat' split
  all_goals
    rw [Value.print, length_printUint]
    exact Nat.le_add_right 1 _

theorem length_strHeader (n : Nat) : (strHeader n).length =
    if n < 32 then 1 else if n < 0x100 then 2 else if n < 0x10000 then 3 else 5 := by
  unfold strHeader
  repeat' split
  all_goals simp

/-- The shortest header of a text is no longer than one with `k` bytes for the length. -/
theorem length_strHeader_le (hn : n < 256 ^ k) (hk : k = 1 ∨ k = 2 ∨ k = 4) :
    (strHeader n).length ≤ 1 + k := by
  rw [length_strHeader]
  rcases hk with rfl | rfl | rfl <;> repeat' split
  all_goals omega

theorem length_strHeader_pos (n : Nat) : 1 ≤ (strHeader n).length := by
  rw [length_strHeader]
  repeat' split
  all_goals omega

/-- Every value takes a byte. -/
theorem Value.one_le_weight (v : Value) : 1 ≤ v.weight := by
  cases v with
  | uint w n => exact length_print_ofNat_pos n
  | sint w i => exact length_print_ofNat_pos i.toNat
  | str s => exact Nat.le_add_right_of_le (length_strHeader_pos _)
  | bin bytes => exact Nat.le_add_right_of_le (length_strHeader_pos _)
  | arr | map => exact Nat.le_add_right 1 _
  | nil | bool | single | double | ext => exact Nat.le_refl 1

/-! ## Readers that take enough -/

/-- A reader takes as many bytes at least as what it reads weighs. -/
def Pays (weight : α → Nat) (read : Reader α) : Prop :=
  ∀ bs a rest, read bs = some (a, rest) → weight a + rest.length ≤ bs.length

theorem Pays.readMany {weight : α → Nat} {item : Reader α} (h : Pays weight item) (n : Nat) :
    Pays (fun xs => (xs.map weight).sum) (readMany item n) := by
  induction n with
  | zero =>
    rintro bs xs rest ⟨⟩
    exact Nat.le_of_eq (Nat.zero_add _)
  | succ n ih =>
    intro bs xs rest hread
    obtain ⟨⟨x, mid⟩, hx, hread⟩ := Option.bind_eq_some_iff.mp hread
    obtain ⟨⟨xs', rest'⟩, hxs, he⟩ := Option.map_eq_some_iff.mp hread
    cases he
    have hfirst := h _ _ _ hx
    have hothers := ih _ _ _ hxs
    simp only [List.map_cons, List.sum_cons] at hothers ⊢
    omega

theorem Pays.readPair {weight : α → Nat} {weight' : β → Nat} {first : Reader α}
    {second : Reader β} (h : Pays weight first) (h' : Pays weight' second) :
    Pays (fun p => weight p.1 + weight' p.2) (readPair first second) := by
  intro bs p rest hread
  obtain ⟨⟨x, mid⟩, hx, hread⟩ := Option.bind_eq_some_iff.mp hread
  obtain ⟨⟨y, rest'⟩, hy, he⟩ := Option.map_eq_some_iff.mp hread
  cases he
  have hfirst := h _ _ _ hx
  have hsecond := h' _ _ _ hy
  dsimp only at hfirst hsecond ⊢
  omega

theorem ofBytes_lt (acc : Nat) (xs : List UInt8) :
    ofBytes acc xs < (acc + 1) * 256 ^ xs.length := by
  induction xs generalizing acc with
  | nil => simp [ofBytes]
  | cons x xs ih =>
    have hx : x.toNat < 256 := x.toNat_lt
    calc ofBytes acc (x :: xs) = ofBytes (256 * acc + x.toNat) xs := rfl
      _ < (256 * acc + x.toNat + 1) * 256 ^ xs.length := ih _
      _ ≤ (256 * acc + 256) * 256 ^ xs.length := Nat.mul_le_mul_right _ (by omega)
      _ = (acc + 1) * 256 ^ (x :: xs).length := by
        rw [List.length_cons, Nat.pow_succ, Nat.mul_comm (256 ^ xs.length), ← Nat.mul_assoc,
          Nat.add_mul acc 1 256, Nat.one_mul, Nat.mul_comm acc]

/-- A number of `k` bytes takes them, and is no larger than they can hold. -/
theorem readNat_some (h : readNat k bs = some (n, rest)) :
    n < 256 ^ k ∧ bs.length = k + rest.length := by
  obtain ⟨⟨xs, rest'⟩, htake, he⟩ := Option.map_eq_some_iff.mp h
  cases he
  obtain ⟨rfl, rfl⟩ := eq_of_takeBytes htake
  have hlt := ofBytes_lt 0 xs
  rw [Nat.zero_add, Nat.one_mul] at hlt
  exact ⟨hlt, List.length_append⟩

/-- The bytes that hold a length, if it does not stand in the marker. -/
def lengthBytes : Nat ⊕ Nat → Nat
  | .inl _ => 0
  | .inr k => k

/-- The length is `n`, or can be. -/
def Measures : Nat ⊕ Nat → Nat → Prop
  | .inl m, n => n = m
  | .inr k, n => n < 256 ^ k

/-- Behind its length stands what the length is of. -/
theorem readMeasured_some {length : Nat ⊕ Nat} {body : Nat → Reader α} {a : α}
    (h : readMeasured length body bs = some (a, rest)) :
    ∃ n mid, Measures length n ∧ bs.length = lengthBytes length + mid.length ∧
      body n mid = some (a, rest) := by
  cases length with
  | inl n => exact ⟨n, bs, rfl, (Nat.zero_add _).symm, h⟩
  | inr k =>
    obtain ⟨⟨n, mid⟩, hn, hbody⟩ := Option.bind_eq_some_iff.mp h
    obtain ⟨hlt, hlength⟩ := readNat_some hn
    exact ⟨n, mid, hlt, hlength, hbody⟩

/-! ## Values -/

/-- A text read from bytes takes as many. -/
theorem utf8ByteSize_of_fromUTF8? {bytes : List UInt8} {s : String}
    (h : String.fromUTF8? ⟨bytes.toArray⟩ = some s) : s.utf8ByteSize = bytes.length := by
  unfold String.fromUTF8? at h
  split at h
  · cases h
    rfl
  · cases h

/-- What a marker announces is read from as many bytes as it needs: a value that it settles takes no
other byte, a length in it is short, and a length behind it stands in one, two or four bytes. -/
def Shape.Sized : Shape → Prop
  | .whole v => v.weight = 1
  | .str (.inl n) => n < 32
  | .str (.inr k) | .bin k => k = 1 ∨ k = 2 ∨ k = 4
  | _ => True

theorem sized_of_shape? {marker : UInt8} {s : Shape} (h : shape? marker = some s) : s.Sized := by
  have hm : marker.toNat < 256 := marker.toNat_lt
  unfold shape? at h
  dsimp only at h
  generalize marker.toNat = m at h hm
  split at h
  · next hlow =>
    cases h
    show (Value.ofNat m).print.length = 1
    rw [Value.ofNat, if_pos hlow]
    rfl
  split at h
  · cases h
    trivial
  split at h
  · cases h
    trivial
  split at h
  · next hlow =>
    cases h
    show m - 0xa0 < 32
    omega
  split at h
  · cases h
    -- the number is negative
    have hzero : ((m : Int) - 256).toNat = 0 := by omega
    show (Value.ofNat ((m : Int) - 256).toNat).print.length = 1
    rw [hzero]
    rfl
  · -- what is left are markers that stand for themselves
    split at h <;> cases h
    all_goals first
      | rfl
      | trivial
      | exact Or.inl rfl
      | exact Or.inr (Or.inl rfl)
      | exact Or.inr (Or.inr rfl)

/-- Bytes with their length in front of them are as many as a text of that length needs. -/
theorem textWeight_le {length : Nat ⊕ Nat} (hs : (Shape.str length).Sized)
    (hn : Measures length n) : textWeight n ≤ 1 + lengthBytes length + n := by
  refine Nat.add_le_add_right ?_ n
  cases length with
  | inl m =>
    obtain rfl : n = m := hn
    rw [length_strHeader, if_pos (show n < 32 from hs)]
    exact Nat.le_refl 1
  | inr k => exact length_strHeader_le hn hs

/-- A value that is read from as many bytes as its length says. -/
theorem weight_of_text {length : Nat ⊕ Nat} {body : Nat → Reader Value} {v : Value}
    (hs : (Shape.str length).Sized)
    (hbody : ∀ {n mid}, body n mid = some (v, rest) →
      v.weight = textWeight n ∧ mid.length = n + rest.length)
    (h : readMeasured length body bs = some (v, rest)) :
    v.weight + rest.length ≤ 1 + bs.length := by
  obtain ⟨n, mid, hn, hlength, hread⟩ := readMeasured_some h
  obtain ⟨hv, hmid⟩ := hbody hread
  have hle := textWeight_le hs hn
  omega

theorem readStr_some {v : Value} (h : readStr n bs = some (v, rest)) :
    v.weight = textWeight n ∧ bs.length = n + rest.length := by
  obtain ⟨⟨xs, rest'⟩, htake, he⟩ := Option.map_eq_some_iff.mp h
  obtain ⟨rfl, rfl⟩ := eq_of_takeBytes htake
  dsimp only at he
  split at he
  · next s hs =>
    cases he
    exact ⟨congrArg textWeight (utf8ByteSize_of_fromUTF8? hs), List.length_append⟩
  · cases he
    exact ⟨rfl, List.length_append⟩

theorem readBin_some {v : Value} (h : readBin n bs = some (v, rest)) :
    v.weight = textWeight n ∧ bs.length = n + rest.length := by
  obtain ⟨⟨xs, rest'⟩, htake, he⟩ := Option.map_eq_some_iff.mp h
  obtain ⟨rfl, rfl⟩ := eq_of_takeBytes htake
  cases he
  exact ⟨rfl, List.length_append⟩

theorem itemsWeight_eq (items : List Value) :
    itemsWeight items = (items.map Value.weight).sum := by
  induction items with
  | nil => rfl
  | cons v rest ih => rw [itemsWeight, ih, List.map_cons, List.sum_cons]

theorem entriesWeight_eq (entries : List (Value × Value)) :
    entriesWeight entries = (entries.map fun e => e.1.weight + e.2.weight).sum := by
  induction entries with
  | nil => rfl
  | cons e rest ih => rw [entriesWeight, ih, List.map_cons, List.sum_cons]

/-- The bytes of a width hold what is read from them without a sign, -/
theorem Width.holds_of_lt {w : Width} (h : n < 256 ^ w.size) : w.Holds n := by
  cases w <;> simp [Width.Holds, Width.size] at h ⊢ <;> omega

/-- and with one. -/
theorem Width.holds_signed {w : Width} (h : n < 256 ^ w.size) :
    w.Holds (signed w.size n).toNat := by
  unfold signed
  split <;> cases w <;> simp [Width.Holds, Width.size, byteSpan] at h ⊢ <;> omega

/-- A number that is read from the bytes of a width. -/
theorem weight_of_number {w : Width} {f : Nat → Value} {v : Value}
    (hf : ∀ n, n < 256 ^ w.size → ∃ m, w.Holds m ∧ (f n).weight = (Value.ofNat m).print.length)
    (h : ((readNat w.size bs).map fun (n, rest) => (f n, rest)) = some (v, rest)) :
    v.weight + rest.length ≤ 1 + bs.length := by
  obtain ⟨⟨n, rest'⟩, hn, he⟩ := Option.map_eq_some_iff.mp h
  cases he
  obtain ⟨hlt, hlength⟩ := readNat_some hn
  obtain ⟨m, hholds, hweight⟩ := hf n hlt
  have hle := length_print_ofNat_le hholds
  omega

/-- An array or a map, which weighs one byte more than what it holds. -/
theorem weight_of_items {weight : α → Nat} {item : Reader α} {f : List α → Value}
    {length : Nat ⊕ Nat} {v : Value} (hitem : Pays weight item)
    (hf : ∀ xs, (f xs).weight = 1 + (xs.map weight).sum)
    (h : readMeasured length
      (fun n bs => (readMany item n bs).map fun (xs, rest) => (f xs, rest)) bs = some (v, rest)) :
    v.weight + rest.length ≤ 1 + bs.length := by
  obtain ⟨n, mid, -, hlength, hbody⟩ := readMeasured_some h
  obtain ⟨⟨xs, rest'⟩, hxs, he⟩ := Option.map_eq_some_iff.mp hbody
  cases he
  have hle := hitem.readMany n _ _ _ hxs
  have hweight := hf xs
  dsimp only at hle ⊢
  omega

/-- An extension weighs one byte, and its tag alone takes that. -/
theorem weight_of_readExt {v : Value} (h : readExt n bs = some (v, rest)) :
    v.weight + rest.length ≤ bs.length := by
  cases bs with
  | nil => cases h
  | cons tag bs =>
    obtain ⟨⟨xs, rest'⟩, htake, he⟩ := Option.map_eq_some_iff.mp h
    cases he
    obtain ⟨rfl, -⟩ := eq_of_takeBytes htake
    rw [List.length_cons, List.length_append]
    show 1 + _ ≤ _
    omega

/-- A value whose marker has been read takes, with its marker, as many bytes as it weighs. -/
theorem weight_of_readShaped {inner : Option (Reader Value)} {s : Shape} {v : Value}
    (hinner : ∀ item, inner = some item → Pays Value.weight item) (hs : s.Sized)
    (h : readShaped inner s bs = some (v, rest)) : v.weight + rest.length ≤ 1 + bs.length := by
  cases s with
  | whole w =>
    cases h
    exact Nat.le_of_eq (congrArg (· + _) hs)
  | uint w =>
    exact weight_of_number (f := .uint w) (fun n hlt => ⟨n, Width.holds_of_lt hlt, rfl⟩) h
  | sint w =>
    exact weight_of_number (f := fun n => .sint w (signed w.size n))
      (fun n hlt => ⟨_, Width.holds_signed hlt, rfl⟩) h
  | single | double =>
    obtain ⟨⟨n, rest'⟩, hn, he⟩ := Option.map_eq_some_iff.mp h
    cases he
    have hlength := (readNat_some hn).2
    show 1 + _ ≤ _
    omega
  | str length => exact weight_of_text hs readStr_some h
  | bin k =>
    have hs' : (Shape.str (.inr k)).Sized := hs
    exact weight_of_text hs' readBin_some h
  | arr length =>
    obtain ⟨item, hitem, h⟩ := Option.bind_eq_some_iff.mp h
    refine weight_of_items (hinner item hitem) (fun xs => ?_) h
    rw [Value.weight, itemsWeight_eq]
  | map length =>
    obtain ⟨item, hitem, h⟩ := Option.bind_eq_some_iff.mp h
    have hpays := hinner item hitem
    refine weight_of_items (hpays.readPair hpays) (fun entries => ?_) h
    rw [Value.weight, entriesWeight_eq]
  | ext length =>
    obtain ⟨item, -, h⟩ := Option.bind_eq_some_iff.mp h
    obtain ⟨n, mid, -, hlength, hbody⟩ := readMeasured_some h
    have hle := weight_of_readExt hbody
    omega

/-- A value is read from as many bytes as it weighs, at any depth. -/
theorem pays_readValue (depth : Nat) : Pays Value.weight (readValue depth) := by
  have hstep : ∀ depth, (∀ item, inner depth = some item → Pays Value.weight item) →
      Pays Value.weight (readValue depth) := by
    intro depth hinner bs v rest h
    cases bs with
    | nil => cases depth <;> cases h
    | cons marker bs =>
      rw [readValue_cons] at h
      obtain ⟨s, hs, h⟩ := Option.bind_eq_some_iff.mp h
      have hle := weight_of_readShaped hinner (sized_of_shape? hs) h
      rw [List.length_cons]
      omega
  induction depth with
  | zero => exact hstep 0 nofun
  | succ depth ih =>
    refine hstep (depth + 1) ?_
    rintro item ⟨⟩
    exact ih

/-- The value at the front of the bytes weighs no more than they are. -/
theorem weight_of_parse? {v : Value} (h : parse? bs = some v) : v.weight ≤ bs.length := by
  obtain ⟨⟨w, rest⟩, hread, he⟩ := Option.map_eq_some_iff.mp h
  cases he
  exact Nat.le_trans (Nat.le_add_right _ _) (pays_readValue maxDepth _ _ _ hread)

end Rendezvous.MessagePack
