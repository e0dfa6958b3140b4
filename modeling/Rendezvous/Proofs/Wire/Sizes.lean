import Rendezvous.Proofs.MessagePack.Sizes
import Rendezvous.Proofs.Wire.RoundTrip
import Rendezvous.Wire.Frame

/-!
# How long messages are

A message that tells an address is written with the name of each field, while the greeting it was
announced in may be an array without names. So the message can be longer than the greeting was, and
never by more than the names it needs (`sizes_of_greeting`).
-/

namespace Rendezvous

open MessagePack (Value textWeight itemsWeight entriesWeight)

/-! ## Fields of a record -/

namespace Wire

variable {names : List String} {v : Value} {slots slots' : List (Option Value)}

/-- What a field takes in a record, with this much for its key. -/
def slotWeight (key : Nat) : Option Value → Nat
  | none => 0
  | some v => key + v.weight

/-- What the fields of a record take, with this much for each key. -/
def slotsWeight (key : Nat) (slots : List (Option Value)) : Nat := (slots.map (slotWeight key)).sum

theorem slotsWeight_fill {i : Nat} (h : fill slots i v = some slots') :
    slotsWeight 1 slots' = slotsWeight 1 slots + (1 + v.weight) := by
  induction slots generalizing i slots' with
  | nil => cases h
  | cons x rest ih =>
    cases i with
    | zero =>
      cases x with
      | some w => cases h
      | none =>
        cases h
        simp [slotsWeight, slotWeight, Nat.add_comm]
    | succ i =>
      have hfill : ∃ rest', fill rest i v = some rest' ∧ slots' = x :: rest' := by
        unfold fill at h ⊢
        rw [List.getElem?_cons_succ] at h
        split at h
        · next hfree =>
          cases h
          exact ⟨_, rfl, rfl⟩
        · cases h
      obtain ⟨rest', hrest, rfl⟩ := hfill
      have hsum := ih hrest
      simp only [slotsWeight, List.map_cons, List.sum_cons] at hsum ⊢
      omega

theorem slotsWeight_fillAll {key : Value → Option Key} {entries : List (Value × Value)}
    (h : fillAll key entries slots = some slots') :
    slotsWeight 1 slots' ≤ slotsWeight 1 slots + entriesWeight entries := by
  induction entries generalizing slots with
  | nil =>
    cases h
    exact Nat.le_add_right _ _
  | cons e rest ih =>
    obtain ⟨k, v⟩ := e
    have hkey := k.one_le_weight
    rw [entriesWeight]
    unfold fillAll at h
    split at h
    · obtain ⟨mid, hfill, hrest⟩ := Option.bind_eq_some_iff.mp h
      have hle := ih hrest
      rw [slotsWeight_fill hfill] at hle
      omega
    · have hle := ih h
      omega
    · cases h

theorem slotsWeight_replicate (n : Nat) : slotsWeight 1 (List.replicate n none) = 0 := by
  simp [slotsWeight, slotWeight]

/-- In an array every field is there and has no key; in a map each field that is there has one. -/
theorem slotsWeight_of_fields? (h : fields? names v = some slots) :
    ((∀ x ∈ slots, x.isSome) ∧ 1 + slotsWeight 0 slots ≤ v.weight) ∨
      1 + slotsWeight 1 slots ≤ v.weight := by
  unfold fields? slots? at h
  split at h
  · next items =>
    split at h
    · cases h
      refine Or.inl ⟨by simp, ?_⟩
      show 1 + _ ≤ 1 + itemsWeight items
      rw [MessagePack.itemsWeight_eq, slotsWeight, List.map_map]
      exact Nat.le_of_eq (congrArg (1 + ·.sum) (List.map_congr_left fun v _ => Nat.zero_add _))
    · cases h
  · next entries =>
    have hle := slotsWeight_fillAll h
    rw [slotsWeight_replicate, Nat.zero_add] at hle
    exact Or.inr (Nat.add_le_add_left hle 1)
  · cases h

theorem entriesWeight_filter (p : Value × Value → Bool) (entries : List (Value × Value)) :
    entriesWeight (entries.filter p) + entriesWeight (entries.filter fun e => !p e) =
      entriesWeight entries := by
  induction entries with
  | nil => rfl
  | cons e rest ih =>
    obtain ⟨k, v⟩ := e
    cases hp : p (k, v) with
    | true =>
      rw [List.filter_cons_of_pos hp, List.filter_cons_of_neg (by simp [hp]), entriesWeight,
        entriesWeight, ← ih, Nat.add_assoc]
    | false =>
      rw [List.filter_cons_of_neg (by simp [hp]), List.filter_cons_of_pos (by simp [hp]),
        entriesWeight, entriesWeight, ← ih, Nat.add_left_comm]

/-- A message has its kind besides its fields. -/
theorem weight_of_variant? {kinds : List String} {i : Nat} {body : Value}
    (h : variant? kinds v = some (i, body)) : 1 + body.weight ≤ v.weight := by
  unfold variant? at h
  split at h
  · next tag items =>
    obtain ⟨_, -, he⟩ := Option.map_eq_some_iff.mp h
    cases he
    have htag := tag.one_le_weight
    simp only [Value.weight, itemsWeight]
    omega
  · next entries =>
    split at h
    · next k tag hfilter =>
      obtain ⟨_, -, he⟩ := Option.map_eq_some_iff.mp h
      cases he
      have hsum := entriesWeight_filter (fun e => isTagKey e.1) entries
      have htag := tag.one_le_weight
      rw [hfilter] at hsum
      simp only [Value.weight, entriesWeight] at hsum ⊢
      omega
    · cases h
  · cases h

end Wire

open Wire (fields? required slotWeight slotsWeight)

/-! ## Values of fields -/

/-- The bytes of a text. -/
def textSize (s : String) : Nat := textWeight s.utf8ByteSize

theorem length_print_str (s : String) : (Value.str s).print.length = textSize s := by
  rw [Value.print, List.length_append]
  rfl

theorem weight_of_text? {v : Value} {s : String} (h : v.text? = some s) :
    v.weight = textSize s := by
  cases v with
  | str t =>
    cases h
    rfl
  | bin bytes =>
    have hsize := MessagePack.utf8ByteSize_of_fromUTF8? h
    rw [textSize, hsize]
    rfl
  | _ => cases h

theorem required_some {α : Type} {read : Value → Option α} {slot : Option Value} {a : α}
    (h : required read slot = some a) : ∃ v, slot = some v ∧ read v = some a :=
  Option.bind_eq_some_iff.mp h

/-- A field that may be absent takes as much as it takes when it is written, or is left out. -/
theorem slotWeight_of_optional {α : Type} {read : Value → Option α} {w : α → Value}
    (hread : ∀ {v a}, read v = some a → (w a).print.length ≤ v.weight) {slot : Option Value}
    {a : Option α} (h : Wire.optional read slot = some a) (key : Nat) :
    (slot = none ∧ (Value.optional w a).print.length = 1) ∨
      key + (Value.optional w a).print.length ≤ slotWeight key slot := by
  unfold Wire.optional at h
  split at h
  · cases h
    exact Or.inl ⟨rfl, rfl⟩
  · cases h
    exact Or.inr (Nat.le_refl _)
  · next v _ =>
    obtain ⟨b, hb, rfl⟩ := Option.map_eq_some_iff.mp h
    exact Or.inr (Nat.add_le_add_left (hread hb) key)

theorem weight_of_port? {v : Value} {p : UInt16} (h : Address.port? v = some p) :
    (Value.ofNat p.toNat).print.length ≤ v.weight := by
  obtain ⟨i, hi, rfl⟩ := Option.map_eq_some_iff.mp h
  obtain ⟨j, hj, hrange⟩ := Option.bind_eq_some_iff.mp hi
  split at hrange
  · next hin =>
    cases hrange
    have hport : (UInt16.ofNat i.toNat).toNat = i.toNat := by
      rw [UInt16.toNat_ofNat', Nat.mod_eq_of_lt (by omega)]
    rw [hport]
    cases v with
    | uint w n =>
      cases hj
      exact Nat.le_refl _
    | sint w j =>
      cases hj
      exact Nat.le_refl _
    | _ => cases hj
  · cases hrange

/-- A short record takes a byte more than its fields and their names. -/
theorem length_print_record {fields : List (String × Value)} (hn : fields.length < 16) :
    (Value.record fields).print.length =
      1 + (fields.map fun f => textSize f.1 + f.2.print.length).sum := by
  have hentries : (MessagePack.printEntries (fields.map fun f => (Value.str f.1, f.2))).length =
      (fields.map fun f => textSize f.1 + f.2.print.length).sum := by
    clear hn
    induction fields with
    | nil => rfl
    | cons f rest ih =>
      rw [List.map_cons, MessagePack.printEntries, List.length_append, List.length_append, ih,
        length_print_str, List.map_cons, List.sum_cons, Nat.add_assoc]
  rw [Value.record, Value.print, List.length_append, List.length_map, MessagePack.mapHeader,
    if_pos hn]
  exact congrArg (1 + ·) hentries

/-! ## Addresses -/

namespace Address

/-- The bytes of the fields of an address, without their names. -/
def size (a : Address) : Nat :=
  textSize a.protocol + textSize a.system + (Value.optional .str a.host).print.length +
    (Value.optional (fun p => .ofNat p.toNat) a.port).print.length

/-- An address that was read stood in a byte more than its fields take. -/
theorem size_of_ofValue? {v : Value} {a : Address} (h : ofValue? v = some a) :
    1 + a.size ≤ v.weight := by
  obtain ⟨slots, hslots, h⟩ := Option.bind_eq_some_iff.mp h
  split at h
  · next protocol system host port =>
    obtain ⟨p, hp, h⟩ := Option.bind_eq_some_iff.mp h
    obtain ⟨s, hs, h⟩ := Option.bind_eq_some_iff.mp h
    obtain ⟨hostText, hh, h⟩ := Option.bind_eq_some_iff.mp h
    obtain ⟨portNumber, hn, h⟩ := Option.bind_eq_some_iff.mp h
    cases h
    obtain ⟨vp, rfl, hp⟩ := required_some hp
    obtain ⟨vs, rfl, hs⟩ := required_some hs
    have hprotocol := weight_of_text? hp
    have hsystem := weight_of_text? hs
    have hhost := slotWeight_of_optional (w := .str)
      (fun {v a} h => Nat.le_of_eq ((length_print_str a).trans (weight_of_text? h).symm)) hh
    have hport := slotWeight_of_optional (w := fun p : UInt16 => .ofNat p.toNat)
      weight_of_port? hn
    unfold size
    dsimp only
    rcases Wire.slotsWeight_of_fields? hslots with ⟨hall, hle⟩ | hle
    · -- all fields are there
      have hhost := (hhost 0).resolve_left fun h => by simp [h.1] at hall
      have hport := (hport 0).resolve_left fun h => by simp [h.1] at hall
      simp only [slotsWeight, List.map_cons, List.map_nil, List.sum_cons, List.sum_nil] at hle
      simp only [slotWeight] at hle hhost hport
      omega
    · -- the keys of protocol and system make up for a host and a port that are left out
      have hhost := hhost 1
      have hport := hport 1
      simp only [slotsWeight, List.map_cons, List.map_nil, List.sum_cons, List.sum_nil] at hle
      simp only [slotWeight] at hle hhost hport
      omega
  · cases h

theorem length_print (a : Address) : a.toValue.print.length = 27 + a.size := by
  have hnames : textSize "protocol" = 9 ∧ textSize "system" = 7 ∧ textSize "host" = 5 ∧
    textSize "port" = 5 := by decide
  obtain ⟨hprotocol, hsystem, hhost, hport⟩ := hnames
  rw [toValue, length_print_record (by simp)]
  simp only [List.map_cons, List.map_nil, List.sum_cons, List.sum_nil, length_print_str, size,
    hprotocol, hsystem, hhost, hport]
  omega

end Address

/-! ## Messages -/

variable {name : String} {address : Address} {body : List UInt8}

/-- The bytes of a message are those of its kind and its fields, with their names. -/
theorem length_print_taggedRecord {kind : String} {fields : List (String × Value)}
    (hn : fields.length ≤ 3) : (taggedRecord kind fields).print.length =
      6 + textSize kind + (fields.map fun f => textSize f.1 + f.2.print.length).sum := by
  have htype : textSize "type" = 5 := by decide
  rw [taggedRecord, length_print_record (by rw [List.length_cons]; omega), List.map_cons,
    List.sum_cons, length_print_str, htype]
  omega

theorem Downlink.length_addressReply (node : Role) (address : Address) :
    (addressReply node address).encode.length = 59 + textSize node.name + address.size := by
  have hnames : textSize "AddressReply" = 13 ∧ textSize "node" = 5 ∧ textSize "address" = 8 := by
    decide
  obtain ⟨hkind, hnode, haddress⟩ := hnames
  rw [encode, toValue, length_print_taggedRecord (by simp [fields])]
  simp only [kind, fields, Role.toValue, List.map_cons, List.map_nil, List.sum_cons, List.sum_nil,
    length_print_str, address.length_print, hkind, hnode, haddress]
  omega

theorem Downlink.length_throttle (target : Address) (direction : Direction) (rate : Single) :
    (throttle target direction rate).encode.length =
      74 + textSize direction.name + target.size := by
  have hnames : textSize "Throttle" = 9 ∧ textSize "target" = 7 ∧ textSize "direction" = 10 ∧
    textSize "rate_mbit" = 10 := by decide
  obtain ⟨hkind, htarget, hdirection, hrate⟩ := hnames
  have hbits : rate.toValue.print.length = 5 := rfl
  rw [encode, toValue, length_print_taggedRecord (by simp [fields])]
  simp only [kind, fields, Direction.toValue, List.map_cons, List.map_nil, List.sum_cons,
    List.sum_nil, length_print_str, target.length_print, hkind, htarget, hdirection, hrate, hbits]
  omega

theorem Downlink.length_disconnect (target : Address) (abort : Bool) :
    (disconnect target abort).encode.length = 58 + target.size := by
  have hnames : textSize "Disconnect" = 11 ∧ textSize "target" = 7 ∧ textSize "abort" = 6 := by
    decide
  obtain ⟨hkind, htarget, habort⟩ := hnames
  have hflag : (Value.bool abort).print.length = 1 := by cases abort <;> rfl
  rw [encode, toValue, length_print_taggedRecord (by simp [fields])]
  simp only [kind, fields, List.map_cons, List.map_nil, List.sum_cons, List.sum_nil,
    target.length_print, hkind, htarget, habort, hflag]
  omega

/-- A greeting as a player writes it is seven bytes shorter than the answers that tell of it. -/
theorem Uplink.length_hello (name : String) (address : Address) :
    (hello name address).encode.length = 52 + textSize name + address.size := by
  have hnames : textSize "Hello" = 6 ∧ textSize "name" = 5 ∧ textSize "address" = 8 := by decide
  obtain ⟨hkind, hname, haddress⟩ := hnames
  rw [encode, toValue, length_print_taggedRecord (by simp [fields])]
  simp only [kind, fields, List.map_cons, List.map_nil, List.sum_cons, List.sum_nil,
    length_print_str, address.length_print, hkind, hname, haddress]
  omega

/-- A reader takes no body that is longer than its limit. -/
theorem Frame.length_le_of_read {limit : Nat} {stream rest : List UInt8}
    (h : read limit stream = (.ok body, rest)) : body.length ≤ limit := by
  unfold read at h
  split at h
  · cases h
  · split at h
    · cases h
    · next hle =>
      split at h
      · cases h
      · next htake =>
        cases h
        rw [(MessagePack.eq_of_takeBytes htake).2]
        exact Nat.le_of_not_lt hle

/-- What a record of two fields is read as. -/
theorem record₂?_some {α β γ : Type} {name₁ name₂ : String} {read₁ : Value → Option α}
    {read₂ : Value → Option β} {f : α → β → γ} {v : Value} {c : γ}
    (h : record₂? name₁ read₁ name₂ read₂ f v = some c) : ∃ x y a b,
      fields? [name₁, name₂] v = some [some x, some y] ∧ read₁ x = some a ∧ read₂ y = some b ∧
        c = f a b := by
  obtain ⟨slots, hslots, h⟩ := Option.bind_eq_some_iff.mp h
  split at h
  · obtain ⟨a, ha, h⟩ := Option.bind_eq_some_iff.mp h
    obtain ⟨b, hb, h⟩ := Option.bind_eq_some_iff.mp h
    cases h
    obtain ⟨x, rfl, ha⟩ := required_some ha
    obtain ⟨y, rfl, hb⟩ := required_some hb
    exact ⟨x, y, a, b, hslots, ha, hb, rfl⟩
  · cases h

theorem record₁?_some {α β : Type} {name : String} {read : Value → Option α} {f : α → β}
    {v : Value} {c : β} (h : record₁? name read f v = some c) : ∃ a, c = f a := by
  obtain ⟨slots, -, h⟩ := Option.bind_eq_some_iff.mp h
  split at h
  · obtain ⟨a, -, rfl⟩ := Option.map_eq_some_iff.mp h
    exact ⟨a, rfl⟩
  · cases h

theorem enterBarrier?_some {α : Type} {f : String → Option Span → Option Role → α} {v : Value}
    {c : α} (h : enterBarrier? f v = some c) : ∃ name timeout role, c = f name timeout role := by
  obtain ⟨slots, -, h⟩ := Option.bind_eq_some_iff.mp h
  split at h
  · obtain ⟨name, -, h⟩ := Option.bind_eq_some_iff.mp h
    obtain ⟨timeout, -, h⟩ := Option.bind_eq_some_iff.mp h
    obtain ⟨role, -, h⟩ := Option.bind_eq_some_iff.mp h
    cases h
    exact ⟨name, timeout, role, rfl⟩
  · cases h

theorem bare?_some {α : Type} {a c : α} {v : Value} (h : bare? a v = some c) : c = a := by
  unfold bare? at h
  split at h <;> cases h
  all_goals rfl

/-- Of the records behind a kind only one makes a greeting. -/
theorem Uplink.record_of_hello {v : Value} (h : ofValue? v = some (hello name address)) :
    ∃ i record, Wire.variant? kinds v = some (i, record) ∧
      record₂? "name" Value.text? "address" Address.ofValue? hello record =
        some (hello name address) := by
  obtain ⟨⟨i, record⟩, hvariant, h⟩ := Option.bind_eq_some_iff.mp h
  refine ⟨i, record, hvariant, ?_⟩
  dsimp only at h
  split at h
  · exact h
  · obtain ⟨_, _, _, he⟩ := enterBarrier?_some h
    cases he
  · obtain ⟨_, _, _, _, -, -, -, he⟩ := record₂?_some h
    cases he
  · obtain ⟨_, he⟩ := record₁?_some h
    cases he
  · obtain ⟨_, _, _, _, -, -, -, he⟩ := record₂?_some h
    cases he
  · cases bare?_some h
  · obtain ⟨_, he⟩ := record₁?_some h
    cases he
  · cases h

/-- However a greeting was written, it took three bytes more than what it says. -/
theorem Uplink.size_of_hello (h : ofBody body = .ok (hello name address)) :
    3 + textSize name + address.size ≤ body.length := by
  have hdecode : decode? body = some (hello name address) := by
    unfold ofBody at h
    split at h
    · next hm =>
      cases h
      exact hm
    · cases h
  obtain ⟨v, hv, hmessage⟩ := Option.bind_eq_some_iff.mp hdecode
  obtain ⟨i, record, hvariant, hrecord⟩ := record_of_hello hmessage
  obtain ⟨x, y, a, b, hslots, hname, haddress, he⟩ := record₂?_some hrecord
  cases he
  have hbody := MessagePack.weight_of_parse? hv
  have hkind := Wire.weight_of_variant? hvariant
  have htext := weight_of_text? hname
  have hsize := Address.size_of_ofValue? haddress
  have hsum : 1 + (x.weight + y.weight) ≤ record.weight := by
    rcases Wire.slotsWeight_of_fields? hslots with ⟨-, hle⟩ | hle <;>
      simp only [slotsWeight, slotWeight, List.map_cons, List.map_nil, List.sum_cons,
        List.sum_nil] at hle <;> omega
  omega

theorem two_le_textSize (h : name ≠ "") : 2 ≤ textSize name := by
  have hheader := MessagePack.length_strHeader_pos name.utf8ByteSize
  have hbytes : name.utf8ByteSize ≠ 0 := fun hzero => h (String.utf8ByteSize_eq_zero_iff.mp hzero)
  show 2 ≤ (MessagePack.strHeader name.utf8ByteSize).length + name.utf8ByteSize
  omega

/-- Whatever names an announced address to others is not much longer than the greeting was. -/
theorem sizes_of_greeting (hname : name ≠ "")
    (h : Uplink.ofBody body = .ok (.hello name address)) :
    (Downlink.addressReply ⟨name⟩ address).encode.length ≤ body.length + 56 ∧
    (∀ direction rate,
      (Downlink.throttle address direction rate).encode.length ≤ body.length + 77) ∧
    ∀ abort, (Downlink.disconnect address abort).encode.length ≤ body.length + 53 := by
  have hsize := Uplink.size_of_hello h
  have htext := two_le_textSize hname
  refine ⟨?_, ?_, ?_⟩
  · rw [Downlink.length_addressReply]
    show 59 + textSize name + _ ≤ _
    omega
  · intro direction rate
    have hdirection : textSize direction.name ≤ 8 := by cases direction <;> decide
    rw [Downlink.length_throttle]
    omega
  · intro abort
    rw [Downlink.length_disconnect]
    omega

end Rendezvous
