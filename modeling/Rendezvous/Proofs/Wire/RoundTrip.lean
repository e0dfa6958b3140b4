import Rendezvous.Proofs.MessagePack.RoundTrip
import Rendezvous.Wire.Decode

/-!
# Messages read back

A message whose texts can be written as MessagePack (`Fits`) is decoded from its bytes as it was
(`decode?_encode` for each direction). A message whose bytes are few has no text that is too long
(`fits_of_length`), so whatever goes into a frame is read back as it was sent.
-/

namespace Rendezvous

open MessagePack (Value Legible legible_str legible_map legible_ofNat legible_ofInt legible_nil
  legible_bool legible_single)
open Wire (fields? strictFields? required optional intIn?)

variable {depth : Nat}

/-! ## Texts that can be written -/

/-- The length of a text can be written in front of it. -/
def MessagePack.FitsText (s : String) : Prop := s.utf8ByteSize < 2 ^ 32

open MessagePack (FitsText)

instance (s : String) : Decidable (FitsText s) := inferInstanceAs (Decidable (_ < _))

/-- Every text of an address can be written. -/
structure Address.Fits (a : Address) : Prop where
  protocol : FitsText a.protocol
  system : FitsText a.system
  host : ∀ h, a.host = some h → FitsText h

/-- Every text of a message to a player can be written. -/
def Downlink.Fits : Downlink → Prop
  | done => True
  | enterBarrier name _ role => FitsText name ∧ ∀ r, role = some r → FitsText r.name
  | failBarrier name role => FitsText name ∧ FitsText role.name
  | barrierResult name _ => FitsText name
  | getAddress node => FitsText node.name
  | addressReply node address => FitsText node.name ∧ address.Fits
  | throttle target _ _ => target.Fits
  | disconnect target _ => target.Fits
  | terminate _ => True

/-- Every text of a message to the conductor can be written. -/
def Uplink.Fits : Uplink → Prop
  | hello name address => FitsText name ∧ address.Fits
  | enterBarrier name _ role => FitsText name ∧ ∀ r, role = some r → FitsText r.name
  | failBarrier name role => FitsText name ∧ FitsText role.name
  | getAddress node => FitsText node.name
  | addressReply node address => FitsText node.name ∧ address.Fits
  | done => True
  | commandFailed reason => FitsText reason

/-! ## Values of parts -/

theorem legible_record {fields : List (String × Value)} (hn : fields.length < 2 ^ 32)
    (h : ∀ f ∈ fields, FitsText f.1 ∧ Legible depth f.2) :
    Legible (depth + 1) (.record fields) := by
  refine legible_map (by rwa [List.length_map]) ?_
  intro e he
  obtain ⟨f, hf, rfl⟩ := List.mem_map.mp he
  exact ⟨legible_str depth (h f hf).1, (h f hf).2⟩

theorem legible_optional {α : Type} {f : α → Value} {a : Option α}
    (h : ∀ x, a = some x → Legible depth (f x)) : Legible depth (.optional f a) := by
  cases a with
  | none => exact legible_nil depth
  | some x => exact h x rfl

theorem Span.legible (d : Span) : Legible (depth + 1) d.toValue := by
  refine legible_record (show 2 < 2 ^ 32 by decide) ?_
  have hs : Legible depth (.ofNat d.secs.toNat) := legible_ofNat depth d.secs.toNat_lt
  have hn : Legible depth (.ofNat d.nanos.val) := legible_ofNat depth (by omega)
  simp [hs, hn]
  decide

theorem Address.legible {a : Address} (h : a.Fits) : Legible (depth + 1) a.toValue := by
  refine legible_record (show 4 < 2 ^ 32 by decide) ?_
  have hp := legible_str depth h.protocol
  have hs := legible_str depth h.system
  have hh : Legible depth (.optional .str a.host) :=
    legible_optional fun host he => legible_str depth (h.host host he)
  have hport : Legible depth (.optional (fun p : UInt16 => .ofNat p.toNat) a.port) :=
    legible_optional fun p _ => legible_ofNat depth (Nat.lt_trans p.toNat_lt (by decide))
  simp [hp, hs, hh, hport]
  decide

theorem Exit.legible (x : Exit) : Legible depth x.toValue := by
  cases x with
  | graceful => exact legible_bool depth true
  | code n =>
    have hlo := n.le_toInt
    have hhi := n.toInt_lt
    exact legible_ofInt depth (by omega) (by omega)

/-! ## Parts read back -/

theorem int?_ofNat (n : Nat) : (Value.ofNat n).int? = some (n : Int) := by
  unfold Value.ofNat
  repeat' split
  all_goals rfl

theorem int?_ofInt (i : Int) : (Value.ofInt i).int? = some i := by
  unfold Value.ofInt
  split
  · rw [int?_ofNat, Int.toNat_of_nonneg (by assumption)]
  · repeat' split
    all_goals rfl

theorem intIn?_ofNat {n : Nat} {hi : Int} (h : n < hi) :
    intIn? 0 hi (.ofNat n) = some (n : Int) := by
  rw [intIn?, int?_ofNat, Option.bind_some, if_pos ⟨Int.natCast_nonneg n, h⟩]

theorem ofNat_ne_nil (n : Nat) : Value.ofNat n ≠ .nil := by
  unfold Value.ofNat
  repeat' split
  all_goals nofun

/-- A value that may be absent is read back if it is not written as nil. -/
theorem optional_of_some {α : Type} {w : α → Value} (read : Value → Option α)
    (h : ∀ a, read (w a) = some a) (hn : ∀ a, w a ≠ .nil) (a : Option α) :
    optional read (some (.optional w a)) = some a := by
  cases a with
  | none => rfl
  | some a =>
    have hsome : ∀ v, v ≠ .nil → optional read (some v) = (read v).map some := by
      intro v hv
      cases v with
      | nil => exact absurd rfl hv
      | bool | uint | sint | single | double | str | bin | arr | map | ext => rfl
    rw [Value.optional, hsome _ (hn a), h, Option.map_some]

theorem Span.ofValue?_toValue (d : Span) : Span.ofValue? d.toValue = some d := by
  have hfields : strictFields? ["secs", "nanos"] d.toValue =
      some [some (.ofNat d.secs.toNat), some (.ofNat d.nanos.val)] := rfl
  have hs : d.secs.toNat < 0x10000000000000000 := d.secs.toNat_lt
  have hn := d.nanos.isLt
  have hsecs : intIn? 0 0x10000000000000000 (.ofNat d.secs.toNat) = some (d.secs.toNat : Int) :=
    intIn?_ofNat (by omega)
  have hnanos : intIn? 0 0x100000000 (.ofNat d.nanos.val) = some (d.nanos.val : Int) :=
    intIn?_ofNat (by omega)
  rw [Span.ofValue?, hfields, Option.bind_some]
  dsimp only [required, Option.bind_eq_bind, Option.bind_some]
  rw [hsecs, Option.bind_some, hnanos, Option.bind_some]
  simp only [Int.toNat_natCast, Nat.div_eq_of_lt hn, Nat.add_zero, if_pos hs,
    Nat.mod_eq_of_lt hn, UInt64.ofNat_toNat]

theorem Address.ofValue?_toValue (a : Address) : Address.ofValue? a.toValue = some a := by
  have hfields : fields? ["protocol", "system", "host", "port"] a.toValue =
      some [some (.str a.protocol), some (.str a.system), some (.optional .str a.host),
        some (.optional (fun p => .ofNat p.toNat) a.port)] := rfl
  have hport : ∀ p : UInt16, Address.port? (.ofNat p.toNat) = some p := fun p => by
    have hp := p.toNat_lt
    rw [Address.port?, intIn?_ofNat (by omega), Option.map_some, Int.toNat_natCast,
      UInt16.ofNat_toNat]
  rw [Address.ofValue?, hfields, Option.bind_some]
  dsimp only [required, Value.text?, Option.bind_eq_bind, Option.bind_some]
  rw [optional_of_some (w := .str) Value.text? (fun _ => rfl) fun _ => nofun,
    optional_of_some Address.port? hport fun p => ofNat_ne_nil p.toNat]
  rfl

theorem Direction.ofValue?_toValue (d : Direction) : Direction.ofValue? d.toValue = some d := by
  cases d <;> rfl

theorem Exit.ofValue?_toValue (x : Exit) : Exit.ofValue? x.toValue = some x := by
  cases x with
  | graceful => rfl
  | code n =>
    have hlo := n.le_toInt
    have hhi := n.toInt_lt
    have hint : intIn? (-0x80000000) 0x80000000 (.ofInt n.toInt) = some n.toInt := by
      rw [intIn?, int?_ofInt, Option.bind_some, if_pos ⟨hlo, hhi⟩]
    -- a number is never `true`
    have hcode : Exit.ofValue? (.ofInt n.toInt) =
        (intIn? (-0x80000000) 0x80000000 (.ofInt n.toInt)).map fun n => .code (Int32.ofInt n) := by
      unfold Value.ofInt Value.ofNat
      repeat' split
      all_goals rfl
    exact hcode.trans (by rw [hint, Option.map_some, Int32.ofInt_toInt])

/-! ## Lengths -/

theorem utf8ByteSize_le_print (s : String) : s.utf8ByteSize ≤ (Value.str s).print.length := by
  have hbytes : s.toUTF8.data.toList.length = s.utf8ByteSize := rfl
  rw [Value.print, List.length_append, hbytes]
  exact Nat.le_add_left _ _

/-- A field takes no more bytes than its record. -/
theorem length_print_of_mem {fields : List (String × Value)} {f : String × Value}
    (h : f ∈ fields) : f.2.print.length ≤ (Value.record fields).print.length := by
  have hentries : f.2.print.length ≤
      (MessagePack.printEntries (fields.map fun f => (Value.str f.1, f.2))).length := by
    induction fields with
    | nil => cases h
    | cons g fields ih =>
      rw [List.map_cons, MessagePack.printEntries, List.length_append, List.length_append]
      rcases List.mem_cons.mp h with rfl | h
      · omega
      · have hrest := ih h
        omega
  rw [Value.record, Value.print, List.length_append]
  exact Nat.le_trans hentries (Nat.le_add_left _ _)

theorem fitsText_of_print {s : String} {n : Nat} (h : (Value.str s).print.length ≤ n)
    (hn : n < 2 ^ 32) : FitsText s :=
  Nat.lt_of_le_of_lt (Nat.le_trans (utf8ByteSize_le_print s) h) hn

theorem Address.fits_of_print {a : Address} (h : a.toValue.print.length < 2 ^ 32) : a.Fits := by
  have hfield := fun f (hf : f ∈ _) => Nat.lt_of_le_of_lt (length_print_of_mem (f := f) hf) h
  refine ⟨?_, ?_, ?_⟩
  · exact fitsText_of_print (Nat.le_refl _) (hfield ("protocol", .str a.protocol) (by simp))
  · exact fitsText_of_print (Nat.le_refl _) (hfield ("system", .str a.system) (by simp))
  · intro host hh
    have hhost := hfield ("host", .optional .str a.host) (by simp)
    rw [hh] at hhost
    exact fitsText_of_print (Nat.le_refl _) hhost

/-! ## Messages -/

/-- The fields of a message are legible one level below the message. -/
theorem legible_taggedRecord {kind : String} {fields : List (String × Value)}
    (hk : FitsText kind) (hn : fields.length ≤ 3)
    (h : ∀ f ∈ fields, FitsText f.1 ∧ Legible depth f.2) :
    Legible (depth + 1) (taggedRecord kind fields) := by
  refine legible_record (by rw [List.length_cons]; omega) ?_
  intro f hf
  rcases List.mem_cons.mp hf with rfl | hf
  · exact ⟨show FitsText "type" by decide, legible_str depth hk⟩
  · exact h f hf

theorem legible_role {r : Role} (h : FitsText r.name) : Legible depth r.toValue :=
  legible_str depth h

theorem enterBarrier?_record {α : Type} (f : String → Option Span → Option Role → α)
    (name : String) (timeout : Option Span) (role : Option Role) :
    enterBarrier? f (.record [("name", .str name), ("timeout", .optional Span.toValue timeout),
      ("role", .optional Role.toValue role)]) = some (f name timeout role) := by
  have htimeout := optional_of_some Span.ofValue? Span.ofValue?_toValue (fun _ => nofun) timeout
  have hrole := optional_of_some (w := Role.toValue) Role.ofValue? (fun _ => rfl)
    (fun _ => nofun) role
  have hfields : fields? ["name", "timeout", "role"] (.record [("name", .str name),
      ("timeout", .optional Span.toValue timeout), ("role", .optional Role.toValue role)]) =
      some [some (.str name), some (.optional Span.toValue timeout),
        some (.optional Role.toValue role)] := rfl
  rw [enterBarrier?, hfields, Option.bind_some]
  dsimp only [required, Value.text?, Option.bind_eq_bind, Option.bind_some]
  rw [htimeout, hrole]
  rfl

namespace Downlink

theorem fitsText_kind (m : Downlink) : FitsText m.kind := by cases m <;> simp only [kind] <;> decide

theorem length_fields_le (m : Downlink) : m.fields.length ≤ 3 := by cases m <;> simp [fields]

theorem legible {m : Downlink} (h : m.Fits) : Legible (depth + 2) m.toValue := by
  have hnames : ∀ f ∈ m.fields, FitsText f.1 := by cases m <;> simp [fields] <;> decide
  refine legible_taggedRecord m.fitsText_kind m.length_fields_le fun f hf => ⟨hnames f hf, ?_⟩
  revert f
  cases m with
  | done => exact fun f hf => absurd hf List.not_mem_nil
  | enterBarrier name timeout role =>
    have htimeout : Legible (depth + 1) (.optional Span.toValue timeout) :=
      legible_optional fun d _ => d.legible
    have hrole : Legible (depth + 1) (.optional Role.toValue role) :=
      legible_optional fun r hr => legible_role (h.2 r hr)
    simp [fields, legible_str _ h.1, htimeout, hrole]
  | failBarrier name role => simp [fields, legible_str _ h.1, legible_role h.2]
  | barrierResult name success => simp [fields, legible_str _ h, legible_bool]
  | getAddress node => simp [fields, legible_role h]
  | addressReply node address => simp [fields, legible_role h.1, Address.legible h.2]
  | throttle target direction rate =>
    have hdirection : Legible (depth + 1) direction.toValue :=
      legible_str _ (by cases direction <;> decide)
    have hrate : Legible (depth + 1) rate.toValue := legible_single _ rate.bits
    simp [fields, Address.legible h, hdirection, hrate]
  | disconnect target abort => simp [fields, Address.legible h, legible_bool]
  | terminate exit => simp [fields, exit.legible]

/-- A message is told by its kind. -/
theorem variant?_toValue (m : Downlink) :
    Wire.variant? kinds m.toValue = some (kinds.idxOf m.kind, .record m.fields) := by
  cases m <;> rfl

theorem ofValue?_toValue (m : Downlink) : ofValue? m.toValue = some m := by
  rw [ofValue?, variant?_toValue, Option.bind_some]
  cases m with
  | done | failBarrier | barrierResult | getAddress => rfl
  | enterBarrier name timeout role => exact enterBarrier?_record enterBarrier name timeout role
  | addressReply node address =>
    show (Address.ofValue? address.toValue).bind _ = _
    rw [Address.ofValue?_toValue]
    rfl
  | throttle target direction rate =>
    show (Address.ofValue? target.toValue).bind _ = _
    rw [Address.ofValue?_toValue, Option.bind_some]
    show (Direction.ofValue? direction.toValue).bind _ = _
    rw [Direction.ofValue?_toValue]
    rfl
  | disconnect target abort =>
    show (Address.ofValue? target.toValue).bind _ = _
    rw [Address.ofValue?_toValue]
    rfl
  | terminate exit =>
    show (Exit.ofValue? exit.toValue).map _ = _
    rw [Exit.ofValue?_toValue]
    rfl

/-- A message to a player that can be written is read back. -/
theorem decode?_encode {m : Downlink} (h : m.Fits) : decode? m.encode = some m := by
  have hlegible : Legible MessagePack.maxDepth m.toValue := legible h
  have hread := hlegible []
  rw [List.append_nil] at hread
  rw [decode?, encode, MessagePack.parse?, hread, Option.map_some, Option.bind_some,
    ofValue?_toValue]

theorem length_field {m : Downlink} {f : String × Value} (h : f ∈ m.fields) :
    f.2.print.length ≤ m.encode.length :=
  length_print_of_mem (List.mem_cons_of_mem ("type", .str m.kind) h)

/-- A message of few bytes can be written. -/
theorem fits_of_length {m : Downlink} (h : m.encode.length < 2 ^ 32) : m.Fits := by
  have hfield : ∀ f ∈ m.fields, f.2.print.length < 2 ^ 32 := fun f hf =>
    Nat.lt_of_le_of_lt (length_field hf) h
  have htext : ∀ s k, (k, Value.str s) ∈ m.fields → FitsText s := fun s k hf =>
    fitsText_of_print (Nat.le_refl _) (hfield _ hf)
  cases m with
  | done | terminate => trivial
  | enterBarrier name timeout role =>
    have hrole : ∀ r, role = some r → FitsText r.name := by
      rintro r rfl
      exact htext r.name "role" (by simp [fields, Value.optional, Role.toValue])
    exact ⟨htext name "name" (by simp [fields]), hrole⟩
  | failBarrier name role =>
    exact ⟨htext name "name" (by simp [fields]),
      htext role.name "role" (by simp [fields, Role.toValue])⟩
  | barrierResult name success => exact htext name "name" (by simp [fields])
  | getAddress node => exact htext node.name "node" (by simp [fields, Role.toValue])
  | addressReply node address =>
    exact ⟨htext node.name "node" (by simp [fields, Role.toValue]),
      Address.fits_of_print (hfield ("address", address.toValue) (by simp [fields]))⟩
  | throttle target direction rate =>
    exact Address.fits_of_print (hfield ("target", target.toValue) (by simp [fields]))
  | disconnect target abort =>
    exact Address.fits_of_print (hfield ("target", target.toValue) (by simp [fields]))

end Downlink

namespace Uplink

theorem fitsText_kind (m : Uplink) : FitsText m.kind := by cases m <;> simp only [kind] <;> decide

theorem length_fields_le (m : Uplink) : m.fields.length ≤ 3 := by cases m <;> simp [fields]

theorem legible {m : Uplink} (h : m.Fits) : Legible (depth + 2) m.toValue := by
  have hnames : ∀ f ∈ m.fields, FitsText f.1 := by cases m <;> simp [fields] <;> decide
  refine legible_taggedRecord m.fitsText_kind m.length_fields_le fun f hf => ⟨hnames f hf, ?_⟩
  revert f
  cases m with
  | done => exact fun f hf => absurd hf List.not_mem_nil
  | hello name address => simp [fields, legible_str _ h.1, Address.legible h.2]
  | enterBarrier name timeout role =>
    have htimeout : Legible (depth + 1) (.optional Span.toValue timeout) :=
      legible_optional fun d _ => d.legible
    have hrole : Legible (depth + 1) (.optional Role.toValue role) :=
      legible_optional fun r hr => legible_role (h.2 r hr)
    simp [fields, legible_str _ h.1, htimeout, hrole]
  | failBarrier name role => simp [fields, legible_str _ h.1, legible_role h.2]
  | getAddress node => simp [fields, legible_role h]
  | addressReply node address => simp [fields, legible_role h.1, Address.legible h.2]
  | commandFailed reason => simp [fields, legible_str _ h]

/-- A message is told by its kind. -/
theorem variant?_toValue (m : Uplink) :
    Wire.variant? kinds m.toValue = some (kinds.idxOf m.kind, .record m.fields) := by
  cases m <;> rfl

theorem ofValue?_toValue (m : Uplink) : ofValue? m.toValue = some m := by
  rw [ofValue?, variant?_toValue, Option.bind_some]
  cases m with
  | done | failBarrier | getAddress | commandFailed => rfl
  | enterBarrier name timeout role => exact enterBarrier?_record enterBarrier name timeout role
  | hello name address | addressReply node address =>
    show (Address.ofValue? address.toValue).bind _ = _
    rw [Address.ofValue?_toValue]
    rfl

/-- A message to the conductor that can be written is read back. -/
theorem decode?_encode {m : Uplink} (h : m.Fits) : decode? m.encode = some m := by
  have hlegible : Legible MessagePack.maxDepth m.toValue := legible h
  have hread := hlegible []
  rw [List.append_nil] at hread
  rw [decode?, encode, MessagePack.parse?, hread, Option.map_some, Option.bind_some,
    ofValue?_toValue]

theorem length_field {m : Uplink} {f : String × Value} (h : f ∈ m.fields) :
    f.2.print.length ≤ m.encode.length :=
  length_print_of_mem (List.mem_cons_of_mem ("type", .str m.kind) h)

/-- A message of few bytes can be written. -/
theorem fits_of_length {m : Uplink} (h : m.encode.length < 2 ^ 32) : m.Fits := by
  have hfield : ∀ f ∈ m.fields, f.2.print.length < 2 ^ 32 := fun f hf =>
    Nat.lt_of_le_of_lt (length_field hf) h
  have htext : ∀ s k, (k, Value.str s) ∈ m.fields → FitsText s := fun s k hf =>
    fitsText_of_print (Nat.le_refl _) (hfield _ hf)
  cases m with
  | done => trivial
  | hello name address =>
    exact ⟨htext name "name" (by simp [fields]),
      Address.fits_of_print (hfield ("address", address.toValue) (by simp [fields]))⟩
  | enterBarrier name timeout role =>
    have hrole : ∀ r, role = some r → FitsText r.name := by
      rintro r rfl
      exact htext r.name "role" (by simp [fields, Value.optional, Role.toValue])
    exact ⟨htext name "name" (by simp [fields]), hrole⟩
  | failBarrier name role =>
    exact ⟨htext name "name" (by simp [fields]),
      htext role.name "role" (by simp [fields, Role.toValue])⟩
  | getAddress node => exact htext node.name "node" (by simp [fields, Role.toValue])
  | addressReply node address =>
    exact ⟨htext node.name "node" (by simp [fields, Role.toValue]),
      Address.fits_of_print (hfield ("address", address.toValue) (by simp [fields]))⟩
  | commandFailed reason => exact htext reason "reason" (by simp [fields])

end Uplink

end Rendezvous
