import Mathlib.Data.List.Infix
import Rendezvous.Node.Address
import Rendezvous.Proofs.Text.Cuts
import Rendezvous.Proofs.Text.Numerals

/-!
# Texts of addresses

A text is an address if it can be spelled `P://S` or `P://S@H:N` (`Spelling`), where `P` is free of
`://`, `S` is free of `@` and `N` is a port (`PortNumeral`). There is one way to spell it at most,
and it says what is read (`texts_spelled`). Nothing is escaped, so the text of an address is read
as this address just if it is spelled by its fields (`parse_text_eq_ok_iff`).
-/

namespace Rendezvous.Address

/-! ## Ports -/

/-- A port as it may be written: an optional `+` and the digits of a number up to 65535. -/
@[ext]
structure PortNumeral where
  plus : Bool
  digits : List Char
  nonempty : digits ≠ []
  decimal : ∀ c ∈ digits, c.isDigit = true
  small : Nat.ofDigitChars 10 digits 0 ≤ 65535

namespace PortNumeral

/-- The characters of the numeral. -/
def chars (n : PortNumeral) : List Char := if n.plus then '+' :: n.digits else n.digits

/-- The port that the numeral says. -/
def port (n : PortNumeral) : UInt16 := UInt16.ofNat (Nat.ofDigitChars 10 n.digits 0)

/-- The canonical numeral of a port: no sign and no leading zeros. -/
def ofPort (p : UInt16) : PortNumeral where
  plus := false
  digits := Nat.toDigits 10 p.toNat
  nonempty := Nat.toDigits_ne_nil
  decimal _ hc := Nat.isDigit_of_mem_toDigits (by decide) (by decide) hc
  small := by
    rw [Nat.ofDigitChars_ten_toDigits]
    exact Nat.le_of_lt_succ p.toNat_lt

@[simp] theorem port_ofPort (p : UInt16) : (ofPort p).port = p := by
  simp [port, ofPort, Nat.ofDigitChars_ten_toDigits]

theorem chars_ofPort (p : UInt16) : (ofPort p).chars = Decimal.digits p.toNat :=
  (Decimal.digits_eq_toDigits p.toNat).symm

variable {n n' : PortNumeral} {c : Char}

theorem notMem_digits (h : c.isDigit = false) : c ∉ n.digits := fun hc => by
  rw [n.decimal c hc] at h
  cases h

theorem colon_notMem_chars : ':' ∉ n.chars := by
  have hdigits : ':' ∉ n.digits := notMem_digits (by decide)
  unfold chars
  split
  · simpa using hdigits
  · exact hdigits

theorem chars_injective : Function.Injective chars := by
  -- a numeral with a sign begins with it, and one without begins with a digit
  have hsign : ∀ n n' : PortNumeral, n'.digits ≠ '+' :: n.digits := fun n n' he =>
    n'.notMem_digits (c := '+') (by decide) (he ▸ List.mem_cons_self)
  intro n n' h
  unfold chars at h
  split at h <;> split at h
  · next hp hp' => exact PortNumeral.ext (hp.trans hp'.symm) (List.cons.inj h).2
  · exact absurd h.symm (hsign n n')
  · exact absurd h (hsign n' n)
  · next hp hp' => exact PortNumeral.ext (by simp_all) h

end PortNumeral

/-- What is read as a port is what a numeral says. -/
theorem readPort?_eq_some_iff {cs : List Char} {p : UInt16} :
    readPort? cs = some p ↔ ∃ n : PortNumeral, n.chars = cs ∧ n.port = p := by
  -- behind the sign, the digits decide
  have hdigits : ∀ ds : List Char, ((Decimal.read? ds).bind fun v =>
      if v < 65536 then some (UInt16.ofNat v) else none) = some p ↔
      ∃ n : PortNumeral, n.digits = ds ∧ n.port = p := by
    intro ds
    constructor
    · intro h
      obtain ⟨v, hv, hp⟩ := Option.bind_eq_some_iff.mp h
      obtain ⟨hne, hdecimal, rfl⟩ := Decimal.read?_eq_some_iff.mp hv
      split at hp
      · next hlt =>
        exact ⟨⟨false, ds, hne, hdecimal, Nat.le_of_lt_succ hlt⟩, rfl, Option.some.inj hp⟩
      · cases hp
    · rintro ⟨n, rfl, rfl⟩
      rw [Decimal.read?_eq_some_iff.mpr ⟨n.nonempty, n.decimal, rfl⟩, Option.bind_some,
        if_pos (Nat.lt_succ_of_le n.small)]
      rfl
  unfold readPort?
  rw [hdigits]
  split
  · next rest =>
    constructor
    · rintro ⟨n, rfl, hp⟩
      exact ⟨{ n with plus := true }, rfl, hp⟩
    · rintro ⟨n, hn, hp⟩
      unfold PortNumeral.chars at hn
      split at hn
      · exact ⟨n, (List.cons.inj hn).2, hp⟩
      · exact absurd (hn ▸ List.mem_cons_self) (n.notMem_digits (c := '+') (by decide))
  · next hsign =>
    constructor
    · rintro ⟨n, rfl, hp⟩
      exact ⟨{ n with plus := false }, rfl, hp⟩
    · rintro ⟨n, hn, hp⟩
      unfold PortNumeral.chars at hn
      split at hn
      · exact absurd hn.symm (hsign n.digits)
      · exact ⟨n, hn, hp⟩

/-! ## Addresses -/

/-- The host and the port of an address as they are written. -/
@[ext]
structure Place where
  host : String
  port : PortNumeral
  host_ne : host ≠ ""

/-- The characters of host and port. -/
def Place.chars (p : Place) : List Char := p.host.toList ++ ':' :: p.port.chars

/-- An address as it is written: `P://S` or `P://S@H:N`. -/
@[ext]
structure Spelling where
  protocol : String
  system : String
  place : Option Place
  protocol_ne : protocol ≠ ""
  protocol_free : ¬ [':', '/', '/'] <:+: protocol.toList
  system_ne : system ≠ ""
  system_free : '@' ∉ system.toList

namespace Spelling

/-- The characters behind the `://`. -/
def behind (d : Spelling) : List Char :=
  d.system.toList ++ d.place.elim [] fun p => '@' :: p.chars

/-- The characters of the spelling. -/
def chars (d : Spelling) : List Char := d.protocol.toList ++ ([':', '/', '/'] ++ d.behind)

/-- The text of the spelling. -/
def text (d : Spelling) : String := String.ofList d.chars

/-- The address that is spelled. -/
def address (d : Spelling) : Address :=
  ⟨d.protocol, d.system, d.place.map Place.host, d.place.map fun p => p.port.port⟩

/-- The same spelling, but for the numeral of the port, which is canonical. -/
def canonical (d : Spelling) : Spelling :=
  { d with place := d.place.map fun p => { p with port := .ofPort p.port.port } }

end Spelling

/-! ## Cuts -/

theorem cutAt_protocol_iff {cs protocol rest : List Char} :
    Text.cutAt [':', '/', '/'] cs = some (protocol, rest) ↔
      cs = protocol ++ ([':', '/', '/'] ++ rest) ∧ ¬ [':', '/', '/'] <:+: protocol :=
  Text.cutAt_eq_some_iff (List.cons_ne_nil _ _) (by decide)

theorem cutAt_system_iff {cs system place : List Char} :
    Text.cutAt ['@'] cs = some (system, place) ↔ cs = system ++ '@' :: place ∧ '@' ∉ system := by
  rw [Text.cutAt_eq_some_iff (List.cons_ne_nil '@' []) (by decide), List.singleton_infix_iff]
  rfl

theorem cutAt_system_eq_none_iff {cs : List Char} : Text.cutAt ['@'] cs = none ↔ '@' ∉ cs := by
  rw [Text.cutAt_eq_none_iff (List.cons_ne_nil '@' []), List.singleton_infix_iff]

theorem Place.cutAtLast_chars (p : Place) :
    Text.cutAtLast ':' p.chars = some (p.host.toList, p.port.chars) :=
  Text.cutAtLast_append p.port.colon_notMem_chars

theorem Place.chars_injective : Function.Injective Place.chars := by
  intro p p' h
  have hcut := p.cutAtLast_chars
  rw [h, p'.cutAtLast_chars] at hcut
  obtain ⟨hhost, hport⟩ := Prod.mk.inj (Option.some.inj hcut)
  exact Place.ext (String.toList_inj.mp hhost.symm) (PortNumeral.chars_injective hport.symm)

namespace Spelling

theorem behind_of_none {d : Spelling} (h : d.place = none) : d.behind = d.system.toList := by
  rw [behind, h, Option.elim_none, List.append_nil]

theorem behind_of_some {d : Spelling} {p : Place} (h : d.place = some p) :
    d.behind = d.system.toList ++ '@' :: p.chars := by
  rw [behind, h, Option.elim_some]

theorem cutAt_chars (d : Spelling) :
    Text.cutAt [':', '/', '/'] d.chars = some (d.protocol.toList, d.behind) :=
  cutAt_protocol_iff.mpr ⟨rfl, d.protocol_free⟩

theorem cutAt_behind (d : Spelling) :
    Text.cutAt ['@'] d.behind = d.place.map fun p => (d.system.toList, p.chars) := by
  cases h : d.place with
  | none =>
    rw [behind_of_none h]
    exact cutAt_system_eq_none_iff.mpr d.system_free
  | some p => exact cutAt_system_iff.mpr ⟨behind_of_some h, d.system_free⟩

/-- There is one way at most to spell a text. -/
theorem text_injective : Function.Injective text := by
  intro d d' h
  have hcut := d.cutAt_chars
  rw [String.ofList_injective h, d'.cutAt_chars] at hcut
  obtain ⟨hprotocol, hbehind⟩ := Prod.mk.inj (Option.some.inj hcut)
  have hplaces := d.cutAt_behind
  rw [← hbehind, d'.cutAt_behind] at hplaces
  obtain ⟨hsystem, hplace⟩ : d.system.toList = d'.system.toList ∧ d.place = d'.place := by
    cases hp : d.place <;> cases hp' : d'.place <;> rw [hp, hp'] at hplaces
    · rw [behind_of_none hp, behind_of_none hp'] at hbehind
      exact ⟨hbehind.symm, rfl⟩
    · cases hplaces
    · cases hplaces
    · obtain ⟨hsystem, hchars⟩ := Prod.mk.inj (Option.some.inj hplaces)
      exact ⟨hsystem.symm, congrArg some (Place.chars_injective hchars.symm)⟩
  exact Spelling.ext (String.toList_inj.mp hprotocol.symm) (String.toList_inj.mp hsystem) hplace

/-- An address is written as it was spelled, but for the numeral of its port. -/
theorem text_address (d : Spelling) : d.address.text = d.canonical.text := by
  cases h : d.place with
  | none => simp [Address.text, Address.chars, text, chars, behind, address, canonical, h]
  | some p =>
    simp [Address.text, Address.chars, text, chars, behind, address, canonical, h, Place.chars,
      PortNumeral.chars_ofPort]

@[simp] theorem address_canonical (d : Spelling) : d.canonical.address = d.address := by
  cases h : d.place <;> simp [address, canonical, h]

end Spelling

/-! ## Reading -/

theorem readPlace?_eq_some_iff {cs host : List Char} {port : UInt16} :
    readPlace? cs = some (host, port) ↔
      ∃ p : Place, p.chars = cs ∧ p.host.toList = host ∧ p.port.port = port := by
  constructor
  · intro h
    obtain ⟨⟨host', numeral⟩, hcut, hread⟩ := Option.bind_eq_some_iff.mp h
    obtain ⟨rfl, -⟩ := Text.cutAtLast_eq_some_iff.mp hcut
    dsimp only at hread
    split at hread
    · cases hread
    · next hne =>
      obtain ⟨port', hport, he⟩ := Option.map_eq_some_iff.mp hread
      cases he
      obtain ⟨n, rfl, rfl⟩ := readPort?_eq_some_iff.mp hport
      refine ⟨⟨String.ofList host, n, by simpa using hne⟩, ?_, String.toList_ofList, rfl⟩
      rw [Place.chars, String.toList_ofList]
  · rintro ⟨p, rfl, rfl, rfl⟩
    have hne : p.host.toList ≠ [] := mt String.toList_eq_nil_iff.mp p.host_ne
    rw [readPlace?, p.cutAtLast_chars, Option.bind_some]
    dsimp only
    rw [if_neg hne, readPort?_eq_some_iff.mpr ⟨p.port, rfl, rfl⟩, Option.map_some]

theorem ofChars?_chars (d : Spelling) : ofChars? d.chars = some d.address := by
  have hprotocol : d.protocol.toList ≠ [] := mt String.toList_eq_nil_iff.mp d.protocol_ne
  have hsystem : d.system.toList ≠ [] := mt String.toList_eq_nil_iff.mp d.system_ne
  rw [ofChars?, d.cutAt_chars, Option.bind_some]
  dsimp only
  rw [if_neg hprotocol, d.cutAt_behind]
  cases h : d.place with
  | none =>
    rw [Option.map_none]
    dsimp only
    rw [d.behind_of_none h, if_neg hsystem]
    simp [Spelling.address, h]
  | some p =>
    rw [Option.map_some]
    dsimp only
    rw [if_neg hsystem, readPlace?_eq_some_iff.mpr ⟨p, rfl, rfl, rfl⟩]
    simp [Spelling.address, h]

theorem spelled_of_ofChars? {cs : List Char} {a : Address} (h : ofChars? cs = some a) :
    ∃ d : Spelling, d.chars = cs ∧ d.address = a := by
  obtain ⟨⟨protocol, rest⟩, hcut, hread⟩ := Option.bind_eq_some_iff.mp h
  obtain ⟨rfl, hfree⟩ := cutAt_protocol_iff.mp hcut
  dsimp only at hread
  split at hread
  · cases hread
  · next hprotocol =>
    split at hread
    · next hat =>
      split at hread
      · cases hread
      · next hrest =>
        cases hread
        have hsystemFree := cutAt_system_eq_none_iff.mp hat
        refine ⟨⟨String.ofList protocol, String.ofList rest, none, by simpa using hprotocol,
          by simpa using hfree, by simpa using hrest, by simpa using hsystemFree⟩, ?_, rfl⟩
        simp [Spelling.chars, Spelling.behind]
    · next system place hat =>
      obtain ⟨rfl, hsystemFree⟩ := cutAt_system_iff.mp hat
      split at hread
      · cases hread
      · next hsystem =>
        obtain ⟨⟨host, port⟩, hplace, he⟩ := Option.map_eq_some_iff.mp hread
        cases he
        obtain ⟨p, rfl, rfl, rfl⟩ := readPlace?_eq_some_iff.mp hplace
        refine ⟨⟨String.ofList protocol, String.ofList system, some p, by simpa using hprotocol,
          by simpa using hfree, by simpa using hsystem, by simpa using hsystemFree⟩, ?_, ?_⟩
        · simp [Spelling.chars, Spelling.behind]
        · simp [Spelling.address]

/-- What is read as an address is what a spelling says. -/
theorem parse_eq_ok_iff {s : String} {a : Address} :
    parse s = .ok a ↔ ∃ d : Spelling, d.text = s ∧ d.address = a := by
  unfold parse
  constructor
  · intro h
    split at h
    · next hread =>
      cases h
      obtain ⟨d, hchars, hd⟩ := spelled_of_ofChars? hread
      exact ⟨d, by rw [Spelling.text, hchars, String.ofList_toList], hd⟩
    · cases h
  · rintro ⟨d, rfl, rfl⟩
    rw [Spelling.text, String.toList_ofList, ofChars?_chars]

theorem parse_text (d : Spelling) : parse d.text = .ok d.address :=
  parse_eq_ok_iff.mpr ⟨d, rfl, rfl⟩

/-- Exactly the texts that can be spelled are read, each in the one way in which it is spelled. The
address that is read has the same text but for the numeral of its port, and is read back from it.
Of any other text the error is the text itself. -/
theorem texts_spelled :
    (∀ s, (∃ a, parse s = .ok a) ↔ ∃ d : Spelling, d.text = s) ∧
    Function.Injective Spelling.text ∧
    (∀ d : Spelling, parse d.text = .ok d.address ∧ d.address.text = d.canonical.text ∧
      parse d.address.text = .ok d.address) ∧
    ∀ s, (∀ d : Spelling, d.text ≠ s) → parse s = .error ⟨s⟩ := by
  refine ⟨?_, Spelling.text_injective, ?_, ?_⟩
  · intro s
    constructor
    · rintro ⟨a, h⟩
      obtain ⟨d, hd, -⟩ := parse_eq_ok_iff.mp h
      exact ⟨d, hd⟩
    · rintro ⟨d, rfl⟩
      exact ⟨d.address, parse_text d⟩
  · intro d
    refine ⟨parse_text d, d.text_address, ?_⟩
    rw [d.text_address, parse_text, d.address_canonical]
  · intro s h
    cases hs : parse s with
    | ok a =>
      obtain ⟨d, hd, -⟩ := parse_eq_ok_iff.mp hs
      exact absurd hd (h d)
    | error e =>
      unfold parse at hs
      split at hs
      · cases hs
      · exact hs.symm

/-- The protocol may end in the beginning of a separator, the host may hold separators and the port
a sign and leading zeros. The empty text is no address. -/
theorem texts_spelled_signed_port :
    let d : Spelling := {
      protocol := "a:/", system := "s"
      place := some {
        host := "u@[::1]", host_ne := by decide
        port := ⟨true, ['0', '8', '0'], by decide, by simp, by decide⟩ }
      protocol_ne := by decide, protocol_free := by decide
      system_ne := by decide, system_free := by decide }
    d.text = "a:/://s@u@[::1]:+080" ∧ parse d.text = .ok ⟨"a:/", "s", some "u@[::1]", some 80⟩ ∧
      d.address.text = "a:/://s@u@[::1]:80" ∧
      (∀ d : Spelling, d.text ≠ "") ∧ parse "" = .error ⟨""⟩ := by
  intro d
  obtain ⟨-, -, hspelled, hother⟩ := texts_spelled
  have hempty : ∀ d : Spelling, d.text ≠ "" := by
    intro d hd
    have hchars : d.chars = [] := String.ofList_injective hd
    simp [Spelling.chars] at hchars
  refine ⟨by decide +kernel, (hspelled d).1.trans (by decide +kernel), ?_, hempty, hother "" hempty⟩
  rw [(hspelled d).2.1]
  decide +kernel

/-- The text of an address is read as this address just if its fields are those of a spelling:
neither a host without a port nor a port without a host can be told from its text. -/
theorem parse_text_eq_ok_iff (a : Address) : parse a.text = .ok a ↔
    (a.protocol ≠ "" ∧ ¬ [':', '/', '/'] <:+: a.protocol.toList) ∧
    (a.system ≠ "" ∧ '@' ∉ a.system.toList) ∧
    (a.host = none ∧ a.port = none ∨
      ∃ host port, a.host = some host ∧ a.port = some port ∧ host ≠ "") := by
  constructor
  · intro h
    obtain ⟨d, -, rfl⟩ := parse_eq_ok_iff.mp h
    refine ⟨⟨d.protocol_ne, d.protocol_free⟩, ⟨d.system_ne, d.system_free⟩, ?_⟩
    unfold Spelling.address
    cases d.place with
    | none => exact Or.inl ⟨rfl, rfl⟩
    | some p => exact Or.inr ⟨p.host, p.port.port, rfl, rfl, p.host_ne⟩
  · obtain ⟨protocol, system, host, port⟩ := a
    rintro ⟨⟨hprotocol, hfree⟩, ⟨hsystem, hsystemFree⟩, hplace⟩
    -- a spelling whose numeral is canonical is the text of its address
    have hcanonical : ∀ d : Spelling, d.canonical = d → parse d.address.text = .ok d.address := by
      intro d hd
      rw [d.text_address, hd, parse_text]
    rcases hplace with ⟨rfl, rfl⟩ | ⟨host, port, rfl, rfl, hhost⟩
    · exact hcanonical ⟨protocol, system, none, hprotocol, hfree, hsystem, hsystemFree⟩ rfl
    · have hread := hcanonical ⟨protocol, system, some ⟨host, .ofPort port, hhost⟩, hprotocol,
        hfree, hsystem, hsystemFree⟩ (by simp [Spelling.canonical])
      simpa [Spelling.address] using hread

/-- A host without a port is lost, as its text is that of no address. -/
example : parse (text ⟨"akka", "s", some "h", none⟩) = .error ⟨"akka://s@h"⟩ := by decide +kernel

end Rendezvous.Address
