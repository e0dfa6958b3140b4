import Mathlib.Data.List.Perm.Basic
import Rendezvous.Proofs.MessagePack.Depth
import Rendezvous.Proofs.Wire.Stream

/-!
# How a player is told to go down

The flag of a message that tells a player to go down is read from any value: `true` and the numbers
of 32 bits say how to go down, in whatever form a number is written, and every other value is
refused (`Exit.ofValue?_eq_graceful_iff`, `Exit.ofValue?_eq_code_iff`, `Exit.ofValue?_eq_none_iff`).
A body of the message is read by its flag alone, wherever its kind and other fields stand
(`exit_by_flag`).
-/

namespace Rendezvous

open MessagePack (Value readValue parse?_eq_some_iff)
open Wire (Key keyText? key? keyOfName fillAll fields? isTagKey variant? tag? intIn?)

variable {v : Value} {i : Int} {n : Int32}

/-! ## The flag -/

theorem Wire.intIn?_eq_some_iff {lo hi : Int} :
    intIn? lo hi v = some i ↔ v.int? = some i ∧ lo ≤ i ∧ i < hi := by
  unfold intIn?
  cases v.int? with
  | none => simp
  | some j =>
    rw [Option.bind_some]
    split <;> simp <;> grind

namespace Exit

theorem ofValue?_of_ne (h : v ≠ .bool true) :
    ofValue? v = (intIn? (-0x80000000) 0x80000000 v).map fun i => .code (Int32.ofInt i) := by
  unfold ofValue?
  split
  · exact absurd rfl h
  · rfl

theorem ofValue?_eq_graceful_iff : ofValue? v = some .graceful ↔ v = .bool true := by
  constructor
  · intro h
    by_contra hv
    rw [ofValue?_of_ne hv] at h
    simp at h
  · rintro rfl
    rfl

theorem ofValue?_eq_code_iff : ofValue? v = some (.code n) ↔ v.int? = some n.toInt := by
  by_cases hv : v = .bool true
  · subst hv
    simp [ofValue?, Value.int?]
  · rw [ofValue?_of_ne hv, Option.map_eq_some_iff]
    simp only [Wire.intIn?_eq_some_iff, code.injEq]
    constructor
    · rintro ⟨i, ⟨hi, hlo, hhi⟩, rfl⟩
      rw [Int32.toInt_ofInt_of_le hlo hhi, hi]
    · intro h
      exact ⟨n.toInt, ⟨h, n.le_toInt, n.toInt_lt⟩, Int32.ofInt_toInt n⟩

theorem ofValue?_eq_none_iff :
    ofValue? v = none ↔ v ≠ .bool true ∧ ∀ i, v.int? = some i → i < -2 ^ 31 ∨ 2 ^ 31 ≤ i := by
  by_cases hv : v = .bool true
  · simp [hv, ofValue?]
  · rw [ofValue?_of_ne hv, Option.map_eq_none_iff, Option.eq_none_iff_forall_ne_some]
    simp only [ne_eq, Wire.intIn?_eq_some_iff, hv, not_false_eq_true, true_and]
    constructor
    · intro h i hi
      by_contra hout
      exact h i ⟨hi, by omega, by omega⟩
    · rintro h i ⟨hi, hlo, hhi⟩
      have hout := h i hi
      omega

/-- A value that says how to go down holds no other. -/
theorem within_of_ofValue? {x : Exit} (h : ofValue? v = some x) : v.Within 0 := by
  cases v with
  | arr | map | ext => cases h
  | nil | bool | uint | sint | single | double | str | bin => trivial

end Exit

/-! ## The body -/

/-- A field that is neither the kind nor the flag: its key is a text, and its value can be read
inside a message. -/
structure IsPassedOver (field : Value × Value) : Prop where
  text : ∃ name, keyText? field.1 = some name ∧ name ≠ some "type" ∧
    name ≠ some "shutdown_or_exit"
  within : field.2.Within 1022

/-- The body of a message that tells a player to go down: its kind, the flag, and what else there
is, in any order. -/
structure TerminateBody where
  typeKey : Value
  kind : Value
  flagKey : Value
  flag : Value
  others : List (Value × Value)
  fields : List (Value × Value)
  typeKey_text : keyText? typeKey = some (some "type")
  kind_text : keyText? kind = some (some "Terminate")
  flagKey_text : keyText? flagKey = some (some "shutdown_or_exit")
  passedOver : ∀ f ∈ others, IsPassedOver f
  perm : fields.Perm ((typeKey, kind) :: (flagKey, flag) :: others)

/-- A text names no place, so it is looked up. -/
theorem Wire.key?_of_text {names : List String} {name : Option String}
    (h : keyText? v = some name) : key? names v = some (keyOfName names name) := by
  unfold key?
  split
  · cases h
  · rw [h, Option.map_some]

/-- Entries that are passed over change nothing. -/
theorem Wire.fillAll_passedOver {key : Value → Option Key} {entries : List (Value × Value)}
    (h : ∀ e ∈ entries, key e.1 = some .passedOver) (rest : List (Value × Value))
    (slots : List (Option Value)) :
    fillAll key (entries ++ rest) slots = fillAll key rest slots := by
  induction entries with
  | nil => rfl
  | cons e entries ih =>
    obtain ⟨he, hentries⟩ := List.forall_mem_cons.mp h
    rw [List.cons_append, fillAll, he]
    exact ih hentries

theorem within_of_text {name : Option String} (h : keyText? v = some name) : v.Within 0 := by
  cases v with
  | arr | map | ext => cases h
  | nil | bool | uint | sint | single | double | str | bin => trivial

namespace TerminateBody

variable {b : TerminateBody}

theorem isTagKey_flagKey (b : TerminateBody) : isTagKey b.flagKey = false := by
  simp [isTagKey, b.flagKey_text]

theorem isTagKey_others {f : Value × Value} (hf : f ∈ b.others) : isTagKey f.1 = false := by
  obtain ⟨name, hname, htype, -⟩ := (b.passedOver f hf).text
  simp [isTagKey, hname, htype]

theorem key?_others {f : Value × Value} (hf : f ∈ b.others) :
    key? ["shutdown_or_exit"] f.1 = some .passedOver := by
  obtain ⟨name, hname, -, hflag⟩ := (b.passedOver f hf).text
  rw [Wire.key?_of_text hname]
  cases name with
  | none => rfl
  | some name =>
    have hne : name ≠ "shutdown_or_exit" := fun he => hflag (congrArg some he)
    simp [keyOfName, List.idxOf?_cons, hne.symm]

/-- The kind is found wherever it stands. -/
theorem variant?_fields (b : TerminateBody) : variant? Downlink.kinds (.map b.fields) =
    some (8, .map (b.fields.filter fun f => !isTagKey f.1)) := by
  have htype : isTagKey b.typeKey = true := by simp [isTagKey, b.typeKey_text]
  have hkinds : (b.fields.filter fun f => isTagKey f.1) = [(b.typeKey, b.kind)] := by
    refine List.perm_singleton.mp ((b.perm.filter _).trans (List.Perm.of_eq ?_))
    have hothers : b.others.filter (fun f => isTagKey f.1) = [] :=
      List.filter_eq_nil_iff.mpr fun f hf => by simp [isTagKey_others hf]
    simp [htype, isTagKey_flagKey, hothers]
  have htag : tag? Downlink.kinds b.kind = some 8 := by
    unfold tag?
    split
    · have hkind := b.kind_text
      simp_all [keyText?]
    · rw [b.kind_text]
      rfl
  rw [variant?, hkinds]
  simp [htag]

/-- Behind the kind there is the flag, and nothing else that counts. -/
theorem fields?_fields (b : TerminateBody) :
    fields? ["shutdown_or_exit"] (.map (b.fields.filter fun f => !isTagKey f.1)) =
      some [some b.flag] := by
  have htype : isTagKey b.typeKey = true := by simp [isTagKey, b.typeKey_text]
  have hperm : (b.fields.filter fun f => !isTagKey f.1).Perm ((b.flagKey, b.flag) :: b.others) := by
    refine (b.perm.filter _).trans (List.Perm.of_eq ?_)
    have hothers : b.others.filter (fun f => !isTagKey f.1) = b.others :=
      List.filter_eq_self.mpr fun f hf => by simp [isTagKey_others hf]
    simp [htype, isTagKey_flagKey, hothers]
  generalize (b.fields.filter fun f => !isTagKey f.1) = fields at hperm ⊢
  obtain ⟨before, behind, rfl⟩ :=
    List.append_of_mem (hperm.mem_iff.mpr (List.mem_cons_self (l := b.others)))
  have hothers : ∀ f ∈ before ++ behind, key? ["shutdown_or_exit"] f.1 = some .passedOver :=
    fun f hf => key?_others (((List.perm_middle.symm.trans hperm).cons_inv).mem_iff.mp hf)
  have hflag : key? ["shutdown_or_exit"] b.flagKey = some (.field 0) := by
    rw [Wire.key?_of_text b.flagKey_text]
    rfl
  have hbehind := Wire.fillAll_passedOver
    (fun f hf => hothers f (List.mem_append_right before hf)) [] [some b.flag]
  rw [List.append_nil] at hbehind
  show fillAll _ (before ++ (b.flagKey, b.flag) :: behind) [none] = _
  rw [Wire.fillAll_passedOver fun f hf => hothers f (List.mem_append_left behind hf), fillAll,
    hflag]
  exact hbehind

theorem ofValue?_fields (b : TerminateBody) :
    Downlink.ofValue? (.map b.fields) = (Exit.ofValue? b.flag).map .terminate := by
  rw [Downlink.ofValue?, variant?_fields, Option.bind_some]
  show record₁? "shutdown_or_exit" Exit.ofValue? Downlink.terminate _ = _
  rw [record₁?, fields?_fields, Option.bind_some]
  rfl

/-- A body whose flag says how to go down can be read. -/
theorem within_fields {x : Exit} (h : Exit.ofValue? b.flag = some x) :
    (Value.map b.fields).Within MessagePack.maxDepth := by
  have hall : ∀ f ∈ (b.typeKey, b.kind) :: (b.flagKey, b.flag) :: b.others,
      f.1.Within 1022 ∧ f.2.Within 1022 := by
    simp only [List.forall_mem_cons]
    refine ⟨⟨(within_of_text b.typeKey_text).of_zero _, (within_of_text b.kind_text).of_zero _⟩,
      ⟨(within_of_text b.flagKey_text).of_zero _, (Exit.within_of_ofValue? h).of_zero _⟩,
      fun f hf => ?_⟩
    obtain ⟨⟨name, hname, -⟩, hwithin⟩ := b.passedOver f hf
    exact ⟨(within_of_text hname).of_zero _, hwithin⟩
  exact fun f hf => hall f (b.perm.mem_iff.mp hf)

/-- A body is read by its flag. -/
theorem decode?_body {depth : Nat} {body rest : List UInt8}
    (h : readValue depth body = some (.map b.fields, rest)) :
    Downlink.decode? body = (Exit.ofValue? b.flag).map .terminate := by
  have hparse := fun w => parse?_eq_some_iff (w := w) h
  rw [← ofValue?_fields, Downlink.decode?]
  cases hp : MessagePack.parse? body with
  | some w =>
    obtain ⟨rfl, -⟩ := (hparse w).mp hp
    rfl
  | none =>
    -- the body is too deep, so its flag is none
    cases hflag : Exit.ofValue? b.flag with
    | none => rw [ofValue?_fields, hflag]; rfl
    | some x =>
      have hsome := (hparse _).mpr ⟨rfl, within_fields hflag⟩
      rw [hp] at hsome
      cases hsome

end TerminateBody

/-- Bytes that hold the body of a message to go down, in headers of any width and with values of any
depth, are read by their flag: `true` is going down in good order, a number of 32 bits in any form
is an exit code, and with every other flag nothing is read. What is read is written again as bytes
from which the same is read. -/
theorem exit_by_flag {depth : Nat} {body rest : List UInt8} (b : TerminateBody)
    (h : readValue depth body = some (.map b.fields, rest)) :
    (Downlink.ofBody body = .ok (.terminate .graceful) ↔ b.flag = .bool true) ∧
    (∀ n : Int32, Downlink.ofBody body = .ok (.terminate (.code n)) ↔
      b.flag.int? = some n.toInt) ∧
    (Downlink.ofBody body = .error .undecodable ↔
      b.flag ≠ .bool true ∧ ∀ i, b.flag.int? = some i → i < -2 ^ 31 ∨ 2 ^ 31 ≤ i) ∧
    ∀ m, Downlink.ofBody body = .ok m →
      (∃ x, m = .terminate x) ∧ Downlink.ofBody m.encode = .ok m := by
  rw [← Exit.ofValue?_eq_graceful_iff, ← Exit.ofValue?_eq_none_iff]
  simp only [← Exit.ofValue?_eq_code_iff]
  rw [Downlink.ofBody, b.decode?_body h]
  cases hflag : Exit.ofValue? b.flag with
  | none => simp
  | some x =>
    simp only [Option.map_some, Except.ok.injEq, Downlink.terminate.injEq, Option.some.injEq,
      reduceCtorEq, true_and, implies_true, iff_self]
    rintro m rfl
    exact ⟨⟨x, rfl⟩, Downlink.ofBody_of_fits (m := .terminate x) trivial⟩

/-- The greatest exit code, in the widest signed form, in front of a field that is passed over and
of the kind as a binary. -/
theorem exit_by_flag_widest :
    let flagKey : Value := .str "shutdown_or_exit"
    let kind : Value := .bin [0x54, 0x65, 0x72, 0x6d, 0x69, 0x6e, 0x61, 0x74, 0x65]
    let body : List UInt8 := [0xde, 0x00, 0x03,
      0xd9, 0x10, 0x73, 0x68, 0x75, 0x74, 0x64, 0x6f, 0x77, 0x6e, 0x5f, 0x6f, 0x72, 0x5f, 0x65,
      0x78, 0x69, 0x74, 0xd3, 0x00, 0x00, 0x00, 0x00, 0x7f, 0xff, 0xff, 0xff,
      0xa1, 0x78, 0x91, 0xc0,
      0xa4, 0x74, 0x79, 0x70, 0x65, 0xc4, 0x09, 0x54, 0x65, 0x72, 0x6d, 0x69, 0x6e, 0x61, 0x74,
      0x65]
    readValue 2 body = some (.map [(flagKey, .sint .eight 2147483647), (.str "x", .arr [.nil]),
        (.str "type", kind)], []) ∧
      Downlink.ofBody body = .ok (.terminate (.code 2147483647)) := by
  intro flagKey kind body
  have hread : readValue 2 body = some (.map [(flagKey, .sint .eight 2147483647),
      (.str "x", .arr [.nil]), (.str "type", kind)], []) := rfl
  let b : TerminateBody := {
    typeKey := .str "type"
    kind := kind
    flagKey := flagKey
    flag := .sint .eight 2147483647
    others := [(.str "x", .arr [.nil])]
    fields := [(flagKey, .sint .eight 2147483647), (.str "x", .arr [.nil]), (.str "type", kind)]
    typeKey_text := rfl
    kind_text := by decide +kernel
    flagKey_text := rfl
    passedOver := by
      rintro f hf
      rw [List.mem_singleton.mp hf]
      exact ⟨⟨some "x", rfl, by decide, by decide⟩, fun v hv => by
        rw [List.mem_singleton.mp hv]
        trivial⟩
    perm := @List.perm_append_comm _ [_, _] [_] }
  exact ⟨hread, ((exit_by_flag b hread).2.1 2147483647).mpr rfl⟩

end Rendezvous
