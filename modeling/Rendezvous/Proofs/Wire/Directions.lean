import Rendezvous.Proofs.Wire.Stream

/-!
# Messages that come the wrong way

What is sent in one direction may be read in the other. The kinds that go both ways (`twoWayKinds`)
have the same bytes there, so such a message is read as its mirror image (`Mirrored`). The others
are told by their first entry, whatever stands behind it (`parse?_taggedRecord`), and nothing is
read (`ofBody_stranger` for each direction). Both together are `directions_apart`.
-/

namespace Rendezvous

open MessagePack (Value FitsText Legible legible_str)

/-! ## Mirror images -/

/-- The kinds of messages that go both ways. -/
def twoWayKinds : List String :=
  ["Done", "EnterBarrier", "FailBarrier", "GetAddress", "AddressReply"]

/-- Two messages are of the same kind and say the same, each in its direction. -/
inductive Mirrored : Downlink → Uplink → Prop where
  | done : Mirrored .done .done
  | enterBarrier (name : String) (timeout : Option Span) (role : Option Role) :
      Mirrored (.enterBarrier name timeout role) (.enterBarrier name timeout role)
  | failBarrier (name : String) (role : Role) :
      Mirrored (.failBarrier name role) (.failBarrier name role)
  | getAddress (node : Role) : Mirrored (.getAddress node) (.getAddress node)
  | addressReply (node : Role) (address : Address) :
      Mirrored (.addressReply node address) (.addressReply node address)

variable {m m' : Downlink} {u u' : Uplink}

namespace Mirrored

theorem kind (h : Mirrored m u) : m.kind = u.kind := by cases h <;> rfl

theorem kind_mem (h : Mirrored m u) : m.kind ∈ twoWayKinds := by
  cases h <;> simp [twoWayKinds, Downlink.kind]

theorem fields (h : Mirrored m u) : m.fields = u.fields := by cases h <;> rfl

theorem encode (h : Mirrored m u) : m.encode = u.encode := by
  rw [Downlink.encode, Uplink.encode, Downlink.toValue, Uplink.toValue, h.kind, h.fields]

theorem fits (h : Mirrored m u) : m.Fits ↔ u.Fits := by cases h <;> exact Iff.rfl

end Mirrored

theorem Downlink.exists_mirrored_iff (m : Downlink) :
    (∃ u, Mirrored m u) ↔ m.kind ∈ twoWayKinds := by
  constructor
  · rintro ⟨u, h⟩
    exact h.kind_mem
  · intro h
    cases m with
    | done => exact ⟨_, .done⟩
    | enterBarrier name timeout role => exact ⟨_, .enterBarrier name timeout role⟩
    | failBarrier name role => exact ⟨_, .failBarrier name role⟩
    | getAddress node => exact ⟨_, .getAddress node⟩
    | addressReply node address => exact ⟨_, .addressReply node address⟩
    | barrierResult | throttle | disconnect | terminate =>
      exact absurd h (by simp [kind, twoWayKinds])

theorem Uplink.exists_mirrored_iff (u : Uplink) :
    (∃ m, Mirrored m u) ↔ u.kind ∈ twoWayKinds := by
  constructor
  · rintro ⟨m, h⟩
    exact h.kind ▸ h.kind_mem
  · intro h
    cases u with
    | done => exact ⟨_, .done⟩
    | enterBarrier name timeout role => exact ⟨_, .enterBarrier name timeout role⟩
    | failBarrier name role => exact ⟨_, .failBarrier name role⟩
    | getAddress node => exact ⟨_, .getAddress node⟩
    | addressReply node address => exact ⟨_, .addressReply node address⟩
    | hello | commandFailed => exact absurd h (by simp [kind, twoWayKinds])

/-! ## Kinds that go one way -/

/-- The first entry that is read off the bytes of a message is its kind. -/
theorem parse?_taggedRecord {kind : String} {fields : List (String × Value)} {v : Value}
    (hk : FitsText kind) (hn : fields.length ≤ 3)
    (h : MessagePack.parse? (taggedRecord kind fields).print = some v) :
    ∃ entries, v = .map ((.str "type", .str kind) :: entries) := by
  obtain ⟨⟨v', rest⟩, hread, rfl⟩ := Option.map_eq_some_iff.mp h
  have hlength : (fields.map fun f => (Value.str f.1, f.2)).length + 1 < 16 := by
    rw [List.length_map]
    omega
  have hkey : FitsText "type" := by decide
  rw [← List.append_nil (taggedRecord kind fields).print] at hread
  exact MessagePack.entries_of_readValue (legible_str 1022 hkey) (legible_str 1022 hk) hlength hread

theorem variant?_stranger {kinds : List String} {kind : String} {entries : List (Value × Value)}
    (h : kind ∉ kinds) :
    Wire.variant? kinds (.map ((.str "type", .str kind) :: entries)) = none := by
  have hfirst : ((Value.str "type", Value.str kind) :: entries).filter (Wire.isTagKey ·.1) =
      (.str "type", .str kind) :: entries.filter (Wire.isTagKey ·.1) :=
    List.filter_cons_of_pos (decide_eq_true rfl)
  have htag : Wire.tag? kinds (.str kind) = none := List.idxOf?_eq_none_iff.mpr h
  rw [Wire.variant?, hfirst]
  split
  · next heq =>
    obtain ⟨⟨⟩, -⟩ := List.cons.inj heq
    rw [htag, Option.map_none]
  · rfl

/-- No kind is found in the bytes of a message if its own is not among those that are read. -/
theorem variant?_of_parse? {kinds : List String} {kind : String} {fields : List (String × Value)}
    (hk : FitsText kind) (hn : fields.length ≤ 3) (h : kind ∉ kinds) :
    (MessagePack.parse? (taggedRecord kind fields).print).bind (Wire.variant? kinds) = none := by
  refine Option.bind_eq_none_iff.mpr fun v hv => ?_
  obtain ⟨entries, rfl⟩ := parse?_taggedRecord hk hn hv
  exact variant?_stranger h

theorem Downlink.ofBody_stranger (h : u.kind ∉ kinds) : ofBody u.encode = .error .undecodable := by
  have hvariant : (MessagePack.parse? u.encode).bind (Wire.variant? kinds) = none :=
    variant?_of_parse? u.fitsText_kind u.length_fields_le h
  have hread : decode? u.encode = none := by
    unfold decode? ofValue?
    rw [← Option.bind_assoc, hvariant, Option.bind_none]
  rw [ofBody, hread]

theorem Uplink.ofBody_stranger (h : m.kind ∉ kinds) : ofBody m.encode = .error .undecodable := by
  have hvariant : (MessagePack.parse? m.encode).bind (Wire.variant? kinds) = none :=
    variant?_of_parse? m.fitsText_kind m.length_fields_le h
  have hread : decode? m.encode = none := by
    unfold decode? ofValue?
    rw [← Option.bind_assoc, hvariant, Option.bind_none]
  rw [ofBody, hread]

/-! ## Both directions -/

theorem Downlink.kind_mem (m : Downlink) : m.kind ∈ kinds := by cases m <;> simp [kind, kinds]

theorem Uplink.kind_mem (u : Uplink) : u.kind ∈ kinds := by cases u <;> simp [kind, kinds]

/-- What is read in both directions goes both ways. -/
theorem mem_twoWayKinds {kind : String} (hd : kind ∈ Downlink.kinds) (hu : kind ∈ Uplink.kinds) :
    kind ∈ twoWayKinds := by
  have hall : ∀ k ∈ Downlink.kinds, k ∈ Uplink.kinds → k ∈ twoWayKinds := by decide
  exact hall kind hd hu

theorem Uplink.ofBody_of_oneWay (h : m.kind ∉ twoWayKinds) :
    ofBody m.encode = .error .undecodable :=
  ofBody_stranger fun hkind => h (mem_twoWayKinds m.kind_mem hkind)

theorem Downlink.ofBody_of_oneWay (h : u.kind ∉ twoWayKinds) :
    ofBody u.encode = .error .undecodable :=
  ofBody_stranger fun hkind => h (mem_twoWayKinds hkind u.kind_mem)

theorem Uplink.ofBody_eq_ok_iff (hm : m.Fits) : ofBody m.encode = .ok u ↔ Mirrored m u := by
  have hmirror : ∀ u, Mirrored m u → ofBody m.encode = .ok u := fun u h => by
    rw [h.encode, ofBody_of_fits (h.fits.mp hm)]
  constructor
  · intro h
    by_cases hkind : m.kind ∈ twoWayKinds
    · obtain ⟨u', hu'⟩ := m.exists_mirrored_iff.mpr hkind
      rw [hmirror u' hu'] at h
      cases h
      exact hu'
    · rw [ofBody_of_oneWay hkind] at h
      cases h
  · exact hmirror u

theorem Downlink.ofBody_eq_ok_iff (hu : u.Fits) : ofBody u.encode = .ok m ↔ Mirrored m u := by
  have hmirror : ∀ m, Mirrored m u → ofBody u.encode = .ok m := fun m h => by
    rw [← h.encode, ofBody_of_fits (h.fits.mpr hu)]
  constructor
  · intro h
    by_cases hkind : u.kind ∈ twoWayKinds
    · obtain ⟨m', hm'⟩ := u.exists_mirrored_iff.mpr hkind
      rw [hmirror m' hm'] at h
      cases h
      exact hm'
    · rw [ofBody_of_oneWay hkind] at h
      cases h
  · exact hmirror m

/-- The bytes of a message are read in the other direction just if its kind goes both ways, and then
as its mirror image, which is of the same kind, has the same fields and the same bytes. A message of
another kind is refused even if its texts are too long to be written. -/
theorem directions_apart :
    (∀ m : Downlink, m.Fits →
      ((∃ u, Uplink.ofBody m.encode = .ok u) ↔ m.kind ∈ twoWayKinds) ∧
      ∀ u, Uplink.ofBody m.encode = .ok u ↔ Mirrored m u) ∧
    (∀ u : Uplink, u.Fits →
      ((∃ m, Downlink.ofBody u.encode = .ok m) ↔ u.kind ∈ twoWayKinds) ∧
      ∀ m, Downlink.ofBody u.encode = .ok m ↔ Mirrored m u) ∧
    (∀ m u, Mirrored m u → m.kind = u.kind ∧ m.fields = u.fields ∧ m.encode = u.encode) ∧
    (∀ m : Downlink, m.kind ∉ twoWayKinds → Uplink.ofBody m.encode = .error .undecodable) ∧
    ∀ u : Uplink, u.kind ∉ twoWayKinds → Downlink.ofBody u.encode = .error .undecodable := by
  refine ⟨?_, ?_, fun m u h => ⟨h.kind, h.fields, h.encode⟩, fun m => Uplink.ofBody_of_oneWay,
    fun u => Downlink.ofBody_of_oneWay⟩
  · intro m hm
    refine ⟨?_, fun u => Uplink.ofBody_eq_ok_iff hm⟩
    rw [← m.exists_mirrored_iff]
    exact exists_congr fun u => Uplink.ofBody_eq_ok_iff hm
  · intro u hu
    refine ⟨?_, fun m => Downlink.ofBody_eq_ok_iff hu⟩
    rw [← u.exists_mirrored_iff]
    exact exists_congr fun m => Downlink.ofBody_eq_ok_iff hu

/-- The answer to an address query is read by either side, but a greeting by the conductor only and
the result of a barrier by a player only. -/
theorem directions_apart_reply :
    let reply : Downlink := .addressReply ⟨"r"⟩ ⟨"akka", "sys", some "h", some 2552⟩
    let hello : Uplink := .hello "r" ⟨"akka", "sys", none, none⟩
    reply.Fits ∧ Uplink.ofBody reply.encode =
        .ok (.addressReply ⟨"r"⟩ ⟨"akka", "sys", some "h", some 2552⟩) ∧
      hello.Fits ∧ Downlink.ofBody hello.encode = .error .undecodable ∧
      Uplink.ofBody (Downlink.barrierResult "b" true).encode = .error .undecodable := by
  intro reply hello
  obtain ⟨hdown, -, -, honlyDown, honlyUp⟩ := directions_apart
  have hreply : reply.Fits := ⟨by decide, by decide, by decide, by rintro _ ⟨⟩; decide⟩
  have hhello : hello.Fits := ⟨by decide, by decide, by decide, nofun⟩
  refine ⟨hreply, ((hdown reply hreply).2 _).mpr (.addressReply _ _), hhello, ?_, ?_⟩
  · exact honlyUp hello (by simp [hello, Uplink.kind, twoWayKinds])
  · exact honlyDown _ (by simp [Downlink.kind, twoWayKinds])

end Rendezvous
