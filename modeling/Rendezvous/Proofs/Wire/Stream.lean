import Mathlib.Data.Set.Function
import Rendezvous.Proofs.Wire.RoundTrip
import Rendezvous.Wire.Frame

/-!
# Streams of frames

What is written to a connection is a stream of frames, which is cut anywhere on its way: some bytes
have arrived, and the others are pending. Whatever the cut, the frame that can be read off the bytes
that have arrived is the first of the stream, and what is left goes on with the others
(`Frame.bodies_of_next?`). So the messages read are the messages written, in order
(`Uplink.framed_of_next?`, `Downlink.framed_of_next?`). A single body is read back whatever its
length, and two messages of one direction never have the same body (`messages_read_back`).
-/

namespace Rendezvous

namespace Frame

variable {limit : Nat} {ended : Bool} {arrived pending body rest : List UInt8}
  {bodies : List (List UInt8)}

/-- The frames of bodies, one after the other. -/
def stream (bodies : List (List UInt8)) : List UInt8 := bodies.flatMap ofBody

theorem stream_cons (body : List UInt8) (bodies : List (List UInt8)) :
    stream (body :: bodies) = ofBody body ++ stream bodies := List.flatMap_cons

theorem stream_append (bodies bodies' : List (List UInt8)) :
    stream (bodies ++ bodies') = stream bodies ++ stream bodies' := List.flatMap_append

/-- A body that is written goes into a frame as it is. -/
theorem write_eq_ok {frame : List UInt8} (h : write body = .ok frame) :
    body.length ≤ maxSize ∧ frame = ofBody body := by
  unfold write at h
  split at h
  · next hle =>
    cases h
    exact ⟨hle, rfl⟩
  · cases h

/-- A frame that was read stood at the front, its length in four bytes before its body. -/
theorem eq_of_read (h : read limit arrived = (.ok body, rest)) :
    ∃ head : List UInt8, head.length = 4 ∧ MessagePack.ofBytes 0 head = body.length ∧
      arrived = head ++ (body ++ rest) := by
  unfold read MessagePack.readNat at h
  split at h
  · cases h
  · next size tail hsize =>
    obtain ⟨⟨head, tail'⟩, hhead, he⟩ := Option.map_eq_some_iff.mp hsize
    cases he
    obtain ⟨rfl, hlength⟩ := MessagePack.eq_of_takeBytes hhead
    split at h
    · cases h
    · split at h
      · cases h
      · next hbody =>
        cases h
        obtain ⟨rfl, hbodyLength⟩ := MessagePack.eq_of_takeBytes hbody
        exact ⟨head, hlength, hbodyLength.symm, rfl⟩

theorem read_of_next? (h : next? limit ended arrived = some (.ok body, rest)) :
    read limit arrived = (.ok body, rest) := by
  unfold next? at h
  generalize read limit arrived = r at h ⊢
  split at h
  · split at h <;> cases h
  · split at h <;> cases h
  · exact Option.some.inj h

/-- What can be read is the first of the bodies that were written, wherever the stream was cut. -/
theorem bodies_of_next? (hs : ∀ b ∈ bodies, b.length ≤ maxSize)
    (h : arrived ++ pending = stream bodies)
    (hn : next? limit ended arrived = some (.ok body, rest)) :
    ∃ bodies', bodies = body :: bodies' ∧ rest ++ pending = stream bodies' := by
  obtain ⟨head, hhead, hsize, rfl⟩ := eq_of_read (read_of_next? hn)
  cases bodies with
  | nil =>
    have hempty := congrArg List.length h
    rw [stream, List.flatMap_nil, List.length_append, List.length_append, hhead] at hempty
    simp at hempty
  | cons first bodies =>
    rw [stream_cons, ofBody, List.append_assoc, List.append_assoc, List.append_assoc] at h
    -- both sides begin with the four bytes of a length, and the lengths decide the bodies
    obtain ⟨hheads, htails⟩ := List.append_inj h (by rw [hhead, MessagePack.length_beBytes])
    have hfirst : first.length < 256 ^ 4 :=
      Nat.lt_of_le_of_lt (hs first List.mem_cons_self) (by decide)
    rw [hheads, MessagePack.ofBytes_beBytes, Nat.zero_mul, Nat.zero_add,
      Nat.mod_eq_of_lt hfirst] at hsize
    obtain ⟨rfl, hrest⟩ := List.append_inj htails hsize.symm
    exact ⟨bodies, rfl, hrest⟩

end Frame

variable {limit : Nat} {ended : Bool} {arrived pending rest : List UInt8}
  {frame : Except WireError (List UInt8)}

/-! ## Messages to the conductor -/

namespace Uplink

variable {m : Uplink} {ms : List Uplink}

/-- The message goes into a frame. -/
def IsSendable (m : Uplink) : Prop := m.encode.length ≤ Frame.maxSize

/-- The frames of messages, one after the other. -/
def framed (ms : List Uplink) : List UInt8 := Frame.stream (ms.map encode)

@[simp] theorem framed_nil : framed [] = [] := rfl

theorem framed_append (ms ms' : List Uplink) : framed (ms ++ ms') = framed ms ++ framed ms' := by
  rw [framed, List.map_append, Frame.stream_append]
  rfl

theorem framed_singleton (m : Uplink) : framed [m] = Frame.ofBody m.encode :=
  List.append_nil _

theorem ofBody_of_fits (h : m.Fits) : ofBody m.encode = .ok m := by
  rw [ofBody, decode?_encode h]

theorem ofBody_encode (h : m.IsSendable) : ofBody m.encode = .ok m :=
  ofBody_of_fits (fits_of_length (Nat.lt_of_le_of_lt h (by decide)))

theorem injOn_encode : Set.InjOn encode {m : Uplink | m.Fits} := by
  intro m hm m' hm' heq
  have hread := ofBody_of_fits hm'
  rw [← heq, ofBody_of_fits hm] at hread
  exact Except.ok.inj hread

/-- The message that can be read is the first one that was written. -/
theorem framed_of_next? (hs : ∀ m ∈ ms, m.IsSendable) (h : arrived ++ pending = framed ms)
    (hn : Frame.next? limit ended arrived = some (frame, rest)) (hm : frame.bind ofBody = .ok m) :
    ∃ ms', ms = m :: ms' ∧ rest ++ pending = framed ms' := by
  cases frame with
  | error e => cases hm
  | ok body =>
    have hsizes : ∀ b ∈ ms.map encode, b.length ≤ Frame.maxSize := by
      intro b hb
      obtain ⟨m, hm, rfl⟩ := List.mem_map.mp hb
      exact hs m hm
    obtain ⟨bodies', hbodies, hrest⟩ := Frame.bodies_of_next? hsizes h hn
    obtain ⟨first, ms', rfl, rfl, rfl⟩ := List.map_eq_cons_iff.mp hbodies
    have hfirst : ofBody first.encode = .ok m := hm
    rw [ofBody_encode (hs first List.mem_cons_self)] at hfirst
    cases hfirst
    exact ⟨ms', rfl, hrest⟩

end Uplink

/-! ## Messages to a player -/

namespace Downlink

variable {m : Downlink} {ms : List Downlink}

/-- The message goes into a frame. -/
def IsSendable (m : Downlink) : Prop := m.encode.length ≤ Frame.maxSize

/-- The frames of messages, one after the other. -/
def framed (ms : List Downlink) : List UInt8 := Frame.stream (ms.map encode)

theorem framed_append (ms ms' : List Downlink) : framed (ms ++ ms') = framed ms ++ framed ms' := by
  rw [framed, List.map_append, Frame.stream_append]
  rfl

theorem ofBody_of_fits (h : m.Fits) : ofBody m.encode = .ok m := by
  rw [ofBody, decode?_encode h]

theorem ofBody_encode (h : m.IsSendable) : ofBody m.encode = .ok m :=
  ofBody_of_fits (fits_of_length (Nat.lt_of_le_of_lt h (by decide)))

theorem injOn_encode : Set.InjOn encode {m : Downlink | m.Fits} := by
  intro m hm m' hm' heq
  have hread := ofBody_of_fits hm'
  rw [← heq, ofBody_of_fits hm] at hread
  exact Except.ok.inj hread

/-- The body that can be read is that of the first message that was written. -/
theorem framed_of_next? {body : List UInt8} (hs : ∀ m ∈ ms, m.IsSendable)
    (h : arrived ++ pending = framed ms)
    (hn : Frame.next? limit ended arrived = some (.ok body, rest)) :
    ∃ m ms', ms = m :: ms' ∧ ofBody body = .ok m ∧ rest ++ pending = framed ms' := by
  have hsizes : ∀ b ∈ ms.map encode, b.length ≤ Frame.maxSize := by
    intro b hb
    obtain ⟨m, hm, rfl⟩ := List.mem_map.mp hb
    exact hs m hm
  obtain ⟨bodies', hbodies, hrest⟩ := Frame.bodies_of_next? hsizes h hn
  obtain ⟨first, ms', rfl, rfl, rfl⟩ := List.map_eq_cons_iff.mp hbodies
  exact ⟨first, ms', rfl, ofBody_encode (hs first List.mem_cons_self), hrest⟩

end Downlink

/-! ## Both directions -/

/-- Every message whose texts are shorter than 2 ^ 32 bytes is read back from its bytes as it was,
the rate of a throttle bit for bit, and no two of those in one direction have the same bytes. -/
theorem messages_read_back :
    (∀ m : Downlink, m.Fits → Downlink.ofBody m.encode = .ok m) ∧
    (∀ m : Uplink, m.Fits → Uplink.ofBody m.encode = .ok m) ∧
    Set.InjOn Downlink.encode {m | m.Fits} ∧ Set.InjOn Uplink.encode {m | m.Fits} :=
  ⟨fun _ => Downlink.ofBody_of_fits, fun _ => Uplink.ofBody_of_fits, Downlink.injOn_encode,
    Uplink.injOn_encode⟩

/-- A throttle whose rate is a NaN, a greeting without a port, and the exit code 1, which is not
taken for the `true` of a shutdown in good order. -/
theorem messages_read_back_examples :
    let throttle : Downlink := .throttle ⟨"akka.tcp", "sys", some "h", some 2552⟩ .both ⟨0x7fc00001⟩
    let hello : Uplink := .hello "r" ⟨"akka", "sys", none, none⟩
    Downlink.ofBody throttle.encode = .ok throttle ∧ Uplink.ofBody hello.encode = .ok hello ∧
      Downlink.encode (.terminate (.code 1)) ≠ Downlink.encode (.terminate .graceful) ∧
      Uplink.encode .done ≠ hello.encode := by
  intro throttle hello
  obtain ⟨hdown, hup, hdownInj, hupInj⟩ := messages_read_back
  have hthrottle : throttle.Fits := ⟨by decide, by decide, by rintro _ ⟨⟩; decide⟩
  have hhello : hello.Fits := ⟨by decide, by decide, by decide, nofun⟩
  have hexit : ∀ x, Downlink.terminate x ∈ {m : Downlink | m.Fits} := fun _ => trivial
  have hdone : Uplink.done ∈ {m : Uplink | m.Fits} := trivial
  refine ⟨hdown throttle hthrottle, hup hello hhello, ?_, ?_⟩
  · exact (hdownInj.ne_iff (hexit (.code 1)) (hexit .graceful)).mpr (by decide)
  · exact (hupInj.ne_iff hdone hhello).mpr (by decide)

end Rendezvous
