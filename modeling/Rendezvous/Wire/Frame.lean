import Rendezvous.Wire.Decode

/-!
# Frames

On a byte stream every message travels in a frame: its length in four bytes, highest first, and its
bytes. A writer refuses what is longer than `maxSize` before it writes anything; a reader refuses
what is longer than its own limit right behind the length.
-/

namespace Rendezvous

/-- The ways in which reading and writing messages fails. -/
inductive WireError where
  /-- The bytes are no message of the expected direction. -/
  | undecodable
  | frameTooLarge (size limit : Nat)
  /-- The stream ended before a frame. -/
  | connectionClosed
  /-- The stream ended inside a frame. -/
  | unexpectedEnd
  /-- The other side takes no more bytes. -/
  | brokenPipe
deriving DecidableEq, Repr, Inhabited

/-- The wording of the error, where it does not depend on the platform. -/
def WireError.message? : WireError → Option String
  | frameTooLarge size limit =>
    some (s!"frame too large: {size} bytes (limit: {limit} bytes)")
  | connectionClosed => some "connection closed"
  | undecodable | unexpectedEnd | brokenPipe => none

namespace Frame

/-- The longest body that is written. -/
def maxSize : Nat := 65536

/-- The frame of a body, which may be of any length below `2 ^ 32`. -/
def ofBody (body : List UInt8) : List UInt8 := MessagePack.beBytes 4 body.length ++ body

/-- The frame of a body that is not too long to be written. -/
def write (body : List UInt8) : Except WireError (List UInt8) :=
  if body.length ≤ maxSize then .ok (ofBody body)
  else .error (.frameTooLarge body.length maxSize)

/-- Reads the body of one frame off a stream that has ended behind the given bytes, with the bytes
that are left unread on both outcomes. -/
def read (limit : Nat) (stream : List UInt8) : Except WireError (List UInt8) × List UInt8 :=
  match MessagePack.readNat 4 stream with
  | none => (.error .connectionClosed, [])
  | some (size, rest) =>
    if limit < size then (.error (.frameTooLarge size limit), rest)
    else match MessagePack.takeBytes size rest with
      | none => (.error .unexpectedEnd, [])
      | some (body, rest) => (.ok body, rest)

theorem length_lt_of_takeBytes {n : Nat} {bs xs rest : List UInt8} (hn : 0 < n)
    (h : MessagePack.takeBytes n bs = some (xs, rest)) : rest.length < bs.length := by
  obtain ⟨rfl, hx⟩ := MessagePack.eq_of_takeBytes h
  simp only [List.length_append]
  omega

/-- Reading a frame consumes bytes. -/
theorem length_lt_of_read {limit : Nat} {stream body rest : List UInt8}
    (h : read limit stream = (.ok body, rest)) : rest.length < stream.length := by
  unfold read at h
  split at h
  · simp at h
  · next size r hr =>
    unfold MessagePack.readNat at hr
    simp only [Option.map_eq_some_iff, Prod.mk.injEq] at hr
    obtain ⟨⟨p, q⟩, hp, _, rfl⟩ := hr
    have hlt := length_lt_of_takeBytes (by decide) hp
    split at h
    · simp at h
    · split at h
      · simp at h
      · next b r' hb =>
        simp only [Prod.mk.injEq, Except.ok.injEq] at h
        obtain ⟨rfl, rfl⟩ := h
        obtain ⟨rfl, _⟩ := MessagePack.eq_of_takeBytes hb
        simp only [List.length_append] at hlt
        omega

/-- Reads the body of one frame off a stream that may go on: nothing as long as the frame is not
complete and the stream has not ended. -/
def next? (limit : Nat) (ended : Bool) (stream : List UInt8) :
    Option (Except WireError (List UInt8) × List UInt8) :=
  match read limit stream with
  | (.error .connectionClosed, rest) =>
    if ended then some (.error .connectionClosed, rest) else none
  | (.error .unexpectedEnd, rest) =>
    if ended then some (.error .unexpectedEnd, rest) else none
  | r => some r

/-- What is read off a stream: the items in order, the error that ends it and what is left. -/
structure Reading (α : Type) where
  items : List α
  ending : WireError
  left : List UInt8

/-- Reads frames and what they hold until something fails. -/
def readAll {α : Type} (item : List UInt8 → Except WireError α) (limit : Nat)
    (stream : List UInt8) : Reading α :=
  match h : read limit stream with
  | (.error e, rest) => ⟨[], e, rest⟩
  | (.ok body, rest) =>
    match item body with
    | .error e => ⟨[], e, rest⟩
    | .ok a =>
      have := length_lt_of_read h
      let more := readAll item limit rest
      { more with items := a :: more.items }
termination_by stream.length

end Frame

/-! ## Messages in frames -/

/-- A message to a player from the body of a frame. -/
def Downlink.ofBody (body : List UInt8) : Except WireError Downlink :=
  match decode? body with
  | some m => .ok m
  | none => .error .undecodable

/-- A message to the conductor from the body of a frame. -/
def Uplink.ofBody (body : List UInt8) : Except WireError Uplink :=
  match decode? body with
  | some m => .ok m
  | none => .error .undecodable

end Rendezvous
