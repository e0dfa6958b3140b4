import Rendezvous.Proofs.Wire.Stream

/-!
# Streams that are cut off

Bodies are written one after the other into one buffer (`Frame.writeAll`), and the buffer is cut off
anywhere. A reader gets back the bodies whose frames lie wholly inside what is left, and no others;
the bytes behind them tell how the stream ends (`Frame.readAll_take`). So nothing that was written
is lost, split or made up, and what is too long to be written leaves no trace
(`Frame.cut_stream_read`). The messages read are then the first of those that were written, whatever
the reader's limit (`Downlink.items_framed_take`).
-/

namespace Rendezvous.Frame

variable {limit cut : Nat} {body rest part pending : List UInt8} {bodies : List (List UInt8)}
  {α : Type} {item : List UInt8 → Except WireError α} {a : α}

/-! ## Writing into a buffer -/

/-- Writes a body behind what is in a buffer already. -/
def writeTo (buffer body : List UInt8) : Except WireError Unit × List UInt8 :=
  match write body with
  | .ok frame => (.ok (), buffer ++ frame)
  | .error e => (.error e, buffer)

/-- Writes bodies one after the other into a buffer: the answers, and the buffer in the end. -/
def writeAll (buffer : List UInt8) : List (List UInt8) → List (Except WireError Unit) × List UInt8
  | [] => ([], buffer)
  | body :: rest =>
    let (answer, buffer) := writeTo buffer body
    let (answers, buffer) := writeAll buffer rest
    (answer :: answers, buffer)

/-- Whether a body is short enough to be written. -/
def isWritable (body : List UInt8) : Bool := body.length ≤ maxSize

/-- What a writer answers. -/
def answer (body : List UInt8) : Except WireError Unit :=
  if isWritable body then .ok () else .error (.frameTooLarge body.length maxSize)

theorem writeTo_eq (buffer body : List UInt8) :
    writeTo buffer body = (answer body, buffer ++ stream ([body].filter isWritable)) := by
  unfold writeTo write answer isWritable
  by_cases h : body.length ≤ maxSize <;> simp [h, stream]

/-- The buffer gets the frames of the bodies that are written, and nothing of the others. -/
theorem writeAll_eq (buffer : List UInt8) (bodies : List (List UInt8)) :
    writeAll buffer bodies = (bodies.map answer, buffer ++ stream (bodies.filter isWritable)) := by
  induction bodies generalizing buffer with
  | nil => simp [writeAll, stream]
  | cons body rest ih =>
    rw [writeAll, writeTo_eq]
    dsimp only
    rw [ih, List.append_assoc, ← stream_append, ← List.filter_append]
    rfl

/-! ## One frame -/

theorem length_ofBody (body : List UInt8) : (ofBody body).length = 4 + body.length := by
  rw [ofBody, List.length_append, MessagePack.length_beBytes]

/-- A frame at the front of a stream is read, and what stands behind it is left. -/
theorem read_ofBody_append (hlimit : body.length ≤ limit) (hsize : body.length < 256 ^ 4)
    (rest : List UInt8) : read limit (ofBody body ++ rest) = (.ok body, rest) := by
  rw [read, ofBody, List.append_assoc, MessagePack.readNat_beBytes hsize]
  dsimp only
  rw [if_neg (Nat.not_lt.mpr hlimit), MessagePack.takeBytes_append]

theorem takeBytes_of_length_lt {n : Nat} {bs : List UInt8} (h : bs.length < n) :
    MessagePack.takeBytes n bs = none := by
  cases htake : MessagePack.takeBytes n bs with
  | none => rfl
  | some p =>
    obtain ⟨rfl, hlength⟩ := MessagePack.eq_of_takeBytes htake
    rw [List.length_append] at h
    omega

/-- Too few bytes for a length end the stream. -/
theorem read_of_length_lt (h : part.length < 4) :
    read limit part = (.error .connectionClosed, []) := by
  rw [read, MessagePack.readNat, takeBytes_of_length_lt h]
  rfl

/-- A frame that is cut off behind its length ends too early. -/
theorem read_of_prefix (hlimit : body.length ≤ limit) (hsize : body.length < 256 ^ 4)
    (hp : part <+: ofBody body) (hlength : 4 ≤ part.length)
    (hcut : part.length < (ofBody body).length) :
    read limit part = (.error .unexpectedEnd, []) := by
  obtain ⟨missing, hpart⟩ := hp
  obtain ⟨head, tail, rfl, hhead⟩ : ∃ head tail, part = head ++ tail ∧ head.length = 4 :=
    ⟨part.take 4, part.drop 4, (List.take_append_drop 4 part).symm, by simpa using hlength⟩
  rw [ofBody, List.append_assoc] at hpart
  obtain ⟨rfl, hbody⟩ := List.append_inj hpart (by rw [hhead, MessagePack.length_beBytes])
  have htail : tail.length < body.length := by
    rw [length_ofBody, List.length_append, hhead] at hcut
    omega
  rw [read, MessagePack.readNat_beBytes hsize]
  dsimp only
  rw [if_neg (Nat.not_lt.mpr hlimit), takeBytes_of_length_lt htail]

/-! ## The whole stream -/

/-- How a stream ends when so many bytes are left behind its last whole frame. -/
def endingOf (left : Nat) : WireError := if left < 4 then .connectionClosed else .unexpectedEnd

theorem readAll_error {e : WireError} (h : read limit part = (.error e, rest)) :
    readAll item limit part = ⟨[], e, rest⟩ := by
  rw [readAll]
  split
  · next h' =>
    rw [h] at h'
    cases h'
    rfl
  · next h' =>
    rw [h] at h'
    cases h'

theorem readAll_ok (h : read limit part = (.ok body, rest)) (ha : item body = .ok a) :
    readAll item limit part =
      { readAll item limit rest with items := a :: (readAll item limit rest).items } := by
  rw [readAll]
  split
  · next h' =>
    rw [h] at h'
    cases h'
  · next h' =>
    rw [h] at h'
    cases h'
    rw [ha]

/-- Of a stream that is cut off, the bodies are read whose frames lie wholly inside what is left. -/
theorem readAll_take (hb : ∀ b ∈ bodies, b.length ≤ limit ∧ b.length < 256 ^ 4) (cut : Nat) :
    ∃ whole split, bodies = whole ++ split ∧
      (stream whole).length ≤ ((stream bodies).take cut).length ∧
      (∀ b ∈ split.head?, ((stream bodies).take cut).length < (stream (whole ++ [b])).length) ∧
      readAll .ok limit ((stream bodies).take cut) =
        ⟨whole, endingOf (((stream bodies).take cut).length - (stream whole).length), []⟩ := by
  induction bodies generalizing cut with
  | nil =>
    refine ⟨[], [], rfl, Nat.zero_le _, by simp, ?_⟩
    have hnil : (stream []).take cut = [] := List.take_nil
    rw [hnil]
    exact readAll_error (read_of_length_lt (by decide))
  | cons body bodies ih =>
    obtain ⟨hlimit, hsize⟩ := hb body List.mem_cons_self
    have hframe := length_ofBody body
    rw [stream_cons]
    by_cases hcut : (ofBody body).length ≤ cut
    · -- the first frame lies inside, and the others are cut off at what is left of the cut
      obtain ⟨whole, split, rfl, hinside, houtside, hread⟩ :=
        ih (fun b hmem => hb b (List.mem_cons_of_mem body hmem)) (cut - (ofBody body).length)
      rw [List.take_append, List.take_of_length_le hcut]
      generalize (stream (whole ++ split)).take (cut - (ofBody body).length) = part
        at hinside houtside hread ⊢
      refine ⟨body :: whole, split, rfl, ?_, ?_, ?_⟩
      · rw [stream_cons, List.length_append, List.length_append]
        omega
      · intro b hmem
        have hlt := houtside b hmem
        rw [List.cons_append, stream_cons, List.length_append, List.length_append]
        omega
      · rw [readAll_ok (read_ofBody_append hlimit hsize part) rfl, hread, stream_cons,
          List.length_append, List.length_append, Nat.add_sub_add_left]
    · -- the first frame is cut off, so there is nothing more to read
      rw [List.take_append_of_le_length (Nat.le_of_not_le hcut)]
      have hlength : ((ofBody body).take cut).length = cut := by
        rw [List.length_take]
        omega
      refine ⟨[], body :: bodies, rfl, Nat.zero_le _, ?_, readAll_error ?_⟩
      · intro b hmem
        cases hmem
        rw [hlength, List.nil_append, stream_cons, List.length_append]
        omega
      · rw [hlength]
        show read limit _ = (.error (endingOf cut), [])
        unfold endingOf
        split
        · next hshort => exact read_of_length_lt (by rwa [hlength])
        · next hlong =>
          exact read_of_prefix hlimit hsize (List.take_prefix cut _) (by omega) (by omega)

/-! ## Messages in the bodies -/

variable {encode : α → List UInt8} {as : List α}

/-- What is read off the first part of a stream is the first part of what was written. -/
theorem items_prefix (has : ∀ a ∈ as, (encode a).length ≤ maxSize ∧ item (encode a) = .ok a)
    (h : part ++ pending = stream (as.map encode)) : (readAll item limit part).items <+: as := by
  induction as generalizing part with
  | nil =>
    obtain ⟨rfl, -⟩ := List.append_eq_nil_iff.mp h
    have hread : readAll item limit [] = ⟨[], .connectionClosed, []⟩ :=
      readAll_error (read_of_length_lt (by decide))
    simp [hread]
  | cons a as ih =>
    cases hread : read limit part with
    | mk result rest =>
      cases result with
      | error e =>
        rw [readAll_error hread]
        exact List.nil_prefix
      | ok body =>
        have hnext : next? limit false part = some (.ok body, rest) := by rw [next?, hread]
        have hsizes : ∀ b ∈ (a :: as).map encode, b.length ≤ maxSize := by
          intro b hb
          obtain ⟨a', ha', rfl⟩ := List.mem_map.mp hb
          exact (has a' ha').1
        obtain ⟨bodies', hbodies, hrest⟩ := bodies_of_next? hsizes h hnext
        obtain ⟨rfl, rfl⟩ := List.cons.inj hbodies
        rw [readAll_ok hread (has a List.mem_cons_self).2]
        exact List.cons_prefix_cons.mpr
          ⟨rfl, ih (fun a' ha' => has a' (List.mem_cons_of_mem a ha')) hrest⟩

/-- A stream that is not cut off is read to its end. -/
theorem items_stream (has : ∀ a ∈ as, (encode a).length ≤ maxSize ∧ item (encode a) = .ok a)
    (hlimit : maxSize ≤ limit) : (readAll item limit (stream (as.map encode))).items = as := by
  induction as with
  | nil =>
    rw [List.map_nil, stream, List.flatMap_nil, readAll_error (read_of_length_lt (by decide))]
  | cons a as ih =>
    obtain ⟨hsize, ha⟩ := has a List.mem_cons_self
    have hread := read_ofBody_append (Nat.le_trans hsize hlimit)
      (Nat.lt_of_le_of_lt hsize (by decide)) (stream (as.map encode))
    rw [List.map_cons, stream_cons, readAll_ok hread ha,
      ih fun a' ha' => has a' (List.mem_cons_of_mem a ha')]

/-! ## Written and read -/

/-- The frames of the first bodies do not get shorter with their number. -/
theorem length_stream_take_le (bodies : List (List UInt8)) {m n : Nat} (h : m ≤ n) :
    (stream (bodies.take m)).length ≤ (stream (bodies.take n)).length := by
  have hsplit := List.take_append_drop m (bodies.take n)
  rw [List.take_take, Nat.min_eq_left h] at hsplit
  rw [← hsplit, stream_append, List.length_append]
  exact Nat.le_add_right _ _

/-- Whatever bodies are written into one buffer, those that are too long are refused and leave no
byte in it. If the buffer is cut off anywhere, a reader with a limit that refuses none of the others
gets those that lie wholly inside the rest, in order: the first `k` bodies are among those read just
if their frames fit in there. Then the stream ends, as closed if fewer than four bytes were left and
else in the middle of a frame, and no byte is left unread. -/
theorem cut_stream_read (bodies : List (List UInt8)) (limit cut : Nat)
    (hlimit : ∀ b ∈ bodies, b.length ≤ maxSize → b.length ≤ limit) :
    let answers := (writeAll [] bodies).1
    let buffer := (writeAll [] bodies).2
    let accepted := bodies.filter (·.length ≤ maxSize)
    let rest := buffer.take cut
    let reading := readAll .ok limit rest
    answers = bodies.map (fun b =>
      if b.length ≤ maxSize then .ok () else .error (.frameTooLarge b.length maxSize)) ∧
    buffer = accepted.flatMap ofBody ∧
    reading.items <+: accepted ∧
    (∀ k ≤ accepted.length,
      k ≤ reading.items.length ↔ ((accepted.take k).flatMap ofBody).length ≤ rest.length) ∧
    reading.ending = (if rest.length - (reading.items.flatMap ofBody).length < 4
      then .connectionClosed else .unexpectedEnd) ∧
    reading.left = [] := by
  intro answers buffer accepted rest reading
  have hwritten := writeAll_eq [] bodies
  have hbuffer : buffer = stream accepted := congrArg Prod.snd hwritten
  have hanswers : answers = bodies.map answer := congrArg Prod.fst hwritten
  have hfits : ∀ b ∈ accepted, b.length ≤ limit ∧ b.length < 256 ^ 4 := by
    intro b hb
    obtain ⟨hmem, hle⟩ := List.mem_filter.mp hb
    have hle : b.length ≤ maxSize := of_decide_eq_true hle
    exact ⟨hlimit b hmem hle, Nat.lt_of_le_of_lt hle (by decide)⟩
  obtain ⟨whole, split, hsplit, hinside, houtside, hread⟩ := readAll_take hfits cut
  rw [← hbuffer] at hinside houtside hread
  have hitems : reading.items = whole := congrArg Reading.items hread
  refine ⟨?_, hbuffer, ?_, ?_, ?_, congrArg Reading.left hread⟩
  · rw [hanswers]
    refine List.map_congr_left fun b _ => ?_
    simp [answer, isWritable]
  · rw [hitems, hsplit]
    exact List.prefix_append whole split
  · intro k hk
    rw [hitems]
    constructor
    · intro hle
      have hmono := length_stream_take_le accepted hle
      rw [show accepted.take whole.length = whole by rw [hsplit, List.take_left]] at hmono
      exact Nat.le_trans hmono hinside
    · intro hle
      by_contra hlt
      cases split with
      | nil =>
        rw [hsplit, List.append_nil] at hk
        exact hlt hk
      | cons b split =>
        have hfirst : accepted.take (whole.length + 1) = whole ++ [b] := by
          rw [hsplit, List.take_length_add_append]
          rfl
        have hmono := length_stream_take_le accepted (Nat.lt_of_not_le hlt)
        rw [Nat.succ_eq_add_one, hfirst] at hmono
        exact absurd (Nat.le_trans hmono hle) (Nat.not_le.mpr (houtside b rfl))
  · rw [hitems]
    exact congrArg Reading.ending hread

/-- Three bodies of which the last one is cut off behind its length; a fourth was too long. -/
theorem cut_stream_read_four :
    let long := List.replicate 65537 0
    let bodies := [[7], long, [], [1, 2, 3]]
    let reading := readAll .ok 3 ((writeAll [] bodies).2.take 13)
    reading.items = [[7], []] ∧ reading.ending = .unexpectedEnd ∧ reading.left = [] := by
  intro long bodies reading
  have hlong : long.length = 65537 := List.length_replicate
  clear_value long
  have hlimit : ∀ b ∈ bodies, b.length ≤ maxSize → b.length ≤ 3 := by
    simp [bodies, maxSize, hlong]
  have haccepted : bodies.filter (·.length ≤ maxSize) = [[7], [], [1, 2, 3]] := by
    simp [bodies, maxSize, hlong]
  obtain ⟨-, hbuffer, hprefix, hinside, hending, hleft⟩ := cut_stream_read bodies 3 13 hlimit
  rw [haccepted] at hbuffer hprefix hinside
  have hlength : ((writeAll [] bodies).2.take 13).length = 13 := by
    rw [hbuffer]
    rfl
  have htwo : 2 ≤ reading.items.length := (hinside 2 (by decide)).mpr (by rw [hlength]; decide)
  have hthree : ¬3 ≤ reading.items.length := by
    rw [hinside 3 (by decide), hlength]
    decide
  have hitems : reading.items = [[7], []] := by
    rw [List.prefix_iff_eq_take.mp hprefix, show reading.items.length = 2 by omega]
    rfl
  refine ⟨hitems, hending.trans ?_, hleft⟩
  rw [hlength, show readAll .ok 3 _ = reading from rfl, hitems]
  rfl

end Rendezvous.Frame

namespace Rendezvous.Downlink

variable {ms : List Downlink}

/-- Wherever a stream of messages is cut off, the messages read are the first of those written. -/
theorem items_framed_take (hs : ∀ m ∈ ms, m.IsSendable) (limit cut : Nat) :
    (Frame.readAll ofBody limit ((framed ms).take cut)).items <+: ms :=
  Frame.items_prefix (fun m hm => ⟨hs m hm, ofBody_encode (hs m hm)⟩)
    (List.take_append_drop cut (framed ms))

theorem items_framed (hs : ∀ m ∈ ms, m.IsSendable) {limit : Nat} (hlimit : Frame.maxSize ≤ limit) :
    (Frame.readAll ofBody limit (framed ms)).items = ms :=
  Frame.items_stream (fun m hm => ⟨hs m hm, ofBody_encode (hs m hm)⟩) hlimit

end Rendezvous.Downlink
