import Rendezvous.Transport.Scripted

/-!
# Receptions

A reception plays with a scripted transport alone. Whoever receives may have to wait; those who wait
are served in the order in which they began, after every step, as far as there is something for
them.
-/

namespace Rendezvous

namespace Reception

/-- What is done in one step. -/
inductive Step where
  | queue (bytes : List UInt8)
  | closeRemote
  | failConnect (detail : String)
  | failSend (detail : String)
  | failReceive (detail : String)
  | connect (address : String)
  | send (bytes : List UInt8)
  | close
  /-- Somebody begins to receive. -/
  | receive (label : String)

/-- The answer to a step: its result if it has one, the transport behind it, and what was received
since the last step. -/
structure Entry where
  result : Option (Except TransportError Unit)
  transport : Scripted
  done : List (String × Except TransportError (List UInt8))

end Reception

open Reception

/-- The state of a reception. -/
structure Reception where
  transport : Scripted := {}
  /-- Those who wait, oldest first. -/
  receivers : List String := []

namespace Reception

/-- Does what a step says. -/
def act (r : Reception) : Step → Reception × Option (Except TransportError Unit)
  | .queue bytes => ({ r with transport := r.transport.enqueue bytes }, none)
  | .closeRemote => ({ r with transport := r.transport.closeRemote }, none)
  | .failConnect detail => ({ r with transport := r.transport.failNextConnect detail }, none)
  | .failSend detail => ({ r with transport := r.transport.failNextSend detail }, none)
  | .failReceive detail => ({ r with transport := r.transport.failNextReceive detail }, none)
  | .connect address =>
    let (result, transport) := r.transport.connect address
    ({ r with transport }, some result)
  | .send bytes =>
    let (result, transport) := r.transport.send bytes
    ({ r with transport }, some result)
  | .close =>
    let (result, transport) := r.transport.close
    ({ r with transport }, some result)
  | .receive label => ({ r with receivers := r.receivers ++ [label] }, none)

/-- Serves those who wait, each of them once: what they receive, those who still wait, and the
transport behind that. -/
def serve : List String → Scripted →
    List (String × Except TransportError (List UInt8)) × List String × Scripted
  | [], t => ([], [], t)
  | label :: rest, t =>
    match t.receive? with
    | some (result, t) =>
      let (done, waiting, t) := serve rest t
      ((label, result) :: done, waiting, t)
    | none => ([], label :: rest, t)

/-- Plays one step. -/
def play (r : Reception) (s : Step) : Reception × Entry :=
  let (r, result) := r.act s
  let (done, receivers, transport) := serve r.receivers r.transport
  ({ transport, receivers }, { result, transport, done })

/-- Plays a script. -/
def playAll (r : Reception) : List Step → Reception × List Entry
  | [] => (r, [])
  | s :: rest =>
    let (r, entry) := r.play s
    let (r, entries) := r.playAll rest
    (r, entry :: entries)

/-- Those who still wait, sorted. -/
def unresolved (r : Reception) : List String := r.receivers.mergeSort fun a b => !(b < a)

end Reception

end Rendezvous
