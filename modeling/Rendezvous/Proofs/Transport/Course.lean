import Mathlib.Data.List.Induction
import Rendezvous.Transport.Scripted

/-!
# The course of a scripted transport

Whatever is done to a scripted transport and whatever it answers is put down, one event after the
other (`Course`). What the transport holds can then be told from the events alone: what is still to
be received is what was queued and not received yet, whether it is connected is what the last event
says that is about the connection, and the next call of a kind fails if a failure was set up for it
and no call has met that one (`Sound`). From this follows what the next call is answered
(`stream_kept`): nothing that is queued is lost, received twice or in another order, whatever fails
and however often the connection is closed and made again.
-/

namespace Rendezvous.Scripted

/-! ## Operations and answers -/

/-- The calls that a script can make fail. -/
inductive CallKind where
  | connect
  | send
  | receive
deriving DecidableEq

/-- What is done to a scripted transport. Whoever receives looks for something to receive, and who
has to wait looks again later: a call that waits is a row of looks of which only the last one is
answered. So the looks of any number of callers may come in any order. -/
inductive Operation where
  | enqueue (bytes : List UInt8)
  | closeRemote
  | failNext (kind : CallKind) (detail : String)
  | connect (address : String)
  | send (bytes : List UInt8)
  | look
  | close
deriving DecidableEq

/-- What is answered. -/
inductive Answer where
  /-- The script goes on. -/
  | noted
  | finished (result : Except TransportError Unit)
  | received (result : Except TransportError (List UInt8))
  /-- There is nothing to receive yet. -/
  | waits
deriving DecidableEq

/-- The kind of a call. -/
def Operation.kind? : Operation → Option CallKind
  | connect _ => some .connect
  | send _ => some .send
  | look => some .receive
  | _ => none

/-- The error with which a call fails. -/
def Answer.error? : Answer → Option TransportError
  | finished (.error e) => some e
  | received (.error e) => some e
  | _ => none

namespace CallKind

/-- The error of a call that a script makes fail. -/
def failure (detail : String) : CallKind → TransportError
  | connect => .connectionFailed (some detail)
  | send => .sendFailed (some detail)
  | receive => .receiveFailed (some detail)

/-- The detail with which a script has made a call fail. -/
def detail? : CallKind → TransportError → Option String
  | connect, .connectionFailed detail => detail
  | send, .sendFailed detail => detail
  | receive, .receiveFailed detail => detail
  | _, _ => none

/-- The answer to a call that fails. -/
def failed (e : TransportError) : CallKind → Answer
  | connect => .finished (.error e)
  | send => .finished (.error e)
  | receive => .received (.error e)

end CallKind

/-- The failure that a call of a kind will meet. -/
def failure? (t : Scripted) : CallKind → Option String
  | .connect => t.failConnect
  | .send => t.failSend
  | .receive => t.failReceive

/-- Sets the failure that a call of a kind will meet. -/
def setFailure (t : Scripted) (detail? : Option String) : CallKind → Scripted
  | .connect => { t with failConnect := detail? }
  | .send => { t with failSend := detail? }
  | .receive => { t with failReceive := detail? }

/-- The answer of a transport, and the transport behind it. -/
def step (t : Scripted) : Operation → Answer × Scripted
  | .enqueue bytes => (.noted, t.enqueue bytes)
  | .closeRemote => (.noted, t.closeRemote)
  | .failNext .connect detail => (.noted, t.failNextConnect detail)
  | .failNext .send detail => (.noted, t.failNextSend detail)
  | .failNext .receive detail => (.noted, t.failNextReceive detail)
  | .connect address => (.finished (t.connect address).1, (t.connect address).2)
  | .send bytes => (.finished (t.send bytes).1, (t.send bytes).2)
  | .look => (t.receive?.elim .waits (.received ·.1), t.receive?.elim t (·.2))
  | .close => (.finished t.close.1, t.close.2)

/-! ## Events -/

/-- Something that is done, and what is answered. -/
structure Event where
  operation : Operation
  answer : Answer
deriving DecidableEq

namespace Event

/-- The bytes that are queued. -/
def queued? (e : Event) : Option (List UInt8) :=
  match e.operation with
  | .enqueue bytes => some bytes
  | _ => none

/-- The bytes that are received. -/
def received? (e : Event) : Option (List UInt8) :=
  match e.answer with
  | .received (.ok bytes) => some bytes
  | _ => none

/-- The bytes that are sent. -/
def sent? (e : Event) : Option (List UInt8) :=
  match e.operation, e.answer with
  | .send bytes, .finished (.ok ()) => some bytes
  | _, _ => none

/-- The detail of a failure that is set up for calls of a kind. -/
def injected? (kind : CallKind) (e : Event) : Option String :=
  match e.operation with
  | .failNext k detail => if k = kind then some detail else none
  | _ => none

/-- The detail with which a call of a kind is made to fail. -/
def struck? (kind : CallKind) (e : Event) : Option String :=
  if e.operation.kind? = some kind then e.answer.error?.bind kind.detail? else none

/-- What is left for the next call of a kind to meet, if anything is said about that. -/
def pending? (kind : CallKind) (e : Event) : Option (Option String) :=
  ((e.injected? kind).map some).or ((e.struck? kind).map fun _ => none)

/-- Whether the transport is connected, if anything is said about that. -/
def online? (e : Event) : Option Bool :=
  match e.operation, e.answer with
  | .connect _, .finished (.ok ()) => some true
  | .close, _ => some false
  | .look, .received (.error .connectionClosed) => some false
  | _, _ => none

/-- The newest answer of some events. -/
def newest {α : Type} (f : Event → Option α) (events : List Event) : Option α :=
  events.reverse.findSome? f

@[simp]
theorem newest_concat {α : Type} (f : Event → Option α) (events : List Event) (e : Event) :
    newest f (events ++ [e]) = (f e).or (newest f events) := by
  rw [newest, List.reverse_append, List.reverse_singleton, List.singleton_append,
    List.findSome?_cons]
  cases f e <;> rfl

end Event

/-! ## Courses -/

/-- A transport, and what was done to it and answered so far. -/
structure Course where
  transport : Scripted := {}
  events : List Event := []

namespace Course

/-- What an operation is answered next. -/
def answer (c : Course) (op : Operation) : Answer := (c.transport.step op).1

/-- The course behind an operation. -/
def after (c : Course) (op : Operation) : Course where
  transport := (c.transport.step op).2
  events := c.events ++ [⟨op, c.answer op⟩]

/-- The course behind some operations. -/
def through (c : Course) (ops : List Operation) : Course := ops.foldl after c

theorem through_append (c : Course) (ops ops' : List Operation) :
    c.through (ops ++ ops') = (c.through ops).through ops' :=
  List.foldl_append

/-- The course of a new transport. -/
def of (ops : List Operation) : Course := ({} : Course).through ops

@[simp]
theorem of_concat (ops : List Operation) (op : Operation) :
    of (ops ++ [op]) = (of ops).after op :=
  through_append {} ops [op]

/-- What was queued, in order. -/
def queued (c : Course) : List (List UInt8) := c.events.filterMap Event.queued?

/-- What was received, in order. -/
def received (c : Course) : List (List UInt8) := c.events.filterMap Event.received?

/-- What was sent, in order. -/
def sent (c : Course) : List (List UInt8) := c.events.filterMap Event.sent?

/-- The failures that were set up for calls of a kind, in order. -/
def injected (c : Course) (kind : CallKind) : List String := c.events.filterMap (·.injected? kind)

/-- The failures that calls of a kind have met, in order. -/
def struck (c : Course) (kind : CallKind) : List String := c.events.filterMap (·.struck? kind)

/-- The failure that was set up last for a kind of calls, if no call has met it. -/
def pending (c : Course) (kind : CallKind) : Option String :=
  (Event.newest (·.pending? kind) c.events).join

/-- Whether the connection that was made last has not been closed. -/
def online (c : Course) : Bool := (Event.newest Event.online? c.events).getD false

/-- Whether the other side has closed the connection. -/
def hungUp (c : Course) : Bool := c.events.any (·.operation = .closeRemote)

end Course

/-! ## One operation -/

/-- What an operation comes to. -/
inductive Step (t : Scripted) : Event → Scripted → Prop
  | enqueued (bytes) : Step t ⟨.enqueue bytes, .noted⟩ { t with queue := t.queue ++ [bytes] }
  | hungUp : Step t ⟨.closeRemote, .noted⟩ { t with remoteClosed := true }
  | injected (kind detail) :
    Step t ⟨.failNext kind detail, .noted⟩ (t.setFailure (some detail) kind)
  /-- A call that needs no connection, or has one, meets the failure that was set up for it. -/
  | struck {op detail} (kind) (hk : op.kind? = some kind)
    (hl : kind = .connect ∨ t.connected = true) (h : t.failure? kind = some detail) :
    Step t ⟨op, kind.failed (kind.failure detail)⟩ (t.setFailure none kind)
  | offline {op} (kind) (hk : op.kind? = some kind) (hne : kind ≠ .connect)
    (hl : t.connected = false) : Step t ⟨op, kind.failed .notConnected⟩ t
  | connected (address) (h : t.failure? .connect = none) :
    Step t ⟨.connect address, .finished (.ok ())⟩ { t with connected := true, peer := some address }
  | sent (bytes) (hl : t.connected = true) (h : t.failure? .send = none) :
    Step t ⟨.send bytes, .finished (.ok ())⟩ { t with sent := t.sent ++ [bytes] }
  | received {bytes rest} (hl : t.connected = true) (h : t.failure? .receive = none)
    (hq : t.queue = bytes :: rest) :
    Step t ⟨.look, .received (.ok bytes)⟩ { t with queue := rest }
  | ended (hl : t.connected = true) (h : t.failure? .receive = none) (hq : t.queue = [])
    (hr : t.remoteClosed = true) :
    Step t ⟨.look, .received (.error .connectionClosed)⟩ { t with connected := false }
  | waits (hl : t.connected = true) (h : t.failure? .receive = none) (hq : t.queue = [])
    (hr : t.remoteClosed = false) : Step t ⟨.look, .waits⟩ t
  | closed : Step t ⟨.close, .finished (.ok ())⟩ { t with connected := false }

variable {t t' : Scripted} {e : Event} {kind k : CallKind} {detail? : Option String}

theorem step_connect (t : Scripted) (address : String) :
    t.Step ⟨.connect address, .finished (t.connect address).1⟩ (t.connect address).2 := by
  unfold connect
  split
  · next detail h => exact .struck .connect rfl (Or.inl rfl) h
  · next h => exact .connected address h

theorem step_send (t : Scripted) (bytes : List UInt8) :
    t.Step ⟨.send bytes, .finished (t.send bytes).1⟩ (t.send bytes).2 := by
  unfold send
  split
  · next hl => exact .offline .send rfl nofun (by simpa using hl)
  · next hl =>
    have hl : t.connected = true := by simpa using hl
    split
    · next detail h => exact .struck .send rfl (Or.inr hl) h
    · next h => exact .sent bytes hl h

theorem step_look (t : Scripted) :
    t.Step ⟨.look, t.receive?.elim .waits (.received ·.1)⟩ (t.receive?.elim t (·.2)) := by
  unfold receive?
  split
  · next hl => exact .offline .receive rfl nofun (by simpa using hl)
  · next hl =>
    have hl : t.connected = true := by simpa using hl
    split
    · next detail h => exact .struck .receive rfl (Or.inr hl) h
    · next h =>
      split
      · next bytes rest hq => exact .received hl h hq
      · next hq =>
        split
        · next hr => exact .ended hl h hq hr
        · next hr => exact .waits hl h hq (Bool.eq_false_iff.mpr hr)

theorem step_step (t : Scripted) (op : Operation) :
    t.Step ⟨op, (t.step op).1⟩ (t.step op).2 := by
  cases op with
  | enqueue bytes => exact .enqueued bytes
  | closeRemote => exact .hungUp
  | failNext kind detail => cases kind <;> exact .injected _ detail
  | connect address => exact t.step_connect address
  | send bytes => exact t.step_send bytes
  | look => exact t.step_look
  | close => exact .closed

/-! ## What an operation changes -/

@[simp]
theorem queue_setFailure : (t.setFailure detail? kind).queue = t.queue := by cases kind <;> rfl

@[simp]
theorem sent_setFailure : (t.setFailure detail? kind).sent = t.sent := by cases kind <;> rfl

@[simp]
theorem connected_setFailure : (t.setFailure detail? kind).connected = t.connected := by
  cases kind <;> rfl

@[simp]
theorem remoteClosed_setFailure : (t.setFailure detail? kind).remoteClosed = t.remoteClosed := by
  cases kind <;> rfl

theorem failure?_setFailure :
    (t.setFailure detail? kind).failure? k = if k = kind then detail? else t.failure? k := by
  cases kind <;> cases k <;> rfl

/-! ### Calls that fail -/

section Failed

variable {op : Operation} {x : TransportError} (hk : op.kind? = some kind)
include hk

theorem Event.queued?_failed : Event.queued? ⟨op, kind.failed x⟩ = none := by
  cases op <;> cases hk <;> rfl

theorem Event.received?_failed : Event.received? ⟨op, kind.failed x⟩ = none := by
  cases op <;> cases hk <;> rfl

theorem Event.sent?_failed : Event.sent? ⟨op, kind.failed x⟩ = none := by
  cases op <;> cases hk <;> rfl

theorem Event.injected?_failed : Event.injected? k ⟨op, kind.failed x⟩ = none := by
  cases op <;> cases hk <;> rfl

theorem Event.struck?_failed :
    Event.struck? k ⟨op, kind.failed x⟩ = if k = kind then kind.detail? x else none := by
  cases op <;> cases hk <;> cases k <;> rfl

theorem Event.online?_failed (hx : x ≠ .connectionClosed) :
    Event.online? ⟨op, kind.failed x⟩ = none := by
  cases op <;> cases hk
  · rfl
  · rfl
  · cases x with
    | connectionClosed => exact absurd rfl hx
    | _ => rfl

theorem Operation.ne_closeRemote : op ≠ .closeRemote := by
  rintro rfl
  cases hk

end Failed

@[simp]
theorem CallKind.detail?_failure (kind : CallKind) (detail : String) :
    kind.detail? (kind.failure detail) = some detail := by
  cases kind <;> rfl

@[simp]
theorem CallKind.detail?_notConnected (kind : CallKind) : kind.detail? .notConnected = none := by
  cases kind <;> rfl

theorem CallKind.failure_ne_connectionClosed (kind : CallKind) (detail : String) :
    kind.failure detail ≠ .connectionClosed := by
  cases kind <;> exact nofun

/-! ### All operations -/

/-- What was to be received, and what is queued now, is received now or still to be received. -/
theorem Step.stream (h : t.Step e t') :
    e.received?.toList ++ t'.queue = t.queue ++ e.queued?.toList := by
  cases h with
  | struck _ hk | offline _ hk =>
    simp [Event.received?_failed hk, Event.queued?_failed hk]
  | received _ _ hq => simp [Event.received?, Event.queued?, hq]
  | _ => simp [Event.received?, Event.queued?]

theorem Step.sent_eq (h : t.Step e t') : t'.sent = t.sent ++ e.sent?.toList := by
  cases h with
  | struck _ hk | offline _ hk => simp [Event.sent?_failed hk]
  | _ => simp [Event.sent?]

theorem Step.remoteClosed_eq (h : t.Step e t') :
    t'.remoteClosed = (t.remoteClosed || e.operation = .closeRemote) := by
  cases h with
  | struck _ hk | offline _ hk => simp [Operation.ne_closeRemote hk]
  | _ => simp

theorem Step.connected_eq (h : t.Step e t') : t'.connected = e.online?.getD t.connected := by
  cases h with
  | struck kind hk =>
    simp [Event.online?_failed hk (kind.failure_ne_connectionClosed _)]
  | offline _ hk => simp [Event.online?_failed hk]
  | _ => simp [Event.online?]

/-- The failure that the next call of a kind will meet is the one that is set up for it now, or
there is none if a call meets it now. -/
theorem Step.failure?_eq (h : t.Step e t') :
    t'.failure? k = (e.pending? k).getD (t.failure? k) := by
  cases h with
  | injected kind detail =>
    rw [failure?_setFailure]
    by_cases hk : k = kind
    · simp [Event.pending?, Event.injected?, hk]
    · simp [Event.pending?, Event.injected?, Event.struck?, Operation.kind?, hk, Ne.symm hk]
  | struck kind hk =>
    rw [failure?_setFailure, Event.pending?, Event.injected?_failed hk, Event.struck?_failed hk]
    split <;> simp
  | offline kind hk =>
    simp [Event.pending?, Event.injected?_failed hk, Event.struck?_failed hk]
  | _ => cases k <;> rfl

/-- A call meets the failure that was set up for it, and no other. -/
theorem Step.failures (h : t.Step e t') :
    ((e.struck? k).toList ++ (t'.failure? k).toList).Sublist
      ((t.failure? k).toList ++ (e.injected? k).toList) := by
  cases h with
  | injected kind detail =>
    rw [failure?_setFailure]
    by_cases hk : k = kind
    · simp [Event.struck?, Event.injected?, Operation.kind?, hk]
    · simp [Event.struck?, Event.injected?, Operation.kind?, hk, Ne.symm hk]
  | struck kind hk _ hd =>
    rw [failure?_setFailure, Event.injected?_failed hk, Event.struck?_failed hk]
    split
    · next he => simp [he, hd]
    · simp
  | offline kind hk => simp [Event.injected?_failed hk, Event.struck?_failed hk]
  | _ =>
    cases k <;>
      simp [Event.struck?, Event.injected?, Answer.error?, CallKind.detail?, failure?]

/-! ## What is answered -/

/-- Why a call fails. -/
inductive Fails (t : Scripted) : Operation → TransportError → Prop
  | struck {op detail} (kind) (hk : op.kind? = some kind)
    (hl : kind = .connect ∨ t.connected = true) (h : t.failure? kind = some detail) :
    Fails t op (kind.failure detail)
  | offline {op} (kind) (hk : op.kind? = some kind) (hne : kind ≠ .connect)
    (hl : t.connected = false) : Fails t op .notConnected
  | ended (hl : t.connected = true) (h : t.failure? .receive = none) (hq : t.queue = [])
    (hr : t.remoteClosed = true) : Fails t .look .connectionClosed

variable {op : Operation} {x : TransportError} {bytes : List UInt8}

@[simp]
theorem CallKind.error?_failed (kind : CallKind) (x : TransportError) :
    (kind.failed x).error? = some x := by
  cases kind <;> rfl

theorem Step.fails (h : t.Step e t') (hx : e.answer.error? = some x) : t.Fails e.operation x := by
  cases h with
  | struck kind hk hl hd =>
    rw [CallKind.error?_failed] at hx
    cases hx
    exact .struck kind hk hl hd
  | offline kind hk hne hl =>
    rw [CallKind.error?_failed] at hx
    cases hx
    exact .offline kind hk hne hl
  | ended hl h hq hr =>
    cases hx
    exact .ended hl h hq hr
  | _ => cases hx

theorem error?_step_eq_some_iff : (t.step op).1.error? = some x ↔ t.Fails op x := by
  refine ⟨(t.step_step op).fails, fun h => ?_⟩
  cases h with
  | struck kind hk hl h =>
    cases op <;> cases hk <;>
      simp_all [step, connect, send, receive?, failure?, Answer.error?, CallKind.failure]
  | offline kind hk hne hl =>
    cases op <;> cases hk <;> simp_all [step, send, receive?, Answer.error?]
  | ended hl h hq hr => simp_all [step, receive?, failure?, Answer.error?]

theorem CallKind.failed_ne {kind : CallKind} {a : Answer} (ha : a.error? = none) :
    kind.failed x ≠ a := by
  rintro rfl
  simp at ha

theorem Step.of_received (h : t.Step e t') (hx : e.answer = .received (.ok bytes)) :
    t.connected = true ∧ t.failure? .receive = none ∧ ∃ rest, t.queue = bytes :: rest := by
  cases h with
  | struck | offline => exact absurd hx (CallKind.failed_ne rfl)
  | received hl h hq =>
    cases hx
    exact ⟨hl, h, _, hq⟩
  | _ => cases hx

theorem Step.of_waits (h : t.Step e t') (hx : e.answer = .waits) :
    t.connected = true ∧ t.failure? .receive = none ∧ t.queue = [] ∧ t.remoteClosed = false := by
  cases h with
  | struck | offline => exact absurd hx (CallKind.failed_ne rfl)
  | waits hl h hq hr => exact ⟨hl, h, hq, hr⟩
  | _ => cases hx

theorem Step.connected_of_ended (h : t.Step e t')
    (hx : e.answer.error? = some .connectionClosed) : t'.connected = false := by
  cases h with
  | struck kind => exact absurd (by simpa using hx) (kind.failure_ne_connectionClosed _)
  | offline => simp at hx
  | ended | closed => rfl
  | _ => cases hx

theorem look_eq_received_iff : (t.step .look).1 = .received (.ok bytes) ↔
    t.connected = true ∧ t.failure? .receive = none ∧ ∃ rest, t.queue = bytes :: rest := by
  refine ⟨(t.step_step .look).of_received, ?_⟩
  rintro ⟨hl, h, rest, hq⟩
  simp_all [step, receive?, failure?]

theorem look_eq_waits_iff : (t.step .look).1 = .waits ↔
    t.connected = true ∧ t.failure? .receive = none ∧ t.queue = [] ∧ t.remoteClosed = false := by
  refine ⟨(t.step_step .look).of_waits, ?_⟩
  rintro ⟨hl, h, hq, hr⟩
  simp_all [step, receive?, failure?]

/-! ## Courses -/

namespace Course

/-- What the events of a course say of its transport. -/
structure Sound (c : Course) : Prop where
  /-- What was received is the beginning of what was queued, and the rest is still to come. -/
  stream : c.received ++ c.transport.queue = c.queued
  /-- What was sent is kept, and nothing else. -/
  sent : c.transport.sent = c.sent
  /-- The failures that calls of a kind have met, and the one that the next will meet, are among
  those that were set up for that kind, each of them once and in that order. -/
  failures : ∀ kind,
    (c.struck kind ++ (c.transport.failure? kind).toList).Sublist (c.injected kind)
  pending : ∀ kind, c.transport.failure? kind = c.pending kind
  online : c.transport.connected = c.online
  hungUp : c.transport.remoteClosed = c.hungUp

theorem sound_new : ({} : Course).Sound where
  stream := rfl
  sent := rfl
  failures kind := by cases kind <;> exact List.Sublist.refl _
  pending kind := by cases kind <;> rfl
  online := rfl
  hungUp := rfl

variable {c : Course}

theorem filterMap_after {α : Type} (f : Event → Option α) (c : Course) (op : Operation) :
    (c.after op).events.filterMap f = c.events.filterMap f ++ (f ⟨op, c.answer op⟩).toList := by
  rw [after, List.filterMap_append]
  cases h : f ⟨op, c.answer op⟩ <;> simp [h]

theorem Sound.after (h : c.Sound) (op : Operation) : (c.after op).Sound := by
  have hs : c.transport.Step ⟨op, c.answer op⟩ (c.after op).transport := c.transport.step_step op
  refine ⟨?_, ?_, fun kind => ?_, fun kind => ?_, ?_, ?_⟩
  · -- what is queued behind the past comes behind what the queue still held
    rw [Course.received, filterMap_after, List.append_assoc, hs.stream, ← List.append_assoc,
      ← Course.received, h.stream, Course.queued, Course.queued, filterMap_after]
  · rw [hs.sent_eq, h.sent, Course.sent, Course.sent, filterMap_after]
  · -- a call takes its failure from what was pending, and what is set up replaces that
    rw [Course.struck, Course.injected, filterMap_after, filterMap_after, List.append_assoc]
    have hstep := (hs.failures (k := kind)).append_left (c.struck kind)
    have hpast := (h.failures kind).append_right (Event.injected? kind ⟨op, c.answer op⟩).toList
    rw [List.append_assoc] at hpast
    exact hstep.trans hpast
  · rw [hs.failure?_eq, h.pending, Course.pending, Course.pending, Course.after,
      Event.newest_concat]
    cases Event.pending? kind ⟨op, c.answer op⟩ <;> rfl
  · rw [hs.connected_eq, h.online, Course.online, Course.online, Course.after, Event.newest_concat]
    cases Event.online? ⟨op, c.answer op⟩ <;> rfl
  · rw [hs.remoteClosed_eq, h.hungUp, Course.hungUp, Course.hungUp, Course.after, List.any_append]
    simp

theorem sound_of (ops : List Operation) : (of ops).Sound := by
  induction ops using List.reverseRecOn with
  | nil => exact sound_new
  | append_singleton ops op ih =>
    rw [of_concat]
    exact ih.after op

/-! ## What is answered next -/

/-- What a course says of its transport and of all that it is answered next. -/
structure Reliable (c : Course) : Prop extends c.Sound where
  /-- A call is made to fail by the last failure that was set up for its kind. -/
  struck : ∀ op kind detail, op.kind? = some kind →
    ((c.answer op).error? = some (kind.failure detail) ↔
      (kind = .connect ∨ c.online = true) ∧ c.pending kind = some detail)
  /-- Without a connection a call that needs one fails for that and meets no failure. -/
  offline : ∀ op, (c.answer op).error? = some .notConnected ↔
    (op.kind? = some .send ∨ op.kind? = some .receive) ∧ c.online = false
  /-- The end is reported when the other side has closed and everything that was queued is
  received. -/
  ended : ∀ op, (c.answer op).error? = some .connectionClosed ↔
    op = .look ∧ c.online = true ∧ c.pending .receive = none ∧ c.hungUp = true ∧
      c.received = c.queued
  /-- Behind the end the transport is not connected. -/
  closed : ∀ op, (c.answer op).error? = some .connectionClosed →
    (c.after op).transport.connected = false
  /-- Nothing else fails. -/
  errors : ∀ op x, (c.answer op).error? = some x →
    x = .notConnected ∨ x = .connectionClosed ∨
      ∃ kind detail, op.kind? = some kind ∧ x = kind.failure detail
  /-- What is received next is what was queued behind all that was received. -/
  received : ∀ bytes, c.answer .look = .received (.ok bytes) ↔
    c.online = true ∧ c.pending .receive = none ∧ ∃ rest, c.queued = c.received ++ bytes :: rest
  /-- Nobody waits for what is there. -/
  waits : c.answer .look = .waits ↔
    c.online = true ∧ c.pending .receive = none ∧ c.hungUp = false ∧ c.received = c.queued

theorem Sound.queue_eq_nil_iff (h : c.Sound) :
    c.transport.queue = [] ↔ c.received = c.queued := by
  rw [← h.stream, List.self_eq_append_right]

theorem Sound.queue_eq_iff (h : c.Sound) {queue : List (List UInt8)} :
    c.transport.queue = queue ↔ c.queued = c.received ++ queue := by
  rw [← h.stream, List.append_cancel_left_eq]

theorem Sound.struck_iff (h : c.Sound) {op : Operation} {kind : CallKind} {detail : String}
    (hk : op.kind? = some kind) :
    (c.answer op).error? = some (kind.failure detail) ↔
      (kind = .connect ∨ c.online = true) ∧ c.pending kind = some detail := by
  rw [answer, error?_step_eq_some_iff, ← h.online, ← h.pending]
  constructor
  · generalize hx : kind.failure detail = x
    intro hf
    cases hf with
    | struck k hk' hl hd =>
      cases hk.symm.trans hk'
      have hdetail := congrArg kind.detail? hx
      simp at hdetail
      cases hdetail
      exact ⟨hl, hd⟩
    | offline => cases kind <;> cases hx
    | ended => cases kind <;> cases hx
  · rintro ⟨hl, hd⟩
    exact .struck kind hk hl hd

theorem Sound.offline_iff (h : c.Sound) {op : Operation} :
    (c.answer op).error? = some .notConnected ↔
      (op.kind? = some .send ∨ op.kind? = some .receive) ∧ c.online = false := by
  rw [answer, error?_step_eq_some_iff, ← h.online]
  constructor
  · generalize hx : TransportError.notConnected = x
    intro hf
    cases hf with
    | struck kind => cases kind <;> cases hx
    | offline kind hk hne hl =>
      refine ⟨?_, hl⟩
      cases kind with
      | connect => exact absurd rfl hne
      | send => exact Or.inl hk
      | receive => exact Or.inr hk
    | ended => cases hx
  · rintro ⟨hk | hk, hl⟩
    · exact .offline .send hk nofun hl
    · exact .offline .receive hk nofun hl

theorem Sound.ended_iff (h : c.Sound) {op : Operation} :
    (c.answer op).error? = some .connectionClosed ↔
      op = .look ∧ c.online = true ∧ c.pending .receive = none ∧ c.hungUp = true ∧
        c.received = c.queued := by
  rw [answer, error?_step_eq_some_iff, ← h.online, ← h.pending, ← h.hungUp, ← h.queue_eq_nil_iff]
  constructor
  · generalize hx : TransportError.connectionClosed = x
    intro hf
    cases hf with
    | struck kind => cases kind <;> cases hx
    | offline => cases hx
    | ended hl hd hq hr => exact ⟨rfl, hl, hd, hr, hq⟩
  · rintro ⟨rfl, hl, hd, hr, hq⟩
    exact .ended hl hd hq hr

theorem Sound.received_iff (h : c.Sound) {bytes : List UInt8} :
    c.answer .look = .received (.ok bytes) ↔
      c.online = true ∧ c.pending .receive = none ∧
        ∃ rest, c.queued = c.received ++ bytes :: rest := by
  rw [answer, look_eq_received_iff, ← h.online, ← h.pending]
  simp only [h.queue_eq_iff]

theorem Sound.waits_iff (h : c.Sound) :
    c.answer .look = .waits ↔
      c.online = true ∧ c.pending .receive = none ∧ c.hungUp = false ∧ c.received = c.queued := by
  rw [answer, look_eq_waits_iff, ← h.online, ← h.pending, ← h.hungUp, ← h.queue_eq_nil_iff,
    @and_comm (c.transport.queue = [])]

/-- Whatever is done to a new scripted transport, nothing that is queued is lost, received twice or
in another order, each failure that is set up is met once at most and by a call of its kind, the end
comes behind all that was queued, and what was sent is kept. -/
theorem stream_kept (past : List Operation) : (of past).Reliable := by
  have h := sound_of past
  refine ⟨h, fun op kind detail hk => h.struck_iff hk,
    fun op => h.offline_iff, fun op => h.ended_iff, fun op hx => ?_, fun op x hx => ?_,
    fun bytes => h.received_iff, h.waits_iff⟩
  · obtain ⟨rfl, -⟩ := h.ended_iff.mp hx
    exact ((of past).transport.step_step .look).connected_of_ended hx
  · cases ((of past).transport.step_step op).fails hx with
    | struck kind hk => exact Or.inr (Or.inr ⟨kind, _, hk, rfl⟩)
    | offline => exact Or.inl rfl
    | ended => exact Or.inr (Or.inl rfl)

/-- What is queued survives a failure and a new connection; the end comes behind all of it. -/
example :
    let c := of [.enqueue [1], .failNext .receive "reset", .closeRemote, .look, .connect "a", .look,
      .close, .enqueue [2], .connect "b", .look, .look, .look, .look]
    c.received = [[1], [2]] ∧ c.struck .receive = ["reset"] ∧
      c.events.filterMap (·.answer.error?) =
        [.notConnected, .receiveFailed (some "reset"), .connectionClosed, .notConnected] := by
  decide

end Course

end Rendezvous.Scripted
