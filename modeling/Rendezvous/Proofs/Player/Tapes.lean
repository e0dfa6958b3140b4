import Rendezvous.Proofs.Player.Progress

/-!
# Observed booths

What a booth sends, receives and has its fault handler do is not kept by the booth. It can be
observed from outside (`Booth.observe`): a tape between the booth and its transport keeps what goes
through (`Taped`), and notes beside the memory of the handler keep the orders that were met and what
came of them (`FaultHandler.noting`).

An observed booth does what the booth does, whatever transport and handler it works with, and every
deed is put down in one way (`Recorded`, `observed`): nothing, something of the player's own that is
sent, the end of the connection, or one thing that is heard, together with the reply to it.
-/

namespace Rendezvous

/-! ## Orders and replies -/

/-- What a fault handler is to do. -/
inductive Order where
  | throttle (target : Address) (direction : Direction) (rate : Single)
  | disconnect (target : Address) (abort : Bool)
  | terminate (exit : Exit)
deriving DecidableEq, Repr

/-- The message that gives an order. -/
def Order.message : Order → Downlink
  | throttle target direction rate => .throttle target direction rate
  | disconnect target abort => .disconnect target abort
  | terminate exit => .terminate exit

/-- The order that a message gives, with its arguments. -/
def Downlink.order? : Downlink → Option Order
  | throttle target direction rate => some (.throttle target direction rate)
  | disconnect target abort => some (.disconnect target abort)
  | terminate exit => some (.terminate exit)
  | _ => none

/-- The reply to a message, for a player of this role and address whose handler comes back with this
result: an order is acknowledged by how it went, but a node that goes down does not wait for
that. -/
def Downlink.reply? (role : Role) (address : Address) (result : Except String Unit) :
    Downlink → Option Uplink
  | getAddress _ => some (.addressReply role address)
  | throttle .. | disconnect .. =>
    some (match result with
      | .ok () => .done
      | .error reason => .commandFailed reason)
  | terminate _ => some .done
  | done | enterBarrier .. | failBarrier .. | barrierResult .. | addressReply .. => none

/-- An order that a handler has met, and what came of it. -/
structure Note where
  order : Order
  result : Except String Unit
deriving DecidableEq, Repr

namespace FaultHandler

variable {σ : Type}

/-- Has the handler meet an order; nothing is answered if it does not come back. -/
def obey (H : FaultHandler σ) (memory : σ) : Order → Option (Except String Unit × σ)
  | .throttle target direction rate => H.throttle memory target direction rate
  | .disconnect target abort => H.disconnect memory target abort
  | .terminate exit => (H.terminate memory exit).map (.ok (), ·)

/-- The handler that does the same and notes each order with its result. -/
def noting (H : FaultHandler σ) : FaultHandler (σ × List Note) where
  throttle m target direction rate := (H.throttle m.1 target direction rate).map fun r =>
    (r.1, r.2, m.2 ++ [⟨.throttle target direction rate, r.1⟩])
  disconnect m target abort := (H.disconnect m.1 target abort).map fun r =>
    (r.1, r.2, m.2 ++ [⟨.disconnect target abort, r.1⟩])
  terminate m exit := (H.terminate m.1 exit).map fun memory =>
    (memory, m.2 ++ [⟨.terminate exit, .ok ()⟩])

end FaultHandler

/-! ## Tapes -/

/-- What went through a transport. -/
structure Tape where
  /-- What was sent, in order. -/
  sent : List (List UInt8) := []
  /-- What was received, in order. -/
  received : List (List UInt8) := []
  /-- How often something could not be sent. -/
  failures : Nat := 0
  /-- How often nothing could be received. -/
  breaks : Nat := 0
deriving DecidableEq, Repr

namespace Tape

/-- Puts down an attempt to send. -/
def send (t : Tape) (bytes : List UInt8) : Except TransportError Unit → Tape
  | .ok () => { t with sent := t.sent ++ [bytes] }
  | .error _ => { t with failures := t.failures + 1 }

/-- Puts down what came of receiving. -/
def receive (t : Tape) : Except TransportError (List UInt8) → Tape
  | .ok bytes => { t with received := t.received ++ [bytes] }
  | .error _ => { t with breaks := t.breaks + 1 }

end Tape

/-- A transport and a tape of what goes through it. -/
structure Taped (τ : Type) where
  base : τ
  tape : Tape

instance {τ : Type} [Transport τ] : Transport (Taped τ) where
  connect t peer :=
    ((Transport.connect t.base peer).1, ⟨(Transport.connect t.base peer).2, t.tape⟩)
  send t bytes := ((Transport.send t.base bytes).1,
    ⟨(Transport.send t.base bytes).2, t.tape.send bytes (Transport.send t.base bytes).1⟩)
  receive? t := (Transport.receive? t.base).map fun r => (r.1, ⟨r.2, t.tape.receive r.1⟩)
  isConnected t := Transport.isConnected t.base
  close t := ((Transport.close t.base).1, ⟨(Transport.close t.base).2, t.tape⟩)
  backlog t := Transport.backlog t.base

/-! ## What is heard -/

/-- What became of something that was received. -/
inductive Heard where
  /-- A message that was met; the result is that of the handler, if the message is an order. -/
  | met (m : Downlink) (result : Except String Unit)
  /-- An order from which the handler has not come back. -/
  | pending (o : Order)
  /-- No message. -/
  | garbled (e : WireError)
deriving DecidableEq, Repr

namespace Heard

/-- What was received. -/
def decoded : Heard → Except WireError Downlink
  | met m _ => .ok m
  | pending o => .ok o.message
  | garbled e => .error e

/-- The reply that was sent. -/
def reply? (role : Role) (address : Address) : Heard → Option Uplink
  | met m result => m.reply? role address result
  | pending (.terminate _) => some .done
  | pending _ | garbled _ => none

/-- What was noted. -/
def note? : Heard → Option Note
  | met m result => m.order?.map (⟨·, result⟩)
  | pending _ | garbled _ => none

/-- Whether nothing is received behind this. -/
def isLast : Heard → Bool
  | met (.terminate _) _ | pending _ | garbled _ => true
  | met _ _ => false

end Heard

namespace Booth

variable {τ σ : Type} {b b' : Booth τ σ} {tape tape' : Tape} {notes notes' : List Note}

/-- The booth with a tape and notes. -/
def observe (b : Booth τ σ) (tape : Tape) (notes : List Note) : Booth (Taped τ) (σ × List Note) :=
  { b with
    transport := ⟨b.transport, tape⟩
    handler := b.handler.noting
    memory := (b.memory, notes) }

theorem begin_observe (b : Booth τ σ) (inquiry : Inquiry) (tape : Tape) (notes : List Note) :
    ((b.observe tape notes).begin inquiry).2 = (b.begin inquiry).2.observe tape notes := by
  unfold begin observe
  cases inquiry with
  | barrier name timeout =>
    dsimp only
    cases b.player.waitAtBarrier b.nextCall name <;> rfl
  | address node =>
    dsimp only
    cases b.player.waitForAddress b.nextCall node <;> rfl

/-- Who the player is and what its handler would do are left alone. -/
structure SameSelf (b b' : Booth τ σ) : Prop where
  role : b'.role = b.role
  address : b'.address = b.address
  handler : b'.handler = b.handler

theorem SameSelf.refl (b : Booth τ σ) : SameSelf b b := ⟨rfl, rfl, rfl⟩

/-- Whether the listener listens or waits for the reply to its greeting. -/
def attends (b : Booth τ σ) : Bool :=
  match b.listener with
  | .listening | .greeting _ => true
  | _ => false

/-- What is put down as something is heard: the reply to it, if there is one, and the note. -/
structure Answers (b : Booth τ σ) (x : Heard) (tape : Tape) (notes : List Note) (b' : Booth τ σ)
    (tape' : Tape) (notes' : List Note) : Prop where
  self : SameSelf b b'
  /-- Only a handler that does not come back leaves an order without its result. -/
  pending : ∀ o, x = .pending o → b.handler.obey b.memory o = none
  listener : if x.isLast then b'.attends = false else b'.listener = b.listener
  tape : tape' = { tape with
    sent := tape.sent ++ ((x.reply? b.role b.address).map Uplink.encode).toList }
  notes : notes' = notes ++ x.note?.toList

/-- A reply could not be sent, which ends the listening. -/
structure Fails (b' : Booth τ σ) (tape tape' : Tape) : Prop where
  failures : tape.failures < tape'.failures
  listener : b'.attends = false
  received : tape'.received = tape.received

/-- A message that asks for nothing. -/
theorem answers_unconfirmed {m : Downlink} (hm : m.isConfirmed = false) (self : SameSelf b b')
    (listener : b'.listener = b.listener) :
    Answers b (.met m (.ok ())) tape notes b' tape notes := by
  cases m with
  | done | enterBarrier | failBarrier | barrierResult | addressReply =>
    exact ⟨self, nofun, listener, by simp [Heard.reply?, Downlink.reply?], (List.append_nil _).symm⟩
  | getAddress | throttle | disconnect | terminate => cases hm

/-- What is put down of a deed. -/
inductive Recorded (b : Booth τ σ) (d : Deed) (tape : Tape) (notes : List Note) (b' : Booth τ σ)
    (tape' : Tape) (notes' : List Note) : Prop where
  /-- Something could not be sent. -/
  | fails (failures : tape.failures < tape'.failures)
      (listener : b'.listener = b.listener ∨ b'.attends = false)
  /-- Nothing goes to the conductor or comes from it. -/
  | rests (self : SameSelf b b')
      (listener : b'.listener = b.listener ∨ b.attends = false ∧ b'.attends = false)
      (tape : tape' = tape) (notes : notes' = notes)
  /-- The player speaks for itself. -/
  | speaks (m : Uplink) (own : m.isReply = false) (self : SameSelf b b')
      (listener : b'.listener = b.listener)
      (tape : tape' = { tape with sent := tape.sent ++ [m.encode] }) (notes : notes' = notes)
  /-- The player leaves. -/
  | closes (deed : d = .close) (self : SameSelf b b') (listener : b'.attends = false)
      (tape : tape' = tape) (notes : notes' = notes)
  /-- The connection ends. -/
  | breaks (self : SameSelf b b') (listener : b'.attends = false)
      (tape : tape' = { tape with breaks := tape.breaks + 1 }) (notes : notes' = notes)
  /-- Something is heard. -/
  | hears (body : List UInt8) (x : Heard) (listening : b.listener = .listening)
      (decoded : Downlink.ofBody body = x.decoded)
      (answers : Answers b x { tape with received := tape.received ++ [body] } notes
        b' tape' notes')

/-! ## Sending -/

section Sending

variable [Transport τ]

/-- A message is sent, or it is not, and the tape says which. -/
theorem send_observe (b : Booth τ σ) (tape : Tape) (notes : List Note) (m : Uplink) :
    (∃ base, b.send m = (.ok (), { b with transport := base }) ∧
      (b.observe tape notes).send m = (.ok (),
        ({ b with transport := base } : Booth τ σ).observe
          { tape with sent := tape.sent ++ [m.encode] } notes)) ∨
    ∃ e base, b.send m = (.error e, { b with transport := base }) ∧
      (b.observe tape notes).send m = (.error e,
        ({ b with transport := base } : Booth τ σ).observe
          { tape with failures := tape.failures + 1 } notes) := by
  have htaped : Transport.send (b.observe tape notes).transport m.encode =
      ((Transport.send b.transport m.encode).1, ⟨(Transport.send b.transport m.encode).2,
        tape.send m.encode (Transport.send b.transport m.encode).1⟩) := rfl
  rw [send_eq, send_eq, htaped]
  generalize Transport.send b.transport m.encode = r
  obtain ⟨result, base⟩ := r
  cases result with
  | ok u => exact Or.inl ⟨base, rfl, rfl⟩
  | error e => exact Or.inr ⟨.transport e, base, rfl, rfl⟩

/-- A reply that is sent leaves the listener as it is. -/
theorem reply_observe (b : Booth τ σ) (tape : Tape) (notes : List Note) (m : Uplink) :
    (∃ base, b.reply m = { b with transport := base } ∧
      (b.observe tape notes).reply m = (b.reply m).observe
        { tape with sent := tape.sent ++ [m.encode] } notes) ∨
    ∃ tape', Fails (b.reply m) tape tape' ∧
      (b.observe tape notes).reply m = (b.reply m).observe tape' notes := by
  unfold reply
  rcases send_observe b tape notes m with ⟨base, hs, ho⟩ | ⟨e, base, hs, ho⟩
  · rw [hs, ho]
    exact Or.inl ⟨base, rfl, rfl⟩
  · rw [hs, ho]
    exact Or.inr ⟨{ tape with failures := tape.failures + 1 }, ⟨Nat.lt_succ_self _, rfl, rfl⟩, rfl⟩

/-! ## Hearing -/

/-- The reply to a message, behind which the handler has another memory. -/
theorem answers_reply (b : Booth τ σ) (tape : Tape) (notes : List Note) (memory : σ) {x : Heard}
    {u : Uplink} (hu : x.reply? b.role b.address = some u) (hpending : ∀ o, x ≠ .pending o)
    (hlast : x.isLast = false) :
    ∃ tape', (({ b with memory } : Booth τ σ).observe tape (notes ++ x.note?.toList)).reply u =
        (({ b with memory } : Booth τ σ).reply u).observe tape' (notes ++ x.note?.toList) ∧
      (Fails (({ b with memory } : Booth τ σ).reply u) tape tape' ∨ Answers b x tape notes
        (({ b with memory } : Booth τ σ).reply u) tape' (notes ++ x.note?.toList)) := by
  rcases reply_observe { b with memory } tape (notes ++ x.note?.toList) u with
    ⟨base, hr, ho⟩ | ⟨tape', hfails, ho⟩
  · refine ⟨_, ho, Or.inr ⟨?_, fun o hx => absurd hx (hpending o), ?_, ?_, rfl⟩⟩
    · rw [hr]
      exact ⟨rfl, rfl, rfl⟩
    · rw [hr, hlast]
      rfl
    · rw [hu]
      rfl
  · exact ⟨tape', ho, Or.inl hfails⟩

/-- An order that the node survives is met by the handler and acknowledged, if the handler comes
back. -/
theorem answers_acknowledge (b : Booth τ σ) (tape : Tape) (notes : List Note) {o : Order}
    (ho : ∀ exit, o ≠ .terminate exit) :
    ∃ tape' notes', (b.observe tape notes).acknowledge ((b.handler.obey b.memory o).map
          fun r => (r.1, r.2, notes ++ [⟨o, r.1⟩])) =
        (b.acknowledge (b.handler.obey b.memory o)).observe tape' notes' ∧
      (Fails (b.acknowledge (b.handler.obey b.memory o)) tape tape' ∨
        ∃ x : Heard, x.decoded = .ok o.message ∧
          Answers b x tape notes (b.acknowledge (b.handler.obey b.memory o)) tape' notes') := by
  cases hmet : b.handler.obey b.memory o with
  | none =>
    refine ⟨tape, notes, rfl, Or.inr ⟨.pending o, rfl, ⟨rfl, rfl, rfl⟩, ?_, rfl, ?_,
      (List.append_nil _).symm⟩⟩
    · rintro o' heq
      cases heq
      exact hmet
    · cases o with
      | terminate exit => exact absurd rfl (ho exit)
      | throttle | disconnect => simp [Heard.reply?]
  | some r =>
    obtain ⟨result, memory⟩ := r
    have hnote : (Heard.met o.message result).note?.toList = [⟨o, result⟩] := by cases o <;> rfl
    have hlast : (Heard.met o.message result).isLast = false := by
      cases o with
      | terminate exit => exact absurd rfl (ho exit)
      | throttle | disconnect => rfl
    have hreply : ∀ u, (Heard.met o.message result).reply? b.role b.address = some u →
        ∃ tape', (({ b with memory } : Booth τ σ).observe tape (notes ++ [⟨o, result⟩])).reply u =
            (({ b with memory } : Booth τ σ).reply u).observe tape' (notes ++ [⟨o, result⟩]) ∧
          (Fails (({ b with memory } : Booth τ σ).reply u) tape tape' ∨
            ∃ x : Heard, x.decoded = .ok o.message ∧ Answers b x tape notes
              (({ b with memory } : Booth τ σ).reply u) tape' (notes ++ [⟨o, result⟩])) := by
      intro u hu
      obtain ⟨tape', heq, hanswers⟩ := answers_reply b tape notes memory hu nofun hlast
      rw [hnote] at heq hanswers
      exact ⟨tape', heq, hanswers.imp_right fun h => ⟨_, rfl, h⟩⟩
    -- what the reply is, the result alone decides
    cases result with
    | ok done =>
      obtain ⟨tape', heq, hanswers⟩ := hreply .done (by
        cases o with
        | terminate exit => exact absurd rfl (ho exit)
        | throttle | disconnect => rfl)
      exact ⟨tape', _, heq, hanswers⟩
    | error reason =>
      obtain ⟨tape', heq, hanswers⟩ := hreply (.commandFailed reason) (by
        cases o with
        | terminate exit => exact absurd rfl (ho exit)
        | throttle | disconnect => rfl)
      exact ⟨tape', _, heq, hanswers⟩

/-- Going down, once the acknowledgement was sent or could not be. -/
theorem terminate_of_send {r : Except PlayerError Unit} {base : τ} (exit : Exit)
    (h : b.send .done = (r, { b with transport := base })) :
    b.terminate exit = match b.handler.terminate b.memory exit with
      | none => { b with transport := base, listener := .stalled }
      | some memory =>
        { b with transport := (Transport.close base).2, memory, listener := .leaving } := by
  unfold terminate
  rw [h]
  rfl

/-- The order to go down is acknowledged before the handler meets it. -/
theorem answers_terminate (b : Booth τ σ) (tape : Tape) (notes : List Note) (exit : Exit) :
    ∃ tape' notes', (b.observe tape notes).terminate exit =
        (b.terminate exit).observe tape' notes' ∧
      (Fails (b.terminate exit) tape tape' ∨ ∃ x : Heard, x.decoded = .ok (.terminate exit) ∧
        Answers b x tape notes (b.terminate exit) tape' notes') := by
  have hnoted : (b.observe tape notes).handler.terminate (b.observe tape notes).memory exit =
      (b.handler.terminate b.memory exit).map
        fun memory => (memory, notes ++ [⟨.terminate exit, .ok ()⟩]) := rfl
  have hobey : b.handler.obey b.memory (.terminate exit) =
      (b.handler.terminate b.memory exit).map (.ok (), ·) := rfl
  rcases send_observe b tape notes .done with ⟨base, hs, ho⟩ | ⟨e, base, hs, ho⟩
  · rw [terminate_of_send exit hs, terminate_of_send (b := b.observe tape notes) exit ho, hnoted]
    cases hmet : b.handler.terminate b.memory exit with
    | none =>
      refine ⟨_, notes, rfl, Or.inr ⟨.pending (.terminate exit), rfl, ⟨rfl, rfl, rfl⟩, ?_, rfl, rfl,
        (List.append_nil _).symm⟩⟩
      rintro o heq
      cases heq
      rw [hobey, hmet]
      rfl
    | some memory =>
      exact ⟨_, _, rfl, Or.inr ⟨.met (.terminate exit) (.ok ()), rfl, ⟨rfl, rfl, rfl⟩, nofun, rfl,
        rfl, rfl⟩⟩
  · rw [terminate_of_send exit hs, terminate_of_send (b := b.observe tape notes) exit ho, hnoted]
    cases b.handler.terminate b.memory exit with
    | none => exact ⟨_, notes, rfl, Or.inl ⟨Nat.lt_succ_self _, rfl, rfl⟩⟩
    | some memory => exact ⟨_, _, rfl, Or.inl ⟨Nat.lt_succ_self _, rfl, rfl⟩⟩

theorem hear_observe (b : Booth τ σ) (tape : Tape) (notes : List Note) (m : Downlink) :
    ∃ tape' notes', (b.observe tape notes).hear m = (b.hear m).observe tape' notes' ∧
      (Fails (b.hear m) tape tape' ∨ ∃ x : Heard, x.decoded = .ok m ∧
        Answers b x tape notes (b.hear m) tape' notes') := by
  cases m with
  | done | enterBarrier | failBarrier | barrierResult | addressReply =>
    exact ⟨tape, notes, rfl, Or.inr ⟨.met _ (.ok ()), rfl,
      answers_unconfirmed rfl ⟨rfl, rfl, rfl⟩ rfl⟩⟩
  | getAddress node =>
    obtain ⟨tape', heq, hanswers⟩ := answers_reply b tape notes b.memory
      (x := .met (.getAddress node) (.ok ())) rfl nofun rfl
    rw [show (Heard.met (.getAddress node) (.ok ())).note?.toList = [] from rfl, List.append_nil]
      at heq hanswers
    exact ⟨tape', notes, heq, hanswers.imp_right fun h => ⟨_, rfl, h⟩⟩
  | throttle target direction rate =>
    exact answers_acknowledge b tape notes (o := .throttle target direction rate) nofun
  | disconnect target abort =>
    exact answers_acknowledge b tape notes (o := .disconnect target abort) nofun
  | terminate exit => exact answers_terminate b tape notes exit

/-! ## Deeds -/

theorem receive?_observe (b : Booth τ σ) (tape : Tape) (notes : List Note) :
    Transport.receive? (b.observe tape notes).transport =
      (Transport.receive? b.transport).map fun r => (r.1, ⟨r.2, tape.receive r.1⟩) := rfl

/-- What comes off the transport is put down as it is heard. -/
theorem receive_observe (b : Booth τ σ) (base : τ) (tape : Tape) (notes : List Note)
    (hl : b.listener = .listening) (d : Deed) (r : Except TransportError (List UInt8)) :
    ∃ tape' notes',
      (({ b with transport := base } : Booth τ σ).observe (tape.receive r) notes).receive r =
        (({ b with transport := base } : Booth τ σ).receive r).observe tape' notes' ∧
      Recorded b d tape notes (({ b with transport := base } : Booth τ σ).receive r) tape'
        notes' := by
  cases r with
  | error e => exact ⟨_, notes, rfl, .breaks ⟨rfl, rfl, rfl⟩ rfl rfl rfl⟩
  | ok body =>
    unfold receive
    dsimp only
    cases hm : Downlink.ofBody body with
    | error e =>
      refine ⟨_, notes, rfl, .hears body (.garbled e) hl hm
        ⟨⟨rfl, rfl, rfl⟩, nofun, rfl, ?_, (List.append_nil _).symm⟩⟩
      rw [show (Heard.garbled e).reply? b.role b.address = none from rfl, Option.map_none,
        Option.toList_none, List.append_nil]
      rfl
    | ok m =>
      obtain ⟨tape', notes', heq, hanswers⟩ := hear_observe { b with transport := base }
        (tape.receive (.ok body)) notes m
      refine ⟨tape', notes', heq, ?_⟩
      rcases hanswers with hfails | ⟨x, hx, hself, hpending, hlistener, htape, hnotes⟩
      · exact .fails hfails.failures (Or.inr hfails.listener)
      · exact .hears body x hl (hm.trans hx.symm)
          ⟨⟨hself.role, hself.address, hself.handler⟩, hpending, hlistener, htape, hnotes⟩

theorem after_listen_of_listening (hl : b.listener = .listening) :
    b.after .listen = ((Transport.receive? b.transport).map
      fun r => ({ b with transport := r.2 } : Booth τ σ).receive r.1).getD b := by
  unfold after listen?
  rw [hl]

theorem after_listen_of_leaving (hl : b.listener = .leaving) :
    b.after .listen = { b with listener := .done, player := b.player.disconnect } := by
  unfold after listen?
  rw [hl]
  rfl

theorem after_listen_of_over (hl : b.listener = .absent ∨ b.listener = .stalled ∨
    b.listener = .done) : b.after .listen = b := by
  unfold after listen?
  rcases hl with hl | hl | hl <;> rw [hl] <;> rfl

theorem listen_observe (hg : ∀ due, b.listener ≠ .greeting due) (tape : Tape) (notes : List Note) :
    ∃ tape' notes', (b.observe tape notes).after .listen = (b.after .listen).observe tape' notes' ∧
      Recorded b .listen tape notes (b.after .listen) tape' notes' := by
  have hover : b.listener = .absent ∨ b.listener = .stalled ∨ b.listener = .done →
      ∃ tape' notes', (b.observe tape notes).after .listen =
        (b.after .listen).observe tape' notes' ∧
        Recorded b .listen tape notes (b.after .listen) tape' notes' := by
    intro h
    rw [after_listen_of_over h, after_listen_of_over (b := b.observe tape notes) h]
    exact ⟨tape, notes, rfl, .rests (.refl b) (Or.inl rfl) rfl rfl⟩
  cases hl : b.listener with
  | greeting due => exact absurd hl (hg due)
  | absent => exact hover (Or.inl hl)
  | stalled => exact hover (Or.inr (Or.inl hl))
  | done => exact hover (Or.inr (Or.inr hl))
  | leaving =>
    rw [after_listen_of_leaving hl, after_listen_of_leaving (b := b.observe tape notes) hl]
    refine ⟨tape, notes, rfl, .rests ⟨rfl, rfl, rfl⟩ (Or.inr ⟨?_, rfl⟩) rfl rfl⟩
    rw [attends, hl]
  | listening =>
    rw [after_listen_of_listening hl, after_listen_of_listening (b := b.observe tape notes) hl,
      receive?_observe]
    cases Transport.receive? b.transport with
    | none => exact ⟨tape, notes, rfl, .rests (.refl b) (Or.inl rfl) rfl rfl⟩
    | some r => exact receive_observe b r.2 tape notes hl .listen r.1

/-- Whatever comes in is received by a listener that goes on. -/
theorem received_after_listen {body : List UInt8} {base : τ} (hl : b.listener = .listening)
    (hr : Transport.receive? b.transport = some (.ok body, base)) (tape : Tape)
    (notes : List Note) :
    ((b.observe tape notes).after .listen).transport.tape.received = tape.received ++ [body] := by
  rw [after_listen_of_listening (b := b.observe tape notes) hl, receive?_observe, hr]
  show ((({ b with transport := base } : Booth τ σ).observe (tape.receive (.ok body)) notes).receive
    (.ok body)).transport.tape.received = tape.received ++ [body]
  unfold receive
  dsimp only
  cases Downlink.ofBody body with
  | error e => rfl
  | ok m =>
    obtain ⟨tape', notes', heq, hanswers⟩ :=
      hear_observe { b with transport := base } (tape.receive (.ok body)) notes m
    dsimp only
    rw [heq]
    show tape'.received = _
    rcases hanswers with hfails | ⟨x, -, hanswers⟩
    · exact hfails.received
    · rw [hanswers.tape]
      rfl

/-- A call that goes on sends its request, or nothing. -/
theorem proceed_observe (b : Booth τ σ) (c : Call) (d : Deed) (tape : Tape) (notes : List Note) :
    ∃ tape' notes', ((b.observe tape notes).proceed? c).getD (b.observe tape notes) =
        ((b.proceed? c).getD b).observe tape' notes' ∧
      Recorded b d tape notes ((b.proceed? c).getD b) tape' notes' := by
  have hrests : ∀ {b' : Booth τ σ}, SameSelf b b' → b'.listener = b.listener →
      Recorded b d tape notes b' tape notes := fun hs hl => .rests hs (Or.inl hl) rfl rfl
  obtain ⟨id, inquiry, stage⟩ := c
  cases stage with
  | sending =>
    have hrequest : (b.observe tape notes).request inquiry = b.request inquiry := rfl
    have hown : (b.request inquiry).isReply = false := by cases inquiry <;> rfl
    unfold proceed?
    dsimp only
    rw [hrequest]
    rcases send_observe b tape notes (b.request inquiry) with ⟨base, hs, ho⟩ | ⟨e, base, hs, ho⟩
    · rw [hs, ho]
      exact ⟨_, notes, rfl, .speaks _ hown ⟨rfl, rfl, rfl⟩ rfl rfl rfl⟩
    · rw [hs, ho]
      cases inquiry with
      | barrier | address => exact ⟨_, notes, rfl, .fails (Nat.lt_succ_self _) (Or.inl rfl)⟩
  | waiting limit =>
    have hfound : (b.observe tape notes).found? ⟨id, inquiry, .waiting limit⟩ =
        b.found? ⟨id, inquiry, .waiting limit⟩ := rfl
    have hoverdue : (b.observe tape notes).overdue? ⟨id, inquiry, .waiting limit⟩ =
        b.overdue? ⟨id, inquiry, .waiting limit⟩ := rfl
    unfold proceed?
    dsimp only
    rw [hfound, hoverdue]
    cases b.found? ⟨id, inquiry, .waiting limit⟩ with
    | some result => exact ⟨tape, notes, rfl, hrests ⟨rfl, rfl, rfl⟩ rfl⟩
    | none =>
      cases b.overdue? ⟨id, inquiry, .waiting limit⟩ with
      | none => exact ⟨tape, notes, rfl, hrests ⟨rfl, rfl, rfl⟩ rfl⟩
      | some e => exact ⟨tape, notes, rfl, hrests ⟨rfl, rfl, rfl⟩ rfl⟩
  | failing e =>
    cases inquiry with
    | barrier | address => exact ⟨tape, notes, rfl, hrests ⟨rfl, rfl, rfl⟩ rfl⟩

/-- No greeting is waited for, so none is late. -/
theorem after_expireGreeting (hg : ∀ due, b.listener ≠ .greeting due) :
    b.after .expireGreeting = b := by
  rw [after, expireGreeting?]
  split
  · next due hl => exact absurd hl (hg _)
  · rfl

/-- A booth that is past its greeting does the same under observation, and this is put down. -/
theorem observed (hg : ∀ due, b.listener ≠ .greeting due) (tape : Tape) (notes : List Note)
    (d : Deed) :
    ∃ tape' notes', (b.observe tape notes).after d = (b.after d).observe tape' notes' ∧
      Recorded b d tape notes (b.after d) tape' notes' := by
  have hrests : ∀ {b' : Booth τ σ} {o' : Booth (Taped τ) (σ × List Note)},
      o' = b'.observe tape notes → SameSelf b b' → b'.listener = b.listener →
      ∃ tape' notes', o' = b'.observe tape' notes' ∧ Recorded b d tape notes b' tape' notes' :=
    fun ho hs hl => ⟨tape, notes, ho, .rests hs (Or.inl hl) rfl rfl⟩
  have hplayer : (b.observe tape notes).hasPlayer = b.hasPlayer := rfl
  cases d with
  | begin inquiry =>
    rw [after, after, hplayer]
    split
    · have hbegins := begins b inquiry
      have hobserve := begin_observe b inquiry tape notes
      generalize (b.begin inquiry).2 = b' at hbegins hobserve ⊢
      refine hrests hobserve ?_ ?_ <;> cases hbegins
      all_goals first | exact ⟨rfl, rfl, rfl⟩ | rfl
    · exact hrests rfl (.refl b) rfl
  | proceed id =>
    have hcall : (b.observe tape notes).call? id = b.call? id := rfl
    rw [after, after, hcall]
    cases b.call? id with
    | none => exact hrests rfl (.refl b) rfl
    | some c => exact proceed_observe b c _ tape notes
  | cancel id => exact hrests rfl ⟨rfl, rfl, rfl⟩ rfl
  | listen => exact listen_observe hg tape notes
  | expireGreeting =>
    rw [after_expireGreeting hg, after_expireGreeting (b := b.observe tape notes) hg]
    exact hrests rfl (.refl b) rfl
  | giveUp name =>
    rw [after, after, hplayer]
    split
    · rcases send_observe b tape notes (.failBarrier name b.role) with
        ⟨base, hs, ho⟩ | ⟨e, base, hs, ho⟩
      · unfold failBarrier
        rw [hs]
        exact ⟨_, notes, congrArg Prod.snd ho, .speaks _ rfl ⟨rfl, rfl, rfl⟩ rfl rfl rfl⟩
      · unfold failBarrier
        rw [hs]
        exact ⟨_, notes, congrArg Prod.snd ho, .fails (Nat.lt_succ_self _) (Or.inl rfl)⟩
    · exact hrests rfl (.refl b) rfl
  | close =>
    rw [after, after, hplayer]
    split
    · exact ⟨tape, notes, rfl, .closes rfl ⟨rfl, rfl, rfl⟩ rfl rfl rfl⟩
    · exact hrests rfl (.refl b) rfl
  | wait nanoseconds => exact hrests rfl ⟨rfl, rfl, rfl⟩ rfl

end Sending

end Booth

end Rendezvous
