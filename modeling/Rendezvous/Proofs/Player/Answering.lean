import Rendezvous.Proofs.Hall.Replies
import Rendezvous.Proofs.Player.Tapes
import Rendezvous.Transport.Scripted

/-!
# What a player answers

A booth lives through its own deeds and through what the world does to its transport and to the
memory of its fault handler (`Happening`). What it was told and what it replied is kept in a diary,
of which tape and notes are the two sides (`Diary`): every deed keeps it (`Diary.recorded`).

So each confirmed message is answered once, in the order in which they came, and nothing else is
(`confirmed_answered_once`). What it is answered with is what the command behind the message waits
for.
-/

namespace Rendezvous

variable {τ σ : Type}

/-- What happens at a booth: a deed, or something that the world does to the transport and to the
memory of the handler. -/
inductive Happening (τ σ : Type) where
  | deed (d : Deed)
  | world (f : τ → τ) (g : σ → σ)

/-- The same as it happens at an observed booth: the world does not touch tape and notes. -/
def Happening.observed : Happening τ σ → Happening (Taped τ) (σ × List Note)
  | .deed d => .deed d
  | .world f g => .world (fun t => { t with base := f t.base }) fun m => (g m.1, m.2)

/-- A message is answered exactly if it is confirmed. -/
theorem Downlink.isSome_reply? (role : Role) (address : Address) (result : Except String Unit)
    (m : Downlink) : (m.reply? role address result).isSome = m.isConfirmed := by
  cases m <;> rfl

theorem Downlink.isReply_of_reply? {role : Role} {address : Address} {result : Except String Unit}
    {m : Downlink} {u : Uplink} (h : m.reply? role address result = some u) :
    u.isReply = true := by
  cases m with
  | throttle | disconnect => cases result <;> cases h <;> rfl
  | getAddress | terminate =>
    cases h
    rfl
  | done | enterBarrier | failBarrier | barrierResult | addressReply => cases h

theorem Heard.isReply_of_reply? {role : Role} {address : Address} {x : Heard} {u : Uplink}
    (h : x.reply? role address = some u) : u.isReply = true := by
  cases x with
  | met m result => exact Downlink.isReply_of_reply? h
  | pending o =>
    cases o with
    | terminate exit =>
      cases h
      rfl
    | throttle | disconnect => cases h
  | garbled e => cases h

/-- Only `remove` is told to nobody. -/
theorem Command.wireForm_eq_none_iff {ε : Type} (resolve : Role → Except ε Address)
    (cmd : Command) : cmd.wireForm resolve = .ok none ↔ cmd.kind = .remove := by
  refine ⟨Conductor.kind_of_wireForm_none, fun hk => ?_⟩
  cases cmd with
  | remove => rfl
  | throttle | disconnect | terminate | getAddress => cases hk

/-- What answers the message of a command is what the command waits for. -/
theorem Command.expectedAck_of_reply? {ε : Type} {resolve : Role → Except ε Address}
    {cmd : Command} {m : Downlink} (hm : cmd.wireForm resolve = .ok (some m)) {role : Role}
    {address : Address} {result : Except String Unit} {u : Uplink}
    (hu : m.reply? role address result = some u) :
    u.ack?.map Conductor.Ack.kind = cmd.kind.expectedAck := by
  cases cmd with
  | throttle node target | disconnect node target =>
    cases ht : resolve target with
    | error e =>
      simp only [Command.wireForm, ht] at hm
      cases hm
    | ok a =>
      simp only [Command.wireForm, ht] at hm
      cases hm
      cases result <;> cases hu <;> rfl
  | terminate | getAddress =>
    cases hm
    cases hu
    rfl
  | remove => cases hm

namespace Booth

/-! ## Diaries -/

section Diaries

variable {b b' b₀ : Booth τ σ} {tape tape' : Tape} {notes notes' : List Note}
  {heard : List Heard} {said : List Uplink} {left left' : Prop} {d : Deed}

/-- What was heard since the booth was `b₀`, what was said, and how tape and notes tell of that. -/
structure Diary (b₀ b : Booth τ σ) (left : Prop) (tape : Tape) (notes : List Note)
    (heard : List Heard) (said : List Uplink) : Prop where
  self : SameSelf b₀ b
  received : tape.received.map Downlink.ofBody = heard.map Heard.decoded
  sent : tape.sent = said.map Uplink.encode
  replies : said.filter Uplink.isReply = heard.filterMap (Heard.reply? b₀.role b₀.address)
  notes : notes = heard.filterMap Heard.note?
  pending : ∀ o, .pending o ∈ heard → ∃ memory, b₀.handler.obey memory o = none
  /-- Nothing is heard behind what ends the listening. -/
  last : ∀ x ∈ heard.dropLast, x.isLast = false
  /-- The listening ends for a reason. -/
  listener : b.listener = .listening ∧ (∀ x ∈ heard, x.isLast = false) ∨
    b.attends = false ∧ ((∃ x ∈ heard, x.isLast = true) ∨ 0 < tape.breaks ∨ left)

theorem SameSelf.trans {b'' : Booth τ σ} (h : SameSelf b b') (h' : SameSelf b' b'') :
    SameSelf b b'' :=
  ⟨h'.role.trans h.role, h'.address.trans h.address, h'.handler.trans h.handler⟩

theorem attends_of_listener (h : b'.listener = b.listener) : b'.attends = b.attends := by
  unfold attends
  rw [h]

theorem attends_of_listening (h : b.listener = .listening) : b.attends = true := by
  rw [attends, h]

/-- A booth that does not wait for the reply to its greeting does not begin to. -/
theorem Recorded.ne_greeting (h : Recorded b d tape notes b' tape' notes')
    (hg : ∀ due, b.listener ≠ .greeting due) (due : Option Nat) : b'.listener ≠ .greeting due := by
  have hsame : b'.listener = b.listener → b'.listener ≠ .greeting due := fun hl => hl ▸ hg due
  have hgone : b'.attends = false → b'.listener ≠ .greeting due := by
    intro ha hl
    rw [attends, hl] at ha
    cases ha
  cases h with
  | fails _ listener => exact listener.elim hsame hgone
  | rests _ listener => exact listener.elim hsame fun hl => hgone hl.2
  | speaks _ _ _ listener => exact hsame listener
  | closes _ _ listener => exact hgone listener
  | breaks _ listener => exact hgone listener
  | hears body x listening decoded answers =>
    have hlistener := answers.listener
    split at hlistener
    · exact hgone hlistener
    · exact hsame hlistener

theorem Recorded.failures_le (h : Recorded b d tape notes b' tape' notes') :
    tape.failures ≤ tape'.failures := by
  cases h with
  | fails failures => exact Nat.le_of_lt failures
  | rests _ _ ht | speaks _ _ _ _ ht | closes _ _ _ ht | breaks _ _ ht =>
    rw [ht]
  | hears _ _ _ _ answers =>
    rw [answers.tape]

theorem Diary.mono (h : Diary b₀ b left tape notes heard said) (hleft : left → left') :
    Diary b₀ b left' tape notes heard said := by
  obtain ⟨hself, hreceived, hsent, hreplies, hnotes, hpending, hlast, hlistener⟩ := h
  refine ⟨hself, hreceived, hsent, hreplies, hnotes, hpending, hlast, hlistener.imp_right ?_⟩
  rintro ⟨hgone, hreason⟩
  exact ⟨hgone, hreason.imp_right (Or.imp_right hleft)⟩

/-- The transport and the memory of the handler may change by themselves. -/
theorem Diary.left_alone (h : Diary b₀ b left tape notes heard said) (hself : SameSelf b b')
    (hl : b'.listener = b.listener) : Diary b₀ b' left tape notes heard said := by
  obtain ⟨hself₀, hreceived, hsent, hreplies, hnotes, hpending, hlast, hlistener⟩ := h
  refine ⟨hself₀.trans hself, hreceived, hsent, hreplies, hnotes, hpending, hlast, ?_⟩
  rwa [hl, attends_of_listener hl]

/-- Nothing is heard, and nothing is replied. -/
theorem Diary.silent (h : Diary b₀ b left tape notes heard said) (hself : SameSelf b b')
    (hreceived : tape'.received = tape.received) {own : List Uplink}
    (hown : ∀ m ∈ own, m.isReply = false)
    (hsent : tape'.sent = tape.sent ++ own.map Uplink.encode)
    (hlistener : b'.listener = .listening ∧ (∀ x ∈ heard, x.isLast = false) ∨
      b'.attends = false ∧ ((∃ x ∈ heard, x.isLast = true) ∨ 0 < tape'.breaks ∨ left')) :
    Diary b₀ b' left' tape' notes heard (said ++ own) where
  self := h.self.trans hself
  received := hreceived ▸ h.received
  sent := by rw [hsent, h.sent, List.map_append]
  replies := by
    rw [List.filter_append, h.replies, List.filter_eq_nil_iff.mpr, List.append_nil]
    intro m hm
    rw [hown m hm]
    exact Bool.false_ne_true
  notes := h.notes
  pending := h.pending
  last := h.last
  listener := hlistener

/-- Something is heard, and is put down with the reply to it. -/
theorem Diary.hears (h : Diary b₀ b left tape notes heard said) {body : List UInt8} {x : Heard}
    (hl : b.listener = .listening) (hdecoded : Downlink.ofBody body = x.decoded)
    (ha : Answers b x { tape with received := tape.received ++ [body] } notes b' tape' notes') :
    Diary b₀ b' left' tape' notes' (heard ++ [x])
      (said ++ (x.reply? b₀.role b₀.address).toList) := by
  have hbefore : ∀ y ∈ heard, y.isLast = false := by
    rcases h.listener with ⟨-, hall⟩ | ⟨hgone, -⟩
    · exact hall
    · rw [attends_of_listening hl] at hgone
      cases hgone
  have htape := ha.tape
  rw [h.self.role, h.self.address] at htape
  refine ⟨h.self.trans ha.self, ?_, ?_, ?_, ?_, ?_, ?_, ?_⟩
  · rw [htape, List.map_append, List.map_append, h.received]
    exact congrArg (_ ++ [·]) hdecoded
  · rw [htape, List.map_append, ← h.sent]
    cases x.reply? b₀.role b₀.address <;> rfl
  · rw [List.filter_append, h.replies, List.filterMap_append]
    cases hx : x.reply? b₀.role b₀.address with
    | none => simp [hx]
    | some u => simp [hx, Heard.isReply_of_reply? hx]
  · rw [ha.notes, h.notes, List.filterMap_append]
    cases hx : x.note? <;> simp [hx]
  · intro o ho
    rcases List.mem_append.mp ho with ho | ho
    · exact h.pending o ho
    · have hnone := ha.pending o (List.mem_singleton.mp ho).symm
      rw [h.self.handler] at hnone
      exact ⟨b.memory, hnone⟩
  · rw [List.dropLast_concat]
    exact hbefore
  · have hlistener := ha.listener
    cases hx : x.isLast with
    | true =>
      rw [hx, if_pos rfl] at hlistener
      exact Or.inr ⟨hlistener, Or.inl ⟨x, List.mem_append_right _ List.mem_cons_self, hx⟩⟩
    | false =>
      rw [hx, if_neg Bool.false_ne_true] at hlistener
      refine Or.inl ⟨hlistener.trans hl, fun y hy => ?_⟩
      rcases List.mem_append.mp hy with hy | hy
      · exact hbefore y hy
      · rw [List.mem_singleton.mp hy, hx]

/-- Every deed is put down in the diary, unless something could not be sent. -/
theorem Diary.recorded (h : Diary b₀ b left tape notes heard said)
    (hr : Recorded b d tape notes b' tape' notes') :
    tape.failures < tape'.failures ∨
      ∃ heard' said', Diary b₀ b' (left ∨ d = .close) tape' notes' heard' said' := by
  -- a listener that goes on has heard nothing that ends the listening, and one that does not goes
  -- on for the same reason as before
  have hkept : ∀ {b' : Booth τ σ} {tape' : Tape}, tape'.breaks = tape.breaks →
      (b'.listener = b.listener ∨ b.attends = false ∧ b'.attends = false) →
      b'.listener = .listening ∧ (∀ x ∈ heard, x.isLast = false) ∨ b'.attends = false ∧
        ((∃ x ∈ heard, x.isLast = true) ∨ 0 < tape'.breaks ∨ (left ∨ d = .close)) := by
    intro b' tape' hb hl
    rw [hb]
    rcases h.listener with ⟨hlistening, hall⟩ | ⟨hgone, hreason⟩
    · rcases hl with hl | ⟨hgone, -⟩
      · exact Or.inl ⟨hl.trans hlistening, hall⟩
      · rw [attends_of_listening hlistening] at hgone
        cases hgone
    · refine Or.inr ⟨?_, hreason.imp_right (Or.imp_right Or.inl)⟩
      rcases hl with hl | ⟨-, hgone'⟩
      · rw [attends_of_listener hl, hgone]
      · exact hgone'
  cases hr with
  | fails failures => exact Or.inl failures
  | rests self listener ht hn =>
    subst ht hn
    exact Or.inr ⟨heard, said ++ [], h.silent self rfl nofun (List.append_nil _).symm
      (hkept rfl listener)⟩
  | speaks m own self listener ht hn =>
    subst hn
    refine Or.inr ⟨heard, said ++ [m], h.silent self (by rw [ht]) ?_ (by rw [ht]; rfl)
      (hkept (by rw [ht]) (Or.inl listener))⟩
    intro u hu
    rw [List.mem_singleton.mp hu, own]
  | closes deed self listener ht hn =>
    subst ht hn
    exact Or.inr ⟨heard, said ++ [], h.silent self rfl nofun (List.append_nil _).symm
      (Or.inr ⟨listener, Or.inr (Or.inr (Or.inr deed))⟩)⟩
  | breaks self listener ht hn =>
    subst hn
    have hbroken : 0 < tape'.breaks := by
      rw [ht]
      exact Nat.succ_pos _
    exact Or.inr ⟨heard, said ++ [], h.silent self (by rw [ht]) nofun
      (by rw [ht]; exact (List.append_nil _).symm) (Or.inr ⟨listener, Or.inr (Or.inl hbroken)⟩)⟩
  | hears body x listening decoded answers =>
    exact Or.inr ⟨_, _, h.hears listening decoded answers⟩

end Diaries

/-! ## Runs -/

variable [Transport τ]

/-- The booth behind something that happens. -/
def behind (b : Booth τ σ) : Happening τ σ → Booth τ σ
  | .deed d => b.after d
  | .world f g => { b with transport := f b.transport, memory := g b.memory }

/-- The booth behind a list of happenings. -/
def through (b : Booth τ σ) (events : List (Happening τ σ)) : Booth τ σ := events.foldl behind b

theorem through_concat (b : Booth τ σ) (events : List (Happening τ σ)) (e : Happening τ σ) :
    b.through (events ++ [e]) = (b.through events).behind e := List.foldl_concat ..

/-- A booth that listens is the same under observation, and its diary is kept as long as everything
can be sent. -/
theorem diary_through {b : Booth τ σ} (hl : b.listener = .listening)
    (events : List (Happening τ σ)) :
    ∃ tape notes, (b.observe {} []).through (events.map Happening.observed) =
        (b.through events).observe tape notes ∧
      (∀ due, (b.through events).listener ≠ .greeting due) ∧
      (0 < tape.failures ∨ ∃ heard said,
        Diary b (b.through events) (.deed .close ∈ events) tape notes heard said) := by
  induction events using List.reverseRecOn with
  | nil =>
    refine ⟨{}, [], rfl, ?_, Or.inr ⟨[], [], ?_⟩⟩
    · intro due h
      have hl' : b.listener = .greeting due := h
      rw [hl] at hl'
      cases hl'
    · exact ⟨.refl b, rfl, rfl, rfl, rfl, nofun, nofun, Or.inl ⟨hl, nofun⟩⟩
  | append_singleton events e ih =>
    obtain ⟨tape, notes, heq, hg, hdiary⟩ := ih
    rw [List.map_append, List.map_singleton, through_concat, through_concat, heq]
    cases e with
    | deed d =>
      obtain ⟨tape', notes', hafter, hrecorded⟩ := observed hg tape notes d
      refine ⟨tape', notes', hafter, hrecorded.ne_greeting hg, ?_⟩
      rcases hdiary with hfailed | ⟨heard, said, hdiary⟩
      · exact Or.inl (Nat.lt_of_lt_of_le hfailed hrecorded.failures_le)
      · refine (hdiary.recorded hrecorded).imp (Nat.lt_of_le_of_lt (Nat.zero_le _)) ?_
        rintro ⟨heard', said', hdiary'⟩
        refine ⟨heard', said', hdiary'.mono ?_⟩
        rintro (hclosed | rfl)
        · exact List.mem_append_left _ hclosed
        · exact List.mem_append_right _ List.mem_cons_self
    | world f g =>
      refine ⟨tape, notes, rfl, hg, hdiary.imp_right ?_⟩
      rintro ⟨heard, said, hdiary⟩
      have hworld : Diary b ((b.through events).behind (.world f g)) (.deed .close ∈ events) tape
          notes heard said := hdiary.left_alone ⟨rfl, rfl, rfl⟩ rfl
      exact ⟨heard, said, hworld.mono (List.mem_append_left _)⟩

/-- Whatever the transport, the handler and the world do: as long as everything can be sent, each
confirmed message that a listening player receives is answered once, in the order in which they
came, and nothing else is; the handler meets each order once, with the arguments of the message. The
message of a command is answered by what the command waits for. -/
theorem confirmed_answered_once (b : Booth τ σ) (events : List (Happening τ σ))
    (hl : b.listener = .listening) :
    (∃ tape notes,
      (b.observe {} []).through (events.map Happening.observed) =
        (b.through events).observe tape notes ∧
      (tape.failures = 0 → ∃ heard said,
        Diary b (b.through events) (.deed .close ∈ events) tape notes heard said) ∧
      ∀ body base, (b.through events).listener = .listening →
        Transport.receive? (b.through events).transport = some (.ok body, base) →
        (((b.through events).observe tape notes).after .listen).transport.tape.received =
          tape.received ++ [body]) ∧
    (∀ m result, (Downlink.reply? b.role b.address result m).isSome = m.isConfirmed) ∧
    ∀ (ε : Type) (resolve : Role → Except ε Address) (cmd : Command),
      (cmd.wireForm resolve = .ok none ↔ cmd.kind = .remove) ∧
      ∀ m, cmd.wireForm resolve = .ok (some m) → m.isConfirmed = true ∧
        ∀ role address result u, m.reply? role address result = some u →
          u.ack?.map Conductor.Ack.kind = cmd.kind.expectedAck := by
  refine ⟨?_, fun m result => m.isSome_reply? b.role b.address result, ?_⟩
  · obtain ⟨tape, notes, heq, -, hdiary⟩ := diary_through hl events
    refine ⟨tape, notes, heq, fun hsent => hdiary.resolve_left ?_, fun body base hl' hr =>
      received_after_listen hl' hr tape notes⟩
    rw [hsent]
    exact Nat.lt_irrefl 0
  · intro ε resolve cmd
    exact ⟨cmd.wireForm_eq_none_iff resolve, fun m hm => ⟨Command.isConfirmed_wireForm hm,
      fun role address result u hu => Command.expectedAck_of_reply? hm hu⟩⟩

/-- A player whose handler cannot drop links is asked for its address, told to throttle one link and
to drop another, and to go down; a message behind that is not read. -/
theorem confirmed_answered_once_scripted :
    let b : Booth Scripted Record := {
      role := ⟨"a"⟩, address := default, conductor := "c"
      transport := {
        connected := true
        queue := [Downlink.getAddress ⟨"b"⟩, .throttle default .both default, .done,
          .disconnect default true, .terminate .graceful, .getAddress ⟨"a"⟩].map Downlink.encode }
      handler := .recorder .obeys (.fails "no"), memory := {}, listener := .listening }
    let events : List (Happening Scripted Record) := List.replicate 7 (.deed .listen)
    ∃ tape notes heard said,
      Diary b (b.through events) (.deed .close ∈ events) tape notes heard said ∧
      tape.sent = [Uplink.addressReply ⟨"a"⟩ default, .done, .commandFailed "no", .done].map
        Uplink.encode ∧
      tape.received.length = 5 ∧
      notes = [⟨.throttle default .both default, .ok ()⟩, ⟨.disconnect default true, .error "no"⟩,
        ⟨.terminate .graceful, .ok ()⟩] := by
  intro b events
  obtain ⟨⟨tape, notes, heq, hdiary, -⟩, -⟩ := confirmed_answered_once b events rfl
  have htape : ((b.observe {} []).through (events.map Happening.observed)).transport.tape = tape :=
    congrArg (·.transport.tape) heq
  have hnotes : ((b.observe {} []).through (events.map Happening.observed)).memory.2 = notes :=
    congrArg (·.memory.2) heq
  have hsent : tape.failures = 0 := by
    rw [← htape]
    decide +kernel
  obtain ⟨heard, said, hdiary⟩ := hdiary hsent
  refine ⟨tape, notes, heard, said, hdiary, ?_, ?_, ?_⟩
  · rw [← htape]
    decide +kernel
  · rw [← htape]
    decide +kernel
  · rw [← hnotes]
    decide +kernel

end Booth

end Rendezvous
