import Rendezvous.Proofs.Player.Calls
import Rendezvous.Proofs.Wire.Stream
import Rendezvous.Transport.Socket

/-!
# What a booth sends and takes

Between two steps a booth over a socket writes frames of whole messages and takes at most one
message off the front of what has arrived (`Progress`). Only the listener takes messages, what it
sends are replies, and the results that its player knows are those of the messages that it took.
Every deed is such a step (`progress_after`).
-/

namespace Rendezvous

/-- The resolution that a message to a player tells. -/
def Downlink.result? : Downlink → Option BarrierResult
  | .barrierResult name success => some ⟨name, success⟩
  | _ => none

/-- Whether a message is one that a player answers the conductor with. -/
def Uplink.isReply : Uplink → Bool
  | .addressReply .. | .done | .commandFailed _ => true
  | _ => false

namespace Booth

variable {σ : Type} {b b' b'' : Booth Socket σ} {sent : List Uplink} {taken : Option Downlink}

/-- Whether the listener goes on taking what arrives. -/
def listens (b : Booth Socket σ) : Bool :=
  match b.listener with
  | .greeting _ | .listening => true
  | _ => false

/-- A message stands in front of what has arrived, and was taken off. -/
def Takes (b b' : Booth Socket σ) (m : Downlink) : Prop :=
  b.listens = true ∧ ∃ inlet body rest, b.transport.inlet = some inlet ∧
    Frame.next? b.transport.limit inlet.ended inlet.arrived = some (.ok body, rest) ∧
    Downlink.ofBody body = .ok m ∧ b'.transport.inlet = some { inlet with arrived := rest }

/-- What a booth has sent and taken between two points. -/
structure Progress (b b' : Booth Socket σ) (sent : List Uplink) (taken : Option Downlink) :
    Prop where
  role : b'.role = b.role
  outgoing : b'.transport.outgoing = b.transport.outgoing ++ Uplink.framed sent
  sendable : ∀ m ∈ sent, m.IsSendable
  results : b'.player.results = b.player.results ++ (taken.bind Downlink.result?).toList
  listens : b'.listens = true → b.listens = true
  greets : ∀ due, b'.listener = .greeting due → b.listener = .greeting due ∧ taken = none
  takes : ∀ m, taken = some m → Takes b b' m
  /-- What has arrived is left alone, unless nothing more is taken. -/
  inlet : taken = none → b'.listens = true → b'.transport.inlet = b.transport.inlet

/-- A booth that sends nothing and takes nothing, and listens on or not. -/
theorem Progress.of_quiet (hr : b'.role = b.role) (ht : b'.transport = b.transport)
    (hp : b'.player.results = b.player.results)
    (hl : b'.listener = b.listener ∨ b'.listens = false) : Progress b b' [] none where
  role := hr
  outgoing := by rw [ht, Uplink.framed_nil, List.append_nil]
  sendable := nofun
  results := by rw [hp, Option.bind_none, Option.toList_none, List.append_nil]
  listens h := by
    rcases hl with hl | hl
    · rwa [Booth.listens, hl] at h
    · rw [hl] at h
      cases h
  greets due h := by
    rcases hl with hl | hl
    · exact ⟨hl ▸ h, rfl⟩
    · rw [Booth.listens, h] at hl
      cases hl
  takes := nofun
  inlet _ _ := by rw [ht]

theorem Progress.refl (b : Booth Socket σ) : Progress b b [] none :=
  .of_quiet rfl rfl rfl (Or.inl rfl)

/-- More is sent behind what was sent and taken. -/
theorem Progress.trans {sent' : List Uplink} (h : Progress b b' sent taken)
    (h' : Progress b' b'' sent' none) (hi : b''.transport.inlet = b'.transport.inlet) :
    Progress b b'' (sent ++ sent') taken where
  role := h'.role.trans h.role
  outgoing := by rw [h'.outgoing, h.outgoing, Uplink.framed_append, List.append_assoc]
  sendable m hm := (List.mem_append.mp hm).elim (h.sendable m) (h'.sendable m)
  results := by rw [h'.results, h.results, Option.bind_none, Option.toList_none, List.append_nil]
  listens hl := h.listens (h'.listens hl)
  greets due hd := h.greets due (h'.greets due hd).1
  takes m hm := by
    obtain ⟨hl, inlet, body, rest, hinlet, hnext, hbody, hrest⟩ := h.takes m hm
    exact ⟨hl, inlet, body, rest, hinlet, hnext, hbody, hi.trans hrest⟩
  inlet hn hl := hi.trans (h.inlet hn (h'.listens hl))

/-- What is neither sent nor taken behind it changes nothing about what was. -/
theorem Progress.quietly (h : Progress b b' sent taken) (h' : Progress b' b'' [] none)
    (hi : b''.transport.inlet = b'.transport.inlet) : Progress b b'' sent taken := by
  have htrans := h.trans h' hi
  rwa [List.append_nil] at htrans

/-! ## Sending -/

theorem eq_of_sent {m : Uplink} (h : sent = [] ∨ sent = [m]) : ∀ x ∈ sent, x = m := by
  rcases h with rfl | rfl
  · exact nofun
  · exact fun x hx => List.mem_singleton.mp hx

theorem inlet_send (b : Booth Socket σ) (m : Uplink) :
    (b.send m).2.transport.inlet = b.transport.inlet := by
  rw [send_eq]
  dsimp only [Transport.send]
  unfold Socket.send
  split
  · rfl
  · split <;> rfl

/-- A message is sent in a frame of its own, or nothing is sent. -/
theorem progress_send (b : Booth Socket σ) (m : Uplink) :
    ∃ sent, (sent = [] ∨ sent = [m]) ∧ Progress b (b.send m).2 sent none := by
  rw [send_eq]
  dsimp only [Transport.send]
  unfold Socket.send
  split
  · exact ⟨[], Or.inl rfl, .refl b⟩
  · split
    · next frame hframe =>
      obtain ⟨hsendable, rfl⟩ := Frame.write_eq_ok hframe
      have hm : ∀ m' ∈ [m], m'.IsSendable := by
        intro m' hm'
        rw [List.mem_singleton.mp hm']
        exact hsendable
      refine ⟨[m], Or.inr rfl, rfl, ?_, hm, ?_, id, fun _ h => ⟨h, rfl⟩, nofun, fun _ _ => rfl⟩
      · rw [Uplink.framed_singleton]
      · rw [Option.bind_none, Option.toList_none, List.append_nil]
    · exact ⟨[], Or.inl rfl, rfl, (List.append_nil _).symm, nofun, (List.append_nil _).symm, id,
        fun _ h => ⟨h, rfl⟩, nofun, fun _ _ => rfl⟩

theorem progress_reply (b : Booth Socket σ) (m : Uplink) :
    ∃ sent, (∀ x ∈ sent, x = m) ∧ Progress b (b.reply m) sent none ∧
      (b.reply m).transport.inlet = b.transport.inlet := by
  obtain ⟨sent, hsent, hprogress⟩ := progress_send b m
  have hinlet := inlet_send b m
  refine ⟨sent, eq_of_sent hsent, ?_⟩
  rcases reply_cases b m with h | h
  · rw [h]
    exact ⟨hprogress, hinlet⟩
  · rw [h]
    have hleaves : Progress (b.send m).2 { (b.send m).2 with listener := .leaving } [] none :=
      .of_quiet rfl rfl rfl (Or.inr rfl)
    exact ⟨hprogress.quietly hleaves rfl, hinlet⟩

/-! ## Taking -/

/-- What is received, when it is the body of a frame. -/
theorem receive?_ok {t t' : Socket} {body : List UInt8} (h : t.receive? = some (.ok body, t')) :
    ∃ inlet rest, t.inlet = some inlet ∧
      Frame.next? t.limit inlet.ended inlet.arrived = some (.ok body, rest) ∧
      t' = { t with inlet := some { inlet with arrived := rest } } := by
  unfold Socket.receive? at h
  split at h
  · cases h
  · next inlet hinlet =>
    obtain ⟨⟨r, rest⟩, hnext, he⟩ := Option.map_eq_some_iff.mp h
    cases r with
    | error e => cases he
    | ok body' =>
      cases he
      exact ⟨inlet, rest, hinlet, hnext, rfl⟩

theorem outgoing_receive? {t t' : Socket} {r : Except TransportError (List UInt8)}
    (h : t.receive? = some (r, t')) : t'.outgoing = t.outgoing := by
  unfold Socket.receive? at h
  split at h
  · cases h
    rfl
  · obtain ⟨⟨r', rest⟩, -, he⟩ := Option.map_eq_some_iff.mp h
    cases r' <;> cases he <;> rfl

/-- The listening ends, whatever has become of what arrived. -/
theorem progress_stop (hr : b'.role = b.role)
    (ho : b'.transport.outgoing = b.transport.outgoing)
    (hp : b'.player.results = b.player.results) (hl : b'.listens = false) :
    Progress b b' [] none where
  role := hr
  outgoing := by rw [ho, Uplink.framed_nil, List.append_nil]
  sendable := nofun
  results := by rw [hp, Option.bind_none, Option.toList_none, List.append_nil]
  listens h := by
    rw [hl] at h
    cases h
  greets due h := by
    rw [Booth.listens, h] at hl
    cases hl
  takes := nofun
  inlet _ h := by
    rw [hl] at h
    cases h

/-- The player with its transport behind a message. -/
theorem progress_take {body : List UInt8} {t : Socket} {m : Downlink} (hl : b.listens = true)
    (hr : b.transport.receive? = some (.ok body, t)) (hm : Downlink.ofBody body = .ok m)
    (hrole : b'.role = b.role) (ht : b'.transport = t) (hl' : b'.listener = .listening)
    (hp : b'.player.results = b.player.results ++ m.result?.toList) :
    Progress b b' [] (some m) := by
  obtain ⟨inlet, rest, hinlet, hnext, rfl⟩ := receive?_ok hr
  refine ⟨hrole, ?_, nofun, hp, fun _ => hl, ?_, ?_, nofun⟩
  · rw [ht, Uplink.framed_nil, List.append_nil]
  · intro due hd
    rw [hl'] at hd
    cases hd
  · intro m' hm'
    cases hm'
    exact ⟨hl, inlet, body, rest, hinlet, hnext, hm, by rw [ht]⟩

/-! ## The listener -/

theorem progress_acknowledge (b : Booth Socket σ) (met : Option (Except String Unit × σ)) :
    ∃ sent, (∀ m ∈ sent, m.isReply = true) ∧ Progress b (b.acknowledge met) sent none ∧
      (b.acknowledge met).transport.inlet = b.transport.inlet := by
  have hreply : ∀ (memory : σ) (m : Uplink), m.isReply = true →
      ∃ sent, (∀ x ∈ sent, x.isReply = true) ∧
        Progress b ({ b with memory }.reply m) sent none ∧
        ({ b with memory }.reply m).transport.inlet = b.transport.inlet := by
    intro memory m hm
    obtain ⟨sent, honly, hprogress, hinlet⟩ := progress_reply { b with memory } m
    have hquiet : Progress b { b with memory } [] none := .of_quiet rfl rfl rfl (Or.inl rfl)
    exact ⟨sent, fun x hx => honly x hx ▸ hm, hquiet.trans hprogress hinlet, hinlet⟩
  unfold acknowledge
  split
  · exact ⟨[], nofun, .of_quiet rfl rfl rfl (Or.inr rfl), rfl⟩
  · exact hreply _ _ rfl
  · exact hreply _ _ rfl

theorem progress_terminate (b : Booth Socket σ) (exit : Exit) :
    ∃ sent, (∀ m ∈ sent, m.isReply = true) ∧ Progress b (b.terminate exit) sent none ∧
      (b.terminate exit).transport.inlet = b.transport.inlet := by
  obtain ⟨sent, hsent, hprogress⟩ := progress_send b .done
  have hinlet := inlet_send b .done
  have hdown : Progress (b.send .done).2 (b.terminate exit) [] none ∧
      (b.terminate exit).transport.inlet = (b.send .done).2.transport.inlet := by
    unfold terminate
    dsimp only
    split
    · exact ⟨progress_stop rfl rfl rfl rfl, rfl⟩
    · exact ⟨progress_stop rfl rfl rfl rfl, rfl⟩
  exact ⟨sent, fun m hm => eq_of_sent hsent m hm ▸ rfl, hprogress.quietly hdown.1 hdown.2,
    hdown.2.trans hinlet⟩

/-- What the listener does with a message besides taking it. -/
theorem progress_hear (b : Booth Socket σ) {m : Downlink} (hm : m.result? = none) :
    ∃ sent, (∀ m ∈ sent, m.isReply = true) ∧ Progress b (b.hear m) sent none ∧
      (b.hear m).transport.inlet = b.transport.inlet := by
  cases m with
  | done | enterBarrier | failBarrier => exact ⟨[], nofun, .refl b, rfl⟩
  | barrierResult => cases hm
  | addressReply node address => exact ⟨[], nofun, .of_quiet rfl rfl rfl (Or.inl rfl), rfl⟩
  | getAddress node =>
    obtain ⟨sent, honly, hprogress, hinlet⟩ := progress_reply b (.addressReply b.role b.address)
    exact ⟨sent, fun x hx => honly x hx ▸ rfl, hprogress, hinlet⟩
  | throttle => exact progress_acknowledge b _
  | disconnect => exact progress_acknowledge b _
  | terminate exit => exact progress_terminate b exit

/-- The reply to the greeting: only `Done` is taken. -/
theorem progress_welcome {body : List UInt8} {t : Socket} (hl : b.listens = true)
    (hr : b.transport.receive? = some (.ok body, t)) (hblank : b.player.results = []) :
    ∃ taken, Progress b ({ b with transport := t }.welcome body) [] taken := by
  have ho := outgoing_receive? hr
  unfold welcome
  split
  · exact ⟨none, progress_stop rfl ho rfl rfl⟩
  · next hm =>
    refine ⟨some .done, progress_take hl hr hm rfl rfl rfl ?_⟩
    rw [hblank]
    rfl
  · exact ⟨none, progress_stop rfl ho rfl rfl⟩

theorem progress_receive {r : Except TransportError (List UInt8)} {t : Socket}
    (hlistening : b.listener = .listening) (hr : b.transport.receive? = some (r, t)) :
    ∃ sent taken, (∀ m ∈ sent, m.isReply = true) ∧
      Progress b ({ b with transport := t }.receive r) sent taken := by
  have ho := outgoing_receive? hr
  have hl : b.listens = true := by rw [listens, hlistening]
  unfold receive
  split
  · exact ⟨[], none, nofun, progress_stop rfl ho rfl rfl⟩
  · split
    · exact ⟨[], none, nofun, progress_stop rfl ho rfl rfl⟩
    · next m hm =>
      cases hresult : m.result? with
      | none =>
        -- the message is taken first, and what is done about it takes nothing more
        obtain ⟨sent, hreplies, hprogress, hinlet⟩ :=
          progress_hear { b with transport := t } hresult
        have htake : Progress b { b with transport := t } [] (some m) :=
          progress_take hl hr hm rfl rfl hlistening
            (by rw [hresult, Option.toList_none, List.append_nil])
        exact ⟨sent, some m, hreplies, htake.trans hprogress hinlet⟩
      | some result =>
        cases m with
        | barrierResult name success =>
          exact ⟨[], _, nofun, progress_take hl hr hm rfl rfl hlistening
            (Player.results_barrierResolved ..)⟩
        | done | enterBarrier | failBarrier | getAddress | addressReply | throttle | disconnect
        | terminate => cases hresult

/-- The listener takes one message at most, and answers with replies. A player that is being greeted
knows of no result. -/
theorem progress_listen (hblank : ∀ due, b.listener = .greeting due → b.player.results = [])
    (h : b.listen? = some b') :
    ∃ sent taken, (∀ m ∈ sent, m.isReply = true) ∧ Progress b b' sent taken := by
  unfold listen? at h
  split at h
  · next due hdue =>
    have hl : b.listens = true := by rw [listens, hdue]
    obtain ⟨⟨r, t⟩, hr, rfl⟩ := Option.map_eq_some_iff.mp h
    cases r with
    | error e => exact ⟨[], none, nofun, progress_stop rfl (outgoing_receive? hr) rfl rfl⟩
    | ok body =>
      obtain ⟨taken, hprogress⟩ := progress_welcome hl hr (hblank due hdue)
      exact ⟨[], taken, nofun, hprogress⟩
  · next hlistening =>
    obtain ⟨⟨r, t⟩, hr, rfl⟩ := Option.map_eq_some_iff.mp h
    exact progress_receive hlistening hr
  · cases h
    exact ⟨[], none, nofun, .of_quiet rfl rfl rfl (Or.inr rfl)⟩
  all_goals cases h

/-! ## Calls -/

/-- A call sends its request or nothing, and takes nothing. -/
theorem progress_proceed {c : Call} (h : b.proceed? c = some b') :
    ∃ sent, (sent = [] ∨ sent = [b.request c.inquiry]) ∧ Progress b b' sent none := by
  unfold proceed? at h
  split at h
  · obtain ⟨sent, hsent, hprogress⟩ := progress_send b (b.request c.inquiry)
    generalize b.send (b.request c.inquiry) = r at h hprogress
    obtain ⟨result, b₁⟩ := r
    -- whatever stage the call goes to, the rest of the booth is as the sending left it
    have hstage : ∀ b₂ : Booth Socket σ, b₂.role = b₁.role → b₂.transport = b₁.transport →
        b₂.player = b₁.player → b₂.listener = b₁.listener → Progress b b₂ sent none := by
      intro b₂ hr ht hp hl
      have hquiet : Progress b₁ b₂ [] none := .of_quiet hr ht (by rw [hp]) (Or.inl hl)
      exact hprogress.quietly hquiet (by rw [ht])
    refine ⟨sent, hsent, ?_⟩
    cases result with
    | ok u =>
      cases h
      exact hstage _ rfl rfl rfl rfl
    | error e =>
      generalize c.inquiry = inquiry at h
      cases inquiry with
      | barrier | address =>
        cases h
        exact hstage _ rfl rfl rfl rfl
  · split at h
    · cases h
      exact ⟨[], Or.inl rfl, .of_quiet rfl rfl rfl (Or.inl rfl)⟩
    · obtain ⟨e, -, rfl⟩ := Option.map_eq_some_iff.mp h
      exact ⟨[], Or.inl rfl, .of_quiet rfl rfl rfl (Or.inl rfl)⟩
  · split at h
    · cases h
      exact ⟨[], Or.inl rfl, .of_quiet rfl rfl (Player.results_leaveBarrier ..) (Or.inl rfl)⟩
    · cases h
      exact ⟨[], Or.inl rfl, .of_quiet rfl rfl rfl (Or.inl rfl)⟩

theorem progress_begin (b : Booth Socket σ) (inquiry : Inquiry) :
    Progress b (b.begin inquiry).2 [] none := by
  have hbegins := begins b inquiry
  generalize (b.begin inquiry).2 = b' at hbegins ⊢
  cases hbegins with
  | refused | arrives | asks => exact .of_quiet rfl rfl rfl (Or.inl rfl)

/-! ## Deeds -/

/-- The messages that a booth may send: replies, and what its player asks and tells. -/
def Says (b : Booth Socket σ) (m : Uplink) : Prop :=
  m.isReply = true ∨ (∃ name, m = .failBarrier name b.role) ∨
    ∃ c ∈ b.calls, m = b.request c.inquiry

/-- What a booth sends and takes in a deed. A player that is being greeted knows of no result. -/
theorem progress_after (hblank : ∀ due, b.listener = .greeting due → b.player.results = [])
    (d : Deed) : ∃ sent taken, (∀ m ∈ sent, b.Says m) ∧ Progress b (b.after d) sent taken := by
  have hquiet : ∀ b' : Booth Socket σ, Progress b b' [] none →
      ∃ sent taken, (∀ m ∈ sent, b.Says m) ∧ Progress b b' sent taken :=
    fun b' h => ⟨[], none, nofun, h⟩
  have hgetD : ∀ {o : Option (Booth Socket σ)}, (∀ b', o = some b' →
      ∃ sent taken, (∀ m ∈ sent, b.Says m) ∧ Progress b b' sent taken) →
      ∃ sent taken, (∀ m ∈ sent, b.Says m) ∧ Progress b (o.getD b) sent taken :=
    getD_of (p := fun b' => ∃ sent taken, (∀ m ∈ sent, b.Says m) ∧ Progress b b' sent taken)
      (hquiet b (.refl b))
  cases d with
  | begin inquiry =>
    rw [Booth.after]
    split
    · exact hquiet _ (progress_begin b inquiry)
    · exact hquiet _ (.refl b)
  | proceed id =>
    refine hgetD ?_
    intro b' hp
    obtain ⟨c, hcall, hp⟩ := Option.bind_eq_some_iff.mp hp
    obtain ⟨sent, hsent, hprogress⟩ := progress_proceed hp
    exact ⟨sent, none, fun m hm =>
      Or.inr (Or.inr ⟨c, List.mem_of_find?_eq_some hcall, eq_of_sent hsent m hm⟩), hprogress⟩
  | cancel | wait => exact hquiet _ (.of_quiet rfl rfl rfl (Or.inl rfl))
  | listen =>
    refine hgetD ?_
    intro b' hl
    obtain ⟨sent, taken, hreplies, hprogress⟩ := progress_listen hblank hl
    exact ⟨sent, taken, fun m hm => Or.inl (hreplies m hm), hprogress⟩
  | expireGreeting =>
    refine hgetD fun b' he => hquiet b' ?_
    unfold expireGreeting? at he
    split at he
    · split at he
      · cases he
        exact progress_stop rfl rfl rfl rfl
      · cases he
    · cases he
  | giveUp name =>
    rw [Booth.after]
    split
    · obtain ⟨sent, hsent, hprogress⟩ := progress_send b (.failBarrier name b.role)
      exact ⟨sent, none, fun m hm => Or.inr (Or.inl ⟨name, eq_of_sent hsent m hm⟩), hprogress⟩
    · exact hquiet _ (.refl b)
  | close =>
    rw [Booth.after]
    split
    · exact hquiet _ (progress_stop rfl rfl rfl rfl)
    · exact hquiet _ (.refl b)

/-! ## Joining -/

/-- Joining greets the conductor on a new connection, if there is one. -/
theorem join_cases (b : Booth Socket σ) (ho : b.transport.outgoing = [])
    (hi : b.transport.inlet = none) :
    b.join.role = b.role ∧
      (∃ sent, (∀ m ∈ sent, m = .hello b.role.name b.address ∧ m.IsSendable) ∧
        b.join.transport.outgoing = Uplink.framed sent) ∧
      (∀ inlet, b.join.transport.inlet = some inlet → inlet = {}) ∧
      (b.join.listens = true → b.join.transport.inlet = some {}) := by
  have hconnect : Transport.connect b.transport b.conductor =
      Socket.connect b.transport b.conductor := rfl
  unfold join
  rw [hconnect, Socket.connect]
  cases hreaches : b.transport.reaches b.conductor with
  | true =>
    rw [if_pos rfl]
    dsimp only
    -- the new connection has a name, so that the greeting is sent from a booth over any socket
    obtain ⟨t, ht⟩ : ∃ t : Socket, t =
      { b.transport with inlet := some {}, writable := true, outgoing := [], connected := true } :=
      ⟨_, rfl⟩
    rw [← ht]
    obtain ⟨b₁, hb₁⟩ : ∃ b₁ : Booth Socket σ, b₁ = { b with transport := t } := ⟨_, rfl⟩
    rw [← hb₁]
    obtain ⟨sent, hsent, hprogress⟩ := progress_send b₁ (.hello b.role.name b.address)
    have hinlet := inlet_send b₁ (.hello b.role.name b.address)
    generalize b₁.send (.hello b.role.name b.address) = r at hprogress hinlet ⊢
    obtain ⟨result, b₂⟩ := r
    subst hb₁
    subst ht
    have hhello : ∀ m ∈ sent, m = .hello b.role.name b.address ∧ m.IsSendable :=
      fun m hm => ⟨eq_of_sent hsent m hm, hprogress.sendable m hm⟩
    cases result with
    | error e =>
      refine ⟨hprogress.role, ⟨sent, hhello, hprogress.outgoing⟩, ?_, nofun⟩
      intro inlet hin
      exact (Option.some.inj (hinlet.symm.trans hin)).symm
    | ok u =>
      refine ⟨hprogress.role, ⟨sent, hhello, hprogress.outgoing⟩, ?_,
        fun _ => hinlet⟩
      intro inlet hin
      exact (Option.some.inj (hinlet.symm.trans hin)).symm
  | false =>
    rw [if_neg Bool.false_ne_true]
    refine ⟨rfl, ⟨[], nofun, ho⟩, ?_, nofun⟩
    intro inlet hin
    have hnone : b.transport.inlet = some inlet := hin
    rw [hi] at hnone
    cases hnone

end Booth

end Rendezvous
