import Rendezvous.Proofs.Player.Happenings

/-!
# Lost connections

A player that has lost the connection never gets it back, and nobody waits at it (`Lost`). Who
waited in vain until then (`Unserved`) is told so in its next step (`Abandoned`), and every later
call is refused. A listener ends for few reasons (`Departs`), and does not end without telling the
player (`lost_for_good`).
-/

namespace Rendezvous.Booth

variable {τ σ : Type} {b b' : Booth τ σ} {c : Call} {e : Happening τ σ}

/-- The connection is lost, and nobody waits. -/
structure Lost (b : Booth τ σ) : Prop where
  connected : b.player.connected = false
  barrier : b.player.barrierWaiter = none
  addresses : b.player.addressWaiters = []

/-- A call to which nothing was delivered. -/
def Unserved (b : Booth τ σ) (c : Call) : Prop :=
  match c.inquiry with
  | .barrier .. => ∀ success, b.player.barrierWait c.id ≠ .served success
  | .address _ => ∀ a, b.player.addressWait c.id ≠ .served a

/-! ## Nobody waits -/

theorem lost_of_disconnect {p : Player} (h : b.player = p.disconnect) : b.Lost := by
  constructor <;> rw [h] <;> rfl

/-- Nothing is delivered by a player that has lost the connection. -/
structure Idle (p p' : Player) : Prop where
  connected : p'.connected = p.connected
  barrier : p'.barrierWaiter = none
  addresses : p'.addressWaiters = []
  decided : p'.decided = p.decided
  located : p'.located = p.located

theorem Lost.idle (h : b.Lost) : Idle b.player b.player :=
  ⟨rfl, h.barrier, h.addresses, rfl, rfl⟩

theorem Lost.of_idle (h : b.Lost) (hi : Idle b.player b'.player) : b'.Lost :=
  ⟨hi.connected.trans h.connected, hi.barrier, hi.addresses⟩

theorem Lost.idle_hear (h : b.Lost) (m : Downlink) : Idle b.player (b.player.hear m) := by
  cases m with
  | barrierResult name success =>
    unfold Player.hear Player.barrierResolved
    rw [h.barrier]
    exact ⟨rfl, rfl, h.addresses, rfl, rfl⟩
  | addressReply node address =>
    unfold Player.hear Player.addressKnown
    rw [h.addresses]
    exact ⟨rfl, h.barrier, rfl, rfl, List.append_nil _⟩
  | done | enterBarrier | failBarrier | getAddress | throttle | disconnect | terminate =>
    exact h.idle

theorem Lost.idle_proceeding (h : b.Lost) (hp : Proceeding b c b') : Idle b.player b'.player := by
  rcases hp.player with he | he <;> rw [he]
  · exact h.idle
  · exact ⟨rfl, rfl, h.addresses, rfl, rfl⟩

/-! ## What calls come to -/

theorem Lost.barrierWait (h : b.Lost) (id : CallId) :
    (∃ success, b.player.barrierWait id = .served success) ∨ b.player.barrierWait id = .closed := by
  unfold Player.barrierWait
  rw [h.barrier]
  split
  · exact Or.inl ⟨_, rfl⟩
  · exact Or.inr rfl

theorem Lost.addressWait (h : b.Lost) (id : CallId) :
    (∃ a, b.player.addressWait id = .served a) ∨ b.player.addressWait id = .closed := by
  unfold Player.addressWait
  rw [h.addresses]
  split
  · exact Or.inl ⟨_, rfl⟩
  · exact Or.inr rfl

/-- Every call has come to something, -/
theorem Lost.found? (h : b.Lost) (c : Call) : ∃ result, b.found? c = some result := by
  unfold Booth.found?
  split
  · rcases h.barrierWait c.id with ⟨success, hw⟩ | hw <;> rw [hw]
    · cases success <;> exact ⟨_, rfl⟩
    · exact ⟨_, rfl⟩
  · rcases h.addressWait c.id with ⟨a, hw⟩ | hw <;> rw [hw] <;> exact ⟨_, rfl⟩

/-- and to nothing if it was not served. -/
theorem Lost.found?_of_unserved (h : b.Lost) (hu : b.Unserved c) :
    b.found? c = some (.error .notConnected) := by
  unfold Unserved at hu
  unfold Booth.found?
  split
  · next hinquiry =>
    rw [hinquiry] at hu
    rw [(h.barrierWait c.id).resolve_left fun ⟨success, hw⟩ => hu success hw]
  · next hinquiry =>
    rw [hinquiry] at hu
    rw [(h.addressWait c.id).resolve_left fun ⟨a, hw⟩ => hu a hw]

theorem Lost.found?_of_idle (h : b.Lost) (hi : Idle b.player b'.player) (c : Call) :
    b'.found? c = b.found? c := by
  unfold Booth.found? Player.barrierWait Player.addressWait
  rw [hi.decided, hi.located, hi.barrier, hi.addresses, h.barrier, h.addresses]

/-! ## Calls that waited in vain -/

theorem mem_setStage_of_ne {id : CallId} {stage : CallStage} (hne : c.id ≠ id) :
    c ∈ (b.setStage id stage).calls ↔ c ∈ b.calls := by
  constructor
  · intro hc
    obtain ⟨c', hmem, he⟩ := List.mem_map.mp hc
    split at he
    · next hid =>
      subst he
      exact absurd hid hne
    · exact he ▸ hmem
  · intro hc
    exact List.mem_map.mpr ⟨c, hc, if_neg hne⟩

theorem mem_filter_id {calls : List Call} {id : CallId} (hne : c.id ≠ id) :
    c ∈ calls.filter (·.id ≠ id) ↔ c ∈ calls := by
  rw [List.mem_filter]
  exact and_iff_left (decide_eq_true hne)

/-- Whoever goes on leaves the other calls where they are. -/
structure Aside (id : CallId) (b b' : Booth τ σ) : Prop where
  nextCall : b'.nextCall = b.nextCall
  calls : ∀ c : Call, c.id ≠ id → (c ∈ b'.calls ↔ c ∈ b.calls)
  endings : ∀ x : CallId × Except PlayerError Finding, x.1 ≠ id →
    (x ∈ b'.endings ↔ x ∈ b.endings)

theorem Proceeding.aside (h : Proceeding b c b') : Aside c.id b b' := by
  cases h with
  | sends _ _ _ after | fails _ _ _ _ after | expires _ _ _ after =>
    subst after
    exact ⟨rfl, fun c' hne => mem_setStage_of_ne hne, fun _ _ => Iff.rfl⟩
  | breaks _ _ _ _ after | finds _ _ after | leaves _ _ after | ends _ _ after =>
    subst after
    refine ⟨rfl, fun c' hne => mem_filter_id hne, fun x hne => ?_⟩
    refine List.mem_append.trans (or_iff_left fun hx => hne ?_)
    rw [List.mem_singleton.mp hx]

theorem aside_cancel (b : Booth τ σ) (id : CallId) : Aside id b (b.cancel id) :=
  ⟨rfl, fun _ hne => mem_filter_id hne, fun _ _ => Iff.rfl⟩

/-- What becomes of a call that waits in vain. -/
structure Abandoned (c : Call) (later : List (Happening τ σ)) (b : Booth τ σ) : Prop where
  found : b.found? c = some (.error .notConnected)
  old : c.id < b.nextCall
  same : ∀ c' ∈ b.calls, c'.id = c.id → c' = c
  /-- It ends with nothing else, -/
  ends : ∀ result, (c.id, result) ∈ b.endings → result = .error .notConnected
  /-- and does so unless it still waits or was dropped. -/
  fate : c ∈ b.calls ∨ (c.id, .error .notConnected) ∈ b.endings ∨
    .deed (.cancel c.id) ∈ later ∨ .deed .close ∈ later

theorem Abandoned.of_unserved (hlost : b.Lost) (hn : b.Numbered) (hc : c ∈ b.calls)
    (hu : b.Unserved c) : Abandoned c [] b := by
  have hid : c.id ∈ b.calls.map Call.id := List.mem_map_of_mem hc
  have honce := List.nodup_append.mp hn.once
  refine ⟨hlost.found?_of_unserved hu, hn.call_lt hc, ?_, ?_, Or.inl hc⟩
  · exact fun c' hc' he => List.inj_on_of_nodup_map honce.1 hc' hc he
  · intro result hmem
    exact absurd rfl (honce.2.2 _ hid _ (List.mem_map_of_mem hmem))

variable {later : List (Happening τ σ)}

/-- A call stays abandoned as long as calls and endings stay as they are, -/
theorem Abandoned.kept (h : Abandoned c later b)
    (hfound : b'.found? c = some (.error .notConnected)) (hnext : b'.nextCall = b.nextCall)
    (hcalls : b'.calls = b.calls) (hendings : b'.endings = b.endings) (e : Happening τ σ) :
    Abandoned c (later ++ [e]) b' := by
  refine ⟨hfound, hnext ▸ h.old, hcalls ▸ h.same, hendings ▸ h.ends, ?_⟩
  rw [hcalls, hendings]
  exact h.fate.imp_right
    (Or.imp_right (Or.imp (List.mem_append_left _) (List.mem_append_left _)))

/-- as another call goes on, -/
theorem Abandoned.beside {id : CallId} (h : Abandoned c later b)
    (hfound : b'.found? c = some (.error .notConnected)) (haside : Aside id b b')
    (hid : c.id ≠ id) (e : Happening τ σ) : Abandoned c (later ++ [e]) b' := by
  refine ⟨hfound, haside.nextCall ▸ h.old, ?_, ?_, ?_⟩
  · intro c' hc' he
    exact h.same c' ((haside.calls c' (he ▸ hid)).mp hc') he
  · exact fun result hmem => h.ends result ((haside.endings _ hid).mp hmem)
  · exact h.fate.imp (haside.calls c hid).mpr (Or.imp (haside.endings _ hid).mpr
      (Or.imp (List.mem_append_left _) (List.mem_append_left _)))

/-- and as a new one is refused. -/
theorem Abandoned.refused {error : PlayerError} (h : Abandoned c later b)
    (e : Happening τ σ) : Abandoned c (later ++ [e]) { b with
      nextCall := b.nextCall + 1
      endings := b.endings ++ [(b.nextCall, .error error)] } := by
  refine ⟨h.found, Nat.lt_succ_of_lt h.old, h.same, ?_, ?_⟩
  · intro result hmem
    rcases List.mem_append.mp hmem with hmem | hmem
    · exact h.ends result hmem
    · have hid : c.id = b.nextCall := congrArg Prod.fst (List.mem_singleton.mp hmem)
      exact absurd h.old (hid ▸ Nat.lt_irrefl _)
  · exact h.fate.imp_right (Or.imp (List.mem_append_left _)
      (Or.imp (List.mem_append_left _) (List.mem_append_left _)))

/-- When it goes on itself, it finds that nobody will serve it. -/
theorem Abandoned.proceeds {limit : Option (Span × Nat)} (h : Abandoned c later b)
    (hstage : c.stage = .waiting limit)
    (hfound : b'.found? c = some (.error .notConnected)) (hp : Proceeding b c b')
    (e : Happening τ σ) : Abandoned c (later ++ [e]) b' := by
  cases hp with
  | sends _ _ stage _ | fails _ _ stage _ _ | breaks _ _ stage _ _ | leaves stage _ _
  | ends stage _ _ =>
    rw [hstage] at stage
    cases stage
  | expires _ _ pending _ =>
    rw [h.found] at pending
    cases pending
  | finds _ found after =>
    rw [h.found] at found
    cases found
    subst after
    refine ⟨hfound, h.old, ?_, ?_, Or.inr (Or.inl ?_)⟩
    · intro c' hc' he
      exact absurd he (of_decide_eq_true (List.mem_filter.mp hc').2)
    · intro result hmem
      rcases List.mem_append.mp hmem with hmem | hmem
      · exact h.ends result hmem
      · cases List.mem_singleton.mp hmem
        rfl
    · exact List.mem_append_right _ (List.mem_singleton.mpr rfl)

variable [Transport τ]

/-- No call hangs. -/
theorem Lost.proceed? (h : b.Lost) (c : Call) : ∃ b', b.proceed? c = some b' := by
  unfold Booth.proceed?
  split
  · rw [send_eq]
    cases (Transport.send b.transport (b.request c.inquiry).encode).1 <;> cases c.inquiry <;>
      exact ⟨_, rfl⟩
  · obtain ⟨result, hfound⟩ := h.found? c
    rw [hfound]
    exact ⟨_, rfl⟩
  · split <;> exact ⟨_, rfl⟩

theorem Lost.idle_effect (h : b.Lost) (he : Effect b e b') : Idle b.player b'.player := by
  have hdisconnect : Idle b.player b.player.disconnect :=
    ⟨h.connected.symm, rfl, rfl, rfl, rfl⟩
  have hfresh : b.player.connected ≠ true := by
    rw [h.connected]
    exact Bool.false_ne_true
  cases he with
  | rests _ steady _ => exact steady.player ▸ h.idle
  | hears _ _ _ _ _ _ player _ => exact player ▸ h.idle_hear _
  | loses _ _ after | closes _ _ after =>
    subst after
    exact hdisconnect
  | refuses _ _ after | drops _ after =>
    subst after
    exact h.idle
  | arrives _ _ connected _ _ | asks _ connected _ => exact absurd connected hfresh
  | proceeds _ _ proceeding => exact h.idle_proceeding proceeding

theorem Abandoned.step {limit : Option (Span × Nat)} (h : Abandoned c later b)
    (hstage : c.stage = .waiting limit) (hlost : b.Lost)
    (he : Effect b e b') : Abandoned c (later ++ [e]) b' := by
  have hfound : b'.found? c = some (.error .notConnected) :=
    (hlost.found?_of_idle (hlost.idle_effect he) c).trans h.found
  have hfresh : b.player.connected ≠ true := by
    rw [hlost.connected]
    exact Bool.false_ne_true
  cases he with
  | rests _ steady _ => exact h.kept hfound steady.nextCall steady.calls steady.endings e
  | hears _ _ _ nextCall calls endings _ _ => exact h.kept hfound nextCall calls endings e
  | loses _ _ after =>
    subst after
    exact h.kept hfound rfl rfl rfl e
  | closes _ deed after =>
    subst after
    refine ⟨hfound, h.old, nofun, h.ends, Or.inr (Or.inr (Or.inr ?_))⟩
    exact List.mem_append_right _ (List.mem_singleton.mpr deed.symm)
  | refuses _ _ after =>
    subst after
    exact h.refused e
  | arrives _ _ connected _ _ | asks _ connected _ => exact absurd connected hfresh
  | @proceeds c₁ _ call proceeding =>
    by_cases hid : c.id = c₁.id
    · have hc : c₁ = c := h.same c₁ (List.mem_of_find?_eq_some call) hid.symm
      subst hc
      exact h.proceeds hstage hfound proceeding e
    · exact h.beside hfound proceeding.aside hid e
  | @drops id deed after =>
    subst after
    by_cases hid : c.id = id
    · subst hid
      refine ⟨hfound, h.old, fun c' hc' => h.same c' (List.mem_filter.mp hc').1, h.ends, ?_⟩
      refine Or.inr (Or.inr (Or.inl ?_))
      exact List.mem_append_right _ (List.mem_singleton.mpr deed.symm)
    · exact h.beside hfound (aside_cancel b id) hid e

/-! ## The loss -/

/-- A connection is there or is lost, and then nobody waits. -/
theorem connected_or_lost (h : b.player.connected = true ∨ b.Lost) (he : Effect b e b') :
    b'.player.connected = true ∨ b'.Lost := by
  rcases h with hc | hlost
  · cases he with
    | rests _ steady _ => exact Or.inl (steady.player ▸ hc)
    | hears _ _ _ _ _ _ player _ => exact Or.inl (player ▸ (connected_hear _ _).trans hc)
    | loses _ _ after | closes _ _ after =>
      subst after
      exact Or.inr (lost_of_disconnect rfl)
    | refuses _ _ after | drops _ after | arrives _ _ _ _ after | asks _ _ after =>
      subst after
      exact Or.inl hc
    | proceeds _ _ proceeding => exact Or.inl (proceeding.attendance.2.trans hc)
  · exact Or.inr (hlost.of_idle (hlost.idle_effect he))

theorem connected_or_lost_through (hb : b.Fresh) (events : List (Happening τ σ)) :
    (b.through events).player.connected = true ∨ (b.through events).Lost := by
  induction events using List.reverseRecOn with
  | nil =>
    refine Or.inl ?_
    show b.player.connected = true
    rw [hb.player]
  | append_singleton events e ih =>
    rw [through_concat]
    exact connected_or_lost ih (effect (attended_through hb.attended events).joined e)

/-! ## How the listening ends -/

/-- A message behind which nothing more is received. -/
inductive Silences (b : Booth τ σ) : Downlink → Prop where
  /-- The reply to it cannot be sent. -/
  | mute {m : Downlink} {result : Except String Unit} {u : Uplink} {error : TransportError}
      (alive : ∀ exit, m ≠ .terminate exit)
      (met : ∀ o, m.order? = some o → ∃ memory, b.handler.obey b.memory o = some (result, memory))
      (reply : m.reply? b.role b.address result = some u)
      (unsent : (Transport.send b.transport u.encode).1 = .error error) : Silences b m
  /-- The node goes down. -/
  | down {exit : Exit} {memory : σ} (down : b.handler.terminate b.memory exit = some memory) :
      Silences b (.terminate exit)

/-- What makes a listener stop to listen: it receives nothing, or no message, or the last one. -/
inductive Departs (b : Booth τ σ) : Except TransportError (List UInt8) → Prop where
  | broken (error : TransportError) : Departs b (.error error)
  | garbled {body : List UInt8} {error : WireError}
      (garbled : Downlink.ofBody body = .error error) : Departs b (.ok body)
  | silenced {body : List UInt8} {m : Downlink} (message : Downlink.ofBody body = .ok m)
      (silences : b.Silences m) : Departs b (.ok body)

theorem leaving_reply (hl : b.listener = .listening) (u : Uplink) :
    (b.reply u).listener = .leaving ↔
      ∃ error, (Transport.send b.transport u.encode).1 = .error error := by
  unfold reply
  rw [send_eq]
  cases (Transport.send b.transport u.encode).1 with
  | ok => simp [Except.mapError, hl]
  | error => simp [Except.mapError]

theorem leaving_order (hl : b.listener = .listening) {o : Order}
    (ho : ∀ exit, o.message ≠ .terminate exit) :
    (b.acknowledge (b.handler.obey b.memory o)).listener = .leaving ↔ b.Silences o.message := by
  have horder : o.message.order? = some o := by cases o <;> rfl
  have hacknowledge : ∀ result memory, ∃ u, o.message.reply? b.role b.address result = some u ∧
      b.acknowledge (some (result, memory)) = ({ b with memory } : Booth τ σ).reply u := by
    intro result memory
    cases o with
    | terminate exit => exact absurd rfl (ho exit)
    | throttle | disconnect => cases result <;> exact ⟨_, rfl, rfl⟩
  cases hmet : b.handler.obey b.memory o with
  | none =>
    refine ⟨by simp [acknowledge], fun h => ?_⟩
    generalize o.message = m at h horder ho
    cases h with
    | mute _ met =>
      obtain ⟨memory, hmet'⟩ := met o horder
      rw [hmet] at hmet'
      cases hmet'
    | down => exact absurd rfl (ho _)
  | some r =>
    obtain ⟨result, memory⟩ := r
    obtain ⟨u, hreply, he⟩ := hacknowledge result memory
    rw [he]
    refine (leaving_reply (b := { b with memory }) hl u).trans ⟨?_, fun h => ?_⟩
    · rintro ⟨error, hunsent⟩
      refine .mute ho (fun o' ho' => ?_) hreply hunsent
      rw [horder] at ho'
      cases ho'
      exact ⟨memory, hmet⟩
    · generalize o.message = m at h horder ho hreply
      cases h with
      | mute _ met reply unsent =>
        obtain ⟨memory', hmet'⟩ := met o horder
        rw [hmet] at hmet'
        cases hmet'
        rw [hreply] at reply
        cases reply
        exact ⟨_, unsent⟩
      | down => exact absurd rfl (ho _)

theorem leaving_terminate (b : Booth τ σ) (exit : Exit) : (b.terminate exit).listener = .leaving ↔
    ∃ memory, b.handler.terminate b.memory exit = some memory := by
  have hsent : (b.send .done).2.handler = b.handler ∧ (b.send .done).2.memory = b.memory := by
    rw [send_eq]
    exact ⟨rfl, rfl⟩
  unfold terminate
  dsimp only
  rw [hsent.1, hsent.2]
  cases b.handler.terminate b.memory exit <;> simp

theorem leaving_hear (hl : b.listener = .listening) (m : Downlink) :
    (b.hear m).listener = .leaving ↔ b.Silences m := by
  cases m with
  | done | enterBarrier | failBarrier | barrierResult | addressReply =>
    refine ⟨fun h => ?_, fun h => ?_⟩
    · have hleft : b.listener = .leaving := h
      rw [hl] at hleft
      cases hleft
    · cases h with
      | mute _ _ reply => cases reply
  | getAddress node =>
    refine (leaving_reply hl _).trans ⟨fun ⟨error, hunsent⟩ => ?_, fun h => ?_⟩
    · have hreply : Downlink.reply? b.role b.address (.ok ()) (.getAddress node) =
          some (.addressReply b.role b.address) := rfl
      exact .mute (by simp) (by simp [Downlink.order?]) hreply hunsent
    · cases h with
      | mute _ _ reply unsent =>
        cases reply
        exact ⟨_, unsent⟩
  | throttle target direction rate =>
    exact leaving_order hl (o := .throttle target direction rate) (by simp [Order.message])
  | disconnect target abort =>
    exact leaving_order hl (o := .disconnect target abort) (by simp [Order.message])
  | terminate exit =>
    refine (leaving_terminate b exit).trans ⟨fun ⟨memory, hdown⟩ => .down hdown, fun h => ?_⟩
    cases h with
    | mute alive => exact absurd rfl (alive exit)
    | down down => exact ⟨_, down⟩

theorem leaving_receive (hl : b.listener = .listening) (r : Except TransportError (List UInt8)) :
    (b.receive r).listener = .leaving ↔ b.Departs r := by
  cases r with
  | error error => exact iff_of_true rfl (.broken error)
  | ok body =>
    cases hm : Downlink.ofBody body with
    | error error =>
      simp only [receive, hm]
      exact iff_of_true trivial (.garbled hm)
    | ok m =>
      simp only [receive, hm]
      refine (leaving_hear hl m).trans ⟨fun h => .silenced hm h, fun h => ?_⟩
      cases h with
      | garbled garbled =>
        rw [hm] at garbled
        cases garbled
      | silenced message silences =>
        rw [hm] at message
        cases message
        exact silences

/-- A listener stops to listen by what it receives. -/
theorem leaving_listen (hl : b.listener = .listening) :
    (b.behind (.deed .listen)).listener = .leaving ↔ ∃ r transport,
      Transport.receive? b.transport = some (r, transport) ∧
        Departs { b with transport } r := by
  rw [behind, after_listen_of_listening hl]
  cases hr : Transport.receive? b.transport with
  | none => simp [hl]
  | some received =>
    obtain ⟨r, transport⟩ := received
    refine (leaving_receive (b := { b with transport }) hl r).trans ⟨fun h => ?_, ?_⟩
    · exact ⟨r, transport, rfl, h⟩
    · rintro ⟨_, _, ⟨⟩, h⟩
      exact h

/-! ## Behind the loss -/

/-- What holds behind the loss of the connection, whatever happens later. -/
structure Aftermath (s : Booth τ σ) (later : List (Happening τ σ)) (s' : Booth τ σ) : Prop where
  /-- Nobody waits, -/
  lost : s'.Lost
  /-- and every call that is under way can go on. -/
  goes : ∀ c ∈ s'.calls, ∃ b', s'.proceed? c = some b'
  /-- A call that waited and was not served ends with `notConnected`: in its next step, or it has
  done so already, unless it was dropped. -/
  abandoned : ∀ c ∈ s.calls, ∀ limit, c.stage = .waiting limit → s.Unserved c →
    (c ∈ s'.calls ∧
        s'.behind (.deed (.proceed c.id)) = s'.finish c.id (.error .notConnected) ∨
      (c.id, .error .notConnected) ∈ s'.endings ∨
      .deed (.cancel c.id) ∈ later ∨ .deed .close ∈ later) ∧
    ∀ result, (c.id, result) ∈ s'.endings → result = .error .notConnected
  /-- A call that begins then is refused, and nothing is sent for it. -/
  refused : s'.hasPlayer = true → ∀ inquiry, s'.behind (.deed (.begin inquiry)) = { s' with
    nextCall := s'.nextCall + 1
    endings := s'.endings ++ [(s'.nextCall, .error .notConnected)] }

theorem through_append (b : Booth τ σ) (events later : List (Happening τ σ)) :
    b.through (events ++ later) = (b.through events).through later := List.foldl_append

theorem lost_through (hb : b.Fresh) {events : List (Happening τ σ)}
    (hlost : (b.through events).Lost) (later : List (Happening τ σ)) :
    ((b.through events).through later).Lost := by
  induction later using List.reverseRecOn with
  | nil => exact hlost
  | append_singleton later e ih =>
    have hjoined := (attended_through hb.attended (events ++ later)).joined
    rw [through_append] at hjoined
    rw [through_concat]
    exact ih.of_idle (ih.idle_effect (effect hjoined e))

theorem abandoned_through (hb : b.Fresh) {events : List (Happening τ σ)}
    (hlost : (b.through events).Lost) {limit : Option (Span × Nat)}
    (hc : c ∈ (b.through events).calls) (hstage : c.stage = .waiting limit)
    (hu : (b.through events).Unserved c) (later : List (Happening τ σ)) :
    Abandoned c later ((b.through events).through later) := by
  induction later using List.reverseRecOn with
  | nil => exact .of_unserved hlost (numbered_through hb events) hc hu
  | append_singleton later e ih =>
    have hjoined := (attended_through hb.attended (events ++ later)).joined
    rw [through_append] at hjoined
    rw [through_concat]
    exact ih.step hstage (lost_through hb hlost later) (effect hjoined e)

theorem aftermath (hb : b.Fresh) {events : List (Happening τ σ)} (hlost : (b.through events).Lost)
    (later : List (Happening τ σ)) :
    Aftermath (b.through events) later ((b.through events).through later) := by
  have hlost' := lost_through hb hlost later
  have hnumbered := numbered_through hb (events ++ later)
  rw [through_append] at hnumbered
  refine ⟨hlost', fun c _ => hlost'.proceed? c, ?_, ?_⟩
  · intro c hc limit hstage hu
    have h := abandoned_through hb hlost hc hstage hu later
    refine ⟨h.fate.imp_left fun hc' => ⟨hc', ?_⟩, h.ends⟩
    rw [behind, after, hnumbered.call? hc', Option.bind_some, Booth.proceed?, hstage]
    dsimp only
    rw [h.found]
    rfl
  · intro hp inquiry
    rw [behind, after, if_pos hp]
    exact begin_of_disconnected hlost'.connected inquiry

/-- A listener stops to listen when it receives nothing, or no message, or a message whose reply
cannot be sent, or one by which the node goes down. Whichever it is, it tells the player that the
connection is lost, and so does a player that leaves. From then on nobody waits any more, who has
waited in vain ends with `notConnected`, and every later call does without anything sent. -/
theorem lost_for_good (b : Booth τ σ) (hb : b.Fresh) (events : List (Happening τ σ)) :
    let s := b.through events
    (s.player.connected = true →
      s.listener = .listening ∨ s.listener = .stalled ∨ s.listener = .leaving) ∧
    (s.listener = .listening → ((s.behind (.deed .listen)).listener = .leaving ↔
      ∃ r transport, Transport.receive? s.transport = some (r, transport) ∧
        Departs { s with transport } r)) ∧
    (s.listener = .leaving → (s.behind (.deed .listen)).player.connected = false) ∧
    (s.hasPlayer = true → (s.behind (.deed .close)).player.connected = false) ∧
    (s.player.connected = false → ∀ later, Aftermath s later (s.through later)) := by
  intro s
  refine ⟨(attended_through hb.attended events).stays, leaving_listen, ?_, ?_, ?_⟩
  · intro hl
    rw [behind, after_listen_of_leaving hl]
    rfl
  · intro hp
    rw [behind, after, if_pos hp]
    rfl
  · intro hc later
    refine aftermath hb ?_ later
    refine (connected_or_lost_through hb events).resolve_left ?_
    rw [hc]
    exact Bool.false_ne_true

/-- The conductor leaves while a player waits at a barrier and for an address; then it goes to
another barrier. -/
theorem lost_for_good_scripted :
    let b : Booth Scripted Record := {
      role := ⟨"a"⟩, address := default, conductor := "c"
      transport := { connected := true }
      handler := .recorder .obeys .obeys, memory := {}, listener := .listening }
    let events : List (Happening Scripted Record) := [.deed (.begin (.barrier "x" none)),
      .deed (.proceed 0), .deed (.begin (.address ⟨"b"⟩)), .deed (.proceed 1),
      .world Scripted.closeRemote id, .deed .listen, .deed .listen]
    let later : List (Happening Scripted Record) :=
      [.proceed 1, .begin (.barrier "y" none), .proceed 0].map .deed
    let s := b.through events
    s.calls.length = 2 ∧ Aftermath s later (s.through later) ∧
      (s.through later).endings =
        [(1, .error .notConnected), (2, .error .notConnected), (0, .error .notConnected)] ∧
      (s.through later).transport.sent = s.transport.sent := by
  intro b events later s
  obtain ⟨-, -, -, -, hlost⟩ := lost_for_good b ⟨rfl, rfl, rfl, rfl⟩ events
  refine ⟨?_, hlost ?_ later, ?_, ?_⟩ <;> decide +kernel

end Rendezvous.Booth
