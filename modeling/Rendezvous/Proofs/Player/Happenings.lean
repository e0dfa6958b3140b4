import Rendezvous.Proofs.Player.Answering

/-!
# What happenings come to

Whatever happens at a player, its calls take notice of few things (`Effect`, `effect`): a message
is taken in, the connection is lost or closed, a call begins, goes on (`Proceeding`) or is dropped.
A player that is connected has a listener that has not left it (`attended_through`).
-/

namespace Rendezvous

/-- The player behind a message. -/
def Player.hear (p : Player) : Downlink → Player
  | .barrierResult name success => p.barrierResolved name success
  | .addressReply node address => p.addressKnown node address
  | _ => p

/-- How a listener lasts: only one that listens can stop to. -/
inductive Listener.Lasts (l : Listener) : Listener → Prop where
  | stays : Lasts l l
  | stops (listening : l = .listening) : Lasts l .leaving
  | stalls (listening : l = .listening) : Lasts l .stalled

namespace Booth

variable {τ σ : Type} {b b' : Booth τ σ} {c : Call} {e : Happening τ σ}

/-! ## Calls that go on -/

theorem leaveBarrier_cases (p : Player) (name : String) :
    p.leaveBarrier name = p ∨ p.leaveBarrier name = { p with barrierWaiter := none } := by
  unfold Player.leaveBarrier
  split
  · exact Or.inr rfl
  · exact Or.inl rfl

/-- A call that goes on takes away who waits at a barrier, at most. -/
theorem Proceeding.player (h : Proceeding b c b') :
    b'.player = b.player ∨ b'.player = { b.player with barrierWaiter := none } := by
  cases h with
  | sends _ _ _ after | fails _ _ _ _ after | breaks _ _ _ _ after | finds _ _ after
  | expires _ _ _ after | ends _ _ after =>
    rw [after]
    exact Or.inl rfl
  | leaves _ _ after =>
    rw [after]
    exact leaveBarrier_cases _ _

theorem mem_setStage {id : CallId} {stage : CallStage} (hc : c ∈ (b.setStage id stage).calls) :
    ∃ c₀ ∈ b.calls, c₀.id = c.id ∧ c₀.inquiry = c.inquiry ∧
      (c.stage = c₀.stage ∨ c.stage = stage) := by
  obtain ⟨c₀, hmem, rfl⟩ := List.mem_map.mp hc
  refine ⟨c₀, hmem, ?_⟩
  split
  · exact ⟨rfl, rfl, Or.inr rfl⟩
  · exact ⟨rfl, rfl, Or.inl rfl⟩

theorem Proceeding.attendance (h : Proceeding b c b') :
    b'.listener = b.listener ∧ b'.player.connected = b.player.connected := by
  refine ⟨?_, ?_⟩
  · cases h with
    | sends _ _ _ after | fails _ _ _ _ after | breaks _ _ _ _ after | finds _ _ after
    | expires _ _ _ after | leaves _ _ after | ends _ _ after =>
      rw [after]
      rfl
  · rcases h.player with hp | hp <;> rw [hp]

theorem connected_hear (p : Player) (m : Downlink) : (p.hear m).connected = p.connected := by
  cases m with
  | barrierResult name success =>
    simp only [Player.hear, Player.barrierResolved]
    split
    · split <;> rfl
    · rfl
  | _ => rfl

/-! ## Calls that may not wait -/

/-- Of a player that has lost the connection every call is refused. -/
theorem begin_of_disconnected (hc : b.player.connected = false) (inquiry : Inquiry) :
    (b.begin inquiry).2 = { b with
      nextCall := b.nextCall + 1
      endings := b.endings ++ [(b.nextCall, .error .notConnected)] } := by
  cases inquiry <;> simp [begin, Player.waitAtBarrier, Player.waitForAddress, hc]

/-- While a call waits at a barrier, no other one may. -/
theorem begin_of_waiter {w : BarrierWaiter} (hc : b.player.connected = true)
    (hw : b.player.barrierWaiter = some w) (name : String) (timeout : Option Span) :
    (b.begin (.barrier name timeout)).2 = { b with
      nextCall := b.nextCall + 1
      endings := b.endings ++ [(b.nextCall, .error (.barrierInFlight w.name))] } := by
  simp [begin, Player.waitAtBarrier, hc, hw]

/-! ## One call, one ending -/

/-- The calls that are under way and those that have ended, each of them once. -/
structure Numbered (b : Booth τ σ) : Prop where
  once : (b.calls.map Call.id ++ b.endings.map Prod.fst).Nodup
  fresh : ∀ id ∈ b.calls.map Call.id ++ b.endings.map Prod.fst, id < b.nextCall

theorem Numbered.call_lt (h : b.Numbered) (hc : c ∈ b.calls) : c.id < b.nextCall :=
  h.fresh c.id (List.mem_append_left _ (List.mem_map_of_mem hc))

theorem Numbered.call? (h : b.Numbered) (hc : c ∈ b.calls) : b.call? c.id = some c := by
  obtain ⟨c', hc'⟩ : ∃ c', b.call? c.id = some c' :=
    Option.isSome_iff_exists.mp (List.find?_isSome.mpr ⟨c, hc, decide_eq_true rfl⟩)
  have hid : c'.id = c.id := by simpa using List.find?_some hc'
  rw [hc', List.inj_on_of_nodup_map (List.nodup_append.mp h.once).1
    (List.mem_of_find?_eq_some hc') hc hid]

theorem ids_setStage (b : Booth τ σ) (id : CallId) (stage : CallStage) :
    (b.setStage id stage).calls.map Call.id = b.calls.map Call.id := by
  unfold setStage
  rw [List.map_map]
  refine List.map_congr_left fun c _ => ?_
  dsimp only [Function.comp]
  split <;> rfl

theorem ids_cancel (b : Booth τ σ) (id : CallId) :
    (b.cancel id).calls.map Call.id = (b.calls.map Call.id).filter (· ≠ id) := by
  rw [List.filter_map]
  rfl

theorem Numbered.of_sublist (h : b.Numbered) (hn : b.nextCall ≤ b'.nextCall)
    (hids : (b'.calls.map Call.id).Sublist (b.calls.map Call.id))
    (he : b'.endings = b.endings) : b'.Numbered := by
  have hsub : (b'.calls.map Call.id ++ b'.endings.map Prod.fst).Sublist
      (b.calls.map Call.id ++ b.endings.map Prod.fst) := by
    rw [he]
    exact hids.append_right _
  exact ⟨h.once.sublist hsub, fun id hid => Nat.lt_of_lt_of_le (h.fresh id (hsub.subset hid)) hn⟩

/-- A new id is taken, by a call that begins or by one that is refused. -/
theorem Numbered.take (h : b.Numbered) (hn : b'.nextCall = b.nextCall + 1)
    (hids : (b'.calls.map Call.id ++ b'.endings.map Prod.fst).Perm
      (b.nextCall :: (b.calls.map Call.id ++ b.endings.map Prod.fst))) : b'.Numbered := by
  refine ⟨hids.nodup_iff.mpr (List.nodup_cons.mpr ⟨?_, h.once⟩), ?_⟩
  · exact fun hmem => Nat.lt_irrefl _ (h.fresh _ hmem)
  · intro id hid
    rw [hn]
    rcases List.mem_cons.mp (hids.mem_iff.mp hid) with rfl | hid
    · exact Nat.lt_succ_self _
    · exact Nat.lt_succ_of_lt (h.fresh id hid)

/-- A call that is under way ends. -/
theorem Numbered.finish (h : b.Numbered) (hc : c ∈ b.calls)
    (result : Except PlayerError Finding) : (b.finish c.id result).Numbered := by
  have hmem : c.id ∈ b.calls.map Call.id := List.mem_map_of_mem hc
  have hids : ((b.finish c.id result).calls.map Call.id ++
      (b.finish c.id result).endings.map Prod.fst).Perm
      (b.calls.map Call.id ++ b.endings.map Prod.fst) := by
    have hcalls : (b.finish c.id result).calls.map Call.id = (b.calls.map Call.id).erase c.id := by
      rw [(List.nodup_append.mp h.once).1.erase_eq_filter]
      exact (ids_cancel b c.id).trans (List.filter_congr fun _ _ => decide_not)
    rw [hcalls, Booth.finish, List.map_append, List.map_singleton, ← List.append_assoc]
    refine List.perm_append_comm.trans ?_
    rw [List.singleton_append, ← List.cons_append]
    exact (List.perm_cons_erase hmem).symm.append_right _
  exact ⟨hids.nodup_iff.mpr h.once, fun id hid => h.fresh id (hids.mem_iff.mp hid)⟩

theorem Numbered.setStage (h : b.Numbered) (id : CallId) (stage : CallStage) :
    (b.setStage id stage).Numbered :=
  h.of_sublist (Nat.le_refl _) (by rw [ids_setStage]) rfl

theorem Numbered.proceeding (h : b.Numbered) (hc : c ∈ b.calls) (hp : Proceeding b c b') :
    b'.Numbered := by
  cases hp with
  | sends _ _ _ after | fails _ _ _ _ after | expires _ _ _ after =>
    rw [after]
    refine Numbered.setStage ?_ _ _
    exact ⟨h.once, h.fresh⟩
  | breaks _ _ _ _ after | finds _ _ after | leaves _ _ after | ends _ _ after =>
    rw [after]
    refine Numbered.finish ?_ ?_ _
    · exact ⟨h.once, h.fresh⟩
    · exact hc

/-! ## Players that have joined -/

/-- A player that has joined, and is connected only as long as its listener has not left it. -/
structure Attended (b : Booth τ σ) : Prop where
  joined : ∀ due, b.listener ≠ .greeting due
  stays : b.player.connected = true →
    b.listener = .listening ∨ b.listener = .stalled ∨ b.listener = .leaving

theorem Attended.hasPlayer (h : b.Attended) (hc : b.player.connected = true) :
    b.hasPlayer = true := by
  unfold Booth.hasPlayer
  rcases h.stays hc with hl | hl | hl <;> rw [hl]

/-- A player that has just joined: nobody has called it. -/
structure Fresh (b : Booth τ σ) : Prop where
  listener : b.listener = .listening
  player : b.player = {}
  calls : b.calls = []
  endings : b.endings = []

theorem Fresh.attended (hb : b.Fresh) : b.Attended :=
  ⟨fun due => by rw [hb.listener]; nofun, fun _ => Or.inl hb.listener⟩

theorem Fresh.numbered (hb : b.Fresh) : b.Numbered := by
  refine ⟨?_, ?_⟩ <;> rw [hb.calls, hb.endings]
  · exact List.nodup_nil
  · nofun

theorem Fresh.attends (hb : b.Fresh) : b.Attends fun _ _ => True := by
  refine ⟨fun _ _ => trivial, ?_, ?_, ?_⟩
  · rw [hb.calls]
    nofun
  · rw [hb.player]
    nofun
  · rw [hb.player]
    nofun

variable [Transport τ]

/-! ## Messages that are taken in -/

/-- The message that the listener takes in by what happens. -/
def dispatched? (b : Booth τ σ) : Happening τ σ → Option Downlink
  | .deed .listen =>
    if b.listener = .listening then
      (Transport.receive? b.transport).bind fun r => r.1.toOption.bind fun body =>
        (Downlink.ofBody body).toOption
    else none
  | _ => none

theorem player_hear (b : Booth τ σ) (m : Downlink) : (b.hear m).player = b.player.hear m := by
  cases m with
  | done | enterBarrier | failBarrier | barrierResult | addressReply => rfl
  | getAddress node => exact (steady_reply b _).player
  | throttle | disconnect => exact (steady_acknowledge b _).player
  | terminate exit => exact (steady_terminate b exit).player

theorem lasts_reply (hl : b.listener = .listening) (m : Uplink) :
    Listener.Lasts .listening (b.reply m).listener := by
  have hsent : (b.send m).2.listener = .listening := by
    rw [send_eq]
    exact hl
  rcases reply_cases b m with he | he
  · rw [he, hsent]
    exact .stays
  · rw [he]
    exact .stops rfl

theorem lasts_acknowledge (hl : b.listener = .listening) (met : Option (Except String Unit × σ)) :
    Listener.Lasts .listening (b.acknowledge met).listener := by
  unfold acknowledge
  split
  · exact .stalls rfl
  · next memory => exact lasts_reply (b := { b with memory }) hl _
  · next memory => exact lasts_reply (b := { b with memory }) hl _

theorem lasts_terminate (b : Booth τ σ) (exit : Exit) :
    Listener.Lasts .listening (b.terminate exit).listener := by
  unfold terminate
  dsimp only
  split
  · exact .stalls rfl
  · exact .stops rfl

theorem lasts_hear (hl : b.listener = .listening) (m : Downlink) :
    Listener.Lasts .listening (b.hear m).listener := by
  cases m with
  | done | enterBarrier | failBarrier | barrierResult | addressReply =>
    show Listener.Lasts .listening b.listener
    rw [hl]
    exact .stays
  | getAddress node => exact lasts_reply hl _
  | throttle | disconnect => exact lasts_acknowledge hl _
  | terminate exit => exact lasts_terminate b exit

/-! ## All happenings -/

/-- What a happening comes to for the player and its calls. -/
inductive Effect (b : Booth τ σ) (e : Happening τ σ) (b' : Booth τ σ) : Prop where
  | rests (silent : b.dispatched? e = none) (steady : Steady b b')
      (listener : b.listener.Lasts b'.listener)
  /-- A message is taken in. -/
  | hears {m : Downlink} (deed : e = .deed .listen) (listening : b.listener = .listening)
      (message : b.dispatched? e = some m) (nextCall : b'.nextCall = b.nextCall)
      (calls : b'.calls = b.calls) (endings : b'.endings = b.endings)
      (player : b'.player = b.player.hear m) (listener : b.listener.Lasts b'.listener)
  /-- The player finds that the connection is lost. -/
  | loses (deed : e = .deed .listen) (leaving : b.listener = .leaving)
      (after : b' = { b with listener := .done, player := b.player.disconnect })
  | closes (transport : τ) (deed : e = .deed .close) (after : b' = { b with
        transport
        listener := .absent
        player := b.player.disconnect
        calls := [] })
  /-- A call may not wait. -/
  | refuses {inquiry : Inquiry} {error : PlayerError} (deed : e = .deed (.begin inquiry))
      (reason : error = .notConnected ∨ ∃ active, error = .barrierInFlight active)
      (after : b' = { b with
        nextCall := b.nextCall + 1
        endings := b.endings ++ [(b.nextCall, .error error)] })
  /-- A call begins to wait at a barrier. -/
  | arrives {name : String} {timeout : Option Span}
      (deed : e = .deed (.begin (.barrier name timeout))) (attended : b.hasPlayer = true)
      (connected : b.player.connected = true)
      (free : b.player.barrierWaiter = none) (after : b' = { b with
        nextCall := b.nextCall + 1
        player := { b.player with barrierWaiter := some ⟨b.nextCall, name⟩ }
        calls := b.calls ++ [{ id := b.nextCall, inquiry := .barrier name timeout }] })
  /-- A call begins to wait for an address. -/
  | asks {node : Role} (deed : e = .deed (.begin (.address node)))
      (connected : b.player.connected = true) (after : b' = { b with
        nextCall := b.nextCall + 1
        player := { b.player with
          addressWaiters := b.player.addressWaiters ++ [⟨b.nextCall, node⟩] }
        calls := b.calls ++ [{ id := b.nextCall, inquiry := .address node }] })
  | proceeds {c : Call} (deed : e = .deed (.proceed c.id)) (call : b.call? c.id = some c)
      (proceeding : Proceeding b c b')
  | drops {id : CallId} (deed : e = .deed (.cancel id)) (after : b' = b.cancel id)

theorem effect_begin (hp : b.hasPlayer = true) (inquiry : Inquiry) :
    Effect b (.deed (.begin inquiry)) (b.begin inquiry).2 := by
  cases hc : b.player.connected with
  | false => exact .refuses rfl (Or.inl rfl) (begin_of_disconnected hc inquiry)
  | true =>
    cases inquiry with
    | barrier name timeout =>
      cases hw : b.player.barrierWaiter with
      | some w => exact .refuses rfl (Or.inr ⟨w.name, rfl⟩) (begin_of_waiter hc hw name timeout)
      | none =>
        refine .arrives rfl hp hc hw ?_
        simp [begin, Player.waitAtBarrier, hc, hw]
    | address node =>
      refine .asks rfl hc ?_
      simp [begin, Player.waitForAddress, hc]

theorem effect_listening (hl : b.listener = .listening) :
    Effect b (.deed .listen) (b.after .listen) := by
  rw [after_listen_of_listening hl]
  cases hr : Transport.receive? b.transport with
  | none =>
    have hsilent : b.dispatched? (.deed .listen) = none := by simp [dispatched?, hl, hr]
    exact .rests hsilent (.refl b) .stays
  | some r =>
    obtain ⟨r, transport⟩ := r
    rw [Option.map_some, Option.getD_some]
    dsimp only
    cases r with
    | error error =>
      have hsilent : b.dispatched? (.deed .listen) = none := by
        simp [dispatched?, hl, hr, Except.toOption]
      exact .rests hsilent ⟨rfl, rfl, rfl, rfl⟩ (.stops hl)
    | ok body =>
      cases hm : Downlink.ofBody body with
      | error error =>
        have hsilent : b.dispatched? (.deed .listen) = none := by
          simp [dispatched?, hl, hr, hm, Except.toOption]
        simp only [receive, hm]
        exact .rests hsilent ⟨rfl, rfl, rfl, rfl⟩ (.stops hl)
      | ok m =>
        have hmessage : b.dispatched? (.deed .listen) = some m := by
          simp [dispatched?, hl, hr, hm, Except.toOption]
        have hheard := hears_hear { b with transport } m
        simp only [receive, hm]
        refine .hears rfl hl hmessage hheard.nextCall hheard.calls hheard.endings
          (player_hear _ m) ?_
        exact (congrArg (Listener.Lasts · _) hl).mpr (lasts_hear (b := { b with transport }) hl m)

theorem effect (hg : ∀ due, b.listener ≠ .greeting due) (e : Happening τ σ) :
    Effect b e (b.behind e) := by
  cases e with
  | world f g => exact .rests rfl ⟨rfl, rfl, rfl, rfl⟩ .stays
  | deed d =>
    show Effect b (.deed d) (b.after d)
    cases d with
    | begin inquiry =>
      cases hp : b.hasPlayer with
      | true =>
        rw [after, if_pos hp]
        exact effect_begin hp inquiry
      | false =>
        rw [after, if_neg (by rw [hp]; exact Bool.false_ne_true)]
        exact .rests rfl (.refl b) .stays
    | proceed id =>
      rw [after]
      cases hgoes : (b.call? id).bind b.proceed? with
      | none => exact .rests rfl (.refl b) .stays
      | some b' =>
        obtain ⟨c, hcall, hproceed⟩ := Option.bind_eq_some_iff.mp hgoes
        obtain rfl : c.id = id := by simpa using List.find?_some hcall
        exact .proceeds rfl hcall (proceeding hproceed)
    | cancel id => exact .drops rfl rfl
    | listen =>
      have hover : b.listener = .absent ∨ b.listener = .stalled ∨ b.listener = .done →
          Effect b (.deed .listen) (b.after .listen) := by
        intro hl
        have hsilent : b.dispatched? (.deed .listen) = none := by
          rcases hl with hl | hl | hl <;> simp [dispatched?, hl]
        rw [after_listen_of_over hl]
        exact .rests hsilent (.refl b) .stays
      cases hl : b.listener with
      | greeting due => exact absurd hl (hg due)
      | absent => exact hover (Or.inl hl)
      | stalled => exact hover (Or.inr (Or.inl hl))
      | done => exact hover (Or.inr (Or.inr hl))
      | leaving => exact .loses rfl hl (after_listen_of_leaving hl)
      | listening => exact effect_listening hl
    | expireGreeting =>
      rw [after_expireGreeting hg]
      exact .rests rfl (.refl b) .stays
    | giveUp name =>
      rw [after]
      split
      · rw [failBarrier, send_eq]
        exact .rests rfl ⟨rfl, rfl, rfl, rfl⟩ .stays
      · exact .rests rfl (.refl b) .stays
    | close =>
      rw [after]
      split
      · exact .closes _ rfl rfl
      · exact .rests rfl (.refl b) .stays
    | wait nanoseconds => exact .rests rfl ⟨rfl, rfl, rfl, rfl⟩ .stays

/-! ## Runs -/

/-- A player stays connected as long as its listener lasts, and is not behind that. -/
theorem Effect.attendance (h : Effect b e b') :
    b.listener.Lasts b'.listener ∧ b'.player.connected = b.player.connected ∨
      (b'.listener = .done ∨ b'.listener = .absent) ∧ b'.player.connected = false := by
  cases h with
  | rests _ steady listener => exact Or.inl ⟨listener, by rw [steady.player]⟩
  | hears _ _ _ _ _ _ player listener =>
    exact Or.inl ⟨listener, by rw [player, connected_hear]⟩
  | loses _ _ after =>
    rw [after]
    exact Or.inr ⟨Or.inl rfl, rfl⟩
  | closes _ _ after =>
    rw [after]
    exact Or.inr ⟨Or.inr rfl, rfl⟩
  | refuses _ _ after | arrives _ _ _ _ after | asks _ _ after | drops _ after =>
    rw [after]
    exact Or.inl ⟨.stays, rfl⟩
  | proceeds _ _ proceeding =>
    obtain ⟨hlistener, hconnected⟩ := proceeding.attendance
    rw [hlistener]
    exact Or.inl ⟨.stays, hconnected⟩

theorem Attended.behind (h : b.Attended) (e : Happening τ σ) : (b.behind e).Attended := by
  have heffect := effect h.joined e
  generalize b.behind e = b' at heffect ⊢
  rcases heffect.attendance with ⟨hlasts, hconnected⟩ | ⟨hgone, hconnected⟩
  · generalize hl : b'.listener = l at hlasts
    cases hlasts with
    | stays =>
      refine ⟨fun due => hl ▸ h.joined due, fun hc => ?_⟩
      rw [hl]
      exact h.stays (hconnected ▸ hc)
    | stops => exact ⟨fun due => by rw [hl]; nofun, fun _ => Or.inr (Or.inr hl)⟩
    | stalls => exact ⟨fun due => by rw [hl]; nofun, fun _ => Or.inr (Or.inl hl)⟩
  · refine ⟨fun due => ?_, fun hc => ?_⟩
    · rcases hgone with hl | hl <;> rw [hl] <;> nofun
    · rw [hconnected] at hc
      cases hc

theorem attended_through (hb : b.Attended) (events : List (Happening τ σ)) :
    (b.through events).Attended := by
  induction events using List.reverseRecOn with
  | nil => exact hb
  | append_singleton events e ih =>
    rw [through_concat]
    exact ih.behind e

theorem Numbered.effect (h : b.Numbered) (he : Effect b e b') : b'.Numbered := by
  cases he with
  | rests _ steady _ =>
    exact h.of_sublist (Nat.le_of_eq steady.nextCall.symm) (by rw [steady.calls]) steady.endings
  | hears _ _ _ nextCall calls endings _ _ =>
    exact h.of_sublist (Nat.le_of_eq nextCall.symm) (by rw [calls]) endings
  | loses _ _ after =>
    rw [after]
    exact h.of_sublist (Nat.le_refl _) (.refl _) rfl
  | closes _ _ after =>
    rw [after]
    exact h.of_sublist (Nat.le_refl _) (List.nil_sublist _) rfl
  | refuses _ _ after =>
    refine h.take (by rw [after]) ?_
    rw [after]
    dsimp only
    rw [List.map_append, List.map_singleton, ← List.append_assoc]
    exact List.perm_append_comm
  | arrives _ _ _ _ after | asks _ _ after =>
    refine h.take (by rw [after]) ?_
    rw [after]
    dsimp only
    rw [List.map_append, List.map_singleton, List.append_assoc]
    exact List.perm_middle
  | proceeds _ call hp => exact h.proceeding (List.mem_of_find?_eq_some call) hp
  | drops _ after =>
    rw [after]
    refine h.of_sublist (Nat.le_refl _) ?_ rfl
    rw [ids_cancel]
    exact List.filter_sublist

theorem numbered_through (hb : b.Fresh) (events : List (Happening τ σ)) :
    (b.through events).Numbered := by
  induction events using List.reverseRecOn with
  | nil => exact hb.numbered
  | append_singleton events e ih =>
    rw [through_concat]
    exact ih.effect (effect (attended_through hb.attended events).joined e)

theorem attends_through (hb : b.Fresh) (events : List (Happening τ σ)) :
    (b.through events).Attends fun _ _ => True := by
  induction events using List.reverseRecOn with
  | nil => exact hb.attends
  | append_singleton events e ih =>
    rw [through_concat]
    cases e with
    | deed d => exact ih.after d fun _ _ _ => trivial
    | world f g => exact ih.of_same rfl rfl rfl

end Booth

end Rendezvous
