import Rendezvous.Proofs.Player.Lost

/-!
# Requests that cannot be sent

A call waits before its request is sent. If that cannot be done, a call at a barrier takes itself
away as it ends, and the player is as before. A call for an address does not: it ends, and goes on
to wait for what nobody was asked for (`through_unsent`, `unsent_query_waits`).

Nobody takes notice of that. What a player knows of a call that is over can be forgotten at any time
(`Booth.forget`), as whatever happens comes to the same with it and without it (`through_forget`).
So a player behind a request that could not be sent goes on for ever like one that has never made it
(`unsent_unnoticed`).
-/

namespace Rendezvous

/-! ## Players -/

/-- Forgets that a call waits for an address, or was told one. -/
def Player.forget (p : Player) (id : CallId) : Player :=
  { p with
    addressWaiters := p.addressWaiters.filter (·.call ≠ id)
    located := p.located.filter (·.1 ≠ id) }

namespace Player

variable {id call : CallId}

theorem addressWait_forget (p : Player) (hne : call ≠ id) :
    (p.forget id).addressWait call = p.addressWait call := by
  have hlocated : (p.located.filter (·.1 ≠ id)).find? (·.1 = call) =
      p.located.find? (·.1 = call) := by
    rw [List.find?_filter]
    congr 1
    funext d
    by_cases hd : d.1 = call <;> simp [hd, hne]
  have hwaiting : (p.addressWaiters.filter (·.call ≠ id)).any (·.call = call) =
      p.addressWaiters.any (·.call = call) := by
    rw [List.any_filter]
    congr 1
    funext w
    by_cases hw : w.call = call <;> simp [hw, hne]
  unfold addressWait forget
  dsimp only
  rw [hlocated, hwaiting]

theorem waitAtBarrier_forget (p : Player) (id call : CallId) (name : String) :
    (p.forget id).waitAtBarrier call name = (p.waitAtBarrier call name).map (·.forget id) := by
  unfold waitAtBarrier forget
  dsimp only
  split
  · rfl
  · split <;> rfl

theorem waitForAddress_forget (p : Player) (hne : call ≠ id) (node : Role) :
    (p.forget id).waitForAddress call node = (p.waitForAddress call node).map (·.forget id) := by
  have hkept : [AddressWaiter.mk call node].filter (·.call ≠ id) = [⟨call, node⟩] :=
    List.filter_eq_self.mpr fun w hw => by
      rw [List.mem_singleton.mp hw]
      exact decide_eq_true hne
  unfold waitForAddress forget
  dsimp only
  split
  · rfl
  · rw [Except.map, List.filter_append, hkept]

theorem leaveBarrier_forget (p : Player) (id : CallId) (name : String) :
    (p.forget id).leaveBarrier name = (p.leaveBarrier name).forget id := by
  unfold leaveBarrier forget
  dsimp only
  split <;> rfl

/-- Messages are taken in as before: a waiting call is served whoever else waits. -/
theorem addressKnown_forget (p : Player) (id : CallId) (node : Role) (address : Address) :
    (p.forget id).addressKnown node address = (p.addressKnown node address).forget id := by
  unfold addressKnown forget
  rw [List.partition_eq_filter_filter, List.partition_eq_filter_filter, List.filter_append,
    List.filter_map]
  have hcomm : ∀ q : AddressWaiter → Bool, (p.addressWaiters.filter (·.call ≠ id)).filter q =
      (p.addressWaiters.filter q).filter (·.call ≠ id) := fun q => by
    rw [List.filter_filter, List.filter_filter]
    exact List.filter_congr fun _ _ => Bool.and_comm ..
  dsimp only
  rw [hcomm, hcomm]
  rfl

theorem hear_forget (p : Player) (id : CallId) (m : Downlink) :
    (p.forget id).hear m = (p.hear m).forget id := by
  cases m with
  | barrierResult name success =>
    unfold hear barrierResolved forget
    dsimp only
    split
    · split <;> rfl
    · rfl
  | addressReply node address => exact addressKnown_forget p id node address
  | _ => rfl

/-- What a call leaves at the player if its request cannot be sent. -/
def leftBy (p : Player) (call : CallId) : Inquiry → Player
  | .barrier .. => p
  | .address node => { p with addressWaiters := p.addressWaiters ++ [⟨call, node⟩] }

/-- What waits at a barrier is taken away again. -/
theorem leaveBarrier_of_own {p : Player} (hw : p.barrierWaiter = none) (call : CallId)
    (name : String) :
    ({ p with barrierWaiter := some ⟨call, name⟩ } : Player).leaveBarrier name = p := by
  unfold leaveBarrier
  rw [if_pos (by simp), ← hw]

theorem forget_leftBy {p : Player} (hw : ∀ w ∈ p.addressWaiters, w.call ≠ call)
    (hl : ∀ d ∈ p.located, d.1 ≠ call) (inquiry : Inquiry) :
    (p.leftBy call inquiry).forget call = p := by
  have hwaiting : p.addressWaiters.filter (·.call ≠ call) = p.addressWaiters :=
    List.filter_eq_self.mpr fun w hmem => decide_eq_true (hw w hmem)
  have hlocated : p.located.filter (·.1 ≠ call) = p.located :=
    List.filter_eq_self.mpr fun d hmem => decide_eq_true (hl d hmem)
  cases inquiry with
  | barrier name timeout =>
    rw [leftBy, forget, hwaiting, hlocated]
  | address node =>
    rw [leftBy, forget]
    dsimp only
    rw [List.filter_append, hwaiting, hlocated]
    simp

end Player

namespace Booth

variable {τ σ : Type} {b b' : Booth τ σ} {c : Call} {e : Happening τ σ} {id : CallId}

/-! ## Forgetting -/

/-- Forgets what the player knows of a call. -/
def forget (b : Booth τ σ) (id : CallId) : Booth τ σ := { b with player := b.player.forget id }

theorem hasPlayer_forget (b : Booth τ σ) (id : CallId) :
    (b.forget id).hasPlayer = b.hasPlayer := rfl

theorem call?_forget (b : Booth τ σ) (id call : CallId) :
    (b.forget id).call? call = b.call? call := rfl

theorem found?_forget (b : Booth τ σ) (hne : c.id ≠ id) : (b.forget id).found? c = b.found? c := by
  have hwait : (b.forget id).player.addressWait c.id = b.player.addressWait c.id :=
    b.player.addressWait_forget hne
  unfold found?
  rw [hwait]
  rfl

theorem begin_forget (hne : b.nextCall ≠ id) (inquiry : Inquiry) :
    ((b.forget id).begin inquiry).2 = (b.begin inquiry).2.forget id := by
  unfold begin forget
  cases inquiry with
  | barrier name timeout =>
    dsimp only
    rw [Player.waitAtBarrier_forget]
    cases b.player.waitAtBarrier b.nextCall name <;> rfl
  | address node =>
    dsimp only
    rw [Player.waitForAddress_forget _ hne]
    cases b.player.waitForAddress b.nextCall node <;> rfl

theorem expireGreeting?_forget (b : Booth τ σ) (id : CallId) :
    (b.forget id).expireGreeting? = b.expireGreeting?.map (·.forget id) := by
  unfold expireGreeting? forget
  dsimp only
  split
  · split <;> rfl
  · rfl

/-- A call that was made and is not under way. -/
structure Over (b : Booth τ σ) (id : CallId) : Prop where
  old : id < b.nextCall
  gone : ∀ c ∈ b.calls, c.id ≠ id

/-! ## Who waits for an address -/

/-- Whoever waits for an address or was told one has called. -/
structure Asked (b : Booth τ σ) : Prop where
  waiting : ∀ w ∈ b.player.addressWaiters, w.call < b.nextCall
  located : ∀ d ∈ b.player.located, d.1 < b.nextCall

theorem Fresh.asked (hb : b.Fresh) : b.Asked := by
  constructor <;> rw [hb.player] <;> nofun

theorem Asked.of_player (h : b.Asked) (hn : b.nextCall ≤ b'.nextCall)
    (hw : ∀ w ∈ b'.player.addressWaiters, w ∈ b.player.addressWaiters)
    (hl : b'.player.located = b.player.located) : b'.Asked where
  waiting w hmem := Nat.lt_of_lt_of_le (h.waiting w (hw w hmem)) hn
  located d hmem := Nat.lt_of_lt_of_le (h.located d (hl ▸ hmem)) hn

theorem Asked.hear (h : b.Asked) (hn : b'.nextCall = b.nextCall) {m : Downlink}
    (hp : b'.player = b.player.hear m) : b'.Asked := by
  cases m with
  | addressReply node address =>
    constructor <;> rw [hp, hn, Player.hear, Player.addressKnown, List.partition_eq_filter_filter]
    · exact fun w hw => h.waiting w (List.mem_filter.mp hw).1
    · intro d hd
      rcases List.mem_append.mp hd with hd | hd
      · exact h.located d hd
      · obtain ⟨w, hw, rfl⟩ := List.mem_map.mp hd
        exact h.waiting w (List.mem_filter.mp hw).1
  | barrierResult name success =>
    have hkept : b'.player.addressWaiters = b.player.addressWaiters ∧
        b'.player.located = b.player.located := by
      rw [hp, Player.hear, Player.barrierResolved]
      split
      · split <;> exact ⟨rfl, rfl⟩
      · exact ⟨rfl, rfl⟩
    exact h.of_player hn.ge (fun w hw => hkept.1 ▸ hw) hkept.2
  | done | enterBarrier | failBarrier | getAddress | throttle | disconnect | terminate =>
    have hsame : b'.player = b.player := hp
    exact h.of_player hn.ge (fun w hw => hsame ▸ hw) (by rw [hsame])

/-! ## One more call -/

/-- The booth with one more call. -/
def withCall (b : Booth τ σ) (id : CallId) (inquiry : Inquiry) (stage : CallStage) : Booth τ σ :=
  { b with calls := b.calls ++ [{ id, inquiry, stage }] }

section Last

variable {inquiry : Inquiry} {stage : CallStage} (hid : ∀ c ∈ b.calls, c.id ≠ id)
include hid

theorem call?_eq_none : b.call? id = none :=
  List.find?_eq_none.mpr fun c hc => by simpa using hid c hc

theorem call?_withCall :
    (b.withCall id inquiry stage).call? id = some { id, inquiry, stage } := by
  have hnone : b.calls.find? (·.id = id) = none := call?_eq_none hid
  unfold call? withCall
  rw [List.find?_append, hnone, Option.none_or, List.find?_singleton, if_pos (decide_eq_true rfl)]

theorem setStage_withCall (stage' : CallStage) :
    (b.withCall id inquiry stage).setStage id stage' = b.withCall id inquiry stage' := by
  have hkept : b.calls.map (fun c => if c.id = id then { c with stage := stage' } else c) =
      b.calls := (List.map_congr_left fun c hc => if_neg (hid c hc)).trans (List.map_id _)
  unfold setStage withCall
  dsimp only
  rw [List.map_append, hkept, List.map_singleton, if_pos rfl]

theorem finish_withCall (result : Except PlayerError Finding) :
    (b.withCall id inquiry stage).finish id result =
      { b with endings := b.endings ++ [(id, result)] } := by
  have hkept : b.calls.filter (·.id ≠ id) = b.calls :=
    List.filter_eq_self.mpr fun c hc => decide_eq_true (hid c hc)
  unfold finish withCall
  dsimp only
  rw [List.filter_append, hkept]
  simp

end Last

variable [Transport τ]

/-! ## Going on -/

theorem send_forget (b : Booth τ σ) (id : CallId) (m : Uplink) :
    (b.forget id).send m = ((b.send m).1, (b.send m).2.forget id) := by
  rw [send_eq, send_eq]
  rfl

theorem proceed?_forget (b : Booth τ σ) (hne : c.id ≠ id) :
    (b.forget id).proceed? c = (b.proceed? c).map (·.forget id) := by
  unfold proceed?
  split
  · have hsame : (b.forget id).request c.inquiry = b.request c.inquiry := by cases c.inquiry <;> rfl
    rw [hsame, send_forget, send_eq]
    cases (Transport.send b.transport (b.request c.inquiry).encode).1 <;>
      cases c.inquiry <;> rfl
  · rw [found?_forget b hne]
    cases b.found? c with
    | some result => rfl
    | none =>
      -- what is overdue is a matter of the call and the clock
      show (b.overdue? c).map _ = ((b.overdue? c).map _).map _
      cases b.overdue? c <;> rfl
  · split
    · rw [Option.map_some]
      unfold forget
      dsimp only
      rw [Player.leaveBarrier_forget]
      rfl
    · rfl

theorem reply_forget (b : Booth τ σ) (id : CallId) (m : Uplink) :
    (b.forget id).reply m = (b.reply m).forget id := by
  unfold reply
  rw [send_forget, send_eq]
  cases (Transport.send b.transport m.encode).1 <;> rfl

theorem acknowledge_forget (b : Booth τ σ) (id : CallId) (met : Option (Except String Unit × σ)) :
    (b.forget id).acknowledge met = (b.acknowledge met).forget id := by
  unfold acknowledge
  split
  · rfl
  · next memory => exact reply_forget { b with memory } id _
  · next memory => exact reply_forget { b with memory } id _

theorem terminate_forget (b : Booth τ σ) (id : CallId) (exit : Exit) :
    (b.forget id).terminate exit = (b.terminate exit).forget id := by
  unfold terminate
  dsimp only
  rw [send_forget, send_eq]
  unfold forget
  dsimp only
  split <;> rfl

theorem hear_forget (b : Booth τ σ) (id : CallId) (m : Downlink) :
    (b.forget id).hear m = (b.hear m).forget id := by
  cases m with
  | done | enterBarrier | failBarrier => rfl
  | barrierResult name success =>
    have hplayer := b.player.hear_forget id (.barrierResult name success)
    exact congrArg (fun player => { b with player }) hplayer
  | addressReply node address =>
    have hplayer := b.player.hear_forget id (.addressReply node address)
    exact congrArg (fun player => { b with player }) hplayer
  | getAddress node => exact reply_forget b id _
  | throttle | disconnect => exact acknowledge_forget b id _
  | terminate exit => exact terminate_forget b id exit

theorem receive_forget (b : Booth τ σ) (id : CallId) (r : Except TransportError (List UInt8)) :
    (b.forget id).receive r = (b.receive r).forget id := by
  unfold receive
  split
  · rfl
  · split
    · rfl
    · exact hear_forget b id _

theorem welcome_forget (b : Booth τ σ) (id : CallId) (body : List UInt8) :
    (b.forget id).welcome body = (b.welcome body).forget id := by
  unfold welcome
  split <;> rfl

theorem listen?_forget (b : Booth τ σ) (id : CallId) :
    (b.forget id).listen? = b.listen?.map (·.forget id) := by
  unfold listen?
  have hl : (b.forget id).listener = b.listener := rfl
  have ht : (b.forget id).transport = b.transport := rfl
  rw [hl, ht]
  split
  · rw [Option.map_map]
    congr 1
    funext r
    obtain ⟨r, transport⟩ := r
    cases r with
    | error e => rfl
    | ok body => exact welcome_forget { b with transport } id body
  · rw [Option.map_map]
    congr 1
    funext r
    exact receive_forget { b with transport := r.2 } id r.1
  all_goals rfl

theorem after_forget (h : b.Over id) (d : Deed) :
    (b.forget id).after d = (b.after d).forget id := by
  have hgetD : ∀ o : Option (Booth τ σ),
      (o.map (·.forget id)).getD (b.forget id) = (o.getD b).forget id := fun o => by
    cases o <;> rfl
  cases d with
  | begin inquiry =>
    rw [after, after, hasPlayer_forget]
    split
    · -- a call that begins has another id than one that is over
      exact begin_forget h.old.ne' inquiry
    · rfl
  | proceed call =>
    rw [after, after, ← hgetD, call?_forget]
    cases hcall : b.call? call with
    | none => rfl
    | some c =>
      rw [Option.bind_some, Option.bind_some,
        proceed?_forget b (h.gone c (List.mem_of_find?_eq_some hcall))]
  | cancel call | wait nanoseconds => rfl
  | listen => rw [after, after, listen?_forget, hgetD]
  | expireGreeting => rw [after, after, expireGreeting?_forget, hgetD]
  | giveUp name =>
    rw [after, after, hasPlayer_forget]
    split
    · exact congrArg Prod.snd (send_forget b id _)
    · rfl
  | close =>
    rw [after, after, hasPlayer_forget]
    split <;> rfl

theorem behind_forget (h : b.Over id) (e : Happening τ σ) :
    (b.forget id).behind e = (b.behind e).forget id := by
  cases e with
  | deed d => exact after_forget h d
  | world f g => rfl

theorem Over.effect (h : b.Over id) (he : Effect b e b') : b'.Over id := by
  have hsame : b'.nextCall = b.nextCall → b'.calls = b.calls → b'.Over id :=
    fun hn hcalls => ⟨hn ▸ h.old, hcalls ▸ h.gone⟩
  have hnew : ∀ c : Call, c.id = b.nextCall → ∀ c' ∈ b.calls ++ [c], c'.id ≠ id := by
    intro c hc c' hmem
    rcases List.mem_append.mp hmem with hmem | hmem
    · exact h.gone c' hmem
    · rw [List.mem_singleton.mp hmem, hc]
      exact h.old.ne'
  cases he with
  | rests _ steady _ => exact hsame steady.nextCall steady.calls
  | hears _ _ _ nextCall calls _ _ _ => exact hsame nextCall calls
  | loses _ _ after =>
    subst after
    exact ⟨h.old, h.gone⟩
  | closes _ _ after =>
    subst after
    exact ⟨h.old, nofun⟩
  | refuses _ _ after =>
    subst after
    exact ⟨Nat.lt_succ_of_lt h.old, h.gone⟩
  | arrives _ _ _ _ after | asks _ _ after =>
    subst after
    exact ⟨Nat.lt_succ_of_lt h.old, hnew _ rfl⟩
  | drops _ after =>
    subst after
    exact ⟨h.old, fun c hc => h.gone c (List.mem_filter.mp hc).1⟩
  | proceeds _ _ proceeding =>
    cases proceeding with
    | sends _ _ _ after | fails _ _ _ _ after | expires _ _ _ after =>
      subst after
      refine ⟨h.old, fun c hc => ?_⟩
      obtain ⟨c₀, hmem, hid, -⟩ := mem_setStage hc
      exact hid ▸ h.gone c₀ hmem
    | breaks _ _ _ _ after | finds _ _ after | leaves _ _ after | ends _ _ after =>
      subst after
      exact ⟨h.old, fun c hc => h.gone c (List.mem_filter.mp hc).1⟩

/-- Whatever happens later comes to the same, whether the player forgets the call before or
behind it. -/
theorem through_forget (hb : b.Attended) (h : b.Over id) (events : List (Happening τ σ)) :
    (b.forget id).through events = (b.through events).forget id := by
  induction events generalizing b with
  | nil => rfl
  | cons e events ih =>
    show ((b.forget id).behind e).through events = ((b.behind e).through events).forget id
    rw [behind_forget h, ih (hb.behind e) (h.effect (effect hb.joined e))]

theorem Asked.effect (h : b.Asked) (he : Effect b e b') : b'.Asked := by
  cases he with
  | rests _ steady _ =>
    exact h.of_player steady.nextCall.ge (fun w hw => steady.player ▸ hw) (by rw [steady.player])
  | hears _ _ _ nextCall _ _ player _ => exact h.hear nextCall player
  | loses _ _ after | closes _ _ after =>
    subst after
    exact h.of_player (Nat.le_refl _) nofun rfl
  | refuses _ _ after | arrives _ _ _ _ after =>
    subst after
    exact h.of_player (Nat.le_succ _) (fun _ hw => hw) rfl
  | drops _ after =>
    subst after
    exact h.of_player (Nat.le_refl _) (fun _ hw => hw) rfl
  | asks _ _ after =>
    subst after
    refine ⟨fun w hw => ?_, fun d hd => Nat.lt_succ_of_lt (h.located d hd)⟩
    rcases List.mem_append.mp hw with hw | hw
    · exact Nat.lt_succ_of_lt (h.waiting w hw)
    · rw [List.mem_singleton.mp hw]
      exact Nat.lt_succ_self _
  | proceeds _ _ proceeding =>
    have hn := proceeding.aside.nextCall.ge
    rcases proceeding.player with hp | hp
    · exact h.of_player hn (fun w hw => hp ▸ hw) (by rw [hp])
    · exact h.of_player hn (fun w hw => by rwa [hp] at hw) (by rw [hp])

theorem asked_through (hb : b.Fresh) (events : List (Happening τ σ)) :
    (b.through events).Asked := by
  induction events using List.reverseRecOn with
  | nil => exact hb.asked
  | append_singleton events e ih =>
    rw [through_concat]
    exact ih.effect (effect (attended_through hb.attended events).joined e)

/-! ## Calls alone -/

section Failing

variable {inquiry : Inquiry} {error : TransportError} {transport : τ}

theorem send_withCall {stage : CallStage}
    (hsend : Transport.send b.transport (b.request inquiry).encode = (.error error, transport)) :
    (b.withCall id inquiry stage).send ((b.withCall id inquiry stage).request inquiry) =
      (.error (.transport error),
        ({ b with transport } : Booth τ σ).withCall id inquiry stage) := by
  have hrequest : (b.withCall id inquiry stage).request inquiry = b.request inquiry := by
    cases inquiry <;> rfl
  have hmoved : Transport.send (b.withCall id inquiry stage).transport (b.request inquiry).encode =
      (.error error, transport) := hsend
  rw [hrequest, send_eq, hmoved]
  rfl

/-- A call at a barrier whose request cannot be sent has still to clean up, -/
theorem after_unsent_barrier {name : String} {timeout : Option Span}
    (hid : ∀ c ∈ b.calls, c.id ≠ id) (hinquiry : inquiry = .barrier name timeout)
    (hsend : Transport.send b.transport (b.request inquiry).encode = (.error error, transport)) :
    (b.withCall id inquiry .sending).after (.proceed id) =
      ({ b with transport } : Booth τ σ).withCall id inquiry (.failing (.transport error)) := by
  rw [after, call?_withCall hid, Option.bind_some, proceed?]
  dsimp only
  rw [send_withCall hsend, hinquiry]
  exact setStage_withCall (b := { b with transport }) hid _

/-- does so, -/
theorem after_failing_barrier {name : String} {timeout : Option Span} {e : PlayerError}
    (hid : ∀ c ∈ b.calls, c.id ≠ id) :
    (b.withCall id (.barrier name timeout) (.failing e)).after (.proceed id) = { b with
      player := b.player.leaveBarrier name
      endings := b.endings ++ [(id, .error e)] } := by
  rw [after, call?_withCall hid, Option.bind_some, proceed?]
  exact finish_withCall (b := { b with player := b.player.leaveBarrier name }) hid _

/-- and a call for an address just ends. -/
theorem after_unsent_address {node : Role} (hid : ∀ c ∈ b.calls, c.id ≠ id)
    (hinquiry : inquiry = .address node)
    (hsend : Transport.send b.transport (b.request inquiry).encode = (.error error, transport)) :
    (b.withCall id inquiry .sending).after (.proceed id) =
      { b with transport, endings := b.endings ++ [(id, .error (.transport error))] } := by
  rw [after, call?_withCall hid, Option.bind_some, proceed?]
  dsimp only
  rw [send_withCall hsend, hinquiry]
  exact finish_withCall (b := { b with transport }) hid _

end Failing

/-- A call that nothing comes between: it begins, its request is to be sent, and if that cannot be
done, it ends, a call at a barrier in a further step. -/
def alone (b : Booth τ σ) (inquiry : Inquiry) : List (Happening τ σ) :=
  [.deed (.begin inquiry), .deed (.proceed b.nextCall), .deed (.proceed b.nextCall)]

/-- A call alone whose request cannot be sent ends with that and takes its id. A call at a barrier
leaves the player as it was, a call for an address goes on to wait there. -/
theorem through_unsent (hp : b.hasPlayer = true) (hn : b.Numbered)
    (hc : b.player.connected = true) {inquiry : Inquiry} {error : TransportError} {transport : τ}
    (hfree : ∀ name, inquiry.IsAt name → b.player.barrierWaiter = none)
    (hsend : Transport.send b.transport (b.request inquiry).encode = (.error error, transport)) :
    b.through (b.alone inquiry) = { b with
      transport
      nextCall := b.nextCall + 1
      player := b.player.leftBy b.nextCall inquiry
      endings := b.endings ++ [(b.nextCall, .error (.transport error))] } := by
  have hid : ∀ c ∈ b.calls, c.id ≠ b.nextCall := fun c hc => (hn.call_lt hc).ne
  show ((b.after (.begin inquiry)).after (.proceed b.nextCall)).after (.proceed b.nextCall) = _
  cases hinquiry : inquiry with
  | barrier name timeout =>
    have hw := hfree name ⟨timeout, hinquiry⟩
    let waiting : Booth τ σ := { b with
      nextCall := b.nextCall + 1
      player := { b.player with barrierWaiter := some ⟨b.nextCall, name⟩ } }
    have hbegin : b.after (.begin (.barrier name timeout)) =
        waiting.withCall b.nextCall (.barrier name timeout) .sending := by
      simp [after, hp, begin, Player.waitAtBarrier, hc, hw, withCall, waiting]
    rw [hbegin, after_unsent_barrier (b := waiting) hid rfl (hinquiry ▸ hsend),
      after_failing_barrier (b := { waiting with transport }) hid]
    dsimp only [waiting]
    rw [Player.leaveBarrier_of_own hw]
    rfl
  | address node =>
    let waiting : Booth τ σ := { b with
      nextCall := b.nextCall + 1
      player := b.player.leftBy b.nextCall (.address node) }
    have hbegin : b.after (.begin (.address node)) =
        waiting.withCall b.nextCall (.address node) .sending := by
      simp [after, hp, begin, Player.waitForAddress, hc, withCall, Player.leftBy, waiting]
    rw [hbegin, after_unsent_address (b := waiting) hid rfl (hinquiry ▸ hsend)]
    -- the call is over, and the last step finds nothing to do
    have hover : ({ waiting with
        transport
        endings := waiting.endings ++ [(b.nextCall, .error (.transport error))] } :
          Booth τ σ).call? b.nextCall = none := call?_eq_none hid
    rw [after, hover]
    rfl

/-- A request for an address cannot be sent. The call is over, the player is connected, and a call
that will never be asked for goes on to wait. -/
theorem unsent_query_waits :
    let b : Booth Scripted Record := {
      role := ⟨"a"⟩, address := default, conductor := "c"
      transport := { connected := true, failSend := some "down" }
      handler := .recorder .obeys .obeys, memory := {}, listener := .listening }
    let s := b.through (b.alone (.address ⟨"b"⟩))
    s.endings = [(0, .error (.transport (.sendFailed (some "down"))))] ∧
      s.calls = [] ∧ s.isConnected = true ∧
      b.player.addressWaiters = [] ∧ s.player.addressWaiters = [⟨0, ⟨"b"⟩⟩] := by
  intro b s
  decide +kernel

/-- A request that cannot be sent is never noticed. Whatever happened before and happens later, the
player goes on like one that is as it was before the call: in the end they differ in nothing but
what they know of this call. -/
theorem unsent_unnoticed (hb : b.Fresh) (events later : List (Happening τ σ)) {inquiry : Inquiry}
    {error : TransportError} {transport : τ} (hc : (b.through events).player.connected = true)
    (hfree : ∀ name, inquiry.IsAt name → (b.through events).player.barrierWaiter = none)
    (hsend : Transport.send (b.through events).transport
      ((b.through events).request inquiry).encode = (.error error, transport)) :
    let s := b.through events
    let t := s.through (s.alone inquiry)
    ({ t with player := s.player } : Booth τ σ).through later =
      (t.through later).forget s.nextCall := by
  intro s t
  have hn : s.Numbered := numbered_through hb events
  have hasked : s.Asked := asked_through hb events
  have hs : s.Attended := attended_through hb.attended events
  have ht : t = { s with
      transport
      nextCall := s.nextCall + 1
      player := s.player.leftBy s.nextCall inquiry
      endings := s.endings ++ [(s.nextCall, .error (.transport error))] } :=
    through_unsent (hs.hasPlayer hc) hn hc hfree hsend
  have hover : t.Over s.nextCall := by
    rw [ht]
    exact ⟨Nat.lt_succ_self _, fun c hc => (hn.call_lt hc).ne⟩
  have hforgotten : { t with player := s.player } = t.forget s.nextCall := by
    rw [ht, forget]
    dsimp only
    rw [Player.forget_leftBy (fun w hw => (hasked.waiting w hw).ne) fun d hd =>
      (hasked.located d hd).ne]
  rw [hforgotten]
  exact through_forget (attended_through hs _) hover later

end Booth

end Rendezvous
