import Rendezvous.Player.Booth

/-!
# The calls of a booth

A booth goes on by deeds (`Deed`, `after`), some of the player's own and others of its surroundings.
What waits at a player, what it was served and the calls under way belong together by their ids
(`Attends`): whoever waits at a barrier or was told its resolution is a call at a barrier of that
name, and every resolution that a call was told is one that came from the conductor. Every deed
keeps this (`Attends.after`), whatever the transport does. So a call at a barrier passes only if the
success of a barrier of its name was heard (`Attends.heard_of_passed`).
-/

namespace Rendezvous

/-- A call at a barrier of this name. -/
def Inquiry.IsAt (name : String) (inquiry : Inquiry) : Prop :=
  ∃ timeout, inquiry = .barrier name timeout

/-- What is done at a booth that has tried to join. -/
inductive Deed where
  /-- The player begins a call. -/
  | begin (inquiry : Inquiry)
  /-- A call goes on. -/
  | proceed (id : CallId)
  /-- A call is dropped where it stands. -/
  | cancel (id : CallId)
  /-- The listener goes on. -/
  | listen
  /-- The deadline of the reply to the greeting passes. -/
  | expireGreeting
  /-- The player gives a barrier up. -/
  | giveUp (name : String)
  /-- The player leaves. -/
  | close
  /-- Time passes. -/
  | wait (nanoseconds : Nat)
deriving DecidableEq, Repr, Inhabited

namespace Booth

variable {τ σ : Type} {b b' : Booth τ σ} {known known' : CallId → Inquiry → Prop}

/-- The call under way that has this id. -/
def call? (b : Booth τ σ) (id : CallId) : Option Call := b.calls.find? (·.id = id)

/-- The booth behind a deed; what cannot be done is not done, and without a player nothing of its
own is. -/
def after [Transport τ] (b : Booth τ σ) : Deed → Booth τ σ
  | .begin inquiry => if b.hasPlayer then (b.begin inquiry).2 else b
  | .proceed id => ((b.call? id).bind b.proceed?).getD b
  | .cancel id => b.cancel id
  | .listen => b.listen?.getD b
  | .expireGreeting => b.expireGreeting?.getD b
  | .giveUp name => if b.hasPlayer then (b.failBarrier name).2 else b
  | .close => if b.hasPlayer then b.close.2 else b
  | .wait nanoseconds => b.advance nanoseconds

/-! ## Beginning -/

/-- What it is to begin a call. -/
inductive Begins (b : Booth τ σ) (inquiry : Inquiry) : Booth τ σ → Prop where
  /-- It may not wait. -/
  | refused (e : PlayerError) : Begins b inquiry
      { b with nextCall := b.nextCall + 1, endings := b.endings ++ [(b.nextCall, .error e)] }
  /-- It waits at a barrier, where no other call does. -/
  | arrives {name : String} {timeout : Option Span} (barrier : inquiry = .barrier name timeout)
      (free : b.player.barrierWaiter = none) : Begins b inquiry
      { b with
        nextCall := b.nextCall + 1
        player := { b.player with barrierWaiter := some ⟨b.nextCall, name⟩ }
        calls := b.calls ++ [{ id := b.nextCall, inquiry }] }
  /-- It waits for an address. -/
  | asks {node : Role} (address : inquiry = .address node) : Begins b inquiry
      { b with
        nextCall := b.nextCall + 1
        player := { b.player with
          addressWaiters := b.player.addressWaiters ++ [⟨b.nextCall, node⟩] }
        calls := b.calls ++ [{ id := b.nextCall, inquiry }] }

theorem begins (b : Booth τ σ) (inquiry : Inquiry) : Begins b inquiry (b.begin inquiry).2 := by
  unfold begin
  dsimp only
  cases inquiry with
  | barrier name timeout =>
    dsimp only
    unfold Player.waitAtBarrier
    split
    · exact .refused _
    · next p hp =>
      split at hp
      · cases hp
      · split at hp
        · cases hp
        · next hw =>
          cases hp
          exact .arrives rfl hw
  | address node =>
    dsimp only
    unfold Player.waitForAddress
    split
    · exact .refused _
    · next p hp =>
      split at hp
      · cases hp
      · cases hp
        exact .asks rfl

/-! ## Who waits for what -/

/-- What waits and what was served goes with the calls, all of which are known. -/
structure Attends (b : Booth τ σ) (known : CallId → Inquiry → Prop) : Prop where
  known : ∀ c ∈ b.calls, known c.id c.inquiry
  fresh : ∀ c ∈ b.calls, c.id < b.nextCall
  waiter : ∀ w, b.player.barrierWaiter = some w →
    w.call < b.nextCall ∧ ∀ c ∈ b.calls, c.id = w.call → c.inquiry.IsAt w.name
  decided : ∀ d ∈ b.player.decided, d.1 < b.nextCall ∧ ∀ c ∈ b.calls, c.id = d.1 →
    ∃ name, c.inquiry.IsAt name ∧ ⟨name, d.2⟩ ∈ b.player.results

theorem Attends.mono (h : b.Attends known) (hk : ∀ id i, known id i → known' id i) :
    b.Attends known' :=
  ⟨fun c hc => hk c.id c.inquiry (h.known c hc), h.fresh, h.waiter, h.decided⟩

/-- The calls go on in other stages, and some end. -/
theorem Attends.of_calls (h : b.Attends known) (hn : b'.nextCall = b.nextCall)
    (hw : ∀ w, b'.player.barrierWaiter = some w → b.player.barrierWaiter = some w)
    (hd : b'.player.decided = b.player.decided) (hr : b'.player.results = b.player.results)
    (hc : ∀ c' ∈ b'.calls, ∃ c ∈ b.calls, c'.id = c.id ∧ c'.inquiry = c.inquiry) :
    b'.Attends known where
  known c' hc' := by
    obtain ⟨c, hmem, hid, hinquiry⟩ := hc c' hc'
    rw [hid, hinquiry]
    exact h.known c hmem
  fresh c' hc' := by
    obtain ⟨c, hmem, hid, -⟩ := hc c' hc'
    rw [hid, hn]
    exact h.fresh c hmem
  waiter w hw' := by
    obtain ⟨hlt, hat⟩ := h.waiter w (hw w hw')
    rw [hn]
    refine ⟨hlt, ?_⟩
    intro c' hc' he
    obtain ⟨c, hmem, hid, hinquiry⟩ := hc c' hc'
    rw [hinquiry]
    exact hat c hmem (hid.symm.trans he)
  decided d hd' := by
    rw [hd] at hd'
    obtain ⟨hlt, hat⟩ := h.decided d hd'
    rw [hn]
    refine ⟨hlt, ?_⟩
    intro c' hc' he
    obtain ⟨c, hmem, hid, hinquiry⟩ := hc c' hc'
    rw [hinquiry, hr]
    exact hat c hmem (hid.symm.trans he)

/-- The calls and the player are left alone. -/
theorem Attends.of_same (h : b.Attends known) (hn : b'.nextCall = b.nextCall)
    (hp : b'.player = b.player) (hc : b'.calls = b.calls) : b'.Attends known :=
  h.of_calls hn (fun w hw => by rwa [hp] at hw) (by rw [hp]) (by rw [hp])
    fun c hmem => ⟨c, hc ▸ hmem, rfl, rfl⟩

/-- A resolution goes to the call that waits at a barrier of its name, and is kept. -/
theorem Attends.barrierResolved (h : b.Attends known) (name : String) (success : Bool) :
    ({ b with player := b.player.barrierResolved name success } : Booth τ σ).Attends known := by
  -- what was decided before is among the results still
  have hkept : ∀ d ∈ b.player.decided, d.1 < b.nextCall ∧ ∀ c ∈ b.calls, c.id = d.1 →
      ∃ n, c.inquiry.IsAt n ∧ ⟨n, d.2⟩ ∈ b.player.results ++ [BarrierResult.mk name success] := by
    intro d hd
    obtain ⟨hlt, hat⟩ := h.decided d hd
    refine ⟨hlt, ?_⟩
    intro c hc he
    obtain ⟨n, hn, hmem⟩ := hat c hc he
    exact ⟨n, hn, List.mem_append_left _ hmem⟩
  unfold Player.barrierResolved
  dsimp only
  split
  · next w hw =>
    obtain ⟨hlt, hat⟩ := h.waiter w hw
    split
    · next he =>
      refine ⟨h.known, h.fresh, nofun, ?_⟩
      intro d hd
      rcases List.mem_append.mp hd with hd | hd
      · exact hkept d hd
      · rw [List.mem_singleton.mp hd]
        refine ⟨hlt, fun c hc hid => ⟨name, he ▸ hat c hc hid, ?_⟩⟩
        exact List.mem_append_right _ List.mem_cons_self
    · exact ⟨h.known, h.fresh, fun w' hw' => h.waiter w' hw', hkept⟩
  · exact ⟨h.known, h.fresh, fun w' hw' => h.waiter w' hw', hkept⟩

theorem Attends.setStage (h : b.Attends known) (id : CallId) (stage : CallStage) :
    (b.setStage id stage).Attends known := by
  refine h.of_calls rfl (fun _ hw => hw) rfl rfl ?_
  intro c' hc'
  obtain ⟨c, hc, rfl⟩ := List.mem_map.mp hc'
  refine ⟨c, hc, ?_⟩
  split <;> exact ⟨rfl, rfl⟩

theorem Attends.finish (h : b.Attends known) (id : CallId) (result : Except PlayerError Finding) :
    (b.finish id result).Attends known :=
  h.of_calls rfl (fun _ hw => hw) rfl rfl fun c hc => ⟨c, (List.mem_filter.mp hc).1, rfl, rfl⟩

theorem Attends.cancel (h : b.Attends known) (id : CallId) : (b.cancel id).Attends known :=
  h.of_calls rfl (fun _ hw => hw) rfl rfl fun c hc => ⟨c, (List.mem_filter.mp hc).1, rfl, rfl⟩

theorem Attends.leaveBarrier (h : b.Attends known) (name : String) :
    ({ b with player := b.player.leaveBarrier name } : Booth τ σ).Attends known := by
  unfold Player.leaveBarrier
  split
  · exact h.of_calls rfl nofun rfl rfl fun c hc => ⟨c, hc, rfl, rfl⟩
  · exact h

/-- A new call comes under an id that nothing has referred to yet. Whoever waits at a barrier then
is this call or the one that has waited before. -/
theorem Attends.add (h : b.Attends known) {inquiry : Inquiry} (hk : known b.nextCall inquiry)
    {p : Player} (hw : ∀ w, p.barrierWaiter = some w →
      b.player.barrierWaiter = some w ∨ w.call = b.nextCall ∧ inquiry.IsAt w.name)
    (hd : p.decided = b.player.decided) (hr : p.results = b.player.results) :
    ({ b with
      nextCall := b.nextCall + 1
      player := p
      calls := b.calls ++ [{ id := b.nextCall, inquiry }] } : Booth τ σ).Attends known := by
  -- what is said of the call of an earlier id is said of no new one
  have hold : ∀ {id : CallId} {q : Call → Prop}, id < b.nextCall →
      (∀ c ∈ b.calls, c.id = id → q c) →
      ∀ c ∈ b.calls ++ [{ id := b.nextCall, inquiry }], c.id = id → q c := by
    intro id q hlt hq c hc he
    rcases List.mem_append.mp hc with hc | hc
    · exact hq c hc he
    · rw [List.mem_singleton.mp hc] at he
      rw [← he] at hlt
      exact absurd hlt (Nat.lt_irrefl _)
  refine ⟨?_, ?_, ?_, ?_⟩
  · intro c hc
    rcases List.mem_append.mp hc with hc | hc
    · exact h.known c hc
    · rw [List.mem_singleton.mp hc]
      exact hk
  · intro c hc
    rcases List.mem_append.mp hc with hc | hc
    · exact Nat.lt_succ_of_lt (h.fresh c hc)
    · rw [List.mem_singleton.mp hc]
      exact Nat.lt_succ_self _
  · intro w hw'
    rcases hw w hw' with hw' | ⟨hcall, hat⟩
    · obtain ⟨hlt, hwaits⟩ := h.waiter w hw'
      exact ⟨Nat.lt_succ_of_lt hlt, hold hlt hwaits⟩
    · rw [hcall]
      refine ⟨Nat.lt_succ_self _, ?_⟩
      intro c hc he
      rcases List.mem_append.mp hc with hc | hc
      · exact absurd he (Nat.ne_of_lt (h.fresh c hc))
      · rw [List.mem_singleton.mp hc]
        exact hat
  · intro d hd'
    dsimp only at hd' ⊢
    rw [hd] at hd'
    rw [hr]
    obtain ⟨hlt, hat⟩ := h.decided d hd'
    exact ⟨Nat.lt_succ_of_lt hlt, hold hlt hat⟩

theorem Attends.begin (h : b.Attends known) {inquiry : Inquiry} (hk : known b.nextCall inquiry) :
    (b.begin inquiry).2.Attends known := by
  have hbegins := begins b inquiry
  generalize (b.begin inquiry).2 = b' at hbegins ⊢
  cases hbegins with
  | refused e =>
    refine ⟨h.known, fun c hc => Nat.lt_succ_of_lt (h.fresh c hc), ?_, ?_⟩
    · intro w hw
      obtain ⟨hlt, hat⟩ := h.waiter w hw
      exact ⟨Nat.lt_succ_of_lt hlt, hat⟩
    · intro d hd
      obtain ⟨hlt, hat⟩ := h.decided d hd
      exact ⟨Nat.lt_succ_of_lt hlt, hat⟩
  | @arrives name timeout hbarrier =>
    refine h.add hk (fun w hw => Or.inr ?_) rfl rfl
    cases hw
    exact ⟨rfl, timeout, hbarrier⟩
  | asks => exact h.add hk (fun w hw => Or.inl hw) rfl rfl

/-- What may be done or left undone. -/
theorem getD_of {p : Booth τ σ → Prop} {o : Option (Booth τ σ)} (h : p b)
    (ho : ∀ b', o = some b' → p b') : p (o.getD b) := by
  cases o with
  | none => exact h
  | some b' => exact ho b' rfl

/-! ## Sending and listening -/

/-- What becomes of a player by what is heard. -/
inductive PlayerHears (p : Player) : Player → Prop where
  | nothing : PlayerHears p p
  | resolved (name : String) (success : Bool) : PlayerHears p (p.barrierResolved name success)
  | located (node : Role) (address : Address) : PlayerHears p (p.addressKnown node address)
  | lost : PlayerHears p p.disconnect
  | joined : PlayerHears p {}

/-- The calls are left alone, and the player changes by what is heard only. -/
structure Hears (b b' : Booth τ σ) : Prop where
  nextCall : b'.nextCall = b.nextCall
  calls : b'.calls = b.calls
  endings : b'.endings = b.endings
  player : PlayerHears b.player b'.player

/-- The calls and the player are left alone. -/
structure Steady (b b' : Booth τ σ) : Prop where
  nextCall : b'.nextCall = b.nextCall
  calls : b'.calls = b.calls
  endings : b'.endings = b.endings
  player : b'.player = b.player

theorem Steady.refl (b : Booth τ σ) : Steady b b := ⟨rfl, rfl, rfl, rfl⟩

theorem Steady.trans {b'' : Booth τ σ} (h : Steady b b') (h' : Steady b' b'') : Steady b b'' :=
  ⟨h'.nextCall.trans h.nextCall, h'.calls.trans h.calls, h'.endings.trans h.endings,
    h'.player.trans h.player⟩

theorem Steady.hears (h : Steady b b') : Hears b b' := by
  refine ⟨h.nextCall, h.calls, h.endings, ?_⟩
  rw [h.player]
  exact .nothing

theorem Attends.hears (h : b.Attends known) (hh : Hears b b') : b'.Attends known := by
  have hkept : ({ b with player := b'.player } : Booth τ σ).Attends known := by
    have hplayer := hh.player
    generalize b'.player = p at hplayer ⊢
    cases hplayer with
    | nothing => exact h
    | resolved name success => exact h.barrierResolved name success
    | located => exact h.of_calls rfl (fun _ hw => hw) rfl rfl fun c hc => ⟨c, hc, rfl, rfl⟩
    | lost => exact h.of_calls rfl nofun rfl rfl fun c hc => ⟨c, hc, rfl, rfl⟩
    | joined => exact ⟨h.known, h.fresh, nofun, nofun⟩
  exact hkept.of_same hh.nextCall rfl hh.calls

theorem steady_expireGreeting (h : b.expireGreeting? = some b') : Steady b b' := by
  unfold expireGreeting? at h
  split at h
  · split at h
    · cases h
      exact ⟨rfl, rfl, rfl, rfl⟩
    · cases h
  · cases h

variable [Transport τ]

/-- Sending changes the transport alone. -/
theorem send_eq (b : Booth τ σ) (m : Uplink) :
    b.send m = ((Transport.send b.transport m.encode).1.mapError .transport,
      { b with transport := (Transport.send b.transport m.encode).2 }) := by
  unfold send
  split
  · next h =>
    rw [h]
    rfl
  · next h =>
    rw [h]
    rfl

/-- A reply that cannot be sent ends the listening. -/
theorem reply_cases (b : Booth τ σ) (m : Uplink) :
    b.reply m = (b.send m).2 ∨ b.reply m = { (b.send m).2 with listener := .leaving } := by
  unfold reply
  split
  · next h => exact Or.inl (by rw [h])
  · next h => exact Or.inr (by rw [h])

theorem steady_send (b : Booth τ σ) (m : Uplink) : Steady b (b.send m).2 := by
  rw [send_eq]
  exact ⟨rfl, rfl, rfl, rfl⟩

theorem steady_reply (b : Booth τ σ) (m : Uplink) : Steady b (b.reply m) := by
  have hsent := steady_send b m
  rcases reply_cases b m with he | he
  · rwa [he]
  · rw [he]
    exact ⟨hsent.nextCall, hsent.calls, hsent.endings, hsent.player⟩

theorem steady_acknowledge (b : Booth τ σ) (met : Option (Except String Unit × σ)) :
    Steady b (b.acknowledge met) := by
  unfold acknowledge
  split
  · exact ⟨rfl, rfl, rfl, rfl⟩
  · next memory =>
    have hmemory : Steady b { b with memory } := ⟨rfl, rfl, rfl, rfl⟩
    exact hmemory.trans (steady_reply _ _)
  · next reason memory =>
    have hmemory : Steady b { b with memory } := ⟨rfl, rfl, rfl, rfl⟩
    exact hmemory.trans (steady_reply _ _)

theorem steady_terminate (b : Booth τ σ) (exit : Exit) : Steady b (b.terminate exit) := by
  have hsent := steady_send b .done
  unfold terminate
  dsimp only
  split
  · exact ⟨hsent.nextCall, hsent.calls, hsent.endings, hsent.player⟩
  · exact ⟨hsent.nextCall, hsent.calls, hsent.endings, hsent.player⟩

theorem hears_hear (b : Booth τ σ) (m : Downlink) : Hears b (b.hear m) := by
  cases m with
  | done | enterBarrier | failBarrier => exact (Steady.refl b).hears
  | barrierResult name success => exact ⟨rfl, rfl, rfl, .resolved name success⟩
  | addressReply node address => exact ⟨rfl, rfl, rfl, .located node address⟩
  | getAddress node => exact (steady_reply b _).hears
  | throttle | disconnect => exact (steady_acknowledge b _).hears
  | terminate exit => exact (steady_terminate b exit).hears

theorem hears_welcome (b : Booth τ σ) (body : List UInt8) : Hears b (b.welcome body) := by
  unfold welcome
  split
  · exact ⟨rfl, rfl, rfl, .nothing⟩
  · exact ⟨rfl, rfl, rfl, .joined⟩
  · exact ⟨rfl, rfl, rfl, .nothing⟩

theorem hears_receive (b : Booth τ σ) (r : Except TransportError (List UInt8)) :
    Hears b (b.receive r) := by
  unfold receive
  split
  · exact ⟨rfl, rfl, rfl, .nothing⟩
  · split
    · exact ⟨rfl, rfl, rfl, .nothing⟩
    · exact hears_hear b _

theorem hears_listen (h : b.listen? = some b') : Hears b b' := by
  -- the transport behind a reception is another one, of which nothing here takes notice
  have hmoved : ∀ (transport : τ) (b'' : Booth τ σ), Hears { b with transport } b'' → Hears b b'' :=
    fun _ _ h => ⟨h.nextCall, h.calls, h.endings, h.player⟩
  unfold listen? at h
  split at h
  · obtain ⟨⟨r, transport⟩, -, rfl⟩ := Option.map_eq_some_iff.mp h
    cases r with
    | error e => exact ⟨rfl, rfl, rfl, .nothing⟩
    | ok body => exact hmoved transport _ (hears_welcome _ body)
  · obtain ⟨⟨r, transport⟩, -, rfl⟩ := Option.map_eq_some_iff.mp h
    exact hmoved transport _ (hears_receive _ r)
  · cases h
    exact ⟨rfl, rfl, rfl, .lost⟩
  all_goals cases h

theorem steady_join (b : Booth τ σ) : Steady b b.join := by
  unfold join
  split
  · exact ⟨rfl, rfl, rfl, rfl⟩
  · next transport _ =>
    have hsent := steady_send { b with transport } (.hello b.role.name b.address)
    split
    · next hs =>
      rw [hs] at hsent
      exact ⟨hsent.nextCall, hsent.calls, hsent.endings, hsent.player⟩
    · next hs =>
      rw [hs] at hsent
      exact ⟨hsent.nextCall, hsent.calls, hsent.endings, hsent.player⟩

/-! ## Going on -/

/-- How a call goes on. -/
inductive Proceeding (b : Booth τ σ) (c : Call) (b' : Booth τ σ) : Prop where
  /-- Its request is sent. -/
  | sends (transport : τ) (limit : Option (Span × Nat)) (stage : c.stage = .sending)
      (after : b' = { b with transport }.setStage c.id (.waiting limit))
  /-- Its request cannot be sent. -/
  | fails (transport : τ) (error : TransportError) {name : String} {timeout : Option Span}
      (stage : c.stage = .sending) (inquiry : c.inquiry = .barrier name timeout)
      (after : b' = { b with transport }.setStage c.id (.failing (.transport error)))
  | breaks (transport : τ) (error : TransportError) {node : Role} (stage : c.stage = .sending)
      (inquiry : c.inquiry = .address node)
      (after : b' = { b with transport }.finish c.id (.error (.transport error)))
  /-- It is served, or nobody will serve it. -/
  | finds {limit : Option (Span × Nat)} {result : Except PlayerError Finding}
      (stage : c.stage = .waiting limit) (found : b.found? c = some result)
      (after : b' = b.finish c.id result)
  /-- Its deadline passes. -/
  | expires {limit : Option (Span × Nat)} {name : String} {timeout : Option Span} {d : Span}
      (stage : c.stage = .waiting limit) (inquiry : c.inquiry = .barrier name timeout)
      (pending : b.found? c = none)
      (after : b' = b.setStage c.id (.failing (.barrierTimeout name d)))
  /-- It cleans up behind itself. -/
  | leaves {error : PlayerError} {name : String} {timeout : Option Span}
      (stage : c.stage = .failing error) (inquiry : c.inquiry = .barrier name timeout)
      (after : b' = { b with player := b.player.leaveBarrier name }.finish c.id (.error error))
  | ends {error : PlayerError} {node : Role} (stage : c.stage = .failing error)
      (inquiry : c.inquiry = .address node) (after : b' = b.finish c.id (.error error))

theorem proceeding {c : Call} (h : b.proceed? c = some b') : Proceeding b c b' := by
  unfold proceed? at h
  split at h
  · next hstage =>
    rw [send_eq] at h
    cases hinquiry : c.inquiry with
    | barrier name timeout =>
      rw [hinquiry] at h
      cases hsent : (Transport.send b.transport (b.request (.barrier name timeout)).encode).1 with
      | ok u =>
        rw [hsent] at h
        cases h
        exact .sends _ _ hstage rfl
      | error error =>
        rw [hsent] at h
        cases h
        exact .fails _ error hstage hinquiry rfl
    | address node =>
      rw [hinquiry] at h
      cases hsent : (Transport.send b.transport (b.request (.address node)).encode).1 with
      | ok u =>
        rw [hsent] at h
        cases h
        exact .sends _ _ hstage rfl
      | error error =>
        rw [hsent] at h
        cases h
        exact .breaks _ error hstage hinquiry rfl
  · next limit hstage =>
    split at h
    · next result hfound =>
      cases h
      exact .finds hstage hfound rfl
    · next hpending =>
      obtain ⟨error, hoverdue, rfl⟩ := Option.map_eq_some_iff.mp h
      unfold overdue? at hoverdue
      split at hoverdue
      · next hinquiry _ =>
        split at hoverdue
        · cases hoverdue
          exact .expires hstage hinquiry hpending rfl
        · cases hoverdue
      · cases hoverdue
  · next error hstage =>
    split at h
    · next hinquiry =>
      cases h
      exact .leaves hstage hinquiry rfl
    · next hinquiry =>
      cases h
      exact .ends hstage hinquiry rfl

theorem Attends.proceed (h : b.Attends known) {c : Call} (hp : b.proceed? c = some b') :
    b'.Attends known := by
  cases proceeding hp with
  | sends _ _ _ after | fails _ _ _ _ after | expires _ _ _ after =>
    rw [after]
    refine Attends.setStage ?_ _ _
    exact h.of_same rfl rfl rfl
  | breaks _ _ _ _ after | finds _ _ after | ends _ _ after =>
    rw [after]
    refine Attends.finish ?_ _ _
    exact h.of_same rfl rfl rfl
  | leaves _ _ after =>
    rw [after]
    exact (h.leaveBarrier _).finish c.id _

/-! ## Deeds -/

/-- Every deed keeps the calls and what is there for them together. -/
theorem Attends.after (h : b.Attends known) (d : Deed)
    (hk : ∀ inquiry, d = .begin inquiry → b.hasPlayer = true → known b.nextCall inquiry) :
    (b.after d).Attends known := by
  cases d with
  | begin inquiry =>
    rw [Booth.after]
    split
    · next hp => exact h.begin (hk inquiry rfl hp)
    · exact h
  | proceed id =>
    refine getD_of (p := (·.Attends known)) h ?_
    intro b' hp
    obtain ⟨c, -, hp⟩ := Option.bind_eq_some_iff.mp hp
    exact h.proceed hp
  | cancel id => exact h.cancel id
  | listen =>
    refine getD_of (p := (·.Attends known)) h ?_
    intro b' hl
    exact h.hears (hears_listen hl)
  | expireGreeting =>
    refine getD_of (p := (·.Attends known)) h ?_
    intro b' he
    exact h.hears (steady_expireGreeting he).hears
  | giveUp name =>
    rw [Booth.after]
    split
    · exact h.hears (steady_send b _).hears
    · exact h
  | close =>
    rw [Booth.after]
    split
    · exact h.of_calls rfl nofun rfl rfl nofun
    · exact h
  | wait nanoseconds => exact h.of_same rfl rfl rfl

/-! ## Passing -/

/-- The calls that pass their barriers in a deed. -/
def passed (b : Booth τ σ) (d : Deed) : List Call :=
  ((b.after d).endings.drop b.endings.length).filterMap fun (id, result) =>
    match result with
    | .ok .passed => b.call? id
    | _ => none

/-- A call that goes on ends nothing but itself. -/
theorem endings_proceed {c : Call} (h : b.proceed? c = some b') : b'.endings = b.endings ∨
    ∃ result, b'.endings = b.endings ++ [(c.id, result)] ∧
      (result = .ok .passed → b.found? c = some (.ok .passed)) := by
  cases proceeding h with
  | sends _ _ _ after | fails _ _ _ _ after | expires _ _ _ after =>
    rw [after]
    exact Or.inl rfl
  | finds _ found after =>
    rw [after]
    exact Or.inr ⟨_, rfl, fun hpassed => hpassed ▸ found⟩
  | breaks _ _ _ _ after | leaves _ _ after | ends _ _ after =>
    rw [after]
    exact Or.inr ⟨.error _, rfl, nofun⟩

/-- A deed ends one call at most. If this call passes, it was under way and found to be served with
a success. -/
theorem endings_after (b : Booth τ σ) (d : Deed) : (b.after d).endings = b.endings ∨
    ∃ id result, (b.after d).endings = b.endings ++ [(id, result)] ∧
      (result = .ok .passed → ∃ c, b.call? id = some c ∧ b.found? c = some (.ok .passed)) := by
  have hgetD : ∀ {o : Option (Booth τ σ)}, (∀ b', o = some b' → b'.endings = b.endings) →
      (o.getD b).endings = b.endings := getD_of (p := (·.endings = b.endings)) rfl
  cases d with
  | begin inquiry =>
    rw [Booth.after]
    split
    · have hbegins := begins b inquiry
      generalize (b.begin inquiry).2 = b' at hbegins ⊢
      cases hbegins with
      | refused e => exact Or.inr ⟨b.nextCall, .error e, rfl, nofun⟩
      | arrives | asks => exact Or.inl rfl
    · exact Or.inl rfl
  | proceed id =>
    rw [Booth.after]
    cases hproceed : (b.call? id).bind b.proceed? with
    | none => exact Or.inl rfl
    | some b' =>
      obtain ⟨c, hcall, hp⟩ := Option.bind_eq_some_iff.mp hproceed
      have hid : c.id = id := by simpa using List.find?_some hcall
      subst hid
      rcases endings_proceed hp with he | ⟨result, he, hfound⟩
      · exact Or.inl he
      · exact Or.inr ⟨c.id, result, he, fun hpassed => ⟨c, hcall, hfound hpassed⟩⟩
  | cancel | wait => exact Or.inl rfl
  | listen => exact Or.inl (hgetD fun b' hl => (hears_listen hl).endings)
  | expireGreeting => exact Or.inl (hgetD fun b' he => (steady_expireGreeting he).endings)
  | giveUp name =>
    rw [Booth.after]
    split
    · exact Or.inl (steady_send b _).endings
    · exact Or.inl rfl
  | close =>
    rw [Booth.after]
    split
    · exact Or.inl rfl
    · exact Or.inl rfl

theorem decided_of_served {p : Player} {id : CallId} {success : Bool}
    (h : p.barrierWait id = .served success) : (id, success) ∈ p.decided := by
  unfold Player.barrierWait at h
  split at h
  · next id' success' hfind =>
    cases h
    have hid : id' = id := by simpa using List.find?_some hfind
    rw [← hid]
    exact List.mem_of_find?_eq_some hfind
  · split at h <;> cases h

theorem found?_of_passed {d : Deed} {c : Call} (hc : c ∈ b.passed d) :
    c ∈ b.calls ∧ b.found? c = some (.ok .passed) := by
  unfold passed at hc
  rcases endings_after b d with he | ⟨id, result, he, hfound⟩
  · rw [he, List.drop_length] at hc
    cases hc
  · rw [he, List.drop_left] at hc
    obtain ⟨⟨id', result'⟩, hmem, hcall⟩ := List.mem_filterMap.mp hc
    cases List.mem_singleton.mp hmem
    dsimp only at hcall
    split at hcall
    · obtain ⟨c', hcall', hf⟩ := hfound rfl
      rw [hcall] at hcall'
      cases hcall'
      exact ⟨List.mem_of_find?_eq_some hcall, hf⟩
    · cases hcall

/-- A call passes only at a barrier, and the success of a barrier of this name was heard. -/
theorem Attends.heard_of_passed (h : b.Attends known) {d : Deed} {c : Call} (hc : c ∈ b.passed d) :
    ∃ name, c.inquiry.IsAt name ∧ ⟨name, true⟩ ∈ b.player.results := by
  obtain ⟨hmem, hf⟩ := found?_of_passed hc
  unfold found? at hf
  split at hf
  · next name timeout hinquiry =>
    split at hf
    · next hwait =>
      -- the call was served by a resolution, which is one that was heard
      obtain ⟨-, hat⟩ := h.decided _ (decided_of_served hwait)
      exact hat c hmem rfl
    all_goals cases hf
  · split at hf <;> cases hf

end Booth

end Rendezvous
