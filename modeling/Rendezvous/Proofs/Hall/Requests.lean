import Rendezvous.Proofs.Hall.Replies
import Rendezvous.Proofs.Hall.Shutdown

/-!
# Requests and answers

The requests for addresses that are heard in a run (`asked`) and the answers that are queued
(`answers`, `log`). A move answers a request, parks it, registers a role for which requests are
parked, or does nothing of this (`Serving`). What was parked for a role and what is asked for in a
move is, as far as it comes from sessions that go on, answered in that move or parked behind it, in
the same order (`conserved`). So over a run without a shutdown every request of a session with an
open line has been answered or is parked (`requests_answered`).
-/

namespace Rendezvous

open Conductor

namespace Hall

variable {h : Hall} {m : Move} {moves : List Move} {s : SessionId} {node role : Role}
  {address : Address}

/-! ## What is asked and answered in a move -/

/-- The session and the node of a request that is heard in a move. -/
def request? (h : Hall) (m : Move) : Option (SessionId × Role) :=
  (h.heard? m).bind fun
    | (s, _, .getAddress node) => some (s, node)
    | _ => none

/-- The role that is registered in a move, and the address it is registered with. -/
def registration? (h : Hall) (m : Move) : Option (Role × Address) :=
  (h.greeted? m).bind fun (s, name, address) =>
    match (h.conductor.handshake s name address).2 with
    | .ok role => some (role, address)
    | .error _ => none

/-- The answers that are queued in a move, in order: to the request that is heard, or to all that
were parked for the role that is registered. -/
def answers (h : Hall) (m : Move) : List Answer :=
  match h.request? m, h.registration? m with
  | some (s, node), _ => ((h.conductor.roster.addressOf node).map (⟨s, node, ·⟩)).toList
  | none, some (role, address) => (h.conductor.roster.parked role).map (⟨·, role, address⟩)
  | none, none => []

/-- The session that asks for the address of a node in a move. -/
def newlyAsked (node : Role) (h : Hall) (m : Move) : List SessionId :=
  ((h.request? m).filter (·.2 = node)).toList.map (·.1)

/-- The sessions whose requests for the address of a node were heard in a run. -/
def asked (node : Role) : Hall → List Move → List SessionId := gathered (newlyAsked node)

/-- The answers that were queued in a run. -/
def log : Hall → List Move → List Answer := gathered answers

/-- The sessions that are told the address of a node. -/
def served (node : Role) (xs : List Answer) : List SessionId :=
  (xs.filter (·.node = node)).map (·.session)

theorem served_append (node : Role) (xs ys : List Answer) :
    served node (xs ++ ys) = served node xs ++ served node ys := by
  rw [served, List.filter_append, List.map_append]
  rfl

theorem toldTo_append (s : SessionId) (xs ys : List Answer) :
    toldTo s (xs ++ ys) = toldTo s xs ++ toldTo s ys := by
  rw [toldTo, List.filter_append, List.map_append]
  rfl

theorem toldTo_eq_nil {xs : List Answer} (h : ∀ x ∈ xs, x.session ≠ s) : toldTo s xs = [] := by
  rw [toldTo, List.filter_eq_nil_iff.mpr, List.map_nil]
  intro x hx
  simpa using h x hx

/-- A session is told of a node as often as it is served. -/
theorem count_served (s : SessionId) (node : Role) (xs : List Answer) :
    (served node xs).count s = (toldTo s xs).countP (·.1 = node) := by
  unfold served toldTo
  rw [List.count_eq_countP, List.countP_map, List.countP_map, List.countP_filter,
    List.countP_filter]
  refine List.countP_congr fun x _ => ?_
  simp [and_comm]

/-! ## The operation behind it -/

theorem request?_some (hr : h.request? m = some (s, node)) :
    ∃ role, h.stage? s = some (.active role) ∧ h.heard? m = some (s, role, .getAddress node) := by
  obtain ⟨⟨s', role, u⟩, hheard, hu⟩ := Option.bind_eq_some_iff.mp hr
  obtain ⟨-, x, -, hx, hst, -⟩ := heard?_some hheard
  cases u <;> cases hu
  exact ⟨role, by rw [stage?, hx, Option.map_some, hst], hheard⟩

theorem registration?_some (hr : h.registration? m = some (role, address)) :
    ∃ s name, h.greeted? m = some (s, name, address) ∧
      (h.conductor.handshake s name address).2 = .ok role := by
  obtain ⟨⟨s, name, a⟩, hgreeted, hok⟩ := Option.bind_eq_some_iff.mp hr
  dsimp only at hok
  split at hok
  · next hh =>
    cases hok
    exact ⟨s, name, hgreeted, hh⟩
  · cases hok

theorem registration?_of_greeted {name : String} (hg : h.greeted? m = some (s, name, address))
    (hok : (h.conductor.handshake s name address).2 = .ok role) :
    h.registration? m = some (role, address) := by
  rw [registration?, hg, Option.bind_some]
  dsimp only
  rw [hok]

theorem conductor_of_request (hr : h.request? m = some (s, node)) :
    (h.after m).conductor = h.conductor.requestAddress s node := by
  obtain ⟨role, -, hheard⟩ := request?_some hr
  obtain ⟨x, x', -, -, -, hafter⟩ := after_of_heard hheard
  rw [hafter]
  rfl

theorem conductor_of_registration (hr : h.registration? m = some (role, address)) :
    ∃ s name, (h.conductor.handshake s name address).2 = .ok role ∧
      (h.after m).conductor = (h.conductor.handshake s name address).1 := by
  obtain ⟨s, name, hgreeted, hok⟩ := registration?_some hr
  refine ⟨s, name, hok, ?_⟩
  obtain ⟨x', hafter⟩ := after_of_accepted hgreeted hok
  rw [hafter]
  rfl

/-- What a move comes to for requests, with the answers that are queued in it. -/
inductive Serving (h : Hall) (m : Move) : List Answer → Prop where
  /-- A request for a role that is registered is answered at once. -/
  | answers {s : SessionId} {node : Role} {b : Member SessionId}
      (request : h.request? m = some (s, node))
      (bound : h.conductor.roster.members.get? node = some b)
      (conductor : (h.after m).conductor = h.conductor.reply [⟨s, node, b.address⟩]) :
      Serving h m [⟨s, node, b.address⟩]
  /-- A request for another role is parked. -/
  | parks {s : SessionId} {node : Role} (request : h.request? m = some (s, node))
      (free : h.conductor.roster.members.get? node = none)
      (conductor : (h.after m).conductor =
        { h.conductor with roster := h.conductor.roster.park node s }) : Serving h m []
  /-- A role is registered, and those that are parked for it are answered. -/
  | registers {s : SessionId} {role : Role} {address : Address} {roster : Roster SessionId}
      {tally : Tally} (silent : h.request? m = none)
      (members : roster.members = h.conductor.roster.members.put role ⟨address, s⟩)
      (erased : roster.waiting = h.conductor.roster.waiting.erase role)
      (conductor : (h.after m).conductor =
        (({ h.conductor with roster, tally } : Conductor).post s (.message .done)).reply
          ((h.conductor.roster.parked role).map (⟨·, role, address⟩))) :
      Serving h m ((h.conductor.roster.parked role).map (⟨·, role, address⟩))
  | idle (silent : h.request? m = none) (free : h.registration? m = none) : Serving h m []

theorem serving (h : Hall) (m : Move) : Serving h m (h.answers m) := by
  unfold Hall.answers
  cases hreq : h.request? m with
  | some p =>
    obtain ⟨s, node⟩ := p
    have hcond := conductor_of_request hreq
    unfold Roster.addressOf
    dsimp only
    cases hbound : h.conductor.roster.members.get? node with
    | some b =>
      rw [requestAddress_of_bound hbound] at hcond
      exact .answers hreq hbound hcond
    | none =>
      rw [requestAddress_of_free hbound] at hcond
      exact .parks hreq hbound hcond
  | none =>
    cases hreg : h.registration? m with
    | some p =>
      obtain ⟨role, address⟩ := p
      obtain ⟨s, name, hok, hcond⟩ := conductor_of_registration hreg
      obtain ⟨roster, hmembers, herased, heq⟩ := handshake_answers hok
      exact .registers hreq hmembers herased (hcond.trans heq)
    | none => exact .idle hreq hreg

/-! ## Moves without requests and registrations -/

variable {op : Operation}

/-- The operation of a move in which no request is heard is no request. -/
theorem Source.ne_request (hs : Source h m op) (hr : h.request? m = none) (s : SessionId)
    (node : Role) : op ≠ .requestAddress s node := by
  rintro rfl
  obtain ⟨role, -, hheard⟩ := hs.asks
  rw [request?, hheard] at hr
  cases hr

/-- What a session is told of addresses does not change. -/
theorem answered_of_idle (hreq : h.request? m = none) (hreg : h.registration? m = none)
    (hn : s ≠ h.nextSession) : (h.after m).conductor.answered s = h.conductor.answered s := by
  have hshift := shift h m
  generalize h.after m = h' at hshift ⊢
  cases hshift with
  | @works c₁ op source before behind =>
    have htopics := Operation.address_notMem_topics source.plain (source.ne_request hreq)
    have hadds := adds_after c₁ op (Operation.tends?_of_plain source.plain s)
    rw [behind.answered, hadds.answered htopics, before.answered]
  | @attaches c₁ arrival before conductor =>
    have hadds := adds_after c₁ (.attach h.nextSession) (s := s)
      fun ht => hn (Option.some.inj ht).symm
    rw [conductor, ← before.answered]
    exact hadds.answered List.not_mem_nil
  | registers waits conductor accepted stage others next greeted =>
    rw [registration?_of_greeted greeted accepted] at hreg
    cases hreg
  | @concludes s' role c₁ runs before behind =>
    have hadds := adds_after c₁ (.sessionClosed s' role) (s := s) nofun
    rw [behind.answered, hadds.answered (by simp [Operation.topics]), before.answered]
  | kills runs quiet => exact quiet.answered s

/-- Whether a session can go on: it was not taken in yet, or it has neither ended nor been
stopped. -/
def lingers (h : Hall) (s : SessionId) : Bool :=
  match h.stage? s with
  | some (.ended _) | some .killed => false
  | _ => true

theorem lingers_of_after (ho : h.Orderly) (hl : (h.after m).lingers s = true) :
    h.lingers s = true := by
  have hadvances := advances ho m s
  unfold lingers at hl ⊢
  generalize h.stage? s = stage, (h.after m).stage? s = stage' at hadvances hl ⊢
  cases hadvances with
  | rests => exact hl
  | arrives | registers => rfl
  | ends | dies => cases hl

/-- The sessions that go on are parked as before. -/
theorem parked_of_idle (ht : h.Tidy) (hm : m ≠ .shutdown) (hreq : h.request? m = none)
    (hreg : h.registration? m = none) (node : Role) :
    ((h.after m).conductor.roster.parked node).filter (h.after m).lingers =
      (h.conductor.roster.parked node).filter (h.after m).lingers := by
  have hshift := shift h m
  generalize h.after m = h' at hshift ⊢
  cases hshift with
  | @works c₁ op source before behind =>
    have hop : op ≠ .shutdown := by
      rintro rfl
      exact hm (Origin.source source).shuts
    have hwaiting := waiting_after (c := c₁)
      (Operation.isOnWaiting_of_plain source.plain (source.ne_request hreq) hop)
    rw [behind.roster, Roster.parked_of_waiting hwaiting, before.roster]
  | attaches arrival before conductor =>
    rw [conductor, ← before.roster]
    rfl
  | registers waits conductor accepted stage others next greeted =>
    rw [registration?_of_greeted greeted accepted] at hreg
    cases hreg
  | @concludes s' role c₁ runs before behind stage =>
    obtain ⟨result, hst⟩ := stage
    have hgone : h'.lingers s' = false := by rw [lingers, hst]
    have hordered : c₁.roster.waiting.Ordered := (ht.of_quiet before).roster.ordered
    rw [behind.roster, Conductor.after, parked_sessionClosed hordered, before.roster, List.filter_filter]
    refine List.filter_congr fun s _ => ?_
    by_cases hs : s = s'
    · rw [hs, hgone, Bool.false_and]
    · simp [hs]
  | kills runs quiet => rw [quiet.roster]

/-! ## One move -/

theorem newlyAsked_of_request (hr : h.request? m = some (s, node)) (n : Role) :
    newlyAsked n h m = if node = n then [s] else [] := by
  rw [newlyAsked, hr, Option.filter_some]
  by_cases hn : node = n
  · simp [hn]
  · simp [hn]

theorem newlyAsked_of_none (hr : h.request? m = none) (n : Role) : newlyAsked n h m = [] := by
  rw [newlyAsked, hr]
  rfl

/-- The answers are what a move queues about addresses, and each tells the address that the role is
registered with as it is queued. -/
theorem replies_of_move (h : Hall) (m : Move) :
    (∃ c₁ : Conductor, (h.after m).conductor = c₁.reply (h.answers m) ∧
      ∀ s, s ≠ h.nextSession → c₁.answered s = h.conductor.answered s) ∧
    ∀ x ∈ h.answers m, (h.after m).conductor.roster.addressOf x.node = some x.address := by
  have hserving := serving h m
  generalize h.answers m = xs at hserving ⊢
  cases hserving with
  | answers request bound conductor =>
    refine ⟨⟨h.conductor, conductor, fun _ _ => rfl⟩, fun x hx => ?_⟩
    obtain rfl := List.mem_singleton.mp hx
    rw [conductor, reply_eq, Roster.addressOf]
    exact congrArg (Option.map (·.address)) bound
  | parks request free conductor =>
    rw [conductor]
    exact ⟨⟨_, rfl, fun _ _ => rfl⟩, nofun⟩
  | @registers s role address roster tally silent members erased conductor =>
    refine ⟨⟨_, conductor, fun s' _ => ?_⟩, fun x hx => ?_⟩
    · refine (filterMap_post Outbound.answer? _ s' s (.message .done)).trans ?_
      rw [show Outbound.answer? (.message .done) = none from rfl, Option.toList_none, ite_self,
        List.append_nil]
      rfl
    · obtain ⟨s', -, rfl⟩ := List.mem_map.mp hx
      rw [conductor, reply_eq, Roster.addressOf]
      show (roster.members.get? role).map (·.address) = some address
      rw [members, Table.get?_put, if_pos rfl, Option.map_some]
  | idle silent free =>
    exact ⟨⟨_, rfl, fun s hs => answered_of_idle silent free hs⟩, nofun⟩

/-- What was parked and what is asked for is answered or parked, in the same order, as far as the
sessions go on. -/
theorem conserved (ht : h.Tidy) (hm : m ≠ .shutdown) (n : Role) :
    (h.conductor.roster.parked n ++ newlyAsked n h m).filter (h.after m).lingers =
      (served n (h.answers m)).filter (h.after m).lingers ++
        ((h.after m).conductor.roster.parked n).filter (h.after m).lingers := by
  have hserving := serving h m
  generalize h.answers m = xs at hserving ⊢
  cases hserving with
  | @answers s node b request bound conductor =>
    rw [newlyAsked_of_request request, conductor, reply_eq, ← List.filter_append]
    by_cases hn : node = n
    · -- nobody waits for a role that is bound
      subst hn
      have hnobody := ht.roster.free node (by rw [bound]; rfl)
      simp [served, hnobody]
    · simp [served, hn]
  | @parks s node request free conductor =>
    rw [newlyAsked_of_request request, conductor, Roster.parked_park]
    by_cases hn : node = n
    · subst hn
      simp [served]
    · simp [served, hn, Ne.symm hn]
  | @registers s role address roster tally silent members erased conductor =>
    have hparked : (h.after m).conductor.roster.parked n =
        if n = role then [] else h.conductor.roster.parked n := by
      rw [conductor, reply_eq]
      exact Roster.parked_of_erased erased n
    rw [newlyAsked_of_none silent, List.append_nil, hparked]
    by_cases hn : n = role
    · subst hn
      simp [served, List.filter_map, Function.comp_def]
    · simp [served, hn, Ne.symm hn, List.filter_map, Function.comp_def]
  | idle silent free =>
    rw [newlyAsked_of_none silent, List.append_nil, parked_of_idle ht hm silent free]
    rfl

/-- An answer is to a session that is there. -/
theorem known_of_answer (ht : h.Tidy) {x : Answer} (hx : x ∈ h.answers m) :
    h.stage? x.session ≠ none := by
  have hserving := serving h m
  generalize h.answers m = xs at hserving hx
  cases hserving with
  | answers request =>
    obtain rfl := List.mem_singleton.mp hx
    obtain ⟨role, hst, -⟩ := request?_some request
    rw [hst]
    nofun
  | registers =>
    obtain ⟨s, hs, rfl⟩ := List.mem_map.mp hx
    obtain ⟨stage, hst, -⟩ := ht.isPresent_of_parked hs
    rw [hst]
    nofun
  | parks | idle => cases hx

/-- A line that is shut stays shut. -/
theorem shut_after (hn : s ≠ h.nextSession) (hs : (h.conductor.line s).isOpen = false) (m : Move) :
    ((h.after m).conductor.line s).isOpen = false := by
  obtain ⟨c₁, op, before, behind, horigin⟩ := operates h m
  refine behind.shut s ?_
  rw [isOpen_after c₁ op fun ht => hn (horigin.tends ht).2]
  exact before.shut s hs

/-! ## A run -/

/-- Such a law holds of fewer elements too. -/
theorem filter_eq_append_of_imp {p q : SessionId → Bool} {xs ys zs : List SessionId}
    (hq : ∀ s, q s = true → p s = true) (h : xs.filter p = ys.filter p ++ zs.filter p) :
    xs.filter q = ys.filter q ++ zs.filter q := by
  have hfewer : ∀ xs : List SessionId, (xs.filter p).filter q = xs.filter q := by
    intro xs
    rw [List.filter_filter]
    refine List.filter_congr fun s _ => ?_
    cases hs : q s with
    | false => rfl
    | true => rw [hq s hs, Bool.and_self]
  have hlaw := congrArg (List.filter q) h
  rwa [List.filter_append, hfewer, hfewer, hfewer] at hlaw

/-- In every run without a shutdown, what was asked is answered or parked, in the same order, as far
as the sessions go on. -/
theorem conserved_follow (settings : Settings) (moves : List Move) (hm : .shutdown ∉ moves)
    (n : Role) :
    let start : Hall := { conductor := { settings } }
    let h := follow start moves
    (asked n start moves).filter h.lingers = (served n (log start moves)).filter h.lingers ++
      (h.conductor.roster.parked n).filter h.lingers := by
  intro start
  induction moves using List.reverseRecOn with
  | nil => rfl
  | append_singleton moves m ih =>
    rw [List.mem_append, not_or, List.mem_singleton] at hm
    have ho : (follow start moves).Orderly := orderly_follow (orderly_new settings) moves
    have hstep := conserved (tidy_follow settings moves) (Ne.symm hm.2) n
    have hbefore := ih hm.1
    dsimp only at hbefore ⊢
    rw [follow_concat, asked, log, gathered_concat, gathered_concat, ← asked, ← log,
      served_append]
    generalize hh : follow start moves = h at hbefore hstep ho ⊢
    have hearlier := filter_eq_append_of_imp (q := (h.after m).lingers)
      (fun s hs => lingers_of_after ho hs) hbefore
    rw [List.filter_append, hearlier, List.append_assoc, ← List.filter_append, hstep,
      List.filter_append, List.append_assoc]

/-- In every run, what a session with an open line was told of addresses are the answers to it. -/
theorem answered_follow (settings : Settings) (moves : List Move) :
    let start : Hall := { conductor := { settings } }
    let h := follow start moves
    (∀ s, h.stage? s = none → toldTo s (log start moves) = []) ∧
    ∀ s, (h.conductor.line s).isOpen = true →
      h.conductor.answered s = toldTo s (log start moves) := by
  intro start
  induction moves using List.reverseRecOn with
  | nil => exact ⟨fun _ _ => rfl, nofun⟩
  | append_singleton moves m ih =>
    obtain ⟨hunknown, htold⟩ := ih
    have ho : (follow start moves).Orderly := orderly_follow (orderly_new settings) moves
    have ho' : (follow start (moves ++ [m])).Orderly := orderly_follow (orderly_new settings) _
    have ht : (follow start moves).Tidy := tidy_follow settings moves
    dsimp only at hunknown htold ⊢
    rw [follow_concat] at ho' ⊢
    rw [log, gathered_concat, ← log]
    generalize follow start moves = h at hunknown htold ho ho' ht ⊢
    have hnew : ∀ s, h.stage? s = none → toldTo s (log start moves ++ h.answers m) = [] := by
      intro s hs
      rw [toldTo_append, hunknown s hs, toldTo_eq_nil, List.append_nil]
      rintro x hx rfl
      exact known_of_answer ht hx hs
    refine ⟨fun s hs => hnew s ?_, fun s hopen => ?_⟩
    · by_contra hknown
      exact known_after ho hknown m hs
    · cases hs : h.stage? s with
      | none =>
        -- a session that is taken in has an empty line
        have hnone : h.sessions.get? s = none := Option.map_eq_none_iff.mp hs
        have hruns : ∃ x, (h.after m).sessions.get? s = some x := by
          rcases ho'.runs s hopen with ⟨due, hst⟩ | ⟨r, hst⟩
          · exact ⟨_, (Option.map_eq_some_iff.mp hst).choose_spec.1⟩
          · exact ⟨_, (Option.map_eq_some_iff.mp hst).choose_spec.1⟩
        obtain ⟨x, hx⟩ := hruns
        obtain ⟨-, -, -, hline, -⟩ := created hnone hx
        rw [hnew s hs, answered, hline]
        rfl
      | some stage =>
        have hn : s ≠ h.nextSession := ho.ne_of_known (by rw [hs]; nofun)
        obtain ⟨⟨c₁, heq, hsame⟩, -⟩ := replies_of_move h m
        have hbefore : (h.conductor.line s).isOpen = true := by
          refine Bool.not_eq_false _ ▸ fun hshut => ?_
          rw [shut_after hn hshut m] at hopen
          cases hopen
        have hline : (c₁.line s).isOpen = true := by rwa [heq, isOpen_reply] at hopen
        rw [heq, answered_reply, if_pos hline, hsame s hn, htold s hbefore, toldTo_append]

theorem lingers_of_open (ho : h.Orderly) (hopen : (h.conductor.line s).isOpen = true) :
    h.lingers s = true := by
  unfold lingers
  rcases ho.runs s hopen with ⟨due, hst⟩ | ⟨r, hst⟩ <;> rw [hst]

/-- In every run without a shutdown, and for every role, the requests for its address that were
heard of sessions with an open line are those that have been answered and those that are parked, in
this order; so each of these sessions was told the address as often as it has asked, but for the
requests of it that are parked. In every run nobody is parked for a role that is registered, and
each answer tells the address that the role is registered with as it is queued. -/
theorem requests_answered (settings : Settings) (moves : List Move) :
    let start : Hall := { conductor := { settings } }
    let h := follow start moves
    let c := h.conductor
    (.shutdown ∉ moves → ∀ n,
      (∀ s, (c.line s).isOpen = true → (asked n start moves).count s =
        (c.answered s).countP (·.1 = n) + (c.roster.parked n).count s) ∧
      (asked n start moves).filter (fun s => (c.line s).isOpen) =
        (served n (log start moves)).filter (fun s => (c.line s).isOpen) ++
          (c.roster.parked n).filter (fun s => (c.line s).isOpen)) ∧
    (∀ s, (c.line s).isOpen = true → c.answered s = toldTo s (log start moves)) ∧
    (∀ n, (c.roster.members.get? n).isSome → c.roster.parked n = []) ∧
    ∀ m, (∃ c₁ : Conductor, (h.after m).conductor = c₁.reply (h.answers m) ∧
        ∀ s, s ≠ h.nextSession → c₁.answered s = c.answered s) ∧
      ∀ x ∈ h.answers m, (h.after m).conductor.roster.addressOf x.node = some x.address := by
  intro start h c
  have ho : h.Orderly := orderly_follow (orderly_new settings) moves
  have ht : h.Tidy := tidy_follow settings moves
  have htold := (answered_follow settings moves).2
  refine ⟨fun hm n => ?_, htold, ht.roster.free, replies_of_move h⟩
  have hlaw := conserved_follow settings moves hm n
  have horder := filter_eq_append_of_imp (q := fun s => (c.line s).isOpen)
    (fun s hs => lingers_of_open ho hs) hlaw
  refine ⟨fun s hs => ?_, horder⟩
  have hkeeps : ∀ xs : List SessionId, (xs.filter fun s => (c.line s).isOpen).count s = xs.count s :=
    fun xs => List.count_filter hs
  have hcount := congrArg (List.count s) horder
  rw [List.count_append, hkeeps, hkeeps, hkeeps, count_served, ← htold s hs] at hcount
  exact hcount

/-- Two sessions wait for a role and a third one registers it; the role is asked for again, and once
more behind its removal. -/
theorem requests_answered_again :
    let x : Role := ⟨"x"⟩
    let ask (s : SessionId) : List Move :=
      [.deliver s (Frame.ofBody (Uplink.getAddress x).encode), .read s]
    let greet (s : SessionId) (name : String) : List Move :=
      [.connect, .deliver s (Frame.ofBody (Uplink.hello name default).encode), .read s]
    let moves := greet 0 "p" ++ greet 1 "q" ++ ask 1 ++ ask 0 ++ greet 2 "x" ++ ask 0 ++
      [.remove x] ++ ask 1
    let c := (follow {} moves).conductor
    asked x {} moves = [1, 0, 0, 1] ∧
    (c.roster.parked x = [1] ∧ c.roster.members.get? x = none) ∧
    (asked x {} moves).count 1 = (c.answered 1).countP (·.1 = x) + 1 ∧
    c.answered 0 = [(x, default), (x, default)] ∧
    [1, 0, 0, 1] = (served x (log {} moves)).filter (fun s => (c.line s).isOpen) ++ [1] := by
  intro x ask greet moves
  dsimp only
  have hopen : ∀ s ∈ [0, 1], ((follow {} moves).conductor.line s).isOpen = true := by
    decide +kernel
  have hasked : asked x {} moves = [1, 0, 0, 1] := by decide +kernel
  have hparked : (follow {} moves).conductor.roster.parked x = [1] := by decide +kernel
  have hnone : .shutdown ∉ moves := by simp [moves, ask, greet]
  obtain ⟨hlaws, htold, -⟩ := requests_answered {} moves
  obtain ⟨hcount, horder⟩ := hlaws hnone x
  refine ⟨hasked, ⟨hparked, by decide +kernel⟩, ?_, ?_, ?_⟩
  · rw [hcount 1 (hopen 1 (by decide)), hparked]
    rfl
  · rw [htold 0 (hopen 0 (by decide))]
    decide +kernel
  · have hboth : ∀ xs : List SessionId, xs = [1, 0, 0, 1] ∨ xs = [1] →
        xs.filter (fun s => ((follow {} moves).conductor.line s).isOpen) = xs := by
      rintro xs (rfl | rfl)
      · decide +kernel
      · decide +kernel
    rwa [hasked, hparked, hboth _ (Or.inl rfl), hboth _ (Or.inr rfl)] at horder

end Hall

end Rendezvous
