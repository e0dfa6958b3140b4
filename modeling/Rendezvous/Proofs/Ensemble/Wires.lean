import Rendezvous.Proofs.Ensemble.Basic
import Rendezvous.Proofs.Hall.Records
import Rendezvous.Proofs.Player.Progress

/-!
# The two ends of a connection

How a seat goes with the record of its session (`Wired`). Upwards, what the session has not read and
what is still to be carried are whole messages, which the player wrote under its own role and, if
they are arrivals, because it was called. Downwards, what the player has not taken and what is still
to be carried are the rest of the messages that the session wrote, and the results that the player
knows are those of the others.
-/

namespace Rendezvous

variable {σ : Type} {log : List Event} {g : Nat} {x : Seat σ} {r r' : Session}

/-- What the player at a seat may have written to the conductor. -/
structure Authored (log : List Event) (g : Nat) (role : Role) (m : Uplink) : Prop where
  sendable : m.IsSendable
  hello : ∀ name address, m = .hello name address → name = role.name
  enter : ∀ name timeout claimed, m = .enterBarrier name timeout claimed →
    claimed = some role ∧ ∃ id, .called g id (.barrier name timeout) ∈ log

theorem Authored.append {role : Role} {m : Uplink} (h : Authored log g role m)
    (more : List Event) : Authored (log ++ more) g role m where
  sendable := h.sendable
  hello := h.hello
  enter name timeout claimed hm := by
    obtain ⟨hclaimed, id, hcalled⟩ := h.enter name timeout claimed hm
    exact ⟨hclaimed, id, List.mem_append_left more hcalled⟩

/-- The calls of a seat that are in the log. -/
def Called (log : List Event) (g : Nat) (id : CallId) (inquiry : Inquiry) : Prop :=
  .called g id inquiry ∈ log

theorem authored_of_says {b : Booth Socket σ} {m : Uplink} (ha : b.Attends (Called log g))
    (hs : b.Says m) (hm : m.IsSendable) : Authored log g b.role m := by
  refine ⟨hm, ?_, ?_⟩
  · rintro name address rfl
    rcases hs with hreply | ⟨_, he⟩ | ⟨c, -, he⟩
    · cases hreply
    · cases he
    · generalize c.inquiry = inquiry at he
      cases inquiry <;> cases he
  · rintro name timeout claimed rfl
    rcases hs with hreply | ⟨_, he⟩ | ⟨c, hc, he⟩
    · cases hreply
    · cases he
    · have hcalled := ha.known c hc
      generalize c.inquiry = inquiry at he hcalled
      cases inquiry with
      | barrier =>
        cases he
        exact ⟨rfl, c.id, hcalled⟩
      | address => cases he

/-- How a seat goes with the record at the other end of its connection. -/
structure Wired (log : List Event) (g : Nat) (x : Seat σ) (r : Session) : Prop where
  attends : x.booth.Attends (Called log g)
  upstream : r.isLive = true → ∃ ms, (∀ m ∈ ms, Authored log g x.booth.role m) ∧
    r.arrived ++ x.booth.transport.outgoing = Uplink.framed ms
  role : ∀ role, r.stage = .active role → role = x.booth.role
  fetched : x.fetched ≤ (Downlink.framed r.written).length
  results : x.booth.player.results <+: r.written.filterMap Downlink.result?
  downstream : x.booth.listens = true → ∃ inlet taken rest, x.booth.transport.inlet = some inlet ∧
    r.written = taken ++ rest ∧ x.booth.player.results = taken.filterMap Downlink.result? ∧
    inlet.arrived ++ (Downlink.framed r.written).drop x.fetched = Downlink.framed rest
  greeting : ∀ due, x.booth.listener = .greeting due → x.booth.player.results = []

theorem Wired.append (h : Wired log g x r) (more : List Event) : Wired (log ++ more) g x r :=
  { h with
    attends := h.attends.mono fun _ _ hc => List.mem_append_left more hc
    upstream := fun hl => by
      obtain ⟨ms, hms, hstream⟩ := h.upstream hl
      exact ⟨ms, fun m hm => (hms m hm).append more, hstream⟩ }

/-- What the link of a seat is does not matter to what goes over it. -/
theorem Wired.withLink (h : Wired log g x r) (link : Link) : Wired log g { x with link } r :=
  ⟨h.attends, h.upstream, h.role, h.fetched, h.results, h.downstream, h.greeting⟩

/-! ## At the booth -/

/-- The message that a player takes is the next one of those that its session wrote. -/
theorem Wired.takes {b' : Booth Socket σ} {m : Downlink} (h : Wired log g x r)
    (hs : ∀ d ∈ r.written, d.IsSendable) (ht : x.booth.Takes b' m) :
    ∃ inlet taken rest, b'.transport.inlet = some inlet ∧ r.written = taken ++ rest ∧
      x.booth.player.results ++ m.result?.toList = taken.filterMap Downlink.result? ∧
      inlet.arrived ++ (Downlink.framed r.written).drop x.fetched = Downlink.framed rest := by
  obtain ⟨hl, inlet, body, arrived, hinlet, hnext, hbody, hbehind⟩ := ht
  obtain ⟨inlet', taken, rest, hinlet', hwritten, hresults, hstream⟩ := h.downstream hl
  rw [hinlet] at hinlet'
  cases hinlet'
  have hrest : ∀ d ∈ rest, d.IsSendable := by
    intro d hd
    refine hs d ?_
    rw [hwritten]
    exact List.mem_append_right taken hd
  obtain ⟨m', rest', rfl, hbody', hstream'⟩ := Downlink.framed_of_next? hrest hstream hnext
  rw [hbody] at hbody'
  cases hbody'
  refine ⟨{ inlet with arrived }, taken ++ [m], rest', hbehind, ?_, ?_, hstream'⟩
  · rw [hwritten, List.append_assoc]
    rfl
  · rw [List.filterMap_append, ← hresults]
    cases m <;> rfl

/-- A deed at the booth. -/
theorem Wired.play (h : Wired log g x r) (hs : ∀ d ∈ r.written, d.IsSendable) (d : Deed)
    (hk : ∀ inquiry, d = .begin inquiry → x.booth.hasPlayer = true →
      Called log g x.booth.nextCall inquiry) :
    Wired log g { x with booth := x.booth.after d } r := by
  obtain ⟨sent, taken, hsaid, hprogress⟩ := Booth.progress_after h.greeting d
  -- the messages that were taken so far are the first ones, also behind the deed
  have hdown : (x.booth.after d).player.results <+: r.written.filterMap Downlink.result? ∧
      ((x.booth.after d).listens = true → ∃ inlet taken rest,
        (x.booth.after d).transport.inlet = some inlet ∧ r.written = taken ++ rest ∧
        (x.booth.after d).player.results = taken.filterMap Downlink.result? ∧
        inlet.arrived ++ (Downlink.framed r.written).drop x.fetched = Downlink.framed rest) := by
    have hresults := hprogress.results
    cases taken with
    | none =>
      rw [Option.bind_none, Option.toList_none, List.append_nil] at hresults
      rw [hresults]
      refine ⟨h.results, ?_⟩
      intro hl
      rw [hprogress.inlet rfl hl]
      exact h.downstream (hprogress.listens hl)
    | some m =>
      obtain ⟨inlet, taken, rest, hinlet, hwritten, hheard, hstream⟩ :=
        h.takes hs (hprogress.takes m rfl)
      rw [Option.bind_some, hheard] at hresults
      rw [hresults]
      refine ⟨?_, fun _ => ⟨inlet, taken, rest, hinlet, hwritten, rfl, hstream⟩⟩
      rw [hwritten]
      exact List.IsPrefix.filterMap _ (List.prefix_append taken rest)
  refine ⟨h.attends.after d hk, ?_, ?_, h.fetched, hdown.1, hdown.2, ?_⟩
  · intro hl
    obtain ⟨ms, hms, hstream⟩ := h.upstream hl
    refine ⟨ms ++ sent, ?_, ?_⟩
    · intro m hm
      dsimp only
      rw [hprogress.role]
      rcases List.mem_append.mp hm with hm | hm
      · exact hms m hm
      · exact authored_of_says h.attends (hsaid m hm) (hprogress.sendable m hm)
    · dsimp only
      rw [hprogress.outgoing, ← List.append_assoc, hstream, Uplink.framed_append]
  · dsimp only
    rw [hprogress.role]
    exact h.role
  · intro due hd
    obtain ⟨hgreeting, rfl⟩ := hprogress.greets due hd
    dsimp only
    rw [hprogress.results, h.greeting due hgreeting]
    rfl

/-- The record of a session that the conductor has only just taken in, or will. -/
def Session.IsBlank (r : Session) : Prop :=
  ∃ due, r = { stage := .awaitingHello due }

/-- A player that joins has written its greeting at most, and nothing was written to it. -/
theorem Setup.wired_join (p : Setup σ) (log : List Event) (g : Nat) (hr : r.IsBlank) :
    Wired log g { p.seat with booth := p.seat.booth.join, link := .waiting } r := by
  obtain ⟨due, rfl⟩ := hr
  obtain ⟨hrole, ⟨sent, hsent, houtgoing⟩, -, hinlet⟩ :=
    Booth.join_cases p.seat.booth rfl rfl
  have hsteady := Booth.steady_join p.seat.booth
  have hresults : p.seat.booth.join.player.results = [] := by
    rw [hsteady.player]
    rfl
  have hattends : p.seat.booth.Attends (Called log g) := ⟨nofun, nofun, nofun, nofun⟩
  refine ⟨hattends.hears hsteady.hears, fun _ => ⟨sent, fun m hm => ?_, houtgoing⟩, nofun,
    Nat.le_refl _, ?_, fun hl => ⟨{}, [], [], hinlet hl, rfl, hresults, rfl⟩, fun _ _ => hresults⟩
  · obtain ⟨rfl, hsendable⟩ := hsent m hm
    refine ⟨hsendable, ?_, nofun⟩
    intro name address he
    cases he
    dsimp only
    rw [hrole]
  · dsimp only
    rw [hresults]
    exact List.nil_prefix

/-! ## On the way -/

/-- Bytes are carried to the player. -/
theorem Wired.carryDown (h : Wired log g x r) (n : Nat) :
    Wired log g (x.carryDown r.written n) r := by
  unfold Seat.carryDown
  dsimp only
  split
  · next hopen =>
    obtain ⟨bytes, hbytes⟩ : ∃ bytes, bytes =
      ((Downlink.framed r.written).drop x.fetched).take n := ⟨_, rfl⟩
    rw [← hbytes]
    -- the bytes that are carried and those that are still to come are what was to come before
    have hrest : bytes ++ (Downlink.framed r.written).drop (x.fetched + bytes.length) =
        (Downlink.framed r.written).drop x.fetched := by
      rw [← List.drop_drop]
      refine List.prefix_iff_eq_append.mp ?_
      rw [hbytes]
      exact List.take_prefix _ _
    have hlength : bytes.length ≤ (Downlink.framed r.written).length - x.fetched := by
      rw [hbytes, List.length_take, List.length_drop]
      exact Nat.min_le_right _ _
    refine ⟨h.attends.of_same rfl rfl rfl, h.upstream, h.role, ?_, h.results, ?_,
      h.greeting⟩
    · have hfetched := h.fetched
      dsimp only
      omega
    · intro hl
      obtain ⟨inlet, taken, rest, hinlet, hwritten, hresults, hstream⟩ := h.downstream hl
      refine ⟨{ inlet with arrived := inlet.arrived ++ bytes }, taken, rest, ?_, hwritten, hresults,
        ?_⟩
      · dsimp only [Seat.withTransport, Socket.deliver]
        rw [hinlet, Option.map_some]
      · dsimp only
        rw [List.append_assoc, hrest]
        exact hstream
  · exact h

/-- The player sees the end of the connection. -/
theorem Wired.hangUp (h : Wired log g x r) :
    Wired log g (x.withTransport x.booth.transport.hangUp) r := by
  refine ⟨h.attends.of_same rfl rfl rfl, h.upstream, h.role, h.fetched, h.results, ?_,
    h.greeting⟩
  intro hl
  obtain ⟨inlet, taken, rest, hinlet, hwritten, hresults, hstream⟩ := h.downstream hl
  refine ⟨{ inlet with ended := true }, taken, rest, ?_, hwritten, hresults, hstream⟩
  dsimp only [Seat.withTransport, Socket.hangUp]
  rw [hinlet, Option.map_some]

/-- Bytes are carried to the session. -/
theorem Wired.carryUp (h : Wired log g x r) (n : Nat) :
    Wired log g
      (x.withTransport { x.booth.transport with outgoing := x.booth.transport.outgoing.drop n })
      { r with arrived := r.arrived ++ x.booth.transport.outgoing.take n } := by
  refine ⟨h.attends.of_same rfl rfl rfl, ?_, h.role, h.fetched, h.results, h.downstream,
    h.greeting⟩
  intro hl
  obtain ⟨ms, hms, hstream⟩ := h.upstream hl
  refine ⟨ms, hms, ?_⟩
  dsimp only [Seat.withTransport]
  rw [List.append_assoc, List.take_append_drop]
  exact hstream

/-! ## At the session -/

/-- The connection is taken in. -/
theorem Wired.of_blank (h : Wired log g x r) (hr : r.IsBlank) (hr' : r'.IsBlank) :
    Wired log g x r' := by
  obtain ⟨due, rfl⟩ := hr
  obtain ⟨due', rfl⟩ := hr'
  exact ⟨h.attends, h.upstream, nofun, h.fetched, h.results, h.downstream, h.greeting⟩

theorem isLive_of_active {role : Role} (h : r.stage = .active role) : r.isLive = true := by
  rw [Session.isLive, h]

/-- The session goes on or ends, and nothing else has happened to its record. -/
theorem Wired.of_kept (h : Wired log g x r) (hk : Hall.Kept r r') : Wired log g x r' := by
  refine ⟨h.attends, ?_, ?_, ?_, ?_, ?_, h.greeting⟩
  · intro hl
    rw [hk.arrived]
    exact h.upstream (hk.isLive hl)
  · intro role hs
    rw [hk.stage (isLive_of_active hs)] at hs
    exact h.role role hs
  · rw [hk.written]
    exact h.fetched
  · rw [hk.written]
    exact h.results
  · rw [hk.written]
    exact h.downstream

/-- The message that is read is one that the player at the seat wrote, and behind it the next ones
can be read. -/
theorem Wired.reads {limit : Nat} {frame : Except WireError (List UInt8)} {rest : List UInt8}
    {u : Uplink} (h : Wired log g x r) (hl : r.isLive = true)
    (hn : Frame.next? limit r.peerGone r.arrived = some (frame, rest))
    (hu : frame.bind Uplink.ofBody = .ok u) :
    Authored log g x.booth.role u ∧ ∃ ms, (∀ m ∈ ms, Authored log g x.booth.role m) ∧
      rest ++ x.booth.transport.outgoing = Uplink.framed ms := by
  obtain ⟨ms, hms, hstream⟩ := h.upstream hl
  obtain ⟨ms', rfl, hrest⟩ :=
    Uplink.framed_of_next? (fun m hm => (hms m hm).sendable) hstream hn hu
  exact ⟨hms u List.mem_cons_self, ms', fun m hm => hms m (List.mem_cons_of_mem u hm), hrest⟩

/-- What a move of the hall does to the record, unless it brings bytes. -/
theorem Wired.recorded {h : Hall} {m : Hall.Move} {s : SessionId} (hw : Wired log g x r)
    (hr : h.Recorded m s r r') (hm : ∀ bytes, m ≠ .deliver s bytes) : Wired log g x r' := by
  cases hr with
  | keeps kept => exact hw.of_kept kept
  | receives move => exact absurd move (hm _)
  | parts _ record =>
    subst record
    exact ⟨hw.attends, hw.upstream, hw.role, hw.fetched, hw.results, hw.downstream, hw.greeting⟩
  | @reads frame rest _ live next record stage =>
    have hwritten : r'.written = r.written := record.written
    have harrived : r'.arrived = rest := record.arrived
    refine ⟨hw.attends, ?_, ?_, ?_, ?_, ?_, hw.greeting⟩
    · intro hl
      obtain ⟨u, hu, -⟩ := stage hl
      rw [harrived]
      exact (hw.reads live next hu).2
    · intro role hs
      obtain ⟨u, hu, hheard⟩ := stage (isLive_of_active hs)
      -- a session that has just been given a role was named by the greeting of its own player
      rcases hheard with hsame | ⟨due, name, address, -, hhello, hactive⟩
      · exact hw.role role (hsame.symm.trans hs)
      · have hname := (hw.reads live next hu).1.hello name address hhello
        rw [hactive, hname] at hs
        cases hs
        rfl
    · rw [hwritten]
      exact hw.fetched
    · rw [hwritten]
      exact hw.results
    · rw [hwritten]
      exact hw.downstream
  | @writes d _ _ _ _ record =>
    subst record
    have hfetched := hw.fetched
    -- a message more is written behind all others, and none of its bytes was fetched
    refine ⟨hw.attends, hw.upstream, hw.role, ?_, ?_, ?_, hw.greeting⟩
    · dsimp only
      rw [Downlink.framed_append, List.length_append]
      exact Nat.le_add_right_of_le hfetched
    · dsimp only
      rw [List.filterMap_append]
      exact hw.results.trans (List.prefix_append _ _)
    · intro hl
      obtain ⟨inlet, taken, rest, hinlet, hwritten, hresults, hstream⟩ := hw.downstream hl
      refine ⟨inlet, taken, rest ++ [d], hinlet, ?_, hresults, ?_⟩
      · dsimp only
        rw [hwritten, List.append_assoc]
      · dsimp only
        rw [Downlink.framed_append, List.drop_append_of_le_length hfetched, ← List.append_assoc,
          hstream, Downlink.framed_append]

end Rendezvous
