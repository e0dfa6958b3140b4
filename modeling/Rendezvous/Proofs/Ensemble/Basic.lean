import Rendezvous.Proofs.Hall.Move
import Rendezvous.Proofs.Player.Calls
import Rendezvous.Proofs.Wire.Stream
import Rendezvous.Transport.Socket

/-!
# Ensembles

An ensemble is one conductor with its sessions and any number of players, each in a booth with a
connection of its own. It goes on in moves, in any order: those of the hall and of its driver, what
is done at a booth, and what happens on a connection. A connection carries the bytes that were
written at one end to the other one, in order and as many at a time as it likes, until it is cut.

What players and the conductor do to barriers is kept in a log (`Ensemble.log`).
-/

namespace Rendezvous

/-- How far the connection of a player has come. -/
inductive Link where
  /-- The player has not tried to join. -/
  | apart
  /-- The conductor has not taken the connection in. -/
  | waiting
  | session (s : SessionId)
  /-- There were as many connections as the settings allow, and this one was dropped. -/
  | refused
deriving DecidableEq, Repr, Inhabited

/-- A booth and its connection. -/
structure Seat (σ : Type) where
  booth : Booth Socket σ
  link : Link := .apart
  /-- How many of the bytes that its session has written were carried to it. -/
  fetched : Nat := 0

/-- What a booth is before its player joins. -/
structure Setup (σ : Type) where
  role : Role
  address : Address
  /-- Where the conductor is. -/
  conductor : String
  patience : Span := .ofSecs 10
  handler : FaultHandler σ
  memory : σ
  clock : Nat := 0
  /-- The longest frame that is accepted. -/
  limit : Nat := Frame.maxSize
  /-- Whether somebody takes connections at an address. -/
  reaches : String → Bool

/-- The seat of a player that has not tried to join. -/
def Setup.seat {σ : Type} (p : Setup σ) : Seat σ where
  booth :=
    { role := p.role
      address := p.address
      conductor := p.conductor
      patience := p.patience
      transport := { limit := p.limit, reaches := p.reaches }
      handler := p.handler
      memory := p.memory
      clock := p.clock }

/-- A conductor with its sessions and players. -/
structure Ensemble (σ : Type) where
  hall : Hall := {}
  seats : Nat → Seat σ

/-! ## At a seat -/

/-- What happens at a seat. -/
inductive Step where
  /-- The player tries to join. -/
  | join
  | play (d : Deed)
  /-- The conductor takes the connection in. -/
  | accept
  /-- Some bytes are carried to the conductor. -/
  | carryUp (n : Nat)
  /-- Some bytes are carried to the player. -/
  | carryDown (n : Nat)
  /-- The conductor sees the end of the connection. -/
  | cutUp
  /-- The player sees the end of the connection. -/
  | cutDown
deriving DecidableEq, Repr, Inhabited

namespace Seat

variable {σ : Type}

/-- Puts another transport into the booth. -/
def withTransport (x : Seat σ) (t : Socket) : Seat σ :=
  { x with booth := { x.booth with transport := t } }

/-- Whether the player holds its end of a connection. -/
def isConnected (x : Seat σ) : Bool := x.booth.transport.inlet.isSome

/-- The session takes bytes that the player has written, unless its end has been cut. -/
def carryUp (x : Seat σ) (s : SessionId) (record : Session) (n : Nat) : Option Hall.Move × Seat σ :=
  let t := x.booth.transport
  if record.peerGone then (none, x)
  else
    (some (.deliver s (t.outgoing.take n)),
      x.withTransport { t with outgoing := t.outgoing.drop n })

/-- The player takes bytes that its session has written, unless its end has been cut. -/
def carryDown (x : Seat σ) (written : List Downlink) (n : Nat) : Seat σ :=
  let t := x.booth.transport
  if t.inlet.any (!·.ended) then
    let bytes := ((Downlink.framed written).drop x.fetched).take n
    { x.withTransport (t.deliver bytes) with fetched := x.fetched + bytes.length }
  else x

/-- What a step is for the hall, if it is anything, and the seat behind it; what cannot be done is
not done. -/
def take (x : Seat σ) (h : Hall) : Step → Option Hall.Move × Seat σ
  | .join =>
    (none, if x.link = .apart then { x with booth := x.booth.join, link := .waiting } else x)
  | .play d => (none, if x.link = .apart then x else { x with booth := x.booth.after d })
  | .accept =>
    if x.link = .waiting ∧ x.isConnected then
      (some .accept, match h.accept.1 with
        | some s => { x with link := .session s }
        | none => { x.withTransport x.booth.transport.hangUp with link := .refused })
    else (none, x)
  | .carryUp n =>
    match x.link with
    | .session s => (h.sessions.get? s).elim (none, x) fun record => x.carryUp s record n
    | _ => (none, x)
  | .carryDown n =>
    match x.link with
    | .session s => (none, (h.sessions.get? s).elim x fun record => x.carryDown record.written n)
    | _ => (none, x)
  | .cutUp =>
    match x.link with
    | .session s => (some (.hangUp s), x)
    | _ => (none, x)
  | .cutDown => (none, x.withTransport x.booth.transport.hangUp)

/-- What can happen at a seat, with what it needs. -/
inductive Taking (x : Seat σ) (h : Hall) : Step → Option Hall.Move × Seat σ → Prop where
  | idles {step : Step} : Taking x h step (none, x)
  | joins (apart : x.link = .apart) :
      Taking x h .join (none, { x with booth := x.booth.join, link := .waiting })
  | plays (d : Deed) (linked : x.link ≠ .apart) :
      Taking x h (.play d) (none, { x with booth := x.booth.after d })
  | accepts (waiting : x.link = .waiting) :
      Taking x h .accept (some .accept, match h.accept.1 with
        | some s => { x with link := .session s }
        | none => { x.withTransport x.booth.transport.hangUp with link := .refused })
  | carriesUp {s : SessionId} {r : Session} (n : Nat) (session : x.link = .session s)
      (record : h.sessions.get? s = some r) :
      Taking x h (.carryUp n) (some (.deliver s (x.booth.transport.outgoing.take n)),
        x.withTransport { x.booth.transport with outgoing := x.booth.transport.outgoing.drop n })
  | carriesDown {s : SessionId} {r : Session} (n : Nat) (session : x.link = .session s)
      (record : h.sessions.get? s = some r) :
      Taking x h (.carryDown n) (none, x.carryDown r.written n)
  | cutsUp {s : SessionId} (session : x.link = .session s) :
      Taking x h .cutUp (some (.hangUp s), x)
  | cutsDown : Taking x h .cutDown (none, x.withTransport x.booth.transport.hangUp)

theorem taking (x : Seat σ) (h : Hall) (step : Step) : x.Taking h step (x.take h step) := by
  cases step with
  | join =>
    rw [take]
    split
    · next hl => exact .joins hl
    · exact .idles
  | play d =>
    rw [take]
    split
    · exact .idles
    · next hl => exact .plays d hl
  | accept =>
    rw [take]
    split
    · next hl => exact .accepts hl.1
    · exact .idles
  | carryUp n =>
    rw [take]
    split
    · next s hl =>
      cases hr : h.sessions.get? s with
      | none => exact .idles
      | some r =>
        rw [Option.elim_some, carryUp]
        split
        · exact .idles
        · exact .carriesUp n hl hr
    · exact .idles
  | carryDown n =>
    rw [take]
    split
    · next s hl =>
      cases hr : h.sessions.get? s with
      | none => exact .idles
      | some r => exact .carriesDown n hl hr
    · exact .idles
  | cutUp =>
    rw [take]
    split
    · next s hl => exact .cutsUp hl
    · exact .idles
  | cutDown => exact .cutsDown

theorem link_carryDown (x : Seat σ) (written : List Downlink) (n : Nat) :
    (x.carryDown written n).link = x.link := by
  unfold carryDown
  dsimp only
  split <;> rfl

theorem role_carryDown (x : Seat σ) (written : List Downlink) (n : Nat) :
    (x.carryDown written n).booth.role = x.booth.role := by
  unfold carryDown
  dsimp only
  split <;> rfl

end Seat

/-! ## Moves -/

/-- Whether a move of a hall is not about a connection, which are those of the players alone. -/
def Hall.Move.isInner : Hall.Move → Bool
  | .connect | .accept | .deliver .. | .hangUp _ => false
  | _ => true

namespace Ensemble

variable {σ : Type} {w : Ensemble σ}

/-- One move of an ensemble. -/
inductive Move where
  /-- The driver, a session or the timer makes a move. -/
  | conduct (m : Hall.Move)
  /-- Something happens at a seat. -/
  | step (g : Nat) (x : Step)

/-- A new conductor and players that have not joined it. -/
def start (settings : Settings) (setups : Nat → Setup σ) : Ensemble σ where
  hall := { conductor := { settings } }
  seats g := (setups g).seat

/-- The move that the hall makes in a move of the ensemble, if it makes one. -/
def hallMove? (w : Ensemble σ) : Move → Option Hall.Move
  | .conduct m => if m.isInner then some m else none
  | .step g x => ((w.seats g).take w.hall x).1

/-- The seats with another one in a place. -/
def place (w : Ensemble σ) (g : Nat) (x : Seat σ) : Nat → Seat σ :=
  fun g' => if g' = g then x else w.seats g'

@[simp] theorem place_self (w : Ensemble σ) (g : Nat) (x : Seat σ) : w.place g x g = x := if_pos rfl

theorem place_of_ne {g g' : Nat} (h : g' ≠ g) (x : Seat σ) : w.place g x g' = w.seats g' := if_neg h

@[simp] theorem place_seats (w : Ensemble σ) (g : Nat) : w.place g (w.seats g) = w.seats := by
  funext g'
  by_cases h : g' = g
  · rw [h, place_self]
  · exact place_of_ne h _

/-- The seats behind a move. -/
def seatsAfter (w : Ensemble σ) : Move → Nat → Seat σ
  | .conduct _ => w.seats
  | .step g x => w.place g ((w.seats g).take w.hall x).2

/-- The ensemble behind a move. -/
def after (w : Ensemble σ) (m : Move) : Ensemble σ where
  hall := (w.hallMove? m).elim w.hall w.hall.after
  seats := w.seatsAfter m

/-- The ensemble behind a list of moves. -/
def follow (w : Ensemble σ) (moves : List Move) : Ensemble σ := moves.foldl after w

/-- The moves that the hall makes in a list of moves. -/
def hallMoves : Ensemble σ → List Move → List Hall.Move
  | _, [] => []
  | w, m :: rest => (w.hallMove? m).toList ++ hallMoves (w.after m) rest

theorem follow_concat (w : Ensemble σ) (moves : List Move) (m : Move) :
    w.follow (moves ++ [m]) = (w.follow moves).after m := List.foldl_append

theorem hall_after (w : Ensemble σ) (m : Move) :
    (w.after m).hall = w.hall.follow (w.hallMove? m).toList := by
  unfold after
  cases w.hallMove? m with
  | none => rfl
  | some m => rfl

/-- The hall of an ensemble goes its own way, by the moves that it makes. -/
theorem hall_follow (w : Ensemble σ) (moves : List Move) :
    (w.follow moves).hall = w.hall.follow (w.hallMoves moves) := by
  induction moves generalizing w with
  | nil => rfl
  | cons m rest ih =>
    rw [hallMoves, Hall.follow_append, ← hall_after]
    exact ih (w.after m)

end Ensemble

/-! ## The log -/

/-- What happens to calls and to barriers. -/
inductive Event where
  /-- A player calls. -/
  | called (g : Nat) (id : CallId) (inquiry : Inquiry)
  /-- A call returns to its player that the barrier was passed. -/
  | passed (g : Nat) (id : CallId) (inquiry : Inquiry)
  /-- The conductor opens a barrier. -/
  | opened (b : Awaited)
  /-- The conductor handles a message of a player with a role. -/
  | handled (s : SessionId) (role : Role) (m : Uplink)
  /-- The conductor publishes an outcome, to the players and to the driver. -/
  | published (o : Outcome)
deriving DecidableEq

/-- The message that the conductor handles in a move of the hall. -/
def Hall.handling (h : Hall) (m : Hall.Move) : List Event :=
  (h.heard? m).toList.map fun (s, role, u) => .handled s role u

/-- The barrier that the conductor opens in a move of the hall. -/
def Hall.opening (h : Hall) (m : Hall.Move) : List Event :=
  if h.conductor.gate.awaited.isNone then
    (h.after m).conductor.gate.awaited.toList.map .opened
  else []

/-- The outcome that the conductor publishes in a move of the hall. -/
def Hall.publishing (h : Hall) (m : Hall.Move) : List Event :=
  ((h.after m).conductor.outcomes.drop h.conductor.outcomes.length).map .published

/-- What is logged of a move of the hall. -/
def Hall.events (h : Hall) (m : Hall.Move) : List Event :=
  h.handling m ++ (h.opening m ++ h.publishing m)

/-- The call that a player begins by a deed. -/
def Seat.calling {σ : Type} (x : Seat σ) (g : Nat) : Deed → List Event
  | .begin inquiry => if x.booth.hasPlayer then [.called g x.booth.nextCall inquiry] else []
  | _ => []

/-- The call that passes its barrier in a deed. -/
def Seat.passing {σ : Type} (x : Seat σ) (g : Nat) (d : Deed) : List Event :=
  (x.booth.passed d).map fun c => .passed g c.id c.inquiry

/-- What is logged of a step at a seat. -/
def Seat.events {σ : Type} (x : Seat σ) (g : Nat) : Step → List Event
  | .play d => if x.link = .apart then [] else x.calling g d ++ x.passing g d
  | _ => []

namespace Ensemble

variable {σ : Type}

/-- What is logged of a move at a seat. -/
def seatEvents (w : Ensemble σ) : Move → List Event
  | .conduct _ => []
  | .step g x => (w.seats g).events g x

/-- What is logged of a move. -/
def events (w : Ensemble σ) (m : Move) : List Event :=
  (w.hallMove? m).elim [] w.hall.events ++ w.seatEvents m

/-- What is logged of a list of moves. -/
def log : Ensemble σ → List Move → List Event
  | _, [] => []
  | w, m :: rest => w.events m ++ log (w.after m) rest

theorem log_concat (w : Ensemble σ) (moves : List Move) (m : Move) :
    w.log (moves ++ [m]) = w.log moves ++ (w.follow moves).events m := by
  induction moves generalizing w with
  | nil => simp [log, follow]
  | cons m' rest ih =>
    rw [List.cons_append, log, log, ih, List.append_assoc]
    rfl

end Ensemble

end Rendezvous
