import Rendezvous.Conductor.Hall
import Rendezvous.Conductor.Status
import Rendezvous.Player.Booth
import Rendezvous.Transport.Socket

/-!
# Clusters

A cluster is a conductor that takes connections from the network and the players that joined it,
each with a socket and a recorder. Every step is waited for until it has come to its end: bytes are
carried between the sockets and the sessions until all is quiet.

The conductor may be out of reach; then nobody can join. A step that needs a player who is not there
has no answer.
-/

namespace Rendezvous

namespace Cluster

/-! ## Steps -/

/-- What is done in one step. Players go by labels. -/
inductive Step where
  | join (player : String) (role : Role) (address : Address)
  | leave (player : String)
  /-- Opens a barrier, lets players enter it one after the other, and then lets players fail it. -/
  | barrier (name : String) (roles : List Role) (timeout : Option Span)
      (enter fail : List String)
  /-- A player asks for the address of a role. -/
  | lookup (player : String) (node : Role)
  | addressOf (role : Role)
  /-- A command, and perhaps the player that it takes off. -/
  | call (cmd : Command) (gone : Option String)
  | faults (player : String) (target : Address)
  | shutdown

/-! ## Answers -/

/-- The answer to what was done in a step. -/
inductive Result where
  | succeeded
  | failed (e : PlayerError)
  | refused (e : GateRefusal)
  /-- How a barrier was resolved, and how those who entered it came out. -/
  | held (outcome : Option Outcome) (entered : List (String × Except PlayerError Finding))
  | found (finding : Option (Except PlayerError Finding))
  | address (a : Option Address)
  /-- A command was carried out; how the node was told to go down, if its player was taken off. -/
  | called (terminated : Option Exit)
  | faulted (e : FaultError)
  | recorded (r : Record) (target : Address)
  | stopped

/-- The answer to a step, with a snapshot and who is connected. -/
structure Entry where
  result : Result
  status : Status
  connected : List (String × Bool)

/-- A player that joined, and its session. -/
structure Guest where
  booth : Booth Socket Record
  session : SessionId
  /-- How many of the messages that its session wrote were carried to it. -/
  carried : Nat := 0

end Cluster

open Cluster

/-- The state of a cluster. -/
structure Cluster where
  hall : Hall
  /-- Whether the conductor can be reached over the network. -/
  reachable : Bool
  guests : Table String Guest := []

namespace Cluster

/-- A cluster without players. -/
def start (reachable : Bool) (settings : Settings) : Cluster where
  hall := { conductor := { settings } }
  reachable

/-! ## Carrying bytes -/

/-- Carries what a guest has written to its session. -/
def upload (h : Hall) (g : Guest) : Hall × Guest :=
  let (bytes, transport) := g.booth.transport.drain
  let h := h.deliver g.session bytes
  let h := if transport.writable then h else h.hangUp g.session
  (h, { g with booth := { g.booth with transport } })

/-- Carries what the session of a guest has written to the guest, and lets it go on. -/
def download (h : Hall) (g : Guest) : Guest :=
  match h.sessions.get? g.session with
  | none => g
  | some s =>
    let bytes := (s.written.drop g.carried).flatMap fun m => Frame.ofBody m.encode
    let transport := g.booth.transport.deliver bytes
    let transport := if s.isLive then transport else transport.hangUp
    { g with
      booth := { g.booth with transport }.settle
      carried := s.written.length }

/-- Carries everything once in both directions. -/
def round (c : Cluster) : Cluster :=
  let (hall, guests) := c.guests.foldl
    (fun (hall, guests) (label, g) =>
      let (hall, g) := upload hall g
      (hall, guests ++ [(label, g)])) (c.hall, [])
  let hall := hall.settle
  { c with hall, guests := guests.map fun (label, g) => (label, download hall g) }

/-- Carries bytes until all is quiet. What a step sets off is at most this: a player speaks to the
conductor, which speaks to players, of whom some answer or go, of which the conductor tells others,
who say nothing to that. -/
def quiesce (c : Cluster) : Cluster := c.round.round.round.round.round

/-! ## Guests -/

/-- Changes the booth of a guest and lets everything follow. -/
def withBooth (c : Cluster) (label : String) (f : Booth Socket Record → Booth Socket Record) :
    Cluster :=
  let guests := c.guests.adjust label fun g => { g with booth := (f g.booth).settle }
  { c with guests }.quiesce

/-- A guest goes: its end of the connection is closed. -/
def release (c : Cluster) (label : String) : Cluster :=
  match c.guests.get? label with
  | none => c
  | some g =>
    let hall := c.hall.hangUp g.session
    { c with hall, guests := c.guests.erase label }.quiesce

/-- Where the conductor is. -/
def conductorAddress : String := "conductor"

/-- The booth of a player that has not joined. -/
def booth (c : Cluster) (role : Role) (address : Address) : Booth Socket Record where
  role := role
  address := address
  conductor := conductorAddress
  transport := {
    reaches := fun a => c.reachable && !c.hall.conductor.closing && a == conductorAddress }
  handler := .recorder .obeys .obeys
  memory := {}
  clock := c.hall.conductor.clock

/-- The error of the last attempt of a booth to join, if it failed. -/
def rejection? (b : Booth Socket Record) : Option PlayerError :=
  match b.joins.getLast? with
  | some (.error e) => some e
  | _ => none

/-- The result of an attempt to join. -/
def resultOfJoin (b : Booth Socket Record) : Result :=
  match rejection? b with
  | some e => .failed e
  | none => .succeeded

/-- A player joins. One that is not taken in leaves no trace among the guests. -/
def join (c : Cluster) (label : String) (role : Role) (address : Address) : Cluster × Result :=
  let b := (c.booth role address).join
  if !b.transport.connected then (c, resultOfJoin b)
  else
    match c.hall.accept with
    | (none, hall) =>
      ({ c with hall }, resultOfJoin { b with transport := b.transport.hangUp }.settle)
    | (some session, hall) =>
      let guests := c.guests.put label { booth := b, session }
      let c := { c with hall, guests }.quiesce
      match (c.guests.get? label).bind fun g => rejection? g.booth with
      | some e => (c.release label, .failed e)
      | none => (c, .succeeded)

/-- A guest begins a call. -/
def begin (c : Cluster) (label : String) (inquiry : Inquiry) : Option (CallId × Cluster) :=
  (c.guests.get? label).map fun g =>
    (g.booth.nextCall, c.withBooth label fun b => (b.begin inquiry).2)

/-- How a call of a guest ended, if it has. -/
def ending? (c : Cluster) (label : String) (id : CallId) : Option (Except PlayerError Finding) := do
  let g ← c.guests.get? label
  (g.booth.endings.find? (·.1 = id)).map (·.2)

/-! ## Barriers -/

/-- Lets guests enter a barrier, one after the other. -/
def enterAll (c : Cluster) (name : String) :
    List String → Option (List (String × CallId) × Cluster)
  | [] => some ([], c)
  | label :: rest => do
    let (id, c) ← c.begin label (.barrier name none)
    let (calls, c) ← c.enterAll name rest
    some ((label, id) :: calls, c)

/-- Lets guests fail a barrier. -/
def failAll (c : Cluster) (name : String) : List String → Option Cluster
  | [] => some c
  | label :: rest =>
    if c.guests.has label then
      (c.withBooth label fun b => (b.failBarrier name).2).failAll name rest
    else none

/-- Lets the time pass that the barrier timer needs. -/
def awaitTimer (c : Cluster) : Cluster :=
  match c.hall.conductor.timer with
  | none => c
  | some alarm =>
    let span := alarm.due * 1000000 - c.hall.conductor.clock
    let guests := c.guests.map fun (label, g) => (label, { g with booth := g.booth.advance span })
    { c with hall := c.hall.advance span, guests }.quiesce

/-- Opens a barrier and lets guests enter and fail it. -/
def hold (c : Cluster) (name : String) (roles : List Role) (timeout : Option Span)
    (enter fail : List String) : Option (Cluster × Result) :=
  match c.hall.conductor.openBarrier name roles timeout with
  | (_, .error e) => some (c, .refused e)
  | (conductor, .ok epoch) => do
    let c := { c with hall := c.hall.withConductor conductor }.quiesce
    let (calls, c) ← c.enterAll name enter
    let c ← c.failAll name fail
    let c := c.awaitTimer
    let entered := calls.filterMap fun (label, id) => (c.ending? label id).map (label, ·)
    some (c, .held (c.hall.conductor.outcome? epoch) entered)

/-! ## Commands -/

/-- The result of a command. -/
def verdictOf (c : Cluster) (handle : Conductor.CommandHandle) (terminated : Option Exit) :
    Result :=
  match c.hall.conductor.verdict? handle with
  | some (.error e) => .faulted e
  | _ => .called terminated

/-- Issues a command and waits for its end. A player that it takes off is there no more. -/
def call (c : Cluster) (cmd : Command) (gone : Option String) : Option (Cluster × Result) :=
  match c.hall.conductor.issue cmd with
  | (conductor, result) =>
    let c := { c with hall := c.hall.withConductor conductor }.quiesce
    match gone with
    | none =>
      some (c, match result with
        | .ok handle => c.verdictOf handle none
        | .error e => .faulted e)
    | some label =>
      (c.guests.get? label).map fun g =>
        (c.release label, match result with
          | .ok handle => c.verdictOf handle g.booth.memory.terminated
          | .error e => .faulted e)

/-! ## Playing -/

/-- Does what a step says; nothing if it needs a guest who is not there. -/
def act (c : Cluster) : Step → Option (Cluster × Result)
  | .join label role address => some (c.join label role address)
  | .leave label =>
    if c.guests.has label then some (c.release label, .succeeded) else none
  | .barrier name roles timeout enter fail => c.hold name roles timeout enter fail
  | .lookup label node => do
    let (id, c) ← c.begin label (.address node)
    some (c, .found (c.ending? label id))
  | .addressOf role => some (c, .address (c.hall.conductor.roster.addressOf role))
  | .call cmd gone => c.call cmd gone
  | .faults label target =>
    (c.guests.get? label).map fun g => (c, .recorded g.booth.memory target)
  | .shutdown =>
    some ({ c with hall := c.hall.withConductor c.hall.conductor.shutdown }.quiesce, .stopped)

/-- Plays one step. -/
def play (c : Cluster) (s : Step) : Option (Cluster × Entry) :=
  (c.act s).map fun (c, result) =>
    (c, { result
          status := c.hall.conductor.status
          connected := c.guests.map fun (label, g) => (label, g.booth.isConnected) })

/-- Plays a script; there is no answer if a step of it has none. -/
def playAll (c : Cluster) : List Step → Option (Cluster × List Entry)
  | [] => some (c, [])
  | s :: rest => do
    let (c, entry) ← c.play s
    let (c, entries) ← c.playAll rest
    some (c, entry :: entries)

end Cluster

end Rendezvous
