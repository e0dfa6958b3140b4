import Rendezvous.Player.Error

/-!
# The player

A player remembers who waits for what: at most one call at a barrier, and any number of calls for
the addresses of roles. Its operations are the steps that nothing can interrupt, so between any two
of them the steps of other calls and of incoming messages may come.

A waiting call is served at most once: what it waits for is delivered to it and it waits no more. A
call that neither waits nor was served has lost the connection (`Wait.closed`).
-/

namespace Rendezvous

/-- What tells the calls of a player apart. -/
abbrev CallId := Nat

/-- The call that waits at a barrier. -/
structure BarrierWaiter where
  call : CallId
  name : String
deriving DecidableEq, Repr, Inhabited

/-- A call that waits for the address of a role. -/
structure AddressWaiter where
  call : CallId
  node : Role
deriving DecidableEq, Repr, Inhabited

/-- The resolution of a barrier, as the conductor tells it. -/
structure BarrierResult where
  name : String
  success : Bool
deriving DecidableEq, Repr, Inhabited

/-- What there is for a call that waits. -/
inductive Wait (α : Type) where
  /-- It was served. -/
  | served (a : α)
  | pending
  /-- Nobody will serve it. -/
  | closed
deriving DecidableEq, Repr, Inhabited

/-- The state of a registered player. -/
structure Player where
  /-- Whether the player still listens to the conductor. -/
  connected : Bool := true
  barrierWaiter : Option BarrierWaiter := none
  /-- The calls that wait for addresses, oldest first. -/
  addressWaiters : List AddressWaiter := []
  /-- Every resolution that was told, oldest first. -/
  results : List BarrierResult := []
  /-- The calls that were told how their barrier was resolved, oldest first. -/
  decided : List (CallId × Bool) := []
  /-- The calls that were told an address, oldest first. -/
  located : List (CallId × Address) := []
deriving DecidableEq, Repr, Inhabited

namespace Player

/-! ## Waiting -/

/-- A call goes to wait at a barrier, if the player listens and no other call waits at one. -/
def waitAtBarrier (p : Player) (call : CallId) (name : String) : Except PlayerError Player :=
  if !p.connected then .error .notConnected
  else match p.barrierWaiter with
    | some active => .error (.barrierInFlight active.name)
    | none => .ok { p with barrierWaiter := some ⟨call, name⟩ }

/-- Forgets the call that waits at a barrier of this name. -/
def leaveBarrier (p : Player) (name : String) : Player :=
  if p.barrierWaiter.any (·.name = name) then { p with barrierWaiter := none } else p

/-- A call goes to wait for an address, if the player listens. -/
def waitForAddress (p : Player) (call : CallId) (node : Role) : Except PlayerError Player :=
  if !p.connected then .error .notConnected
  else .ok { p with addressWaiters := p.addressWaiters ++ [⟨call, node⟩] }

/-- What there is for a call that went to wait at a barrier. -/
def barrierWait (p : Player) (call : CallId) : Wait Bool :=
  match p.decided.find? (·.1 = call) with
  | some (_, success) => .served success
  | none => if p.barrierWaiter.any (·.call = call) then .pending else .closed

/-- What there is for a call that went to wait for an address. -/
def addressWait (p : Player) (call : CallId) : Wait Address :=
  match p.located.find? (·.1 = call) with
  | some (_, address) => .served address
  | none => if p.addressWaiters.any (·.call = call) then .pending else .closed

/-! ## Serving -/

/-- A barrier was resolved: the call that waits at a barrier of this name is served. -/
def barrierResolved (p : Player) (name : String) (success : Bool) : Player :=
  let results := p.results ++ [BarrierResult.mk name success]
  match p.barrierWaiter with
  | some w =>
    if w.name = name then
      { p with results, barrierWaiter := none, decided := p.decided ++ [(w.call, success)] }
    else { p with results }
  | none => { p with results }

/-- The address of a role is known: every call that waits for it is served. -/
def addressKnown (p : Player) (node : Role) (address : Address) : Player :=
  let (served, waiting) := p.addressWaiters.partition (·.node = node)
  { p with
    addressWaiters := waiting
    located := p.located ++ served.map fun w => (w.call, address) }

/-- The connection is lost: nobody waits any more. -/
def disconnect (p : Player) : Player :=
  { p with connected := false, barrierWaiter := none, addressWaiters := [] }

/-! ## Small laws -/

@[simp] theorem results_leaveBarrier (p : Player) (name : String) :
    (p.leaveBarrier name).results = p.results := by
  unfold leaveBarrier
  split <;> rfl

@[simp] theorem results_barrierResolved (p : Player) (name : String) (success : Bool) :
    (p.barrierResolved name success).results = p.results ++ [⟨name, success⟩] := by
  simp only [barrierResolved]
  split
  · split <;> rfl
  · rfl

end Player

end Rendezvous
