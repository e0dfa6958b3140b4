import Rendezvous.Data.Table
import Rendezvous.Fault.Command

/-!
# Outstanding commands

Commands that were sent to a node and wait for an acknowledgement stand in a queue of that node.
A node answers in the order it was asked, so an acknowledgement belongs to the oldest command of the
queue that waits for one of its kind. No two commands of one kind are outstanding for a node.
-/

namespace Rendezvous

/-- An outstanding command and what its sender keeps with it. -/
structure LedgerEntry (τ : Type) where
  kind : CommandKind
  id : Nat
  token : τ
deriving DecidableEq, Repr, Inhabited

/-- Why a command is not recorded. -/
inductive LedgerRefusal where
  | alreadyPending (node : Role) (kind : CommandKind)
  | unconfirmed (kind : CommandKind)
deriving DecidableEq, Repr, Inhabited

namespace LedgerRefusal

/-- The name of a refusal. -/
def kindName : LedgerRefusal → String
  | alreadyPending .. => "AlreadyPending"
  | unconfirmed _ => "Unconfirmed"

/-- The wording of a refusal. -/
def message : LedgerRefusal → String
  | alreadyPending node kind => kind.name ++ " already pending for " ++ node.name
  | unconfirmed kind => kind.name ++ " is not a confirmed command"

end LedgerRefusal

/-- The queues of outstanding commands, oldest first, by node; between two operations no queue in
it is empty. The next id, too, is a number that 64 bits hold (`Hall.counters_follow`). -/
structure Ledger (τ : Type) where
  queues : Table Role (List (LedgerEntry τ)) := []
  nextId : Nat := 1
deriving DecidableEq, Repr, Inhabited

namespace Ledger

variable {τ : Type}

/-- The queue of a node. -/
def queue (l : Ledger τ) (node : Role) : List (LedgerEntry τ) := (l.queues.get? node).getD []

/-- Replaces the queue of a node. -/
def setQueue (l : Ledger τ) (node : Role) (q : List (LedgerEntry τ)) : Ledger τ :=
  { l with queues := if q = [] then l.queues.erase node else l.queues.put node q }

/-- Gives a node a queue, an empty one if it has none yet. -/
def ensureQueue (l : Ledger τ) (node : Role) : Ledger τ :=
  if l.queues.has node then l else { l with queues := l.queues.put node [] }

/-- Records a command; answers with its id. The node is given a queue before it is looked for a
command of the same kind in it. -/
def insert (l : Ledger τ) (node : Role) (kind : CommandKind) (token : τ) :
    Ledger τ × Except LedgerRefusal Nat :=
  if kind.expectedAck = none then (l, .error (.unconfirmed kind))
  else
    let l := l.ensureQueue node
    if (l.queue node).any (·.kind = kind) then (l, .error (.alreadyPending node kind))
    else
      let l' := l.setQueue node (l.queue node ++ [⟨kind, l.nextId, token⟩])
      ({ l' with nextId := l.nextId + 1 }, .ok l.nextId)

/-- Takes the first entry that has the property out of the queue of a node. -/
def takeFirst (l : Ledger τ) (node : Role) (p : LedgerEntry τ → Bool) :
    Ledger τ × Option (LedgerEntry τ) :=
  match (l.queue node).find? p with
  | none => (l, none)
  | some e => (l.setQueue node ((l.queue node).eraseP p), some e)

/-- Takes out the oldest command of a node that waits for this kind of acknowledgement. -/
def complete (l : Ledger τ) (node : Role) (ack : AckKind) : Ledger τ × Option (LedgerEntry τ) :=
  l.takeFirst node fun e => e.kind.expectedAck = some ack

/-- Takes out one command. -/
def cancel (l : Ledger τ) (node : Role) (id : Nat) : Ledger τ × Option (LedgerEntry τ) :=
  l.takeFirst node fun e => e.id = id

/-- Takes out every command of a node, oldest first. -/
def drainNode (l : Ledger τ) (node : Role) : List (LedgerEntry τ) × Ledger τ :=
  (l.queue node, l.setQueue node [])

/-- The outstanding commands in the order of the nodes, oldest first for each. -/
def toList (l : Ledger τ) : List (Role × LedgerEntry τ) :=
  l.queues.flatMap fun (node, q) => q.map (node, ·)

/-- Takes out every command. -/
def drainAll (l : Ledger τ) : List (Role × LedgerEntry τ) × Ledger τ :=
  (l.toList, { l with queues := [] })

/-- The number of outstanding commands of a node. -/
def pendingFor (l : Ledger τ) (node : Role) : Nat := (l.queue node).length

/-- The number of outstanding commands. -/
def size (l : Ledger τ) : Nat := l.queues.total List.length

/-- Whether nothing is outstanding. -/
def isEmpty (l : Ledger τ) : Bool := l.queues.isEmpty

end Ledger

end Rendezvous
