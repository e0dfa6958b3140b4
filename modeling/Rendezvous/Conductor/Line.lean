import Rendezvous.Wire.Message

/-!
# Lines

A line is the queue of what a session still has to write to its player. It keeps everything that was
ever queued, and how much of that the session has taken. After the session is gone the line is shut
and nothing can be queued any more.
-/

namespace Rendezvous

/-- The number of a connection; no two connections have the same. -/
abbrev SessionId := Nat

/-- What a session is told. -/
inductive Outbound where
  /-- Write this message. -/
  | message (m : Downlink)
  /-- Close the connection. -/
  | close
deriving DecidableEq, Repr, Inhabited

/-- The queue of a session. -/
structure Line where
  /-- Everything that was queued, in order. -/
  queued : List Outbound := []
  /-- How many items the session has taken. -/
  taken : Nat := 0
  isOpen : Bool := true
deriving DecidableEq, Repr, Inhabited

namespace Line

/-- Queues an item, if the line is open. -/
def push (l : Line) (o : Outbound) : Line :=
  if l.isOpen then { l with queued := l.queued ++ [o] } else l

/-- The item that is taken next. -/
def next? (l : Line) : Option Outbound := l.queued[l.taken]?

/-- Takes the next item. -/
def advance (l : Line) : Line := { l with taken := l.taken + 1 }

/-- The items that are not taken yet. -/
def waiting (l : Line) : List Outbound := l.queued.drop l.taken

/-- Shuts the line. -/
def shut (l : Line) : Line := { l with isOpen := false }

end Line

end Rendezvous
