import Rendezvous.Proofs.Hall.Attendance

/-!
# Late closes

A session may close when its role is free already, or bound to the session of a player that came
back. All that goes by the role then stays as it is: only the binding to the session itself would
give the role up (`sessionClosed_of_unbound`). What the session leaves behind are its place among
the connections and the requests that it has parked (`late_close`).
-/

namespace Rendezvous

namespace Conductor

variable {c : Conductor} {s : SessionId} {r : Role}

/-- The close of a session that its role is not bound to. -/
theorem sessionClosed_of_unbound (hb : c.roster.binds s r = false) :
    c.sessionClosed s (some r) = { c with
      connections := c.connections.erase s
      roster := c.roster.dropInterest (· = s) } :=
  sessionClosed_of_not_owned hb

/-- The roster is the same at the second close: no request of the session is parked any more. -/
theorem sessionClosed_again (hr : c.roster.Sound) (hn : c.connections.Nodup)
    (hb : c.roster.binds s r = false) :
    (c.sessionClosed s (some r)).sessionClosed s (some r) = c.sessionClosed s (some r) := by
  have hb' : (c.sessionClosed s (some r)).roster.binds s r = false := by
    rw [sessionClosed_of_unbound hb]
    exact hb
  have hconnections : (c.connections.erase s).erase s = c.connections.erase s :=
    List.erase_of_not_mem hn.not_mem_erase
  have hroster : (c.roster.dropInterest (· = s)).dropInterest (· = s) =
      c.roster.dropInterest (· = s) := by
    refine (hr.dropInterest _).dropInterest_eq fun role a ha => ?_
    rw [Roster.parked_dropInterest hr.ordered] at ha
    simpa using (List.mem_filter.mp ha).2
  rw [sessionClosed_of_unbound hb', sessionClosed_of_unbound hb]
  dsimp only
  rw [hconnections, hroster]

end Conductor

namespace Hall

open Conductor

/-- In every run, the close of a session that its role is not bound to leaves everything as it is
but its place among the connections and the requests that it has parked. A second close changes
nothing. -/
theorem late_close (settings : Settings) (moves : List Move) (s : SessionId) (r : Role)
    (hb : (follow { conductor := { settings } } moves).conductor.roster.binds s r = false) :
    let c := (follow { conductor := { settings } } moves).conductor
    let c' := c.sessionClosed s (some r)
    c' = { c with
      connections := c'.connections
      roster := { c.roster with waiting := c'.roster.waiting } } ∧
    c'.connections = c.connections.filter (· ≠ s) ∧
    (∀ node, c'.roster.parked node = (c.roster.parked node).filter (· ≠ s)) ∧
    c'.sessionClosed s (some r) = c' := by
  intro c c'
  have ht : (follow { conductor := { settings } } moves).Tidy := tidy_follow settings moves
  have heq : c' = { c with
      connections := c.connections.erase s
      roster := c.roster.dropInterest (· = s) } := sessionClosed_of_unbound hb
  refine ⟨?_, ?_, ?_, sessionClosed_again ht.roster ht.nodup hb⟩
  · rw [heq]
    rfl
  · rw [heq]
    refine (ht.nodup.erase_eq_filter s).trans (List.filter_congr fun s' _ => ?_)
    exact (decide_not (p := s' = s)).symm
  · intro node
    rw [heq]
    refine (Roster.parked_dropInterest ht.roster.ordered _ node).trans ?_
    exact List.filter_congr fun s' _ => (decide_not (p := s' = s)).symm

/-- A player has come back under its role as its first session closes: the barrier, the command and
the request that go with the second one stay. -/
theorem late_close_rebound :
    let r : Role := ⟨"r"⟩
    let x : Role := ⟨"x"⟩
    let moves : List Move := [
      .connect, .deliver 0 (Frame.ofBody (Uplink.hello "r" default).encode), .read 0,
      .deliver 0 (Frame.ofBody (Uplink.getAddress x).encode), .read 0,
      .remove r,
      .connect, .deliver 1 (Frame.ofBody (Uplink.hello "r" default).encode), .read 1,
      .deliver 1 (Frame.ofBody (Uplink.getAddress x).encode), .read 1,
      .openBarrier "start" [r] none, .issue (.terminate r .graceful)]
    let c := (follow { conductor := { settings := {} } } moves).conductor
    let c' := c.sessionClosed 0 (some r)
    c'.sessionClosed 0 (some r) = c' ∧
      c.roster.binds 0 r = false ∧ c.roster.parked x = [0, 1] ∧ c'.roster.parked x = [1] ∧
      c'.connections = [1] ∧ c'.roster.binds 1 r = true ∧
      c'.gate.awaited.map (·.name) = some "start" ∧ c'.ledger.pendingFor r = 1 := by
  intro r x moves c c'
  have hb : c.roster.binds 0 r = false := by decide +kernel
  obtain ⟨-, -, -, hagain⟩ := late_close {} moves 0 r hb
  exact ⟨hagain, by decide +kernel⟩

end Hall

end Rendezvous
