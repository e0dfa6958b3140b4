import Rendezvous.Proofs.Conductor.Spoken

/-!
# What no barrier and no command notices

Sessions count, take items off their lines and shut them. None of this changes the gate, what is
kept for an opening, the roster, the open connections, the outstanding commands and the verdicts on
others, the counters of barriers and commands, or what was queued for a session, and none of it
shuts the conductor down (`Quiet`).
-/

namespace Rendezvous

/-- The counters of barriers and commands alone. -/
def Tally.accounts (t : Tally) : Tally :=
  { t with connections := 0, rejectedConnections := 0, handshakes := 0, protocolErrors := 0 }

namespace Conductor

variable {c c' c'' : Conductor} {t : Option SessionId}

/-- No barrier, no binding, no parked request, no connection and no command has changed, nothing was
queued, and no line was opened. One session may have taken items off its line. -/
structure Quiet (t : Option SessionId) (c c' : Conductor) : Prop where
  gate : c'.gate = c.gate
  desk : SameDesk c c'
  roster : c'.roster = c.roster
  closing : c'.closing = c.closing
  connections : c'.connections = c.connections
  ledger : c'.ledger = c.ledger
  verdicts : c'.verdicts = c.verdicts
  accounts : c'.tally.accounts = c.tally.accounts
  queued : ∀ s, (c'.line s).queued = (c.line s).queued
  taken : ∀ s, t ≠ some s → (c'.line s).taken = (c.line s).taken
  shut : ∀ s, (c.line s).isOpen = false → (c'.line s).isOpen = false

theorem Quiet.spoken (h : Quiet t c c') (s : SessionId) : c'.spoken s = c.spoken s := by
  unfold Conductor.spoken
  rw [h.queued]

theorem Quiet.members (h : Quiet t c c') : c'.roster.members = c.roster.members := by
  rw [h.roster]

theorem Quiet.refl (c : Conductor) : Quiet t c c :=
  ⟨rfl, .refl c, rfl, rfl, rfl, rfl, rfl, rfl, fun _ => rfl, fun _ _ => rfl, fun _ h => h⟩

theorem Quiet.trans (h : Quiet t c c') (h' : Quiet t c' c'') : Quiet t c c'' where
  gate := h'.gate.trans h.gate
  desk := h.desk.trans h'.desk
  roster := h'.roster.trans h.roster
  closing := h'.closing.trans h.closing
  connections := h'.connections.trans h.connections
  ledger := h'.ledger.trans h.ledger
  verdicts := h'.verdicts.trans h.verdicts
  accounts := h'.accounts.trans h.accounts
  queued s := (h'.queued s).trans (h.queued s)
  taken s hs := (h'.taken s hs).trans (h.taken s hs)
  shut s hs := h'.shut s (h.shut s hs)

theorem quiet_count (c : Conductor) (f : Tally → Tally)
    (hf : ∀ t : Tally, (f t).accounts = t.accounts) : Quiet t c { c with tally := f c.tally } :=
  ⟨rfl, ⟨rfl, rfl, rfl, rfl⟩, rfl, rfl, rfl, rfl, rfl, hf c.tally, fun _ => rfl, fun _ _ => rfl,
    fun _ h => h⟩

/-- The line of a session behind an item that a session takes. -/
theorem line_take (c : Conductor) (s s' : SessionId) :
    (({ c with lines := c.lines.adjust s' Line.advance } : Conductor).line s).queued =
        (c.line s).queued ∧
      (({ c with lines := c.lines.adjust s' Line.advance } : Conductor).line s).isOpen =
        (c.line s).isOpen ∧
      (s ≠ s' → (({ c with lines := c.lines.adjust s' Line.advance } : Conductor).line s).taken =
        (c.line s).taken) := by
  unfold line
  rw [Table.get?_adjust]
  by_cases h : s = s'
  · subst h
    rw [if_pos rfl]
    cases c.lines.get? s with
    | none => exact ⟨rfl, rfl, fun hne => absurd rfl hne⟩
    | some l => exact ⟨rfl, rfl, fun hne => absurd rfl hne⟩
  · rw [if_neg h]
    exact ⟨rfl, rfl, fun _ => rfl⟩

theorem line_take_self {c : Conductor} {s : SessionId} {item : Outbound}
    (h : (c.line s).next? = some item) :
    ({ c with lines := c.lines.adjust s Line.advance } : Conductor).line s =
      (c.line s).advance := by
  unfold line at h ⊢
  rw [Table.get?_adjust, if_pos rfl]
  cases hl : c.lines.get? s with
  | none =>
    rw [hl] at h
    cases h
  | some l => rfl

theorem quiet_take (c : Conductor) (s : SessionId) :
    Quiet (some s) c { c with lines := c.lines.adjust s Line.advance } where
  gate := rfl
  desk := ⟨rfl, rfl, rfl, rfl⟩
  roster := rfl
  closing := rfl
  connections := rfl
  ledger := rfl
  verdicts := rfl
  accounts := rfl
  queued s' := (line_take c s' s).1
  taken s' hs := (line_take c s' s).2.2 fun h => hs (h ▸ rfl)
  shut s' h := (line_take c s' s).2.1.trans h

theorem line_shut (c : Conductor) (s s' : SessionId) :
    ({ c with lines := c.lines.adjust s' Line.shut } : Conductor).line s =
      if s = s' then (c.line s).shut else c.line s :=
  line_adjust c s s' Line.shut rfl

theorem quiet_shut (c : Conductor) (s : SessionId) :
    Quiet t c { c with lines := c.lines.adjust s Line.shut } where
  gate := rfl
  desk := ⟨rfl, rfl, rfl, rfl⟩
  roster := rfl
  closing := rfl
  connections := rfl
  ledger := rfl
  verdicts := rfl
  accounts := rfl
  queued s' := by
    rw [line_shut]
    split <;> rfl
  taken s' _ := by
    rw [line_shut]
    split <;> rfl
  shut s' h := by
    rw [line_shut]
    split
    · rfl
    · exact h

end Conductor

end Rendezvous
