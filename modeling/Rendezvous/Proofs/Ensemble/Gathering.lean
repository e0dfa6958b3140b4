import Rendezvous.Proofs.Ensemble.Basic
import Rendezvous.Proofs.Hall.Course

/-!
# What the log holds of a barrier

At any time the log holds the opening of the awaited barrier and behind it every arrival, and for
each outcome the opening and behind it the publication; if it is a success, every member arrived in
between (`Gathering`). Every move of the hall keeps this (`Gathering.after`), whatever else is
logged meanwhile (`Gathering.append`).
-/

namespace Rendezvous

variable {log : List Event} {h : Hall} {c : Conductor} {b : Awaited} {name : String}

/-- The conductor handles the arrival of a role at a barrier of this name. -/
def Enters (events : List Event) (name : String) (role : Role) : Prop :=
  ∃ s timeout claimed, .handled s role (.enterBarrier name timeout claimed) ∈ events

theorem Enters.append {events : List Event} {role : Role} (h : Enters events name role)
    (more : List Event) : Enters (events ++ more) name role := by
  obtain ⟨s, timeout, claimed, hmem⟩ := h
  exact ⟨s, timeout, claimed, List.mem_append_left more hmem⟩

theorem Enters.behind {events : List Event} {role : Role} (h : Enters events name role)
    (before : List Event) : Enters (before ++ events) name role := by
  obtain ⟨s, timeout, claimed, hmem⟩ := h
  exact ⟨s, timeout, claimed, List.mem_append_right before hmem⟩

/-- A barrier was opened, and these are the events since. -/
def OpenedBefore (log : List Event) (b : Awaited) (events : List Event) : Prop :=
  ∃ before, log = before ++ .opened b.blank :: events

/-- A barrier was opened and its end was published since; with success only if every member had
entered in between. -/
def Concluded (log : List Event) (b : Awaited) (failure : Option Reason) : Prop :=
  ∃ events behind, OpenedBefore log b (events ++ .published (b.outcome failure) :: behind) ∧
    (failure = none → ∀ r ∈ b.expected, Enters events b.name r)

/-- What the log holds of the awaited barrier and of those that have ended. -/
structure Gathering (log : List Event) (c : Conductor) : Prop where
  awaited : ∀ b, c.gate.awaited = some b →
    ∃ events, OpenedBefore log b events ∧ ∀ r ∈ b.arrived, Enters events b.name r
  published : ∀ o ∈ c.outcomes, ∃ b failure, o = b.outcome failure ∧ Concluded log b failure

theorem OpenedBefore.append {events : List Event} (h : OpenedBefore log b events)
    (more : List Event) : OpenedBefore (log ++ more) b (events ++ more) := by
  obtain ⟨before, rfl⟩ := h
  exact ⟨before, by rw [List.append_assoc, List.cons_append]⟩

theorem Concluded.append {failure : Option Reason} (h : Concluded log b failure)
    (more : List Event) : Concluded (log ++ more) b failure := by
  obtain ⟨events, behind, hopened, henters⟩ := h
  refine ⟨events, behind ++ more, ?_, henters⟩
  have hmore := hopened.append more
  rwa [List.append_assoc, List.cons_append] at hmore

theorem Gathering.append (hg : Gathering log c) (more : List Event) :
    Gathering (log ++ more) c where
  awaited b hb := by
    obtain ⟨events, hopened, henters⟩ := hg.awaited b hb
    exact ⟨events ++ more, hopened.append more, fun r hr => (henters r hr).append more⟩
  published o ho := by
    obtain ⟨b, failure, he, hconcluded⟩ := hg.published o ho
    exact ⟨b, failure, he, hconcluded.append more⟩

theorem gathering_nil (settings : Settings) : Gathering [] { settings } := ⟨nofun, nofun⟩

theorem publishing_of_outcomes {m : Hall.Move} {outcomes : List Outcome}
    (ho : (h.after m).conductor.outcomes = h.conductor.outcomes ++ outcomes) :
    h.publishing m = outcomes.map .published := by
  rw [Hall.publishing, ho, List.drop_left]

theorem enters_of_heard {m : Hall.Move} {s : SessionId} {role : Role} {timeout : Option Span}
    {claimed : Option Role} (hs : h.heard? m = some (s, role, .enterBarrier name timeout claimed)) :
    Enters (h.handling m) name role := by
  rw [Hall.handling, hs]
  exact ⟨s, timeout, claimed, List.mem_cons_self⟩

/-- A barrier that a move opens is in the log at once. -/
theorem openedBefore_of_opens {m : Hall.Move} (hi : h.conductor.gate.awaited = none)
    (ha : (h.after m).conductor.gate.awaited = some b) (harrived : b.arrived = [])
    (ho : (h.after m).conductor.outcomes = h.conductor.outcomes) :
    OpenedBefore (log ++ h.events m) b [] := by
  have hblank : b.blank = b := by
    cases b
    cases harrived
    rfl
  refine ⟨log ++ h.handling m, ?_⟩
  rw [Hall.events, Hall.opening, hi, ha,
    publishing_of_outcomes (ho.trans (List.append_nil _).symm), hblank, List.append_assoc]
  rfl

/-- A barrier that a move ends is in the log with its end. If it is released, the arrival that the
move handles is the last one that was missing. -/
theorem Gathering.concluded (hg : Gathering log h.conductor) {m : Hall.Move}
    {failure : Option Reason} (ha : h.conductor.gate.awaited = some b)
    (ho : (h.after m).conductor.outcomes = h.conductor.outcomes ++ [b.outcome failure])
    (hreleased : failure = none → ∃ s role timeout claimed,
      h.heard? m = some (s, role, .enterBarrier b.name timeout claimed) ∧
        ∀ r ∈ b.expected, r = role ∨ r ∈ b.arrived) :
    Concluded (log ++ h.events m) b failure := by
  obtain ⟨events, hopened, henters⟩ := hg.awaited b ha
  refine ⟨events ++ h.handling m, [], ?_, ?_⟩
  · rw [Hall.events, Hall.opening, ha, publishing_of_outcomes ho, List.append_assoc]
    exact hopened.append _
  · intro hf r hr
    obtain ⟨s, role, timeout, claimed, hheard, hall⟩ := hreleased hf
    rcases hall r hr with rfl | hr
    · exact (enters_of_heard hheard).behind events
    · exact (henters r hr).append _

/-- Every move of the hall keeps what the log holds of barriers, when its events are added. -/
theorem Gathering.after (hg : Gathering log h.conductor) (ho : h.Orderly) (m : Hall.Move) :
    Gathering (log ++ h.events m) (h.after m).conductor := by
  have hmore := hg.append (h.events m)
  cases Hall.course ho m with
  | rests awaited outcomes =>
    constructor
    · intro b hb
      rw [awaited] at hb
      exact hmore.awaited b hb
    · intro o hm
      rw [outcomes] at hm
      exact hmore.published o hm
  | @arrives b s role timeout claimed awaited heard awaits outcomes =>
    constructor
    · intro b' hb
      rw [awaits] at hb
      cases hb
      obtain ⟨events, hopened, henters⟩ := hg.awaited b awaited
      refine ⟨events ++ h.events m, hopened.append _, ?_⟩
      intro r hr
      rcases Role.mem_insert.mp hr with rfl | hr
      · exact ((enters_of_heard heard).append _).behind events
      · exact (henters r hr).append _
    · intro o hm
      rw [outcomes] at hm
      exact hmore.published o hm
  | @opens b idle awaits arrived outcomes =>
    constructor
    · intro b' hb
      rw [awaits] at hb
      cases hb
      refine ⟨[], openedBefore_of_opens idle awaits arrived outcomes, ?_⟩
      rw [arrived]
      nofun
    · intro o hm
      rw [outcomes] at hm
      exact hmore.published o hm
  | @ends b failure awaited idle outcomes released =>
    constructor
    · intro b' hb
      rw [idle] at hb
      cases hb
    · intro o hm
      rw [outcomes] at hm
      rcases List.mem_append.mp hm with hm | hm
      · exact hmore.published o hm
      · exact ⟨b, failure, List.mem_singleton.mp hm, hg.concluded awaited outcomes released⟩

end Rendezvous
