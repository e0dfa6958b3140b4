import Rendezvous.Proofs.Hall.Move

/-!
# Order in the hall

What ties the roster and the lines to the sessions at any time (`Orderly`): a role is bound to the
session that named it, a line is open only as long as its session runs, and nobody is told of
barriers before it has a role. `orderly_follow` says that every move keeps this.
-/

namespace Rendezvous

namespace Conductor

variable {c c' : Conductor} {r : Role} {s : SessionId}

/-- How roster and lines go with the stages of sessions, of which those from `next` on are still to
come. -/
structure Orderly (c : Conductor) (stage? : SessionId → Option Stage) (next : SessionId) :
    Prop where
  sound : c.Sound
  /-- Of a session to come nothing is there. -/
  new : ∀ s, next ≤ s → stage? s = none ∧ (c.line s).isOpen = false ∧ c.spoken s = []
  /-- An open line is that of a running session. -/
  runs : ∀ s, (c.line s).isOpen = true →
    (∃ due, stage? s = some (.awaitingHello due)) ∨ ∃ r, stage? s = some (.active r)
  /-- A role is bound to the session that is active under it, or was when it was stopped. -/
  bound : ∀ r m, c.roster.members.get? r = some m →
    stage? m.handle = some (.active r) ∨ stage? m.handle = some .killed
  /-- A session without a name has heard of no barrier. -/
  unheard : ∀ s due, stage? s = some (.awaitingHello due) → c.spoken s = []

variable {stage? : SessionId → Option Stage} {next : SessionId}

theorem Sound.of_quiet (h : c.Sound) (hq : Quiet t c c') : c'.Sound where
  gate := hq.gate ▸ h.gate
  bound b hb r hr := by
    rw [hq.gate] at hb
    rw [hq.members]
    exact h.bound b hb r hr
  waiters := by rw [hq.desk.waiters, hq.gate, h.waiters]
  timer := by rw [hq.desk.timer, hq.gate, h.timer]
  past o ho := by
    rw [hq.desk.outcomes] at ho
    rw [frontier, hq.gate]
    exact h.past o ho

theorem Orderly.of_quiet (h : c.Orderly stage? next) (hq : Quiet t c c') :
    c'.Orderly stage? next where
  sound := h.sound.of_quiet hq
  new s hs := by
    obtain ⟨hst, hl, hsp⟩ := h.new s hs
    exact ⟨hst, hq.shut s hl, by rw [hq.spoken, hsp]⟩
  runs s hs := by
    refine h.runs s (Bool.not_eq_false _ ▸ fun hl => ?_)
    rw [hq.shut s hl] at hs
    cases hs
  bound r m hm := by
    rw [hq.members] at hm
    exact h.bound r m hm
  unheard s due hs := by rw [hq.spoken, h.unheard s due hs]

/-- A session that waits for a name has no role. -/
theorem Orderly.unbound (h : c.Orderly stage? next) {due : Nat}
    (hs : stage? s = some (.awaitingHello due)) (r : Role) : c.roster.binds s r = false := by
  refine Bool.eq_false_iff.mpr ?_
  intro hb
  obtain ⟨m, hm, rfl⟩ := Roster.binds_eq_true_iff.mp hb
  rcases h.bound r m hm with hb | hb
  · rw [hs] at hb
    cases hb
  · rw [hs] at hb
    cases hb

/-- An active session has the role it is active under, and no other one. -/
theorem Orderly.eq_of_binds (h : c.Orderly stage? next) {r x : Role}
    (hs : stage? s = some (.active r)) (hb : c.roster.binds s x = true) : x = r := by
  obtain ⟨m, hm, rfl⟩ := Roster.binds_eq_true_iff.mp hb
  rcases h.bound x m hm with hb | hb
  · rw [hs] at hb
    cases hb
    rfl
  · rw [hs] at hb
    cases hb

/-- An operation that tends no line and binds no role. -/
theorem Orderly.after (h : c.Orderly stage? next) (op : Operation)
    (ht : ∀ s, op.tends? ≠ some s) (hm : ∀ r m, (c.after op).roster.members.get? r = some m →
      c.roster.members.get? r = some m) : (c.after op).Orderly stage? next where
  sound := sound_after h.sound op
  new s hn := by
    obtain ⟨hst, hl, hsp⟩ := h.new s hn
    obtain ⟨hsp', hl'⟩ := spoken_after_of_shut op (ht s) hl
    exact ⟨hst, hl', hsp'.trans hsp⟩
  runs s hopen := by
    rw [isOpen_after c op (ht s)] at hopen
    exact h.runs s hopen
  bound r m hr := h.bound r m (hm r m hr)
  unheard s due hw := by
    rw [spoken_after_of_unbound op (ht s) (h.unbound hw)]
    exact h.unheard s due hw

variable {stage?' : SessionId → Option Stage}

theorem Orderly.attach (h : c.Orderly stage? next)
    (hst : ∃ due, stage?' next = some (.awaitingHello due))
    (ho : ∀ s, s ≠ next → stage?' s = stage? s) :
    (c.attach next).Orderly stage?' (next + 1) where
  sound := sound_after h.sound (.attach next)
  new s hn := by
    have hne : s ≠ next := fun he => Nat.not_succ_le_self next (he ▸ hn)
    have hattach : (Operation.attach next).tends? ≠ some s :=
      fun he => hne (Option.some.inj he).symm
    obtain ⟨hold, hl, hsp⟩ := h.new s (Nat.le_of_succ_le hn)
    obtain ⟨hsp', hl'⟩ := spoken_after_of_shut (.attach next) hattach hl
    exact ⟨(ho s hne).trans hold, hl', hsp'.trans hsp⟩
  runs s hopen := by
    by_cases hs : s = next
    · rw [hs]
      exact Or.inl hst
    · have hattach : (Operation.attach next).tends? ≠ some s :=
        fun he => hs (Option.some.inj he).symm
      rw [ho s hs]
      exact h.runs s ((isOpen_after c _ hattach).symm.trans hopen)
  bound r m hm := by
    have hold := h.bound r m hm
    -- no role is bound to a session that is still to come
    have hne : m.handle ≠ next := by
      intro he
      rw [he, (h.new next (Nat.le_refl _)).1] at hold
      rcases hold with hold | hold <;> cases hold
    rwa [ho _ hne]
  unheard s due hw := by
    by_cases hs : s = next
    · rw [hs, spoken, line_attach, if_pos rfl]
      rfl
    · have hattach : (Operation.attach next).tends? ≠ some s :=
        fun he => hs (Option.some.inj he).symm
      rw [ho s hs] at hw
      exact (spoken_after_of_unbound (.attach next) hattach (h.unbound hw)).trans
        (h.unheard s due hw)

theorem Orderly.handshake (h : c.Orderly stage? next) {name : String} {address : Address}
    {role : Role} {due : Nat} (hw : stage? s = some (.awaitingHello due))
    (hok : (c.handshake s name address).2 = .ok role) (hst : stage?' s = some (.active role))
    (ho : ∀ s', s' ≠ s → stage?' s' = stage? s') :
    (c.handshake s name address).1.Orderly stage?' next where
  sound := sound_after h.sound (.handshake s name address)
  new s' hn := by
    obtain ⟨hold, hl, hsp⟩ := h.new s' hn
    obtain ⟨hsp', hl'⟩ := spoken_after_of_shut (.handshake s name address) nofun hl
    have hne : s' ≠ s := by
      rintro rfl
      rw [hold] at hw
      cases hw
    exact ⟨(ho s' hne).trans hold, hl', hsp'.trans hsp⟩
  runs s' hopen := by
    by_cases hs : s' = s
    · rw [hs]
      exact Or.inr ⟨role, hst⟩
    · rw [ho s' hs]
      exact h.runs s' ((isOpen_after c (.handshake s name address) nofun).symm.trans hopen)
  bound r m hm := by
    rcases members_handshake hok hm with ⟨rfl, hs⟩ | hm
    · rw [hs]
      exact Or.inl hst
    · -- the session that waited for a name had no role before
      have hne : m.handle ≠ s := by
        intro he
        have hfree := h.unbound hw r
        rw [Roster.binds_eq_true_iff.mpr ⟨m, hm, he⟩] at hfree
        cases hfree
      rw [ho _ hne]
      exact h.bound r m hm
  unheard s' due' hw' := by
    have hne : s' ≠ s := by
      rintro rfl
      rw [hst] at hw'
      cases hw'
    rw [ho s' hne] at hw'
    have hfree := h.unbound hw'
    exact (spoken_after_of_unbound (.handshake s name address) nofun hfree).trans
      (h.unheard s' due' hw')

/-- A session whose line is shut stops; it may keep its role only if it was stopped. -/
theorem Orderly.stop (h : c.Orderly stage? next) (hs : stage? s ≠ none)
    (ho : ∀ s', s' ≠ s → stage?' s' = stage? s') (hl : (c.line s).isOpen = false)
    (hw : ∀ due, stage?' s ≠ some (.awaitingHello due))
    (hb : ∀ r m, c.roster.members.get? r = some m → m.handle = s → stage?' s = some .killed) :
    c.Orderly stage?' next where
  sound := h.sound
  new s' hn := by
    obtain ⟨hold, hl', hsp⟩ := h.new s' hn
    have hne : s' ≠ s := fun he => hs (he ▸ hold)
    exact ⟨(ho s' hne).trans hold, hl', hsp⟩
  runs s' hopen := by
    have hne : s' ≠ s := by
      rintro rfl
      rw [hl] at hopen
      cases hopen
    rw [ho s' hne]
    exact h.runs s' hopen
  bound r m hm := by
    by_cases he : m.handle = s
    · rw [he]
      exact Or.inr (hb r m hm he)
    · rw [ho _ he]
      exact h.bound r m hm
  unheard s' due hw' := by
    have hne : s' ≠ s := fun he => hw due (he ▸ hw')
    rw [ho s' hne] at hw'
    exact h.unheard s' due hw'

end Conductor

open Conductor

namespace Hall

variable {h h' : Hall} {s : SessionId} {m : Move}

/-- How the roster and the lines of a hall go with its sessions. -/
def Orderly (h : Hall) : Prop := h.conductor.Orderly h.stage? h.nextSession

theorem orderly_new (settings : Settings) : Orderly { conductor := { settings } } where
  sound := Conductor.sound_new settings
  new _ _ := ⟨rfl, rfl, rfl⟩
  runs := nofun
  bound := nofun
  unheard := nofun

/-- A session that is known is not the next one. -/
theorem Orderly.ne_of_known (ho : h.Orderly) (hs : h.stage? s ≠ none) : s ≠ h.nextSession := by
  rintro rfl
  exact hs (ho.new h.nextSession (Nat.le_refl _)).1

theorem Orderly.ne_nextSession {x : Session} (ho : h.Orderly) (hx : h.sessions.get? s = some x) :
    s ≠ h.nextSession := by
  refine ho.ne_of_known ?_
  rw [stage?, hx]
  exact Option.some_ne_none _

theorem Runs.stage?_ne_none {role : Option Role} (h' : h.Runs s role) : h.stage? s ≠ none := by
  rcases h' with ⟨-, due, hs⟩ | ⟨r, -, hs⟩ <;> rw [hs] <;> nofun

theorem Orderly.shift (ho : h.Orderly) (hs : Shift h m h') : h'.Orderly := by
  unfold Orderly at ho ⊢
  cases hs with
  | @works c₁ op source before behind stages next =>
    have hstages : h'.stage? = h.stage? := funext stages
    rw [hstages, next]
    exact ((ho.of_quiet before).after op (Operation.tends?_of_plain source.plain)
      fun r m => members_of_plain source.plain).of_quiet behind
  | attaches arrival before conductor stage others next =>
    rw [conductor, next]
    exact (ho.of_quiet before).attach stage others
  | registers waits conductor accepted stage others next =>
    obtain ⟨due, hw⟩ := waits
    rw [conductor, next]
    exact ho.handshake hw accepted stage others
  | @concludes s role c₁ runs before behind stage others shut next =>
    have hclosed := ((ho.of_quiet before).after (.sessionClosed s role) nofun
      fun r m hm => (members_sessionClosed hm).1).of_quiet behind
    rw [next]
    obtain ⟨result, hended⟩ := stage
    refine hclosed.stop runs.stage?_ne_none others shut ?_ ?_
    · intro due hw
      rw [hended] at hw
      cases hw
    · -- a role that is still bound to the session would be the one that it has just given up
      intro r m hm hs
      exfalso
      rw [behind.members] at hm
      obtain ⟨hold, hgone⟩ := members_sessionClosed hm
      have hbound := (ho.of_quiet before).bound r m hold
      rw [hs] at hbound
      rcases runs with ⟨-, due, hst⟩ | ⟨r', hr', hst⟩
      · rw [hst] at hbound
        rcases hbound with hb | hb <;> cases hb
      · rw [hst] at hbound
        rcases hbound with hb | hb
        · cases hb
          exact hgone hr' hs
        · cases hb
  | kills runs quiet stage others shut next =>
    rw [next]
    refine (ho.of_quiet quiet).stop runs.stage?_ne_none others shut ?_ fun _ _ _ _ => stage
    intro due hw
    rw [stage] at hw
    cases hw

theorem orderly_after (ho : h.Orderly) (m : Move) : (h.after m).Orderly :=
  ho.shift (Hall.shift h m)

theorem orderly_follow (ho : h.Orderly) (moves : List Move) : (follow h moves).Orderly := by
  induction moves generalizing h with
  | nil => exact ho
  | cons m rest ih => exact ih (orderly_after ho m)

/-! ## How sessions go on -/

/-- What a move does to the stage of a session. -/
inductive Advances (h : Hall) (s : SessionId) : Option Stage → Option Stage → Prop where
  | rests (stage : Option Stage) : Advances h s stage stage
  | arrives (new : s = h.nextSession) (due : Nat) : Advances h s none (some (.awaitingHello due))
  | registers (due : Nat) (role : Role) :
      Advances h s (some (.awaitingHello due)) (some (.active role))
  | ends (stage : Option Stage) (result : Except SessionError Unit) :
      Advances h s stage (some (.ended result))
  | dies (stage : Option Stage) : Advances h s stage (some .killed)

theorem advances (ho : h.Orderly) (m : Move) (s : SessionId) :
    Advances h s (h.stage? s) ((h.after m).stage? s) := by
  have hshift := Hall.shift h m
  generalize h.after m = h' at hshift ⊢
  cases hshift with
  | works source before behind stages =>
    rw [stages]
    exact .rests _
  | attaches arrival before conductor stage others =>
    by_cases hs : s = h.nextSession
    · obtain ⟨due, hst⟩ := stage
      rw [hs, hst, (ho.new h.nextSession (Nat.le_refl _)).1]
      exact .arrives rfl due
    · rw [others s hs]
      exact .rests _
  | @registers s' name address role waits conductor accepted stage others =>
    by_cases hs : s = s'
    · obtain ⟨due, hst⟩ := waits
      rw [hs, hst, stage]
      exact .registers due role
    · rw [others s hs]
      exact .rests _
  | @concludes s' role c₁ runs before behind stage others =>
    by_cases hs : s = s'
    · obtain ⟨result, hst⟩ := stage
      rw [hs, hst]
      exact .ends _ result
    · rw [others s hs]
      exact .rests _
  | @kills s' role runs quiet stage others =>
    by_cases hs : s = s'
    · rw [hs, stage]
      exact .dies _
    · rw [others s hs]
      exact .rests _

/-- A session that is known stays known. -/
theorem known_after (ho : h.Orderly) (hs : h.stage? s ≠ none) (m : Move) :
    (h.after m).stage? s ≠ none := by
  have hadvances := advances ho m s
  generalize h.stage? s = stage, (h.after m).stage? s = stage' at hs hadvances ⊢
  cases hadvances with
  | rests => exact hs
  | arrives | registers | ends | dies => nofun

end Hall

end Rendezvous
