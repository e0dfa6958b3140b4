import Rendezvous.Proofs.Conductor.Books
import Rendezvous.Proofs.Hall.Course

/-!
# The accounts of a run

In every run of moves the books of the conductor balance (`books_follow`), a command that was
recorded is outstanding or has a verdict (`accounted_follow`), and an opening is awaited or has an
outcome (`concluded_follow`). When the wait for an outstanding command ends, the command ends with
it (`CommandsBalance.cancelled`). `accounts_follow` puts this together.
-/

namespace Rendezvous.Hall

open Conductor

variable {h : Hall} {m : Move} {moves : List Move} {node : Role} {e : LedgerEntry Unit}

/-! ## Books -/

theorem books_after (ho : h.Orderly) (hb : h.conductor.Books) (m : Move) :
    (h.after m).conductor.Books := by
  obtain ⟨c₁, op, before, behind, horigin⟩ := operates h m
  have hsound : c₁.Sound := ho.sound.of_quiet before
  exact ((hb.of_quiet before).after hsound op horigin.ne_count).of_quiet behind

theorem books_follow (settings : Settings) (moves : List Move) :
    (follow { conductor := { settings } } moves).conductor.Books := by
  induction moves using List.reverseRecOn with
  | nil => exact books_new settings
  | append_singleton moves m ih =>
    rw [follow_concat]
    exact books_after (orderly_follow (orderly_new settings) moves) ih m

/-! ## Commands -/

theorem accounted_after (hb : h.conductor.Books) (ha : h.conductor.Accounted node e) (m : Move) :
    (h.after m).conductor.Accounted node e := by
  obtain ⟨c₁, op, before, behind, horigin⟩ := operates h m
  have hdeal := deal (hb.of_quiet before).commands.ledger op horigin.ne_count
  exact ((ha.of_quiet before).deal hdeal).of_quiet behind

theorem accounted_follow (ho : h.Orderly) (hb : h.conductor.Books)
    (ha : h.conductor.Accounted node e) (moves : List Move) :
    (follow h moves).conductor.Accounted node e := by
  induction moves generalizing h with
  | nil => exact ha
  | cons m rest ih => exact ih (orderly_after ho m) (books_after ho hb m) (accounted_after hb ha m)

/-- A command that is accepted and told to its node is recorded. -/
theorem accounted_of_issued {c : Conductor} {cmd : Command} {handle : CommandHandle}
    (hk : cmd.kind ≠ .remove) (hok : (c.issue cmd).2 = .ok handle) :
    ∃ id, handle = ⟨cmd.node, cmd.kind, some id⟩ ∧
      (c.issue cmd).1.Accounted cmd.node ⟨cmd.kind, id, ()⟩ := by
  have hissuing := issuing c cmd
  generalize c.issue cmd = r at hissuing hok ⊢
  cases hissuing with
  | removes hremove => exact absurd hremove hk
  | refused | undone => cases hok
  | @sends _ _ id _ _ _ _ recorded =>
    cases hok
    refine ⟨id, rfl, Or.inl ?_⟩
    refine (Ledger.queue_of_insert recorded cmd.node).symm ▸ ?_
    rw [if_pos rfl]
    exact List.mem_append_right _ (List.mem_singleton.mpr rfl)

/-! ## Barriers -/

/-- An opening is awaited, or its outcome was delivered. -/
def Concluded (c : Conductor) (epoch : Epoch) : Prop :=
  c.gate.awaited.map (·.epoch) = some epoch ∨ c.outcome? epoch ≠ none

theorem concluded_after {epoch : Epoch} (ho : h.Orderly) (hc : Concluded h.conductor epoch)
    (m : Move) : Concluded (h.after m).conductor epoch := by
  rcases hc with ha | hout
  · cases course ho m with
    | rests awaited => exact Or.inl (awaited ▸ ha)
    | arrives awaited _ awaits =>
      rw [awaited] at ha
      exact Or.inl (awaits ▸ ha)
    | opens idle =>
      rw [idle] at ha
      cases ha
    | ends awaited _ outcomes =>
      rw [awaited] at ha
      obtain rfl := Option.some.inj ha
      refine Or.inr ?_
      rw [outcome?_of_ends ho.sound awaited outcomes]
      nofun
  · obtain ⟨o, hsome⟩ := Option.ne_none_iff_exists'.mp hout
    refine Or.inr ?_
    rw [outcome?_after ho hsome]
    nofun

theorem concluded_follow {epoch : Epoch} (ho : h.Orderly) (hc : Concluded h.conductor epoch)
    (moves : List Move) : Concluded (follow h moves).conductor epoch := by
  induction moves generalizing h with
  | nil => exact hc
  | cons m rest ih => exact ih (orderly_after ho m) (concluded_after ho hc m)

/-- No outcome of the awaited barrier was delivered. -/
theorem outcome?_of_awaited {c : Conductor} {epoch : Epoch} (hc : c.Sound)
    (ha : c.gate.awaited.map (·.epoch) = some epoch) : c.outcome? epoch = none := by
  obtain ⟨b, hb, rfl⟩ := Option.map_eq_some_iff.mp ha
  refine List.find?_eq_none.mpr fun o ho he => ?_
  have hpast := hc.past o ho
  rw [frontier_of_awaited hb, of_decide_eq_true he] at hpast
  exact Nat.lt_irrefl _ hpast

/-- What the opening of a barrier comes to: it takes the next epoch, is awaited, and has its timer
armed if it has a deadline. -/
theorem opens_of_accepted {c : Conductor} {name : String} {roles : List Role}
    {timeout : Option Span} {epoch : Epoch}
    (hok : (c.openBarrier name roles timeout).2 = .ok epoch) :
    ∃ b : Awaited, c.gate.awaited = none ∧ b.epoch = epoch ∧ epoch = ⟨c.gate.nextEpoch⟩ ∧
      b.timeout = timeout.or c.settings.defaultTimeout ∧
      (c.openBarrier name roles timeout).1.gate = ⟨some b, c.gate.nextEpoch + 1⟩ ∧
      ((c.openBarrier name roles timeout).1.timer = match b.timeout with
        | some t => some ⟨b.epoch, timerDue c.clock t⟩
        | none => c.timer) ∧
      (c.openBarrier name roles timeout).1.outcomes = c.outcomes := by
  have hopens : c.opens (.openBarrier name roles timeout) = true := by
    simp only [Conductor.opens, hok]
    rfl
  obtain ⟨hidle, heffects⟩ := idle_of_opens hopens
  cases turn_openBarrier c name roles timeout with
  | rests he => exact absurd he heffects
  | arrives hop => cases hop
  | @opens b _ _ hop _ hok' _ _ he _ _ hd hg _ _ _ _ ht ho =>
    cases hop
    rw [hok] at hok'
    cases hok'
    exact ⟨b, hidle, rfl, he, hd, hg, ht, ho⟩
  | ends ha =>
    rw [hidle] at ha
    cases ha

/-- A barrier that is opened is awaited. -/
theorem concluded_of_opened {c : Conductor} {name : String} {roles : List Role}
    {timeout : Option Span} {epoch : Epoch}
    (hok : (c.openBarrier name roles timeout).2 = .ok epoch) :
    Concluded (c.openBarrier name roles timeout).1 epoch := by
  obtain ⟨b, -, he, -, -, hg, -⟩ := opens_of_accepted hok
  refine Or.inl ?_
  rw [hg, Option.map_some, he]

/-! ## The accounts -/

/-- In every run the accounts balance. Of the barriers that were opened, all have succeeded or
failed but the awaited one, and of the commands that were issued, all were acknowledged or have
failed but the outstanding ones. Each of those is for a registered node, no two for one node are of
the same kind, and none is a `remove`. The verdict on an issued command is missing exactly as long
as it is outstanding, and the outcome of an opening exactly as long as the opening is awaited. With
the end of the wait for it, an outstanding command is outstanding no more, and its verdict is that
the wait has ended. -/
theorem accounts_follow (settings : Settings) (moves : List Move) :
    let start : Hall := { conductor := { settings } }
    let c := (follow start moves).conductor
    c.tally.barriersOpened = c.tally.barriersSucceeded + c.tally.barriersFailed +
      (if c.gate.awaited.isSome then 1 else 0) ∧
    c.tally.commandsIssued = c.tally.commandsAcked + c.tally.commandsFailed +
      c.ledger.toList.length ∧
    (∀ x ∈ c.ledger.toList, c.roster.isRegistered x.1 = true ∧ x.2.kind ≠ .remove) ∧
    (c.ledger.toList.map fun x => (x.1, x.2.kind)).Nodup ∧
    (∀ before cmd after handle, moves = before ++ .issue cmd :: after → cmd.kind ≠ .remove →
      ((follow start before).conductor.issue cmd).2 = .ok handle →
      ∃ id, handle = ⟨cmd.node, cmd.kind, some id⟩ ∧
        (c.verdict? handle = none ↔ (cmd.node, ⟨cmd.kind, id, ()⟩) ∈ c.ledger.toList)) ∧
    (∀ node kind id span, (node, ⟨kind, id, ()⟩) ∈ c.ledger.toList →
      let c' := (follow start (moves ++ [.cancelCommand node id span])).conductor
      (∀ x, x ∈ c'.ledger.toList ↔ x ∈ c.ledger.toList ∧ x ≠ (node, ⟨kind, id, ()⟩)) ∧
      c'.verdict? ⟨node, kind, some id⟩ = some (.error (.timeout node kind span))) ∧
    ∀ before name roles timeout after epoch,
      moves = before ++ .openBarrier name roles timeout :: after →
      ((follow start before).conductor.openBarrier name roles timeout).2 = .ok epoch →
      (c.outcome? epoch = none ↔ c.gate.awaited.map (·.epoch) = some epoch) := by
  intro start c
  have horderly : ∀ moves, (follow start moves).Orderly := orderly_follow (orderly_new settings)
  have hbooks : c.Books := books_follow settings moves
  have hcommands := hbooks.commands
  refine ⟨hbooks.barriers, ?_, ?_, hcommands.ledger.nodup_kinds, ?_, ?_, ?_⟩
  · rw [Ledger.length_toList]
    exact hcommands.issued
  · rintro ⟨node, e⟩ hx
    have he := (Ledger.mem_toList hcommands.ledger.ordered).mp hx
    refine ⟨?_, fun hk => hcommands.ledger.confirmed node e he (by rw [hk]; rfl)⟩
    rw [Roster.isRegistered, Table.has_eq_isSome]
    exact hcommands.registered node (List.ne_nil_of_mem he)
  · intro before cmd after handle hmoves hk hok
    obtain ⟨id, rfl, ha⟩ := accounted_of_issued hk hok
    have hfollow : follow start moves =
        follow ((follow start before).after (.issue cmd)) after := by
      rw [hmoves, follow_append]
      rfl
    have haccounted : (follow start moves).conductor.Accounted cmd.node ⟨cmd.kind, id, ()⟩ := by
      rw [hfollow]
      exact accounted_follow (orderly_after (horderly before) (.issue cmd))
        (books_after (horderly before) (books_follow settings before) (.issue cmd)) ha after
    exact ⟨id, rfl, verdict?_eq_none_iff hcommands haccounted⟩
  · intro node kind id span hx
    rw [follow_concat]
    exact hcommands.cancelled ((Ledger.mem_toList hcommands.ledger.ordered).mp hx) span
  · intro before name roles timeout after epoch hmoves hok
    have hfollow : follow start moves =
        follow ((follow start before).after (.openBarrier name roles timeout)) after := by
      rw [hmoves, follow_append]
      rfl
    have hconcluded : Concluded (follow start moves).conductor epoch := by
      rw [hfollow]
      exact concluded_follow
        (orderly_after (horderly before) (.openBarrier name roles timeout))
        (concluded_of_opened hok) after
    refine ⟨fun hnone => ?_, outcome?_of_awaited (horderly moves).sound⟩
    exact hconcluded.resolve_right fun hne => hne hnone

end Rendezvous.Hall
