import Rendezvous.Proofs.Conductor.Exchange
import Rendezvous.Proofs.Hall.Accounts
import Rendezvous.Proofs.Hall.Records

/-!
# Replies of players

The errands of a session and the acknowledgements that are heard from it while it has its role, over
a run of moves (`errands`, `replies`), and the rules that the player and the other sessions keep
(`AnswersInOrder`, `SpeaksAlone`).
-/

namespace Rendezvous

/-- The acknowledgement that a message is. -/
def Uplink.ack? : Uplink → Option Conductor.Ack
  | .done => some .done
  | .commandFailed reason => some (.failed reason)
  | .addressReply node a => some (.address node a)
  | _ => none

namespace Hall

open Conductor

variable {h : Hall} {m : Move} {moves : List Move} {s : SessionId} {r : Role} {ack : Ack}

/-! ## Gathering over a run -/

/-- What the moves of a run give, one after the other. -/
def gathered {α : Type} (f : Hall → Move → List α) : Hall → List Move → List α
  | _, [] => []
  | h, m :: rest => f h m ++ gathered f (h.after m) rest

theorem gathered_append {α : Type} (f : Hall → Move → List α) (h : Hall)
    (moves moves' : List Move) :
    gathered f h (moves ++ moves') = gathered f h moves ++ gathered f (h.follow moves) moves' := by
  induction moves generalizing h with
  | nil => rfl
  | cons m rest ih =>
    rw [List.cons_append, gathered, gathered, ih, List.append_assoc]
    rfl

theorem gathered_concat {α : Type} (f : Hall → Move → List α) (h : Hall) (moves : List Move)
    (m : Move) : gathered f h (moves ++ [m]) = gathered f h moves ++ f (h.follow moves) m := by
  rw [gathered_append, gathered, gathered, List.append_nil]

/-- Something holds of every move of a run, given the moves before it. -/
def Throughout (moves : List Move) (p : List Move → Move → Prop) : Prop :=
  ∀ before m after, moves = before ++ m :: after → p before m

theorem throughout_iff {p : List Move → Move → Prop} :
    Throughout moves p ↔ ∀ i (hi : i < moves.length), p (moves.take i) moves[i] := by
  constructor
  · intro h i hi
    refine h _ _ (moves.drop (i + 1)) ?_
    rw [List.getElem_cons_drop hi, List.take_append_drop]
  · rintro h before m after rfl
    have hi := h before.length (by simp)
    simpa using hi

instance (p : List Move → Move → Prop) [∀ before m, Decidable (p before m)] :
    Decidable (Throughout moves p) :=
  decidable_of_iff _ throughout_iff.symm

theorem Throughout.init {p : List Move → Move → Prop} {rest : List Move}
    (h : Throughout (moves ++ rest) p) : Throughout moves p := by
  rintro before m' after rfl
  exact h before m' (after ++ rest) (by simp)

theorem Throughout.last {p : List Move → Move → Prop} (h : Throughout (moves ++ [m]) p) :
    p moves m :=
  h moves m [] rfl

theorem Throughout.concat {p : List Move → Move → Prop} (h : Throughout moves p)
    (hm : p moves m) : Throughout (moves ++ [m]) p := by
  intro before m' after heq
  rcases List.eq_nil_or_concat after with rfl | ⟨after, m'', rfl⟩
  · obtain ⟨rfl, hlast⟩ := List.append_inj' heq rfl
    cases hlast
    exact hm
  · have hconcat : moves ++ [m] = (before ++ m' :: after) ++ [m''] := by simpa using heq
    exact h before m' after (List.append_inj' hconcat rfl).1

/-! ## Errands and replies -/

/-- The acknowledgement that is heard in a move, with the session that it is heard from and the role
of that session. -/
def reply? (h : Hall) (m : Move) : Option (SessionId × Role × Ack) :=
  (h.heard? m).bind fun (s, role, u) => u.ack?.map (s, role, ·)

/-- The errand that a move makes for a session under its role. -/
def newErrands (s : SessionId) (r : Role) (h : Hall) : Move → List Errand
  | .issue cmd =>
    if cmd.node = r ∧ h.conductor.roster.binds s r = true then (h.conductor.errand? cmd).toList
    else []
  | _ => []

/-- The reply that is heard in a move from a session that has its role. -/
def newReplies (s : SessionId) (r : Role) (h : Hall) (m : Move) : List Ack :=
  match h.reply? m with
  | some (s', r', ack) =>
    if s' = s ∧ r' = r ∧ h.conductor.roster.binds s r = true then [ack] else []
  | none => []

/-- The errands of a session under its role, in the order in which they were issued. -/
def errands (s : SessionId) (r : Role) : Hall → List Move → List Errand :=
  gathered (newErrands s r)

/-- The replies that were heard from a session while it had its role. -/
def replies (s : SessionId) (r : Role) : Hall → List Move → List Ack :=
  gathered (newReplies s r)

theorem newErrands_of_errand {cmd : Command} {x : Errand}
    (hx : h.conductor.errand? cmd = some x) : newErrands s r h (.issue cmd) =
      if cmd.node = r ∧ h.conductor.roster.binds s r = true then [x] else [] := by
  unfold newErrands
  dsimp only
  rw [hx, Option.toList_some]

theorem newErrands_of_none (hx : ∀ cmd, m = .issue cmd → h.conductor.errand? cmd = none) :
    newErrands s r h m = [] := by
  unfold newErrands
  split
  · next cmd => rw [hx cmd rfl, Option.toList_none, ite_self]
  · rfl

theorem errands_concat (start : Hall) (moves : List Move) (m : Move) :
    errands s r start (moves ++ [m]) =
      errands s r start moves ++ newErrands s r (start.follow moves) m :=
  gathered_concat _ _ _ _

theorem replies_concat (start : Hall) (moves : List Move) (m : Move) :
    replies s r start (moves ++ [m]) =
      replies s r start moves ++ newReplies s r (start.follow moves) m :=
  gathered_concat _ _ _ _

/-- The messages that a player was sent and must answer. -/
def received (h : Hall) (s : SessionId) : List Downlink :=
  (((h.sessions.get? s).map (·.written)).getD []).filter Downlink.isConfirmed

/-- The player of a session answers every message that must be answered once, in the order in which
it receives them: each reply is an answer to the first message that has none yet. -/
def AnswersInOrder (s : SessionId) (r : Role) (start : Hall) (moves : List Move) : Prop :=
  Throughout moves fun before m => ∀ ack ∈ newReplies s r (start.follow before) m,
    ((start.follow before).received s)[(replies s r start before).length]?.any ack.answers = true

instance (s : SessionId) (r : Role) (start : Hall) (moves : List Move) :
    Decidable (AnswersInOrder s r start moves) :=
  inferInstanceAs (Decidable (Throughout moves _))

/-- As long as a session has its role, no other one acknowledges commands under this role. -/
def SpeaksAlone (s : SessionId) (r : Role) (start : Hall) (moves : List Move) : Prop :=
  Throughout moves fun before m => (start.follow before).conductor.roster.binds s r = true →
    ∀ x ∈ (start.follow before).reply? m, x.2.1 = r → x.1 = s

instance (s : SessionId) (r : Role) (start : Hall) (moves : List Move) :
    Decidable (SpeaksAlone s r start moves) :=
  inferInstanceAs (Decidable (Throughout moves _))

/-- When a reply comes to a command that has a verdict already, no other command waits for a reply
of this kind. -/
def LateRepliesAlone (s : SessionId) (r : Role) (start : Hall) (moves : List Move) : Prop :=
  Throughout moves fun before m => ∀ ack ∈ newReplies s r (start.follow before) m,
    ∀ x ∈ (errands s r start before)[(replies s r start before).length]?,
      (start.follow before).conductor.verdict? x.handle ≠ none →
      ∀ e ∈ (start.follow before).conductor.ledger.queue r, e.kind.expectedAck ≠ some ack.kind

instance (s : SessionId) (r : Role) (start : Hall) (moves : List Move) :
    Decidable (LateRepliesAlone s r start moves) :=
  inferInstanceAs (Decidable (Throughout moves _))

/-! ## Moves that are heard -/

theorem reply?_eq_some (hr : h.reply? m = some (s, r, ack)) :
    ∃ u, h.heard? m = some (s, r, u) ∧ u.ack? = some ack := by
  obtain ⟨⟨s', r', u⟩, hh, hu⟩ := Option.bind_eq_some_iff.mp hr
  obtain ⟨ack', hack, he⟩ := Option.map_eq_some_iff.mp hu
  cases he
  exact ⟨u, hh, hack⟩

/-- An operation that acknowledges comes from a reply. -/
theorem Origin.acknowledges (ho : Origin h m (.acknowledge r ack)) :
    ∃ s, h.reply? m = some (s, r, ack) := by
  generalize hop : Operation.acknowledge r ack = op at ho
  cases ho with
  | source hs =>
    cases hs with
    | @heard m s role u hheard =>
      refine ⟨s, ?_⟩
      unfold reply?
      rw [hheard]
      cases u <;> cases hop <;> rfl
    | _ => cases hop
  | arrival | greeting | conclusion => cases hop

theorem Origin.issues {cmd : Command} (ho : Origin h m (.issue cmd)) : m = .issue cmd := by
  generalize hop : Operation.issue cmd = op at ho
  cases ho with
  | source hs =>
    cases hs with
    | issue cmd' =>
      cases hop
      rfl
    | @heard m s role u => cases u <;> cases hop
    | _ => cases hop
  | arrival | greeting | conclusion => cases hop

theorem Origin.cancels {id : Nat} {after : Span} (ho : Origin h m (.cancelCommand r id after)) :
    m = .cancelCommand r id after := by
  generalize hop : Operation.cancelCommand r id after = op at ho
  cases ho with
  | source hs =>
    cases hs with
    | cancelCommand node id' after' =>
      cases hop
      rfl
    | @heard m s role u => cases u <;> cases hop
    | _ => cases hop
  | arrival | greeting | conclusion => cases hop

/-- The conductor itself is asked to issue a command, with nothing before. -/
theorem operates_exactly (h : Hall) (m : Move) : ∃ c₁ op, Quiet m.taker? h.conductor c₁ ∧
    Quiet m.taker? (c₁.after op) (h.after m).conductor ∧ Origin h m op ∧
    ∀ cmd, op = .issue cmd → c₁ = h.conductor := by
  by_cases hm : ∃ cmd, m = .issue cmd
  · obtain ⟨cmd, rfl⟩ := hm
    exact ⟨h.conductor, .issue cmd, .refl _, .refl _, .source (.issue cmd), fun _ _ => rfl⟩
  · obtain ⟨c₁, op, before, behind, horigin⟩ := operates h m
    refine ⟨c₁, op, before, behind, horigin, ?_⟩
    rintro cmd rfl
    exact absurd ⟨cmd, horigin.issues⟩ hm

/-- An acknowledgement that is refused does not end the session. -/
theorem isFatal_of_acknowledge {c : Conductor} {e : SessionError}
    (he : (c.acknowledge r ack).2 = .error e) : e.isFatal = false := by
  unfold acknowledge at he
  split at he
  · next hclaim =>
    cases he
    exact isFatal_of_checkClaim hclaim
  · split at he
    · cases he
      rfl
    · cases he

/-- A reply is one acknowledgement to the conductor, whatever comes of it. -/
theorem after_of_reply (hr : h.reply? m = some (s, r, ack)) :
    Quiet m.taker? (h.conductor.acknowledge r ack).1 (h.after m).conductor := by
  obtain ⟨u, hh, hu⟩ := reply?_eq_some hr
  obtain ⟨x, x', -, -, -, hafter⟩ := after_of_heard hh
  have hperform : perform h.conductor s r u = h.conductor.acknowledge r ack := by
    cases u <;> cases hu <;> rfl
  have hcond : (h.adjustSession s fun _ => x').conductor = h.conductor := rfl
  rw [hafter]
  unfold handle
  rw [hcond, hperform]
  cases hack : h.conductor.acknowledge r ack with
  | mk c' result =>
    cases result with
    | ok _ => exact .refl c'
    | error e =>
      have hfatal : e.isFatal = false := isFatal_of_acknowledge (by rw [hack])
      dsimp only
      rw [hfatal]
      exact quiet_count c' (fun t => { t with protocolErrors := t.protocolErrors + 1 })
        fun _ => rfl

/-! ## Bindings -/

/-- A role that is bound behind a move was bound in the same way before, or it was free and the
session that it is bound to has just said who it is. -/
theorem member_after (h : Hall) (m : Move) {b : Member SessionId}
    (hb : (h.after m).conductor.roster.members.get? r = some b) :
    h.conductor.roster.members.get? r = some b ∨
      h.conductor.roster.members.get? r = none ∧
        (∃ due, h.stage? b.handle = some (.awaitingHello due)) ∧
        (h.after m).conductor.ledger = h.conductor.ledger := by
  have hshift := shift h m
  generalize h.after m = h' at hshift hb ⊢
  cases hshift with
  | works source before behind =>
    rw [behind.members] at hb
    rw [← before.members]
    exact Or.inl (members_of_plain source.plain hb)
  | attaches arrival before conductor =>
    rw [conductor] at hb
    rw [← before.members]
    exact Or.inl hb
  | registers waits conductor accepted =>
    obtain ⟨hfree, -, hledger, -⟩ := handshake_ok accepted
    rw [conductor] at hb ⊢
    rcases members_handshake accepted hb with ⟨rfl, rfl⟩ | hb
    · exact Or.inr ⟨hfree, waits, hledger⟩
    · exact Or.inl hb
  | concludes runs before behind =>
    rw [behind.members] at hb
    rw [← before.members]
    exact Or.inl (members_sessionClosed hb).1
  | kills runs quiet =>
    rw [quiet.members] at hb
    exact Or.inl hb

/-- A session that has a role behind a move had it before, or has just said who it is. -/
theorem binds_after (m : Move) (hb : (h.after m).conductor.roster.binds s r = true) :
    h.conductor.roster.binds s r = true ∨
      h.conductor.roster.members.get? r = none ∧
        (∃ due, h.stage? s = some (.awaitingHello due)) ∧
        (h.after m).conductor.ledger = h.conductor.ledger := by
  obtain ⟨b, hget, rfl⟩ := Roster.binds_eq_true_iff.mp hb
  rcases member_after h m hget with hold | hnew
  · exact Or.inl (Roster.binds_eq_true_iff.mpr ⟨b, hold, rfl⟩)
  · exact Or.inr hnew

/-- A session loses its role only as the role becomes free. -/
theorem free_after (m : Move) (hb : h.conductor.roster.binds s r = true)
    (hlost : (h.after m).conductor.roster.binds s r = false) :
    (h.after m).conductor.roster.members.get? r = none := by
  obtain ⟨b, hget, hs⟩ := Roster.binds_eq_true_iff.mp hb
  refine Option.eq_none_iff_forall_ne_some.mpr fun b' hb' => ?_
  rcases member_after h m hb' with hold | ⟨hnone, -⟩
  · rw [hget] at hold
    cases hold
    rw [Roster.binds_eq_true_iff.mpr ⟨b, hb', hs⟩] at hlost
    cases hlost
  · rw [hget] at hnone
    cases hnone

/-! ## Before a session has a role -/

/-- The session has not said yet who it is. -/
def IsEarly (h : Hall) (s : SessionId) : Prop :=
  h.stage? s = none ∨ ∃ due, h.stage? s = some (.awaitingHello due)

theorem Orderly.unbound_of_early (ho : h.Orderly) (he : h.IsEarly s) (r : Role) :
    h.conductor.roster.binds s r = false := by
  refine Bool.eq_false_iff.mpr fun hb => ?_
  obtain ⟨b, hget, rfl⟩ := Roster.binds_eq_true_iff.mp hb
  rcases ho.bound r b hget with hst | hst <;> rcases he with he | ⟨due, he⟩ <;>
    rw [hst] at he <;> cases he

theorem early_before (ho : h.Orderly) (m : Move) (he : (h.after m).IsEarly s) : h.IsEarly s := by
  have hadvances := advances ho m s
  unfold IsEarly at he ⊢
  generalize h.stage? s = stage, (h.after m).stage? s = stage' at hadvances he ⊢
  cases hadvances with
  | rests => exact he
  | arrives => exact Or.inl rfl
  | registers | ends | dies => rcases he with he | ⟨due, he⟩ <;> cases he

/-- A session that is active behind a move was active before, or had not said who it is. -/
theorem active_before (ho : h.Orderly) (m : Move)
    (hst : (h.after m).stage? s = some (.active r)) :
    h.stage? s = some (.active r) ∨ h.IsEarly s := by
  have hadvances := advances ho m s
  unfold IsEarly
  rw [hst] at hadvances
  generalize h.stage? s = stage at hadvances ⊢
  cases hadvances with
  | rests => exact Or.inl rfl
  | registers due => exact Or.inr (Or.inr ⟨due, rfl⟩)

theorem newErrands_of_unbound (hb : h.conductor.roster.binds s r = false) (m : Move) :
    newErrands s r h m = [] := by
  unfold newErrands
  split
  · exact if_neg fun hc => Bool.eq_false_iff.mp hb hc.2
  · rfl

theorem newReplies_of_unbound (hb : h.conductor.roster.binds s r = false) (m : Move) :
    newReplies s r h m = [] := by
  unfold newReplies
  split
  · exact if_neg fun hc => Bool.eq_false_iff.mp hb hc.2.2
  · rfl

/-- A session has no errands and its player does not reply before it has said who it is. -/
theorem nil_of_early (settings : Settings) (s : SessionId) (r : Role) (moves : List Move)
    (he : (follow { conductor := { settings } } moves).IsEarly s) :
    errands s r { conductor := { settings } } moves = [] ∧
      replies s r { conductor := { settings } } moves = [] := by
  induction moves using List.reverseRecOn with
  | nil => exact ⟨rfl, rfl⟩
  | append_singleton moves m ih =>
    have ho := orderly_follow (orderly_new settings) moves
    rw [follow_concat] at he
    have hearly := early_before ho m he
    have hunbound := ho.unbound_of_early hearly r
    obtain ⟨herrands, hreplies⟩ := ih hearly
    rw [errands_concat, replies_concat, herrands, hreplies, newErrands_of_unbound hunbound,
      newReplies_of_unbound hunbound]
    exact ⟨rfl, rfl⟩

end Hall

end Rendezvous
