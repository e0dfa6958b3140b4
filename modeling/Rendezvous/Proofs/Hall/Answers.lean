import Rendezvous.Proofs.Hall.Replies

/-!
# Replies and what they answer

In a run in which the player of a session answers in order and no other session speaks for its role,
the messages that the player receives are those of the errands of the session, in their order
(`received_of_active`), and its replies go to the errands that they answer (`exchange_follow`). If
no wait for a command of the role ends, every reply decides the command that it answers
(`replies_decide`). A reply that comes after the end of the wait is ignored as long as no other
command waits for a reply of its kind (`late_replies_ignored`); if one does, the late reply decides
that one (`late_reply_decides_another`).
-/

namespace Rendezvous.Hall

open Conductor

variable {h : Hall} {m : Move} {moves : List Move} {s : SessionId} {r : Role} {ack : Ack}
  {waits : Nat → Span → Prop}

/-! ## What the player receives -/

/-- A move queues for a session that has one role at most the messages of its errands, or it opens
its line. -/
theorem demands_step (m : Move) (hu : ∀ r', h.conductor.roster.binds s r' = true → r' = r) :
    (h.after m).conductor.demands s =
        h.conductor.demands s ++ (newErrands s r h m).map (·.message) ∨
      s = h.nextSession ∧ (h.after m).conductor.demands s = [] := by
  by_cases hm : ∃ cmd, m = .issue cmd
  · obtain ⟨cmd, rfl⟩ := hm
    refine Or.inl ?_
    show (h.conductor.issue cmd).1.demands s = _
    cases hx : h.conductor.errand? cmd with
    | none =>
      have hnew : newErrands s r h (.issue cmd) = [] := by
        refine newErrands_of_none ?_
        rintro _ ⟨⟩
        exact hx
      rw [demands_issue_of_none hx, hnew, List.map_nil, List.append_nil]
    | some x =>
      rw [(issued_of_errand? hx).demands s, newErrands_of_errand hx]
      by_cases hb : h.conductor.roster.binds s cmd.node = true
      · have hn := hu _ hb
        rw [if_pos hb, if_pos ⟨hn, hn ▸ hb⟩]
        rfl
      · have hn : ¬(cmd.node = r ∧ h.conductor.roster.binds s r = true) :=
          fun hn => hb (hn.1 ▸ hn.2)
        rw [if_neg hb, if_neg hn]
        rfl
  · have hnew : newErrands s r h m = [] :=
      newErrands_of_none fun cmd hcmd => absurd ⟨cmd, hcmd⟩ hm
    obtain ⟨c₁, op, before, behind, horigin⟩ := operates h m
    have hbehind : (h.after m).conductor.demands s = (c₁.after op).demands s :=
      demands_of_queued (behind.queued s)
    by_cases ht : op.tends? = some s
    · obtain ⟨rfl, hs⟩ := horigin.tends ht
      refine Or.inr ⟨hs, hbehind.trans ?_⟩
      rw [demands, Conductor.after, line_attach, if_pos rfl]
      rfl
    · refine Or.inl ?_
      have hop : ∀ cmd, op ≠ .issue cmd := by
        rintro cmd rfl
        exact hm ⟨cmd, horigin.issues⟩
      rw [hbehind, demands_after c₁ s op ht hop, demands_of_queued (before.queued s), hnew,
        List.map_nil, List.append_nil]

/-- The messages that a session is to write, and its player to answer, are those of its errands. -/
theorem demands_follow (settings : Settings) (moves : List Move)
    (hst : (follow { conductor := { settings } } moves).stage? s = some (.active r) ∨
      (follow { conductor := { settings } } moves).IsEarly s) :
    (follow { conductor := { settings } } moves).conductor.demands s =
      (errands s r { conductor := { settings } } moves).map (·.message) := by
  induction moves using List.reverseRecOn with
  | nil => rfl
  | append_singleton moves m ih =>
    have ho := orderly_follow (orderly_new settings) moves
    rw [follow_concat] at hst ⊢
    have hst₀ := hst.elim (active_before ho m) fun he => Or.inr (early_before ho m he)
    have hu : ∀ r', (follow { conductor := { settings } } moves).conductor.roster.binds s r' = true
        → r' = r := by
      intro r' hb
      rcases hst₀ with hactive | hearly
      · exact Orderly.eq_of_binds ho hactive hb
      · rw [ho.unbound_of_early hearly] at hb
        cases hb
    rw [errands_concat, List.map_append, ← ih hst₀]
    rcases demands_step m hu with hstep | ⟨rfl, hnil⟩
    · exact hstep
    · -- the line of a session that is only taken in has nothing on it
      have hearly : (follow { conductor := { settings } } moves).IsEarly
          (follow { conductor := { settings } } moves).nextSession :=
        Or.inl (ho.new _ (Nat.le_refl _)).1
      rw [hnil, ih (Or.inr hearly), (nil_of_early settings _ r moves hearly).1,
        newErrands_of_unbound (ho.unbound_of_early hearly r)]
      rfl

theorem filter_messages (items : List Outbound) :
    (messages items).filter Downlink.isConfirmed = items.filterMap Outbound.demand? := by
  induction items with
  | nil => rfl
  | cons o rest ih =>
    cases o with
    | close => exact ih
    | message d =>
      show (d :: messages rest).filter Downlink.isConfirmed = _
      cases hd : d.isConfirmed <;> simp [Outbound.demand?, hd, ih]

/-- The player of an active session receives the messages of its errands, in their order. -/
theorem received_of_active (settings : Settings) (moves : List Move)
    (hst : (follow { conductor := { settings } } moves).stage? s = some (.active r)) :
    (follow { conductor := { settings } } moves).received s <+:
      (errands s r { conductor := { settings } } moves).map (·.message) := by
  rw [← demands_follow settings moves (Or.inl hst)]
  obtain ⟨x, hx, -⟩ := Option.map_eq_some_iff.mp hst
  have hwritten := (posted_follow settings moves s x hx).written
  unfold received demands
  rw [hx, ← filter_messages]
  exact hwritten.filter _

/-! ## One move -/

/-- A reply is heard from an active session that has its role. -/
theorem reply_of_new (hmem : ack ∈ newReplies s r h m) :
    h.reply? m = some (s, r, ack) ∧ h.conductor.roster.binds s r = true ∧
      newReplies s r h m = [ack] := by
  unfold newReplies at hmem ⊢
  split at hmem
  · next s' r' ack' hr =>
    split at hmem
    · next hc =>
      obtain ⟨rfl, rfl, hb⟩ := hc
      obtain rfl := List.mem_singleton.mp hmem
      exact ⟨hr, hb, by simp [hb]⟩
    · cases hmem
  · cases hmem

theorem stage?_of_reply (hr : h.reply? m = some (s, r, ack)) :
    m = .read s ∧ h.stage? s = some (.active r) := by
  obtain ⟨u, hh, -⟩ := reply?_eq_some hr
  obtain ⟨hm, x, -, hx, hst, -⟩ := heard?_some hh
  exact ⟨hm, by rw [stage?, hx, Option.map_some, hst]⟩

/-- What issuing a command does to the errands of a session. -/
theorem exchange_of_issue {errands : List Errand} {replies : List Ack} {cmd : Command} {x : Errand}
    (hb : h.conductor.Books) (hx : Exchange waits s r h.conductor errands replies)
    (hsome : h.conductor.errand? cmd = some x) :
    Exchange waits s r (h.conductor.issue cmd).1 (errands ++ newErrands s r h (.issue cmd))
      replies := by
  have hissued := issued_of_errand? hsome
  rw [newErrands_of_errand hsome]
  split
  · next hc => exact hx.issue hb.commands hissued hc.1 hc.2
  · next hc =>
    rw [List.append_nil]
    exact hx.issue_elsewhere hissued hc

/-- What a move that makes no errand does to those of a session which is not given a role in it, if
no reply to them is heard. -/
theorem exchange_of_operation {errands : List Errand} {replies : List Ack}
    (hb : h.conductor.Books) (hx : Exchange waits s r h.conductor errands replies) (m : Move)
    (hnone : ∀ cmd, m = .issue cmd → h.conductor.errand? cmd = none)
    (hbound : (h.after m).conductor.roster.binds s r = true → h.conductor.roster.binds s r = true)
    (hwait : ∀ id after, m = .cancelCommand r id after → waits id after)
    (halone : h.conductor.roster.binds s r = true → ∀ x ∈ h.reply? m, x.2.1 = r → x.1 = s)
    (hsilent : newReplies s r h m = []) :
    Exchange waits s r (h.after m).conductor errands replies := by
  obtain ⟨c₁, op, before, behind, horigin, hexact⟩ := operates_exactly h m
  have hb₁ := hb.of_quiet before
  have hbinds₁ : c₁.roster.binds s r = h.conductor.roster.binds s r :=
    binds_of_members before.members
  have hbinds₂ : (c₁.after op).roster.binds s r = (h.after m).conductor.roster.binds s r :=
    (binds_of_members behind.members).symm
  refine Exchange.of_quiet ?_ behind
  have hdeal := deal hb₁.commands.ledger op horigin.ne_count
  have hbalance := hb₁.commands.deal hdeal
  cases hdeal with
  | @issues cmd id operation accepted =>
    -- a command that is recorded is an errand
    subst operation
    obtain rfl := hexact cmd rfl
    exact absurd (hnone cmd horigin.issues) (errand?_of_accepted accepted)
  | ends ended causes ledger _ verdicts =>
    refine (hx.of_quiet before).ends hb₁.commands.ledger causes ledger verdicts ?_ ?_ ?_ ?_
    · rw [hbinds₁, hbinds₂]
      exact hbound
    · intro hheld hlost
      rw [hbinds₁] at hheld
      rw [hbinds₂] at hlost
      have hfree := free_after m hheld hlost
      rw [behind.members] at hfree
      exact hbalance.queue_eq_nil hfree
    · rintro ack rfl
      obtain ⟨s', hr⟩ := horigin.acknowledges
      rw [hbinds₁]
      refine Bool.eq_false_iff.mpr fun hheld => ?_
      obtain rfl : s' = s := halone hheld _ hr rfl
      unfold newReplies at hsilent
      rw [hr] at hsilent
      simp [hheld] at hsilent
    · rintro id after rfl
      exact hwait id after horigin.cancels

/-- What a move does to the errands of a session if no reply to them is heard in it. -/
theorem exchange_of_silence {errands : List Errand} {replies : List Ack} (hb : h.conductor.Books)
    (hx : Exchange waits s r h.conductor errands replies)
    (hearly : h.IsEarly s → errands = [] ∧ replies = []) (m : Move)
    (hwait : ∀ id after, m = .cancelCommand r id after → waits id after)
    (halone : h.conductor.roster.binds s r = true → ∀ x ∈ h.reply? m, x.2.1 = r → x.1 = s)
    (hsilent : newReplies s r h m = []) :
    Exchange waits s r (h.after m).conductor (errands ++ newErrands s r h m) replies := by
  by_cases hbound : (h.after m).conductor.roster.binds s r = true →
      h.conductor.roster.binds s r = true
  · by_cases hm : ∃ cmd x, m = .issue cmd ∧ h.conductor.errand? cmd = some x
    · obtain ⟨cmd, x, rfl, hsome⟩ := hm
      exact exchange_of_issue hb hx hsome
    · have hnone : ∀ cmd, m = .issue cmd → h.conductor.errand? cmd = none := by
        intro cmd hcmd
        exact Option.eq_none_iff_forall_ne_some.mpr fun x hsome => hm ⟨cmd, x, hcmd, hsome⟩
      rw [newErrands_of_none hnone, List.append_nil]
      exact exchange_of_operation hb hx m hnone hbound hwait halone hsilent
  · -- the session has just been given its role
    obtain ⟨hbound', hunbound⟩ := Classical.not_imp.mp hbound
    rcases binds_after m hbound' with hold | ⟨hfree, hwaits, hledger⟩
    · exact absurd hold hunbound
    · obtain ⟨rfl, rfl⟩ := hearly (Or.inr hwaits)
      rw [newErrands_of_unbound (Bool.eq_false_iff.mpr hunbound)]
      refine exchange_nil fun _ => ?_
      rw [hledger]
      exact hb.commands.queue_eq_nil hfree

/-! ## Runs -/

/-- The waits for commands of a role that end in a run. -/
def EndedWaits (r : Role) (moves : List Move) (id : Nat) (after : Span) : Prop :=
  .cancelCommand r id after ∈ moves

/-- A reply in a run in which the player answers in order: it answers the first errand that has no
reply yet. -/
theorem answers_next (settings : Settings)
    (hr : ack ∈ newReplies s r (follow { conductor := { settings } } moves) m)
    (ha : ((follow { conductor := { settings } } moves).received s)[
      (replies s r { conductor := { settings } } moves).length]?.any ack.answers = true) :
    ∃ x, (errands s r { conductor := { settings } } moves)[
      (replies s r { conductor := { settings } } moves).length]? = some x ∧
      ack.answers x.message = true := by
  obtain ⟨hreply, -, -⟩ := reply_of_new hr
  rw [Option.any_eq_true] at ha
  obtain ⟨d, hd, hanswers⟩ := ha
  obtain ⟨hlt, rfl⟩ := List.getElem?_eq_some_iff.mp hd
  have hissued := List.prefix_iff_getElem?.mp
    (received_of_active settings moves (stage?_of_reply hreply).2) _ hlt
  rw [List.getElem?_map] at hissued
  obtain ⟨x, hx, hmessage⟩ := Option.map_eq_some_iff.mp hissued
  exact ⟨x, hx, by rw [hmessage, hanswers]⟩

theorem exchange_follow (settings : Settings) (moves : List Move)
    (halone : SpeaksAlone s r { conductor := { settings } } moves)
    (horder : AnswersInOrder s r { conductor := { settings } } moves)
    (hlate : LateRepliesAlone s r { conductor := { settings } } moves) :
    Exchange (EndedWaits r moves) s r (follow { conductor := { settings } } moves).conductor
      (errands s r { conductor := { settings } } moves)
      (replies s r { conductor := { settings } } moves) := by
  induction moves using List.reverseRecOn with
  | nil => exact exchange_nil fun _ => rfl
  | append_singleton moves m ih =>
    have hb := books_follow settings moves
    have hmore : ∀ id after, EndedWaits r moves id after → EndedWaits r (moves ++ [m]) id after :=
      fun id after hmem => List.mem_append_left _ hmem
    have hx := (ih halone.init horder.init hlate.init).mono hmore
    rw [follow_concat, errands_concat, replies_concat]
    cases hnew : newReplies s r (follow { conductor := { settings } } moves) m with
    | nil =>
      rw [List.append_nil]
      refine exchange_of_silence hb hx (nil_of_early settings s r moves) m ?_ halone.last hnew
      rintro id after rfl
      exact List.mem_append_right _ (List.mem_singleton.mpr rfl)
    | cons ack rest =>
      have hmem : ack ∈ newReplies s r (follow { conductor := { settings } } moves) m := by
        rw [hnew]
        exact List.mem_cons_self
      obtain ⟨hreply, hbound, hone⟩ := reply_of_new hmem
      obtain ⟨x, hi, ha⟩ := answers_next settings hmem (horder.last ack hmem)
      have hsilent : newErrands s r (follow { conductor := { settings } } moves) m = [] := by
        obtain ⟨rfl, -⟩ := stage?_of_reply hreply
        rfl
      rw [← hnew, hone, hsilent, List.append_nil]
      exact (hx.reply hb.commands.ledger hbound hi ha (hlate.last ack hmem x hi)).of_quiet
        (after_of_reply hreply)

/-- If no wait for a command of the role ends, no reply is late. -/
theorem lateRepliesAlone_of_waits (settings : Settings) (moves : List Move)
    (hwaits : ∀ id after, ¬EndedWaits r moves id after)
    (halone : SpeaksAlone s r { conductor := { settings } } moves)
    (horder : AnswersInOrder s r { conductor := { settings } } moves) :
    LateRepliesAlone s r { conductor := { settings } } moves := by
  induction moves using List.reverseRecOn with
  | nil =>
    intro before m after heq
    simp at heq
  | append_singleton moves m ih =>
    have hlate := ih (fun id after hmem => hwaits id after (List.mem_append_left _ hmem))
      halone.init horder.init
    refine hlate.concat fun ack hack x hi hverdict => ?_
    -- the first command without a reply has no verdict as long as the node is there
    have hx := exchange_follow settings moves halone.init horder.init hlate
    have hbound := (reply_of_new hack).2.1
    have hfate := hx.fates _ x hi
    rw [hbound, List.getElem?_eq_none (Nat.le_refl _)] at hfate
    generalize (follow { conductor := { settings } } moves).conductor.verdict? x.handle = v
      at hfate hverdict
    cases hfate with
    | outstanding => exact absurd rfl hverdict
    | expired wait => exact absurd (List.mem_append_left _ wait) (hwaits _ _)
    | lost unbound => cases unbound

/-- An errand that was made earlier in a run keeps its place. -/
theorem errands_getElem?_append {start : Hall} {before after : List Move} {i : Nat} {x : Errand}
    (hi : (errands s r start before)[i]? = some x) :
    (errands s r start (before ++ after))[i]? = some x := by
  unfold errands at hi ⊢
  rw [gathered_append, List.getElem?_append_left (List.getElem?_eq_some_iff.mp hi).1]
  exact hi

/-- In every run in which no wait for a command of the role `r` ends, and in which the player of the
session `s`, as long as `s` has this role, answers every message that must be answered once and in
order, while no other session acknowledges commands under the role: the messages that the player
receives are those of the commands that were issued for it, and every reply decides the command that
it answers. The reply is of the kind that the command waits for, it is accepted, and the verdict is
what the reply says. The commands without a reply have no verdict as long as the session has its
role, and behind that they are lost with the session. -/
theorem replies_decide (settings : Settings) (moves : List Move) (s : SessionId) (r : Role)
    (hwaits : ∀ id after, .cancelCommand r id after ∉ moves)
    (halone : SpeaksAlone s r { conductor := { settings } } moves)
    (horder : AnswersInOrder s r { conductor := { settings } } moves) :
    let start : Hall := { conductor := { settings } }
    let h := start.follow moves
    let issued := errands s r start moves
    let heard := replies s r start moves
    (h.stage? s = some (.active r) → h.received s <+: issued.map (·.message)) ∧
    heard.length ≤ issued.length ∧
    (∀ (i : Nat) x ack, issued[i]? = some x → heard[i]? = some ack →
      x.kind.expectedAck = some ack.kind ∧
        h.conductor.verdict? x.handle = some (ack.verdict r x.kind)) ∧
    (∀ (i : Nat) x, issued[i]? = some x → heard[i]? = none → h.conductor.verdict? x.handle =
      if h.conductor.roster.binds s r then none else some (.error (.sessionLost r))) ∧
    ∀ before m after ack, moves = before ++ m :: after →
      ack ∈ newReplies s r (start.follow before) m →
      ∃ x, issued[(replies s r start before).length]? = some x ∧ ack.answers x.message = true ∧
        ((start.follow before).conductor.acknowledge r ack).2 = .ok () ∧
        ((start.follow before).after m).conductor.verdicts =
          (start.follow before).conductor.verdicts ++ [(x.id, ack.verdict r x.kind)] := by
  intro start h issued heard
  have hlate := lateRepliesAlone_of_waits settings moves hwaits halone horder
  have hx := exchange_follow settings moves halone horder hlate
  refine ⟨received_of_active settings moves, hx.answered, ?_, ?_, ?_⟩
  · intro i x ack hi hack
    have hfate := hx.fates i x hi
    rw [hack] at hfate
    generalize (start.follow moves).conductor.verdict? x.handle = v at hfate ⊢
    cases hfate with
    | answered kind => exact ⟨kind, rfl⟩
    | expired wait => exact absurd wait (hwaits _ _)
  · intro i x hi hnone
    have hfate := hx.fates i x hi
    rw [hnone] at hfate
    generalize (start.follow moves).conductor.verdict? x.handle = v at hfate ⊢
    cases hfate with
    | outstanding holds => rw [if_pos holds]
    | expired wait => exact absurd wait (hwaits _ _)
    | lost unbound => rw [if_neg (Bool.eq_false_iff.mp unbound)]
  · rintro before m after ack rfl hack
    have hx' := exchange_follow settings before halone.init horder.init hlate.init
    obtain ⟨hreply, hbound, -⟩ := reply_of_new hack
    obtain ⟨x, hi, ha⟩ := answers_next settings hack (horder before m after rfl ack hack)
    have hnone : (start.follow before).conductor.verdict? x.handle = none := by
      have hfate := hx'.fates _ x hi
      rw [hbound, List.getElem?_eq_none (Nat.le_refl _)] at hfate
      generalize (start.follow before).conductor.verdict? x.handle = v at hfate ⊢
      cases hfate with
      | outstanding => rfl
      | expired wait => exact absurd (List.mem_append_left _ wait) (hwaits _ _)
      | lost unbound => cases unbound
    obtain ⟨ledger, -, heq⟩ := hx'.acknowledge_eq hbound hi ha hnone
    refine ⟨x, errands_getElem?_append hi, ha, by rw [heq], ?_⟩
    rw [(after_of_reply hreply).verdicts, heq]

/-- The player answers the address request first, rejects the second command, and is removed before
it answers the third. -/
theorem replies_decide_removed :
    let r : Role := ⟨"r"⟩
    let moves : List Move := [
      .connect, .deliver 0 (Frame.ofBody (Uplink.hello "r" default).encode), .read 0, .write 0,
      .issue (.getAddress r), .issue (.terminate r .graceful), .issue (.throttle r r .both ⟨0⟩),
      .write 0, .write 0,
      .deliver 0 (Frame.ofBody (Uplink.addressReply r default).encode), .read 0,
      .deliver 0 (Frame.ofBody (Uplink.commandFailed "no").encode), .read 0,
      .remove r]
    (∀ id after, .cancelCommand r id after ∉ moves) ∧ SpeaksAlone 0 r {} moves ∧
      AnswersInOrder 0 r {} moves ∧
      replies 0 r {} moves = [.address r default, .failed "no"] ∧
      (errands 0 r {} moves).map (fun x => (follow {} moves).conductor.verdict? x.handle) =
        [some (.ok (.address default)), some (.error (.rejected r .terminate "no")),
          some (.error (.sessionLost r))] ∧
      ∀ (i : Nat) x ack, (errands 0 r {} moves)[i]? = some x →
        (replies 0 r {} moves)[i]? = some ack →
        x.kind.expectedAck = some ack.kind ∧
          (follow {} moves).conductor.verdict? x.handle = some (ack.verdict r x.kind) := by
  intro r moves
  have hwaits : ∀ id after, .cancelCommand r id after ∉ moves := by simp [moves]
  have halone : SpeaksAlone 0 r {} moves := by decide +kernel
  have horder : AnswersInOrder 0 r {} moves := by decide +kernel
  obtain ⟨-, -, hdecided, -⟩ := replies_decide {} moves 0 r hwaits halone horder
  exact ⟨hwaits, halone, horder, by decide +kernel, by decide +kernel, hdecided⟩

/-- In every run in which the player of a session answers in order and no other session speaks for
its role, and in which a reply that comes too late finds no other command that waits for one of its
kind: a late reply is refused and changes no command, and every command that has a verdict has that
of its own reply, or its wait has ended, or its node has departed. -/
theorem late_replies_ignored (settings : Settings) (moves : List Move) (s : SessionId) (r : Role)
    (halone : SpeaksAlone s r { conductor := { settings } } moves)
    (horder : AnswersInOrder s r { conductor := { settings } } moves)
    (hlate : LateRepliesAlone s r { conductor := { settings } } moves) :
    let start : Hall := { conductor := { settings } }
    let h := start.follow moves
    let issued := errands s r start moves
    let heard := replies s r start moves
    (∀ (i : Nat) x, issued[i]? = some x → Fate (EndedWaits r moves) r
      (h.conductor.roster.binds s r) x heard[i]? (h.conductor.verdict? x.handle)) ∧
    ∀ before m after ack x, moves = before ++ m :: after →
      ack ∈ newReplies s r (start.follow before) m →
      (errands s r start before)[(replies s r start before).length]? = some x →
      (start.follow before).conductor.verdict? x.handle ≠ none →
      ((start.follow before).conductor.acknowledge r ack).2 =
          .error (.unsolicited r ack.name) ∧
        ((start.follow before).after m).conductor.ledger =
          (start.follow before).conductor.ledger ∧
        ((start.follow before).after m).conductor.verdicts =
          (start.follow before).conductor.verdicts := by
  intro start h issued heard
  refine ⟨(exchange_follow settings moves halone horder hlate).fates, ?_⟩
  rintro before m after ack x rfl hack hi hverdict
  have hx := exchange_follow settings before halone.init horder.init hlate.init
  obtain ⟨hreply, -, -⟩ := reply_of_new hack
  obtain ⟨x', hi', ha⟩ := answers_next settings hack (horder before m after rfl ack hack)
  rw [hi] at hi'
  obtain rfl := Option.some.inj hi'
  have hmem : x ∈ errands s r start before := List.mem_of_getElem? hi
  obtain ⟨-, hclaim⟩ := hx.wired x hmem ack ha
  rw [hx.node x hmem] at hclaim
  have heq := acknowledge_of_unsolicited hclaim
    (hlate before m after rfl ack hack x hi hverdict)
  refine ⟨by rw [heq], ?_, ?_⟩
  · rw [(after_of_reply hreply).ledger, heq]
  · rw [(after_of_reply hreply).verdicts, heq]

/-- The wait for a throttle ends, its reply comes late and is refused, and the address request that
was issued behind it is decided by its own reply. -/
theorem late_replies_ignored_before_address :
    let r : Role := ⟨"r"⟩
    let moves : List Move := [
      .connect, .deliver 0 (Frame.ofBody (Uplink.hello "r" default).encode), .read 0, .write 0,
      .issue (.throttle r r .both ⟨0⟩), .write 0, .cancelCommand r 1 (Span.ofSecs 1),
      .issue (.getAddress r), .write 0,
      .deliver 0 (Frame.ofBody Uplink.done.encode), .read 0,
      .deliver 0 (Frame.ofBody (Uplink.addressReply r default).encode), .read 0]
    SpeaksAlone 0 r {} moves ∧ AnswersInOrder 0 r {} moves ∧ LateRepliesAlone 0 r {} moves ∧
      (errands 0 r {} moves).map (fun x => (follow {} moves).conductor.verdict? x.handle) =
        [some (.error (.timeout r .throttle (Span.ofSecs 1))), some (.ok (.address default))] ∧
      ((follow {} (moves.take 10)).conductor.acknowledge r .done).2 =
        .error (.unsolicited r Ack.done.name) := by
  intro r moves
  have halone : SpeaksAlone 0 r {} moves := by decide +kernel
  have horder : AnswersInOrder 0 r {} moves := by decide +kernel
  have hlate : LateRepliesAlone 0 r {} moves := by decide +kernel
  obtain ⟨-, hignored⟩ := late_replies_ignored {} moves 0 r halone horder hlate
  obtain ⟨hrefused, -, -⟩ := hignored (moves.take 10) (.read 0) (moves.drop 11) .done
    ⟨r, .throttle, 1, .throttle default .both ⟨0⟩⟩ rfl (by decide +kernel) (by decide +kernel)
    (by decide +kernel)
  exact ⟨halone, horder, hlate, by decide +kernel, hrefused⟩

/-- A late reply decides another command, if one waits for a reply of the same kind: the `Done` of
the throttle, whose wait has ended, completes the disconnect, which the player then rejects. -/
theorem late_reply_decides_another :
    let r : Role := ⟨"r"⟩
    let moves : List Move := [
      .connect, .deliver 0 (Frame.ofBody (Uplink.hello "r" default).encode), .read 0, .write 0,
      .issue (.throttle r r .both ⟨0⟩), .write 0, .cancelCommand r 1 (Span.ofSecs 1),
      .issue (.disconnect r r false), .write 0,
      .deliver 0 (Frame.ofBody Uplink.done.encode), .read 0,
      .deliver 0 (Frame.ofBody (Uplink.commandFailed "no").encode), .read 0]
    SpeaksAlone 0 r {} moves ∧ AnswersInOrder 0 r {} moves ∧
      received (follow {} moves) 0 = [.throttle default .both ⟨0⟩, .disconnect default false] ∧
      replies 0 r {} moves = [.done, .failed "no"] ∧
      (errands 0 r {} moves).map
          (fun x => (x.kind, (follow {} moves).conductor.verdict? x.handle)) =
        [(.throttle, some (.error (.timeout r .throttle (Span.ofSecs 1)))),
          (.disconnect, some (.ok .done))] := by
  intro r moves
  decide +kernel

end Rendezvous.Hall
