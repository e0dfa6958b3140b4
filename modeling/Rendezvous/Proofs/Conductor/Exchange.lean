import Rendezvous.Proofs.Conductor.Books
import Rendezvous.Proofs.Conductor.Errands

/-!
# Errands and replies

How the errands of a session go with the replies of its player (`Exchange`). As long as the session
has its role, the queue of that role holds the errands without a verdict, in their order; and the
verdict on an errand is its own reply, or the end of the wait for it, or the departure of the node
(`Fate`). Issuing an errand keeps this, and so does the end of commands in which no reply to an
errand has a part. A reply keeps it if it answers the first errand that has none yet, and if it
comes too late only when no other command waits for one of its kind (`Exchange.reply`).
-/

namespace Rendezvous.Conductor

variable {c c' : Conductor} {s : SessionId} {r : Role} {op : Operation} {t : Option SessionId}
  {ended : List Ended} {x : Errand} {errands : List Errand} {ack : Ack} {replies : List Ack}
  {waits waits' : Nat → Span → Prop}

/-! ## Verdicts -/

theorem verdict?_append {new : List (Nat × Verdict)} (h : c'.verdicts = c.verdicts ++ new)
    (x : Errand) : c'.verdict? x.handle =
      (c.verdict? x.handle).or ((new.find? (·.1 = x.id)).map (·.2)) := by
  show (c'.verdicts.find? (·.1 = x.id)).map (·.2) = _
  rw [h, List.find?_append, Option.map_or]
  rfl

/-- A command that ends has the verdict of its end, if it had none before. -/
theorem verdict?_of_ended (hv : c'.verdicts = c.verdicts ++ ended.map fun y =>
    (y.entry.id, y.verdict)) (hnone : c.verdict? x.handle = none) :
    (c'.verdict? x.handle = none ∧ ∀ y ∈ ended, y.entry.id ≠ x.id) ∨
      ∃ y ∈ ended, y.entry.id = x.id ∧ c'.verdict? x.handle = some y.verdict := by
  rw [verdict?_append hv, hnone, Option.none_or, List.find?_map, Option.map_map]
  cases hfind : ended.find? ((fun p => decide (p.1 = x.id)) ∘ fun y => (y.entry.id, y.verdict)) with
  | none =>
    refine Or.inl ⟨rfl, fun y hy hid => ?_⟩
    exact List.find?_eq_none.mp hfind y hy (decide_eq_true hid)
  | some y =>
    have hid := List.find?_some hfind
    exact Or.inr ⟨y, List.mem_of_find?_eq_some hfind, of_decide_eq_true hid, rfl⟩

theorem verdict?_stays (hv : ∃ new, c'.verdicts = c.verdicts ++ new) {v : Verdict}
    (hsome : c.verdict? x.handle = some v) : c'.verdict? x.handle = some v := by
  obtain ⟨new, hv⟩ := hv
  rw [verdict?_append hv, hsome, Option.some_or]

/-! ## The fates of errands -/

/-- What has become of an errand of a role that is bound or not, given the reply of the player, if
there was one. `waits` says after which time the waits for commands have ended. -/
inductive Fate (waits : Nat → Span → Prop) (r : Role) (bound : Bool) (x : Errand) :
    Option Ack → Option Verdict → Prop where
  | outstanding (holds : bound = true) : Fate waits r bound x none none
  /-- The reply has ended it. -/
  | answered {ack : Ack} (kind : x.kind.expectedAck = some ack.kind) :
      Fate waits r bound x (some ack) (some (ack.verdict r x.kind))
  /-- The wait for it has ended, before the reply or without one. -/
  | expired {reply : Option Ack} {after : Span} (wait : waits x.id after) :
      Fate waits r bound x reply (some (.error (.timeout r x.kind after)))
  /-- The node has departed before it replied. -/
  | lost (unbound : bound = false) : Fate waits r bound x none (some (.error (.sessionLost r)))

theorem Fate.mono {b : Bool} {reply : Option Ack} {v : Option Verdict}
    (h : Fate waits r b x reply v) (hw : ∀ id after, waits id after → waits' id after) :
    Fate waits' r b x reply v := by
  cases h with
  | outstanding holds => exact .outstanding holds
  | answered kind => exact .answered kind
  | expired wait => exact .expired (hw _ _ wait)
  | lost unbound => exact .lost unbound

/-- What has become of an errand that has a verdict stays so. -/
theorem Fate.of_settled {b b' : Bool} {reply : Option Ack} {v : Verdict}
    (h : Fate waits r b x reply (some v)) (hb : b' = true → b = true) :
    Fate waits r b' x reply (some v) := by
  cases h with
  | answered kind => exact .answered kind
  | expired wait => exact .expired wait
  | lost unbound =>
    refine .lost (Bool.eq_false_iff.mpr fun h => ?_)
    rw [hb h] at unbound
    cases unbound

/-- The errands of a session under its role, and the replies of its player to the first of them. -/
structure Exchange (waits : Nat → Span → Prop) (s : SessionId) (r : Role) (c : Conductor)
    (errands : List Errand) (replies : List Ack) : Prop where
  node : ∀ x ∈ errands, x.node = r
  wired : ∀ x ∈ errands, x.Wired
  ids : errands.Pairwise (·.id < ·.id)
  dated : ∀ x ∈ errands, x.id < c.ledger.nextId
  answered : replies.length ≤ errands.length
  queue : c.roster.binds s r = true → c.ledger.queue r =
    (errands.filter fun x => (c.verdict? x.handle).isNone).map Errand.entry
  fates : ∀ (i : Nat) (x : Errand), errands[i]? = some x →
    Fate waits r (c.roster.binds s r) x replies[i]? (c.verdict? x.handle)

theorem Exchange.mono (hx : Exchange waits s r c errands replies)
    (hw : ∀ id after, waits id after → waits' id after) :
    Exchange waits' s r c errands replies :=
  { hx with fates := fun i x hi => (hx.fates i x hi).mono hw }

/-- A session that has no errands yet. -/
theorem exchange_nil (hq : c.roster.binds s r = true → c.ledger.queue r = []) :
    Exchange waits s r c [] [] where
  node := List.forall_mem_nil _
  wired := List.forall_mem_nil _
  ids := List.Pairwise.nil
  dated := List.forall_mem_nil _
  answered := Nat.le_refl _
  queue := hq
  fates i x hi := by simp at hi

theorem Exchange.of_quiet (hx : Exchange waits s r c errands replies) (hq : Quiet t c c') :
    Exchange waits s r c' errands replies := by
  have hbinds : c'.roster.binds s r = c.roster.binds s r := by
    unfold Roster.binds
    rw [hq.members]
  have hverdict := verdict?_of_verdicts hq.verdicts
  refine ⟨hx.node, hx.wired, hx.ids, ?_, hx.answered, ?_, ?_⟩
  · rw [hq.ledger]
    exact hx.dated
  · simp only [hverdict]
    rw [hbinds, hq.ledger]
    exact hx.queue
  · intro i x hi
    rw [hbinds, hverdict]
    exact hx.fates i x hi

/-- No two errands have the same id. -/
theorem Exchange.index_inj (hx : Exchange waits s r c errands replies) {i j : Nat} {y : Errand}
    (hi : errands[i]? = some x) (hj : errands[j]? = some y) (hid : x.id = y.id) : i = j := by
  have hnodup : (errands.map (·.id)).Nodup := List.pairwise_map.mpr (hx.ids.imp Nat.ne_of_lt)
  have hlt : i < (errands.map (·.id)).length := by
    rw [List.length_map]
    exact (List.getElem?_eq_some_iff.mp hi).1
  refine (List.getElem?_inj hlt hnodup).mp ?_
  rw [List.getElem?_map, List.getElem?_map, hi, hj, Option.map_some, Option.map_some, hid]

theorem length_reply_le (hi : errands[replies.length]? = some x) (ack : Ack) :
    (replies ++ [ack]).length ≤ errands.length := by
  rw [List.length_append, List.length_singleton]
  exact (List.getElem?_eq_some_iff.mp hi).1

/-- An errand without a verdict is outstanding. -/
theorem Exchange.mem_queue (hx : Exchange waits s r c errands replies)
    (hb : c.roster.binds s r = true) (hmem : x ∈ errands) (hnone : c.verdict? x.handle = none) :
    x.entry ∈ c.ledger.queue r := by
  rw [hx.queue hb]
  exact List.mem_map.mpr ⟨x, List.mem_filter.mpr ⟨hmem, by rw [hnone]; rfl⟩, rfl⟩

/-! ## Commands that end -/

/-- The queue of a role behind the end of some commands. -/
theorem Exchange.queue_of_ends (hx : Exchange waits s r c errands replies)
    (hb : c.roster.binds s r = true)
    (hl : c.ledger.Without c'.ledger (ended.map fun y => (y.node, y.entry)))
    (hv : c'.verdicts = c.verdicts ++ ended.map fun y => (y.entry.id, y.verdict)) :
    c'.ledger.queue r =
      (errands.filter fun x => (c'.verdict? x.handle).isNone).map Errand.entry := by
  have hids : (ended.map fun y => (y.node, y.entry)).map (·.2.id) = ended.map (·.entry.id) := by
    rw [List.map_map]
    rfl
  rw [hl.queue, hids, hx.queue hb, List.filter_map, List.filter_filter]
  refine congrArg (List.map Errand.entry) (List.filter_congr fun x _ => ?_)
  cases hnone : c.verdict? x.handle with
  | some v =>
    rw [verdict?_stays ⟨_, hv⟩ hnone]
    simp
  | none =>
    rcases verdict?_of_ended hv hnone with ⟨hnone', hne⟩ | ⟨y, hy, hid, hsome⟩
    · rw [hnone']
      have hnot : x.entry.id ∉ ended.map (·.entry.id) := by
        intro hmem
        obtain ⟨y, hy, hid⟩ := List.mem_map.mp hmem
        exact hne y hy hid
      simpa using hnot
    · rw [hsome]
      have hmem : x.entry.id ∈ ended.map (·.entry.id) := List.mem_map.mpr ⟨y, hy, hid⟩
      simpa using hmem

/-- An operation ends commands, and if any of them are errands it is not by a reply. -/
theorem Exchange.ends (hx : Exchange waits s r c errands replies) (hs : c.ledger.Sound)
    (hcauses : ∀ y ∈ ended, Cause op c' y)
    (hl : c.ledger.Without c'.ledger (ended.map fun y => (y.node, y.entry)))
    (hv : c'.verdicts = c.verdicts ++ ended.map fun y => (y.entry.id, y.verdict))
    (hbound : c'.roster.binds s r = true → c.roster.binds s r = true)
    (hfree : c.roster.binds s r = true → c'.roster.binds s r = false → c'.ledger.queue r = [])
    (hack : ∀ ack, op = .acknowledge r ack → c.roster.binds s r = false)
    (hwait : ∀ id after, op = .cancelCommand r id after → waits id after) :
    Exchange waits s r c' errands replies where
  node := hx.node
  wired := hx.wired
  ids := hx.ids
  dated x hmem := Nat.lt_of_lt_of_le (hx.dated x hmem) hl.nextId
  answered := hx.answered
  queue hb := hx.queue_of_ends (hbound hb) hl hv
  fates i x hi := by
    have hmem : x ∈ errands := List.mem_of_getElem? hi
    have hfate := hx.fates i x hi
    cases hsome : c.verdict? x.handle with
    | some v =>
      rw [hsome] at hfate
      rw [verdict?_stays ⟨_, hv⟩ hsome]
      exact hfate.of_settled hbound
    | none =>
      rw [hsome] at hfate
      generalize hreply : replies[i]? = reply at hfate ⊢
      cases hfate with
      | outstanding hb =>
        have hentry := hx.mem_queue hb hmem hsome
        rcases verdict?_of_ended hv hsome with ⟨hnone, hne⟩ | ⟨y, hy, hid, hverdict⟩
        · -- it is outstanding still, so the role is not free
          rw [hnone]
          refine .outstanding (Bool.not_eq_false _ ▸ fun hfalse => ?_)
          have hmem' : x ∈ errands.filter fun x => (c'.verdict? x.handle).isNone :=
            List.mem_filter.mpr ⟨hmem, by rw [hnone]; rfl⟩
          have hnil := hfree hb hfalse
          rw [hx.queue_of_ends hb hl hv, List.map_eq_nil_iff] at hnil
          rw [hnil] at hmem'
          cases hmem'
        · have hyq := hl.mem _ (List.mem_map.mpr ⟨y, hy, rfl⟩)
          obtain ⟨hnode, he⟩ := hs.eq_of_id hyq hentry hid
          have hcause := hcauses y hy
          obtain ⟨ynode, yentry, yverdict⟩ := y
          dsimp only at hnode he
          subst hnode he
          rw [hverdict]
          cases hcause with
          | acknowledged operation =>
            rw [hack _ operation] at hb
            cases hb
          | expired operation => exact .expired (hwait _ _ operation)
          | lost free =>
            refine .lost ?_
            unfold Roster.binds
            rw [free]
            rfl

/-! ## Errands that are issued -/

theorem verdict?_of_recorded (hb : c.CommandsBalance) {ledger : Ledger Unit}
    (h : c.ledger.insert x.node x.kind () = (ledger, .ok x.id)) :
    c.verdict? x.handle = none := by
  obtain ⟨-, -, hid, -⟩ := Ledger.insert_ok h
  show (c.verdicts.find? (·.1 = x.id)).map (·.2) = none
  rw [Option.map_eq_none_iff, List.find?_eq_none]
  intro p hp he
  have hlt := hb.dated p hp
  rw [of_decide_eq_true he, hid] at hlt
  exact Nat.lt_irrefl _ hlt

/-- An errand for the role, which is bound to the session. -/
theorem Exchange.issue (hx : Exchange waits s r c errands replies) (hb : c.CommandsBalance)
    {cmd : Command} (hi : Issued c cmd x) (hn : cmd.node = r)
    (hbound : c.roster.binds s r = true) :
    Exchange waits s r (c.issue cmd).1 (errands ++ [x]) replies := by
  have hnode : x.node = r := hi.node.trans hn
  obtain ⟨-, -, hid, hledger⟩ := Ledger.insert_ok hi.recorded
  have hnext : (c.issue cmd).1.ledger.nextId = x.id + 1 := by rw [hledger]
  have hnone := verdict?_of_recorded hb hi.recorded
  have hverdict := verdict?_of_verdicts hi.verdicts
  have hbinds : (c.issue cmd).1.roster.binds s r = true := by
    unfold Roster.binds at hbound ⊢
    rwa [hi.members]
  have hdated : ∀ y ∈ errands, y.id < x.id := fun y hy => hid ▸ hx.dated y hy
  refine ⟨?_, ?_, ?_, ?_, ?_, ?_, ?_⟩
  · intro y hy
    rcases List.mem_append.mp hy with hy | hy
    · exact hx.node y hy
    · exact List.mem_singleton.mp hy ▸ hnode
  · intro y hy
    rcases List.mem_append.mp hy with hy | hy
    · exact hx.wired y hy
    · exact List.mem_singleton.mp hy ▸ hi.wired
  · refine List.pairwise_append.mpr ⟨hx.ids, List.pairwise_singleton _ _, ?_⟩
    intro y hy z hz
    rw [List.mem_singleton.mp hz]
    exact hdated y hy
  · intro y hy
    rw [hnext]
    rcases List.mem_append.mp hy with hy | hy
    · exact Nat.lt_succ_of_lt (hdated y hy)
    · rw [List.mem_singleton.mp hy]
      exact Nat.lt_succ_self _
  · rw [List.length_append]
    exact Nat.le_trans hx.answered (Nat.le_add_right _ _)
  · intro _
    rw [Ledger.queue_of_insert hi.recorded, if_pos hnode.symm, hnode, hx.queue hbound]
    simp only [hverdict]
    rw [List.filter_append, List.map_append, List.filter_singleton, hnone]
    rfl
  · intro i y hy
    rw [hbinds, hverdict]
    rcases Nat.lt_or_ge i errands.length with hlt | hge
    · rw [List.getElem?_append_left hlt] at hy
      have hfate := hx.fates i y hy
      rwa [hbound] at hfate
    · -- the new errand is behind all others, which have the replies
      rw [List.getElem?_append_right hge, List.getElem?_singleton] at hy
      split at hy
      · obtain rfl := Option.some.inj hy
        rw [hnone, List.getElem?_eq_none (Nat.le_trans hx.answered hge)]
        exact .outstanding rfl
      · cases hy

/-- An errand for another node, or for a role that the session has not. -/
theorem Exchange.issue_elsewhere (hx : Exchange waits s r c errands replies)
    {cmd : Command} (hi : Issued c cmd x) (hn : ¬(cmd.node = r ∧ c.roster.binds s r = true)) :
    Exchange waits s r (c.issue cmd).1 errands replies := by
  obtain ⟨-, -, hid, hledger⟩ := Ledger.insert_ok hi.recorded
  have hverdict := verdict?_of_verdicts hi.verdicts
  have hbinds : (c.issue cmd).1.roster.binds s r = c.roster.binds s r := by
    unfold Roster.binds
    rw [hi.members]
  refine ⟨hx.node, hx.wired, hx.ids, ?_, hx.answered, ?_, ?_⟩
  · intro y hy
    have hlt := hx.dated y hy
    rw [hledger]
    exact Nat.lt_succ_of_lt (hid ▸ hlt)
  · intro hbound
    rw [hbinds] at hbound
    have hne : r ≠ x.node := fun h => hn ⟨hi.node.symm.trans h.symm, hbound⟩
    rw [Ledger.queue_of_insert hi.recorded, if_neg hne]
    simp only [hverdict]
    exact hx.queue hbound
  · intro i y hy
    rw [hbinds, hverdict]
    exact hx.fates i y hy

/-! ## Replies -/

/-- The queue of a role begins with the first errand without a reply, unless that has a verdict
already. -/
theorem Exchange.queue_eq_cons (hx : Exchange waits s r c errands replies)
    (hb : c.roster.binds s r = true) (hi : errands[replies.length]? = some x)
    (hnone : c.verdict? x.handle = none) :
    ∃ rest, c.ledger.queue r = x.entry :: rest := by
  obtain ⟨hlt, hget⟩ := List.getElem?_eq_some_iff.mp hi
  have hsplit : errands =
      errands.take replies.length ++ x :: errands.drop (replies.length + 1) := by
    rw [← hget, List.getElem_cons_drop hlt, List.take_append_drop]
  -- those before it have replies, hence verdicts
  have hbefore : (errands.take replies.length).filter
      (fun x => (c.verdict? x.handle).isNone) = [] := by
    refine List.filter_eq_nil_iff.mpr fun y hy => ?_
    obtain ⟨j, hj, rfl⟩ := List.mem_take_iff_getElem.mp hy
    have hlt' : j < replies.length := Nat.lt_of_lt_of_le hj (Nat.min_le_left _ _)
    have hfate := hx.fates j _ (List.getElem?_eq_getElem (Nat.lt_of_lt_of_le hj
      (Nat.min_le_right _ _)))
    rw [List.getElem?_eq_getElem hlt'] at hfate
    generalize c.verdict? _ = v at hfate ⊢
    cases hfate <;> exact Bool.false_ne_true
  refine ⟨(errands.drop (replies.length + 1)).filter
    (fun x => (c.verdict? x.handle).isNone) |>.map Errand.entry, ?_⟩
  rw [hx.queue hb]
  conv_lhs => rw [hsplit]
  rw [List.filter_append, hbefore, List.nil_append, List.filter_cons, hnone]
  rfl

/-- A reply to the first errand without one ends that errand, if it has no verdict yet. -/
theorem Exchange.acknowledge_eq (hx : Exchange waits s r c errands replies)
    (hb : c.roster.binds s r = true) (hi : errands[replies.length]? = some x)
    (ha : ack.answers x.message = true) (hnone : c.verdict? x.handle = none) :
    ∃ ledger, c.ledger.takeFirst r (fun e => e.kind.expectedAck = some ack.kind) =
        (ledger, some x.entry) ∧
      c.acknowledge r ack = ({ c with
        ledger
        tally := { c.tally with
          commandsAcked := c.tally.commandsAcked + [(ack.verdict r x.kind).isOk].countP (·)
          commandsFailed := c.tally.commandsFailed + [(ack.verdict r x.kind).isOk].countP (!·) }
        verdicts := c.verdicts ++ [(x.id, ack.verdict r x.kind)] }, .ok ()) := by
  have hmem : x ∈ errands := List.mem_of_getElem? hi
  obtain ⟨hkind, hclaim⟩ := hx.wired x hmem ack ha
  rw [hx.node x hmem] at hclaim
  obtain ⟨rest, hqueue⟩ := hx.queue_eq_cons hb hi hnone
  have hcomplete : c.ledger.takeFirst r (fun e => e.kind.expectedAck = some ack.kind) =
      (c.ledger.setQueue r
        ((c.ledger.queue r).eraseP fun e => e.kind.expectedAck = some ack.kind),
        some x.entry) := by
    have hhead : decide (x.entry.kind.expectedAck = some ack.kind) = true := decide_eq_true hkind
    unfold Ledger.takeFirst
    rw [hqueue, List.find?_cons, hhead]
  exact ⟨_, hcomplete, acknowledge_of_complete hclaim hcomplete⟩

/-- A reply that no command waits for changes nothing. -/
theorem acknowledge_of_unsolicited (hclaim : checkClaim r ack.claimed = .ok ())
    (hno : ∀ e ∈ c.ledger.queue r, e.kind.expectedAck ≠ some ack.kind) :
    c.acknowledge r ack = (c, .error (.unsolicited r ack.name)) := by
  have hcomplete : c.ledger.complete r ack.kind = (c.ledger, none) :=
    Ledger.takeFirst_of_none fun e he => decide_eq_false (hno e he)
  unfold acknowledge
  rw [hclaim]
  dsimp only
  rw [hcomplete]

/-- The replies before a new one stay the same. -/
theorem getElem?_concat_of_ne {α : Type} {as : List α} {a : α} {i : Nat} (h : i ≠ as.length) :
    (as ++ [a])[i]? = as[i]? := by
  rcases Nat.lt_or_ge i as.length with hlt | hge
  · exact List.getElem?_append_left hlt
  · rw [List.getElem?_eq_none hge, List.getElem?_eq_none]
    rw [List.length_append, List.length_singleton]
    omega

/-- The first errand without a reply is answered and has no verdict yet. -/
theorem Exchange.reply_in_time (hx : Exchange waits s r c errands replies) (hs : c.ledger.Sound)
    (hb : c.roster.binds s r = true) (hi : errands[replies.length]? = some x)
    (ha : ack.answers x.message = true) (hnone : c.verdict? x.handle = none) :
    Exchange waits s r (c.acknowledge r ack).1 errands (replies ++ [ack]) := by
  obtain ⟨hkind, -⟩ := hx.wired x (List.mem_of_getElem? hi) ack ha
  obtain ⟨ledger, htake, heq⟩ := hx.acknowledge_eq hb hi ha hnone
  have hroster : (c.acknowledge r ack).1.roster = c.roster := by rw [heq]
  have hv : (c.acknowledge r ack).1.verdicts = c.verdicts ++
      [(⟨r, x.entry, ack.verdict r x.kind⟩ : Ended)].map fun y => (y.entry.id, y.verdict) := by
    rw [heq]
    rfl
  have hl : c.ledger.Without (c.acknowledge r ack).1.ledger
      ([(⟨r, x.entry, ack.verdict r x.kind⟩ : Ended)].map fun y => (y.node, y.entry)) := by
    rw [heq]
    exact hs.takeFirst htake
  refine ⟨hx.node, hx.wired, hx.ids, ?_, length_reply_le hi ack, ?_, ?_⟩
  · exact fun y hy => Nat.lt_of_lt_of_le (hx.dated y hy) hl.nextId
  · intro _
    exact hx.queue_of_ends hb hl hv
  · intro i y hy
    rw [hroster]
    by_cases hin : i = replies.length
    · subst hin
      rw [hi] at hy
      obtain rfl := Option.some.inj hy
      have hverdict : (c.acknowledge r ack).1.verdict? x.handle =
          some (ack.verdict r x.kind) := by
        rw [verdict?_append hv, hnone]
        simp [Errand.entry]
      rw [hverdict, List.getElem?_concat_length]
      exact .answered hkind
    · have hne : x.id ≠ y.id := fun hid => hin (hx.index_inj hy hi hid.symm)
      have hverdict : (c.acknowledge r ack).1.verdict? y.handle = c.verdict? y.handle := by
        rw [verdict?_append hv]
        simp [Errand.entry, hne]
      rw [hverdict, getElem?_concat_of_ne hin]
      exact hx.fates i y hy

/-- The first errand without a reply is answered, but the wait for it has ended before. -/
theorem Exchange.reply_late (hx : Exchange waits s r c errands replies)
    (hb : c.roster.binds s r = true) (hi : errands[replies.length]? = some x)
    (hlate : c.verdict? x.handle ≠ none) (ack : Ack) :
    Exchange waits s r c errands (replies ++ [ack]) := by
  refine ⟨hx.node, hx.wired, hx.ids, hx.dated, length_reply_le hi ack, hx.queue, ?_⟩
  intro i y hy
  by_cases hin : i = replies.length
  · subst hin
    rw [hi] at hy
    obtain rfl := Option.some.inj hy
    have hfate := hx.fates _ x hi
    rw [hb, List.getElem?_eq_none (Nat.le_refl _)] at hfate
    rw [hb]
    generalize c.verdict? x.handle = v at hfate hlate ⊢
    cases hfate with
    | outstanding => exact absurd rfl hlate
    | expired wait => exact .expired wait
    | lost unbound => cases unbound
  · rw [getElem?_concat_of_ne hin]
    exact hx.fates i y hy

/-- The player replies to the first errand that it has not replied to. If the wait for that one has
ended, nothing else may wait for a reply of this kind. -/
theorem Exchange.reply (hx : Exchange waits s r c errands replies) (hs : c.ledger.Sound)
    (hb : c.roster.binds s r = true) (hi : errands[replies.length]? = some x)
    (ha : ack.answers x.message = true) (hclear : c.verdict? x.handle ≠ none →
      ∀ e ∈ c.ledger.queue r, e.kind.expectedAck ≠ some ack.kind) :
    Exchange waits s r (c.acknowledge r ack).1 errands (replies ++ [ack]) := by
  by_cases hnone : c.verdict? x.handle = none
  · exact hx.reply_in_time hs hb hi ha hnone
  · have hmem : x ∈ errands := List.mem_of_getElem? hi
    obtain ⟨-, hclaim⟩ := hx.wired x hmem ack ha
    rw [hx.node x hmem] at hclaim
    rw [acknowledge_of_unsolicited hclaim (hclear hnone)]
    exact hx.reply_late hb hi hnone ack

end Rendezvous.Conductor
