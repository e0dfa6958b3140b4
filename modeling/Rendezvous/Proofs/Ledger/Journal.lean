import Mathlib.Data.List.Induction
import Rendezvous.Proofs.Ledger.Queues

/-!
# What a ledger owes

A journal keeps, beside a ledger, all commands that were recorded in it and all that it handed back.
What is recorded and not handed back is outstanding, and the queues of the ledger hold just that
(`Journal.Sound.queue`). So what the operations answer can be said without the queues
(`Journal.accounts_of`).

Every operation but `insert` hands back entries and leaves all others where they are (`Without`), so
one lemma covers them all (`Journal.Sound.without`).
-/

namespace Rendezvous.Ledger

variable {τ : Type} {l l' : Ledger τ} {node : Role} {kind : CommandKind} {e : LedgerEntry τ}
  {p : LedgerEntry τ → Bool} {r : LedgerRefusal}

/-! ## Answers -/

theorem insert_eq_error_iff {token : τ} :
    (l.insert node kind token).2 = .error r ↔
      r = .unconfirmed kind ∧ kind.expectedAck = none ∨
        r = .alreadyPending node kind ∧ kind.expectedAck ≠ none ∧
          ∃ e ∈ l.queue node, e.kind = kind := by
  have hany : (l.queue node).any (·.kind = kind) = true ↔ ∃ e ∈ l.queue node, e.kind = kind := by
    simp
  rw [← hany, @eq_comm _ r, @eq_comm _ r]
  unfold insert
  dsimp only
  rw [queue_ensureQueue]
  split
  · next hack => simp [hack]
  · next hack =>
    split
    · next hkind => simp [hack, hkind]
    · next hkind => simp [hack, hkind]

theorem snd_takeFirst : (l.takeFirst node p).2 = (l.queue node).find? p := by
  unfold takeFirst
  split
  · next h => exact h.symm
  · next h => exact h.symm

/-- What is found in a queue is the oldest of its kind. -/
theorem Sound.find?_eq_some_iff (h : l.Sound) :
    (l.queue node).find? p = some e ↔
      e ∈ l.queue node ∧ p e = true ∧ ∀ x ∈ l.queue node, p x = true → e.id ≤ x.id := by
  have hfound : ∀ {e}, (l.queue node).find? p = some e →
      ∀ x ∈ l.queue node, p x = true → e.id ≤ x.id := by
    intro e hfind x hx hpx
    obtain ⟨-, before, behind, hqueue, hnot⟩ := List.find?_eq_some_iff_append.mp hfind
    have hids := h.ids node
    rw [hqueue] at hids hx
    rcases List.mem_append.mp hx with hx | hx
    · exact absurd hpx (by simpa using hnot x hx)
    · rcases List.mem_cons.mp hx with rfl | hx
      · exact Nat.le_refl _
      · have := List.pairwise_cons.mp (List.pairwise_append.mp hids).2.1
        exact Nat.le_of_lt (this.1 x hx)
  constructor
  · intro hfind
    exact ⟨List.mem_of_find?_eq_some hfind, List.find?_some hfind, hfound hfind⟩
  · rintro ⟨he, hpe, hleast⟩
    obtain ⟨e', hfind⟩ := Option.isSome_iff_exists.mp (List.find?_isSome.mpr ⟨e, he, hpe⟩)
    have hmem := List.mem_of_find?_eq_some hfind
    have hid := Nat.le_antisymm (hleast e' hmem (List.find?_some hfind)) (hfound hfind e he hpe)
    rw [hfind, (h.eq_of_id he hmem hid).2]

/-- A queue has room for one command of each kind that is acknowledged. -/
theorem Sound.pendingFor_le (h : l.Sound) (node : Role) : l.pendingFor node ≤ 4 := by
  have hnodup : ((l.queue node).map (·.kind)).Nodup := List.pairwise_map.mpr (h.kinds node)
  have hsub : (l.queue node).map (·.kind) ⊆ [.throttle, .disconnect, .terminate, .getAddress] := by
    intro kind hkind
    obtain ⟨e, he, rfl⟩ := List.mem_map.mp hkind
    have hack := h.confirmed node e he
    cases hk : e.kind <;> simp_all [CommandKind.expectedAck]
  have hlength := (List.subperm_of_subset hnodup hsub).length_le
  rwa [List.length_map] at hlength

theorem Compact.isEmpty_iff (hs : l.Sound) (hc : l.Compact) : l.isEmpty = true ↔ l.size = 0 := by
  constructor
  · intro h
    rw [size, List.isEmpty_iff.mp h]
    rfl
  · intro h
    rw [← length_toList, List.length_eq_zero_iff] at h
    have hqueue : ∀ node, l.queue node = [] := by
      intro node
      refine List.eq_nil_iff_forall_not_mem.mpr fun e he => ?_
      have hmem := (mem_toList hs.ordered).mpr he
      simp [h] at hmem
    refine List.isEmpty_iff.mpr (Table.eq_nil_of_get? fun node => ?_)
    rw [hc.get?_queues, if_pos (hqueue node)]

/-! ## Journals -/

/-- What a ledger can be asked. -/
inductive Operation (τ : Type) where
  | insert (node : Role) (kind : CommandKind) (token : τ)
  | complete (node : Role) (ack : AckKind)
  | cancel (node : Role) (id : Nat)
  | drainNode (node : Role)
  | drainAll

/-- Whether an operation is to record a command. -/
def Operation.isInsert : Operation τ → Bool
  | insert .. => true
  | _ => false

/-- The ledger behind an operation, whether it was refused or not. -/
def after (l : Ledger τ) : Operation τ → Ledger τ
  | .insert node kind token => (l.insert node kind token).1
  | .complete node ack => (l.complete node ack).1
  | .cancel node id => (l.cancel node id).1
  | .drainNode node => (l.drainNode node).2
  | .drainAll => l.drainAll.2

/-- The command that an operation records, with its id. -/
def recorded (l : Ledger τ) : Operation τ → List (Role × LedgerEntry τ)
  | .insert node kind token =>
    match (l.insert node kind token).2 with
    | .ok id => [(node, ⟨kind, id, token⟩)]
    | .error _ => []
  | _ => []

/-- The commands that an operation hands back. -/
def handedBack (l : Ledger τ) : Operation τ → List (Role × LedgerEntry τ)
  | .insert .. => []
  | .complete node ack => (l.complete node ack).2.toList.map (node, ·)
  | .cancel node id => (l.cancel node id).2.toList.map (node, ·)
  | .drainNode node => (l.drainNode node).1.map (node, ·)
  | .drainAll => l.drainAll.1

/-- A ledger, and what was recorded in it and handed back by it so far. -/
structure Journal (τ : Type) where
  ledger : Ledger τ := {}
  recorded : List (Role × LedgerEntry τ) := []
  handedBack : List (Role × LedgerEntry τ) := []

namespace Journal

/-- The journal behind an operation. -/
def after (j : Journal τ) (op : Operation τ) : Journal τ where
  ledger := j.ledger.after op
  recorded := j.recorded ++ j.ledger.recorded op
  handedBack := j.handedBack ++ j.ledger.handedBack op

/-- The journal of a new ledger behind some operations. -/
def of (ops : List (Operation τ)) : Journal τ := ops.foldl after {}

@[simp]
theorem of_concat (ops : List (Operation τ)) (op : Operation τ) :
    of (ops ++ [op]) = (of ops).after op := by
  rw [of, List.foldl_append]
  rfl

/-- What was recorded and not handed back, in the order of the ids. -/
def outstanding (j : Journal τ) : List (Role × LedgerEntry τ) :=
  j.recorded.filter fun x => x.2.id ∉ j.handedBack.map (·.2.id)

/-- What holds of every journal: the ids count the commands that were recorded, no id is handed back
twice, and the ledger holds the others. -/
structure Sound (j : Journal τ) : Prop where
  ledger : j.ledger.Sound
  compact : j.ledger.Compact
  ids : j.recorded.map (·.2.id) = List.range' 1 j.recorded.length
  nextId : j.ledger.nextId = j.recorded.length + 1
  once : (j.handedBack.map (·.2.id)).Nodup
  issued : ∀ x ∈ j.handedBack, x ∈ j.recorded
  queue : ∀ node, j.ledger.queue node = (j.outstanding.filter (·.1 = node)).map (·.2)

variable {j : Journal τ}

theorem sound_new : ({} : Journal τ).Sound where
  ledger := Ledger.sound_new
  compact := compact_new
  ids := rfl
  nextId := rfl
  once := List.nodup_nil
  issued := nofun
  queue _ := rfl

theorem Sound.mem_queue (h : j.Sound) : e ∈ j.ledger.queue node ↔ (node, e) ∈ j.outstanding := by
  rw [h.queue]
  simp

theorem Sound.nodup_ids (h : j.Sound) : (j.recorded.map (·.2.id)).Nodup := by
  rw [h.ids]
  exact List.nodup_range'

/-! ## Handing back -/

/-- What an operation hands back is no longer outstanding, and all else is. -/
theorem Sound.without (h : j.Sound) {gone : List (Role × LedgerEntry τ)}
    (hw : Without j.ledger l' gone) (hc : l'.Compact) (hn : l'.nextId = j.ledger.nextId)
    (hgone : (gone.map (·.2.id)).Nodup) : Sound ⟨l', j.recorded, j.handedBack ++ gone⟩ := by
  have hout : ∀ x ∈ gone, x ∈ j.outstanding := fun x hx => h.mem_queue.mp (hw.mem x hx)
  have hrest : outstanding ⟨l', j.recorded, j.handedBack ++ gone⟩ =
      j.outstanding.filter fun x => x.2.id ∉ gone.map (·.2.id) := by
    rw [outstanding, outstanding, List.filter_filter]
    refine List.filter_congr fun x _ => Bool.eq_iff_iff.mpr ?_
    simp only [List.map_append, List.mem_append, not_or, Bool.and_eq_true, decide_eq_true_eq]
    exact and_comm
  refine ⟨hw.sound, hc, h.ids, hn.trans h.nextId, ?_, ?_, ?_⟩
  · rw [List.map_append]
    refine List.nodup_append.mpr ⟨h.once, hgone, ?_⟩
    rintro id hid _ hid' rfl
    obtain ⟨x, hx, rfl⟩ := List.mem_map.mp hid'
    -- what is outstanding was not handed back before
    exact of_decide_eq_true (List.mem_filter.mp (hout x hx)).2 hid
  · intro x hx
    rcases List.mem_append.mp hx with hx | hx
    · exact h.issued x hx
    · exact (List.mem_filter.mp (hout x hx)).1
  · intro node
    rw [hrest, hw.queue, h.queue, List.filter_map, List.filter_filter, List.filter_filter]
    simp only [Function.comp_def, Bool.and_comm]

/-! ## Steps and runs -/

theorem Sound.takeFirst (h : j.Sound) {p : LedgerEntry τ → Bool} :
    Sound ⟨(j.ledger.takeFirst node p).1, j.recorded,
      j.handedBack ++ (j.ledger.takeFirst node p).2.toList.map (node, ·)⟩ := by
  have hc := h.compact.takeFirst node p
  have hn := nextId_takeFirst j.ledger node p
  rcases ht : j.ledger.takeFirst node p with ⟨l', _ | e⟩
  · rw [(takeFirst_none ht).1]
    simpa using h
  · rw [ht] at hc hn
    exact h.without (h.ledger.takeFirst ht) hc hn (List.nodup_singleton _)

/-- No command is in the queues twice. -/
theorem Sound.nodup_toList (h : j.Sound) : (j.ledger.toList.map (·.2.id)).Nodup := by
  have hnodup : j.ledger.toList.Nodup := h.ledger.nodup_kinds.of_map _
  refine List.Nodup.map_on ?_ hnodup
  rintro ⟨node, e⟩ he ⟨node', e'⟩ he' hid
  rw [mem_toList h.ledger.ordered] at he he'
  obtain ⟨rfl, rfl⟩ := h.ledger.eq_of_id he he' hid
  rfl

theorem Sound.insert (h : j.Sound) {kind : CommandKind} {token : τ} {id : Nat}
    (hi : j.ledger.insert node kind token = (l', .ok id)) :
    Sound ⟨l', j.recorded ++ [(node, ⟨kind, id, token⟩)], j.handedBack⟩ := by
  obtain ⟨-, -, hid, hl⟩ := insert_ok hi
  have hlength : id = j.recorded.length + 1 := hid.trans h.nextId
  have hids : j.recorded.map (·.2.id) ++ [id] = List.range' 1 (j.recorded.length + 1) := by
    rw [h.ids, List.range'_concat, hlength]
    simp [Nat.add_comm]
  have hnew : id ∉ j.handedBack.map (·.2.id) := by
    intro hmem
    obtain ⟨x, hx, rfl⟩ := List.mem_map.mp hmem
    have hold : x.2.id ∈ j.recorded.map (·.2.id) := List.mem_map_of_mem (h.issued x hx)
    rw [h.ids, List.mem_range'_1] at hold
    omega
  have hout : outstanding ⟨l', j.recorded ++ [(node, ⟨kind, id, token⟩)], j.handedBack⟩ =
      j.outstanding ++ [(node, ⟨kind, id, token⟩)] := by
    rw [outstanding, List.filter_append, List.filter_cons_of_pos (by simpa using hnew)]
    rfl
  refine ⟨h.ledger.insert hi, h.compact.insert hi, by simpa using hids, ?_, h.once, ?_, ?_⟩
  · rw [hl, hlength]
    simp
  · exact fun x hx => List.mem_append_left _ (h.issued x hx)
  · intro node'
    rw [hout, queue_of_insert hi, List.filter_append, List.map_append, ← h.queue]
    split
    · next hn => simp [hn]
    · next hn => simp [Ne.symm hn]

/-- The journal behind an operation that records nothing. -/
theorem after_of_recorded_nil {op : Operation τ} (h : j.ledger.recorded op = []) :
    j.after op = ⟨j.ledger.after op, j.recorded, j.handedBack ++ j.ledger.handedBack op⟩ := by
  rw [Journal.after, h, List.append_nil]

theorem Sound.after (h : j.Sound) (op : Operation τ) : (j.after op).Sound := by
  cases op with
  | insert node kind token =>
    simp only [Journal.after, Ledger.after, Ledger.recorded, Ledger.handedBack, List.append_nil]
    rcases hi : j.ledger.insert node kind token with ⟨l', r | id⟩
    · rw [insert_refused hi]
      simpa using h
    · exact h.insert hi
  | complete node ack =>
    rw [after_of_recorded_nil rfl]
    exact h.takeFirst
  | cancel node id =>
    rw [after_of_recorded_nil rfl]
    exact h.takeFirst
  | drainNode node =>
    rw [after_of_recorded_nil rfl]
    refine h.without (h.ledger.drainNode node) (h.compact.setQueue node []) rfl ?_
    have hids := (h.ledger.ids node).imp Nat.ne_of_lt
    simpa [Ledger.handedBack, Ledger.drainNode, List.Nodup, List.pairwise_map] using hids
  | drainAll =>
    rw [after_of_recorded_nil rfl]
    exact h.without h.ledger.drainAll nofun rfl h.nodup_toList

theorem sound_of (ops : List (Operation τ)) : (of ops).Sound := by
  induction ops using List.reverseRecOn with
  | nil => exact sound_new
  | append_singleton ops op ih =>
    rw [of_concat]
    exact ih.after op

/-! ## What is outstanding -/

/-- What was recorded was handed back or is outstanding, and not both. -/
theorem Sound.perm_recorded (h : j.Sound) : j.recorded.Perm (j.handedBack ++ j.outstanding) := by
  have hback : ∀ x ∈ j.recorded, x.2.id ∈ j.handedBack.map (·.2.id) → x ∈ j.handedBack := by
    intro x hx hid
    obtain ⟨y, hy, heq⟩ := List.mem_map.mp hid
    rwa [← List.inj_on_of_nodup_map h.nodup_ids (h.issued y hy) hx heq]
  have hnodup : j.recorded.Nodup := h.nodup_ids.of_map _
  have happart : (j.handedBack ++ j.outstanding).Nodup := by
    refine List.nodup_append.mpr ⟨h.once.of_map _, hnodup.filter _, ?_⟩
    rintro x hx _ hout rfl
    exact of_decide_eq_true (List.mem_filter.mp hout).2 (List.mem_map_of_mem hx)
  refine (List.perm_ext_iff_of_nodup hnodup happart).mpr fun x => ?_
  rw [List.mem_append, outstanding, List.mem_filter, decide_eq_true_eq]
  constructor
  · intro hx
    by_cases hid : x.2.id ∈ j.handedBack.map (·.2.id)
    · exact Or.inl (hback x hx hid)
    · exact Or.inr ⟨hx, hid⟩
  · rintro (hx | ⟨hx, -⟩)
    · exact h.issued x hx
    · exact hx

theorem Sound.perm_toList (h : j.Sound) : j.ledger.toList.Perm j.outstanding := by
  have hnodup : j.outstanding.Nodup := (h.nodup_ids.of_map _).filter _
  refine (List.perm_ext_iff_of_nodup (h.nodup_toList.of_map _) hnodup).mpr ?_
  rintro ⟨node, e⟩
  rw [mem_toList h.ledger.ordered, h.mem_queue]

theorem Sound.size (h : j.Sound) : j.ledger.size = j.outstanding.length := by
  rw [← length_toList, h.perm_toList.length_eq]

theorem Sound.pendingFor (h : j.Sound) (node : Role) :
    j.ledger.pendingFor node = (j.outstanding.filter (·.1 = node)).length := by
  rw [Ledger.pendingFor, h.queue, List.length_map]

/-! ## Answers behind a run -/

/-- What a journal says of its ledger and of all that the ledger can be asked next. -/
structure Accounts (j : Journal τ) : Prop where
  /-- Ids are given out in increasing order. -/
  ids : (j.recorded.map (·.2.id)).Pairwise (· < ·)
  /-- No command is handed back twice. -/
  once : (j.handedBack.map (·.2.id)).Nodup
  /-- Each command that was recorded was handed back or is outstanding. -/
  recorded : j.recorded.Perm (j.handedBack ++ j.outstanding)
  /-- The ledger holds what is outstanding. -/
  toList : j.ledger.toList.Perm j.outstanding
  /-- A command is refused that is never acknowledged, or has one of its kind before it. -/
  insert : ∀ node kind token r, (j.ledger.insert node kind token).2 = .error r ↔
    r = .unconfirmed kind ∧ kind = .remove ∨
      r = .alreadyPending node kind ∧ ∃ e, (node, e) ∈ j.outstanding ∧ e.kind = kind
  /-- An acknowledgement belongs to the least id that waits for one of its kind. -/
  complete : ∀ node ack e, (j.ledger.complete node ack).2 = some e ↔
    (node, e) ∈ j.outstanding ∧ e.kind.expectedAck = some ack ∧
      ∀ x, (node, x) ∈ j.outstanding → x.kind.expectedAck = some ack → e.id ≤ x.id
  /-- An acknowledgement that no command waits for is passed over. -/
  unsolicited : ∀ node ack, (j.ledger.complete node ack).2 = none ↔
    ∀ e, (node, e) ∈ j.outstanding → e.kind.expectedAck ≠ some ack
  /-- A command is taken back by its node and its id. -/
  cancel : ∀ node id e, (j.ledger.cancel node id).2 = some e ↔
    (node, e) ∈ j.outstanding ∧ e.id = id
  /-- The commands of a node are handed back in the order of their ids. -/
  drainNode : ∀ node, (j.ledger.drainNode node).1.Pairwise (·.id < ·.id) ∧
    ∀ e, e ∈ (j.ledger.drainNode node).1 ↔ (node, e) ∈ j.outstanding
  /-- The other nodes keep theirs. -/
  others : ∀ node node', node' ≠ node →
    (j.ledger.drainNode node).2.queue node' = j.ledger.queue node'
  drainAll : j.ledger.drainAll.1.Perm j.outstanding
  /-- Nothing changes if nothing is recorded and nothing handed back. -/
  unchanged : ∀ op, j.ledger.recorded op = [] → j.ledger.handedBack op = [] →
    j.ledger.after op = j.ledger
  pendingFor : ∀ node, j.ledger.pendingFor node = (j.outstanding.filter (·.1 = node)).length
  room : ∀ node, j.ledger.pendingFor node ≤ 4
  size : j.ledger.size = j.outstanding.length
  isEmpty : j.ledger.isEmpty = true ↔ j.ledger.size = 0

theorem Sound.insert_eq_error_iff (h : j.Sound) {token : τ} :
    (j.ledger.insert node kind token).2 = .error r ↔
      r = .unconfirmed kind ∧ kind = .remove ∨
        r = .alreadyPending node kind ∧ ∃ e, (node, e) ∈ j.outstanding ∧ e.kind = kind := by
  have hremove : kind.expectedAck = none ↔ kind = .remove := by
    cases kind <;> simp [CommandKind.expectedAck]
  -- an outstanding command is of a kind that is acknowledged
  have hconfirmed : ∀ e ∈ j.ledger.queue node, e.kind = kind → kind ≠ .remove := by
    rintro e he rfl
    exact mt hremove.mpr (h.ledger.confirmed node e he)
  rw [Ledger.insert_eq_error_iff, ne_eq, hremove]
  simp only [← h.mem_queue]
  grind

theorem Sound.complete_eq_some_iff (h : j.Sound) {ack : AckKind} :
    (j.ledger.complete node ack).2 = some e ↔
      (node, e) ∈ j.outstanding ∧ e.kind.expectedAck = some ack ∧
        ∀ x, (node, x) ∈ j.outstanding → x.kind.expectedAck = some ack → e.id ≤ x.id := by
  rw [Ledger.complete, snd_takeFirst, h.ledger.find?_eq_some_iff]
  simp [h.mem_queue]

theorem Sound.complete_eq_none_iff (h : j.Sound) {ack : AckKind} :
    (j.ledger.complete node ack).2 = none ↔
      ∀ e, (node, e) ∈ j.outstanding → e.kind.expectedAck ≠ some ack := by
  rw [Ledger.complete, snd_takeFirst, List.find?_eq_none]
  simp [h.mem_queue]

theorem Sound.cancel_eq_some_iff (h : j.Sound) {id : Nat} :
    (j.ledger.cancel node id).2 = some e ↔ (node, e) ∈ j.outstanding ∧ e.id = id := by
  rw [Ledger.cancel, snd_takeFirst, h.ledger.find?_eq_some_iff]
  simp only [h.mem_queue, decide_eq_true_eq]
  grind

/-- An operation that is refused, or finds nothing to hand back, changes nothing. -/
theorem Sound.after_eq_self (h : j.Sound) {op : Operation τ} (hr : j.ledger.recorded op = [])
    (hb : j.ledger.handedBack op = []) : j.ledger.after op = j.ledger := by
  cases op with
  | insert node kind token =>
    rw [Ledger.after]
    rw [Ledger.recorded] at hr
    rcases hi : j.ledger.insert node kind token with ⟨l', r | id⟩
    · exact insert_refused hi
    · rw [hi] at hr
      cases hr
  | complete node ack => exact takeFirst_eq_self (List.map_eq_nil_iff.mp hb)
  | cancel node id => exact takeFirst_eq_self (List.map_eq_nil_iff.mp hb)
  | drainNode node => exact h.compact.setQueue_nil (List.map_eq_nil_iff.mp hb)
  | drainAll =>
    have hnil : j.ledger.queues = [] := List.isEmpty_iff.mp
      ((h.compact.isEmpty_iff h.ledger).mpr (by rw [← length_toList]; exact congrArg _ hb))
    rw [Ledger.after, Ledger.drainAll, ← hnil]

theorem Sound.accounts (h : j.Sound) : j.Accounts where
  ids := by
    rw [h.ids]
    exact List.pairwise_lt_range'
  once := h.once
  recorded := h.perm_recorded
  toList := h.perm_toList
  insert _ _ _ _ := h.insert_eq_error_iff
  complete _ _ _ := h.complete_eq_some_iff
  unsolicited _ _ := h.complete_eq_none_iff
  cancel _ _ _ := h.cancel_eq_some_iff
  drainNode node := ⟨h.ledger.ids node, fun _ => h.mem_queue⟩
  others node node' hne := by
    rw [Ledger.drainNode, queue_setQueue, if_neg hne]
  drainAll := h.perm_toList
  unchanged _ := h.after_eq_self
  pendingFor := h.pendingFor
  room := h.ledger.pendingFor_le
  size := h.size
  isEmpty := h.compact.isEmpty_iff h.ledger

theorem length_recorded_of (past : List (Operation τ)) :
    (of past).recorded.length ≤ past.countP (·.isInsert) := by
  induction past using List.reverseRecOn with
  | nil => exact Nat.zero_le _
  | append_singleton past op ih =>
    have hop : ((of past).ledger.recorded op).length ≤ [op].countP (·.isInsert) := by
      cases op with
      | insert node kind token =>
        simp only [Ledger.recorded]
        split <;> simp [Operation.isInsert]
      | _ => exact Nat.zero_le _
    rw [of_concat, Journal.after, List.length_append, List.countP_append]
    exact Nat.add_le_add ih hop

/-- Whatever a ledger was asked, its journal accounts for its answers, and it has given out no more
ids than it was asked to record commands. -/
theorem accounts_of (past : List (Operation τ)) :
    (of past).Accounts ∧ (of past).ledger.nextId ≤ past.countP (·.isInsert) + 1 := by
  have h := sound_of past
  refine ⟨h.accounts, ?_⟩
  rw [h.nextId]
  exact Nat.add_le_add_right (length_recorded_of past) 1

end Journal

end Rendezvous.Ledger
