import Mathlib.Data.List.Nodup
import Rendezvous.Fault.Ledger
import Rendezvous.Proofs.Tables

/-!
# The queues of a ledger

What holds of a ledger that its operations have built (`Sound`): an id stands in one queue and in
one place of it, a queue is in the order of its ids, has no kind twice, and none that is never
acknowledged. Commands enter a ledger at the end of a queue under a new id (`insert_ok`). All other
operations take entries out of it and leave the rest in its order (`Without`).
-/

namespace Rendezvous.Ledger

variable {τ : Type} {l l' : Ledger τ} {node : Role} {kind : CommandKind} {token : τ} {id : Nat}
  {e : LedgerEntry τ} {q : List (LedgerEntry τ)} {p : LedgerEntry τ → Bool}

/-- What the operations of a ledger keep. -/
structure Sound (l : Ledger τ) : Prop where
  ordered : Table.Ordered l.queues
  fresh : ∀ node, ∀ e ∈ l.queue node, e.id < l.nextId
  ids : ∀ node, (l.queue node).Pairwise (·.id < ·.id)
  apart : ∀ node node' e e', e ∈ l.queue node → e' ∈ l.queue node' → e.id = e'.id → node = node'
  kinds : ∀ node, (l.queue node).Pairwise (·.kind ≠ ·.kind)
  confirmed : ∀ node, ∀ e ∈ l.queue node, e.kind.expectedAck ≠ none

theorem sound_new : ({} : Ledger τ).Sound where
  ordered := List.Pairwise.nil
  fresh := nofun
  ids _ := List.Pairwise.nil
  apart := nofun
  kinds _ := List.Pairwise.nil
  confirmed := nofun

/-- An id stands in one place. -/
theorem Sound.eq_of_id {node' : Role} {e' : LedgerEntry τ} (h : l.Sound) (he : e ∈ l.queue node)
    (he' : e' ∈ l.queue node') (hid : e.id = e'.id) : node = node' ∧ e = e' := by
  obtain rfl := h.apart node node' e e' he he' hid
  have hnodup : ((l.queue node).map (·.id)).Nodup :=
    List.pairwise_map.mpr ((h.ids node).imp Nat.ne_of_lt)
  exact ⟨rfl, List.inj_on_of_nodup_map hnodup he he' hid⟩

/-! ## Queues as a table -/

theorem queue_setQueue (l : Ledger τ) (node node' : Role) (q : List (LedgerEntry τ)) :
    (l.setQueue node q).queue node' = if node' = node then q else l.queue node' := by
  unfold setQueue queue
  split
  · next hq =>
    rw [Table.get?_erase]
    split
    · exact hq.symm
    · rfl
  · rw [Table.get?_put]
    split <;> rfl

theorem ordered_setQueue (h : Table.Ordered l.queues) (node : Role) (q : List (LedgerEntry τ)) :
    Table.Ordered (l.setQueue node q).queues := by
  unfold setQueue
  dsimp only
  split
  · exact h.erase node
  · exact h.put node q

theorem size_setQueue (h : Table.Ordered l.queues) (node : Role) (q : List (LedgerEntry τ)) :
    (l.setQueue node q).size + (l.queue node).length = l.size + q.length := by
  have hold : (l.queue node).length = ((l.queues.get? node).map List.length).getD 0 := by
    unfold queue
    cases l.queues.get? node <;> rfl
  rw [hold]
  unfold setQueue size
  dsimp only
  split
  · next hq =>
    rw [hq, Table.total_erase List.length h node]
    rfl
  · exact Table.total_put List.length h node q

theorem mem_toList (h : Table.Ordered l.queues) : (node, e) ∈ l.toList ↔ e ∈ l.queue node := by
  unfold toList queue
  rw [List.mem_flatMap]
  constructor
  · rintro ⟨⟨node', q⟩, hq, he⟩
    obtain ⟨e', he', heq⟩ := List.mem_map.mp he
    cases heq
    rw [(Table.mem_iff_get? h).mp hq]
    exact he'
  · intro he
    cases hq : l.queues.get? node with
    | none =>
      rw [hq] at he
      cases he
    | some q =>
      rw [hq] at he
      exact ⟨(node, q), (Table.mem_iff_get? h).mpr hq, List.mem_map.mpr ⟨e, he, rfl⟩⟩

theorem length_toList (l : Ledger τ) : l.toList.length = l.size := by
  unfold toList size
  induction l.queues with
  | nil => rfl
  | cons p rest ih =>
    rw [List.flatMap_cons, List.length_append, ih, Table.total_cons, List.length_map]

/-- No node has two outstanding commands of one kind. -/
theorem Sound.nodup_kinds (h : l.Sound) : (l.toList.map fun x => (x.1, x.2.kind)).Nodup := by
  unfold toList
  rw [List.map_flatMap]
  refine List.nodup_flatMap.mpr ⟨?_, ?_⟩
  · rintro ⟨node, q⟩ hq
    have hkinds := h.kinds node
    unfold queue at hkinds
    rw [(Table.mem_iff_get? h.ordered).mp hq, Option.getD_some] at hkinds
    dsimp only
    rw [List.map_map]
    exact List.pairwise_map.mpr (hkinds.imp fun hne heq => hne (Prod.mk.inj heq).2)
  · refine h.ordered.imp ?_
    rintro ⟨node, q⟩ ⟨node', q'⟩ hlt x hx hx'
    -- the nodes of two queues differ
    simp only [List.map_map, List.mem_map] at hx hx'
    obtain ⟨e, -, rfl⟩ := hx
    obtain ⟨e', -, heq⟩ := hx'
    exact Role.ne_of_lt hlt (Prod.mk.inj heq).1.symm

/-! ## Recording a command -/

theorem queue_ensureQueue (l : Ledger τ) (node node' : Role) :
    (l.ensureQueue node).queue node' = l.queue node' := by
  unfold ensureQueue queue
  split
  · rfl
  · next hnew =>
    rw [Table.get?_put]
    split
    · next hn =>
      rw [Table.has_eq_isSome, Option.not_isSome_iff_eq_none] at hnew
      rw [hn, hnew]
      rfl
    · rfl

theorem nextId_ensureQueue (l : Ledger τ) (node : Role) :
    (l.ensureQueue node).nextId = l.nextId := by
  unfold ensureQueue
  split <;> rfl

/-- A node for which a command is outstanding has a queue already. -/
theorem ensureQueue_of_mem (h : e ∈ l.queue node) : l.ensureQueue node = l := by
  refine if_pos ?_
  rw [Table.has_eq_isSome, Option.isSome_iff_ne_none]
  intro hnone
  rw [queue, hnone] at h
  cases h

/-- The empty queue makes way for one that is not. -/
theorem setQueue_ensureQueue (l : Ledger τ) (node : Role) (hq : q ≠ []) :
    (l.ensureQueue node).setQueue node q = l.setQueue node q := by
  unfold ensureQueue
  split
  · rfl
  · unfold setQueue
    rw [if_neg hq, if_neg hq, Table.put_put]

/-- A command that is not recorded leaves no trace: it is refused before its node is given a queue,
or for another command that stands in the queue. -/
theorem insert_refused {r : LedgerRefusal} (h : l.insert node kind token = (l', .error r)) :
    l' = l := by
  unfold insert at h
  split at h
  · exact (Prod.mk.inj h).1.symm
  · dsimp only at h
    split at h
    · next hany =>
      obtain ⟨e, he, -⟩ := List.any_eq_true.mp hany
      rw [queue_ensureQueue] at he
      rw [← (Prod.mk.inj h).1, ensureQueue_of_mem he]
    · cases h

theorem insert_ok (h : l.insert node kind token = (l', .ok id)) :
    kind.expectedAck ≠ none ∧ (∀ e ∈ l.queue node, e.kind ≠ kind) ∧ id = l.nextId ∧
      l' = { l.setQueue node (l.queue node ++ [⟨kind, id, token⟩]) with nextId := id + 1 } := by
  unfold insert at h
  split at h
  · cases h
  · next hack =>
    simp only [queue_ensureQueue, nextId_ensureQueue] at h
    rw [setQueue_ensureQueue l node (List.append_ne_nil_of_right_ne_nil _ (List.cons_ne_nil _ _))]
      at h
    split at h
    · cases h
    · next hany =>
      cases h
      refine ⟨hack, ?_, rfl, rfl⟩
      intro e he hk
      exact hany (List.any_eq_true.mpr ⟨e, he, decide_eq_true hk⟩)

/-- The queues behind an insertion. -/
theorem queue_of_insert (h : l.insert node kind token = (l', .ok id)) (node' : Role) :
    l'.queue node' =
      if node' = node then l.queue node ++ [⟨kind, id, token⟩] else l.queue node' := by
  obtain ⟨-, -, -, rfl⟩ := insert_ok h
  exact queue_setQueue l node node' _

theorem size_of_insert (hs : l.Sound) (h : l.insert node kind token = (l', .ok id)) :
    l'.size = l.size + 1 := by
  obtain ⟨-, -, -, rfl⟩ := insert_ok h
  have hsize := size_setQueue hs.ordered node (l.queue node ++ [⟨kind, id, token⟩])
  rw [List.length_append, List.length_singleton] at hsize
  unfold size at hsize ⊢
  dsimp only
  omega

theorem Sound.insert (hs : l.Sound) (h : l.insert node kind token = (l', .ok id)) :
    l'.Sound := by
  have hqueue := queue_of_insert h
  obtain ⟨hack, hkind, hid, hl⟩ := insert_ok h
  have hnext : l'.nextId = l.nextId + 1 := by rw [hl, hid]
  -- what stands in a queue stood there before or is the new entry
  have hmem : ∀ node' e, e ∈ l'.queue node' →
      e ∈ l.queue node' ∨ node' = node ∧ e = ⟨kind, id, token⟩ := by
    intro node' e he
    rw [hqueue] at he
    split at he
    · next hn =>
      rcases List.mem_append.mp he with he | he
      · exact Or.inl (hn ▸ he)
      · exact Or.inr ⟨hn, List.mem_singleton.mp he⟩
    · exact Or.inl he
  refine ⟨?_, ?_, ?_, ?_, ?_, ?_⟩
  · rw [hl]
    exact ordered_setQueue hs.ordered node _
  · intro node' e he
    rcases hmem node' e he with he | ⟨-, rfl⟩
    · have hlt := hs.fresh node' e he
      omega
    · show id < l'.nextId
      omega
  · intro node'
    rw [hqueue]
    split
    · refine List.pairwise_append.mpr ⟨hs.ids node, List.pairwise_singleton _ _, ?_⟩
      intro e he e' he'
      rw [List.mem_singleton.mp he', hid]
      exact hs.fresh node e he
    · exact hs.ids node'
  · intro node₁ node₂ e₁ e₂ h₁ h₂ heq
    rcases hmem node₁ e₁ h₁ with h₁ | ⟨rfl, rfl⟩ <;> rcases hmem node₂ e₂ h₂ with h₂ | ⟨rfl, rfl⟩
    · exact hs.apart node₁ node₂ e₁ e₂ h₁ h₂ heq
    · have hlt := hs.fresh node₁ e₁ h₁
      exact absurd (heq.trans hid) (Nat.ne_of_lt hlt)
    · have hlt := hs.fresh node₂ e₂ h₂
      exact absurd (heq.symm.trans hid) (Nat.ne_of_lt hlt)
    · rfl
  · intro node'
    rw [hqueue]
    split
    · refine List.pairwise_append.mpr ⟨hs.kinds node, List.pairwise_singleton _ _, ?_⟩
      intro e he e' he'
      rw [List.mem_singleton.mp he']
      exact hkind e he
    · exact hs.kinds node'
  · intro node' e he
    rcases hmem node' e he with he | ⟨-, rfl⟩
    · exact hs.confirmed node' e he
    · exact hack

/-! ## Taking entries out -/

/-- A ledger behind an operation that took some entries out of it: the queues keep all others in
their order. One id may have been used up by the way. -/
structure Without (l l' : Ledger τ) (gone : List (Role × LedgerEntry τ)) : Prop where
  mem : ∀ x ∈ gone, x.2 ∈ l.queue x.1
  queue : ∀ node, l'.queue node = (l.queue node).filter fun e => e.id ∉ gone.map (·.2.id)
  size : l.size = l'.size + gone.length
  sound : l'.Sound
  nextId : l.nextId ≤ l'.nextId
  spent : l'.nextId ≤ l.nextId + 1

/-- A queue of which nothing is taken. -/
theorem filter_of_forall_notMem {ids : List Nat} (h : ∀ e ∈ q, e.id ∉ ids) :
    (q.filter fun e => e.id ∉ ids) = q :=
  List.filter_eq_self.mpr fun e he => by simpa using h e he

theorem Without.refl (h : l.Sound) : Without l l [] where
  mem := nofun
  queue _ := (filter_of_forall_notMem fun _ _ => List.not_mem_nil).symm
  size := rfl
  sound := h
  nextId := Nat.le_refl _
  spent := Nat.le_succ _

/-- What is left of a queue is in order as well. -/
theorem Sound.setQueue (h : l.Sound) (hq : q.Sublist (l.queue node)) :
    (l.setQueue node q).Sound := by
  have hqueue := queue_setQueue l node (q := q)
  have hsub : ∀ node', ((l.setQueue node q).queue node').Sublist (l.queue node') := by
    intro node'
    rw [hqueue]
    split
    · next hn => exact hn ▸ hq
    · exact List.Sublist.refl _
  exact {
    ordered := ordered_setQueue h.ordered node q
    fresh := fun node' e he => h.fresh node' e ((hsub node').subset he)
    ids := fun node' => (h.ids node').sublist (hsub node')
    apart := fun node₁ node₂ e₁ e₂ h₁ h₂ =>
      h.apart node₁ node₂ e₁ e₂ ((hsub node₁).subset h₁) ((hsub node₂).subset h₂)
    kinds := fun node' => (h.kinds node').sublist (hsub node')
    confirmed := fun node' e he => h.confirmed node' e ((hsub node').subset he) }

theorem takeFirst_some (h : l.takeFirst node p = (l', some e)) :
    ∃ before behind, l.queue node = before ++ e :: behind ∧ (∀ x ∈ before, p x = false) ∧
      p e = true ∧ l' = l.setQueue node (before ++ behind) := by
  unfold Ledger.takeFirst at h
  split at h
  · cases h
  · next hfind =>
    cases h
    obtain ⟨hp, before, behind, hqueue, hbefore⟩ := List.find?_eq_some_iff_append.mp hfind
    have hnot : ∀ x ∈ before, p x = false := fun x hx => by simpa using hbefore x hx
    refine ⟨before, behind, hqueue, hnot, hp, ?_⟩
    rw [hqueue, List.eraseP_append_right _ fun x hx => by simp [hnot x hx],
      List.eraseP_cons_of_pos hp]

/-- If nothing is taken, nothing changes. -/
theorem takeFirst_none (h : l.takeFirst node p = (l', none)) :
    l' = l ∧ ∀ e ∈ l.queue node, p e = false := by
  unfold Ledger.takeFirst at h
  split at h
  · next hfind =>
    refine ⟨(Prod.mk.inj h).1.symm, fun e he => ?_⟩
    exact Bool.eq_false_iff.mpr (List.find?_eq_none.mp hfind e he)
  · cases h

theorem takeFirst_of_none (h : ∀ e ∈ l.queue node, p e = false) :
    l.takeFirst node p = (l, none) := by
  unfold Ledger.takeFirst
  rw [List.find?_eq_none.mpr fun e he => Bool.eq_false_iff.mp (h e he)]

theorem takeFirst_eq_self (h : (l.takeFirst node p).2.toList = []) :
    (l.takeFirst node p).1 = l := by
  rcases ht : l.takeFirst node p with ⟨l', _ | e⟩
  · exact (takeFirst_none ht).1
  · rw [ht] at h
    cases h

theorem nextId_takeFirst (l : Ledger τ) (node : Role) (p : LedgerEntry τ → Bool) :
    (l.takeFirst node p).1.nextId = l.nextId := by
  unfold Ledger.takeFirst
  split <;> rfl

theorem Sound.takeFirst (hs : l.Sound) (h : l.takeFirst node p = (l', some e)) :
    Without l l' [(node, e)] := by
  obtain ⟨before, behind, hqueue, -, -, rfl⟩ := takeFirst_some h
  have hmem : e ∈ l.queue node := by
    rw [hqueue]
    exact List.mem_append_right before List.mem_cons_self
  have hids := hs.ids node
  rw [hqueue] at hids
  obtain ⟨-, hbehind, hcross⟩ := List.pairwise_append.mp hids
  refine ⟨?_, ?_, ?_, hs.setQueue ?_, Nat.le_refl _, Nat.le_succ _⟩
  · intro x hx
    rw [List.mem_singleton.mp hx]
    exact hmem
  · intro node'
    rw [queue_setQueue]
    split
    · next hn =>
      -- the ids before it are lower and those behind it higher
      have hkeep : ∀ x, x ∈ before ∨ x ∈ behind → x.id ≠ e.id := by
        rintro x (hx | hx)
        · exact Nat.ne_of_lt (hcross x hx e List.mem_cons_self)
        · exact Nat.ne_of_gt ((List.pairwise_cons.mp hbehind).1 x hx)
      rw [hn, hqueue, List.filter_append, List.filter_cons_of_neg (by simp),
        filter_of_forall_notMem fun x hx => by simpa using hkeep x (Or.inl hx),
        filter_of_forall_notMem fun x hx => by simpa using hkeep x (Or.inr hx)]
    · next hn =>
      refine (filter_of_forall_notMem fun x hx hid => hn ?_).symm
      exact hs.apart node' node x e hx hmem (List.mem_singleton.mp hid)
  · have hsize := size_setQueue hs.ordered node (before ++ behind)
    rw [hqueue] at hsize
    simp only [List.length_append, List.length_cons, List.length_nil] at hsize ⊢
    omega
  · rw [hqueue]
    exact (List.sublist_cons_self e behind).append_left before

theorem Sound.drainNode (hs : l.Sound) (node : Role) :
    Without l (l.drainNode node).2 ((l.queue node).map (node, ·)) := by
  have hids : ((l.queue node).map (node, ·)).map (·.2.id) = (l.queue node).map (·.id) := by
    rw [List.map_map]
    rfl
  refine ⟨?_, ?_, ?_, hs.setQueue (List.nil_sublist _), Nat.le_refl _, Nat.le_succ _⟩
  · intro x hx
    obtain ⟨e, he, rfl⟩ := List.mem_map.mp hx
    exact he
  · intro node'
    refine (queue_setQueue l node node' []).trans ?_
    rw [hids]
    split
    · next hn =>
      subst hn
      refine (List.filter_eq_nil_iff.mpr fun e he hkeep => ?_).symm
      exact of_decide_eq_true hkeep (List.mem_map_of_mem he)
    · next hn =>
      refine (filter_of_forall_notMem fun e he hid => hn ?_).symm
      obtain ⟨e', he', heq⟩ := List.mem_map.mp hid
      exact hs.apart node' node e e' he he' heq.symm
  · rw [List.length_map]
    exact (size_setQueue hs.ordered node []).symm

theorem Sound.drainAll (hs : l.Sound) : Without l l.drainAll.2 l.toList := by
  refine ⟨?_, ?_, ?_, ?_, Nat.le_refl _, Nat.le_succ _⟩
  · rintro ⟨node, e⟩ hx
    exact (mem_toList hs.ordered).mp hx
  · intro node
    refine (List.filter_eq_nil_iff.mpr fun e he hkeep => ?_).symm
    have hmem := (mem_toList hs.ordered).mpr he
    exact of_decide_eq_true hkeep (List.mem_map.mpr ⟨(node, e), hmem, rfl⟩)
  · rw [length_toList]
    exact (Nat.zero_add _).symm
  · exact {
      ordered := List.Pairwise.nil
      fresh := nofun
      ids := fun _ => List.Pairwise.nil
      apart := nofun
      kinds := fun _ => List.Pairwise.nil
      confirmed := nofun }

/-- The wait for an outstanding command can be ended, and then this one is outstanding no more. -/
theorem Sound.cancel_of_mem (hs : l.Sound) (he : e ∈ l.queue node) :
    ∃ l', l.cancel node e.id = (l', some e) ∧ Without l l' [(node, e)] := by
  rcases hc : l.cancel node e.id with ⟨l', _ | e'⟩
  · have hnot := (takeFirst_none hc).2 e he
    exact absurd (decide_eq_true rfl) (Bool.eq_false_iff.mp hnot)
  · have hw := hs.takeFirst hc
    obtain ⟨-, -, -, -, hid, -⟩ := takeFirst_some hc
    have he' : e' ∈ l.queue node := hw.mem _ (List.mem_singleton.mpr rfl)
    obtain ⟨-, rfl⟩ := hs.eq_of_id he' he (of_decide_eq_true hid)
    exact ⟨l', rfl, hw⟩

/-- A command that is recorded and taken back has used up an id. -/
theorem Sound.cancel_inserted (hs : l.Sound) (h : l.insert node kind token = (l', .ok id)) :
    Without l (l'.cancel node id).1 [] := by
  have hs' := hs.insert h
  have hqueue := queue_of_insert h
  have hsize := size_of_insert hs h
  obtain ⟨-, -, hid, hl⟩ := insert_ok h
  have hnext : (l'.cancel node id).1.nextId = l.nextId + 1 := by
    rw [show (l'.cancel node id).1.nextId = l'.nextId from nextId_takeFirst l' node _, hl, hid]
  have hmem : ⟨kind, id, token⟩ ∈ l'.queue node := by
    rw [hqueue, if_pos rfl]
    exact List.mem_append_right _ (List.mem_singleton.mpr rfl)
  obtain ⟨l'', hc, hw⟩ := hs'.cancel_of_mem hmem
  rw [show l'.cancel node id = (l'', some ⟨kind, id, token⟩) from hc] at hnext ⊢
  refine ⟨nofun, ?_, ?_, hw.sound, hnext ▸ Nat.le_succ _, Nat.le_of_eq hnext⟩
  · intro node'
    have hkeep : ∀ x ∈ l.queue node', x.id ∉ [id] := by
      intro x hx hmem
      rw [List.mem_singleton, hid] at hmem
      exact Nat.ne_of_lt (hs.fresh node' x hx) hmem
    refine (hw.queue node').trans
      (.trans ?_ (filter_of_forall_notMem fun _ _ => List.not_mem_nil).symm)
    rw [hqueue]
    split
    · next hn =>
      subst hn
      rw [List.filter_append]
      exact (congrArg₂ _ (filter_of_forall_notMem hkeep)
        (List.filter_cons_of_neg (by simp))).trans (List.append_nil _)
    · exact filter_of_forall_notMem hkeep
  · have hgone := hw.size
    rw [List.length_singleton] at hgone
    show l.size = l''.size
    omega

/-! ## Queues that are kept -/

/-- No queue that is kept is empty, so the queues say which table it is that keeps them. -/
def Compact (l : Ledger τ) : Prop := ∀ node, l.queues.get? node ≠ some []

theorem compact_new : ({} : Ledger τ).Compact := nofun

theorem Compact.setQueue (h : l.Compact) (node : Role) (q : List (LedgerEntry τ)) :
    (l.setQueue node q).Compact := by
  intro node'
  unfold Ledger.setQueue
  dsimp only
  split
  · rw [Table.get?_erase]
    split
    · exact (Option.some_ne_none []).symm
    · exact h node'
  · next hq =>
    rw [Table.get?_put]
    split
    · exact fun he => hq (Option.some.inj he)
    · exact h node'

theorem Compact.insert (h : l.Compact) (hi : l.insert node kind token = (l', .ok id)) :
    l'.Compact := by
  obtain ⟨-, -, -, rfl⟩ := insert_ok hi
  exact h.setQueue node _

theorem Compact.takeFirst (h : l.Compact) (node : Role) (p : LedgerEntry τ → Bool) :
    (l.takeFirst node p).1.Compact := by
  unfold Ledger.takeFirst
  split
  · exact h
  · exact h.setQueue node _

theorem Compact.get?_queues (h : l.Compact) (node : Role) :
    l.queues.get? node = if l.queue node = [] then none else some (l.queue node) := by
  unfold queue
  cases hg : l.queues.get? node with
  | none => rfl
  | some q =>
    have hq : q ≠ [] := fun he => h node (he ▸ hg)
    rw [Option.getD_some, if_neg hq]

/-- The queue of a node for which nothing is outstanding is not kept. -/
theorem Compact.setQueue_nil (h : l.Compact) (hq : l.queue node = []) : l.setQueue node [] = l := by
  unfold Ledger.setQueue
  rw [if_pos rfl, Table.erase_of_get?_eq_none (by rw [h.get?_queues, if_pos hq])]

theorem queues_eq_of_queue (hs : l.Sound) (hs' : l'.Sound) (hc : l.Compact) (hc' : l'.Compact)
    (h : ∀ node, l.queue node = l'.queue node) : l.queues = l'.queues := by
  refine Table.Ordered.ext hs.ordered hs'.ordered fun node => ?_
  rw [hc.get?_queues, hc'.get?_queues, h]

/-- Nothing is left of a command that is recorded and taken back but that its id is used up. -/
theorem cancel_inserted_eq (hs : l.Sound) (hc : l.Compact)
    (h : l.insert node kind token = (l', .ok id)) :
    (l'.cancel node id).1 = { l with nextId := l.nextId + 1 } := by
  have hw := hs.cancel_inserted h
  have hkept : ∀ node', l.queue node' = (l'.cancel node id).1.queue node' :=
    fun node' => (filter_of_forall_notMem fun _ _ => List.not_mem_nil).symm.trans
      (hw.queue node').symm
  have hqueues := queues_eq_of_queue hs hw.sound hc ((hc.insert h).takeFirst node _) hkept
  have hnext : (l'.cancel node id).1.nextId = l'.nextId := nextId_takeFirst l' node _
  obtain ⟨-, -, hid, hl⟩ := insert_ok h
  generalize (l'.cancel node id).1 = l'' at hqueues hnext ⊢
  obtain ⟨queues, nextId⟩ := l''
  rw [hl, hid] at hnext
  obtain rfl : l.queues = queues := hqueues
  obtain rfl : nextId = l.nextId + 1 := hnext
  rfl

end Rendezvous.Ledger
