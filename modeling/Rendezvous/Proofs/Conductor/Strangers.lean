import Rendezvous.Proofs.Conductor.Errands
import Rendezvous.Proofs.Conductor.Requests

/-!
# Strangers

A session that has no role and waits for no address is a stranger (`Stranger`). Whatever the
conductor does for others, it tells a stranger nothing but to close (`Stranger.adds`). A greeting
that is accepted puts `done` on the line of the session that it comes from, before anything else
(`line_handshake`), and no other operation queues a `done` for that session (`adds_after_greeting`).
-/

namespace Rendezvous.Conductor

variable {c c' : Conductor} {s s' : SessionId} {op : Operation} {name : String} {address : Address}
  {role : Role} {topics : List Topic}

/-! ## Greetings -/

/-- Answers to others leave a line as it is. -/
theorem line_reply_of_others {xs : List Answer} (h : ∀ x ∈ xs, x.session ≠ s) :
    (c.reply xs).line s = c.line s := by
  induction xs generalizing c with
  | nil => rfl
  | cons x rest ih =>
    have hpost := line_post c s x.session (.message (.addressReply x.node x.address))
    rw [if_neg (Ne.symm (h x List.mem_cons_self))] at hpost
    exact (ih fun y hy => h y (List.mem_cons_of_mem x hy)).trans hpost

/-- An accepted greeting queues `done` for the session that it comes from, and nothing for those
that do not wait for the role. -/
theorem line_handshake (hok : (c.handshake s' name address).2 = .ok role)
    (hs : s ∉ c.roster.parked role) : (c.handshake s' name address).1.line s =
      if s = s' then (c.line s).push (.message .done) else c.line s := by
  obtain ⟨roster, -, -, heq⟩ := handshake_answers hok
  have hothers : ∀ x ∈ (c.roster.parked role).map (⟨·, role, address⟩ : SessionId → Answer),
      x.session ≠ s := by
    intro x hx
    obtain ⟨s'', hs'', rfl⟩ := List.mem_map.mp hx
    rintro rfl
    exact hs hs''
  rw [heq, line_reply_of_others hothers, line_post]
  rfl

/-- A greeting may answer the requests of other sessions, and queues nothing else for them. -/
theorem adds_handshake_others (hs : s ≠ s') (name : String) (address : Address) :
    Adds [.address] c (c.handshake s' name address).1 s := by
  cases hok : (c.handshake s' name address).2 with
  | error e =>
    rw [handshake_error c s' name address hok]
    exact .of_lines rfl
  | ok role =>
    obtain ⟨roster, -, -, heq⟩ := handshake_answers hok
    rw [heq]
    refine .trans ?_ (adds_foldl_post _ s Answer.session
      (fun x => .message (.addressReply x.node x.address)) _ fun _ => List.mem_singleton.mpr rfl)
    refine .of_queued ?_
    rw [line_post, if_neg hs]
    rfl

theorem Operation.ne_handshake_of_plain (hp : op.isPlain = true) (name : String)
    (address : Address) : op ≠ .handshake s name address := by
  rintro rfl
  cases hp

/-- Only by its own greeting a session is told `done`. -/
theorem adds_after_greeting (ht : op.tends? ≠ some s)
    (hgreet : ∀ name address, op ≠ .handshake s name address) :
    Adds [.barrier, .address, .command, .close] c (c.after op) s := by
  cases op with
  | handshake s' name address =>
    have hne : s ≠ s' := fun h => hgreet name address (h ▸ rfl)
    exact (adds_handshake_others hne name address).mono (by simp)
  | _ => exact (adds_after c _ ht).mono (by simp [Operation.topics])

/-! ## Strangers -/

/-- The session has no role and waits for no address. -/
structure Stranger (c : Conductor) (s : SessionId) : Prop where
  unbound : ∀ r, c.roster.binds s r = false
  unparked : ∀ node, s ∉ c.roster.parked node

theorem Stranger.of_quiet {t : Option SessionId} (h : c.Stranger s) (hq : Quiet t c c') :
    c'.Stranger s :=
  ⟨hq.roster ▸ h.unbound, hq.roster ▸ h.unparked⟩

theorem barrier?_ne_none {o : Outbound} (h : o.topic = .barrier) : o.barrier? ≠ none := by
  cases o with
  | close => cases h
  | message m =>
    rw [Outbound.barrier?, if_pos ((Downlink.isBarrier_iff_topic m).mpr h)]
    exact Option.some_ne_none m

theorem demand?_ne_none {o : Outbound} (h : o.topic = .command) : o.demand? ≠ none := by
  cases o with
  | close => cases h
  | message m =>
    rw [Outbound.demand?, if_pos ((Downlink.isConfirmed_iff_topic m).mpr h)]
    exact Option.some_ne_none m

theorem demands_after_of_unbound (op : Operation) (ht : op.tends? ≠ some s)
    (h : ∀ r, c.roster.binds s r = false) : (c.after op).demands s = c.demands s := by
  by_cases hop : ∃ cmd, op = .issue cmd
  · obtain ⟨cmd, rfl⟩ := hop
    cases hx : c.errand? cmd with
    | none => exact demands_issue_of_none hx
    | some x =>
      refine ((issued_of_errand? hx).demands s).trans ?_
      rw [h, if_neg Bool.false_ne_true, List.append_nil]
  · exact demands_after c s op ht fun cmd hcmd => hop ⟨cmd, hcmd⟩

/-- An operation that neither a greeting nor a request of the stranger asks for tells it at most to
close. -/
theorem Stranger.adds (h : c.Stranger s) (ht : op.tends? ≠ some s)
    (hgreet : ∀ name address, op ≠ .handshake s name address)
    (hask : ∀ node, op ≠ .requestAddress s node) : Adds [.close] c (c.after op) s := by
  -- on barriers and commands a line shows nothing new, so nothing about them was queued
  have hheard : Adds ((op.topics.filter (· ≠ .barrier)).filter (· ≠ .command)) c (c.after op) s :=
    ((adds_after c op ht).without (spoken_after_of_unbound op ht h.unbound)
      fun _ => barrier?_ne_none).without (demands_after_of_unbound op ht h.unbound)
      fun _ => demand?_ne_none
  cases op with
  | handshake s' name address =>
    have hne : s ≠ s' := fun he => hgreet name address (he ▸ rfl)
    cases hok : (c.handshake s' name address).2 with
    | error e =>
      rw [after, handshake_error c s' name address hok]
      exact .of_lines rfl
    | ok role =>
      refine .of_queued ?_
      rw [after, line_handshake hok (h.unparked role), if_neg hne]
  | requestAddress s' node =>
    have hne : s ≠ s' := fun he => hask node (he ▸ rfl)
    refine .of_queued ?_
    rw [after, requestAddress]
    split
    · rw [line_post, if_neg hne]
    · rfl
  | _ => exact hheard.mono (by simp [Operation.topics])

/-- An operation that names no role and is no request of the stranger leaves it one. -/
theorem Stranger.of_plain (h : c.Stranger s) (hp : op.isPlain = true)
    (hask : ∀ node, op ≠ .requestAddress s node) : (c.after op).Stranger s := by
  refine ⟨fun r => Bool.eq_false_iff.mpr fun hb => ?_, fun node hnode => ?_⟩
  · have hbound := binds_of_plain hp hb
    rw [h.unbound] at hbound
    cases hbound
  · rcases mem_parked_of_plain hp hnode with hold | ⟨node', hop⟩
    · exact h.unparked node hold
    · exact hask node' hop

/-- A role is given to the session that greets, and nobody begins to wait. -/
theorem Stranger.handshake (h : c.Stranger s) (hs : s ≠ s')
    (hok : (c.handshake s' name address).2 = .ok role) :
    (c.handshake s' name address).1.Stranger s := by
  refine ⟨fun r => ?_, fun node hnode => ?_⟩
  · rw [binds_handshake hok, h.unbound, Bool.or_false]
    exact decide_eq_false fun hr => hs hr.2.symm
  · obtain ⟨roster, -, hwaiting, heq⟩ := handshake_answers hok
    rw [heq, reply_eq] at hnode
    have hparked : s ∈ roster.parked node := hnode
    rw [Roster.parked_of_erased hwaiting] at hparked
    split at hparked
    · cases hparked
    · exact h.unparked node hparked

theorem Stranger.sessionClosed (h : c.Stranger s) (hw : c.roster.waiting.Ordered) (s' : SessionId)
    (role : Option Role) : (c.sessionClosed s' role).Stranger s := by
  refine ⟨fun r => Bool.eq_false_iff.mpr fun hb => ?_, fun node hnode => ?_⟩
  · obtain ⟨b, hb, hs⟩ := Roster.binds_eq_true_iff.mp hb
    have hbound := Roster.binds_eq_true_iff.mpr ⟨b, (members_sessionClosed hb).1, hs⟩
    rw [h.unbound] at hbound
    cases hbound
  · rw [parked_sessionClosed hw] at hnode
    exact h.unparked node (List.mem_filter.mp hnode).1

end Rendezvous.Conductor
