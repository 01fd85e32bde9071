/-
# What one move does

A move takes out of the table exactly the requests in flight that it resolves, and whether
it resolves one is told by the move, the clock and how far the caller has come.  Who is told
something by a move, or retired, was taken out by it, and whoever is to be told something is
told it, or hears of it later, as long as the caller is there.

Each move is looked at once.  Most of them concern no entry or a single one, and two lemmas
put the whole effect together for these (`Effect.quiet`, `Effect.take`).
-/

import Mathlib.Data.List.Perm.Basic
import Parley.Proofs.Correlator.Retired

namespace Parley

namespace Stage

/-- Whether the request of a caller has been recorded. -/
def entered : Stage → Bool
  | .unused => false
  | .stamped .. => false
  | _ => true

/-- Whether the caller of a request is there to learn of the outcome: it sends the frame, or
it has a handle, or it waits. -/
def isAlive : Stage → Bool
  | .transmitting _ => true
  | .held _ => true
  | .waiting _ => true
  | _ => false

/-- Whether the caller of a request that was recorded has come to its end. -/
def isOver : Stage → Bool
  | .settled _ => true
  | .failed => true
  | .gone => true
  | _ => false

/-- A request that was recorded has a caller that is alive, or it is over with it. -/
theorem entered_eq (stage : Stage) : stage.entered = (stage.isAlive || stage.isOver) := by
  cases stage <;> rfl

/-- Nobody is there at the end. -/
theorem not_isAlive_of_isOver {stage : Stage} (h : stage.isOver = true) :
    stage.isAlive = false := by
  cases stage <;> first | rfl | cases h

end Stage

namespace Correlator.Session

open InFlight

variable {s after : Session} {move : Move}

/-- The ids of the requests in flight. -/
def pendingIds (s : Session) : List Int64 :=
  s.pending.map Prod.fst

/-- The outcomes that are due or were delivered. -/
def outcomes (s : Session) : List Delivery :=
  s.due ++ s.correlator.delivered

/-- The caller of a request is to be told this or was told it, or it has gone away. -/
def Informs (s : Session) (id : Int64) (verdict : Verdict) : Prop :=
  (id, verdict) ∈ s.outcomes ∨ s.stage id = .settled verdict ∨ s.stage id = .gone

/-- The move takes the entry of the request with this outcome out, and the outcome is what
the move means to its caller. -/
def Takes (s : Session) (move : Move) (outcome : Delivery) : Prop :=
  (s.happening move).resolves outcome.1 = true ∧
    ∃ expected, (outcome.1, expected) ∈ s.pending ∧
      move.verdict? outcome.1 expected = some outcome.2

/-- What comes of a move that records no request. -/
structure Effect (s after : Session) (move : Move) : Prop where
  recorded : after.recorded = s.recorded
  /-- The requests that the move resolves leave the table, and no others. -/
  pending : after.pending = s.pending.filter fun entry => !(s.happening move).resolves entry.1
  /-- Only these are given up by it. -/
  retired : ∀ id ∈ after.correlator.table.retiredIds,
    id ∈ s.correlator.table.retiredIds ∨
      (id ∈ s.pendingIds ∧ (s.happening move).resolves id = true)
  /-- Only they get an outcome by it, -/
  outcomes : ∀ outcome ∈ after.outcomes, outcome ∈ s.outcomes ∨ s.Takes move outcome
  /-- and a wait returns with such an outcome or with one that was there. -/
  settled : ∀ id verdict, after.stage id = .settled verdict →
    s.stage id = .settled verdict ∨ (id, verdict) ∈ s.outcomes ∨ s.Takes move (id, verdict)
  entered : ∀ id, (s.stage id).entered = true → (after.stage id).entered = true
  /-- What the move means to the caller of a request that it takes out is not withheld. -/
  taken : ∀ id ∈ s.pendingIds, (s.happening move).resolves id = true →
    ∃ expected, (id, expected) ∈ s.pending ∧
      ∀ verdict, move.verdict? id expected = some verdict → after.Informs id verdict
  /-- No outcome gets lost, but a caller may be told another one that was there for it. -/
  kept : ∀ id verdict, s.Informs id verdict →
    after.Informs id verdict ∨
      ∃ other, (id, other) ∈ s.outcomes ∧ after.stage id = .settled other

/-- A move that takes nothing out and resolves nothing that is in flight. -/
theorem Effect.quiet (hresolves : ∀ id ∈ s.pendingIds, (s.happening move).resolves id = false)
    (hrecorded : after.recorded = s.recorded)
    (hpending : after.pending = s.pending)
    (hretired : ∀ id ∈ after.correlator.table.retiredIds, id ∈ s.correlator.table.retiredIds)
    (houtcomes : ∀ outcome ∈ after.outcomes, outcome ∈ s.outcomes)
    (hsettled : ∀ id verdict, after.stage id = .settled verdict →
      s.stage id = .settled verdict ∨ (id, verdict) ∈ s.outcomes)
    (hentered : ∀ id, (s.stage id).entered = true → (after.stage id).entered = true)
    (hkept : ∀ id verdict, s.Informs id verdict →
      after.Informs id verdict ∨
        ∃ other, (id, other) ∈ s.outcomes ∧ after.stage id = .settled other) :
    Effect s after move where
  recorded := hrecorded
  pending := by
    rw [hpending]
    refine (List.filter_eq_self.2 fun entry hentry => ?_).symm
    rw [hresolves entry.1 (List.mem_map_of_mem hentry)]
    rfl
  retired id hid := Or.inl (hretired id hid)
  outcomes outcome houtcome := Or.inl (houtcomes outcome houtcome)
  settled id verdict h := (hsettled id verdict h).imp_right Or.inl
  entered := hentered
  taken id hid h := by
    rw [hresolves id hid] at h
    cases h
  kept := hkept

/-- A move that finds a request in flight and takes it out, with what it means to the
caller. -/
theorem Effect.take {id : Int64} {expected : Tag}
    (hresolves : ∀ other, (s.happening move).resolves other = (other == id))
    (hfound : (id, expected) ∈ s.pending) (hrecorded : after.recorded = s.recorded)
    (hpending : after.pending = s.pending.filter (·.1 != id))
    (hretired : ∀ other ∈ after.correlator.table.retiredIds,
      other ∈ s.correlator.table.retiredIds ∨ other = id)
    (houtcomes : ∀ outcome ∈ after.outcomes, outcome ∈ s.outcomes ∨
      (outcome.1 = id ∧ move.verdict? id expected = some outcome.2))
    (hsettled : ∀ other verdict, after.stage other = .settled verdict →
      s.stage other = .settled verdict ∨
        (other = id ∧ move.verdict? id expected = some verdict))
    (hentered : ∀ other, (s.stage other).entered = true → (after.stage other).entered = true)
    (htaken : ∀ verdict, move.verdict? id expected = some verdict → after.Informs id verdict)
    (hkept : ∀ other verdict, s.Informs other verdict → after.Informs other verdict) :
    Effect s after move where
  recorded := hrecorded
  pending := by
    rw [hpending]
    refine List.filter_congr fun entry _ => ?_
    rw [hresolves]
    rfl
  retired other hother := by
    rcases hretired other hother with hold | rfl
    · exact Or.inl hold
    · refine Or.inr ⟨List.mem_map_of_mem hfound, ?_⟩
      rw [hresolves, beq_self_eq_true]
  outcomes := by
    rintro ⟨other, verdict⟩ houtcome
    rcases houtcomes _ houtcome with hold | ⟨hid, hverdict⟩
    · exact Or.inl hold
    · obtain rfl : other = id := hid
      exact Or.inr ⟨by rw [hresolves, beq_self_eq_true], expected, hfound, hverdict⟩
  settled other verdict h := by
    rcases hsettled other verdict h with hold | ⟨rfl, hverdict⟩
    · exact Or.inl hold
    · exact Or.inr (Or.inr ⟨by rw [hresolves, beq_self_eq_true], expected, hfound, hverdict⟩)
  entered := hentered
  taken other hother h := by
    rw [hresolves] at h
    obtain rfl : other = id := eq_of_beq h
    exact ⟨expected, hfound, htaken⟩
  kept other verdict h := Or.inl (hkept other verdict h)

/-- A move that does nothing because it resolves nothing that is in flight. -/
theorem Effect.refl (hresolves : ∀ id ∈ s.pendingIds, (s.happening move).resolves id = false) :
    Effect s s move :=
  Effect.quiet hresolves rfl rfl (fun _ hid => hid) (fun _ houtcome => houtcome) (fun _ _ h => Or.inl h)
    (fun _ h => h) fun _ _ h => Or.inl h

/-! ### The stage of one caller -/

/-- A stage is set for one caller only. -/
theorem stage_setStage (s : Session) (id other : Int64) (stage : Stage) :
    (s.setStage id stage).stage other = if other = id then stage else s.stage other :=
  rfl

/-- Only the caller whose stage is set can have settled by it. -/
theorem settled_of_setStage {id other : Int64} {stage : Stage} {verdict : Verdict}
    (h : (s.setStage id stage).stage other = .settled verdict) :
    s.stage other = .settled verdict ∨ (other = id ∧ stage = .settled verdict) := by
  rw [stage_setStage] at h
  by_cases hother : other = id
  · rw [if_pos hother] at h
    exact Or.inr ⟨hother, h⟩
  · rw [if_neg hother] at h
    exact Or.inl h

/-- A caller whose request is recorded stays one. -/
theorem entered_setStage {id other : Int64} {stage : Stage} (hstage : stage.entered = true)
    (h : (s.stage other).entered = true) : ((s.setStage id stage).stage other).entered = true := by
  rw [stage_setStage]
  by_cases hother : other = id
  · rw [if_pos hother]
    exact hstage
  · rw [if_neg hother]
    exact h

/-- Who has been told or is to be told stays so when no stage changes and no outcome goes. -/
theorem Informs.of_stage_eq {id : Int64} {verdict : Verdict} (h : s.Informs id verdict)
    (hstage : after.stage = s.stage) (houtcomes : ∀ outcome ∈ s.outcomes, outcome ∈ after.outcomes) :
    after.Informs id verdict := by
  rw [Informs, hstage]
  exact h.imp_left (houtcomes _)

/-- Nor does it matter how far a caller comes that was not at its end. -/
theorem Informs.of_setStage {c : Correlator} {id other : Int64} {stage : Stage}
    {verdict : Verdict} (h : s.Informs other verdict) (hbefore : (s.stage id).isOver = false)
    (houtcomes : (other, verdict) ∈ s.outcomes → (other, verdict) ∈ s.due ++ c.delivered) :
    ({ s with correlator := c }.setStage id stage).Informs other verdict := by
  rcases h with hmem | hend
  · exact Or.inl (houtcomes hmem)
  · have hother : other ≠ id := by
      rintro rfl
      rcases hend with hsettled | hgone
      · rw [hsettled] at hbefore
        cases hbefore
      · rw [hgone] at hbefore
        cases hbefore
    rw [Informs, stage_setStage, if_neg hother]
    exact Or.inr hend

/-- A caller that comes further, but to no outcome. -/
theorem Effect.of_setStage {id : Int64} {stage : Stage}
    (hresolves : ∀ id, (s.happening move).resolves id = false)
    (hbefore : (s.stage id).isOver = false) (hsettled : ∀ verdict, stage ≠ .settled verdict)
    (hentered : stage.entered = true) : Effect s (s.setStage id stage) move := by
  refine Effect.quiet (fun other _ => hresolves other) rfl rfl (fun _ hid => hid) (fun _ houtcome => houtcome)
    (fun other verdict h => ?_) (fun other h => entered_setStage hentered h) fun other verdict h => ?_
  · rcases settled_of_setStage h with hold | ⟨-, hnew⟩
    · exact Or.inl hold
    · exact absurd hnew (hsettled verdict)
  · exact Or.inl (h.of_setStage hbefore fun hmem => hmem)

/-! ### The moves one by one -/

/-- To stamp a request takes the next id and records nothing. -/
theorem effect_stamp (request : Message) (timeout : Option Millis)
    (hfresh : s.stage s.correlator.nextId = .unused) :
    Effect s (s.move (.stamp request timeout)) (.stamp request timeout) := by
  rcases stamp_cases s.correlator request with
    ⟨ready, stamped, hid, hstamp⟩ | ⟨fault, refused, c, hc, hstamp⟩
  · have hunused : s.stage ready.id = .unused := by rw [hid, hfresh]
    simp only [Session.move, hstamp]
    refine Effect.quiet (fun _ _ => rfl) rfl rfl (fun _ hid => hid) (fun _ houtcome => houtcome)
      (fun other verdict h => ?_) (fun other h => ?_) fun other verdict h => ?_
    · rcases settled_of_setStage h with hold | ⟨-, hnew⟩
      · exact Or.inl hold
      · cases hnew
    · have hother : other ≠ ready.id := by
        rintro rfl
        rw [hunused] at h
        cases h
      rw [stage_setStage, if_neg hother]
      exact h
    · exact Or.inl (h.of_setStage (by rw [hunused]; rfl) fun hmem => hmem)
  · simp only [Session.move, hstamp]
    rcases hc with rfl | rfl <;>
      exact Effect.quiet (fun _ _ => rfl) rfl rfl (fun _ hid => hid) (fun _ houtcome => houtcome)
        (fun _ _ h => Or.inl h) (fun _ h => h) fun _ _ h => Or.inl h

/-- A move of the caller of `id` that its stage allows resolves this request only. -/
theorem beq_and_eq_beq {p : Stage → Bool} {id : Int64} (h : p (s.stage id) = true)
    (other : Int64) : (other == id && p (s.stage other)) = (other == id) := by
  by_cases hother : other = id
  · rw [hother, h, Bool.and_true]
  · rw [beq_eq_false_iff_ne.2 hother, Bool.false_and]

/-- A move of the caller of `id` that its stage does not allow resolves nothing. -/
theorem beq_and_eq_false {p : Stage → Bool} {id : Int64} (h : p (s.stage id) = false)
    (other : Int64) : (other == id && p (s.stage other)) = false := by
  by_cases hother : other = id
  · rw [hother, h, Bool.and_false]
  · rw [beq_eq_false_iff_ne.2 hother, Bool.false_and]

/-- A request that is in flight is not another one that is not. -/
theorem beq_eq_false_of_not_mem {id other : Int64} (hother : other ∈ s.pendingIds)
    (hid : id ∉ s.pendingIds) : (other == id) = false := by
  rw [beq_eq_false_iff_ne]
  rintro rfl
  exact hid hother

/-- A frame that cannot be sent takes its request out if it is in flight. -/
theorem effect_refused (id : Int64) : Effect s (s.move (.refused id)) (.refused id) := by
  cases hstage : s.stage id with
  | transmitting deadline =>
    have hresolves : ∀ other, (s.happening (.refused id)).resolves other = (other == id) :=
      beq_and_eq_beq (p := Stage.isSending) (by rw [hstage]; rfl)
    simp only [Session.move, hstage]
    exact {
      recorded := rfl
      pending := by
        refine List.filter_congr fun entry _ => ?_
        rw [hresolves]
        rfl
      retired := fun _ hid => Or.inl hid
      outcomes := fun _ houtcome => Or.inl houtcome
      settled := fun other verdict h => by
        rcases settled_of_setStage h with hold | ⟨-, hnew⟩
        · exact Or.inl hold
        · cases hnew
      entered := fun other h => entered_setStage rfl h
      taken := fun other hother _ => by
        obtain ⟨entry, hentry, rfl⟩ := List.mem_map.1 hother
        exact ⟨entry.2, hentry, fun verdict h => by cases h⟩
      kept := fun other verdict h =>
        Or.inl (h.of_setStage (by rw [hstage]; rfl) fun hmem => hmem) }
  | _ =>
    simp only [Session.move, hstage]
    exact Effect.refl fun other _ =>
      beq_and_eq_false (p := Stage.isSending) (by rw [hstage]; rfl) other

/-- What is owed is all that is new among the outcomes. -/
theorem mem_outcomes_owe {due : List Delivery} {c : Correlator} {outcome : Delivery}
    (hdelivered : c.delivered = s.correlator.delivered) :
    outcome ∈ (s.owe due c).outcomes ↔ outcome ∈ s.outcomes ∨ outcome ∈ due := by
  simp only [owe, outcomes, hdelivered, List.mem_append]
  exact or_right_comm

/-- A move that finds no request in flight owes nothing. -/
theorem effect_owe_nil {c : Correlator}
    (hresolves : ∀ id ∈ s.pendingIds, (s.happening move).resolves id = false)
    (hpending : c.table.pending = s.pending)
    (hretired : ∀ id ∈ c.table.retiredIds, id ∈ s.correlator.table.retiredIds)
    (hdelivered : c.delivered = s.correlator.delivered) : Effect s (s.owe [] c) move := by
  refine Effect.quiet hresolves rfl hpending hretired (fun outcome h => ?_) (fun _ _ h => Or.inl h)
    (fun _ h => h) fun id verdict h => Or.inl (h.of_stage_eq rfl fun outcome h => ?_)
  · exact ((mem_outcomes_owe hdelivered).1 h).resolve_right List.not_mem_nil
  · exact (mem_outcomes_owe hdelivered).2 (Or.inl h)

/-- A move that finds a request in flight owes its caller what it means. -/
theorem effect_owe_singleton {c : Correlator} {id : Int64} {expected : Tag} {verdict : Verdict}
    (hresolves : ∀ other, (s.happening move).resolves other = (other == id))
    (hfound : (id, expected) ∈ s.pending) (hpending : c.table.pending = s.pending.filter (·.1 != id))
    (hretired : ∀ other ∈ c.table.retiredIds,
      other ∈ s.correlator.table.retiredIds ∨ other = id)
    (hdelivered : c.delivered = s.correlator.delivered)
    (hverdict : move.verdict? id expected = some verdict) :
    Effect s (s.owe [(id, verdict)] c) move := by
  refine Effect.take hresolves hfound rfl hpending hretired (fun outcome h => ?_)
    (fun _ _ h => Or.inl h) (fun _ h => h) (fun told h => ?_)
    fun other told h => h.of_stage_eq rfl fun outcome h => ?_
  · refine ((mem_outcomes_owe hdelivered).1 h).imp_right fun hnew => ?_
    obtain rfl := List.mem_singleton.1 hnew
    exact ⟨rfl, hverdict⟩
  · obtain rfl : verdict = told := Option.some.inj (hverdict.symm.trans h)
    exact Or.inl ((mem_outcomes_owe hdelivered).2 (Or.inr List.mem_cons_self))
  · exact (mem_outcomes_owe hdelivered).2 (Or.inl h)

/-- A reply takes out its entry and gives the caller its outcome. -/
theorem effect_reply (message : Message) :
    Effect s (s.move (.reply message)) (.reply message) := by
  by_cases hreply : message.isReply = true
  · have hresolves : ∀ other,
        (s.happening (.reply message)).resolves other = (other == message.requestId) := by
      intro other
      change (message.isReply && other == message.requestId) = _
      rw [hreply, Bool.true_and]
    cases hfound : s.correlator.table.expected? message.requestId with
    | some expected =>
      simp only [Session.move, route_of_pending hreply hfound]
      exact effect_owe_singleton hresolves (mem_pending_of_expected? hfound) rfl
        (fun _ hother => Or.inl hother) rfl (by simp only [Move.verdict?, if_true])
    | none =>
      simp only [Session.move, route_of_not_pending hreply hfound]
      refine effect_owe_nil (fun other hother => ?_) rfl (fun other hother => ?_) rfl
      · rw [hresolves]
        exact beq_eq_false_of_not_mem hother (expected?_eq_none_iff.1 hfound)
      · obtain ⟨entry, hentry, rfl⟩ := List.mem_map.1 hother
        exact List.mem_map_of_mem (mem_recent.1 (List.mem_of_mem_filter hentry)).1
  · simp only [Session.move, route_of_not_isReply hreply]
    refine effect_owe_nil (fun other _ => ?_) rfl (fun _ hother => hother) rfl
    change (message.isReply && other == message.requestId) = false
    rw [Bool.eq_false_iff.2 hreply, Bool.false_and]

/-- A cancellation takes out its entry and tells the caller. -/
theorem effect_cancel (id : Int64) : Effect s (s.move (.cancel id)) (.cancel id) := by
  rcases giveUp_cases s.correlator id s.now with ⟨table, hretire, hgive⟩ | ⟨hretire, hgive⟩
  · obtain ⟨⟨expected, hmem⟩, hpending, hretired⟩ := retire?_eq_some hretire
    simp only [Session.move, hgive]
    exact effect_owe_singleton (fun _ => rfl) hmem hpending hretired rfl
      (by simp only [Move.verdict?, if_true])
  · simp only [Session.move, hgive]
    exact effect_owe_nil (fun _ hother => beq_eq_false_of_not_mem hother
      (retire?_eq_none_iff.1 hretire)) rfl (fun _ hother => hother) rfl

/-- The end of the connection takes out all entries and tells all callers. -/
theorem effect_close : Effect s (s.move .close) .close := by
  simp only [Session.move, drain]
  exact {
    recorded := rfl
    pending := (List.filter_eq_nil_iff.2 fun _ _ => Bool.false_ne_true).symm
    retired := fun _ hother => Or.inl hother
    outcomes := fun outcome h => by
      refine ((mem_outcomes_owe rfl).1 h).imp_right fun hnew => ?_
      obtain ⟨⟨id, expected⟩, hentry, rfl⟩ := List.mem_map.1 hnew
      exact ⟨rfl, expected, hentry, rfl⟩
    settled := fun _ _ h => Or.inl h
    entered := fun _ h => h
    taken := fun id hid _ => by
      obtain ⟨entry, hentry, rfl⟩ := List.mem_map.1 hid
      refine ⟨entry.2, hentry, fun verdict h => Or.inl ((mem_outcomes_owe rfl).2 (Or.inr ?_))⟩
      obtain rfl := Option.some.inj h
      exact List.mem_map.2 ⟨entry, hentry, rfl⟩
    kept := fun id verdict h =>
      Or.inl (h.of_stage_eq rfl fun _ hold => (mem_outcomes_owe rfl).2 (Or.inl hold)) }

/-- An outcome that was due has come. -/
theorem effect_deliver (index : Nat) : Effect s (s.move (.deliver index)) (.deliver index) := by
  cases hdue : s.due[index]? with
  | none =>
    simp only [Session.move, hdue]
    exact Effect.refl fun _ _ => rfl
  | some outcome =>
    -- The outcome that is delivered moves from one list to the other.
    have hmem : ∀ other, other ∈ s.due.eraseIdx index ++ (s.correlator.delivered ++ [outcome]) ↔
        other ∈ s.outcomes := by
      intro other
      obtain ⟨hindex, rfl⟩ := List.getElem?_eq_some_iff.1 hdue
      have hperm := (List.getElem_cons_eraseIdx_perm hindex).mem_iff (a := other)
      rw [List.mem_cons] at hperm
      rw [outcomes, List.mem_append, List.mem_append, List.mem_append, List.mem_singleton, ← hperm]
      tauto
    simp only [Session.move, hdue]
    refine Effect.quiet (fun _ _ => rfl) rfl rfl (fun _ hid => hid) (fun other h => (hmem other).1 h)
      (fun _ _ h => Or.inl h) (fun _ h => h) fun id verdict h => ?_
    exact Or.inl (h.of_stage_eq rfl fun other hold => (hmem other).2 hold)

/-- When the outcomes of one request are taken away, what is left was there, -/
theorem mem_outcomes_of_filter {id : Int64} {outcome : Delivery}
    (h : outcome ∈ s.due ++ s.correlator.delivered.filter (·.1 != id)) : outcome ∈ s.outcomes := by
  rcases List.mem_append.1 h with hdue | hdelivered
  · exact List.mem_append_left _ hdue
  · exact List.mem_append_right _ (List.mem_of_mem_filter hdelivered)

/-- and those of the others are left. -/
theorem mem_filter_of_outcomes {id other : Int64} {verdict : Verdict} (hne : other ≠ id)
    (h : (other, verdict) ∈ s.outcomes) :
    (other, verdict) ∈ s.due ++ s.correlator.delivered.filter (·.1 != id) := by
  rcases List.mem_append.1 h with hdue | hdelivered
  · exact List.mem_append_left _ hdue
  · exact List.mem_append_right _ (List.mem_filter.2 ⟨hdelivered, bne_iff_ne.2 hne⟩)

/-- Dropping a handle takes the request out if it is in flight, and its caller is told
nothing. -/
theorem effect_abandon {id : Int64}
    (hresolves : ∀ other, (s.happening move).resolves other = (other == id))
    (hverdict : ∀ other expected, move.verdict? other expected = none)
    (hbefore : (s.stage id).isOver = false) :
    Effect s ({ s with correlator := s.correlator.abandon id s.now }.setStage id .gone) move where
  recorded := rfl
  pending := by
    refine (pending_abandon s.correlator id s.now).trans (List.filter_congr fun entry _ => ?_)
    rw [hresolves]
    rfl
  retired other hother := by
    refine (mem_retiredIds_abandon hother).imp_right ?_
    rintro ⟨rfl, hmem⟩
    exact ⟨hmem, by rw [hresolves, beq_self_eq_true]⟩
  outcomes outcome h := by
    change outcome ∈ s.due ++ (s.correlator.abandon id s.now).delivered at h
    rw [delivered_abandon] at h
    exact Or.inl (mem_outcomes_of_filter h)
  settled other verdict h := by
    rcases settled_of_setStage h with hold | ⟨-, hnew⟩
    · exact Or.inl hold
    · cases hnew
  entered other h := entered_setStage rfl h
  taken other hother _ := by
    obtain ⟨entry, hentry, rfl⟩ := List.mem_map.1 hother
    refine ⟨entry.2, hentry, fun verdict h => ?_⟩
    rw [hverdict] at h
    cases h
  kept other verdict h := by
    by_cases hother : other = id
    · refine Or.inl (Or.inr (Or.inr ?_))
      rw [stage_setStage, if_pos hother]
    · refine Or.inl (h.of_setStage hbefore fun hmem => ?_)
      rw [delivered_abandon]
      exact mem_filter_of_outcomes hother hmem

/-- A caller that drops its handle or its wait takes its entry out and is gone. -/
theorem effect_drop (id : Int64) : Effect s (s.move (.drop id)) (.drop id) := by
  have dropped : (s.stage id).hasHandle = true → (s.stage id).isOver = false →
      Effect s ({ s with correlator := s.correlator.abandon id s.now }.setStage id .gone)
        (.drop id) := fun hhandle hbefore =>
    effect_abandon (beq_and_eq_beq (p := Stage.hasHandle) hhandle) (fun _ _ => rfl) hbefore
  cases hstage : s.stage id with
  | held deadline =>
    rw [hstage] at dropped
    simp only [Session.move, hstage]
    exact dropped rfl rfl
  | waiting deadline =>
    rw [hstage] at dropped
    simp only [Session.move, hstage]
    exact dropped rfl rfl
  | _ =>
    simp only [Session.move, hstage]
    exact Effect.refl fun other _ =>
      beq_and_eq_false (p := Stage.hasHandle) (by rw [hstage]; rfl) other

/-- A caller that looks for its outcome takes its request out when the deadline has passed.
An outcome that has come is looked at first or last, which makes no difference because its
request is in flight no more. -/
theorem effect_poll (hfree : ∀ id, (s.correlator.delivered.lookup id).isSome → id ∉ s.pendingIds)
    (id : Int64) (clockFirst : Bool) :
    Effect s (s.move (.poll id clockFirst)) (.poll id clockFirst) := by
  cases hstage : s.stage id with
  | waiting deadline =>
    have hbefore : (s.stage id).isOver = false := by rw [hstage]; rfl
    have hunresolved : id ∉ s.pendingIds → ∀ other ∈ s.pendingIds,
        (s.happening (.poll id clockFirst)).resolves other = false := by
      intro hid other hother
      change (other == id && _) = false
      rw [beq_eq_false_of_not_mem hother hid, Bool.false_and]
    rcases poll_cases s.correlator id deadline s.now clockFirst with
      ⟨verdict, hlook, hpoll⟩ | ⟨table, hpassed, hretire, hpoll⟩ | ⟨hstrike, hpoll⟩
    · have hmem : (id, verdict) ∈ s.outcomes := List.mem_append_right _ (mem_of_lookup hlook)
      simp only [Session.move, hstage, hpoll]
      refine Effect.quiet (hunresolved (hfree id (by rw [hlook]; rfl))) rfl rfl (fun _ hid => hid)
        (fun _ h => mem_outcomes_of_filter h) (fun other told h => ?_)
        (fun other h => entered_setStage rfl h) fun other told h => ?_
      · rcases settled_of_setStage h with hold | ⟨rfl, hnew⟩
        · exact Or.inl hold
        · cases hnew
          exact Or.inr hmem
      · by_cases hother : other = id
        · subst hother
          refine Or.inr ⟨verdict, hmem, ?_⟩
          rw [stage_setStage, if_pos rfl]
        · exact Or.inl (h.of_setStage hbefore (mem_filter_of_outcomes hother))
    · obtain ⟨⟨expected, hmem⟩, hpending, hretired⟩ := retire?_eq_some hretire
      have hresolves : ∀ other,
          (s.happening (.poll id clockFirst)).resolves other = (other == id) :=
        beq_and_eq_beq (p := Stage.isOverdue s.now) (by rw [hstage]; exact hpassed)
      have hverdict : (Move.poll id clockFirst).verdict? id expected = some (.error .timeout) := by
        simp only [Move.verdict?, if_true]
      simp only [Session.move, hstage, hpoll]
      refine Effect.take hresolves hmem rfl hpending hretired (fun _ houtcome => Or.inl houtcome)
        (fun other told h => ?_) (fun other h => entered_setStage rfl h) (fun told h => ?_)
        fun other told h => h.of_setStage hbefore fun hmem => hmem
      · rcases settled_of_setStage h with hold | ⟨rfl, hnew⟩
        · exact Or.inl hold
        · cases hnew
          exact Or.inr ⟨rfl, hverdict⟩
      · cases hverdict.symm.trans h
        refine Or.inr (Or.inl ?_)
        rw [stage_setStage, if_pos rfl]
    · simp only [Session.move, hstage, hpoll]
      refine Effect.refl fun other hother => ?_
      by_cases hpassed : (deadline.any fun deadline => decide (deadline ≤ s.now)) = true
      · exact hunresolved (retire?_eq_none_iff.1 (hstrike hpassed)) other hother
      · refine beq_and_eq_false (p := Stage.isOverdue s.now) ?_ other
        rw [hstage]
        exact Bool.eq_false_iff.2 hpassed
  | _ =>
    simp only [Session.move, hstage]
    exact Effect.refl fun other _ =>
      beq_and_eq_false (p := Stage.isOverdue s.now) (by rw [hstage]; rfl) other

/-- A caller whose request is stamped has it recorded. -/
theorem move_enter {id : Int64} {expected : Tag} {timeout : Option Millis}
    (hstage : s.stage id = .stamped expected timeout) :
    s.move (.enter id) =
      { s with
        correlator := s.correlator.enter id expected
        recorded := s.recorded ++ [(id, expected)] }.setStage id
          (.transmitting (timeout.map (s.now + ·))) := by
  simp only [Session.move, hstage]

/-- Any other caller does not. -/
theorem move_enter_of_ne {id : Int64}
    (hstage : ∀ expected timeout, s.stage id ≠ .stamped expected timeout) :
    s.move (.enter id) = s := by
  cases h : s.stage id with
  | stamped expected timeout => exact absurd h (hstage expected timeout)
  | _ => simp only [Session.move, h]

/-- Every move that records no request has an effect of this kind, provided that the next id
is free and no request with an outcome is in flight. -/
theorem effect_move (hfresh : move.takesId = true → s.stage s.correlator.nextId = .unused)
    (hfree : ∀ id, (s.correlator.delivered.lookup id).isSome → id ∉ s.pendingIds)
    (henter : ∀ id expected timeout, move = .enter id → s.stage id ≠ .stamped expected timeout) :
    Effect s (s.move move) move := by
  have quiet : ∀ {after : Session} {move : Move}, (∀ id, (s.happening move).resolves id = false) →
      after.recorded = s.recorded → after.correlator.table = s.correlator.table →
      after.stage = s.stage → after.outcomes = s.outcomes → Effect s after move := by
    intro after move hresolves hrecorded htable hstage houtcomes
    refine Effect.quiet (fun id _ => hresolves id) hrecorded (congrArg InFlight.pending htable)
      (fun id hid => htable ▸ hid) (fun outcome h => houtcomes ▸ h) (fun id verdict h => ?_)
      (fun id h => ?_) fun id verdict h => ?_
    · exact Or.inl (hstage ▸ h)
    · exact hstage.symm ▸ h
    · exact Or.inl (h.of_stage_eq hstage fun outcome hmem => houtcomes.symm ▸ hmem)
  cases move with
  | stamp request timeout => exact effect_stamp request timeout (hfresh rfl)
  | skip => exact quiet (fun _ => rfl) rfl rfl rfl rfl
  | enter id =>
    rw [move_enter_of_ne fun expected timeout => henter id expected timeout rfl]
    exact Effect.refl fun _ _ => rfl
  | transmitted id =>
    simp only [Session.move]
    split
    next deadline hstage =>
      exact Effect.of_setStage (fun _ => rfl) (by rw [hstage]; rfl) (by simp) rfl
    next => exact Effect.refl fun _ _ => rfl
  | refused id => exact effect_refused id
  | forsake id =>
    simp only [Session.move]
    split
    next deadline hstage =>
      exact Effect.of_setStage (fun _ => rfl) (by rw [hstage]; rfl) (by simp) rfl
    next => exact Effect.refl fun _ _ => rfl
  | reply message => exact effect_reply message
  | cancel id => exact effect_cancel id
  | close => exact effect_close
  | deliver index => exact effect_deliver index
  | wait id =>
    simp only [Session.move]
    split
    next deadline hstage =>
      exact Effect.of_setStage (fun _ => rfl) (by rw [hstage]; rfl) (by simp) rfl
    next => exact Effect.refl fun _ _ => rfl
  | drop id => exact effect_drop id
  | poll id clockFirst => exact effect_poll hfree id clockFirst
  | pass span => exact quiet (fun _ => rfl) rfl rfl rfl rfl

end Correlator.Session

end Parley
