/-
# Every request is resolved once

What a history tells about a request is what the session knows of it.  The requests in
flight are those that were recorded and that nothing has resolved since, and the move that
took an entry out is the first one that resolved its request.  The history is written
without a look at the table, so this says which moves take which entries out and that they
do (`run_resolves_once`).
-/

import Parley.Proofs.Correlator.Session

namespace Parley

namespace Correlator

variable {history : List Happening} {last : Happening} {id : Int64}

/-! ### One happening more -/

/-- A history that ends with something splits there, or before. -/
theorem append_singleton_eq_append_cons {α : Type} {entries before after : List α}
    {last entry : α} :
    entries ++ [last] = before ++ entry :: after ↔
      (entries = before ∧ last = entry ∧ after = []) ∨
        ∃ rest, after = rest ++ [last] ∧ entries = before ++ entry :: rest := by
  constructor
  · intro heq
    rcases List.eq_nil_or_concat after with rfl | ⟨rest, final, rfl⟩
    · obtain ⟨hbefore, hlast⟩ := List.append_inj' heq rfl
      exact Or.inl ⟨hbefore, List.singleton_inj.1 hlast, rfl⟩
    · rw [List.concat_eq_append, ← List.cons_append, ← List.append_assoc] at heq
      obtain ⟨hbefore, hlast⟩ := List.append_inj' heq rfl
      obtain rfl := List.singleton_inj.1 hlast
      exact Or.inr ⟨rest, List.concat_eq_append, hbefore⟩
  · rintro (⟨rfl, rfl, rfl⟩ | ⟨rest, rfl, rfl⟩)
    · rfl
    · rw [List.append_assoc, List.cons_append]

/-- What holds of all but one holds of all with that one. -/
theorem forall_mem_append_singleton {α : Type} {p : α → Prop} {entries : List α} {last : α} :
    (∀ entry ∈ entries ++ [last], p entry) ↔ (∀ entry ∈ entries, p entry) ∧ p last := by
  rw [List.forall_mem_append, List.forall_mem_singleton]

/-- A request is unresolved when it has just been recorded, or when it was so before and the
last happening does not resolve it. -/
theorem unresolved_append {expected : Tag} :
    Unresolved (history ++ [last]) id expected ↔
      last.Records id expected ∨ (Unresolved history id expected ∧ last.resolves id = false) := by
  constructor
  · rintro ⟨before, recording, after, heq, hrecords, hsince⟩
    rcases append_singleton_eq_append_cons.1 heq with ⟨-, rfl, -⟩ | ⟨rest, rfl, rfl⟩
    · exact Or.inl hrecords
    · obtain ⟨hrest, hlast⟩ := forall_mem_append_singleton.1 hsince
      exact Or.inr ⟨⟨before, recording, rest, rfl, hrecords, hrest⟩, hlast⟩
  · rintro (hrecords | ⟨⟨before, recording, rest, rfl, hrecords, hrest⟩, hlast⟩)
    · exact ⟨history, last, [], rfl, hrecords, fun later hlater => absurd hlater List.not_mem_nil⟩
    · refine ⟨before, recording, rest ++ [last], ?_, hrecords, ?_⟩
      · rw [List.append_assoc, List.cons_append]
      · exact forall_mem_append_singleton.2 ⟨hrest, hlast⟩

/-- A request is resolved by the last happening or was resolved before. -/
theorem resolvedBy_append {happening : Happening} :
    ResolvedBy (history ++ [last]) id happening ↔
      ResolvedBy history id happening ∨
        (happening = last ∧ (∃ expected, Unresolved history id expected) ∧
          last.resolves id = true) := by
  constructor
  · rintro ⟨before, after, heq, hopen, hresolves⟩
    rcases append_singleton_eq_append_cons.1 heq with ⟨rfl, rfl, -⟩ | ⟨rest, -, rfl⟩
    · exact Or.inr ⟨rfl, hopen, hresolves⟩
    · exact Or.inl ⟨before, rest, rfl, hopen, hresolves⟩
  · rintro (⟨before, rest, rfl, hopen, hresolves⟩ | ⟨rfl, hopen, hresolves⟩)
    · refine ⟨before, rest ++ [last], ?_, hopen, hresolves⟩
      rw [List.append_assoc, List.cons_append]
    · exact ⟨history, [], rfl, hopen, hresolves⟩

/-- The last happening makes a request outstanding, or it was so before and the happening is
no reply for it. -/
theorem outstanding_append {moment : Millis} :
    Outstanding (history ++ [last]) id moment ↔
      ((∃ expected, Unresolved history id expected) ∧ last.GivesUp id ∧ last.moment = moment) ∨
        (Outstanding history id moment ∧ ¬ last.Answers id) := by
  constructor
  · rintro ⟨before, happening, after, heq, hopen, hgives, hmoment, hsince⟩
    rcases append_singleton_eq_append_cons.1 heq with ⟨rfl, rfl, -⟩ | ⟨rest, rfl, rfl⟩
    · exact Or.inl ⟨hopen, hgives, hmoment⟩
    · obtain ⟨hrest, hlast⟩ := forall_mem_append_singleton.1 hsince
      exact Or.inr ⟨⟨before, happening, rest, rfl, hopen, hgives, hmoment, hrest⟩, hlast⟩
  · rintro (⟨hopen, hgives, hmoment⟩ | ⟨⟨before, happening, rest, rfl, hopen, hgives, hmoment,
      hrest⟩, hlast⟩)
    · exact ⟨history, last, [], rfl, hopen, hgives, hmoment,
        fun later hlater => absurd hlater List.not_mem_nil⟩
    · refine ⟨before, happening, rest ++ [last], ?_, hopen, hgives, hmoment, ?_⟩
      · rw [List.append_assoc, List.cons_append]
      · exact forall_mem_append_singleton.2 ⟨hrest, hlast⟩

/-- A request that is outstanding was resolved. -/
theorem Outstanding.exists_resolvedBy {moment : Millis} (h : Outstanding history id moment) :
    ∃ happening, ResolvedBy history id happening := by
  obtain ⟨before, happening, after, heq, hopen, hgives, -⟩ := h
  exact ⟨happening, before, after, heq, hopen, hgives.2⟩

/-- A history with one happening more gives out the id after the next one, or the same. -/
theorem nextIdAfter_append :
    nextIdAfter (history ++ [last]) =
      if last.move.spendsId then nextIdAfter history + 1 else nextIdAfter history := by
  rw [nextIdAfter, nextIdAfter, List.countP_append, List.countP_singleton]
  cases last.move.spendsId with
  | false => rfl
  | true =>
    simp only [if_true]
    rw [Int64.ofNat_add (history.countP _ + 1) 1]
    rfl

/-- A request that was stamped is so after whatever happens. -/
theorem Stamped.append {expected : Tag} {timeout : Option Millis}
    (h : Stamped history id expected timeout) :
    Stamped (history ++ [last]) id expected timeout := by
  obtain ⟨before, stamping, after, request, rfl, hmove, hexpected, hid⟩ := h
  refine ⟨before, stamping, after ++ [last], request, ?_, hmove, hexpected, hid⟩
  rw [List.append_assoc, List.cons_append]

namespace Session

variable {s after : Session} {removals : List (Int64 × Move)}

/-! ### The caller of a request in flight -/

/-- What is set for one caller is set for no other. -/
theorem stage_setStage_of_ne {other : Int64} {stage : Stage} (hne : id ≠ other) :
    (s.setStage other stage).stage id = s.stage id := by
  rw [stage_setStage, if_neg hne]

/-- A move of another caller, or one that its caller has not come far enough for, does not
concern a request that it does not resolve. -/
theorem ne_of_resolves_eq_false {p : Stage → Bool} {other : Int64}
    (hresolves : (id == other && p (s.stage id)) = false) (hother : p (s.stage other) = true) :
    id ≠ other := by
  rintro rfl
  rw [beq_self_eq_true, Bool.true_and, hother] at hresolves
  cases hresolves

/-- A caller that looks for its outcome leaves the caller of another request, or of one that it
does not resolve, where it is. -/
theorem stage_poll_of_pending {other : Int64} {clockFirst : Bool} (h : Accounted s removals)
    (hpending : id ∈ s.pendingIds)
    (hresolves : (s.happening (.poll other clockFirst)).resolves id = false) :
    (s.move (.poll other clockFirst)).stage id = s.stage id := by
  cases hstage : s.stage other with
  | waiting deadline =>
    rcases poll_cases s.correlator other deadline s.now clockFirst with
      ⟨verdict, hlook, hpoll⟩ | ⟨table, hpassed, -, hpoll⟩ | ⟨-, hpoll⟩
    · have hne : id ≠ other := by
        rintro rfl
        exact h.not_mem_pendingIds (by rw [hlook]; rfl) hpending
      simp only [Session.move, hstage, hpoll]
      exact stage_setStage_of_ne hne
    · have hne : id ≠ other :=
        ne_of_resolves_eq_false (p := Stage.isOverdue s.now) hresolves
          (by rw [hstage]; exact hpassed)
      simp only [Session.move, hstage, hpoll]
      exact stage_setStage_of_ne hne
    · simp only [Session.move, hstage, hpoll]
  | _ => simp only [Session.move, hstage]

/-- How far the caller of a request in flight comes by a move that does not resolve it is told
by the move alone. -/
theorem stage_move_of_pending {move : Move} (h : Accounted s removals)
    (hfresh : move.takesId = true → s.stage s.correlator.nextId = .unused)
    (hpending : id ∈ s.pendingIds) (hresolves : (s.happening move).resolves id = false) :
    (s.move move).stage id = move.advance id (s.stage id) := by
  have hentered : (s.stage id).entered = true := by
    obtain ⟨request, hrequest, rfl⟩ := List.mem_map.1 hpending
    exact h.entered request (h.mem_recorded hrequest)
  cases move with
  | stamp request timeout =>
    rcases stamp_cases s.correlator request with
      ⟨ready, stamped, hid, hstamp⟩ | ⟨fault, refused, c, -, hstamp⟩
    · have hne : id ≠ ready.id := by
        rintro rfl
        rw [hid, hfresh rfl] at hentered
        cases hentered
      simp only [Session.move, hstamp]
      exact stage_setStage_of_ne hne
    · simp only [Session.move, hstamp, Move.advance]
  | skip | reply message | cancel other | close | pass span => rfl
  | enter other =>
    cases hstage : s.stage other with
    | stamped expected timeout =>
      have hne : id ≠ other := by
        rintro rfl
        rw [hstage] at hentered
        cases hentered
      rw [move_enter hstage]
      exact stage_setStage_of_ne hne
    | _ => simp only [Session.move, hstage, Move.advance]
  | deliver index =>
    simp only [Session.move, Move.advance]
    cases s.due[index]? <;> rfl
  | transmitted other | forsake other | wait other =>
    by_cases hid : id = other
    · subst hid
      simp only [Session.move, Move.advance]
      cases hstage : s.stage id <;> simp [hstage, stage_setStage]
    · simp only [Session.move, Move.advance, if_neg hid]
      cases s.stage other <;> simp [stage_setStage, hid] <;> cases s.stage id <;> rfl
  | refused other =>
    cases hstage : s.stage other with
    | transmitting deadline =>
      have hne : id ≠ other :=
        ne_of_resolves_eq_false (p := Stage.isSending) hresolves (by rw [hstage]; rfl)
      simp only [Session.move, hstage]
      exact stage_setStage_of_ne hne
    | _ => simp only [Session.move, hstage, Move.advance]
  | drop other =>
    have dropped : (s.stage other).hasHandle = true → id ≠ other :=
      ne_of_resolves_eq_false (p := Stage.hasHandle) hresolves
    cases hstage : s.stage other with
    | held deadline | waiting deadline =>
      rw [hstage] at dropped
      simp only [Session.move, hstage]
      exact stage_setStage_of_ne (dropped rfl)
    | _ => simp only [Session.move, hstage, Move.advance]
  | poll other clockFirst => exact stage_poll_of_pending h hpending hresolves

/-! ### The request that got an id -/

/-- Every move gives the next id out or none, as the move itself tells. -/
theorem nextId_move (s : Session) (move : Move) :
    (s.move move).correlator.nextId =
      if move.spendsId then s.correlator.nextId + 1 else s.correlator.nextId := by
  cases move with
  | stamp request timeout =>
    rw [Move.spendsId, ← nextId_stamp]
    simp only [Session.move]
    rcases s.correlator.stamp request with ⟨stamped, fault | ready, c⟩ <;> rfl
  | skip => rfl
  | _ => exact (keeps_move rfl).nextId

/-- A caller whose stage was set to something else had its request stamped before. -/
theorem stamped_of_setStage {other : Int64} {stage : Stage} {expected : Tag}
    {timeout : Option Millis} (hother : stage ≠ .stamped expected timeout)
    (h : (s.setStage other stage).stage id = .stamped expected timeout) :
    s.stage id = .stamped expected timeout := by
  rw [stage_setStage] at h
  split at h
  · exact absurd h hother
  · exact h

/-- A caller that has its request stamped had so before, or it got the next id by this move. -/
theorem stamped_or_of_move {move : Move} {expected : Tag} {timeout : Option Millis}
    (h : (s.move move).stage id = .stamped expected timeout) :
    s.stage id = .stamped expected timeout ∨
      ∃ request, move = .stamp request timeout ∧ request.expectedReply? = some expected ∧
        s.correlator.nextId = id := by
  cases move with
  | stamp request given =>
    rcases stamp_cases s.correlator request with
      ⟨ready, stamped, hid, hstamp⟩ | ⟨fault, refused, c, -, hstamp⟩
    · simp only [Session.move, hstamp, stage_setStage] at h
      split at h
      next heq =>
        cases h
        exact .inr ⟨request, rfl, expectedReply?_of_stamp hstamp, hid.symm.trans heq.symm⟩
      next => exact .inl h
    · simp only [Session.move, hstamp] at h
      exact .inl h
  | skip | reply message | cancel other | close | pass span => exact .inl h
  | enter other | transmitted other | refused other | forsake other | wait other | drop other =>
    simp only [Session.move] at h
    split at h <;> first
      | exact .inl (stamped_of_setStage (by simp) h)
      | exact .inl h
  | deliver index =>
    simp only [Session.move] at h
    split at h <;> exact .inl h
  | poll other clockFirst =>
    simp only [Session.move] at h
    split at h
    · split at h
      · exact .inl (stamped_of_setStage (by simp) h)
      · exact .inl h
    · exact .inl h

/-! ### A session and its history -/

/-- What the history of a session tells of its requests. -/
structure Traced (s : Session) (removals : List (Int64 × Move)) (history : List Happening) :
    Prop where
  recorded : ∀ id expected, (id, expected) ∈ s.recorded ↔
    ∃ happening ∈ history, happening.Records id expected
  pending : ∀ id expected, (id, expected) ∈ s.pending ↔ Unresolved history id expected
  removals : ∀ id move, (id, move) ∈ removals ↔
    ∃ happening, ResolvedBy history id happening ∧ happening.move = move

/-- A request is in flight when the history tells that nothing has resolved it. -/
theorem Traced.mem_pendingIds (h : Traced s removals history) :
    id ∈ s.pendingIds ↔ ∃ expected, Unresolved history id expected := by
  constructor
  · intro hmem
    obtain ⟨⟨other, expected⟩, hentry, rfl⟩ := List.mem_map.1 hmem
    exact ⟨expected, (h.pending other expected).1 hentry⟩
  · rintro ⟨expected, hopen⟩
    exact List.mem_map_of_mem ((h.pending id expected).2 hopen)

/-- A happening records a request when its caller has it stamped. -/
theorem records_happening {move : Move} {expected : Tag} :
    (s.happening move).Records id expected ↔
      move = .enter id ∧ ∃ timeout, s.stage id = .stamped expected timeout :=
  Iff.rfl

/-- The history still tells what there is after a move that records no request. -/
theorem Traced.of_effect {move : Move} (h : Traced s removals history) (heffect : Effect s after move)
    (henter : ∀ id expected, ¬ (s.happening move).Records id expected) :
    Traced after (removals ++ (s.removedBy after).map fun id => (id, move))
      (history ++ [s.happening move]) where
  recorded id expected := by
    rw [heffect.recorded, h.recorded]
    constructor
    · rintro ⟨happening, hmem, hrecords⟩
      exact ⟨happening, List.mem_append_left _ hmem, hrecords⟩
    · rintro ⟨happening, hmem, hrecords⟩
      rcases List.mem_append.1 hmem with hold | hnew
      · exact ⟨happening, hold, hrecords⟩
      · obtain rfl := List.mem_singleton.1 hnew
        exact absurd hrecords (henter id expected)
  pending id expected := by
    rw [heffect.pending, List.mem_filter, h.pending, unresolved_append, Bool.not_eq_true']
    constructor
    · exact Or.inr
    · intro hopen
      exact hopen.resolve_left (henter id expected)
  removals id other := by
    rw [List.mem_append, h.removals, heffect.removedBy_eq]
    simp only [resolvedBy_append]
    constructor
    · rintro (⟨happening, hresolved, hmove⟩ | hnew)
      · exact ⟨happening, Or.inl hresolved, hmove⟩
      · obtain ⟨gone, hgone, heq⟩ := List.mem_map.1 hnew
        cases heq
        obtain ⟨hpending, hresolves⟩ := List.mem_filter.1 hgone
        exact ⟨s.happening move, Or.inr ⟨rfl, h.mem_pendingIds.1 hpending, hresolves⟩, rfl⟩
    · rintro ⟨happening, hresolved | ⟨rfl, hopen, hresolves⟩, hmove⟩
      · exact Or.inl ⟨happening, hresolved, hmove⟩
      · obtain rfl : move = other := hmove
        refine Or.inr (List.mem_map.2 ⟨id, List.mem_filter.2 ⟨?_, hresolves⟩, rfl⟩)
        exact h.mem_pendingIds.2 hopen

/-- It tells as well what there is after a request is recorded. -/
theorem Traced.enter (h : Traced s removals history) (haccounted : Accounted s removals)
    {expected : Tag} {timeout : Option Millis} (hstage : s.stage id = .stamped expected timeout) :
    Traced (s.move (.enter id)) removals (history ++ [s.happening (.enter id)]) := by
  have hresolves : ∀ other, (s.happening (.enter id)).resolves other = false := fun _ => rfl
  have hrecords : ∀ other tag, (s.happening (.enter id)).Records other tag ↔
      (other, tag) = (id, expected) := by
    intro other tag
    rw [records_happening, Prod.mk.injEq]
    constructor
    · rintro ⟨heq, timeout', hstamped⟩
      cases heq
      rw [hstage] at hstamped
      cases hstamped
      exact ⟨rfl, rfl⟩
    · rintro ⟨rfl, rfl⟩
      exact ⟨rfl, timeout, hstage⟩
  exact {
    recorded := fun other tag => by
      have hrecorded : (s.move (.enter id)).recorded = s.recorded ++ [(id, expected)] := by
        rw [move_enter hstage]
        rfl
      rw [hrecorded, List.mem_append, List.mem_singleton, h.recorded, ← hrecords]
      constructor
      · rintro (⟨happening, hmem, hold⟩ | hnew)
        · exact ⟨happening, List.mem_append_left _ hmem, hold⟩
        · exact ⟨s.happening (.enter id), List.mem_append_right _ List.mem_cons_self, hnew⟩
      · rintro ⟨happening, hmem, hrecorded⟩
        rcases List.mem_append.1 hmem with hold | hnew
        · exact Or.inl ⟨happening, hold, hrecorded⟩
        · obtain rfl := List.mem_singleton.1 hnew
          exact Or.inr hrecorded
    pending := fun other tag => by
      rw [haccounted.pending_enter hstage, List.mem_append, List.mem_singleton, h.pending,
        unresolved_append, hrecords, hresolves, or_comm]
      simp only [and_true]
    removals := fun other move => by
      rw [h.removals]
      refine exists_congr fun happening => and_congr_left fun _ => ?_
      rw [resolvedBy_append, hresolves]
      simp only [Bool.false_eq_true, and_false, or_false] }

/-- What the history tells is kept by every move. -/
theorem Traced.move (h : Traced s removals history) (haccounted : Accounted s removals)
    {move : Move} (hfresh : move.takesId = true → s.stage s.correlator.nextId = .unused) :
    Traced (s.move move) (removals ++ (s.removedBy (s.move move)).map fun id => (id, move))
      (history ++ [s.happening move]) := by
  by_cases henter : ∃ id expected, (s.happening move).Records id expected
  · obtain ⟨id, expected, heq, timeout, hstage⟩ := henter
    obtain rfl : move = .enter id := heq
    rw [haccounted.removedBy_enter hstage, List.map_nil, List.append_nil]
    exact h.enter haccounted hstage
  · refine h.of_effect (effect_move hfresh (fun _ => haccounted.not_mem_pendingIds) ?_) ?_
    · intro id expected timeout heq hstage
      exact henter ⟨id, expected, heq, timeout, hstage⟩
    · intro id expected hrecords
      exact henter ⟨id, expected, hrecords⟩

/-- The records of a session and its history side by side. -/
structure Chronicled (s : Session) (removals : List (Int64 × Move)) (history : List Happening) :
    Prop where
  accounted : Accounted s removals
  traced : Traced s removals history
  nextId : s.correlator.nextId = nextIdAfter history
  stamped : ∀ id expected timeout, s.stage id = .stamped expected timeout →
    Stamped history id expected timeout
  /-- A caller that had its request stamped had done so by a move before. -/
  origin : ∀ before recording since id expected timeout,
    history = before ++ recording :: since → recording.stage id = .stamped expected timeout →
      Stamped before id expected timeout
  /-- How far the caller of a request has come that nothing has resolved is told by the moves
  since the request was recorded. -/
  stage : ∀ before recording since id expected timeout,
    history = before ++ recording :: since → recording.move = .enter id →
    recording.stage id = .stamped expected timeout →
    (∀ later ∈ since, later.resolves id = false) →
      s.stage id = stageSince id (timeout.map (recording.moment + ·)) since

/-- How far a caller has come is told after one move more. -/
theorem Chronicled.stage_move (h : Chronicled s removals history) {move : Move}
    (hfresh : move.takesId = true → s.stage s.correlator.nextId = .unused)
    {before since : List Happening} {recording : Happening} {expected : Tag}
    {timeout : Option Millis}
    (hsplit : history ++ [s.happening move] = before ++ recording :: since)
    (henter : recording.move = .enter id) (hstamped : recording.stage id = .stamped expected timeout)
    (hsince : ∀ later ∈ since, later.resolves id = false) :
    (s.move move).stage id = stageSince id (timeout.map (recording.moment + ·)) since := by
  rcases append_singleton_eq_append_cons.1 hsplit with ⟨-, rfl, rfl⟩ | ⟨rest, rfl, rfl⟩
  · obtain rfl : move = .enter id := henter
    rw [move_enter hstamped, stage_setStage, if_pos rfl]
    rfl
  · obtain ⟨hrest, hlast⟩ := forall_mem_append_singleton.1 hsince
    have hopen : Unresolved (before ++ recording :: rest) id expected :=
      ⟨before, recording, rest, rfl, ⟨henter, timeout, hstamped⟩, hrest⟩
    have hpending : id ∈ s.pendingIds := h.traced.mem_pendingIds.2 ⟨expected, hopen⟩
    rw [stage_move_of_pending h.accounted hfresh hpending hlast, stageSince, List.foldl_append,
      List.foldl_cons, List.foldl_nil, h.stage _ _ _ _ _ _ rfl henter hstamped hrest]
    rfl

/-- What the records and the history tell is kept by every move. -/
theorem Chronicled.move (h : Chronicled s removals history) {move : Move}
    (hfresh : move.takesId = true → s.stage s.correlator.nextId = .unused) :
    Chronicled (s.move move) (removals ++ (s.removedBy (s.move move)).map fun id => (id, move))
      (history ++ [s.happening move]) where
  accounted := h.accounted.move hfresh
  traced := h.traced.move h.accounted hfresh
  nextId := by
    rw [nextId_move, h.nextId, nextIdAfter_append]
    rfl
  stamped id expected timeout hstamped := by
    rcases stamped_or_of_move hstamped with hbefore | ⟨request, hmove, hexpected, hid⟩
    · exact (h.stamped id expected timeout hbefore).append
    · exact ⟨history, s.happening move, [], request, rfl, hmove, hexpected, h.nextId.symm.trans hid⟩
  origin before recording since id expected timeout hsplit hstamped := by
    rcases append_singleton_eq_append_cons.1 hsplit with ⟨rfl, rfl, -⟩ | ⟨rest, -, rfl⟩
    · exact h.stamped id expected timeout hstamped
    · exact h.origin before recording rest id expected timeout rfl hstamped
  stage _ _ _ _ _ _ hsplit henter hstamped hsince := h.stage_move hfresh hsplit henter hstamped hsince

/-- In a session in which fewer than 2⁶³ ids are used up they tell it at the end. -/
theorem chronicled_run (moves : List Move) {n : Nat} (hnumbered : Numbered n s)
    (h : Chronicled s removals history)
    (hids : n + moves.countP Move.takesId < 9223372036854775808) :
    Chronicled (s.runFrom removals moves).1 (s.runFrom removals moves).2
      (history ++ s.history moves) := by
  induction moves generalizing s removals history n with
  | nil =>
    rw [Session.history, List.append_nil]
    exact h
  | cons move moves ih =>
    obtain ⟨hfresh, m, hrest, hnumbered⟩ := hnumbered.first_move hids
    have hafter := ih hnumbered (h.move hfresh) hrest
    rw [List.append_assoc] at hafter
    exact hafter

/-- Nothing splits the empty history. -/
theorem chronicled_start (codec : Codec) (settings : Settings) :
    Chronicled (start codec settings) [] [] where
  accounted := accounted_start codec settings
  traced := {
    recorded := by simp [start]
    pending := by simp [start, Session.pending, Unresolved, Correlator.new]
    removals := by simp [ResolvedBy] }
  nextId := rfl
  stamped _ _ _ h := by cases h
  origin _ _ _ _ _ _ heq := by simp at heq
  stage _ _ _ _ _ _ heq := by simp at heq

/-! ### Resolved once -/

/-- What a session of a correlator comes to, with its history and with the record of the moves
that took entries out of its table. -/
structure ResolvesOnce (s : Session) (history : List Happening) (removals : List (Int64 × Move)) :
    Prop where
  /-- No request is both in flight and given up. -/
  disjoint : ∀ id ∈ s.pending.map Prod.fst, id ∉ s.correlator.table.retired.map Prod.fst
  /-- The requests in flight are those that were recorded and that nothing has resolved since. -/
  unresolved : ∀ id expected, (id, expected) ∈ s.pending ↔ Unresolved history id expected
  /-- A move took the entry of a request out if and only if it is the first one that resolved
  the request: a reply for it, its cancellation, the end of the connection, a frame that could
  not be sent, a handle or a wait that was dropped, or a deadline that had passed. -/
  removed : ∀ id move, (id, move) ∈ removals ↔
    ∃ happening, ResolvedBy history id happening ∧ happening.move = move
  /-- So what is in flight is what was recorded, without what was taken out. -/
  pending : s.pending =
    s.recorded.filter fun request => !(removals.map Prod.fst).contains request.1
  /-- A request is recorded once. -/
  recorded_nodup : (s.recorded.map Prod.fst).Nodup
  /-- At most one move takes out its entry. -/
  removals_nodup : (removals.map Prod.fst).Nodup
  /-- A wait that has returned gave what the move that took the entry out means to the
  caller. -/
  settled : ∀ id verdict, s.stage id = .settled verdict →
    ∃ expected move, (id, expected) ∈ s.recorded ∧ (id, move) ∈ removals ∧
      move.verdict? id expected = some verdict
  /-- If that move means something to the caller, the outcome is on its way or has come, or the
  wait has returned with it, unless the caller has gone away. -/
  informed : ∀ id expected move verdict, (id, expected) ∈ s.recorded → (id, move) ∈ removals →
    move.verdict? id expected = some verdict →
      (id, verdict) ∈ s.due ++ s.correlator.delivered ∨ s.stage id = .settled verdict ∨
        s.stage id = .gone
  /-- For a wait that goes on it makes no difference whether the outcome or the clock is looked
  at first. -/
  poll_comm : ∀ id deadline, s.stage id = .waiting deadline →
    s.correlator.poll id deadline s.now true = s.correlator.poll id deadline s.now false

/-- After any moves in any order a request is in flight exactly when it was recorded and nothing
has resolved it, its entry was taken out at most once, by the first move that resolved it, and
its caller learns of that move and of no other. -/
theorem run_resolves_once (codec : Codec) (settings : Settings) (moves : List Move)
    (hids : moves.countP Move.takesId < 9223372036854775808) :
    ResolvesOnce ((start codec settings).run moves).1 ((start codec settings).history moves)
      ((start codec settings).run moves).2 := by
  obtain ⟨haccounted, htraced, -⟩ := chronicled_run moves (numbered_start codec settings)
    (chronicled_start codec settings) (by rw [Nat.zero_add]; exact hids)
  exact {
    disjoint := fun id hpending hretired =>
      (haccounted.mem_pendingIds.1 hpending).2 (haccounted.retired id hretired)
    unresolved := htraced.pending
    removed := htraced.removals
    pending := haccounted.pending
    recorded_nodup := haccounted.recorded_nodup
    removals_nodup := haccounted.removals_nodup
    settled := haccounted.settled
    informed := haccounted.informs
    poll_comm := fun id deadline _ =>
      Correlator.poll_comm _ id deadline _ fun hfound => haccounted.not_mem_pendingIds hfound }

/-- A reply that takes its request out at the deadline and reaches the caller after it. -/
def replyAtDeadline : List Move :=
  [.stamp (Message.request .heartbeat) (some 10), .enter 1, .transmitted 1, .wait 1, .pass 10,
    .reply ((Message.reply .heartbeat).setRequestId 1), .poll 1 true, .deliver 0, .poll 1 true]

/-- The caller gets the reply, although its deadline has passed when it looks. -/
theorem run_resolves_once_replyAtDeadline :
    replyAtDeadline.countP Move.takesId < 9223372036854775808 ∧
      ResolvesOnce ((start Codec.standard {}).run replyAtDeadline).1
        ((start Codec.standard {}).history replyAtDeadline)
        ((start Codec.standard {}).run replyAtDeadline).2 :=
  have hids : replyAtDeadline.countP Move.takesId < 9223372036854775808 := by decide
  ⟨hids, run_resolves_once Codec.standard {} replyAtDeadline hids⟩

end Session

end Correlator

end Parley
