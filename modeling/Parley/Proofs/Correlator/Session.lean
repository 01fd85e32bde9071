/-
# The records of a session

Two things are carried through a session.  The ids that were given out are numbered, so that
a new request never meets an entry of an older one.  And the requests that were recorded and
the removals account for the table and for every outcome: what is in flight was recorded and
not removed, nothing is removed twice, an outcome that is due, was delivered or was returned
is what the removal means to the caller, and a caller that is there is not kept waiting for
an outcome that nobody owes it.
-/

import Mathlib.Data.List.Nodup
import Parley.Proofs.Correlator.Moves

namespace Parley

namespace Correlator.Session

variable {s after : Session} {removals : List (Int64 × Move)}

/-! ### The numbering of requests -/

/-- The ids that were given out are the first `n` ones. -/
structure Numbered (n : Nat) (s : Session) : Prop where
  nextId : s.correlator.nextId = Int64.ofNat (n + 1)
  bounded : ∀ id, s.stage id ≠ .unused → 0 < id.toInt ∧ id.toInt ≤ n

/-- The next id is one that no caller has. -/
theorem Numbered.stage_nextId {n : Nat} (h : Numbered n s) (hn : n + 1 < 9223372036854775808) :
    s.stage s.correlator.nextId = .unused := by
  by_contra hused
  have hbounded := (h.bounded _ hused).2
  rw [h.nextId, Int64.toInt_ofNat_of_lt hn] at hbounded
  omega

/-- Some more ids were given out, and the stage of no caller without an id has changed. -/
theorem Numbered.of_stage_eq {n m : Nat} (h : Numbered n s) (hle : n ≤ m)
    (hnext : after.correlator.nextId = Int64.ofNat (m + 1))
    (hstage : ∀ id, s.stage id = .unused → after.stage id = .unused) : Numbered m after where
  nextId := hnext
  bounded id hid := by
    have hold := h.bounded id fun hunused => hid (hstage id hunused)
    omega

/-! ### The two records account for everything -/

/-- The caller of a request with this outcome is told what the move that took the entry
of the request out means. -/
def Told (s : Session) (removals : List (Int64 × Move)) (outcome : Delivery) : Prop :=
  ∃ expected move, (outcome.1, expected) ∈ s.recorded ∧ (outcome.1, move) ∈ removals ∧
    move.verdict? outcome.1 expected = some outcome.2

/-- The requests that were recorded and the removals account for the table and for every
outcome. -/
structure Accounted (s : Session) (removals : List (Int64 × Move)) : Prop where
  entered : ∀ request ∈ s.recorded, (s.stage request.1).entered = true
  recorded_nodup : (s.recorded.map Prod.fst).Nodup
  pending : s.pending =
    s.recorded.filter fun request => !(removals.map Prod.fst).contains request.1
  removals_nodup : (removals.map Prod.fst).Nodup
  removals_recorded : ∀ id ∈ removals.map Prod.fst, id ∈ s.recorded.map Prod.fst
  retired : ∀ id ∈ s.correlator.table.retiredIds, id ∈ removals.map Prod.fst
  told : ∀ outcome ∈ s.outcomes, s.Told removals outcome
  settled : ∀ id verdict, s.stage id = .settled verdict → s.Told removals (id, verdict)
  /-- What a removal means to a caller is not withheld from it. -/
  informs : ∀ id expected move verdict, (id, expected) ∈ s.recorded → (id, move) ∈ removals →
    move.verdict? id expected = some verdict → s.Informs id verdict

/-- A request in flight was recorded and nothing has removed it. -/
theorem Accounted.mem_pendingIds (h : Accounted s removals) {id : Int64} :
    id ∈ s.pendingIds ↔ id ∈ s.recorded.map Prod.fst ∧ id ∉ removals.map Prod.fst := by
  rw [pendingIds, h.pending]
  constructor
  · intro hmem
    obtain ⟨request, hrequest, rfl⟩ := List.mem_map.1 hmem
    obtain ⟨hrecorded, hremoved⟩ := List.mem_filter.1 hrequest
    refine ⟨List.mem_map_of_mem hrecorded, ?_⟩
    simpa using hremoved
  · rintro ⟨hrecorded, hremoved⟩
    obtain ⟨request, hrequest, rfl⟩ := List.mem_map.1 hrecorded
    refine List.mem_map_of_mem (List.mem_filter.2 ⟨hrequest, ?_⟩)
    simpa using hremoved

/-- The requests in flight are different ones. -/
theorem Accounted.pendingIds_nodup (h : Accounted s removals) : s.pendingIds.Nodup := by
  rw [pendingIds, h.pending]
  exact (List.filter_sublist.map Prod.fst).nodup h.recorded_nodup

/-- An entry in flight is one of those that were recorded. -/
theorem Accounted.mem_recorded (h : Accounted s removals) {request : Int64 × Tag}
    (hpending : request ∈ s.pending) : request ∈ s.recorded := by
  rw [h.pending] at hpending
  exact List.mem_of_mem_filter hpending

/-- No request with an outcome that has come is in flight. -/
theorem Accounted.not_mem_pendingIds (h : Accounted s removals) {id : Int64}
    (hfound : (s.correlator.delivered.lookup id).isSome) : id ∉ s.pendingIds := by
  obtain ⟨verdict, hlook⟩ := Option.isSome_iff_exists.1 hfound
  have hmem : (id, verdict) ∈ s.outcomes := List.mem_append_right _ (mem_of_lookup hlook)
  obtain ⟨expected, move, -, hremoved, -⟩ := h.told (id, verdict) hmem
  intro hpending
  exact (h.mem_pendingIds.1 hpending).2 (List.mem_map_of_mem hremoved)

/-- All that a caller is told about its request is the same. -/
theorem Accounted.told_eq (h : Accounted s removals) {id : Int64} {expected : Tag} {move : Move}
    {told verdict : Verdict} (htold : s.Told removals (id, told))
    (hrecorded : (id, expected) ∈ s.recorded) (hremoved : (id, move) ∈ removals)
    (hverdict : move.verdict? id expected = some verdict) : told = verdict := by
  obtain ⟨expected', move', hrecorded', hremoved', hverdict'⟩ := htold
  have hsame := lookup_of_mem h.recorded_nodup hrecorded
  have hsame' := lookup_of_mem h.recorded_nodup hrecorded'
  obtain rfl : expected = expected' := Option.some.inj (hsame.symm.trans hsame')
  have hremoval := lookup_of_mem h.removals_nodup hremoved
  have hremoval' := lookup_of_mem h.removals_nodup hremoved'
  obtain rfl : move = move' := Option.some.inj (hremoval.symm.trans hremoval')
  exact Option.some.inj (hverdict'.symm.trans hverdict)

/-- An outcome stays accounted for when more is recorded and more is removed. -/
theorem Told.mono {outcome : Delivery} {more : List (Int64 × Move)}
    (h : s.Told removals outcome) (hrecorded : ∀ request ∈ s.recorded, request ∈ after.recorded)
    (hremoved : ∀ removal ∈ removals, removal ∈ more) : after.Told more outcome := by
  obtain ⟨expected, move, hmem, hremoval, hverdict⟩ := h
  exact ⟨expected, move, hrecorded _ hmem, hremoved _ hremoval, hverdict⟩

/-- What was in flight and is not any more was removed. -/
theorem mem_removedBy {id : Int64} :
    id ∈ s.removedBy after ↔ id ∈ s.pendingIds ∧ id ∉ after.pendingIds := by
  rw [removedBy, List.mem_filter, Bool.not_eq_true', List.contains_eq_mem, decide_eq_false_iff_not]
  rfl

/-- When the same requests are in flight nothing was removed. -/
theorem removedBy_of_pending_eq (h : after.pending = s.pending) : s.removedBy after = [] := by
  apply List.eq_nil_iff_forall_not_mem.2
  intro id hid
  obtain ⟨hpending, hgone⟩ := mem_removedBy.1 hid
  rw [pendingIds, h] at hgone
  exact hgone hpending

/-- The entries that a move takes out are those in flight that it resolves. -/
theorem Effect.removedBy_eq {move : Move} (heffect : Effect s after move) :
    s.removedBy after = s.pendingIds.filter (s.happening move).resolves := by
  rw [removedBy, pendingIds, heffect.pending]
  refine List.filter_congr fun id hid => ?_
  obtain ⟨request, hrequest, rfl⟩ := List.mem_map.1 hid
  cases hgone : (s.happening move).resolves request.1 with
  | true =>
    have hout : request.1 ∉
        (s.pending.filter fun entry => !(s.happening move).resolves entry.1).map Prod.fst := by
      intro hmem
      obtain ⟨other, hother, hkey⟩ := List.mem_map.1 hmem
      have hstays := (List.mem_filter.1 hother).2
      rw [hkey, hgone] at hstays
      cases hstays
    simpa using hout
  | false =>
    have hin : request.1 ∈
        (s.pending.filter fun entry => !(s.happening move).resolves entry.1).map Prod.fst :=
      List.mem_map_of_mem (List.mem_filter.2 ⟨hrequest, by rw [hgone]; rfl⟩)
    simpa using hin

/-- The removals of a move, with the move, are removals of these ids. -/
theorem map_fst_removals (ids : List Int64) (move : Move) :
    (ids.map fun id => (id, move)).map Prod.fst = ids := by
  rw [List.map_map]
  exact List.map_id ids

/-- What a move takes out is told as it should be. -/
theorem Takes.told {move : Move} {outcome : Delivery} (h : s.Takes move outcome)
    (haccounted : Accounted s removals) (heffect : Effect s after move) :
    after.Told (removals ++ (s.removedBy after).map fun id => (id, move)) outcome := by
  obtain ⟨hgone, expected, hmem, hverdict⟩ := h
  have hremoved : outcome.1 ∈ s.removedBy after := by
    rw [heffect.removedBy_eq]
    exact List.mem_filter.2 ⟨List.mem_map_of_mem hmem, hgone⟩
  refine ⟨expected, move, heffect.recorded ▸ haccounted.mem_recorded hmem, ?_, hverdict⟩
  exact List.mem_append_right _ (List.mem_map.2 ⟨outcome.1, hremoved, rfl⟩)

/-- What was told is told still. -/
theorem Told.of_effect {move : Move} {outcome : Delivery} (htold : s.Told removals outcome)
    (heffect : Effect s after move) :
    after.Told (removals ++ (s.removedBy after).map fun id => (id, move)) outcome :=
  htold.mono (fun _ hmem => heffect.recorded ▸ hmem) fun _ => List.mem_append_left _

/-- After a move that records no request what is in flight was recorded and not removed. -/
theorem Accounted.pending_of_effect {move : Move} (h : Accounted s removals)
    (heffect : Effect s after move) :
    after.pending = after.recorded.filter fun request =>
      !((removals ++ (s.removedBy after).map fun id => (id, move)).map Prod.fst).contains
        request.1 := by
  rw [heffect.pending, heffect.recorded, h.pending, List.filter_filter]
  refine List.filter_congr fun request hrequest => ?_
  rw [List.map_append, map_fst_removals, heffect.removedBy_eq]
  have hkey := List.mem_map_of_mem (f := Prod.fst) hrequest
  by_cases hremoved : request.1 ∈ removals.map Prod.fst
  · simp [hremoved]
  · have hpending : request.1 ∈ s.pendingIds := h.mem_pendingIds.2 ⟨hkey, hremoved⟩
    cases hgone : (s.happening move).resolves request.1 <;> simp [hremoved, hpending, hgone]

/-- Nor is any caller that is there kept waiting for an outcome that nobody owes it. -/
theorem Accounted.informs_of_effect {move : Move} (h : Accounted s removals)
    (heffect : Effect s after move) {id : Int64} {expected : Tag} {removing : Move}
    {verdict : Verdict} (hrecorded : (id, expected) ∈ s.recorded)
    (hremoved : (id, removing) ∈ removals ++ (s.removedBy after).map fun id => (id, move))
    (hverdict : removing.verdict? id expected = some verdict) : after.Informs id verdict := by
  rcases List.mem_append.1 hremoved with hold | hnew
  · rcases heffect.kept id verdict (h.informs id expected removing verdict hrecorded hold hverdict)
      with hinforms | ⟨other, hother, hsettled⟩
    · exact hinforms
    · obtain rfl := h.told_eq (h.told _ hother) hrecorded hold hverdict
      exact Or.inr (Or.inl hsettled)
  · obtain ⟨other, hmem, heq⟩ := List.mem_map.1 hnew
    cases heq
    rw [heffect.removedBy_eq] at hmem
    obtain ⟨hpending, hresolves⟩ := List.mem_filter.1 hmem
    obtain ⟨expected', hentry, hinforms⟩ := heffect.taken id hpending hresolves
    have hfound := lookup_of_mem h.recorded_nodup hrecorded
    have hfound' := lookup_of_mem h.recorded_nodup (h.mem_recorded hentry)
    obtain rfl : expected = expected' := Option.some.inj (hfound.symm.trans hfound')
    exact hinforms verdict hverdict

/-- The records still account for everything after a move that records no request. -/
theorem Accounted.of_effect {move : Move} (h : Accounted s removals)
    (heffect : Effect s after move) :
    Accounted after (removals ++ (s.removedBy after).map fun id => (id, move)) where
  entered request hrequest := by
    rw [heffect.recorded] at hrequest
    exact heffect.entered _ (h.entered request hrequest)
  recorded_nodup := heffect.recorded ▸ h.recorded_nodup
  pending := h.pending_of_effect heffect
  removals_nodup := by
    rw [List.map_append, map_fst_removals, heffect.removedBy_eq, List.nodup_append]
    refine ⟨h.removals_nodup, h.pendingIds_nodup.filter _, fun id hid other hother heq => ?_⟩
    subst heq
    exact (h.mem_pendingIds.1 (List.mem_of_mem_filter hother)).2 hid
  removals_recorded id hid := by
    rw [List.map_append, map_fst_removals, heffect.removedBy_eq] at hid
    rw [heffect.recorded]
    rcases List.mem_append.1 hid with hold | hnew
    · exact h.removals_recorded id hold
    · exact (h.mem_pendingIds.1 (List.mem_of_mem_filter hnew)).1
  retired id hid := by
    rw [List.map_append, map_fst_removals, heffect.removedBy_eq]
    rcases heffect.retired id hid with hold | ⟨hpending, hgone⟩
    · exact List.mem_append_left _ (h.retired id hold)
    · exact List.mem_append_right _ (List.mem_filter.2 ⟨hpending, hgone⟩)
  told outcome houtcome := by
    rcases heffect.outcomes outcome houtcome with hold | htakes
    · exact (h.told outcome hold).of_effect heffect
    · exact htakes.told h heffect
  settled id verdict hstage := by
    rcases heffect.settled id verdict hstage with hold | hold | htakes
    · exact (h.settled id verdict hold).of_effect heffect
    · exact (h.told _ hold).of_effect heffect
    · exact htakes.told h heffect
  informs id expected removing verdict hrecorded hremoved hverdict :=
    h.informs_of_effect heffect (heffect.recorded ▸ hrecorded) hremoved hverdict

/-! ### Recording a request -/

section

variable {id : Int64} {expected : Tag} {timeout : Option Millis}

/-- A stamped request is not recorded yet. -/
theorem Accounted.not_mem_recorded (h : Accounted s removals)
    (hstage : s.stage id = .stamped expected timeout) : id ∉ s.recorded.map Prod.fst := by
  intro hmem
  obtain ⟨request, hrequest, rfl⟩ := List.mem_map.1 hmem
  have hentered := h.entered request hrequest
  rw [hstage] at hentered
  cases hentered

/-- A request that is recorded joins the others, because its id is in no entry. -/
theorem Accounted.pending_enter (h : Accounted s removals)
    (hstage : s.stage id = .stamped expected timeout) :
    (s.move (.enter id)).pending = s.pending ++ [(id, expected)] := by
  have hout : id ∉ s.pendingIds := fun hmem =>
    h.not_mem_recorded hstage (h.mem_pendingIds.1 hmem).1
  rw [move_enter hstage]
  exact congrArg (· ++ [(id, expected)]) (filter_ne_of_not_mem hout)

/-- Recording a request takes nothing out. -/
theorem Accounted.removedBy_enter (h : Accounted s removals)
    (hstage : s.stage id = .stamped expected timeout) : s.removedBy (s.move (.enter id)) = [] := by
  rw [removedBy, h.pending_enter hstage, List.filter_eq_nil_iff]
  intro other hother
  have hstays : other ∈ (s.pending ++ [(id, expected)]).map Prod.fst := by
    rw [List.map_append]
    exact List.mem_append_left _ hother
  rw [List.contains_iff_mem.2 hstays]
  decide

/-- Who has been told or is to be told stays so. -/
theorem Informs.enter {other : Int64} {verdict : Verdict} (h : s.Informs other verdict)
    (hstage : s.stage id = .stamped expected timeout) :
    (s.move (.enter id)).Informs other verdict := by
  rw [move_enter hstage]
  have hbefore : ({ s with recorded := s.recorded ++ [(id, expected)] }.stage id).isOver = false := by
    change (s.stage id).isOver = false
    rw [hstage]
    rfl
  exact Informs.of_setStage (s := { s with recorded := s.recorded ++ [(id, expected)] })
    (c := s.correlator.enter id expected) h hbefore fun hmem => hmem

/-- The records account for everything after a request is recorded. -/
theorem Accounted.enter (h : Accounted s removals)
    (hstage : s.stage id = .stamped expected timeout) :
    Accounted (s.move (.enter id)) removals := by
  have hnew := h.not_mem_recorded hstage
  have hunremoved : id ∉ removals.map Prod.fst := fun hmem => hnew (h.removals_recorded id hmem)
  have hmove := move_enter hstage
  have hrecorded : (s.move (.enter id)).recorded = s.recorded ++ [(id, expected)] := by
    rw [hmove]
    rfl
  have hmore : ∀ request ∈ s.recorded, request ∈ (s.move (.enter id)).recorded := by
    intro request hmem
    rw [hrecorded]
    exact List.mem_append_left _ hmem
  exact {
    entered := by
      rw [hmove]
      intro request hrequest
      rcases List.mem_append.1 hrequest with hold | hlast
      · exact entered_setStage rfl (h.entered request hold)
      · obtain rfl := List.mem_singleton.1 hlast
        rw [stage_setStage, if_pos rfl]
        rfl
    recorded_nodup := hrecorded ▸
      nodup_append_of_lookup expected h.recorded_nodup (lookup_of_not_mem hnew)
    pending := by
      have hlast : [(id, expected)].filter
          (fun request => !(removals.map Prod.fst).contains request.1) = [(id, expected)] := by
        simpa using hunremoved
      rw [h.pending_enter hstage, hrecorded, h.pending, List.filter_append, hlast]
    removals_nodup := h.removals_nodup
    removals_recorded := fun other hother => by
      rw [hrecorded, List.map_append]
      exact List.mem_append_left _ (h.removals_recorded other hother)
    retired := hmove ▸ h.retired
    told := fun outcome houtcome => by
      rw [hmove] at houtcome
      exact (h.told outcome houtcome).mono hmore fun _ hmem => hmem
    settled := fun other verdict hsettled => by
      rw [hmove] at hsettled
      rcases settled_of_setStage hsettled with hold | ⟨-, hnew⟩
      · exact (h.settled other verdict hold).mono hmore fun _ hmem => hmem
      · cases hnew
    informs := fun other expected' move verdict hmem hremoved hverdict => by
      rw [hrecorded] at hmem
      rcases List.mem_append.1 hmem with hold | hlast
      · exact (h.informs other expected' move verdict hold hremoved hverdict).enter hstage
      · cases List.mem_singleton.1 hlast
        exact absurd (List.mem_map_of_mem hremoved) hunremoved }

end

/-- The records account for everything after any move. -/
theorem Accounted.move (h : Accounted s removals) {move : Move}
    (hfresh : move.takesId = true → s.stage s.correlator.nextId = .unused) :
    Accounted (s.move move)
      (removals ++ (s.removedBy (s.move move)).map fun id => (id, move)) := by
  by_cases henter : ∃ id expected timeout, move = .enter id ∧ s.stage id = .stamped expected timeout
  · obtain ⟨id, expected, timeout, rfl, hstage⟩ := henter
    rw [h.removedBy_enter hstage, List.map_nil, List.append_nil]
    exact h.enter hstage
  · refine h.of_effect (effect_move hfresh (fun _ => h.not_mem_pendingIds) ?_)
    intro id expected timeout heq hstage
    exact henter ⟨id, expected, timeout, heq, hstage⟩

/-! ### Whole sessions -/

/-- No id was given out. -/
structure Keeps (s after : Session) : Prop where
  nextId : after.correlator.nextId = s.correlator.nextId
  unused : ∀ id, s.stage id = .unused → after.stage id = .unused

/-- Only the stage of a caller with an id was set. -/
theorem Keeps.of_setStage {c : Correlator} {recorded : List (Int64 × Tag)} {id : Int64}
    {stage : Stage} (hused : s.stage id ≠ .unused) (hnext : c.nextId = s.correlator.nextId) :
    Keeps s ({ s with correlator := c, recorded }.setStage id stage) where
  nextId := hnext
  unused other hother := by
    rw [stage_setStage, if_neg]
    · exact hother
    · rintro rfl
      exact hused hother

/-- No stage was set. -/
theorem Keeps.of_correlator {c : Correlator} {due : List Delivery} {now : Millis}
    (hnext : c.nextId = s.correlator.nextId) :
    Keeps s { s with correlator := c, due, now } where
  nextId := hnext
  unused _ h := h

/-- A session keeps what it is. -/
theorem Keeps.refl (s : Session) : Keeps s s where
  nextId := rfl
  unused _ h := h

/-- A move that uses no id up gives none out. -/
theorem keeps_move {move : Move} (htakes : move.takesId = false) : Keeps s (s.move move) := by
  have used_of_eq : ∀ {id : Int64} {stage : Stage}, s.stage id = stage → stage ≠ .unused →
      s.stage id ≠ .unused := by
    rintro id stage rfl hused
    exact hused
  cases move with
  | stamp request timeout => cases htakes
  | skip => cases htakes
  | enter id | transmitted id | refused id | forsake id | wait id =>
    simp only [Session.move]
    split
    next h => exact Keeps.of_setStage (used_of_eq h (by simp)) rfl
    next => exact Keeps.refl s
  | reply message =>
    rcases route_cases s.correlator message s.now with
      ⟨expected, receipt, -, hroute⟩ | ⟨receipt, table, hroute, -⟩
    · simp only [Session.move, hroute]
      exact Keeps.of_correlator rfl
    · simp only [Session.move, hroute]
      exact Keeps.of_correlator rfl
  | cancel id =>
    rcases giveUp_cases s.correlator id s.now with ⟨table, -, hgive⟩ | ⟨-, hgive⟩
    · simp only [Session.move, hgive]
      exact Keeps.of_correlator rfl
    · simp only [Session.move, hgive]
      exact Keeps.of_correlator rfl
  | close => exact Keeps.of_correlator rfl
  | deliver index =>
    simp only [Session.move]
    split
    · exact Keeps.of_correlator rfl
    · exact Keeps.refl s
  | drop id =>
    simp only [Session.move]
    split
    next deadline h =>
      exact Keeps.of_setStage (used_of_eq h (by simp)) (nextId_abandon s.correlator id s.now)
    next deadline h =>
      exact Keeps.of_setStage (used_of_eq h (by simp)) (nextId_abandon s.correlator id s.now)
    next => exact Keeps.refl s
  | poll id clockFirst =>
    cases hstage : s.stage id with
    | waiting deadline =>
      rcases poll_cases s.correlator id deadline s.now clockFirst with
        ⟨verdict, -, hpoll⟩ | ⟨table, -, -, hpoll⟩ | ⟨-, hpoll⟩
      · simp only [Session.move, hstage, hpoll]
        exact Keeps.of_setStage (used_of_eq hstage (by simp)) rfl
      · simp only [Session.move, hstage, hpoll]
        exact Keeps.of_setStage (used_of_eq hstage (by simp)) rfl
      · simp only [Session.move, hstage, hpoll]
        exact Keeps.refl s
    | _ =>
      simp only [Session.move, hstage]
      exact Keeps.refl s
  | pass span => exact Keeps.of_correlator rfl

/-- A move gives the next id out or none. -/
theorem Numbered.move {n : Nat} (h : Numbered n s) {move : Move}
    (hn : n + move.takesId.toNat < 9223372036854775808) :
    ∃ m, m ≤ n + move.takesId.toNat ∧ Numbered m (s.move move) := by
  have hsucc : s.correlator.nextId + 1 = Int64.ofNat (n + 1 + 1) := by
    rw [h.nextId, Int64.ofNat_add (n + 1) 1]
    rfl
  have hspent : Numbered (n + 1)
      { s with correlator := { s.correlator with nextId := s.correlator.nextId + 1 } } :=
    h.of_stage_eq (Nat.le_succ n) hsucc fun _ hid => hid
  cases htakes : move.takesId with
  | false =>
    have hkeeps : Keeps s (s.move move) := keeps_move htakes
    exact ⟨n, Nat.le_refl n,
      h.of_stage_eq (Nat.le_refl n) (hkeeps.nextId.trans h.nextId) hkeeps.unused⟩
  | true =>
    rw [htakes, Bool.toNat_true] at hn
    cases move with
    | stamp request timeout =>
      rcases stamp_cases s.correlator request with
        ⟨ready, stamped, hid, hstamp⟩ | ⟨fault, refused, c, hc, hstamp⟩
      · refine ⟨n + 1, Nat.le_refl _, ?_⟩
        simp only [Session.move, hstamp]
        refine { nextId := hsucc, bounded := fun id hused => ?_ }
        rw [stage_setStage] at hused
        by_cases hnew : id = ready.id
        · rw [hnew, hid, h.nextId, Int64.toInt_ofNat_of_lt hn]
          omega
        · rw [if_neg hnew] at hused
          have := h.bounded id hused
          omega
      · simp only [Session.move, hstamp]
        rcases hc with rfl | rfl
        · exact ⟨n, Nat.le_succ n, h⟩
        · exact ⟨n + 1, Nat.le_refl _, hspent⟩
    | skip => exact ⟨n + 1, Nat.le_refl _, hspent⟩
    | _ => cases htakes

/-- When fewer than 2⁶³ ids are used up by a move and the moves after it, the next id is free if
the move takes it, and the move keeps the numbering. -/
theorem Numbered.first_move {n : Nat} (h : Numbered n s) {move : Move} {moves : List Move}
    (hids : n + (move :: moves).countP Move.takesId < 9223372036854775808) :
    (move.takesId = true → s.stage s.correlator.nextId = .unused) ∧
      ∃ m, m + moves.countP Move.takesId < 9223372036854775808 ∧ Numbered m (s.move move) := by
  rw [List.countP_cons] at hids
  have hcost : (if move.takesId = true then 1 else 0) = move.takesId.toNat := by
    cases move.takesId <;> rfl
  rw [hcost] at hids
  constructor
  · intro htakes
    rw [htakes, Bool.toNat_true] at hids
    exact h.stage_nextId (by omega)
  · have hfirst : n + move.takesId.toNat < 9223372036854775808 := by omega
    obtain ⟨m, hm, hafter⟩ := h.move hfirst
    exact ⟨m, by omega, hafter⟩

/-- At the end of a session in which fewer than 2⁶³ ids are used up the ids that were given
out are numbered and the records account for everything. -/
theorem numbered_accounted_run (moves : List Move) {n : Nat} (hnumbered : Numbered n s)
    (haccounted : Accounted s removals)
    (hids : n + moves.countP Move.takesId < 9223372036854775808) :
    (∃ m, Numbered m (s.runFrom removals moves).1) ∧
      Accounted (s.runFrom removals moves).1 (s.runFrom removals moves).2 := by
  induction moves generalizing s removals n with
  | nil => exact ⟨⟨n, hnumbered⟩, haccounted⟩
  | cons move moves ih =>
    obtain ⟨hfresh, m, hrest, hnumbered⟩ := hnumbered.first_move hids
    exact ih hnumbered (haccounted.move hfresh) hrest

/-- The records account for everything at the end of a session in which fewer than 2⁶³ ids
are used up. -/
theorem accounted_run (moves : List Move) {n : Nat} (hnumbered : Numbered n s)
    (haccounted : Accounted s removals)
    (hids : n + moves.countP Move.takesId < 9223372036854775808) :
    Accounted (s.runFrom removals moves).1 (s.runFrom removals moves).2 :=
  (numbered_accounted_run moves hnumbered haccounted hids).2

/-- A new correlator has given no id out. -/
theorem numbered_start (codec : Codec) (settings : Settings) :
    Numbered 0 (start codec settings) where
  nextId := rfl
  bounded _ hused := absurd rfl hused

/-- A new correlator has nothing to account for. -/
theorem accounted_start (codec : Codec) (settings : Settings) :
    Accounted (start codec settings) [] where
  entered _ h := absurd h List.not_mem_nil
  recorded_nodup := List.nodup_nil
  pending := rfl
  removals_nodup := List.nodup_nil
  removals_recorded _ h := absurd h List.not_mem_nil
  retired _ h := absurd h List.not_mem_nil
  told _ h := absurd h List.not_mem_nil
  settled id verdict h := by cases h
  informs _ _ _ _ h := absurd h List.not_mem_nil

end Correlator.Session

end Parley
