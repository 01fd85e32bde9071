/-
# Requests whose callers have gone

A caller may go away at any time: while its frame is being sent, with a handle in its hand,
or while it waits.  Whoever drops a handle or a wait takes the request out of the table.
A caller that goes away while its frame is being sent does not: its request stays in flight
although nobody can learn of the outcome, and no deadline applies to it any more.

So the requests in flight are those whose callers are there and those that were forsaken in
this way, as far as nothing has resolved them.  Both are read off a session without regard
to the table, so that the table can be compared with them (`run_in_flight`).
-/

import Parley.Proofs.Correlator.Session

namespace Parley

namespace Correlator

/-- Whether a move resolves a request from outside: a reply for it, a cancellation by its id,
or the end of the connection. -/
def Move.FromOutside (id : Int64) : Move → Prop
  | .reply message => message.requestId = id
  | .cancel other => other = id
  | .close => True
  | _ => False

namespace Session

variable {s after : Session} {removals : List (Int64 × Move)} {left : List Int64}
  {id other : Int64} {move : Move}

/-- The request whose caller goes away by a move while its frame is being sent. -/
def forsakenBy (s : Session) : Move → List Int64
  | .forsake id =>
      match s.stage id with
      | .transmitting _ => [id]
      | _ => []
  | _ => []

/-- The requests whose callers go away during some moves while their frames are being sent. -/
def forsaken (s : Session) : List Move → List Int64
  | [] => []
  | move :: moves => s.forsakenBy move ++ (s.move move).forsaken moves

/-! ### One move and one request -/

/-- What a move does to the caller of a request and to its entry. -/
inductive Passes (s : Session) (move : Move) (id : Int64) : Prop where
  /-- The caller is where it was, and the entry is taken out from outside at most. -/
  | stays (hstage : (s.move move).stage id = s.stage id) (hforsaken : id ∉ s.forsakenBy move)
      (hpending : id ∈ (s.move move).pendingIds → id ∈ s.pendingIds)
      (hremoved : id ∈ s.removedBy (s.move move) → move.FromOutside id)
  /-- The caller gets its id. -/
  | begins (hbefore : (s.stage id).entered = false)
      (hafter : ((s.move move).stage id).entered = false) (hforsaken : id ∉ s.forsakenBy move)
      (hpending : (s.move move).pending = s.pending)
  /-- The request of the caller is recorded. -/
  | enters (hbefore : (s.stage id).entered = false)
      (hafter : ((s.move move).stage id).isAlive = true) (hforsaken : id ∉ s.forsakenBy move)
      (hpending : id ∈ (s.move move).pendingIds)
  /-- The caller comes further. -/
  | goesOn (hbefore : (s.stage id).isAlive = true)
      (hafter : ((s.move move).stage id).isAlive = true) (hforsaken : id ∉ s.forsakenBy move)
      (hpending : (s.move move).pending = s.pending)
  /-- The caller goes away while its frame is being sent, and the entry stays. -/
  | leaves (hbefore : (s.stage id).isAlive = true)
      (hafter : ((s.move move).stage id).isOver = true) (hforsaken : id ∈ s.forsakenBy move)
      (hpending : (s.move move).pending = s.pending)
  /-- The caller comes to its end, and the entry is out. -/
  | ends (hbefore : (s.stage id).isAlive = true)
      (hafter : ((s.move move).stage id).isOver = true) (hforsaken : id ∉ s.forsakenBy move)
      (hpending : id ∉ (s.move move).pendingIds)

/-- Taking one entry out leaves the others. -/
theorem mem_pendingIds_of_filter (h : after.pending = s.pending.filter (·.1 != other)) :
    id ∈ after.pendingIds ↔ id ∈ s.pendingIds ∧ id ≠ other := by
  rw [pendingIds, h]
  exact mem_keys_filter_ne

/-- A move that leaves the entries as they are takes none out. -/
theorem not_mem_removedBy_of_pending_eq (h : after.pending = s.pending) :
    id ∉ s.removedBy after := by
  rw [removedBy_of_pending_eq h]
  exact List.not_mem_nil

/-- A move that concerns the caller of another request takes out no entry but that one. -/
theorem Passes.elsewhere (hne : id ≠ other)
    (hstage : (s.move move).stage id = s.stage id) (hforsaken : id ∉ s.forsakenBy move)
    (hpending : (s.move move).pending = s.pending ∨
      (s.move move).pending = s.pending.filter (·.1 != other)) : Passes s move id := by
  rcases hpending with hsame | htaken
  · refine .stays hstage hforsaken (fun h => ?_) fun h => ?_
    · rwa [pendingIds, hsame] at h
    · exact absurd h (not_mem_removedBy_of_pending_eq hsame)
  · refine .stays hstage hforsaken (fun h => ((mem_pendingIds_of_filter htaken).1 h).1) fun h => ?_
    obtain ⟨hmem, hout⟩ := mem_removedBy.1 h
    exact absurd ((mem_pendingIds_of_filter htaken).2 ⟨hmem, hne⟩) hout

/-- A move that sets no stage and takes out only what it resolves from outside. -/
theorem Passes.of_stage_eq (hstage : (s.move move).stage = s.stage)
    (hforsaken : s.forsakenBy move = [])
    (hpending : (s.move move).pending = s.pending ∨
      ∃ other, move.FromOutside other ∧
        (s.move move).pending = s.pending.filter (·.1 != other)) : Passes s move id := by
  have hnot : id ∉ s.forsakenBy move := by
    rw [hforsaken]
    exact List.not_mem_nil
  rcases hpending with hsame | ⟨other, houtside, htaken⟩
  · refine .stays (congrFun hstage id) hnot (fun h => ?_) fun h => ?_
    · rwa [pendingIds, hsame] at h
    · exact absurd h (not_mem_removedBy_of_pending_eq hsame)
  · by_cases hid : id = other
    · subst hid
      exact .stays (congrFun hstage id) hnot (fun h => ((mem_pendingIds_of_filter htaken).1 h).1)
        fun _ => houtside
    · exact .elsewhere hid (congrFun hstage id) hnot (Or.inr htaken)

/-- To stamp a request takes out no entry and adds none. -/
theorem passes_stamp (request : Message) (timeout : Option Millis)
    (hfresh : s.stage s.correlator.nextId = .unused) :
    Passes s (.stamp request timeout) id := by
  rcases stamp_cases s.correlator request with
    ⟨ready, stamped, hready, hstamp⟩ | ⟨fault, refused, c, hc, hstamp⟩
  · have hmove : s.move (.stamp request timeout) =
        { s with correlator := { s.correlator with nextId := s.correlator.nextId + 1 } }.setStage
          ready.id (.stamped ready.expected timeout) := by
      simp only [Session.move, hstamp]
    have hpending : (s.move (.stamp request timeout)).pending = s.pending := by
      rw [hmove]
      rfl
    by_cases hid : id = ready.id
    · refine .begins ?_ ?_ List.not_mem_nil hpending
      · rw [hid, hready, hfresh]
        rfl
      · rw [hmove, stage_setStage, if_pos hid]
        rfl
    · refine .elsewhere hid ?_ List.not_mem_nil (Or.inl hpending)
      rw [hmove, stage_setStage, if_neg hid]
  · have hmove : s.move (.stamp request timeout) = { s with correlator := c } := by
      simp only [Session.move, hstamp]
    refine .of_stage_eq (by rw [hmove]) rfl (Or.inl ?_)
    rw [hmove]
    rcases hc with rfl | rfl <;> rfl

/-- A move that does nothing. -/
theorem Passes.of_eq (h : s.move move = s) (hforsaken : s.forsakenBy move = []) :
    Passes s move id :=
  .of_stage_eq (by rw [h]) hforsaken (Or.inl (by rw [h]))

/-- To record a request takes out no entry. -/
theorem passes_enter (other : Int64) : Passes s (.enter other) id := by
  cases hstage : s.stage other with
  | stamped expected timeout =>
    have hmove : s.move (.enter other) =
        { s with
          correlator := s.correlator.enter other expected
          recorded := s.recorded ++ [(other, expected)] }.setStage other
            (.transmitting (timeout.map (s.now + ·))) := by
      simp only [Session.move, hstage]
    have hmem : id ∈ (s.move (.enter other)).pendingIds ↔ id ∈ s.pendingIds ∨ id = other := by
      have hpending : (s.move (.enter other)).pending =
          s.pending.filter (·.1 != other) ++ [(other, expected)] := by
        rw [hmove]
        rfl
      rw [pendingIds, hpending, List.map_append, List.mem_append, mem_keys_filter_ne,
        List.map_singleton, List.mem_singleton]
      by_cases hid : id = other <;> simp [hid, pendingIds]
    by_cases hid : id = other
    · subst hid
      refine .enters ?_ ?_ List.not_mem_nil (hmem.2 (Or.inr rfl))
      · rw [hstage]
        rfl
      · rw [hmove, stage_setStage, if_pos rfl]
        rfl
    · refine .stays ?_ List.not_mem_nil (fun h => (hmem.1 h).resolve_right hid) fun hgone => ?_
      · rw [hmove, stage_setStage, if_neg hid]
      · obtain ⟨hbefore, hout⟩ := mem_removedBy.1 hgone
        exact absurd (hmem.2 (Or.inl hbefore)) hout
  | _ => exact .of_eq (by simp only [Session.move, hstage]) rfl

/-- A caller that comes further. -/
theorem passes_setStage {stage : Stage} (hmove : s.move move = s.setStage other stage)
    (hbefore : (s.stage other).isAlive = true) (hafter : stage.isAlive = true)
    (hforsaken : s.forsakenBy move = []) : Passes s move id := by
  have hpending : (s.move move).pending = s.pending := by
    rw [hmove]
    rfl
  have hnot : id ∉ s.forsakenBy move := by
    rw [hforsaken]
    exact List.not_mem_nil
  by_cases hid : id = other
  · subst hid
    refine .goesOn hbefore ?_ hnot hpending
    rw [hmove, stage_setStage, if_pos rfl]
    exact hafter
  · refine .elsewhere hid ?_ hnot (Or.inl hpending)
    rw [hmove, stage_setStage, if_neg hid]

/-- A caller that comes to its end when its entry is out or goes out with it. -/
theorem passes_end {c : Correlator} {stage : Stage}
    (hmove : s.move move = { s with correlator := c }.setStage other stage)
    (hbefore : (s.stage other).isAlive = true) (hafter : stage.isOver = true)
    (hforsaken : s.forsakenBy move = [])
    (hpending : (c.table.pending = s.pending ∧ other ∉ s.pendingIds) ∨
      c.table.pending = s.pending.filter (·.1 != other)) : Passes s move id := by
  have hafterPending : (s.move move).pending = c.table.pending := by
    rw [hmove]
    rfl
  have hnot : id ∉ s.forsakenBy move := by
    rw [hforsaken]
    exact List.not_mem_nil
  by_cases hid : id = other
  · subst hid
    refine .ends hbefore ?_ hnot ?_
    · rw [hmove, stage_setStage, if_pos rfl]
      exact hafter
    · rcases hpending with ⟨hsame, hout⟩ | htaken
      · rwa [pendingIds, hafterPending, hsame]
      · intro h
        exact ((mem_pendingIds_of_filter (hafterPending.trans htaken)).1 h).2 rfl
  · refine .elsewhere hid ?_ hnot ?_
    · rw [hmove, stage_setStage, if_neg hid]
    · rw [hafterPending]
      exact hpending.imp_left And.left

/-- A frame that is refused takes out the entry of its own request only. -/
theorem passes_refused (other : Int64) : Passes s (.refused other) id := by
  cases hstage : s.stage other with
  | transmitting deadline =>
    have hmove : s.move (.refused other) =
        { s with correlator := s.correlator.withdraw other }.setStage other .failed := by
      simp only [Session.move, hstage]
    refine passes_end hmove ?_ rfl rfl (Or.inr rfl)
    rw [hstage]
    rfl
  | _ => exact .of_eq (by simp only [Session.move, hstage]) rfl

/-- To go away while the frame is sent takes out nothing. -/
theorem passes_forsake (other : Int64) : Passes s (.forsake other) id := by
  cases hstage : s.stage other with
  | transmitting deadline =>
    have hmove : s.move (.forsake other) = s.setStage other .gone := by
      simp only [Session.move, hstage]
    have hpending : (s.move (.forsake other)).pending = s.pending := by
      rw [hmove]
      rfl
    have hforsaken : s.forsakenBy (.forsake other) = [other] := by
      simp only [forsakenBy, hstage]
    by_cases hid : id = other
    · subst hid
      refine .leaves ?_ ?_ ?_ hpending
      · rw [hstage]
        rfl
      · rw [hmove, stage_setStage, if_pos rfl]
        rfl
      · rw [hforsaken]
        exact List.mem_singleton_self id
    · refine .elsewhere hid ?_ ?_ (Or.inl hpending)
      · rw [hmove, stage_setStage, if_neg hid]
      · rw [hforsaken, List.mem_singleton]
        exact hid
  | _ =>
    refine .of_eq ?_ ?_
    · simp only [Session.move, hstage]
    · simp only [forsakenBy, hstage]

/-- A reply takes an entry out from outside. -/
theorem passes_reply (message : Message) : Passes s (.reply message) id := by
  rcases route_cases s.correlator message s.now with
    ⟨expected, receipt, -, hroute⟩ | ⟨receipt, table, hroute, hpending, -⟩
  · have hmove : (s.move (.reply message)).pending =
        s.pending.filter (·.1 != message.requestId) := by
      simp only [Session.move, hroute]
      rfl
    exact .of_stage_eq rfl rfl (Or.inr ⟨message.requestId, rfl, hmove⟩)
  · refine .of_stage_eq rfl rfl (Or.inl ?_)
    simp only [Session.move, hroute]
    exact hpending

/-- A cancellation takes an entry out from outside. -/
theorem passes_cancel (other : Int64) : Passes s (.cancel other) id := by
  rcases giveUp_cases s.correlator other s.now with ⟨table, hretire, hgive⟩ | ⟨-, hgive⟩
  · have hmove : (s.move (.cancel other)).pending = s.pending.filter (·.1 != other) := by
      simp only [Session.move, hgive]
      exact (InFlight.retire?_eq_some hretire).2.1
    exact .of_stage_eq rfl rfl (Or.inr ⟨other, rfl, hmove⟩)
  · refine .of_stage_eq rfl rfl (Or.inl ?_)
    simp only [Session.move, hgive]
    rfl

/-- To drop a handle takes out the entry of its own request only. -/
theorem passes_drop (other : Int64) : Passes s (.drop other) id := by
  have dropped : (s.stage other).isAlive = true →
      s.move (.drop other) =
        { s with correlator := s.correlator.abandon other s.now }.setStage other .gone →
      Passes s (.drop other) id := fun halive hmove =>
    passes_end hmove halive rfl rfl (Or.inr (pending_abandon s.correlator other s.now))
  cases hstage : s.stage other with
  | held deadline =>
    refine dropped ?_ ?_
    · rw [hstage]
      rfl
    · simp only [Session.move, hstage]
  | waiting deadline =>
    refine dropped ?_ ?_
    · rw [hstage]
      rfl
    · simp only [Session.move, hstage]
  | _ => exact .of_eq (by simp only [Session.move, hstage]) rfl

/-- To look for the outcome takes out the entry of its own request only. -/
theorem passes_poll (haccounted : Accounted s removals) (other : Int64) (clockFirst : Bool) :
    Passes s (.poll other clockFirst) id := by
  cases hstage : s.stage other with
  | waiting deadline =>
    have halive : (s.stage other).isAlive = true := by
      rw [hstage]
      rfl
    rcases poll_cases s.correlator other deadline s.now clockFirst with
      ⟨verdict, hlook, hpoll⟩ | ⟨table, -, hretire, hpoll⟩ | ⟨-, hpoll⟩
    · have hmove : s.move (.poll other clockFirst) =
          { s with correlator := { s.correlator with
              delivered := s.correlator.delivered.filter (·.1 != other) } }.setStage other
            (.settled verdict) := by
        simp only [Session.move, hstage, hpoll]
      refine passes_end hmove halive rfl rfl (Or.inl ⟨rfl, ?_⟩)
      exact haccounted.not_mem_pendingIds (by rw [hlook]; rfl)
    · have hmove : s.move (.poll other clockFirst) =
          { s with correlator := { s.correlator with table } }.setStage other
            (.settled (.error .timeout)) := by
        simp only [Session.move, hstage, hpoll]
      exact passes_end hmove halive rfl rfl (Or.inr (InFlight.retire?_eq_some hretire).2.1)
    · exact .of_eq (by simp only [Session.move, hstage, hpoll]) rfl
  | _ => exact .of_eq (by simp only [Session.move, hstage]) rfl

/-- What any move does to a caller and to its entry. -/
theorem passes_move (haccounted : Accounted s removals)
    (hfresh : move.takesId = true → s.stage s.correlator.nextId = .unused) (id : Int64) :
    Passes s move id := by
  cases move with
  | stamp request timeout => exact passes_stamp request timeout (hfresh rfl)
  | skip => exact .of_stage_eq rfl rfl (Or.inl rfl)
  | enter other => exact passes_enter other
  | transmitted other =>
    cases hstage : s.stage other with
    | transmitting deadline =>
      have hmove : s.move (.transmitted other) = s.setStage other (.held deadline) := by
        simp only [Session.move, hstage]
      refine passes_setStage hmove ?_ rfl rfl
      rw [hstage]
      rfl
    | _ => exact .of_eq (by simp only [Session.move, hstage]) rfl
  | refused other => exact passes_refused other
  | forsake other => exact passes_forsake other
  | reply message => exact passes_reply message
  | cancel other => exact passes_cancel other
  | close =>
    refine .stays rfl List.not_mem_nil (fun h => ?_) fun _ => trivial
    exact absurd h List.not_mem_nil
  | deliver index =>
    cases hdue : s.due[index]? with
    | none => exact .of_eq (by simp only [Session.move, hdue]) rfl
    | some outcome =>
      refine .of_stage_eq ?_ rfl (Or.inl ?_)
      · simp only [Session.move, hdue]
      · simp only [Session.move, hdue]
        rfl
  | wait other =>
    cases hstage : s.stage other with
    | held deadline =>
      have hmove : s.move (.wait other) = s.setStage other (.waiting deadline) := by
        simp only [Session.move, hstage]
      refine passes_setStage hmove ?_ rfl rfl
      rw [hstage]
      rfl
    | _ => exact .of_eq (by simp only [Session.move, hstage]) rfl
  | drop other => exact passes_drop other
  | poll other clockFirst => exact passes_poll haccounted other clockFirst
  | pass span => exact .of_stage_eq rfl rfl (Or.inl rfl)

/-- What has come to its end stays there, and if its entry goes it is taken out from
outside. -/
theorem Passes.of_isOver (h : Passes s move id) (hover : (s.stage id).isOver = true) :
    (s.move move).stage id = s.stage id ∧ id ∉ s.forsakenBy move ∧
      (id ∈ s.removedBy (s.move move) → move.FromOutside id) := by
  have hdead : ¬ (s.stage id).isAlive = true := by
    rw [Stage.not_isAlive_of_isOver hover]
    exact Bool.false_ne_true
  have hentered : ¬ (s.stage id).entered = false := by
    rw [Stage.entered_eq, hover, Bool.or_true]
    exact Bool.noConfusion
  cases h with
  | stays hstage hforsaken hpending hremoved => exact ⟨hstage, hforsaken, hremoved⟩
  | begins hbefore => exact absurd hbefore hentered
  | enters hbefore => exact absurd hbefore hentered
  | goesOn hbefore => exact absurd hbefore hdead
  | leaves hbefore => exact absurd hbefore hdead
  | ends hbefore => exact absurd hbefore hdead

/-- A caller that is there after a move, or leaves by it, was there before or has just been
recorded. -/
theorem Passes.alive_or_pending (h : Passes s move id)
    (hafter : ((s.move move).stage id).isAlive = true ∨ id ∈ s.forsakenBy move) :
    (s.stage id).isAlive = true ∨ id ∈ (s.move move).pendingIds := by
  cases h with
  | stays hstage hforsaken =>
    rw [← hstage]
    exact Or.inl (hafter.resolve_right hforsaken)
  | begins hbefore hunentered hforsaken =>
    have halive := hafter.resolve_right hforsaken
    rw [Stage.entered_eq, halive] at hunentered
    cases hunentered
  | enters hbefore halive hforsaken hpending => exact Or.inr hpending
  | goesOn hbefore => exact Or.inl hbefore
  | leaves hbefore => exact Or.inl hbefore
  | ends hbefore => exact Or.inl hbefore

/-- The caller of an entry that a move takes out otherwise than from outside comes to its end
by the move, and does not leave its entry behind. -/
theorem Passes.of_mem_removedBy (h : Passes s move id)
    (hremoved : id ∈ s.removedBy (s.move move)) :
    move.FromOutside id ∨ ((s.stage id).isAlive = true ∧
      ((s.move move).stage id).isOver = true ∧ id ∉ s.forsakenBy move) := by
  cases h with
  | stays hstage hforsaken hpending houtside => exact Or.inl (houtside hremoved)
  | begins _ _ _ hpending => exact absurd hremoved (not_mem_removedBy_of_pending_eq hpending)
  | enters _ _ _ hpending => exact absurd hpending (mem_removedBy.1 hremoved).2
  | goesOn _ _ _ hpending => exact absurd hremoved (not_mem_removedBy_of_pending_eq hpending)
  | leaves _ _ _ hpending => exact absurd hremoved (not_mem_removedBy_of_pending_eq hpending)
  | ends hbefore hafter hforsaken => exact Or.inr ⟨hbefore, hafter, hforsaken⟩

/-! ### Whole sessions -/

/-- The requests in flight are those whose callers are there or left them behind, as far as
nothing has removed them.  Those that were left behind are removed from outside only. -/
structure Attached (s : Session) (removals : List (Int64 × Move)) (left : List Int64) : Prop where
  pending : ∀ id ∈ s.pendingIds, (s.stage id).isAlive = true ∨ id ∈ left
  known : ∀ id, (s.stage id).isAlive = true ∨ id ∈ left →
    id ∈ s.pendingIds ∨ id ∈ removals.map Prod.fst
  ending : ∀ id ∈ left, (s.stage id).isOver = true
  outside : ∀ removal ∈ removals, removal.2.FromOutside removal.1 ∨
    ((s.stage removal.1).isOver = true ∧ removal.1 ∉ left)

/-- After a move that passes by the others the entries are attached as before. -/
theorem Attached.after_move (h : Attached s removals left) (hpasses : ∀ id, Passes s move id) :
    Attached (s.move move) (removals ++ (s.removedBy (s.move move)).map fun id => (id, move))
      (left ++ s.forsakenBy move) where
  pending id hid := by
    cases hpasses id with
    | stays hstage hforsaken hpending =>
      rw [hstage]
      exact (h.pending id (hpending hid)).imp_right (List.mem_append_left _)
    | begins hbefore hafter hforsaken hpending =>
      rw [pendingIds, hpending] at hid
      rw [Stage.entered_eq, Bool.or_eq_false_iff] at hbefore
      rcases h.pending id hid with halive | hleft
      · rw [hbefore.1] at halive
        cases halive
      · have hover := h.ending id hleft
        rw [hbefore.2] at hover
        cases hover
    | enters hbefore hafter => exact Or.inl hafter
    | goesOn hbefore hafter => exact Or.inl hafter
    | leaves hbefore hafter hforsaken => exact Or.inr (List.mem_append_right _ hforsaken)
    | ends hbefore hafter hforsaken hpending => exact absurd hid hpending
  known id hid := by
    have hold : (s.stage id).isAlive = true ∨ id ∈ left →
        id ∈ (s.move move).pendingIds ∨ id ∈ (removals ++
          (s.removedBy (s.move move)).map fun other => (other, move)).map Prod.fst := by
      intro hbefore
      rw [List.map_append, map_fst_removals, List.mem_append, mem_removedBy]
      have hknown := h.known id hbefore
      by_cases hafter : id ∈ (s.move move).pendingIds
      · exact Or.inl hafter
      · tauto
    rw [List.mem_append] at hid
    rcases hid with halive | hleft | hforsaken
    · rcases (hpasses id).alive_or_pending (Or.inl halive) with hbefore | hpending
      · exact hold (Or.inl hbefore)
      · exact Or.inl hpending
    · exact hold (Or.inr hleft)
    · rcases (hpasses id).alive_or_pending (Or.inr hforsaken) with hbefore | hpending
      · exact hold (Or.inl hbefore)
      · exact Or.inl hpending
  ending id hid := by
    rcases List.mem_append.1 hid with hleft | hforsaken
    · have hover := h.ending id hleft
      rwa [((hpasses id).of_isOver hover).1]
    · cases hpasses id with
      | leaves hbefore hafter => exact hafter
      | stays _ hnot | begins _ _ hnot | enters _ _ hnot | goesOn _ _ hnot | ends _ _ hnot =>
        exact absurd hforsaken hnot
  outside removal hremoval := by
    rcases List.mem_append.1 hremoval with hold | hnew
    · refine (h.outside removal hold).imp_right ?_
      rintro ⟨hover, hleft⟩
      obtain ⟨hstage, hforsaken, -⟩ := (hpasses removal.1).of_isOver hover
      rw [hstage, List.mem_append, not_or]
      exact ⟨hover, hleft, hforsaken⟩
    · obtain ⟨id, hremoved, rfl⟩ := List.mem_map.1 hnew
      refine ((hpasses id).of_mem_removedBy hremoved).imp_right ?_
      rintro ⟨halive, hover, hforsaken⟩
      rw [List.mem_append, not_or]
      refine ⟨hover, fun hleft => ?_, hforsaken⟩
      rw [Stage.not_isAlive_of_isOver (h.ending id hleft)] at halive
      cases halive

/-- At the end of a session in which fewer than 2⁶³ ids are used up. -/
theorem attached_run (moves : List Move) {n : Nat} (hnumbered : Numbered n s)
    (haccounted : Accounted s removals) (hattached : Attached s removals left)
    (hids : n + moves.countP Move.takesId < 9223372036854775808) :
    Attached (s.runFrom removals moves).1 (s.runFrom removals moves).2
      (left ++ s.forsaken moves) := by
  induction moves generalizing s removals left n with
  | nil =>
    rw [forsaken, List.append_nil]
    exact hattached
  | cons move moves ih =>
    obtain ⟨hfresh, m, hrest, hnumbered⟩ := hnumbered.first_move hids
    have hafter := ih hnumbered (haccounted.move hfresh)
      (hattached.after_move (passes_move haccounted hfresh)) hrest
    rw [List.append_assoc] at hafter
    exact hafter

/-- In the beginning there is nothing to attach. -/
theorem attached_start (codec : Codec) (settings : Settings) :
    Attached (start codec settings) [] [] where
  pending _ h := absurd h List.not_mem_nil
  known id h := by
    rcases h with halive | hleft
    · cases halive
    · exact absurd hleft List.not_mem_nil
  ending _ h := absurd h List.not_mem_nil
  outside _ h := absurd h List.not_mem_nil

/-- Which requests are in flight, when `left` are those whose callers went away while the frame
was being sent and `removals` are the moves that took entries out. -/
structure InFlightFor (s : Session) (removals : List (Int64 × Move)) (left : List Int64) :
    Prop where
  /-- They are those whose callers are there, sending the frame, with a handle or waiting, and
  those that were left behind, as far as no move has removed them.  So nothing is in flight for
  a caller that went away at any other moment. -/
  pending : ∀ id, id ∈ s.pending.map Prod.fst ↔
    ((s.stage id).isAlive = true ∨ id ∈ left) ∧ id ∉ removals.map Prod.fst
  /-- Once no caller is there, the table is empty exactly when all those that were left behind
  have been removed, -/
  empty : (∀ id, (s.stage id).isAlive = false) →
    (s.correlator.inFlight = 0 ↔ ∀ id ∈ left, id ∈ removals.map Prod.fst)
  /-- and nothing removes one of them but a reply for it, a cancellation by its id or the end of
  the connection. -/
  outside : ∀ removal ∈ removals, removal.1 ∈ left → removal.2.FromOutside removal.1

/-- After any moves in any order the requests in flight are those whose callers are there and
those that were left behind while the frame was being sent, as far as nothing has resolved
them. -/
theorem run_in_flight (codec : Codec) (settings : Settings) (moves : List Move)
    (hids : moves.countP Move.takesId < 9223372036854775808) :
    InFlightFor ((start codec settings).run moves).1 ((start codec settings).run moves).2
      ((start codec settings).forsaken moves) := by
  have hzero : 0 + moves.countP Move.takesId < 9223372036854775808 := by
    rw [Nat.zero_add]
    exact hids
  have haccounted := accounted_run moves (numbered_start codec settings)
    (accounted_start codec settings) hzero
  have hattached := attached_run moves (numbered_start codec settings)
    (accounted_start codec settings) (attached_start codec settings) hzero
  have hpending : ∀ id, id ∈ ((start codec settings).run moves).1.pendingIds ↔
      ((((start codec settings).run moves).1.stage id).isAlive = true ∨
        id ∈ (start codec settings).forsaken moves) ∧
          id ∉ ((start codec settings).run moves).2.map Prod.fst := by
    intro id
    constructor
    · intro hid
      exact ⟨hattached.pending id hid, (haccounted.mem_pendingIds.1 hid).2⟩
    · rintro ⟨hheld, hremoved⟩
      exact (hattached.known id hheld).resolve_right hremoved
  exact {
    pending := hpending
    empty := fun hdead => by
      have hempty : ((start codec settings).run moves).1.correlator.inFlight = 0 ↔
          ∀ id, id ∉ ((start codec settings).run moves).1.pendingIds := by
        rw [inFlight, ← Session.pending, ← List.length_map (f := Prod.fst),
          List.length_eq_zero_iff]
        exact List.eq_nil_iff_forall_not_mem
      rw [hempty]
      refine forall_congr' fun id => ?_
      rw [hpending, hdead id]
      simp
    outside := fun removal hremoval hleft => by
      rcases hattached.outside removal hremoval with houtside | ⟨-, hnot⟩
      · exact houtside
      · exact absurd hleft hnot }

/-- Two callers go away, one while its frame is being sent and one with its handle. -/
def twoGone : List Move :=
  [.stamp (Message.request .heartbeat) none, .enter 1, .stamp (Message.request .connect) none,
    .enter 2, .transmitted 2, .forsake 1, .drop 2]

/-- The caller that goes away while its frame is being sent leaves its entry behind. -/
theorem run_in_flight_twoGone :
    twoGone.countP Move.takesId < 9223372036854775808 ∧
      InFlightFor ((start Codec.standard {}).run twoGone).1 ((start Codec.standard {}).run twoGone).2
        ((start Codec.standard {}).forsaken twoGone) :=
  have hids : twoGone.countP Move.takesId < 9223372036854775808 := by decide
  ⟨hids, run_in_flight Codec.standard {} twoGone hids⟩

/-- Nobody is there for either of them, and one is in flight still. -/
theorem inFlight_twoGone :
    let s := ((start Codec.standard {}).run twoGone).1
    (∀ id, (s.stage id).isAlive = false) ∧ s.correlator.inFlight = 1 := by
  have hattached := attached_run twoGone (numbered_start Codec.standard {})
    (accounted_start Codec.standard {}) (attached_start Codec.standard {}) (by decide)
  have hpending : ((start Codec.standard {}).run twoGone).1.pendingIds = [1] := by
    decide +kernel
  have hremoved : ((start Codec.standard {}).run twoGone).2.map Prod.fst = [2] := by
    decide +kernel
  constructor
  · intro id
    by_contra halive
    rw [Bool.not_eq_false] at halive
    have hknown := hattached.known id (Or.inl halive)
    change id ∈ ((start Codec.standard {}).run twoGone).1.pendingIds ∨
      id ∈ ((start Codec.standard {}).run twoGone).2.map Prod.fst at hknown
    rw [hpending, hremoved, List.mem_singleton, List.mem_singleton] at hknown
    rcases hknown with rfl | rfl
    · exact absurd halive (by decide +kernel)
    · exact absurd halive (by decide +kernel)
  · decide +kernel

end Session

end Correlator

end Parley
