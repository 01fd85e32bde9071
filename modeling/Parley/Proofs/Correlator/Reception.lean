/-
# What a receiver does to callers

A frame that is dropped changes nothing but what the correlator remembers of requests that
were given up, and that has no bearing on any caller.  So two sessions that differ by clutter
from the source only are the same for all callers, as long as the receiver of one of them
has a turn more for each item of clutter (`Agree`).

When the receiver ends, the connection is closed.  What is in flight then is out of the table
by that move and by no other, so its callers are told that the connection is closed and
nothing else (`Condemned`).
-/

import Mathlib.Data.List.Perm.Basic
import Parley.Correlator.Reception
import Parley.Proofs.Correlator.Abandonment
import Parley.Proofs.Correlator.History
import Parley.Proofs.Exchange.Tasks

namespace Parley

namespace Correlator

open InFlight

/-! ### Frames that are dropped -/

/-- A frame that is dropped, other than a reply of the wrong type, changes what is remembered
of requests that were given up, and nothing else. -/
theorem receiveFrame_of_dropped {c : Correlator} {frame : Frame.Bytes} {now : Millis}
    (h : (c.receiveFrame frame now).1 = .ok .discarded ∨
      ∃ fault, (c.receiveFrame frame now).1 = .error fault ∧
        ∀ expected actual, fault ≠ .replyTypeMismatch expected actual) :
    ∃ retired, (c.receiveFrame frame now).2 = c.withRetired retired := by
  rw [receiveFrame] at h ⊢
  cases hdecode : c.codec.decode frame with
  | error fault => exact ⟨c.table.retired, rfl⟩
  | ok reply =>
    simp only [hdecode, receive] at h ⊢
    by_cases hreply : reply.isReply = true
    · cases hfound : c.table.expected? reply.requestId with
      | none =>
        rw [route_of_not_pending hreply hfound]
        exact ⟨_, rfl⟩
      | some expected =>
        -- A reply for a request in flight is matched, or it is of the wrong type.
        rw [route_of_pending hreply hfound] at h
        by_cases htag : reply.tag = expected
        · simp only [if_pos htag] at h
          obtain h | ⟨fault, h, -⟩ := h <;> cases h
        · simp only [if_neg htag] at h
          obtain h | ⟨fault, h, hother⟩ := h
          · cases h
          · cases h
            exact absurd rfl (hother expected reply.tag)
    · rw [route_of_not_isReply hreply]
      exact ⟨c.table.retired, rfl⟩

namespace Session

variable {s after : Session} {removals : List (Int64 × Move)} {id : Int64}

/-- A message that is no reply, or a reply for no request in flight, is dropped. -/
theorem move_reply_of_dropped {message : Message}
    (h : message.isReply = true → message.requestId ∉ s.pendingIds) :
    ∃ retired, s.move (.reply message) = s.withRetired retired := by
  by_cases hreply : message.isReply = true
  · have hfound : s.correlator.table.expected? message.requestId = none :=
      expected?_eq_none_iff.2 (h hreply)
    simp only [Session.move, route_of_not_pending hreply hfound, owe, Option.toList_none,
      List.append_nil]
    exact ⟨_, rfl⟩
  · simp only [Session.move, route_of_not_isReply hreply]
    refine ⟨s.correlator.table.retired, ?_⟩
    rw [owe, withRetired, Option.toList_none, List.append_nil]

/-! ### What every move keeps -/

/-- The codec is the same, who has an id keeps one, only a caller with an id gets an entry,
and an outcome that has come is lost only with the end of its caller. -/
structure Continues (s after : Session) : Prop where
  codec : after.correlator.codec = s.correlator.codec
  used : ∀ id, s.stage id ≠ .unused → after.stage id ≠ .unused
  pending : ∀ id ∈ after.pendingIds, id ∈ s.pendingIds ∨ after.stage id ≠ .unused
  outcomes : ∀ outcome ∈ s.outcomes,
    outcome ∈ after.outcomes ∨ (after.stage outcome.1).isOver = true

/-- A session continues when no caller moves, no entry is added and no outcome is lost. -/
theorem Continues.of_stage_eq (hcodec : after.correlator.codec = s.correlator.codec)
    (hstage : after.stage = s.stage) (hpending : ∀ id ∈ after.pendingIds, id ∈ s.pendingIds)
    (houtcomes : ∀ outcome ∈ s.outcomes, outcome ∈ after.outcomes) : Continues s after where
  codec := hcodec
  used id h := by rwa [hstage]
  pending id h := Or.inl (hpending id h)
  outcomes outcome h := Or.inl (houtcomes outcome h)

/-- A session continues as it is. -/
theorem Continues.refl (s : Session) : Continues s s :=
  .of_stage_eq rfl rfl (fun _ h => h) fun _ h => h

/-- A caller comes further. -/
theorem Continues.of_setStage {stage : Stage} (hused : stage ≠ .unused)
    (hcodec : after.correlator.codec = s.correlator.codec) (hstage : after.stage = s.stage)
    (hpending : ∀ other ∈ after.pendingIds, other ∈ s.pendingIds ∨ other = id)
    (houtcomes : ∀ outcome ∈ s.outcomes,
      outcome ∈ after.outcomes ∨ outcome.1 = id ∧ stage.isOver = true) :
    Continues s (after.setStage id stage) where
  codec := hcodec
  used other h := by
    rw [stage_setStage, hstage]
    by_cases hother : other = id
    · rwa [if_pos hother]
    · rwa [if_neg hother]
  pending other h := by
    refine (hpending other h).imp_right ?_
    intro hother
    rwa [stage_setStage, if_pos hother]
  outcomes outcome h := by
    refine (houtcomes outcome h).imp_right ?_
    rintro ⟨hid, hended⟩
    rwa [stage_setStage, if_pos hid]

/-- Outcomes of other requests are not lost. -/
theorem mem_outcomes_filter {outcome : Delivery} (h : outcome ∈ s.outcomes) (id : Int64) :
    outcome ∈ s.due ++ s.correlator.delivered.filter (·.1 != id) ∨ outcome.1 = id := by
  by_cases hid : outcome.1 = id
  · exact Or.inr hid
  · rcases List.mem_append.1 h with hdue | hdelivered
    · exact Or.inl (List.mem_append_left _ hdue)
    · exact Or.inl (List.mem_append_right _ (List.mem_filter.2 ⟨hdelivered, bne_iff_ne.2 hid⟩))

/-- What is left when an entry was taken out was in flight before. -/
theorem mem_pendingIds_of_filter_eq {table : InFlight}
    (h : table.pending = s.pending.filter (·.1 != id)) :
    ∀ other ∈ table.pending.map Prod.fst, other ∈ s.pendingIds := by
  intro other hother
  rw [h] at hother
  exact (mem_keys_filter_ne.1 hother).1

/-- A session continues when a caller goes away. -/
theorem continues_abandon (id : Int64) :
    Continues s ({ s with correlator := s.correlator.abandon id s.now }.setStage id .gone) := by
  have hcodec : (s.correlator.abandon id s.now).codec = s.correlator.codec := by
    rcases giveUp_cases s.correlator id s.now with ⟨table, -, hgive⟩ | ⟨-, hgive⟩ <;>
      simp only [abandon, hgive]
  have hdelivered : (s.correlator.abandon id s.now).delivered =
      s.correlator.delivered.filter (·.1 != id) := by
    rcases giveUp_cases s.correlator id s.now with ⟨table, -, hgive⟩ | ⟨-, hgive⟩ <;>
      simp only [abandon, hgive]
  refine .of_setStage (by simp) hcodec rfl (fun other hother => ?_) fun outcome h => ?_
  · exact Or.inl (mem_pendingIds_of_filter_eq (pending_abandon s.correlator id s.now) other hother)
  · refine (mem_outcomes_filter h id).imp (fun hkept => ?_) fun hid => ⟨hid, rfl⟩
    rw [outcomes, hdelivered]
    exact hkept

/-- What becomes due is added to the outcomes. -/
theorem continues_owe (due : List Delivery) {table : InFlight}
    (hpending : ∀ other ∈ table.pending.map Prod.fst, other ∈ s.pendingIds) :
    Continues s (s.owe due { s.correlator with table }) := by
  refine .of_stage_eq rfl rfl hpending fun outcome h => ?_
  rcases List.mem_append.1 h with hdue | hdelivered
  · exact List.mem_append_left _ (List.mem_append_left _ hdue)
  · exact List.mem_append_right _ hdelivered

/-- What was due is with its caller. -/
theorem continues_deliver (index : Nat) : Continues s (s.move (.deliver index)) := by
  cases hdue : s.due[index]? with
  | none =>
    simp only [Session.move, hdue]
    exact .refl s
  | some delivery =>
    simp only [Session.move, hdue]
    refine .of_stage_eq rfl rfl (fun _ h => h) fun outcome h => ?_
    obtain ⟨hindex, rfl⟩ := List.getElem?_eq_some_iff.1 hdue
    have hperm : s.due.Perm (s.due[index] :: s.due.eraseIdx index) :=
      (List.getElem_cons_eraseIdx_perm hindex).symm
    rw [outcomes, deliver]
    rcases List.mem_append.1 h with hmem | hdelivered
    · rcases List.mem_cons.1 (hperm.mem_iff.1 hmem) with rfl | hrest
      · exact List.mem_append_right _ (List.mem_append_right _ (List.mem_singleton_self _))
      · exact List.mem_append_left _ hrest
    · exact List.mem_append_right _ (List.mem_append_left _ hdelivered)

/-- Whoever asks for an outcome takes it out or waits on. -/
theorem continues_poll (id : Int64) (clockFirst : Bool) :
    Continues s (s.move (.poll id clockFirst)) := by
  cases hstage : s.stage id with
  | waiting deadline =>
    rcases poll_cases s.correlator id deadline s.now clockFirst with
      ⟨verdict, -, hpoll⟩ | ⟨table, -, hretire, hpoll⟩ | ⟨-, hpoll⟩
    · simp only [Session.move, hstage, hpoll]
      refine .of_setStage (by simp) rfl rfl (fun _ h => Or.inl h) fun outcome h => ?_
      exact (mem_outcomes_filter h id).imp_right fun hid => ⟨hid, rfl⟩
    · simp only [Session.move, hstage, hpoll]
      refine .of_setStage (by simp) rfl rfl (fun other hother => Or.inl ?_) fun _ h => Or.inl h
      exact mem_pendingIds_of_filter_eq (InFlight.retire?_eq_some hretire).2.1 other hother
    · simp only [Session.move, hstage, hpoll]
      exact .refl s
  | _ =>
    simp only [Session.move, hstage]
    exact .refl s

/-- A session continues with every move. -/
theorem continues_move (s : Session) (move : Move) : Continues s (s.move move) := by
  -- A caller comes further and nothing else changes.
  have advance : ∀ {id : Int64} {stage : Stage}, stage ≠ .unused →
      Continues s (s.setStage id stage) := fun hused =>
    .of_setStage hused rfl rfl (fun _ h => Or.inl h) fun _ h => Or.inl h
  cases move with
  | stamp request timeout =>
    rcases stamp_cases s.correlator request with
      ⟨ready, stamped, -, hstamp⟩ | ⟨fault, refused, c, hc, hstamp⟩
    · simp only [Session.move, hstamp]
      exact .of_setStage (by simp) rfl rfl (fun _ h => Or.inl h) fun _ h => Or.inl h
    · simp only [Session.move, hstamp]
      rcases hc with rfl | rfl
      · exact .refl s
      · exact .of_stage_eq rfl rfl (fun _ h => h) fun _ h => h
  | skip => exact .of_stage_eq rfl rfl (fun _ h => h) fun _ h => h
  | enter id =>
    simp only [Session.move]
    split
    · refine .of_setStage (by simp) rfl rfl (fun other hother => ?_) fun _ h => Or.inl h
      rw [pendingIds, Session.pending, Correlator.enter, InFlight.record, List.map_append] at hother
      rcases List.mem_append.1 hother with hold | hnew
      · exact Or.inl (mem_keys_filter_ne.1 hold).1
      · exact Or.inr (List.mem_singleton.1 hnew)
    · exact .refl s
  | transmitted id =>
    simp only [Session.move]
    split
    · exact advance (by simp)
    · exact .refl s
  | refused id =>
    simp only [Session.move]
    split
    · refine .of_setStage (by simp) rfl rfl (fun other hother => Or.inl ?_) fun _ h => Or.inl h
      exact mem_pendingIds_of_filter_eq rfl other hother
    · exact .refl s
  | forsake id =>
    simp only [Session.move]
    split
    · exact advance (by simp)
    · exact .refl s
  | reply message =>
    rcases route_cases s.correlator message s.now with
      ⟨expected, receipt, -, hroute⟩ | ⟨receipt, table, hroute, hpending, -⟩
    · simp only [Session.move, hroute]
      exact continues_owe _ (mem_pendingIds_of_filter_eq rfl)
    · simp only [Session.move, hroute]
      apply continues_owe
      rw [hpending]
      exact fun _ h => h
  | cancel id =>
    rcases giveUp_cases s.correlator id s.now with ⟨table, hretire, hgive⟩ | ⟨-, hgive⟩
    · simp only [Session.move, hgive]
      exact continues_owe _ (mem_pendingIds_of_filter_eq (InFlight.retire?_eq_some hretire).2.1)
    · simp only [Session.move, hgive]
      exact continues_owe _ fun _ h => h
  | close => exact continues_owe _ fun _ h => absurd h List.not_mem_nil
  | deliver index => exact continues_deliver index
  | wait id =>
    simp only [Session.move]
    split
    · exact advance (by simp)
    · exact .refl s
  | drop id =>
    simp only [Session.move]
    split
    · exact continues_abandon id
    · exact continues_abandon id
    · exact .refl s
  | poll id clockFirst => exact continues_poll id clockFirst
  | pass span => exact .of_stage_eq rfl rfl (fun _ h => h) fun _ h => h

end Session

namespace Reception

variable {r r' : Reception} {codec : Codec} {stray : Int64 → Prop} {a : Act}

/-! ### What one turn does -/

/-- What is taken from the source ends the receiver. -/
def isEnd : Link.Arrival → Bool
  | .fault fault => !fault.isProtocol
  | .ended => true
  | _ => false

/-- What is taken from the source is routed if it is a message. -/
def taken (s : Session) : Link.Arrival → Session
  | .frame frame =>
      match s.correlator.codec.decode frame with
      | .ok message => s.move (.reply message)
      | .error _ => s
  | _ => s

/-- A receiver that has ended does nothing. -/
theorem turn_of_ended (h : r.ended = true) : r.turn = r := by
  rw [turn, if_pos h]

/-- A receiver that was told to stop ends. -/
theorem turn_of_stopped (hended : r.ended = false) (h : r.stopped = true) : r.turn = r.finish := by
  rw [turn, hended, if_neg Bool.false_ne_true, if_pos h]

/-- Where nothing arrives a receiver waits. -/
theorem turn_of_nil (hended : r.ended = false) (hstopped : r.stopped = false)
    (h : r.arrivals = []) : r.turn = r := by
  rw [turn, hended, hstopped, if_neg Bool.false_ne_true, if_neg Bool.false_ne_true, h]

/-- An arrival ends the receiver, or it is received. -/
theorem turn_of_cons (hended : r.ended = false) (hstopped : r.stopped = false)
    {arrival : Link.Arrival} {rest : List Link.Arrival} (h : r.arrivals = arrival :: rest) :
    r.turn = if isEnd arrival = true then { r with arrivals := rest }.finish
      else { r with arrivals := rest, session := taken r.session arrival } := by
  rw [turn, hended, hstopped, if_neg Bool.false_ne_true, if_neg Bool.false_ne_true, h]
  cases arrival with
  | nothing => rfl
  | ended => rfl
  | fault fault =>
    cases hfault : fault.isProtocol with
    | true => simp only [hfault, if_true, isEnd, taken, Bool.not_true, if_neg Bool.false_ne_true]
    | false => simp only [hfault, isEnd, Bool.not_false, if_neg Bool.false_ne_true, if_true]
  | frame frame =>
    simp only [isEnd, taken]
    cases r.session.correlator.codec.decode frame with
    | ok message => rfl
    | error fault => rfl

/-- Routing a frame at once is taking it and delivering what is due then. -/
theorem receiveFrame_taken {s : Session} (h : s.due = []) (frame : Frame.Bytes) :
    (s.correlator.receiveFrame frame s.now).2 =
      (taken s (.frame frame)).correlator.deliverAll (taken s (.frame frame)).due := by
  simp only [receiveFrame, taken]
  cases s.correlator.codec.decode frame with
  | ok message => simp only [Session.move, Session.owe, receive, h, List.nil_append]
  | error fault =>
    simp only [h]
    rfl

/-- Whatever happens, at most one move is made in the session. -/
theorem act_cases (r : Reception) (a : Act) :
    (r.act a).session = r.session ∨
      ∃ move, (r.act a).session = r.session.move move ∧ move.takesId ≤ a.takesId := by
  cases a with
  | move move => exact Or.inr ⟨move, rfl, Bool.le_refl _⟩
  | stop => exact Or.inl rfl
  | turn =>
    have closes : ∃ move : Move, r.session.move .close = r.session.move move ∧
        move.takesId ≤ Act.turn.takesId := ⟨.close, rfl, Bool.le_refl _⟩
    rw [act]
    by_cases hended : r.ended = true
    · rw [turn_of_ended hended]
      exact Or.inl rfl
    rw [Bool.not_eq_true] at hended
    by_cases hstopped : r.stopped = true
    · rw [turn_of_stopped hended hstopped]
      exact Or.inr closes
    rw [Bool.not_eq_true] at hstopped
    cases harrivals : r.arrivals with
    | nil =>
      rw [turn_of_nil hended hstopped harrivals]
      exact Or.inl rfl
    | cons arrival rest =>
      rw [turn_of_cons hended hstopped harrivals]
      by_cases hend : isEnd arrival = true
      · rw [if_pos hend]
        exact Or.inr closes
      · rw [if_neg hend]
        cases arrival with
        | frame frame =>
          simp only [taken]
          cases r.session.correlator.codec.decode frame with
          | ok message => exact Or.inr ⟨.reply message, rfl, Bool.le_refl _⟩
          | error fault => exact Or.inl rfl
        | _ => exact Or.inl rfl

/-- The session of a reception continues with every act. -/
theorem continues_act (r : Reception) (a : Act) : r.session.Continues (r.act a).session := by
  obtain hsame | ⟨move, hmove, -⟩ := act_cases r a
  · rw [hsame]
    exact .refl r.session
  · rw [hmove]
    exact Session.continues_move r.session move

/-- The codec stays, and requests in flight have callers with ids. -/
structure Sound (codec : Codec) (r : Reception) : Prop where
  codec_eq : r.session.correlator.codec = codec
  known : ∀ id ∈ r.session.pendingIds, r.session.stage id ≠ .unused

/-- In the beginning a reception is sound. -/
theorem sound_start (codec : Codec) (settings : Settings) (arrivals : List Link.Arrival) :
    (start codec settings arrivals).Sound (Correlator.new codec settings).codec where
  codec_eq := rfl
  known _ h := absurd h List.not_mem_nil

/-- A reception stays sound with every act. -/
theorem Sound.act (h : r.Sound codec) (a : Act) : (r.act a).Sound codec where
  codec_eq := (continues_act r a).codec.trans h.codec_eq
  known id hid := by
    rcases (continues_act r a).pending id hid with hold | hused
    · exact (continues_act r a).used id (h.known id hold)
    · exact hused

/-- An id that no request has in the end no request had before. -/
theorem stage_of_run {id : Int64} (acts : List Act)
    (h : (r.run acts).session.stage id = .unused) : r.session.stage id = .unused := by
  induction acts generalizing r with
  | nil => exact h
  | cons a rest ih =>
    by_contra hused
    exact (continues_act r a).used id hused (ih h)

/-! ### Two sources -/

/-- Two sessions that are the same for all callers, one of which has clutter to come that
the other one has not. -/
structure Agree (codec : Codec) (stray : Int64 → Prop) (r r' : Reception) : Prop where
  session : ∃ retired, r.session = r'.session.withRetired retired
  arrivals : Padded (Clutter codec stray) r.arrivals r'.arrivals
  stopped : r.stopped = r'.stopped
  ended : r.ended = r'.ended

/-- Receptions that agree have callers that have come equally far. -/
theorem Agree.stage_eq (h : Agree codec stray r r') : r.session.stage = r'.session.stage := by
  obtain ⟨retired, hsession⟩ := h.session
  rw [hsession]
  rfl

/-- Receptions that agree are the same for the callers. -/
theorem Agree.same (h : Agree codec stray r r') : SameForCallers r r' := by
  obtain ⟨retired, hsession⟩ := h.session
  constructor
  · exact h.stage_eq
  · rw [hsession]
    rfl
  · rw [hsession]
    rfl
  · rw [hsession]
    rfl
  · exact h.ended

/-- Receptions that agree do so after a move of both. -/
theorem Agree.move (h : Agree codec stray r r') (move : Move) :
    Agree codec stray { r with session := r.session.move move }
      { r' with session := r'.session.move move } where
  session := by
    obtain ⟨retired, hsession⟩ := h.session
    rw [hsession]
    exact Session.move_withRetired r'.session retired move
  arrivals := h.arrivals
  stopped := h.stopped
  ended := h.ended

/-- Receptions that agree do so when both end. -/
theorem Agree.finish (h : Agree codec stray r r') : Agree codec stray r.finish r'.finish where
  session := (h.move .close).session
  arrivals := h.arrivals
  stopped := h.stopped
  ended := rfl

/-- What comes from both sources does the same to both sessions. -/
theorem Agree.taken (h : Agree codec stray r r') (arrival : Link.Arrival) :
    ∃ retired, taken r.session arrival =
      (Reception.taken r'.session arrival).withRetired retired := by
  obtain ⟨retired, hsession⟩ := h.session
  rw [hsession]
  cases arrival with
  | frame frame =>
    have hcodec : (r'.session.withRetired retired).correlator.codec =
        r'.session.correlator.codec := rfl
    simp only [Reception.taken, hcodec]
    cases r'.session.correlator.codec.decode frame with
    | ok message => exact Session.move_withRetired r'.session retired (.reply message)
    | error fault => exact ⟨retired, rfl⟩
  | _ => exact ⟨retired, rfl⟩

/-- Clutter leaves every caller where it is. -/
theorem taken_of_clutter {arrival : Link.Arrival} (h : Clutter codec stray arrival)
    (hsound : r.Sound codec) (hstray : ∀ id, stray id → r.session.stage id = .unused) :
    isEnd arrival = false ∧ ∃ retired, taken r.session arrival = r.session.withRetired retired := by
  have same : ∃ retired, r.session = r.session.withRetired retired :=
    ⟨r.session.correlator.table.retired, rfl⟩
  cases arrival with
  | nothing => exact ⟨rfl, same⟩
  | ended => exact absurd h id
  | fault fault =>
    have hprotocol : fault.isProtocol = true := h
    refine ⟨?_, same⟩
    rw [isEnd, hprotocol]
    rfl
  | frame frame =>
    refine ⟨rfl, ?_⟩
    simp only [taken, hsound.codec_eq]
    cases hdecode : codec.decode frame with
    | error fault => exact same
    | ok message =>
      apply Session.move_reply_of_dropped
      intro hreply hpending
      exact hsound.known _ hpending (hstray _ (h message hdecode hreply))

/-- A turn that takes clutter is one more than the other session needs. -/
theorem Agree.turn_insert (h : Agree codec stray r r') (hsound : r.Sound codec)
    (hstray : ∀ id, stray id → r.session.stage id = .unused) (hended : r.ended = false)
    (hstopped : r.stopped = false) {arrival : Link.Arrival} {rest : List Link.Arrival}
    (harrivals : r.arrivals = arrival :: rest) (hclutter : Clutter codec stray arrival)
    (hrest : Padded (Clutter codec stray) rest r'.arrivals) :
    Agree codec stray r.turn r' := by
  obtain ⟨hend, forgets⟩ := taken_of_clutter hclutter hsound hstray
  rw [turn_of_cons hended hstopped harrivals, hend, if_neg Bool.false_ne_true]
  obtain ⟨retired, htaken⟩ := forgets
  obtain ⟨other, hsession⟩ := h.session
  rw [htaken, hsession]
  exact ⟨⟨retired, rfl⟩, hrest, h.stopped, h.ended⟩

/-- A turn that takes the same from both sources is a turn of both sessions. -/
theorem Agree.turn_keep (h : Agree codec stray r r') (hended : r.ended = false)
    (hstopped : r.stopped = false) {arrival : Link.Arrival} {rest rest' : List Link.Arrival}
    (harrivals : r.arrivals = arrival :: rest) (harrivals' : r'.arrivals = arrival :: rest')
    (hrest : Padded (Clutter codec stray) rest rest') : Agree codec stray r.turn r'.turn := by
  have hafter : Agree codec stray { r with arrivals := rest } { r' with arrivals := rest' } :=
    ⟨h.session, hrest, h.stopped, h.ended⟩
  rw [turn_of_cons hended hstopped harrivals,
    turn_of_cons (h.ended ▸ hended) (h.stopped ▸ hstopped) harrivals']
  by_cases hend : isEnd arrival = true
  · rw [if_pos hend, if_pos hend]
    exact hafter.finish
  · rw [if_neg hend, if_neg hend]
    exact ⟨hafter.taken arrival, hrest, h.stopped, h.ended⟩

/-- A receiver that has ended or is to stop does not look at its source. -/
theorem Agree.turn_of_ended_or_stopped (h : Agree codec stray r r')
    (hquiet : r.ended = true ∨ r.stopped = true) : Agree codec stray r.turn r'.turn := by
  by_cases hended : r.ended = true
  · rwa [turn_of_ended hended, turn_of_ended (h.ended ▸ hended)]
  · have hstopped := hquiet.resolve_left hended
    rw [Bool.not_eq_true] at hended
    rw [turn_of_stopped hended hstopped, turn_of_stopped (h.ended ▸ hended) (h.stopped ▸ hstopped)]
    exact h.finish

/-- The session without the clutter goes along with the other one, but for turns that take
clutter. -/
theorem Agree.forward (h : Agree codec stray r r') (hsound : r.Sound codec)
    (hstray : ∀ id, stray id → r.session.stage id = .unused) (a : Act) :
    Agree codec stray (r.act a) (r'.act a) ∨ a.isTurn = true ∧ Agree codec stray (r.act a) r' := by
  cases a with
  | move move => exact Or.inl (h.move move)
  | stop => exact Or.inl ⟨h.session, h.arrivals, rfl, h.ended⟩
  | turn =>
    by_cases hquiet : r.ended = true ∨ r.stopped = true
    · exact Or.inl (h.turn_of_ended_or_stopped hquiet)
    simp only [not_or, Bool.not_eq_true] at hquiet
    obtain ⟨hended, hstopped⟩ := hquiet
    cases harrivals : r.arrivals with
    | nil =>
      right
      rw [act, turn_of_nil hended hstopped harrivals]
      exact ⟨rfl, h⟩
    | cons arrival rest =>
      have hpadded := h.arrivals
      rw [harrivals] at hpadded
      generalize harrivals' : r'.arrivals = others at hpadded
      cases hpadded with
      | keep _ hrest => exact Or.inl (h.turn_keep hended hstopped harrivals harrivals' hrest)
      | insert hclutter hrest =>
        rw [← harrivals'] at hrest
        exact Or.inr ⟨rfl, h.turn_insert hsound hstray hended hstopped harrivals hclutter hrest⟩

/-- The session with the clutter goes along with the other one when its receiver has some
turns more. -/
theorem Agree.backward (h : Agree codec stray r r') (hsound : r.Sound codec)
    (hstray : ∀ id, stray id → r.session.stage id = .unused) (a : Act) :
    ∃ turns last, Agree codec stray (r.run (List.replicate turns .turn ++ last)) (r'.act a) ∧
      (last = [a] ∨ a.isTurn = true ∧ last = []) := by
  cases a with
  | move move => exact ⟨0, [.move move], h.move move, Or.inl rfl⟩
  | stop => exact ⟨0, [.stop], ⟨h.session, h.arrivals, rfl, h.ended⟩, Or.inl rfl⟩
  | turn =>
    by_cases hquiet : r.ended = true ∨ r.stopped = true
    · exact ⟨0, [.turn], h.turn_of_ended_or_stopped hquiet, Or.inl rfl⟩
    simp only [not_or, Bool.not_eq_true] at hquiet
    obtain ⟨hended, hstopped⟩ := hquiet
    -- The clutter in front of what both sources give is taken first.
    have hpadded := h.arrivals
    generalize harrivals : r.arrivals = arrivals at hpadded
    generalize harrivals' : r'.arrivals = others at hpadded
    induction hpadded generalizing r with
    | nil =>
      refine ⟨0, [], ?_, Or.inr ⟨rfl, rfl⟩⟩
      rw [act, turn_of_nil (h.ended ▸ hended) (h.stopped ▸ hstopped) harrivals']
      exact h
    | keep arrival hrest =>
      exact ⟨0, [.turn], h.turn_keep hended hstopped harrivals harrivals' hrest, Or.inl rfl⟩
    | @insert rest others arrival hclutter hrest ih =>
      rw [← harrivals'] at hrest
      have hafter := h.turn_insert hsound hstray hended hstopped harrivals hclutter hrest
      have hstray' : ∀ id, stray id → r.turn.session.stage id = .unused := by
        intro id hid
        rw [hafter.stage_eq, ← h.stage_eq]
        exact hstray id hid
      have hgone : r.turn.arrivals = rest := by
        rw [turn_of_cons hended hstopped harrivals,
          (taken_of_clutter hclutter hsound hstray).1, if_neg Bool.false_ne_true]
      obtain ⟨turns, last, hagree, hlast⟩ := ih hafter (hsound.act .turn) hstray'
        (hafter.ended.trans (h.ended ▸ hended)) (hafter.stopped.trans (h.stopped ▸ hstopped)) hgone
        harrivals'
      exact ⟨turns + 1, last, hagree, hlast⟩

/-- Whatever happens in a session whose receiver meets clutter happens without it. -/
theorem Agree.run_forward (acts : List Act) (h : Agree codec stray r r') (hsound : r.Sound codec)
    (hstray : ∀ id, stray id → (r.run acts).session.stage id = .unused) :
    ∃ fewer, fewer.filter (!·.isTurn) = acts.filter (!·.isTurn) ∧
      Agree codec stray (r.run acts) (r'.run fewer) := by
  induction acts generalizing r r' with
  | nil => exact ⟨[], rfl, h⟩
  | cons a rest ih =>
    have hbefore : ∀ id, stray id → r.session.stage id = .unused := fun id hid =>
      stage_of_run (a :: rest) (hstray id hid)
    obtain hboth | ⟨hturn, hone⟩ := h.forward hsound hbefore a
    · obtain ⟨fewer, hfewer, hagree⟩ := ih hboth (hsound.act a) hstray
      refine ⟨a :: fewer, ?_, hagree⟩
      rw [List.filter_cons, List.filter_cons, hfewer]
    · obtain ⟨fewer, hfewer, hagree⟩ := ih hone (hsound.act a) hstray
      refine ⟨fewer, ?_, hagree⟩
      rw [List.filter_cons, hturn, hfewer]
      rfl

/-- Acts are carried out one after the other. -/
theorem run_append (r : Reception) (acts more : List Act) :
    r.run (acts ++ more) = (r.run acts).run more :=
  List.foldl_append ..

/-- A reception is sound after any acts. -/
theorem Sound.run (h : r.Sound codec) (acts : List Act) : (r.run acts).Sound codec := by
  induction acts generalizing r with
  | nil => exact h
  | cons a rest ih => exact ih (h.act a)

/-- Whatever happens in a session whose receiver meets no clutter happens with it. -/
theorem Agree.run_backward (acts : List Act) (h : Agree codec stray r r') (hsound : r.Sound codec)
    (hstray : ∀ id, stray id → (r'.run acts).session.stage id = .unused) :
    ∃ more, more.filter (!·.isTurn) = acts.filter (!·.isTurn) ∧
      Agree codec stray (r.run more) (r'.run acts) := by
  induction acts generalizing r r' with
  | nil => exact ⟨[], rfl, h⟩
  | cons a rest ih =>
    have hbefore : ∀ id, stray id → r.session.stage id = .unused := by
      intro id hid
      rw [h.stage_eq]
      exact stage_of_run (a :: rest) (hstray id hid)
    obtain ⟨turns, last, hagree, hlast⟩ := h.backward hsound hbefore a
    obtain ⟨more, hmore, hafter⟩ := ih hagree (hsound.run _) hstray
    refine ⟨List.replicate turns .turn ++ last ++ more, ?_, ?_⟩
    · have hturns : (List.replicate turns Act.turn).filter (!·.isTurn) = [] := by
        rw [List.filter_eq_nil_iff]
        intro other hother
        rw [List.eq_of_mem_replicate hother]
        exact Bool.false_ne_true
      rw [List.filter_append, List.filter_append, hturns, List.nil_append, hmore,
        List.filter_cons]
      obtain rfl | ⟨hturn, rfl⟩ := hlast
      · rw [List.filter_cons]
        split <;> rfl
      · rw [hturn]
        rfl
    · rw [run_append]
      exact hafter

/-- Inserting at the source is all that two new sessions differ by. -/
theorem agree_start {arrivals others : List Link.Arrival} {settings : Settings}
    (h : Padded (Clutter (Correlator.new codec settings).codec stray) arrivals others) :
    Agree (Correlator.new codec settings).codec stray (start codec settings arrivals)
      (start codec settings others) where
  session := ⟨[], rfl⟩
  arrivals := h
  stopped := rfl
  ended := rfl

/-! ### The end of a receiver -/

/-- A receiver ends by its turn, and it ends when it is to. -/
theorem ended_act (hended : r.ended = false) :
    (r.act a).ended = true ↔ a = .turn ∧ r.Ends := by
  cases a with
  | move move => simp [act, hended]
  | stop => simp [act, hended]
  | turn =>
    rw [act, Ends]
    by_cases hstopped : r.stopped = true
    · rw [turn_of_stopped hended hstopped]
      simp [finish, hstopped]
    rw [Bool.not_eq_true] at hstopped
    cases harrivals : r.arrivals with
    | nil =>
      rw [turn_of_nil hended hstopped harrivals]
      simp [hended, hstopped]
    | cons arrival rest =>
      rw [turn_of_cons hended hstopped harrivals]
      cases arrival with
      | nothing => simp [isEnd, hended, hstopped]
      | frame frame => simp [isEnd, hended, hstopped]
      | ended => simp [isEnd, finish]
      | fault fault =>
        cases hfault : fault.isProtocol <;> simp [isEnd, finish, hended, hstopped, hfault]

/-- A receiver that ends closes the connection. -/
theorem turn_of_ends (hended : r.ended = false) (h : r.Ends) :
    r.turn.session = r.session.move .close := by
  obtain hstopped | hnext := h
  · rw [turn_of_stopped hended hstopped]
    rfl
  · by_cases hstopped : r.stopped = true
    · rw [turn_of_stopped hended hstopped]
      rfl
    rw [Bool.not_eq_true] at hstopped
    obtain ⟨rest, harrivals⟩ | ⟨fault, rest, harrivals, hfault⟩ := hnext
    · rw [turn_of_cons hended hstopped harrivals]
      rfl
    · rw [turn_of_cons hended hstopped harrivals, isEnd, hfault]
      rfl

/-- What is kept beside a session for which fewer than 2⁶³ ids are used up. -/
structure Kept (n : Nat) (removals : List (Int64 × Move)) (r : Reception) : Prop where
  numbered : r.session.Numbered n
  accounted : r.session.Accounted removals

/-- In the beginning all is kept. -/
theorem kept_start (codec : Codec) (settings : Settings) (arrivals : List Link.Arrival) :
    Kept 0 [] (start codec settings arrivals) :=
  ⟨Session.numbered_start codec settings, Session.accounted_start codec settings⟩

/-- The records go on with anything that happens, and a caller that has come to its end
stays there. -/
theorem Kept.act {n : Nat} {removals : List (Int64 × Move)} {acts : List Act}
    (h : Kept n removals r)
    (hids : n + (a :: acts).countP Act.takesId < 9223372036854775808) :
    ∃ m more, m + acts.countP Act.takesId < 9223372036854775808 ∧
      Kept m (removals ++ more) (r.act a) ∧
      ∀ id, (r.session.stage id).isOver = true → ((r.act a).session.stage id).isOver = true := by
  have hcost : (a :: acts).countP Act.takesId = acts.countP Act.takesId + a.takesId.toNat := by
    rw [List.countP_cons]
    cases a.takesId <;> rfl
  rw [hcost] at hids
  obtain hsame | ⟨move, hmove, htakes⟩ := act_cases r a
  · refine ⟨n, [], by omega, ⟨?_, ?_⟩, ?_⟩
    · rw [hsame]
      exact h.numbered
    · rw [hsame, List.append_nil]
      exact h.accounted
    · rw [hsame]
      exact fun _ hended => hended
  · have hcost : move.takesId.toNat ≤ a.takesId.toNat := by
      revert htakes
      cases move.takesId <;> cases a.takesId <;> decide
    have hfresh : move.takesId = true → r.session.stage r.session.correlator.nextId = .unused := by
      intro hnew
      rw [hnew, Bool.toNat_true] at hcost
      exact h.numbered.stage_nextId (by omega)
    have hspent : n + move.takesId.toNat < 9223372036854775808 := by omega
    obtain ⟨m, hm, hnumbered⟩ := h.numbered.move hspent
    have haccounted := h.accounted.move hfresh
    rw [← hmove] at hnumbered haccounted
    refine ⟨m, _, by omega, ⟨hnumbered, haccounted⟩, ?_⟩
    · intro id hended
      rw [hmove, ((Session.passes_move h.accounted hfresh id).of_isOver hended).1]
      exact hended

/-- The records go on when more is to come. -/
theorem Kept.run {n : Nat} {removals : List (Int64 × Move)} {acts rest : List Act}
    (h : Kept n removals r)
    (hids : n + (acts ++ rest).countP Act.takesId < 9223372036854775808) :
    ∃ m after, m + rest.countP Act.takesId < 9223372036854775808 ∧ Kept m after (r.run acts) := by
  induction acts generalizing r n removals with
  | nil => exact ⟨n, removals, hids, h⟩
  | cons a acts ih =>
    obtain ⟨m, more, hrest, hkept, -⟩ := h.act hids
    exact ih hkept hrest

/-- A request was taken out of the table when the connection was closed, and the outcome is
on its way to its caller or the caller has come to its end. -/
structure Condemned (removals : List (Int64 × Move)) (s : Session) (id : Int64) : Prop where
  closed : (id, .close) ∈ removals
  owed : (id, .error .connectionClosed) ∈ s.outcomes ∨ (s.stage id).isOver = true

/-- When a receiver ends, the requests in flight are out of the table. -/
theorem Kept.condemned_close {n : Nat} {removals : List (Int64 × Move)}
    (h : Kept n removals r) (hn : n < 9223372036854775808) (hended : r.ended = false)
    (hends : r.Ends) :
    ∃ m after, m ≤ n ∧ Kept m after r.turn ∧
      ∀ id ∈ r.session.pendingIds, Condemned after r.turn.session id := by
  have hclose := turn_of_ends hended hends
  have hspent : n + Move.close.takesId.toNat < 9223372036854775808 := hn
  have hnoid : Move.close.takesId = true → r.session.stage r.session.correlator.nextId = .unused :=
    nofun
  obtain ⟨m, hm, hnumbered⟩ := h.numbered.move hspent
  have haccounted := h.accounted.move hnoid
  rw [← hclose] at hnumbered haccounted
  refine ⟨m, _, hm, ⟨hnumbered, haccounted⟩, fun id hid => ⟨?_, Or.inl ?_⟩⟩
  · have hremoved : id ∈ r.session.removedBy r.turn.session := by
      rw [hclose]
      exact Session.mem_removedBy.2 ⟨hid, List.not_mem_nil⟩
    exact List.mem_append_right _ (List.mem_map.2 ⟨id, hremoved, rfl⟩)
  · obtain ⟨entry, hentry, rfl⟩ := List.mem_map.1 hid
    rw [hclose]
    apply List.mem_append_left
    apply List.mem_append_right
    exact List.mem_map.2 ⟨entry, hentry, rfl⟩

/-- So it stays, whatever happens. -/
theorem Kept.condemned_run {n : Nat} {removals : List (Int64 × Move)} {ids : List Int64}
    (acts : List Act) (h : Kept n removals r)
    (hcondemned : ∀ id ∈ ids, Condemned removals r.session id)
    (hids : n + acts.countP Act.takesId < 9223372036854775808) :
    ∃ m after, Kept m after (r.run acts) ∧
      ∀ id ∈ ids, Condemned after (r.run acts).session id := by
  induction acts generalizing r n removals with
  | nil => exact ⟨n, removals, h, hcondemned⟩
  | cons a rest ih =>
    obtain ⟨m, more, hrest, hkept, hended⟩ := h.act hids
    refine ih hkept (fun id hid => ⟨?_, ?_⟩) hrest
    · exact List.mem_append_left _ (hcondemned id hid).closed
    · rcases (hcondemned id hid).owed with howed | hend
      · exact (continues_act r a).outcomes _ howed
      · exact Or.inr (hended id hend)

/-- A caller that is told something is told that the connection is closed. -/
theorem Condemned.verdict_eq {removals : List (Int64 × Move)} {s : Session} {id : Int64}
    (h : Condemned removals s id) (haccounted : s.Accounted removals) {verdict : Verdict}
    (htold : s.Told removals (id, verdict)) : verdict = .error .connectionClosed := by
  obtain ⟨expected, move, -, hremoved, hverdict⟩ := htold
  have hmove : move = .close := by
    have hpair := List.inj_on_of_nodup_map haccounted.removals_nodup hremoved h.closed rfl
    exact (Prod.mk.inj hpair).2
  rw [hmove] at hverdict
  exact (Option.some.inj hverdict).symm

/-- A caller that waits and looks for its outcome finds it when it is there. -/
theorem Condemned.settles_of_delivered {removals : List (Int64 × Move)} {s : Session} {id : Int64}
    (h : Condemned removals s id) (haccounted : s.Accounted removals) {deadline : Option Millis}
    (hwaiting : s.stage id = .waiting deadline)
    (hmem : (id, .error .connectionClosed) ∈ s.correlator.delivered) (clockFirst : Bool) :
    (s.move (.poll id clockFirst)).stage id = .settled (.error .connectionClosed) := by
  have hsome : (s.correlator.delivered.lookup id).isSome := by
    by_contra hnone
    rw [Option.not_isSome_iff_eq_none] at hnone
    exact not_mem_of_lookup hnone (List.mem_map_of_mem hmem)
  obtain ⟨verdict, hlook⟩ := Option.isSome_iff_exists.1 hsome
  have htold := haccounted.told (id, verdict) (List.mem_append_right _ (mem_of_lookup hlook))
  obtain rfl := h.verdict_eq haccounted htold
  have hpoll := poll_of_delivered hlook deadline s.now
  cases clockFirst with
  | false => simp only [Session.move, hwaiting, hpoll, Session.stage_setStage, if_true]
  | true =>
    rw [← poll_comm s.correlator id deadline s.now fun _ => haccounted.not_mem_pendingIds hsome]
      at hpoll
    simp only [Session.move, hwaiting, hpoll, Session.stage_setStage, if_true]

/-- A caller that waits finds its outcome as soon as it has reached the caller. -/
theorem Condemned.settles {removals : List (Int64 × Move)} {s : Session} {id : Int64}
    (h : Condemned removals s id) (haccounted : s.Accounted removals) {deadline : Option Millis}
    (hwaiting : s.stage id = .waiting deadline) :
    ∃ index, ∀ clockFirst, ((s.move (.deliver index)).move (.poll id clockFirst)).stage id =
      .settled (.error .connectionClosed) := by
  have hdelivers : ∀ index, (s.move (.deliver index)).Accounted removals := by
    intro index
    have hnoid : (Move.deliver index).takesId = true → s.stage s.correlator.nextId = .unused :=
      nofun
    have hafter := haccounted.move hnoid
    have hpending : (s.move (.deliver index)).pending = s.pending := by
      simp only [Session.move]
      split <;> rfl
    rwa [Session.removedBy_of_pending_eq hpending, List.map_nil, List.append_nil] at hafter
  have hstage : ∀ index, (s.move (.deliver index)).stage = s.stage := by
    intro index
    simp only [Session.move]
    split <;> rfl
  obtain ⟨index, hmem⟩ : ∃ index,
      (id, .error .connectionClosed) ∈ (s.move (.deliver index)).correlator.delivered := by
    have howed := h.owed.resolve_right (by rw [hwaiting]; exact Bool.false_ne_true)
    rcases List.mem_append.1 howed with hdue | hdelivered
    · obtain ⟨index, hindex⟩ := List.mem_iff_getElem?.1 hdue
      refine ⟨index, ?_⟩
      simp only [Session.move, hindex]
      exact List.mem_append_right _ (List.mem_singleton_self _)
    · refine ⟨s.due.length, ?_⟩
      have hnone : s.due[s.due.length]? = none := List.getElem?_eq_none (Nat.le_refl _)
      simp only [Session.move, hnone]
      exact hdelivered
  refine ⟨index, fun clockFirst => ?_⟩
  have hcondemned : Condemned removals (s.move (.deliver index)) id :=
    ⟨h.closed, Or.inl (List.mem_append_right _ hmem)⟩
  exact hcondemned.settles_of_delivered (hdelivers index) (by rw [hstage, hwaiting]) hmem clockFirst

end Reception

end Correlator

namespace Exchange

variable {e : Exchange} {t : TaskId} {arrivals : List Link.Arrival}

/-- The receiver of an exchange as one of a session: its turn is the next step. -/
def reception (e : Exchange) (arrivals : List Link.Arrival) : Correlator.Reception where
  session := { correlator := e.correlator, now := e.schedule.now }
  arrivals := arrivals
  stopped := e.stopped

/-- The end of a task leaves the correlator alone. -/
theorem correlator_finish (e : Exchange) (t : TaskId) (result : Ended) :
    (e.finish t result).correlator = e.correlator :=
  congrArg Parts.correlator (parts_finish e t result)

/-- A receiver that ends closes the connection for the correlator. -/
theorem endReceiver_spec {work : Work} (h : e.work? t = some work) :
    (e.endReceiver t).correlator = e.correlator.close ∧
      (e.endReceiver t).work? t = some (.ended (.loop (.ok ()))) := by
  constructor
  · rw [endReceiver, correlator_finish]
    rfl
  · rw [endReceiver, work?_finish, if_pos rfl, work?_setCorrelator, h]
    rfl

/-- A step of a receiver is its turn in a session, after which the outcomes that are due are
delivered at once. -/
theorem stepReceiver_turn (h : e.work? t = some (.receiver ⟨.script arrivals⟩)) :
    let after := (e.stepReceiver t ⟨.script arrivals⟩).1
    let turned := (e.reception arrivals).turn
    after.correlator = turned.session.correlator.deliverAll turned.session.due ∧
    after.work? t = some (if turned.ended = true then .ended (.loop (.ok ()))
      else .receiver ⟨.script turned.arrivals⟩) := by
  intro after turned
  have hended : (e.reception arrivals).ended = false := rfl
  cases hstopped : e.stopped with
  | true =>
    have hturned : turned = (e.reception arrivals).finish :=
      Correlator.Reception.turn_of_stopped hended hstopped
    have hafter : after = e.endReceiver t := by
      simp only [after, stepReceiver, hstopped, if_true]
    rw [hturned, hafter]
    exact endReceiver_spec h
  | false =>
    cases arrivals with
    | nil =>
      have hturned : turned = e.reception [] :=
        Correlator.Reception.turn_of_nil hended hstopped rfl
      have hafter : after = e.setWork t (.receiver ⟨.script []⟩) := by
        simp only [after, stepReceiver, hstopped, Bool.false_eq_true, if_false, arrive]
      rw [hturned, hafter]
      refine ⟨rfl, ?_⟩
      rw [work?_setWork, if_pos rfl, h]
      rfl
    | cons arrival rest =>
      have hturned : turned = if Correlator.Reception.isEnd arrival = true then
          ({ e.reception rest with } : Correlator.Reception).finish
        else { e.reception rest with
          session := Correlator.Reception.taken (e.reception rest).session arrival } :=
        Correlator.Reception.turn_of_cons hended hstopped rfl
      have hwork : (e.setWork t (.receiver ⟨.script rest⟩)).work? t =
          some (.receiver ⟨.script rest⟩) := by
        rw [work?_setWork, if_pos rfl, h]
        rfl
      have hend := endReceiver_spec hwork
      simp only [after, stepReceiver, hstopped, Bool.false_eq_true, if_false, arrive]
      rw [hturned]
      cases arrival with
      | nothing => exact ⟨rfl, hwork⟩
      | ended => exact hend
      | fault fault =>
        cases hfault : fault.isProtocol with
        | true =>
          simp only [hfault, if_true, Correlator.Reception.isEnd, Bool.not_true,
            Bool.false_eq_true, if_false]
          exact ⟨rfl, hwork⟩
        | false =>
          simp only [hfault, if_true, Correlator.Reception.isEnd, Bool.not_false,
            Bool.false_eq_true, if_false]
          exact hend
      | frame frame =>
        exact ⟨Correlator.Reception.receiveFrame_taken (s := (e.reception rest).session) rfl frame,
          hwork⟩

end Exchange

namespace Correlator.Reception

/-- What the end of a receiver means to the callers, when `r` has come about by these acts. -/
structure ClosesAll (r : Reception) (acts : List Act) : Prop where
  /-- The table is empty, -/
  pending : r.turn.session.pending = []
  /-- the callers whose requests were in flight are to be told that the connection is closed,
  and nobody else is to be told anything, -/
  due : r.turn.session.due = r.session.due ++
    r.session.pending.map fun entry => (entry.1, .error .connectionClosed)
  stage : r.turn.session.stage = r.session.stage
  delivered : r.turn.session.correlator.delivered = r.session.correlator.delivered
  /-- and however it goes on, they are told this and nothing else.  A wait returns once the
  outcome has been delivered. -/
  told : ∀ later, (acts ++ later).countP Act.takesId < 9223372036854775808 →
    ∀ id ∈ r.session.pending.map Prod.fst,
      (∀ verdict, (r.turn.run later).session.stage id = .settled verdict →
        verdict = .error .connectionClosed) ∧
      ∀ deadline, (r.turn.run later).session.stage id = .waiting deadline →
        ∃ index, ∀ clockFirst,
          (((r.turn.run later).session.move (.deliver index)).move (.poll id clockFirst)).stage id =
            .settled (.error .connectionClosed)

/-- What a receiver makes of its source, clutter included. -/
structure Withstands (codec : Codec) (settings : Settings) : Prop where
  /-- A frame that is dropped, other than a reply of the wrong type, leaves the table and every
  outcome as they are. -/
  dropped : ∀ (c : Correlator) (frame : Frame.Bytes) (now : Millis),
    ((c.receiveFrame frame now).1 = .ok .discarded ∨
      ∃ fault, (c.receiveFrame frame now).1 = .error fault ∧
        ∀ expected actual, fault ≠ .replyTypeMismatch expected actual) →
    ∃ retired, (c.receiveFrame frame now).2 = c.withRetired retired
  /-- So clutter at the source makes no difference to any caller: what can happen with it can
  happen without it, but for the turns that take it, -/
  without_clutter : ∀ (stray : Int64 → Prop) (arrivals others : List Link.Arrival),
    Padded (Clutter (Correlator.new codec settings).codec stray) arrivals others →
    ∀ acts, (∀ id, stray id →
        ((start codec settings arrivals).run acts).session.stage id = .unused) →
      ∃ fewer, fewer.filter (!·.isTurn) = acts.filter (!·.isTurn) ∧
        SameForCallers ((start codec settings arrivals).run acts)
          ((start codec settings others).run fewer)
  /-- and the other way round. -/
  with_clutter : ∀ (stray : Int64 → Prop) (arrivals others : List Link.Arrival),
    Padded (Clutter (Correlator.new codec settings).codec stray) arrivals others →
    ∀ acts, (∀ id, stray id →
        ((start codec settings others).run acts).session.stage id = .unused) →
      ∃ more, more.filter (!·.isTurn) = acts.filter (!·.isTurn) ∧
        SameForCallers ((start codec settings arrivals).run more)
          ((start codec settings others).run acts)
  /-- A receiver ends when it is told to stop, when the peer is gone or when the connection has
  failed, and not otherwise. -/
  ended : ∀ (r : Reception) (a : Act), r.ended = false →
    ((r.act a).ended = true ↔ a = .turn ∧ r.Ends)
  /-- Then exactly the callers whose requests were in flight are told. -/
  closes : ∀ (arrivals : List Link.Arrival) (acts : List Act),
    ((start codec settings arrivals).run acts).ended = false →
    ((start codec settings arrivals).run acts).Ends →
      ClosesAll ((start codec settings arrivals).run acts) acts
  /-- The steps of the receiver of an exchange are such turns. -/
  receiver : ∀ (e : Exchange) (t : TaskId) (arrivals : List Link.Arrival),
    e.work? t = some (.receiver ⟨.script arrivals⟩) →
      (e.stepReceiver t ⟨.script arrivals⟩).1.correlator =
          (e.reception arrivals).turn.session.correlator.deliverAll
            (e.reception arrivals).turn.session.due ∧
        (e.stepReceiver t ⟨.script arrivals⟩).1.work? t =
          some (if (e.reception arrivals).turn.ended = true then .ended (.loop (.ok ()))
            else .receiver ⟨.script (e.reception arrivals).turn.arrivals⟩)

/-- The end of a receiver closes all requests that are in flight. -/
theorem closesAll_of_ends (codec : Codec) (settings : Settings) (arrivals : List Link.Arrival)
    (acts : List Act) (hended : ((start codec settings arrivals).run acts).ended = false)
    (hends : ((start codec settings arrivals).run acts).Ends) :
    ClosesAll ((start codec settings arrivals).run acts) acts where
  pending := by
    rw [turn_of_ends hended hends]
    rfl
  due := by
    rw [turn_of_ends hended hends]
    rfl
  stage := by
    rw [turn_of_ends hended hends]
    rfl
  delivered := by
    rw [turn_of_ends hended hends]
    rfl
  told later hids id hid := by
    obtain ⟨n, removals, hn, hkept⟩ :=
      (kept_start codec settings arrivals).run (by rw [Nat.zero_add]; exact hids)
    obtain ⟨m, closed, hm, hkept, hcondemned⟩ :=
      hkept.condemned_close (Nat.lt_of_le_of_lt (Nat.le_add_right _ _) hn) hended hends
    obtain ⟨_, last, hkept, hcondemned⟩ := hkept.condemned_run later hcondemned (by omega)
    constructor
    · intro verdict hsettled
      exact (hcondemned id hid).verdict_eq hkept.accounted
        (hkept.accounted.settled id verdict hsettled)
    · intro deadline hwaiting
      exact (hcondemned id hid).settles hkept.accounted hwaiting

/-- Clutter at the source of a receiver does no harm, and its end is the end of every request
in flight. -/
theorem clutter_harmless (codec : Codec) (settings : Settings) : Withstands codec settings where
  dropped _ _ _ := receiveFrame_of_dropped
  without_clutter _ arrivals _ hpadded acts hstray := by
    obtain ⟨fewer, hfewer, hafter⟩ :=
      (agree_start hpadded).run_forward acts (sound_start codec settings arrivals) hstray
    exact ⟨fewer, hfewer, hafter.same⟩
  with_clutter _ arrivals _ hpadded acts hstray := by
    obtain ⟨more, hmore, hafter⟩ :=
      (agree_start hpadded).run_backward acts (sound_start codec settings arrivals) hstray
    exact ⟨more, hmore, hafter.same⟩
  ended _ _ := ended_act
  closes := closesAll_of_ends codec settings
  receiver _ _ _ := Exchange.stepReceiver_turn

/-- Whether no request has an id, as a test. -/
def isUnused : Stage → Bool
  | .unused => true
  | _ => false

/-- Whether an id is unused can be computed. -/
theorem eq_unused_of_isUnused {stage : Stage} (h : isUnused stage = true) : stage = .unused := by
  cases stage <;> first | rfl | cases h

/-- Whether a caller waits without a deadline, as a test. -/
def isPatient : Stage → Bool
  | .waiting deadline => deadline.isNone
  | _ => false

/-- Whether a caller waits without a deadline can be computed. -/
theorem eq_waiting_of_isPatient {stage : Stage} (h : isPatient stage = true) :
    stage = .waiting none := by
  cases stage with
  | waiting deadline =>
    cases deadline with
    | none => rfl
    | some moment => cases h
  | _ => cases h

/-- A reply to a request that was never made. -/
def strayReply : Frame.Bytes :=
  [0, 0, 0, 30, 0, 0, 0, 8, 0, 0, 0, 1, 0, 0, 0, 9, 82, 101, 113, 117, 101, 115, 116, 73, 100,
    0, 0, 0, 1, 55, 0, 0, 0, 0]

/-- A caller waits, and before the peer leaves come half a frame, something that is no frame
and a reply to nobody. -/
def leavingPeer : List Link.Arrival :=
  [.frame [0, 0], .fault (.malformed "no frame"), .frame strayReply, .ended]

/-- A caller sends its request and waits, and the receiver has three turns. -/
def oneWaiting : List Act :=
  [.move (.stamp (Message.request .heartbeat) none), .move (.enter 1), .move (.transmitted 1),
    .move (.wait 1), .turn, .turn, .turn]

/-- The caller that waits is told that the connection is closed, and of nothing else. -/
theorem clutter_harmless_leavingPeer :
    let r := (start Codec.standard {} leavingPeer).run oneWaiting
    (∃ fewer, fewer.filter (!·.isTurn) = oneWaiting.filter (!·.isTurn) ∧
      SameForCallers r ((start Codec.standard {} [.ended]).run fewer)) ∧
    r.turn.session.pending = [] ∧
    ∃ index, ∀ clockFirst,
      ((r.turn.session.move (.deliver index)).move (.poll 1 clockFirst)).stage 1 =
        .settled (.error .connectionClosed) := by
  intro r
  have hwithstands := clutter_harmless Codec.standard {}
  have hpadded : Padded (Clutter (Correlator.new Codec.standard {}).codec (· = 7))
      leavingPeer [.ended] := by
    refine .insert ?_ (.insert rfl (.insert ?_ (.keep .ended .nil)))
    · intro message hdecode
      have hcut : (Correlator.new Codec.standard {}).codec.decode [0, 0] =
          .error (Frame.truncated "length prefix" 4 2) := by decide +kernel
      rw [hcut] at hdecode
      cases hdecode
    · intro message hdecode _
      have hstray : (Correlator.new Codec.standard {}).codec.decode strayReply =
          .ok ((Message.reply .heartbeat).setRequestId 7) := by decide +kernel
      rw [hstray] at hdecode
      cases hdecode
      decide +kernel
  have hended : r.ended = false := by decide +kernel
  have hpeer : r.Ends := Or.inr (Or.inl ⟨[], by decide +kernel⟩)
  have hcloses := hwithstands.closes leavingPeer oneWaiting hended hpeer
  refine ⟨?_, hcloses.pending, ?_⟩
  · apply hwithstands.without_clutter (· = 7) leavingPeer [.ended] hpadded oneWaiting
    rintro id rfl
    apply eq_unused_of_isUnused
    decide +kernel
  · have hids : (oneWaiting ++ []).countP Act.takesId <
        9223372036854775808 := by decide
    have hpending : (1 : Int64) ∈ r.session.pending.map Prod.fst := by decide +kernel
    apply (hcloses.told [] hids 1 hpending).2 none
    apply eq_waiting_of_isPatient
    decide +kernel

end Correlator.Reception

end Parley
