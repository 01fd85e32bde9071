/-
# Steps of callers

A caller gets its id, sends its request and waits for the reply.  Each of its steps in an
undisturbed exchange takes its call to the next place or brings it nearer, or it changes
nothing.
-/

import Parley.Proofs.Exchange.Holding

namespace Parley.Exchange

open Parley.Frame (Bytes)

variable {s : Service} {e : Exchange} {L : Ledger} {t u : TaskId} {call : Engine.Call}

/-! ### Callers -/

/-- A caller that begins gets its id. -/
theorem Holds.step_departing {timeout : Option Millis} (h : Holds s e L) (hsound : s.Sound)
    (hfew : L.callers.length ≤ UInt64.size) (hroomy : Roomy s e u)
    (hu : L.tickets u = some ⟨call, .departing⟩)
    (hwork : e.work? u =
      some (.caller (.starting call.request timeout (.answer (.engine call))))) :
    ∃ L', Accounted s e L u (e.step u).1 L' := by
  have hexpected := call.expectedReply?_request
  have hhas := call.hasRequestId_request
  have hmessage := Correlator.fst_stamp (c := e.correlator) hexpected hhas
  obtain ⟨⟨frame, hframe⟩, htakes⟩ :=
    hroomy (e.correlator.stamp call.request).1 (by rw [framed?, hwork])
  rw [hmessage] at hframe htakes
  rw [← h.recorded.codec] at hframe
  have hissue := Correlator.issue_eq_ok hexpected hhas hframe
  let c : Correlator := ({ e.correlator with nextId := e.correlator.nextId + 1 } : Correlator).enter
    e.correlator.nextId (.reply call.operation)
  have hreads : s.server.Reads s.serverReads (call.sentAs e.correlator.nextId) frame := by
    rw [h.recorded.codec] at hframe
    apply Codec.reads_of_encode hframe htakes hsound.serverReads
    rw [hsound.server]
    exact call.template?_sentAs _
  have hstep := step_of_work? hwork (h.steady.aborting u)
  simp only [stepCaller, hissue] at hstep
  let handle := (e.setCorrelator c).handleFrom e.correlator.nextId timeout
  let work : Work := .caller
    (.transmitting (call.sentAs handle.id) handle frame (.answer (.engine call)))
  let L' : Ledger :=
    { L with
      tickets := Function.update L.tickets u (some ⟨call, .sending handle.id⟩)
      issued := L.issued ++ [u] }
  obtain ⟨e', hstep', hturn, hlink, hparts⟩ : ∃ e', (e.step u).1 = e' ∧ Turn e e' u work none ∧
      e'.link = e.link ∧ e'.parts = { e.parts with correlator := c } :=
    ⟨(e.setCorrelator c).setWork u work, congrArg Prod.fst hstep, Turn.of_modify hwork rfl, rfl,
      parts_setCorrelator e c⟩
  rw [hstep']
  have htickets : L'.tickets =
      Function.update L.tickets u (some ⟨call, .sending handle.id⟩) := rfl
  have hfewIssued := Nat.lt_of_lt_of_le (h.filed.length_issued_lt hu) hfew
  obtain ⟨h0, h1⟩ := h.ne_loops .caller hu rfl
  have hwritten : L.rightward.written u = [] := h.rightward.written_eq_nil (by
    rintro ⟨id, hid⟩
    rw [facet_of hu] at hid
    cases hid)
  refine ⟨L', h.advance hu htickets (Nat.lt_succ_self _) rfl (Or.inr ⟨rfl, rfl⟩) (Or.inl rfl)
    (h.steady.of_parts hturn hparts) (h.loops.of_turn hturn h0 h1 rfl rfl) ?_ ?_
    (h.noted_keep hu htickets (congrArg Parts.engine hparts) rfl rfl) ?_
    (h.leftward_keep hu htickets (by rw [hlink]) rfl rfl rfl)⟩
  · refine h.seated.advance_caller hturn hu
      (h.free .caller hu rfl hwork fun _ heq => by cases heq) (Ticket.task?_eq_none rfl rfl)
      (Ticket.task?_eq_none rfl rfl) htickets (fun _ _ => rfl) rfl
      (.sending hreads.whole.ne_nil ?_)
    rw [hwritten]
    exact hreads
  · have hc : e'.correlator = c := congrArg Parts.correlator hparts
    rw [hc]
    have hids : facet Ticket.id? L.tickets u = none := facet_of hu
    rw [facet_keep (f := Ticket.delivered?) htickets hu rfl]
    exact h.recorded.issue hfewIssued (facet_self htickets) (facet_self htickets)
      (fun v hvu => facet_other htickets hvu) (fun v hvu => facet_other htickets hvu) hids
  · rw [hlink, facet_keep (f := Ticket.sent?) htickets hu rfl]
    apply h.rightward.mono
    rintro m ⟨id, hm⟩
    exact ⟨id, facet_stays htickets hu (fun heq => by cases heq) hm⟩

/-- A caller that sends all that is left of its request waits for the reply. -/
theorem Holds.step_request_sent {handle : Handle} {rest : Bytes} {lane : Link.Lane}
    (h : Holds s e L) (hu : L.tickets u = some ⟨call, .sending handle.id⟩) (hrest : rest ≠ [])
    (hreads : s.server.Reads s.serverReads (call.sentAs handle.id)
      (L.rightward.written u ++ rest))
    (hwork : e.work? u =
      some (.caller
        (.transmitting (call.sentAs handle.id) handle rest (.answer (.engine call)))))
    (hsend : e.link.rightward.send u rest = (.sent, lane)) :
    ∃ L', Accounted s e L u (e.step u).1 L' := by
  have hstep := step_of_work? hwork (h.steady.aborting u)
  simp only [stepCaller, h.steady.outlet, transmit, Link.send, Link.outward, hsend] at hstep
  obtain ⟨h0, h1⟩ := h.ne_loops .caller hu rfl
  have hfree := h.free .caller hu rfl hwork fun _ heq => by cases heq
  let work : Work := .caller (.waiting handle (.answer (.engine call)))
  let L' : Ledger :=
    { L with
      tickets := Function.update L.tickets u (some ⟨call, .sent handle.id⟩)
      rightward :=
        { L.rightward with
          frames := L.rightward.frames ++ [(u, L.rightward.written u ++ rest)]
          written := Function.update L.rightward.written u [] } }
  obtain ⟨e', hstep', hturn, hlink, hparts⟩ : ∃ e', (e.step u).1 = e' ∧ Turn e e' u work none ∧
      e'.link = { e.link with rightward := lane } ∧ e'.parts = e.parts :=
    ⟨_, congrArg Prod.fst hstep, Turn.of_modify hwork rfl, rfl, parts_setLink _ _⟩
  rw [hstep']
  have htickets : L'.tickets =
      Function.update L.tickets u (some ⟨call, .sent handle.id⟩) := rfl
  refine ⟨L', h.advance hu htickets (Nat.lt_succ_self _) rfl (Or.inl rfl) (Or.inl rfl)
    (h.steady.of_parts hturn hparts) (h.loops.of_turn hturn h0 h1 rfl rfl) ?_
    (h.recorded_keep hu htickets (congrArg Parts.correlator hparts) rfl rfl rfl rfl)
    (h.noted_keep hu htickets (congrArg Parts.engine hparts) rfl rfl) ?_
    (h.leftward_keep hu htickets (by rw [hlink]) rfl rfl rfl)⟩
  · exact h.seated.advance_caller hturn hu hfree (Ticket.task?_eq_none rfl rfl)
      (Ticket.task?_eq_none rfl rfl) htickets (fun m hm => Function.update_of_ne hm _ _) rfl
      (.waiting rfl)
  · rw [hlink]
    refine h.rightward.of_sent hrest hsend (facet_of hu) (facet_self htickets) hreads
      (fun v hvu => facet_other htickets hvu) ?_
    rintro m hmu ⟨id, hm⟩
    rw [facet_other htickets hmu]
    exact ⟨id, hm⟩

/-- A caller that is held up has sent some more of its request, or it has come to wait for its
turn, or nothing has changed. -/
theorem Holds.step_request_blocked {handle : Handle} {rest rest' : Bytes} {lane : Link.Lane}
    (h : Holds s e L) (hu : L.tickets u = some ⟨call, .sending handle.id⟩) (hrest : rest ≠ [])
    (hreads : s.server.Reads s.serverReads (call.sentAs handle.id)
      (L.rightward.written u ++ rest))
    (hwork : e.work? u =
      some (.caller
        (.transmitting (call.sentAs handle.id) handle rest (.answer (.engine call)))))
    (hsend : e.link.rightward.send u rest = (.blocked rest', lane)) :
    ∃ L', Accounted s e L u (e.step u).1 L' := by
  have hstep := step_of_work? hwork (h.steady.aborting u)
  simp only [stepCaller, h.steady.outlet, transmit, Link.send, Link.outward, hsend] at hstep
  have hsender : ∃ id, facet Ticket.sending? L.tickets u = some id :=
    ⟨handle.id, facet_of hu⟩
  obtain ⟨h0, h1⟩ := h.ne_loops .caller hu rfl
  have hfree := h.free .caller hu rfl hwork fun _ heq => by cases heq
  obtain ⟨part, hsplit, hrest', hloaded, hqueueing, hnone⟩ :=
    h.rightward.of_blocked hsender hrest hsend
  let work : Work := .caller
    (.transmitting (call.sentAs handle.id) handle rest' (.answer (.engine call)))
  let L' : Ledger :=
    { L with
      rightward :=
        { L.rightward with
          written := Function.update L.rightward.written u (L.rightward.written u ++ part) } }
  obtain ⟨e', hstep', htasks, hturn, hlink, hparts⟩ : ∃ e', (e.step u).1 = e' ∧
      e'.tasks = (e.tasks.modify u fun task => { task with work }) ∧
      Turn e e' u work none ∧ e'.link = { e.link with rightward := lane } ∧
      e'.parts = e.parts :=
    ⟨_, congrArg Prod.fst hstep, rfl, Turn.of_modify hwork rfl, rfl, parts_setLink _ _⟩
  rw [hstep']
  have htickets : L'.tickets =
      Function.update L.tickets u (some ⟨call, .sending handle.id⟩) :=
    (Function.update_eq_self_iff.2 hu.symm).symm
  refine ⟨L', h.remain hturn hparts (h.loops.of_turn hturn h0 h1 rfl rfl) ?_ (hlink ▸ hloaded)
    (hlink ▸ h.leftward) ?_⟩
  · refine h.seated.advance_caller hturn hu hfree (Ticket.task?_eq_none rfl rfl)
      (Ticket.task?_eq_none rfl rfl) htickets (fun m hm => Function.update_of_ne hm _ _) rfl
      (.sending hrest' ?_)
    change s.server.Reads s.serverReads _
      (Function.update L.rightward.written u (L.rightward.written u ++ part) u ++ rest')
    rw [Function.update_self, List.append_assoc, ← hsplit]
    exact hreads
  · refine h.lighter_of_blocked .left hwork htasks hparts hlink rfl hsplit rfl rfl
      (fun heq => ?_) hqueueing hnone
    subst heq
    rfl

/-- A caller that sends sends all that is left of its request, or some of it, or nothing. -/
theorem Holds.step_sending {handle : Handle} {rest : Bytes} (h : Holds s e L)
    (hu : L.tickets u = some ⟨call, .sending handle.id⟩) (hrest : rest ≠ [])
    (hreads : s.server.Reads s.serverReads (call.sentAs handle.id)
      (L.rightward.written u ++ rest))
    (hwork : e.work? u =
      some (.caller
        (.transmitting (call.sentAs handle.id) handle rest (.answer (.engine call))))) :
    ∃ L', Accounted s e L u (e.step u).1 L' := by
  rcases h.rightward.send_cases u hrest with ⟨lane, hsend⟩ | ⟨rest', lane, hsend⟩
  · exact h.step_request_sent hu hrest hreads hwork hsend
  · exact h.step_request_blocked hu hrest hreads hwork hsend

/-- A caller whose reply has not come is not out of time when the exchange is punctual, and goes
on waiting. -/
theorem Holds.step_unanswered {place : Place} {handle : Handle} (h : Holds s e L)
    (hpunctual : e.Punctual) (hu : L.tickets u = some ⟨call, place⟩)
    (hplace : place.awaited? = some handle.id)
    (hwork : e.work? u = some (.caller (.waiting handle (.answer (.engine call)))))
    (hlook : e.correlator.delivered.lookup handle.id = none) :
    ∃ L', Accounted s e L u (e.step u).1 L' := by
  have hflying : facet Ticket.inFlight? L.tickets u = some (handle.id, call.operation) := by
    rw [facet_of hu]
    cases place with
    | delivered id outcome =>
      obtain ⟨hid, reply, -, hreply⟩ := h.recorded.arrived u call id outcome (facet_of hu)
      have hawaited : facet Ticket.id? L.tickets u = some handle.id :=
        (facet_of hu).trans (Place.id?_of_awaited? hplace)
      rw [hawaited] at hid
      cases hid
      rw [hlook] at hreply
      cases hreply
    | departing | sending id | done outcome => cases hplace
    | _ => exact congrArg (Option.map fun id => (id, call.operation)) hplace
  have hexpected := (h.recorded.recorded u _ _ hflying).2
  have hpassed : ∀ moment, handle.deadline = some moment → e.schedule.now < moment := by
    intro moment hmoment
    have honTime := hpunctual.overdue_eq_false hwork
    simpa [overdue, hexpected, hmoment] using honTime
  have hstep := step_of_work? hwork (h.steady.aborting u)
  simp only [stepCaller] at hstep
  rw [Correlator.poll_of_not_delivered hlook hpassed] at hstep
  refine ⟨L, h.accounted_of_same ?_⟩
  rw [hstep]
  cases hdeadline : handle.deadline with
  | none => exact ⟨rfl, rfl, rfl⟩
  | some deadline =>
    simp only [if_neg (Nat.not_le.2 (hpassed deadline hdeadline))]
    exact ⟨tasks_sleep e u deadline, link_sleep e u deadline, parts_sleep e u deadline⟩

/-- What has been delivered for a caller that waits is the reply of its call. -/
theorem Holds.delivered_of_awaited {place : Place} {id : Int64} {verdict : Except Fault Message}
    (h : Holds s e L) (hu : L.tickets u = some ⟨call, place⟩) (hplace : place.awaited? = some id)
    (hlook : e.correlator.delivered.lookup id = some verdict) :
    ∃ outcome reply, place = .delivered id outcome ∧ verdict = .ok reply ∧
      call.Replies id outcome reply := by
  obtain ⟨v, call', outcome, hv⟩ := h.recorded.only _ (mem_of_lookup hlook)
  obtain ⟨hidv, reply, hreply, hlook'⟩ := h.recorded.arrived v call' id outcome hv
  have hid : facet Ticket.id? L.tickets u = some id :=
    (facet_of hu).trans (Place.id?_of_awaited? hplace)
  obtain rfl : v = u := h.recorded.distinct hidv hid
  rw [hlook] at hlook'
  rw [facet_of hu] at hv
  cases place <;> cases hv
  exact ⟨outcome, reply, rfl, Option.some.inj hlook', hreply⟩

/-- A caller whose reply has come takes it and ends with the answer. -/
theorem Holds.step_answered {handle : Handle} {outcome : Engine.Outcome} {reply : Message}
    (h : Holds s e L) (hu : L.tickets u = some ⟨call, .delivered handle.id outcome⟩)
    (hreply : call.Replies handle.id outcome reply)
    (hwork : e.work? u = some (.caller (.waiting handle (.answer (.engine call)))))
    (hlook : e.correlator.delivered.lookup handle.id = some (.ok reply)) :
    ∃ L', Accounted s e L u (e.step u).1 L' := by
  have hsuits := h.noted.suits u call outcome (facet_of hu)
  obtain ⟨result, hresult, hanswers⟩ := hreply.answers hsuits
  have hstep := step_of_work? hwork (h.steady.aborting u)
  simp only [stepCaller] at hstep
  rw [Correlator.poll_of_delivered hlook] at hstep
  let c : Correlator :=
    { e.correlator with delivered := e.correlator.delivered.filter (·.1 != handle.id) }
  let L' : Ledger :=
    { L with tickets := Function.update L.tickets u (some ⟨call, .done outcome⟩) }
  obtain ⟨e', hstep', hturn, hlink, hparts⟩ : ∃ e', (e.step u).1 = e' ∧
      Turn e e' u (.ended (.answer result)) none ∧ e'.link = e.link ∧
      e'.parts = { e.parts with correlator := c } := by
    refine ⟨(e.setCorrelator c).finish u (.answer result), ?_,
      Turn.of_modify hwork (tasks_finish _ _ _), ?_, ?_⟩
    · rw [hstep, ← hanswers.result]
      rfl
    · refine (link_finish (e := e.setCorrelator c) hwork (fun _ => rfl) ?_ _).trans rfl
      intro side hside
      cases hside
    · rw [parts_finish, parts_setCorrelator]
  rw [hstep']
  have htickets : L'.tickets =
      Function.update L.tickets u (some ⟨call, .done outcome⟩) := rfl
  have hcorrelator : e'.correlator = c := congrArg Parts.correlator hparts
  obtain ⟨h0, h1⟩ := h.ne_loops .caller hu rfl
  refine ⟨L', h.advance hu htickets (Nat.lt_succ_self _) rfl (Or.inl rfl) (Or.inl rfl)
    (h.steady.of_parts hturn hparts) (h.loops.of_turn hturn h0 h1 rfl rfl) ?_ ?_
    (h.noted_keep hu htickets (congrArg Parts.engine hparts) rfl rfl)
    (h.rightward_keep hu htickets (by rw [hlink]) rfl rfl rfl)
    (h.leftward_keep hu htickets (by rw [hlink]) rfl rfl rfl)⟩
  · exact h.seated.advance_caller hturn hu
      (h.free .caller hu rfl hwork fun _ heq => by cases heq) (Ticket.task?_eq_none rfl rfl)
      (Ticket.task?_eq_none rfl rfl) htickets (fun _ _ => rfl) rfl (.done hresult)
  · rw [hcorrelator, facet_keep (f := Ticket.inFlight?) htickets hu rfl]
    exact h.recorded.collect (facet_of hu) (facet_of hu) (facet_self htickets)
      (facet_self htickets) (fun w hw => facet_other htickets hw)
      (fun w hw => facet_other htickets hw)

/-- A caller that waits takes its reply if it has come, and goes on waiting if not. -/
theorem Holds.step_waiting {place : Place} {handle : Handle} (h : Holds s e L)
    (hpunctual : e.Punctual) (hu : L.tickets u = some ⟨call, place⟩)
    (hplace : place.awaited? = some handle.id)
    (hwork : e.work? u = some (.caller (.waiting handle (.answer (.engine call))))) :
    ∃ L', Accounted s e L u (e.step u).1 L' := by
  cases hlook : e.correlator.delivered.lookup handle.id with
  | none => exact h.step_unanswered hpunctual hu hplace hwork hlook
  | some verdict =>
    obtain ⟨outcome, reply, rfl, rfl, hreply⟩ := h.delivered_of_awaited hu hplace hlook
    exact h.step_answered hu hreply hwork hlook

end Parley.Exchange
