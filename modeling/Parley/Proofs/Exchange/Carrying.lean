/-
# Steps of the loops

The server takes requests off the link and gives each a handler; the receiver takes replies
off it and gives each to its caller.  Both take one whole frame at a time, and while there
is none they hold what has come of the next.
-/

import Parley.Proofs.Exchange.Asking

namespace Parley.Exchange

open Parley.Frame (Bytes Whole)

variable {s : Service} {e : Exchange} {L : Ledger} {t u : TaskId} {call : Engine.Call}

/-- What has been written of a request can be brought to its end. -/
theorem Holds.exists_rest_rightward (h : Holds s e L)
    (hsender : ∃ id, facet Ticket.sending? L.tickets t = some id) :
    ∃ rest, rest ≠ [] ∧ Whole s.serverReads (L.rightward.written t ++ rest) := by
  obtain ⟨id, hid⟩ := hsender
  obtain ⟨⟨call, place⟩, hticket, hplace⟩ := facet_eq_some.1 hid
  cases place <;> cases hplace
  obtain ⟨work, -, hat⟩ := h.seated.seated t _ .caller t hticket rfl
  cases hat with
  | sending hrest hreads => exact ⟨_, hrest, hreads.whole⟩
  | waiting hplace => cases hplace

/-- What has been written of a reply can be brought to its end. -/
theorem Holds.exists_rest_leftward (h : Holds s e L)
    (hsender : ∃ u, facet Ticket.replying? L.tickets u = some t) :
    ∃ rest, rest ≠ [] ∧ Whole s.clientReads (L.leftward.written t ++ rest) := by
  obtain ⟨u, hu⟩ := hsender
  obtain ⟨⟨call, place⟩, hticket, hplace⟩ := facet_eq_some.1 hu
  cases place <;> cases hplace
  obtain ⟨work, -, hat⟩ := h.seated.seated u _ .handler t hticket rfl
  cases hat with
  | replying hreply hrest hreads => exact ⟨_, hrest, hreads.whole⟩
  | joining hplace => rcases hplace with heq | ⟨outcome, heq⟩ <;> cases heq

/-- No call has the server or the receiver among its tasks. -/
theorem Holds.loops_free (h : Holds s e L) (hloop : t = 0 ∨ t = 1) (v : TaskId) (ticket : Ticket)
    (seat : Seat) (hv : L.tickets v = some ticket) : ticket.task? v seat ≠ some t := by
  intro ht
  obtain ⟨h0, h1⟩ := h.ne_loops seat hv ht
  exact hloop.elim h0 h1

/-- A request that arrives is read as it was sent. -/
theorem Holds.decode {request : Message} {frame : Bytes} (h : Holds s e L)
    (hsent : facet Ticket.sent? L.tickets u = some request) (hreads : Outgoing s request frame) :
    ∃ call id, L.tickets u = some ⟨call, .sent id⟩ ∧
      e.dispatcher.codec.decode frame = .ok (call.sentAs id) := by
  obtain ⟨⟨call, place⟩, hu, hplace⟩ := facet_eq_some.1 hsent
  obtain ⟨id, rfl, rfl⟩ : ∃ id, place = .sent id ∧ request = call.sentAs id := by
    cases place <;> cases hplace
    exact ⟨_, rfl, rfl⟩
  refine ⟨call, id, hu, ?_⟩
  rw [h.steady.codec]
  exact Codec.Reads.decode hreads

/-- A reply that arrives is delivered to the caller that waits for it. -/
theorem Holds.receiveFrame {replied : Engine.Call × Int64 × Engine.Outcome} {frame : Bytes}
    (h : Holds s e L) (hreplied : facet Ticket.replied? L.tickets u = some replied)
    (hreads : Incoming s replied frame) :
    ∃ call id outcome reply, L.tickets u = some ⟨call, .replied id outcome⟩ ∧
      call.Replies id outcome reply ∧
      ∀ now, (e.correlator.receiveFrame frame now).2 =
        ({ e.correlator with table := e.correlator.table.resolve id } : Correlator).deliver
          (id, .ok reply) := by
  obtain ⟨⟨call, place⟩, hu, hplace⟩ := facet_eq_some.1 hreplied
  obtain ⟨id, outcome, rfl, rfl⟩ : ∃ id outcome, place = .replied id outcome ∧
      replied = (call, id, outcome) := by
    cases place <;> cases hplace
    exact ⟨_, _, rfl, rfl⟩
  obtain ⟨reply, hreplies, hreads⟩ := hreads
  change call.Replies id outcome reply at hreplies
  have hsuits := h.noted.suits u call outcome (facet_of hu)
  obtain ⟨result, -, hanswers⟩ := hreplies.answers hsuits
  have hflying : facet Ticket.inFlight? L.tickets u = some (id, call.operation) := facet_of hu
  have hexpected := (h.recorded.recorded u _ _ hflying).2
  rw [← hanswers.id] at hexpected
  refine ⟨call, id, outcome, reply, hu, hreplies, fun now => ?_⟩
  have hisReply : reply.isReply = true := by rw [Message.isReply, hanswers.role]
  rw [Correlator.receiveFrame_of_expected? (h.recorded.codec ▸ hreads.decode) hisReply
    hexpected hanswers.tag now, hanswers.id]

/-- The receiver gives a reply that has arrived to its caller. -/
theorem Holds.step_receiver_frame {replied : Engine.Call × Int64 × Engine.Outcome} {frame : Bytes}
    {others : List (TaskId × Bytes)} {lane : Link.Lane} (h : Holds s e L)
    (hreplied : facet Ticket.replied? L.tickets u = some replied)
    (hreads : Incoming s replied frame)
    (hreceive : e.link.leftward.receive s.clientReads L.leftward.held = (.frame frame, [], lane))
    (hloaded : ∀ freight, freight u = none →
      (∀ v, v ≠ u → freight v = facet Ticket.replied? L.tickets v) →
        Loaded (Incoming s) lane { L.leftward with held := [], frames := others } freight
          fun m => ∃ v, facet Ticket.replying? L.tickets v = some m) :
    ∃ L', Accounted s e L 1 (e.step 1).1 L' := by
  have hwork := h.loops.receiver
  have hstep := step_of_work? hwork (h.steady.aborting 1)
  simp only [stepReceiver, h.steady.stopped, Bool.false_eq_true, if_false, arrive, Link.receive,
    Link.inward, Link.Side.other, Link.outward, hreceive] at hstep
  have hfree := h.loops_free (Or.inr rfl)
  obtain ⟨call, id, outcome, reply, hu, hreplies, hc⟩ := h.receiveFrame hreplied hreads
  let c : Correlator := ({ e.correlator with table := e.correlator.table.resolve id }).deliver
    (id, .ok reply)
  have hflying : facet Ticket.inFlight? L.tickets u = some (id, call.operation) := facet_of hu
  let work : Work := .receiver { source := .link .left s.clientReads [] }
  let L' : Ledger :=
    { L with
      tickets := Function.update L.tickets u (some ⟨call, .delivered id outcome⟩)
      leftward := { L.leftward with held := [], frames := others } }
  obtain ⟨e', hstep', hturn, hlink, hparts⟩ : ∃ e', (e.step 1).1 = e' ∧ Turn e e' 1 work none ∧
      e'.link = { e.link with leftward := lane } ∧
      e'.parts = { e.parts with correlator := c } := by
    refine ⟨_, congrArg Prod.fst hstep, Turn.of_modify hwork rfl, rfl, ?_⟩
    rw [parts_setCorrelator, parts_setWork, parts_setLink]
    exact congrArg (fun c : Correlator => { e.parts with correlator := c }) (hc _)
  rw [hstep']
  have htickets : L'.tickets =
      Function.update L.tickets u (some ⟨call, .delivered id outcome⟩) := rfl
  have hcorrelator : e'.correlator = c := congrArg Parts.correlator hparts
  refine ⟨L', h.advance hu htickets (Nat.lt_succ_self _) rfl (Or.inl rfl) (Or.inl rfl)
    (h.steady.of_parts hturn hparts)
    ⟨hturn.keep Nat.zero_ne_one h.loops.server, hturn.self⟩ ?_ ?_
    (h.noted_keep hu htickets (congrArg Parts.engine hparts) rfl rfl)
    (h.rightward_keep hu htickets (by rw [hlink]) rfl rfl rfl) ?_⟩
  · refine h.seated.advance_serving hturn hu (fun v ticket seat _ => hfree v ticket seat)
      (fun heq => hfree u _ .caller hu (congrArg some heq)) htickets rfl rfl rfl (fun _ _ => rfl)
      (fun seat m hseat hm => ?_) (Or.inr (Or.inl rfl)) (fun w hw => by cases hw)
      fun seat m w hseat hm _ _ => ?_
    · cases seat <;> cases hm
      exact absurd rfl hseat
    · cases seat <;> cases hm
      exact absurd rfl hseat
  · rw [hcorrelator, facet_keep (f := Ticket.id?) htickets hu rfl]
    exact h.recorded.deliver hflying hreplies (facet_of hu) (facet_self htickets)
      (facet_self htickets) (fun w hw => facet_other htickets hw)
      (fun w hw => facet_other htickets hw)
  · rw [hlink, facet_keep (f := Ticket.replying?) htickets hu rfl]
    exact hloaded _ (facet_self htickets) fun v hvu => facet_other htickets hvu

/-- The receiver gives a reply to its caller, or it takes some bytes in, or nothing has
arrived. -/
theorem Holds.step_receiver (h : Holds s e L) : ∃ L', Accounted s e L 1 (e.step 1).1 L' := by
  rcases h.leftward.receive (fun _ _ hreads => hreads.whole)
      (fun _ hsender => h.exists_rest_leftward hsender) with
    ⟨u, x, frame, others, lane, -, hreplied, hreads, hreceive, hloaded⟩ |
    ⟨held, lane, -, hreceive, hloaded, -, hload⟩
  · exact h.step_receiver_frame hreplied hreads hreceive hloaded
  · have hwork := h.loops.receiver
    have hstep := step_of_work? hwork (h.steady.aborting 1)
    simp only [stepReceiver, h.steady.stopped, Bool.false_eq_true, if_false, arrive, Link.receive,
      Link.inward, Link.Side.other, Link.outward, hreceive] at hstep
    let work : Work := .receiver { source := .link .left s.clientReads held }
    let L' : Ledger := { L with leftward := { L.leftward with held } }
    obtain ⟨e', hstep', htasks, hturn, hlink, hparts⟩ : ∃ e', (e.step 1).1 = e' ∧
        e'.tasks = (e.tasks.modify 1 fun task => { task with work }) ∧ Turn e e' 1 work none ∧
        e'.link = { e.link with leftward := lane } ∧ e'.parts = e.parts :=
      ⟨_, congrArg Prod.fst hstep, rfl, Turn.of_modify hwork rfl, rfl, parts_setLink _ _⟩
    rw [hstep']
    refine ⟨L', h.remain hturn hparts
      ⟨hturn.keep Nat.zero_ne_one h.loops.server, hturn.self⟩
      (h.seated.stay hturn (h.loops_free (Or.inr rfl)) (Or.inr rfl) rfl rfl rfl)
      (hlink ▸ h.rightward) (hlink ▸ hloaded) ?_⟩
    rcases hload with ⟨rfl, rfl⟩ | hless
    · exact Or.inl ⟨htasks.trans (modify_of_work? hwork), hlink, hparts⟩
    · refine Or.inr (weight_lt_of_load rfl (toil_eq_of_modify hwork htasks rfl) ?_)
      rw [load, load, hlink]
      exact Nat.add_lt_add_left hless _

/-- The server gives a request that has arrived a handler. -/
theorem Holds.step_server_frame {request : Message} {frame : Bytes}
    {others : List (TaskId × Bytes)} {lane : Link.Lane} (h : Holds s e L)
    (hsent : facet Ticket.sent? L.tickets u = some request) (hreads : Outgoing s request frame)
    (hreceive : e.link.rightward.receive s.serverReads L.rightward.held =
      (.frame frame, [], lane))
    (hloaded : ∀ freight, freight u = none →
      (∀ v, v ≠ u → freight v = facet Ticket.sent? L.tickets v) →
        Loaded (Outgoing s) lane { L.rightward with held := [], frames := others } freight
          fun m => ∃ id, facet Ticket.sending? L.tickets m = some id) :
    ∃ L', Accounted s e L 0 (e.step 0).1 L' := by
  obtain ⟨call, id, hu, hdecode⟩ := h.decode hsent hreads
  have hdecode : ∀ link work, ((e.setLink link).setWork 0 work).dispatcher.codec.decode frame =
      .ok (call.sentAs id) := fun _ _ => hdecode
  have hwork := h.loops.server
  have hstep := step_of_work? hwork (h.steady.aborting 0)
  simp only [stepServer, h.steady.stopped, h.steady.shutdown, Bool.or_self, Bool.false_eq_true,
    if_false, arrive, Link.receive, Link.inward, Link.Side.other, Link.outward, hreceive,
    hdecode] at hstep
  have hfree := h.loops_free (Or.inl rfl)
  let work : Work := .server
    { source := .link .right s.serverReads [], sink := .link .right }
  let new : Work := .handler { request := call.sentAs id, purpose := .send (.link .right) }
  let L' : Ledger :=
    { L with
      tickets := Function.update L.tickets u (some ⟨call, .accepted id e.tasks.length⟩)
      rightward := { L.rightward with held := [], frames := others } }
  obtain ⟨e', hstep', hturn, hlink, hparts⟩ : ∃ e', (e.step 0).1 = e' ∧
      Turn e e' 0 work (some new) ∧ e'.link = { e.link with rightward := lane } ∧
      e'.parts = e.parts := by
    refine ⟨_, congrArg Prod.fst hstep, Turn.of_append hwork rfl, rfl, ?_⟩
    rw [parts_spawn, parts_setWork, parts_setLink]
  rw [hstep']
  have htickets : L'.tickets =
      Function.update L.tickets u (some ⟨call, .accepted id e.tasks.length⟩) := rfl
  refine ⟨L', h.advance hu htickets (Nat.lt_succ_self _) rfl (Or.inl rfl) (Or.inl rfl)
    (h.steady.of_parts hturn hparts)
    ⟨hturn.self, hturn.keep Nat.one_ne_zero h.loops.receiver⟩ ?_
    (h.recorded_keep hu htickets (congrArg Parts.correlator hparts) rfl rfl rfl rfl)
    (h.noted_keep hu htickets (congrArg Parts.engine hparts) rfl rfl) ?_
    (h.leftward_keep hu htickets (by rw [hlink]) rfl rfl rfl)⟩
  · refine h.seated.advance_serving hturn hu (fun v ticket seat _ => hfree v ticket seat)
      (fun heq => hfree u _ .caller hu (congrArg some heq)) htickets rfl rfl rfl (fun _ _ => rfl)
      (fun seat m hseat hm => ?_) (Or.inl rfl) (fun w hw => ⟨.handler, rfl⟩)
      fun seat m w hseat hm _ _ => ?_
    · cases seat with
      | caller => exact absurd rfl hseat
      | handler =>
        cases hm
        exact ⟨new, hturn.fresh, .accepted⟩
      | engine => cases hm
    · cases seat <;> cases hm
      exact absurd rfl hseat
  · rw [hlink, facet_keep (f := Ticket.sending?) htickets hu rfl]
    exact hloaded _ (facet_self htickets) fun v hvu => facet_other htickets hvu

/-- The server gives a request a handler, or it takes some bytes in, or nothing has arrived. -/
theorem Holds.step_server (h : Holds s e L) : ∃ L', Accounted s e L 0 (e.step 0).1 L' := by
  rcases h.rightward.receive (fun _ _ hreads => Codec.Reads.whole hreads)
      (fun _ hsender => h.exists_rest_rightward hsender) with
    ⟨u, m, frame, others, lane, -, hsent, hreads, hreceive, hloaded⟩ |
    ⟨held, lane, -, hreceive, hloaded, -, hload⟩
  · exact h.step_server_frame hsent hreads hreceive hloaded
  · have hwork := h.loops.server
    have hstep := step_of_work? hwork (h.steady.aborting 0)
    simp only [stepServer, h.steady.stopped, h.steady.shutdown, Bool.or_self, Bool.false_eq_true,
      if_false, arrive, Link.receive, Link.inward, Link.Side.other, Link.outward,
      hreceive] at hstep
    let work : Work := .server
      { source := .link .right s.serverReads held, sink := .link .right }
    let L' : Ledger := { L with rightward := { L.rightward with held } }
    obtain ⟨e', hstep', htasks, hturn, hlink, hparts⟩ : ∃ e', (e.step 0).1 = e' ∧
        e'.tasks = (e.tasks.modify 0 fun task => { task with work }) ∧ Turn e e' 0 work none ∧
        e'.link = { e.link with rightward := lane } ∧ e'.parts = e.parts :=
      ⟨_, congrArg Prod.fst hstep, rfl, Turn.of_modify hwork rfl, rfl, parts_setLink _ _⟩
    rw [hstep']
    refine ⟨L', h.remain hturn hparts
      ⟨hturn.self, hturn.keep Nat.one_ne_zero h.loops.receiver⟩
      (h.seated.stay hturn (h.loops_free (Or.inl rfl)) (Or.inl rfl) rfl rfl rfl)
      (hlink ▸ hloaded) (hlink ▸ h.leftward) ?_⟩
    rcases hload with ⟨rfl, rfl⟩ | hless
    · exact Or.inl ⟨htasks.trans (modify_of_work? hwork), hlink, hparts⟩
    · refine Or.inr (weight_lt_of_load rfl (toil_eq_of_modify hwork htasks rfl) ?_)
      rw [load, load, hlink]
      exact Nat.add_lt_add_right hless _

end Parley.Exchange
