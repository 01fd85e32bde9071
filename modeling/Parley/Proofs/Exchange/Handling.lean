/-
# Steps of handlers and engine calls

A handler forwards its request, waits for the engine call that it has added and sends the
reply.  The engine is called when the engine call takes its first step: this is the one
place at which a call of the engine is put down to a caller.
-/

import Parley.Proofs.Dispatcher
import Parley.Proofs.Exchange.Carrying
import Parley.Proofs.Registry

namespace Parley.Exchange

open Parley.Frame (Bytes)

variable {s : Service} {e e' : Exchange} {L : Ledger} {t u : TaskId} {call : Engine.Call}
  {id : Int64} {outcome : Engine.Outcome}

/-- No call of the engine asks to shut down. -/
theorem asksShutdown_sentAs (call : Engine.Call) (id : Int64) :
    asksShutdown (call.sentAs id) = false := by
  cases call <;> rfl

/-- A task on the serving side works at one call, and is neither its caller nor a loop. -/
theorem Holds.serving {ticket : Ticket} {work : Work} (h : Holds s e L) (seat : Seat)
    (hu : L.tickets u = some ticket) (ht : ticket.task? u seat = some t)
    (hwork : e.work? t = some work) (hlive : ∀ result, work ≠ .ended result)
    (hseat : seat ≠ .caller) :
    (t ≠ 0 ∧ t ≠ 1) ∧ u ≠ t ∧
      ∀ v ticket seat, v ≠ u → L.tickets v = some ticket → ticket.task? v seat ≠ some t := by
  refine ⟨h.ne_loops seat hu ht, ?_, h.free seat hu ht hwork hlive⟩
  rintro rfl
  have hcaller : ticket.task? u .caller = some u := rfl
  exact hseat (h.seated.unique h.distinct hwork hlive hu ht hu hcaller).2

/-! ### Handlers -/

/-- The request of a call is accepted. -/
theorem Holds.accept (h : Holds s e L) (hsound : s.Sound) (call : Engine.Call) (id : Int64) :
    e.dispatcher.accept (call.sentAs id) = .ok ⟨id, Message.reply call.operation⟩ := by
  have haccept := Dispatcher.accept_eq_ok (d := e.dispatcher) (call.expectedReply?_sentAs id)
    (by rw [h.steady.codec, hsound.server, Registry.template?_standard_reply])
  rwa [Engine.Call.requestId_sentAs] at haccept

/-- A handler forwards its request to the engine. -/
theorem Holds.step_accepted (h : Holds s e L) (hsound : s.Sound)
    (hu : L.tickets u = some ⟨call, .accepted id t⟩)
    (hwork : e.work? t =
      some (.handler { request := call.sentAs id, purpose := .send (.link .right) })) :
    ∃ L', Accounted s e L t (e.step t).1 L' := by
  let job : Dispatcher.Job := ⟨id, Message.reply call.operation⟩
  have haccept : e.dispatcher.accept (call.sentAs id) = .ok job := h.accept hsound call id
  have hstep := step_of_work? hwork (h.steady.aborting t)
  simp only [stepHandler, haccept, call.route_sentAs id] at hstep
  obtain ⟨⟨h0, h1⟩, hut, hfree⟩ := h.serving .handler hu rfl hwork (fun _ heq => by cases heq)
    fun heq => by cases heq
  have hturn := Turn.forward job hwork
  let L' : Ledger :=
    { L with
      tickets := Function.update L.tickets u (some ⟨call, .forwarded id t e.tasks.length⟩) }
  have htickets : L'.tickets =
      Function.update L.tickets u (some ⟨call, .forwarded id t e.tasks.length⟩) := rfl
  have hshutdown : ∀ d : Dispatcher, (d.track id e.tasks.length).2.shutdown = d.shutdown := by
    intro d
    rw [Dispatcher.track]
    split <;> rfl
  have hdispatcher : (e.forward t { request := call.sentAs id, purpose := .send (.link .right) }
      job).dispatcher = (e.dispatcher.track id e.tasks.length).2 := rfl
  rw [hstep]
  refine ⟨L', h.advance hu htickets (Nat.lt_succ_self _) rfl (Or.inl rfl) (Or.inl rfl)
    (h.steady.of_turn hturn rfl rfl ?_ (codec_forward _ job))
    (h.loops.of_turn hturn h0 h1 rfl rfl) ?_ (h.recorded_keep hu htickets rfl rfl rfl rfl rfl)
    (h.noted_keep hu htickets rfl rfl rfl) (h.rightward_keep hu htickets rfl rfl rfl rfl)
    (h.leftward_keep hu htickets rfl rfl rfl rfl)⟩
  · rw [hdispatcher, hshutdown]
  · refine h.seated.advance_serving hturn hu hfree hut htickets rfl rfl rfl
      (fun _ _ => rfl) (fun seat m hseat hm => ?_)
      (Or.inr (Or.inr (Or.inr ⟨.handler, rfl⟩))) (fun _ _ => ⟨.engine, rfl⟩)
      fun seat m w hseat hm hmt _ => ?_
    · cases seat with
      | caller => exact absurd rfl hseat
      | handler =>
        cases hm
        exact ⟨_, hturn.self, .joining (Or.inl rfl)⟩
      | engine =>
        cases hm
        exact ⟨_, hturn.fresh, .starting⟩
    · cases seat with
      | caller => exact absurd rfl hseat
      | handler => exact absurd (Option.some.inj hm).symm hmt
      | engine => cases hm

/-- A handler with a reply that can be put into a frame is about to send it. -/
theorem fst_conclude {m reply : Message} {sink : Sink} {phase : HandlerPhase} {frame : Bytes}
    (hframe : e.dispatcher.codec.encode reply = .ok frame) :
    (e.conclude t { request := m, purpose := .send sink, phase } (.ok reply)).1 =
      e.setWork t (.handler
        { request := m, purpose := .send sink, phase := .transmitting frame }) := by
  have hbind : (Except.ok reply : Except Fault Message).bind e.dispatcher.codec.encode =
      .ok frame := hframe
  simp only [conclude, hbind]

/-- A task that does not send the reply of its call has written nothing of a reply. -/
theorem Holds.written_eq_nil {ticket : Ticket} (h : Holds s e L) (hu : L.tickets u = some ticket)
    (hnone : ticket.replying? = none)
    (hfree : ∀ v ticket seat, v ≠ u → L.tickets v = some ticket →
      ticket.task? v seat ≠ some t) : L.leftward.written t = [] := by
  apply h.leftward.written_eq_nil
  rintro ⟨v, hv⟩
  obtain ⟨⟨call, place⟩, hticket, hplace⟩ := facet_eq_some.1 hv
  by_cases hvu : v = u
  · subst hvu
    rw [hu] at hticket
    cases hticket
    rw [hnone] at hplace
    cases hplace
  · refine hfree v ⟨call, place⟩ .handler hvu hticket ?_
    cases place <;> cases hplace
    rfl

/-- The reply of a handler whose engine call has ended answers the call, and the client reads
it off its frame. -/
theorem Holds.exists_reply {c : TaskId} {tracked : Bool} {ending : Engine.Ending}
    (h : Holds s e L) (hsound : s.Sound) (hroomy : Roomy s e t)
    (hu : L.tickets u = some ⟨call, .called id t c outcome⟩)
    (hending : outcome.ending? call (Message.reply call.operation) = some ending)
    (hended : e.ended? c = some (.call ending))
    (hwork : e.work? t =
      some (.handler
        { request := call.sentAs id, purpose := .send (.link .right)
          phase := .joining ⟨id, Message.reply call.operation⟩ c tracked })) :
    ∃ reply frame, Dispatcher.Job.reply ⟨id, Message.reply call.operation⟩
        (Dispatcher.outcomeOf ending) = .ok reply ∧
      e.dispatcher.codec.encode reply = .ok frame ∧ s.client.Reads s.clientReads reply frame := by
  have hsuits := h.noted.suits u call outcome (facet_of hu)
  obtain ⟨reply, result, hreply, -, hanswers⟩ := Engine.Outcome.exists_reply hsuits hending id
  have hjob : Dispatcher.Job.reply ⟨id, Message.reply call.operation⟩
      (Dispatcher.outcomeOf ending) = .ok reply := hreply
  obtain ⟨htakes, frame, hframe⟩ := hroomy reply (by
    simp only [framed?, hwork, hended, hjob]
    rfl)
  refine ⟨reply, frame, hjob, ?_, ?_⟩
  · rw [h.steady.codec, hframe]
  · apply Codec.reads_of_encode hframe htakes hsound.clientReads
    rw [hsound.client, hanswers.tag, Registry.template?_standard_reply, Message.blank,
      hanswers.role, hanswers.tag]
    rfl

/-- A handler whose engine call has ended makes its reply and is then about to send it. -/
theorem step_of_ended_call {request reply : Message} {sink : Sink} {job : Dispatcher.Job}
    {c : TaskId} {tracked : Bool} {ending : Engine.Ending} {frame : Bytes}
    (haborting : e.aborting t = false)
    (hwork : e.work? t =
      some (.handler { request, purpose := .send sink, phase := .joining job c tracked }))
    (hended : e.ended? c = some (.call ending))
    (hjob : job.reply (Dispatcher.outcomeOf ending) = .ok reply)
    (hframe : e.dispatcher.codec.encode reply = .ok frame) :
    ∃ e', (e.step t).1 = e' ∧
      Turn e e' t (.handler { request, purpose := .send sink, phase := .transmitting frame })
        none ∧
      e'.link = e.link ∧
      e'.parts =
        { e.parts with
          dispatcher := if tracked then e.dispatcher.untrack job.id c else e.dispatcher } := by
  have hstep := step_of_work? hwork haborting
  simp only [stepHandler, hended, hjob] at hstep
  cases tracked <;>
    exact ⟨_, (congrArg Prod.fst hstep).trans (fst_conclude hframe), Turn.of_modify hwork rfl,
      rfl, rfl⟩

/-- A handler whose engine call has ended makes the reply and puts it into a frame. -/
theorem Holds.step_ended {c : TaskId} {tracked : Bool} {ending : Engine.Ending}
    (h : Holds s e L) (hsound : s.Sound) (hroomy : Roomy s e t)
    (hu : L.tickets u = some ⟨call, .called id t c outcome⟩)
    (hending : outcome.ending? call (Message.reply call.operation) = some ending)
    (hended : e.work? c = some (.ended (.call ending)))
    (hwork : e.work? t =
      some (.handler
        { request := call.sentAs id, purpose := .send (.link .right)
          phase := .joining ⟨id, Message.reply call.operation⟩ c tracked })) :
    ∃ L', Accounted s e L t (e.step t).1 L' := by
  have hended' : e.ended? c = some (.call ending) := by rw [ended?, hended]
  obtain ⟨reply, frame, hreply, hframe, hreads⟩ :=
    h.exists_reply hsound hroomy hu hending hended' hwork
  obtain ⟨e', hstep, hturn, hlink, hparts⟩ :=
    step_of_ended_call (h.steady.aborting t) hwork hended' hreply hframe
  rw [hstep]
  have hdispatcher := congrArg Parts.dispatcher hparts
  let L' : Ledger :=
    { L with tickets := Function.update L.tickets u (some ⟨call, .replying id t outcome⟩) }
  have htickets : L'.tickets =
      Function.update L.tickets u (some ⟨call, .replying id t outcome⟩) := rfl
  obtain ⟨⟨h0, h1⟩, hut, hfree⟩ := h.serving .handler hu rfl hwork (fun _ heq => by cases heq)
    fun heq => by cases heq
  have hwritten : L.leftward.written t = [] := h.written_eq_nil hu rfl hfree
  refine ⟨L', h.advance hu htickets (Nat.lt_succ_self _) rfl (Or.inl rfl) (Or.inl rfl)
    (h.steady.of_turn hturn (congrArg Parts.stopped hparts) (congrArg Parts.outlet hparts) ?_ ?_)
    (h.loops.of_turn hturn h0 h1 rfl rfl) ?_
    (h.recorded_keep hu htickets (congrArg Parts.correlator hparts) rfl rfl rfl rfl)
    (h.noted_keep hu htickets (congrArg Parts.engine hparts) rfl rfl)
    (h.rightward_keep hu htickets (by rw [hlink]) rfl rfl rfl) ?_⟩
  · exact (congrArg Dispatcher.shutdown hdispatcher).trans (by cases tracked <;> rfl)
  · exact (congrArg Dispatcher.codec hdispatcher).trans (by cases tracked <;> rfl)
  · refine h.seated.advance_serving hturn hu hfree hut htickets rfl rfl rfl
      (fun _ _ => rfl) (fun seat m hseat hm => ?_)
      (Or.inr (Or.inr (Or.inr ⟨.handler, rfl⟩))) (fun w hw => by cases hw)
      fun seat m w hseat hm hmt hw => ?_
    · cases seat with
      | caller => exact absurd rfl hseat
      | handler =>
        cases hm
        refine ⟨_, hturn.self, .replying ⟨ending, hending, hreply⟩ hreads.whole.ne_nil ?_⟩
        rw [hwritten]
        exact hreads
      | engine => cases hm
    · cases seat with
      | caller => exact absurd rfl hseat
      | handler => exact absurd (Option.some.inj hm).symm hmt
      | engine =>
        cases hm
        rw [hended] at hw
        cases hw
        exact Or.inl ⟨_, rfl⟩
  · rw [hlink, facet_keep (f := Ticket.replied?) htickets hu rfl]
    apply h.leftward.mono
    rintro m ⟨v, hv⟩
    exact ⟨v, facet_stays htickets hu (fun heq => by cases heq) hv⟩

/-- A handler that waits makes its reply if the engine call has ended, and goes on waiting
if not. -/
theorem Holds.step_joining {place : Place} {c : TaskId} {tracked : Bool} (h : Holds s e L)
    (hsound : s.Sound) (hroomy : Roomy s e t) (hu : L.tickets u = some ⟨call, place⟩)
    (hplace : place = .forwarded id t c ∨ ∃ outcome, place = .called id t c outcome)
    (hwork : e.work? t =
      some (.handler
        { request := call.sentAs id, purpose := .send (.link .right)
          phase := .joining ⟨id, Message.reply call.operation⟩ c tracked })) :
    ∃ L', Accounted s e L t (e.step t).1 L' := by
  have hstep := step_of_work? hwork (h.steady.aborting t)
  have hstay : e.ended? c = none → ∃ L', Accounted s e L t (e.step t).1 L' := by
    intro hrunning
    simp only [stepHandler, hrunning] at hstep
    rw [hstep]
    exact ⟨L, h.accounted_of_same ⟨rfl, rfl, rfl⟩⟩
  have hc : Ticket.task? ⟨call, place⟩ u .engine = some c := by
    rcases hplace with rfl | ⟨outcome, rfl⟩ <;> rfl
  obtain ⟨work, hcwork, hat⟩ := h.seated.seated u _ .engine c hu hc
  cases hat with
  | starting => exact hstay (by rw [ended?, hcwork])
  | working hnext => exact hstay (by rw [ended?, hcwork])
  | sleeping hnext => exact hstay (by rw [ended?, hcwork])
  | returned hending =>
    rcases hplace with heq | ⟨outcome, heq⟩
    · cases heq
    · cases heq
      exact h.step_ended hsound hroomy hu hending hcwork hwork

/-- A handler that has sent its reply ends, and the server still holds the sink. -/
theorem Holds.reply_sent {phase : HandlerPhase} (h : Holds s e L)
    (hwork : e.work? t =
      some (.handler { request := call.sentAs id, purpose := .send (.link .right), phase }))
    (h0 : t ≠ 0) (lane : Link.Lane) :
    ∃ e', (e.setLink { e.link with leftward := lane }).endSending t
        { request := call.sentAs id, purpose := .send (.link .right), phase } = e' ∧
      Turn e e' t (.ended (.loop (.ok ()))) none ∧ e'.link = { e.link with leftward := lane } ∧
      e'.parts = e.parts := by
  let sent : Exchange := e.setLink { e.link with leftward := lane }
  have hend : sent.endSending t
      { request := call.sentAs id, purpose := .send (.link .right), phase } =
      sent.finish t (.loop (.ok ())) := by
    simp only [endSending, asksShutdown_sentAs, Bool.false_eq_true, if_false]
  refine ⟨sent.finish t (.loop (.ok ())), hend, Turn.of_modify hwork (tasks_finish _ _ _), ?_, ?_⟩
  · refine (link_finish (e := sent) hwork (fun side => rfl) (fun side hside => ?_) _).trans rfl
    refine ⟨0, _, Ne.symm h0, h.loops.server, ?_⟩
    cases side with
    | left => cases hside
    | right => rfl
  · rw [parts_finish, parts_setLink]

/-- A handler that sends all that is left of its reply has done its work. -/
theorem Holds.step_reply_sent {reply : Message} {rest : Bytes} {lane : Link.Lane}
    (h : Holds s e L) (hu : L.tickets u = some ⟨call, .replying id t outcome⟩)
    (hreply : call.Replies id outcome reply) (hrest : rest ≠ [])
    (hreads : s.client.Reads s.clientReads reply (L.leftward.written t ++ rest))
    (hwork : e.work? t =
      some (.handler
        { request := call.sentAs id, purpose := .send (.link .right)
          phase := .transmitting rest }))
    (hsend : e.link.leftward.send t rest = (.sent, lane)) :
    ∃ L', Accounted s e L t (e.step t).1 L' := by
  have hstep := step_of_work? hwork (h.steady.aborting t)
  simp only [stepHandler, transmit, Link.send, Link.outward, hsend] at hstep
  obtain ⟨⟨h0, h1⟩, hut, hfree⟩ := h.serving .handler hu rfl hwork (fun _ heq => by cases heq)
    fun heq => by cases heq
  let L' : Ledger :=
    { L with
      tickets := Function.update L.tickets u (some ⟨call, .replied id outcome⟩)
      leftward :=
        { L.leftward with
          frames := L.leftward.frames ++ [(u, L.leftward.written t ++ rest)]
          written := Function.update L.leftward.written t [] } }
  obtain ⟨e', hstep', hturn, hlink, hparts⟩ := h.reply_sent hwork h0 lane
  rw [(congrArg Prod.fst hstep).trans hstep']
  have htickets : L'.tickets =
      Function.update L.tickets u (some ⟨call, .replied id outcome⟩) := rfl
  refine ⟨L', h.advance hu htickets (Nat.lt_succ_self _) rfl (Or.inl rfl) (Or.inl rfl)
    (h.steady.of_parts hturn hparts) (h.loops.of_turn hturn h0 h1 rfl rfl) ?_
    (h.recorded_keep hu htickets (congrArg Parts.correlator hparts) rfl rfl rfl rfl)
    (h.noted_keep hu htickets (congrArg Parts.engine hparts) rfl rfl)
    (h.rightward_keep hu htickets (by rw [hlink]) rfl rfl rfl) ?_⟩
  · refine h.seated.advance_serving hturn hu hfree hut htickets rfl rfl rfl
      (fun m hm => Function.update_of_ne hm _ _) (fun seat m hseat hm => ?_)
      (Or.inr (Or.inr (Or.inl ⟨_, rfl⟩))) (fun w hw => by cases hw)
      fun seat m w hseat hm hmt hw => ?_
    · cases seat <;> cases hm
      exact absurd rfl hseat
    · cases seat with
      | caller => exact absurd rfl hseat
      | handler => exact absurd (Option.some.inj hm).symm hmt
      | engine => cases hm
  · rw [hlink]
    refine h.leftward.of_sent hrest hsend (facet_of hu) (facet_self htickets)
      ⟨reply, hreply, hreads⟩ (fun v hvu => facet_other htickets hvu) ?_
    rintro m hmt ⟨v, hv⟩
    have hother : Ticket.replying? ⟨call, .replying id t outcome⟩ ≠ some m :=
      fun heq => hmt (Option.some.inj heq).symm
    exact ⟨v, facet_stays htickets hu hother hv⟩

/-- A handler that is held up has sent some more of its reply, or it has come to wait for its
turn, or nothing has changed. -/
theorem Holds.step_reply_blocked {reply : Message} {rest rest' : Bytes} {lane : Link.Lane}
    (h : Holds s e L) (hu : L.tickets u = some ⟨call, .replying id t outcome⟩)
    (hreply : call.Replies id outcome reply) (hrest : rest ≠ [])
    (hreads : s.client.Reads s.clientReads reply (L.leftward.written t ++ rest))
    (hwork : e.work? t =
      some (.handler
        { request := call.sentAs id, purpose := .send (.link .right)
          phase := .transmitting rest }))
    (hsend : e.link.leftward.send t rest = (.blocked rest', lane)) :
    ∃ L', Accounted s e L t (e.step t).1 L' := by
  have hstep := step_of_work? hwork (h.steady.aborting t)
  simp only [stepHandler, transmit, Link.send, Link.outward, hsend] at hstep
  have hsender : ∃ v, facet Ticket.replying? L.tickets v = some t := ⟨u, facet_of hu⟩
  obtain ⟨⟨h0, h1⟩, hut, hfree⟩ := h.serving .handler hu rfl hwork (fun _ heq => by cases heq)
    fun heq => by cases heq
  obtain ⟨part, hsplit, hrest', hloaded, hqueueing, hnone⟩ :=
    h.leftward.of_blocked hsender hrest hsend
  let work : Work := .handler
    { request := call.sentAs id, purpose := .send (.link .right), phase := .transmitting rest' }
  let L' : Ledger :=
    { L with
      leftward :=
        { L.leftward with
          written := Function.update L.leftward.written t (L.leftward.written t ++ part) } }
  obtain ⟨e', hstep', htasks, hturn, hlink, hparts⟩ : ∃ e', (e.step t).1 = e' ∧
      e'.tasks = (e.tasks.modify t fun task => { task with work }) ∧
      Turn e e' t work none ∧ e'.link = { e.link with leftward := lane } ∧
      e'.parts = e.parts :=
    ⟨_, congrArg Prod.fst hstep, rfl, Turn.of_modify hwork rfl, rfl, parts_setLink _ _⟩
  rw [hstep']
  have htickets : L'.tickets =
      Function.update L.tickets u (some ⟨call, .replying id t outcome⟩) :=
    (Function.update_eq_self_iff.2 hu.symm).symm
  refine ⟨L', h.remain hturn hparts (h.loops.of_turn hturn h0 h1 rfl rfl) ?_
    (hlink ▸ h.rightward) (hlink ▸ hloaded) ?_⟩
  · refine h.seated.advance_serving hturn hu hfree hut htickets rfl rfl rfl
      (fun m hm => Function.update_of_ne hm _ _) (fun seat m hseat hm => ?_)
      (Or.inr (Or.inr (Or.inr ⟨.handler, rfl⟩))) (fun w hw => by cases hw)
      fun seat m w hseat hm hmt hw => Or.inr hm
    cases seat with
    | caller => exact absurd rfl hseat
    | handler =>
      cases hm
      refine ⟨_, hturn.self, .replying hreply hrest' ?_⟩
      change s.client.Reads s.clientReads _
        (Function.update L.leftward.written t (L.leftward.written t ++ part) t ++ rest')
      rw [Function.update_self, List.append_assoc, ← hsplit]
      exact hreads
    | engine => cases hm
  · refine h.lighter_of_blocked .right hwork htasks hparts hlink rfl hsplit rfl rfl
      (fun heq => ?_) hqueueing hnone
    subst heq
    rfl

/-- A handler that sends sends all that is left of its reply, or some of it, or nothing. -/
theorem Holds.step_replying {reply : Message} {rest : Bytes} (h : Holds s e L)
    (hu : L.tickets u = some ⟨call, .replying id t outcome⟩)
    (hreply : call.Replies id outcome reply) (hrest : rest ≠ [])
    (hreads : s.client.Reads s.clientReads reply (L.leftward.written t ++ rest))
    (hwork : e.work? t =
      some (.handler
        { request := call.sentAs id, purpose := .send (.link .right)
          phase := .transmitting rest })) :
    ∃ L', Accounted s e L t (e.step t).1 L' := by
  rcases h.leftward.send_cases t hrest with ⟨lane, hsend⟩ | ⟨rest', lane, hsend⟩
  · exact h.step_reply_sent hu hreply hrest hreads hwork hsend
  · exact h.step_reply_blocked hu hreply hrest hreads hwork hsend

/-! ### Engine calls -/

/-- An engine call that begins calls the engine as its caller has asked. -/
theorem Holds.step_calling {h' : TaskId} (h : Holds s e L)
    (hu : L.tickets u = some ⟨call, .forwarded id h' t⟩)
    (hwork : e.work? t =
      some (.engineCall { request := call.sentAs id, blank := Message.reply call.operation })) :
    ∃ L', Accounted s e L t (e.step t).1 L' := by
  have hcall : Engine.Call.ofRequest (call.sentAs id) = .ok call :=
    Engine.Call.ofRequest_request (h.filed.portable u _ hu) id
  have hstep := step_of_work? hwork (h.steady.aborting t)
  simp only [stepEngineCall, hcall] at hstep
  obtain ⟨⟨h0, h1⟩, hut, hfree⟩ := h.serving .engine hu rfl hwork (fun _ heq => by cases heq)
    fun heq => by cases heq
  let outcome := (e.engine.start call).1
  let work : Work := .engineCall
    { request := call.sentAs id, blank := Message.reply call.operation
      phase := .working call outcome }
  let L' : Ledger :=
    { L with
      tickets := Function.update L.tickets u (some ⟨call, .called id h' t outcome⟩)
      noted := L.noted ++ [u] }
  obtain ⟨e', hstep', hturn, hlink, hparts⟩ : ∃ e', (e.step t).1 = e' ∧ Turn e e' t work none ∧
      e'.link = e.link ∧ e'.parts = { e.parts with engine := (e.engine.start call).2 } :=
    ⟨_, congrArg Prod.fst hstep, Turn.of_modify hwork rfl, rfl, rfl⟩
  rw [hstep']
  have htickets : L'.tickets =
      Function.update L.tickets u (some ⟨call, .called id h' t outcome⟩) := rfl
  have hengine : e'.engine = (e.engine.start call).2 := congrArg Parts.engine hparts
  obtain ⟨handle, hcaller, rfl⟩ := h.seated.exists_waiting hu rfl
  refine ⟨L', h.advance hu htickets (Nat.lt_succ_self _) rfl (Or.inl rfl)
    (Or.inr ⟨u, _, handle, _, rfl, hwork, hcaller, call.requestId_sentAs _⟩)
    (h.steady.of_parts hturn hparts) (h.loops.of_turn hturn h0 h1 rfl rfl) ?_
    (h.recorded_keep hu htickets (congrArg Parts.correlator hparts) rfl rfl rfl rfl) ?_
    (h.rightward_keep hu htickets (by rw [hlink]) rfl rfl rfl)
    (h.leftward_keep hu htickets (by rw [hlink]) rfl rfl rfl)⟩
  · refine h.seated.advance_serving hturn hu hfree hut htickets rfl rfl rfl
      (fun _ _ => rfl) (fun seat m hseat hm => ?_)
      (Or.inr (Or.inr (Or.inr ⟨.engine, rfl⟩))) (fun w hw => by cases hw)
      fun seat m w hseat hm hmt hw => ?_
    · cases seat with
      | caller => exact absurd rfl hseat
      | handler =>
        cases hm
        obtain ⟨w, hw, hat⟩ := h.seated.seated u _ .handler h' hu rfl
        cases hat with
        | joining hplace =>
          rcases hplace with heq | ⟨_, heq⟩ <;> cases heq
          have hht : h' ≠ t := by
            rintro rfl
            rw [hwork] at hw
            cases hw
          exact ⟨_, hturn.keep hht hw, .joining (Or.inr ⟨outcome, rfl⟩)⟩
      | engine =>
        cases hm
        exact ⟨_, hturn.self, .working rfl⟩
    · cases seat with
      | caller => exact absurd rfl hseat
      | handler => exact Or.inr hm
      | engine => exact absurd (Option.some.inj hm).symm hmt
  · rw [hengine]
    exact h.noted.start (facet_of hu) (facet_self htickets) fun v hv => facet_other htickets hv

/-- The task of an engine call goes on, and nothing else changes. -/
theorem Holds.rework {h' : TaskId} {work work' : Work} (h : Holds s e L)
    (hu : L.tickets u = some ⟨call, .called id h' t outcome⟩) (hwork : e.work? t = some work)
    (hlive : ∀ result, work ≠ .ended result)
    (htasks : e'.tasks = e.tasks.modify t fun task => { task with work := work' })
    (hlink : e'.link = e.link) (hparts : e'.parts = e.parts)
    (hat : At s L.rightward.written L.leftward.written u call (.called id h' t outcome) .engine
      work') (htoil : work'.toil < work.toil) : Accounted s e L t e' L := by
  have hturn : Turn e e' t work' none := Turn.of_modify hwork htasks
  have htickets : L.tickets =
      Function.update L.tickets u (some ⟨call, .called id h' t outcome⟩) :=
    (Function.update_eq_self_iff.2 hu.symm).symm
  obtain ⟨⟨h0, h1⟩, hut, hfree⟩ := h.serving .engine hu rfl hwork hlive fun heq => by cases heq
  refine h.remain hturn hparts (h.loops.of_turn hturn h0 h1 rfl rfl) ?_ (hlink ▸ h.rightward)
    (hlink ▸ h.leftward) (Or.inr (weight_lt_of_toil hwork htasks rfl htoil))
  refine h.seated.advance_serving hturn hu hfree hut htickets rfl rfl rfl
    (fun _ _ => rfl) (fun seat m hseat hm => ?_)
    (Or.inr (Or.inr (Or.inr ⟨.engine, rfl⟩))) (fun w hw => by cases hw)
    fun seat m w hseat hm hmt hw => Or.inr hm
  cases seat with
  | caller => exact absurd rfl hseat
  | handler =>
    have hseat := hm
    cases hm
    obtain ⟨w, hw, hatw⟩ := h.seated.seated u _ .handler h' hu rfl
    have hht : h' ≠ t := by
      rintro rfl
      have hengine : Ticket.task? ⟨call, .called id h' h' outcome⟩ u .engine = some h' := rfl
      cases (h.seated.unique h.distinct hwork hlive hu hseat hu hengine).2
    exact ⟨w, hturn.keep hht hw, hatw⟩
  | engine =>
    cases hm
    exact ⟨work', hturn.self, hat⟩

/-- An engine call that has come to its outcome ends, and one that takes time goes to sleep. -/
theorem Holds.step_working {h' : TaskId} {next : Engine.Outcome} (h : Holds s e L)
    (hu : L.tickets u = some ⟨call, .called id h' t outcome⟩)
    (hnext : next.ending? call (Message.reply call.operation) =
      outcome.ending? call (Message.reply call.operation))
    (hwork : e.work? t =
      some (.engineCall
        { request := call.sentAs id, blank := Message.reply call.operation
          phase := .working call next })) :
    ∃ L', Accounted s e L t (e.step t).1 L' := by
  have hstep := step_of_work? hwork (h.steady.aborting t)
  have hend : ∀ ending : Engine.Ending,
      outcome.ending? call (Message.reply call.operation) = some ending →
      0 < next.length → (e.step t).1 = e.finish t (.call ending) →
      ∃ L', Accounted s e L t (e.step t).1 L' := by
    intro ending hending hlength hfinish
    rw [hfinish]
    refine ⟨L, h.rework hu hwork (fun _ heq => by cases heq) (tasks_finish _ _ _) ?_
      (parts_finish _ _ _) (.returned hending) hlength⟩
    exact link_finish hwork (fun _ => rfl) (fun side hside => by cases hside) _
  cases next with
  | usual => exact hend _ hnext.symm Nat.one_pos (by rw [hstep]; rfl)
  | ok value => exact hend _ hnext.symm Nat.one_pos (by rw [hstep]; rfl)
  | error reported => exact hend _ hnext.symm Nat.one_pos (by rw [hstep]; rfl)
  | panic text => exact hend _ hnext.symm Nat.one_pos (by rw [hstep]; rfl)
  | never =>
    rw [hstep]
    exact ⟨L, h.accounted_of_same ⟨rfl, rfl, rfl⟩⟩
  | after span next =>
    rw [hstep]
    exact ⟨L, h.rework hu hwork (fun _ heq => by cases heq) rfl rfl rfl (.sleeping hnext)
      (Nat.lt_succ_self _)⟩

/-- An engine call that sleeps goes on when it is time. -/
theorem Holds.step_sleeping {h' : TaskId} {next : Engine.Outcome} {moment : Millis}
    (h : Holds s e L) (hu : L.tickets u = some ⟨call, .called id h' t outcome⟩)
    (hnext : next.ending? call (Message.reply call.operation) =
      outcome.ending? call (Message.reply call.operation))
    (hwork : e.work? t =
      some (.engineCall
        { request := call.sentAs id, blank := Message.reply call.operation
          phase := .sleeping moment call next })) :
    ∃ L', Accounted s e L t (e.step t).1 L' := by
  have hstep := step_of_work? hwork (h.steady.aborting t)
  simp only [stepEngineCall] at hstep
  by_cases hnow : moment ≤ e.schedule.now
  · rw [if_pos hnow] at hstep
    rw [hstep]
    exact ⟨L, h.rework hu hwork (fun _ heq => by cases heq) rfl rfl rfl (.working hnext)
      (Nat.lt_succ_self _)⟩
  · rw [if_neg hnow] at hstep
    rw [hstep]
    exact ⟨L, h.accounted_of_same ⟨tasks_sleep e t moment, link_sleep e t moment,
      parts_sleep e t moment⟩⟩

/-! ### All steps -/

/-- Every step of an exchange in service is accounted for. -/
theorem Holds.step (h : Holds s e L) (hsound : s.Sound)
    (hfew : L.callers.length ≤ UInt64.size) (hpunctual : e.Punctual) (hroomy : Roomy s e t) :
    ∃ L', Accounted s e L t (e.step t).1 L' := by
  cases hwork : e.work? t with
  | none =>
    rw [step_of_work?_eq_none hwork]
    exact ⟨L, h.accounted_of_same ⟨rfl, rfl, rfl⟩⟩
  | some work =>
    by_cases hended : ∃ result, work = .ended result
    · obtain ⟨result, rfl⟩ := hended
      rw [step_of_work? hwork (h.steady.aborting t)]
      exact ⟨L, h.accounted_of_same ⟨rfl, rfl, rfl⟩⟩
    · by_cases h0 : t = 0
      · subst h0
        exact h.step_server
      by_cases h1 : t = 1
      · subst h1
        exact h.step_receiver
      obtain ⟨u, ticket, seat, hu, ht, hat⟩ := h.seated.exists_seat hwork
        (fun result heq => hended ⟨result, heq⟩) h0 h1
      obtain ⟨call, place⟩ := ticket
      cases hat with
      | departing timeout =>
        cases ht
        exact h.step_departing hsound hfew hroomy hu hwork
      | sending hrest hreads =>
        cases ht
        exact h.step_sending hu hrest hreads hwork
      | waiting hplace =>
        cases ht
        exact h.step_waiting hpunctual hu hplace hwork
      | done hresult => exact absurd ⟨_, rfl⟩ hended
      | accepted =>
        cases ht
        exact h.step_accepted hsound hu hwork
      | joining hplace =>
        have hhandler := hplace
        rcases hhandler with rfl | ⟨outcome, rfl⟩ <;> cases ht <;>
          exact h.step_joining hsound hroomy hu hplace hwork
      | replying hreply hrest hreads =>
        cases ht
        exact h.step_replying hu hreply hrest hreads hwork
      | starting =>
        cases ht
        exact h.step_calling hu hwork
      | working hnext =>
        cases ht
        exact h.step_working hu hnext hwork
      | sleeping hnext =>
        cases ht
        exact h.step_sleeping hu hnext hwork
      | returned hending => exact absurd ⟨_, rfl⟩ hended

end Parley.Exchange
