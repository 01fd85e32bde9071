/-
# What the two ways of a frame have in common

Up to the step in which its handler comes to the reply, a request that is served is handled
as one whose frame was handed over.  The frame of the reply is the same on both ways.  What
differs is the request to shut down: one that is served is heeded also when there is no frame
with which it could be answered.
-/

import Mathlib.Control.Monad.Basic
import Parley.Proofs.Exchange.Purpose
import Parley.Proofs.Link.Lane

namespace Parley

namespace Link

/-- A sink that is released leaves on its way what was sent. -/
theorem bytes_releaseSink (l : Link) (side : Side) :
    ((l.releaseSink side).outward side).bytes = (l.outward side).bytes := by
  unfold releaseSink settleHalves
  cases side <;> dsimp only <;> split <;> split <;>
    first | rfl | exact Lane.bytes_closeSender _

end Link

namespace Exchange

open Parley.Frame (Bytes)

variable {e : Exchange} {t : TaskId} {request : Message} {purpose : Purpose} {sink : Sink}
  {phase : HandlerPhase} {reply : Except Fault Message} {frame : Bytes}

/-- A frame is taken by a sink as a whole: the handler is done, the frame is on its way, and a
request to shut down is heeded. -/
def SendsOut (e : Exchange) (t : TaskId) (request : Message) (sink : Sink) (frame : Bytes) :
    Prop :=
  (e.transmit t sink frame).1 = .sent →
    (e.step t).1.ended? t = some (.loop (.ok ())) ∧
    (∀ side, sink = .link side →
      ((e.step t).1.link.outward side).bytes = (e.link.outward side).bytes ++ frame) ∧
    (e.step t).1.dispatcher.shutdown = (e.dispatcher.shutdown || asksShutdown request)

/-- What the next step of the handler comes to on either way, when it comes to its reply and
this is the frame of the reply, or the reason why there is none. -/
structure Concludes (asked served : Exchange) (t : TaskId) (request : Message) (sink : Sink)
    (outcome : Except Fault Bytes) : Prop where
  /-- The frame is handed over, and a request to shut down is heeded when there is one. -/
  handed : (asked.step t).1.ended? t = some (.frame outcome) ∧
    (asked.step t).1.dispatcher.shutdown =
      (asked.dispatcher.shutdown || (outcome.toBool && asksShutdown request))
  /-- Without a frame nothing is sent, but a request to shut down is heeded all the same. -/
  dropped : ∀ fault, outcome = .error fault →
    (served.step t).1.ended? t = some (.loop (.ok ())) ∧
    (∀ side, sink = .link side →
      ((served.step t).1.link.outward side).bytes = (served.link.outward side).bytes) ∧
    (served.step t).1.dispatcher.shutdown = (served.dispatcher.shutdown || asksShutdown request)
  /-- The very frame is sent, whatever happens before the sink takes it. -/
  sent : ∀ frame, outcome = .ok frame →
    (served.step t).1.link = served.link ∧
    (served.step t).1.dispatcher.shutdown = served.dispatcher.shutdown ∧
    ∀ later, (∀ event ∈ later, event ≠ .step t) →
      ((served.step t).1.follow later).aborting t = false →
      ((served.step t).1.follow later).SendsOut t request sink frame

/-! ### Handlers that are done -/

/-- The end of a task does not shut the dispatcher down. -/
theorem shutdown_finish (e : Exchange) (t : TaskId) (result : Ended) :
    (e.finish t result).dispatcher.shutdown = e.dispatcher.shutdown :=
  congrArg (fun parts : Parts => parts.dispatcher.shutdown) (parts_finish e t result)

/-- A task that is ended has its result. -/
theorem ended?_finish {work : Work} (hwork : e.work? t = some work) (result : Ended) :
    (e.finish t result).ended? t = some result := by
  apply ended?_of_work?
  rw [work?_finish, if_pos rfl, hwork, Option.map_some]

/-- A task that reads from no side leaves on its way what it sent. -/
theorem bytes_releaseSide {work : Work} (hreads : ∀ side, work.readsFrom side = false)
    {side : Link.Side} (hsends : ∀ other, work.sendsTo other = true → other = side)
    (other : Link.Side) :
    ((e.releaseSide work other).link.outward side).bytes = (e.link.outward side).bytes := by
  have hreads' : ¬ work.readsFrom other = true := by simp [hreads]
  rw [releaseSide, if_neg hreads']
  split
  next hlast =>
    rw [Bool.and_eq_true] at hlast
    rw [hsends other hlast.1]
    exact Link.bytes_releaseSink e.link side
  next => rfl

/-- The end of a task leaves what is on its way to a side as it is. -/
theorem bytes_finish {work : Work} (hwork : e.work? t = some work)
    (hreads : ∀ side, work.readsFrom side = false)
    {side : Link.Side} (hsends : ∀ other, work.sendsTo other = true → other = side)
    (result : Ended) :
    ((e.finish t result).link.outward side).bytes = (e.link.outward side).bytes := by
  let ended : Exchange :=
    { e.setWork t (.ended result) with schedule := e.schedule.forget t }
  have hleft : ((ended.releaseSide work .left).link.outward side).bytes =
      (e.link.outward side).bytes := bytes_releaseSide hreads hsends .left
  have hright := bytes_releaseSide (e := ended.releaseSide work .left) hreads hsends .right
  rw [finish, hwork]
  exact hright.trans hleft

/-- A handler that sends its reply is done. -/
theorem endSending_spec {h : Handler} (e : Exchange) (hwork : e.work? t = some (.handler h))
    (hpurpose : h.purpose = .send sink) (h' : Handler) (hrequest : h'.request = request) :
    (e.endSending t h').ended? t = some (.loop (.ok ())) ∧
    (∀ side, sink = .link side →
      ((e.endSending t h').link.outward side).bytes = (e.link.outward side).bytes) ∧
    (e.endSending t h').dispatcher.shutdown = (e.dispatcher.shutdown || asksShutdown request) := by
  have hfinish : ∀ e' : Exchange, e'.work? t = some (.handler h) → e'.link = e.link →
      (e'.finish t (.loop (.ok ()))).ended? t = some (.loop (.ok ())) ∧
      ∀ side, sink = .link side →
        ((e'.finish t (.loop (.ok ()))).link.outward side).bytes =
          (e.link.outward side).bytes := by
    intro e' hwork' hlink
    refine ⟨ended?_finish hwork' _, ?_⟩
    rintro side rfl
    rw [← hlink]
    refine bytes_finish hwork' (fun _ => rfl) (fun other hother => ?_) _
    rw [sendsTo_handler, hpurpose] at hother
    exact (beq_iff_eq.1 hother).symm
  rw [endSending, hrequest]
  cases hasks : asksShutdown request with
  | true =>
    obtain ⟨hended, hbytes⟩ := hfinish e.setShutdown hwork rfl
    refine ⟨hended, hbytes, ?_⟩
    rw [Bool.or_true]
    exact shutdown_finish _ _ _
  | false =>
    obtain ⟨hended, hbytes⟩ := hfinish e hwork rfl
    refine ⟨hended, hbytes, ?_⟩
    rw [Bool.or_false]
    exact shutdown_finish _ _ _

/-! ### The step in which the handler comes to its reply -/

/-- A handler that hands the frame of its reply over. -/
theorem handed_of_replyAt? (hfree : e.aborting t = false)
    (hwork : e.work? t = some (.handler { request, purpose := .frame, phase }))
    (hreply : e.replyAt? t = some reply) :
    let outcome := reply.bind e.dispatcher.codec.encode
    (e.step t).1.ended? t = some (.frame outcome) ∧
    (e.step t).1.dispatcher.shutdown =
      (e.dispatcher.shutdown || (outcome.toBool && asksShutdown request)) := by
  obtain ⟨handler, e', hhandler, hpoised, hstep⟩ := step_of_replyAt? hfree hreply
  cases hwork.symm.trans hhandler
  have hwork' := (hpoised.work t).trans hwork
  rw [hstep]
  simp only [conclude, hpoised.codec]
  generalize reply.bind e.dispatcher.codec.encode = outcome
  by_cases hheeded : (outcome.toBool && asksShutdown request) = true
  · rw [if_pos hheeded, hheeded, Bool.or_true]
    exact ⟨ended?_finish (e := e'.setShutdown) hwork' _, shutdown_finish _ _ _⟩
  · rw [if_neg hheeded, Bool.eq_false_iff.2 hheeded, Bool.or_false, ← hpoised.shutdown]
    exact ⟨ended?_finish hwork' _, shutdown_finish _ _ _⟩

/-- A handler that has no frame to send. -/
theorem dropped_of_replyAt? {fault : Fault} (hfree : e.aborting t = false)
    (hwork : e.work? t = some (.handler { request, purpose := .send sink, phase }))
    (hreply : e.replyAt? t = some reply)
    (hfault : reply.bind e.dispatcher.codec.encode = .error fault) :
    (e.step t).1.ended? t = some (.loop (.ok ())) ∧
    (∀ side, sink = .link side →
      ((e.step t).1.link.outward side).bytes = (e.link.outward side).bytes) ∧
    (e.step t).1.dispatcher.shutdown = (e.dispatcher.shutdown || asksShutdown request) := by
  obtain ⟨handler, e', hhandler, hpoised, hstep⟩ := step_of_replyAt? hfree hreply
  cases hwork.symm.trans hhandler
  rw [hstep, ← hpoised.link, ← hpoised.shutdown]
  simp only [conclude, hpoised.codec, hfault]
  exact endSending_spec e' ((hpoised.work t).trans hwork) rfl _ rfl

/-- A handler that has a frame to send. -/
theorem sending_of_replyAt? {frame : Bytes} (hfree : e.aborting t = false)
    (hwork : e.work? t = some (.handler { request, purpose := .send sink, phase }))
    (hreply : e.replyAt? t = some reply)
    (hframe : reply.bind e.dispatcher.codec.encode = .ok frame) :
    (e.step t).1.work? t =
      some (.handler { request, purpose := .send sink, phase := .transmitting frame }) ∧
    (e.step t).1.link = e.link ∧
    (e.step t).1.dispatcher.shutdown = e.dispatcher.shutdown := by
  obtain ⟨handler, e', hhandler, hpoised, hstep⟩ := step_of_replyAt? hfree hreply
  cases hwork.symm.trans hhandler
  rw [hstep, ← hpoised.link, ← hpoised.shutdown]
  simp only [conclude, hpoised.codec, hframe]
  refine ⟨?_, rfl, rfl⟩
  rw [work?_setWork, if_pos rfl, hpoised.work, hwork, Option.map_some]

/-- What a side of the link takes as a whole is on its way. -/
theorem bytes_transmit {side : Link.Side}
    (hsent : (e.transmit t (.link side) frame).1 = .sent) :
    ((e.transmit t (.link side) frame).2.link.outward side).bytes =
      (e.link.outward side).bytes ++ frame := by
  rw [← Link.Lane.bytes_of_send hsent]
  cases side <;> rfl

/-- A handler that sends its frame to a sink that takes it. -/
theorem sendsOut_of_transmitting (hfree : e.aborting t = false)
    (hwork : e.work? t =
      some (.handler { request, purpose := .send sink, phase := .transmitting frame })) :
    e.SendsOut t request sink frame := by
  intro hsent
  have hafter := (work?_transmit e t sink frame t).trans hwork
  have hshutdown : (e.transmit t sink frame).2.dispatcher.shutdown = e.dispatcher.shutdown :=
    congrArg (fun parts : Parts => parts.dispatcher.shutdown) (parts_transmit e t sink frame)
  have hstep : (e.step t).1 = (e.transmit t sink frame).2.endSending t
      { request, purpose := .send sink, phase := .transmitting frame } := by
    rw [step_of_work? hwork hfree]
    simp only [stepHandler]
    generalize e.transmit t sink frame = transmitted at hsent ⊢
    obtain ⟨attempt, e'⟩ := transmitted
    obtain rfl : attempt = .sent := hsent
    rfl
  obtain ⟨hended, hbytes, hheeded⟩ :=
    endSending_spec (e.transmit t sink frame).2 hafter rfl
      { request, purpose := .send sink, phase := .transmitting frame } rfl
  rw [hstep, ← hshutdown]
  refine ⟨hended, fun side hside => ?_, hheeded⟩
  rw [hbytes side hside]
  subst hside
  exact bytes_transmit hsent

/-- A task that takes no steps stays where it is. -/
theorem work?_follow_of_ne {events : List Event} (hlt : t < e.tasks.length)
    (hne : ∀ event ∈ events, event ≠ .step t) : (e.follow events).work? t = e.work? t := by
  induction events generalizing e with
  | nil => rfl
  | cons event events ih =>
    have hlt' := Nat.lt_of_lt_of_le hlt (length_le_happen e event)
    have hfirst := work?_happen_of_ne (hne event List.mem_cons_self) hlt
    exact (ih hlt' fun event' h => hne event' (List.mem_cons_of_mem _ h)).trans hfirst

/-! ### The two ways -/

/-- A task that is added is at its work. -/
theorem work?_spawn_self (e : Exchange) (work : Work) :
    (e.spawn work).2.work? e.tasks.length = some work :=
  (work?_of_append rfl _).trans (if_pos rfl)

/-- To change the last entry is to add another one. -/
theorem modify_last (tasks : List Task) (task : Task) (f : Task → Task) :
    (tasks ++ [task]).modify tasks.length f = tasks ++ [f task] := by
  induction tasks with
  | nil => rfl
  | cons first tasks ih =>
    rw [List.cons_append, List.length_cons, List.modify_succ_cons, ih, List.cons_append]

/-- The ways of a frame begin alike but for the purpose of the handler. -/
theorem serveFrame_eq (hrequest : e.dispatcher.codec.decode frame = .ok request) (sink : Sink) :
    e.serveFrame frame sink =
      (e.dispatchFrame frame).2.withPurpose e.tasks.length (.send sink) := by
  simp only [serveFrame, dispatchFrame, hrequest, spawn, withPurpose, modify_last]
  rfl

/-- The handler of a frame that is handed over. -/
theorem work?_dispatchFrame (hrequest : e.dispatcher.codec.decode frame = .ok request) :
    (e.dispatchFrame frame).2.work? e.tasks.length =
      some (.handler { request, purpose := .frame }) := by
  simp only [dispatchFrame, hrequest]
  exact work?_spawn_self e _

/-- A frame that has arrived at a server is served. -/
theorem stepServer_eq_serveFrame {s : Server} {source : Source} {e' : Exchange}
    (hgoes : (e.stopped || e.dispatcher.shutdown) = false)
    (harrive : e.arrive s.source = (.frame frame, source, e')) :
    (e.stepServer t s).1 =
      (e'.setWork t (.server { s with source })).serveFrame frame s.sink := by
  simp only [stepServer, hgoes, harrive, serveFrame]
  cases (e'.setWork t (.server { s with source })).dispatcher.codec.decode frame <;> rfl

/-- On both ways a handler comes to its reply in the same step. -/
theorem concludes_withPurpose (hfree : e.aborting t = false)
    (hwork : e.work? t = some (.handler { request, purpose := .frame, phase }))
    (hreply : e.replyAt? t = some reply) (sink : Sink) :
    e.Concludes (e.withPurpose t (.send sink)) t request sink
      (reply.bind e.dispatcher.codec.encode) := by
  have hfree' := (aborting_withPurpose e t (.send sink) t).trans hfree
  have hwork' : (e.withPurpose t (.send sink)).work? t =
      some (.handler { request, purpose := .send sink, phase }) := by
    rw [work?_withPurpose, if_pos rfl, hwork]
    rfl
  have hreply' := (replyAt?_withPurpose (e := e) (t := t) (p := .send sink)).trans hreply
  refine ⟨handed_of_replyAt? hfree hwork hreply, fun fault hfault => ?_,
    fun frame hframe => ?_⟩
  · exact dropped_of_replyAt? hfree' hwork' hreply' hfault
  · obtain ⟨hsending, hlink, hshutdown⟩ := sending_of_replyAt? hfree' hwork' hreply' hframe
    refine ⟨hlink, hshutdown, fun later hne hfreeLater => ?_⟩
    apply sendsOut_of_transmitting hfreeLater
    rw [work?_follow_of_ne (lt_of_work? hsending) hne, hsending]

/-- A frame that is handed over and one that is served come to the same, but for requests to
shut down.  A frame without a request is given back or dropped.  Otherwise the handler of
the request goes the same way whatever else happens meanwhile, and when it comes to its reply,
the frame that is handed over is the frame that is sent; nothing is sent when there is none.
A request to shut down that is served is heeded then as well. -/
theorem frame_ways (e : Exchange) (frame : Bytes) (sink : Sink) :
    let t := e.tasks.length
    let asked := (e.dispatchFrame frame).2
    let served := e.serveFrame frame sink
    (∀ fault, e.dispatcher.codec.decode frame = .error fault →
      asked.ended? t = some (.frame (.error fault)) ∧ asked.dispatcher = e.dispatcher ∧
      served = e) ∧
    ∀ request, e.dispatcher.codec.decode frame = .ok request →
      ∀ events, (asked.follow events).dispatches t = true →
        (asked.follow events).aborting t = false →
        asked.KeepsSink (.send sink) t events →
        served.follow events = (asked.follow events).withPurpose t (.send sink) ∧
        ∀ reply, (asked.follow events).replyAt? t = some reply →
          (asked.follow events).Concludes (served.follow events) t request sink
            (reply.bind (asked.follow events).dispatcher.codec.encode) := by
  intro t asked served
  refine ⟨fun fault hfault => ?_, fun request hrequest events hgoes hfree hsink => ?_⟩
  · have hasked : asked = (e.spawn (.ended (.frame (.error fault)))).2 := by
      simp only [asked, dispatchFrame, hfault]
    rw [hasked]
    exact ⟨ended?_of_work? (work?_spawn_self e _), rfl, by simp only [served, serveFrame, hfault]⟩
  · have hwork : asked.work? t = some (.handler { request, purpose := .frame }) :=
      work?_dispatchFrame hrequest
    have hown : asked.HoldsNoSink t := by
      intro side
      rw [hwork]
      rfl
    have hbegin : served = asked.withPurpose t (.send sink) := serveFrame_eq hrequest sink
    have hserved : served.follow events = (asked.follow events).withPurpose t (.send sink) := by
      rw [hbegin]
      exact follow_withPurpose (lt_of_work? hwork) hown hgoes hsink
    obtain ⟨phase, hnow⟩ := work?_follow_of_dispatches hwork hgoes
    refine ⟨hserved, fun reply hreply => ?_⟩
    rw [hserved]
    exact concludes_withPurpose hfree hnow hreply sink

/-- The frame of a request to shut down. -/
def terminating : Bytes :=
  Frame.word 12 ++ Frame.word 5 ++ Frame.word 0 ++ Frame.word 0

/-- An exchange that knows these messages only. -/
def versed (bindings : List Message) : Exchange :=
  { idle with dispatcher := { codec := .new { bindings } } }

/-- A frame that asks to shut down goes both ways. -/
theorem frame_ways_terminating :
    let e := versed [Message.request .terminate, Message.reply .terminate]
    let asked := (e.dispatchFrame terminating).2
    let served := e.serveFrame terminating (.link .right)
    let events : List Event := [.pass 1]
    ∃ request reply,
      e.dispatcher.codec.decode terminating = .ok request ∧
      (asked.follow events).dispatches 0 = true ∧ (asked.follow events).aborting 0 = false ∧
      asked.KeepsSink (.send (.link .right)) 0 events ∧
      (asked.follow events).replyAt? 0 = some (.ok reply) ∧
      (asked.follow events).Concludes (served.follow events) 0 request (.link .right)
        ((asked.follow events).dispatcher.codec.encode reply) := by
  intro e asked served events
  have hrequest : e.dispatcher.codec.decode terminating =
      .ok (Message.request .terminate) := by decide +kernel
  have hgoes : (asked.follow events).dispatches 0 = true := by decide +kernel
  have hfree : (asked.follow events).aborting 0 = false := by decide +kernel
  have hsink : asked.KeepsSink (.send (.link .right)) 0 events :=
    ⟨nofun, trivial⟩
  have hreply : (asked.follow events).replyAt? 0 =
      some (.ok ((Message.reply .terminate).setRequestId 0)) := by decide +kernel
  exact ⟨_, _, hrequest, hgoes, hfree, hsink, hreply,
    ((frame_ways e terminating (.link .right)).2 _ hrequest events hgoes hfree hsink).2 _
      hreply⟩

/-- An exchange that can read a request to shut down has no reply for it when it does not
know the reply.  Then the request is no reason to shut down when its frame is handed over,
and it is one when it is served, although nothing is sent. -/
theorem shutdown_terminating :
    let e := versed [Message.request .terminate]
    let asked := ((e.dispatchFrame terminating).2.step 0).1
    let served := ((e.serveFrame terminating (.link .right)).step 0).1
    asked.ended? 0 = some (.frame (.error (.unknownTag 6))) ∧ asked.dispatcher.shutdown = false ∧
      served.ended? 0 = some (.loop (.ok ())) ∧ (served.link.outward .right).bytes = [] ∧
      served.dispatcher.shutdown = true := by
  intro e asked served
  have hrequest : e.dispatcher.codec.decode terminating =
      .ok (Message.request .terminate) := by decide +kernel
  have hreply : (e.dispatchFrame terminating).2.replyAt? 0 =
      some (.error (.unknownTag 6)) := by decide +kernel
  have hfree : (e.dispatchFrame terminating).2.aborting 0 = false := by decide +kernel
  have hways := concludes_withPurpose hfree (work?_dispatchFrame hrequest) hreply (.link .right)
  have hserved : e.serveFrame terminating (.link .right) =
      (e.dispatchFrame terminating).2.withPurpose 0 (.send (.link .right)) :=
    serveFrame_eq hrequest _
  obtain ⟨hended, hheeded⟩ := hways.handed
  obtain ⟨hdone, hbytes, hshutdown⟩ := hways.dropped _ rfl
  rw [← hserved] at hdone hbytes hshutdown
  exact ⟨hended, hheeded, hdone, hbytes .right rfl, hshutdown⟩

end Exchange

end Parley
