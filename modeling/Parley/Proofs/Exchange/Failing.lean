/-
# Failures told by replies

However the handling of a request goes, the reply holds a failure exactly when something went
wrong, it holds nothing else of the handling then, and the failure is the one that tells what
went wrong (`reply_tells`).  Nobody who checks such a reply takes a failure for a success or a
success for a failure, neither before the reply was sent nor after.
-/

import Mathlib
import Parley.Proofs.Engine.Mishap
import Parley.Proofs.Exchange.Outcomes
import Parley.Proofs.Frame.Exact

namespace Parley

/-! ### What replies tell -/

namespace Message

/-- What a client's call makes of a reply: the class comes first, then the check. -/
theorem answer_ok (call : Client.Call) (reply : Message) :
    call.answer (.ok reply) =
      if reply.messageClass = call.replyClass then reply.check >>= fun _ => call.read reply
      else .error (.unexpectedMessage reply.tag) := by
  unfold Client.Call.answer downcast
  by_cases hclass : reply.messageClass = call.replyClass
  · simp only [ok_bind, if_pos hclass]
  · simp only [ok_bind, if_neg hclass, error_bind]

/-- A failure that is written into an empty reply. -/
theorem tells_setFailure {blank : Message} (hempty : blank.bag = .empty) (mishap : Engine.Mishap)
    (id : Int64) : ((blank.setFailure (some mishap.failure)).setRequestId id).Tells (some mishap) := by
  have hfailure := mishap.isFailure_failure
  have hget : ∀ key, ((blank.setFailure (some mishap.failure)).setRequestId id).bag.get? key =
      if key = Bag.requestIdKey then some (some (Decimal.intText id.toInt))
      else if key = Bag.failureKey then some (some mishap.failure.json.text) else none := by
    intro key
    simp only [setRequestId, setFailure, Bag.setFailure, Bag.setInt64, hfailure, if_true,
      Bag.get?_insert, hempty, Bag.get?_empty]
  have hread := Message.failure_setFailure hfailure blank id
  have hcheck : ((blank.setFailure (some mishap.failure)).setRequestId id).check =
      .error (.remote mishap.failure) := by
    rw [check, hread]
  refine ⟨?_, fun _ key => ?_, hread, ?_, fun hnone => absurd hnone (Option.some_ne_none mishap)⟩
  · rw [hget]
    rfl
  · rw [hget]
    by_cases hid : key = Bag.requestIdKey
    · simp [hid]
    · rw [if_neg hid]
      by_cases hkey : key = Bag.failureKey <;> simp [hid, hkey]
  · rintro other heq
    cases heq
    refine ⟨hcheck, by rw [intoResult, hcheck]; rfl, fun call => ?_⟩
    rw [answer_ok, hcheck, error_bind]
    split <;> rfl

/-- A reply into which no failure was written. -/
theorem tells_none {reply : Message} (hnone : reply.bag.get? Bag.failureKey = none) (id : Int64) :
    (reply.setRequestId id).Tells none := by
  have hget : (reply.setRequestId id).bag.get? Bag.failureKey = none := by
    have hkeys : Bag.failureKey ≠ Bag.requestIdKey := by decide
    simp only [setRequestId, Bag.setInt64, Bag.get?_insert, if_neg hkeys, hnone]
  have hread : (reply.setRequestId id).failure = .ok none :=
    Bag.failure_of_none (by rw [Bag.text?, hget]; rfl)
  have hcheck : (reply.setRequestId id).check = .ok () := by
    rw [check, hread]
  refine ⟨?_, fun hsome => absurd hsome Bool.false_ne_true, hread,
    fun mishap hsome => absurd hsome.symm (Option.some_ne_none mishap),
    fun _ => ⟨hcheck, by rw [intoResult, hcheck]; rfl, fun call => ?_⟩⟩
  · rw [hget]
    rfl
  · have hanswer := answer_ok call (reply.setRequestId id)
    rw [hcheck, ok_bind] at hanswer
    refine ⟨hanswer, fun failure hremote => ?_⟩
    rw [hanswer] at hremote
    split at hremote
    · cases Finds.read call _ _ hremote
    · cases hremote

end Message

/-- A job whose blank form is an empty reply comes to a reply that tells what its outcome
amounts to, and otherwise is what the blank form says. -/
theorem Dispatcher.exists_reply_tells {job : Job} {outcome : Except Failure Message}
    {mishap? : Option Engine.Mishap} (hreply : job.blank.isReply = true)
    (hempty : job.blank = job.blank.blank) (h : Amounts job.blank outcome mishap?) :
    ∃ reply, job.reply outcome = .ok reply ∧ reply.Tells mishap? ∧ reply.blank = job.blank ∧
      reply.requestId = job.id := by
  have hbag : job.blank.bag = .empty := by
    rw [hempty]
    rfl
  have hhas : job.blank.hasRequestId = true := Message.hasRequestId_of_isReply hreply
  cases mishap? with
  | some mishap =>
    obtain rfl : outcome = .error mishap.failure := h
    refine ⟨_, Job.reply_error hreply _, Message.tells_setFailure hbag mishap job.id,
      hempty.symm, ?_⟩
    exact Message.requestId_setRequestId (m := job.blank.setFailure _) hhas job.id
  | none =>
    obtain ⟨reply, rfl, hblank, hnone⟩ := h
    rw [hbag, Bag.get?_empty] at hnone
    have hrole : reply.role = job.blank.role := by
      change reply.blank.role = job.blank.blank.role
      rw [hblank]
    have hreplyHas : reply.hasRequestId = true := by
      rw [Message.hasRequestId, hrole]
      exact hhas
    refine ⟨reply.setRequestId job.id, ?_, Message.tells_none hnone job.id,
      hblank.trans hempty.symm, Message.requestId_setRequestId hreplyHas job.id⟩
    simp only [Job.reply, ok_bind, hreplyHas, if_true]

namespace Exchange

variable {e : Exchange} {t c : TaskId} {request blank : Message} {script : Engine.Script}
  {course : Course} {phase : HandlerPhase}

/-! ### One thing has become of a request -/

/-- Only cancel requests go the way of cancellation. -/
theorem tag_of_route {tag : Tag} (h : Dispatcher.route tag = .cancel) :
    tag = .request .cancel := by
  cases tag with
  | request op => cases op <;> first | rfl | cases h
  | _ => cases h

/-- No two things have become of a request. -/
theorem Handled.unique {mishap? other? : Option Engine.Mishap}
    (h : Handled script course request blank phase mishap?)
    (h' : Handled script course request blank phase other?) : mishap? = other? := by
  cases h with
  | acknowledged hroute =>
    cases h' with
    | acknowledged => rfl
    | cancelled htag =>
      rw [htag] at hroute
      cases hroute
  | cancelled htag =>
    cases h' with
    | acknowledged hroute =>
      rw [htag] at hroute
      cases hroute
    | cancelled => rfl
  | refused hended hnone hrefuses =>
    cases h' with
    | refused _ _ hrefuses' => rw [hrefuses.unique hrefuses']
    | aborted hended' => cases hended.symm.trans hended'
    | called _ _ houtcome => cases hnone.symm.trans houtcome
  | aborted hended =>
    cases h' with
    | aborted => rfl
    | refused hended' | called hended' => cases hended.symm.trans hended'
  | called hended hcall houtcome hcomes =>
    cases h' with
    | refused _ hnone => cases houtcome.symm.trans hnone
    | aborted hended' => cases hended.symm.trans hended'
    | called _ _ houtcome' hcomes' =>
      cases houtcome.symm.trans houtcome'
      cases hcomes.symm.trans hcomes'
      rfl

/-- Something has become of a request whose handler comes to its reply, and the outcome of its
job amounts to it. -/
theorem Course.Grounded.exists_handled (h : Course.Grounded script course) {handler : Handler}
    {job : Dispatcher.Job} (hwork : course.exchange.work? t = some (.handler handler))
    (haccept : course.exchange.dispatcher.accept handler.request = .ok job)
    {result : Except Fault Message} (hresult : course.exchange.replyAt? t = some result) :
    ∃ outcome mishap?, result = job.reply outcome ∧
      Handled script course handler.request job.blank handler.phase mishap? ∧
      Dispatcher.Amounts job.blank outcome mishap? := by
  obtain ⟨request, purpose, phase⟩ := handler
  cases phase with
  | starting =>
    rw [replyAt?_of_starting hwork, replyAtOnce?, haccept] at hresult
    cases hroute : Dispatcher.route request.tag with
    | acknowledge =>
      simp only [hroute, Option.some.injEq] at hresult
      exact ⟨_, _, hresult.symm, .acknowledged hroute, Dispatcher.amounts_blank _⟩
    | cancel =>
      simp only [hroute, Option.some.injEq] at hresult
      exact ⟨_, _, hresult.symm, .cancelled (tag_of_route hroute),
        Dispatcher.amounts_cancelRunning _ request job⟩
    | engine =>
      simp only [hroute] at hresult
      cases hresult
  | joining job' c tracked =>
    obtain ⟨haccept', henacts⟩ := h.joins t request purpose job' c tracked hwork
    cases haccept.symm.trans haccept'
    rw [replyAt?_of_joining hwork] at hresult
    obtain ⟨ending, hending, rfl⟩ := Option.map_eq_some_iff.1 hresult
    generalize hcalling : course.exchange.work? c = calling at henacts
    cases henacts with
    | starting | working | sleeping =>
      rw [endingOf?, ended?, hcalling] at hending
      cases hending
    | refused error hmade hcall =>
      cases (endingOf?_of_call hcalling).symm.trans hending
      obtain ⟨mishap, hrefuses, hfailure⟩ := Engine.Call.refuses_of_ofRequest hcall
      exact ⟨_, _, rfl, .refused (ended?_of_work? hcalling) hmade hrefuses,
        congrArg Except.error hfailure⟩
    | ended call outcome ending' hmade hcall hends =>
      cases (endingOf?_of_call hcalling).symm.trans hending
      obtain ⟨came, hcomes, hamounts⟩ := Dispatcher.amounts_of_ending? hends
      exact ⟨_, _, rfl, .called (ended?_of_work? hcalling) hcall hmade hcomes, hamounts⟩
    | aborted =>
      cases (endingOf?_of_aborted hcalling).symm.trans hending
      exact ⟨_, _, rfl, .aborted (ended?_of_work? hcalling), rfl⟩
  | transmitting rest =>
    rw [replyAt?, hwork] at hresult
    cases hresult

/-- A dispatch ends with the reply that its handler has come to. -/
theorem replyAt?_of_ended? {handler : Handler} (hfree : e.aborting t = false)
    (hdispatches : e.dispatches t = true)
    (hwork : e.work? t = some (.handler handler)) (hpurpose : handler.purpose = .reply)
    {result : Except Fault Message} (hended : (e.step t).1.ended? t = some (.reply result)) :
    e.replyAt? t = some result := by
  cases hreply : e.replyAt? t with
  | none =>
    rcases step_of_replyAt?_eq_none hfree hdispatches hreply with
      ⟨h, job, hhandler, -, -, hstep⟩ | ⟨h, hhandler, -, hstep⟩
    · rw [hstep, ended?, work?_forward job hhandler, if_pos rfl] at hended
      cases hended
    · rw [hstep, ended?, hhandler] at hended
      cases hended
  | some reply =>
    obtain ⟨request, purpose, phase⟩ := handler
    obtain rfl : purpose = .reply := hpurpose
    cases (ended?_of_work? (work?_step_of_replyAt? hfree hwork hreply)).symm.trans hended
    rfl

/-- The codec stays what it is all along a course. -/
theorem Course.codec_run (course : Course) (events : List Event) :
    (course.run events).exchange.dispatcher.codec = course.exchange.dispatcher.codec := by
  induction events generalizing course with
  | nil => rfl
  | cons event events ih =>
    have hnext := ih (course.next event)
    rw [exchange_next, codec_happen] at hnext
    exact hnext

/-- In every course of an exchange whose registry makes empty messages, a dispatch of a request
that expects a reply comes to a reply whatever becomes of the request.  The reply holds a
failure exactly when something went wrong, then it holds nothing else but the id, and the
failure is the one that tells what went wrong; nobody takes it for a success, nor a success
for a failure.  The same holds of the reply that is read off its frame, which is the same
message.  A dispatch that hands its reply over ends with this one. -/
theorem reply_tells (e : Exchange) (hfresh : Fresh e)
    (hempty : e.dispatcher.codec.registry.StartsEmpty) (events : List Event) :
    let course := Course.run { exchange := e } events
    let now := course.exchange
    ∀ t handler expected blank, now.work? t = some (.handler handler) →
      handler.request.expectedReply? = some expected →
      e.dispatcher.codec.registry.template? expected = some blank → blank.isReply = true →
      (∀ result, now.replyAt? t = some result →
        ∃ reply, result = .ok reply ∧ reply.requestId = handler.request.requestId ∧
          (∃ mishap?, Handled e.engine course handler.request blank handler.phase mishap?) ∧
          (∀ mishap?, Handled e.engine course handler.request blank handler.phase mishap? →
            reply.Tells mishap?) ∧
          (Frame.bodySize reply ≤ e.dispatcher.codec.maxFrameSize →
            ∃ frame, e.dispatcher.codec.encode reply = .ok frame) ∧
          ∀ frame, e.dispatcher.codec.encode reply = .ok frame →
            e.dispatcher.codec.decode frame = .ok reply) ∧
      (handler.purpose = .reply → now.dispatches t = true → now.aborting t = false →
        ∀ result, (now.step t).1.ended? t = some (.reply result) →
          now.replyAt? t = some result) := by
  intro course now t handler expected blank hwork hexpected hbound hreply
  refine ⟨fun result hresult => ?_, fun hpurpose hdispatches hfree result hended => ?_⟩
  · have hgrounded : Course.Grounded e.engine course := (Course.Grounded.of_fresh hfresh).run events
    have hcodec : now.dispatcher.codec = e.dispatcher.codec := Course.codec_run _ events
    let job : Dispatcher.Job := ⟨handler.request.requestId, blank⟩
    have haccept : now.dispatcher.accept handler.request = .ok job :=
      Dispatcher.accept_eq_ok hexpected (by rw [hcodec]; exact hbound)
    obtain ⟨outcome, mishap?, hjob, hhandled, hamounts⟩ :=
      hgrounded.exists_handled hwork haccept hresult
    have hblank : job.blank = job.blank.blank := hempty.eq_blank hbound
    obtain ⟨reply, heq, htells, hform, hid⟩ :=
      Dispatcher.exists_reply_tells hreply hblank hamounts
    refine ⟨reply, hjob.trans heq, hid, ⟨mishap?, hhandled⟩, fun other? hother => ?_,
      fun hsize => ⟨_, Codec.encode_eq_ok.2 ⟨hsize, rfl⟩⟩, fun frame hframe => ?_⟩
    · rw [hother.unique hhandled]
      exact htells
    · refine Codec.decode_of_encode ?_ hframe
      have htag : reply.tag = expected := by
        rw [← Registry.tag_of_template? hbound]
        change reply.blank.tag = blank.tag
        rw [hform]
      rw [htag, hbound, hform]
  · exact replyAt?_of_ended? hfree hdispatches hwork hpurpose hended

/-- An error without a kind. -/
def kindless : Engine.Error where
  kind := .none
  text := "no such domain"
  details := some "cluster a"

/-- An exchange whose engine describes no domain. -/
def unknowing : Exchange :=
  { idle with engine := { outcomes := [(.describeDomain, [.error kindless])] } }

/-- Task 0 waits for its call, task 1, which has ended. -/
def described : List Event :=
  [.start (.handler (describing 7) .reply), .step 0, .step 1, .step 1]

/-- The reply tells of a generic failure with the text and the details of the error. -/
theorem reply_tells_kindless :
    let course := Course.run { exchange := unknowing } described
    Fresh unknowing ∧ unknowing.dispatcher.codec.registry.StartsEmpty ∧
      ∃ reply, course.exchange.replyAt? 0 = some (.ok reply) ∧
        reply.failure =
          .ok (some { kind := .generic, text := "no such domain", details := some "cluster a" }) := by
  intro course
  have hfresh : Fresh unknowing := ⟨rfl, rfl⟩
  have hempty : unknowing.dispatcher.codec.registry.StartsEmpty := Registry.startsEmpty_standard
  have hwork : course.exchange.work? 0 = some (.handler
      { request := describing 7, purpose := .reply
        phase := .joining ⟨7, Message.reply .describeDomain⟩ 1 true }) := by cbv
  have hbound : unknowing.dispatcher.codec.registry.template? (.reply .describeDomain) =
      some (Message.reply .describeDomain) := Registry.template?_standard_reply .describeDomain
  obtain ⟨result, hresult⟩ := Option.isSome_iff_exists.1
    (show (course.exchange.replyAt? 0).isSome = true by decide +kernel)
  obtain ⟨htold, -⟩ := reply_tells unknowing hfresh hempty described 0 _ _ _ hwork rfl hbound rfl
  obtain ⟨reply, rfl, -, -, htells, -⟩ := htold result hresult
  have hended : course.exchange.ended? 1 = some (.call (.returned (.error kindless))) := by cbv
  have hcall : Engine.Call.ofRequest (describing 7) = .ok (.describeDomain "") := rfl
  have houtcome : course.outcomesBy unknowing.engine 1 =
      [(.describeDomain "", .error kindless)] := by cbv
  have hcomes : (Engine.Outcome.error kindless).comesTo? (.describeDomain "") =
      some (.error (.reported kindless)) := rfl
  have hhandled : Handled unknowing.engine course (describing 7) (Message.reply .describeDomain)
      (.joining ⟨7, Message.reply .describeDomain⟩ 1 true) (some (.reported kindless)) :=
    .called hended hcall houtcome hcomes
  exact ⟨hfresh, hempty, reply, hresult, (htells _ hhandled).failure⟩

end Exchange

end Parley
