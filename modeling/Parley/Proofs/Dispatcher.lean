/-
# Replies of a dispatcher

What is read off a request as a call has the operation of its tag, and a job comes to a
reply of the type of its blank form, whatever its outcome.
-/

import Parley.Dispatcher
import Parley.Proofs.Outcome
import Parley.Proofs.Typed

namespace Parley

namespace Engine.Call

/-- What the engine is called with is what the properties of the request say, and the class
of the request is the one of its tag. -/
theorem ofRequest_eq_ok {request : Message} {call : Call} (h : ofRequest request = .ok call) :
    ∃ op, request.tag = .request op ∧ request.messageClass = .request op ∧
      ofBag? op request.bag = some (.ok call) := by
  unfold ofRequest at h
  split at h
  next op htag =>
    cases hbag : ofBag? op request.bag with
    | none => simp [hbag] at h
    | some outcome =>
      by_cases hclass : request.messageClass = .request op
      · simp only [hbag, Message.downcast, if_pos hclass] at h
        cases outcome with
        | error fault => cases h
        | ok read =>
          cases h
          exact ⟨op, htag, hclass, hbag⟩
      · simp only [hbag, Message.downcast, if_neg hclass] at h
        cases h
  next => cases h

/-- The call that is read for an operation is a call of that operation. -/
theorem operation_of_ofBag? {op : Operation} {b : Bag} {call : Call}
    (h : ofBag? op b = some (.ok call)) : call.operation = op := by
  cases op with
  | connect => cases h; rfl
  | describeDomain => cases h; rfl
  | registerWorkflow => cases h; rfl
  | registerDomain =>
    obtain ⟨params, -, rfl⟩ := map_eq_ok.1 (Option.some.inj h)
    rfl
  | updateDomain =>
    obtain ⟨params, -, rfl⟩ := map_eq_ok.1 (Option.some.inj h)
    rfl
  | executeWorkflow =>
    obtain ⟨params, -, rfl⟩ := map_eq_ok.1 (Option.some.inj h)
    rfl
  | _ => cases h

/-- Writing a value into a reply changes neither its tag nor its class. -/
theorem answer_eq_ok {call : Call} {value : Value} {blank reply : Message}
    (h : call.answer value blank = .ok reply) :
    reply.tag = blank.tag ∧ reply.role = blank.role := by
  unfold answer at h
  split at h
  · by_cases hclass : blank.messageClass = .reply .describeDomain
    · simp only [Message.downcast, if_pos hclass] at h
      cases h
      exact ⟨rfl, rfl⟩
    · simp only [Message.downcast, if_neg hclass] at h
      cases h
  · by_cases hclass : blank.messageClass = .reply .executeWorkflow
    · simp only [Message.downcast, if_pos hclass] at h
      cases h
      exact ⟨rfl, rfl⟩
    · simp only [Message.downcast, if_neg hclass] at h
      cases h
  · cases h
    exact ⟨rfl, rfl⟩

end Engine.Call

namespace Dispatcher

/-- The outcome of a job, when it is a reply, has the tag and the class of the blank one. -/
def Fits (blank : Message) (outcome : Except Failure Message) : Prop :=
  ∀ reply, outcome = .ok reply → reply.tag = blank.tag ∧ reply.role = blank.role

/-- A failure fits every reply. -/
theorem fits_error (blank : Message) (failure : Failure) : Fits blank (.error failure) := by
  intro reply h
  cases h

/-- A job whose blank form is a reply comes to a reply of the same type with the id of the
job, whatever its outcome. -/
theorem exists_reply {job : Job} {outcome : Except Failure Message}
    (hreply : job.blank.isReply = true) (hfits : Fits job.blank outcome) :
    ∃ reply, job.reply outcome = .ok reply ∧ reply.tag = job.blank.tag ∧
      reply.requestId = job.id := by
  have hhas : job.blank.hasRequestId = true := Message.hasRequestId_of_isReply hreply
  cases outcome with
  | ok reply =>
    obtain ⟨htag, hrole⟩ := hfits reply rfl
    have hreplyHas : reply.hasRequestId = true := by
      rw [Message.hasRequestId, hrole]
      exact hhas
    refine ⟨reply.setRequestId job.id, ?_, htag, Message.requestId_setRequestId hreplyHas job.id⟩
    simp only [Job.reply, ok_bind, hreplyHas, if_true]
  | error failure =>
    have hfailedHas : (job.blank.setFailure (some failure)).hasRequestId = true := hhas
    refine ⟨(job.blank.setFailure (some failure)).setRequestId job.id, ?_, rfl,
      Message.requestId_setRequestId hfailedHas job.id⟩
    simp only [Job.reply, hreply, if_true, ok_bind, hfailedHas]

/-- A job that has failed comes to the blank form with the failure in it. -/
theorem Job.reply_error {job : Job} (hreply : job.blank.isReply = true) (failure : Failure) :
    job.reply (.error failure) =
      .ok ((job.blank.setFailure (some failure)).setRequestId job.id) := by
  have hhas : (job.blank.setFailure (some failure)).hasRequestId = true :=
    Message.hasRequestId_of_isReply (m := job.blank) hreply
  simp only [Job.reply, hreply, if_true, ok_bind, hhas]

/-- A job that has not failed comes to the reply that it was given, with its id. -/
theorem Job.eq_of_reply_ok {job : Job} {outcome reply : Message}
    (h : job.reply (.ok outcome) = .ok reply) : reply = outcome.setRequestId job.id := by
  by_cases hhas : outcome.hasRequestId = true
  · simp only [Job.reply, ok_bind, if_pos hhas, Except.ok.injEq] at h
    exact h.symm
  · simp only [Job.reply, ok_bind, if_neg hhas] at h
    cases h

/-- A request that expects a reply of a bound type is accepted. -/
theorem accept_eq_ok {d : Dispatcher} {request blank : Message} {expected : Tag}
    (hexpected : request.expectedReply? = some expected)
    (hbound : d.codec.registry.template? expected = some blank) :
    d.accept request = .ok ⟨request.requestId, blank⟩ := by
  simp only [accept, hexpected, Registry.createMessage, hbound, map_ok]

/-- The job of a request has its id. -/
theorem id_of_accept {d : Dispatcher} {request : Message} {job : Job}
    (h : d.accept request = .ok job) : job.id = request.requestId := by
  unfold accept at h
  split at h
  · cases h
  · obtain ⟨blank, -, rfl⟩ := map_eq_ok.1 h
    rfl

/-- A call is tracked exactly when its id is one and is not taken. -/
theorem track_eq_true {d : Dispatcher} {id : Int64} {task : TaskId} :
    (d.track id task).1 = true ↔ id ≠ 0 ∧ d.running.lookup id = none := by
  unfold track
  by_cases hid : id = 0
  · simp [hid]
  · cases hlookup : d.running.lookup id with
    | none => simp [hid]
    | some other => simp [hid]

/-- A call is added to the table when it can be tracked. -/
theorem running_track (d : Dispatcher) (id : Int64) (task : TaskId) :
    (d.track id task).2.running =
      if (d.track id task).1 then d.running ++ [(id, task)] else d.running := by
  unfold track
  split <;> rfl

/-- The outcome of a cancellation fits its reply. -/
theorem fits_cancelRunning (d : Dispatcher) (request : Message) (job : Job) :
    Fits job.blank (d.cancelRunning request job).1 := by
  intro reply h
  unfold cancelRunning at h
  split at h
  · cases h
  · cases h
    split <;> exact ⟨rfl, rfl⟩

end Dispatcher

end Parley
