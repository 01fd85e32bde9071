/-
# Outcomes carried back

The reply to a request is made from the way in which the engine call of that request
ended, and the client reads its answer off the reply.  For every outcome that suits its
call, what is read is what the outcome says (`Outcome.exists_reply`).
-/

import Parley.Engine.Outcome
import Parley.Proofs.Engine.Call

namespace Parley.Engine

/-! ### Values -/

/-- A reply without a failure passes its check. -/
theorem check_of_text? {m : Message} (h : m.bag.text? Bag.failureKey = none) :
    m.check = .ok () := by
  simp only [Message.check, Message.failure, Bag.failure_of_none h]

/-- A value that suits a call is written into its reply, and is what is read off it. -/
theorem Call.exists_answer {call : Call} {value : Value}
    (hsuits : value.suits call.operation = true) (id : Int64) :
    ∃ reply, call.answer value (Message.reply call.operation) = .ok reply ∧
      reply.role = .reply call.operation ∧ reply.tag = .reply call.operation ∧
      (reply.setRequestId id).check = .ok () ∧
      (Client.Call.engine call).read (reply.setRequestId id) = .ok value.answer := by
  cases call with
  | describeDomain name =>
    cases value with
    | unit => cases hsuits
    | execution e => cases hsuits
    | description d =>
      refine ⟨_, rfl, rfl, rfl, check_of_text? ?_, ?_⟩
      · simp [Message.setRequestId, Message.reply, DomainDescription.writeTo, Bag.failureKey,
          Key.domainName, Key.domainDescription, Key.domainStatus, Key.domainOwnerEmail,
          Key.configuredEmitMetrics, Key.configuredRetentionDays, Bag.requestIdKey]
      · have hread : DomainDescription.ofBag ((d.writeTo
            (Message.reply .describeDomain).bag).setInt64 Bag.requestIdKey id) = .ok d := by
          rw [DomainDescription.ofBag_setInt64, DomainDescription.ofBag_writeTo]
        exact congrArg (fun read => read.map Client.Answer.description) hread
  | executeWorkflow params =>
    cases value with
    | unit => cases hsuits
    | description d => cases hsuits
    | execution e =>
      refine ⟨_, rfl, rfl, rfl, check_of_text? ?_, ?_⟩
      · simp [Message.setRequestId, Message.reply, Bag.failureKey, Key.execution,
          Key.decisionTimeout, Bag.requestIdKey]
      · have htext : (((Message.reply .executeWorkflow).bag.setJson Key.execution
            (some e.json)).setDuration Key.decisionTimeout
              (params.options.decisionTimeout.getD 0)
            |>.setInt64 Bag.requestIdKey id).text? Key.execution = some e.json.text := by
          simp [Message.reply, Key.execution, Key.decisionTimeout, Bag.requestIdKey]
        exact congrArg (· >>= _) (Bag.getExecution_of_text? htext)
  | connect _ | registerDomain _ | updateDomain _ | registerWorkflow _ =>
    cases value with
    | unit => exact ⟨_, rfl, rfl, rfl, rfl, rfl⟩
    | description d => cases hsuits
    | execution e => cases hsuits

/-- The usual value of a call suits it. -/
theorem Call.suits_usualValue (call : Call) :
    call.usualValue.suits call.operation = true := by
  cases call <;> rfl

/-! ### Outcomes -/

/-- The reply that a job with a blank form makes from the end of an engine call. -/
def Ending.reply (ending : Ending) (call : Call) (id : Int64) : Except Fault Message :=
  Dispatcher.Job.reply ⟨id, Message.reply call.operation⟩ (Dispatcher.outcomeOf ending)

/-- A reply with the class, the type and the id that belong to a call, off which the client
reads a result. -/
structure Call.Answers (call : Call) (id : Int64) (reply : Message)
    (result : Except Fault Client.Answer) : Prop where
  role : reply.role = .reply call.operation
  tag : reply.tag = .reply call.operation
  id : reply.requestId = id
  result : (Client.Call.engine call).answer (.ok reply) = result

/-- A value comes to a reply off which it is read. -/
theorem exists_reply_of_value {call : Call} {value : Value}
    (hsuits : value.suits call.operation = true) (id : Int64) :
    ∃ reply, (Ending.returned (call.answer value (Message.reply call.operation))).reply call id =
        .ok reply ∧ call.Answers id reply (.ok value.answer) := by
  obtain ⟨reply, hreply, hrole, htag, hcheck, hread⟩ := Call.exists_answer hsuits id
  have hhas : reply.hasRequestId = true := by
    rw [Message.hasRequestId, hrole]
    rfl
  refine ⟨reply.setRequestId id, ?_, hrole, htag, Message.requestId_setRequestId hhas id, ?_⟩
  · rw [Ending.reply, hreply]
    simp only [Dispatcher.outcomeOf, mapError_ok, Dispatcher.Job.reply, ok_bind, hhas, if_true]
  · have hclass : (reply.setRequestId id).messageClass = .reply call.operation :=
      congrArg Role.messageClass hrole
    simp only [Client.Call.answer, ok_bind, Message.downcast, Client.Call.replyClass, hclass,
      if_true, hcheck, hread]

/-- A failure comes to a reply that reports it. -/
theorem exists_reply_of_failure (call : Call) {ending : Ending} {failure : Failure}
    (hending : Dispatcher.outcomeOf ending = .error failure) (hfailure : failure.isFailure = true)
    (id : Int64) :
    ∃ reply, ending.reply call id = .ok reply ∧
      call.Answers id reply (.error (.remote failure)) := by
  have hhas : ((Message.reply call.operation).setFailure (some failure)).hasRequestId = true := rfl
  refine ⟨((Message.reply call.operation).setFailure (some failure)).setRequestId id, ?_, rfl,
    rfl, Message.requestId_setRequestId hhas id, ?_⟩
  · rw [Ending.reply, hending]
    rfl
  · have hbag : (((Message.reply call.operation).setFailure (some failure)).setRequestId
        id).bag.failure = .ok (some failure) :=
      Message.failure_setFailure hfailure _ id
    have hcheck : (((Message.reply call.operation).setFailure (some failure)).setRequestId
        id).check = .error (.remote failure) := by
      simp only [Message.check, Message.failure, hbag]
    have hclass : (((Message.reply call.operation).setFailure (some failure)).setRequestId
        id).messageClass = .reply call.operation := rfl
    simp only [Client.Call.answer, ok_bind, Message.downcast, Client.Call.replyClass, hclass,
      if_true, hcheck, error_bind]

/-- An error that the engine reports is a failure. -/
theorem Error.isFailure_toFailure (reported : Error) : reported.toFailure.isFailure = true := by
  obtain ⟨kind, text, details⟩ := reported
  cases kind <;> rfl

/-- However an engine call ends, its end comes to a reply off which the client reads what the
outcome of the call says. -/
theorem Outcome.exists_reply {call : Call} {outcome : Outcome} {ending : Ending}
    (hsuits : outcome.suits call.operation = true)
    (hending : outcome.ending? call (Message.reply call.operation) = some ending) (id : Int64) :
    ∃ reply result, ending.reply call id = .ok reply ∧ outcome.result? call = some result ∧
      call.Answers id reply result := by
  induction outcome with
  | usual =>
    cases hending
    obtain ⟨reply, hreply, hanswers⟩ := exists_reply_of_value call.suits_usualValue id
    exact ⟨reply, _, hreply, rfl, hanswers⟩
  | ok value =>
    cases hending
    obtain ⟨reply, hreply, hanswers⟩ := exists_reply_of_value hsuits id
    exact ⟨reply, _, hreply, rfl, hanswers⟩
  | error reported =>
    cases hending
    have hfailed : Dispatcher.outcomeOf (.returned (.error reported)) = .error reported.toFailure :=
      rfl
    obtain ⟨reply, hreply, hanswers⟩ :=
      exists_reply_of_failure call hfailed (Error.isFailure_toFailure reported) id
    exact ⟨reply, _, hreply, rfl, hanswers⟩
  | panic text =>
    cases hending
    have hfailed : Dispatcher.outcomeOf (.panicked text) = .error { kind := .panic, text } := rfl
    obtain ⟨reply, hreply, hanswers⟩ := exists_reply_of_failure call hfailed rfl id
    exact ⟨reply, _, hreply, rfl, hanswers⟩
  | never => cases hending
  | after span next ih => exact ih hsuits hending

/-! ### Scripts -/

namespace Script

/-- Calls are started one after the other. -/
theorem startAll_append (s : Script) (calls : List Call) (call : Call) :
    s.startAll (calls ++ [call]) = ((s.startAll calls).start call).2 := by
  rw [startAll, List.foldl_append]
  rfl

/-- The outcome of a call depends on those before it. -/
theorem outcomesOf_append (s : Script) (calls : List Call) (call : Call) :
    s.outcomesOf (calls ++ [call]) =
      s.outcomesOf calls ++ [((s.startAll calls).start call).1] := by
  induction calls generalizing s with
  | nil => rfl
  | cons first rest ih =>
    simp only [List.cons_append, outcomesOf, ih, startAll, List.foldl_cons]

/-- An outcome that is taken suits its operation, and so does every outcome that is left. -/
theorem suits_takeOutcome (op : Operation) {lists : List (Operation × List Outcome)}
    (h : ∀ op list, (op, list) ∈ lists → ∀ outcome ∈ list, outcome.suits op = true) :
    (takeOutcome op lists).1.suits op = true ∧
      ∀ op' list, (op', list) ∈ (takeOutcome op lists).2 → ∀ outcome ∈ list,
        outcome.suits op' = true := by
  induction lists with
  | nil => exact ⟨rfl, fun _ _ hmem => by cases hmem⟩
  | cons first rest ih =>
    obtain ⟨other, list⟩ := first
    have hrest := ih fun op' list' hmem => h op' list' (List.mem_cons_of_mem _ hmem)
    by_cases hother : other = op
    · subst hother
      cases list with
      | nil =>
        simp only [takeOutcome, if_true]
        exact ⟨rfl, h⟩
      | cons outcome list =>
        have hfirst := h other (outcome :: list) List.mem_cons_self
        simp only [takeOutcome, if_true]
        refine ⟨hfirst outcome List.mem_cons_self, fun op' list' hmem => ?_⟩
        rcases List.mem_cons.1 hmem with heq | hmem
        · cases heq
          exact fun o ho => hfirst o (List.mem_cons_of_mem _ ho)
        · exact h op' list' (List.mem_cons_of_mem _ hmem)
    · simp only [takeOutcome, if_neg hother]
      refine ⟨hrest.1, fun op' list' hmem => ?_⟩
      rcases List.mem_cons.1 hmem with heq | hmem
      · cases heq
        exact h other list List.mem_cons_self
      · exact hrest.2 op' list' hmem

/-- A suitable script has a suitable outcome for every call. -/
theorem Suitable.start {s : Script} (h : s.Suitable) (call : Call) :
    (s.start call).1.suits call.operation = true ∧ (s.start call).2.Suitable :=
  suits_takeOutcome call.operation h

end Script

end Parley.Engine
