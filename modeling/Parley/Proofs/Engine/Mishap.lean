/-
# Mishaps and the failures that tell them

A fault that a reader finds was found on the spot, so the failure that tells it is generic
and has its wording.  With this, each way in which the engine is not called, in which a call
comes to its end and in which a value is written comes to the failure of its mishap.
-/

import Parley.Engine.Mishap
import Parley.Proofs.Dispatcher
import Parley.Proofs.Engine.Outcome
import Parley.Proofs.Frame.RoundTrip

namespace Parley

/-! ### Faults that readers find -/

/-- Whatever fault a computation comes to was found on the spot. -/
def Finds {α : Type} (x : Except Fault α) : Prop :=
  ∀ fault, x = .error fault → fault.isLocal = true

namespace Finds

variable {α β : Type}

/-- A value is found. -/
theorem ok (value : α) : Finds (.ok value : Except Fault α) := nofun

/-- Of two steps that find what they look for the whole does. -/
theorem bind {x : Except Fault α} {f : α → Except Fault β} (hx : Finds x)
    (hf : ∀ value, Finds (f value)) : Finds (x >>= f) := by
  intro fault h
  rcases bind_eq_error.1 h with herror | ⟨value, -, herror⟩
  · exact hx fault herror
  · exact hf value fault herror

/-- What is made of what is found is found. -/
theorem map {x : Except Fault α} (hx : Finds x) (f : α → β) : Finds (x.map f) := by
  intro fault h
  cases x with
  | ok value => cases h
  | error found =>
    cases h
    exact hx _ rfl

/-- A typed getter finds a value, none or a mismatch of types. -/
theorem getWith (b : Bag) (key expected : String) (read : String → Option α) :
    Finds (b.getWith key expected read) := by
  intro fault h
  unfold Bag.getWith at h
  split at h
  · cases h
  · split at h
    · cases h
    · cases h
      rfl

/-- The getter of truth values finds a value or a mismatch of types. -/
theorem getBool (b : Bag) (key : String) : Finds (b.getBool key) :=
  (getWith b key _ _).map _

/-- The getter of integers of 32 bits finds a value or a mismatch of types. -/
theorem getInt32D (b : Bag) (key : String) : Finds (b.getInt32D key) :=
  (getWith b key _ _).map _

/-- The getter of integers of 64 bits finds a value or a mismatch of types. -/
theorem getInt64D (b : Bag) (key : String) : Finds (b.getInt64D key) :=
  (getWith b key _ _).map _

/-- Reading the parameters of a call. -/
theorem ofBag? {op : Operation} {b : Bag} {read : Except Fault Engine.Call}
    (h : Engine.Call.ofBag? op b = some read) : Finds read := by
  cases op with
  | connect | describeDomain | registerWorkflow =>
    cases h
    exact ok _
  | registerDomain | updateDomain =>
    cases h
    exact ((getBool b _).bind fun _ => (getInt32D b _).bind fun _ => ok _).map _
  | executeWorkflow =>
    cases h
    exact ((getWith b _ _ _).bind fun _ => (getWith b _ _ _).bind fun _ => ok _).map _
  | _ => cases h

/-- Reading the answer to a client's call. -/
theorem read (call : Client.Call) (reply : Message) : Finds (call.read reply) := by
  cases call with
  | cancel target => exact (getBool reply.bag _).map _
  | engine call =>
    cases call with
    | describeDomain name =>
      exact ((getWith reply.bag _ _ _ |>.map _).bind fun _ => (getBool reply.bag _).bind fun _ =>
        (getInt32D reply.bag _).bind fun _ => ok _).map _
    | executeWorkflow params =>
      refine (getWith reply.bag _ _ _).bind fun execution => ?_
      cases execution with
      | none =>
        intro fault h
        cases h
        rfl
      | some execution => exact ok _
    | _ => exact ok _
  | _ => exact ok _

end Finds

namespace Engine

/-- A fault that was found on the spot is told by its wording. -/
theorem Error.toFailure_ofFault {fault : Fault} (h : fault.isLocal = true) :
    (Error.ofFault fault).toFailure = (Mishap.unfit fault).failure := by
  cases fault <;> first | rfl | cases h

/-- No mishap is told by a failure that is none. -/
theorem Mishap.isFailure_failure (mishap : Mishap) : mishap.failure.isFailure = true := by
  cases mishap with
  | reported error => exact Error.isFailure_toFailure error
  | _ => rfl

/-! ### Requests -/

/-- Calls are read for the operations of the engine only. -/
theorem Call.mem_operations_of_ofBag? {op : Operation} {b : Bag} {read : Except Fault Call}
    (h : Call.ofBag? op b = some read) : op ∈ operations := by
  cases op <;> first | decide | cases h

/-- For each operation of the engine a call is read, or cannot be. -/
theorem Call.exists_ofBag? {op : Operation} (h : op ∈ operations) (b : Bag) :
    ∃ read, Call.ofBag? op b = some read := by
  cases op <;> first | exact ⟨_, rfl⟩ | simp [operations] at h

/-- The engine is not called for a request that cannot be read as a call, and the error of
this is told as the mishap that it is. -/
theorem Call.refuses_of_ofRequest {request : Message} {error : Error}
    (h : Call.ofRequest request = .error error) :
    ∃ mishap, Refuses request mishap ∧ error.toFailure = mishap.failure := by
  unfold Call.ofRequest at h
  split at h
  next op htag =>
    cases hread : Call.ofBag? op request.bag with
    | none =>
      simp only [hread] at h
      cases h
      refine ⟨_, .unsupported fun other hother hsame => ?_, rfl⟩
      cases htag.symm.trans hsame
      obtain ⟨read, hsome⟩ := Call.exists_ofBag? hother request.bag
      rw [hread] at hsome
      cases hsome
    | some read =>
      simp only [hread] at h
      by_cases hclass : request.messageClass = .request op
      · simp only [Message.downcast, if_pos hclass] at h
        cases read with
        | ok call => cases h
        | error fault =>
          cases h
          exact ⟨_, .unreadable op fault htag hclass hread,
            Error.toFailure_ofFault (Finds.ofBag? hread fault rfl)⟩
      · simp only [Message.downcast, if_neg hclass] at h
        cases h
        exact ⟨_, .misclassed op (Call.mem_operations_of_ofBag? hread) htag hclass,
          Error.toFailure_ofFault rfl⟩
  next tag hnone =>
    cases h
    exact ⟨_, .unsupported fun op _ => hnone op, rfl⟩

/-- There is one reason at most. -/
theorem Refuses.unique {request : Message} {mishap other : Mishap} (h : Refuses request mishap)
    (h' : Refuses request other) : mishap = other := by
  cases h with
  | unsupported htag =>
    cases h' with
    | unsupported => rfl
    | misclassed op hop hsame => exact absurd hsame (htag op hop)
    | unreadable op fault hsame _ hread =>
      exact absurd hsame (htag op (Call.mem_operations_of_ofBag? hread))
  | misclassed op hop htag hclass =>
    cases h' with
    | unsupported hnone => exact absurd htag (hnone op hop)
    | misclassed => rfl
    | unreadable op' fault hsame hclass' =>
      cases htag.symm.trans hsame
      exact absurd hclass' hclass
  | unreadable op fault htag hclass hread =>
    cases h' with
    | unsupported hnone => exact absurd htag (hnone op (Call.mem_operations_of_ofBag? hread))
    | misclassed op' hop hsame hclass' =>
      cases htag.symm.trans hsame
      exact absurd hclass hclass'
    | unreadable op' fault' hsame hclass' hread' =>
      cases htag.symm.trans hsame
      rw [hread] at hread'
      cases hread'
      rfl

end Engine

/-! ### Outcomes of jobs -/

namespace Dispatcher

open Engine

/-- The outcome of a job is the failure that tells a mishap, or without one a form of the blank
reply into which no failure was written. -/
def Amounts (blank : Message) (outcome : Except Failure Message) : Option Mishap → Prop
  | some mishap => outcome = .error mishap.failure
  | none => ∃ reply, outcome = .ok reply ∧ reply.blank = blank.blank ∧
      reply.bag.get? Bag.failureKey = blank.bag.get? Bag.failureKey

/-- A blank reply amounts to no failure. -/
theorem amounts_blank (blank : Message) : Amounts blank (.ok blank) none :=
  ⟨blank, rfl, rfl, rfl⟩

/-- A value is written into a reply that has a place for it. -/
theorem amounts_answer (call : Call) (value : Value) (blank : Message) :
    Amounts blank (outcomeOf (.returned (call.answer value blank)))
      (call.mishap? blank (.ok value)) := by
  cases call with
  | describeDomain name =>
    cases value with
    | description d =>
      by_cases hclass : blank.messageClass = .reply .describeDomain
      · simp only [outcomeOf, Call.answer, Message.downcast, map_ok, mapError_ok,
          Call.mishap?, Call.hasPlace, hclass, beq_self_eq_true, if_true]
        refine ⟨_, rfl, rfl, ?_⟩
        simp only [DomainDescription.writeTo, Bag.setBool, Bag.setInt32, Bag.setStatus]
        cases d.status.wire? <;> simp [Bag.failureKey, Key.domainName, Key.domainDescription,
          Key.domainStatus, Key.domainOwnerEmail, Key.configuredEmitMetrics,
          Key.configuredRetentionDays]
      · have hplace : (blank.messageClass == .reply .describeDomain) = false := by simpa using hclass
        simp only [outcomeOf, Call.answer, Message.downcast, if_neg hclass, map_error,
          Call.mishap?, Call.hasPlace, hplace, Bool.false_eq_true, if_false]
        exact congrArg _ (Error.toFailure_ofFault rfl)
    | _ => exact amounts_blank blank
  | executeWorkflow params =>
    cases value with
    | execution e =>
      by_cases hclass : blank.messageClass = .reply .executeWorkflow
      · simp only [outcomeOf, Call.answer, Message.downcast, map_ok, mapError_ok,
          Call.mishap?, Call.hasPlace, hclass, beq_self_eq_true, if_true]
        refine ⟨_, rfl, rfl, ?_⟩
        simp [Bag.setJson, Bag.setDuration, Bag.failureKey, Key.execution, Key.decisionTimeout]
      · have hplace : (blank.messageClass == .reply .executeWorkflow) = false := by
          simpa using hclass
        simp only [outcomeOf, Call.answer, Message.downcast, if_neg hclass, map_error,
          Call.mishap?, Call.hasPlace, hplace, Bool.false_eq_true, if_false]
        exact congrArg _ (Error.toFailure_ofFault rfl)
    | _ => exact amounts_blank blank
  | _ => exact amounts_blank blank

/-- However an engine call ends, its job comes to what its outcome comes to. -/
theorem amounts_of_ending? {outcome : Outcome} {call : Call} {blank : Message} {ending : Ending}
    (h : outcome.ending? call blank = some ending) :
    ∃ came, outcome.comesTo? call = some came ∧
      Amounts blank (outcomeOf ending) (call.mishap? blank came) := by
  induction outcome with
  | usual =>
    cases h
    exact ⟨_, rfl, amounts_answer call _ blank⟩
  | ok value =>
    cases h
    exact ⟨_, rfl, amounts_answer call value blank⟩
  | error reported =>
    cases h
    exact ⟨_, rfl, rfl⟩
  | panic text =>
    cases h
    exact ⟨_, rfl, rfl⟩
  | never => cases h
  | after span next ih => exact ih h

/-- A cancel request comes to whether it is about a target. -/
theorem amounts_cancelRunning (d : Dispatcher) (request : Message) (job : Job) :
    Amounts job.blank (d.cancelRunning request job).1 (cancelMishap? request) := by
  unfold cancelRunning cancelTarget cancelMishap? Message.downcast
  by_cases hclass : request.messageClass = .request .cancel
  · simp only [if_pos hclass, ok_bind]
    cases htarget : request.bag.getInt64D Key.targetRequestId with
    | error fault =>
      exact congrArg _ (Error.toFailure_ofFault (Finds.getInt64D _ _ fault htarget))
    | ok target =>
      refine ⟨_, rfl, ?_⟩
      split
      · exact ⟨rfl, by simp [Bag.setBool, Bag.failureKey, Key.wasCancelled]⟩
      · exact ⟨rfl, rfl⟩
  · simp only [if_neg hclass, error_bind]
    exact congrArg _ (Error.toFailure_ofFault rfl)

end Dispatcher

end Parley
