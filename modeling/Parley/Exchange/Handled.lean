/-
# What has become of a request

When a handler comes to its reply, the request was answered on the spot or the engine was
called for it.  What went wrong, if anything, can be read off the request, off the state of
the engine call, and off the outcome that the engine had for the call.  What the reply tells
of it is stated beside it.
-/

import Parley.Engine.Mishap
import Parley.Engine.Outcome
import Parley.Exchange.Reply

namespace Parley

namespace Exchange

/-- The calls that the engine has noted during the steps of a task, each with its outcome. -/
def Course.outcomesBy (course : Course) (script : Engine.Script) (c : TaskId) :
    List (Engine.Call × Engine.Outcome) :=
  let outcomes := script.outcomesOf (course.calls.map Prod.snd)
  ((course.calls.zip outcomes).filter fun entry => entry.1.1 == c).map
    fun entry => (entry.1.2, entry.2)

/-- What has become of a request whose handler has come this far and comes to its reply next:
nothing went wrong, or this did. -/
inductive Handled (script : Engine.Script) (course : Course) (request blank : Message) :
    HandlerPhase → Option Engine.Mishap → Prop where
  /-- The request needs no more than a reply. -/
  | acknowledged (hroute : Dispatcher.route request.tag = .acknowledge) :
      Handled script course request blank .starting none
  /-- The request is about another one. -/
  | cancelled (htag : request.tag = .request .cancel) :
      Handled script course request blank .starting (Dispatcher.cancelMishap? request)
  /-- The engine was not called. -/
  | refused {job : Dispatcher.Job} {c : TaskId} {tracked : Bool} {ending : Engine.Ending}
      {mishap : Engine.Mishap} (hended : course.exchange.ended? c = some (.call ending))
      (hnone : course.outcomesBy script c = []) (hrefuses : Engine.Refuses request mishap) :
      Handled script course request blank (.joining job c tracked) (some mishap)
  /-- The engine call was told to stop before it came to an end. -/
  | aborted {job : Dispatcher.Job} {c : TaskId} {tracked : Bool}
      (hended : course.exchange.ended? c = some .aborted) :
      Handled script course request blank (.joining job c tracked) (some .aborted)
  /-- The engine was called as the request asks, and the call came to its end. -/
  | called {job : Dispatcher.Job} {c : TaskId} {tracked : Bool} {ending : Engine.Ending}
      {call : Engine.Call} {outcome : Engine.Outcome} {came : Except Engine.Mishap Engine.Value}
      (hended : course.exchange.ended? c = some (.call ending))
      (hcall : Engine.Call.ofRequest request = .ok call)
      (houtcome : course.outcomesBy script c = [(call, outcome)])
      (hcomes : outcome.comesTo? call = some came) :
      Handled script course request blank (.joining job c tracked) (call.mishap? blank came)

end Exchange

/-- What a reply tells of a mishap, or that there was none. -/
structure Message.Tells (reply : Message) (mishap? : Option Engine.Mishap) : Prop where
  /-- It holds a failure exactly when there was a mishap. -/
  holds : (reply.bag.get? Bag.failureKey).isSome = mishap?.isSome
  /-- Beside the failure it holds nothing but the request id. -/
  keys : mishap?.isSome = true → ∀ key,
    (reply.bag.get? key).isSome = true ↔ key = Bag.requestIdKey ∨ key = Bag.failureKey
  failure : reply.failure = .ok (mishap?.map Engine.Mishap.failure)
  /-- A mishap is a fault for whoever checks the reply, and for every client's call. -/
  failed : ∀ mishap, mishap? = some mishap →
    reply.check = .error (.remote mishap.failure) ∧
    reply.intoResult = .error (.remote mishap.failure) ∧
    ∀ call : Client.Call, call.answer (.ok reply) =
      .error (if reply.messageClass = call.replyClass then .remote mishap.failure
        else .unexpectedMessage reply.tag)
  /-- Without a mishap the reply is none, and no client's call takes it for one. -/
  succeeded : mishap? = none →
    reply.check = .ok () ∧ reply.intoResult = .ok reply ∧
    ∀ call : Client.Call, call.answer (.ok reply) =
        (if reply.messageClass = call.replyClass then call.read reply
          else .error (.unexpectedMessage reply.tag)) ∧
      ∀ failure, call.answer (.ok reply) ≠ .error (.remote failure)

end Parley
