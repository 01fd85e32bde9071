/-
# What can go wrong with a request

A request that is handled may fail in few ways: it is none for the engine, it does not read
as what its tag says, the engine reports an error or panics, its call is aborted, or the reply
has no place for what the engine gave back.  Each of these is told by the failure of a reply,
and the failure is given here for each of them on its own.
-/

import Parley.Dispatcher
import Parley.Engine.Script

namespace Parley

/-- Whether a fault is found on the spot: it was not passed on by the peer, and it is not that
nobody waits any more. -/
def Fault.isLocal : Fault → Bool
  | .remote _ => false
  | .cancelled => false
  | .timeout => false
  | _ => true

namespace Engine

/-- The operations that concern the engine. -/
def operations : List Operation :=
  [.connect, .registerDomain, .describeDomain, .updateDomain, .registerWorkflow,
   .executeWorkflow]

/-- What went wrong with a request. -/
inductive Mishap where
  /-- The request has this tag, which is none of the engine's. -/
  | unsupported (tag : Tag)
  /-- A message is not what its tag says, or a property does not read. -/
  | unfit (fault : Fault)
  /-- The engine has reported this. -/
  | reported (error : Error)
  /-- The engine call was torn down by a panic with this text. -/
  | panicked (text : String)
  /-- The engine call was told to stop. -/
  | aborted

/-- The failure by which a mishap is told. -/
def Mishap.failure : Mishap → Failure
  | .unsupported tag => { kind := .generic, text := s!"unsupported request {tag.name}" }
  | .unfit fault => { kind := .generic, text := fault.message }
  | .reported error =>
      { kind := if error.kind = .none then .generic else error.kind
        text := error.text
        details := error.details }
  | .panicked text => { kind := .panic, text }
  | .aborted => { kind := .cancelled, text := "request was cancelled" }

/-- Why the engine is not called for a request. -/
inductive Refuses (request : Message) : Mishap → Prop where
  | unsupported (htag : ∀ op ∈ operations, request.tag ≠ .request op) :
      Refuses request (.unsupported request.tag)
  /-- The class of the request is not the one of its tag. -/
  | misclassed (op : Operation) (hop : op ∈ operations) (htag : request.tag = .request op)
      (hclass : request.messageClass ≠ .request op) :
      Refuses request (.unfit (.unexpectedMessage request.tag))
  /-- A property of the request does not read. -/
  | unreadable (op : Operation) (fault : Fault) (htag : request.tag = .request op)
      (hclass : request.messageClass = .request op)
      (hread : Call.ofBag? op request.bag = some (.error fault)) :
      Refuses request (.unfit fault)

/-- What a call with this outcome comes to, a value or a mishap; nothing when it never ends. -/
def Outcome.comesTo? (call : Call) : Outcome → Option (Except Mishap Value)
  | .usual => some (.ok call.usualValue)
  | .ok value => some (.ok value)
  | .error reported => some (.error (.reported reported))
  | .panic text => some (.error (.panicked text))
  | .never => none
  | .after _ next => next.comesTo? call

/-- Whether a reply has a place for what a call gave back. -/
def Call.hasPlace (call : Call) (value : Value) (reply : Message) : Bool :=
  match call, value with
  | .describeDomain _, .description _ => reply.messageClass == .reply .describeDomain
  | .executeWorkflow _, .execution _ => reply.messageClass == .reply .executeWorkflow
  | _, _ => true

/-- What goes wrong with a call that comes to this, if anything. -/
def Call.mishap? (call : Call) (reply : Message) : Except Mishap Value → Option Mishap
  | .error mishap => some mishap
  | .ok value =>
      if call.hasPlace value reply then none else some (.unfit (.unexpectedMessage reply.tag))

end Engine

/-- What is wrong with a cancel request, if anything: it has another class than its tag, or its
target does not read. -/
def Dispatcher.cancelMishap? (request : Message) : Option Engine.Mishap :=
  if request.messageClass = .request .cancel then
    match request.bag.getInt64D Key.targetRequestId with
    | .ok _ => none
    | .error fault => some (.unfit fault)
  else some (.unfit (.unexpectedMessage request.tag))

end Parley
