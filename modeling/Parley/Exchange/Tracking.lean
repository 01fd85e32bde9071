/-
# Dispatches and the calls they wait for

A dispatch is in progress until its handler has come to a reply.  A handler that
forwards its request waits for the engine call that it has made, and the call is tracked
or not.  A handler that carries out a cancel request is about one id.  These are the
terms in which the table of running calls is described.
-/

import Parley.Exchange.Event

namespace Parley.Exchange

/-- Whether this is the work of a handler that has not come to a reply yet. -/
def Work.dispatches : Work → Bool
  | .handler { phase := .starting, .. } => true
  | .handler { phase := .joining .., .. } => true
  | _ => false

/-- Whether a task handles a request and has not come to a reply yet. -/
def dispatches (e : Exchange) (t : TaskId) : Bool :=
  (e.work? t).any Work.dispatches

/-- A handler waits for the engine call that it has made of its request. -/
def Awaits (e : Exchange) (t : TaskId) (request : Message) (call : TaskId) (tracked : Bool) :
    Prop :=
  ∃ purpose blank, e.work? t =
    some (.handler { request, purpose, phase := .joining ⟨request.requestId, blank⟩ call tracked })

/-- A handler is about to carry out a cancel request that concerns this id. -/
def Cancels (e : Exchange) (t : TaskId) (id : Int64) : Prop :=
  ∃ request purpose job, e.work? t = some (.handler { request, purpose }) ∧
    e.dispatcher.accept request = .ok job ∧ Dispatcher.route request.tag = .cancel ∧
    Dispatcher.cancelTarget request = .ok id

end Parley.Exchange
