/-
# The reply that a handler comes to

A handler comes to its reply in one step, and what it does with the reply is decided by
its purpose.  Which reply it is can be told before that step: from the request, from the
table of running calls when the request is a cancel request, and from how the engine call
has ended when the request was forwarded.  The purpose has no part in it.
-/

import Parley.Exchange.Tracking

namespace Parley.Exchange

/-- How an engine call has ended; nothing as long as it goes on. -/
def endingOf? (e : Exchange) (c : TaskId) : Option Engine.Ending :=
  match e.ended? c with
  | some (.call ending) => some ending
  | some .aborted => some .aborted
  | _ => none

/-- What comes of a request of which the handler makes no engine call: there is no reply, or
this one; nothing when the request is forwarded. -/
def replyAtOnce? (d : Dispatcher) (request : Message) : Option (Except Fault Message) :=
  match d.accept request with
  | .error fault => some (.error fault)
  | .ok job =>
      match Dispatcher.route request.tag with
      | .acknowledge => some (job.reply (.ok job.blank))
      | .cancel => some (job.reply (d.cancelRunning request job).1)
      | .engine => none

/-- What a handler comes to with its next step; nothing when it does not come to a reply by
it. -/
def replyAt? (e : Exchange) (t : TaskId) : Option (Except Fault Message) :=
  match e.work? t with
  | some (.handler { request, phase := .starting, .. }) => replyAtOnce? e.dispatcher request
  | some (.handler { phase := .joining job c _, .. }) =>
      (e.endingOf? c).map fun ending => job.reply (Dispatcher.outcomeOf ending)
  | _ => none

end Parley.Exchange
