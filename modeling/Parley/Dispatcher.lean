/-
# Dispatch of requests

The serving side of an exchange.  A request is accepted when its reply can be made
at all; from then on every way of handling it ends in a reply with the request's
id.  Some requests concern the connection and are answered here.  The others become
calls of the engine, each a task of its own, which a cancel request can abort as
long as the call is tracked under the id of its request.
-/

import Parley.Engine.Call
import Parley.Frame.Codec
import Parley.Schedule

namespace Parley

/-- The state of a dispatcher. -/
structure Dispatcher where
  codec : Codec
  /-- The engine calls that can be cancelled, by the id of their request. -/
  running : List (Int64 × TaskId) := []
  /-- Whether the peer has asked to shut down. -/
  shutdown : Bool := false

/-- How an engine call ended. -/
inductive Engine.Ending where
  /-- It returned the reply, or an error. -/
  | returned (outcome : Except Engine.Error Message)
  | panicked (text : String)
  | aborted

namespace Dispatcher

/-- A request that was accepted: the id and the blank form of its reply. -/
structure Job where
  id : Int64
  blank : Message
deriving DecidableEq

/-- Accept a request.  It must expect a reply, and the type of the reply must be
registered. -/
def accept (d : Dispatcher) (request : Message) : Except Fault Job :=
  match request.expectedReply? with
  | none => .error (.unexpectedMessage request.tag)
  | some expected =>
      (d.codec.registry.createMessage expected).map fun blank => ⟨request.requestId, blank⟩

/-- Where a request goes. -/
inductive Route where
  /-- It is answered with the blank reply. -/
  | acknowledge
  /-- It asks to abort another request. -/
  | cancel
  | engine
deriving DecidableEq, Repr

/-- The route of a request, by its tag. -/
def route : Tag → Route
  | .request .greet => .acknowledge
  | .request .heartbeat => .acknowledge
  | .request .terminate => .acknowledge
  | .request .cancel => .cancel
  | _ => .engine

/-- The reply for the outcome of a job.  A failure goes into a blank reply, so that
nothing of a result that was begun is left in it. -/
def Job.reply (job : Job) (outcome : Except Failure Message) : Except Fault Message := do
  let reply ←
    match outcome with
    | .ok reply => .ok reply
    | .error failure =>
        if job.blank.isReply then .ok (job.blank.setFailure (some failure))
        else .error (.unexpectedMessage job.blank.tag)
  if reply.hasRequestId then .ok (reply.setRequestId job.id)
  else .error (.unexpectedMessage job.blank.tag)

/-- The failure that stands for an aborted call. -/
def abortedFailure : Failure :=
  { kind := .cancelled, text := "request was cancelled" }

/-- The outcome of a job whose engine call has ended. -/
def outcomeOf : Engine.Ending → Except Failure Message
  | .returned outcome => outcome.mapError Engine.Error.toFailure
  | .panicked text => .error { kind := .panic, text }
  | .aborted => .error abortedFailure

/-! ### Calls that can be cancelled -/

/-- Number of calls that can be cancelled. -/
def inProgress (d : Dispatcher) : Nat :=
  d.running.length

/-- Track a call under the id of its request; tells whether it is tracked.  The id
zero is no id, and an id that is taken stays with the earlier call. -/
def track (d : Dispatcher) (id : Int64) (task : TaskId) : Bool × Dispatcher :=
  if id = 0 || (d.running.lookup id).isSome then (false, d)
  else (true, { d with running := d.running ++ [(id, task)] })

/-- A call has ended.  Its entry goes, but not that of a later call which took over
the id. -/
def untrack (d : Dispatcher) (id : Int64) (task : TaskId) : Dispatcher :=
  { d with running := d.running.filter (· != (id, task)) }

/-- The id of the request that a cancel request is about. -/
def cancelTarget (request : Message) : Except Fault Int64 := do
  let request ← request.downcast (.request .cancel)
  request.bag.getInt64D Key.targetRequestId

/-- Handle a cancel request: the outcome, and the task to abort. -/
def cancelRunning (d : Dispatcher) (request : Message) (job : Job) :
    Except Failure Message × Option TaskId × Dispatcher :=
  match cancelTarget request with
  | .error fault => (.error (Engine.Error.ofFault fault).toFailure, none, d)
  | .ok target =>
      let victim := d.running.lookup target
      let reply :=
        if job.blank.messageClass = .reply .cancel then
          { job.blank with bag := job.blank.bag.setBool Key.wasCancelled victim.isSome }
        else job.blank
      (.ok reply, victim, { d with running := d.running.filter (·.1 != target) })

/-- A summary for people. -/
def summary (d : Dispatcher) : String :=
  "Dispatcher \x7b running: " ++ Decimal.natText d.inProgress
    ++ ", shutdown: " ++ Bag.boolText d.shutdown ++ ", .. \x7d"

end Dispatcher

end Parley
