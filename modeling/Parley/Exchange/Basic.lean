/-
# Exchanges

An exchange is a client side and a serving side that are joined by a link, together
with the tasks that run on both sides.  A task is a state and no program: what it
does next is decided by the kind of its work and how far it has come.  Each step of
a task is atomic, so every order of steps is a possible interleaving.

The left side of the link belongs to the correlator and the right side to the
dispatcher.  Either side may instead be played by whoever drives the exchange.
-/

import Parley.Client
import Parley.Correlator
import Parley.Dispatcher
import Parley.Engine.Script
import Parley.Link

namespace Parley

open Parley.Frame (Bytes)

namespace Exchange

/-- Where a task gets frames from. -/
inductive Source where
  /-- A side of the link, with a bound on the size of frames and the part of a frame
  that has come so far. -/
  | link (side : Link.Side) (maxSize : Nat) (held : Bytes)
  /-- A list of what arrives; after it nothing more arrives. -/
  | script (arrivals : List Link.Arrival)

/-- Where a task sends frames to. -/
inductive Sink where
  | link (side : Link.Side)
  /-- Every frame fails in this way. -/
  | failing (fault : Fault)
deriving DecidableEq

/-- A request that was sent and waits for its reply. -/
structure Handle where
  id : Int64
  deadline : Option Millis
deriving DecidableEq, Repr

/-- What a caller is after. -/
inductive Aim where
  /-- A handle with which the reply can be waited for. -/
  | handle
  | reply
  /-- What a client's call gives back. -/
  | answer (call : Client.Call)

/-- A task that sends a request, by how far it has come. -/
inductive Caller where
  | starting (request : Message) (timeout : Option Millis) (aim : Aim)
  /-- The request is recorded and `rest` of its frame is to be sent. -/
  | transmitting (request : Message) (handle : Handle) (rest : Bytes) (aim : Aim)
  | waiting (handle : Handle) (aim : Aim)

/-- A task that routes inbound replies to their callers. -/
structure Receiver where
  source : Source

/-- What a handler does with the reply. -/
inductive Purpose where
  /-- Hand it over. -/
  | reply
  /-- Hand its frame over. -/
  | frame
  /-- Send its frame. -/
  | send (sink : Sink)
deriving DecidableEq

/-- How far a handler has come. -/
inductive HandlerPhase where
  | starting
  /-- The engine call is a task of its own, tracked under the id of the job or not. -/
  | joining (job : Dispatcher.Job) (call : TaskId) (tracked : Bool)
  | transmitting (rest : Bytes)
deriving DecidableEq

/-- A task that handles one request. -/
structure Handler where
  request : Message
  purpose : Purpose
  phase : HandlerPhase := .starting

/-- How far an engine call has come. -/
inductive EngineCallPhase where
  | starting
  | working (call : Engine.Call) (outcome : Engine.Outcome)
  | sleeping (moment : Millis) (call : Engine.Call) (outcome : Engine.Outcome)

/-- A task that calls the engine. -/
structure EngineCall where
  request : Message
  blank : Message
  phase : EngineCallPhase := .starting

/-- A task that serves requests. -/
structure Server where
  source : Source
  sink : Sink

/-- What a scripted peer does. -/
inductive PeerAction where
  | send (frame : Bytes)
  /-- Send a message with the id of the request that is answered. -/
  | echo (reply : Message)
  /-- Leave. -/
  | close

/-- How far a scripted peer has come. -/
inductive PeerPhase where
  | listening
  | acting (id : Int64) (actions : List PeerAction)
  | transmitting (id : Int64) (rest : Bytes) (actions : List PeerAction)

/-- A peer that answers each request it gets with the first list of actions that is
left, and does nothing when none is left. -/
structure Peer where
  source : Source
  side : Link.Side
  answers : List (List PeerAction)
  phase : PeerPhase := .listening

/-- What a task has ended with. -/
inductive Ended where
  /-- A caller that was after a handle; the request is as it was sent. -/
  | sent (outcome : Except Fault Handle) (request : Message)
  /-- A caller that was after the reply, or a handler that hands it over. -/
  | reply (outcome : Except Fault Message)
  | answer (outcome : Except Fault Client.Answer)
  | frame (outcome : Except Fault Bytes)
  | call (ending : Engine.Ending)
  /-- A task that runs until it is told to stop. -/
  | loop (outcome : Except Fault Unit)
  | aborted

/-- What a task is at. -/
inductive Work where
  | caller (c : Caller)
  | receiver (r : Receiver)
  | handler (h : Handler)
  | engineCall (e : EngineCall)
  | server (s : Server)
  | peer (p : Peer)
  | ended (result : Ended)

/-- A task.  One that was told to stop does so when its turn comes. -/
structure Task where
  work : Work
  aborting : Bool := false

end Exchange

/-- The state of an exchange. -/
structure Exchange where
  schedule : Schedule := {}
  link : Link
  correlator : Correlator
  dispatcher : Dispatcher
  engine : Engine.Script := {}
  /-- Where requests are sent to. -/
  outlet : Exchange.Sink := .link .left
  /-- Whether the loops are told to stop. -/
  stopped : Bool := false
  /-- The requests that scripted peers have got, the first one first. -/
  seen : List Message := []
  /-- The tasks by their numbers. -/
  tasks : List Exchange.Task := []

namespace Exchange

/-- What a task is at. -/
def work? (e : Exchange) (t : TaskId) : Option Work :=
  (e.tasks[t]?).map Task.work

/-- What a task has ended with, once it has. -/
def ended? (e : Exchange) (t : TaskId) : Option Ended :=
  match e.work? t with
  | some (.ended result) => some result
  | _ => none

/-- Set what a task is at. -/
def setWork (e : Exchange) (t : TaskId) (work : Work) : Exchange :=
  { e with tasks := e.tasks.modify t fun task => { task with work } }

/-- The tasks for which a property of their work holds. -/
def tasksWhere (e : Exchange) (p : Work → Bool) : List TaskId :=
  (List.range e.tasks.length).filter fun t =>
    match e.work? t with
    | some work => p work
    | none => false

/-- Wake some tasks. -/
def wakeAll (e : Exchange) (ts : List TaskId) : Exchange :=
  { e with schedule := e.schedule.wakeAll ts }

/-- Add a task. -/
def spawn (e : Exchange) (work : Work) : TaskId × Exchange :=
  let t := e.tasks.length
  (t, { e with tasks := e.tasks ++ [{ work := work }], schedule := e.schedule.wake t })

/-- Tell a task to stop.  A task that has ended is left alone. -/
def abort (e : Exchange) (t : TaskId) : Exchange :=
  match e.work? t with
  | none => e
  | some (.ended _) => e
  | some _ =>
      { e with
        tasks := e.tasks.modify t fun task => { task with aborting := true }
        schedule := e.schedule.wake t }

/-- Let a task sleep until a moment unless it sleeps already. -/
def sleep (e : Exchange) (t : TaskId) (moment : Millis) : Exchange :=
  if e.schedule.timers.any fun timer => timer.task == t then e
  else { e with schedule := e.schedule.sleep moment t }

/-! ### Who waits for what -/

/-- Whether a task takes frames off a side of the link. -/
def Work.readsFrom (side : Link.Side) : Work → Bool
  | .receiver { source := .link s .. } => s == side
  | .server { source := .link s .., .. } => s == side
  | .peer { source := .link s .., .. } => s == side
  | _ => false

/-- Whether a task holds the sink of a side of the link. -/
def Work.sendsTo (side : Link.Side) : Work → Bool
  | .server { sink := .link s, .. } => s == side
  | .handler { purpose := .send (.link s), .. } => s == side
  | .peer { side := s, .. } => s == side
  | _ => false

/-- Whether a task waits for the outcome of a request. -/
def Work.waitsFor (id : Int64) : Work → Bool
  | .caller (.waiting handle _) => handle.id == id
  | _ => false

/-- Whether a task waits for another one to end. -/
def Work.joins (t : TaskId) : Work → Bool
  | .handler { phase := .joining _ call _, .. } => call == t
  | _ => false

/-- Whether a task runs until it is told to stop. -/
def Work.isLoop : Work → Bool
  | .receiver _ => true
  | .server _ => true
  | _ => false

/-- The tasks that a change of one direction of the link concerns: the senders that
may go on now, and the reader when there is more to read or nothing more to come. -/
def concerned (e : Exchange) (side : Link.Side) (after : Link) : List TaskId :=
  let old := e.link.outward side
  let new := after.outward side
  let senders := new.admitted.filter fun t => !(old.admitted.contains t)
  let readers :=
    if old.load < new.load || (new.senderGone && !old.senderGone) then
      e.tasksWhere (Work.readsFrom side.other)
    else []
  senders ++ readers

/-- Replace the link and wake the tasks that the change concerns. -/
def setLink (e : Exchange) (link : Link) : Exchange :=
  let woken := e.concerned .left link ++ e.concerned .right link
  { e with link }.wakeAll woken

/-- Replace the correlator and wake the callers that have got an outcome. -/
def setCorrelator (e : Exchange) (correlator : Correlator) : Exchange :=
  let old := e.correlator.delivered.map Prod.fst
  let fresh := (correlator.delivered.map Prod.fst).filter fun id => !(old.contains id)
  let woken := fresh.flatMap fun id => e.tasksWhere (Work.waitsFor id)
  { e with correlator }.wakeAll woken

/-- The peer has asked to shut down. -/
def setShutdown (e : Exchange) : Exchange :=
  { e with dispatcher := { e.dispatcher with shutdown := true } }.wakeAll
    (e.tasksWhere Work.isLoop)

/-- Tell the loops to stop. -/
def stop (e : Exchange) : Exchange :=
  { e with stopped := true }.wakeAll (e.tasksWhere Work.isLoop)

/-! ### Ends -/

/-- Release what a task held of one side of the link.  A source has one holder; a sink is
released by the last of its holders. -/
def releaseSide (e : Exchange) (work : Work) (side : Link.Side) : Exchange :=
  let e := if work.readsFrom side then e.setLink (e.link.releaseSource side) else e
  if work.sendsTo side && (e.tasksWhere (Work.sendsTo side)).isEmpty then
    e.setLink (e.link.releaseSink side)
  else e

/-- Release what a task held of the link, now that it holds it no more.  The correlator
never releases its sink. -/
def release (e : Exchange) (work : Work) : Exchange :=
  (e.releaseSide work .left).releaseSide work .right

/-- A task ends.  Its timers are forgotten, what it held is released and the task that
waits for it is woken. -/
def finish (e : Exchange) (t : TaskId) (result : Ended) : Exchange :=
  match e.work? t with
  | none => e
  | some work =>
      let e := { e.setWork t (.ended result) with schedule := e.schedule.forget t }
      let e := e.release work
      e.wakeAll (e.tasksWhere (Work.joins t))

/-- What arrives at a source, and the source and the link afterwards. -/
def arrive (e : Exchange) : Source → Link.Arrival × Source × Exchange
  | .script [] => (.nothing, .script [], e)
  | .script (arrival :: rest) => (arrival, .script rest, e)
  | .link side maxSize held =>
      let (arrival, held, link) := e.link.receive side maxSize held
      (arrival, .link side maxSize held, e.setLink link)

/-- Try to send. -/
def transmit (e : Exchange) (t : TaskId) (sink : Sink) (bytes : Bytes) :
    Link.Attempt × Exchange :=
  match sink with
  | .failing fault => (.refused fault, e)
  | .link side =>
      let (attempt, link) := e.link.send side t bytes
      (attempt, e.setLink link)

/-- A sender goes away before it has sent everything. -/
def leave (e : Exchange) (t : TaskId) (sink : Sink) : Exchange :=
  match sink with
  | .failing _ => e
  | .link side => e.setLink (e.link.setOutward side ((e.link.outward side).leave t))

end Exchange

end Parley
