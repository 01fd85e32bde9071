/-
# A desk

A desk drives an exchange step by step.  It names the tasks that it starts, puts
the handles of requests away under the names of the tasks that sent them, and lets
everything happen that can happen before it is used again.  A name may be given again:
it then stands for the later task, but a handle of the earlier one is still put away
under it.
-/

import Parley.Exchange.Run

namespace Parley.Exchange

/-- An exchange with named tasks and handles. -/
structure Desk where
  exchange : Exchange
  /-- All tasks that were started, the latest first. -/
  tasks : List (String × TaskId) := []
  handles : List (String × Handle) := []
  /-- Tasks whose handle was put away. -/
  emptied : List TaskId := []
  /-- Tasks whose end was looked at. -/
  known : List TaskId := []
  /-- How many engine calls were taken note of. -/
  notedCalls : Nat := 0
  /-- How many requests to a scripted peer were taken note of. -/
  notedRequests : Nat := 0

/-- What there is to see of a task. -/
inductive Look where
  /-- No task has this name. -/
  | unknown
  | waiting
  | ended (result : Ended)

namespace Desk

/-- The latest task of a name. -/
def task? (d : Desk) (name : String) : Option TaskId :=
  d.tasks.lookup name

/-- The handle of a name. -/
def handle? (d : Desk) (name : String) : Option Handle :=
  d.handles.lookup name

/-- Take the handle of a name away. -/
def removeHandle (d : Desk) (name : String) : Desk :=
  { d with handles := d.handles.filter fun entry => entry.1 != name }

/-- Put the handle of a task away if it has ended with one.  A handle that was there
before under this name is given up. -/
def putAway (d : Desk) (name : String) (t : TaskId) : Desk :=
  if d.emptied.contains t then d
  else
    match d.exchange.ended? t with
    | some (.sent (.ok handle) _) =>
        let exchange :=
          match d.handle? name with
          | some old => (d.exchange.abandon old).settle
          | none => d.exchange
        { d.removeHandle name with
          exchange, handles := (name, handle) :: d.handles, emptied := t :: d.emptied }
    | _ => d

/-- Change the exchange and let everything happen that can happen now. -/
def update (d : Desk) (change : Exchange → Exchange) : Desk :=
  let d := { d with exchange := (change d.exchange).settle }
  d.tasks.foldr (fun entry d => d.putAway entry.1 entry.2) d

/-- Look at the task of a name. -/
def look (d : Desk) (name : String) : Look × Desk :=
  match d.task? name with
  | none => (.unknown, d)
  | some t =>
      match d.exchange.ended? t with
      | none => (.waiting, d)
      | some result => (.ended result, { d with known := t :: d.known })

/-- Start a task under a name, which may have had another one, and look at it. -/
def start (d : Desk) (name : String) (spawn : Exchange → TaskId × Exchange) : Look × Desk :=
  let (t, exchange) := spawn d.exchange
  let d := { d with tasks := (name, t) :: d.tasks }
  (d.update fun _ => exchange).look name

/-- Tell the task of a name to stop; tells whether it was not known to have ended. -/
def abort (d : Desk) (name : String) : Bool × Desk :=
  match d.task? name with
  | none => (false, d)
  | some t =>
      if d.known.contains t then (false, d)
      else (true, d.update fun e => e.abort t)

/-- Wait for the reply to the request whose handle is kept under a name. -/
def wait (d : Desk) (name : String) : Option (Look × Desk) :=
  (d.handle? name).map fun handle => (d.removeHandle name).start name fun e => e.wait handle

/-- Give the handle of a name up; tells whether there was one. -/
def drop (d : Desk) (name : String) : Bool × Desk :=
  match d.handle? name with
  | none => (false, d)
  | some handle => (true, (d.removeHandle name).update fun e => e.abandon handle)

/-- Operate on the correlator. -/
def correlate {α : Type} (d : Desk) (operation : Correlator → Millis → α × Correlator) :
    α × Desk :=
  let (result, correlator) := operation d.exchange.correlator d.exchange.schedule.now
  (result, d.update fun e => e.setCorrelator correlator)

/-- Send a frame from a side of the link that no task plays; when there is no room,
nothing more is sent. -/
def push (d : Desk) (side : Link.Side) (frame : Frame.Bytes) : Link.Attempt × Desk :=
  let nobody := d.exchange.tasks.length
  let (attempt, link) := d.exchange.link.send side nobody frame
  let link := link.setOutward side ((link.outward side).leave nobody)
  (attempt, d.update fun e => e.setLink link)

/-- Take a frame at a side of the link that no task plays. -/
def pull (d : Desk) (side : Link.Side) : Link.Arrival × Desk :=
  let (arrival, _, link) := d.exchange.link.receive side Frame.maxFrameSize []
  (arrival, d.update fun e => e.setLink link)

/-- A side of the link that no task plays goes away. -/
def leave (d : Desk) (side : Link.Side) : Desk :=
  let d := d.update fun e => e.setLink (e.link.releaseSource side)
  d.update fun e => e.setLink (e.link.releaseSink side)

/-- Move the clock forward. -/
def advance (d : Desk) (span : Millis) : Desk :=
  d.update fun e => e.advance span

/-- The engine calls that were not taken note of before. -/
def takeCalls (d : Desk) : List Engine.Call × Desk :=
  let calls := d.exchange.engine.calls
  (calls.drop d.notedCalls, { d with notedCalls := calls.length })

/-- The requests to a scripted peer that were not taken note of before. -/
def takeSeen (d : Desk) : List Message × Desk :=
  let seen := d.exchange.seen
  (seen.drop d.notedRequests, { d with notedRequests := seen.length })

end Desk

end Parley.Exchange
