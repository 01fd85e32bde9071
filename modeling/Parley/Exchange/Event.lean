/-
# Courses of an exchange

A course is a sequence of events: tasks are started and told to stop, each takes steps
in any order, time passes, and whoever plays a side of the link or uses the correlator
changes it.  The scheduler has no part in a course, so a course may be any
interleaving.

Beside the exchange two records are kept, read off the exchange before and after each
step: which tasks the step of a task has added, and which calls the engine has noted
during it.
-/

import Parley.Exchange.Run

namespace Parley.Exchange

/-- How a task begins. -/
inductive Opening where
  | caller (request : Message) (timeout : Option Millis) (aim : Aim)
  | waiter (handle : Handle)
  | receiver (source : Source)
  | handler (request : Message) (purpose : Purpose)
  | server (source : Source) (sink : Sink)
  | peer (source : Source) (side : Link.Side) (answers : List (List PeerAction))

/-- What a task is at when it begins. -/
def Opening.work : Opening → Work
  | .caller request timeout aim => .caller (.starting request timeout aim)
  | .waiter handle => .caller (.waiting handle .reply)
  | .receiver source => .receiver { source }
  | .handler request purpose => .handler { request, purpose }
  | .server source sink => .server { source, sink }
  | .peer source side answers => .peer { source, side, answers }

/-- What can happen to an exchange. -/
inductive Event where
  | start (opening : Opening)
  | step (t : TaskId)
  /-- A task is told to stop. -/
  | abort (t : TaskId)
  /-- Time passes. -/
  | pass (span : Millis)
  /-- The loops are told to stop. -/
  | stop
  /-- Someone else uses the correlator. -/
  | correlate (correlator : Correlator)
  /-- Someone else uses the link. -/
  | relink (link : Link)

/-- The exchange after an event. -/
def happen (e : Exchange) : Event → Exchange
  | .start opening => (e.spawn opening.work).2
  | .step t => (e.step t).1
  | .abort t => e.abort t
  | .pass span => { e with schedule := e.schedule.moveTo (e.schedule.now + span) }
  | .stop => e.stop
  | .correlate correlator => e.setCorrelator correlator
  | .relink link => e.setLink link

/-- An exchange with what is on record about its course. -/
structure Course where
  exchange : Exchange
  /-- Tasks with the tasks that their steps have added. -/
  children : List (TaskId × TaskId) := []
  /-- Tasks with the calls that the engine has noted during their steps. -/
  calls : List (TaskId × Engine.Call) := []

namespace Course

/-- The course after one more event. -/
def next (course : Course) (event : Event) : Course :=
  let before := course.exchange
  let after := before.happen event
  match event with
  | .step t =>
      let added := (List.range after.tasks.length).drop before.tasks.length
      let noted := after.engine.calls.drop before.engine.calls.length
      { exchange := after
        children := course.children ++ added.map fun child => (t, child)
        calls := course.calls ++ noted.map fun call => (t, call) }
  | _ => { course with exchange := after }

/-- The course after some more events. -/
def run (course : Course) (events : List Event) : Course :=
  events.foldl next course

/-- The calls that the engine has noted on behalf of a task: during its own steps and
during those of the tasks that it has added. -/
def callsFor (course : Course) (t : TaskId) : List Engine.Call :=
  (course.calls.filter fun entry =>
    entry.1 == t || course.children.contains (t, entry.1)).map Prod.snd

end Course

end Parley.Exchange
