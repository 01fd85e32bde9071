/-
# Service

One side of a link calls, and the other side serves: a correlator with a receiver, a
dispatcher with a server, and between them nothing but frames.  Calls begin at any time
and in any number.  This module says what such an exchange is, when its course is left
undisturbed, and on whose behalf the engine is called.

A call of the engine is attributed by request ids alone: it is made for the caller that
waits for the reply with the id of the request from which the call was read.
-/

import Parley.Engine.Outcome
import Parley.Proofs.Engine.Call
import Parley.Proofs.Exchange.EngineCall
import Parley.Exchange.Event

namespace Parley

/-- The codec has a frame for a message. -/
def Codec.Takes (c : Codec) (m : Message) : Prop :=
  ∃ frame, c.encode m = .ok frame

/-- What an exchange in which calls are served is made of. -/
structure Service where
  /-- The codec of the correlator. -/
  client : Codec
  /-- The codec of the dispatcher. -/
  server : Codec
  /-- The bounds on frames that either side reads off a stream. -/
  clientReads : Nat
  serverReads : Nat
  requestTimeout : Option Millis
  retiredTtl : Millis
  link : Link
  script : Engine.Script

namespace Service

/-- The exchange before anybody calls: task 0 serves what arrives on the right, task 1
routes what arrives on the left. -/
def exchange (s : Service) : Exchange :=
  let idle : Exchange :=
    { link := s.link
      correlator :=
        { codec := s.client, requestTimeout := s.requestTimeout, retiredTtl := s.retiredTtl }
      dispatcher := { codec := s.server }
      engine := s.script }
  let serving := (idle.serve (.link .right s.serverReads []) (.link .right)).2
  (serving.receiveFrom (.link .left s.clientReads [])).2

/-- Both codecs know every exchange, the readers accept what their codecs accept, the link
is open and can carry something, and the engine gives back values of the right kinds. -/
structure Sound (s : Service) : Prop where
  client : s.client.registry = .standard
  server : s.server.registry = .standard
  clientReads : s.client.maxFrameSize ≤ s.clientReads
  serverReads : s.server.maxFrameSize ≤ s.serverReads
  link : (∃ capacity, s.link = .channels capacity) ∨
    ∃ capacity, 0 < capacity ∧ s.link = .stream capacity
  calls : s.script.calls = []
  script : s.script.Suitable

end Service

namespace Exchange

/-- The exchange after some events. -/
def follow (e : Exchange) (events : List Event) : Exchange :=
  events.foldl happen e

/-- A course may be followed in two parts. -/
theorem follow_append (e : Exchange) (before after : List Event) :
    e.follow (before ++ after) = (e.follow before).follow after :=
  List.foldl_append

/-- A client's call of the engine begins. -/
def asking (call : Engine.Call) (timeout : Option Millis) : Opening :=
  .caller call.request timeout (.answer (.engine call))

/-- The task that was started as a client's call of the engine. -/
def Asked (e : Exchange) (events : List Event) (t : TaskId) (call : Engine.Call) : Prop :=
  ∃ before timeout after, events = before ++ .start (asking call timeout) :: after ∧
    t = (e.follow before).tasks.length

/-- The task of an engine call makes the engine's call with this number, for a caller. -/
def MakesFor (e : Exchange) (events : List Event) (i : Nat) (t : TaskId) : Prop :=
  ∃ before c work handle aim, before ++ [.step c] <+: events ∧
    (e.follow before).engine.calls.length = i ∧
    (e.follow (before ++ [.step c])).engine.calls.length = i + 1 ∧
    (e.follow before).work? c = some (.engineCall work) ∧
    (e.follow before).work? t = some (.caller (.waiting handle aim)) ∧
    work.request.requestId = handle.id

/-! ### Undisturbed courses -/

/-- Events that cancel nothing and leave the connection open: calls of the engine begin,
tasks take steps, and time passes. -/
inductive Calm : Event → Prop where
  | ask {call : Engine.Call} (timeout : Option Millis) (hportable : call.Portable) :
      Calm (.start (asking call timeout))
  | step (t : TaskId) : Calm (.step t)
  | pass (span : Millis) : Calm (.pass span)

/-- Whether a task waits for the reply to a request in flight whose deadline has passed. -/
def overdue (e : Exchange) : Work → Bool
  | .caller (.waiting handle _) =>
      (e.correlator.table.expected? handle.id).isSome &&
        handle.deadline.any fun deadline => decide (deadline ≤ e.schedule.now)
  | _ => false

/-- No request in flight has passed the deadline of its caller. -/
def Punctual (e : Exchange) : Prop :=
  ∀ task ∈ e.tasks, e.overdue task.work = false

/-- In a punctual exchange nobody is out of time. -/
theorem Punctual.overdue_eq_false {e : Exchange} {t : TaskId} {work : Work} (h : e.Punctual)
    (hwork : e.work? t = some work) : e.overdue work = false := by
  rw [work?, Option.map_eq_some_iff] at hwork
  obtain ⟨task, htask, rfl⟩ := hwork
  exact h task (List.mem_of_getElem? htask)

/-- The message that the next step of a task puts into a frame: the request of a caller as
it is with its id, or the reply of a handler whose engine call has ended. -/
def framed? (e : Exchange) (t : TaskId) : Option Message :=
  match e.work? t with
  | some (.caller (.starting request _ _)) => some (e.correlator.stamp request).1
  | some (.handler { phase := .joining job c _, .. }) =>
      match e.ended? c with
      | some (.call ending) => (job.reply (Dispatcher.outcomeOf ending)).toOption
      | _ => none
  | _ => none

/-- What the next step of a task puts into a frame is not too large for either side. -/
def Roomy (s : Service) (e : Exchange) (t : TaskId) : Prop :=
  ∀ m, e.framed? t = some m → s.client.Takes m ∧ s.server.Takes m

/-- Whether an event starts a task. -/
def Event.isStart : Event → Bool
  | .start _ => true
  | _ => false

/-- A course of calls in which no deadline passes, every request and every reply fits, and
there are not more calls than ids. -/
structure Undisturbed (s : Service) (events : List Event) : Prop where
  calm : ∀ event ∈ events, Calm event
  few : events.countP Event.isStart ≤ UInt64.size
  punctual : ∀ before, before <+: events → (s.exchange.follow before).Punctual
  roomy : ∀ before t, before ++ [.step t] <+: events → Roomy s (s.exchange.follow before) t

/-! ### Rest -/

/-- Two exchanges differ at most in whose turn it is. -/
structure Same (e e' : Exchange) : Prop where
  tasks : e'.tasks = e.tasks
  link : e'.link = e.link
  parts : e'.parts = e.parts

/-- No task has anything to do. -/
def AtRest (e : Exchange) : Prop :=
  ∀ t, Same e (e.step t).1

/-- A task takes a step and gets something done, with room for what it puts into a frame
and before any deadline. -/
def Advances (s : Service) (e e' : Exchange) : Prop :=
  ∃ t, e' = (e.step t).1 ∧ ¬ Same e e' ∧ e.Punctual ∧ Roomy s e t

/-- A caller whose engine call waits for the engine. -/
def AwaitsReturn (e : Exchange) (t : TaskId) : Prop :=
  ∃ handle aim c work, e.work? t = some (.caller (.waiting handle aim)) ∧
    e.work? c = some (.engineCall work) ∧ work.request.requestId = handle.id ∧
    work.phase.waits e.schedule.now = true

/-! ### Answers -/

/-- What an undisturbed course of calls comes to.  Calls of the engine and callers belong
together one by one: the engine's call number `i` is made for `callers[i]`. -/
structure Served (s : Service) (events : List Event) (callers : List TaskId) : Prop where
  /-- The engine is not called twice for one caller. -/
  nodup : callers.Nodup
  /-- Every call of the engine is made for somebody. -/
  length : callers.length = (s.exchange.follow events).engine.calls.length
  made : ∀ (i : Nat) (t : TaskId), callers[i]? = some t → MakesFor s.exchange events i t
  /-- The engine is called with what the caller has passed. -/
  passed : ∀ (i : Nat) (t : TaskId), callers[i]? = some t → ∃ call, Asked s.exchange events t call ∧
    (s.exchange.follow events).engine.calls[i]? = some call
  /-- Whoever has come to an end has the answer that the outcome of its own engine call
  says. -/
  answered : ∀ t call, Asked s.exchange events t call →
    ∀ ended, (s.exchange.follow events).ended? t = some ended →
      ∃ (i : Nat) (outcome : Engine.Outcome) (result : Except Fault Client.Answer),
        callers[i]? = some t ∧
        (s.script.outcomesOf (s.exchange.follow events).engine.calls)[i]? = some outcome ∧
        outcome.result? call = some result ∧ ended = .answer result
  /-- When nothing is left to do, the engine was called for every caller, and every caller
  has an answer unless the engine has not returned. -/
  settled : (s.exchange.follow events).AtRest → ∀ t call, Asked s.exchange events t call →
    t ∈ callers ∧
      ((∃ result, (s.exchange.follow events).ended? t = some (.answer result)) ∨
        (s.exchange.follow events).AwaitsReturn t)
  /-- Nothing goes on for ever without new calls. -/
  finite : Acc (fun after before => Advances s before after) (s.exchange.follow events)

/-! ### Checking a course -/

instance (c : Codec) (m : Message) : Decidable (c.Takes m) :=
  decidable_of_iff ((c.encode m).isOk = true) (by
    cases h : c.encode m with
    | ok frame => exact ⟨fun _ => ⟨frame, h⟩, fun _ => rfl⟩
    | error fault =>
      refine ⟨fun hok => absurd hok Bool.false_ne_true, ?_⟩
      rintro ⟨frame, hframe⟩
      rw [h] at hframe
      cases hframe)

instance (s : Service) (e : Exchange) (t : TaskId) : Decidable (Roomy s e t) :=
  decidable_of_iff (∀ m ∈ e.framed? t, s.client.Takes m ∧ s.server.Takes m) Iff.rfl

instance (e : Exchange) : Decidable e.Punctual :=
  inferInstanceAs (Decidable (∀ task ∈ e.tasks, e.overdue task.work = false))

/-- What the next event puts into a frame is not too large for either side. -/
def Event.Fits (s : Service) (e : Exchange) : Event → Prop
  | .step t => Roomy s e t
  | _ => True

instance (s : Service) (e : Exchange) (event : Event) : Decidable (event.Fits s e) :=
  match event with
  | .step t => inferInstanceAs (Decidable (Roomy s e t))
  | .start _ | .abort _ | .pass _ | .stop | .correlate _ | .relink _ => isTrue trivial

/-- All along a course no deadline passes and everything fits. -/
def Smooth (s : Service) (e : Exchange) : List Event → Prop
  | [] => e.Punctual
  | event :: events => e.Punctual ∧ event.Fits s e ∧ Smooth s (e.happen event) events

instance decidableSmooth (s : Service) : ∀ (e : Exchange) (events : List Event),
    Decidable (Smooth s e events)
  | e, [] => inferInstanceAs (Decidable e.Punctual)
  | e, event :: events =>
    have := decidableSmooth s (e.happen event) events
    inferInstanceAs (Decidable (e.Punctual ∧ event.Fits s e ∧ Smooth s (e.happen event) events))

section Smooth

variable {s : Service} {e : Exchange} {events before : List Event}

/-- A smooth course is punctual at every moment. -/
theorem Smooth.punctual (h : Smooth s e events) (hbefore : before <+: events) :
    (e.follow before).Punctual := by
  induction before generalizing e events with
  | nil =>
    cases events with
    | nil => exact h
    | cons event events => exact h.1
  | cons event before ih =>
    obtain ⟨after, rfl⟩ := hbefore
    exact ih h.2.2 (List.prefix_append _ _)

/-- In a smooth course there is room at every step. -/
theorem Smooth.roomy {t : TaskId} (h : Smooth s e events)
    (hbefore : before ++ [.step t] <+: events) :
    Roomy s (e.follow before) t := by
  induction before generalizing e events with
  | nil =>
    obtain ⟨after, rfl⟩ := hbefore
    exact h.2.1
  | cons event before ih =>
    obtain ⟨after, rfl⟩ := hbefore
    exact ih h.2.2 (List.prefix_append _ _)

/-- A calm and smooth course with few starts is undisturbed. -/
theorem undisturbed_of_smooth (hcalm : ∀ event ∈ events, Calm event)
    (hfew : events.countP Event.isStart ≤ UInt64.size) (hsmooth : Smooth s s.exchange events) :
    Undisturbed s events where
  calm := hcalm
  few := hfew
  punctual _ hbefore := hsmooth.punctual hbefore
  roomy _ _ hbefore := hsmooth.roomy hbefore

end Smooth

end Exchange

end Parley
