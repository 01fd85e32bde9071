/-
# Serving a source

A server takes what arrives at its source, one thing in each of its turns, and gives each
request that it can decode a handler.  Nobody interferes: the tasks take steps in any order
and time passes, so that the engine calls may come to their ends in any order.  The sink has
room for all that may be sent.

Beside the exchange two records are kept, read off the exchange before and after each step:
what the server has taken, with the handler that was added for it, and what the handlers have
come to.

Much of what arrives is no request.  What is no frame, what cannot be decoded and what expects
no reply that the registry knows is clutter: it changes nothing of what is sent.
-/

import Mathlib.Data.List.Forall2
import Parley.Correlator.Reception
import Parley.Exchange.Event
import Parley.Exchange.Reply

namespace Parley

open Parley.Frame (Bytes)
open Parley.Link (Arrival)

namespace Exchange

/-! ### What arrives -/

/-- Task 0 serves these arrivals.  What is sent is kept, and there is room for one frame for
each arrival. -/
def serving (codec : Codec) (script : Engine.Script) (arrivals : List Arrival) : Exchange :=
  let idle : Exchange :=
    { link := .channels arrivals.length
      correlator := { codec, requestTimeout := none, retiredTtl := 0 }
      dispatcher := { codec }
      engine := script }
  (idle.serve (.script arrivals) (.link .right)).2

/-- An arrival after which a server goes on: a frame, or a fault that concerns one frame only.
Requests to shut down are left out. -/
def Passes (codec : Codec) : Arrival → Prop
  | .nothing => False
  | .frame frame => ∀ request, codec.decode frame = .ok request → asksShutdown request = false
  | .fault fault => fault.isProtocol = true
  | .ended => False

/-- An arrival after which there is no other: the peer is gone, or the connection has failed. -/
def Closes : Arrival → Prop
  | .nothing => False
  | .frame _ => False
  | .fault fault => fault.isProtocol = false
  | .ended => True

/-- What a server ends with after the last arrival. -/
def closing : Arrival → Except Fault Unit
  | .fault fault => .error fault
  | _ => .ok ()

/-- An arrival that is no request, or one for which the registry knows no reply. -/
def Clutter (codec : Codec) : Arrival → Prop
  | .nothing => False
  | .frame frame =>
      ∀ request, codec.decode frame = .ok request →
        ∀ expected, request.expectedReply? = some expected →
          codec.registry.template? expected = none
  | .fault fault => fault.isProtocol = true
  | .ended => False

/-! ### What is on record -/

/-- Whether an event comes about when nobody interferes. -/
def Event.isInner : Event → Bool
  | .step _ => true
  | .pass _ => true
  | _ => false

/-- Whether an event is a step of this task. -/
def Event.isStepOf (t : TaskId) : Event → Bool
  | .step u => u == t
  | _ => false

/-- What a task that serves takes with its next step. -/
def arriving? (e : Exchange) (t : TaskId) : Option Arrival :=
  match e.work? t with
  | some (.server { source := .script (arrival :: _), .. }) => some arrival
  | _ => none

/-- The frames that were sent to the right side. -/
def sent (e : Exchange) : List Bytes :=
  (e.link.outward .right).frames

/-- Every request that was taken is done with. -/
def Quiet (e : Exchange) : Prop :=
  ∀ t handler, e.work? t ≠ some (.handler handler)

/-- An exchange that serves, with what is on record. -/
structure Serving where
  exchange : Exchange
  /-- What was taken, each with the task that was added for it. -/
  taken : List (Arrival × Option TaskId) := []
  /-- What the handlers have come to. -/
  replies : List (TaskId × Except Fault Message) := []

namespace Serving

/-- The record after one more event. -/
def next (s : Serving) (event : Event) : Serving :=
  let before := s.exchange
  let after := before.happen event
  match event with
  | .step t =>
      let added := ((List.range after.tasks.length).drop before.tasks.length).head?
      { exchange := after
        taken := s.taken ++ (before.arriving? t).toList.map fun arrival => (arrival, added)
        replies := s.replies ++ (before.replyAt? t).toList.map fun reply => (t, reply) }
  | _ => { s with exchange := after }

/-- The record after some more events. -/
def run (s : Serving) (events : List Event) : Serving :=
  events.foldl next s

/-- A handler has come to its reply, once and for all. -/
def Comes (s : Serving) (t : TaskId) (reply : Except Fault Message) : Prop :=
  s.replies.filter (fun entry => entry.1 == t) = [(t, reply)]

end Serving

/-- What is sent in answer to an arrival that was taken. -/
inductive Answered (codec : Codec) (s : Serving) : Arrival × Option TaskId → Option Bytes → Prop
    where
  /-- There is no request in it. -/
  | skipped {arrival : Arrival}
      (hnone : ∀ frame request, arrival = .frame frame → codec.decode frame ≠ .ok request) :
      Answered codec s (arrival, none) none
  /-- There is no reply to the request; the registry knows none that is one. -/
  | refused {frame : Bytes} {request : Message} {t : TaskId} {fault : Fault}
      (hrequest : codec.decode frame = .ok request) (hcomes : s.Comes t (.error fault))
      (hnone : ∀ expected blank, request.expectedReply? = some expected →
        codec.registry.template? expected = some blank → blank.isReply = false) :
      Answered codec s (.frame frame, some t) none
  /-- There is no frame for the reply. -/
  | unsendable {frame : Bytes} {request reply : Message} {t : TaskId} {fault : Fault}
      (hrequest : codec.decode frame = .ok request) (hcomes : s.Comes t (.ok reply))
      (hframe : codec.encode reply = .error fault) : Answered codec s (.frame frame, some t) none
  /-- The frame of the reply is read as a message of the type that the request expects, with
  the id of the request. -/
  | answered {frame answer : Bytes} {request reply message : Message} {t : TaskId}
      (hrequest : codec.decode frame = .ok request) (hcomes : s.Comes t (.ok reply))
      (hframe : codec.encode reply = .ok answer) (hmessage : codec.decode answer = .ok message)
      (htype : request.expectedReply? = some message.tag)
      (hid : message.requestId = request.requestId) :
      Answered codec s (.frame frame, some t) (some answer)

/-- These frames may be all that is ever sent when a server meets these arrivals: the server has
ended and every request is done with. -/
def MaySend (codec : Codec) (script : Engine.Script) (arrivals : List Arrival)
    (frames : List Bytes) : Prop :=
  ∃ events : List Event, (∀ event ∈ events, event.isInner = true) ∧
    let now := (Serving.run { exchange := serving codec script arrivals } events).exchange
    (now.ended? 0).isSome = true ∧ now.Quiet ∧ now.sent = frames

/-- What a server does that meets these arrivals, and then the last one. -/
structure Serves (codec : Codec) (script : Engine.Script) (arrivals : List Arrival)
    (last : Arrival) : Prop where
  /-- Each turn of the server takes the next arrival.  The server goes on until it has taken
  the last one, and then it ends as that says. -/
  loop : ∀ events : List Event, (∀ event ∈ events, event.isInner = true) →
    let s := Serving.run { exchange := serving codec script (arrivals ++ [last]) } events
    let turns := events.countP (Event.isStepOf 0)
    s.taken.map Prod.fst = (arrivals ++ [last]).take turns ∧
    (turns ≤ arrivals.length → s.exchange.work? 0 = some (.server
      { source := .script ((arrivals ++ [last]).drop turns), sink := .link .right })) ∧
    (arrivals.length < turns → s.exchange.ended? 0 = some (.loop (closing last)))
  /-- When the requests that were taken are done with, one frame was sent for each of them whose
  reply has a frame, and none for anything else. -/
  answers : ∀ events : List Event, (∀ event ∈ events, event.isInner = true) →
    let s := Serving.run { exchange := serving codec script (arrivals ++ [last]) } events
    (s.taken.filterMap Prod.snd).Nodup ∧
    (s.exchange.Quiet → ∃ answers : List (Option Bytes),
      List.Forall₂ (Answered codec s) s.taken answers ∧
      s.exchange.sent.Perm (answers.filterMap id))
  /-- Clutter that is inserted anywhere neither adds to what may be sent nor takes from it. -/
  clutter : ∀ padded, Correlator.Padded (Clutter codec) padded arrivals →
    (∀ arrival ∈ padded, Passes codec arrival) →
    ∀ frames, MaySend codec script (padded ++ [last]) frames ↔
      MaySend codec script (arrivals ++ [last]) frames

end Exchange

end Parley
