/-
# Two ways of a frame

The request in a frame is handled for whoever hands the frame over and waits for the frame
of the reply, or it is served: then the handler is a task of its own and sends the frame of
the reply.  The two differ in the purpose of the handler and in nothing else.
-/

import Parley.Exchange.Reply
import Parley.Exchange.Run

namespace Parley.Exchange

/-- Serve the request in a frame; a frame without one is dropped. -/
def serveFrame (e : Exchange) (frame : Frame.Bytes) (sink : Sink) : Exchange :=
  match e.dispatcher.codec.decode frame with
  | .ok request => (e.spawn (.handler { request, purpose := .send sink })).2
  | .error _ => e

/-- What a handler has that is at this work, for another purpose. -/
def Work.withPurpose (purpose : Purpose) : Work → Work
  | .handler h => .handler { h with purpose }
  | work => work

/-- The exchange in which a handler has another purpose. -/
def withPurpose (e : Exchange) (t : TaskId) (purpose : Purpose) : Exchange :=
  { e with
    tasks := e.tasks.modify t fun task => { task with work := task.work.withPurpose purpose } }

/-- Whether a handler with this purpose holds the sink of a side of the link. -/
def Purpose.sendsTo (side : Link.Side) : Purpose → Bool
  | .send (.link s) => s == side
  | _ => false

/-- A task does not hold the sink that a handler with this purpose sends to. -/
def Apart (e : Exchange) (purpose : Purpose) (u : TaskId) : Prop :=
  ∀ side, purpose.sendsTo side = true → (e.work? u).any (Work.sendsTo side) = false

/-- No other task that holds the sink of a purpose comes to its end during these events. -/
def KeepsSink (e : Exchange) (purpose : Purpose) (t : TaskId) : List Event → Prop
  | [] => True
  | event :: events =>
      (∀ u, event = .step u → u ≠ t →
        e.Apart purpose u ∨ (e.happen event).ended? u = none) ∧
      KeepsSink (e.happen event) purpose t events

end Parley.Exchange
