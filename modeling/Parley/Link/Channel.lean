/-
# Channels of frames

A channel holds a bounded number of frames.  Senders that find it full wait in the
order in which they came; room goes to the first of them, so that nobody overtakes.
A channel whose receiver is gone refuses frames.  One whose senders are gone ends
once it is empty.
-/

import Parley.Fault
import Parley.Frame.Word
import Parley.Schedule

namespace Parley.Link

open Parley.Frame (Bytes)

/-- What became of an attempt to send. -/
inductive Attempt where
  /-- All is on its way. -/
  | sent
  /-- There is no room yet; these bytes are still to be sent. -/
  | blocked (rest : Bytes)
  | refused (fault : Fault)
deriving DecidableEq

/-- What a receiver meets. -/
inductive Arrival where
  /-- Nothing yet. -/
  | nothing
  | frame (bytes : Bytes)
  /-- Something arrived that is no frame, or the connection failed. -/
  | fault (fault : Fault)
  /-- The peer is gone. -/
  | ended
deriving DecidableEq

/-- A bounded channel. -/
structure Channel where
  capacity : Nat
  queue : List Bytes := []
  /-- Senders that wait for room, in the order of their arrival. -/
  waiting : List TaskId := []
  senderGone : Bool := false
  receiverGone : Bool := false
deriving DecidableEq

namespace Channel

/-- An empty channel; it has room for one frame at least. -/
def withCapacity (capacity : Nat) : Channel :=
  { capacity := max capacity 1 }

/-- Number of frames that still fit. -/
def room (c : Channel) : Nat :=
  c.capacity - c.queue.length

/-- The senders for whom there is room. -/
def admitted (c : Channel) : List TaskId :=
  if c.receiverGone then c.waiting else c.waiting.take c.room

/-- Forget a sender that waits. -/
def leave (c : Channel) (who : TaskId) : Channel :=
  { c with waiting := c.waiting.filter (· != who) }

/-- Try to send a frame.  A sender that is not admitted waits at the end. -/
def send (c : Channel) (who : TaskId) (frame : Bytes) : Attempt × Channel :=
  if c.receiverGone then (.refused .connectionClosed, c.leave who)
  else
    let place := c.waiting.findIdx (· == who)
    if place < c.room then
      (.sent, { c.leave who with queue := c.queue ++ [frame] })
    else if who ∈ c.waiting then (.blocked frame, c)
    else (.blocked frame, { c with waiting := c.waiting ++ [who] })

/-- Take the next frame. -/
def receive (c : Channel) : Arrival × Channel :=
  match c.queue with
  | frame :: rest => (.frame frame, { c with queue := rest })
  | [] => (if c.senderGone then .ended else .nothing, c)

end Channel

end Parley.Link
