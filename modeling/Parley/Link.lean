/-
# Links

A link connects two sides.  Each side has a sink, into which it sends frames, and a
source, from which it receives the frames of the other side.  The two directions of
a link are channels of frames or the pipes of one stream.

A side may release its halves one by one.  The directions of a channel link are
independent: to release a sink ends the other side's source, and to release a
source makes the other side's sink refuse.  A stream is closed only when a side has
released both of its halves; then both directions close at once.
-/

import Parley.Link.Pipe

namespace Parley

open Parley.Frame (Bytes)

namespace Link

/-- The sides of a link. -/
inductive Side where
  | left
  | right
deriving DecidableEq, Repr

/-- The other side. -/
def Side.other : Side → Side
  | .left => .right
  | .right => .left

/-- One direction of a link. -/
inductive Lane where
  | channel (c : Channel)
  | pipe (p : Pipe)
deriving DecidableEq

namespace Lane

/-- Try to send. -/
def send (lane : Lane) (who : TaskId) (bytes : Bytes) : Attempt × Lane :=
  match lane with
  | .channel c => let (attempt, c) := c.send who bytes; (attempt, .channel c)
  | .pipe p => let (attempt, p) := p.send who bytes; (attempt, .pipe p)

/-- Take the next frame; `held` is the part of it that was taken before. -/
def receive (lane : Lane) (maxSize : Nat) (held : Bytes) : Arrival × Bytes × Lane :=
  match lane with
  | .channel c => let (arrival, c) := c.receive; (arrival, held, .channel c)
  | .pipe p => let (arrival, held, p) := p.receive maxSize held; (arrival, held, .pipe p)

/-- Forget a sender that waits. -/
def leave (lane : Lane) (who : TaskId) : Lane :=
  match lane with
  | .channel c => .channel (c.leave who)
  | .pipe p => .pipe (p.leave who)

/-- The senders that may go on. -/
def admitted : Lane → List TaskId
  | .channel c => c.admitted
  | .pipe p => p.admitted

/-- No more will be sent. -/
def closeSender : Lane → Lane
  | .channel c => .channel { c with senderGone := true }
  | .pipe p => .pipe { p with senderGone := true }

/-- No more will be received.  Frames in a channel are lost. -/
def closeReceiver : Lane → Lane
  | .channel c => .channel { c with receiverGone := true, queue := [] }
  | .pipe p => .pipe { p with receiverGone := true }

/-- Whether no more will be sent. -/
def senderGone : Lane → Bool
  | .channel c => c.senderGone
  | .pipe p => p.senderGone

/-- How much can be received without anything being sent, at most. -/
def load : Lane → Nat
  | .channel c => c.queue.length
  | .pipe p => p.buffer.length

/-- What can be received without anything being sent. -/
def bytes : Lane → Bytes
  | .channel c => c.queue.flatten
  | .pipe p => p.buffer

/-- The frames that are on their way in a channel; a pipe carries bytes. -/
def frames : Lane → List Bytes
  | .channel c => c.queue
  | .pipe _ => []

end Lane

/-- Which halves a side still holds. -/
structure Halves where
  source : Bool := true
  sink : Bool := true
deriving DecidableEq, Repr

end Link

/-- A link between two sides. -/
structure Link where
  /-- Whether the halves of a side close together. -/
  joint : Bool
  /-- What the left side sends. -/
  rightward : Link.Lane
  /-- What the right side sends. -/
  leftward : Link.Lane
  left : Link.Halves := {}
  right : Link.Halves := {}
deriving DecidableEq

namespace Link

/-- A link of two channels of one capacity. -/
def channels (capacity : Nat) : Link where
  joint := false
  rightward := .channel (.withCapacity capacity)
  leftward := .channel (.withCapacity capacity)

/-- A link of one stream that buffers `capacity` bytes in each direction. -/
def stream (capacity : Nat) : Link where
  joint := true
  rightward := .pipe { capacity }
  leftward := .pipe { capacity }

/-- What a side sends. -/
def outward (l : Link) : Side → Lane
  | .left => l.rightward
  | .right => l.leftward

/-- What a side receives. -/
def inward (l : Link) (side : Side) : Lane :=
  l.outward side.other

/-- The halves that a side holds. -/
def halves (l : Link) : Side → Halves
  | .left => l.left
  | .right => l.right

/-- Replace what a side sends. -/
def setOutward (l : Link) (side : Side) (lane : Lane) : Link :=
  match side with
  | .left => { l with rightward := lane }
  | .right => { l with leftward := lane }

/-- Replace what a side receives. -/
def setInward (l : Link) (side : Side) (lane : Lane) : Link :=
  l.setOutward side.other lane

/-- Replace the halves that a side holds. -/
def setHalves (l : Link) (side : Side) (halves : Halves) : Link :=
  match side with
  | .left => { l with left := halves }
  | .right => { l with right := halves }

/-- Try to send from a side. -/
def send (l : Link) (side : Side) (who : TaskId) (bytes : Bytes) : Attempt × Link :=
  let (attempt, lane) := (l.outward side).send who bytes
  (attempt, l.setOutward side lane)

/-- Take the next frame that a side receives. -/
def receive (l : Link) (side : Side) (maxSize : Nat) (held : Bytes) : Arrival × Bytes × Link :=
  let (arrival, held, lane) := (l.inward side).receive maxSize held
  (arrival, held, l.setInward side lane)

/-- Close both directions of a side as far as its halves are released. -/
def settleHalves (l : Link) (side : Side) : Link :=
  let h := l.halves side
  let sourceOpen := if l.joint then h.source || h.sink else h.source
  let sinkOpen := if l.joint then h.source || h.sink else h.sink
  let l := if sinkOpen then l else l.setOutward side (l.outward side).closeSender
  if sourceOpen then l else l.setInward side (l.inward side).closeReceiver

/-- A side releases its source. -/
def releaseSource (l : Link) (side : Side) : Link :=
  (l.setHalves side { l.halves side with source := false }).settleHalves side

/-- A side releases its sink. -/
def releaseSink (l : Link) (side : Side) : Link :=
  (l.setHalves side { l.halves side with sink := false }).settleHalves side

end Link

end Parley
