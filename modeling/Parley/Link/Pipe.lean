/-
# Pipes of bytes

A pipe carries bytes between two ends of a stream and buffers a bounded number of
them.  One frame is written at a time: other senders wait until it is written
whole, also when the buffer is too small for it and it is written in parts.  The
reader takes all that belongs to the frame it is reading, as it comes, and keeps
the part of a frame that has not come to its end.
-/

import Parley.Frame.Stream
import Parley.Link.Channel

namespace Parley.Link

open Parley.Frame (Bytes)

/-- One direction of a stream. -/
structure Pipe where
  capacity : Nat
  buffer : Bytes := []
  /-- The senders; the first of them is writing. -/
  writers : List TaskId := []
  senderGone : Bool := false
  receiverGone : Bool := false
deriving DecidableEq

namespace Pipe

/-- The fault of writing to a stream whose other end is gone. -/
def broken : Fault :=
  .ofStreamError ⟨.brokenPipe, "broken pipe"⟩

/-- Number of bytes that still fit. -/
def room (p : Pipe) : Nat :=
  p.capacity - p.buffer.length

/-- The sender that may go on writing. -/
def admitted (p : Pipe) : List TaskId :=
  if p.receiverGone || p.room != 0 then p.writers.take 1 else []

/-- Forget a sender.  What it has written stays. -/
def leave (p : Pipe) (who : TaskId) : Pipe :=
  { p with writers := p.writers.filter (· != who) }

/-- Write as much as fits when it is this sender's turn.  Nothing has to fit when
there is nothing to write. -/
def send (p : Pipe) (who : TaskId) (bytes : Bytes) : Attempt × Pipe :=
  let p := if who ∈ p.writers then p else { p with writers := p.writers ++ [who] }
  if p.writers.head? ≠ some who then (.blocked bytes, p)
  else if bytes.isEmpty then (.sent, p.leave who)
  else if p.receiverGone then (.refused broken, p.leave who)
  else if bytes.length ≤ p.room then (.sent, { p.leave who with buffer := p.buffer ++ bytes })
  else (.blocked (bytes.drop p.room), { p with buffer := p.buffer ++ bytes.take p.room })

/-- Take the next frame.  `held` is the part of it that was taken before; when the
frame is still not whole, all that has come is held from now on. -/
def receive (p : Pipe) (maxSize : Nat) (held : Bytes) : Arrival × Bytes × Pipe :=
  match Frame.Stream.nextFrame maxSize ⟨held ++ p.buffer, .closed⟩ with
  | (.ok (some frame), rest) => (.frame frame, [], { p with buffer := rest.bytes })
  | (.error fault, rest) => (.fault fault, [], { p with buffer := rest.bytes })
  | (.ok none, _) =>
      if p.senderGone then (.ended, [], { p with buffer := [] })
      else (.nothing, held ++ p.buffer, { p with buffer := [] })

end Pipe

end Parley.Link
