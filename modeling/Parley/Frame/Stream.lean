/-
# Frames on a byte stream

A stream is what it will still deliver: pieces of bytes, then its end or an error.
Reading takes one frame off the front, wherever the pieces divide.  A frame that is
too large is taken off whole and reported, so that the next one is read from its
beginning.
-/

import Parley.Frame.Codec

namespace Parley.Frame

/-- How a stream goes on after its bytes. -/
inductive StreamEnd where
  | closed
  | failed (e : StreamError)
deriving DecidableEq, Repr

/-- What a stream will still deliver. -/
structure Stream where
  bytes : Bytes
  ending : StreamEnd

namespace Stream

/-- A stream that delivers its bytes in pieces. -/
def ofPieces (pieces : List Bytes) (ending : StreamEnd) : Stream :=
  ⟨pieces.flatten, ending⟩

/-- What a reader meets that asks for more bytes than the stream delivers. -/
def endFault (s : Stream) : Fault :=
  match s.ending with
  | .closed => .connectionClosed
  | .failed e => .ofStreamError e

/-- Take `count` bytes, or all that are left when there are not so many. -/
def takeBytes (s : Stream) (count : Nat) : Except Fault Bytes × Stream :=
  if s.bytes.length < count then (.error s.endFault, { s with bytes := [] })
  else (.ok (s.bytes.take count), { s with bytes := s.bytes.drop count })

/-- The largest body accepted by a reader with this bound. -/
def bodyLimit (maxSize : Nat) : Nat :=
  min maxSize maxFrameSize

/-- Take one frame off the stream, its length included. -/
def readFrame (maxSize : Nat) (s : Stream) : Except Fault Bytes × Stream :=
  match s.takeBytes wordSize with
  | (.error e, s) => (.error e, s)
  | (.ok header, s) =>
      match takeWord "length" header with
      | .error e => (.error e, s)
      | .ok (length, _) =>
          match s.takeBytes length with
          | (.error e, s) => (.error e, s)
          | (.ok body, s) =>
              if bodyLimit maxSize < length then
                (.error (oversized length (bodyLimit maxSize)), s)
              else (.ok (header ++ body), s)

/-- Take one frame off the stream; a peer that is gone is the end and no fault. -/
def nextFrame (maxSize : Nat) (s : Stream) : Except Fault (Option Bytes) × Stream :=
  match s.readFrame maxSize with
  | (.ok frame, s) => (.ok (some frame), s)
  | (.error .connectionClosed, s) => (.ok none, s)
  | (.error e, s) => (.error e, s)

/-- Whether a reader stops at this outcome: only a fault that concerns one frame leaves
something to read after it. -/
def isLast : Except Fault (Option Bytes) → Bool
  | .ok (some _) => false
  | .ok none => true
  | .error fault => !fault.isProtocol

/-- What a reader meets that takes frame after frame, for at most `fuel` frames. -/
def readAllWithin (next : Stream → Except Fault (Option Bytes) × Stream) :
    Nat → Stream → List (Except Fault (Option Bytes))
  | 0, _ => []
  | fuel + 1, s =>
      let (outcome, rest) := next s
      if isLast outcome then [outcome] else outcome :: readAllWithin next fuel rest

/-- What a reader meets that takes frame after frame until the stream is over.  Every
frame takes bytes off the stream, so there are not more frames than bytes. -/
def readAll (next : Stream → Except Fault (Option Bytes) × Stream) (s : Stream) :
    List (Except Fault (Option Bytes)) :=
  readAllWithin next (s.bytes.length + 1) s

/-- Take one frame off the stream as `readFrame` does; there is no end but a fault. -/
def someFrame (maxSize : Nat) (s : Stream) : Except Fault (Option Bytes) × Stream :=
  let (outcome, rest) := s.readFrame maxSize
  (outcome.map some, rest)

end Stream

/-- A writer that takes at most `perWrite` bytes at a time and `capacity` bytes in
all.  Once full it takes nothing more, or fails; flushing may fail as well. -/
structure Writer where
  perWrite : Nat
  capacity : Nat
  onFull : Option StreamError := none
  onFlush : Option StreamError := none
  written : Bytes := []
  flushes : Nat := 0

namespace Writer

/-- The error of a writer that takes nothing. -/
def writeZero : StreamError := ⟨.writeZero, "write zero"⟩

/-- Write bytes in pieces until all are taken; `fuel` bounds the number of pieces. -/
def writeAll : Nat → Bytes → Writer → Except Fault Unit × Writer
  | _, [], w => (.ok (), w)
  | 0, _ :: _, w => (.error (.ofStreamError writeZero), w)
  | fuel + 1, bytes, w =>
      let room := w.capacity - w.written.length
      if room = 0 then (.error (.ofStreamError (w.onFull.getD writeZero)), w)
      else
        let count := min (min w.perWrite room) bytes.length
        if count = 0 then (.error (.ofStreamError writeZero), w)
        else
          writeAll fuel (bytes.drop count) { w with written := w.written ++ bytes.take count }

/-- Write a whole frame and flush. -/
def writeFrame (frame : Bytes) (w : Writer) : Except Fault Unit × Writer :=
  match writeAll frame.length frame w with
  | (.error e, w) => (.error e, w)
  | (.ok _, w) =>
      let w := { w with flushes := w.flushes + 1 }
      match w.onFlush with
      | some e => (.error (.ofStreamError e), w)
      | none => (.ok (), w)

/-- Write frames one after the other, whatever becomes of each. -/
def writeFrames : List Bytes → Writer → List (Except Fault Unit) × Writer
  | [], w => ([], w)
  | frame :: rest, w =>
      let (outcome, w) := w.writeFrame frame
      let (outcomes, w) := writeFrames rest w
      (outcome :: outcomes, w)

end Writer

end Parley.Frame
