/-
# Streams that deliver in pieces

A read takes what has come, which is never more than one piece and never more than there
is room for.  A read that takes nothing has met the end.  So a frame is read by reading
again and again until all of it is there.

A frame that is too large goes another way.  It is copied through a buffer to nowhere, and
what decides is how many of its bytes have come.
-/

import Parley.Frame.Stream

namespace Parley.Frame

/-- What a stream will still deliver, and where it divides. -/
structure Pieces where
  pieces : List Bytes
  ending : StreamEnd

namespace Pieces

/-- The stream without its divisions. -/
def whole (s : Pieces) : Stream :=
  .ofPieces s.pieces s.ending

/-- The size of the buffer through which bytes are copied. -/
def bufferSize : Nat := 8 * 1024

/-- Read once.  Nothing is read at the end only. -/
def read (room : Nat) (s : Pieces) : Except Fault Bytes × Pieces :=
  match s.pieces.dropWhile List.isEmpty with
  | [] =>
      match s.ending with
      | .closed => (.ok [], { s with pieces := [] })
      | .failed e => (.error (.ofStreamError e), { s with pieces := [] })
  | piece :: rest => (.ok (piece.take room), { s with pieces := piece.drop room :: rest })

/-- Read until `count` bytes are there. -/
def readExact (count : Nat) (s : Pieces) : Except Fault Bytes × Pieces :=
  if count = 0 then (.ok [], s)
  else
    match s.read count with
    | (.error fault, s) => (.error fault, s)
    | (.ok data, s) =>
        if data.length = 0 then (.error .connectionClosed, s)
        else
          let (outcome, s) := readExact (count - data.length) s
          (outcome.map (data ++ ·), s)
termination_by count

/-- Let `count` bytes go, or all that still come when there are not so many.  The outcome
is how many there were. -/
def skip (count : Nat) (s : Pieces) : Except Fault Nat × Pieces :=
  if count = 0 then (.ok 0, s)
  else
    match s.read (min bufferSize count) with
    | (.error fault, s) => (.error fault, s)
    | (.ok data, s) =>
        if data.length = 0 then (.ok 0, s)
        else
          let (outcome, s) := skip (count - data.length) s
          (outcome.map (data.length + ·), s)
termination_by count

/-- Read one frame, its length included. -/
def readFrame (maxSize : Nat) (s : Pieces) : Except Fault Bytes × Pieces :=
  match s.readExact wordSize with
  | (.error fault, s) => (.error fault, s)
  | (.ok header, s) =>
      match takeWord "length" header with
      | .error fault => (.error fault, s)
      | .ok (length, _) =>
          if Stream.bodyLimit maxSize < length then
            match s.skip length with
            | (.error fault, s) => (.error fault, s)
            | (.ok skipped, s) =>
                if skipped < length then (.error .connectionClosed, s)
                else (.error (oversized length (Stream.bodyLimit maxSize)), s)
          else
            match s.readExact length with
            | (.error fault, s) => (.error fault, s)
            | (.ok body, s) => (.ok (header ++ body), s)

/-- Read one frame; a peer that is gone is the end and no fault. -/
def nextFrame (maxSize : Nat) (s : Pieces) : Except Fault (Option Bytes) × Pieces :=
  match s.readFrame maxSize with
  | (.ok frame, s) => (.ok (some frame), s)
  | (.error .connectionClosed, s) => (.ok none, s)
  | (.error e, s) => (.error e, s)

/-- Read one frame as `readFrame` does; there is no end but a fault. -/
def someFrame (maxSize : Nat) (s : Pieces) : Except Fault (Option Bytes) × Pieces :=
  let (outcome, rest) := s.readFrame maxSize
  (outcome.map some, rest)

/-- What a reader meets that reads frame after frame, for at most `fuel` frames. -/
def readAllWithin (next : Pieces → Except Fault (Option Bytes) × Pieces) :
    Nat → Pieces → List (Except Fault (Option Bytes))
  | 0, _ => []
  | fuel + 1, s =>
      let (outcome, rest) := next s
      if Stream.isLast outcome then [outcome] else outcome :: readAllWithin next fuel rest

/-- What a reader meets that reads frame after frame until the stream is over. -/
def readAll (next : Pieces → Except Fault (Option Bytes) × Pieces) (s : Pieces) :
    List (Except Fault (Option Bytes)) :=
  readAllWithin next (s.whole.bytes.length + 1) s

end Pieces

end Parley.Frame
