/-
# Frames taken off a stream

A whole frame at the front of a stream is taken off as it is, and a part of a frame with
nothing behind it is no frame yet.
-/

import Parley.Frame.Stream
import Parley.Proofs.Frame.Body

namespace Parley.Frame

/-- A frame that a reader with this bound accepts. -/
def Whole (maxSize : Nat) (frame : Bytes) : Prop :=
  ∃ body, frame = sizedContent body ∧ body.length ≤ Stream.bodyLimit maxSize

/-- A whole frame has at least the bytes of its length. -/
theorem Whole.ne_nil {maxSize : Nat} {frame : Bytes} (h : Whole maxSize frame) : frame ≠ [] := by
  obtain ⟨body, rfl, -⟩ := h
  exact List.cons_ne_nil _ _

/-- A body within the limit has a length that fits into a word. -/
theorem lt_wordLimit_of_le_bodyLimit {length maxSize : Nat}
    (h : length ≤ Stream.bodyLimit maxSize) : length < wordLimit := by
  have hmax : length ≤ maxFrameSize := Nat.le_trans h (Nat.min_le_right _ _)
  simp only [maxFrameSize, wordLimit, UInt32.size] at *
  omega

/-- The length in front of a body is read off it. -/
theorem takeWord_length {n : Nat} (h : n < wordLimit) :
    takeWord "length" (word n) = .ok (n, []) := by
  have hvalue := ofWord_word h
  simp only [word, takeWord]
  rw [hvalue]

namespace Stream

/-- Bytes are taken off the front of a stream. -/
theorem takeBytes_append (bytes rest : Bytes) (ending : StreamEnd) :
    takeBytes ⟨bytes ++ rest, ending⟩ bytes.length = (.ok bytes, ⟨rest, ending⟩) := by
  have hle : ¬ (bytes ++ rest).length < bytes.length := by simp
  simp only [takeBytes, if_neg hle, List.take_left, List.drop_left]

/-- When a stream ends before that, the connection is closed. -/
theorem takeBytes_of_lt {bytes : Bytes} {count : Nat} (h : bytes.length < count) :
    takeBytes ⟨bytes, .closed⟩ count = (.error .connectionClosed, ⟨[], .closed⟩) := by
  simp only [takeBytes, if_pos h, endFault]

/-- A whole frame is taken off the stream. -/
theorem nextFrame_append {maxSize : Nat} {frame : Bytes} (h : Whole maxSize frame)
    (rest : Bytes) :
    nextFrame maxSize ⟨frame ++ rest, .closed⟩ = (.ok (some frame), ⟨rest, .closed⟩) := by
  obtain ⟨body, rfl, hsize⟩ := h
  have hheader : takeBytes ⟨word body.length ++ (body ++ rest), .closed⟩ wordSize =
      (.ok (word body.length), ⟨body ++ rest, .closed⟩) :=
    takeBytes_append (word body.length) (body ++ rest) .closed
  simp only [nextFrame, readFrame, sizedContent, List.append_assoc, hheader,
    takeWord_length (lt_wordLimit_of_le_bodyLimit hsize), takeBytes_append,
    if_neg (Nat.not_lt.2 hsize)]

/-- A part of a frame is no frame yet. -/
theorem nextFrame_part {maxSize : Nat} {part rest : Bytes} (h : Whole maxSize (part ++ rest))
    (hrest : rest ≠ []) : (nextFrame maxSize ⟨part, .closed⟩).1 = .ok none := by
  obtain ⟨body, hbody, hsize⟩ := h
  have hlength : (part ++ rest).length = wordSize + body.length := by
    rw [hbody, sizedContent, List.length_append, length_word]
  have hpos : 0 < rest.length := List.length_pos_iff.2 hrest
  rw [List.length_append] at hlength
  by_cases hshort : part.length < wordSize
  · simp only [nextFrame, readFrame, takeBytes_of_lt hshort]
  · -- the length has come, but not all of the body
    obtain ⟨begun, rfl⟩ : ∃ begun, part = word body.length ++ begun := by
      have hword : word body.length <+: part ++ rest := by
        rw [hbody]
        exact List.prefix_append _ _
      have hprefix : word body.length <+: part :=
        List.prefix_of_prefix_length_le hword (List.prefix_append _ _) (Nat.not_lt.1 hshort)
      obtain ⟨begun, hbegun⟩ := hprefix
      exact ⟨begun, hbegun.symm⟩
    have hheader : takeBytes ⟨word body.length ++ begun, .closed⟩ wordSize =
        (.ok (word body.length), ⟨begun, .closed⟩) :=
      takeBytes_append (word body.length) begun .closed
    have hbegun : begun.length < body.length := by
      rw [List.length_append, length_word] at hlength
      omega
    simp only [nextFrame, readFrame, hheader,
      takeWord_length (lt_wordLimit_of_le_bodyLimit hsize), takeBytes_of_lt hbegun]

end Stream

end Parley.Frame
