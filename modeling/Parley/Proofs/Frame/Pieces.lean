/-
# Readers stay aligned

A stream that comes in pieces is read as if it came at once (`Pieces.readFrame_whole`).
The frames that are too large and go the way through a buffer are taken off the stream as
the others are.  So the bytes of a stream alone decide where its frames begin: they are
frames and then the beginning of one (`exists_divides`, `Divides.unique`), whatever the
bound of the reader, and a reader meets one outcome for each (`frames_aligned`).
-/

import Parley.Frame.Pieces
import Parley.Proofs.Frame.Exact
import Parley.Proofs.Frame.Stream

namespace Parley.Frame

/-! ### Reading in pieces -/

/-- What is taken may be taken in two parts. -/
theorem Stream.takeBytes_append_of_le {data rest : Bytes} {count : Nat} (h : data.length ≤ count)
    (ending : StreamEnd) :
    takeBytes ⟨data ++ rest, ending⟩ count =
      Prod.map (Except.map (data ++ ·)) id (takeBytes ⟨rest, ending⟩ (count - data.length)) := by
  have hlength : (data ++ rest).length < count ↔ rest.length < count - data.length := by
    rw [List.length_append]
    omega
  by_cases hshort : rest.length < count - data.length
  · simp only [takeBytes, if_pos hshort, if_pos (hlength.2 hshort)]
    rfl
  · simp only [takeBytes, if_neg hshort, if_neg (mt hlength.1 hshort)]
    rw [List.take_append, List.take_of_length_le h, List.drop_append, List.drop_of_length_le h]
    rfl

namespace Pieces

/-- Empty pieces add nothing to the whole. -/
theorem flatten_dropWhile_isEmpty (pieces : List Bytes) :
    (pieces.dropWhile List.isEmpty).flatten = pieces.flatten := by
  induction pieces with
  | nil => rfl
  | cons piece rest ih =>
    cases piece with
    | nil => simpa using ih
    | cons byte more => rfl

/-- A read meets the end of the stream, or it takes some of the bytes off its front. -/
theorem read_cases {room : Nat} (hroom : 0 < room) (s : Pieces) :
    (s.whole.bytes = [] ∧
      s.read room = (match s.ending with
        | .closed => .ok []
        | .failed e => .error (.ofStreamError e), ⟨[], s.ending⟩)) ∨
    ∃ data after, s.read room = (.ok data, ⟨after, s.ending⟩) ∧ 0 < data.length ∧
      data.length ≤ room ∧ s.whole.bytes = data ++ after.flatten := by
  have hflat := flatten_dropWhile_isEmpty s.pieces
  rw [read]
  cases hdrop : s.pieces.dropWhile List.isEmpty with
  | nil =>
    rw [hdrop] at hflat
    refine .inl ⟨hflat.symm, ?_⟩
    cases s.ending <;> rfl
  | cons piece rest =>
    rw [hdrop] at hflat
    have hsome : piece ≠ [] := by
      have hhead := List.head_dropWhile_not (l := s.pieces) List.isEmpty (by simp [hdrop])
      simpa [hdrop] using hhead
    have hpos : 0 < piece.length := List.length_pos_iff.2 hsome
    refine .inr ⟨piece.take room, piece.drop room :: rest, rfl, ?_, ?_, ?_⟩
    · rw [List.length_take]
      omega
    · rw [List.length_take]
      omega
    · rw [List.flatten_cons, ← List.append_assoc, List.take_append_drop, ← List.flatten_cons]
      exact hflat.symm

/-- Reading until the bytes are there takes them off the stream, wherever it divides. -/
theorem readExact_whole (count : Nat) (s : Pieces) :
    Prod.map id whole (s.readExact count) = s.whole.takeBytes count := by
  induction count using Nat.strongRecOn generalizing s with
  | ind count ih =>
    rw [readExact]
    by_cases hzero : count = 0
    · subst hzero
      rfl
    rw [if_neg hzero]
    obtain ⟨hempty, hread⟩ | ⟨data, after, hread, hpos, hle, hbytes⟩ :=
      read_cases (Nat.pos_of_ne_zero hzero) s
    · have hlt : s.whole.bytes.length < count := by
        rw [hempty]
        exact Nat.pos_of_ne_zero hzero
      rw [hread, Stream.takeBytes, if_pos hlt]
      cases hending : s.ending <;> simp [whole, Stream.ofPieces, Stream.endFault, hending]
    · have hrest := ih (count - data.length) (by omega) ⟨after, s.ending⟩
      have hwhole : s.whole = ⟨data ++ after.flatten, s.ending⟩ := by rw [← hbytes]; rfl
      rw [hread, hwhole, Stream.takeBytes_append_of_le hle]
      simp only [if_neg (Nat.ne_of_gt hpos)]
      exact congrArg (Prod.map (Except.map (data ++ ·)) id) hrest

/-- Of a stream that has enough bytes the right number is skipped. -/
theorem skip_of_le {count : Nat} {s : Pieces} (h : count ≤ s.whole.bytes.length) :
    Prod.map id whole (s.skip count) = (.ok count, ⟨s.whole.bytes.drop count, s.ending⟩) := by
  induction count using Nat.strongRecOn generalizing s with
  | ind count ih =>
    rw [skip]
    by_cases hzero : count = 0
    · subst hzero
      rfl
    rw [if_neg hzero]
    have hroom : 0 < min bufferSize count :=
      Nat.lt_min.2 ⟨by decide, Nat.pos_of_ne_zero hzero⟩
    obtain ⟨hempty, -⟩ | ⟨data, after, hread, hpos, hle, hbytes⟩ := read_cases hroom s
    · rw [hempty] at h
      exact absurd (Nat.le_zero.1 h) hzero
    · have hcount : data.length ≤ count := Nat.le_trans hle (Nat.min_le_right _ _)
      have hmore : count - data.length ≤ (whole ⟨after, s.ending⟩).bytes.length := by
        rw [hbytes, List.length_append] at h
        exact Nat.sub_le_iff_le_add'.2 h
      have hrest := ih (count - data.length) (by omega) hmore
      have hdrop : s.whole.bytes.drop count = after.flatten.drop (count - data.length) := by
        rw [hbytes, List.drop_append, List.drop_of_length_le hcount, List.nil_append]
      rw [hread, hdrop]
      simp only [if_neg (Nat.ne_of_gt hpos)]
      refine (congrArg (Prod.map (Except.map (data.length + ·)) id) hrest).trans ?_
      simp only [Prod.map, Except.map, Nat.add_sub_cancel' hcount]
      rfl

/-- Of a stream that has not enough bytes all are skipped. -/
theorem skip_of_lt {count : Nat} {s : Pieces} (h : s.whole.bytes.length < count) :
    Prod.map id whole (s.skip count) =
      (match s.ending with
        | .closed => .ok s.whole.bytes.length
        | .failed e => .error (.ofStreamError e), ⟨[], s.ending⟩) := by
  induction count using Nat.strongRecOn generalizing s with
  | ind count ih =>
    have hzero : count ≠ 0 := Nat.ne_of_gt (Nat.zero_lt_of_lt h)
    rw [skip, if_neg hzero]
    have hroom : 0 < min bufferSize count :=
      Nat.lt_min.2 ⟨by decide, Nat.pos_of_ne_zero hzero⟩
    obtain ⟨hempty, hread⟩ | ⟨data, after, hread, hpos, hle, hbytes⟩ := read_cases hroom s
    · rw [hread, hempty]
      cases s.ending <;> rfl
    · have hmore : (whole ⟨after, s.ending⟩).bytes.length < count - data.length := by
        rw [hbytes, List.length_append] at h
        exact Nat.lt_sub_iff_add_lt'.2 h
      have hrest := ih (count - data.length) (by omega) hmore
      rw [hread, hbytes, List.length_append]
      simp only [if_neg (Nat.ne_of_gt hpos)]
      refine (congrArg (Prod.map (Except.map (data.length + ·)) id) hrest).trans ?_
      cases s.ending <;> rfl

/-- A frame that is let go is reported when all of it came, and else the end of the stream
is, as if its bytes had been taken. -/
theorem skip_reports (count : Nat) (s : Pieces) (report : Fault) :
    (Prod.map id whole
      (match s.skip count with
        | (.error fault, s) => (.error fault, s)
        | (.ok skipped, s) =>
            if skipped < count then (.error .connectionClosed, s) else (.error report, s)) :
      Except Fault Bytes × Stream) =
    match s.whole.takeBytes count with
    | (.error fault, s) => (.error fault, s)
    | (.ok _, s) => (.error report, s) := by
  generalize hskipped : s.skip count = skipped
  obtain ⟨outcome, left⟩ := skipped
  by_cases hshort : s.whole.bytes.length < count
  · have hskip := skip_of_lt hshort
    rw [hskipped] at hskip
    obtain ⟨houtcome, hleft⟩ := Prod.mk.inj hskip
    have hend : s.whole.ending = s.ending := rfl
    simp only [Stream.takeBytes, if_pos hshort, Stream.endFault, hend]
    cases hending : s.ending with
    | closed =>
      rw [hending] at houtcome hleft
      obtain rfl : outcome = .ok s.whole.bytes.length := houtcome
      simp only [Prod.map, if_pos hshort, hleft, id_eq]
    | failed e =>
      rw [hending] at houtcome hleft
      obtain rfl : outcome = .error (.ofStreamError e) := houtcome
      simp only [Prod.map, hleft, id_eq]
  · have hskip := skip_of_le (Nat.le_of_not_lt hshort)
    rw [hskipped] at hskip
    obtain ⟨houtcome, hleft⟩ := Prod.mk.inj hskip
    obtain rfl : outcome = .ok count := houtcome
    simp only [Stream.takeBytes, if_neg hshort, Prod.map, Nat.lt_irrefl, if_false, hleft, id_eq]
    rfl

/-- A frame in pieces is read as if it came at once.  The way of the frames that are too
large takes as many bytes off the stream as the other. -/
theorem readFrame_whole (maxSize : Nat) (s : Pieces) :
    Prod.map id whole (s.readFrame maxSize) = s.whole.readFrame maxSize := by
  rw [readFrame, Stream.readFrame, ← readExact_whole wordSize s]
  obtain ⟨fault | header, after⟩ := s.readExact wordSize
  · rfl
  simp only [Prod.map_apply, id_eq]
  cases takeWord "length" header with
  | error fault => rfl
  | ok read =>
    obtain ⟨length, rest⟩ := read
    by_cases hlimit : Stream.bodyLimit maxSize < length
    · simp only [if_pos hlimit]
      exact skip_reports length after (oversized length (Stream.bodyLimit maxSize))
    · simp only [if_neg hlimit, ← readExact_whole length after]
      obtain ⟨fault | body, left⟩ := after.readExact length
      · rfl
      · rfl

/-- The next frame, or the end, is the same whether the bytes come in pieces or at once. -/
theorem nextFrame_whole (maxSize : Nat) (s : Pieces) :
    Prod.map id whole (s.nextFrame maxSize) = s.whole.nextFrame maxSize := by
  rw [nextFrame, Stream.nextFrame, ← readFrame_whole]
  obtain ⟨fault | frame, after⟩ := s.readFrame maxSize
  · cases fault <;> rfl
  · rfl

/-- The next frame is the same in pieces for a reader to which the end is a fault. -/
theorem someFrame_whole (maxSize : Nat) (s : Pieces) :
    Prod.map id whole (s.someFrame maxSize) = s.whole.someFrame maxSize := by
  rw [someFrame, Stream.someFrame, ← readFrame_whole]
  rfl

/-- What a reader meets on the whole stream does not depend on where it divides. -/
theorem readAll_whole {next : Pieces → Except Fault (Option Bytes) × Pieces}
    {next' : Stream → Except Fault (Option Bytes) × Stream}
    (hnext : ∀ s, Prod.map id whole (next s) = next' s.whole) (s : Pieces) :
    readAll next s = Stream.readAll next' s.whole := by
  rw [readAll, Stream.readAll]
  generalize s.whole.bytes.length + 1 = fuel
  induction fuel generalizing s with
  | zero => rfl
  | succ fuel ih =>
    simp only [readAllWithin, Stream.readAllWithin, ← hnext s, Prod.map_fst, Prod.map_snd, id_eq,
      ih]

end Pieces

/-! ### Where frames begin -/

/-- The beginning of a frame: not all of its length, or not all of its body. -/
def Incomplete (part : Bytes) : Prop :=
  part.length < wordSize ∨
  ∃ length begun, length < wordLimit ∧ part = word length ++ begun ∧ begun.length < length

/-- What a reader makes of the frame of a body. -/
def verdict (maxSize : Nat) (body : Bytes) : Except Fault Bytes :=
  if body.length ≤ Stream.bodyLimit maxSize then .ok (sizedContent body)
  else .error (oversized body.length (Stream.bodyLimit maxSize))

/-- Where a frame stands in front, it is taken off whole, too large or not. -/
theorem Stream.readFrame_sizedContent {body : Bytes} (h : body.length < wordLimit) (maxSize : Nat)
    (rest : Bytes) (ending : StreamEnd) :
    readFrame maxSize ⟨sizedContent body ++ rest, ending⟩ =
      (verdict maxSize body, ⟨rest, ending⟩) := by
  have hheader : takeBytes ⟨word body.length ++ (body ++ rest), ending⟩ wordSize =
      (.ok (word body.length), ⟨body ++ rest, ending⟩) :=
    takeBytes_append (word body.length) (body ++ rest) ending
  simp only [readFrame, sizedContent, List.append_assoc, hheader, takeWord_length h,
    takeBytes_append, verdict]
  by_cases hsize : body.length ≤ bodyLimit maxSize
  · rw [if_neg (Nat.not_lt.2 hsize), if_pos hsize]
  · rw [if_pos (Nat.lt_of_not_le hsize), if_neg hsize]

/-- At the beginning of a frame the stream is over. -/
theorem Stream.readFrame_incomplete {part : Bytes} (h : Incomplete part) (maxSize : Nat) :
    readFrame maxSize ⟨part, .closed⟩ = (.error .connectionClosed, ⟨[], .closed⟩) := by
  obtain hshort | ⟨length, begun, hlength, rfl, hbegun⟩ := h
  · simp only [readFrame, takeBytes_of_lt hshort]
  · have hheader : takeBytes ⟨word length ++ begun, .closed⟩ wordSize =
        (.ok (word length), ⟨begun, .closed⟩) :=
      takeBytes_append (word length) begun .closed
    simp only [readFrame, hheader, takeWord_length hlength, takeBytes_of_lt hbegun]

/-- A frame that is too big is not told as the end of the connection. -/
theorem verdict_ne_connectionClosed (maxSize : Nat) (body : Bytes) :
    verdict maxSize body ≠ .error .connectionClosed := by
  rw [verdict]
  split
  · simp
  · simp [oversized]

/-- What begins with a whole frame is not the beginning of one. -/
theorem not_incomplete_sizedContent {body : Bytes} (h : body.length < wordLimit) (rest : Bytes) :
    ¬Incomplete (sizedContent body ++ rest) := by
  intro hpart
  have hread := Stream.readFrame_incomplete hpart 0
  rw [Stream.readFrame_sizedContent h] at hread
  exact verdict_ne_connectionClosed 0 body (Prod.mk.inj hread).1

/-- Bytes are the frames of some bodies and then the beginning of a frame. -/
structure Divides (bytes : Bytes) (bodies : List Bytes) (part : Bytes) : Prop where
  short : ∀ body ∈ bodies, body.length < wordLimit
  incomplete : Incomplete part
  bytes_eq : bytes = bodies.flatMap sizedContent ++ part

/-- A division goes on with one frame more at the front. -/
theorem Divides.cons {bytes body part : Bytes} {bodies : List Bytes}
    (h : Divides bytes bodies part) (hbody : body.length < wordLimit) :
    Divides (sizedContent body ++ bytes) (body :: bodies) part where
  short := by
    intro other hmem
    rcases List.mem_cons.1 hmem with rfl | hmem
    · exact hbody
    · exact h.short other hmem
  incomplete := h.incomplete
  bytes_eq := by rw [List.flatMap_cons, List.append_assoc, ← h.bytes_eq]

/-- Any bytes divide into frames and the beginning of one. -/
theorem exists_divides (bytes : Bytes) : ∃ bodies part, Divides bytes bodies part := by
  induction hcount : bytes.length using Nat.strongRecOn generalizing bytes with
  | ind count ih =>
    by_cases hshort : bytes.length < wordSize
    · exact ⟨[], bytes, List.forall_mem_nil _, .inl hshort, rfl⟩
    obtain ⟨a, b, c, d, left, rfl⟩ := exists_word_of_le (Nat.le_of_not_lt hshort)
    have hword : word (ofWord a b c d) = [a, b, c, d] := word_ofWord a b c d
    by_cases hbegun : left.length < ofWord a b c d
    · refine ⟨[], _, List.forall_mem_nil _, .inr ⟨_, left, ofWord_lt a b c d, ?_, hbegun⟩, rfl⟩
      rw [hword]
      rfl
    · -- the body is there, and what follows it is shorter
      have hlength : (left.take (ofWord a b c d)).length = ofWord a b c d :=
        List.length_take_of_le (Nat.le_of_not_lt hbegun)
      have hlt : (left.drop (ofWord a b c d)).length < count := by
        rw [← hcount, List.length_drop, List.length_cons]
        simp only [List.length_cons]
        omega
      obtain ⟨bodies, part, hdivides⟩ := ih _ hlt _ rfl
      have hcons := hdivides.cons (hlength ▸ ofWord_lt a b c d)
      refine ⟨left.take (ofWord a b c d) :: bodies, part, ?_⟩
      rw [sizedContent, hlength, hword, List.append_assoc, List.take_append_drop] at hcons
      exact hcons

/-- They do so in one way only. -/
theorem Divides.unique {bytes part part' : Bytes} {bodies bodies' : List Bytes}
    (h : Divides bytes bodies part) (h' : Divides bytes bodies' part') :
    bodies = bodies' ∧ part = part' := by
  induction bodies generalizing bytes bodies' with
  | nil =>
    cases bodies' with
    | nil => exact ⟨rfl, h.bytes_eq.symm.trans h'.bytes_eq⟩
    | cons body' rest' =>
      have hpart : part = sizedContent body' ++ (rest'.flatMap sizedContent ++ part') := by
        rw [← List.append_assoc]
        exact h.bytes_eq.symm.trans h'.bytes_eq
      exact absurd (hpart ▸ h.incomplete)
        (not_incomplete_sizedContent (h'.short body' List.mem_cons_self) _)
  | cons body rest ih =>
    have hbody := h.short body List.mem_cons_self
    have heq : bytes = sizedContent body ++ (rest.flatMap sizedContent ++ part) := by
      rw [h.bytes_eq, List.flatMap_cons, List.append_assoc]
    cases bodies' with
    | nil =>
      have hpart : part' = sizedContent body ++ (rest.flatMap sizedContent ++ part) :=
        h'.bytes_eq.symm.trans heq
      exact absurd (hpart ▸ h'.incomplete) (not_incomplete_sizedContent hbody _)
    | cons body' rest' =>
      have hbody' := h'.short body' List.mem_cons_self
      have heq' : bytes = sizedContent body' ++ (rest'.flatMap sizedContent ++ part') := by
        rw [h'.bytes_eq, List.flatMap_cons, List.append_assoc]
      have hread := takeAttachment_eq_ok.2 ⟨hbody, heq⟩
      rw [takeAttachment_eq_ok.2 ⟨hbody', heq'⟩] at hread
      obtain ⟨rfl, hrest⟩ := Prod.mk.inj (Except.ok.inj hread)
      obtain ⟨rfl, hparts⟩ := ih
        ⟨fun b hb => h.short b (List.mem_cons_of_mem _ hb), h.incomplete, rfl⟩
        ⟨fun b hb => h'.short b (List.mem_cons_of_mem _ hb), h'.incomplete, hrest.symm⟩
      exact ⟨rfl, hparts⟩

/-! ### What a reader meets -/

/-- A frame that is too large does not stop a reader. -/
theorem isLast_verdict (maxSize : Nat) (body : Bytes) :
    Stream.isLast ((verdict maxSize body).map some) = false := by
  rw [verdict]
  split
  · rfl
  · rfl

/-- There are no more frames than bytes. -/
theorem length_le_flatMap_sizedContent (bodies : List Bytes) :
    bodies.length ≤ (bodies.flatMap sizedContent).length := by
  induction bodies with
  | nil => exact Nat.le_refl 0
  | cons body rest ih =>
    have hword : wordSize = 4 := rfl
    rw [List.flatMap_cons, List.length_append, List.length_cons, sizedContent, List.length_append,
      length_word, hword]
    omega

/-- A reader that takes frames as `readFrame` does meets an outcome for each frame, and then
its outcome at the end. -/
theorem Stream.readAll_of_divides {next : Stream → Except Fault (Option Bytes) × Stream}
    {maxSize : Nat} {last : Except Fault (Option Bytes)} {bytes part : Bytes} {bodies : List Bytes}
    (hframe : ∀ body rest, body.length < wordLimit →
      next ⟨sizedContent body ++ rest, .closed⟩ =
        ((verdict maxSize body).map some, ⟨rest, .closed⟩))
    (hend : (next ⟨part, .closed⟩).1 = last) (hlast : isLast last = true)
    (h : Divides bytes bodies part) :
    readAll next ⟨bytes, .closed⟩ =
      bodies.map (fun body => (verdict maxSize body).map some) ++ [last] := by
  obtain ⟨hshort, -, rfl⟩ := h
  have hfuel : bodies.length < (bodies.flatMap sizedContent ++ part).length + 1 := by
    have := length_le_flatMap_sizedContent bodies
    rw [List.length_append]
    omega
  rw [readAll]
  dsimp only
  generalize (bodies.flatMap sizedContent ++ part).length + 1 = fuel at hfuel
  induction bodies generalizing fuel with
  | nil =>
    obtain ⟨fuel, rfl⟩ := Nat.exists_eq_succ_of_ne_zero (Nat.ne_of_gt hfuel)
    simp only [List.flatMap_nil, List.nil_append, readAllWithin, hend, hlast, if_true, List.map_nil]
  | cons body rest ih =>
    obtain ⟨fuel, rfl⟩ := Nat.exists_eq_succ_of_ne_zero (Nat.ne_of_gt (Nat.zero_lt_of_lt hfuel))
    rw [List.flatMap_cons, List.append_assoc, readAllWithin,
      hframe body _ (hshort body List.mem_cons_self)]
    simp only [isLast_verdict, Bool.false_eq_true, if_false, List.map_cons, List.cons_append]
    rw [ih (fun b hb => hshort b (List.mem_cons_of_mem _ hb)) fuel (Nat.lt_of_succ_lt_succ hfuel)]

/-- Off a stream the frame at its front is read, or skipped with the fault that it is too big. -/
theorem Stream.someFrame_sizedContent {body : Bytes} (h : body.length < wordLimit) (maxSize : Nat)
    (rest : Bytes) :
    someFrame maxSize ⟨sizedContent body ++ rest, .closed⟩ =
      ((verdict maxSize body).map some, ⟨rest, .closed⟩) := by
  rw [someFrame, readFrame_sizedContent h]

/-- Off a stream a reader to which the end is no fault reads the same. -/
theorem Stream.nextFrame_sizedContent {body : Bytes} (h : body.length < wordLimit) (maxSize : Nat)
    (rest : Bytes) :
    nextFrame maxSize ⟨sizedContent body ++ rest, .closed⟩ =
      ((verdict maxSize body).map some, ⟨rest, .closed⟩) := by
  rw [nextFrame, readFrame_sizedContent h]
  cases hverdict : verdict maxSize body with
  | ok frame => rfl
  | error fault =>
    have hne : fault ≠ .connectionClosed := by
      rintro rfl
      exact verdict_ne_connectionClosed maxSize body hverdict
    cases fault <;> first | rfl | exact absurd rfl hne

/-! ### What is written -/

namespace Writer

/-- A writer that takes something at a time, has room for what it is given and flushes. -/
structure Takes (w : Writer) (size : Nat) : Prop where
  some_at_a_time : 0 < w.perWrite
  room : w.written.length + size ≤ w.capacity
  flushes : w.onFlush = none

/-- A writer that was given some bytes takes the others. -/
theorem Takes.after {w : Writer} {taken : Bytes} {size : Nat} (h : w.Takes (taken.length + size))
    (flushes : Nat) :
    Takes { w with written := w.written ++ taken, flushes := flushes } size where
  some_at_a_time := h.some_at_a_time
  room := by
    rw [List.length_append, Nat.add_assoc]
    exact h.room
  flushes := h.flushes

/-- All bytes are written, however many pieces that takes. -/
theorem writeAll_eq {fuel : Nat} {bytes : Bytes} {w : Writer} (hfuel : bytes.length ≤ fuel)
    (h : w.Takes bytes.length) :
    writeAll fuel bytes w = (.ok (), { w with written := w.written ++ bytes }) := by
  induction fuel generalizing bytes w with
  | zero =>
    obtain rfl := List.eq_nil_of_length_eq_zero (Nat.le_zero.1 hfuel)
    simp [writeAll]
  | succ fuel ih =>
    cases bytes with
    | nil => simp [writeAll]
    | cons byte more =>
      have hper := h.some_at_a_time
      have hroom := h.room
      rw [List.length_cons] at hroom hfuel
      have hspace : w.capacity - w.written.length ≠ 0 := by omega
      simp only [writeAll, if_neg hspace, List.length_cons]
      generalize hcount : min (min w.perWrite (w.capacity - w.written.length)) (more.length + 1) =
        count
      have hpos : count ≠ 0 := by omega
      have htaken : ((byte :: more).take count).length = count := by
        rw [List.length_take, List.length_cons]
        omega
      have hleft : ((byte :: more).drop count).length ≤ fuel := by
        rw [List.length_drop, List.length_cons]
        omega
      have hsplit : (byte :: more).length =
          ((byte :: more).take count).length + ((byte :: more).drop count).length := by
        rw [← List.length_append, List.take_append_drop]
      rw [hsplit] at h
      rw [if_neg hpos, ih hleft (h.after w.flushes)]
      simp only [List.append_assoc, List.take_append_drop]

/-- Frames are written one behind the other, and each is flushed. -/
theorem writeFrames_eq {frames : List Bytes} {w : Writer} (h : w.Takes frames.flatten.length) :
    w.writeFrames frames =
      (frames.map fun _ => .ok (),
        { w with written := w.written ++ frames.flatten, flushes := w.flushes + frames.length }) := by
  induction frames generalizing w with
  | nil => simp [writeFrames]
  | cons frame rest ih =>
    rw [List.flatten_cons, List.length_append] at h
    have hfirst : w.Takes frame.length :=
      ⟨h.some_at_a_time, Nat.le_trans (by omega) h.room, h.flushes⟩
    have hframe : w.writeFrame frame =
        (.ok (), { w with written := w.written ++ frame, flushes := w.flushes + 1 }) := by
      rw [writeFrame, writeAll_eq (Nat.le_refl _) hfirst]
      simp only [h.flushes]
    have hcount : w.flushes + 1 + rest.length = w.flushes + (rest.length + 1) := by omega
    rw [writeFrames, hframe, List.flatten_cons, List.length_cons, List.map_cons]
    simp only [ih (h.after (w.flushes + 1)), List.append_assoc, hcount]

end Writer

/-- A reader accepts every frame of a codec whose bound is not above its own. -/
theorem verdict_content {c : Codec} {m : Message} {frame : Bytes} {maxSize : Nat}
    (hframe : c.encode m = .ok frame) (hmax : c.maxFrameSize ≤ maxSize) :
    frame = sizedContent (content m) ∧ (content m).length < wordLimit ∧
      verdict maxSize (content m) = .ok frame := by
  obtain ⟨hsize, rfl⟩ := Codec.encode_eq_ok.1 hframe
  have hbound : (content m).length ≤ Stream.bodyLimit maxSize := by
    rw [length_content]
    exact Nat.le_min.2 ⟨Nat.le_trans hsize hmax, Nat.le_trans hsize c.maxFrameSize_le⟩
  exact ⟨rfl, lt_wordLimit_of_le_bodyLimit hbound, if_pos hbound⟩

/-- How a reader with this bound and a writer keep to the frames of a stream, in whatever pieces
it comes. -/
structure FramesAligned (maxSize : Nat) : Prop where
  /-- A reader takes a frame off a stream whole, and one that is too large is let go whole and
  reported. -/
  frame : ∀ (s : Pieces) body rest, body.length < wordLimit →
    s.whole = ⟨sizedContent body ++ rest, .closed⟩ →
    (s.readFrame maxSize).1 = verdict maxSize body ∧
    (s.readFrame maxSize).2.whole = ⟨rest, .closed⟩
  /-- Only the beginning of a frame is the end. -/
  incomplete : ∀ (s : Pieces) part, Incomplete part → s.whole = ⟨part, .closed⟩ →
    (s.readFrame maxSize).1 = .error .connectionClosed ∧
    (s.readFrame maxSize).2.whole = ⟨[], .closed⟩
  /-- Every stream is in exactly one way frames and the beginning of one. -/
  divides : ∀ bytes, ∃ bodies part, Divides bytes bodies part ∧
    ∀ bodies' part', Divides bytes bodies' part' → bodies' = bodies ∧ part' = part
  /-- So a reader that reads on meets an outcome for every frame, in order, and then the end. -/
  read : ∀ (s : Pieces) bodies part, s.ending = .closed → Divides s.whole.bytes bodies part →
    s.readAll (Pieces.someFrame maxSize) =
      bodies.map (fun body => (verdict maxSize body).map some) ++ [.error .connectionClosed] ∧
    s.readAll (Pieces.nextFrame maxSize) =
      bodies.map (fun body => (verdict maxSize body).map some) ++ [.ok none]
  /-- What was written divides into the frames that were written. -/
  written : ∀ bodies (w : Writer), (∀ body ∈ bodies, body.length < wordLimit) → w.written = [] →
    w.Takes (bodies.flatMap sizedContent).length →
    (w.writeFrames (bodies.map sizedContent)).1 = bodies.map (fun _ => .ok ()) ∧
    Divides (w.writeFrames (bodies.map sizedContent)).2.written bodies []
  /-- No frame of a codec with a bound that is not above the reader's is too large. -/
  codec : ∀ (c : Codec) m frame, c.encode m = .ok frame → c.maxFrameSize ≤ maxSize →
    ∀ (s : Pieces) rest, s.whole = ⟨frame ++ rest, .closed⟩ →
      (s.readFrame maxSize).1 = .ok frame ∧
      (s.readFrame maxSize).2.whole = ⟨rest, .closed⟩

/-- A frame at the beginning of a stream in pieces is taken off it whole. -/
theorem readFrame_of_whole (maxSize : Nat) (s : Pieces) (body rest : Bytes)
    (hshort : body.length < wordLimit) (hwhole : s.whole = ⟨sizedContent body ++ rest, .closed⟩) :
    (s.readFrame maxSize).1 = verdict maxSize body ∧
      (s.readFrame maxSize).2.whole = ⟨rest, .closed⟩ := by
  have hframe := Pieces.readFrame_whole maxSize s
  rw [hwhole, Stream.readFrame_sizedContent hshort] at hframe
  exact Prod.mk.inj hframe

/-- A reader that reads on meets an outcome for every frame and then the end. -/
theorem readAll_of_divides_whole (maxSize : Nat) (s : Pieces) (bodies : List Bytes) (part : Bytes)
    (hclosed : s.ending = .closed) (hdivides : Divides s.whole.bytes bodies part) :
    s.readAll (Pieces.someFrame maxSize) =
        bodies.map (fun body => (verdict maxSize body).map some) ++ [.error .connectionClosed] ∧
      s.readAll (Pieces.nextFrame maxSize) =
        bodies.map (fun body => (verdict maxSize body).map some) ++ [.ok none] := by
  have hwhole : s.whole = ⟨s.whole.bytes, .closed⟩ := by
    rw [← hclosed]
    rfl
  have hend := Stream.readFrame_incomplete hdivides.incomplete maxSize
  rw [Pieces.readAll_whole (Pieces.someFrame_whole maxSize),
    Pieces.readAll_whole (Pieces.nextFrame_whole maxSize), hwhole]
  constructor
  · refine Stream.readAll_of_divides
      (fun body rest hbody => Stream.someFrame_sizedContent hbody maxSize rest) ?_ rfl hdivides
    rw [Stream.someFrame, hend]
    rfl
  · refine Stream.readAll_of_divides
      (fun body rest hbody => Stream.nextFrame_sizedContent hbody maxSize rest) ?_ rfl hdivides
    rw [Stream.nextFrame, hend]

/-- However a stream comes in pieces, reader and writer keep to its frames. -/
theorem frames_aligned (maxSize : Nat) : FramesAligned maxSize where
  frame := readFrame_of_whole maxSize
  incomplete s part hpart hwhole := by
    have hframe := Pieces.readFrame_whole maxSize s
    rw [hwhole, Stream.readFrame_incomplete hpart] at hframe
    exact Prod.mk.inj hframe
  divides bytes := by
    obtain ⟨bodies, part, hdivides⟩ := exists_divides bytes
    exact ⟨bodies, part, hdivides, fun bodies' part' hdivides' => hdivides'.unique hdivides⟩
  read := readAll_of_divides_whole maxSize
  written bodies w hshort hnew htakes := by
    rw [List.flatMap_def] at htakes
    rw [Writer.writeFrames_eq htakes, hnew]
    refine ⟨by rw [List.map_map]; rfl, hshort, .inl (by decide), ?_⟩
    simp only [List.nil_append, List.append_nil, List.flatMap_def]
  codec c m frame hframe hmax s rest hwhole := by
    obtain ⟨rfl, hshort, hverdict⟩ := verdict_content hframe hmax
    rw [← hverdict]
    exact readFrame_of_whole maxSize s _ rest hshort hwhole

/-- A reader that accepts two bytes meets a body of three, whose length is cut in two, then
one of a single byte, and then a frame that is not finished. -/
theorem frames_aligned_oneOversized :
    let s : Pieces := ⟨[[0, 0], [0, 3, 1], [], [2, 3, 0, 0, 0, 1, 7], [0, 0, 0, 9, 5]], .closed⟩
    s.readAll (Pieces.nextFrame 2) =
      [.error (oversized 3 2), .ok (some [0, 0, 0, 1, 7]), .ok none] := by
  intro s
  have hdivides : Divides s.whole.bytes [[1, 2, 3], [7]] [0, 0, 0, 9, 5] :=
    ⟨by decide, .inr ⟨9, [5], by decide, by decide, by decide⟩, by decide⟩
  exact ((frames_aligned 2).read s _ _ rfl hdivides).2

end Parley.Frame
