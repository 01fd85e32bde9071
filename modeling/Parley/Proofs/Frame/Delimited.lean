/-
# Where a body ends

The body of a frame has no mark at its end.  It tells by its own numbers and lengths where
it ends, so nothing can be taken from it or added to it without being noticed
(`Codec.decode_delimited`).  What is left of a body, or the body with something behind it,
may well look like the body of another message at any place; it is never read as one.

The argument follows the reading.  A reader takes certain bytes, whatever stands behind
them, and when some of these are missing at the end it asks for bytes that are not there.
This holds for every part of a body, and it is kept when parts are read one after the
other and when as many of them are read as a count says.
-/

import Parley.Proofs.Frame.Exact

namespace Parley

namespace Frame

variable {α β : Type}

/-! ### Readers that know where to stop -/

/-- Whether reading has failed because bytes were asked for that are not there. -/
def RunsOut (x : Except Fault α) : Prop :=
  ∃ name need left, left < need ∧ x = .error (truncated name need left)

/-- What follows a part that is cut off is not reached. -/
theorem RunsOut.bind {x : Except Fault α} (h : RunsOut x) (f : α → Except Fault β) :
    RunsOut (x >>= f) := by
  obtain ⟨name, need, left, hlt, rfl⟩ := h
  exact ⟨name, need, left, hlt, rfl⟩

/-- Bytes that have run out are malformed. -/
theorem RunsOut.malformed {x : Except Fault α} (h : RunsOut x) :
    ∃ reason, x = .error (.malformed reason) := by
  obtain ⟨name, need, left, -, rfl⟩ := h
  exact ⟨_, rfl⟩

/-- Without its end a part is shorter. -/
theorem length_lt_of_cut {used part lost : Bytes} (hused : used = part ++ lost)
    (hlost : lost ≠ []) : part.length < used.length := by
  rw [hused, List.length_append]
  exact Nat.lt_add_of_pos_right (List.length_pos_iff.2 hlost)

/-- Whether a reader takes exactly the bytes `used` and makes `x` of them: it leaves alone
what stands behind them, and it runs out when the last of them are missing. -/
structure Consumes (reader : Reader α) (used : Bytes) (x : α) : Prop where
  whole : ∀ rest, reader (used ++ rest) = .ok (x, rest)
  cut : ∀ part lost, used = part ++ lost → lost ≠ [] → RunsOut (reader part)

/-- Whether a reader finds on its own where to stop. -/
def Delimits (reader : Reader α) : Prop :=
  ∀ bytes x rest, reader bytes = .ok (x, rest) →
    ∃ used, bytes = used ++ rest ∧ Consumes reader used x

/-- Two parts, the second one read as the first one says. -/
theorem Consumes.bind {first : Reader α} {next : α × Bytes → Except Fault (β × Bytes)}
    {used used' : Bytes} {x : α} {y : β} (h : Consumes first used x)
    (h' : Consumes (fun bytes => next (x, bytes)) used' y) :
    Consumes (fun bytes => first bytes >>= next) (used ++ used') y where
  whole rest := by
    rw [List.append_assoc, h.whole, ok_bind]
    exact h'.whole rest
  cut part lost hused hlost := by
    rcases List.append_eq_append_iff.1 hused with ⟨cut, rfl, rfl⟩ | ⟨missing, rfl, rfl⟩
    -- The cut lies behind the first part, which is then read as before.
    · rw [h.whole, ok_bind]
      exact h'.cut cut lost rfl hlost
    · by_cases hmissing : missing = []
      · subst hmissing
        have hfirst := h.whole []
        rw [List.append_nil, List.append_nil] at hfirst
        rw [hfirst, ok_bind]
        exact h'.cut [] used' rfl hlost
      · exact (h.cut part missing rfl hmissing).bind _

/-- Readers that delimit what they read do so one after the other. -/
theorem Delimits.bind {first : Reader α} {next : α × Bytes → Except Fault (β × Bytes)}
    (h : Delimits first) (h' : ∀ x, Delimits fun bytes => next (x, bytes)) :
    Delimits fun bytes => first bytes >>= next := by
  intro bytes y rest hread
  obtain ⟨⟨x, after⟩, hfirst, hnext⟩ := bind_eq_ok.1 hread
  obtain ⟨used, rfl, hused⟩ := h bytes x after hfirst
  obtain ⟨used', rfl, hused'⟩ := h' x after y rest hnext
  exact ⟨used ++ used', (List.append_assoc used used' rest).symm, hused.bind hused'⟩

/-- Nothing is taken for a value that is there already. -/
theorem delimits_pure (x : α) : Delimits fun bytes => .ok (x, bytes) := by
  intro bytes y rest hread
  cases hread
  refine ⟨[], rfl, fun rest => rfl, fun part lost hused hlost => ?_⟩
  exact absurd (List.append_eq_nil_iff.1 hused.symm).2 hlost

/-- A reader that always fails takes nothing at all. -/
theorem delimits_error (fault : Fault) :
    Delimits fun _ => (.error fault : Except Fault (α × Bytes)) :=
  nofun

/-! ### The parts of a body -/

/-- A number of bytes delimits itself. -/
theorem delimits_take (count : Nat) (name : String) : Delimits (take count name) := by
  intro bytes used rest hread
  obtain ⟨rfl, rfl⟩ := take_eq_ok.1 hread
  refine ⟨used, rfl, fun rest => take_append used rest name, fun part lost hused hlost => ?_⟩
  have hlt := length_lt_of_cut hused hlost
  rw [take, if_pos hlt]
  exact ⟨name, _, _, hlt, rfl⟩

/-- A word delimits itself. -/
theorem delimits_takeWord (name : String) : Delimits (takeWord name) := by
  intro bytes n rest hread
  obtain ⟨hn, rfl⟩ := takeWord_eq_ok.1 hread
  refine ⟨word n, rfl, takeWord_word hn name, fun part lost hused hlost => ?_⟩
  have hlt := length_lt_of_cut hused hlost
  rw [length_word] at hlt
  rw [takeWord_of_lt hlt]
  exact ⟨name, _, _, hlt, rfl⟩

/-- A text delimits itself. -/
theorem delimits_takeText (count : Nat) (name : String) : Delimits (takeText count name) := by
  apply (delimits_take count name).bind
  intro raw
  dsimp only
  cases Text.ofUtf8 raw with
  | ok text => exact delimits_pure text
  | error fault => exact delimits_error _

/-- A value delimits itself, by its length. -/
theorem delimits_takeValue : Delimits takeValue := by
  apply (delimits_takeWord _).bind
  intro length
  by_cases hnull : length = nullLength
  · simp only [if_pos hnull]
    exact delimits_pure none
  · simp only [if_neg hnull]
    exact (delimits_takeText length _).bind fun text => delimits_pure (some text)

/-- A property delimits itself, by the lengths of its key and its value. -/
theorem delimits_takeProperty : Delimits takeProperty := by
  apply (delimits_takeWord _).bind
  intro length
  apply (delimits_takeText length _).bind
  intro key
  exact delimits_takeValue.bind fun value => delimits_pure (key, value)

/-- An attachment delimits itself, by its length. -/
theorem delimits_takeAttachment : Delimits takeAttachment :=
  (delimits_takeWord _).bind fun length => delimits_take length _

/-- As many parts as a count says, one after the other. -/
theorem Delimits.takeEach {item : Reader α} (h : Delimits item) (count : Nat) :
    Delimits (takeEach item count) := by
  induction count with
  | zero => exact delimits_pure []
  | succ count ih =>
    apply h.bind
    intro x
    exact ih.bind fun xs => delimits_pure (x :: xs)

/-- Read the properties and the attachments, whatever follows them. -/
def takeParts : Reader (List (String × Option String) × List Bytes) := fun bytes => do
  let (count, rest) ← takeWord "property count" bytes
  let (properties, rest) ← takeEach takeProperty count rest
  let (count, rest) ← takeWord "attachment count" rest
  let (attachments, rest) ← takeEach takeAttachment count rest
  .ok ((properties, attachments), rest)

/-- Properties and attachments delimit themselves, by their counts. -/
theorem delimits_takeParts : Delimits takeParts := by
  apply (delimits_takeWord _).bind
  intro count
  apply (delimits_takeProperty.takeEach count).bind
  intro properties
  apply (delimits_takeWord _).bind
  intro count'
  exact (delimits_takeAttachment.takeEach count').bind fun attachments =>
    delimits_pure (properties, attachments)

/-! ### Up to the end -/

/-- What was read, provided that nothing is left. -/
def upToEnd (read : α × Bytes) : Except Fault α :=
  if read.2.isEmpty then .ok read.1
  else .error (.malformed
    s!"{Decimal.natText read.2.length} trailing bytes after attachments")

/-- What was read up to the end has left nothing. -/
theorem upToEnd_eq_ok {read : α × Bytes} {x : α} : upToEnd read = .ok x ↔ read = (x, []) := by
  obtain ⟨y, rest⟩ := read
  cases rest <;> simp [upToEnd]

/-- A payload is the properties and attachments up to the end. -/
theorem takePayload_eq (bytes : Bytes) : takePayload bytes = takeParts bytes >>= upToEnd := by
  simp only [takePayload, takeParts, bind_assoc]
  rfl

variable {reader : Reader α} {bytes : Bytes} {x : α}

/-- Bytes that a reader takes to their end run out when the last of them are missing. -/
theorem Delimits.runsOut (h : Delimits reader) (hread : (reader bytes >>= upToEnd) = .ok x)
    {kept lost : Bytes} (hbytes : bytes = kept ++ lost) (hlost : lost ≠ []) :
    RunsOut (reader kept >>= upToEnd) := by
  obtain ⟨read, hread, hend⟩ := bind_eq_ok.1 hread
  obtain rfl := upToEnd_eq_ok.1 hend
  obtain ⟨used, rfl, hused⟩ := h bytes x [] hread
  rw [List.append_nil] at hbytes
  exact (hused.cut kept lost hbytes hlost).bind upToEnd

/-- Bytes behind those that a reader takes to their end are trailing bytes. -/
theorem Delimits.trailing (h : Delimits reader) (hread : (reader bytes >>= upToEnd) = .ok x)
    {more : Bytes} (hmore : more ≠ []) :
    (reader (bytes ++ more) >>= upToEnd) = .error (.malformed
      s!"{Decimal.natText more.length} trailing bytes after attachments") := by
  obtain ⟨read, hread, hend⟩ := bind_eq_ok.1 hread
  obtain rfl := upToEnd_eq_ok.1 hend
  obtain ⟨used, rfl, hused⟩ := h bytes x [] hread
  rw [List.append_nil, hused.whole, ok_bind, upToEnd, if_neg (by simpa using hmore)]

end Frame

namespace Codec

open Parley.Frame

variable {c : Codec} {body frame : Bytes} {m : Message}

/-- Read the message of a body, whatever follows it. -/
def takeMessage (c : Codec) : Reader Message := fun bytes => do
  let (code, rest) ← takeWord "type tag" bytes
  let template ← c.registry.create code
  let ((properties, attachments), rest) ← takeParts rest
  .ok ({ template with
    bag := properties.foldl (fun b entry => b.insert entry.1 entry.2) template.bag
    attachments := template.attachments ++ attachments }, rest)

/-- A message delimits itself. -/
theorem delimits_takeMessage (c : Codec) : Delimits c.takeMessage := by
  apply (delimits_takeWord _).bind
  intro code
  dsimp only
  cases c.registry.create code with
  | error fault => exact delimits_error fault
  | ok template =>
    apply delimits_takeParts.bind
    intro parts
    dsimp only
    exact delimits_pure _

/-- A body is a message up to the end. -/
theorem decodeBody_eq (c : Codec) (body : Bytes) :
    c.decodeBody body = c.takeMessage body >>= upToEnd := by
  rw [decodeBody, takeMessage]
  cases takeWord "type tag" body with
  | error fault => rfl
  | ok read =>
    simp only [ok_bind]
    cases c.registry.create read.1 with
    | error fault => rfl
    | ok template =>
      simp only [ok_bind, takePayload_eq]
      cases takeParts read.2 with
      | error fault => rfl
      | ok read => rcases read with ⟨parts, _ | ⟨byte, rest⟩⟩ <;> rfl

/-- A body that has lost bytes at its end runs out. -/
theorem runsOut_of_shortened (h : c.decodeBody body = .ok m) {kept lost : Bytes}
    (hbody : body = kept ++ lost) (hlost : lost ≠ []) : RunsOut (c.decodeBody kept) := by
  rw [decodeBody_eq] at h ⊢
  exact (delimits_takeMessage c).runsOut h hbody hlost

/-- Bytes behind a body are trailing bytes. -/
theorem decodeBody_lengthened (h : c.decodeBody body = .ok m) {more : Bytes} (hmore : more ≠ []) :
    c.decodeBody (body ++ more) = .error (.malformed
      s!"{Decimal.natText more.length} trailing bytes after attachments") := by
  rw [decodeBody_eq] at h ⊢
  exact (delimits_takeMessage c).trailing h hmore

/-! ### Frames -/

/-- When a frame is cut off, it encloses nothing any more, because it still begins with the
length that it had. -/
theorem Encloses.not_of_cut (h : c.Encloses frame body) {part lost : Bytes}
    (hframe : frame = part ++ lost) (hlost : lost ≠ []) (left : Bytes) :
    ¬ c.Encloses part left := by
  intro hpart
  have heq : word body.length ++ body = word left.length ++ (left ++ lost) := by
    rw [← List.append_assoc, ← sizedContent, ← sizedContent, ← h.1, ← hpart.1, hframe]
  obtain ⟨hword, rfl⟩ := List.append_inj heq rfl
  have hbound := short_of_le_maxFrameSize (Nat.le_trans h.2 c.maxFrameSize_le)
  have hbound' := short_of_le_maxFrameSize (Nat.le_trans hpart.2 c.maxFrameSize_le)
  have hlength := word_inj hbound.lt_wordLimit hbound'.lt_wordLimit hword
  exact absurd (length_lt_of_cut rfl hlost) (Nat.not_lt.2 (Nat.le_of_eq hlength))

/-- No body is enclosed that is larger than the codec allows. -/
theorem not_encloses_of_lt (hsize : c.maxFrameSize < body.length) (other : Bytes) :
    ¬ c.Encloses (sizedContent body) other := by
  rintro ⟨heq, hother⟩
  obtain ⟨-, rfl⟩ := List.append_inj heq rfl
  exact Nat.not_lt.2 hother hsize

/-- A frame with a shortened body and the length of this body. -/
theorem decode_shortened (hframe : c.Encloses frame body) (h : c.decode frame = .ok m)
    {kept lost : Bytes} (hbody : body = kept ++ lost) (hlost : lost ≠ []) :
    RunsOut (c.decode (sizedContent kept)) := by
  rw [decode_of_encloses hframe] at h
  have hsize := Nat.le_trans (Nat.le_of_lt (length_lt_of_cut hbody hlost)) hframe.2
  rw [decode_of_encloses ⟨rfl, hsize⟩]
  exact runsOut_of_shortened h hbody hlost

/-- A frame with a lengthened body and the length of this body. -/
theorem decode_lengthened (hframe : c.Encloses frame body) (h : c.decode frame = .ok m)
    {more : Bytes} (hmore : more ≠ []) :
    ∃ reason, c.decode (sizedContent (body ++ more)) = .error (.malformed reason) := by
  rw [decode_of_encloses hframe] at h
  by_cases hsize : c.maxFrameSize < (body ++ more).length
  · exact decode_of_not_encloses (not_encloses_of_lt hsize)
  · rw [decode_of_encloses ⟨rfl, Nat.le_of_not_lt hsize⟩]
    exact ⟨_, decodeBody_lengthened h hmore⟩

/-- A frame is complete around a body: nothing can be missing from it or be too much. -/
structure Complete (c : Codec) (frame body : Bytes) : Prop where
  encloses : c.Encloses frame body
  /-- When bytes are taken from the end of the body and the length in front of it is brought into
  line, what results is malformed. -/
  shortened : ∀ kept lost, body = kept ++ lost → lost ≠ [] →
    ∃ reason, c.decode (sizedContent kept) = .error (.malformed reason)
  /-- So it is when bytes are put behind the body. -/
  lengthened : ∀ more, more ≠ [] →
    ∃ reason, c.decode (sizedContent (body ++ more)) = .error (.malformed reason)
  /-- A frame of which the end is missing is malformed, while the length still tells what it
  should be. -/
  cut : ∀ part lost, frame = part ++ lost → lost ≠ [] →
    ∃ reason, c.decode part = .error (.malformed reason)

/-- A body that a codec reads is known by its own bytes to be whole. -/
theorem decode_delimited (c : Codec) {frame : Bytes} {m : Message} (h : c.decode frame = .ok m) :
    ∃ body, c.Complete frame body := by
  rcases decode_cases c frame with ⟨body, hframe, -⟩ | ⟨-, reason, hdecode⟩
  · exact ⟨body, {
      encloses := hframe
      shortened := fun kept lost hbody hlost => (decode_shortened hframe h hbody hlost).malformed
      lengthened := fun more hmore => decode_lengthened hframe h hmore
      cut := fun part lost hpart hlost =>
        decode_of_not_encloses (hframe.not_of_cut hpart hlost) }⟩
  · rw [hdecode] at h
    cases h

/-- A sign of life that carries the body of another one. -/
def nested : Message :=
  { Message.request .heartbeat with
    bag := Bag.ofList [("note", none), ("", some "")]
    attachments := [Layout.body { code := 7, properties := [], attachments := [] }] }

/-- An attachment that is itself a frame does not end the frame around it. -/
theorem decode_delimited_nested :
    standard.decode (sizedContent (content nested)) = .ok nested ∧
      ∃ body, standard.Complete (sizedContent (content nested)) body :=
  have h : standard.decode (sizedContent (content nested)) = .ok nested :=
    decode_sizedContent (Registry.template?_standard_request .heartbeat) (by decide +kernel)
  ⟨h, decode_delimited standard h⟩

end Codec

end Parley
