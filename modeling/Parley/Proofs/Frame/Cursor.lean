/-
# No byte outside a frame is read

Reading by positions comes to the same as reading off what is left of the frame, and in
particular it comes to something.  Every reader takes care of this on its own: from a
position inside the frame it stops with a fault or at a position inside the frame.
-/

import Parley.Frame.Cursor
import Parley.Proofs.Outcome

namespace Parley

namespace Frame

variable {α β : Type}

namespace Cursor

/-- The position lies in the frame or at its end. -/
def Inside (c : Cursor) : Prop :=
  c.position ≤ c.frame.length

/-- The bytes from the position on. -/
def rest (c : Cursor) : Bytes :=
  c.frame.drop c.position

/-- What is left is what lies between the position and the end. -/
theorem length_rest (c : Cursor) : c.rest.length = c.frame.length - c.position :=
  List.length_drop

/-- The position after some more bytes. -/
def advance (c : Cursor) (count : Nat) : Cursor :=
  { c with position := c.position + count }

/-- To advance drops what is passed. -/
theorem rest_advance (c : Cursor) (count : Nat) : (c.advance count).rest = c.rest.drop count := by
  simp only [advance, rest, List.drop_drop]

/-- A cursor that passes no more than is left stays inside. -/
theorem Inside.advance {c : Cursor} {count : Nat} (h : c.Inside) (hle : count ≤ c.rest.length) :
    (c.advance count).Inside := by
  rw [length_rest] at hle
  simp only [Inside, Cursor.advance] at *
  omega

end Cursor

/-! ### Words at the front -/

/-- Bytes that are enough for a word begin with one. -/
theorem exists_word_of_le {bytes : Bytes} (h : wordSize ≤ bytes.length) :
    ∃ a b c d rest, bytes = a :: b :: c :: d :: rest := by
  match bytes with
  | [] | [_] | [_, _] | [_, _, _] => simp [wordSize] at h
  | a :: b :: c :: d :: rest => exact ⟨a, b, c, d, rest, rfl⟩

/-- Too few bytes for a word are told as such. -/
theorem takeWord_of_lt {bytes : Bytes} (h : bytes.length < wordSize) (name : String) :
    takeWord name bytes = .error (truncated name wordSize bytes.length) := by
  match bytes with
  | [] | [_] | [_, _] | [_, _, _] => rfl
  | _ :: _ :: _ :: _ :: rest => simp only [List.length_cons, wordSize] at h; omega

namespace CursorReader

/-- What reading at a position comes to. -/
abbrev Outcome (α : Type) := Option (Except Fault (α × Cursor))

/-- Reading at a position comes to the same fault, or to the same value at a position
inside the frame behind which the same bytes are left. -/
inductive Follows : Except Fault (α × Bytes) → Outcome α → Prop where
  | fault (fault : Fault) : Follows (.error fault) (some (.error fault))
  | value (x : α) (c : Cursor) (hinside : c.Inside) : Follows (.ok (x, c.rest)) (some (.ok (x, c)))

/-- The two ways of reading agree wherever the position lies inside the frame. -/
def Agrees (reader : Reader α) (reading : CursorReader α) : Prop :=
  ∀ c : Cursor, c.Inside → Follows (reader c.rest) (reading c)

/-- Reading goes on after the first part only when this has come to a value. -/
theorem bind_apply (reading : CursorReader α) (next : α → CursorReader β) (c : Cursor) :
    (reading >>= next) c =
      match (reading c : Outcome α) with
      | none => (none : Outcome β)
      | some (.error fault) => (some (.error fault) : Outcome β)
      | some (.ok (x, c)) => next x c := by
  cases h : (reading c : Outcome α) with
  | none =>
    change (reading c >>= fun p => next p.1 p.2 : ExceptT Fault Option (β × Cursor)) = _
    rw [h]
    rfl
  | some outcome =>
    change (reading c >>= fun p => next p.1 p.2 : ExceptT Fault Option (β × Cursor)) = _
    rw [h]
    cases outcome <;> rfl

/-- Readings one after the other follow the readers one after the other. -/
theorem Follows.bind {first : Except Fault (α × Bytes)} {reading : CursorReader α} {c : Cursor}
    {next : α × Bytes → Except Fault (β × Bytes)} {next' : α → CursorReader β}
    (h : Follows first (reading c))
    (hnext : ∀ x (c : Cursor), c.Inside → Follows (next (x, c.rest)) (next' x c)) :
    Follows (first >>= next) ((reading >>= next') c) := by
  rw [bind_apply]
  generalize (reading c : Outcome α) = outcome at h
  cases h with
  | fault fault => exact .fault fault
  | value x c hinside => exact hnext x c hinside

/-- Inside a frame the bytes that are left can be counted. -/
theorem remaining_of_inside {c : Cursor} (h : c.Inside) :
    remaining c = (some (.ok (c.rest.length, c)) : Outcome Nat) := by
  rw [Cursor.length_rest]
  have hle : c.position ≤ c.frame.length := h
  change (if c.position ≤ c.frame.length then pure (c.frame.length - c.position) else outside :
    CursorReader Nat) c = _
  rw [if_pos hle]
  rfl

/-- Bytes that were checked for are there. -/
theorem take_of_le {c : Cursor} {count : Nat} (hinside : c.Inside) (hle : count ≤ c.rest.length)
    (name : String) :
    take count name c = (some (.ok (c.rest.take count, c.advance count)) : Outcome Bytes) := by
  have hbound : c.position + count ≤ c.frame.length := hinside.advance hle
  rw [take, bind_apply, remaining_of_inside hinside]
  dsimp only
  rw [if_neg (Nat.not_lt.2 hle)]
  change (if c.position + count ≤ c.frame.length then _ else outside : CursorReader Bytes) c = _
  rw [if_pos hbound]
  rfl

/-- Bytes that are not there are not asked for. -/
theorem take_of_lt {c : Cursor} {count : Nat} (hinside : c.Inside) (hlt : c.rest.length < count)
    (name : String) :
    take count name c = (some (.error (truncated name count c.rest.length)) : Outcome Bytes) := by
  rw [take, bind_apply, remaining_of_inside hinside]
  dsimp only
  rw [if_pos hlt]
  rfl

/-- Bytes are taken at a cursor as they are off a list. -/
theorem agrees_take (count : Nat) (name : String) :
    Agrees (Frame.take count name) (take count name) := by
  intro c hinside
  rw [Frame.take]
  by_cases hlt : c.rest.length < count
  · rw [if_pos hlt, take_of_lt hinside hlt]
    exact .fault _
  · have hle := Nat.le_of_not_lt hlt
    rw [if_neg hlt, take_of_le hinside hle, ← Cursor.rest_advance]
    exact .value _ _ (hinside.advance hle)

/-- A value that needs no byte is read without moving. -/
theorem Follows.pure {x : α} {c : Cursor} (hinside : c.Inside) :
    Follows (.ok (x, c.rest)) ((Pure.pure x : CursorReader α) c) :=
  .value x c hinside

/-- A fault is a fault at a cursor, too. -/
theorem Follows.throw (fault : Fault) (c : Cursor) :
    Follows (.error fault : Except Fault (α × Bytes))
      ((MonadExcept.throw fault : CursorReader α) c) :=
  .fault fault

/-- Words are taken at a cursor as they are off a list. -/
theorem agrees_takeWord (name : String) : Agrees (Frame.takeWord name) (takeWord name) := by
  intro c hinside
  rw [takeWord, bind_apply]
  by_cases hlt : c.rest.length < wordSize
  · rw [take_of_lt hinside hlt, takeWord_of_lt hlt]
    exact .fault _
  · have hle : wordSize ≤ c.rest.length := Nat.le_of_not_lt hlt
    obtain ⟨a, b, d, e, rest, hrest⟩ := exists_word_of_le hle
    have hafter : (c.advance wordSize).rest = rest := by
      rw [Cursor.rest_advance, hrest]
      rfl
    rw [take_of_le hinside hle, hrest, Frame.takeWord, ← hafter]
    exact .value _ _ (hinside.advance hle)

/-- Texts are taken at a cursor as they are off a list. -/
theorem agrees_takeText (count : Nat) (name : String) :
    Agrees (Frame.takeText count name) (takeText count name) := by
  intro c hinside
  refine (agrees_take count name c hinside).bind fun raw c hinside => ?_
  dsimp only
  cases Text.ofUtf8 raw with
  | ok text => exact Follows.pure hinside
  | error fault => exact Follows.throw _ c

/-- A reader is repeated at a cursor as it is on a list. -/
theorem Agrees.each {item : Reader α} {item' : CursorReader α} (h : Agrees item item')
    (count : Nat) : Agrees (Frame.takeEach item count) (takeEach item' count) := by
  induction count with
  | zero =>
    intro c hinside
    exact Follows.pure hinside
  | succ count ih =>
    intro c hinside
    refine (h c hinside).bind fun x c hinside => ?_
    refine (ih c hinside).bind fun xs c hinside => ?_
    exact Follows.pure hinside

/-- Values are taken at a cursor as they are off a list. -/
theorem agrees_takeValue : Agrees Frame.takeValue takeValue := by
  intro c hinside
  refine (agrees_takeWord _ c hinside).bind fun length c hinside => ?_
  dsimp only
  by_cases hnull : length = nullLength
  · rw [if_pos hnull, if_pos hnull]
    exact Follows.pure hinside
  · rw [if_neg hnull, if_neg hnull]
    refine (agrees_takeText _ _ c hinside).bind fun text c hinside => ?_
    exact Follows.pure hinside

/-- Properties are taken at a cursor as they are off a list. -/
theorem agrees_takeProperty : Agrees Frame.takeProperty takeProperty := by
  intro c hinside
  refine (agrees_takeWord _ c hinside).bind fun length c hinside => ?_
  refine (agrees_takeText _ _ c hinside).bind fun key c hinside => ?_
  refine (agrees_takeValue c hinside).bind fun value c hinside => ?_
  exact Follows.pure hinside

/-- Attachments are taken at a cursor as they are off a list. -/
theorem agrees_takeAttachment : Agrees Frame.takeAttachment takeAttachment := by
  intro c hinside
  refine (agrees_takeWord _ c hinside).bind fun length c hinside => ?_
  exact agrees_take _ _ c hinside

/-! ### Reading to the end -/

/-- Reading at a position comes to this result, wherever it stops. -/
def Ends (result : Except Fault α) (outcome : Outcome α) : Prop :=
  outcome.map (fun reached => reached.map Prod.fst) = some result

/-- A reading ends with a fault where the reader does. -/
theorem Ends.throw (fault : Fault) (c : Cursor) :
    Ends (.error fault : Except Fault α) ((MonadExcept.throw fault : CursorReader α) c) := rfl

/-- A reading that follows ends as the reader does. -/
theorem Follows.ends_bind {first : Except Fault (α × Bytes)} {reading : CursorReader α} {c : Cursor}
    {next : α × Bytes → Except Fault β} {next' : α → CursorReader β}
    (h : Follows first (reading c))
    (hnext : ∀ x (c : Cursor), c.Inside → Ends (next (x, c.rest)) (next' x c)) :
    Ends (first >>= next) ((reading >>= next') c) := by
  rw [bind_apply]
  generalize (reading c : Outcome α) = outcome at h
  cases h with
  | fault fault => rfl
  | value x c hinside => exact hnext x c hinside

/-- What is made of the result of reading is the same when the result is. -/
theorem Ends.bind_pure {result : Except Fault α} {reading : CursorReader α} {c : Cursor}
    (h : Ends result (reading c)) (f : α → β) :
    Ends (result >>= fun x => .ok (f x)) ((reading >>= fun x => Pure.pure (f x)) c) := by
  rw [bind_apply]
  generalize (reading c : Outcome α) = outcome at h
  cases outcome with
  | none => cases h
  | some reached =>
    obtain rfl := Option.some.inj h
    cases reached <;> rfl

/-- A reading may ask inside a frame how much is left. -/
theorem remaining_bind {c : Cursor} (hinside : c.Inside) (next : Nat → CursorReader β) :
    (remaining >>= next) c = next c.rest.length c := by
  rw [bind_apply, remaining_of_inside hinside]

/-- A payload ends at a cursor as it does on a list. -/
theorem ends_takePayload {c : Cursor} (hinside : c.Inside) :
    Ends (Frame.takePayload c.rest) (takePayload c) := by
  refine (agrees_takeWord _ c hinside).ends_bind fun count c hinside => ?_
  refine (agrees_takeProperty.each _ c hinside).ends_bind fun properties c hinside => ?_
  refine (agrees_takeWord _ c hinside).ends_bind fun count c hinside => ?_
  refine (agrees_takeAttachment.each _ c hinside).ends_bind fun attachments c hinside => ?_
  rw [remaining_bind hinside]
  dsimp only
  by_cases hempty : c.rest = []
  · rw [hempty]
    rfl
  · have hlength : ¬ c.rest.length = 0 := by simpa using hempty
    have hsome : ¬ c.rest.isEmpty = true := by simpa using hempty
    rw [if_neg hlength, if_neg hsome]
    exact Ends.throw _ c

end CursorReader

end Frame

namespace Codec

open Parley.Frame Parley.Frame.CursorReader

/-- Reading a frame by positions never asks for a byte outside it, and comes to what
decoding comes to. -/
theorem decodeAt_eq (c : Codec) (frame : Bytes) : c.decodeAt frame = some (c.decode frame) := by
  have hinside : (⟨frame, 0⟩ : Cursor).Inside := Nat.zero_le _
  refine (agrees_takeWord _ _ hinside).ends_bind fun length cursor hinside => ?_
  dsimp only
  by_cases hlimit : c.maxFrameSize < length
  · rw [if_pos hlimit, if_pos hlimit]
    exact Ends.throw _ cursor
  rw [if_neg hlimit, if_neg hlimit, remaining_bind hinside]
  by_cases hlength : length ≠ cursor.rest.length
  · rw [if_pos hlength, if_pos hlength]
    exact Ends.throw _ cursor
  rw [if_neg hlength, if_neg hlength]
  refine (agrees_takeWord _ cursor hinside).ends_bind fun code cursor hinside => ?_
  dsimp only
  cases c.registry.create code with
  | error fault => exact Ends.throw fault cursor
  | ok template => exact (ends_takePayload hinside).bind_pure _

end Codec

end Parley
