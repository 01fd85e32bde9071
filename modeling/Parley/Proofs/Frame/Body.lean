/-
# What a frame consists of

The bytes and the size of the frame of a message, told without the ways in which writing
can fail.  Main statement: a codec writes the frame of a message exactly when its body is
not too large, and then these are its bytes (`Codec.encode_eq_ok`).  Since no codec
allows a body that is as large as the largest word, no part of a frame that fits can be
too large for its own length.
-/

import Mathlib.Algebra.GroupWithZero.Nat
import Parley.Frame.Codec
import Parley.Proofs.Outcome

namespace Parley

namespace Frame

/-! ### Contents -/

/-- Bytes after their length. -/
def sizedContent (bytes : Bytes) : Bytes :=
  word bytes.length ++ bytes

/-- A value after its length. -/
def valueContent : Option String → Bytes
  | none => word nullLength
  | some text => sizedContent (Text.utf8 text)

/-- A property: its key and its value. -/
def propertyContent (entry : String × Option String) : Bytes :=
  sizedContent (Text.utf8 entry.1) ++ valueContent entry.2

/-- Items after their number. -/
def countedContent {α : Type} (item : α → Bytes) (xs : List α) : Bytes :=
  word xs.length ++ xs.flatMap item

/-- The body of the frame of a message. -/
def content (m : Message) : Bytes :=
  word m.tag.code ++ countedContent propertyContent m.bag.entries
    ++ countedContent sizedContent m.attachments

/-! ### Sizes -/

/-- The size of a value. -/
def valueSize : Option String → Nat
  | none => 0
  | some text => (Text.utf8 text).length

/-- The size of a property with the lengths of its key and of its value. -/
def propertySize (entry : String × Option String) : Nat :=
  8 + (Text.utf8 entry.1).length + valueSize entry.2

/-- The size of an attachment with its length. -/
def attachmentSize (bytes : List UInt8) : Nat :=
  4 + bytes.length

/-- The size of the body of the frame of a message: a tag and two counts, the properties
and the attachments. -/
def bodySize (m : Message) : Nat :=
  12 + (m.bag.entries.map propertySize).sum + (m.attachments.map attachmentSize).sum

@[simp]
theorem length_sizedContent (bytes : Bytes) :
    (sizedContent bytes).length = attachmentSize bytes := by
  simp [sizedContent, wordSize, attachmentSize]

@[simp]
theorem length_valueContent (value : Option String) :
    (valueContent value).length = 4 + valueSize value := by
  cases value <;> simp [valueContent, valueSize, wordSize, attachmentSize]

@[simp]
theorem length_propertyContent (entry : String × Option String) :
    (propertyContent entry).length = propertySize entry := by
  simp only [propertyContent, List.length_append, length_sizedContent, length_valueContent,
    propertySize, attachmentSize]
  omega

/-- A counted list takes the bytes of its count and those of its items. -/
theorem length_countedContent {α : Type} {item : α → Bytes} {size : α → Nat}
    (hsize : ∀ x, (item x).length = size x) (xs : List α) :
    (countedContent item xs).length = 4 + (xs.map size).sum := by
  simp [countedContent, List.length_flatMap, wordSize, hsize]

/-- The size of the body is the number of its bytes. -/
@[simp]
theorem length_content (m : Message) : (content m).length = bodySize m := by
  simp only [content, List.length_append, length_word, wordSize,
    length_countedContent length_propertyContent, length_countedContent length_sizedContent,
    bodySize]
  omega

/-! ### When a part can be written -/

/-- Whether something of this length can be written after its length. -/
def Short (length : Nat) : Prop := length < nullLength

/-- Whether the length of a value can be written. -/
def ShortValue : Option String → Prop
  | none => True
  | some text => Short (Text.utf8 text).length

/-- Whether all lengths in a message can be written. -/
structure ShortParts (m : Message) : Prop where
  propertyCount : Short m.bag.entries.length
  property : ∀ entry ∈ m.bag.entries, Short (Text.utf8 entry.1).length ∧ ShortValue entry.2
  attachmentCount : Short m.attachments.length
  attachment : ∀ bytes ∈ m.attachments, Short bytes.length

/-- A length is written when it is short. -/
theorem lengthWord_eq_ok {length : Nat} {name : String} {bytes : Bytes} :
    lengthWord length name = .ok bytes ↔ Short length ∧ bytes = word length := by
  rw [lengthWord]
  by_cases h : length < nullLength
  · simp [h, Short, eq_comm]
  · simp [h, Short]

/-- Bytes with their length before them are written when the length is short. -/
theorem sized_eq_ok {bytes written : Bytes} {name : String} :
    sized bytes name = .ok written ↔ Short bytes.length ∧ written = sizedContent bytes := by
  simp only [sized, map_eq_ok, lengthWord_eq_ok, sizedContent]
  constructor
  · rintro ⟨_, ⟨hshort, rfl⟩, rfl⟩
    exact ⟨hshort, rfl⟩
  · rintro ⟨hshort, rfl⟩
    exact ⟨_, ⟨hshort, rfl⟩, rfl⟩

/-- A value is written when it is absent or short. -/
theorem valueBytes_eq_ok {value : Option String} {written : Bytes} :
    valueBytes value = .ok written ↔ ShortValue value ∧ written = valueContent value := by
  cases value with
  | none => simp [valueBytes, ShortValue, valueContent, eq_comm]
  | some text => simp only [valueBytes, sized_eq_ok, ShortValue, valueContent]

/-- A property is written when its key and its value are. -/
theorem propertyBytes_eq_ok {entry : String × Option String} {written : Bytes} :
    propertyBytes entry = .ok written ↔
      (Short (Text.utf8 entry.1).length ∧ ShortValue entry.2) ∧
        written = propertyContent entry := by
  simp only [propertyBytes, bind_eq_ok, sized_eq_ok, valueBytes_eq_ok, propertyContent]
  constructor
  · rintro ⟨_, ⟨hkey, rfl⟩, _, ⟨hvalue, rfl⟩, heq⟩
    cases heq
    exact ⟨⟨hkey, hvalue⟩, rfl⟩
  · rintro ⟨⟨hkey, hvalue⟩, rfl⟩
    exact ⟨_, ⟨hkey, rfl⟩, _, ⟨hvalue, rfl⟩, rfl⟩

/-- Items are written when each of them can be written. -/
theorem eachBytes_eq_ok {α : Type} {item : α → Except Fault Bytes} {writable : α → Prop}
    {bytesOf : α → Bytes}
    (hitem : ∀ x written, item x = .ok written ↔ writable x ∧ written = bytesOf x)
    {xs : List α} {written : Bytes} :
    eachBytes item xs = .ok written ↔ (∀ x ∈ xs, writable x) ∧ written = xs.flatMap bytesOf := by
  induction xs generalizing written with
  | nil => simp [eachBytes, eq_comm]
  | cons x xs ih =>
    simp only [eachBytes, bind_eq_ok, hitem, ih, List.forall_mem_cons, List.flatMap_cons]
    constructor
    · rintro ⟨_, ⟨hx, rfl⟩, _, ⟨hxs, rfl⟩, heq⟩
      cases heq
      exact ⟨⟨hx, hxs⟩, rfl⟩
    · rintro ⟨⟨hx, hxs⟩, rfl⟩
      exact ⟨_, ⟨hx, rfl⟩, _, ⟨hxs, rfl⟩, rfl⟩

/-- A counted list is written when its count is short and each item can be written. -/
theorem counted_eq_ok {α : Type} {item : α → Except Fault Bytes} {writable : α → Prop}
    {bytesOf : α → Bytes}
    (hitem : ∀ x written, item x = .ok written ↔ writable x ∧ written = bytesOf x)
    {name : String} {xs : List α} {written : Bytes} :
    counted item name xs = .ok written ↔
      (Short xs.length ∧ ∀ x ∈ xs, writable x) ∧ written = countedContent bytesOf xs := by
  simp only [counted, bind_eq_ok, lengthWord_eq_ok, eachBytes_eq_ok hitem, countedContent]
  constructor
  · rintro ⟨_, ⟨hcount, rfl⟩, _, ⟨hxs, rfl⟩, heq⟩
    cases heq
    exact ⟨⟨hcount, hxs⟩, rfl⟩
  · rintro ⟨⟨hcount, hxs⟩, rfl⟩
    exact ⟨_, ⟨hcount, rfl⟩, _, ⟨hxs, rfl⟩, rfl⟩

/-- The body of a message can be written when all its lengths can. -/
theorem body_eq_ok {m : Message} {written : Bytes} :
    body m = .ok written ↔ ShortParts m ∧ written = content m := by
  simp only [body, bind_eq_ok, counted_eq_ok fun _ _ => propertyBytes_eq_ok,
    counted_eq_ok fun _ _ => sized_eq_ok, content]
  constructor
  · rintro ⟨_, ⟨⟨hcount, hproperty⟩, rfl⟩, _, ⟨⟨hcount', hattachment⟩, rfl⟩, heq⟩
    cases heq
    exact ⟨⟨hcount, hproperty, hcount', hattachment⟩, rfl⟩
  · rintro ⟨⟨hcount, hproperty, hcount', hattachment⟩, rfl⟩
    exact ⟨_, ⟨⟨hcount, hproperty⟩, rfl⟩, _, ⟨⟨hcount', hattachment⟩, rfl⟩, rfl⟩

/-- A sum is at least as large as any of its terms. -/
private theorem le_sum_map {α : Type} (size : α → Nat) {x : α} {xs : List α} (h : x ∈ xs) :
    size x ≤ (xs.map size).sum := by
  induction xs with
  | nil => cases h
  | cons y ys ih =>
    simp only [List.map_cons, List.sum_cons]
    rcases List.mem_cons.1 h with rfl | hmem
    · omega
    · have := ih hmem
      omega

/-- A sum of terms that are positive is at least as large as their number. -/
private theorem length_le_sum_map {α : Type} (size : α → Nat)
    (hpos : ∀ x, 0 < size x) (xs : List α) : xs.length ≤ (xs.map size).sum := by
  induction xs with
  | nil => simp
  | cons x xs ih =>
    have hx := hpos x
    simp only [List.length_cons, List.map_cons, List.sum_cons]
    omega

/-- No length in a body is larger than the body. -/
theorem shortParts_of_bodySize {m : Message} (h : Short (bodySize m)) : ShortParts m := by
  simp only [Short, bodySize] at h
  refine ⟨?_, fun entry hentry => ?_, ?_, fun bytes hbytes => ?_⟩
  · have := length_le_sum_map propertySize
      (fun entry => by simp only [propertySize]; omega) m.bag.entries
    simp only [Short]
    omega
  · have hsize := le_sum_map propertySize hentry
    obtain ⟨key, value⟩ := entry
    simp only [propertySize] at hsize
    refine ⟨?_, ?_⟩
    · simp only [Short]
      omega
    · cases value with
      | none => trivial
      | some text =>
        simp only [valueSize] at hsize
        simp only [ShortValue, Short]
        omega
  · have := length_le_sum_map attachmentSize
      (fun bytes => by simp only [attachmentSize]; omega) m.attachments
    simp only [Short]
    omega
  · have := le_sum_map attachmentSize hbytes
    simp only [attachmentSize] at this
    simp only [Short]
    omega

/-- Whatever fits into a frame is short. -/
theorem short_of_le_maxFrameSize {length : Nat} (h : length ≤ maxFrameSize) : Short length := by
  simp only [maxFrameSize] at h
  simp only [Short, nullLength, wordLimit, UInt32.size]
  omega

end Frame

namespace Codec

open Parley.Frame

/-- A codec writes the frame of a message exactly when the body is not too large. -/
theorem encode_eq_ok {c : Codec} {m : Message} {frame : Bytes} :
    c.encode m = .ok frame ↔
      bodySize m ≤ c.maxFrameSize ∧ frame = sizedContent (content m) := by
  simp only [encode, bind_eq_ok, body_eq_ok]
  constructor
  · rintro ⟨_, ⟨-, rfl⟩, hframe⟩
    rw [length_content] at hframe
    by_cases hsize : c.maxFrameSize < bodySize m
    · simp [hsize] at hframe
    · rw [if_neg hsize] at hframe
      obtain ⟨_, hword, heq⟩ := bind_eq_ok.1 hframe
      obtain ⟨-, rfl⟩ := lengthWord_eq_ok.1 hword
      cases heq
      exact ⟨Nat.le_of_not_lt hsize, by rw [sizedContent, length_content]⟩
  · rintro ⟨hsize, rfl⟩
    have hshort := short_of_le_maxFrameSize (Nat.le_trans hsize c.maxFrameSize_le)
    refine ⟨_, ⟨shortParts_of_bodySize hshort, rfl⟩, ?_⟩
    rw [length_content, if_neg (Nat.not_lt.2 hsize), bind_eq_ok]
    exact ⟨_, lengthWord_eq_ok.2 ⟨hshort, rfl⟩, by rw [sizedContent, length_content]; rfl⟩

end Codec

end Parley
