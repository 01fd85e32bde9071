/-
# Frames read back

Every reader of a part of a frame, applied to the contents of such a part with anything
behind it, gives the part and what was behind it.  From this a codec reads the message of
every frame that it has written, provided that its registry starts the messages of a tag
from an empty one of the right class (`Codec.decode_of_encode`).  Together with the size
of a body this is the whole contract of a codec on its own frames
(`Codec.encode_roundTrip`).
-/

import Parley.Message.Fields
import Parley.Proofs.Bag
import Parley.Proofs.Frame.Body
import Parley.Proofs.Registry

namespace Parley

namespace Frame

/-! ### Readers of parts -/

@[simp]
theorem takeWord_word {n : Nat} (h : n < wordLimit) (name : String) (rest : Bytes) :
    takeWord name (word n ++ rest) = .ok (n, rest) := by
  have hvalue := ofWord_word h
  simp only [word, List.cons_append, List.nil_append, takeWord]
  rw [hvalue]

/-- The bytes of a word tell it. -/
theorem word_inj {n n' : Nat} (h : n < wordLimit) (h' : n' < wordLimit)
    (heq : word n = word n') : n = n' := by
  have hread := takeWord_word h "" []
  rw [heq, takeWord_word h'] at hread
  cases hread
  rfl

/-- Bytes are taken off the front. -/
theorem take_append (bytes rest : Bytes) (name : String) :
    take bytes.length name (bytes ++ rest) = .ok (bytes, rest) := by
  have hle : ¬ (bytes ++ rest).length < bytes.length := by simp
  rw [take, if_neg hle, List.take_left, List.drop_left]

/-- A text is read off its bytes. -/
theorem takeText_append (text : String) (rest : Bytes) (name : String) :
    takeText (Text.utf8 text).length name (Text.utf8 text ++ rest) = .ok (text, rest) := by
  simp [takeText, take_append]

/-- A short length fits into a word. -/
theorem Short.lt_wordLimit {n : Nat} (h : Short n) : n < wordLimit := by
  simp only [Short, nullLength, wordLimit, UInt32.size] at *
  omega

/-- The mark of an absent value fits into a word. -/
theorem nullLength_lt_wordLimit : nullLength < wordLimit := by
  simp [nullLength, wordLimit, UInt32.size]

/-- A value is read off its content. -/
theorem takeValue_append {value : Option String} (h : ShortValue value) (rest : Bytes) :
    takeValue (valueContent value ++ rest) = .ok (value, rest) := by
  cases value with
  | none =>
    simp [takeValue, valueContent, takeWord_word nullLength_lt_wordLimit]
  | some text =>
    have hshort : Short (Text.utf8 text).length := h
    have hne : (Text.utf8 text).length ≠ nullLength := Nat.ne_of_lt hshort
    simp only [takeValue, valueContent, sizedContent, List.append_assoc,
      takeWord_word hshort.lt_wordLimit, ok_bind, if_neg hne, takeText_append]

/-- Whether the lengths in a property can be read. -/
def FitsProperty (entry : String × Option String) : Prop :=
  (Text.utf8 entry.1).length < wordLimit ∧ ShortValue entry.2

/-- A property is read off its content. -/
theorem takeProperty_append {entry : String × Option String} (h : FitsProperty entry)
    (rest : Bytes) : takeProperty (propertyContent entry ++ rest) = .ok (entry, rest) := by
  simp only [takeProperty, propertyContent, sizedContent, List.append_assoc,
    takeWord_word h.1, ok_bind, takeText_append, takeValue_append h.2]

/-- An attachment is read off its content. -/
theorem takeAttachment_append {bytes : Bytes} (h : bytes.length < wordLimit) (rest : Bytes) :
    takeAttachment (sizedContent bytes ++ rest) = .ok (bytes, rest) := by
  simp only [takeAttachment, sizedContent, List.append_assoc, takeWord_word h, ok_bind,
    take_append]

/-- Items are read one after the other as each of them is read. -/
theorem takeEach_append {α : Type} (reader : Reader α) (bytesOf : α → Bytes) {xs : List α}
    (hitem : ∀ x ∈ xs, ∀ rest, reader (bytesOf x ++ rest) = .ok (x, rest)) (rest : Bytes) :
    takeEach reader xs.length (xs.flatMap bytesOf ++ rest) = .ok (xs, rest) := by
  induction xs with
  | nil => rfl
  | cons x xs ih =>
    have hx := hitem x (by simp)
    have hxs := ih fun y hy => hitem y (by simp [hy])
    simp only [List.length_cons, takeEach, List.flatMap_cons, List.append_assoc, hx, ok_bind, hxs]

/-- What follows a tag is read back when its numbers and lengths are words. -/
theorem takePayload_countedContent {properties : List (String × Option String)}
    {attachments : List Bytes} (hcount : properties.length < wordLimit)
    (hproperty : ∀ entry ∈ properties, FitsProperty entry)
    (hcount' : attachments.length < wordLimit)
    (hattachment : ∀ bytes ∈ attachments, bytes.length < wordLimit) :
    takePayload (countedContent propertyContent properties
        ++ countedContent sizedContent attachments) = .ok (properties, attachments) := by
  have hproperties := takeEach_append takeProperty propertyContent
    fun entry hentry rest => takeProperty_append (hproperty entry hentry) rest
  have hattachments := takeEach_append takeAttachment sizedContent
    (fun bytes hbytes rest => takeAttachment_append (hattachment bytes hbytes) rest) []
  rw [List.append_nil] at hattachments
  simp only [takePayload, countedContent, List.append_assoc, takeWord_word hcount,
    takeWord_word hcount', ok_bind, hproperties, hattachments]
  rfl

/-- What follows the tag of a message is read back. -/
theorem takePayload_content {m : Message} (h : ShortParts m) :
    takePayload (countedContent propertyContent m.bag.entries
        ++ countedContent sizedContent m.attachments) =
      .ok (m.bag.entries, m.attachments) := by
  apply takePayload_countedContent h.propertyCount.lt_wordLimit _ h.attachmentCount.lt_wordLimit
  · intro bytes hbytes
    exact (h.attachment bytes hbytes).lt_wordLimit
  · intro entry hentry
    obtain ⟨hkey, hvalue⟩ := h.property entry hentry
    exact ⟨hkey.lt_wordLimit, hvalue⟩

end Frame

/-- The code of a tag fits into a word. -/
theorem Tag.code_lt_wordLimit (tag : Tag) : tag.code < Frame.wordLimit := by
  cases tag with
  | unspecified => decide
  | request op => cases op <;> decide
  | reply op => cases op <;> decide

/-- The message from which a message of the same class and tag is read. -/
def Message.blank (m : Message) : Message :=
  { role := m.role, tag := m.tag }

namespace Registry

/-- A registered message is created by its code. -/
theorem create_code {r : Registry} {tag : Tag} {template : Message}
    (h : r.template? tag = some template) : r.create tag.code = .ok template := by
  simp [create, createMessage, h]

end Registry

namespace Codec

open Parley.Frame

/-- The frame of a message that fits is read as the message bound to its tag, to which the
properties and the attachments are added. -/
theorem decode_sizedContent_of_template {c : Codec} {m template : Message}
    (hregistry : c.registry.template? m.tag = some template) (hsize : bodySize m ≤ c.maxFrameSize) :
    c.decode (sizedContent (content m)) = .ok { template with
      bag := m.bag.entries.foldl (fun b entry => b.insert entry.1 entry.2) template.bag
      attachments := template.attachments ++ m.attachments } := by
  have hshort := short_of_le_maxFrameSize (Nat.le_trans hsize c.maxFrameSize_le)
  have hlength : (content m).length = bodySize m := length_content m
  have hpayload := takePayload_content (shortParts_of_bodySize hshort)
  simp only [decode, sizedContent, hlength, takeWord_word hshort.lt_wordLimit, ok_bind,
    if_neg (Nat.not_lt.2 hsize), ne_eq, not_true_eq_false, if_false]
  simp only [content, List.append_assoc, takeWord_word m.tag.code_lt_wordLimit, ok_bind,
    Registry.create_code hregistry, hpayload]
  rfl

/-- The frame of a message that fits is read back as this message. -/
theorem decode_sizedContent {c : Codec} {m : Message}
    (hregistry : c.registry.template? m.tag = some m.blank) (hsize : bodySize m ≤ c.maxFrameSize) :
    c.decode (sizedContent (content m)) = .ok m := by
  rw [decode_sizedContent_of_template hregistry hsize]
  simp only [Message.blank, Bag.foldl_insert_entries, List.nil_append]

/-- What is read from the frame of a message has the properties of the message, and those of
the message bound to its tag where it has none. -/
theorem exists_decode_of_template {c : Codec} {m template : Message} {frame : Frame.Bytes}
    (hregistry : c.registry.template? m.tag = some template) (h : c.encode m = .ok frame) :
    ∃ received, c.decode frame = .ok received ∧ received.role = template.role ∧
      ∀ key, received.bag.get? key = (m.bag.get? key).or (template.bag.get? key) := by
  obtain ⟨hsize, rfl⟩ := encode_eq_ok.1 h
  have hdecode := decode_sizedContent_of_template hregistry hsize
  exact ⟨_, hdecode, rfl, Bag.get?_foldl_insert_entries m.bag template.bag⟩

/-- What a codec has written it reads back. -/
theorem decode_of_encode {c : Codec} {m : Message} {frame : Bytes}
    (hregistry : c.registry.template? m.tag = some m.blank) (h : c.encode m = .ok frame) :
    c.decode frame = .ok m := by
  obtain ⟨hsize, rfl⟩ := encode_eq_ok.1 h
  exact decode_sizedContent hregistry hsize

/-- A message whose tag the registry binds to its class can be encoded exactly when its
body is not larger than the codec allows, and its frame decodes to the message itself:
the same class, tag, properties and attachments.  No length can be too large for its
word, because the codec allows no body of such a size. -/
theorem encode_roundTrip (c : Codec) (m : Message)
    (hregistry : c.registry.template? m.tag = some m.blank) :
    ((∃ frame, c.encode m = .ok frame) ↔ bodySize m ≤ c.maxFrameSize) ∧
      ∀ frame, c.encode m = .ok frame → c.decode frame = .ok m := by
  refine ⟨⟨?_, fun hsize => ⟨_, encode_eq_ok.2 ⟨hsize, rfl⟩⟩⟩,
    fun frame h => decode_of_encode hregistry h⟩
  rintro ⟨frame, h⟩
  exact (encode_eq_ok.1 h).1

/-- A request with a property of each kind — absent, without a value, empty, beyond ASCII —
and with two attachments, one of them empty. -/
def mixedRequest : Message :=
  (((Message.request .connect).insert Key.endpoints (some "höst:1")
    |>.insert Key.domain none
    |>.insert "" (some "")).pushAttachment [0, 255]).pushAttachment []

/-- A request with an absent value, an empty one and two attachments makes the round trip. -/
theorem encode_roundTrip_mixedRequest :
    standard.registry.template? mixedRequest.tag = some mixedRequest.blank ∧
      ((∃ frame, standard.encode mixedRequest = .ok frame) ↔
        bodySize mixedRequest ≤ standard.maxFrameSize) ∧
      ∀ frame, standard.encode mixedRequest = .ok frame →
        standard.decode frame = .ok mixedRequest :=
  have hregistry : standard.registry.template? mixedRequest.tag = some mixedRequest.blank :=
    Registry.template?_standard_request .connect
  ⟨hregistry, encode_roundTrip standard mixedRequest hregistry⟩

end Codec

end Parley
