/-
# Which bytes are frames

Every reader of a part of a frame reads exactly the contents of such a part: what it has
read stood in front of what is left, and it finds whatever stands there.  When it fails
it reports malformed bytes.  From this follows what a codec makes of arbitrary bytes
(`Codec.decode_classifies`).  They are the frame of a message, or a frame with a tag that
stands for no message, or they are malformed, and each of the three is told without the
readers.
-/

import Parley.Proofs.Frame.Cursor
import Parley.Proofs.Frame.RoundTrip

namespace Parley

namespace Frame

variable {α : Type} {bytes rest : Bytes} {name : String}

/-! ### What is read -/

/-- A word is read exactly off its four bytes. -/
theorem takeWord_eq_ok {n : Nat} :
    takeWord name bytes = .ok (n, rest) ↔ n < wordLimit ∧ bytes = word n ++ rest := by
  constructor
  · intro h
    by_cases hlt : bytes.length < wordSize
    · rw [takeWord_of_lt hlt] at h
      cases h
    · obtain ⟨a, b, c, d, after, rfl⟩ := exists_word_of_le (Nat.le_of_not_lt hlt)
      cases h
      exact ⟨ofWord_lt a b c d, by rw [word_ofWord]; rfl⟩
  · rintro ⟨hn, rfl⟩
    exact takeWord_word hn name rest

/-- Bytes are taken exactly off themselves. -/
theorem take_eq_ok {count : Nat} {taken : Bytes} :
    take count name bytes = .ok (taken, rest) ↔ taken.length = count ∧ bytes = taken ++ rest := by
  constructor
  · intro h
    rw [take] at h
    by_cases hlt : bytes.length < count
    · rw [if_pos hlt] at h
      cases h
    · rw [if_neg hlt] at h
      cases h
      refine ⟨?_, (List.take_append_drop count bytes).symm⟩
      rw [List.length_take, Nat.min_eq_left (Nat.le_of_not_lt hlt)]
  · rintro ⟨rfl, rfl⟩
    exact take_append taken rest name

/-- A text is read exactly off its UTF-8 bytes. -/
theorem takeText_eq_ok {count : Nat} {text : String} :
    takeText count name bytes = .ok (text, rest) ↔
      (Text.utf8 text).length = count ∧ bytes = Text.utf8 text ++ rest := by
  constructor
  · intro h
    obtain ⟨⟨raw, after⟩, hraw, htext⟩ := bind_eq_ok.1 h
    obtain ⟨hlength, rfl⟩ := take_eq_ok.1 hraw
    cases hread : Text.ofUtf8 raw with
    | error fault => simp [hread] at htext
    | ok read =>
      simp only [hread, Except.ok.injEq, Prod.mk.injEq] at htext
      obtain ⟨rfl, rfl⟩ := htext
      rw [Text.utf8_of_ofUtf8 hread]
      exact ⟨hlength, rfl⟩
  · rintro ⟨rfl, rfl⟩
    exact takeText_append text rest name

/-- A value is read exactly off its content when it is short. -/
theorem takeValue_eq_ok {value : Option String} :
    takeValue bytes = .ok (value, rest) ↔
      ShortValue value ∧ bytes = valueContent value ++ rest := by
  constructor
  · intro h
    obtain ⟨⟨length, after⟩, hlength, hvalue⟩ := bind_eq_ok.1 h
    obtain ⟨hword, rfl⟩ := takeWord_eq_ok.1 hlength
    dsimp only at hvalue
    by_cases hnull : length = nullLength
    · rw [if_pos hnull] at hvalue
      cases hvalue
      exact ⟨trivial, by rw [hnull]; rfl⟩
    · rw [if_neg hnull] at hvalue
      obtain ⟨⟨text, after⟩, htext, hdone⟩ := bind_eq_ok.1 hvalue
      cases hdone
      obtain ⟨rfl, rfl⟩ := takeText_eq_ok.1 htext
      refine ⟨?_, by simp only [valueContent, sizedContent, List.append_assoc]⟩
      simp only [ShortValue, Short, nullLength] at *
      omega
  · rintro ⟨hshort, rfl⟩
    exact takeValue_append hshort rest

/-- A property is read exactly off its content when it fits. -/
theorem takeProperty_eq_ok {entry : String × Option String} :
    takeProperty bytes = .ok (entry, rest) ↔
      FitsProperty entry ∧ bytes = propertyContent entry ++ rest := by
  constructor
  · intro h
    obtain ⟨⟨length, after⟩, hlength, h⟩ := bind_eq_ok.1 h
    obtain ⟨⟨key, after'⟩, hkey, h⟩ := bind_eq_ok.1 h
    obtain ⟨⟨value, after''⟩, hvalue, h⟩ := bind_eq_ok.1 h
    cases h
    obtain ⟨hword, rfl⟩ := takeWord_eq_ok.1 hlength
    obtain ⟨rfl, rfl⟩ := takeText_eq_ok.1 hkey
    obtain ⟨hshort, rfl⟩ := takeValue_eq_ok.1 hvalue
    exact ⟨⟨hword, hshort⟩, by simp only [propertyContent, sizedContent, List.append_assoc]⟩
  · rintro ⟨hfits, rfl⟩
    exact takeProperty_append hfits rest

/-- An attachment is read exactly off its content when its length fits into a word. -/
theorem takeAttachment_eq_ok {attachment : Bytes} :
    takeAttachment bytes = .ok (attachment, rest) ↔
      attachment.length < wordLimit ∧ bytes = sizedContent attachment ++ rest := by
  constructor
  · intro h
    obtain ⟨⟨length, after⟩, hlength, htake⟩ := bind_eq_ok.1 h
    obtain ⟨rfl, rfl⟩ := take_eq_ok.1 htake
    obtain ⟨hword, rfl⟩ := takeWord_eq_ok.1 hlength
    exact ⟨hword, by simp only [sizedContent, List.append_assoc]⟩
  · rintro ⟨hword, rfl⟩
    exact takeAttachment_append hword rest

/-- Items are read one after the other as each of them is read. -/
theorem takeEach_eq_ok {item : Reader α} {fits : α → Prop} {bytesOf : α → Bytes}
    (hitem : ∀ {x bytes rest}, item bytes = .ok (x, rest) ↔ fits x ∧ bytes = bytesOf x ++ rest)
    {count : Nat} {xs : List α} :
    takeEach item count bytes = .ok (xs, rest) ↔
      (xs.length = count ∧ ∀ x ∈ xs, fits x) ∧ bytes = xs.flatMap bytesOf ++ rest := by
  constructor
  · intro h
    induction count generalizing bytes xs with
    | zero =>
      cases h
      exact ⟨⟨rfl, nofun⟩, rfl⟩
    | succ count ih =>
      obtain ⟨⟨x, after⟩, hx, h⟩ := bind_eq_ok.1 h
      obtain ⟨⟨xs', after'⟩, hxs, h⟩ := bind_eq_ok.1 h
      cases h
      obtain ⟨hfits, rfl⟩ := hitem.1 hx
      obtain ⟨⟨hlength, hall⟩, rfl⟩ := ih hxs
      exact ⟨⟨by rw [List.length_cons, hlength], List.forall_mem_cons.2 ⟨hfits, hall⟩⟩,
        by rw [List.flatMap_cons, List.append_assoc]⟩
  · rintro ⟨⟨rfl, hall⟩, rfl⟩
    exact takeEach_append item bytesOf (fun x hx _ => hitem.2 ⟨hall x hx, rfl⟩) rest

/-! ### Layouts -/

/-- The parts of the body of a frame, in the order in which they stand. -/
structure Layout where
  /-- The code of the tag. -/
  code : Nat
  properties : List (String × Option String)
  attachments : List Bytes

namespace Layout

/-- The body that consists of these parts: the tag, the properties after their number and
the attachments after theirs. -/
def body (l : Layout) : Bytes :=
  word l.code ++ countedContent propertyContent l.properties
    ++ countedContent sizedContent l.attachments

/-- Whether the numbers and lengths in a layout can be written as words, the length of a
value not being the one that stands for no value. -/
structure Fits (l : Layout) : Prop where
  code : l.code < wordLimit
  propertyCount : l.properties.length < wordLimit
  property : ∀ entry ∈ l.properties, FitsProperty entry
  attachmentCount : l.attachments.length < wordLimit
  attachment : ∀ bytes ∈ l.attachments, bytes.length < wordLimit

end Layout

/-- A payload is read exactly off counted properties and counted attachments. -/
theorem takePayload_eq_ok {properties : List (String × Option String)} {attachments : List Bytes} :
    takePayload bytes = .ok (properties, attachments) ↔
      (properties.length < wordLimit ∧ (∀ entry ∈ properties, FitsProperty entry) ∧
        attachments.length < wordLimit ∧ ∀ bytes ∈ attachments, bytes.length < wordLimit) ∧
      bytes = countedContent propertyContent properties
        ++ countedContent sizedContent attachments := by
  constructor
  · intro h
    obtain ⟨⟨count, after⟩, hcount, h⟩ := bind_eq_ok.1 h
    obtain ⟨⟨properties', after'⟩, hproperties, h⟩ := bind_eq_ok.1 h
    obtain ⟨⟨count', after''⟩, hcount', h⟩ := bind_eq_ok.1 h
    obtain ⟨⟨attachments', left⟩, hattachments, h⟩ := bind_eq_ok.1 h
    dsimp only at h
    by_cases hleft : left.isEmpty = true
    · rw [if_pos hleft] at h
      cases h
      obtain rfl := List.isEmpty_iff.1 hleft
      obtain ⟨hword, rfl⟩ := takeWord_eq_ok.1 hcount
      obtain ⟨⟨rfl, hfits⟩, rfl⟩ := (takeEach_eq_ok takeProperty_eq_ok).1 hproperties
      obtain ⟨hword', rfl⟩ := takeWord_eq_ok.1 hcount'
      obtain ⟨⟨rfl, hfits'⟩, rfl⟩ := (takeEach_eq_ok takeAttachment_eq_ok).1 hattachments
      exact ⟨⟨hword, hfits, hword', hfits'⟩,
        by simp only [countedContent, List.append_assoc, List.append_nil]⟩
    · rw [if_neg hleft] at h
      cases h
  · rintro ⟨⟨hword, hfits, hword', hfits'⟩, rfl⟩
    exact takePayload_countedContent hword hfits hword' hfits'

/-! ### What is not read -/

/-- A computation that fails only because bytes are malformed. -/
def OnlyMalformed (x : Except Fault α) : Prop :=
  ∀ fault, x = .error fault → ∃ reason, fault = .malformed reason

/-- A result is no fault. -/
theorem onlyMalformed_ok (x : α) : OnlyMalformed (.ok x) := nofun

/-- A malformed frame is malformed. -/
theorem onlyMalformed_malformed (reason : String) :
    OnlyMalformed (.error (.malformed reason) : Except Fault α) := by
  rintro _ ⟨⟩
  exact ⟨reason, rfl⟩

/-- Of two steps neither of which has another fault the whole has no other. -/
theorem OnlyMalformed.bind {β : Type} {x : Except Fault α} {f : α → Except Fault β}
    (hx : OnlyMalformed x) (hf : ∀ a, OnlyMalformed (f a)) : OnlyMalformed (x >>= f) := by
  cases x with
  | ok a => exact hf a
  | error fault =>
    rintro _ ⟨⟩
    exact hx fault rfl

/-- What is made of a result has no other faults. -/
theorem OnlyMalformed.map {β : Type} {x : Except Fault α} {f : α → β} (hx : OnlyMalformed x) :
    OnlyMalformed (x.map f) := by
  cases x with
  | ok a => exact onlyMalformed_ok _
  | error fault =>
    rintro _ ⟨⟩
    exact hx fault rfl

/-- Bytes can only be missing. -/
theorem onlyMalformed_take (count : Nat) (name : String) (bytes : Bytes) :
    OnlyMalformed (take count name bytes) := by
  rw [take]
  by_cases hlt : bytes.length < count
  · rw [if_pos hlt]
    exact onlyMalformed_malformed _
  · rw [if_neg hlt]
    exact onlyMalformed_ok _

/-- A word can only be missing. -/
theorem onlyMalformed_takeWord (name : String) (bytes : Bytes) :
    OnlyMalformed (takeWord name bytes) := by
  by_cases hlt : bytes.length < wordSize
  · rw [takeWord_of_lt hlt]
    exact onlyMalformed_malformed _
  · obtain ⟨a, b, c, d, rest, rfl⟩ := exists_word_of_le (Nat.le_of_not_lt hlt)
    exact onlyMalformed_ok _

/-- A text can be missing or be no UTF-8. -/
theorem onlyMalformed_takeText (count : Nat) (name : String) (bytes : Bytes) :
    OnlyMalformed (takeText count name bytes) := by
  refine (onlyMalformed_take count name bytes).bind fun ⟨raw, rest⟩ => ?_
  dsimp only
  cases Text.ofUtf8 raw with
  | ok text => exact onlyMalformed_ok _
  | error fault => exact onlyMalformed_malformed _

/-- A value can only be malformed. -/
theorem onlyMalformed_takeValue (bytes : Bytes) : OnlyMalformed (takeValue bytes) := by
  refine (onlyMalformed_takeWord _ bytes).bind fun ⟨length, rest⟩ => ?_
  dsimp only
  by_cases hnull : length = nullLength
  · rw [if_pos hnull]
    exact onlyMalformed_ok _
  · rw [if_neg hnull]
    exact (onlyMalformed_takeText _ _ rest).bind fun _ => onlyMalformed_ok _

/-- A property can only be malformed. -/
theorem onlyMalformed_takeProperty (bytes : Bytes) : OnlyMalformed (takeProperty bytes) := by
  refine (onlyMalformed_takeWord _ bytes).bind fun ⟨length, rest⟩ => ?_
  refine (onlyMalformed_takeText _ _ rest).bind fun ⟨key, rest⟩ => ?_
  exact (onlyMalformed_takeValue rest).bind fun _ => onlyMalformed_ok _

/-- An attachment can only be malformed. -/
theorem onlyMalformed_takeAttachment (bytes : Bytes) : OnlyMalformed (takeAttachment bytes) :=
  (onlyMalformed_takeWord _ bytes).bind fun ⟨_, rest⟩ => onlyMalformed_take _ _ rest

/-- Items that can only be malformed one by one can only be so together. -/
theorem onlyMalformed_takeEach {item : Reader α} (hitem : ∀ bytes, OnlyMalformed (item bytes))
    (count : Nat) (bytes : Bytes) : OnlyMalformed (takeEach item count bytes) := by
  induction count generalizing bytes with
  | zero => exact onlyMalformed_ok _
  | succ count ih =>
    refine (hitem bytes).bind fun ⟨x, rest⟩ => ?_
    exact (ih rest).bind fun _ => onlyMalformed_ok _

/-- A payload can only be malformed. -/
theorem onlyMalformed_takePayload (bytes : Bytes) : OnlyMalformed (takePayload bytes) := by
  refine (onlyMalformed_takeWord _ bytes).bind fun ⟨count, rest⟩ => ?_
  refine (onlyMalformed_takeEach onlyMalformed_takeProperty count rest).bind fun ⟨_, rest⟩ => ?_
  refine (onlyMalformed_takeWord _ rest).bind fun ⟨count, rest⟩ => ?_
  refine (onlyMalformed_takeEach onlyMalformed_takeAttachment count rest).bind fun ⟨_, rest⟩ => ?_
  dsimp only
  by_cases hleft : rest.isEmpty = true
  · rw [if_pos hleft]
    exact onlyMalformed_ok _
  · rw [if_neg hleft]
    exact onlyMalformed_malformed _

/-! ### What is not written -/

/-- A length that does not fit is told as malformed. -/
theorem onlyMalformed_lengthWord (length : Nat) (name : String) :
    OnlyMalformed (lengthWord length name) := by
  rw [lengthWord]
  by_cases hlt : length < nullLength
  · rw [if_pos hlt]
    exact onlyMalformed_ok _
  · rw [if_neg hlt]
    exact onlyMalformed_malformed _

/-- Bytes whose length does not fit are told as malformed. -/
theorem onlyMalformed_sized (bytes : Bytes) (name : String) : OnlyMalformed (sized bytes name) :=
  (onlyMalformed_lengthWord bytes.length name).map

/-- A property that cannot be written is told as malformed. -/
theorem onlyMalformed_propertyBytes (entry : String × Option String) :
    OnlyMalformed (propertyBytes entry) := by
  refine (onlyMalformed_sized _ _).bind fun _ => ?_
  refine OnlyMalformed.bind ?_ fun _ => onlyMalformed_ok _
  cases entry.2 with
  | none => exact onlyMalformed_ok _
  | some text => exact onlyMalformed_sized _ _

/-- Items are told as malformed when each is that cannot be written. -/
theorem onlyMalformed_eachBytes {item : α → Except Fault Bytes}
    (hitem : ∀ x, OnlyMalformed (item x)) (xs : List α) : OnlyMalformed (eachBytes item xs) := by
  induction xs with
  | nil => exact onlyMalformed_ok _
  | cons x xs ih =>
    refine (hitem x).bind fun _ => ?_
    exact ih.bind fun _ => onlyMalformed_ok _

/-- A counted list is told as malformed when it cannot be written. -/
theorem onlyMalformed_counted {item : α → Except Fault Bytes}
    (hitem : ∀ x, OnlyMalformed (item x)) (name : String) (xs : List α) :
    OnlyMalformed (counted item name xs) := by
  refine (onlyMalformed_lengthWord _ _).bind fun _ => ?_
  exact (onlyMalformed_eachBytes hitem xs).bind fun _ => onlyMalformed_ok _

/-- The body of a message either fits or is told as malformed. -/
theorem onlyMalformed_body (m : Message) : OnlyMalformed (body m) := by
  refine (onlyMalformed_counted onlyMalformed_propertyBytes _ _).bind fun _ => ?_
  refine (onlyMalformed_counted (fun _ => onlyMalformed_sized _ _) _ _).bind fun _ => ?_
  exact onlyMalformed_ok _

/-- A message that has no frame is reported as malformed. -/
theorem onlyMalformed_encode (c : Codec) (m : Message) : OnlyMalformed (c.encode m) := by
  refine (onlyMalformed_body m).bind fun body => ?_
  by_cases hsize : c.maxFrameSize < body.length
  · rw [if_pos hsize]
    exact onlyMalformed_malformed _
  · rw [if_neg hsize]
    exact (onlyMalformed_lengthWord _ _).bind fun _ => onlyMalformed_ok _

end Frame

/-! ### Messages that bytes stand for -/

namespace Registry

/-- Whether the messages that decoding starts from carry nothing yet. -/
def StartsEmpty (r : Registry) : Prop :=
  ∀ m ∈ r.bindings, m = m.blank

/-- The templates of a registry that starts empty carry nothing. -/
theorem StartsEmpty.eq_blank {r : Registry} (h : r.StartsEmpty) {tag : Tag} {m : Message}
    (hm : r.template? tag = some m) : m = m.blank :=
  h m (List.mem_of_find?_eq_some hm)

/-- The templates of the standard registry carry nothing. -/
theorem startsEmpty_standard : standard.StartsEmpty := by
  rw [StartsEmpty, standard_bindings]
  decide

/-- A code stands for the message that is bound to the tag with this code. -/
theorem create_eq_ok {r : Registry} {code : Nat} {m : Message} :
    r.create code = .ok m ↔ m.tag.code = code ∧ r.template? m.tag = some m := by
  constructor
  · intro h
    rw [create] at h
    cases htag : Tag.ofCode? code with
    | none => simp [htag] at h
    | some tag =>
      cases hbound : r.template? tag with
      | none => simp [htag, createMessage, hbound] at h
      | some bound =>
        simp only [htag, createMessage, hbound, Except.ok.injEq] at h
        subst h
        obtain rfl := tag_of_template? hbound
        exact ⟨Tag.code_of_ofCode? htag, hbound⟩
  · rintro ⟨rfl, hbound⟩
    exact create_code hbound

/-- A code that stands for no message is reported as such. -/
theorem create_eq_error {r : Registry} {code : Nat} {fault : Fault} :
    r.create code = .error fault ↔
      fault = .unknownTag code ∧ ∀ tag : Tag, tag.code = code → r.template? tag = none := by
  constructor
  · intro h
    have hunbound : ∀ tag : Tag, tag.code = code → r.template? tag = none := by
      rintro tag rfl
      cases hbound : r.template? tag with
      | none => rfl
      | some m =>
        rw [create_code hbound] at h
        cases h
    refine ⟨?_, hunbound⟩
    rw [create] at h
    cases htag : Tag.ofCode? code with
    | none =>
      simp only [htag, Except.error.injEq] at h
      exact h.symm
    | some tag =>
      have hcode := Tag.code_of_ofCode? htag
      simp only [htag, createMessage, hunbound tag hcode, hcode, Except.error.injEq] at h
      exact h.symm
  · rintro ⟨rfl, hunbound⟩
    rw [create]
    cases htag : Tag.ofCode? code with
    | none => rfl
    | some tag =>
      have hcode := Tag.code_of_ofCode? htag
      simp only [createMessage, hunbound tag hcode, hcode]

end Registry

/-- Whether a message is the one that a layout tells: its tag is bound to its class, under
a key stands what was last given for it, and the attachments follow each other as they
were given. -/
structure Frame.Layout.Tells (l : Layout) (r : Registry) (m : Message) : Prop where
  code : m.tag.code = l.code
  bound : r.template? m.tag = some m.blank
  property : ∀ key, m.bag.get? key = l.properties.reverse.lookup key
  attachments : m.attachments = l.attachments

namespace Codec

open Parley.Frame

/-- Whether a frame consists of the length of a body and this body, and a codec allows a
body of this length. -/
def Encloses (c : Codec) (frame body : Bytes) : Prop :=
  frame = sizedContent body ∧ body.length ≤ c.maxFrameSize

/-- Whether a frame is the frame of a message. -/
def Accepts (c : Codec) (frame : Bytes) (m : Message) : Prop :=
  ∃ l : Layout, c.Encloses frame l.body ∧ l.Fits ∧ l.Tells c.registry m

/-- Whether a frame begins like the frame of a message and names a code for which the
registry has no message. -/
def NamesUnknown (c : Codec) (frame : Bytes) (code : Nat) : Prop :=
  (∃ rest, c.Encloses frame (word code ++ rest)) ∧ code < wordLimit ∧
    ∀ tag : Tag, tag.code = code → c.registry.template? tag = none

/-- The message of the body of a frame. -/
def decodeBody (c : Codec) (body : Bytes) : Except Fault Message := do
  let (code, rest) ← takeWord "type tag" body
  let template ← c.registry.create code
  let (properties, attachments) ← takePayload rest
  return { template with
    bag := properties.foldl (fun b entry => b.insert entry.1 entry.2) template.bag
    attachments := template.attachments ++ attachments }

/-- A frame around a body is decoded as its body is. -/
theorem decode_of_encloses {c : Codec} {frame body : Bytes} (h : c.Encloses frame body) :
    c.decode frame = c.decodeBody body := by
  obtain ⟨rfl, hsize⟩ := h
  have hword := (short_of_le_maxFrameSize (Nat.le_trans hsize c.maxFrameSize_le)).lt_wordLimit
  simp only [decode, sizedContent, takeWord_word hword, ok_bind, if_neg (Nat.not_lt.2 hsize), ne_eq,
    not_true_eq_false, if_false]
  rfl

/-- Bytes that are no frame of any body are malformed. -/
theorem decode_of_not_encloses {c : Codec} {frame : Bytes} (h : ∀ body, ¬ c.Encloses frame body) :
    ∃ reason, c.decode frame = .error (.malformed reason) := by
  rw [decode]
  cases hlength : takeWord "length prefix" frame with
  | error fault =>
    obtain ⟨reason, rfl⟩ := onlyMalformed_takeWord _ frame fault hlength
    exact ⟨reason, rfl⟩
  | ok taken =>
    obtain ⟨length, body⟩ := taken
    obtain ⟨-, rfl⟩ := takeWord_eq_ok.1 hlength
    rw [ok_bind]
    dsimp only
    by_cases hlimit : c.maxFrameSize < length
    · rw [if_pos hlimit]
      exact ⟨_, rfl⟩
    · rw [if_neg hlimit]
      by_cases hbody : length ≠ body.length
      · rw [if_pos hbody]
        exact ⟨_, rfl⟩
      · obtain rfl := Decidable.not_not.1 hbody
        exact absurd ⟨rfl, Nat.le_of_not_lt hlimit⟩ (h body)

/-- A body is read exactly when it is laid out like one and its code stands for a
message. -/
theorem decodeBody_eq_ok {c : Codec} (hempty : c.registry.StartsEmpty) {body : Bytes}
    {m : Message} :
    c.decodeBody body = .ok m ↔ ∃ l : Layout, body = l.body ∧ l.Fits ∧ l.Tells c.registry m := by
  constructor
  · intro h
    obtain ⟨⟨code, rest⟩, hcode, h⟩ := bind_eq_ok.1 h
    obtain ⟨template, htemplate, h⟩ := bind_eq_ok.1 h
    obtain ⟨⟨properties, attachments⟩, hpayload, h⟩ := bind_eq_ok.1 h
    cases h
    obtain ⟨hword, rfl⟩ := takeWord_eq_ok.1 hcode
    obtain ⟨⟨hcount, hfits, hcount', hfits'⟩, rfl⟩ := takePayload_eq_ok.1 hpayload
    obtain ⟨rfl, hbound⟩ := Registry.create_eq_ok.1 htemplate
    have hblank := hempty.eq_blank hbound
    refine ⟨⟨template.tag.code, properties, attachments⟩, ?_,
      ⟨hword, hcount, hfits, hcount', hfits'⟩, rfl, ?_, fun key => ?_, ?_⟩
    · simp only [Layout.body, List.append_assoc]
    · rw [hbound, hblank]
      rfl
    · rw [hblank]
      exact Bag.get?_ofList properties key
    · rw [hblank]
      rfl
  · rintro ⟨l, rfl, hfits, htells⟩
    have hpayload := takePayload_eq_ok.2
      ⟨⟨hfits.propertyCount, hfits.property, hfits.attachmentCount, hfits.attachment⟩, rfl⟩
    have htemplate : c.registry.create l.code = .ok m.blank :=
      Registry.create_eq_ok.2 ⟨htells.code, htells.bound⟩
    have hbag : Bag.ofList l.properties = m.bag :=
      Bag.ext_get? fun key => by rw [Bag.get?_ofList, htells.property]
    simp only [decodeBody, Layout.body, List.append_assoc, takeWord_word hfits.code, ok_bind,
      htemplate, hpayload, Message.blank, List.nil_append]
    change Except.ok { m with bag := Bag.ofList l.properties, attachments := l.attachments } = _
    rw [hbag, ← htells.attachments]

/-- A body whose code stands for no message is told by its code. -/
theorem decodeBody_eq_unknownTag {c : Codec} {body : Bytes} {code : Nat} :
    c.decodeBody body = .error (.unknownTag code) ↔
      (∃ rest, body = word code ++ rest) ∧ code < wordLimit ∧
        ∀ tag : Tag, tag.code = code → c.registry.template? tag = none := by
  constructor
  · intro h
    rcases bind_eq_error.1 h with hcode | ⟨⟨code', rest⟩, hcode, hafter⟩
    · obtain ⟨reason, hfault⟩ := onlyMalformed_takeWord _ body _ hcode
      cases hfault
    obtain ⟨hword, rfl⟩ := takeWord_eq_ok.1 hcode
    rcases bind_eq_error.1 hafter with htemplate | ⟨template, -, hread⟩
    · obtain ⟨hfault, hunbound⟩ := Registry.create_eq_error.1 htemplate
      cases hfault
      exact ⟨⟨rest, rfl⟩, hword, hunbound⟩
    rcases bind_eq_error.1 hread with hpayload | ⟨payload, -, hdone⟩
    · obtain ⟨reason, hfault⟩ := onlyMalformed_takePayload rest _ hpayload
      cases hfault
    · cases hdone
  · rintro ⟨⟨rest, rfl⟩, hword, hunbound⟩
    rw [decodeBody, takeWord_word hword, ok_bind]
    dsimp only
    rw [Registry.create_eq_error.2 ⟨rfl, hunbound⟩]
    rfl

/-- A body that is not read names an unknown code or is malformed. -/
theorem decodeBody_eq_error {c : Codec} {body : Bytes} {fault : Fault}
    (h : c.decodeBody body = .error fault) :
    (∃ code, fault = .unknownTag code) ∨ ∃ reason, fault = .malformed reason := by
  rcases bind_eq_error.1 h with hcode | ⟨⟨code, rest⟩, -, h⟩
  · exact .inr (onlyMalformed_takeWord _ body fault hcode)
  rcases bind_eq_error.1 h with htemplate | ⟨template, -, h⟩
  · exact .inl ⟨code, (Registry.create_eq_error.1 htemplate).1⟩
  rcases bind_eq_error.1 h with hpayload | ⟨payload, -, h⟩
  · exact .inr (onlyMalformed_takePayload rest fault hpayload)
  · cases h

/-- Decoding a frame is reading the body that the frame encloses. -/
theorem decode_cases (c : Codec) (frame : Bytes) :
    (∃ body, c.Encloses frame body ∧ c.decode frame = c.decodeBody body) ∨
      (∀ body, ¬ c.Encloses frame body) ∧
        ∃ reason, c.decode frame = .error (.malformed reason) := by
  by_cases h : ∃ body, c.Encloses frame body
  · obtain ⟨body, hbody⟩ := h
    exact .inl ⟨body, hbody, decode_of_encloses hbody⟩
  · have hnone : ∀ body, ¬ c.Encloses frame body := fun body hbody => h ⟨body, hbody⟩
    exact .inr ⟨hnone, decode_of_not_encloses hnone⟩

/-- A frame encloses one body. -/
theorem Encloses.unique {c : Codec} {frame body body' : Bytes} (h : c.Encloses frame body)
    (h' : c.Encloses frame body') : body = body' := by
  have heq : word body.length ++ body = word body'.length ++ body' := h.1.symm.trans h'.1
  exact (List.append_inj heq rfl).2

/-- A frame decodes to the messages that it is accepted for. -/
theorem decode_eq_ok {c : Codec} (hempty : c.registry.StartsEmpty) {frame : Bytes} {m : Message} :
    c.decode frame = .ok m ↔ c.Accepts frame m := by
  rcases decode_cases c frame with ⟨body, hbody, hdecode⟩ | ⟨hnone, reason, hdecode⟩
  · rw [hdecode, decodeBody_eq_ok hempty]
    constructor
    · rintro ⟨l, rfl, hfits, htells⟩
      exact ⟨l, hbody, hfits, htells⟩
    · rintro ⟨l, hl, hfits, htells⟩
      exact ⟨l, hbody.unique hl, hfits, htells⟩
  · rw [hdecode]
    constructor
    · nofun
    · rintro ⟨l, hl, -⟩
      exact absurd hl (hnone l.body)

/-- A frame has an unknown tag when it names one. -/
theorem decode_eq_unknownTag {c : Codec} {frame : Bytes} {code : Nat} :
    c.decode frame = .error (.unknownTag code) ↔ c.NamesUnknown frame code := by
  rcases decode_cases c frame with ⟨body, hbody, hdecode⟩ | ⟨hnone, reason, hdecode⟩
  · rw [hdecode, decodeBody_eq_unknownTag]
    constructor
    · rintro ⟨⟨rest, rfl⟩, hunknown⟩
      exact ⟨⟨rest, hbody⟩, hunknown⟩
    · rintro ⟨⟨rest, hrest⟩, hunknown⟩
      exact ⟨⟨rest, hbody.unique hrest⟩, hunknown⟩
  · rw [hdecode]
    constructor
    · nofun
    · rintro ⟨⟨rest, hrest⟩, -⟩
      exact absurd hrest (hnone _)

/-- Whatever else is wrong with a frame makes it malformed. -/
theorem decode_eq_error {c : Codec} {frame : Bytes} {fault : Fault}
    (h : c.decode frame = .error fault) :
    (∃ code, fault = .unknownTag code) ∨ ∃ reason, fault = .malformed reason := by
  rcases decode_cases c frame with ⟨body, -, hdecode⟩ | ⟨-, reason, hdecode⟩
  · rw [hdecode] at h
    exact decodeBody_eq_error h
  · rw [hdecode] at h
    cases h
    exact .inr ⟨reason, rfl⟩

/-- What a codec makes of arbitrary bytes. -/
structure Classifies (c : Codec) (frame : Bytes) : Prop where
  /-- It reads a message exactly from the frames of this message; -/
  message : ∀ m, c.decode frame = .ok m ↔ c.Accepts frame m
  /-- it names a code exactly when the frame does and the registry does not know it, whatever
  stands behind the code; -/
  unknownTag : ∀ code, c.decode frame = .error (.unknownTag code) ↔ c.NamesUnknown frame code
  /-- in all other cases it reports malformed bytes. -/
  malformed : (∃ reason, c.decode frame = .error (.malformed reason)) ↔
    (∀ m, ¬ c.Accepts frame m) ∧ ∀ code, ¬ c.NamesUnknown frame code
  /-- To find this out it reads no byte outside the frame. -/
  inside : c.decodeAt frame = some (c.decode frame)

/-- A codec whose registry starts messages empty classifies all bytes in this way. -/
theorem decode_classifies (c : Codec) (hempty : c.registry.StartsEmpty) (frame : Bytes) :
    c.Classifies frame where
  message _ := decode_eq_ok hempty
  unknownTag _ := decode_eq_unknownTag
  malformed := by
    constructor
    · rintro ⟨reason, hmalformed⟩
      constructor
      · intro m hm
        rw [(decode_eq_ok hempty).2 hm] at hmalformed
        cases hmalformed
      · intro code hcode
        rw [decode_eq_unknownTag.2 hcode] at hmalformed
        cases hmalformed
    · rintro ⟨hmessage, hcode⟩
      cases hdecode : c.decode frame with
      | ok m => exact absurd ((decode_eq_ok hempty).1 hdecode) (hmessage m)
      | error fault =>
        rcases decode_eq_error hdecode with ⟨code, rfl⟩ | ⟨reason, rfl⟩
        · exact absurd (decode_eq_unknownTag.1 hdecode) (hcode code)
        · exact ⟨reason, rfl⟩
  inside := decodeAt_eq c frame

/-- The frame of a sign of life in which a key is given twice, the second time without a
value. -/
def twiceGiven : Bytes :=
  sizedContent (Layout.body
    { code := 7
      properties := [("note", some "first"), (Bag.requestIdKey, some "5"), ("note", none)]
      attachments := [[], [7]] })

/-- A frame that gives one key twice is classified as well. -/
theorem decode_classifies_twiceGiven :
    standard.registry.StartsEmpty ∧ standard.Classifies twiceGiven :=
  ⟨Registry.startsEmpty_standard,
    decode_classifies standard Registry.startsEmpty_standard twiceGiven⟩

end Codec

end Parley
