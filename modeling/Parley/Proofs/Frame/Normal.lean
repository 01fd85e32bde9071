/-
# Frames of messages that were read

A frame may give its properties in any order, and one key several times.  The message that
is read from it knows neither any more: its own frame gives every key once and in order.
So encoding what was decoded brings a frame into a normal form, which is no longer than
the frame and stands for the same message (`Codec.encode_of_decode`).  A frame is in
normal form already exactly when its keys ascend, byte by byte.

The argument rests on two facts about the parts of a body.  They can be told from the
bytes, so that equal bodies have equal parts; and inserting properties one after the other
never makes a bag larger than the properties together.
-/

import Mathlib.Logic.ExistsUnique
import Parley.Proofs.Frame.Exact
import Parley.Proofs.Text.Order

namespace Parley

/-- Keys that ascend are different keys. -/
theorem Ascending.nodup {entries : List (String × Option String)} (h : Ascending entries) :
    (entries.map Prod.fst).Nodup :=
  List.pairwise_map.2 (h.imp String.ne_of_lt)

namespace Bag

variable (size : String × Option String → Nat)

/-! ### Sizes of bags -/

/-- An entry adds at most its own size to those that there are. -/
theorem sum_insertEntry_le (key : String) (value : Option String)
    (entries : List (String × Option String)) :
    ((insertEntry key value entries).map size).sum ≤
      (entries.map size).sum + size (key, value) := by
  induction entries with
  | nil => simp [insertEntry]
  | cons first rest ih =>
    obtain ⟨k, v⟩ := first
    rw [insertEntry]
    split
    · simp only [List.map_cons, List.sum_cons]
      omega
    · split <;> simp only [List.map_cons, List.sum_cons] at ih ⊢ <;> omega

/-- Entries add at most their own sizes, one after the other. -/
theorem sum_foldl_insert_le (b : Bag) (entries : List (String × Option String)) :
    ((entries.foldl (fun b entry => b.insert entry.1 entry.2) b).entries.map size).sum ≤
      (b.entries.map size).sum + (entries.map size).sum := by
  induction entries generalizing b with
  | nil => simp
  | cons first rest ih =>
    obtain ⟨k, v⟩ := first
    have hfirst := sum_insertEntry_le size k v b.entries
    have hrest := ih (b.insert k v)
    simp only [List.foldl_cons, List.map_cons, List.sum_cons, insert] at hrest ⊢
    omega

/-- A bag is no larger than the entries that were put into it. -/
theorem sum_ofList_le (entries : List (String × Option String)) :
    ((ofList entries).entries.map size).sum ≤ (entries.map size).sum := by
  have h := sum_foldl_insert_le size empty entries
  simpa [ofList, empty] using h

/-- Entries are those of the bag that they make exactly when their keys ascend. -/
theorem entries_ofList_eq_iff {entries : List (String × Option String)} :
    (ofList entries).entries = entries ↔ Ascending entries := by
  constructor
  · intro h
    exact h ▸ (ofList entries).ascending
  · intro h
    exact entries_foldl_insert empty entries h

end Bag

namespace Frame

/-! ### The parts of a body -/

namespace Layout

variable {l l' : Layout}

/-- Whether the keys of a layout ascend in the order of their bytes, none twice. -/
def InOrder (l : Layout) : Prop :=
  l.properties.Pairwise fun a b => Text.utf8 a.1 < Text.utf8 b.1

/-- A layout is in order when its keys ascend. -/
theorem inOrder_iff : l.InOrder ↔ Ascending l.properties := by
  simp only [InOrder, Ascending, Text.utf8_lt_utf8]

/-- A body takes the bytes of its counts, its tag, its properties and its attachments. -/
theorem length_body (l : Layout) :
    l.body.length =
      12 + (l.properties.map propertySize).sum + (l.attachments.map attachmentSize).sum := by
  simp only [body, List.length_append, length_word, wordSize,
    length_countedContent length_propertyContent, length_countedContent length_sizedContent]
  omega

/-- What follows the tag is read back from a body. -/
theorem Fits.takePayload (h : l.Fits) :
    takePayload (countedContent propertyContent l.properties
        ++ countedContent sizedContent l.attachments) = .ok (l.properties, l.attachments) :=
  takePayload_eq_ok.2 ⟨⟨h.propertyCount, h.property, h.attachmentCount, h.attachment⟩, rfl⟩

/-- The parts of a body can be told from its bytes. -/
theorem Fits.eq_of_body_eq (h : l.Fits) (h' : l'.Fits) (heq : l.body = l'.body) : l = l' := by
  obtain ⟨code, properties, attachments⟩ := l
  obtain ⟨code', properties', attachments'⟩ := l'
  simp only [body, List.append_assoc] at heq
  have hcode := takeWord_word h.code "" (countedContent propertyContent properties
    ++ countedContent sizedContent attachments)
  rw [heq, takeWord_word h'.code] at hcode
  simp only [Except.ok.injEq, Prod.mk.injEq] at hcode
  obtain ⟨rfl, hpayload⟩ := hcode
  have hread := h.takePayload
  rw [← hpayload, h'.takePayload] at hread
  simp only [Except.ok.injEq, Prod.mk.injEq] at hread
  obtain ⟨rfl, rfl⟩ := hread
  rfl

end Layout

/-- The layout of the body of a message. -/
def layoutOf (m : Message) : Layout where
  code := m.tag.code
  properties := m.bag.entries
  attachments := m.attachments

/-- A message with short parts has a layout that fits. -/
theorem ShortParts.fits {m : Message} (h : ShortParts m) : (layoutOf m).Fits where
  code := m.tag.code_lt_wordLimit
  propertyCount := h.propertyCount.lt_wordLimit
  property entry hentry :=
    have hproperty := h.property entry hentry
    ⟨hproperty.1.lt_wordLimit, hproperty.2⟩
  attachmentCount := h.attachmentCount.lt_wordLimit
  attachment bytes hbytes := (h.attachment bytes hbytes).lt_wordLimit

variable {l : Layout} {r : Registry} {m : Message}

/-- The bag of a message is made of the properties of the layout that tells it. -/
theorem Layout.Tells.bag_eq (h : l.Tells r m) : m.bag = Bag.ofList l.properties :=
  Bag.ext_get? fun key => by rw [Bag.get?_ofList, h.property]

/-- The body of a message is no larger than the body from which it is read. -/
theorem Layout.Tells.bodySize_le (h : l.Tells r m) : bodySize m ≤ l.body.length := by
  have hsum := Bag.sum_ofList_le propertySize l.properties
  rw [bodySize, l.length_body, h.bag_eq, h.attachments]
  omega

/-- The body of a message is the one from which it is read exactly when the keys of that
one ascend. -/
theorem Layout.Tells.content_eq_iff (h : l.Tells r m) (hfits : l.Fits)
    (hshort : ShortParts m) : content m = l.body ↔ l.InOrder := by
  rw [inOrder_iff, ← Bag.entries_ofList_eq_iff, ← h.bag_eq]
  constructor
  · intro hbody
    exact congrArg Layout.properties (hshort.fits.eq_of_body_eq hfits hbody)
  · intro hentries
    rw [Layout.body, ← h.code, ← hentries, ← h.attachments]
    rfl

end Frame

namespace Codec

open Parley.Frame

variable {c : Codec} {frame : Bytes} {l l' : Layout} {m : Message}

/-- A frame gives its parts in one way. -/
theorem Encloses.layout_unique (h : c.Encloses frame l.body) (hfits : l.Fits)
    (h' : c.Encloses frame l'.body) (hfits' : l'.Fits) : l = l' :=
  hfits.eq_of_body_eq hfits' (h.unique h')

/-- What the codec makes of the message `m` of a frame when it encodes it again. -/
structure Normalises (c : Codec) (frame : Bytes) (m : Message) (normal : Bytes) : Prop where
  encode : c.encode m = .ok normal
  length_le : normal.length ≤ frame.length
  decode : c.decode normal = .ok m
  /-- The parts of the frame are told from its bytes. -/
  parts : ∃! l : Layout, c.Encloses frame l.body ∧ l.Fits
  /-- The frame is in normal form already exactly when the keys in it ascend. -/
  eq_iff : ∀ l : Layout, c.Encloses frame l.body → l.Fits → (normal = frame ↔ l.InOrder)
  /-- Then no key is given twice. -/
  nodup : ∀ l : Layout, c.Encloses frame l.body → l.Fits → normal = frame →
    (l.properties.map Prod.fst).Nodup
  /-- What is in normal form stays as it is. -/
  idempotent : (c.decode normal >>= c.encode) = .ok normal

/-- Every frame that a codec accepts has a normal form: encoding its message succeeds with
the same codec, whatever order the properties of the frame are in and however often a key
is given. -/
theorem encode_of_decode (c : Codec) (hempty : c.registry.StartsEmpty) {frame : Bytes}
    {m : Message} (h : c.decode frame = .ok m) : ∃ normal, c.Normalises frame m normal := by
  obtain ⟨l, hframe, hfits, htells⟩ := (decode_eq_ok hempty).1 h
  have hsize : bodySize m ≤ c.maxFrameSize := Nat.le_trans htells.bodySize_le hframe.2
  have hshort := shortParts_of_bodySize
    (short_of_le_maxFrameSize (Nat.le_trans hsize c.maxFrameSize_le))
  have hencode : c.encode m = .ok (sizedContent (content m)) := encode_eq_ok.2 ⟨hsize, rfl⟩
  have hdecode := decode_of_encode htells.bound hencode
  have hnormal : sizedContent (content m) = frame ↔ l.InOrder := by
    rw [← htells.content_eq_iff hfits hshort, hframe.1]
    constructor
    · intro heq
      have hbody : c.Encloses (sizedContent l.body) (content m) :=
        ⟨heq.symm, by rwa [length_content]⟩
      exact hbody.unique ⟨rfl, hframe.2⟩
    · intro heq
      rw [heq]
  have hunique : ∀ l' : Layout, c.Encloses frame l'.body → l'.Fits → l' = l :=
    fun l' hframe' hfits' => hframe'.layout_unique hfits' hframe hfits
  refine ⟨sizedContent (content m), hencode, ?_, hdecode,
    ⟨l, ⟨hframe, hfits⟩, fun l' hl' => hunique l' hl'.1 hl'.2⟩, ?_, ?_, ?_⟩
  · rw [hframe.1, length_sizedContent, length_sizedContent, attachmentSize, attachmentSize,
      length_content]
    exact Nat.add_le_add_left htells.bodySize_le 4
  · intro l' hframe' hfits'
    rw [hunique l' hframe' hfits']
    exact hnormal
  · intro l' hframe' hfits' heq
    rw [hunique l' hframe' hfits']
    exact (Layout.inOrder_iff.1 (hnormal.1 heq)).nodup
  · rw [hdecode, ok_bind, hencode]

/-- The message of the frame in which a key is given twice. -/
def lastGiven : Message :=
  { (Message.request .heartbeat).setRequestId 5 |>.insert "note" none with
    attachments := [[], [7]] }

/-- Of a key that is given twice the last value is written again. -/
theorem encode_of_decode_twiceGiven :
    standard.registry.StartsEmpty ∧ standard.decode twiceGiven = .ok lastGiven ∧
      ∃ normal, standard.Normalises twiceGiven lastGiven normal := by
  have hread : (standard.decode twiceGiven).toOption = some lastGiven := by decide +kernel
  have hdecode : standard.decode twiceGiven = .ok lastGiven := by
    cases hresult : standard.decode twiceGiven with
    | ok m =>
      rw [hresult] at hread
      exact congrArg Except.ok (Option.some.inj hread)
    | error fault =>
      rw [hresult] at hread
      cases hread
  exact ⟨Registry.startsEmpty_standard, hdecode,
    encode_of_decode standard Registry.startsEmpty_standard hdecode⟩

end Codec

end Parley
