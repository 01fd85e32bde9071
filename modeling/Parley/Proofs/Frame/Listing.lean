/-
# Frames tell contents

Whatever has happened to two messages and in whatever order their properties are listed,
their frames are the same exactly when the messages hold the same in the end
(`Codec.frame_eq_iff`).

There are two halves.  Bringing a listing into the order of its keys gives the entries of
the bag, because there is one list of these properties in which the keys ascend; so a
frame depends on what is held and on nothing else.  And the parts of a body can be told
from its bytes, so a frame leaves nothing open of what is held.
-/

import Parley.Frame.Listing
import Parley.Proofs.Frame.Normal

namespace Parley

variable {m m' : Message} {listed : List (String × Option String)}

/-! ### Histories -/

/-- A change of a message is a change of what it holds. -/
theorem Message.contents_edit (m : Message) (edit : Edit) :
    (m.edit edit).contents = m.contents.edit edit := by
  cases edit with
  | insert key value =>
    ext1
    · rfl
    · exact funext fun other => Bag.get?_insert m.bag key other value
    · rfl
  | erase key =>
    ext1
    · rfl
    · exact funext fun other => Bag.get?_erase m.bag key other
    · rfl
  | push bytes => rfl
  | attach attachments => rfl
  | retag tag => rfl

/-- To edit a message edits its contents. -/
theorem Message.contents_editAll (m : Message) (edits : List Edit) :
    (m.editAll edits).contents = m.contents.editAll edits := by
  induction edits generalizing m with
  | nil => rfl
  | cons edit edits ih =>
    have hrest := ih (m.edit edit)
    rwa [contents_edit] at hrest

/-! ### Listings -/

namespace Contents

variable {held : Contents}

/-- Whatever the order of a listing, a key is found in it with its state. -/
theorem ListedAs.lookup_eq (h : held.ListedAs listed) (key : String) :
    listed.lookup key = held.state key := by
  cases hstate : held.state key with
  | none =>
    refine lookup_of_not_mem fun hkey => ?_
    obtain ⟨⟨other, value⟩, hmem, rfl⟩ := List.mem_map.1 hkey
    have hvalue := (h.mem_iff other value).1 hmem
    rw [hstate] at hvalue
    cases hvalue
  | some value => exact lookup_of_mem h.nodup ((h.mem_iff key value).2 hstate)

/-- In whatever order a listing is arranged, it is a listing. -/
theorem ListedAs.perm {listed' : List (String × Option String)} (h : held.ListedAs listed)
    (hperm : listed'.Perm listed) : held.ListedAs listed' where
  nodup := (hperm.map Prod.fst).nodup_iff.2 h.nodup
  mem_iff key value := hperm.mem_iff.trans (h.mem_iff key value)

end Contents

namespace Frame

/-- To put entries in the order of their keys loses none. -/
theorem inKeyOrder_perm (listed : List (String × Option String)) :
    (inKeyOrder listed).Perm listed :=
  List.mergeSort_perm _ _

/-- No key comes behind one with larger bytes. -/
theorem pairwise_inKeyOrder (listed : List (String × Option String)) :
    (inKeyOrder listed).Pairwise fun a b => Text.utf8 a.1 ≤ Text.utf8 b.1 := by
  have htrans : ∀ a b d : String × Option String,
      decide (Text.utf8 a.1 ≤ Text.utf8 b.1) = true →
        decide (Text.utf8 b.1 ≤ Text.utf8 d.1) = true →
          decide (Text.utf8 a.1 ≤ Text.utf8 d.1) = true := by
    intro a b d hab hbd
    rw [decide_eq_true_eq] at *
    exact List.le_trans hab hbd
  have htotal : ∀ a b : String × Option String,
      (decide (Text.utf8 a.1 ≤ Text.utf8 b.1) || decide (Text.utf8 b.1 ≤ Text.utf8 a.1)) =
        true := by
    intro a b
    rw [Bool.or_eq_true, decide_eq_true_eq, decide_eq_true_eq]
    exact List.le_total _ _
  exact (List.pairwise_mergeSort htrans htotal listed).imp fun hab => of_decide_eq_true hab

/-- When no key is listed twice, the keys ascend. -/
theorem ascending_inKeyOrder (hnodup : (listed.map Prod.fst).Nodup) :
    Ascending (inKeyOrder listed) := by
  have hkeys : ((inKeyOrder listed).map Prod.fst).Nodup :=
    ((inKeyOrder_perm listed).map Prod.fst).nodup_iff.2 hnodup
  have hne := List.pairwise_map.1 hkeys
  refine ((pairwise_inKeyOrder listed).and hne).imp fun {a b} hab => ?_
  obtain ⟨hle, hne⟩ := hab
  rcases Decidable.em (a.1 < b.1) with hlt | hge
  · exact hlt
  · rcases Decidable.em (b.1 < a.1) with hgt | hle'
    · exact absurd (Text.utf8_lt_utf8.2 hgt) (List.not_lt.2 hle)
    · exact absurd (String.le_antisymm (String.not_lt.1 hle') (String.not_lt.1 hge)) hne

/-- Every listing of the properties of a message is brought into the order of its bag. -/
theorem inKeyOrder_eq (h : m.contents.ListedAs listed) : inKeyOrder listed = m.bag.entries :=
  Bag.eq_of_lookup_eq (ascending_inKeyOrder h.nodup) m.bag.ascending
    (h.perm (inKeyOrder_perm listed)).lookup_eq

/-- A bag lists its properties in order. -/
theorem listedAs_entries (m : Message) : m.contents.ListedAs m.bag.entries where
  nodup := m.bag.ascending.nodup
  mem_iff _ _ := ⟨lookup_of_mem m.bag.ascending.nodup, mem_of_lookup⟩

end Frame

/-! ### Frames -/

namespace Codec

open Parley.Frame

variable {c : Codec} {frame frame' : Bytes}

/-- The order of a listing is not seen in the frame. -/
theorem encodeListed_eq (h : m.contents.ListedAs listed) :
    c.encodeListed m.tag listed m.attachments = c.encode m := by
  rw [encodeListed, inKeyOrder_eq h, encode, body]
  cases counted propertyBytes "property count" m.bag.entries with
  | error fault => rfl
  | ok properties =>
    cases counted (sized · "attachment") "attachment count" m.attachments with
    | error fault => rfl
    | ok attached => rfl

/-- A frame may be written when it is the one that is encoded. -/
theorem mayWrite_iff : c.MayWrite m frame ↔ c.encode m = .ok frame := by
  constructor
  · rintro ⟨listed, hlisted, hframe⟩
    rwa [encodeListed_eq hlisted] at hframe
  · intro hframe
    have hlisted := listedAs_entries m
    exact ⟨m.bag.entries, hlisted, (encodeListed_eq hlisted).trans hframe⟩

/-- Messages that can be encoded have the same frame exactly when they hold the same. -/
theorem encode_eq_iff (h : c.encode m = .ok frame) (h' : c.encode m' = .ok frame') :
    frame = frame' ↔ m.contents = m'.contents := by
  obtain ⟨hsize, rfl⟩ := encode_eq_ok.1 h
  obtain ⟨hsize', rfl⟩ := encode_eq_ok.1 h'
  constructor
  · intro heq
    have hbody : content m = content m' := by
      have hframe : c.Encloses (sizedContent (content m)) (content m) :=
        ⟨rfl, by rwa [length_content]⟩
      exact hframe.unique ⟨heq, by rwa [length_content]⟩
    have hshort := short_of_le_maxFrameSize (Nat.le_trans hsize c.maxFrameSize_le)
    have hshort' := short_of_le_maxFrameSize (Nat.le_trans hsize' c.maxFrameSize_le)
    have hlayout := (shortParts_of_bodySize hshort).fits.eq_of_body_eq
      (shortParts_of_bodySize hshort').fits hbody
    have hbag : m.bag = m'.bag := Bag.ext (congrArg Layout.properties hlayout)
    ext1
    · exact Tag.code_injective (congrArg Layout.code hlayout)
    · exact congrArg Bag.get? hbag
    · exact congrArg Layout.attachments hlayout
  · intro heq
    have htag : m.tag = m'.tag := congrArg Contents.tag heq
    have hbag : m.bag = m'.bag := Bag.ext_get? (congrFun (congrArg Contents.state heq))
    have hattachments : m.attachments = m'.attachments := congrArg Contents.attachments heq
    rw [content, content, htag, hbag, hattachments]

/-- Two messages that a codec can encode have the same frame exactly when they hold the
same: the same tag, the same state of every key and the same attachments in the same order.
Neither the changes that have led there nor the order in which the properties are listed
is seen. -/
theorem frame_eq_iff (c : Codec) (m m' : Message) (edits edits' : List Edit)
    {frame frame' : Bytes} (h : c.MayWrite (m.editAll edits) frame)
    (h' : c.MayWrite (m'.editAll edits') frame') :
    frame = frame' ↔ m.contents.editAll edits = m'.contents.editAll edits' := by
  rw [encode_eq_iff (mayWrite_iff.1 h) (mayWrite_iff.1 h'), Message.contents_editAll,
    Message.contents_editAll]

/-- A sign of life with two properties, one of them written twice, and an attachment. -/
def overwritten : List Edit :=
  [.insert "b" (some "1"), .insert "a" none, .push [7], .insert "b" (some "")]

/-- Other changes that lead to the same: a property comes and goes. -/
def comeAndGone : List Edit :=
  [.attach [[7]], .insert "c" (some ""), .insert "b" (some ""), .erase "c", .insert "a" none]

/-- A property that was set and removed again leaves no trace in the frame. -/
theorem frame_eq_iff_comeAndGone :
    let m := Message.request .heartbeat
    ∃ frame frame', standard.MayWrite (m.editAll overwritten) frame ∧
      standard.MayWrite (m.editAll comeAndGone) frame' ∧
      (frame = frame' ↔ m.contents.editAll overwritten = m.contents.editAll comeAndGone) := by
  intro m
  have h : standard.MayWrite (m.editAll overwritten)
      (sizedContent (content (m.editAll overwritten))) :=
    mayWrite_iff.2 (encode_eq_ok.2 ⟨by decide +kernel, rfl⟩)
  have h' : standard.MayWrite (m.editAll comeAndGone)
      (sizedContent (content (m.editAll comeAndGone))) :=
    mayWrite_iff.2 (encode_eq_ok.2 ⟨by decide +kernel, rfl⟩)
  exact ⟨_, _, h, h', frame_eq_iff standard m m overwritten comeAndGone h h'⟩

end Codec

end Parley
