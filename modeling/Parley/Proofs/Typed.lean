/-
# What typed setters write reads back

Each typed setter writes a text that its getter reads as the same value.  What a getter
reads depends on the text under its key alone, so a property reads back also after other
properties have been written.
-/

import Parley.Message.Fields
import Parley.Proofs.Bag
import Parley.Proofs.Decimal
import Parley.Proofs.Outcome

namespace Parley.Bag

variable {b : Bag} {key other : String}

/-! ### Texts that were written -/

/-- An integer in the range is read back off its text. -/
theorem readInRange?_intText {low high i : Int} (hlow : low ≤ i) (hhigh : i ≤ high) :
    readInRange? low high (Decimal.intText i) = some i := by
  have hread : Decimal.readInt? (Text.trim (Decimal.intText i).toList) = some i := by
    rw [Decimal.toList_intText, Decimal.trim_intDigits, Decimal.readInt?_intDigits]
  rw [readInRange?, hread, Option.filter_some]
  simp [hlow, hhigh]

/-- An integer of 32 bits is read back off its text. -/
theorem readInt32?_intText (value : Int32) :
    readInt32? (Decimal.intText value.toInt) = some value := by
  have hlow : Int32.minValue.toInt ≤ value.toInt := Int32.minValue_le_toInt value
  have hhigh : value.toInt ≤ Int32.maxValue.toInt := Int32.toInt_le value
  rw [readInt32?, readInRange?_intText hlow hhigh, Option.map_some, Int32.ofInt_toInt]

/-- An integer of 64 bits is read back off its text. -/
theorem readInt64?_intText (value : Int64) :
    readInt64? (Decimal.intText value.toInt) = some value := by
  have hlow : Int64.minValue.toInt ≤ value.toInt := Int64.minValue_le_toInt value
  have hhigh : value.toInt ≤ Int64.maxValue.toInt := Int64.toInt_le value
  rw [readInt64?, readInRange?_intText hlow hhigh, Option.map_some, Int64.ofInt_toInt]

/-- A truth value is read back off its text. -/
theorem readBool?_boolText (value : Bool) : readBool? (boolText value) = some value := by
  cases value <;> decide +kernel

/-- A duration that can be written is read back off its text. -/
theorem readDuration?_natText {d : Duration} (h : d ≤ Duration.maxWritten) :
    readDuration? (Decimal.natText d) = some d := by
  rw [readDuration?, Decimal.toList_natText, Decimal.trim_natDigits, Decimal.readNat?_natDigits,
    Option.filter_some]
  simp [h]

/-! ### What the setters write -/

@[simp]
theorem text?_setInt32 (value : Int32) :
    (b.setInt32 key value).text? other =
      if other = key then some (Decimal.intText value.toInt) else b.text? other :=
  text?_insert b key other _

@[simp]
theorem text?_setInt64 (value : Int64) :
    (b.setInt64 key value).text? other =
      if other = key then some (Decimal.intText value.toInt) else b.text? other :=
  text?_insert b key other _

@[simp]
theorem text?_setBool (value : Bool) :
    (b.setBool key value).text? other =
      if other = key then some (boolText value) else b.text? other :=
  text?_insert b key other _

@[simp]
theorem text?_setDuration (value : Duration) :
    (b.setDuration key value).text? other =
      if other = key then some (Decimal.natText value.written) else b.text? other :=
  text?_insert b key other _

@[simp]
theorem text?_setJson (value : Option Json) :
    (b.setJson key value).text? other =
      if other = key then value.map Json.text else b.text? other :=
  text?_insert b key other _

@[simp]
theorem get?_setStatus (status : DomainStatus) :
    (b.setStatus key status).get? other =
      if other = key then status.wire?.map some else b.get? other := by
  cases hwire : status.wire? with
  | none => simp only [setStatus, hwire, get?_erase, Option.map_none]
  | some text => simp only [setStatus, hwire, get?_insert, Option.map_some]

@[simp]
theorem text?_setStatus (status : DomainStatus) :
    (b.setStatus key status).text? other =
      if other = key then status.wire? else b.text? other := by
  cases hwire : status.wire? with
  | none => simp only [setStatus, hwire, text?_erase]
  | some text => simp only [setStatus, hwire, text?_insert]

/-! ### Reading a text under a key -/

/-- A typed getter gives what is read off the text. -/
theorem getWith_of_text? {α : Type} {expected text : String} {read : String → Option α} {value : α}
    (htext : b.text? key = some text) (hread : read text = some value) :
    b.getWith key expected read = .ok (some value) := by
  rw [getWith, htext]
  simp only [hread]

/-- A typed getter gives none without a text. -/
theorem getWith_of_none {α : Type} {expected : String} {read : String → Option α}
    (htext : b.text? key = none) : b.getWith key expected read = .ok none := by
  rw [getWith, htext]

/-- An integer of 32 bits is found under its key. -/
theorem getInt32D_of_text? {value : Int32}
    (h : b.text? key = some (Decimal.intText value.toInt)) : b.getInt32D key = .ok value := by
  rw [getInt32D, getInt32, getWith_of_text? h (readInt32?_intText value)]
  rfl

/-- An integer of 64 bits is found under its key. -/
theorem getInt64_of_text? {value : Int64}
    (h : b.text? key = some (Decimal.intText value.toInt)) :
    b.getInt64 key = .ok (some value) :=
  getWith_of_text? h (readInt64?_intText value)

/-- A truth value is found under its key. -/
theorem getBool_of_text? {value : Bool} (h : b.text? key = some (boolText value)) :
    b.getBool key = .ok value := by
  rw [getBool, getWith_of_text? h (readBool?_boolText value)]
  rfl

/-- A status is found under its key. -/
theorem getStatus_of_text? {status : DomainStatus} (h : b.text? key = status.wire?) :
    b.getStatus key = .ok status := by
  cases hwire : status.wire? with
  | none =>
    rw [hwire] at h
    rw [getStatus, getWith_of_none h]
    cases status <;> first | rfl | cases hwire
  | some text =>
    rw [hwire] at h
    rw [getStatus, getWith_of_text? h (DomainStatus.ofWire?_of_wire? hwire)]
    rfl

end Parley.Bag

namespace Parley.Message

/-- The request id that was written is the one in the bag. -/
@[simp]
theorem storedRequestId_setInt64 (b : Bag) (id : Int64) :
    storedRequestId (b.setInt64 Bag.requestIdKey id) = id := by
  have htext : (b.setInt64 Bag.requestIdKey id).text? Bag.requestIdKey =
      some (Decimal.intText id.toInt) := by
    rw [Bag.text?_setInt64, if_pos rfl]
  rw [storedRequestId, Bag.getInt64_of_text? htext]

/-- A message that can have a request id has the one that is written in it. -/
theorem requestId_of_text? {m : Message} (h : m.hasRequestId = true) {id : Int64}
    (htext : m.bag.text? Bag.requestIdKey = some (Decimal.intText id.toInt)) :
    m.requestId = id := by
  rw [requestId, requestId?, if_pos h, storedRequestId, Bag.getInt64_of_text? htext]
  rfl

/-- A message that can have a request id has the one that was written. -/
theorem requestId_setRequestId {m : Message} (h : m.hasRequestId = true) (id : Int64) :
    (m.setRequestId id).requestId = id := by
  have hhas : (m.setRequestId id).hasRequestId = true := h
  rw [requestId, requestId?, if_pos hhas]
  exact storedRequestId_setInt64 m.bag id

/-- A reply has a request id. -/
theorem hasRequestId_of_isReply {m : Message} (h : m.isReply = true) : m.hasRequestId = true := by
  obtain ⟨role, tag, bag, attachments⟩ := m
  cases role <;> first | rfl | cases h

end Parley.Message
