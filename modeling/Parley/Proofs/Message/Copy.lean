/-
# Copying messages

A message is copied onto another one of any class: the payload of the source goes over that of
the target, and of the two reserved properties each is carried over when both classes can
have it (`Message.copyOf_copyTo`).  The target keeps its class and tag.

Under each key the copy either has what is written there, which depends on the source and on the
two classes alone, or what the target had (`Message.get?_copied`).  Therefore copying once more
changes nothing.

The failure of a reply is read last.  When it cannot be read the copy is refused, but by then the
payload and the request id are in the target (`Message.copyTo_refusals`).
-/

import Parley.Proofs.Failure
import Parley.Proofs.Typed

namespace Parley

namespace Bag

/-- The properties of a bag that do not belong to the exchange. -/
def payload (b : Bag) : Bag :=
  ⟨b.entries.filter fun entry => !reservedKeys.contains entry.1, b.ascending.filter _⟩

/-- The payload has all properties but the reserved ones. -/
theorem get?_payload (b : Bag) (key : String) :
    b.payload.get? key = if key ∈ reservedKeys then none else b.get? key := by
  have hlookup := lookup_filter_key (fun key => !reservedKeys.contains key) key b.entries
  rw [get?, payload, hlookup]
  by_cases hreserved : key ∈ reservedKeys <;> simp [hreserved, get?]

end Bag

namespace Message

variable {source target : Message}

/-! ### Messages and their roles -/

/-- Whether a message is a reply is told by its role. -/
theorem isReply_eq_of_role {m m' : Message} (h : m.role = m'.role) : m.isReply = m'.isReply := by
  rw [isReply, isReply, h]

/-- Whether a message has an id is told by its role. -/
theorem hasRequestId_eq_of_role {m m' : Message} (h : m.role = m'.role) :
    m.hasRequestId = m'.hasRequestId := by
  rw [hasRequestId, hasRequestId, h]

/-- Messages with the same role, tag and attachments are the same when the same is found under
every key. -/
theorem ext_get? {m m' : Message} (hrole : m.role = m'.role) (htag : m.tag = m'.tag)
    (hattachments : m.attachments = m'.attachments)
    (hbag : ∀ key, m.bag.get? key = m'.bag.get? key) : m = m' := by
  obtain ⟨role, tag, bag, attachments⟩ := m
  obtain ⟨role', tag', bag', attachments'⟩ := m'
  obtain rfl : bag = bag' := Bag.ext_get? hbag
  cases hrole
  cases htag
  cases hattachments
  rfl

/-- An id is set under its key only. -/
theorem get?_setRequestId (m : Message) (id : Int64) (key : String) :
    (m.setRequestId id).bag.get? key =
      if key = Bag.requestIdKey then some (some (Decimal.intText id.toInt))
      else m.bag.get? key :=
  Bag.get?_insert m.bag Bag.requestIdKey key _

/-! ### What is copied -/

/-- The payload is what the source inserts into the target. -/
theorem copyEnvelope_bag (source target : Message) :
    (source.copyEnvelope target).bag =
      source.bag.payload.entries.foldl (fun b entry => b.insert entry.1 entry.2) target.bag := by
  have hstep : (fun (b : Bag) (entry : String × Option String) =>
        if Bag.reservedKeys.contains entry.1 then b else b.insert entry.1 entry.2) =
      fun b entry =>
        if !Bag.reservedKeys.contains entry.1 then b.insert entry.1 entry.2 else b := by
    funext b entry
    cases Bag.reservedKeys.contains entry.1 <;> rfl
  rw [Bag.payload, List.foldl_filter, copyEnvelope, hstep]

/-- To copy an envelope copies all properties but the reserved ones. -/
theorem get?_copyEnvelope (source target : Message) (key : String) :
    (source.copyEnvelope target).bag.get? key =
      if key ∈ Bag.reservedKeys then target.bag.get? key
      else (source.bag.get? key).or (target.bag.get? key) := by
  rw [copyEnvelope_bag, Bag.get?_foldl_insert_entries, Bag.get?_payload]
  split <;> simp

/-- The target with the payload, and with the request id if both have one. -/
def numbered (source target : Message) : Message :=
  if source.hasRequestId && target.hasRequestId then
    (source.copyEnvelope target).setRequestId source.requestId
  else source.copyEnvelope target

/-- The target with all that is copied from a source that reports `failure`. -/
def copied (source target : Message) (failure : Option Failure) : Message :=
  if source.isReply && target.isReply then (numbered source target).setFailure failure
  else numbered source target

/-- A copy keeps its role. -/
theorem role_copied (source target : Message) (failure : Option Failure) :
    (copied source target failure).role = target.role := by
  unfold copied numbered
  split <;> split <;> rfl

/-- A copy keeps its tag. -/
theorem tag_copied (source target : Message) (failure : Option Failure) :
    (copied source target failure).tag = target.tag := by
  unfold copied numbered
  split <;> split <;> rfl

/-- A copy has the attachments of its source. -/
theorem attachments_copied (source target : Message) (failure : Option Failure) :
    (copied source target failure).attachments = source.attachments := by
  unfold copied numbered
  split <;> split <;> rfl

/-- What the copy writes under a key, and nothing where the target keeps what it has.  It does
not depend on the contents of the target. -/
def overwritten? (source target : Message) (failure : Option Failure) (key : String) :
    Option (Option (Option String)) :=
  if key = Bag.failureKey then
    if source.isReply && target.isReply then some (Bag.failureState failure) else none
  else if key = Bag.requestIdKey then
    if source.hasRequestId && target.hasRequestId then
      some (some (some (Decimal.intText source.requestId.toInt)))
    else none
  else (source.bag.get? key).map some

/-- The id is copied when both messages have one. -/
theorem get?_numbered_requestIdKey (source target : Message) :
    (numbered source target).bag.get? Bag.requestIdKey =
      if source.hasRequestId && target.hasRequestId then
        some (some (Decimal.intText source.requestId.toInt))
      else target.bag.get? Bag.requestIdKey := by
  have hreserved : Bag.requestIdKey ∈ Bag.reservedKeys := by decide
  rw [numbered]
  split
  · rw [get?_setRequestId, if_pos rfl]
  · rw [get?_copyEnvelope, if_pos hreserved]

/-- To copy the id changes no other property. -/
theorem get?_numbered {key : String} (hkey : key ≠ Bag.requestIdKey) (source target : Message) :
    (numbered source target).bag.get? key = (source.copyEnvelope target).bag.get? key := by
  rw [numbered]
  split
  · rw [get?_setRequestId, if_neg hkey]
  · rfl

/-- The failure is copied between replies. -/
theorem get?_copied_failureKey (source target : Message) (failure : Option Failure) :
    (copied source target failure).bag.get? Bag.failureKey =
      if source.isReply && target.isReply then Bag.failureState failure
      else target.bag.get? Bag.failureKey := by
  have hkey : Bag.failureKey ≠ Bag.requestIdKey := by decide
  have hreserved : Bag.failureKey ∈ Bag.reservedKeys := by decide
  rw [copied]
  split
  · rw [setFailure, Bag.get?_setFailure, if_pos rfl]
  · rw [get?_numbered hkey, get?_copyEnvelope, if_pos hreserved]

/-- To copy the failure changes no other property. -/
theorem get?_copied_of_ne {key : String} (hkey : key ≠ Bag.failureKey)
    (source target : Message) (failure : Option Failure) :
    (copied source target failure).bag.get? key = (numbered source target).bag.get? key := by
  rw [copied]
  split
  · rw [setFailure, Bag.get?_setFailure, if_neg hkey]
  · rfl

/-- Under every key of the copy stands what is written there, or else what the target has. -/
theorem get?_copied (source target : Message) (failure : Option Failure) (key : String) :
    (copied source target failure).bag.get? key =
      (overwritten? source target failure key).getD (target.bag.get? key) := by
  rw [overwritten?]
  by_cases hfailure : key = Bag.failureKey
  · subst hfailure
    rw [if_pos rfl, get?_copied_failureKey]
    split <;> rfl
  · rw [if_neg hfailure, get?_copied_of_ne hfailure]
    by_cases hid : key = Bag.requestIdKey
    · subst hid
      rw [if_pos rfl, get?_numbered_requestIdKey]
      split <;> rfl
    · have hpayload : key ∉ Bag.reservedKeys := by simp [Bag.reservedKeys, hid, hfailure]
      rw [if_neg hid, get?_numbered hid, get?_copyEnvelope, if_neg hpayload]
      cases source.bag.get? key <;> rfl

/-- What is written depends on the class of the target alone. -/
theorem overwritten?_eq_of_role {target' : Message} (h : target.role = target'.role)
    (source : Message) (failure : Option Failure) (key : String) :
    overwritten? source target failure key = overwritten? source target' failure key := by
  rw [overwritten?, overwritten?, isReply_eq_of_role h, hasRequestId_eq_of_role h]

/-- Copying once more changes nothing. -/
theorem copied_copied (source target : Message) (failure : Option Failure) :
    copied source (copied source target failure) failure = copied source target failure := by
  apply ext_get?
  · exact role_copied source _ failure
  · exact tag_copied source _ failure
  · rw [attachments_copied, attachments_copied]
  · intro key
    have hwritten := overwritten?_eq_of_role (role_copied source target failure) source failure key
    rw [get?_copied, hwritten, get?_copied]
    cases overwritten? source target failure key <;> rfl

/-! ### Whether it can be copied -/

/-- To copy the id sets the one that is stored in the source. -/
theorem numbered_eq (source target : Message) :
    numbered source target =
      if source.hasRequestId && target.hasRequestId then
        (source.copyEnvelope target).setRequestId (storedRequestId source.bag)
      else source.copyEnvelope target := by
  rw [numbered]
  by_cases hid : source.hasRequestId = true
  · rw [requestId, requestId?, if_pos hid, Option.getD_some]
  · simp [hid]

/-- A message is copied when it is no reply, or a reply that reports a failure or none. -/
theorem copyTo_of_readable {failure : Option Failure}
    (h : source.isReply = true → source.failure = .ok failure) :
    source.copyTo target = (copied source target failure, .ok ()) := by
  cases hreply : source.isReply with
  | false => simp [copyTo, copied, hreply, numbered_eq]
  | true =>
    have hfailure := h hreply
    cases htarget : target.isReply <;> simp [copyTo, copied, hreply, hfailure, htarget, numbered_eq]

/-- A reply whose failure cannot be read is found out when all else has been copied. -/
theorem copyTo_of_unreadable {e : Fault} (hreply : source.isReply = true)
    (h : source.failure = .error e) :
    source.copyTo target = (numbered source target, .error e) := by
  simp [copyTo, hreply, h, numbered_eq]

/-- A reply that was copied reports a failure or none. -/
theorem exists_failure_of_copyTo (h : (source.copyTo target).2 = .ok ()) :
    ∃ failure, source.isReply = true → source.failure = .ok failure := by
  by_cases hreply : source.isReply = true
  · cases hfailure : source.failure with
    | ok failure => exact ⟨failure, fun _ => rfl⟩
    | error e =>
      rw [copyTo_of_unreadable hreply hfailure] at h
      cases h
  · exact ⟨none, fun hyes => absurd hyes hreply⟩

/-! ### Copying -/

/-- `result` is `target` after `source` has been copied onto it. -/
structure CopyOf (source target result : Message) : Prop where
  role : result.role = target.role
  tag : result.tag = target.tag
  attachments : result.attachments = source.attachments
  /-- The payload of the source goes over that of the target, properties without a value
  included. -/
  payload : ∀ key, key ∉ Bag.reservedKeys →
    result.bag.get? key = (source.bag.get? key).or (target.bag.get? key)
  /-- The request id is carried over when both classes have one. -/
  requestId : result.bag.get? Bag.requestIdKey =
    if source.hasRequestId && target.hasRequestId then
      some (some (Decimal.intText source.requestId.toInt))
    else target.bag.get? Bag.requestIdKey
  /-- The failure of a reply is carried over to a reply, in its own form, and so is that there
  is none. -/
  failure : source.isReply = true → target.isReply = true → ∃ failure,
    source.failure = .ok failure ∧
      result.bag.get? Bag.failureKey = failure.map fun f => some f.json.text
  failure_kept : (source.isReply && target.isReply) = false →
    result.bag.get? Bag.failureKey = target.bag.get? Bag.failureKey
  /-- Copying once more changes nothing. -/
  again : source.copyTo result = (result, .ok ())

/-- Whatever the classes and the contents of two messages: when one is copied onto the other
without a fault, what results is a copy. -/
theorem copyOf_copyTo (source target : Message) (h : (source.copyTo target).2 = .ok ()) :
    CopyOf source target (source.copyTo target).1 := by
  obtain ⟨failure, hfailure⟩ := exists_failure_of_copyTo h
  rw [copyTo_of_readable hfailure]
  constructor
  case role => exact role_copied source target failure
  case tag => exact tag_copied source target failure
  case attachments => exact attachments_copied source target failure
  case payload =>
    intro key hkey
    have hkeys : key ≠ Bag.requestIdKey ∧ key ≠ Bag.failureKey := by
      simpa [Bag.reservedKeys] using hkey
    rw [get?_copied_of_ne hkeys.2, get?_numbered hkeys.1, get?_copyEnvelope, if_neg hkey]
  case requestId =>
    have hkeys : Bag.requestIdKey ≠ Bag.failureKey := by decide
    rw [get?_copied_of_ne hkeys, get?_numbered_requestIdKey]
  case failure =>
    intro hsource htarget
    have hread := hfailure hsource
    refine ⟨failure, hread, ?_⟩
    rw [get?_copied_failureKey, hsource, htarget, Bag.failureState_of_failure hread]
    rfl
  case failure_kept =>
    intro hkept
    rw [get?_copied_failureKey, hkept]
    rfl
  case again => rw [copyTo_of_readable hfailure, copied_copied]

/-- A reply with a property without a value, blanks around its request id and a failure with a
field too many. -/
def looseReply : Message :=
  ((Message.anyReply .unspecified).insert Key.name none
    |>.insert Bag.requestIdKey (some " 7 ")
    |>.insert Bag.failureKey (some "\x7b \"Type\": \"custom\", \"At\": 1 \x7d")).pushAttachment [0]

/-- A reply of another class with a name, a request id and no failure. -/
def namedReply : Message :=
  ((Message.reply .connect).insert Key.name (some "")).setRequestId 3

/-- It is copied onto a reply of another class. -/
theorem copyOf_copyTo_looseReply :
    (looseReply.copyTo namedReply).2 = .ok () ∧
      CopyOf looseReply namedReply (looseReply.copyTo namedReply).1 :=
  have hcopied : (looseReply.copyTo namedReply).2 = .ok () := rfl
  ⟨hcopied, copyOf_copyTo looseReply namedReply hcopied⟩

/-! ### Copies that are refused -/

/-- `result` is `target` after the copying of a reply stopped before its failure. -/
structure CopiedInPart (source target result : Message) : Prop where
  role : result.role = target.role
  tag : result.tag = target.tag
  attachments : result.attachments = source.attachments
  payload : ∀ key, key ∉ Bag.reservedKeys →
    result.bag.get? key = (source.bag.get? key).or (target.bag.get? key)
  requestId : result.bag.get? Bag.requestIdKey =
    some (some (Decimal.intText source.requestId.toInt))
  failure : result.bag.get? Bag.failureKey = target.bag.get? Bag.failureKey

/-- Between replies all but the failure is in the target before the failure is read. -/
theorem copiedInPart_numbered (hsource : source.isReply = true) (htarget : target.isReply = true) :
    CopiedInPart source target (numbered source target) := by
  have hids : (source.hasRequestId && target.hasRequestId) = true := by
    rw [hasRequestId_of_isReply hsource, hasRequestId_of_isReply htarget]
    rfl
  constructor
  case role | tag | attachments =>
    rw [numbered, if_pos hids]
    rfl
  case payload =>
    intro key hkey
    have hid : key ≠ Bag.requestIdKey := fun h => hkey (by simp [h, Bag.reservedKeys])
    rw [get?_numbered hid, get?_copyEnvelope, if_neg hkey]
  case requestId => rw [get?_numbered_requestIdKey, if_pos hids]
  case failure =>
    have hkey : Bag.failureKey ≠ Bag.requestIdKey := by decide
    have hreserved : Bag.failureKey ∈ Bag.reservedKeys := by decide
    rw [get?_numbered hkey, get?_copyEnvelope, if_pos hreserved]

/-- A message that is no reply can be copied onto every message, and so can a reply that reports a
failure or none.  Between replies a failure that cannot be read refuses the copy with the fault of
reading it, and the target has everything else that is copied. -/
theorem copyTo_refusals (source target : Message) :
    (source.isReply = false → (source.copyTo target).2 = .ok ()) ∧
      (∀ failure, source.failure = .ok failure → (source.copyTo target).2 = .ok ()) ∧
      (source.isReply = true → target.isReply = true → ∀ fault, source.failure = .error fault →
        (source.copyTo target).2 = .error fault ∧
          CopiedInPart source target (source.copyTo target).1) := by
  refine ⟨fun hreply => ?_, fun failure hread => ?_, fun hsource htarget fault hunread => ?_⟩
  · have hnone : source.isReply = true → source.failure = .ok none :=
      fun hyes => absurd (hreply.symm.trans hyes) Bool.false_ne_true
    rw [copyTo_of_readable hnone]
  · rw [copyTo_of_readable fun _ => hread]
  · rw [copyTo_of_unreadable hsource hunread]
    exact ⟨rfl, copiedInPart_numbered hsource htarget⟩

/-- A reply with a name and an attachment whose failure is no record. -/
def garbledReply : Message :=
  ((Message.anyReply .unspecified).insert Key.name (some "other")
    |>.insert Bag.failureKey (some "[")).pushAttachment [1]

/-- It is copied up to the failure. -/
theorem copyTo_refusals_garbledReply :
    garbledReply.isReply = true ∧ namedReply.isReply = true ∧
      garbledReply.failure = .error Failure.unreadable ∧
      (garbledReply.copyTo namedReply).2 = .error Failure.unreadable ∧
      CopiedInPart garbledReply namedReply (garbledReply.copyTo namedReply).1 :=
  have hunread : garbledReply.failure = .error Failure.unreadable := rfl
  ⟨rfl, rfl, hunread, (copyTo_refusals garbledReply namedReply).2.2 rfl rfl _ hunread⟩

/-- A copy between replies that is refused does not leave the target as it was. -/
theorem copyTo_refused_changes_target :
    garbledReply.isReply = true ∧ namedReply.isReply = true ∧
      (garbledReply.copyTo namedReply).2 = .error Failure.unreadable ∧
      (garbledReply.copyTo namedReply).1 ≠ namedReply := by
  refine ⟨rfl, rfl, rfl, ?_⟩
  decide +kernel

end Message

end Parley
