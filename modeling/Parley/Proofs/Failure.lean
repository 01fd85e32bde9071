/-
# Failures read back

A failure that was written into a reply is read off it as it was, whatever texts it has.
What stands for a failure in a bag is `Bag.failureState`; a failure of no kind is none, and
nothing stands for it.
-/

import Parley.Message.Basic
import Parley.Proofs.Bag
import Parley.Proofs.Json.Document
import Parley.Proofs.Outcome

namespace Parley

namespace Failure

/-- A text that may be absent is read back. -/
theorem optionalText?_ofText? (text : Option String) :
    optionalText? (some (.ofText? text)) = some text := by
  cases text <;> rfl

/-- A text that may be absent is plain in a document. -/
theorem plain_ofText? (depth : Nat) (text : Option String) :
    Json.plain depth (.ofText? text) = true := by
  cases text <;> simp [Json.ofText?, Json.plain]

/-- The three fields of a failure read back from its document. -/
theorem fields?_json (f : Failure) :
    fields? f.json.text = some (f.kind.wire?, some f.text, f.details) := by
  have hrecord : Json.record keys f.json.text =
      some [some (.ofText? f.kind.wire?), some (.str f.text), some (.ofText? f.details)] := by
    rw [json, Json.record_text]
    · rfl
    · intro field hfield
      simp only [List.mem_cons, List.not_mem_nil, or_false] at hfield
      rcases hfield with rfl | rfl | rfl <;> rfl
    · intro field hfield
      simp only [List.mem_cons, List.not_mem_nil, or_false] at hfield
      rcases hfield with rfl | rfl | rfl
      · exact plain_ofText? _ _
      · simp [Json.plain]
      · exact plain_ofText? _ _
  simp only [fields?, hrecord, optionalText?_ofText?, Option.bind_eq_bind, Option.bind_some]
  rfl

/-- A failure reads back from its text. -/
theorem ofText_json (f : Failure) : ofText f.json.text = .ok f := by
  obtain ⟨kind, text, details⟩ := f
  rw [ofText, fields?_json]
  cases hwire : kind.wire? with
  | none =>
    cases kind <;> first | rfl | cases hwire
  | some wire =>
    simp only [FailureKind.ofWire?_of_wire? hwire]
    rfl

end Failure

/-- A failure that was written into a bag is the one that it carries. -/
theorem Bag.failure_of_text? {b : Bag} {f : Failure} (hfailure : f.isFailure = true)
    (h : b.text? failureKey = some f.json.text) : b.failure = .ok (some f) := by
  rw [failure, h]
  simp only [Failure.ofText_json, map_ok, hfailure, if_true]

/-- A bag without a failure carries none. -/
theorem Bag.failure_of_none {b : Bag} (h : b.text? failureKey = none) : b.failure = .ok none := by
  rw [failure, h]

namespace Bag

/-- What stands for a failure in a bag: its text, and nothing when there is none to report. -/
def failureState (failure : Option Failure) : Option (Option String) :=
  (failure.filter Failure.isFailure).map fun f => some f.json.text

/-- A failure leaves a state behind when it is one. -/
theorem isSome_failureState (failure : Option Failure) :
    (failureState failure).isSome = (failure.filter Failure.isFailure).isSome := by
  rw [failureState, Option.isSome_map]

/-- Writing a failure changes what stands for it and leaves all other keys alone. -/
theorem get?_setFailure (b : Bag) (failure : Option Failure) (key : String) :
    (b.setFailure failure).get? key =
      if key = failureKey then failureState failure else b.get? key := by
  cases failure with
  | none => simp [setFailure, failureState]
  | some f =>
    cases hfailure : f.isFailure <;> simp [setFailure, failureState, Option.filter, hfailure]

/-- What stands for a failure is read as this failure. -/
theorem failure_of_failureState {b : Bag} {failure : Option Failure}
    (h : b.get? failureKey = failureState failure) :
    b.failure = .ok (failure.filter Failure.isFailure) := by
  have htext : b.text? failureKey = (failureState failure).join := congrArg Option.join h
  cases hwritten : failure.filter Failure.isFailure with
  | none =>
    rw [failureState, hwritten] at htext
    exact failure_of_none htext
  | some f =>
    have hfailure : f.isFailure = true := (Option.filter_eq_some_iff.1 hwritten).2
    rw [failureState, hwritten] at htext
    exact failure_of_text? hfailure htext

/-- What is read off a bag as its failure is of some kind. -/
theorem isFailure_of_failure {b : Bag} {f : Failure} (h : b.failure = .ok (some f)) :
    f.isFailure = true := by
  rw [failure] at h
  split at h
  · cases h
  · rename_i text htext
    cases hread : Failure.ofText text with
    | error e =>
      rw [hread] at h
      cases h
    | ok g =>
      rw [hread, map_ok] at h
      split at h
      · rename_i hfailure
        cases h
        exact hfailure
      · cases h

/-- A failure that was read is written as its text. -/
theorem failureState_of_failure {b : Bag} {failure : Option Failure}
    (h : b.failure = .ok failure) :
    failureState failure = failure.map fun f => some f.json.text := by
  cases failure with
  | none => rfl
  | some f => rw [failureState, Option.filter_some, if_pos (isFailure_of_failure h)]

end Bag

/-- A failure that was written into a message is the one that it carries, whatever its id. -/
theorem Message.failure_setFailure {f : Failure} (hfailure : f.isFailure = true) (m : Message)
    (id : Int64) : ((m.setFailure (some f)).setRequestId id).failure = .ok (some f) := by
  apply Bag.failure_of_text? hfailure
  have hkeys : Bag.failureKey ≠ Bag.requestIdKey := by decide
  simp only [Message.setRequestId, Message.setFailure, Bag.setFailure, Bag.setInt64, hfailure,
    if_true, Bag.text?_insert, if_neg hkeys]

end Parley
