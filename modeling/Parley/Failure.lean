/-
# Failures

What a reply reports when its request could not be carried out.
-/

namespace Parley

/-- The closed set of categories of failure. -/
inductive FailureKind where
  /-- No failure; it is never written. -/
  | none
  | cancelled
  /-- Defined by the application. -/
  | custom
  /-- Any other failure. -/
  | generic
  /-- The engine call was torn down by a panic. -/
  | panic
  | terminated
  | timeout
deriving DecidableEq, Repr

namespace FailureKind

/-- How a kind is written, when it is written at all. -/
def wire? : FailureKind → Option String
  | .none => Option.none
  | .cancelled => some "cancelled"
  | .custom => some "custom"
  | .generic => some "generic"
  | .panic => some "panic"
  | .terminated => some "terminated"
  | .timeout => some "timeout"

/-- The name of a kind. -/
def name (kind : FailureKind) : String :=
  kind.wire?.getD "none"

/-- The kinds that can be written. -/
def written : List FailureKind :=
  [.cancelled, .custom, .generic, .panic, .terminated, .timeout]

/-- The kind that is written as `text`. -/
def ofWire? (text : String) : Option FailureKind :=
  written.find? fun kind => kind.wire? == some text

/-- A written kind reads back. -/
theorem ofWire?_of_wire? {kind : FailureKind} {text : String} (h : kind.wire? = some text) :
    ofWire? text = some kind := by
  cases kind <;> simp [wire?] at h <;> subst h <;> decide +kernel

end FailureKind

/-- A failure: its kind, a text for people and optional details. -/
structure Failure where
  kind : FailureKind := .none
  text : String := ""
  details : Option String := none
deriving DecidableEq, Repr

namespace Failure

/-- Whether this is a failure at all. -/
def isFailure (f : Failure) : Bool :=
  f.kind != .none

/-- One line for people, the details in parentheses. -/
def display (f : Failure) : String :=
  match f.details with
  | some details => s!"{f.kind.name}: {f.text} ({details})"
  | none => s!"{f.kind.name}: {f.text}"

end Failure

end Parley
