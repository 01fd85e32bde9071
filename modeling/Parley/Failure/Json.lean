/-
# Failures as JSON

A failure travels as a JSON record under one property of its reply.  Its three
fields are all optional when read.
-/

import Parley.Fault
import Parley.Json.Printer
import Parley.Json.Reader
import Parley.Bag

namespace Parley

/-- The property that holds the failure of a reply. -/
def Bag.failureKey : String := "Error"

namespace Failure

/-- The names of the fields, in the order in which an array gives them. -/
def keys : List String := ["Type", "String", "Details"]

/-- The document of a failure, its keys in ascending order. -/
def json (f : Failure) : Json :=
  .obj [("Details", .ofText? f.details), ("String", .str f.text), ("Type", .ofText? f.kind.wire?)]

/-- The fault of a text that is no failure record. -/
def unreadable : Fault :=
  .typeMismatch Bag.failureKey "ErrorEnvelope"

/-- An optional text: absent and `null` are none. -/
def optionalText? : Option Json → Option (Option String)
  | none => some none
  | some .null => some none
  | some (.str s) => some (some s)
  | some _ => none

/-- The three fields of a record, each a text if it is given. -/
def fields? (text : String) : Option (Option String × Option String × Option String) :=
  match Json.record keys text with
  | some [kind, text, details] => do
      let kind ← optionalText? kind
      let text ← optionalText? text
      let details ← optionalText? details
      some (kind, text, details)
  | _ => none

/-- The failure in a text.  No kind means no failure; a kind outside the closed
set is a fault of its own. -/
def ofText (text : String) : Except Fault Failure :=
  match fields? text with
  | none => .error unreadable
  | some (none, text, details) => .ok { kind := .none, text := text.getD "", details }
  | some (some kind, text, details) =>
      match FailureKind.ofWire? kind with
      | some kind => .ok { kind, text := text.getD "", details }
      | none => .error (.unknownFailureKind kind)

end Failure

namespace Bag

/-- The failure in a bag; a record without a kind is none. -/
def failure (b : Bag) : Except Fault (Option Failure) :=
  match b.text? failureKey with
  | none => .ok none
  | some text => (Failure.ofText text).map fun f => if f.isFailure then some f else none

/-- Write a failure into a bag, or take it out when there is none to write. -/
def setFailure (b : Bag) (failure : Option Failure) : Bag :=
  match failure with
  | some f =>
      if f.isFailure then b.insert failureKey (some f.json.text) else b.erase failureKey
  | none => b.erase failureKey

end Bag

end Parley
