/-
# Typed properties

Every value is a text; a typed getter says what the text must look like and a
typed setter which of these texts is written.  An absent key and a key without a
value both read as none.
-/

import Parley.Bag
import Parley.Decimal.Integer
import Parley.Fault
import Parley.Text.Blank
import Parley.Workflow

namespace Parley.Bag

/-- The value of a key, as `read` understands its text; a text that it does not
understand is a fault that names the type `expected`. -/
def getWith {α : Type} (b : Bag) (key expected : String) (read : String → Option α) :
    Except Fault (Option α) :=
  match b.text? key with
  | none => .ok none
  | some text =>
      match read text with
      | some value => .ok (some value)
      | none => .error (.typeMismatch key expected)

/-- An integer between `low` and `high`, blanks around it allowed. -/
def readInRange? (low high : Int) (text : String) : Option Int :=
  (Decimal.readInt? (Text.trim text.toList)).filter fun i => decide (low ≤ i) && decide (i ≤ high)

/-- A 32-bit integer. -/
def readInt32? (text : String) : Option Int32 :=
  (readInRange? Int32.minValue.toInt Int32.maxValue.toInt text).map Int32.ofInt

/-- A 64-bit integer. -/
def readInt64? (text : String) : Option Int64 :=
  (readInRange? Int64.minValue.toInt Int64.maxValue.toInt text).map Int64.ofInt

/-- A duration: a natural number of nanoseconds that fits 64 bits. -/
def readDuration? (text : String) : Option Duration :=
  (Decimal.readNat? (Text.trim text.toList)).filter fun n => decide (n ≤ Duration.maxWritten)

/-- An ASCII letter in lower case; any other character is left alone. -/
def lowerAscii (c : Char) : Char :=
  if 'A' ≤ c ∧ c ≤ 'Z' then Char.ofNat (c.toNat + 32) else c

/-- One of the words `true` and `false` in any ASCII case, without blanks. -/
def readBool? (text : String) : Option Bool :=
  let word := text.toList.map lowerAscii
  if word = "true".toList then some true
  else if word = "false".toList then some false
  else none

/-- How a truth value is written. -/
def boolText (value : Bool) : String :=
  if value then "true" else "false"

/-- A 32-bit integer property. -/
def getInt32 (b : Bag) (key : String) : Except Fault (Option Int32) :=
  b.getWith key "i32" readInt32?

/-- A 64-bit integer property. -/
def getInt64 (b : Bag) (key : String) : Except Fault (Option Int64) :=
  b.getWith key "i64" readInt64?

/-- A truth value, `false` when there is none. -/
def getBool (b : Bag) (key : String) : Except Fault Bool :=
  (b.getWith key "bool" readBool?).map fun value => value.getD false

/-- A duration. -/
def getDuration (b : Bag) (key : String) : Except Fault (Option Duration) :=
  b.getWith key "duration" readDuration?

/-- Any JSON document. -/
def getJson (b : Bag) (key : String) : Except Fault (Option Json) :=
  b.getWith key "serde_json::value::Value" Json.parse

/-- Workflow arguments. -/
def getArgs (b : Bag) (key : String) : Except Fault (Option Workflow.Args) :=
  b.getWith key
    "std::collections::hash::map::HashMap<alloc::string::String, serde_json::value::Value>"
    Workflow.Args.ofText?

/-- Start options. -/
def getOptions (b : Bag) (key : String) : Except Fault (Option Workflow.Options) :=
  b.getWith key "cadence_proxy::messages::workflow::StartWorkflowOptions"
    Workflow.Options.ofText?

/-- The identity of a run. -/
def getExecution (b : Bag) (key : String) : Except Fault (Option Workflow.Execution) :=
  b.getWith key "cadence_proxy::messages::workflow::WorkflowExecution"
    Workflow.Execution.ofText?

/-- Write a 32-bit integer. -/
def setInt32 (b : Bag) (key : String) (value : Int32) : Bag :=
  b.insert key (some (Decimal.intText value.toInt))

/-- Write a 64-bit integer. -/
def setInt64 (b : Bag) (key : String) (value : Int64) : Bag :=
  b.insert key (some (Decimal.intText value.toInt))

/-- Write a truth value. -/
def setBool (b : Bag) (key : String) (value : Bool) : Bag :=
  b.insert key (some (boolText value))

/-- Write a duration, cut off at the longest that can be written. -/
def setDuration (b : Bag) (key : String) (value : Duration) : Bag :=
  b.insert key (some (Decimal.natText value.written))

/-- Write a document as its text; none leaves the key without a value. -/
def setJson (b : Bag) (key : String) (value : Option Json) : Bag :=
  b.insert key (value.map Json.text)

/-- What a caller may hand over to be written as JSON: a document, or a map whose
keys are pairs of documents. -/
inductive Structured where
  | document (value : Json)
  | keyedByPairs (entries : List ((Json × Json) × Json))

/-- The text of a structured value.  The keys of an object are texts, so a map with
pairs for keys has a text only when it is empty. -/
def Structured.text : Structured → Except Fault String
  | .document value => .ok value.text
  | .keyedByPairs [] => .ok (Json.obj []).text
  | .keyedByPairs (_ :: _) => .error (.serialization "key must be a string")

/-- Write a structured value, or leave the bag alone when it has no text. -/
def setStructured (b : Bag) (key : String) (value : Structured) : Except Fault Bag :=
  value.text.map fun text => b.insert key (some text)

end Parley.Bag
