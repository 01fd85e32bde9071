/-
# Workflow payloads

What starting a workflow takes and gives: arguments by name, options, and the
identity of the run that results.  All three travel as JSON texts in properties.
A record is written with its fields in the order of declaration and read from an
object or from an array in that order.
-/

import Parley.Json.Printer
import Parley.Json.Reader

namespace Parley

/-- A duration in nanoseconds. -/
abbrev Duration := Nat

/-- The longest duration that can be written, in nanoseconds. -/
def Duration.maxWritten : Duration := UInt64.size - 1

/-- The duration that is written for `d`. -/
def Duration.written (d : Duration) : Duration :=
  min d maxWritten

/-- Arguments by parameter name, in ascending order of the names. -/
abbrev Workflow.Args := List (String × Json)

/-- What happens when a workflow is started under an id that was used before. -/
inductive ReusePolicy where
  /-- Allowed when the earlier run did not succeed. -/
  | allowDuplicateFailedOnly
  /-- Allowed whenever no run of that id is active. -/
  | allowDuplicate
  | rejectDuplicate
deriving DecidableEq, Repr

namespace ReusePolicy

/-- The number that stands for a policy. -/
def code : ReusePolicy → Int
  | .allowDuplicateFailedOnly => 0
  | .allowDuplicate => 1
  | .rejectDuplicate => 2

/-- The name of a policy. -/
def name : ReusePolicy → String
  | .allowDuplicateFailedOnly => "AllowDuplicateFailedOnly"
  | .allowDuplicate => "AllowDuplicate"
  | .rejectDuplicate => "RejectDuplicate"

/-- The policy with this number, or what is wrong with the number. -/
def ofCode (code : Int) : Except String ReusePolicy :=
  if code = 0 then .ok .allowDuplicateFailedOnly
  else if code = 1 then .ok .allowDuplicate
  else if code = 2 then .ok .rejectDuplicate
  else .error s!"unknown workflow ID reuse policy {Decimal.intText code}"

end ReusePolicy

namespace Workflow

/-- The document of a set of arguments. -/
def Args.json (args : Args) : Json :=
  .obj args

/-- The arguments in a text; the last value of a name counts. -/
def Args.ofText? (text : String) : Option Args :=
  Json.object text

/-- How a workflow is started. -/
structure Options where
  /-- The id of the run; the engine makes one when there is none. -/
  id : Option String := none
  taskList : String := ""
  executionTimeout : Option Duration := none
  decisionTimeout : Option Duration := none
  reuse : ReusePolicy := .allowDuplicateFailedOnly
deriving DecidableEq, Repr

namespace Options

/-- The names of the fields, in order. -/
def keys : List String :=
  ["ID", "TaskList", "ExecutionStartToCloseTimeout", "DecisionTaskStartToCloseTimeout",
   "WorkflowIDReusePolicy"]

/-- A timeout as a number of nanoseconds, cut off at the longest. -/
def timeoutJson : Option Duration → Json
  | some d => .ofNat d.written
  | none => .null

/-- The document of the options.  The id is left out when there is none. -/
def json (o : Options) : Json :=
  let id : List (String × Json) :=
    match o.id with
    | some id => [("ID", .str id)]
    | none => []
  .obj <| id ++
    [("TaskList", .str o.taskList),
     ("ExecutionStartToCloseTimeout", timeoutJson o.executionTimeout),
     ("DecisionTaskStartToCloseTimeout", timeoutJson o.decisionTimeout),
     ("WorkflowIDReusePolicy", .num (.int o.reuse.code))]

/-- An optional text: absent and `null` are none. -/
def optionalText? : Option Json → Option (Option String)
  | none => some none
  | some .null => some none
  | some (.str s) => some (some s)
  | some _ => none

/-- An optional timeout: absent and `null` are none, a number must be a natural
number of 64 bits. -/
def optionalTimeout? : Option Json → Option (Option Duration)
  | none => some none
  | some .null => some none
  | some (.num (.int (.ofNat n))) => some (some n)
  | some _ => none

/-- A text that is empty when absent. -/
def text? : Option Json → Option String
  | none => some ""
  | some (.str s) => some s
  | some _ => none

/-- A policy, the default when absent. -/
def reuse? : Option Json → Option ReusePolicy
  | none => some .allowDuplicateFailedOnly
  | some (.num (.int code)) => (ReusePolicy.ofCode code).toOption
  | some _ => none

/-- The options in a text. -/
def ofText? (text : String) : Option Options :=
  match Json.record keys text with
  | some [id, taskList, execution, decision, reuse] => do
      let id ← optionalText? id
      let taskList ← text? taskList
      let executionTimeout ← optionalTimeout? execution
      let decisionTimeout ← optionalTimeout? decision
      let reuse ← reuse? reuse
      some { id, taskList, executionTimeout, decisionTimeout, reuse }
  | _ => none

end Options

/-- The identity of one run of a workflow. -/
structure Execution where
  id : String
  runId : String
deriving DecidableEq, Repr

namespace Execution

/-- The names of the fields, in order. -/
def keys : List String := ["ID", "RunID"]

/-- The document of an execution. -/
def json (e : Execution) : Json :=
  .obj [("ID", .str e.id), ("RunID", .str e.runId)]

/-- The execution in a text; neither field may be missing. -/
def ofText? (text : String) : Option Execution :=
  match Json.record keys text with
  | some [some (.str id), some (.str runId)] => some { id, runId }
  | _ => none

end Execution

end Workflow

end Parley
