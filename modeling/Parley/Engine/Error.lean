/-
# Engine errors

How the engine reports failure, and how such a report becomes the failure of a
reply.
-/

import Parley.Fault

namespace Parley.Engine

/-- A failure reported by the engine. -/
structure Error where
  kind : FailureKind
  text : String
  details : Option String := none
deriving DecidableEq, Repr

namespace Error

/-- A failure of no particular kind. -/
def generic (text : String) : Error := { kind := .generic, text }

/-- A failure defined by the application. -/
def custom (text : String) : Error := { kind := .custom, text }

/-- The call was cancelled. -/
def cancelled (text : String) : Error := { kind := .cancelled, text }

/-- The call was terminated. -/
def terminated (text : String) : Error := { kind := .terminated, text }

/-- The call took too long. -/
def timeout (text : String) : Error := { kind := .timeout, text }

/-- One line for people. -/
def display (e : Error) : String :=
  s!"{e.kind.name}: {e.text}"

/-- The failure of a reply.  An error without a kind would read as success, so it
is reported as generic. -/
def toFailure (e : Error) : Failure :=
  { kind := if e.kind = .none then .generic else e.kind, text := e.text, details := e.details }

/-- The error that stands for a fault: a remote failure is passed on, any other
fault is told by its wording. -/
def ofFault : Fault → Error
  | .remote f => { kind := f.kind, text := f.text, details := f.details }
  | .cancelled => cancelled Fault.cancelled.message
  | .timeout => timeout Fault.timeout.message
  | fault => generic fault.message

end Error

end Parley.Engine
