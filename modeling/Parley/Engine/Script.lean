/-
# A scripted engine

An engine that answers as it was told beforehand: for each operation there is a
list of outcomes, and each call takes the next.  It remembers how it was called.
-/

import Parley.Engine.Call
import Parley.Schedule

namespace Parley.Engine

/-- How a call goes. -/
inductive Outcome where
  /-- It succeeds in the usual way. -/
  | usual
  | ok (value : Value)
  | error (e : Error)
  /-- It is torn down by a panic with this text. -/
  | panic (text : String)
  /-- It never returns. -/
  | never
  /-- It goes on after some time. -/
  | after (span : Millis) (next : Outcome)

/-- What a call that is not told otherwise gives back. -/
def Call.usualValue : Call → Value
  | .describeDomain name => .description { name }
  | .executeWorkflow params =>
      .execution { id := params.options.id.getD "generated", runId := "run-1" }
  | _ => .unit

/-- The text of a panic that carries no text. -/
def silentPanic : String := "engine call panicked"

/-- A scripted engine. -/
structure Script where
  outcomes : List (Operation × List Outcome) := []
  /-- The calls, the first one first. -/
  calls : List Call := []

namespace Script

/-- Take the first outcome for an operation off the lists. -/
def takeOutcome (op : Operation) :
    List (Operation × List Outcome) → Outcome × List (Operation × List Outcome)
  | [] => (.usual, [])
  | (other, list) :: rest =>
      if other = op then
        match list with
        | [] => (.usual, (other, list) :: rest)
        | outcome :: list => (outcome, (other, list) :: rest)
      else
        let (outcome, rest) := takeOutcome op rest
        (outcome, (other, list) :: rest)

/-- Start a call. -/
def start (s : Script) (call : Call) : Outcome × Script :=
  let (outcome, outcomes) := takeOutcome call.operation s.outcomes
  (outcome, { outcomes, calls := s.calls ++ [call] })

end Script

end Parley.Engine
