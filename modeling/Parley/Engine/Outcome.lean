/-
# What the outcomes of the engine come to

The outcome of a call decides two things.  On the serving side it decides how the task of
the call ends; on the client side it decides what the call gives back.  Both are stated
here from the outcome alone, so that the way between them can be left out of account.
-/

import Parley.Client
import Parley.Dispatcher
import Parley.Engine.Script

namespace Parley.Engine

/-- Whether a value is of the kind that an operation gives back. -/
def Value.suits : Operation → Value → Bool
  | .describeDomain, .description _ => true
  | .describeDomain, _ => false
  | .executeWorkflow, .execution _ => true
  | .executeWorkflow, _ => false
  | _, .unit => true
  | _, _ => false

/-- What a client's call gives back when the engine's call gives back this value. -/
def Value.answer : Value → Client.Answer
  | .unit => .unit
  | .description d => .description d
  | .execution e => .execution e

namespace Outcome

/-- Whether an outcome gives back a value of the right kind, if it gives one back. -/
def suits (op : Operation) : Outcome → Bool
  | .ok value => value.suits op
  | .after _ next => next.suits op
  | _ => true

/-- How the task of a call with this outcome ends; nothing when it never ends. -/
def ending? (call : Call) (blank : Message) : Outcome → Option Ending
  | .usual => some (.returned (call.answer call.usualValue blank))
  | .ok value => some (.returned (call.answer value blank))
  | .error reported => some (.returned (.error reported))
  | .panic text => some (.panicked text)
  | .never => none
  | .after _ next => next.ending? call blank

/-- What a client's call gives back whose engine call has this outcome; nothing when it
never gives anything back. -/
def result? (call : Call) : Outcome → Option (Except Fault Client.Answer)
  | .usual => some (.ok call.usualValue.answer)
  | .ok value => some (.ok value.answer)
  | .error reported => some (.error (.remote reported.toFailure))
  | .panic text => some (.error (.remote { kind := .panic, text }))
  | .never => none
  | .after _ next => next.result? call

/-- How many steps an outcome takes, at most. -/
def length : Outcome → Nat
  | .after _ next => next.length + 2
  | _ => 1

end Outcome

namespace Script

/-- The engine after it has started some calls. -/
def startAll (s : Script) (calls : List Call) : Script :=
  calls.foldl (fun s call => (s.start call).2) s

/-- The outcomes of some calls, started one after the other. -/
def outcomesOf (s : Script) : List Call → List Outcome
  | [] => []
  | call :: calls => (s.start call).1 :: (s.start call).2.outcomesOf calls

/-- Whether every outcome suits its operation. -/
def Suitable (s : Script) : Prop :=
  ∀ op list, (op, list) ∈ s.outcomes → ∀ outcome ∈ list, outcome.suits op = true

end Script

end Parley.Engine
