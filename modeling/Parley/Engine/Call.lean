/-
# Calls of the engine

The request that reaches the engine is a call: one of six operations with its
parameters, read off the properties of a message.  What the engine gives back is
written into the reply.
-/

import Parley.Engine.Error
import Parley.Engine.Params

namespace Parley.Engine

/-- A call of the engine. -/
inductive Call where
  | connect (params : Connect)
  | registerDomain (params : RegisterDomain)
  | describeDomain (name : String)
  | updateDomain (params : UpdateDomain)
  | registerWorkflow (name : String)
  | executeWorkflow (params : StartWorkflow)

/-- What a call that succeeds gives back. -/
inductive Value where
  | unit
  | description (d : DomainDescription)
  | execution (e : Workflow.Execution)
deriving DecidableEq, Repr

namespace Call

/-- The operation of a call. -/
def operation : Call → Operation
  | .connect _ => .connect
  | .registerDomain _ => .registerDomain
  | .describeDomain _ => .describeDomain
  | .updateDomain _ => .updateDomain
  | .registerWorkflow _ => .registerWorkflow
  | .executeWorkflow _ => .executeWorkflow

/-- The call of an operation with the parameters in a bag; nothing for an operation
that does not concern the engine. -/
def ofBag? (op : Operation) (b : Bag) : Option (Except Fault Call) :=
  match op with
  | .connect => some (.ok (.connect (Connect.ofBag b)))
  | .registerDomain => some ((RegisterDomain.ofBag b).map .registerDomain)
  | .describeDomain => some (.ok (.describeDomain ((b.text? Key.name).getD "")))
  | .updateDomain => some ((UpdateDomain.ofBag b).map .updateDomain)
  | .registerWorkflow => some (.ok (.registerWorkflow ((b.text? Key.name).getD "")))
  | .executeWorkflow => some ((StartWorkflow.ofBag b).map .executeWorkflow)
  | _ => none

/-- The error of a request that is none of the engine's operations. -/
def unsupported (tag : Tag) : Error :=
  .generic s!"unsupported request {tag.name}"

/-- The call that a request asks for.  The tag names the operation; the class must be
the one of that tag. -/
def ofRequest (request : Message) : Except Error Call :=
  match request.tag with
  | .request op =>
      match ofBag? op request.bag with
      | some call =>
          ((request.downcast (.request op)).bind fun _ => call).mapError Error.ofFault
      | none => .error (unsupported request.tag)
  | tag => .error (unsupported tag)

/-- Write what a call gave back into the reply.  A reply of another class has no
place for it. -/
def answer (call : Call) (value : Value) (reply : Message) : Except Error Message :=
  match call, value with
  | .describeDomain _, .description d =>
      ((reply.downcast (.reply .describeDomain)).map fun reply =>
        { reply with bag := d.writeTo reply.bag }).mapError Error.ofFault
  | .executeWorkflow params, .execution e =>
      ((reply.downcast (.reply .executeWorkflow)).map fun reply =>
        { reply with
          bag := (reply.bag.setJson Key.execution (some e.json)).setDuration
            Key.decisionTimeout (params.options.decisionTimeout.getD 0) }).mapError Error.ofFault
  | _, _ => .ok reply

end Call

end Parley.Engine
