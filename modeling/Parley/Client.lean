/-
# Calls of a client

What a client may ask of the other side: each call is a request, the class of the
reply that answers it, and what is read off that reply.  A reply that carries a
failure is no answer.
-/

import Parley.Engine.Call

namespace Parley

/-- The request that carries a call of the engine. -/
def Engine.Call.request : Engine.Call → Message
  | .connect params => params.toMessage
  | .registerDomain params => params.toMessage
  | .describeDomain name => (Message.request .describeDomain).insert Key.name (some name)
  | .updateDomain params => params.toMessage
  | .registerWorkflow name => (Message.request .registerWorkflow).insert Key.name (some name)
  | .executeWorkflow params => params.toMessage

namespace Client

/-- A call. -/
inductive Call where
  /-- Announce where the library can be reached. -/
  | greet (address : String) (port : Int32)
  | heartbeat
  | terminate
  /-- Abort the request with this id. -/
  | cancel (target : Int64)
  | engine (call : Engine.Call)
  /-- Send any request and require a class of the reply. -/
  | exchange (request : Message) (expected : MessageClass)

/-- What a call gives back. -/
inductive Answer where
  | unit
  | flag (value : Bool)
  | description (d : Engine.DomainDescription)
  | execution (e : Workflow.Execution)
  | reply (m : Message)
deriving DecidableEq

namespace Call

/-- The request of a call. -/
def request : Call → Message
  | .greet address port =>
      let m := (Message.request .greet).insert Key.libraryAddress (some address)
      { m with bag := m.bag.setInt32 Key.libraryPort port }
  | .heartbeat => .request .heartbeat
  | .terminate => .request .terminate
  | .cancel target =>
      { Message.request .cancel with bag := Bag.empty.setInt64 Key.targetRequestId target }
  | .engine call => call.request
  | .exchange request _ => request

/-- The class of the reply to a call. -/
def replyClass : Call → MessageClass
  | .greet .. => .reply .greet
  | .heartbeat => .reply .heartbeat
  | .terminate => .reply .terminate
  | .cancel _ => .reply .cancel
  | .engine call => .reply call.operation
  | .exchange _ expected => expected

/-- The fault of a reply that should name a run and does not. -/
def noExecution : Fault :=
  .malformed "workflow execute reply without an execution"

/-- What is read off a reply without failure. -/
def read (call : Call) (reply : Message) : Except Fault Answer :=
  match call with
  | .cancel _ => (reply.bag.getBool Key.wasCancelled).map .flag
  | .engine (.describeDomain _) => (Engine.DomainDescription.ofBag reply.bag).map .description
  | .engine (.executeWorkflow _) => do
      match ← reply.bag.getExecution Key.execution with
      | some execution => return .execution execution
      | none => .error noExecution
  | .exchange .. => .ok (.reply reply)
  | _ => .ok .unit

/-- The answer to a call, from the outcome of its request. -/
def answer (call : Call) (verdict : Except Fault Message) : Except Fault Answer := do
  let reply ← (← verdict).downcast call.replyClass
  reply.check
  call.read reply

end Call

end Client

end Parley
