/-
# Calls of the engine read back

The request of a call, with any request id written into it, asks the engine for this very
call; and what a client reads off the reply to its call is what the engine's call came to.
Numbers and texts always travel unharmed.  Arguments and options travel as documents,
which read back when they are plain and no timeout is longer than can be written.
-/

import Parley.Client
import Parley.Dispatcher
import Parley.Proofs.Engine.Params
import Parley.Proofs.Failure

namespace Parley.Engine

/-! ### Requests -/

/-- The parameters of a call can be written so that they read back. -/
def Call.Portable : Call → Prop
  | .executeWorkflow params =>
      Json.plain Json.maxDepth (.obj params.args) = true ∧ params.options.Writable
  | _ => True

/-- The request of a call, whatever its id, asks for this call with these parameters. -/
theorem Call.ofRequest_request {call : Call} (h : call.Portable) (id : Int64) :
    ofRequest (call.request.setRequestId id) = .ok call := by
  cases call with
  | connect params =>
    have hbag : Connect.ofBag (params.toMessage.setRequestId id).bag = params := by
      rw [Message.setRequestId, Connect.ofBag_setInt64, Connect.ofBag_toMessage]
    exact congrArg (fun p => Except.ok (Call.connect p)) hbag
  | registerDomain params =>
    have hbag : RegisterDomain.ofBag (params.toMessage.setRequestId id).bag = .ok params := by
      rw [Message.setRequestId, RegisterDomain.ofBag_setInt64, RegisterDomain.ofBag_toMessage]
    exact congrArg (fun p => (p.map Call.registerDomain).mapError Error.ofFault) hbag
  | describeDomain name =>
    have hname : ((Call.describeDomain name).request.setRequestId id).bag.text? Key.name =
        some name := by
      simp [request, Message.setRequestId, Message.insert, Key.name, Bag.requestIdKey]
    exact congrArg (fun text => Except.ok (Call.describeDomain (text.getD ""))) hname
  | updateDomain params =>
    have hbag : UpdateDomain.ofBag (params.toMessage.setRequestId id).bag = .ok params := by
      rw [Message.setRequestId, UpdateDomain.ofBag_setInt64, UpdateDomain.ofBag_toMessage]
    exact congrArg (fun p => (p.map Call.updateDomain).mapError Error.ofFault) hbag
  | registerWorkflow name =>
    have hname : ((Call.registerWorkflow name).request.setRequestId id).bag.text? Key.name =
        some name := by
      simp [request, Message.setRequestId, Message.insert, Key.name, Bag.requestIdKey]
    exact congrArg (fun text => Except.ok (Call.registerWorkflow (text.getD ""))) hname
  | executeWorkflow params =>
    have hbag : StartWorkflow.ofBag (params.toMessage.setRequestId id).bag = .ok params := by
      rw [Message.setRequestId, StartWorkflow.ofBag_setInt64,
        StartWorkflow.ofBag_toMessage (.refl params.args) h.1, h.2.written_eq]
    exact congrArg (fun p => (p.map Call.executeWorkflow).mapError Error.ofFault) hbag

end Parley.Engine
