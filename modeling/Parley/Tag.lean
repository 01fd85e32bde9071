/-
# Message tags

A tag is the wire name of a message's schema.  Codes are grouped by family:
requests to the proxy itself from 1, domains from 100, workflows from 200.  The
code of a reply follows the code of its request.
-/

namespace Parley

/-- The exchanges that the protocol knows; each is a request with its reply. -/
inductive Operation where
  /-- The library announces where it can be reached. -/
  | greet
  /-- Connect to the engine's cluster. -/
  | connect
  /-- Shut down once this is answered. -/
  | terminate
  /-- Sign of life. -/
  | heartbeat
  /-- Abort another request that is still running. -/
  | cancel
  | registerDomain
  | describeDomain
  | updateDomain
  | registerWorkflow
  | executeWorkflow
deriving DecidableEq, Repr

/-- The exchanges in the order in which they are registered. -/
def Operation.all : List Operation :=
  [.greet, .connect, .terminate, .heartbeat, .cancel, .registerDomain, .describeDomain,
   .updateDomain, .registerWorkflow, .executeWorkflow]

/-- The tag of a message. -/
inductive Tag where
  /-- No schema: the tag of an envelope that was not specialised. -/
  | unspecified
  | request (op : Operation)
  | reply (op : Operation)
deriving DecidableEq, Repr

namespace Tag

/-- Every tag, in ascending order of the codes. -/
def all : List Tag :=
  .unspecified :: Operation.all.flatMap fun op => [.request op, .reply op]

/-- The code of a request; the code of its reply is the next one. -/
def requestCode : Operation → Nat
  | .greet => 1
  | .connect => 3
  | .terminate => 5
  | .heartbeat => 7
  | .cancel => 9
  | .registerDomain => 100
  | .describeDomain => 102
  | .updateDomain => 104
  | .registerWorkflow => 200
  | .executeWorkflow => 202

/-- The number that stands for a tag in a frame. -/
def code : Tag → Nat
  | .unspecified => 0
  | .request op => requestCode op
  | .reply op => requestCode op + 1

/-- The tag with this code. -/
def ofCode? (code : Nat) : Option Tag :=
  all.find? fun tag => tag.code == code

/-- What an exchange is called in the names of its two tags. -/
def operationName : Operation → String
  | .greet => "Initialize"
  | .connect => "Connect"
  | .terminate => "Terminate"
  | .heartbeat => "Heartbeat"
  | .cancel => "Cancel"
  | .registerDomain => "DomainRegister"
  | .describeDomain => "DomainDescribe"
  | .updateDomain => "DomainUpdate"
  | .registerWorkflow => "WorkflowRegister"
  | .executeWorkflow => "WorkflowExecute"

/-- The symbolic name of a tag. -/
def name : Tag → String
  | .unspecified => "Unspecified"
  | .request op => operationName op ++ "Request"
  | .reply op => operationName op ++ "Reply"

/-- The tag with this name. -/
def ofName? (name : String) : Option Tag :=
  all.find? fun tag => tag.name == name

/-- Every tag is found under its own code. -/
@[simp] theorem ofCode?_code (tag : Tag) : ofCode? tag.code = some tag := by
  cases tag with
  | unspecified => rfl
  | request op => cases op <;> rfl
  | reply op => cases op <;> rfl

/-- A code leads only to the tag that bears it. -/
theorem code_of_ofCode? {code : Nat} {tag : Tag} (h : ofCode? code = some tag) :
    tag.code = code := by
  have := List.find?_some h
  simpa using this

/-- Codes tell tags apart. -/
theorem code_injective {a b : Tag} (h : a.code = b.code) : a = b := by
  have hb := ofCode?_code b
  rw [← h, ofCode?_code] at hb
  exact Option.some.inj hb

end Tag

instance : Inhabited Tag := ⟨.unspecified⟩

end Parley
