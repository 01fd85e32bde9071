/-
# Typed fields

Each concrete class of message gives names and types to some of its properties.
The names of the properties are stated once, here, and a schema lists the fields
of every class.
-/

import Parley.Domain
import Parley.Message.Basic

namespace Parley

namespace Key

def libraryAddress : String := "LibraryAddress"
def libraryPort : String := "LibraryPort"
def endpoints : String := "Endpoints"
def domain : String := "Domain"
def identity : String := "Identity"
def targetRequestId : String := "TargetRequestId"
def wasCancelled : String := "WasCancelled"
def name : String := "Name"
def description : String := "Description"
def ownerEmail : String := "OwnerEmail"
def emitMetrics : String := "EmitMetrics"
def retentionDays : String := "RetentionDays"
def domainName : String := "DomainInfoName"
def domainDescription : String := "DomainInfoDescription"
def domainStatus : String := "DomainInfoStatus"
def domainOwnerEmail : String := "DomainInfoOwnerEmail"
def updatedDescription : String := "UpdatedInfoDescription"
def updatedOwnerEmail : String := "UpdatedInfoOwnerEmail"
def configuredEmitMetrics : String := "ConfigurationEmitMetrics"
def configuredRetentionDays : String := "ConfigurationRetentionDays"
def args : String := "Args"
def options : String := "Options"
def execution : String := "Execution"
def decisionTimeout : String := "DecisionTimeout"

end Key

namespace Bag

/-- A 32-bit integer that is zero when there is none. -/
def getInt32D (b : Bag) (key : String) : Except Fault Int32 :=
  (b.getInt32 key).map fun value => value.getD 0

/-- A 64-bit integer that is zero when there is none. -/
def getInt64D (b : Bag) (key : String) : Except Fault Int64 :=
  (b.getInt64 key).map fun value => value.getD 0

/-- A duration that is zero when there is none. -/
def getDurationD (b : Bag) (key : String) : Except Fault Duration :=
  (b.getDuration key).map fun value => value.getD 0

/-- The status of a domain, unspecified when there is none. -/
def getStatus (b : Bag) (key : String) : Except Fault DomainStatus :=
  (b.getWith key "DomainStatus" DomainStatus.ofWire?).map fun value => value.getD .unspecified

/-- Write the status of a domain; the unspecified one leaves no property. -/
def setStatus (b : Bag) (key : String) (status : DomainStatus) : Bag :=
  match status.wire? with
  | some text => b.insert key (some text)
  | none => b.erase key

end Bag

/-- The types of fields. -/
inductive FieldType where
  | text
  | int32
  | int64
  | bool
  | duration
  | status
  | args
  | options
  | execution
deriving DecidableEq, Repr

/-- A value of a field. -/
inductive FieldValue where
  | text (value : Option String)
  | int32 (value : Int32)
  | int64 (value : Int64)
  | bool (value : Bool)
  | duration (value : Duration)
  | status (value : DomainStatus)
  | args (value : Option Workflow.Args)
  | options (value : Option Workflow.Options)
  | execution (value : Option Workflow.Execution)

/-- A field: what it is called, the property that holds it and its type. -/
structure Field where
  name : String
  key : String
  type : FieldType
deriving DecidableEq, Repr

namespace Field

/-- Read a field. -/
def get (f : Field) (b : Bag) : Except Fault FieldValue :=
  match f.type with
  | .text => .ok (.text (b.text? f.key))
  | .int32 => (b.getInt32D f.key).map .int32
  | .int64 => (b.getInt64D f.key).map .int64
  | .bool => (b.getBool f.key).map .bool
  | .duration => (b.getDurationD f.key).map .duration
  | .status => (b.getStatus f.key).map .status
  | .args => (b.getArgs f.key).map .args
  | .options => (b.getOptions f.key).map .options
  | .execution => (b.getExecution f.key).map .execution

/-- Write a value under the property of a field, in the way of the value's type. -/
def set (f : Field) (b : Bag) : FieldValue → Bag
  | .text value => b.insert f.key value
  | .int32 value => b.setInt32 f.key value
  | .int64 value => b.setInt64 f.key value
  | .bool value => b.setBool f.key value
  | .duration value => b.setDuration f.key value
  | .status value => b.setStatus f.key value
  | .args value => b.setJson f.key (value.map Workflow.Args.json)
  | .options value => b.setJson f.key (value.map Workflow.Options.json)
  | .execution value => b.setJson f.key (value.map Workflow.Execution.json)

end Field

/-- The fields of a class. -/
def MessageClass.fields : MessageClass → List Field
  | .request .greet =>
      [⟨"library_address", Key.libraryAddress, .text⟩, ⟨"library_port", Key.libraryPort, .int32⟩]
  | .request .connect =>
      [⟨"endpoints", Key.endpoints, .text⟩, ⟨"domain", Key.domain, .text⟩,
       ⟨"identity", Key.identity, .text⟩]
  | .request .cancel => [⟨"target_request_id", Key.targetRequestId, .int64⟩]
  | .reply .cancel => [⟨"was_cancelled", Key.wasCancelled, .bool⟩]
  | .request .registerDomain =>
      [⟨"name", Key.name, .text⟩, ⟨"description", Key.description, .text⟩,
       ⟨"owner_email", Key.ownerEmail, .text⟩, ⟨"emit_metrics", Key.emitMetrics, .bool⟩,
       ⟨"retention_days", Key.retentionDays, .int32⟩]
  | .request .describeDomain => [⟨"name", Key.name, .text⟩]
  | .reply .describeDomain =>
      [⟨"domain_info_name", Key.domainName, .text⟩,
       ⟨"domain_info_description", Key.domainDescription, .text⟩,
       ⟨"domain_info_status", Key.domainStatus, .status⟩,
       ⟨"domain_info_owner_email", Key.domainOwnerEmail, .text⟩,
       ⟨"configuration_emit_metrics", Key.configuredEmitMetrics, .bool⟩,
       ⟨"configuration_retention_days", Key.configuredRetentionDays, .int32⟩]
  | .request .updateDomain =>
      [⟨"name", Key.name, .text⟩,
       ⟨"updated_info_description", Key.updatedDescription, .text⟩,
       ⟨"updated_info_owner_email", Key.updatedOwnerEmail, .text⟩,
       ⟨"configuration_emit_metrics", Key.configuredEmitMetrics, .bool⟩,
       ⟨"configuration_retention_days", Key.configuredRetentionDays, .int32⟩]
  | .request .registerWorkflow => [⟨"name", Key.name, .text⟩]
  | .request .executeWorkflow =>
      [⟨"domain", Key.domain, .text⟩, ⟨"name", Key.name, .text⟩, ⟨"args", Key.args, .args⟩,
       ⟨"options", Key.options, .options⟩]
  | .reply .executeWorkflow =>
      [⟨"execution", Key.execution, .execution⟩,
       ⟨"decision_timeout", Key.decisionTimeout, .duration⟩]
  | _ => []

/-- The field of a class with this name. -/
def MessageClass.field? (c : MessageClass) (name : String) : Option Field :=
  c.fields.find? fun f => f.name == name

end Parley
