/-
# What the engine is called with

The parameters of the engine's operations, and how each travels in the properties
of a message.  Reading stops at the first property that does not fit its type.
-/

import Parley.Message.Fields

namespace Parley.Engine

/-- Parameters of connecting to a cluster. -/
structure Connect where
  endpoints : String := ""
  domain : Option String := none
  identity : Option String := none
deriving DecidableEq, Repr

namespace Connect

/-- The parameters in the properties of a request. -/
def ofBag (b : Bag) : Connect where
  endpoints := (b.text? Key.endpoints).getD ""
  domain := b.text? Key.domain
  identity := b.text? Key.identity

/-- The request with these parameters. -/
def toMessage (p : Connect) : Message :=
  ((Message.request .connect).insert Key.endpoints (some p.endpoints)
    |>.insert Key.domain p.domain
    |>.insert Key.identity p.identity)

end Connect

/-- How many days the closed history of a domain is kept unless told otherwise. -/
def defaultRetentionDays : Int32 := 7

/-- Parameters of registering a domain. -/
structure RegisterDomain where
  name : String := ""
  description : String := ""
  ownerEmail : String := ""
  emitMetrics : Bool := false
  retentionDays : Int32 := defaultRetentionDays
deriving DecidableEq, Repr

namespace RegisterDomain

/-- The parameters in the properties of a request. -/
def ofBag (b : Bag) : Except Fault RegisterDomain := do
  let emitMetrics ← b.getBool Key.emitMetrics
  let retentionDays ← b.getInt32D Key.retentionDays
  return {
    name := (b.text? Key.name).getD ""
    description := (b.text? Key.description).getD ""
    ownerEmail := (b.text? Key.ownerEmail).getD ""
    emitMetrics
    retentionDays }

/-- The request with these parameters. -/
def toMessage (p : RegisterDomain) : Message :=
  { Message.request .registerDomain with
    bag := Bag.empty.insert Key.name (some p.name)
      |>.insert Key.description (some p.description)
      |>.insert Key.ownerEmail (some p.ownerEmail)
      |>.setBool Key.emitMetrics p.emitMetrics
      |>.setInt32 Key.retentionDays p.retentionDays }

end RegisterDomain

/-- Parameters of updating a domain; a text that is not given does not change. -/
structure UpdateDomain where
  name : String := ""
  description : Option String := none
  ownerEmail : Option String := none
  emitMetrics : Bool := false
  retentionDays : Int32 := 0
deriving DecidableEq, Repr

namespace UpdateDomain

/-- The parameters in the properties of a request. -/
def ofBag (b : Bag) : Except Fault UpdateDomain := do
  let emitMetrics ← b.getBool Key.configuredEmitMetrics
  let retentionDays ← b.getInt32D Key.configuredRetentionDays
  return {
    name := (b.text? Key.name).getD ""
    description := b.text? Key.updatedDescription
    ownerEmail := b.text? Key.updatedOwnerEmail
    emitMetrics
    retentionDays }

/-- The request with these parameters. -/
def toMessage (p : UpdateDomain) : Message :=
  { Message.request .updateDomain with
    bag := Bag.empty.insert Key.name (some p.name)
      |>.insert Key.updatedDescription p.description
      |>.insert Key.updatedOwnerEmail p.ownerEmail
      |>.setBool Key.configuredEmitMetrics p.emitMetrics
      |>.setInt32 Key.configuredRetentionDays p.retentionDays }

end UpdateDomain

/-- What the engine tells about a domain. -/
structure DomainDescription where
  name : String := ""
  description : String := ""
  status : DomainStatus := .unspecified
  ownerEmail : String := ""
  emitMetrics : Bool := false
  retentionDays : Int32 := 0
deriving DecidableEq, Repr

namespace DomainDescription

/-- Write a description over the properties of a reply. -/
def writeTo (d : DomainDescription) (b : Bag) : Bag :=
  b.insert Key.domainName (some d.name)
    |>.insert Key.domainDescription (some d.description)
    |>.setStatus Key.domainStatus d.status
    |>.insert Key.domainOwnerEmail (some d.ownerEmail)
    |>.setBool Key.configuredEmitMetrics d.emitMetrics
    |>.setInt32 Key.configuredRetentionDays d.retentionDays

/-- The description in the properties of a reply. -/
def ofBag (b : Bag) : Except Fault DomainDescription := do
  let status ← b.getStatus Key.domainStatus
  let emitMetrics ← b.getBool Key.configuredEmitMetrics
  let retentionDays ← b.getInt32D Key.configuredRetentionDays
  return {
    name := (b.text? Key.domainName).getD ""
    description := (b.text? Key.domainDescription).getD ""
    status
    ownerEmail := (b.text? Key.domainOwnerEmail).getD ""
    emitMetrics
    retentionDays }

end DomainDescription

/-- Parameters of starting a workflow; without a domain that of the connection
counts. -/
structure StartWorkflow where
  domain : Option String := none
  name : String := ""
  args : Workflow.Args := []
  options : Workflow.Options := {}

namespace StartWorkflow

/-- The parameters in the properties of a request. -/
def ofBag (b : Bag) : Except Fault StartWorkflow := do
  let args ← b.getArgs Key.args
  let options ← b.getOptions Key.options
  return {
    domain := b.text? Key.domain
    name := (b.text? Key.name).getD ""
    args := args.getD []
    options := options.getD {} }

/-- The request with these parameters. -/
def toMessage (p : StartWorkflow) : Message :=
  { Message.request .executeWorkflow with
    bag := Bag.empty.insert Key.domain p.domain
      |>.insert Key.name (some p.name)
      |>.setJson Key.args (some p.args.json)
      |>.setJson Key.options (some p.options.json) }

end StartWorkflow

end Parley.Engine
