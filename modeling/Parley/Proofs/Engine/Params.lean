/-
# Parameters read back

The parameters of a call are written into the properties of its request, and what is read
from these properties are the same parameters (`params_readBack`).  A text that is empty
and one that is not given stay apart, and so does every 32-bit integer.  A timeout comes back
cut off at the longest that can be written.

The arguments of a workflow are kept by name, and their text may list them in any order, as
that of a hash map does.  They come back when they are plain: no fractions, and nested no
deeper than the reader goes.

A description of a domain is written over whatever a reply held before, and concerns the six
properties of the description alone.
-/

import Parley.Engine.Params
import Parley.Proofs.Json.Document
import Parley.Proofs.Typed

namespace Parley

namespace Workflow

/-! ### Options and executions -/

namespace Options

/-- The timeouts can be written. -/
structure Writable (o : Options) : Prop where
  execution : ∀ d, o.executionTimeout = some d → d ≤ Duration.maxWritten
  decision : ∀ d, o.decisionTimeout = some d → d ≤ Duration.maxWritten

/-- The options that are written for `o`: their timeouts are cut off at the longest. -/
def written (o : Options) : Options :=
  { o with
    executionTimeout := o.executionTimeout.map Duration.written
    decisionTimeout := o.decisionTimeout.map Duration.written }

/-- A timeout that can be written is written as it is. -/
theorem map_written {timeout : Option Duration}
    (h : ∀ d, timeout = some d → d ≤ Duration.maxWritten) :
    timeout.map Duration.written = timeout := by
  cases timeout with
  | none => rfl
  | some d => exact congrArg some (Nat.min_eq_left (h d rfl))

/-- Timeouts that can be written are written as they are. -/
theorem Writable.written_eq {o : Options} (h : o.Writable) : o.written = o := by
  rw [written, map_written h.execution, map_written h.decision]

/-- A timeout is read back as it is written. -/
theorem optionalTimeout?_timeoutJson (timeout : Option Duration) :
    optionalTimeout? (some (timeoutJson timeout)) = some (timeout.map Duration.written) := by
  cases timeout <;> rfl

/-- The document of a timeout is plain. -/
theorem plain_timeoutJson (depth : Nat) (timeout : Option Duration) :
    Json.plain depth (timeoutJson timeout) = true := by
  cases timeout with
  | none => simp [timeoutJson, Json.plain]
  | some d =>
    have hle : d.written ≤ UInt64.size - 1 := Nat.min_le_right d Duration.maxWritten
    have hmax : (d.written : Int) ≤ Json.maxInt := by
      simp only [Json.maxInt, UInt64.size] at *
      exact Int.ofNat_le.2 hle
    have hmin : Json.minInt ≤ (d.written : Int) :=
      Int.le_trans (b := 0) (by decide) (Int.natCast_nonneg _)
    simp [timeoutJson, Json.ofNat, Json.plain, hmin, hmax]

/-- The document of a policy is plain. -/
theorem plain_reuse (depth : Nat) (reuse : ReusePolicy) :
    Json.plain depth (.num (.int reuse.code)) = true := by
  cases reuse <;> simp only [Json.plain] <;> decide

/-- A policy is read back by its code. -/
theorem reuse?_code (reuse : ReusePolicy) :
    reuse? (some (.num (.int reuse.code))) = some reuse := by
  cases reuse <;> rfl

/-- The fields in the text of the options; there is one for the id only when there is an id. -/
def fields (o : Options) : List (String × Json) :=
  (o.id.map fun id => ("ID", Json.str id)).toList ++
    [("TaskList", .str o.taskList),
     ("ExecutionStartToCloseTimeout", timeoutJson o.executionTimeout),
     ("DecisionTaskStartToCloseTimeout", timeoutJson o.decisionTimeout),
     ("WorkflowIDReusePolicy", .num (.int o.reuse.code))]

/-- The document of options is the object of their fields. -/
theorem json_eq (o : Options) : o.json = .obj o.fields := by
  cases hid : o.id <;> simp [json, fields, hid]

/-- Every field of the options is one that is read, and plain. -/
theorem plain_of_mem_fields {o : Options} {field : String × Json} (h : field ∈ o.fields)
    (depth : Nat) : keys.contains field.1 = true ∧ Json.plain depth field.2 = true := by
  rcases List.mem_append.1 h with hid | hfixed
  · obtain ⟨id, -, rfl⟩ := Option.map_eq_some_iff.1 (Option.mem_toList.1 hid)
    exact ⟨rfl, by simp [Json.plain]⟩
  · simp only [List.mem_cons, List.not_mem_nil, or_false] at hfixed
    rcases hfixed with rfl | rfl | rfl | rfl
    · exact ⟨rfl, by simp [Json.plain]⟩
    · exact ⟨rfl, plain_timeoutJson depth _⟩
    · exact ⟨rfl, plain_timeoutJson depth _⟩
    · exact ⟨rfl, plain_reuse depth _⟩

/-- Options read back from their text as they were written. -/
theorem ofText?_json (o : Options) : ofText? o.json.text = some o.written := by
  have hrecord : Json.record keys o.json.text =
      some [o.id.map .str, some (.str o.taskList), some (timeoutJson o.executionTimeout),
        some (timeoutJson o.decisionTimeout), some (.num (.int o.reuse.code))] := by
    rw [json_eq, Json.record_text (fun field hfield => (plain_of_mem_fields hfield 0).1)
      fun field hfield => (plain_of_mem_fields hfield _).2, fields]
    cases o.id <;> rfl
  have hid : optionalText? (o.id.map .str) = some o.id := by cases o.id <;> rfl
  rw [ofText?, hrecord]
  simp only [hid, text?, optionalTimeout?_timeoutJson, reuse?_code, Option.bind_eq_bind,
    Option.bind_some]
  rfl

end Options

/-- An execution reads back from its text. -/
theorem Execution.ofText?_json (e : Execution) : ofText? e.json.text = some e := by
  have hrecord : Json.record keys e.json.text =
      some [some (.str e.id), some (.str e.runId)] := by
    rw [json, Json.record_text]
    · rfl
    · intro field hfield
      simp only [List.mem_cons, List.not_mem_nil, or_false] at hfield
      rcases hfield with rfl | rfl <;> rfl
    · intro field hfield
      simp only [List.mem_cons, List.not_mem_nil, or_false] at hfield
      rcases hfield with rfl | rfl <;> simp [Json.plain]
  rw [ofText?, hrecord]

/-- Arguments read back from their text, in whatever order it lists them. -/
theorem Args.ofText?_json {listed args : Args} (hperm : listed.Perm args)
    (h : Json.plain Json.maxDepth (.obj args) = true) :
    ofText? (Args.json listed).text = some args :=
  Json.object_text hperm h

end Workflow

namespace Bag

variable {b : Bag} {key : String}

/-- Arguments are read back whatever the order in which they are listed. -/
theorem getArgs_of_text? {listed args : Workflow.Args} (hperm : listed.Perm args)
    (hplain : Json.plain Json.maxDepth (.obj args) = true)
    (h : b.text? key = some (Workflow.Args.json listed).text) : b.getArgs key = .ok (some args) :=
  getWith_of_text? h (Workflow.Args.ofText?_json hperm hplain)

/-- Options are read back as they are written. -/
theorem getOptions_of_text? {options : Workflow.Options}
    (h : b.text? key = some options.json.text) :
    b.getOptions key = .ok (some options.written) :=
  getWith_of_text? h (Workflow.Options.ofText?_json options)

/-- An execution is read back. -/
theorem getExecution_of_text? {execution : Workflow.Execution}
    (h : b.text? key = some execution.json.text) :
    b.getExecution key = .ok (some execution) :=
  getWith_of_text? h (Workflow.Execution.ofText?_json execution)

end Bag

namespace Engine

/-! ### Requests -/

namespace Connect

/-- A connection reads back what its message says. -/
theorem ofBag_toMessage (p : Connect) : ofBag p.toMessage.bag = p := by
  simp [ofBag, toMessage, Message.insert, Key.endpoints, Key.domain, Key.identity]

/-- A request id is no parameter. -/
theorem ofBag_setInt64 (b : Bag) (id : Int64) :
    ofBag (b.setInt64 Bag.requestIdKey id) = ofBag b := by
  simp [ofBag, Bag.requestIdKey, Key.endpoints, Key.domain, Key.identity]

end Connect

namespace RegisterDomain

/-- A registration reads back what its message says. -/
theorem ofBag_toMessage (p : RegisterDomain) : ofBag p.toMessage.bag = .ok p := by
  have hmetrics : p.toMessage.bag.getBool Key.emitMetrics = .ok p.emitMetrics :=
    Bag.getBool_of_text? (by simp [toMessage, Key.emitMetrics, Key.retentionDays])
  have hdays : p.toMessage.bag.getInt32D Key.retentionDays = .ok p.retentionDays :=
    Bag.getInt32D_of_text? (by simp [toMessage])
  simp only [ofBag, hmetrics, hdays, ok_bind]
  simp [toMessage, Key.name, Key.description, Key.ownerEmail, Key.emitMetrics,
    Key.retentionDays]
  rfl

/-- A request id is no parameter. -/
theorem ofBag_setInt64 (b : Bag) (id : Int64) :
    ofBag (b.setInt64 Bag.requestIdKey id) = ofBag b := by
  simp [ofBag, Bag.getBool, Bag.getInt32D, Bag.getInt32, Bag.getWith, Bag.requestIdKey, Key.name,
    Key.description, Key.ownerEmail, Key.emitMetrics, Key.retentionDays]

end RegisterDomain

namespace UpdateDomain

/-- An update reads back what its message says. -/
theorem ofBag_toMessage (p : UpdateDomain) : ofBag p.toMessage.bag = .ok p := by
  have hmetrics : p.toMessage.bag.getBool Key.configuredEmitMetrics = .ok p.emitMetrics :=
    Bag.getBool_of_text? (by
      simp [toMessage, Key.configuredEmitMetrics, Key.configuredRetentionDays])
  have hdays : p.toMessage.bag.getInt32D Key.configuredRetentionDays = .ok p.retentionDays :=
    Bag.getInt32D_of_text? (by simp [toMessage])
  simp only [ofBag, hmetrics, hdays, ok_bind]
  simp [toMessage, Key.name, Key.updatedDescription, Key.updatedOwnerEmail,
    Key.configuredEmitMetrics, Key.configuredRetentionDays]
  rfl

/-- A request id is no parameter. -/
theorem ofBag_setInt64 (b : Bag) (id : Int64) :
    ofBag (b.setInt64 Bag.requestIdKey id) = ofBag b := by
  simp [ofBag, Bag.getBool, Bag.getInt32D, Bag.getInt32, Bag.getWith, Bag.requestIdKey, Key.name,
    Key.updatedDescription, Key.updatedOwnerEmail, Key.configuredEmitMetrics,
    Key.configuredRetentionDays]

end UpdateDomain

namespace StartWorkflow

/-- The parameters of a workflow come back, its timeouts as they were written, in whatever
order the arguments are listed. -/
theorem ofBag_toMessage {p : StartWorkflow} {listed : Workflow.Args}
    (hperm : listed.Perm p.args) (hplain : Json.plain Json.maxDepth (.obj p.args) = true) :
    ofBag (toMessage { p with args := listed }).bag =
      .ok { p with options := p.options.written } := by
  have hargs : (toMessage { p with args := listed }).bag.getArgs Key.args = .ok (some p.args) :=
    Bag.getArgs_of_text? hperm hplain (by simp [toMessage, Key.args, Key.options])
  have hoptions : (toMessage { p with args := listed }).bag.getOptions Key.options =
      .ok (some p.options.written) :=
    Bag.getOptions_of_text? (by simp [toMessage])
  simp only [ofBag, hargs, hoptions, ok_bind]
  simp [toMessage, Key.domain, Key.name, Key.args, Key.options]
  rfl

/-- A request id is no parameter. -/
theorem ofBag_setInt64 (b : Bag) (id : Int64) :
    ofBag (b.setInt64 Bag.requestIdKey id) = ofBag b := by
  simp [ofBag, Bag.getArgs, Bag.getOptions, Bag.getWith, Bag.requestIdKey, Key.domain, Key.name,
    Key.args, Key.options]

end StartWorkflow

/-! ### The description of a domain -/

namespace DomainDescription

/-- A description comes back from a reply that it was written into, whatever the reply held
before. -/
theorem ofBag_writeTo (d : DomainDescription) (b : Bag) : ofBag (d.writeTo b) = .ok d := by
  have hstatus : (d.writeTo b).getStatus Key.domainStatus = .ok d.status :=
    Bag.getStatus_of_text? (by
      simp [writeTo, Key.domainStatus, Key.domainOwnerEmail, Key.configuredEmitMetrics,
        Key.configuredRetentionDays])
  have hmetrics : (d.writeTo b).getBool Key.configuredEmitMetrics = .ok d.emitMetrics :=
    Bag.getBool_of_text? (by
      simp [writeTo, Key.configuredEmitMetrics, Key.configuredRetentionDays])
  have hdays : (d.writeTo b).getInt32D Key.configuredRetentionDays = .ok d.retentionDays :=
    Bag.getInt32D_of_text? (by simp [writeTo])
  simp only [ofBag, hstatus, hmetrics, hdays, ok_bind]
  simp [writeTo, Key.domainName, Key.domainDescription, Key.domainStatus, Key.domainOwnerEmail,
    Key.configuredEmitMetrics, Key.configuredRetentionDays]
  rfl

/-- A request id is no part of a description. -/
theorem ofBag_setInt64 (b : Bag) (id : Int64) :
    ofBag (b.setInt64 Bag.requestIdKey id) = ofBag b := by
  simp [ofBag, Bag.getStatus, Bag.getBool, Bag.getInt32D, Bag.getInt32, Bag.getWith,
    Bag.requestIdKey, Key.domainName, Key.domainDescription, Key.domainStatus,
    Key.domainOwnerEmail, Key.configuredEmitMetrics, Key.configuredRetentionDays]

/-- A description concerns no property but the fields of its reply. -/
theorem get?_writeTo (d : DomainDescription) (b : Bag) {key : String}
    (h : key ∉ (MessageClass.reply .describeDomain).fields.map Field.key) :
    (d.writeTo b).get? key = b.get? key := by
  simp only [MessageClass.fields, List.map_cons, List.map_nil, List.mem_cons, List.not_mem_nil,
    or_false, not_or] at h
  obtain ⟨hname, hdescription, hstatus, howner, hmetrics, hdays⟩ := h
  simp only [writeTo, Bag.setBool, Bag.setInt32, Bag.get?_insert, Bag.get?_setStatus, if_neg hname,
    if_neg hdescription, if_neg hstatus, if_neg howner, if_neg hmetrics, if_neg hdays]

end DomainDescription

/-! ### All of them -/

/-- Parameters that were converted into a request and back are the same, but for timeouts
longer than can be written, which come back as the longest.  A description that was written
over a reply is read off it, and no other property of the reply has changed. -/
theorem params_readBack :
    (∀ p : Connect, Connect.ofBag p.toMessage.bag = p) ∧
    (∀ p : RegisterDomain, RegisterDomain.ofBag p.toMessage.bag = .ok p) ∧
    (∀ p : UpdateDomain, UpdateDomain.ofBag p.toMessage.bag = .ok p) ∧
    (∀ (p : StartWorkflow) (listed : Workflow.Args), listed.Perm p.args →
      Json.plain Json.maxDepth (.obj p.args) = true →
      StartWorkflow.ofBag (StartWorkflow.toMessage { p with args := listed }).bag =
        .ok { p with options := p.options.written }) ∧
    ∀ (d : DomainDescription) (reply : Bag),
      DomainDescription.ofBag (d.writeTo reply) = .ok d ∧
        ∀ key, key ∉ (MessageClass.reply .describeDomain).fields.map Field.key →
          (d.writeTo reply).get? key = reply.get? key :=
  ⟨Connect.ofBag_toMessage, RegisterDomain.ofBag_toMessage, UpdateDomain.ofBag_toMessage,
    fun _ _ => StartWorkflow.ofBag_toMessage,
    fun d reply => ⟨d.ofBag_writeTo reply, fun _ => d.get?_writeTo reply⟩⟩

/-- A workflow with texts that are given but empty, nested arguments and a timeout that is too
long to be written. -/
def longWorkflow : StartWorkflow where
  domain := some ""
  name := "wörk"
  args := [("n", .arr [.null, .num (.int (-1)), .obj [("", .bool true)]]), ("text", .str "\"\n")]
  options := { id := some "", executionTimeout := some (2 * Duration.maxWritten) }

/-- The timeout is read back as the longest one, and the arguments in another order as they
are. -/
theorem params_readBack_longWorkflow :
    longWorkflow.args.reverse.Perm longWorkflow.args ∧
      Json.plain Json.maxDepth (.obj longWorkflow.args) = true ∧
      longWorkflow.options.written.executionTimeout = some Duration.maxWritten ∧
      StartWorkflow.ofBag
          (StartWorkflow.toMessage { longWorkflow with args := longWorkflow.args.reverse }).bag =
        .ok { longWorkflow with options := longWorkflow.options.written } :=
  have hperm : longWorkflow.args.reverse.Perm longWorkflow.args := List.reverse_perm _
  have hplain : Json.plain Json.maxDepth (.obj longWorkflow.args) = true := by decide +kernel
  ⟨hperm, hplain, rfl,
    params_readBack.2.2.2.1 longWorkflow longWorkflow.args.reverse hperm hplain⟩

end Engine

end Parley
