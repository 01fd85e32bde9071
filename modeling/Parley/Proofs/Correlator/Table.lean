/-
# What the operations of a correlator do

Each operation that may take a request out of the table either leaves the table alone or
takes the entry of one id out, and in the second case it has found a request under that
id.  What happens in a session is put together from these cases.
-/

import Parley.Correlator
import Parley.Proofs.Association

namespace Parley

namespace InFlight

/-- A request that is recorded is in the table, and the others are as before. -/
theorem expected?_record (table : InFlight) (id : Int64) (expected : Tag) (other : Int64) :
    (table.record id expected).expected? other =
      if other = id then some expected else table.expected? other := by
  rw [expected?, record, List.lookup_append, lookup_filter_ne, lookup_cons_eq_ite]
  by_cases h : other = id
  · simp [h]
  · simp [h, expected?]

/-- A request that is resolved is no more in the table, and the others are as before. -/
theorem expected?_resolve (table : InFlight) (id other : Int64) :
    (table.resolve id).expected? other = if other = id then none else table.expected? other :=
  lookup_filter_ne id other table.pending

/-- The ids of the requests that were given up. -/
def retiredIds (table : InFlight) : List Int64 :=
  table.retired.map Prod.fst

/-- Pruning retires nothing. -/
theorem mem_retiredIds_of_prune {table : InFlight} {now ttl : Millis} {id : Int64}
    (h : id ∈ (table.prune now ttl).retiredIds) : id ∈ table.retiredIds := by
  obtain ⟨entry, hentry, rfl⟩ := List.mem_map.1 h
  exact List.mem_map_of_mem (List.mem_filter.1 hentry).1

/-- Forgetting retires nothing. -/
theorem mem_retiredIds_of_forget {table : InFlight} {id other : Int64}
    (h : other ∈ (table.forget id).retiredIds) : other ∈ table.retiredIds := by
  obtain ⟨entry, hentry, rfl⟩ := List.mem_map.1 h
  exact List.mem_map_of_mem (List.mem_filter.1 hentry).1

/-- A request that is found is pending. -/
theorem mem_pending_of_expected? {table : InFlight} {id : Int64} {expected : Tag}
    (h : table.expected? id = some expected) : (id, expected) ∈ table.pending :=
  mem_of_lookup h

/-- Nothing is given up exactly when it is not pending. -/
theorem retire?_eq_none_iff {table : InFlight} {id : Int64} {now ttl : Millis} :
    table.retire? id now ttl = none ↔ id ∉ table.pending.map Prod.fst := by
  cases hfound : table.expected? id with
  | none =>
    have hout : id ∉ table.pending.map Prod.fst := not_mem_of_lookup hfound
    simp [retire?, hfound, hout]
  | some expected =>
    have hin : id ∈ table.pending.map Prod.fst :=
      List.mem_map_of_mem (mem_pending_of_expected? hfound)
    simp [retire?, hfound, hin]

/-- A request that is given up was pending; its entry goes and no other, and it is the
only one that is retired by it. -/
theorem retire?_eq_some {table after : InFlight} {id : Int64} {now ttl : Millis}
    (h : table.retire? id now ttl = some after) :
    (∃ expected, (id, expected) ∈ table.pending) ∧
    after.pending = table.pending.filter (·.1 != id) ∧
    ∀ other ∈ after.retiredIds, other ∈ table.retiredIds ∨ other = id := by
  cases hfound : table.expected? id with
  | none => simp [retire?, hfound] at h
  | some expected =>
    simp only [retire?, hfound, Option.isSome_some, if_true, Option.some.injEq] at h
    subst h
    refine ⟨⟨expected, mem_pending_of_expected? hfound⟩, rfl, fun other hother => ?_⟩
    simp only [retiredIds, List.map_append, List.mem_append, List.map_cons, List.map_nil,
      List.mem_singleton] at hother
    rcases hother with hother | hother
    · obtain ⟨entry, hentry, rfl⟩ := List.mem_map.1 hother
      have hpruned := List.mem_map_of_mem (f := Prod.fst) (List.mem_filter.1 hentry).1
      exact Or.inl (mem_retiredIds_of_prune hpruned)
    · exact Or.inr hother

end InFlight

namespace Correlator

/-- A request that is stamped gets the next id, and nothing but the next id changes. -/
theorem stamp_cases (c : Correlator) (request : Message) :
    (∃ ready stamped, ready.id = c.nextId ∧
      c.stamp request = (stamped, .ok ready, { c with nextId := c.nextId + 1 })) ∨
    (∃ fault refused after, (after = c ∨ after = { c with nextId := c.nextId + 1 }) ∧
      c.stamp request = (refused, .error fault, after)) := by
  cases hexpected : request.expectedReply? with
  | none =>
    refine Or.inr ⟨.unexpectedMessage request.tag, request, c, Or.inl rfl, ?_⟩
    simp only [stamp, hexpected]
  | some expected =>
    by_cases hid : request.hasRequestId = true
    · cases hencode : c.codec.encode (request.setRequestId c.nextId) with
      | ok frame =>
        refine Or.inl ⟨⟨c.nextId, expected, frame⟩, request.setRequestId c.nextId, rfl, ?_⟩
        simp only [stamp, hexpected, hid, if_true, hencode, Except.map]
      | error fault =>
        refine Or.inr ⟨fault, request.setRequestId c.nextId, _, Or.inr rfl, ?_⟩
        simp only [stamp, hexpected, hid, if_true, hencode, Except.map]
    · refine Or.inr ⟨.unexpectedMessage request.tag, request, _, Or.inr rfl, ?_⟩
      simp [stamp, hexpected, hid]

/-- What is ready to be recorded expects the reply that its request expects. -/
theorem expectedReply?_of_stamp {c after : Correlator} {request stamped : Message} {ready : Ready}
    (h : c.stamp request = (stamped, .ok ready, after)) :
    request.expectedReply? = some ready.expected := by
  cases hexpected : request.expectedReply? with
  | none =>
    simp only [stamp, hexpected] at h
    cases h
  | some expected =>
    by_cases hid : request.hasRequestId = true
    · simp only [stamp, hexpected, if_pos hid] at h
      cases hencode : c.codec.encode (request.setRequestId c.nextId) with
      | ok frame =>
        rw [hencode] at h
        cases h
        rfl
      | error fault =>
        rw [hencode] at h
        cases h
    · simp only [stamp, hexpected, if_neg hid] at h
      cases h

/-- An id is used up by every request that expects a reply. -/
theorem nextId_stamp (c : Correlator) (request : Message) :
    (c.stamp request).2.2.nextId =
      if request.expectedReply?.isSome then c.nextId + 1 else c.nextId := by
  cases hexpected : request.expectedReply? with
  | none => simp only [stamp, hexpected, Option.isSome_none, Bool.false_eq_true, if_false]
  | some expected =>
    simp only [stamp, hexpected, Option.isSome_some, if_true]
    split <;> rfl

/-- A request that can be put into a frame is issued. -/
theorem issue_eq_ok {c : Correlator} {request : Message} {expected : Tag} {frame : Frame.Bytes}
    (hexpected : request.expectedReply? = some expected) (hhas : request.hasRequestId = true)
    (hframe : c.codec.encode (request.setRequestId c.nextId) = .ok frame) :
    c.issue request =
      (request.setRequestId c.nextId, .ok (c.nextId, frame),
        { c with nextId := c.nextId + 1 }.enter c.nextId expected) := by
  simp only [issue, stamp, hexpected, hhas, if_true, hframe, Except.map]

/-- A request gets its id whether or not it can be put into a frame. -/
theorem fst_stamp {c : Correlator} {request : Message} {expected : Tag}
    (hexpected : request.expectedReply? = some expected) (hhas : request.hasRequestId = true) :
    (c.stamp request).1 = request.setRequestId c.nextId := by
  simp only [stamp, hexpected, hhas, if_true]

/-- Giving a request up finds it in flight or does nothing. -/
theorem giveUp_cases (c : Correlator) (id : Int64) (now : Millis) :
    (∃ table, c.table.retire? id now c.retiredTtl = some table ∧
      c.giveUp id now = (some (id, .error .cancelled), { c with table })) ∨
    (c.table.retire? id now c.retiredTtl = none ∧ c.giveUp id now = (none, c)) := by
  cases h : c.table.retire? id now c.retiredTtl with
  | some table => exact Or.inl ⟨table, rfl, by simp only [giveUp, h]⟩
  | none => exact Or.inr ⟨rfl, by simp only [giveUp, h]⟩

/-- Dropping a handle leaves the other requests in flight. -/
theorem pending_abandon (c : Correlator) (id : Int64) (now : Millis) :
    (c.abandon id now).table.pending = c.table.pending.filter (·.1 != id) := by
  rcases giveUp_cases c id now with ⟨table, hretire, hgive⟩ | ⟨hretire, hgive⟩
  · simp only [abandon, hgive]
    exact (InFlight.retire?_eq_some hretire).2.1
  · simp only [abandon, hgive]
    exact (filter_ne_of_not_mem (InFlight.retire?_eq_none_iff.1 hretire)).symm

/-- Dropping a handle leaves the outcomes of the other requests. -/
theorem delivered_abandon (c : Correlator) (id : Int64) (now : Millis) :
    (c.abandon id now).delivered = c.delivered.filter (·.1 != id) := by
  rcases giveUp_cases c id now with ⟨table, -, hgive⟩ | ⟨-, hgive⟩ <;>
    simp only [abandon, hgive]

/-- Dropping a handle retires no request but its own, and that only when it was in flight. -/
theorem mem_retiredIds_abandon {c : Correlator} {id other : Int64} {now : Millis}
    (h : other ∈ (c.abandon id now).table.retiredIds) :
    other ∈ c.table.retiredIds ∨ (other = id ∧ id ∈ c.table.pending.map Prod.fst) := by
  rcases giveUp_cases c id now with ⟨table, hretire, hgive⟩ | ⟨-, hgive⟩
  · obtain ⟨⟨expected, hmem⟩, -, hretired⟩ := InFlight.retire?_eq_some hretire
    simp only [abandon, hgive] at h
    exact (hretired other h).imp_right fun heq => ⟨heq, List.mem_map_of_mem hmem⟩
  · simp only [abandon, hgive] at h
    exact Or.inl h

/-- Dropping a handle gives no id out. -/
theorem nextId_abandon (c : Correlator) (id : Int64) (now : Millis) :
    (c.abandon id now).nextId = c.nextId := by
  rcases giveUp_cases c id now with ⟨table, -, hgive⟩ | ⟨-, hgive⟩ <;>
    simp only [abandon, hgive]

/-- A reply goes to the request that it names, or nothing leaves the table. -/
theorem route_cases (c : Correlator) (reply : Message) (now : Millis) :
    (∃ expected receipt, c.table.expected? reply.requestId = some expected ∧
      c.route reply now =
        (receipt,
          some (reply.requestId,
            if reply.tag = expected then .ok reply
            else .error (.replyTypeMismatch expected reply.tag)),
          { c with table := c.table.resolve reply.requestId })) ∨
    (∃ receipt table, c.route reply now = (receipt, none, { c with table }) ∧
      table.pending = c.table.pending ∧
      ∀ other ∈ table.retiredIds, other ∈ c.table.retiredIds) := by
  by_cases hreply : reply.isReply = true
  · cases hfound : c.table.expected? reply.requestId with
    | some expected =>
      left
      by_cases htag : reply.tag = expected
      · refine ⟨expected, .ok .matched, rfl, ?_⟩
        simp only [route, hreply, if_true, hfound, if_pos htag]
      · refine ⟨expected, .error (.replyTypeMismatch expected reply.tag), rfl, ?_⟩
        simp only [route, hreply, if_true, hfound, if_neg htag]
    | none =>
      right
      by_cases hretired : (c.table.prune now c.retiredTtl).isRetired reply.requestId = true
      · refine ⟨.ok .discarded, (c.table.prune now c.retiredTtl).forget reply.requestId, ?_,
          rfl, fun other hother => ?_⟩
        · simp only [route, hreply, if_true, hfound, hretired]
        · exact InFlight.mem_retiredIds_of_prune (InFlight.mem_retiredIds_of_forget hother)
      · refine ⟨.error (.unmatched reply.requestId), c.table.prune now c.retiredTtl, ?_, rfl,
          fun other hother => ?_⟩
        · simp [route, hreply, hfound, hretired]
        · exact InFlight.mem_retiredIds_of_prune hother
  · right
    refine ⟨.error (.unexpectedMessage reply.tag), c.table, ?_, rfl, fun _ hother => hother⟩
    simp [route, hreply]

/-- The reply to a request in flight is delivered. -/
theorem receiveFrame_of_expected? {c : Correlator} {frame : Frame.Bytes} {reply : Message}
    {expected : Tag} (hdecode : c.codec.decode frame = .ok reply) (hreply : reply.isReply = true)
    (hexpected : c.table.expected? reply.requestId = some expected) (htag : reply.tag = expected)
    (now : Millis) :
    (c.receiveFrame frame now).2 =
      ({ c with table := c.table.resolve reply.requestId } : Correlator).deliver
        (reply.requestId, .ok reply) := by
  simp only [receiveFrame, hdecode, receive, route, hreply, if_true, hexpected, if_pos htag]
  rfl

/-- A caller collects its outcome, whatever its deadline. -/
theorem poll_of_delivered {c : Correlator} {id : Int64} {verdict : Verdict}
    (h : c.delivered.lookup id = some verdict) (deadline : Option Millis) (now : Millis) :
    c.poll id deadline now false =
      (some verdict, { c with delivered := c.delivered.filter (·.1 != id) }) := by
  by_cases hpassed : (deadline.any fun deadline => decide (deadline ≤ now)) = true <;>
    simp [poll, hpassed, collect, h]

/-- A caller without an outcome whose deadline has not passed goes on waiting. -/
theorem poll_of_not_delivered {c : Correlator} {id : Int64} (h : c.delivered.lookup id = none)
    {deadline : Option Millis} {now : Millis}
    (hpassed : ∀ moment, deadline = some moment → now < moment) :
    c.poll id deadline now false = (none, c) := by
  cases deadline with
  | none => simp [poll, collect, h]
  | some moment =>
    have hlt : ¬ moment ≤ now := Nat.not_le.2 (hpassed moment rfl)
    simp [poll, collect, h, hlt]

/-- A caller that looks for its outcome collects one that has come, or the deadline has
passed and takes its request out of the table, or nothing happens, and then the deadline has
not passed or the request is not in flight. -/
theorem poll_cases (c : Correlator) (id : Int64) (deadline : Option Millis) (now : Millis)
    (clockFirst : Bool) :
    (∃ verdict, c.delivered.lookup id = some verdict ∧
      c.poll id deadline now clockFirst =
        (some verdict, { c with delivered := c.delivered.filter (·.1 != id) })) ∨
    (∃ table, (deadline.any fun deadline => decide (deadline ≤ now)) = true ∧
      c.table.retire? id now c.retiredTtl = some table ∧
      c.poll id deadline now clockFirst = (some (.error .timeout), { c with table })) ∨
    (((deadline.any fun deadline => decide (deadline ≤ now)) = true →
        c.table.retire? id now c.retiredTtl = none) ∧
      c.poll id deadline now clockFirst = (none, c)) := by
  by_cases hpassed : (deadline.any fun deadline => decide (deadline ≤ now)) = true
  · cases clockFirst <;> cases hlook : c.delivered.lookup id <;>
      cases hstrike : c.table.retire? id now c.retiredTtl <;>
      simp [poll, hpassed, collect, expire, hlook, hstrike]
  · cases hlook : c.delivered.lookup id <;> simp [poll, hpassed, collect, hlook]

/-- Which of the outcome and the clock a caller looks at first makes no difference when a
request that has an outcome is not in flight any more. -/
theorem poll_comm (c : Correlator) (id : Int64) (deadline : Option Millis) (now : Millis)
    (h : (c.delivered.lookup id).isSome → id ∉ c.table.pending.map Prod.fst) :
    c.poll id deadline now true = c.poll id deadline now false := by
  by_cases hpassed : (deadline.any fun deadline => decide (deadline ≤ now)) = true
  · cases hlook : c.delivered.lookup id with
    | some verdict =>
      have hstrike : c.table.retire? id now c.retiredTtl = none :=
        InFlight.retire?_eq_none_iff.2 (h (by rw [hlook]; rfl))
      simp [poll, hpassed, collect, expire, hlook, hstrike]
    | none =>
      cases hstrike : c.table.retire? id now c.retiredTtl <;>
        simp [poll, hpassed, collect, expire, hlook, hstrike]
  · simp [poll, hpassed]

end Correlator

end Parley
