/-
# Requests that were given up

What a table remembers of them, told by their ages.  Looking through the table before it
is asked changes no answer, and what is forgotten by it is only what has reached its age.
From this follows what becomes of a reply, in three cases: its request is in flight, it
is not, or the message is no reply at all.
-/

import Parley.Correlator.History
import Parley.Proofs.Correlator.Table

namespace Parley

namespace InFlight

/-- A request that is not found is not pending. -/
theorem expected?_eq_none_iff {table : InFlight} {id : Int64} :
    table.expected? id = none ↔ id ∉ table.pending.map Prod.fst := by
  constructor
  · exact not_mem_of_lookup
  · exact lookup_of_not_mem

/-- The entries younger than `ttl`. -/
def recent (now ttl : Millis) (retired : List (Int64 × Millis)) : List (Int64 × Millis) :=
  retired.filter fun entry => decide (now - entry.2 < ttl)

/-- What is recent was given up not long ago. -/
theorem mem_recent {now ttl : Millis} {retired : List (Int64 × Millis)} {entry : Int64 × Millis} :
    entry ∈ recent now ttl retired ↔ entry ∈ retired ∧ now - entry.2 < ttl := by
  rw [recent, List.mem_filter, decide_eq_true_eq]

/-- What is young enough later was young enough before. -/
theorem recent_recent {now later ttl : Millis} (h : now ≤ later)
    (retired : List (Int64 × Millis)) :
    recent later ttl (recent now ttl retired) = recent later ttl retired := by
  rw [recent, recent, List.filter_filter]
  apply List.filter_congr
  intro entry _
  have hage : later - entry.2 < ttl → now - entry.2 < ttl :=
    Nat.lt_of_le_of_lt (Nat.sub_le_sub_right h entry.2)
  simpa using hage

/-- What is recent is so entry by entry. -/
theorem recent_append (now ttl : Millis) (retired more : List (Int64 × Millis)) :
    recent now ttl (retired ++ more) = recent now ttl retired ++ recent now ttl more :=
  List.filter_append ..

/-- To forget one request and to forget by age commute. -/
theorem recent_filter_ne (now ttl : Millis) (id : Int64) (retired : List (Int64 × Millis)) :
    recent now ttl (retired.filter (·.1 != id)) = (recent now ttl retired).filter (·.1 != id) := by
  rw [recent, recent, List.filter_filter, List.filter_filter]
  apply List.filter_congr
  intro entry _
  exact Bool.and_comm ..

/-- A request was given up not long ago when there is such an entry. -/
theorem isRetiredWithin_iff {table : InFlight} {id : Int64} {now ttl : Millis} :
    table.isRetiredWithin id now ttl = true ↔
      ∃ moment, (id, moment) ∈ table.retired ∧ now - moment < ttl := by
  rw [isRetiredWithin, List.any_eq_true]
  constructor
  · rintro ⟨⟨other, moment⟩, hmem, hasked⟩
    obtain ⟨hid, hage⟩ := Bool.and_eq_true_iff.1 hasked
    obtain rfl : other = id := eq_of_beq hid
    exact ⟨moment, hmem, of_decide_eq_true hage⟩
  · rintro ⟨moment, hmem, hage⟩
    refine ⟨(id, moment), hmem, ?_⟩
    rw [beq_self_eq_true, Bool.true_and]
    exact decide_eq_true hage

/-- Looking through the table and then asking is the same as comparing ages. -/
theorem isRetired_prune (table : InFlight) (id : Int64) (now ttl : Millis) :
    (table.prune now ttl).isRetired id = table.isRetiredWithin id now ttl := by
  rw [Bool.eq_iff_iff, isRetiredWithin_iff, isRetired, Option.isSome_iff_exists]
  constructor
  · rintro ⟨moment, hfound⟩
    exact ⟨moment, mem_recent.1 (mem_of_lookup hfound)⟩
  · rintro ⟨moment, hmem, hage⟩
    cases hfound : (table.prune now ttl).retired.lookup id with
    | some found => exact ⟨found, rfl⟩
    | none =>
      have hentry : (id, moment) ∈ (table.prune now ttl).retired := mem_recent.2 ⟨hmem, hage⟩
      exact absurd (List.mem_map_of_mem hentry) (not_mem_of_lookup hfound)

/-- Forgetting a request that is not remembered changes nothing. -/
theorem filter_recent_of_not_retired {table : InFlight} {id : Int64} {now ttl : Millis}
    (h : table.isRetiredWithin id now ttl = false) :
    (recent now ttl table.retired).filter (·.1 != id) = recent now ttl table.retired := by
  apply List.filter_eq_self.2
  rintro ⟨other, moment⟩ hentry
  rw [bne_iff_ne]
  rintro rfl
  rw [isRetiredWithin_iff.2 ⟨moment, mem_recent.1 hentry⟩] at h
  cases h

/-- What is asked for by age depends on what is young enough only. -/
theorem isRetiredWithin_congr {table table' : InFlight} {now ttl : Millis}
    (h : recent now ttl table.retired = recent now ttl table'.retired) (id : Int64) :
    table.isRetiredWithin id now ttl = table'.isRetiredWithin id now ttl := by
  rw [← isRetired_prune, ← isRetired_prune, isRetired, isRetired]
  exact congrArg (fun retired => (List.lookup id retired).isSome) h

/-- A table after a request in it was given up. -/
theorem retire?_eq_some_iff {table after : InFlight} {id : Int64} {now ttl : Millis} :
    table.retire? id now ttl = some after ↔
      (table.expected? id).isSome = true ∧
        after = ⟨table.pending.filter (·.1 != id),
          (recent now ttl table.retired).filter (·.1 != id) ++ [(id, now)]⟩ := by
  rw [retire?]
  by_cases h : (table.expected? id).isSome = true
  · rw [if_pos h]
    constructor
    · intro hsome
      exact ⟨h, (Option.some.inj hsome).symm⟩
    · rintro ⟨-, rfl⟩
      rfl
  · rw [if_neg h]
    constructor
    · intro hsome
      cases hsome
    · rintro ⟨hfound, -⟩
      exact absurd hfound h

end InFlight

namespace Correlator

open InFlight

variable {c : Correlator} {reply : Message}

/-- A message that is no reply is refused. -/
theorem route_of_not_isReply (h : ¬ reply.isReply = true) (now : Millis) :
    c.route reply now = (.error (.unexpectedMessage reply.tag), none, c) := by
  rw [route, if_neg h]

/-- A reply for a request in flight takes it out. -/
theorem route_of_pending (h : reply.isReply = true) {expected : Tag}
    (hfound : c.table.expected? reply.requestId = some expected) (now : Millis) :
    c.route reply now =
      (if reply.tag = expected then .ok .matched
        else .error (.replyTypeMismatch expected reply.tag),
      some (reply.requestId,
        if reply.tag = expected then .ok reply
        else .error (.replyTypeMismatch expected reply.tag)),
      { c with table := c.table.resolve reply.requestId }) := by
  by_cases htag : reply.tag = expected
  · simp only [route, h, if_true, hfound, if_pos htag]
  · simp only [route, h, if_true, hfound, if_neg htag]

/-- A reply for a request that is not in flight leaves what is young enough and not its
own. -/
theorem route_of_not_pending (h : reply.isReply = true)
    (hfound : c.table.expected? reply.requestId = none) (now : Millis) :
    c.route reply now =
      (if c.table.isRetiredWithin reply.requestId now c.retiredTtl then .ok .discarded
        else .error (.unmatched reply.requestId),
      none,
      { c with table :=
        { c.table with retired :=
            (recent now c.retiredTtl c.table.retired).filter (·.1 != reply.requestId) } }) := by
  cases hlate : c.table.isRetiredWithin reply.requestId now c.retiredTtl with
  | true =>
    simp only [route, h, if_true, hfound, isRetired_prune, hlate]
    rfl
  | false =>
    simp only [route, h, if_true, hfound, isRetired_prune, hlate, Bool.false_eq_true, if_false,
      filter_recent_of_not_retired hlate]
    rfl

/-- The answer to a reply is found by comparing ages. -/
theorem fst_receive (c : Correlator) (reply : Message) (now : Millis) :
    (c.receive reply now).1 = c.answerByAge reply now := by
  by_cases h : reply.isReply = true
  · cases hfound : c.table.expected? reply.requestId with
    | some expected =>
      simp only [receive, answerByAge, route_of_pending h hfound, h, if_true, hfound]
    | none => simp only [receive, answerByAge, route_of_not_pending h hfound, h, if_true, hfound]
  · simp only [receive, answerByAge, route_of_not_isReply h, if_neg h]

end Correlator

end Parley
