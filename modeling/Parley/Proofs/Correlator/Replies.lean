/-
# Replies in any order

A list of replies that come in one after the other.  Each request in flight is resolved by
the first of them that bears its id, and nothing that bears another id has any bearing on
it.  So the replies of different requests may come in any order: every caller learns the
same, the same requests stay in flight, and every reply gets the same answer.
-/

import Parley.Proofs.Correlator.Retired
import Parley.Proofs.Correlator.Session

namespace Parley

/-- Whether a message is a reply for a request. -/
def Message.repliesTo (m : Message) (id : Int64) : Bool :=
  m.isReply && m.requestId == id

namespace Correlator

open InFlight

/-- Receive replies one after the other, each at its moment: the answers, and the
correlator afterwards. -/
def receiveEach (c : Correlator) :
    List (Message × Millis) → List (Except Fault Receipt) × Correlator
  | [] => ([], c)
  | (reply, now) :: rest =>
      let (answer, c) := c.receive reply now
      let (answers, c) := c.receiveEach rest
      (answer :: answers, c)

/-- The first reply for a request. -/
def firstReply? (id : Int64) (replies : List (Message × Millis)) : Option Message :=
  (replies.map Prod.fst).find? fun reply => reply.repliesTo id

/-- What a reply means to the caller of a request that expects this type. -/
def verdictOf (expected : Tag) (reply : Message) : Verdict :=
  if reply.tag = expected then .ok reply else .error (.replyTypeMismatch expected reply.tag)

variable {c c' : Correlator}

/-! ### One reply -/

/-- A reply is one for the request that it names. -/
theorem repliesTo_eq_true {reply : Message} {id : Int64} :
    reply.repliesTo id = true ↔ reply.isReply = true ∧ reply.requestId = id := by
  rw [Message.repliesTo, Bool.and_eq_true, beq_iff_eq]

/-- A reply is none for a request that it does not name. -/
theorem repliesTo_of_ne {reply : Message} {id : Int64} (h : reply.requestId ≠ id) :
    reply.repliesTo id = false := by
  rw [Message.repliesTo, beq_eq_false_iff_ne.2 h, Bool.and_false]

/-- What a correlator is after a reply: the request of the reply is out of the table with
its outcome delivered, or it was not in flight and is no longer remembered, or the message
was no reply. -/
theorem snd_receive (c : Correlator) (reply : Message) (now : Millis) :
    (c.receive reply now).2 =
      if reply.isReply then
        match c.table.expected? reply.requestId with
        | some expected =>
            { c with
              table := c.table.resolve reply.requestId
              delivered := c.delivered ++ [(reply.requestId, verdictOf expected reply)] }
        | none =>
            { c with table :=
              { c.table with retired :=
                  (recent now c.retiredTtl c.table.retired).filter (·.1 != reply.requestId) } }
      else c := by
  by_cases hreply : reply.isReply = true
  · rw [if_pos hreply]
    cases hfound : c.table.expected? reply.requestId with
    | some expected =>
      rw [receive, route_of_pending hreply hfound]
      rfl
    | none =>
      rw [receive, route_of_not_pending hreply hfound]
      rfl
  · rw [if_neg hreply, receive, route_of_not_isReply hreply]
    rfl

/-- The age at which a request is forgotten is not changed by a reply. -/
theorem retiredTtl_receive (c : Correlator) (reply : Message) (now : Millis) :
    (c.receive reply now).2.retiredTtl = c.retiredTtl := by
  rw [snd_receive]
  cases reply.isReply with
  | false => rfl
  | true => cases c.table.expected? reply.requestId <;> rfl

/-- A reply takes its request out of the table and no other. -/
theorem pending_receive (c : Correlator) (reply : Message) (now : Millis) :
    (c.receive reply now).2.table.pending =
      c.table.pending.filter fun entry => !reply.repliesTo entry.1 := by
  rw [snd_receive]
  by_cases hreply : reply.isReply = true
  · rw [if_pos hreply]
    have hkey : ∀ entry : Int64 × Tag,
        (!reply.repliesTo entry.1) = (entry.1 != reply.requestId) := by
      intro entry
      rw [Message.repliesTo, hreply, Bool.true_and, bne, BEq.comm]
    cases hfound : c.table.expected? reply.requestId with
    | some expected => exact List.filter_congr fun entry _ => (hkey entry).symm
    | none =>
      symm
      apply List.filter_eq_self.2
      intro entry hentry
      rw [hkey, bne_iff_ne]
      rintro heq
      exact expected?_eq_none_iff.1 hfound (heq ▸ List.mem_map_of_mem hentry)
  · rw [if_neg hreply]
    symm
    apply List.filter_eq_self.2
    intro entry _
    simp only [Message.repliesTo, hreply, Bool.false_and, Bool.not_false]

/-- A reply takes out the entry of its request and no other. -/
theorem expected?_receive (c : Correlator) (reply : Message) (now : Millis) (id : Int64) :
    (c.receive reply now).2.table.expected? id =
      if reply.repliesTo id then none else c.table.expected? id := by
  rw [expected?, pending_receive, lookup_filter_key fun other => !reply.repliesTo other]
  cases reply.repliesTo id <;> rfl

/-- A reply makes an outcome for the caller of its request when that is in flight. -/
theorem lookup_delivered_receive (c : Correlator) (reply : Message) (now : Millis) (id : Int64) :
    (c.receive reply now).2.delivered.lookup id =
      (c.delivered.lookup id).or
        (if reply.repliesTo id then
          (c.table.expected? id).map fun expected => verdictOf expected reply
        else none) := by
  rw [snd_receive]
  by_cases hreply : reply.isReply = true
  · rw [if_pos hreply]
    by_cases hid : reply.requestId = id
    · subst hid
      rw [if_pos (repliesTo_eq_true.2 ⟨hreply, rfl⟩)]
      cases c.table.expected? reply.requestId with
      | some expected =>
        rw [List.lookup_append, lookup_cons_eq_ite, if_pos rfl]
        rfl
      | none => exact (Option.or_none).symm
    · have hother : ¬ reply.repliesTo id = true := fun h => hid (repliesTo_eq_true.1 h).2
      rw [if_neg hother, Option.or_none]
      cases c.table.expected? reply.requestId with
      | some expected =>
        rw [List.lookup_append, lookup_cons_eq_ite, if_neg fun h => hid h.symm]
        exact Option.or_none
      | none => rfl
  · have hother : ¬ reply.repliesTo id = true := fun h => hreply (repliesTo_eq_true.1 h).1
    rw [if_neg hreply, if_neg hother, Option.or_none]

/-- When a table was looked through for a request, this one is no longer remembered, and what
is young enough later is as it was. -/
theorem isRetiredWithin_filter (table : InFlight) {now later ttl : Millis} (h : now ≤ later)
    (id other : Int64) :
    InFlight.isRetiredWithin
        { table with retired := (recent now ttl table.retired).filter (·.1 != other) }
        id later ttl =
      (table.isRetiredWithin id later ttl && id != other) := by
  rw [Bool.eq_iff_iff, isRetiredWithin_iff, Bool.and_eq_true, isRetiredWithin_iff]
  constructor
  · rintro ⟨moment, hmem, hage⟩
    obtain ⟨hrecent, hne⟩ := List.mem_filter.1 hmem
    exact ⟨⟨moment, (mem_recent.1 hrecent).1, hage⟩, hne⟩
  · rintro ⟨⟨moment, hmem, hage⟩, hne⟩
    have hyoung : now - moment < ttl := Nat.lt_of_le_of_lt (Nat.sub_le_sub_right h moment) hage
    exact ⟨moment, List.mem_filter.2 ⟨mem_recent.2 ⟨hmem, hyoung⟩, hne⟩, hage⟩

/-- What was given up and is young enough stays, except for the request that a reply asks
for. -/
theorem isRetiredWithin_receive (c : Correlator) (reply : Message) {now later : Millis}
    (h : now ≤ later) (id : Int64) :
    (c.receive reply now).2.table.isRetiredWithin id later c.retiredTtl =
      (c.table.isRetiredWithin id later c.retiredTtl &&
        !(reply.repliesTo id && (c.table.expected? id).isNone)) := by
  rw [snd_receive]
  by_cases hreply : reply.isReply = true
  · rw [if_pos hreply]
    cases hfound : c.table.expected? reply.requestId with
    | some expected =>
      have hasks : (reply.repliesTo id && (c.table.expected? id).isNone) = false := by
        by_cases hid : reply.requestId = id
        · rw [← hid, hfound]
          exact Bool.and_false _
        · rw [repliesTo_of_ne hid, Bool.false_and]
      rw [hasks, Bool.not_false, Bool.and_true]
      rfl
    | none =>
      have hasks : (id != reply.requestId) =
          !(reply.repliesTo id && (c.table.expected? id).isNone) := by
        by_cases hid : reply.requestId = id
        · rw [← hid, repliesTo_eq_true.2 ⟨hreply, rfl⟩, hfound, bne_self_eq_false]
          rfl
        · rw [repliesTo_of_ne hid, bne_iff_ne.2 fun heq => hid heq.symm]
          rfl
      rw [← hasks]
      exact isRetiredWithin_filter c.table h id reply.requestId
  · have hother : ¬ reply.repliesTo id = true := fun h => hreply (repliesTo_eq_true.1 h).1
    rw [if_neg hreply, Bool.eq_false_iff.2 hother, Bool.false_and, Bool.not_false, Bool.and_true]

/-! ### Replies one after the other -/

/-- The requests that stay in flight are those that no reply was for. -/
theorem pending_receiveEach (c : Correlator) (replies : List (Message × Millis)) :
    (c.receiveEach replies).2.table.pending =
      c.table.pending.filter fun entry => (firstReply? entry.1 replies).isNone := by
  induction replies generalizing c with
  | nil => exact (List.filter_eq_self.2 fun _ _ => rfl).symm
  | cons first rest ih =>
    obtain ⟨reply, now⟩ := first
    rw [receiveEach]
    dsimp only
    rw [ih, pending_receive, List.filter_filter]
    apply List.filter_congr
    intro entry _
    rw [firstReply?, firstReply?, List.map_cons, List.find?_cons]
    cases reply.repliesTo entry.1 with
    | true => exact Bool.and_false _
    | false => exact Bool.and_true _

/-- A request in flight is resolved by the first reply for it, if there is one, and no
other outcome is made. -/
theorem lookup_delivered_receiveEach (c : Correlator) (replies : List (Message × Millis))
    (id : Int64) :
    (c.receiveEach replies).2.delivered.lookup id =
      (c.delivered.lookup id).or
        ((c.table.expected? id).bind fun expected =>
          (firstReply? id replies).map (verdictOf expected)) := by
  induction replies generalizing c with
  | nil =>
    cases c.table.expected? id <;> exact (Option.or_none).symm
  | cons first rest ih =>
    obtain ⟨reply, now⟩ := first
    rw [receiveEach]
    dsimp only
    rw [ih, lookup_delivered_receive, expected?_receive, Option.or_assoc, firstReply?, firstReply?,
      List.map_cons, List.find?_cons]
    cases reply.repliesTo id with
    | true =>
      rw [if_pos rfl, if_pos rfl]
      cases c.table.expected? id with
      | none => rfl
      | some expected => rfl
    | false =>
      rw [if_neg Bool.false_ne_true, if_neg Bool.false_ne_true]
      rfl

/-! ### What other requests have no bearing on -/

/-- Two correlators between which a reply for this request can make no difference from now
on. -/
structure Alike (id : Int64) (now : Millis) (c c' : Correlator) : Prop where
  ttl : c.retiredTtl = c'.retiredTtl
  expected : c.table.expected? id = c'.table.expected? id
  retired : ∀ later, now ≤ later →
    c.table.isRetiredWithin id later c.retiredTtl = c'.table.isRetiredWithin id later c'.retiredTtl

/-- A correlator is like itself to every request. -/
theorem Alike.refl (id : Int64) (now : Millis) (c : Correlator) : Alike id now c c :=
  ⟨rfl, rfl, fun _ _ => rfl⟩

variable {id : Int64} {now later : Millis}

/-- Correlators that are alike to a request answer its replies alike. -/
theorem Alike.fst_receive_eq {reply : Message} (h : Alike reply.requestId now c c')
    (hle : now ≤ later) : (c.receive reply later).1 = (c'.receive reply later).1 := by
  rw [fst_receive, fst_receive, answerByAge, answerByAge, h.expected, h.retired later hle]

/-- The same reply keeps two correlators alike. -/
theorem Alike.receive (h : Alike id now c c') (hle : now ≤ later) (reply : Message) :
    Alike id later (c.receive reply later).2 (c'.receive reply later).2 where
  ttl := by rw [retiredTtl_receive, retiredTtl_receive, h.ttl]
  expected := by rw [expected?_receive, expected?_receive, h.expected]
  retired moment hmoment := by
    rw [retiredTtl_receive, retiredTtl_receive, isRetiredWithin_receive c reply hmoment,
      isRetiredWithin_receive c' reply hmoment, h.expected,
      h.retired moment (Nat.le_trans hle hmoment)]

/-- A reply with another id keeps two correlators alike though only one receives it. -/
theorem Alike.receive_left (h : Alike id now c c') (hle : now ≤ later) {reply : Message}
    (hid : reply.requestId ≠ id) : Alike id later (c.receive reply later).2 c' := by
  have hother := repliesTo_of_ne hid
  constructor
  · rw [retiredTtl_receive, h.ttl]
  · rw [expected?_receive, hother, if_neg Bool.false_ne_true, h.expected]
  · intro moment hmoment
    rw [retiredTtl_receive, isRetiredWithin_receive c reply hmoment, hother, Bool.false_and,
      Bool.not_false, Bool.and_true, h.retired moment (Nat.le_trans hle hmoment)]

/-- The replies that bear an id. -/
def bearing (id : Int64) (replies : List (Message × Millis)) : List (Message × Millis) :=
  replies.filter fun entry => entry.1.requestId == id

/-- A reply for a request bears on it. -/
theorem bearing_cons_of_eq {reply : Message} (h : reply.requestId = id) (moment : Millis)
    (rest : List (Message × Millis)) :
    bearing id ((reply, moment) :: rest) = (reply, moment) :: bearing id rest :=
  List.filter_cons_of_pos (beq_iff_eq.2 h)

/-- A reply for another request does not bear on it. -/
theorem bearing_cons_of_ne {reply : Message} (h : reply.requestId ≠ id) (moment : Millis)
    (rest : List (Message × Millis)) :
    bearing id ((reply, moment) :: rest) = bearing id rest :=
  List.filter_cons_of_neg fun heq => h (beq_iff_eq.1 heq)

/-- The replies that bear an id, each with the answer that it gets among all replies. -/
def answersTo (c : Correlator) (id : Int64) (replies : List (Message × Millis)) :
    List ((Message × Millis) × Except Fault Receipt) :=
  (replies.zip (c.receiveEach replies).1).filter fun entry => entry.1.1.requestId == id

/-- Whether replies come in at moments that follow each other. -/
def InTime (replies : List (Message × Millis)) : Prop :=
  replies.Pairwise fun earlier later => earlier.2 ≤ later.2

/-- The replies that bear an id get the answers that they would get without all others. -/
theorem answersTo_eq {replies : List (Message × Millis)} (h : Alike id now c c')
    (hnow : ∀ entry ∈ replies, now ≤ entry.2) (htime : InTime replies) :
    c.answersTo id replies =
      (bearing id replies).zip (c'.receiveEach (bearing id replies)).1 := by
  induction replies generalizing c c' now with
  | nil => rfl
  | cons first rest ih =>
    obtain ⟨reply, moment⟩ := first
    obtain ⟨hfirst, hrest⟩ := List.pairwise_cons.1 htime
    have hle : now ≤ moment := hnow _ List.mem_cons_self
    have hafter : ∀ entry ∈ rest, moment ≤ entry.2 := hfirst
    by_cases hid : reply.requestId = id
    · have hbears : (reply.requestId == id) = true := beq_iff_eq.2 hid
      have hanswer : (c.receive reply moment).1 = (c'.receive reply moment).1 := by
        subst hid
        exact h.fst_receive_eq hle
      have hanswers := ih (h.receive hle reply) hafter hrest
      rw [answersTo] at hanswers
      rw [answersTo, bearing_cons_of_eq hid, receiveEach, receiveEach, List.zip_cons_cons,
        List.zip_cons_cons, ← hanswer]
      simp only [List.filter_cons, hbears, if_true, hanswers]
    · have hbears : (reply.requestId == id) = false := beq_eq_false_iff_ne.2 hid
      have hanswers := ih (h.receive_left hle hid) hafter hrest
      rw [answersTo] at hanswers
      rw [answersTo, bearing_cons_of_ne hid, receiveEach, List.zip_cons_cons]
      simp only [List.filter_cons, hbears, Bool.false_eq_true, if_false, hanswers]

/-! ### Two orders of the same replies -/

/-- Whether two lists hold the same replies in the same order for each request, however
the replies of different requests are mixed and whenever they come in. -/
def SameForEach (replies replies' : List (Message × Millis)) : Prop :=
  ∀ id, (bearing id replies).map Prod.fst = (bearing id replies').map Prod.fst

/-- The first reply for a request is the first among those that bear its id. -/
theorem firstReply?_eq (id : Int64) (replies : List (Message × Millis)) :
    firstReply? id replies = ((bearing id replies).map Prod.fst).find? Message.isReply := by
  induction replies with
  | nil => rfl
  | cons first rest ih =>
    obtain ⟨reply, moment⟩ := first
    rw [firstReply?, List.map_cons, List.find?_cons]
    change (match reply.repliesTo id with
      | true => some reply
      | false => firstReply? id rest) = _
    by_cases hid : reply.requestId = id
    · have hbears : (reply.requestId == id) = true := beq_iff_eq.2 hid
      rw [bearing_cons_of_eq hid, List.map_cons, List.find?_cons, ih, Message.repliesTo, hbears,
        Bool.and_true]
      rfl
    · rw [bearing_cons_of_ne hid, ih, repliesTo_of_ne hid]

/-- When the replies for each request come in the same order, the first ones are the same. -/
theorem SameForEach.firstReply?_eq {replies replies' : List (Message × Millis)}
    (h : SameForEach replies replies') (id : Int64) :
    firstReply? id replies = firstReply? id replies' := by
  rw [Correlator.firstReply?_eq, Correlator.firstReply?_eq, h id]

/-- What is collected is what has been delivered. -/
theorem fst_collect (c : Correlator) (id : Int64) :
    (c.collect id).1 = c.delivered.lookup id := by
  rw [collect]
  cases c.delivered.lookup id <;> rfl

/-- What the caller of a request finds after some replies. -/
theorem fst_collect_receiveEach (c : Correlator) (replies : List (Message × Millis)) (id : Int64) :
    ((c.receiveEach replies).2.collect id).1 =
      (c.delivered.lookup id).or
        ((c.table.expected? id).bind fun expected =>
          (firstReply? id replies).map (verdictOf expected)) := by
  rw [fst_collect, lookup_delivered_receiveEach]

/-- No other reply makes a difference to a request than those for it. -/
theorem SameForEach.receiveEach_eq {replies replies' : List (Message × Millis)}
    (h : SameForEach replies replies') (c : Correlator) :
    (∀ id, ((c.receiveEach replies).2.collect id).1 = ((c.receiveEach replies').2.collect id).1) ∧
      (c.receiveEach replies).2.table.pending = (c.receiveEach replies').2.table.pending := by
  constructor
  · intro id
    rw [fst_collect_receiveEach, fst_collect_receiveEach, h.firstReply?_eq]
  · rw [pending_receiveEach, pending_receiveEach]
    apply List.filter_congr
    intro entry _
    rw [h.firstReply?_eq]

/-- Replies bring nothing to the caller of a request that is not in flight. -/
theorem receiveEach_of_not_pending {id : Int64} (h : id ∉ c.table.pending.map Prod.fst)
    (replies : List (Message × Millis)) :
    ((c.receiveEach replies).2.collect id).1 = (c.collect id).1 ∧
      id ∉ (c.receiveEach replies).2.table.pending.map Prod.fst := by
  constructor
  · rw [fst_collect_receiveEach, expected?_eq_none_iff.2 h, fst_collect]
    exact Option.or_none
  · rw [pending_receiveEach]
    intro hstays
    obtain ⟨entry, hentry, rfl⟩ := List.mem_map.1 hstays
    exact h (List.mem_map_of_mem (List.mem_of_mem_filter hentry))

namespace Session

variable {s : Session} {removals : List (Int64 × Move)}

/-- A request in flight is resolved by the first reply for it, and stays in flight without
an outcome when there is none. -/
theorem Accounted.receiveEach_of_pending (h : Accounted s removals)
    (replies : List (Message × Millis)) {id : Int64} {expected : Tag}
    (hmem : (id, expected) ∈ s.pending) :
    (∀ reply, firstReply? id replies = some reply →
      ((s.correlator.receiveEach replies).2.collect id).1 = some (verdictOf expected reply) ∧
        id ∉ (s.correlator.receiveEach replies).2.table.pending.map Prod.fst) ∧
    (firstReply? id replies = none →
      ((s.correlator.receiveEach replies).2.collect id).1 = none ∧
        (id, expected) ∈ (s.correlator.receiveEach replies).2.table.pending) := by
  have hfound : s.correlator.table.expected? id = some expected :=
    lookup_of_mem h.pendingIds_nodup hmem
  have hnone : s.correlator.delivered.lookup id = none := by
    cases hdelivered : s.correlator.delivered.lookup id with
    | none => rfl
    | some verdict =>
      exact absurd (List.mem_map_of_mem hmem) (h.not_mem_pendingIds (by rw [hdelivered]; rfl))
  rw [fst_collect_receiveEach, pending_receiveEach, hfound, hnone]
  constructor
  · intro reply hfirst
    rw [hfirst]
    refine ⟨rfl, ?_⟩
    intro hstays
    obtain ⟨entry, hentry, rfl⟩ := List.mem_map.1 hstays
    have hnoreply := (List.mem_filter.1 hentry).2
    rw [hfirst] at hnoreply
    cases hnoreply
  · intro hfirst
    rw [hfirst]
    exact ⟨rfl, List.mem_filter.2 ⟨hmem, by rw [hfirst]; rfl⟩⟩

/-- The ids of recorded requests are positive. -/
theorem Accounted.pos_of_recorded {n : Nat} (h : Accounted s removals) (hnumbered : Numbered n s)
    {id : Int64} (hid : id ∈ s.recorded.map Prod.fst) : 0 < id.toInt := by
  obtain ⟨request, hrequest, rfl⟩ := List.mem_map.1 hid
  have hentered := h.entered request hrequest
  refine (hnumbered.bounded request.1 ?_).1
  intro hunused
  rw [hunused] at hentered
  cases hentered

/-- No request has the id zero. -/
theorem Accounted.zero_not_mem {n : Nat} (h : Accounted s removals) (hnumbered : Numbered n s) :
    (0 : Int64) ∉ s.recorded.map Prod.fst := by
  intro hmem
  exact absurd (h.pos_of_recorded hnumbered hmem) (by decide)

/-- A caller gets a message only by a reply for its request. -/
theorem exists_reply_of_verdict? {move : Move} {id : Int64} {expected : Tag} {reply : Message}
    (h : move.verdict? id expected = some (.ok reply)) :
    ∃ message, move = .reply message ∧ message.requestId = id ∧
      verdictOf expected message = .ok reply := by
  cases move with
  | reply message =>
    rw [Move.verdict?] at h
    by_cases hid : message.requestId = id
    · rw [if_pos hid] at h
      exact ⟨message, rfl, hid, Option.some.inj h⟩
    · rw [if_neg hid] at h
      cases h
  | cancel other | poll other clockFirst =>
    rw [Move.verdict?] at h
    split at h <;> cases h
  | _ => cases h

/-- What a caller gets that waits for a reply bears the id of its request and has the type
that was recorded. -/
theorem Accounted.settled_ok {n : Nat} (h : Accounted s removals) (hnumbered : Numbered n s)
    {id : Int64} {reply : Message} (hsettled : s.stage id = .settled (.ok reply)) :
    reply.requestId? = some id ∧ (id, reply.tag) ∈ s.recorded := by
  obtain ⟨expected, move, hrecorded, -, hverdict⟩ := h.settled id (.ok reply) hsettled
  obtain ⟨message, -, hid, hok⟩ := exists_reply_of_verdict? hverdict
  rw [verdictOf] at hok
  by_cases htag : message.tag = expected
  · rw [if_pos htag] at hok
    cases hok
    refine ⟨?_, htag ▸ hrecorded⟩
    cases hread : reply.requestId? with
    | some other =>
      rw [Message.requestId, hread] at hid
      exact congrArg some hid
    | none =>
      rw [Message.requestId, hread] at hid
      obtain rfl : (0 : Int64) = id := hid
      exact absurd (List.mem_map.2 ⟨_, hrecorded, rfl⟩) (h.zero_not_mem hnumbered)
  · rw [if_neg htag] at hok
    cases hok

/-- A message without an id that can be read counts as one with the id zero. -/
theorem requestId_of_unreadable {m : Message}
    (h : ∀ id, m.bag.getInt64 Bag.requestIdKey ≠ .ok (some id)) : m.requestId = 0 := by
  have hstored : Message.storedRequestId m.bag = 0 := by
    rw [Message.storedRequestId]
    split
    next id hid => exact absurd hid (h id)
    next => rfl
  rw [Message.requestId, Message.requestId?, hstored]
  cases m.hasRequestId <;> rfl

/-- A reply without an id that can be read finds no request and is not remembered. -/
theorem Accounted.receive_of_unreadable {n : Nat} (h : Accounted s removals)
    (hnumbered : Numbered n s) {reply : Message}
    (hid : ∀ id, reply.bag.getInt64 Bag.requestIdKey ≠ .ok (some id)) (now : Millis) :
    (s.correlator.receive reply now).2.table.pending = s.pending ∧
      (s.correlator.receive reply now).2.delivered = s.correlator.delivered ∧
      (reply.isReply = true → (s.correlator.receive reply now).1 = .error (.unmatched 0)) := by
  have hzero : reply.requestId = 0 := requestId_of_unreadable hid
  have hfound : s.correlator.table.expected? reply.requestId = none := by
    rw [hzero]
    apply expected?_eq_none_iff.2
    intro hpending
    exact h.zero_not_mem hnumbered (h.mem_pendingIds.1 hpending).1
  have hforgotten : s.correlator.table.isRetiredWithin 0 now s.correlator.retiredTtl = false := by
    rw [Bool.eq_false_iff]
    intro hretired
    obtain ⟨moment, hmem, -⟩ := isRetiredWithin_iff.1 hretired
    have hremoved := h.retired 0 (List.mem_map.2 ⟨(0, moment), hmem, rfl⟩)
    exact h.zero_not_mem hnumbered (h.removals_recorded 0 hremoved)
  refine ⟨?_, ?_, ?_⟩
  · rw [snd_receive, hfound]
    cases reply.isReply <;> rfl
  · rw [snd_receive, hfound]
    cases reply.isReply <;> rfl
  · intro hreply
    rw [fst_receive, answerByAge, if_pos hreply, hfound, hzero, hforgotten]
    rfl

/-- What comes of replies that come in one after the other, each at its moment. -/
structure RepliesCommute (s : Session) : Prop where
  /-- The request of a caller that is in flight is resolved by the first of them for it and
  stays in flight when there is none; -/
  first : ∀ replies id expected, (id, expected) ∈ s.pending →
    (∀ reply, firstReply? id replies = some reply →
      ((s.correlator.receiveEach replies).2.collect id).1 = some (verdictOf expected reply) ∧
        id ∉ (s.correlator.receiveEach replies).2.table.pending.map Prod.fst) ∧
    (firstReply? id replies = none →
      ((s.correlator.receiveEach replies).2.collect id).1 = none ∧
        (id, expected) ∈ (s.correlator.receiveEach replies).2.table.pending)
  /-- no other caller learns anything. -/
  others : ∀ replies id, id ∉ s.pending.map Prod.fst →
    ((s.correlator.receiveEach replies).2.collect id).1 = (s.correlator.collect id).1 ∧
      id ∉ (s.correlator.receiveEach replies).2.table.pending.map Prod.fst
  /-- So of two lists with the same replies in the same order for each request, whatever lies
  between them, every caller learns the same and the same requests stay in flight, -/
  outcomes : ∀ replies replies', SameForEach replies replies' →
    (∀ id, ((s.correlator.receiveEach replies).2.collect id).1 =
      ((s.correlator.receiveEach replies').2.collect id).1) ∧
    (s.correlator.receiveEach replies).2.table.pending =
      (s.correlator.receiveEach replies').2.table.pending
  /-- and when each reply comes in at the same moment it gets the same answer. -/
  answers : ∀ replies replies', (∀ id, bearing id replies = bearing id replies') →
    InTime replies → InTime replies' →
      ∀ id, s.correlator.answersTo id replies = s.correlator.answersTo id replies'
  /-- What a caller gets that waits for a reply bears the id of its request and has the type
  that was recorded. -/
  settled : ∀ id reply, s.stage id = .settled (.ok reply) →
    reply.requestId? = some id ∧ (id, reply.tag) ∈ s.recorded
  /-- A reply without an id that can be read finds no request. -/
  unreadable : ∀ (reply : Message) (now : Millis),
    (∀ id, reply.bag.getInt64 Bag.requestIdKey ≠ .ok (some id)) →
      (s.correlator.receive reply now).2.table.pending = s.pending ∧
      (s.correlator.receive reply now).2.delivered = s.correlator.delivered ∧
      (reply.isReply = true → (s.correlator.receive reply now).1 = .error (.unmatched 0))

/-- After any moves, replies for different requests may come in in any order. -/
theorem run_replies_commute (codec : Codec) (settings : Settings) (moves : List Move)
    (hids : moves.countP Move.takesId < 9223372036854775808) :
    RepliesCommute ((start codec settings).run moves).1 := by
  have hzero : 0 + moves.countP Move.takesId < 9223372036854775808 := by
    rw [Nat.zero_add]
    exact hids
  obtain ⟨⟨n, hnumbered⟩, haccounted⟩ := numbered_accounted_run moves
    (numbered_start codec settings) (accounted_start codec settings) hzero
  exact {
    first := fun replies _ _ hmem => haccounted.receiveEach_of_pending replies hmem
    others := fun replies _ hnot => receiveEach_of_not_pending hnot replies
    outcomes := fun _ _ hsame => hsame.receiveEach_eq _
    answers := fun replies replies' hbearing htime htime' id => by
      rw [answersTo_eq (Alike.refl id 0 _) (fun _ _ => Nat.zero_le _) htime,
        answersTo_eq (Alike.refl id 0 _) (fun _ _ => Nat.zero_le _) htime', hbearing id]
    settled := fun _ _ hsettled => haccounted.settled_ok hnumbered hsettled
    unreadable := fun _ now hid => haccounted.receive_of_unreadable hnumbered hid now }

/-- Two requests in flight and one that was cancelled. -/
def twoInFlight : List Move :=
  [.stamp (Message.request .heartbeat) none, .enter 1, .transmitted 1,
    .stamp (Message.request .connect) none, .enter 2, .transmitted 2,
    .stamp (Message.request .terminate) none, .enter 3, .transmitted 3, .cancel 3, .deliver 0]

/-- Replies for two requests and for one that was cancelled may come in any order. -/
theorem run_replies_commute_twoInFlight :
    twoInFlight.countP Move.takesId < 9223372036854775808 ∧
      RepliesCommute ((start Codec.standard {}).run twoInFlight).1 :=
  have hids : twoInFlight.countP Move.takesId < 9223372036854775808 := by decide
  ⟨hids, run_replies_commute Codec.standard {} twoInFlight hids⟩

end Session

end Correlator

end Parley
