/-
# Late replies

What becomes of a reply depends on the history of the session and not on when the table
was looked through.  A session that forgets nothing by age and compares ages on looking
up is the same session in everything else and gives the same answers; what it remembers
are exactly the requests that were given up and for which no reply has come since.
-/

import Parley.Proofs.Correlator.Resolution

namespace Parley

namespace Correlator

open InFlight

/-! ### Remembering something else -/

/-- A correlator that remembers other requests as given up. -/
def withRetired (c : Correlator) (retired : List (Int64 × Millis)) : Correlator :=
  { c with table := { c.table with retired } }

section

variable (c : Correlator) (retired : List (Int64 × Millis))

/-- Whatever is remembered as given up, a request is stamped alike. -/
theorem stamp_withRetired (request : Message) :
    (c.withRetired retired).stamp request =
      ((c.stamp request).1, (c.stamp request).2.1, (c.stamp request).2.2.withRetired retired) := by
  cases hexpected : request.expectedReply? with
  | none => simp only [stamp, hexpected]
  | some expected =>
    by_cases hid : request.hasRequestId = true
    · simp only [stamp, hexpected, hid, if_true]
      rfl
    · simp only [stamp, hexpected, if_neg hid]
      rfl

/-- Whatever is remembered, a request is given up if it is in flight. -/
theorem retire?_withRetired (id : Int64) (now : Millis) :
    ∃ retired', (c.withRetired retired).table.retire? id now (c.withRetired retired).retiredTtl =
      (c.table.retire? id now c.retiredTtl).map fun table =>
        { table with retired := retired' } := by
  refine ⟨(recent now c.retiredTtl retired).filter (·.1 != id) ++ [(id, now)], ?_⟩
  cases hfound : c.table.expected? id with
  | none =>
    have hfound' : (c.withRetired retired).table.expected? id = none := hfound
    simp only [retire?, hfound, hfound', Option.isSome_none, Bool.false_eq_true, if_false,
      Option.map_none]
  | some expected =>
    have hfound' : (c.withRetired retired).table.expected? id = some expected := hfound
    simp only [retire?, hfound, hfound', Option.isSome_some, if_true]
    rfl

/-- Whatever is remembered, a request is cancelled alike. -/
theorem giveUp_withRetired (id : Int64) (now : Millis) :
    ∃ retired', (c.withRetired retired).giveUp id now =
      ((c.giveUp id now).1, (c.giveUp id now).2.withRetired retired') := by
  obtain ⟨retired', hretire⟩ := retire?_withRetired c retired id now
  rw [giveUp, giveUp, hretire]
  cases c.table.retire? id now c.retiredTtl with
  | none => exact ⟨retired, rfl⟩
  | some table => exact ⟨retired', rfl⟩

/-- Whatever is remembered, a request is abandoned alike. -/
theorem abandon_withRetired (id : Int64) (now : Millis) :
    ∃ retired', (c.withRetired retired).abandon id now =
      (c.abandon id now).withRetired retired' := by
  obtain ⟨retired', h⟩ := giveUp_withRetired c retired id now
  refine ⟨retired', ?_⟩
  rw [abandon, h]
  rfl

/-- Whatever is remembered, a reply goes to the same caller. -/
theorem route_withRetired (reply : Message) (now : Millis) :
    ∃ retired', ((c.withRetired retired).route reply now).2 =
      ((c.route reply now).2.1, (c.route reply now).2.2.withRetired retired') := by
  by_cases hreply : reply.isReply = true
  · cases hfound : c.table.expected? reply.requestId with
    | some expected =>
      have hfound' : (c.withRetired retired).table.expected? reply.requestId = some expected :=
        hfound
      refine ⟨retired, ?_⟩
      rw [route_of_pending hreply hfound, route_of_pending hreply hfound']
      rfl
    | none =>
      have hfound' : (c.withRetired retired).table.expected? reply.requestId = none := hfound
      refine ⟨(recent now c.retiredTtl retired).filter (·.1 != reply.requestId), ?_⟩
      rw [route_of_not_pending hreply hfound, route_of_not_pending hreply hfound']
      rfl
  · refine ⟨retired, ?_⟩
    rw [route_of_not_isReply hreply, route_of_not_isReply hreply]

/-- Whatever is remembered, the same outcome is found. -/
theorem collect_withRetired (id : Int64) :
    (c.withRetired retired).collect id =
      ((c.collect id).1, (c.collect id).2.withRetired retired) := by
  cases hlook : c.delivered.lookup id with
  | none =>
    have hlook' : (c.withRetired retired).delivered.lookup id = none := hlook
    simp only [collect, hlook, hlook']
  | some verdict =>
    have hlook' : (c.withRetired retired).delivered.lookup id = some verdict := hlook
    simp only [collect, hlook, hlook']
    rfl

/-- Whatever is remembered, a deadline strikes alike. -/
theorem expire_withRetired (id : Int64) (now : Millis) :
    ∃ retired', (c.withRetired retired).expire id now =
      ((c.expire id now).1, (c.expire id now).2.withRetired retired') := by
  obtain ⟨retired', hretire⟩ := retire?_withRetired c retired id now
  rw [expire, expire, hretire]
  cases c.table.retire? id now c.retiredTtl with
  | none => exact ⟨retired, rfl⟩
  | some table => exact ⟨retired', rfl⟩

/-- Whatever is remembered, a caller that looks for its outcome finds the same. -/
theorem poll_withRetired (id : Int64) (deadline : Option Millis) (now : Millis)
    (clockFirst : Bool) :
    ∃ retired', (c.withRetired retired).poll id deadline now clockFirst =
      ((c.poll id deadline now clockFirst).1,
        (c.poll id deadline now clockFirst).2.withRetired retired') := by
  by_cases hpassed : (deadline.any fun deadline => decide (deadline ≤ now)) = true
  · obtain ⟨struck, hstrike⟩ := expire_withRetired c retired id now
    cases clockFirst with
    | true =>
      simp only [poll, hpassed, if_true, hstrike]
      rcases hexpire : c.expire id now with ⟨_ | _, after⟩
      · exact ⟨struck, collect_withRetired after struck id⟩
      · exact ⟨struck, rfl⟩
    | false =>
      simp only [poll, hpassed, if_true, if_false, Bool.false_eq_true, collect_withRetired]
      rcases hcollect : c.collect id with ⟨_ | verdict, after⟩
      · obtain ⟨struck, hstrike⟩ := expire_withRetired after retired id now
        refine ⟨struck, ?_⟩
        simp only [hstrike]
        rcases after.expire id now with ⟨_ | _, after⟩ <;> rfl
      · exact ⟨retired, rfl⟩
  · refine ⟨retired, ?_⟩
    simp only [poll, if_neg hpassed, collect_withRetired]
end

namespace Session

variable {s after : Session} {removals : List (Int64 × Move)} {history : List Happening}

/-- What a session remembers as given up has no bearing on what its moves do, except on
what it then remembers. -/
theorem move_withRetired (s : Session) (retired : List (Int64 × Millis)) (move : Move) :
    ∃ retired', (s.withRetired retired).move move = (s.move move).withRetired retired' := by
  have hstage : ∀ id, (s.withRetired retired).stage id = s.stage id := fun _ => rfl
  cases move with
  | stamp request timeout =>
    refine ⟨retired, ?_⟩
    have hstamp : (s.withRetired retired).correlator.stamp request =
        ((s.correlator.stamp request).1, (s.correlator.stamp request).2.1,
          (s.correlator.stamp request).2.2.withRetired retired) :=
      stamp_withRetired s.correlator retired request
    simp only [Session.move, hstamp]
    rcases s.correlator.stamp request with ⟨stamped, fault | ready, c⟩ <;> rfl
  | skip => exact ⟨retired, rfl⟩
  | enter id | transmitted id | refused id | forsake id | wait id =>
    refine ⟨retired, ?_⟩
    simp only [Session.move, hstage]
    cases s.stage id <;> rfl
  | reply message =>
    obtain ⟨retired', h⟩ := route_withRetired s.correlator retired message s.now
    have hroute : ((s.withRetired retired).correlator.route message s.now).2 =
        ((s.correlator.route message s.now).2.1,
          (s.correlator.route message s.now).2.2.withRetired retired') := h
    refine ⟨retired', ?_⟩
    change (s.withRetired retired).owe
      ((s.withRetired retired).correlator.route message s.now).2.1.toList
      ((s.withRetired retired).correlator.route message s.now).2.2 = _
    rw [hroute]
    rfl
  | cancel id =>
    obtain ⟨retired', h⟩ := giveUp_withRetired s.correlator retired id s.now
    have hgive : (s.withRetired retired).correlator.giveUp id (s.withRetired retired).now =
        ((s.correlator.giveUp id s.now).1,
          (s.correlator.giveUp id s.now).2.withRetired retired') := h
    refine ⟨retired', ?_⟩
    simp only [Session.move, hgive]
    rfl
  | close => exact ⟨retired, rfl⟩
  | deliver index =>
    refine ⟨retired, ?_⟩
    have hdue : (s.withRetired retired).due = s.due := rfl
    simp only [Session.move, hdue]
    cases s.due[index]? <;> rfl
  | drop id =>
    obtain ⟨retired', h⟩ := abandon_withRetired s.correlator retired id s.now
    have habandon : (s.withRetired retired).correlator.abandon id (s.withRetired retired).now =
        (s.correlator.abandon id s.now).withRetired retired' := h
    simp only [Session.move, hstage, habandon]
    cases s.stage id with
    | held deadline => exact ⟨retired', rfl⟩
    | waiting deadline => exact ⟨retired', rfl⟩
    | _ => exact ⟨retired, rfl⟩
  | poll id clockFirst =>
    cases hwaiting : s.stage id with
    | waiting deadline =>
      obtain ⟨retired', h⟩ :=
        poll_withRetired s.correlator retired id deadline s.now clockFirst
      have hpoll : (s.withRetired retired).correlator.poll id deadline (s.withRetired retired).now
          clockFirst = ((s.correlator.poll id deadline s.now clockFirst).1,
            (s.correlator.poll id deadline s.now clockFirst).2.withRetired retired') := h
      refine ⟨retired', ?_⟩
      simp only [Session.move, hstage, hwaiting, hpoll]
      rcases s.correlator.poll id deadline s.now clockFirst with ⟨_ | verdict, c⟩ <;> rfl
    | _ =>
      refine ⟨retired, ?_⟩
      simp only [Session.move, hstage, hwaiting]
  | pass span => exact ⟨retired, rfl⟩

/-! ### What a move leaves of what was given up -/

/-- The table after a request is given up if it is in flight. -/
theorem snd_giveUp (c : Correlator) (id : Int64) (now : Millis) :
    (c.giveUp id now).2 = { c with table := (c.table.retire? id now c.retiredTtl).getD c.table } := by
  rcases giveUp_cases c id now with ⟨table, hretire, hgive⟩ | ⟨hretire, hgive⟩
  · rw [hgive, hretire]
    rfl
  · rw [hgive, hretire]
    rfl

/-- A move that may give a request up does so if it resolves the request and finds it in
flight. -/
theorem table_move_of_givenUp? (h : Accounted s removals) {move : Move} {id : Int64}
    (hgives : move.givenUp? = some id) :
    (s.move move).correlator.table =
      if (s.happening move).resolves id then
        (s.correlator.table.retire? id s.now s.correlator.retiredTtl).getD s.correlator.table
      else s.correlator.table := by
  cases move with
  | cancel other =>
    obtain rfl : other = id := Option.some.inj hgives
    rw [if_pos (show (s.happening (.cancel other)).resolves other = true from beq_self_eq_true other)]
    exact congrArg Correlator.table (snd_giveUp s.correlator other s.now)
  | drop other =>
    obtain rfl : other = id := Option.some.inj hgives
    have hown : ∀ b, (s.stage other).hasHandle = b →
        (s.happening (.drop other)).resolves other = b := by
      rintro b rfl
      change (other == other && (s.stage other).hasHandle) = _
      rw [beq_self_eq_true, Bool.true_and]
    cases hstage : s.stage other with
    | held deadline | waiting deadline =>
      rw [if_pos (hown true (by rw [hstage]; rfl))]
      simp only [Session.move, hstage]
      exact congrArg Correlator.table (snd_giveUp s.correlator other s.now)
    | _ =>
      rw [hown false (by rw [hstage]; rfl)]
      simp only [Session.move, hstage, Bool.false_eq_true, if_false]
  | poll other clockFirst =>
    obtain rfl : other = id := Option.some.inj hgives
    have hown : ∀ b, (s.stage other).isOverdue s.now = b →
        (s.happening (.poll other clockFirst)).resolves other = b := by
      rintro b rfl
      change (other == other && (s.stage other).isOverdue s.now) = _
      rw [beq_self_eq_true, Bool.true_and]
    cases hstage : s.stage other with
    | waiting deadline =>
      rcases poll_cases s.correlator other deadline s.now clockFirst with
        ⟨verdict, hlook, hpoll⟩ | ⟨table, hpassed, hretire, hpoll⟩ | ⟨hstrike, hpoll⟩
      · have hout : other ∉ s.pendingIds := h.not_mem_pendingIds (by rw [hlook]; rfl)
        rw [retire?_eq_none_iff.2 hout]
        simp only [Session.move, hstage, hpoll, Option.getD_none, ite_self]
        rfl
      · rw [if_pos (hown true (by rw [hstage]; exact hpassed)), hretire]
        simp only [Session.move, hstage, hpoll]
        rfl
      · simp only [Session.move, hstage, hpoll]
        by_cases hpassed : (s.stage other).isOverdue s.now = true
        · rw [hstage] at hpassed
          rw [hstrike hpassed, Option.getD_none, ite_self]
        · rw [hown false (Bool.eq_false_iff.2 hpassed), if_neg Bool.false_ne_true]
    | _ =>
      rw [hown false (by rw [hstage]; rfl)]
      simp only [Session.move, hstage, Bool.false_eq_true, if_false]
  | _ => cases hgives

/-- Time does not go back, and the age at which a request is forgotten stays the same. -/
structure Steady (s after : Session) : Prop where
  now : s.now ≤ after.now
  retiredTtl : after.correlator.retiredTtl = s.correlator.retiredTtl

/-- No move turns the clock back or changes that age. -/
theorem steady_move (s : Session) (move : Move) : Steady s (s.move move) := by
  have hgive : ∀ id, (s.correlator.giveUp id s.now).2.retiredTtl = s.correlator.retiredTtl := by
    intro id
    rw [snd_giveUp]
  cases move with
  | stamp request timeout =>
    simp only [Session.move]
    rcases stamp_cases s.correlator request with
      ⟨ready, stamped, -, hstamp⟩ | ⟨fault, refused, c, hc, hstamp⟩
    · simp only [hstamp]
      exact ⟨Nat.le_refl _, rfl⟩
    · simp only [hstamp]
      rcases hc with rfl | rfl <;> exact ⟨Nat.le_refl _, rfl⟩
  | enter id | transmitted id | refused id | forsake id | wait id =>
    simp only [Session.move]
    cases s.stage id <;> exact ⟨Nat.le_refl _, rfl⟩
  | drop id =>
    simp only [Session.move]
    cases s.stage id with
    | held deadline | waiting deadline => exact ⟨Nat.le_refl _, hgive id⟩
    | _ => exact ⟨Nat.le_refl _, rfl⟩
  | reply message =>
    rcases route_cases s.correlator message s.now with
      ⟨expected, receipt, -, hroute⟩ | ⟨receipt, table, hroute, -⟩
    · simp only [Session.move, hroute]
      exact ⟨Nat.le_refl _, rfl⟩
    · simp only [Session.move, hroute]
      exact ⟨Nat.le_refl _, rfl⟩
  | cancel id => exact ⟨Nat.le_refl _, hgive id⟩
  | deliver index =>
    simp only [Session.move]
    cases s.due[index]? <;> exact ⟨Nat.le_refl _, rfl⟩
  | poll id clockFirst =>
    cases hstage : s.stage id with
    | waiting deadline =>
      rcases poll_cases s.correlator id deadline s.now clockFirst with
        ⟨verdict, -, hpoll⟩ | ⟨table, -, -, hpoll⟩ | ⟨-, hpoll⟩
      · simp only [Session.move, hstage, hpoll]
        exact ⟨Nat.le_refl _, rfl⟩
      · simp only [Session.move, hstage, hpoll]
        exact ⟨Nat.le_refl _, rfl⟩
      · simp only [Session.move, hstage, hpoll]
        exact ⟨Nat.le_refl _, rfl⟩
    | _ =>
      simp only [Session.move, hstage]
      exact ⟨Nat.le_refl _, rfl⟩
  | pass span => exact ⟨Nat.le_add_right _ _, rfl⟩
  | _ => exact ⟨Nat.le_refl _, rfl⟩

/-- A move that gives up what it resolves remembers it when it is in flight. -/
theorem keep_of_givenUp? {move : Move} {id : Int64} (h : move.givenUp? = some id) :
    s.keep move =
      if (s.correlator.table.expected? id).isSome && (s.happening move).resolves id then
        s.retired.filter (·.1 != id) ++ [(id, s.now)]
      else s.retired := by
  cases move with
  | cancel other => cases h; rfl
  | drop other => cases h; rfl
  | poll other clockFirst => cases h; rfl
  | _ => cases h

/-- What is young enough after a request is given up, if it is in flight, is what it would be
if nothing was forgotten by age. -/
theorem recent_retired_of_givenUp? (h : Accounted s removals) {move : Move} {id : Int64}
    (hgives : move.givenUp? = some id) :
    recent s.now s.correlator.retiredTtl (s.move move).retired =
      recent s.now s.correlator.retiredTtl (s.keep move) := by
  rw [keep_of_givenUp? hgives, retired, table_move_of_givenUp? h hgives]
  cases hresolves : (s.happening move).resolves id with
  | false =>
    rw [if_neg Bool.false_ne_true, Bool.and_false, if_neg Bool.false_ne_true]
    rfl
  | true =>
    rw [if_pos rfl, Bool.and_true]
    cases hretire : s.correlator.table.retire? id s.now s.correlator.retiredTtl with
    | none =>
      have hnone := expected?_eq_none_iff.2 (retire?_eq_none_iff.1 hretire)
      rw [hnone, Option.isSome_none, if_neg Bool.false_ne_true]
      rfl
    | some table =>
      obtain ⟨hfound, rfl⟩ := retire?_eq_some_iff.1 hretire
      rw [if_pos hfound, Option.getD_some, recent_append, recent_append, recent_filter_ne,
        recent_filter_ne, recent_recent (Nat.le_refl _)]
      rfl

/-- A move that is no reply and gives nothing up leaves everything remembered. -/
theorem keep_of_givenUp?_eq_none {move : Move} (h : move.givenUp? = none)
    (hreply : ∀ message, move ≠ .reply message) : s.keep move = s.retired := by
  cases move with
  | reply message => exact absurd rfl (hreply message)
  | cancel id => cases h
  | drop id => cases h
  | poll id clockFirst => cases h
  | _ => rfl

/-- A reply for a request that is not in flight asks for it. -/
theorem keep_reply_of_asks {message : Message} (hreply : message.isReply = true)
    (hfound : s.correlator.table.expected? message.requestId = none) :
    s.keep (.reply message) = s.retired.filter (·.1 != message.requestId) := by
  simp only [keep, hreply, hfound, Option.isNone_none, Bool.and_true, if_true]

/-- Any other message that comes in asks for nothing. -/
theorem keep_reply_of_not_asks {message : Message}
    (h : message.isReply = true →
      (s.correlator.table.expected? message.requestId).isSome = true) :
    s.keep (.reply message) = s.retired := by
  rw [keep, if_neg]
  intro hasks
  obtain ⟨hreply, hnone⟩ := Bool.and_eq_true_iff.1 hasks
  rw [Option.isNone_iff_eq_none] at hnone
  have hsome := h hreply
  rw [hnone] at hsome
  cases hsome

/-- The arrival of a reply answers the request that it names. -/
theorem answers_reply {message : Message} {id : Int64} :
    (s.happening (.reply message)).Answers id ↔
      message.isReply = true ∧ message.requestId = id := by
  constructor
  · rintro ⟨answer, hmove, hanswer⟩
    cases hmove
    exact hanswer
  · intro hanswer
    exact ⟨message, rfl, hanswer⟩

/-- A reply leaves everything remembered except for its own request when that is not in
flight. -/
theorem mem_keep_reply {message : Message} {id : Int64} {moment : Millis} :
    (id, moment) ∈ s.keep (.reply message) ↔
      (id, moment) ∈ s.retired ∧
        (message.isReply = true → message.requestId = id → id ∈ s.pendingIds) := by
  by_cases hreply : message.isReply = true
  · cases hfound : s.correlator.table.expected? message.requestId with
    | some expected =>
      have hpending : message.requestId ∈ s.pendingIds :=
        List.mem_map_of_mem (mem_pending_of_expected? hfound)
      rw [keep_reply_of_not_asks fun _ => by rw [hfound]; rfl]
      constructor
      · intro hmem
        exact ⟨hmem, fun _ hid => hid ▸ hpending⟩
      · exact And.left
    | none =>
      have hpending : message.requestId ∉ s.pendingIds := expected?_eq_none_iff.1 hfound
      rw [keep_reply_of_asks hreply hfound, List.mem_filter, bne_iff_ne]
      constructor
      · rintro ⟨hmem, hne⟩
        exact ⟨hmem, fun _ hid => absurd hid.symm hne⟩
      · rintro ⟨hmem, hasks⟩
        refine ⟨hmem, ?_⟩
        rintro rfl
        exact hpending (hasks hreply rfl)
  · rw [keep_reply_of_not_asks fun h => absurd h hreply]
    exact ⟨fun hmem => ⟨hmem, fun h => absurd h hreply⟩, And.left⟩

/-- What is young enough after any move is what it would be if nothing was forgotten by age. -/
theorem recent_retired_move (h : Accounted s removals) (move : Move) :
    recent s.now s.correlator.retiredTtl (s.move move).retired =
      recent s.now s.correlator.retiredTtl (s.keep move) := by
  cases move with
  | cancel id => exact recent_retired_of_givenUp? h rfl
  | drop id => exact recent_retired_of_givenUp? h rfl
  | poll id clockFirst => exact recent_retired_of_givenUp? h rfl
  | reply message =>
    by_cases hreply : message.isReply = true
    · cases hfound : s.correlator.table.expected? message.requestId with
      | some expected =>
        rw [keep_reply_of_not_asks fun _ => by rw [hfound]; rfl]
        simp only [Session.move, route_of_pending hreply hfound]
        rfl
      | none =>
        rw [keep_reply_of_asks hreply hfound, recent_filter_ne]
        simp only [Session.move, route_of_not_pending hreply hfound]
        change recent _ _ ((recent s.now s.correlator.retiredTtl s.retired).filter _) = _
        rw [recent_filter_ne, recent_recent (Nat.le_refl _)]
    · rw [keep_reply_of_not_asks fun h => absurd h hreply]
      simp only [Session.move, route_of_not_isReply hreply]
      rfl
  | stamp request timeout =>
    simp only [Session.move]
    rcases stamp_cases s.correlator request with
      ⟨ready, stamped, -, hstamp⟩ | ⟨fault, refused, c, hc, hstamp⟩
    · simp only [hstamp]
      rfl
    · simp only [hstamp]
      rcases hc with rfl | rfl <;> rfl
  | enter id | transmitted id | refused id | forsake id | wait id =>
    simp only [Session.move]
    cases s.stage id <;> rfl
  | deliver index =>
    simp only [Session.move]
    cases s.due[index]? <;> rfl
  | _ => rfl

/-- A request is in flight when it is found. -/
theorem mem_pendingIds_iff {id : Int64} :
    id ∈ s.pendingIds ↔ (s.correlator.table.expected? id).isSome = true := by
  rw [Option.isSome_iff_ne_none, ne_eq, expected?_eq_none_iff, not_not]
  rfl

/-- What is remembered after a move: the request that it gives up, and all others except
for the request that it asks for. -/
theorem mem_keep_iff {move : Move} {id : Int64} {moment : Millis} :
    (id, moment) ∈ s.keep move ↔
      (id ∈ s.pendingIds ∧ (s.happening move).GivesUp id ∧ s.now = moment) ∨
        ((id, moment) ∈ s.retired ∧ ¬ (id ∈ s.pendingIds ∧ (s.happening move).GivesUp id) ∧
          ((s.happening move).Answers id → id ∈ s.pendingIds)) := by
  by_cases hreply : ∃ message, move = .reply message
  · obtain ⟨message, rfl⟩ := hreply
    have hkeeps : ¬ (s.happening (.reply message)).GivesUp id := by
      rintro ⟨hgives, -⟩
      cases hgives
    rw [mem_keep_reply, answers_reply]
    simp only [hkeeps, and_false, false_and, false_or, not_false_eq_true, true_and, and_imp]
  · have hother : ∀ message, move ≠ .reply message := fun message heq => hreply ⟨message, heq⟩
    have hsilent : ¬ (s.happening move).Answers id := by
      rintro ⟨message, hmove, -⟩
      exact hother message hmove
    cases hgiven : move.givenUp? with
    | none =>
      have hkeeps : ¬ (s.happening move).GivesUp id := by
        rintro ⟨hgives, -⟩
        cases hgiven.symm.trans hgives
      rw [keep_of_givenUp?_eq_none hgiven hother]
      simp only [hkeeps, hsilent, and_false, false_and, false_or, not_false_eq_true, false_implies,
        and_true]
    | some other =>
      have hgives : (id ∈ s.pendingIds ∧ (s.happening move).GivesUp id) ↔
          other = id ∧ ((s.correlator.table.expected? other).isSome &&
            (s.happening move).resolves other) = true := by
        rw [Bool.and_eq_true, ← mem_pendingIds_iff]
        constructor
        · rintro ⟨hpending, hgives, hresolves⟩
          obtain rfl : other = id := Option.some.inj (hgiven.symm.trans hgives)
          exact ⟨rfl, hpending, hresolves⟩
        · rintro ⟨rfl, hpending, hresolves⟩
          exact ⟨hpending, hgiven, hresolves⟩
      rw [keep_of_givenUp? hgiven, ← and_assoc, hgives]
      by_cases hgone : ((s.correlator.table.expected? other).isSome &&
          (s.happening move).resolves other) = true
      · rw [if_pos hgone, List.mem_append, List.mem_filter, List.mem_singleton, bne_iff_ne,
          Prod.mk.injEq, or_comm]
        simp only [hgone, hsilent, and_true, false_implies, ne_eq, eq_comm]
      · rw [if_neg hgone]
        simp only [hgone, hsilent, Bool.false_eq_true, and_false, false_and, false_or,
          not_false_eq_true, false_implies, and_true]

/-! ### Remembering everything -/

/-- What is remembered after a move depends, up to what is too old, on what was. -/
theorem recent_keep {ttl : Millis} {retired : List (Int64 × Millis)}
    (h : recent s.now ttl retired = recent s.now ttl s.retired) (move : Move) :
    recent s.now ttl ((s.withRetired retired).keep move) = recent s.now ttl (s.keep move) := by
  cases hgiven : move.givenUp? with
  | some id =>
    have hasked : (((s.withRetired retired).correlator.table.expected? id).isSome &&
        ((s.withRetired retired).happening move).resolves id) =
          ((s.correlator.table.expected? id).isSome && (s.happening move).resolves id) := rfl
    rw [keep_of_givenUp? hgiven, keep_of_givenUp? hgiven, hasked]
    by_cases hgone : ((s.correlator.table.expected? id).isSome &&
        (s.happening move).resolves id) = true
    · rw [if_pos hgone, if_pos hgone, recent_append, recent_append, recent_filter_ne,
        recent_filter_ne]
      exact congrArg (fun young => young.filter (·.1 != id) ++ recent s.now ttl [(id, s.now)]) h
    · rw [if_neg hgone, if_neg hgone]
      exact h
  | none =>
    by_cases hreply : ∃ message, move = .reply message
    · obtain ⟨message, rfl⟩ := hreply
      have hexpected : (s.withRetired retired).correlator.table.expected? message.requestId =
          s.correlator.table.expected? message.requestId := rfl
      by_cases hasks : message.isReply = true ∧
          s.correlator.table.expected? message.requestId = none
      · obtain ⟨hreply, hfound⟩ := hasks
        rw [keep_reply_of_asks hreply (hexpected.trans hfound), keep_reply_of_asks hreply hfound,
          recent_filter_ne, recent_filter_ne]
        exact congrArg (fun young => young.filter (·.1 != message.requestId)) h
      · have hsilent : message.isReply = true →
            (s.correlator.table.expected? message.requestId).isSome = true := by
          intro hreply
          rw [Option.isSome_iff_ne_none]
          intro hnone
          exact hasks ⟨hreply, hnone⟩
        rw [keep_reply_of_not_asks (s := s.withRetired retired) hsilent,
          keep_reply_of_not_asks hsilent]
        exact h
    · have hother : ∀ message, move ≠ .reply message := fun message heq => hreply ⟨message, heq⟩
      rw [keep_of_givenUp?_eq_none hgiven hother, keep_of_givenUp?_eq_none hgiven hother]
      exact h

/-- A session that forgets nothing by age, beside the session itself and its history: it
differs in what it remembers, which is what the history tells, and not in what is young
enough of this. -/
structure Recalls (s kept : Session) (history : List Happening) : Prop where
  alike : kept = s.withRetired kept.retired
  recent : recent s.now s.correlator.retiredTtl kept.retired =
    recent s.now s.correlator.retiredTtl s.retired
  outstanding : ∀ id moment, (id, moment) ∈ kept.retired ↔ Outstanding history id moment

/-- No request in flight is outstanding. -/
theorem Chronicled.not_outstanding (h : Chronicled s removals history) {id : Int64}
    (hpending : id ∈ s.pendingIds) (moment : Millis) : ¬ Outstanding history id moment := by
  intro hout
  obtain ⟨happening, hresolved⟩ := hout.exists_resolvedBy
  have hremoved := (h.traced.removals id happening.move).2 ⟨happening, hresolved, rfl⟩
  exact (h.accounted.mem_pendingIds.1 hpending).2 (List.mem_map_of_mem hremoved)

/-- After a move a session that forgets nothing by age remembers what is outstanding. -/
theorem Recalls.mem_keep {kept : Session} (h : Recalls s kept history)
    (hchronicled : Chronicled s removals history) (move : Move) (id : Int64) (moment : Millis) :
    (id, moment) ∈ kept.keep move ↔ Outstanding (history ++ [s.happening move]) id moment := by
  have hhappening : kept.happening move = s.happening move := by
    rw [h.alike]
    rfl
  have hpending : kept.pendingIds = s.pendingIds := by
    rw [h.alike]
    rfl
  have hnow : kept.now = s.now := by
    rw [h.alike]
    rfl
  rw [mem_keep_iff, hhappening, hpending, hnow, h.outstanding, outstanding_append,
    hchronicled.traced.mem_pendingIds]
  constructor
  · rintro (hnew | ⟨hout, -, hanswers⟩)
    · exact .inl hnew
    · refine .inr ⟨hout, ?_⟩
      intro hreply
      have hpending := hchronicled.traced.mem_pendingIds.2 (hanswers hreply)
      exact hchronicled.not_outstanding hpending moment hout
  · rintro (hnew | ⟨hout, hsilent⟩)
    · exact .inl hnew
    · refine .inr ⟨hout, ?_, fun hreply => absurd hreply hsilent⟩
      rintro ⟨hopen, -⟩
      exact hchronicled.not_outstanding (hchronicled.traced.mem_pendingIds.2 hopen) moment hout

/-- A session that forgets nothing by age keeps beside the other. -/
theorem Recalls.move {kept : Session} (h : Recalls s kept history)
    (hchronicled : Chronicled s removals history) (move : Move) :
    Recalls (s.move move) (kept.moveKeeping move) (history ++ [s.happening move]) where
  alike := by
    obtain ⟨retired, hmove⟩ := move_withRetired s kept.retired move
    have hkept : kept.move move = (s.move move).withRetired retired := by
      rw [← hmove, ← h.alike]
    rw [moveKeeping, hkept]
    rfl
  recent := by
    have hsteady := steady_move s move
    have hkeep : InFlight.recent s.now s.correlator.retiredTtl (kept.keep move) =
        InFlight.recent s.now s.correlator.retiredTtl (s.keep move) := by
      rw [h.alike]
      exact recent_keep h.recent move
    have hnow : InFlight.recent s.now s.correlator.retiredTtl (kept.keep move) =
        InFlight.recent s.now s.correlator.retiredTtl (s.move move).retired :=
      hkeep.trans (recent_retired_move hchronicled.accounted move).symm
    change InFlight.recent _ _ (kept.keep move) = _
    rw [hsteady.retiredTtl, ← recent_recent hsteady.now (kept.keep move), hnow,
      recent_recent hsteady.now]
  outstanding id moment := h.mem_keep hchronicled move id moment

/-- Beside a session in which fewer than 2⁶³ ids are used up, one that forgets nothing by
age remembers what is outstanding. -/
theorem recalls_run (moves : List Move) {kept : Session} {n : Nat} (hnumbered : Numbered n s)
    (hchronicled : Chronicled s removals history) (hrecalls : Recalls s kept history)
    (hids : n + moves.countP Move.takesId < 9223372036854775808) :
    Recalls (s.runFrom removals moves).1 (kept.runKeeping moves) (history ++ s.history moves) := by
  induction moves generalizing s removals kept history n with
  | nil =>
    rw [Session.history, List.append_nil]
    exact hrecalls
  | cons move moves ih =>
    obtain ⟨hfresh, m, hrest, hnumbered⟩ := hnumbered.first_move hids
    have hafter := ih hnumbered (hchronicled.move hfresh) (hrecalls.move hchronicled move) hrest
    rw [List.append_assoc] at hafter
    exact hafter

/-- In the beginning there is nothing to remember. -/
theorem recalls_start (codec : Codec) (settings : Settings) :
    Recalls (start codec settings) (start codec settings) [] where
  alike := rfl
  recent := rfl
  outstanding id moment := by simp [Outstanding, start, retired, Correlator.new]

/-! ### Answers -/

/-- What is asked for by age is what is outstanding and young enough. -/
theorem Recalls.isRetiredWithin_iff {kept : Session} (h : Recalls s kept history) {id : Int64} :
    s.correlator.table.isRetiredWithin id s.now s.correlator.retiredTtl = true ↔
      ∃ moment, Outstanding history id moment ∧ s.now - moment < s.correlator.retiredTtl := by
  rw [isRetiredWithin_congr h.recent.symm, InFlight.isRetiredWithin_iff]
  exact exists_congr fun moment => and_congr_left fun _ => h.outstanding id moment

/-- A session that forgets nothing by age gives the same answers. -/
theorem Recalls.answerByAge_eq {kept : Session} (h : Recalls s kept history) (reply : Message) :
    (s.correlator.receive reply s.now).1 = kept.correlator.answerByAge reply kept.now := by
  have hasked : kept.correlator.table.isRetiredWithin reply.requestId s.now
      s.correlator.retiredTtl =
        s.correlator.table.isRetiredWithin reply.requestId s.now s.correlator.retiredTtl :=
    isRetiredWithin_congr h.recent reply.requestId
  rw [fst_receive, answerByAge, answerByAge, ← hasked, h.alike]
  rfl

/-- A request that nothing has resolved is found in the table. -/
theorem Chronicled.expected?_eq_some (h : Chronicled s removals history) {id : Int64}
    {expected : Tag} (hopen : Unresolved history id expected) :
    s.correlator.table.expected? id = some expected :=
  lookup_of_mem h.accounted.pendingIds_nodup ((h.traced.pending id expected).2 hopen)

/-- Any other request is not. -/
theorem Chronicled.expected?_eq_none (h : Chronicled s removals history) {id : Int64}
    (hclosed : ∀ expected, ¬ Unresolved history id expected) :
    s.correlator.table.expected? id = none := by
  apply expected?_eq_none_iff.2
  intro hpending
  obtain ⟨expected, hopen⟩ := h.traced.mem_pendingIds.1 hpending
  exact hclosed expected hopen

/-- The age at which a request is forgotten is that of the settings. -/
theorem retiredTtl_runFrom (moves : List Move) :
    (s.runFrom removals moves).1.correlator.retiredTtl = s.correlator.retiredTtl := by
  induction moves generalizing s removals with
  | nil => rfl
  | cons move moves ih =>
    rw [runFrom, ih]
    exact (steady_move s move).retiredTtl

/-- How a session answers a reply, told by its history, and by `kept`, a session that made the
same moves and forgot nothing by age. -/
structure AnswersByHistory (s kept : Session) (history : List Happening) (ttl : Millis) : Prop where
  /-- When the request of a reply was recorded and nothing has resolved it since, the reply is
  matched if it has the type that was recorded. -/
  unresolved : ∀ (reply : Message) (expected : Tag), reply.isReply = true →
    Unresolved history reply.requestId expected →
      (s.correlator.receive reply s.now).1 =
        if reply.tag = expected then .ok .matched
        else .error (.replyTypeMismatch expected reply.tag)
  /-- Otherwise it is dropped quietly when the request was given up less than the time to live
  ago and no reply for it has come since, -/
  discarded : ∀ reply : Message, reply.isReply = true →
    (∀ expected, ¬ Unresolved history reply.requestId expected) →
    (∃ moment, Outstanding history reply.requestId moment ∧ s.now - moment < ttl) →
      (s.correlator.receive reply s.now).1 = .ok .discarded
  /-- and all other replies are unmatched. -/
  unmatched : ∀ reply : Message, reply.isReply = true →
    (∀ expected, ¬ Unresolved history reply.requestId expected) →
    (¬ ∃ moment, Outstanding history reply.requestId moment ∧ s.now - moment < ttl) →
      (s.correlator.receive reply s.now).1 = .error (.unmatched reply.requestId)
  /-- The type of reply that is recorded with an id, and the timeout, are those of the request
  that the id was given to. -/
  stamped : ∀ before recording since id expected timeout,
    history = before ++ recording :: since → recording.stage id = .stamped expected timeout →
      Stamped before id expected timeout
  /-- How far the caller of a request that nothing has resolved has come is told by the moves
  since the request was recorded, and by nothing else. -/
  stage : ∀ before recording since id expected timeout,
    history = before ++ recording :: since → recording.move = .enter id →
    recording.stage id = .stamped expected timeout →
    (∀ later ∈ since, later.resolves id = false) →
      s.stage id = stageSince id (timeout.map (recording.moment + ·)) since
  /-- When the table was looked through cannot be told: a session that forgets nothing by age
  comes to the same state except for what it remembers, -/
  same : kept = s.withRetired kept.retired
  /-- it remembers all that is outstanding, -/
  outstanding : ∀ id moment, (id, moment) ∈ kept.retired ↔ Outstanding history id moment
  /-- and when ages are compared on looking up its answers are the same. -/
  alike : ∀ reply : Message,
    (s.correlator.receive reply s.now).1 = kept.correlator.answerByAge reply kept.now
  /-- The table is looked through when a request is given up: only entries remain that are young
  enough, apart from the one that is added. -/
  recent_retire : ∀ id table, s.correlator.table.retire? id s.now ttl = some table →
    ∀ entry ∈ table.retired, entry = (id, s.now) ∨ s.now - entry.2 < ttl
  /-- It is looked through when a reply comes for a request that is not in flight. -/
  recent_receive : ∀ reply : Message, reply.isReply = true →
    s.correlator.table.expected? reply.requestId = none →
      ∀ entry ∈ (s.correlator.receive reply s.now).2.table.retired, s.now - entry.2 < ttl

/-- After any moves the answer to a reply is told by the history of the moves, and in
particular it cannot be told when the table was looked through. -/
theorem run_answers_by_history (codec : Codec) (settings : Settings) (moves : List Move)
    (hids : moves.countP Move.takesId < 9223372036854775808) :
    AnswersByHistory ((start codec settings).run moves).1 ((start codec settings).runKeeping moves)
      ((start codec settings).history moves) settings.retiredReplyTtl := by
  have hzero : 0 + moves.countP Move.takesId < 9223372036854775808 := by
    rw [Nat.zero_add]
    exact hids
  have hchronicled := chronicled_run moves (numbered_start codec settings)
    (chronicled_start codec settings) hzero
  have hrecalls := recalls_run moves (numbered_start codec settings)
    (chronicled_start codec settings) (recalls_start codec settings) hzero
  have httl : ((start codec settings).runFrom [] moves).1.correlator.retiredTtl =
      settings.retiredReplyTtl := retiredTtl_runFrom moves
  -- A reply for a request that is not in flight is asked for by age.
  have hlate : ∀ reply : Message, reply.isReply = true →
      (∀ expected, ¬ Unresolved ((start codec settings).history moves) reply.requestId expected) →
        (((start codec settings).run moves).1.correlator.receive reply
          ((start codec settings).run moves).1.now).1 =
        if ((start codec settings).run moves).1.correlator.table.isRetiredWithin reply.requestId
            ((start codec settings).run moves).1.now
            ((start codec settings).run moves).1.correlator.retiredTtl then .ok .discarded
        else .error (.unmatched reply.requestId) := by
    intro reply hreply hclosed
    rw [fst_receive, answerByAge, if_pos hreply, Session.run, hchronicled.expected?_eq_none hclosed]
  exact {
    unresolved := fun reply expected hreply hopen => by
      rw [fst_receive, answerByAge, if_pos hreply, Session.run,
        hchronicled.expected?_eq_some hopen]
    discarded := fun reply hreply hclosed hyoung => by
      rw [hlate reply hreply hclosed, if_pos]
      exact hrecalls.isRetiredWithin_iff.2 (httl ▸ hyoung)
    unmatched := fun reply hreply hclosed hold => by
      rw [hlate reply hreply hclosed, if_neg]
      intro hyoung
      exact hold (httl ▸ hrecalls.isRetiredWithin_iff.1 hyoung)
    stamped := hchronicled.origin
    stage := hchronicled.stage
    same := hrecalls.alike
    outstanding := hrecalls.outstanding
    alike := hrecalls.answerByAge_eq
    recent_retire := fun id table hretire entry hentry => by
      obtain ⟨-, rfl⟩ := retire?_eq_some_iff.1 hretire
      rcases List.mem_append.1 hentry with hold | hnew
      · exact .inr (mem_recent.1 (List.mem_of_mem_filter hold)).2
      · exact .inl (List.mem_singleton.1 hnew)
    recent_receive := fun reply hreply hfound entry hentry => by
      rw [receive, route_of_not_pending hreply hfound] at hentry
      have hyoung := (mem_recent.1 (List.mem_of_mem_filter hentry)).2
      exact httl ▸ hyoung }

/-- Two requests are given up, one by its caller and one at its deadline, and time passes
until the first is too old to be remembered and the second is not. -/
def oneTooOld : List Move :=
  [.stamp (Message.request .heartbeat) none, .enter 1, .transmitted 1,
    .stamp (Message.request .connect) (some 10), .enter 2, .transmitted 2, .wait 2,
    .cancel 1, .pass 10, .poll 2 true, .pass 59990]

/-- A reply for the first request is unmatched by then, and one for the second is dropped. -/
theorem run_answers_by_history_oneTooOld :
    oneTooOld.countP Move.takesId < 9223372036854775808 ∧
      AnswersByHistory ((start Codec.standard {}).run oneTooOld).1
        ((start Codec.standard {}).runKeeping oneTooOld)
        ((start Codec.standard {}).history oneTooOld) ({} : Settings).retiredReplyTtl :=
  have hids : oneTooOld.countP Move.takesId < 9223372036854775808 := by decide
  ⟨hids, run_answers_by_history Codec.standard {} oneTooOld hids⟩

end Session

end Correlator

end Parley
