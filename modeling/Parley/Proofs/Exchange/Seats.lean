/-
# The tasks of a call

Three tasks work at a call: its caller, its handler and its engine call.  What each of
them is at follows from the place of the call.  No task works at two calls, because the
handler and the engine call of a call carry its id with them.  So a step of one task
concerns one call, and the tasks of all other calls are where they were.
-/

import Parley.Proofs.Exchange.Ledger

namespace Parley.Exchange

open Parley.Frame (Bytes)

/-! ### What a step does to the tasks -/

/-- A step has set the work of one task and may have added one task behind the others. -/
structure Turn (e e' : Exchange) (t : TaskId) (work : Work) (added : Option Work) : Prop where
  self : e'.work? t = some work
  other : ∀ m, m ≠ t → m < e.tasks.length → e'.work? m = e.work? m
  fresh : e'.work? e.tasks.length = added
  beyond : ∀ m, e.tasks.length < m → e'.work? m = none
  aborting : ∀ m, e'.aborting m = e.aborting m

section Turns

variable {e e' : Exchange} {t m : TaskId} {work before new : Work} {added : Option Work}

/-- Behind the last task there is none. -/
theorem work?_of_length_le (h : e.tasks.length ≤ m) : e.work? m = none := by
  rw [work?, List.getElem?_eq_none h]
  rfl

/-- A task that goes on has had its turn. -/
theorem Turn.of_modify (hwork : e.work? t = some before)
    (htasks : e'.tasks = e.tasks.modify t fun task => { task with work }) :
    Turn e e' t work none where
  self := by rw [work?_of_modify htasks, if_pos rfl, hwork, Option.map_some]
  other m hm _ := by rw [work?_of_modify htasks, if_neg hm]
  fresh := work?_of_length_le (Nat.le_of_eq (by rw [htasks, List.length_modify]))
  beyond m hm := work?_of_length_le (by rw [htasks, List.length_modify]; exact Nat.le_of_lt hm)
  aborting := aborting_of_modify htasks

/-- A task that goes on and adds another one has had its turn. -/
theorem Turn.of_append (hwork : e.work? t = some before)
    (htasks : e'.tasks =
      (e.tasks.modify t fun task => { task with work }) ++ [{ work := new }]) :
    Turn e e' t work (some new) := by
  have hmid : Turn e (e.setWork t work) t work none := Turn.of_modify hwork rfl
  have hlength : (e.setWork t work).tasks.length = e.tasks.length := List.length_modify _ _ _
  have happend : ∀ m, e'.work? m =
      if m = e.tasks.length then some new else (e.setWork t work).work? m := by
    intro m
    rw [work?_of_append (e := e.setWork t work) htasks, hlength]
  have hlt : t < e.tasks.length := lt_of_work? hwork
  refine ⟨?_, fun m hm hml => ?_, ?_, fun m hm => ?_, fun m => ?_⟩
  · rw [happend, if_neg (Nat.ne_of_lt hlt)]
    exact hmid.self
  · rw [happend, if_neg (Nat.ne_of_lt hml)]
    exact hmid.other m hm hml
  · rw [happend, if_pos rfl]
  · rw [happend, if_neg (Nat.ne_of_gt hm)]
    exact hmid.beyond m hm
  · rw [aborting_of_append (e := e.setWork t work) htasks]
    exact hmid.aborting m

/-- A handler that forwards a request waits for the engine call that it has added. -/
theorem Turn.forward {h : Handler} (job : Dispatcher.Job) (hwork : e.work? t = some (.handler h)) :
    Turn e (e.forward t h job) t
      (.handler { h with
        phase := .joining job e.tasks.length (e.dispatcher.track job.id e.tasks.length).1 })
      (some (.engineCall { request := h.request, blank := job.blank })) := by
  have hlt : t < e.tasks.length := lt_of_work? hwork
  refine ⟨?_, fun m hm hml => ?_, ?_, fun m hm => ?_, fun m => ?_⟩
  · rw [work?_forward job hwork, if_pos rfl]
  · rw [work?_forward job hwork, if_neg hm, if_neg (Nat.ne_of_lt hml)]
  · rw [work?_forward job hwork, if_neg (Nat.ne_of_gt hlt), if_pos rfl]
  · refine work?_of_length_le ?_
    rw [length_forward]
    exact hm
  · exact aborting_forward h job m

/-- What a task is at after a step that it was at before, or it is the one that was added. -/
theorem Turn.cases (h : Turn e e' t work added) {w : Work} (hm : e'.work? m = some w) :
    m = t ∧ w = work ∨ m = e.tasks.length ∧ added = some w ∨
      m ≠ t ∧ m ≠ e.tasks.length ∧ e.work? m = some w := by
  by_cases hmt : m = t
  · subst hmt
    rw [h.self] at hm
    exact Or.inl ⟨rfl, (Option.some.inj hm).symm⟩
  · rcases Nat.lt_trichotomy m e.tasks.length with hlt | heq | hgt
    · rw [h.other m hmt hlt] at hm
      exact Or.inr (Or.inr ⟨hmt, Nat.ne_of_lt hlt, hm⟩)
    · subst heq
      rw [h.fresh] at hm
      exact Or.inr (Or.inl ⟨rfl, hm⟩)
    · rw [h.beyond m hgt] at hm
      cases hm

/-- A task other than the one that took the step is where it was. -/
theorem Turn.keep (h : Turn e e' t work added) {w : Work} (hmt : m ≠ t) (hm : e.work? m = some w) :
    e'.work? m = some w :=
  (h.other m hmt (lt_of_work? hm)).trans hm

end Turns

/-! ### Seats -/

/-- The id under which a caller waits that has sent its request. -/
def Place.awaited? : Place → Option Int64
  | .sending _ => none
  | place => place.id?

/-- A call whose reply is awaited has its id. -/
theorem Place.id?_of_awaited? {place : Place} {id : Int64} (h : place.awaited? = some id) :
    place.id? = some id := by
  cases place <;> first | exact h | cases h

/-- What the task in a seat of a call is at.  `right` and `left` tell what the senders have
written of their frames in either direction. -/
inductive At (s : Service) (right left : TaskId → Bytes) (u : TaskId) (call : Engine.Call) :
    Place → Seat → Work → Prop where
  | departing (timeout : Option Millis) :
      At s right left u call .departing .caller
        (.caller (.starting call.request timeout (.answer (.engine call))))
  | sending {handle : Handle} {rest : Bytes} (hrest : rest ≠ [])
      (hreads : s.server.Reads s.serverReads (call.sentAs handle.id) (right u ++ rest)) :
      At s right left u call (.sending handle.id) .caller
        (.caller (.transmitting (call.sentAs handle.id) handle rest (.answer (.engine call))))
  | waiting {place : Place} {handle : Handle} (hplace : place.awaited? = some handle.id) :
      At s right left u call place .caller (.caller (.waiting handle (.answer (.engine call))))
  | done {outcome : Engine.Outcome} {result : Except Fault Client.Answer}
      (hresult : outcome.result? call = some result) :
      At s right left u call (.done outcome) .caller (.ended (.answer result))
  | accepted {id : Int64} {h : TaskId} :
      At s right left u call (.accepted id h) .handler
        (.handler { request := call.sentAs id, purpose := .send (.link .right) })
  | joining {place : Place} {id : Int64} {h c : TaskId} {tracked : Bool}
      (hplace : place = .forwarded id h c ∨ ∃ outcome, place = .called id h c outcome) :
      At s right left u call place .handler
        (.handler
          { request := call.sentAs id, purpose := .send (.link .right)
            phase := .joining ⟨id, Message.reply call.operation⟩ c tracked })
  | replying {id : Int64} {h : TaskId} {outcome : Engine.Outcome} {reply : Message} {rest : Bytes}
      (hreply : call.Replies id outcome reply) (hrest : rest ≠ [])
      (hreads : s.client.Reads s.clientReads reply (left h ++ rest)) :
      At s right left u call (.replying id h outcome) .handler
        (.handler
          { request := call.sentAs id, purpose := .send (.link .right)
            phase := .transmitting rest })
  | starting {id : Int64} {h c : TaskId} :
      At s right left u call (.forwarded id h c) .engine
        (.engineCall { request := call.sentAs id, blank := Message.reply call.operation })
  | working {id : Int64} {h c : TaskId} {outcome next : Engine.Outcome}
      (hnext : next.ending? call (Message.reply call.operation) =
        outcome.ending? call (Message.reply call.operation)) :
      At s right left u call (.called id h c outcome) .engine
        (.engineCall
          { request := call.sentAs id, blank := Message.reply call.operation
            phase := .working call next })
  | sleeping {id : Int64} {h c : TaskId} {outcome next : Engine.Outcome} {moment : Millis}
      (hnext : next.ending? call (Message.reply call.operation) =
        outcome.ending? call (Message.reply call.operation)) :
      At s right left u call (.called id h c outcome) .engine
        (.engineCall
          { request := call.sentAs id, blank := Message.reply call.operation
            phase := .sleeping moment call next })
  | returned {id : Int64} {h c : TaskId} {outcome : Engine.Outcome} {ending : Engine.Ending}
      (hending : outcome.ending? call (Message.reply call.operation) = some ending) :
      At s right left u call (.called id h c outcome) .engine (.ended (.call ending))

namespace At

variable {s : Service} {right right' left left' : TaskId → Bytes} {u : TaskId}
  {call : Engine.Call} {place : Place} {seat : Seat} {work : Work}

/-- A task that has not ended sits in the seat that its work tells, and if it is not the
caller it has the id of the call. -/
theorem seat_eq (h : At s right left u call place seat work) :
    (∃ result, work = .ended result) ∨ (seat = .caller ∧ ∃ c, work = .caller c) ∨
      (seat = .handler ∧ ∃ x, work = .handler x ∧ place.id? = some x.request.requestId) ∨
      seat = .engine ∧ ∃ x, work = .engineCall x ∧ place.id? = some x.request.requestId := by
  cases h with
  | departing timeout => exact Or.inr (Or.inl ⟨rfl, _, rfl⟩)
  | sending hrest hreads => exact Or.inr (Or.inl ⟨rfl, _, rfl⟩)
  | waiting hplace => exact Or.inr (Or.inl ⟨rfl, _, rfl⟩)
  | done hresult => exact Or.inl ⟨_, rfl⟩
  | accepted =>
    refine Or.inr (Or.inr (Or.inl ⟨rfl, _, rfl, ?_⟩))
    rw [Engine.Call.requestId_sentAs]
    rfl
  | joining hplace =>
    refine Or.inr (Or.inr (Or.inl ⟨rfl, _, rfl, ?_⟩))
    rw [Engine.Call.requestId_sentAs]
    rcases hplace with rfl | ⟨outcome, rfl⟩ <;> rfl
  | replying hreply hrest hreads =>
    refine Or.inr (Or.inr (Or.inl ⟨rfl, _, rfl, ?_⟩))
    rw [Engine.Call.requestId_sentAs]
    rfl
  | starting =>
    refine Or.inr (Or.inr (Or.inr ⟨rfl, _, rfl, ?_⟩))
    rw [Engine.Call.requestId_sentAs]
    rfl
  | working hnext =>
    refine Or.inr (Or.inr (Or.inr ⟨rfl, _, rfl, ?_⟩))
    rw [Engine.Call.requestId_sentAs]
    rfl
  | sleeping hnext =>
    refine Or.inr (Or.inr (Or.inr ⟨rfl, _, rfl, ?_⟩))
    rw [Engine.Call.requestId_sentAs]
    rfl
  | returned hending => exact Or.inl ⟨_, rfl⟩

/-- What is written of other frames does not matter. -/
theorem congr (h : At s right left u call place seat work) (hright : right' u = right u)
    (hleft : ∀ id m outcome, place = .replying id m outcome → left' m = left m) :
    At s right' left' u call place seat work := by
  cases h with
  | departing timeout => exact .departing timeout
  | sending hrest hreads => exact .sending hrest (by rw [hright]; exact hreads)
  | waiting hplace => exact .waiting hplace
  | done hresult => exact .done hresult
  | accepted => exact .accepted
  | joining hplace => exact .joining hplace
  | replying hreply hrest hreads =>
    exact .replying hreply hrest (by rw [hleft _ _ _ rfl]; exact hreads)
  | starting => exact .starting
  | working hnext => exact .working hnext
  | sleeping hnext => exact .sleeping hnext
  | returned hending => exact .returned hending

/-- A caller that waits goes on waiting while its call goes on. -/
theorem wait {place' : Place} (h : At s right left u call place .caller work)
    (hplace : place.awaited?.isSome = true) (hplace' : place'.awaited? = place.awaited?) :
    At s right' left' u call place' .caller work := by
  cases h with
  | departing timeout => cases hplace
  | sending hrest hreads => cases hplace
  | done hresult => cases hplace
  | waiting h => exact .waiting (hplace'.trans h)

end At

/-! ### All tasks -/

/-- Every seat is taken by a task that is at what the place of the call says, and every task
sits in a seat, runs a loop or has ended. -/
structure Seated (s : Service) (works : TaskId → Option Work) (L : Ledger) : Prop where
  seated : ∀ u ticket seat t, L.tickets u = some ticket → ticket.task? u seat = some t →
    ∃ work, works t = some work ∧ At s L.rightward.written L.leftward.written u ticket.call
      ticket.place seat work
  owned : ∀ t work, works t = some work → t = 0 ∨ t = 1 ∨ (∃ result, work = .ended result) ∨
    ∃ u ticket seat, L.tickets u = some ticket ∧ ticket.task? u seat = some t

/-- No two calls have the same id. -/
def Distinct (tickets : TaskId → Option Ticket) : Prop :=
  ∀ u v id, facet Ticket.id? tickets u = some id → facet Ticket.id? tickets v = some id → u = v

namespace Seated

variable {s : Service} {e e' : Exchange} {works : TaskId → Option Work} {L L' : Ledger}
  {t u v : TaskId} {ticket ticket' : Ticket} {seat seat' : Seat} {work : Work}
  {added : Option Work}

/-- What the task in a seat is at. -/
theorem at_of (h : Seated s works L) (hu : L.tickets u = some ticket)
    (ht : ticket.task? u seat = some t) (hwork : works t = some work) :
    At s L.rightward.written L.leftward.written u ticket.call ticket.place seat work := by
  obtain ⟨work', hwork', hat⟩ := h.seated u ticket seat t hu ht
  rw [hwork] at hwork'
  rw [Option.some.inj hwork']
  exact hat

/-- A caller that has sent its request waits under the id of its call. -/
theorem exists_waiting {place : Place} {call : Engine.Call} {id : Int64} (h : Seated s works L)
    (hu : L.tickets u = some ⟨call, place⟩) (hplace : place.awaited? = some id) :
    ∃ handle, works u = some (.caller (.waiting handle (.answer (.engine call)))) ∧
      handle.id = id := by
  obtain ⟨work, hwork, hat⟩ := h.seated u _ .caller u hu rfl
  cases hat with
  | departing timeout => cases hplace
  | sending hrest hreads => cases hplace
  | done hresult => cases hplace
  | waiting hid =>
    rw [hplace] at hid
    exact ⟨_, hwork, (Option.some.inj hid).symm⟩

/-- A task that has not ended sits in one seat of one call. -/
theorem unique (h : Seated s works L) (hdistinct : Distinct L.tickets)
    (hwork : works t = some work) (hlive : ∀ result, work ≠ .ended result)
    (hu : L.tickets u = some ticket) (ht : ticket.task? u seat = some t)
    (hv : L.tickets v = some ticket') (ht' : ticket'.task? v seat' = some t) :
    u = v ∧ seat = seat' := by
  have hat := h.at_of hu ht hwork
  have hat' := h.at_of hv ht' hwork
  have hid : ∀ id, ticket.place.id? = some id → ticket'.place.id? = some id → u = v :=
    fun id hidu hidv => hdistinct u v id ((facet_of hu).trans hidu) ((facet_of hv).trans hidv)
  rcases hat.seat_eq with ⟨result, rfl⟩ | ⟨rfl, c, rfl⟩ | ⟨rfl, x, rfl, hx⟩ | ⟨rfl, x, rfl, hx⟩
  · exact absurd rfl (hlive result)
  · rcases hat'.seat_eq with ⟨result, heq⟩ | ⟨rfl, c', heq⟩ | ⟨rfl, x, heq, hx⟩ | ⟨rfl, x, heq, hx⟩
    · cases heq
    · cases ht
      cases ht'
      exact ⟨rfl, rfl⟩
    · cases heq
    · cases heq
  · rcases hat'.seat_eq with ⟨result, heq⟩ | ⟨rfl, c', heq⟩ | ⟨rfl, x', heq, hx'⟩ |
      ⟨rfl, x', heq, hx'⟩
    · cases heq
    · cases heq
    · cases heq
      exact ⟨hid _ hx hx', rfl⟩
    · cases heq
  · rcases hat'.seat_eq with ⟨result, heq⟩ | ⟨rfl, c', heq⟩ | ⟨rfl, x', heq, hx'⟩ |
      ⟨rfl, x', heq, hx'⟩
    · cases heq
    · cases heq
    · cases heq
    · cases heq
      exact ⟨hid _ hx hx', rfl⟩

/-- A task that has not ended and runs no loop sits in a seat. -/
theorem exists_seat (h : Seated s works L) (hwork : works t = some work)
    (hlive : ∀ result, work ≠ .ended result) (h0 : t ≠ 0) (h1 : t ≠ 1) :
    ∃ u ticket seat, L.tickets u = some ticket ∧ ticket.task? u seat = some t ∧
      At s L.rightward.written L.leftward.written u ticket.call ticket.place seat work := by
  rcases h.owned t work hwork with heq | heq | ⟨result, heq⟩ | ⟨u, ticket, seat, hu, ht⟩
  · exact absurd heq h0
  · exact absurd heq h1
  · exact absurd heq (hlive result)
  · exact ⟨u, ticket, seat, hu, ht, h.at_of hu ht hwork⟩

/-- The tickets change at one call: the tasks of this call are seated anew, and all others
stay. -/
theorem advance (h : Seated s e.work? L) (hturn : Turn e e' t work added)
    (hu : L.tickets u = some ticket)
    (hfree : ∀ v ticket seat, v ≠ u → L.tickets v = some ticket → ticket.task? v seat ≠ some t)
    (htickets : L'.tickets = Function.update L.tickets u (some ticket'))
    (hright : ∀ m, m ≠ t → L'.rightward.written m = L.rightward.written m)
    (hleft : ∀ m, m ≠ t → L'.leftward.written m = L.leftward.written m)
    (hat : ∀ seat m, ticket'.task? u seat = some m → ∃ w, e'.work? m = some w ∧
      At s L'.rightward.written L'.leftward.written u ticket'.call ticket'.place seat w)
    (hself : t = 0 ∨ t = 1 ∨ (∃ result, work = .ended result) ∨
      ∃ seat, ticket'.task? u seat = some t)
    (hadded : ∀ w, added = some w → ∃ seat, ticket'.task? u seat = some e.tasks.length)
    (hkept : ∀ seat m w, ticket.task? u seat = some m → m ≠ t → e.work? m = some w →
      (∃ result, w = .ended result) ∨ ∃ seat, ticket'.task? u seat = some m) :
    Seated s e'.work? L' := by
  have hticket : L'.tickets u = some ticket' := by rw [htickets, Function.update_self]
  refine ⟨fun v tv seat m hv hm => ?_, fun m w hw => ?_⟩
  · by_cases hvu : v = u
    · subst hvu
      rw [hticket] at hv
      cases hv
      exact hat seat m hm
    · rw [htickets, Function.update_of_ne hvu] at hv
      obtain ⟨w, hw, hatv⟩ := h.seated v tv seat m hv hm
      have hmt : m ≠ t := by
        rintro rfl
        exact hfree v tv seat hvu hv hm
      refine ⟨w, hturn.keep hmt hw, hatv.congr (hright v ?_) fun id n outcome hplace => hleft n ?_⟩
      · rintro rfl
        exact hfree v tv .caller hvu hv rfl
      · rintro rfl
        apply hfree v tv .handler hvu hv
        rw [Ticket.task?, hplace]
  · rcases hturn.cases hw with ⟨rfl, rfl⟩ | ⟨rfl, hnew⟩ | ⟨hmt, -, hold⟩
    · refine hself.imp_right (Or.imp_right (Or.imp_right ?_))
      rintro ⟨seat, hm⟩
      exact ⟨u, ticket', seat, hticket, hm⟩
    · obtain ⟨seat, hm⟩ := hadded w hnew
      exact Or.inr (Or.inr (Or.inr ⟨u, ticket', seat, hticket, hm⟩))
    · rcases h.owned m w hold with h0 | h1 | hended | ⟨v, tv, seat, hv, hm⟩
      · exact Or.inl h0
      · exact Or.inr (Or.inl h1)
      · exact Or.inr (Or.inr (Or.inl hended))
      · by_cases hvu : v = u
        · subst hvu
          rw [hu] at hv
          cases hv
          rcases hkept seat m w hm hmt hold with hended | ⟨seat', hm'⟩
          · exact Or.inr (Or.inr (Or.inl hended))
          · exact Or.inr (Or.inr (Or.inr ⟨_, ticket', seat', hticket, hm'⟩))
        · refine Or.inr (Or.inr (Or.inr ⟨v, tv, seat, ?_, hm⟩))
          rw [htickets, Function.update_of_ne hvu]
          exact hv

/-- The tickets change at a call whose caller waits under the same id as before. -/
theorem advance_serving {place place' : Place} {call : Engine.Call} (h : Seated s e.work? L)
    (hturn : Turn e e' t work added) (hu : L.tickets u = some ⟨call, place⟩)
    (hfree : ∀ v ticket seat, v ≠ u → L.tickets v = some ticket → ticket.task? v seat ≠ some t)
    (hut : u ≠ t) (htickets : L'.tickets = Function.update L.tickets u (some ⟨call, place'⟩))
    (hplace : place.awaited?.isSome = true) (hplace' : place'.awaited? = place.awaited?)
    (hright : L'.rightward.written = L.rightward.written)
    (hleft : ∀ m, m ≠ t → L'.leftward.written m = L.leftward.written m)
    (hat : ∀ seat m, seat ≠ .caller → Ticket.task? ⟨call, place'⟩ u seat = some m →
      ∃ w, e'.work? m = some w ∧
        At s L'.rightward.written L'.leftward.written u call place' seat w)
    (hself : t = 0 ∨ t = 1 ∨ (∃ result, work = .ended result) ∨
      ∃ seat, Ticket.task? ⟨call, place'⟩ u seat = some t)
    (hadded : ∀ w, added = some w →
      ∃ seat, Ticket.task? ⟨call, place'⟩ u seat = some e.tasks.length)
    (hkept : ∀ seat m w, seat ≠ .caller → Ticket.task? ⟨call, place⟩ u seat = some m → m ≠ t →
      e.work? m = some w →
        (∃ result, w = .ended result) ∨ Ticket.task? ⟨call, place'⟩ u seat = some m) :
    Seated s e'.work? L' := by
  refine h.advance hturn hu hfree htickets (fun m _ => by rw [hright]) hleft
    (fun seat m hm => ?_) hself hadded fun seat m w hm hmt hw => ?_
  · by_cases hseat : seat = .caller
    · subst hseat
      cases hm
      obtain ⟨w, hw, hatw⟩ := h.seated u _ .caller u hu rfl
      exact ⟨w, hturn.keep hut hw, hatw.wait hplace hplace'⟩
    · exact hat seat m hseat hm
  · by_cases hseat : seat = .caller
    · subst hseat
      exact Or.inr ⟨.caller, hm⟩
    · exact (hkept seat m w hseat hm hmt hw).imp_right fun hm => ⟨seat, hm⟩

/-- No ticket changes, and the task that took the step runs a loop. -/
theorem stay (h : Seated s e.work? L) (hturn : Turn e e' t work none)
    (hfree : ∀ v ticket seat, L.tickets v = some ticket → ticket.task? v seat ≠ some t)
    (hself : t = 0 ∨ t = 1) (htickets : L'.tickets = L.tickets)
    (hright : L'.rightward.written = L.rightward.written)
    (hleft : L'.leftward.written = L.leftward.written) : Seated s e'.work? L' := by
  refine ⟨fun v tv seat m hv hm => ?_, fun m w hw => ?_⟩
  · rw [htickets] at hv
    obtain ⟨w, hw, hatv⟩ := h.seated v tv seat m hv hm
    have hmt : m ≠ t := by
      rintro rfl
      exact hfree v tv seat hv hm
    rw [hright, hleft]
    exact ⟨w, hturn.keep hmt hw, hatv⟩
  · rcases hturn.cases hw with ⟨rfl, -⟩ | ⟨-, hnew⟩ | ⟨-, -, hold⟩
    · exact hself.imp_right Or.inl
    · cases hnew
    · rw [htickets]
      exact h.owned m w hold

/-- The tickets change at a call at which only its caller works. -/
theorem advance_caller {place place' : Place} {call : Engine.Call} (h : Seated s e.work? L)
    (hturn : Turn e e' u work none) (hu : L.tickets u = some ⟨call, place⟩)
    (hfree : ∀ v ticket seat, v ≠ u → L.tickets v = some ticket → ticket.task? v seat ≠ some u)
    (hplace : ∀ seat, seat ≠ .caller → Ticket.task? ⟨call, place⟩ u seat = none)
    (hplace' : ∀ seat, seat ≠ .caller → Ticket.task? ⟨call, place'⟩ u seat = none)
    (htickets : L'.tickets = Function.update L.tickets u (some ⟨call, place'⟩))
    (hright : ∀ m, m ≠ u → L'.rightward.written m = L.rightward.written m)
    (hleft : L'.leftward.written = L.leftward.written)
    (hat : At s L'.rightward.written L'.leftward.written u call place' .caller work) :
    Seated s e'.work? L' := by
  refine h.advance hturn hu hfree htickets hright (fun m _ => by rw [hleft]) (fun seat m hm => ?_)
    (Or.inr (Or.inr (Or.inr ⟨.caller, rfl⟩))) (fun w hw => by cases hw)
    (fun seat m w hm hne _ => ?_)
  · by_cases hseat : seat = .caller
    · subst hseat
      cases hm
      exact ⟨work, hturn.self, hat⟩
    · rw [hplace' seat hseat] at hm
      cases hm
  · by_cases hseat : seat = .caller
    · subst hseat
      exact absurd (Option.some.inj hm).symm hne
    · rw [hplace seat hseat] at hm
      cases hm

/-- A caller is added. -/
theorem insert {call : Engine.Call} {timeout : Option Millis} (h : Seated s e.work? L)
    (hu : L.tickets e.tasks.length = none)
    (htasks : e'.tasks =
      e.tasks ++ [{ work := .caller (.starting call.request timeout (.answer (.engine call))) }])
    (htickets : L'.tickets =
      Function.update L.tickets e.tasks.length (some ⟨call, .departing⟩))
    (hright : L'.rightward = L.rightward) (hleft : L'.leftward = L.leftward) :
    Seated s e'.work? L' := by
  have hworks := fun m => work?_of_append htasks m
  have hself : L'.tickets e.tasks.length = some ⟨call, .departing⟩ := by
    rw [htickets, Function.update_self]
  refine ⟨fun v tv seat m hv hm => ?_, fun m w hw => ?_⟩
  · by_cases hvu : v = e.tasks.length
    · subst hvu
      rw [hself] at hv
      cases hv
      cases seat with
      | caller =>
        cases hm
        refine ⟨_, ?_, .departing timeout⟩
        rw [hworks, if_pos rfl]
      | handler => cases hm
      | engine => cases hm
    · rw [htickets, Function.update_of_ne hvu] at hv
      obtain ⟨w, hw, hatv⟩ := h.seated v tv seat m hv hm
      have hml : m ≠ e.tasks.length := Nat.ne_of_lt (lt_of_work? hw)
      refine ⟨w, ?_, ?_⟩
      · rw [hworks, if_neg hml]
        exact hw
      · rw [hright, hleft]
        exact hatv
  · rw [hworks] at hw
    by_cases hml : m = e.tasks.length
    · subst hml
      exact Or.inr (Or.inr (Or.inr ⟨_, _, .caller, hself, rfl⟩))
    · rw [if_neg hml] at hw
      rcases h.owned m w hw with h0 | h1 | hended | ⟨v, tv, seat, hv, hm⟩
      · exact Or.inl h0
      · exact Or.inr (Or.inl h1)
      · exact Or.inr (Or.inr (Or.inl hended))
      · have hvu : v ≠ e.tasks.length := by
          rintro rfl
          rw [hu] at hv
          cases hv
        refine Or.inr (Or.inr (Or.inr ⟨v, tv, seat, ?_, hm⟩))
        rw [htickets, Function.update_of_ne hvu]
        exact hv

end Seated

end Parley.Exchange
