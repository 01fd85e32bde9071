/-
# Exchanges that hold to their ledger

All parts of an exchange in service are held to one ledger (`Holds`).  A step of a task
takes at most one call to its next place.  What such a step leaves alone is settled here
once, so that each kind of step has to account only for what it changes.
-/

import Mathlib.Algebra.GroupWithZero.Nat
import Mathlib.Algebra.Order.BigOperators.Group.List
import Mathlib.Algebra.Order.Group.Nat
import Mathlib.Data.Prod.Lex
import Parley.Proofs.Exchange.Seats

namespace Parley.Exchange

open Parley.Frame (Bytes Whole)

/-! ### Ends that release nothing -/

section Release

variable {e : Exchange} {t : TaskId} {work : Work}

/-- A task with a property is among those that have it. -/
theorem mem_tasksWhere {p : Work → Bool} {u : TaskId} (h : e.work? u = some work)
    (hp : p work = true) : u ∈ e.tasksWhere p := by
  refine List.mem_filter.2 ⟨List.mem_range.2 (lt_of_work? h), ?_⟩
  rw [h]
  exact hp

/-- A side that another task sends to as well is not released. -/
theorem link_releaseSide {side : Link.Side} (hreads : work.readsFrom side = false)
    (hsends : work.sendsTo side = true → ∃ u other, e.work? u = some other ∧
      other.sendsTo side = true) :
    (e.releaseSide work side).link = e.link := by
  have hreads' : ¬ work.readsFrom side = true := by simp [hreads]
  rw [releaseSide, if_neg hreads']
  split
  next hlast =>
    rw [Bool.and_eq_true] at hlast
    obtain ⟨u, other, hu, hother⟩ := hsends hlast.1
    have hempty := List.isEmpty_iff.1 hlast.2
    have hmem := mem_tasksWhere hu hother
    rw [hempty] at hmem
    cases hmem
  next => rfl

/-- A task that reads from no side ends without a change of the link, when another task
holds each sink that it holds. -/
theorem link_finish (hwork : e.work? t = some work)
    (hreads : ∀ side, work.readsFrom side = false)
    (hsends : ∀ side, work.sendsTo side = true → ∃ u other, u ≠ t ∧ e.work? u = some other ∧
      other.sendsTo side = true) (result : Ended) :
    (e.finish t result).link = e.link := by
  let ended : Exchange :=
    { e.setWork t (.ended result) with schedule := e.schedule.forget t }
  have hholder : ∀ (e' : Exchange), e'.tasks = ended.tasks → ∀ side, work.sendsTo side = true →
      ∃ u other, e'.work? u = some other ∧ other.sendsTo side = true := by
    intro e' htasks side hside
    obtain ⟨u, other, hut, hu, hother⟩ := hsends side hside
    refine ⟨u, other, ?_, hother⟩
    have hset := work?_setWork e t (.ended result) u
    rw [if_neg hut, hu] at hset
    rw [work?, htasks]
    exact hset
  have hleft : (ended.releaseSide work .left).link = ended.link :=
    link_releaseSide (hreads .left) (hholder ended rfl .left)
  have hright : ((ended.releaseSide work .left).releaseSide work .right).link =
      (ended.releaseSide work .left).link :=
    link_releaseSide (hreads .right)
      (hholder _ (tasks_releaseSide ended work .left) .right)
  have hrelease : (ended.release work).link = e.link := hright.trans hleft
  rw [finish, hwork]
  exact hrelease

end Release

/-! ### What holds -/

/-- The exchange is in service, and no task was told to stop. -/
structure Steady (s : Service) (e : Exchange) : Prop where
  stopped : e.stopped = false
  shutdown : e.dispatcher.shutdown = false
  codec : e.dispatcher.codec = s.server
  outlet : e.outlet = .link .left
  aborting : ∀ t, e.aborting t = false

/-- The two loops run. -/
structure Loops (s : Service) (works : TaskId → Option Work) (L : Ledger) : Prop where
  server : works 0 =
    some (.server { source := .link .right s.serverReads L.rightward.held, sink := .link .right })
  receiver : works 1 = some (.receiver { source := .link .left s.clientReads L.leftward.held })

/-- There is one ticket for each caller. -/
structure Filed (L : Ledger) : Prop where
  callers : L.callers.Nodup
  mem_callers : ∀ u, u ∈ L.callers ↔ (L.tickets u).isSome = true
  issued : L.issued.Nodup
  begun : ∀ u ∈ L.issued, ∃ ticket, L.tickets u = some ticket ∧ ticket.place ≠ .departing
  portable : ∀ u ticket, L.tickets u = some ticket → ticket.call.Portable

/-- Frames of requests on their way. -/
def Outgoing (s : Service) (request : Message) (frame : Bytes) : Prop :=
  s.server.Reads s.serverReads request frame

/-- Frames of replies on their way. -/
def Incoming (s : Service) (replied : Engine.Call × Int64 × Engine.Outcome) (frame : Bytes) :
    Prop :=
  ∃ reply, replied.1.Replies replied.2.1 replied.2.2 reply ∧
    s.client.Reads s.clientReads reply frame

/-- What comes in as a reply is a whole frame. -/
theorem Incoming.whole {s : Service} {replied : Engine.Call × Int64 × Engine.Outcome}
    {frame : Bytes} (h : Incoming s replied frame) : Whole s.clientReads frame := by
  obtain ⟨reply, -, hreads⟩ := h
  exact hreads.whole

/-- An exchange holds to a ledger. -/
structure Holds (s : Service) (e : Exchange) (L : Ledger) : Prop where
  steady : Steady s e
  loops : Loops s e.work? L
  filed : Filed L
  seated : Seated s e.work? L
  recorded : Recorded s e.correlator L.issued (facet Ticket.id? L.tickets)
    (facet Ticket.inFlight? L.tickets) (facet Ticket.delivered? L.tickets)
  noted : Noted s.script e.engine L.noted (facet Ticket.called? L.tickets)
  rightward : Loaded (Outgoing s) e.link.rightward L.rightward (facet Ticket.sent? L.tickets)
    fun t => ∃ id, facet Ticket.sending? L.tickets t = some id
  leftward : Loaded (Incoming s) e.link.leftward L.leftward (facet Ticket.replied? L.tickets)
    fun t => ∃ u, facet Ticket.replying? L.tickets u = some t

section Parts

variable {s : Service} {e e' : Exchange} {L L' : Ledger} {t u : TaskId} {call : Engine.Call}
  {place place' : Place} {work : Work} {added : Option Work}

/-- A turn that leaves these parts as they are leaves the exchange in service. -/
theorem Steady.of_turn (h : Steady s e) (hturn : Turn e e' t work added)
    (hstopped : e'.stopped = e.stopped) (houtlet : e'.outlet = e.outlet)
    (hshutdown : e'.dispatcher.shutdown = e.dispatcher.shutdown)
    (hcodec : e'.dispatcher.codec = e.dispatcher.codec) : Steady s e' where
  stopped := hstopped.trans h.stopped
  shutdown := hshutdown.trans h.shutdown
  codec := hcodec.trans h.codec
  outlet := houtlet.trans h.outlet
  aborting m := (hturn.aborting m).trans (h.aborting m)

/-- The turn of another task leaves the loops running. -/
theorem Loops.of_turn (h : Loops s e.work? L) (hturn : Turn e e' t work added) (h0 : t ≠ 0)
    (h1 : t ≠ 1) (hright : L'.rightward.held = L.rightward.held)
    (hleft : L'.leftward.held = L.leftward.held) : Loops s e'.work? L' where
  server := by
    rw [hright]
    exact hturn.keep (Ne.symm h0) h.server
  receiver := by
    rw [hleft]
    exact hturn.keep (Ne.symm h1) h.receiver

/-- A call goes on to its next place. -/
theorem Filed.advance (h : Filed L) (hu : L.tickets u = some ⟨call, place⟩)
    (htickets : L'.tickets = Function.update L.tickets u (some ⟨call, place'⟩))
    (hplace' : place' ≠ .departing) (hcallers : L'.callers = L.callers)
    (hissued : L'.issued = L.issued ∨ L'.issued = L.issued ++ [u] ∧ place = .departing) :
    Filed L' where
  callers := hcallers ▸ h.callers
  mem_callers v := by
    rw [hcallers, h.mem_callers, htickets]
    by_cases hvu : v = u
    · rw [hvu, hu, Function.update_self]
      rfl
    · rw [Function.update_of_ne hvu]
  issued := by
    rcases hissued with heq | ⟨heq, hplace⟩
    · rw [heq]
      exact h.issued
    · rw [heq]
      refine List.nodup_append.2 ⟨h.issued, List.nodup_singleton u, ?_⟩
      rintro a ha b hb rfl
      obtain ⟨ticket, hticket, hbegun⟩ := h.begun a ha
      rw [List.mem_singleton.1 hb, hu] at hticket
      cases hticket
      exact hbegun hplace
  begun v hv := by
    rw [htickets]
    by_cases hvu : v = u
    · exact ⟨_, by rw [hvu, Function.update_self], hplace'⟩
    · have hmem : v ∈ L.issued := by
        rcases hissued with heq | ⟨heq, -⟩
        · exact heq ▸ hv
        · rw [heq] at hv
          exact (List.mem_append.1 hv).resolve_right fun hv => hvu (List.mem_singleton.1 hv)
      obtain ⟨ticket, hticket, hbegun⟩ := h.begun v hmem
      exact ⟨ticket, by rw [Function.update_of_ne hvu, hticket], hbegun⟩
  portable v ticket hv := by
    rw [htickets] at hv
    by_cases hvu : v = u
    · rw [hvu, Function.update_self] at hv
      cases hv
      have hportable := h.portable u _ hu
      exact hportable
    · rw [Function.update_of_ne hvu] at hv
      exact h.portable v ticket hv

/-- While a caller has not begun, there are more callers than ids given out. -/
theorem Filed.length_issued_lt (h : Filed L) (hu : L.tickets u = some ⟨call, .departing⟩) :
    L.issued.length < L.callers.length := by
  have hfresh : u ∉ L.issued := by
    intro hmem
    obtain ⟨ticket, hticket, hbegun⟩ := h.begun u hmem
    rw [hu] at hticket
    cases hticket
    exact hbegun rfl
  have hnodup : (u :: L.issued).Nodup := List.nodup_cons.2 ⟨hfresh, h.issued⟩
  have hsubset : u :: L.issued ⊆ L.callers := by
    intro v hv
    rw [h.mem_callers]
    rcases List.mem_cons.1 hv with rfl | hv
    · rw [hu]
      rfl
    · obtain ⟨ticket, hticket, -⟩ := h.begun v hv
      rw [hticket]
      rfl
  exact (List.subperm_of_subset hnodup hsubset).length_le

/-- No two calls have the same id. -/
theorem Holds.distinct (h : Holds s e L) : Distinct L.tickets :=
  fun _ _ _ hu hv => h.recorded.distinct hu hv

/-- A task with a seat runs no loop. -/
theorem Holds.ne_loops {ticket : Ticket} (h : Holds s e L) (seat : Seat)
    (hu : L.tickets u = some ticket) (ht : ticket.task? u seat = some t) : t ≠ 0 ∧ t ≠ 1 := by
  obtain ⟨work, hwork, hat⟩ := h.seated.seated u ticket seat t hu ht
  constructor
  · rintro rfl
    rw [h.loops.server] at hwork
    cases hwork
    rcases hat.seat_eq with ⟨_, heq⟩ | ⟨-, _, heq⟩ | ⟨-, _, heq, -⟩ | ⟨-, _, heq, -⟩ <;> cases heq
  · rintro rfl
    rw [h.loops.receiver] at hwork
    cases hwork
    rcases hat.seat_eq with ⟨_, heq⟩ | ⟨-, _, heq⟩ | ⟨-, _, heq, -⟩ | ⟨-, _, heq, -⟩ <;> cases heq

/-- A task that has not ended sits in no seat of another call. -/
theorem Holds.free {ticket : Ticket} (h : Holds s e L) (seat : Seat)
    (hu : L.tickets u = some ticket) (ht : ticket.task? u seat = some t)
    (hwork : e.work? t = some work) (hlive : ∀ result, work ≠ .ended result) :
    ∀ v ticket seat, v ≠ u → L.tickets v = some ticket → ticket.task? v seat ≠ some t :=
  fun _ _ _ hvu hv ht' => hvu (h.seated.unique h.distinct hwork hlive hv ht' hu ht).1

end Parts

/-! ### Getting on -/

/-- How much the engine and the senders have left to do at a task. -/
def Work.toil : Work → Nat
  | .caller (.transmitting _ _ rest _) => rest.length
  | .handler { phase := .transmitting rest, .. } => rest.length
  | .engineCall { phase := .working _ outcome, .. } => outcome.length
  | .engineCall { phase := .sleeping _ _ outcome, .. } => outcome.length + 1
  | _ => 0

/-- How many places all calls have ahead of them. -/
def Ledger.ahead (L : Ledger) : Nat :=
  (L.callers.map fun u => ((L.tickets u).map fun ticket => ticket.place.ahead).getD 0).sum

/-- How much all tasks have left to do. -/
def toil (e : Exchange) : Nat :=
  (e.tasks.map fun task => task.work.toil).sum

/-- How much both lanes carry. -/
def load (e : Exchange) : Nat :=
  e.link.rightward.load + e.link.leftward.load

/-- How many tasks do not wait in either lane, counted twice. -/
def unqueued (e : Exchange) : Nat :=
  2 * e.tasks.length - (e.link.rightward.queueing.length + e.link.leftward.queueing.length)

/-- What becomes less with every step that changes anything: first of all the places that
are ahead, then what is left to do at the same places. -/
def weight (e : Exchange) (L : Ledger) : Nat ×ₗ Nat ×ₗ Nat ×ₗ Nat :=
  toLex (L.ahead, toLex (e.toil, toLex (e.load, e.unqueued)))

/-- A step of a task is accounted for: the exchange afterwards holds to a ledger of the same
calls, the engine is called for a caller that waits under the id of the request, if it is
called, and unless nothing has changed less is left to do. -/
structure Accounted (s : Service) (e : Exchange) (L : Ledger) (t : TaskId) (e' : Exchange)
    (L' : Ledger) : Prop where
  holds : Holds s e' L'
  callers : L'.callers = L.callers
  calls : ∀ u, (L'.tickets u).map Ticket.call = (L.tickets u).map Ticket.call
  noted : L'.noted = L.noted ∨ ∃ u work handle aim, L'.noted = L.noted ++ [u] ∧
    e.work? t = some (.engineCall work) ∧ e.work? u = some (.caller (.waiting handle aim)) ∧
    work.request.requestId = handle.id
  lighter : Same e e' ∨ weight e' L' < weight e L

section Weights

variable {e e' : Exchange} {L L' : Ledger} {t u : TaskId} {call : Engine.Call}
  {place place' : Place} {work work' : Work}

/-- A call stays what it is when it goes on to another place. -/
theorem calls_update (hu : L.tickets u = some ⟨call, place⟩)
    (htickets : L'.tickets = Function.update L.tickets u (some ⟨call, place'⟩)) (v : TaskId) :
    (L'.tickets v).map Ticket.call = (L.tickets v).map Ticket.call := by
  rw [htickets]
  by_cases hvu : v = u
  · rw [hvu, hu, Function.update_self]
    rfl
  · rw [Function.update_of_ne hvu]

/-- A call that goes on has fewer places ahead. -/
theorem weight_lt_of_place (hfiled : Filed L) (hu : L.tickets u = some ⟨call, place⟩)
    (htickets : L'.tickets = Function.update L.tickets u (some ⟨call, place'⟩))
    (hcallers : L'.callers = L.callers) (hahead : place'.ahead < place.ahead) :
    weight e' L' < weight e L := by
  refine Prod.Lex.toLex_lt_toLex.2 (Or.inl ?_)
  have hmem : u ∈ L.callers := by
    rw [hfiled.mem_callers, hu]
    rfl
  simp only [Ledger.ahead, hcallers, htickets]
  refine List.sum_lt_sum _ _ (fun v _ => ?_) ⟨u, hmem, ?_⟩
  · by_cases hvu : v = u
    · rw [hvu, hu, Function.update_self]
      exact Nat.le_of_lt hahead
    · rw [Function.update_of_ne hvu]
  · rw [hu, Function.update_self]
    exact hahead

/-- The work of one task more or less is so much more or less in all. -/
theorem sum_toil_modify {tasks : List Task} (h : (tasks[t]?).map Task.work = some work)
    (work' : Work) :
    ((tasks.modify t fun task => { task with work := work' }).map
        fun task => task.work.toil).sum + work.toil =
      (tasks.map fun task => task.work.toil).sum + work'.toil := by
  induction tasks generalizing t with
  | nil => simp at h
  | cons first rest ih =>
    cases t with
    | zero =>
      simp only [List.getElem?_cons_zero, Option.map_some, Option.some.injEq] at h
      subst h
      simp only [List.modify_zero_cons, List.map_cons, List.sum_cons]
      omega
    | succ t =>
      have hrest := ih (t := t) (by simpa using h)
      simp only [List.modify_succ_cons, List.map_cons, List.sum_cons]
      omega

/-- A task that has less left to do makes the exchange lighter. -/
theorem weight_lt_of_toil (hwork : e.work? t = some work)
    (htasks : e'.tasks = e.tasks.modify t fun task => { task with work := work' })
    (hahead : L'.ahead = L.ahead) (htoil : work'.toil < work.toil) :
    weight e' L' < weight e L := by
  have hsum := sum_toil_modify hwork work'
  refine Prod.Lex.toLex_lt_toLex.2 (Or.inr ⟨hahead, ?_⟩)
  refine Prod.Lex.toLex_lt_toLex.2 (Or.inl ?_)
  simp only [toil, htasks]
  omega

/-- Work of the same amount is the same amount in all. -/
theorem toil_eq_of_modify (hwork : e.work? t = some work)
    (htasks : e'.tasks = e.tasks.modify t fun task => { task with work := work' })
    (htoil : work'.toil = work.toil) : e'.toil = e.toil := by
  have hsum := sum_toil_modify hwork work'
  simp only [toil, htasks]
  omega

/-- A lane that carries less makes the exchange lighter. -/
theorem weight_lt_of_load (hahead : L'.ahead = L.ahead) (htoil : e'.toil = e.toil)
    (hload : e'.load < e.load) : weight e' L' < weight e L :=
  Prod.Lex.toLex_lt_toLex.2 (Or.inr ⟨hahead, Prod.Lex.toLex_lt_toLex.2
    (Or.inr ⟨htoil, Prod.Lex.toLex_lt_toLex.2 (Or.inl hload)⟩)⟩)

/-- A task that comes to wait in a lane makes the exchange lighter. -/
theorem weight_lt_of_unqueued (hahead : L'.ahead = L.ahead) (htoil : e'.toil = e.toil)
    (hload : e'.load = e.load) (hunqueued : e'.unqueued < e.unqueued) :
    weight e' L' < weight e L :=
  Prod.Lex.toLex_lt_toLex.2 (Or.inr ⟨hahead, Prod.Lex.toLex_lt_toLex.2
    (Or.inr ⟨htoil, Prod.Lex.toLex_lt_toLex.2 (Or.inr ⟨hload, hunqueued⟩)⟩)⟩)

end Weights

/-! ### Steps that change nothing or little -/

section Little

variable {s : Service} {e e' : Exchange} {L L' : Ledger} {t u : TaskId} {work work' : Work}

/-- What holds to a ledger still does when nothing that it tells of has changed. -/
theorem Holds.of_same (h : Holds s e L) (hsame : Same e e') : Holds s e' L := by
  have hworks : e'.work? = e.work? := by
    funext m
    rw [work?, work?, hsame.tasks]
  have hcorrelator : e'.correlator = e.correlator := congrArg Parts.correlator hsame.parts
  have hengine : e'.engine = e.engine := congrArg Parts.engine hsame.parts
  have hdispatcher : e'.dispatcher = e.dispatcher := congrArg Parts.dispatcher hsame.parts
  exact {
    steady := {
      stopped := (congrArg Parts.stopped hsame.parts).trans h.steady.stopped
      shutdown := by
        rw [hdispatcher]
        exact h.steady.shutdown
      codec := by
        rw [hdispatcher]
        exact h.steady.codec
      outlet := (congrArg Parts.outlet hsame.parts).trans h.steady.outlet
      aborting := fun m => by
        rw [Exchange.aborting, hsame.tasks]
        exact h.steady.aborting m }
    loops := hworks ▸ h.loops
    filed := h.filed
    seated := hworks ▸ h.seated
    recorded := hcorrelator ▸ h.recorded
    noted := hengine ▸ h.noted
    rightward := hsame.link ▸ h.rightward
    leftward := hsame.link ▸ h.leftward }

/-- A step that changes nothing is accounted for. -/
theorem Holds.accounted_of_same (h : Holds s e L) (hsame : Same e e') :
    Accounted s e L t e' L where
  holds := h.of_same hsame
  callers := rfl
  calls _ := rfl
  noted := Or.inl rfl
  lighter := Or.inl hsame

/-- To put a task to the work that it is at changes nothing. -/
theorem modify_of_work? (hwork : e.work? t = some work) :
    (e.tasks.modify t fun task => { task with work }) = e.tasks := by
  refine List.ext_getElem? fun m => ?_
  rw [List.getElem?_modify]
  by_cases htm : t = m
  · subst htm
    rw [work?, Option.map_eq_some_iff] at hwork
    obtain ⟨task, htask, rfl⟩ := hwork
    rw [htask]
    simp
  · cases e.tasks[m]? with
    | none => rfl
    | some task => simp [htm]

/-- The senders that wait in a lane are tasks, and each waits once. -/
theorem Holds.queueing (h : Holds s e L) (side : Link.Side) :
    (e.link.outward side).queueing.Nodup ∧
      ∀ m ∈ (e.link.outward side).queueing, m < e.tasks.length := by
  cases side with
  | left =>
    refine ⟨h.rightward.single, fun m hm => ?_⟩
    obtain ⟨id, hid⟩ := h.rightward.senders m hm
    obtain ⟨ticket, hticket, -⟩ := facet_eq_some.1 hid
    obtain ⟨work, hwork, -⟩ := h.seated.seated m ticket .caller m hticket rfl
    exact lt_of_work? hwork
  | right =>
    refine ⟨h.leftward.single, fun m hm => ?_⟩
    obtain ⟨v, hv⟩ := h.leftward.senders m hm
    obtain ⟨⟨call, place⟩, hticket, hplace⟩ := facet_eq_some.1 hv
    cases place <;> cases hplace
    obtain ⟨work, hwork, -⟩ := h.seated.seated v _ .handler m hticket rfl
    exact lt_of_work? hwork

/-- There are no more different numbers below a bound than the bound. -/
theorem length_le_of_nodup {tasks : List TaskId} {n : Nat} (hnodup : tasks.Nodup)
    (hlt : ∀ m ∈ tasks, m < n) : tasks.length ≤ n := by
  have hsubset : tasks ⊆ List.range n := fun m hm => List.mem_range.2 (hlt m hm)
  have hlength := (List.subperm_of_subset hnodup hsubset).length_le
  rw [List.length_range] at hlength
  exact hlength

/-- A task that begins to wait in a lane leaves fewer that do not. -/
theorem Holds.unqueued_lt {side : Link.Side} {lane : Link.Lane} (h : Holds s e L)
    (ht : t < e.tasks.length) (hfresh : t ∉ (e.link.outward side).queueing)
    (htasks : e'.tasks.length = e.tasks.length) (hlink : e'.link = e.link.setOutward side lane)
    (hqueueing : lane.queueing = Link.join (e.link.outward side).queueing t) :
    e'.unqueued < e.unqueued := by
  obtain ⟨hnodup, hlt⟩ := h.queueing side
  obtain ⟨hnodup', hlt'⟩ := h.queueing side.other
  have hthis : (t :: (e.link.outward side).queueing).length ≤ e.tasks.length := by
    refine length_le_of_nodup (List.nodup_cons.2 ⟨hfresh, hnodup⟩) fun m hm => ?_
    rcases List.mem_cons.1 hm with rfl | hm
    · exact ht
    · exact hlt m hm
  have hother := length_le_of_nodup hnodup' hlt'
  have hgrown : lane.queueing.length = (e.link.outward side).queueing.length + 1 := by
    rw [hqueueing, Link.join, if_neg hfresh, List.length_append, List.length_singleton]
  rw [List.length_cons] at hthis
  rw [unqueued, unqueued, htasks, hlink]
  cases side <;> simp only [Link.setOutward, Link.outward, Link.Side.other] at * <;> omega

/-- A sender that does not get all of its frame off its hands has less left of it, or it
begins to wait in the lane, or nothing has changed. -/
theorem Holds.lighter_of_blocked {lane : Link.Lane} {part rest rest' : Bytes} (h : Holds s e L)
    (side : Link.Side) (hwork : e.work? t = some work)
    (htasks : e'.tasks = e.tasks.modify t fun task => { task with work := work' })
    (hparts : e'.parts = e.parts) (hlink : e'.link = e.link.setOutward side lane)
    (hahead : L'.ahead = L.ahead) (hsplit : rest = part ++ rest')
    (htoil : work.toil = rest.length) (htoil' : work'.toil = rest'.length)
    (hsame : rest' = rest → work' = work)
    (hqueueing : lane.queueing = Link.join (e.link.outward side).queueing t)
    (hnone : part = [] → lane.load = (e.link.outward side).load ∧
      (t ∈ (e.link.outward side).queueing → lane = e.link.outward side)) :
    Same e e' ∨ weight e' L' < weight e L := by
  by_cases hpart : part = []
  · subst hpart
    obtain ⟨hload, hlane⟩ := hnone rfl
    rw [hsame hsplit.symm] at htasks
    by_cases hmem : t ∈ (e.link.outward side).queueing
    · refine Or.inl ⟨htasks.trans (modify_of_work? hwork), hlink.trans ?_, hparts⟩
      rw [hlane hmem]
      cases side <;> rfl
    · refine Or.inr (weight_lt_of_unqueued hahead (toil_eq_of_modify hwork htasks rfl) ?_ ?_)
      · rw [load, load, hlink]
        cases side with
        | left => exact congrArg (· + e.link.leftward.load) hload
        | right => exact congrArg (e.link.rightward.load + ·) hload
      · exact h.unqueued_lt (lt_of_work? hwork) hmem (by rw [htasks, List.length_modify]) hlink
          hqueueing
  · refine Or.inr (weight_lt_of_toil hwork htasks hahead ?_)
    have hpos := List.length_pos_iff.2 hpart
    rw [htoil, htoil', hsplit, List.length_append]
    omega

end Little

/-! ### Steps that take a call on -/

section Onward

variable {s : Service} {e e' : Exchange} {L L' : Ledger} {t u : TaskId} {call : Engine.Call}
  {place place' : Place} {work work' : Work} {added : Option Work}

/-- A turn that changes the correlator and the engine only leaves the exchange in service. -/
theorem Steady.of_parts {c : Correlator} {engine : Engine.Script} (h : Steady s e)
    (hturn : Turn e e' t work added)
    (hparts : e'.parts = { e.parts with correlator := c, engine := engine }) : Steady s e' :=
  h.of_turn hturn (congrArg Parts.stopped hparts) (congrArg Parts.outlet hparts)
    (congrArg (fun parts => parts.dispatcher.shutdown) hparts)
    (congrArg (fun parts => parts.dispatcher.codec) hparts)

/-- What the correlator records stays while a call keeps its id and is in flight, or has its
reply delivered, as before. -/
theorem Holds.recorded_keep (h : Holds s e L) (hu : L.tickets u = some ⟨call, place⟩)
    (htickets : L'.tickets = Function.update L.tickets u (some ⟨call, place'⟩))
    (hcorrelator : e'.correlator = e.correlator) (hissued : L'.issued = L.issued)
    (hid : Ticket.id? ⟨call, place'⟩ = Ticket.id? ⟨call, place⟩)
    (hinFlight : Ticket.inFlight? ⟨call, place'⟩ = Ticket.inFlight? ⟨call, place⟩)
    (hdelivered : Ticket.delivered? ⟨call, place'⟩ = Ticket.delivered? ⟨call, place⟩) :
    Recorded s e'.correlator L'.issued (facet Ticket.id? L'.tickets)
      (facet Ticket.inFlight? L'.tickets) (facet Ticket.delivered? L'.tickets) := by
  rw [hcorrelator, hissued, facet_keep htickets hu hid, facet_keep htickets hu hinFlight,
    facet_keep htickets hu hdelivered]
  exact h.recorded

/-- What the engine has noted stays while a call is called as before. -/
theorem Holds.noted_keep (h : Holds s e L) (hu : L.tickets u = some ⟨call, place⟩)
    (htickets : L'.tickets = Function.update L.tickets u (some ⟨call, place'⟩))
    (hengine : e'.engine = e.engine) (hnoted : L'.noted = L.noted)
    (hcalled : Ticket.called? ⟨call, place'⟩ = Ticket.called? ⟨call, place⟩) :
    Noted s.script e'.engine L'.noted (facet Ticket.called? L'.tickets) := by
  rw [hengine, hnoted, facet_keep htickets hu hcalled]
  exact h.noted

/-- What is on its way to the right stays while a call is sent, or being sent, as before. -/
theorem Holds.rightward_keep (h : Holds s e L) (hu : L.tickets u = some ⟨call, place⟩)
    (htickets : L'.tickets = Function.update L.tickets u (some ⟨call, place'⟩))
    (hlane : e'.link.rightward = e.link.rightward) (hcargo : L'.rightward = L.rightward)
    (hsent : Ticket.sent? ⟨call, place'⟩ = Ticket.sent? ⟨call, place⟩)
    (hsending : Ticket.sending? ⟨call, place'⟩ = Ticket.sending? ⟨call, place⟩) :
    Loaded (Outgoing s) e'.link.rightward L'.rightward (facet Ticket.sent? L'.tickets)
      fun m => ∃ id, facet Ticket.sending? L'.tickets m = some id := by
  rw [hlane, hcargo, facet_keep htickets hu hsent, facet_keep htickets hu hsending]
  exact h.rightward

/-- What is on its way to the left stays while a call is replied to, or about to be, as before. -/
theorem Holds.leftward_keep (h : Holds s e L) (hu : L.tickets u = some ⟨call, place⟩)
    (htickets : L'.tickets = Function.update L.tickets u (some ⟨call, place'⟩))
    (hlane : e'.link.leftward = e.link.leftward) (hcargo : L'.leftward = L.leftward)
    (hreplied : Ticket.replied? ⟨call, place'⟩ = Ticket.replied? ⟨call, place⟩)
    (hreplying : Ticket.replying? ⟨call, place'⟩ = Ticket.replying? ⟨call, place⟩) :
    Loaded (Incoming s) e'.link.leftward L'.leftward (facet Ticket.replied? L'.tickets)
      fun m => ∃ v, facet Ticket.replying? L'.tickets v = some m := by
  rw [hlane, hcargo, facet_keep htickets hu hreplied, facet_keep htickets hu hreplying]
  exact h.leftward

/-- A step that takes a call to a later place is accounted for when the parts of the
exchange hold to the ledger with the new place. -/
theorem Holds.advance (h : Holds s e L) (hu : L.tickets u = some ⟨call, place⟩)
    (htickets : L'.tickets = Function.update L.tickets u (some ⟨call, place'⟩))
    (hahead : place'.ahead < place.ahead) (hcallers : L'.callers = L.callers)
    (hissued : L'.issued = L.issued ∨ L'.issued = L.issued ++ [u] ∧ place = .departing)
    (hnoted : L'.noted = L.noted ∨ ∃ v work handle aim, L'.noted = L.noted ++ [v] ∧
      e.work? t = some (.engineCall work) ∧ e.work? v = some (.caller (.waiting handle aim)) ∧
      work.request.requestId = handle.id)
    (steady : Steady s e') (loops : Loops s e'.work? L') (seated : Seated s e'.work? L')
    (recorded : Recorded s e'.correlator L'.issued (facet Ticket.id? L'.tickets)
      (facet Ticket.inFlight? L'.tickets) (facet Ticket.delivered? L'.tickets))
    (noted : Noted s.script e'.engine L'.noted (facet Ticket.called? L'.tickets))
    (rightward : Loaded (Outgoing s) e'.link.rightward L'.rightward
      (facet Ticket.sent? L'.tickets)
      fun m => ∃ id, facet Ticket.sending? L'.tickets m = some id)
    (leftward : Loaded (Incoming s) e'.link.leftward L'.leftward
      (facet Ticket.replied? L'.tickets)
      fun m => ∃ v, facet Ticket.replying? L'.tickets v = some m) :
    Accounted s e L t e' L' := by
  have hbegun : place' ≠ .departing := by
    rintro rfl
    exact absurd place.ahead_le_departing (Nat.not_le.2 hahead)
  have filed := h.filed.advance hu htickets hbegun hcallers hissued
  exact {
    holds := { steady, loops, filed, seated, recorded, noted, rightward, leftward }
    callers := hcallers
    calls := calls_update hu htickets
    noted := hnoted
    lighter := Or.inr (weight_lt_of_place h.filed hu htickets hcallers hahead) }

/-- A step that leaves every call at its place is accounted for when it leaves the parts as
they were, and what it changes of the link and the tasks holds to the cargo that is left. -/
theorem Holds.remain {right left : Cargo} (h : Holds s e L) (hturn : Turn e e' t work added)
    (hparts : e'.parts = e.parts)
    (loops : Loops s e'.work? { L with rightward := right, leftward := left })
    (seated : Seated s e'.work? { L with rightward := right, leftward := left })
    (rightward : Loaded (Outgoing s) e'.link.rightward right (facet Ticket.sent? L.tickets)
      fun m => ∃ id, facet Ticket.sending? L.tickets m = some id)
    (leftward : Loaded (Incoming s) e'.link.leftward left (facet Ticket.replied? L.tickets)
      fun m => ∃ v, facet Ticket.replying? L.tickets v = some m)
    (lighter : Same e e' ∨
      weight e' { L with rightward := right, leftward := left } < weight e L) :
    Accounted s e L t e' { L with rightward := right, leftward := left } := by
  have hcorrelator : e'.correlator = e.correlator := congrArg Parts.correlator hparts
  have hengine : e'.engine = e.engine := congrArg Parts.engine hparts
  exact {
    holds := {
      steady := h.steady.of_parts hturn hparts
      loops
      filed := { h.filed with }
      seated
      recorded := hcorrelator ▸ h.recorded
      noted := hengine ▸ h.noted
      rightward
      leftward }
    callers := rfl
    calls := fun _ => rfl
    noted := Or.inl rfl
    lighter }

end Onward

end Parley.Exchange
