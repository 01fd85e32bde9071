/-
# Every call gives back the outcome of its own engine call

Any number of calls run at the same time, in any order of steps.  While they are left
undisturbed, the engine is called for each of them at most once, with what the caller has
passed, and whoever has an answer has the one that the outcome of this very engine call
says.  No step can be taken for ever, and when nothing is left to do every call has
answered except those for which the engine has not returned.
-/

import Mathlib.Data.List.Induction
import Parley.Proofs.Exchange.Rest

namespace Parley.Exchange

open Parley.Frame (Bytes)

variable {s : Service} {e : Exchange} {L : Ledger} {t u : TaskId} {call : Engine.Call}
  {events : List Event}

/-! ### Before the first call, and between steps -/

/-- A service holds to the empty ledger before anybody calls. -/
theorem holds_exchange (hsound : s.Sound) : Holds s s.exchange {} where
  steady :=
    { stopped := rfl
      shutdown := rfl
      codec := rfl
      outlet := rfl
      aborting := fun t => by
        rcases t with _ | _ | t <;> rfl }
  loops := ⟨rfl, rfl⟩
  filed :=
    { callers := List.nodup_nil
      mem_callers := fun u => by simp
      issued := List.nodup_nil
      begun := fun u hu => by cases hu
      portable := fun u ticket hu => by cases hu }
  seated :=
    { seated := fun u ticket seat t hu => by cases hu
      owned := fun t work hwork => by
        rcases t with _ | _ | t
        · exact Or.inl rfl
        · exact Or.inr (Or.inl rfl)
        · cases hwork }
  recorded :=
    { codec := rfl
      nextId := rfl
      few := Nat.zero_le _
      numbered := fun u id hu => by cases hu
      recorded := fun u id op hu => by cases hu
      arrived := fun u call id outcome hu => by cases hu
      only := fun entry hentry => by cases hentry }
  noted := by
    have hcalls : s.exchange.engine.calls = [] := hsound.calls
    refine {
      started := ?_
      nodup := List.nodup_nil
      calls := ?_
      outcomes := ?_
      complete := fun u entry hu => by cases hu
      suits := fun u call outcome hu => by cases hu
      suitable := hsound.script }
    · rw [hcalls]
      rfl
    · rw [hcalls]
      rfl
    · rw [hcalls]
      rfl
  rightward :=
    have hlane := Link.carries_outward hsound.link .left
    .of_empty hlane.1 hlane.2 fun _ => rfl
  leftward :=
    have hlane := Link.carries_outward hsound.link .right
    .of_empty hlane.1 hlane.2 fun _ => rfl

/-- A task that is still to come has no ticket. -/
theorem Holds.fresh (h : Holds s e L) : L.tickets e.tasks.length = none := by
  cases hticket : L.tickets e.tasks.length with
  | none => rfl
  | some ticket =>
    obtain ⟨work, hwork, -⟩ := h.seated.seated _ ticket .caller _ hticket rfl
    exact absurd (lt_of_work? hwork) (Nat.lt_irrefl _)

/-- The ledger with one more caller. -/
def Ledger.enter (L : Ledger) (u : TaskId) (call : Engine.Call) : Ledger :=
  { L with
    callers := L.callers ++ [u]
    tickets := Function.update L.tickets u (some ⟨call, .departing⟩) }

/-- There is still one ticket for each caller when a caller is added that has none yet. -/
theorem Filed.enter (h : Filed L) {u : TaskId} (hnone : L.tickets u = none)
    (hportable : call.Portable) : Filed (L.enter u call) where
  callers := by
    refine List.nodup_append.2 ⟨h.callers, List.nodup_singleton u, ?_⟩
    rintro v hv w hw rfl
    obtain rfl := List.mem_singleton.1 hw
    rw [h.mem_callers, hnone] at hv
    cases hv
  mem_callers v := by
    simp only [Ledger.enter, List.mem_append, List.mem_singleton, h.mem_callers]
    by_cases hv : v = u
    · simp [hv]
    · simp [hv]
  issued := h.issued
  begun v hv := by
    obtain ⟨ticket, hticket, hbegun⟩ := h.begun v hv
    have hne : v ≠ u := by
      rintro rfl
      rw [hnone] at hticket
      cases hticket
    exact ⟨ticket, (Function.update_of_ne hne _ _).trans hticket, hbegun⟩
  portable v ticket hv := by
    by_cases hne : v = u
    · subst hne
      have hself : (L.enter v call).tickets v = some ⟨call, .departing⟩ :=
        Function.update_self v _ _
      rw [hself] at hv
      cases hv
      exact hportable
    · exact h.portable v ticket ((Function.update_of_ne hne _ _).symm.trans hv)

/-- A caller is added. -/
theorem Holds.start (h : Holds s e L) (hportable : call.Portable) (timeout : Option Millis) :
    Holds s (e.happen (.start (asking call timeout))) (L.enter e.tasks.length call) := by
  have hnone := h.fresh
  let L' := L.enter e.tasks.length call
  have htickets : L'.tickets =
      Function.update L.tickets e.tasks.length (some ⟨call, .departing⟩) := rfl
  let work : Work := .caller (.starting call.request timeout (.answer (.engine call)))
  let e' : Exchange := (e.spawn work).2
  have htasks : e'.tasks = e.tasks ++ [{ work := work }] := rfl
  have hparts : e'.parts = e.parts := parts_spawn e work
  have hcorrelator : e'.correlator = e.correlator := congrArg Parts.correlator hparts
  have hengine : e'.engine = e.engine := congrArg Parts.engine hparts
  have hkeep : ∀ t w, e.work? t = some w → e'.work? t = some w := by
    intro t w hw
    rw [work?_of_append htasks, if_neg (Nat.ne_of_lt (lt_of_work? hw))]
    exact hw
  show Holds s e' L'
  exact {
    steady := {
      stopped := h.steady.stopped
      shutdown := h.steady.shutdown
      codec := h.steady.codec
      outlet := h.steady.outlet
      aborting := fun t => by
        rw [aborting_of_append htasks]
        exact h.steady.aborting t }
    loops := ⟨hkeep 0 _ h.loops.server, hkeep 1 _ h.loops.receiver⟩
    filed := h.filed.enter hnone hportable
    seated := h.seated.insert hnone htasks htickets rfl rfl
    recorded := by
      rw [hcorrelator, facet_insert (f := Ticket.id?) htickets hnone rfl,
        facet_insert (f := Ticket.inFlight?) htickets hnone rfl,
        facet_insert (f := Ticket.delivered?) htickets hnone rfl]
      exact h.recorded
    noted := by
      rw [hengine, facet_insert (f := Ticket.called?) htickets hnone rfl]
      exact h.noted
    rightward := by
      rw [facet_insert (f := Ticket.sent?) htickets hnone rfl,
        facet_insert (f := Ticket.sending?) htickets hnone rfl]
      exact h.rightward
    leftward := by
      rw [facet_insert (f := Ticket.replied?) htickets hnone rfl,
        facet_insert (f := Ticket.replying?) htickets hnone rfl]
      exact h.leftward }

/-- Time passes. -/
theorem Holds.pass (h : Holds s e L) (span : Millis) : Holds s (e.happen (.pass span)) L where
  steady := ⟨h.steady.stopped, h.steady.shutdown, h.steady.codec, h.steady.outlet,
    h.steady.aborting⟩
  loops := h.loops
  filed := h.filed
  seated := h.seated
  recorded := h.recorded
  noted := h.noted
  rightward := h.rightward
  leftward := h.leftward

/-! ### Runs -/

/-- An event more happens after the others. -/
theorem follow_concat (e : Exchange) (events : List Event) (event : Event) :
    e.follow (events ++ [event]) = (e.follow events).happen event := by
  rw [follow, List.foldl_append]
  rfl

/-- A caller asked before, or the last event is its start. -/
theorem asked_concat {event : Event} :
    Asked e (events ++ [event]) t call ↔ Asked e events t call ∨
      (∃ timeout, event = .start (asking call timeout)) ∧ t = (e.follow events).tasks.length := by
  constructor
  · rintro ⟨before, timeout, after, hevents, ht⟩
    rcases List.eq_nil_or_concat after with rfl | ⟨after, last, rfl⟩
    · obtain ⟨rfl, hevent⟩ := List.append_inj' hevents rfl
      exact Or.inr ⟨⟨timeout, (List.singleton_inj.1 hevent)⟩, ht⟩
    · rw [List.concat_eq_append, ← List.cons_append, ← List.append_assoc] at hevents
      obtain ⟨rfl, -⟩ := List.append_inj' hevents rfl
      exact Or.inl ⟨before, timeout, after, rfl, ht⟩
  · rintro (⟨before, timeout, after, rfl, ht⟩ | ⟨⟨timeout, rfl⟩, ht⟩)
    · exact ⟨before, timeout, after ++ [event], by simp, ht⟩
    · exact ⟨events, timeout, [], rfl, ht⟩

/-- A step that calls the engine does so in every longer course. -/
theorem MakesFor.concat {i : Nat} (h : MakesFor e events i t) (event : Event) :
    MakesFor e (events ++ [event]) i t := by
  obtain ⟨before, c, work, handle, aim, hprefix, hmade⟩ := h
  exact ⟨before, c, work, handle, aim, hprefix.trans (List.prefix_append _ _), hmade⟩

/-- A course without its last event is undisturbed when the whole is. -/
theorem Undisturbed.of_concat {event : Event} (h : Undisturbed s (events ++ [event])) :
    Undisturbed s events where
  calm other hother := h.calm other (List.mem_append_left _ hother)
  few := by
    have hfew := h.few
    rw [List.countP_append] at hfew
    exact Nat.le_trans (Nat.le_add_right _ _) hfew
  punctual before hbefore := h.punctual before (hbefore.trans (List.prefix_append _ _))
  roomy before t hbefore := h.roomy before t (hbefore.trans (List.prefix_append _ _))

/-- What the ledger tells of a course: who asked, and for whom the engine was called. -/
structure Recounted (s : Service) (events : List Event) (L : Ledger) : Prop where
  holds : Holds s (s.exchange.follow events) L
  asked : ∀ t call, Asked s.exchange events t call ↔ (L.tickets t).map Ticket.call = some call
  made : ∀ i t, L.noted[i]? = some t → MakesFor s.exchange events i t
  callers : L.callers.length = events.countP Event.isStart

/-- What asks for two calls asks for the same one. -/
theorem asking_inj {call' : Engine.Call} {timeout timeout' : Option Millis}
    (h : asking call timeout = asking call' timeout') : call = call' := by
  simp only [asking, Opening.caller.injEq, Aim.answer.injEq, Client.Call.engine.injEq] at h
  exact h.2.2

/-- The ledger tells of a course that ends with the start of a caller. -/
theorem Recounted.start (h : Recounted s events L) (hportable : call.Portable)
    (timeout : Option Millis) :
    Recounted s (events ++ [.start (asking call timeout)])
      (L.enter (s.exchange.follow events).tasks.length call) where
  holds := by
    rw [follow_concat]
    exact h.holds.start hportable timeout
  asked t call' := by
    have hnone := h.holds.fresh
    have htickets : (L.enter (s.exchange.follow events).tasks.length call).tickets =
        Function.update L.tickets _ (some ⟨call, .departing⟩) := rfl
    rw [asked_concat, h.asked, htickets]
    by_cases ht : t = (s.exchange.follow events).tasks.length
    · rw [ht, hnone, Function.update_self]
      constructor
      · rintro (hnever | ⟨⟨timeout', heq⟩, -⟩)
        · cases hnever
        · exact congrArg some (asking_inj (Event.start.inj heq))
      · intro heq
        obtain rfl : call = call' := Option.some.inj heq
        exact Or.inr ⟨⟨timeout, rfl⟩, rfl⟩
    · rw [Function.update_of_ne ht]
      simp [ht]
  made i t hi := (h.made i t hi).concat _
  callers := by
    have hcallers : (L.enter (s.exchange.follow events).tasks.length call).callers =
        L.callers ++ [_] := rfl
    rw [hcallers, List.length_append, h.callers, List.countP_append]
    rfl

/-- The ledger tells of a course that ends with time passing. -/
theorem Recounted.pass (h : Recounted s events L) (span : Millis) :
    Recounted s (events ++ [.pass span]) L where
  holds := by
    rw [follow_concat]
    exact h.holds.pass span
  asked t call := by
    rw [asked_concat, h.asked]
    simp
  made i t hi := (h.made i t hi).concat _
  callers := by
    rw [h.callers, List.countP_append]
    rfl

/-- The ledger after a step tells of the course that ends with the step. -/
theorem Recounted.step {L' : Ledger} (h : Recounted s events L)
    (haccounted : Accounted s (s.exchange.follow events) L t
      ((s.exchange.follow events).step t).1 L') :
    Recounted s (events ++ [.step t]) L' where
  holds := by
    rw [follow_concat]
    exact haccounted.holds
  asked u call := by
    rw [asked_concat, h.asked, haccounted.calls]
    simp
  made i u hi := by
    rcases haccounted.noted with hnoted | ⟨v, work, handle, aim, hnoted, hwork, hcaller, hid⟩
    · rw [hnoted] at hi
      exact (h.made i u hi).concat _
    · rw [hnoted] at hi
      rcases Nat.lt_or_ge i L.noted.length with hlt | hge
      · rw [List.getElem?_append_left hlt] at hi
        exact (h.made i u hi).concat _
      · obtain ⟨rfl, rfl⟩ : i = L.noted.length ∧ u = v := by
          have hlast := (List.getElem?_eq_some_iff.1 hi).1
          rw [List.length_append, List.length_singleton] at hlast
          obtain rfl : i = L.noted.length := Nat.le_antisymm (Nat.le_of_lt_succ hlast) hge
          rw [List.getElem?_concat_length] at hi
          exact ⟨rfl, (Option.some.inj hi).symm⟩
        refine ⟨events, t, work, handle, aim, List.prefix_rfl, ?_, ?_, hwork, hcaller, hid⟩
        · exact h.holds.noted.length_eq.symm
        · rw [follow_concat]
          have hlength := haccounted.holds.noted.length_eq
          rw [hnoted, List.length_append, List.length_singleton] at hlength
          exact hlength.symm
  callers := by
    rw [haccounted.callers, h.callers, List.countP_append]
    rfl

/-- Every undisturbed course of calls is told by a ledger. -/
theorem exists_recounted (hsound : s.Sound) (events : List Event) (h : Undisturbed s events) :
    ∃ L, Recounted s events L := by
  induction events using List.reverseRecOn with
  | nil =>
    refine ⟨{}, holds_exchange hsound, fun t call => ⟨?_, fun heq => ?_⟩, fun i t hi => ?_, rfl⟩
    · rintro ⟨before, timeout, after, hevents, -⟩
      exact absurd hevents (by simp)
    · cases heq
    · cases hi
  | append_singleton events event ih =>
    obtain ⟨L, hL⟩ := ih h.of_concat
    have hcalm := h.calm event (List.mem_append_right _ (List.mem_singleton.2 rfl))
    cases hcalm with
    | ask timeout hportable => exact ⟨_, hL.start hportable timeout⟩
    | pass span => exact ⟨L, hL.pass span⟩
    | step t =>
      have hfew : L.callers.length ≤ UInt64.size := hL.callers ▸ h.of_concat.few
      obtain ⟨L', hL'⟩ := hL.holds.step hsound hfew
        (h.punctual events (List.prefix_append _ _)) (h.roomy events t List.prefix_rfl)
      exact ⟨L', hL.step hL'⟩

/-! ### No steps for ever -/

/-- From an exchange that holds to a ledger, steps that get something done come to an end. -/
theorem Holds.acc (hsound : s.Sound) (h : Holds s e L)
    (hfew : L.callers.length ≤ UInt64.size) :
    Acc (fun after before => Advances s before after) e := by
  generalize hweight : weight e L = w
  induction w using WellFoundedLT.induction generalizing e L with
  | ind w ih =>
    refine Acc.intro e fun e' hadvance => ?_
    obtain ⟨t, rfl, hdifferent, hpunctual, hroomy⟩ := hadvance
    obtain ⟨L', hL'⟩ := h.step hsound hfew hpunctual hroomy
    refine ih _ ?_ hL'.holds (hL'.callers ▸ hfew) rfl
    rw [← hweight]
    exact hL'.lighter.resolve_left hdifferent

/-! ### Answers -/

/-- A caller for whom the engine was called has asked for this call of the engine. -/
theorem Recounted.passed (h : Recounted s events L) {i : Nat} (hi : L.noted[i]? = some t) :
    ∃ call, Asked s.exchange events t call ∧
      (s.exchange.follow events).engine.calls[i]? = some call := by
  have hcall := congrArg (·[i]?) h.holds.noted.calls
  simp only [List.getElem?_map, hi, Option.map_some] at hcall
  obtain ⟨call, hcalls, hcall⟩ := Option.map_eq_some_iff.1 hcall.symm
  obtain ⟨⟨call', outcome⟩, hcalled, rfl⟩ := Option.map_eq_some_iff.1 hcall.symm
  refine ⟨call', (h.asked t call').2 ?_, hcalls⟩
  obtain ⟨⟨call'', place⟩, hticket, hplace⟩ := facet_eq_some.1 hcalled
  obtain ⟨outcome', -, heq⟩ := Option.map_eq_some_iff.1 hplace
  cases heq
  rw [hticket]
  rfl

/-- The outcome of the engine call that was made for a caller. -/
theorem Recounted.outcome (h : Recounted s events L) {outcome : Engine.Outcome} {place : Place}
    (hu : L.tickets u = some ⟨call, place⟩) (hplace : place.outcome? = some outcome) :
    ∃ i : Nat, L.noted[i]? = some u ∧
      (s.script.outcomesOf (s.exchange.follow events).engine.calls)[i]? = some outcome := by
  have hcalled : facet Ticket.called? L.tickets u = some (call, outcome) := by
    rw [facet_of hu, Ticket.called?, hplace]
    rfl
  obtain ⟨i, hi, hget⟩ := List.getElem_of_mem (h.holds.noted.complete u _ hcalled)
  have hnoted : L.noted[i]? = some u := by rw [List.getElem?_eq_getElem hi, hget]
  refine ⟨i, hnoted, ?_⟩
  have houtcome := congrArg (·[i]?) h.holds.noted.outcomes
  simp only [List.getElem?_map, hnoted, Option.map_some, hcalled] at houtcome
  obtain ⟨outcome', houtcomes, heq⟩ := Option.map_eq_some_iff.1 houtcome.symm
  cases heq
  exact houtcomes

/-- A caller that has come to its end has the answer that the outcome of its call says. -/
theorem Holds.ended (h : Holds s e L) {place : Place} {result : Ended}
    (hu : L.tickets u = some ⟨call, place⟩) (hended : e.ended? u = some result) :
    ∃ outcome answer, place = .done outcome ∧ outcome.result? call = some answer ∧
      result = .answer answer := by
  obtain ⟨work, hwork, hat⟩ := h.seated.seated u _ .caller u hu rfl
  rw [ended?, hwork] at hended
  cases hat with
  | departing timeout => cases hended
  | sending hrest hreads => cases hended
  | waiting hplace => cases hended
  | done hresult => exact ⟨_, _, rfl, hresult, (Option.some.inj hended).symm⟩

/-- Calls that run at the same time, however their steps interleave, are served one by one:
as long as no deadline passes, nothing is cancelled, the connection stays open and every
frame fits, each calls the engine once with what its caller has passed and comes to the
answer that the outcome of this engine call says. -/
theorem exists_served (s : Service) (hsound : s.Sound) (events : List Event)
    (h : Undisturbed s events) : ∃ callers, Served s events callers := by
  obtain ⟨L, hL⟩ := exists_recounted hsound events h
  have hticket : ∀ t call, Asked s.exchange events t call →
      ∃ place, L.tickets t = some ⟨call, place⟩ := by
    intro t call hasked
    obtain ⟨⟨call', place⟩, hu, rfl⟩ := Option.map_eq_some_iff.1 ((hL.asked t call).1 hasked)
    exact ⟨place, hu⟩
  refine ⟨L.noted, {
    nodup := hL.holds.noted.nodup
    length := hL.holds.noted.length_eq
    made := hL.made
    passed := fun i t hi => hL.passed hi
    answered := fun t call hasked ended hended => ?_
    settled := fun hrest t call hasked => ?_
    finite := hL.holds.acc hsound (hL.callers ▸ h.few) }⟩
  · obtain ⟨place, hu⟩ := hticket t call hasked
    obtain ⟨outcome, result, rfl, hresult, rfl⟩ := hL.holds.ended hu hended
    obtain ⟨i, hi, houtcome⟩ := hL.outcome hu rfl
    exact ⟨i, outcome, result, hi, houtcome, hresult, rfl⟩
  · obtain ⟨place, hu⟩ := hticket t call hasked
    rcases hL.holds.done_or_called hsound hrest hu with ⟨outcome, rfl⟩ | ⟨hcalled, hawaits⟩
    · obtain ⟨i, hi, -⟩ := hL.outcome hu rfl
      refine ⟨List.mem_of_getElem? hi, Or.inl ?_⟩
      obtain ⟨work, hwork, hat⟩ := hL.holds.seated.seated t _ .caller t hu rfl
      cases hat with
      | waiting hplace => cases hplace
      | @done _ result hresult =>
        refine ⟨result, ?_⟩
        rw [ended?, hwork]
    · obtain ⟨outcome, houtcome⟩ := Option.isSome_iff_exists.1 hcalled
      obtain ⟨i, hi, -⟩ := hL.outcome hu houtcome
      exact ⟨List.mem_of_getElem? hi, Or.inr hawaits⟩

/-- A service with room for one frame in either direction, whose engine is too busy to
register a workflow. -/
def narrow : Service where
  client := .standard
  server := .standard
  clientReads := Frame.maxFrameSize
  serverReads := Frame.maxFrameSize
  requestTimeout := none
  retiredTtl := 0
  link := .channels 1
  script := { outcomes := [(.registerWorkflow, [.error (.generic "busy")])] }

/-- Two calls at the same time: the one that begins first sends its request last. -/
def crossing : List Event :=
  [.start (asking (.registerWorkflow "w") none), .start (asking (.describeDomain "d") none)] ++
    [2, 3, 3, 2, 0, 2, 0, 4, 5, 6, 7, 6, 7, 5, 4, 4, 5, 1, 5, 1, 2, 3].map .step

/-- Through a lane for one frame two calls that cross are served. -/
theorem exists_served_crossing :
    narrow.Sound ∧ Undisturbed narrow crossing ∧
      (∃ callers, Served narrow crossing callers) ∧
      ((narrow.exchange.follow crossing).ended? 2).isSome = true ∧
      ((narrow.exchange.follow crossing).ended? 3).isSome = true := by
  have hsound : narrow.Sound := by
    refine ⟨rfl, rfl, Nat.le_refl _, Nat.le_refl _, Or.inl ⟨1, rfl⟩, rfl, ?_⟩
    intro op list hlist outcome houtcome
    obtain ⟨rfl, rfl⟩ := Prod.mk.inj (List.mem_singleton.1 hlist)
    obtain rfl := List.mem_singleton.1 houtcome
    rfl
  have hcalm : ∀ event ∈ crossing, Calm event := by
    intro event hevent
    rcases List.mem_append.1 hevent with hask | hstep
    · rcases List.mem_cons.1 hask with rfl | hask
      · exact .ask none trivial
      · obtain rfl := List.mem_singleton.1 hask
        exact .ask none trivial
    · obtain ⟨t, -, rfl⟩ := List.mem_map.1 hstep
      exact .step t
  have hsmooth : Smooth narrow narrow.exchange crossing := by decide +kernel
  have h : Undisturbed narrow crossing := undisturbed_of_smooth hcalm (by decide) hsmooth
  exact ⟨hsound, h, exists_served narrow hsound crossing h, by decide +kernel, by decide +kernel⟩

end Parley.Exchange
