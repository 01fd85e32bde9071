/-
# Cancelled dispatches

A cancel request is told that its target was cancelled when the call of the target was
tracked.  The entry of a call stays in the table until its dispatch goes on, so the call may
have ended before; then there is nothing left to stop, and the dispatch replies with what
the call came to although the cancel request was told otherwise.  In every other case the
dispatch replies that it was cancelled, whatever comes in between.
-/

import Mathlib.Control.Monad.Basic
import Parley.Proofs.Exchange.Reply
import Parley.Proofs.Failure

namespace Parley

namespace Exchange

variable {e : Exchange} {t s c : TaskId} {id : Int64} {request blank : Message} {purpose : Purpose}
  {ending : Engine.Ending} {event : Event}

/-! ### Calls that come to their end -/

/-- A call has ended in this way, or it goes on and was told to stop. -/
def EndsAs (e : Exchange) (c : TaskId) (ending : Engine.Ending) : Prop :=
  e.endingOf? c = some ending ∨
    ending = .aborted ∧ e.aborting c = true ∧ ∃ call, e.work? c = some (.engineCall call)

/-- Such a call is no dispatch. -/
theorem EndsAs.not_dispatches (h : e.EndsAs c ending) : e.dispatches c = false := by
  rcases h with hended | ⟨-, -, call, hwork⟩
  · obtain ⟨result, hwork⟩ := ended_of_endingOf? hended
    exact dispatches_of_work? hwork
  · exact dispatches_of_work? hwork

/-- A call that was told to stop has ended after its next step, and one that has ended stays
as it is. -/
theorem EndsAs.step (h : e.EndsAs c ending) : (e.step c).1.endingOf? c = some ending := by
  rcases h with hended | ⟨rfl, haborting, call, hwork⟩
  · exact endingOf?_happen hended (.step c)
  · rcases step_of_aborting hwork haborting with ⟨⟨result, hresult⟩, -⟩ | ⟨-, hstep⟩
    · cases hresult
    · apply endingOf?_of_aborted
      rw [hstep]
      change (e.finish c .aborted).work? c = _
      rw [work?_finish, if_pos rfl, hwork, Option.map_some]

/-- A call that comes to this end does so whatever happens. -/
theorem EndsAs.happen (h : e.EndsAs c ending) (event : Event) :
    (e.happen event).EndsAs c ending := by
  by_cases hself : event = .step c
  · subst hself
    exact Or.inl h.step
  · rcases h with hended | ⟨heq, haborting, call, hwork⟩
    · exact Or.inl (endingOf?_happen hended event)
    · refine Or.inr ⟨heq, aborting_happen e event haborting, call, ?_⟩
      rw [work?_happen_of_ne hself (lt_of_work? hwork), hwork]

/-- The call that a cancel request finds in the table has ended before, or is told to stop. -/
theorem Orderly.endsAs_of_cancels (h : Orderly e) (hcancels : e.Cancels t id)
    (hlookup : e.dispatcher.running.lookup id = some c) :
    (e.step t).1.EndsAs c ((e.endingOf? c).getD .aborted) := by
  obtain ⟨-, s, request, -, hawaits⟩ := h.entries id c (mem_of_lookup hlookup)
  rcases (h.isCallOf hawaits).cases with ⟨call, hwork, hnone⟩ | ⟨ending, result, hending, -⟩
  · have hne : c ≠ t := by
      rintro rfl
      have hdispatches := hcancels.dispatches
      rw [dispatches_of_work? hwork] at hdispatches
      cases hdispatches
    obtain ⟨-, haborting | ⟨result, hended⟩⟩ := h.step_of_cancels hcancels hlookup
    · rw [hnone]
      refine Or.inr ⟨rfl, haborting, call, ?_⟩
      rw [work?_step_of_ne hne (lt_of_work? hwork), hwork]
    · rw [hwork] at hended
      cases hended
  · rw [hending]
    exact Or.inl (endingOf?_happen hending (.step t))

/-! ### The dispatch that waits -/

/-- A dispatch waits for its call, which comes to this end, or it has come to its reply. -/
structure Concluding (e : Exchange) (s c : TaskId) (request : Message) (purpose : Purpose)
    (job : Dispatcher.Job) (ending : Engine.Ending) : Prop where
  orderly : Orderly e
  lt : s < e.tasks.length
  endsAs : e.EndsAs c ending
  dispatch :
    e.work? s = some (.handler { request, purpose, phase := .joining job c true }) ∨
      e.dispatches s = false ∧ (purpose = .reply →
        e.work? s = some (.ended (.reply (job.reply (Dispatcher.outcomeOf ending)))))

namespace Concluding

variable {job : Dispatcher.Job}

/-- A dispatch whose call has ended is about to make the reply of that end. -/
theorem replyAt? (h : e.Concluding s c request purpose job ending)
    (hended : e.endingOf? c = some ending) (hdispatches : e.dispatches s = true) :
    e.replyAt? s = some (job.reply (Dispatcher.outcomeOf ending)) := by
  rcases h.dispatch with hwork | ⟨hdone, -⟩
  · rw [replyAt?_of_joining hwork, hended, Option.map_some]
  · rw [hdone] at hdispatches
    cases hdispatches

/-- The only reply that the dispatch can come to. -/
theorem eq_of_replyAt? (h : e.Concluding s c request purpose job ending)
    {reply : Except Fault Message} (hreply : e.replyAt? s = some reply) :
    reply = job.reply (Dispatcher.outcomeOf ending) := by
  have hdispatches := dispatches_of_replyAt? hreply
  rcases h.endsAs with hended | ⟨-, -, call, hcall⟩
  · rw [h.replyAt? hended hdispatches] at hreply
    exact (Option.some.inj hreply).symm
  · rcases h.dispatch with hwork | ⟨hdone, -⟩
    · have hnone : e.endingOf? c = none := by rw [endingOf?, ended?, hcall]
      rw [replyAt?_of_joining hwork, hnone] at hreply
      cases hreply
    · rw [hdone] at hdispatches
      cases hdispatches

/-- Its next step, if it is one in which the dispatch comes to its reply. -/
theorem step_self (h : e.Concluding s c request purpose job ending)
    (hwork : e.work? s = some (.handler { request, purpose, phase := .joining job c true })) :
    (e.step s).1.work? s = e.work? s ∨ (e.step s).1.dispatches s = false ∧ (purpose = .reply →
      (e.step s).1.work? s =
        some (.ended (.reply (job.reply (Dispatcher.outcomeOf ending))))) := by
  have hdispatches : e.dispatches s = true := dispatches_of_work? hwork
  have hfree := h.orderly.heeded s hdispatches
  cases hreply : e.replyAt? s with
  | none =>
    left
    rcases step_of_replyAt?_eq_none hfree hdispatches hreply with
      ⟨handler, other, hstarting, hphase, -, -⟩ | ⟨-, -, -, hsame⟩
    · rw [hwork] at hstarting
      cases hstarting
      cases hphase
    · rw [hsame]
  | some reply =>
    obtain rfl := h.eq_of_replyAt? hreply
    refine Or.inr ⟨not_dispatches_of_replyAt? hfree hreply, ?_⟩
    rintro rfl
    exact work?_step_of_replyAt? hfree hwork hreply

/-- A dispatch keeps waiting or has come to its reply, whatever happens. -/
theorem happen (h : e.Concluding s c request purpose job ending)
    (hdriven : ∀ t, event = .abort t → e.dispatches t = false) :
    (e.happen event).Concluding s c request purpose job ending where
  orderly := h.orderly.happen hdriven
  lt := Nat.lt_of_lt_of_le h.lt (length_le_happen e event)
  endsAs := h.endsAs.happen event
  dispatch := by
    rcases h.dispatch with hwork | ⟨hdone, hended⟩
    · by_cases hself : event = .step s
      · subst hself
        rw [← hwork]
        exact h.step_self hwork
      · rw [work?_happen_of_ne hself h.lt]
        exact Or.inl hwork
    · refine Or.inr ⟨?_, fun hpurpose => ?_⟩
      · refine Bool.eq_false_iff.2 fun hnow => ?_
        rw [dispatches_of_happen h.lt hnow] at hdone
        cases hdone
      · by_cases hself : event = .step s
        · subst hself
          rw [Exchange.happen, step_of_ended (hended hpurpose)]
          exact hended hpurpose
        · rw [work?_happen_of_ne hself h.lt]
          exact hended hpurpose

/-- A dispatch keeps waiting or has come to its reply all along a course. -/
theorem follow {events : List Event} (h : e.Concluding s c request purpose job ending)
    (hdriven : Driven e events) : (e.follow events).Concluding s c request purpose job ending := by
  induction events generalizing e with
  | nil => exact h
  | cons event events ih =>
    obtain ⟨hfirst, hrest⟩ := hdriven
    exact ih (h.happen hfirst) hrest

/-- What the dispatch has ended with when it hands its reply over. -/
theorem ended?_eq (h : e.Concluding s c request purpose job ending) (hpurpose : purpose = .reply)
    {result : Ended} (hresult : e.ended? s = some result) :
    result = .reply (job.reply (Dispatcher.outcomeOf ending)) := by
  rcases h.dispatch with hwork | ⟨-, hended⟩
  · rw [ended?, hwork] at hresult
    cases hresult
  · rw [ended?_of_work? (hended hpurpose)] at hresult
    exact (Option.some.inj hresult).symm

/-- One more step of the call and the dispatch comes to its reply. -/
theorem replyAt?_step (h : e.Concluding s c request purpose job ending)
    (hdispatches : e.dispatches s = true) :
    (e.step c).1.replyAt? s = some (job.reply (Dispatcher.outcomeOf ending)) := by
  have hdriven : ∀ u, Event.step c = .abort u → e.dispatches u = false := nofun
  have hafter : (e.step c).1.Concluding s c request purpose job ending := h.happen hdriven
  apply hafter.replyAt? h.endsAs.step
  have hne : s ≠ c := by
    rintro rfl
    rw [h.endsAs.not_dispatches] at hdispatches
    cases hdispatches
  rw [dispatches, work?_step_of_ne hne h.lt]
  exact hdispatches

end Concluding

/-- A cancel request that finds a call in the table leaves the dispatch of the call with one
thing to come to. -/
theorem Orderly.concluding_of_cancels (h : Orderly e) (hcancels : e.Cancels t id)
    (hlookup : e.dispatcher.running.lookup id = some c) :
    ∃ s request purpose blank, request.requestId = id ∧
      e.work? s =
        some (.handler { request, purpose, phase := .joining ⟨id, blank⟩ c true }) ∧
      (e.step t).1.Concluding s c request purpose ⟨id, blank⟩
        ((e.endingOf? c).getD .aborted) := by
  obtain ⟨-, s, request, rfl, purpose, blank, hwork⟩ := h.entries id c (mem_of_lookup hlookup)
  have hne : s ≠ t := by
    rintro rfl
    obtain ⟨request', purpose', job, hstarting, -⟩ := hcancels
    rw [hwork] at hstarting
    cases hstarting
  have hlt := lt_of_work? hwork
  have hdriven : ∀ u, Event.step t = .abort u → e.dispatches u = false := nofun
  exact ⟨s, request, purpose, blank, rfl, hwork, {
    orderly := h.happen hdriven
    lt := Nat.lt_of_lt_of_le hlt (length_le_step e t)
    endsAs := h.endsAs_of_cancels hcancels hlookup
    dispatch := Or.inl ((work?_step_of_ne hne hlt).trans hwork) }⟩

/-- What a cancel request is told. -/
theorem Cancels.wasCancelled (h : e.Cancels t id) {reply : Message}
    (hreply : e.replyAt? t = some (.ok reply)) (hclass : reply.messageClass = .reply .cancel) :
    reply.bag.getBool Key.wasCancelled = .ok (e.dispatcher.running.lookup id).isSome := by
  obtain ⟨request, purpose, job, hwork, haccept, hroute, htarget⟩ := h
  rw [replyAt?_of_starting hwork, replyAtOnce?, haccept] at hreply
  simp only [hroute, Dispatcher.cancelRunning, htarget, Option.some.injEq] at hreply
  obtain rfl := Dispatcher.Job.eq_of_reply_ok hreply
  have hkeys : Key.wasCancelled ≠ Bag.requestIdKey := by decide
  by_cases hblank : job.blank.messageClass = .reply .cancel
  · apply Bag.getBool_of_text?
    simp only [if_pos hblank, Message.setRequestId, Bag.text?_setInt64, if_neg hkeys,
      Bag.text?_setBool, if_true]
  · rw [if_neg hblank] at hclass
    exact absurd hclass hblank

/-! ### Cancel requests along a course -/

/-- What a cancel request about an id means that is carried out next. -/
structure CancelSound (now : Exchange) (t : TaskId) (id : Int64) : Prop where
  /-- It is told whether the id is tracked. -/
  told : ∀ reply, now.replyAt? t = some (.ok reply) → reply.messageClass = .reply .cancel →
    reply.bag.getBool Key.wasCancelled = .ok (now.dispatcher.running.lookup id).isSome
  /-- If it is, the dispatch that waits for the tracked call can come to one reply only, and
  comes to it when the call and then the dispatch take one more step.  The reply is what the
  call has come to, or it reports that the request was cancelled. -/
  dispatch : ∀ c, now.dispatcher.running.lookup id = some c →
    ∃ s request purpose blank, request.requestId = id ∧
      now.work? s = some (.handler { request, purpose, phase := .joining ⟨id, blank⟩ c true }) ∧
      let ending := (now.endingOf? c).getD .aborted
      let reply := Dispatcher.Job.reply ⟨id, blank⟩ (Dispatcher.outcomeOf ending)
      (now.endingOf? c = none → blank.isReply = true →
        ∃ answer, reply = .ok answer ∧
          answer.failure = .ok (some Dispatcher.abortedFailure)) ∧
      ∀ later, Driven (now.step t).1 later →
        let after := (now.step t).1.follow later
        (∀ other, after.replyAt? s = some other → other = reply) ∧
        (purpose = .reply → ∀ result, after.ended? s = some result → result = .reply reply) ∧
        (after.dispatches s = true → (after.step c).1.replyAt? s = some reply)

/-- In every course in which the dispatches are left to come to their replies, a cancel
request that is carried out is told whether its target was tracked.  If it was, then
whatever happens next and in whatever order, the dispatch of the target comes to the reply
that it was cancelled, unless its call had ended already. -/
theorem cancel_of_driven (e : Exchange) (hfresh : Fresh e) (events : List Event)
    (hdriven : Driven e events) :
    ∀ t id, (e.follow events).Cancels t id → CancelSound (e.follow events) t id := by
  intro t id hcancels
  have hordered : Orderly (e.follow events) := (Orderly.of_fresh hfresh).follow hdriven
  refine ⟨fun reply hreply hclass => hcancels.wasCancelled hreply hclass, fun c hlookup => ?_⟩
  obtain ⟨s, request, purpose, blank, hid, hwork, hconcluding⟩ :=
    hordered.concluding_of_cancels hcancels hlookup
  refine ⟨s, request, purpose, blank, hid, hwork, fun hnone hreply => ?_, fun later hlater => ?_⟩
  · rw [hnone, Option.getD_none]
    exact ⟨_, Dispatcher.Job.reply_error hreply _, Message.failure_setFailure rfl blank id⟩
  · have hafter := hconcluding.follow hlater
    refine ⟨fun other hother => hafter.eq_of_replyAt? hother, fun hpurpose result hresult => ?_,
      fun hdispatches => ?_⟩
    · exact hafter.ended?_eq hpurpose hresult
    · exact hafter.replyAt?_step hdispatches

/-- Task 0 waits for its call, task 1, which is not done when task 2 is about to cancel it. -/
def cancelledInTime : List Event :=
  [.start (.handler (describing 40) .reply), .step 0, .step 1,
    .start (.handler (cancelling 41 40) .reply)]

/-- A call that has not ended is cancelled in time. -/
theorem cancel_of_driven_inTime :
    let now := idle.follow cancelledInTime
    Fresh idle ∧ Driven idle cancelledInTime ∧ now.Cancels 2 40 ∧
      now.dispatcher.running.lookup 40 = some 1 ∧ now.endingOf? 1 = none ∧
      CancelSound now 2 40 := by
  intro now
  have hfresh : Fresh idle := ⟨rfl, rfl⟩
  have hdriven : Driven idle cancelledInTime := ⟨nofun, nofun, nofun, nofun, trivial⟩
  have hcancels : now.Cancels 2 40 :=
    ⟨cancelling 41 40, .reply, ⟨41, .reply .cancel⟩, rfl, by decide +kernel, rfl, by decide +kernel⟩
  exact ⟨hfresh, hdriven, hcancels, by decide +kernel, rfl,
    cancel_of_driven idle hfresh cancelledInTime hdriven 2 40 hcancels⟩

/-- The call is done before task 2 cancels it, and task 0 has not gone on. -/
def cancelledTooLate : List Event :=
  [.start (.handler (describing 40) .reply), .step 0, .step 1, .step 1,
    .start (.handler (cancelling 41 40) .reply)]

/-- Task 2 is told that its target was cancelled, and the target replies without failure. -/
theorem wasCancelled_tooLate :
    let now := idle.follow cancelledTooLate
    Driven idle (cancelledTooLate ++ [.step 2, .step 0]) ∧ now.Cancels 2 40 ∧
      (∃ reply, (now.step 2).1.ended? 2 = some (.reply (.ok reply)) ∧
        reply.messageClass = .reply .cancel ∧
        reply.bag.getBool Key.wasCancelled = .ok true) ∧
      ∃ answer, ((now.step 2).1.step 0).1.ended? 0 = some (.reply (.ok answer)) ∧
        answer.requestId = 40 ∧ answer.failure = .ok none := by
  intro now
  have hdriven : Driven idle (cancelledTooLate ++ [.step 2, .step 0]) :=
    ⟨nofun, nofun, nofun, nofun, nofun, nofun, nofun, trivial⟩
  have hcancelling : now.work? 2 =
      some (.handler { request := cancelling 41 40, purpose := .reply }) := rfl
  have hcancels : now.Cancels 2 40 :=
    ⟨_, _, ⟨41, .reply .cancel⟩, hcancelling, by decide +kernel, rfl, by decide +kernel⟩
  have htold : now.replyAt? 2 = some (.ok (Message.setRequestId
      { Message.reply .cancel with bag := Bag.empty.setBool Key.wasCancelled true } 41)) := by
    decide +kernel
  have hended := work?_step_of_replyAt? (by decide +kernel) hcancelling htold
  let opened := idle.follow (cancelledTooLate.take 1)
  have hopened : opened.work? 0 = some (.handler { request := describing 40, purpose := .reply }) :=
    rfl
  have hgoes : (opened.follow (cancelledTooLate.drop 1 ++ [.step 2])).dispatches 0 = true := by
    decide +kernel
  obtain ⟨phase, hwork⟩ := work?_follow_of_dispatches hopened hgoes
  have hreplies : ((now.step 2).1.replyAt? 0).map
      (fun reply => reply.map fun m => (m.requestId, m.failure)) = some (.ok (40, .ok none)) := by
    decide +kernel
  obtain ⟨reply, hreply, hmap⟩ := Option.map_eq_some_iff.1 hreplies
  obtain ⟨answer, rfl, hanswer⟩ := map_eq_ok.1 hmap
  have hanswered := work?_step_of_replyAt? (by decide +kernel) hwork hreply
  exact ⟨hdriven, hcancels,
    ⟨_, ended?_of_work? hended, rfl, by decide +kernel⟩,
    ⟨answer, ended?_of_work? hanswered, congrArg Prod.fst hanswer, congrArg Prod.snd hanswer⟩⟩

end Exchange

end Parley
