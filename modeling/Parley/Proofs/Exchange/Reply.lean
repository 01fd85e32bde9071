/-
# How a handler comes to its reply

A dispatch is in progress until the step in which its handler comes to a reply.  That step
is the one before which a reply can be told: before every other step of the handler none
can, and the handler then forwards its request or waits.
-/

import Parley.Exchange.Reply
import Parley.Proofs.Exchange.Tracking

namespace Parley.Exchange

variable {e e' : Exchange} {t u c : TaskId} {request blank : Message} {reply : Except Fault Message}
  {event : Event}

/-- Nothing that happens takes a task away. -/
theorem length_le_happen (e : Exchange) (event : Event) :
    e.tasks.length ≤ (e.happen event).tasks.length := by
  cases event with
  | step t => exact length_le_step e t
  | _ => exact (spares_happen fun t heq => by cases heq).length_le

/-! ### How engine calls end -/

/-- An engine call that has ended has its ending. -/
theorem endingOf?_of_call {ending : Engine.Ending}
    (h : e.work? c = some (.ended (.call ending))) : e.endingOf? c = some ending := by
  rw [endingOf?, ended?_of_work? h]

/-- An engine call that was stopped has been aborted. -/
theorem endingOf?_of_aborted (h : e.work? c = some (.ended .aborted)) :
    e.endingOf? c = some .aborted := by
  rw [endingOf?, ended?_of_work? h]

/-- An engine call goes on or has ended in some way. -/
theorem IsCallOf.cases (h : e.IsCallOf c request) :
    (∃ call, e.work? c = some (.engineCall call) ∧ e.endingOf? c = none) ∨
      ∃ ending result, e.endingOf? c = some ending ∧ e.work? c = some (.ended result) := by
  obtain ⟨blank, calls, hcalling⟩ := h
  generalize hwork : e.work? c = work at hcalling
  have hlive : ∀ call, work = some (.engineCall call) → e.endingOf? c = none := by
    rintro call rfl
    rw [endingOf?, ended?, hwork]
  cases hcalling with
  | starting => exact Or.inl ⟨_, rfl, hlive _ rfl⟩
  | working => exact Or.inl ⟨_, rfl, hlive _ rfl⟩
  | sleeping => exact Or.inl ⟨_, rfl, hlive _ rfl⟩
  | ended ending => exact Or.inr ⟨ending, _, endingOf?_of_call hwork, rfl⟩
  | aborted => exact Or.inr ⟨.aborted, _, endingOf?_of_aborted hwork, rfl⟩

/-- What an engine call has ended with depends on what it is at alone. -/
theorem endingOf?_congr (h : e'.work? c = e.work? c) : e'.endingOf? c = e.endingOf? c := by
  rw [endingOf?, endingOf?, ended?, ended?, h]

/-- A task that has ended takes no steps. -/
theorem step_of_ended {result : Ended} (h : e.work? t = some (.ended result)) :
    (e.step t).1 = e := by
  by_cases haborting : e.aborting t = true
  · rcases step_of_aborting h haborting with ⟨-, hstep⟩ | ⟨hlive, -⟩
    · rw [hstep]
    · exact absurd rfl (hlive result)
  · rw [step_of_work? h (by simpa using haborting)]

/-- A call with an ending has ended. -/
theorem ended_of_endingOf? {ending : Engine.Ending} (h : e.endingOf? c = some ending) :
    ∃ result, e.work? c = some (.ended result) := by
  unfold endingOf? ended? at h
  cases hwork : e.work? c with
  | none =>
    rw [hwork] at h
    cases h
  | some work =>
    cases work with
    | ended result => exact ⟨result, rfl⟩
    | _ =>
      rw [hwork] at h
      cases h

/-- How an engine call has ended stays so. -/
theorem endingOf?_happen {ending : Engine.Ending} (h : e.endingOf? c = some ending)
    (event : Event) : (e.happen event).endingOf? c = some ending := by
  obtain ⟨result, hended⟩ := ended_of_endingOf? h
  rw [← h]
  apply endingOf?_congr
  by_cases hself : event = .step c
  · subst hself
    rw [happen, step_of_ended hended]
  · exact work?_happen_of_ne hself (lt_of_work? hended)

/-! ### Replies and dispatches -/

/-- A handler that begins is about to make the reply that is made at once, if there is one. -/
theorem replyAt?_of_starting {purpose : Purpose}
    (h : e.work? t = some (.handler { request, purpose })) :
    e.replyAt? t = replyAtOnce? e.dispatcher request := by
  rw [replyAt?, h]

/-- A handler that waits is about to make the reply of what its call has ended with. -/
theorem replyAt?_of_joining {purpose : Purpose} {job : Dispatcher.Job} {tracked : Bool}
    (h : e.work? t = some (.handler { request, purpose, phase := .joining job c tracked })) :
    e.replyAt? t = (e.endingOf? c).map fun ending => job.reply (Dispatcher.outcomeOf ending) := by
  rw [replyAt?, h]

/-- Only a dispatch comes to a reply. -/
theorem dispatches_of_replyAt? (h : e.replyAt? t = some reply) : e.dispatches t = true := by
  unfold replyAt? at h
  split at h
  next hwork => exact dispatches_of_work? hwork
  next hwork => exact dispatches_of_work? hwork
  next => cases h

/-- A dispatch that is in progress was in progress before, or has just begun. -/
theorem dispatches_of_happen (hlt : t < e.tasks.length)
    (h : (e.happen event).dispatches t = true) : e.dispatches t = true := by
  obtain ⟨work, hwork, hdispatches⟩ := (Option.any_eq_true _ _).1 h
  rcases happen_cases e event with ⟨engine, hspares⟩ |
    ⟨s, handler, job, rfl, hhandler, hphase, -, hstep⟩
  · rcases hspares.dispatch t work hwork hdispatches with hold | ⟨hle, -⟩
    · exact (dispatches_of_work? hold).trans hdispatches
    · exact absurd hlt (Nat.not_lt_of_le hle)
  · rw [hstep] at hwork
    rcases work?_of_forward hhandler hwork hdispatches with ⟨rfl, -⟩ | ⟨-, hold⟩
    · obtain ⟨request, purpose, phase⟩ := handler
      obtain rfl : phase = .starting := hphase
      exact dispatches_of_work? hhandler
    · exact (dispatches_of_work? hold).trans hdispatches

/-- No dispatch has come further, nothing was sent, and the engine was not called.  Only the
table of running calls may be another one, and calls may have been told to stop. -/
structure Poised (e e' : Exchange) : Prop where
  work : ∀ u, e'.work? u = e.work? u
  length : e'.tasks.length = e.tasks.length
  link : e'.link = e.link
  engine : e'.engine = e.engine
  codec : e'.dispatcher.codec = e.dispatcher.codec
  shutdown : e'.dispatcher.shutdown = e.dispatcher.shutdown
  stopped : e'.stopped = e.stopped

namespace Poised

/-- Another table leaves the exchange poised. -/
theorem of_dispatcher {d : Dispatcher} (hcodec : d.codec = e.dispatcher.codec)
    (hshutdown : d.shutdown = e.dispatcher.shutdown) : Poised e { e with dispatcher := d } where
  work _ := rfl
  length := rfl
  link := rfl
  engine := rfl
  codec := hcodec
  shutdown := hshutdown
  stopped := rfl

/-- An exchange is poised as it is. -/
theorem refl (e : Exchange) : Poised e e :=
  of_dispatcher rfl rfl

/-- To tell a call to stop leaves the exchange poised. -/
theorem abort (h : Poised e e') (v : TaskId) : Poised e (e'.abort v) where
  work u := (work?_abort e' v u).trans (h.work u)
  length := (length_abort e' v).trans h.length
  link := (link_abort e' v).trans h.link
  engine := (congrArg Parts.engine (parts_abort e' v)).trans h.engine
  codec := (congrArg (fun parts => parts.dispatcher.codec) (parts_abort e' v)).trans h.codec
  shutdown :=
    (congrArg (fun parts => parts.dispatcher.shutdown) (parts_abort e' v)).trans h.shutdown
  stopped := (congrArg Parts.stopped (parts_abort e' v)).trans h.stopped

end Poised

/-- To take a call out of the table leaves the exchange poised. -/
theorem poised_cancelRunning (request : Message) (job : Dispatcher.Job) :
    Poised e { e with dispatcher := (e.dispatcher.cancelRunning request job).2.2 } := by
  unfold Dispatcher.cancelRunning
  split <;> exact Poised.of_dispatcher rfl rfl

/-- When its call has ended, a handler takes the entry out that it has put into the table and
concludes with what the call has come to. -/
theorem step_of_endingOf? {purpose : Purpose} {job : Dispatcher.Job} {tracked : Bool}
    {ending : Engine.Ending} (hfree : e.aborting t = false)
    (hwork : e.work? t =
      some (.handler { request, purpose, phase := .joining job c tracked }))
    (hending : e.endingOf? c = some ending) :
    (e.step t).1 =
      ((if tracked then { e with dispatcher := e.dispatcher.untrack job.id c } else e).conclude t
        { request, purpose, phase := .joining job c tracked }
        (job.reply (Dispatcher.outcomeOf ending))).1 := by
  rw [step_of_work? hwork hfree]
  unfold endingOf? at hending
  simp only [stepHandler]
  generalize e.ended? c = ended at hending ⊢
  cases ended with
  | none => cases hending
  | some result =>
    cases result with
    | call _ | aborted =>
      cases hending
      rfl
    | _ => cases hending

/-- A handler that comes to a reply does with it what its purpose asks for. -/
theorem step_of_replyAt? (hfree : e.aborting t = false) (hreply : e.replyAt? t = some reply) :
    ∃ handler e', e.work? t = some (.handler handler) ∧ Poised e e' ∧
      (e.step t).1 = (e'.conclude t handler reply).1 := by
  unfold replyAt? at hreply
  split at hreply
  next request purpose hwork =>
    refine ⟨{ request, purpose }, ?_⟩
    rw [step_of_work? hwork hfree]
    unfold replyAtOnce? at hreply
    split at hreply
    next fault haccept =>
      cases hreply
      exact ⟨e, hwork, .refl e, by simp only [stepHandler, haccept]⟩
    next job haccept =>
      split at hreply
      next hroute =>
        cases hreply
        exact ⟨e, hwork, .refl e, by simp only [stepHandler, haccept, hroute]⟩
      next hroute =>
        cases hreply
        have hcancel := poised_cancelRunning (e := e) request job
        cases hvictim : (e.dispatcher.cancelRunning request job).2.1 with
        | none =>
          exact ⟨_, hwork, hcancel, by simp only [stepHandler, haccept, hroute, hvictim]⟩
        | some v =>
          exact ⟨_, hwork, hcancel.abort v, by simp only [stepHandler, haccept, hroute, hvictim]⟩
      next => cases hreply
  next request purpose job c tracked hwork =>
    obtain ⟨ending, hending, rfl⟩ := Option.map_eq_some_iff.1 hreply
    have hstep := step_of_endingOf? hfree hwork hending
    cases tracked with
    | true =>
      rw [if_pos rfl] at hstep
      exact ⟨_, { e with dispatcher := e.dispatcher.untrack job.id c }, hwork,
        .of_dispatcher rfl rfl, hstep⟩
    | false => exact ⟨_, e, hwork, .refl e, hstep⟩
  next => cases hreply

/-- A handler that hands its reply over ends with the reply that it comes to. -/
theorem work?_step_of_replyAt? {phase : HandlerPhase} (hfree : e.aborting t = false)
    (hwork : e.work? t = some (.handler { request, purpose := .reply, phase }))
    (hreply : e.replyAt? t = some reply) :
    (e.step t).1.work? t = some (.ended (.reply reply)) := by
  obtain ⟨handler, e', hhandler, hpoised, hstep⟩ := step_of_replyAt? hfree hreply
  cases hwork.symm.trans hhandler
  rw [hstep, conclude, work?_finish, if_pos rfl, hpoised.work, hwork, Option.map_some]

/-- A handler that has come to its reply is no dispatch any more. -/
theorem not_dispatches_of_replyAt? (hfree : e.aborting t = false)
    (hreply : e.replyAt? t = some reply) : (e.step t).1.dispatches t = false := by
  obtain ⟨handler, e', -, -, hstep⟩ := step_of_replyAt? hfree hreply
  rw [hstep]
  exact dispatches_conclude handler reply

/-- A dispatch that does not come to its reply forwards its request or waits. -/
theorem step_of_replyAt?_eq_none (hfree : e.aborting t = false) (h : e.dispatches t = true)
    (hreply : e.replyAt? t = none) :
    (∃ handler job, e.work? t = some (.handler handler) ∧ handler.phase = .starting ∧
      e.dispatcher.accept handler.request = .ok job ∧
      (e.step t).1 = e.forward t handler job) ∨
    ∃ handler, e.work? t = some (.handler handler) ∧ handler.phase ≠ .starting ∧
      (e.step t).1 = e := by
  obtain ⟨work, hwork, hdispatches⟩ := (Option.any_eq_true _ _).1 h
  cases work with
  | handler handler =>
    obtain ⟨request, purpose, phase⟩ := handler
    cases phase with
    | starting =>
      rw [replyAt?_of_starting hwork] at hreply
      unfold replyAtOnce? at hreply
      split at hreply
      next => cases hreply
      next job haccept =>
        split at hreply
        next => cases hreply
        next => cases hreply
        next hroute =>
          refine Or.inl ⟨_, job, hwork, rfl, haccept, ?_⟩
          rw [step_of_work? hwork hfree]
          simp only [stepHandler, haccept, hroute]
    | joining job c tracked =>
      rw [replyAt?_of_joining hwork, Option.map_eq_none_iff] at hreply
      refine Or.inr ⟨_, hwork, HandlerPhase.noConfusion, ?_⟩
      rw [step_of_work? hwork hfree]
      unfold endingOf? at hreply
      split at hreply
      next => cases hreply
      next => cases hreply
      next hcall haborted =>
        -- The two ways in which the call could have ended are excluded by the hypotheses.
        simp only [stepHandler]
    | transmitting rest => cases hdispatches
  | _ => cases hdispatches

/-! ### Dispatches that go on -/

/-- A dispatch that goes on is not told to stop, or it does not take a step. -/
theorem free_of_dispatches_step (h : (e.step t).1.dispatches t = true) : e.aborting t = false := by
  refine Bool.eq_false_iff.2 fun haborting => ?_
  obtain ⟨work, hwork, hdispatches⟩ := (Option.any_eq_true _ _).1 h
  cases hold : e.work? t with
  | none =>
    rw [step_of_work?_eq_none hold, hold] at hwork
    cases hwork
  | some before =>
    rcases step_of_aborting hold haborting with ⟨⟨result, rfl⟩, hstep⟩ | ⟨-, hstep⟩
    · rw [hstep, hold] at hwork
      cases hwork
      cases hdispatches
    · rw [hstep] at h
      rw [dispatches_finish] at h
      cases h

/-- A dispatch that goes on has come to no reply. -/
theorem replyAt?_of_dispatches_step (h : (e.step t).1.dispatches t = true) :
    e.replyAt? t = none := by
  cases hreply : e.replyAt? t with
  | none => rfl
  | some reply =>
    rw [not_dispatches_of_replyAt? (free_of_dispatches_step h) hreply] at h
    cases h

/-- A dispatch that goes on keeps its request and its purpose. -/
theorem work?_happen_of_dispatches {event : Event} {h : Handler}
    (hwork : e.work? t = some (.handler h)) (hgoes : (e.happen event).dispatches t = true) :
    ∃ phase, (e.happen event).work? t = some (.handler { h with phase }) := by
  by_cases hself : event = .step t
  · subst hself
    have hdispatches := dispatches_of_happen (lt_of_work? hwork) hgoes
    rcases step_of_replyAt?_eq_none (free_of_dispatches_step hgoes) hdispatches
      (replyAt?_of_dispatches_step hgoes) with
      ⟨handler, job, hhandler, -, -, hstep⟩ | ⟨-, -, -, hstep⟩
    · cases hwork.symm.trans hhandler
      exact ⟨_, by rw [happen, hstep, work?_forward job hwork, if_pos rfl]⟩
    · exact ⟨_, by rw [happen, hstep, hwork]⟩
  · exact ⟨_, by rw [work?_happen_of_ne hself (lt_of_work? hwork), hwork]⟩

/-- Whoever dispatches later did so before. -/
theorem dispatches_of_follow {events : List Event} (hlt : t < e.tasks.length)
    (h : (e.follow events).dispatches t = true) : e.dispatches t = true := by
  induction events generalizing e with
  | nil => exact h
  | cons event events ih =>
    have hlt' := Nat.lt_of_lt_of_le hlt (length_le_happen e event)
    exact dispatches_of_happen hlt (ih hlt' h)

/-- Until it comes to its reply a handler changes its phase only. -/
theorem work?_follow_of_dispatches {events : List Event} {h : Handler}
    (hwork : e.work? t = some (.handler h)) (hgoes : (e.follow events).dispatches t = true) :
    ∃ phase, (e.follow events).work? t = some (.handler { h with phase }) := by
  induction events generalizing e h with
  | nil => exact ⟨_, hwork⟩
  | cons event events ih =>
    have hlt := Nat.lt_of_lt_of_le (lt_of_work? hwork) (length_le_happen e event)
    obtain ⟨phase, hnext⟩ :=
      work?_happen_of_dispatches hwork (dispatches_of_follow hlt hgoes)
    obtain ⟨last, hlast⟩ := @ih _ { h with phase } hnext hgoes
    exact ⟨last, hlast⟩

end Parley.Exchange
