/-
# The purpose of a handler

What a handler does with its reply has no bearing on anything before it comes to the reply.
An exchange in which a handler has another purpose is therefore the same in everything else,
and stays so with every event up to that step.  The one thing to see to is the sink that the
handler holds when its purpose is to send: a sink is released by the last of its holders.
-/

import Parley.Exchange.Paths
import Parley.Proofs.Exchange.Reply

namespace Parley.Exchange

variable {e : Exchange} {t u : TaskId} {p : Purpose}

/-! ### What stays as it is -/

@[simp]
theorem schedule_withPurpose : (e.withPurpose t p).schedule = e.schedule := rfl

@[simp]
theorem link_withPurpose : (e.withPurpose t p).link = e.link := rfl

@[simp]
theorem correlator_withPurpose : (e.withPurpose t p).correlator = e.correlator := rfl

@[simp]
theorem dispatcher_withPurpose : (e.withPurpose t p).dispatcher = e.dispatcher := rfl

@[simp]
theorem engine_withPurpose : (e.withPurpose t p).engine = e.engine := rfl

@[simp]
theorem outlet_withPurpose : (e.withPurpose t p).outlet = e.outlet := rfl

@[simp]
theorem stopped_withPurpose : (e.withPurpose t p).stopped = e.stopped := rfl

@[simp]
theorem seen_withPurpose : (e.withPurpose t p).seen = e.seen := rfl

/-! ### The tasks -/

/-- Only the handler is at another work. -/
theorem work?_withPurpose (e : Exchange) (t : TaskId) (p : Purpose) (u : TaskId) :
    (e.withPurpose t p).work? u =
      if u = t then (e.work? t).map (Work.withPurpose p) else e.work? u := by
  rw [withPurpose, work?, List.getElem?_modify]
  by_cases hut : u = t
  · subst hut
    simp [work?, Function.comp_def]
  · simp [hut, Ne.symm hut, work?]

@[simp]
theorem length_withPurpose (e : Exchange) (t : TaskId) (p : Purpose) :
    (e.withPurpose t p).tasks.length = e.tasks.length :=
  List.length_modify _ _ _

/-- Who was told to stop does not depend on the purpose. -/
theorem aborting_withPurpose (e : Exchange) (t : TaskId) (p : Purpose) (u : TaskId) :
    (e.withPurpose t p).aborting u = e.aborting u := by
  rw [aborting, aborting, withPurpose, List.getElem?_modify]
  cases htask : e.tasks[u]? with
  | none => simp
  | some task => by_cases htu : t = u <;> simp [htu]

/-- Which tasks have a property does not depend on the purpose when the handler itself has
the property either way. -/
theorem tasksWhere_withPurpose {f : Work → Bool}
    (hf : ∀ work, e.work? t = some work → f (work.withPurpose p) = f work) :
    (e.withPurpose t p).tasksWhere f = e.tasksWhere f := by
  rw [tasksWhere, tasksWhere, length_withPurpose]
  refine List.filter_congr fun u _ => ?_
  rw [work?_withPurpose]
  by_cases hut : u = t
  · subst hut
    rw [if_pos rfl]
    cases hwork : e.work? u with
    | none => rfl
    | some work => exact hf work hwork
  · rw [if_neg hut]

/-- Who reads from a side of the link does not depend on the purpose. -/
theorem tasksWhere_readsFrom (side : Link.Side) :
    (e.withPurpose t p).tasksWhere (Work.readsFrom side) = e.tasksWhere (Work.readsFrom side) :=
  tasksWhere_withPurpose fun work _ => by cases work <;> rfl

/-- Who waits for the outcome of a request does not depend on the purpose. -/
theorem tasksWhere_waitsFor (id : Int64) :
    (e.withPurpose t p).tasksWhere (Work.waitsFor id) = e.tasksWhere (Work.waitsFor id) :=
  tasksWhere_withPurpose fun work _ => by cases work <;> rfl

/-- Who waits for the end of a task does not depend on the purpose. -/
theorem tasksWhere_joins (c : TaskId) :
    (e.withPurpose t p).tasksWhere (Work.joins c) = e.tasksWhere (Work.joins c) :=
  tasksWhere_withPurpose fun work _ => by
    cases work with
    | handler h => obtain ⟨request, purpose, phase⟩ := h; cases phase <;> rfl
    | _ => rfl

/-- Which tasks are loops does not depend on the purpose. -/
theorem tasksWhere_isLoop :
    (e.withPurpose t p).tasksWhere Work.isLoop = e.tasksWhere Work.isLoop :=
  tasksWhere_withPurpose fun work _ => by cases work <;> rfl

/-- No purpose makes a task end. -/
theorem ended?_withPurpose (u : TaskId) : (e.withPurpose t p).ended? u = e.ended? u := by
  rw [ended?, ended?, work?_withPurpose]
  by_cases hut : u = t
  · subst hut
    rw [if_pos rfl]
    cases e.work? u with
    | none => rfl
    | some work => cases work <;> rfl
  · rw [if_neg hut]

/-- The handler holds no sink. -/
def HoldsNoSink (e : Exchange) (t : TaskId) : Prop :=
  ∀ side, (e.work? t).any (Work.sendsTo side) = false

/-- A handler holds the sink of its purpose, whatever it is at. -/
theorem sendsTo_handler (h : Handler) (side : Link.Side) :
    (Work.handler h).sendsTo side = h.purpose.sendsTo side := by
  obtain ⟨request, purpose, phase⟩ := h
  cases purpose with
  | send sink => cases sink <;> rfl
  | _ => rfl

/-- Who holds a sink does not depend on the purpose, except for the sink of the purpose. -/
theorem tasksWhere_sendsTo {side : Link.Side} (hown : e.HoldsNoSink t)
    (hside : p.sendsTo side = false) :
    (e.withPurpose t p).tasksWhere (Work.sendsTo side) = e.tasksWhere (Work.sendsTo side) :=
  tasksWhere_withPurpose fun work hwork => by
    have hnot := hown side
    rw [hwork, Option.any_some] at hnot
    cases work with
    | handler h =>
      rw [hnot]
      exact (sendsTo_handler _ side).trans hside
    | _ => rfl

/-! ### Operations -/

/-- Who is woken by a change of the link does not depend on the purpose. -/
theorem setLink_withPurpose (link : Link) :
    (e.withPurpose t p).setLink link = (e.setLink link).withPurpose t p := by
  have hconcerned : ∀ side, (e.withPurpose t p).concerned side link = e.concerned side link := by
    intro side
    rw [concerned, concerned, tasksWhere_readsFrom]
    rfl
  rw [setLink, setLink, hconcerned, hconcerned]
  rfl

/-- Who is woken by a change of the correlator does not depend on the purpose. -/
theorem setCorrelator_withPurpose (c : Correlator) :
    (e.withPurpose t p).setCorrelator c = (e.setCorrelator c).withPurpose t p := by
  simp only [setCorrelator, tasksWhere_waitsFor]
  rfl

/-- Who is woken by the shutdown does not depend on the purpose. -/
theorem setShutdown_withPurpose :
    (e.withPurpose t p).setShutdown = e.setShutdown.withPurpose t p := by
  rw [setShutdown, setShutdown, tasksWhere_isLoop]
  rfl

/-- Who is woken when the exchange stops does not depend on the purpose. -/
theorem stop_withPurpose : (e.withPurpose t p).stop = e.stop.withPurpose t p := by
  rw [stop, stop, tasksWhere_isLoop]
  rfl

/-- A task may go to sleep before or after the purpose changes. -/
theorem sleep_withPurpose (moment : Millis) :
    (e.withPurpose t p).sleep u moment = (e.sleep u moment).withPurpose t p := by
  unfold sleep
  by_cases hsleeps : (e.schedule.timers.any fun timer => timer.task == u) = true
  · rw [if_pos hsleeps]
    exact if_pos hsleeps
  · rw [if_neg hsleeps]
    exact if_neg hsleeps

/-- A change of an entry has no bearing on what comes behind all entries. -/
theorem modify_append {tasks : List Task} (hlt : t < tasks.length) (f : Task → Task)
    (more : List Task) : (tasks ++ more).modify t f = tasks.modify t f ++ more := by
  induction tasks generalizing t with
  | nil => exact absurd hlt (Nat.not_lt_zero t)
  | cons task tasks ih =>
    cases t with
    | zero => rfl
    | succ t =>
      rw [List.cons_append, List.modify_succ_cons, List.modify_succ_cons,
        ih (Nat.lt_of_succ_lt_succ hlt), List.cons_append]

/-- A task may be added before or after the purpose changes. -/
theorem spawn_withPurpose (hlt : t < e.tasks.length) (work : Work) :
    (e.withPurpose t p).spawn work = ((e.spawn work).1, (e.spawn work).2.withPurpose t p) := by
  simp only [spawn, withPurpose, List.length_modify, modify_append hlt]

/-- Another task may go on before or after the purpose changes. -/
theorem setWork_withPurpose (hut : u ≠ t) (work : Work) :
    (e.withPurpose t p).setWork u work = (e.setWork u work).withPurpose t p := by
  have htasks := List.modify_modify_ne (fun task : Task => { task with work })
    (fun task : Task => { task with work := task.work.withPurpose p }) e.tasks hut
  simp only [setWork, withPurpose, htasks]

/-- The handler itself comes further. -/
theorem setWork_withPurpose_self (work : Work) :
    (e.withPurpose t p).setWork t (work.withPurpose p) = (e.setWork t work).withPurpose t p := by
  simp only [setWork, withPurpose, List.modify_modify_eq]
  rfl

/-- A task that goes on is told to stop. -/
theorem abort_of_live {work : Work} (hwork : e.work? u = some work)
    (hlive : ∀ result, work ≠ .ended result) :
    e.abort u =
      { e with
        tasks := e.tasks.modify u fun task => { task with aborting := true }
        schedule := e.schedule.wake u } := by
  unfold abort
  rw [hwork]
  cases work with
  | ended result => exact absurd rfl (hlive result)
  | _ => rfl

/-- A task that has ended, or is none, is not told to stop. -/
theorem abort_of_not_live (h : ∀ work, e.work? u = some work → ∃ result, work = .ended result) :
    e.abort u = e := by
  unfold abort
  cases hwork : e.work? u with
  | none => rfl
  | some work =>
    obtain ⟨result, rfl⟩ := h work hwork
    rfl

/-- A task may be told to stop before or after the purpose changes. -/
theorem abort_withPurpose (v : TaskId) :
    (e.withPurpose t p).abort v = (e.abort v).withPurpose t p := by
  have hwork := work?_withPurpose e t p v
  by_cases hlive : ∃ work, e.work? v = some work ∧ ∀ result, work ≠ .ended result
  · obtain ⟨work, hold, hlive⟩ := hlive
    have htasks : (e.withPurpose t p).tasks.modify v (fun task => { task with aborting := true }) =
        (e.tasks.modify v fun task => { task with aborting := true }).modify t
          fun task => { task with work := task.work.withPurpose p } := by
      by_cases hvt : v = t
      · subst hvt
        rw [withPurpose, List.modify_modify_eq, List.modify_modify_eq]
        rfl
      · exact (List.modify_modify_ne _ _ e.tasks hvt).symm
    obtain ⟨now, hnow, hnowLive⟩ : ∃ now, (e.withPurpose t p).work? v = some now ∧
        ∀ result, now ≠ .ended result := by
      by_cases hvt : v = t
      · subst hvt
        rw [if_pos rfl, hold] at hwork
        refine ⟨_, hwork, fun result heq => ?_⟩
        cases work with
        | ended result => exact hlive result rfl
        | _ => cases heq
      · rw [if_neg hvt] at hwork
        exact ⟨work, hwork.trans hold, hlive⟩
    rw [abort_of_live hold hlive, abort_of_live hnow hnowLive, htasks]
    rfl
  · have hended : ∀ work, e.work? v = some work → ∃ result, work = .ended result := by
      intro work hold
      by_cases hresult : ∃ result, work = .ended result
      · exact hresult
      · exact absurd ⟨work, hold, fun result heq => hresult ⟨result, heq⟩⟩ hlive
    rw [abort_of_not_live hended, abort_of_not_live]
    intro now hnow
    rw [hwork] at hnow
    split at hnow
    next hvt =>
      subst hvt
      obtain ⟨work, hold, rfl⟩ := Option.map_eq_some_iff.1 hnow
      obtain ⟨result, rfl⟩ := hended work hold
      exact ⟨result, rfl⟩
    next => exact hended now hnow

/-! ### Ends -/

/-- A side is released alike when the handler holds no sink of it for either purpose. -/
theorem releaseSide_withPurpose {work : Work} (hown : e.HoldsNoSink t) (side : Link.Side)
    (happart : p.sendsTo side = true → work.sendsTo side = false) :
    (e.withPurpose t p).releaseSide work side = (e.releaseSide work side).withPurpose t p := by
  have hsink : ∀ e : Exchange, e.HoldsNoSink t →
      (work.sendsTo side && ((e.withPurpose t p).tasksWhere (Work.sendsTo side)).isEmpty) =
        (work.sendsTo side && (e.tasksWhere (Work.sendsTo side)).isEmpty) := by
    intro e hown
    cases hside : p.sendsTo side with
    | true => rw [happart hside, Bool.false_and, Bool.false_and]
    | false => rw [tasksWhere_sendsTo hown hside]
  -- What is released of the source first leaves the tasks alone.
  have hlast : ∀ e : Exchange, e.HoldsNoSink t →
      (if work.sendsTo side && ((e.withPurpose t p).tasksWhere (Work.sendsTo side)).isEmpty then
          (e.withPurpose t p).setLink ((e.withPurpose t p).link.releaseSink side)
        else e.withPurpose t p) =
      (if work.sendsTo side && (e.tasksWhere (Work.sendsTo side)).isEmpty then
          e.setLink (e.link.releaseSink side)
        else e).withPurpose t p := by
    intro e hown
    rw [hsink e hown]
    split
    · exact setLink_withPurpose _
    · rfl
  unfold releaseSide
  by_cases hreads : work.readsFrom side = true
  · simp only [if_pos hreads]
    rw [setLink_withPurpose]
    exact hlast _ hown
  · simp only [if_neg hreads]
    exact hlast e hown

/-- Whether the handler holds a sink is told by what it is at. -/
theorem holdsNoSink_of_work? {e' : Exchange} (h : e.HoldsNoSink t)
    (hwork : e'.work? t = e.work? t) : e'.HoldsNoSink t := by
  intro side
  rw [hwork]
  exact h side

/-- Another task comes to its end, and it does not hold the sink of the purpose or does not
come to its end after all. -/
theorem finish_withPurpose {result : Ended} (hut : u ≠ t) (hown : e.HoldsNoSink t)
    (hsink : e.Apart p u ∨ (e.finish u result).ended? u = none) :
    (e.withPurpose t p).finish u result = (e.finish u result).withPurpose t p := by
  have hsame : (e.withPurpose t p).work? u = e.work? u := by
    rw [work?_withPurpose, if_neg hut]
  cases hwork : e.work? u with
  | none =>
    have hfinish : e.finish u result = e := by rw [finish, hwork]
    rw [hfinish, finish, hsame, hwork]
  | some work =>
    have happart : ∀ side, p.sendsTo side = true → work.sendsTo side = false := by
      intro side hside
      rcases hsink with happart | hended
      · have hnot := happart side hside
        rwa [hwork, Option.any_some] at hnot
      · rw [ended?, work?_finish, if_pos rfl, hwork] at hended
        cases hended
    have hset : (e.withPurpose t p).setWork u (.ended result) =
        (e.setWork u (.ended result)).withPurpose t p := setWork_withPurpose hut _
    let ended : Exchange :=
      { e.setWork u (.ended result) with schedule := e.schedule.forget u }
    have hownEnded : ended.HoldsNoSink t :=
      holdsNoSink_of_work? hown ((work?_setWork e u _ t).trans (if_neg (Ne.symm hut)))
    have hleft := releaseSide_withPurpose hownEnded .left (happart .left)
    have hownLeft : (ended.releaseSide work .left).HoldsNoSink t :=
      holdsNoSink_of_work? hownEnded (by rw [work?, work?, tasks_releaseSide])
    have hright := releaseSide_withPurpose hownLeft .right (happart .right)
    have hrelease : (ended.withPurpose t p).release work = (ended.release work).withPurpose t p := by
      rw [release, hleft, hright]
      rfl
    have hfinish : ∀ e' : Exchange, e'.work? u = some work →
        e'.finish u result =
          (({ e'.setWork u (.ended result) with schedule := e'.schedule.forget u } :
            Exchange).release work).wakeAll
              ((({ e'.setWork u (.ended result) with schedule := e'.schedule.forget u } :
                Exchange).release work).tasksWhere (Work.joins u)) := by
      intro e' hwork'
      rw [finish, hwork']
    rw [hfinish e hwork, hfinish _ (hsame.trans hwork), hset]
    change ((ended.withPurpose t p).release work).wakeAll
      (((ended.withPurpose t p).release work).tasksWhere (Work.joins u)) = _
    rw [hrelease, tasksWhere_joins]
    rfl

/-! ### The link -/

/-- What arrives does not depend on the purpose. -/
theorem arrive_withPurpose (source : Source) :
    (e.withPurpose t p).arrive source =
      ((e.arrive source).1, (e.arrive source).2.1, (e.arrive source).2.2.withPurpose t p) := by
  cases source with
  | script arrivals => cases arrivals <;> rfl
  | link side maxSize held =>
    simp only [arrive]
    rw [setLink_withPurpose]
    rfl

/-- What is sent does not depend on the purpose. -/
theorem transmit_withPurpose (sink : Sink) (bytes : Frame.Bytes) :
    (e.withPurpose t p).transmit u sink bytes =
      ((e.transmit u sink bytes).1, (e.transmit u sink bytes).2.withPurpose t p) := by
  cases sink with
  | failing fault => rfl
  | link side =>
    simp only [transmit]
    rw [setLink_withPurpose]
    rfl

/-- A sender gives up its turn alike. -/
theorem leave_withPurpose (sink : Sink) :
    (e.withPurpose t p).leave u sink = (e.leave u sink).withPurpose t p := by
  cases sink with
  | failing fault => rfl
  | link side => exact setLink_withPurpose _

/-- A task that is given up leaves the link and the correlator alike. -/
theorem drop_withPurpose (work : Work) :
    (e.withPurpose t p).drop u work = (e.drop u work).withPurpose t p := by
  unfold drop
  split
  · exact leave_withPurpose _
  · exact setCorrelator_withPurpose _
  · exact leave_withPurpose _
  · exact leave_withPurpose _
  · rfl

/-! ### Steps of other tasks -/

/-- To send changes the work of no task. -/
theorem work?_transmit (e : Exchange) (u : TaskId) (sink : Sink) (bytes : Frame.Bytes)
    (v : TaskId) : (e.transmit u sink bytes).2.work? v = e.work? v := by
  rw [work?, work?, tasks_transmit]

/-- To receive changes the work of no task. -/
theorem work?_arrive (e : Exchange) (source : Source) (v : TaskId) :
    (e.arrive source).2.2.work? v = e.work? v := by
  rw [work?, work?, tasks_arrive]

/-- A task that sends nothing holds no sink. -/
theorem apart_of_work? {work : Work} (hwork : e.work? u = some work)
    (hnone : ∀ side, work.sendsTo side = false) : e.Apart p u := by
  intro side _
  rw [hwork, Option.any_some]
  exact hnone side

/-- Whatever else changes, a task that is at the same work holds the same sink. -/
theorem Apart.congr {e' : Exchange} (h : e.Apart p u) (hsame : e'.work? u = e.work? u) :
    e'.Apart p u := by
  intro side hside
  rw [hsame]
  exact h side hside

/-- A caller takes the same step. -/
theorem stepCaller_withPurpose {c : Caller} (hut : u ≠ t) (hown : e.HoldsNoSink t)
    (hwork : e.work? u = some (.caller c)) :
    (e.withPurpose t p).stepCaller u c =
      ((e.stepCaller u c).1.withPurpose t p, (e.stepCaller u c).2) := by
  have hfinish : ∀ (e' : Exchange) (result : Ended), (∀ v, e'.work? v = e.work? v) →
      (e'.withPurpose t p).finish u result = (e'.finish u result).withPurpose t p := by
    intro e' result hsame
    refine finish_withPurpose hut (holdsNoSink_of_work? hown (hsame t)) (Or.inl ?_)
    exact apart_of_work? ((hsame u).trans hwork) fun _ => rfl
  cases c with
  | starting request timeout aim =>
    simp only [stepCaller, correlator_withPurpose, setCorrelator_withPurpose]
    rcases e.correlator.issue request with ⟨request', fault | ⟨id, frame⟩, correlator⟩
    · simp only
      rw [hfinish (e.setCorrelator correlator) _ fun _ => rfl]
    · simp only
      rw [setWork_withPurpose hut]
      rfl
  | transmitting request handle rest aim =>
    simp only [stepCaller, outlet_withPurpose, transmit_withPurpose]
    have htransmit := work?_transmit e u e.outlet rest
    generalize e.transmit u e.outlet rest = transmitted at htransmit ⊢
    obtain ⟨attempt, e'⟩ := transmitted
    replace htransmit : ∀ v, e'.work? v = e.work? v := htransmit
    cases attempt with
    | blocked rest =>
      simp only
      rw [setWork_withPurpose hut]
    | refused fault =>
      simp only [correlator_withPurpose, setCorrelator_withPurpose]
      rw [hfinish (e'.setCorrelator (e'.correlator.withdraw handle.id)) _ htransmit]
    | sent =>
      cases aim with
      | handle =>
        simp only
        rw [hfinish e' _ htransmit]
      | reply =>
        simp only
        rw [setWork_withPurpose hut]
      | answer call =>
        simp only
        rw [setWork_withPurpose hut]
  | waiting handle aim =>
    simp only [stepCaller, correlator_withPurpose, schedule_withPurpose, setCorrelator_withPurpose]
    rcases e.correlator.poll handle.id handle.deadline e.schedule.now false with
      ⟨_ | verdict, correlator⟩
    · simp only
      cases handle.deadline with
      | none => rfl
      | some deadline =>
        simp only [sleep_withPurpose]
        split <;> rfl
    · simp only
      rw [hfinish (e.setCorrelator correlator) _ fun _ => rfl]

/-- A receiver takes the same step. -/
theorem stepReceiver_withPurpose {r : Receiver} (hut : u ≠ t) (hown : e.HoldsNoSink t)
    (hwork : e.work? u = some (.receiver r)) :
    (e.withPurpose t p).stepReceiver u r =
      ((e.stepReceiver u r).1.withPurpose t p, (e.stepReceiver u r).2) := by
  have hend : ∀ e' : Exchange, e'.HoldsNoSink t → e'.Apart p u →
      (e'.withPurpose t p).endReceiver u = (e'.endReceiver u).withPurpose t p := by
    intro e' hown' happart
    simp only [endReceiver, correlator_withPurpose, setCorrelator_withPurpose]
    exact finish_withPurpose hut hown' (Or.inl happart)
  simp only [stepReceiver, stopped_withPurpose, arrive_withPurpose]
  split
  · rw [hend e hown (apart_of_work? hwork fun _ => rfl)]
  · have harrive := work?_arrive e r.source
    generalize e.arrive r.source = arrived at harrive ⊢
    obtain ⟨arrival, source, e'⟩ := arrived
    replace harrive : ∀ v, e'.work? v = e.work? v := harrive
    simp only [setWork_withPurpose hut]
    have hown' : (e'.setWork u (.receiver { r with source })).HoldsNoSink t := by
      apply holdsNoSink_of_work? hown
      rw [work?_setWork, if_neg (Ne.symm hut)]
      exact harrive t
    have hreceiver : (e'.setWork u (.receiver { r with source })).work? u =
        some (.receiver { r with source }) := by
      rw [work?_setWork, if_pos rfl, harrive u, hwork, Option.map_some]
    have happart : (e'.setWork u (.receiver { r with source })).Apart p u :=
      apart_of_work? hreceiver fun _ => rfl
    cases arrival with
    | nothing => rfl
    | frame frame =>
      simp only [correlator_withPurpose, schedule_withPurpose, setCorrelator_withPurpose]
    | fault fault =>
      simp only
      split
      · rfl
      · rw [hend _ hown' happart]
    | ended =>
      simp only
      rw [hend _ hown' happart]

/-- An engine call takes the same step. -/
theorem stepEngineCall_withPurpose {ec : EngineCall} (hut : u ≠ t) (hown : e.HoldsNoSink t)
    (hwork : e.work? u = some (.engineCall ec)) :
    (e.withPurpose t p).stepEngineCall u ec =
      ((e.stepEngineCall u ec).1.withPurpose t p, (e.stepEngineCall u ec).2) := by
  have hfinish : ∀ result : Ended,
      (e.withPurpose t p).finish u result = (e.finish u result).withPurpose t p :=
    fun result => finish_withPurpose hut hown (Or.inl (apart_of_work? hwork fun _ => rfl))
  obtain ⟨request, blank, phase⟩ := ec
  cases phase with
  | starting =>
    simp only [stepEngineCall, callEngine]
    cases Engine.Call.ofRequest request with
    | error error =>
      simp only
      rw [hfinish]
    | ok call =>
      simp only [engine_withPurpose]
      rw [← setWork_withPurpose hut]
      rfl
  | working call outcome =>
    cases outcome with
    | never => rfl
    | after span next =>
      simp only [stepEngineCall, schedule_withPurpose]
      rw [setWork_withPurpose hut]
    | _ =>
      simp only [stepEngineCall]
      rw [hfinish]
  | sleeping moment call outcome =>
    simp only [stepEngineCall, schedule_withPurpose, sleep_withPurpose, setWork_withPurpose hut]
    split <;> rfl

/-- A server takes the same step unless it ends and lets go of the sink. -/
theorem stepServer_withPurpose {s : Server} (hut : u ≠ t) (hlt : t < e.tasks.length)
    (hown : e.HoldsNoSink t) (hwork : e.work? u = some (.server s))
    (hsink : e.Apart p u ∨ (e.stepServer u s).1.ended? u = none) :
    (e.withPurpose t p).stepServer u s =
      ((e.stepServer u s).1.withPurpose t p, (e.stepServer u s).2) := by
  by_cases hstop : (e.stopped || e.dispatcher.shutdown) = true
  · simp only [stepServer, stopped_withPurpose, dispatcher_withPurpose, if_pos hstop] at hsink ⊢
    rw [finish_withPurpose hut hown hsink]
  · simp only [stepServer, stopped_withPurpose, dispatcher_withPurpose, if_neg hstop,
      arrive_withPurpose] at hsink ⊢
    have harrive := work?_arrive e s.source
    have htasks := tasks_arrive e s.source
    generalize e.arrive s.source = arrived at harrive htasks hsink ⊢
    obtain ⟨arrival, source, e'⟩ := arrived
    replace harrive : ∀ v, e'.work? v = e.work? v := harrive
    replace htasks : e'.tasks = e.tasks := htasks
    simp only [setWork_withPurpose hut] at hsink ⊢
    let reading := e'.setWork u (.server { s with source })
    have hown' : reading.HoldsNoSink t := by
      apply holdsNoSink_of_work? hown
      rw [work?_setWork, if_neg (Ne.symm hut)]
      exact harrive t
    have happart : e.Apart p u → reading.Apart p u := by
      intro happart side hside
      have hold := happart side hside
      rw [hwork, Option.any_some] at hold
      rw [work?_setWork, if_pos rfl, harrive u, hwork, Option.map_some, Option.any_some, ← hold]
      obtain ⟨_, sink⟩ := s
      cases sink <;> rfl
    have hlt' : t < reading.tasks.length := by
      rw [tasks_setWork, List.length_modify, htasks]
      exact hlt
    cases arrival with
    | nothing => rfl
    | frame frame =>
      simp only [dispatcher_withPurpose]
      split
      · rw [spawn_withPurpose hlt']
      · rfl
    | fault fault =>
      simp only at hsink ⊢
      by_cases hprotocol : fault.isProtocol = true
      · simp only [if_pos hprotocol]
      · simp only [if_neg hprotocol] at hsink ⊢
        rw [finish_withPurpose hut hown' (hsink.imp_left happart)]
    | ended =>
      simp only at hsink ⊢
      rw [finish_withPurpose hut hown' (hsink.imp_left happart)]

/-- Another handler ends alike unless it lets go of the sink. -/
theorem endSending_withPurpose {h : Handler} (hut : u ≠ t) (hown : e.HoldsNoSink t)
    (hsink : e.Apart p u ∨ (e.endSending u h).ended? u = none) :
    (e.withPurpose t p).endSending u h = (e.endSending u h).withPurpose t p := by
  by_cases hasks : asksShutdown h.request = true
  · simp only [endSending, if_pos hasks, setShutdown_withPurpose] at hsink ⊢
    exact finish_withPurpose hut hown hsink
  · simp only [endSending, if_neg hasks] at hsink ⊢
    exact finish_withPurpose hut hown hsink

/-- Another handler comes alike to its reply unless it lets go of the sink. -/
theorem conclude_withPurpose {h : Handler} {reply : Except Fault Message} (hut : u ≠ t)
    (hown : e.HoldsNoSink t) (hsink : e.Apart p u ∨ (e.conclude u h reply).1.ended? u = none) :
    (e.withPurpose t p).conclude u h reply =
      ((e.conclude u h reply).1.withPurpose t p, (e.conclude u h reply).2) := by
  obtain ⟨request, purpose, phase⟩ := h
  cases purpose with
  | reply =>
    simp only [conclude] at hsink ⊢
    rw [finish_withPurpose hut hown hsink]
  | frame =>
    simp only [conclude, dispatcher_withPurpose, setShutdown_withPurpose] at hsink ⊢
    split
    next hasks =>
      rw [if_pos hasks] at hsink
      rw [finish_withPurpose (e := e.setShutdown) hut hown hsink]
    next hasks =>
      rw [if_neg hasks] at hsink
      rw [finish_withPurpose hut hown hsink]
  | send sink =>
    simp only [conclude, dispatcher_withPurpose] at hsink ⊢
    cases hencode : reply.bind e.dispatcher.codec.encode with
    | ok frame =>
      simp only
      rw [setWork_withPurpose hut]
    | error fault =>
      simp only [hencode] at hsink ⊢
      rw [endSending_withPurpose hut hown hsink]

/-- Another handler forwards its request alike. -/
theorem forward_withPurpose {h : Handler} {job : Dispatcher.Job} (hut : u ≠ t)
    (hlt : t < e.tasks.length) :
    (e.withPurpose t p).forward u h job = (e.forward u h job).withPurpose t p := by
  simp only [forward, spawn_withPurpose hlt]
  let called : Exchange :=
    { (e.spawn (.engineCall { request := h.request, blank := job.blank })).2 with
      dispatcher := (e.dispatcher.track job.id e.tasks.length).2 }
  exact setWork_withPurpose (e := called) hut _

/-- A handler that begins answers its request at once, or it cancels an engine call and answers,
or it forwards its request. -/
theorem stepHandler_starting_withPurpose {request : Message} {purpose : Purpose} (hut : u ≠ t)
    (hlt : t < e.tasks.length) (hown : e.HoldsNoSink t)
    (hsink : e.Apart p u ∨ (e.stepHandler u { request, purpose }).1.ended? u = none) :
    (e.withPurpose t p).stepHandler u { request, purpose } =
      ((e.stepHandler u { request, purpose }).1.withPurpose t p,
        (e.stepHandler u { request, purpose }).2) := by
  cases haccept : e.dispatcher.accept request with
  | error fault =>
    simp only [stepHandler, dispatcher_withPurpose, haccept] at hsink ⊢
    exact conclude_withPurpose hut hown hsink
  | ok job =>
    cases hroute : Dispatcher.route request.tag with
    | acknowledge =>
      simp only [stepHandler, dispatcher_withPurpose, haccept, hroute] at hsink ⊢
      exact conclude_withPurpose hut hown hsink
    | cancel =>
      simp only [stepHandler, dispatcher_withPurpose, haccept, hroute] at hsink ⊢
      generalize e.dispatcher.cancelRunning request job = cancelled at hsink ⊢
      obtain ⟨outcome, _ | victim, dispatcher⟩ := cancelled
      · exact conclude_withPurpose (e := { e with dispatcher }) hut hown hsink
      · simp only at hsink ⊢
        have habort : ∀ v, (abort { e with dispatcher } victim).work? v = e.work? v :=
          work?_abort _ victim
        have hcomm : abort { e.withPurpose t p with dispatcher } victim =
            (abort { e with dispatcher } victim).withPurpose t p :=
          abort_withPurpose (e := { e with dispatcher }) victim
        rw [hcomm]
        exact conclude_withPurpose hut (holdsNoSink_of_work? hown (habort t))
          (hsink.imp_left fun happart => happart.congr (habort u))
    | engine =>
      simp only [stepHandler, dispatcher_withPurpose, haccept, hroute]
      rw [forward_withPurpose hut hlt]

/-- A handler that waits for an engine call comes to its reply when the call has ended. -/
theorem stepHandler_joining_withPurpose {request : Message} {purpose : Purpose}
    {job : Dispatcher.Job} {c : TaskId} {tracked : Bool} (hut : u ≠ t) (hown : e.HoldsNoSink t)
    (hsink : e.Apart p u ∨
      (e.stepHandler u ⟨request, purpose, .joining job c tracked⟩).1.ended? u = none) :
    (e.withPurpose t p).stepHandler u ⟨request, purpose, .joining job c tracked⟩ =
      ((e.stepHandler u ⟨request, purpose, .joining job c tracked⟩).1.withPurpose t p,
        (e.stepHandler u ⟨request, purpose, .joining job c tracked⟩).2) := by
  have hresume : ∀ ending : Engine.Ending,
      let after : Exchange :=
        if tracked then { e with dispatcher := e.dispatcher.untrack job.id c } else e
      let concluded := after.conclude u ⟨request, purpose, .joining job c tracked⟩
        (job.reply (Dispatcher.outcomeOf ending))
      e.Apart p u ∨ concluded.1.ended? u = none →
        (if tracked then
            { e.withPurpose t p with dispatcher := e.dispatcher.untrack job.id c }
          else e.withPurpose t p).conclude u ⟨request, purpose, .joining job c tracked⟩
            (job.reply (Dispatcher.outcomeOf ending)) =
          (concluded.1.withPurpose t p, concluded.2) := by
    intro ending after concluded hsink
    cases tracked with
    | true =>
      exact conclude_withPurpose
        (e := { e with dispatcher := e.dispatcher.untrack job.id c }) hut hown hsink
    | false => exact conclude_withPurpose hut hown hsink
  simp only [stepHandler, dispatcher_withPurpose, ended?_withPurpose] at hsink ⊢
  generalize e.ended? c = ended at hsink ⊢
  cases ended with
  | none => rfl
  | some result =>
    cases result with
    | call ending => exact hresume ending hsink
    | aborted => exact hresume .aborted hsink
    | _ => rfl

/-- A handler that sends its reply goes on sending, or it ends. -/
theorem stepHandler_transmitting_withPurpose {request : Message} {purpose : Purpose}
    {rest : Frame.Bytes} (hut : u ≠ t) (hown : e.HoldsNoSink t)
    (hsink : e.Apart p u ∨
      (e.stepHandler u ⟨request, purpose, .transmitting rest⟩).1.ended? u = none) :
    (e.withPurpose t p).stepHandler u ⟨request, purpose, .transmitting rest⟩ =
      ((e.stepHandler u ⟨request, purpose, .transmitting rest⟩).1.withPurpose t p,
        (e.stepHandler u ⟨request, purpose, .transmitting rest⟩).2) := by
  cases purpose with
  | send sink =>
    simp only [stepHandler, transmit_withPurpose] at hsink ⊢
    have htransmit := work?_transmit e u sink rest
    generalize e.transmit u sink rest = transmitted at hsink htransmit ⊢
    obtain ⟨attempt, e'⟩ := transmitted
    replace htransmit : ∀ v, e'.work? v = e.work? v := htransmit
    cases attempt with
    | blocked rest =>
      simp only
      rw [setWork_withPurpose hut]
    | _ =>
      simp only at hsink ⊢
      rw [endSending_withPurpose hut (holdsNoSink_of_work? hown (htransmit t))
        (hsink.imp_left fun happart => happart.congr (htransmit u))]
  | _ =>
    simp only [stepHandler] at hsink ⊢
    rw [endSending_withPurpose hut hown hsink]

/-- Another handler takes the same step unless it ends and lets go of the sink. -/
theorem stepHandler_withPurpose {h : Handler} (hut : u ≠ t) (hlt : t < e.tasks.length)
    (hown : e.HoldsNoSink t) (hsink : e.Apart p u ∨ (e.stepHandler u h).1.ended? u = none) :
    (e.withPurpose t p).stepHandler u h =
      ((e.stepHandler u h).1.withPurpose t p, (e.stepHandler u h).2) := by
  obtain ⟨request, purpose, phase⟩ := h
  cases phase with
  | starting => exact stepHandler_starting_withPurpose hut hlt hown hsink
  | joining job c tracked => exact stepHandler_joining_withPurpose hut hown hsink
  | transmitting rest => exact stepHandler_transmitting_withPurpose hut hown hsink

/-- A peer takes the same step unless it ends and lets go of the sink. -/
theorem stepPeer_withPurpose {peer : Peer} (hut : u ≠ t) (hown : e.HoldsNoSink t)
    (hsink : e.Apart p u ∨ (e.stepPeer u peer).1.ended? u = none) :
    (e.withPurpose t p).stepPeer u peer =
      ((e.stepPeer u peer).1.withPurpose t p, (e.stepPeer u peer).2) := by
  -- The operations that come before the task goes on change what no task is at.
  have hfinish : ∀ (e' : Exchange) (result : Ended), (∀ v, e'.work? v = e.work? v) →
      (e.Apart p u ∨ (e'.finish u result).ended? u = none) →
      (e'.withPurpose t p).finish u result = (e'.finish u result).withPurpose t p := by
    intro e' result hsame hsink
    exact finish_withPurpose hut (holdsNoSink_of_work? hown (hsame t))
      (hsink.imp_left fun happart => happart.congr (hsame u))
  obtain ⟨source, side, answers, phase⟩ := peer
  cases phase with
  | listening =>
    simp only [stepPeer, arrive_withPurpose] at hsink ⊢
    have harrive := work?_arrive e source
    generalize e.arrive source = arrived at hsink harrive ⊢
    obtain ⟨arrival, source, e'⟩ := arrived
    replace harrive : ∀ v, e'.work? v = e.work? v := harrive
    cases arrival with
    | nothing =>
      simp only
      rw [setWork_withPurpose hut]
    | frame frame =>
      simp only
      cases Codec.standard.decode frame with
      | error fault =>
        simp only
        rw [setWork_withPurpose hut]
      | ok request =>
        simp only [seen_withPurpose]
        rw [← setWork_withPurpose hut]
        rfl
    | fault fault =>
      simp only at hsink ⊢
      by_cases hprotocol : fault.isProtocol = true
      · simp only [if_pos hprotocol]
        rw [setWork_withPurpose hut]
      · simp only [if_neg hprotocol] at hsink ⊢
        rw [hfinish e' _ harrive hsink]
    | ended =>
      simp only at hsink ⊢
      rw [hfinish e' _ harrive hsink]
  | acting id actions =>
    cases actions with
    | nil =>
      simp only [stepPeer]
      rw [setWork_withPurpose hut]
    | cons action rest =>
      cases action with
      | close =>
        simp only [stepPeer] at hsink ⊢
        rw [hfinish e _ (fun _ => rfl) hsink]
      | send frame =>
        simp only [stepPeer]
        rw [setWork_withPurpose hut]
      | echo reply =>
        simp only [stepPeer, setWork_withPurpose hut]
        cases Codec.standard.encode (reply.setRequestId id) <;> rfl
  | transmitting id bytes actions =>
    simp only [stepPeer, transmit_withPurpose]
    rcases e.transmit u (.link side) bytes with ⟨attempt, e'⟩
    cases attempt <;> simp only [setWork_withPurpose hut]

/-- A step of another task that does not end a holder of the sink. -/
theorem step_withPurpose (hut : u ≠ t) (hlt : t < e.tasks.length) (hown : e.HoldsNoSink t)
    (hsink : e.Apart p u ∨ (e.step u).1.ended? u = none) :
    ((e.withPurpose t p).step u).1 = (e.step u).1.withPurpose t p := by
  have hwork' : (e.withPurpose t p).work? u = e.work? u := by
    rw [work?_withPurpose, if_neg hut]
  cases hwork : e.work? u with
  | none =>
    rw [step_of_work?_eq_none hwork, step_of_work?_eq_none (hwork'.trans hwork)]
  | some work =>
    rw [hwork] at hwork'
    by_cases haborting : e.aborting u = true
    · have haborting' := (aborting_withPurpose e t p u).trans haborting
      by_cases hended : ∃ result, work = .ended result
      · obtain ⟨result, rfl⟩ := hended
        rw [step_of_ended hwork, step_of_ended hwork']
      · have hstep : ∀ e' : Exchange, e'.work? u = some work → e'.aborting u = true →
            (e'.step u).1 = (e'.drop u work).finish u .aborted := by
          intro e' h h'
          rcases step_of_aborting h h' with ⟨hover, -⟩ | ⟨-, hstep⟩
          · exact absurd hover hended
          · rw [hstep]
        have hdrop : ∀ v, (e.drop u work).work? v = e.work? v := fun v => by
          rw [work?, work?, tasks_drop]
        rw [hstep e hwork haborting] at hsink ⊢
        rw [hstep _ hwork' haborting', drop_withPurpose]
        apply finish_withPurpose hut (holdsNoSink_of_work? hown (hdrop t))
        refine hsink.imp_left fun happart side hside => ?_
        rw [hdrop]
        exact happart side hside
    · have hfree : e.aborting u = false := by simpa using haborting
      have hfree' := (aborting_withPurpose e t p u).trans hfree
      rw [step_of_work? hwork hfree] at hsink ⊢
      rw [step_of_work? hwork' hfree']
      cases work with
      | caller c => exact congrArg Prod.fst (stepCaller_withPurpose hut hown hwork)
      | receiver r => exact congrArg Prod.fst (stepReceiver_withPurpose hut hown hwork)
      | handler h => exact congrArg Prod.fst (stepHandler_withPurpose hut hlt hown hsink)
      | engineCall ec => exact congrArg Prod.fst (stepEngineCall_withPurpose hut hown hwork)
      | server s => exact congrArg Prod.fst (stepServer_withPurpose hut hlt hown hwork hsink)
      | peer peer => exact congrArg Prod.fst (stepPeer_withPurpose hut hown hsink)
      | ended result => rfl

/-! ### The handler itself -/

/-- The reply that a handler is about to make does not depend on its purpose. -/
theorem replyAt?_withPurpose : (e.withPurpose t p).replyAt? t = e.replyAt? t := by
  have hending : ∀ c, (e.withPurpose t p).endingOf? c = e.endingOf? c := fun c => by
    rw [endingOf?, endingOf?, ended?_withPurpose]
  have hwork := work?_withPurpose e t p t
  rw [if_pos rfl] at hwork
  cases hold : e.work? t with
  | none =>
    rw [hold] at hwork
    rw [replyAt?, replyAt?, hold, hwork]
    rfl
  | some work =>
    rw [hold] at hwork
    cases work with
    | handler h =>
      obtain ⟨request, purpose, phase⟩ := h
      cases phase with
      | starting => rw [replyAt?_of_starting hold, replyAt?_of_starting hwork]; rfl
      | joining job c tracked =>
        rw [replyAt?_of_joining hold, replyAt?_of_joining hwork, hending]
      | transmitting rest =>
        rw [replyAt?, replyAt?, hold, hwork]
        rfl
    | _ =>
      rw [replyAt?, replyAt?, hold, hwork]
      rfl

/-- Whether a handler has come to its reply does not depend on its purpose. -/
theorem dispatches_withPurpose : (e.withPurpose t p).dispatches t = e.dispatches t := by
  rw [dispatches, dispatches, work?_withPurpose, if_pos rfl]
  cases e.work? t with
  | none => rfl
  | some work =>
    cases work with
    | handler h => obtain ⟨request, purpose, phase⟩ := h; cases phase <;> rfl
    | _ => rfl

/-- The handler itself forwards its request alike. -/
theorem forward_withPurpose_self {h : Handler} {job : Dispatcher.Job} (hlt : t < e.tasks.length) :
    (e.withPurpose t p).forward t { h with purpose := p } job =
      (e.forward t h job).withPurpose t p := by
  simp only [forward, spawn_withPurpose hlt]
  let called : Exchange :=
    { (e.spawn (.engineCall { request := h.request, blank := job.blank })).2 with
      dispatcher := (e.dispatcher.track job.id e.tasks.length).2 }
  exact setWork_withPurpose_self (e := called) (.handler { h with
    phase := .joining job e.tasks.length (e.dispatcher.track job.id e.tasks.length).1 })

/-- What a dispatch does that does not come to its reply depends on its request alone. -/
theorem step_withPurpose_self (hfree : e.aborting t = false) (h : e.dispatches t = true)
    (hreply : e.replyAt? t = none) :
    ((e.withPurpose t p).step t).1 = (e.step t).1.withPurpose t p := by
  have hfree' := (aborting_withPurpose e t p t).trans hfree
  have h' := (dispatches_withPurpose (e := e) (t := t) (p := p)).trans h
  have hreply' := (replyAt?_withPurpose (e := e) (t := t) (p := p)).trans hreply
  have hwork' := work?_withPurpose e t p t
  rw [if_pos rfl] at hwork'
  rcases step_of_replyAt?_eq_none hfree h hreply with
    ⟨handler, job, hwork, hphase, haccept, hstep⟩ | ⟨handler, hwork, hphase, hstep⟩
  · rw [hwork] at hwork'
    rcases step_of_replyAt?_eq_none hfree' h' hreply' with
      ⟨other, job', hother, -, haccept', hstep'⟩ | ⟨other, hother, hphase', -⟩
    · cases hwork'.symm.trans hother
      rw [dispatcher_withPurpose, haccept] at haccept'
      cases haccept'
      rw [hstep, hstep']
      exact forward_withPurpose_self (lt_of_work? hwork)
    · cases hwork'.symm.trans hother
      exact absurd hphase hphase'
  · rw [hwork] at hwork'
    rcases step_of_replyAt?_eq_none hfree' h' hreply' with
      ⟨other, job', hother, hphase', -, -⟩ | ⟨other, hother, -, hstep'⟩
    · cases hwork'.symm.trans hother
      exact absurd hphase' hphase
    · rw [hstep, hstep']

/-! ### Courses -/

/-- As long as a dispatch does not come to its reply, its purpose has no bearing on anything
else. -/
theorem happen_withPurpose {event : Event} (hlt : t < e.tasks.length) (hown : e.HoldsNoSink t)
    (hgoes : (e.happen event).dispatches t = true)
    (hsink : ∀ u, event = .step u → u ≠ t →
      e.Apart p u ∨ (e.happen event).ended? u = none) :
    (e.withPurpose t p).happen event = (e.happen event).withPurpose t p := by
  cases event with
  | start opening => exact congrArg Prod.snd (spawn_withPurpose hlt opening.work)
  | step u =>
    by_cases hut : u = t
    · subst hut
      exact step_withPurpose_self (free_of_dispatches_step hgoes) (dispatches_of_happen hlt hgoes)
        (replyAt?_of_dispatches_step hgoes)
    · exact step_withPurpose hut hlt hown (hsink u rfl hut)
  | abort v => exact abort_withPurpose v
  | pass span => rfl
  | stop => exact stop_withPurpose
  | correlate correlator => exact setCorrelator_withPurpose correlator
  | relink link => exact setLink_withPurpose link

/-- A dispatch that goes on keeps its purpose, so it comes to no sink. -/
theorem holdsNoSink_happen {event : Event} (hlt : t < e.tasks.length) (hown : e.HoldsNoSink t)
    (hgoes : (e.happen event).dispatches t = true) : (e.happen event).HoldsNoSink t := by
  obtain ⟨work, hwork, hdispatches⟩ :=
    (Option.any_eq_true _ _).1 (dispatches_of_happen hlt hgoes)
  cases work with
  | handler h =>
    obtain ⟨phase, hafter⟩ := work?_happen_of_dispatches hwork hgoes
    intro side
    have hnot := hown side
    rw [hwork, Option.any_some, sendsTo_handler] at hnot
    rw [hafter, Option.any_some, sendsTo_handler]
    exact hnot
  | _ => cases hdispatches

/-- Up to the step at which the handler comes to its reply the courses are alike. -/
theorem follow_withPurpose {events : List Event} (hlt : t < e.tasks.length)
    (hown : e.HoldsNoSink t) (hgoes : (e.follow events).dispatches t = true)
    (hsink : KeepsSink e p t events) :
    (e.withPurpose t p).follow events = (e.follow events).withPurpose t p := by
  induction events generalizing e with
  | nil => rfl
  | cons event events ih =>
    obtain ⟨hfirst, hrest⟩ := hsink
    have hlt' := Nat.lt_of_lt_of_le hlt (length_le_happen e event)
    have hnext : (e.happen event).dispatches t = true := dispatches_of_follow hlt' hgoes
    change ((e.withPurpose t p).happen event).follow events = _
    rw [happen_withPurpose hlt hown hnext hfirst]
    exact ih hlt' (holdsNoSink_happen hlt hown hnext) hgoes hrest

end Parley.Exchange
