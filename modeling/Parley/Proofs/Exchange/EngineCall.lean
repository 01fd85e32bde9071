/-
# Engine calls

A task that calls the engine does so at most once and as its request asks, and it ends in
a way that fits the reply.  By steps of its own alone it comes to its end, or to where it
waits for the engine.
-/

import Parley.Proofs.Exchange.Tasks

namespace Parley

/-- Whether the engine has come to an end with this outcome. -/
def Engine.Outcome.isFinal : Engine.Outcome → Bool
  | .never => false
  | .after .. => false
  | _ => true

namespace Exchange

variable {e e' : Exchange} {t c u : TaskId} {m blank : Message} {calls : List Engine.Call}

/-- Whether this is the work of an engine call, or of a task that was one. -/
def Work.isCall : Work → Bool
  | .engineCall _ => true
  | .ended (.call _) => true
  | .ended .aborted => true
  | _ => false

/-- Whether a task is or was an engine call. -/
def isCall (e : Exchange) (t : TaskId) : Bool :=
  (e.work? t).any Work.isCall

/-- An engine call is a task of the exchange. -/
theorem lt_of_isCall (h : e.isCall t = true) : t < e.tasks.length := by
  obtain ⟨work, hwork, -⟩ := (Option.any_eq_true _ _).1 h
  exact lt_of_work? hwork

/-- The engine was called as a request asks, or not at all. -/
def Proper (request : Message) (calls : List Engine.Call) : Prop :=
  calls = [] ∨ ∃ call, calls = [call] ∧ Engine.Call.ofRequest request = .ok call

/-- How far the engine call of a request has come, and how the engine was called by it. -/
inductive Calling (request blank : Message) (calls : List Engine.Call) : Option Work → Prop where
  | starting (hcalls : calls = []) :
      Calling request blank calls (some (.engineCall { request, blank }))
  | working (call : Engine.Call) (outcome : Engine.Outcome) (hcalls : calls = [call])
      (hcall : Engine.Call.ofRequest request = .ok call) :
      Calling request blank calls
        (some (.engineCall { request, blank, phase := .working call outcome }))
  | sleeping (moment : Millis) (call : Engine.Call) (outcome : Engine.Outcome)
      (hcalls : calls = [call]) (hcall : Engine.Call.ofRequest request = .ok call) :
      Calling request blank calls
        (some (.engineCall { request, blank, phase := .sleeping moment call outcome }))
  | ended (ending : Engine.Ending) (hproper : Proper request calls)
      (hfits : Dispatcher.Fits blank (Dispatcher.outcomeOf ending)) :
      Calling request blank calls (some (.ended (.call ending)))
  | aborted (hproper : Proper request calls) :
      Calling request blank calls (some (.ended .aborted))

/-- However far it has come, an engine call has called the engine as its request asks or not at
all. -/
theorem Calling.proper {work : Option Work} (h : Calling m blank calls work) : Proper m calls := by
  cases h with
  | starting hcalls => exact Or.inl hcalls
  | working call outcome hcalls hcall => exact Or.inr ⟨call, hcalls, hcall⟩
  | sleeping moment call outcome hcalls hcall => exact Or.inr ⟨call, hcalls, hcall⟩
  | ended ending hproper => exact hproper
  | aborted hproper => exact hproper

/-- The calls that the engine notes during a step. -/
def noted (e : Exchange) (t : TaskId) : List Engine.Call :=
  (e.step t).1.engine.calls.drop e.engine.calls.length

/-- Where the engine is the same it was not called. -/
theorem noted_of_engine_eq (h : (e.step t).1.engine = e.engine) : e.noted t = [] := by
  rw [noted, h, List.drop_length]

/-- The end of a task does not call the engine. -/
theorem engine_finish (e : Exchange) (t : TaskId) (result : Ended) :
    (e.finish t result).engine = e.engine :=
  congrArg Parts.engine (parts_finish e t result)

/-! ### One step of an engine call -/

/-- Nothing is noted by a step that keeps the engine as it is. -/
theorem Calling.quiet {work : Option Work} (h : Calling m blank calls work)
    (hengine : (e.step c).1.engine = e.engine) (hwork : (e.step c).1.work? c = work) :
    Calling m blank (calls ++ e.noted c) ((e.step c).1.work? c) := by
  rw [noted_of_engine_eq hengine, List.append_nil, hwork]
  exact h

/-- An engine call that ends has called the engine no more. -/
theorem Calling.finish {work : Work} {result : Ended}
    (h : Calling m blank calls (some (.ended result))) (hwork : e.work? c = some work)
    (hstep : (e.step c).1 = e.finish c result) :
    Calling m blank (calls ++ e.noted c) ((e.step c).1.work? c) := by
  refine h.quiet ?_ ?_
  · rw [hstep, engine_finish]
  · rw [hstep, work?_finish, if_pos rfl, hwork, Option.map_some]

/-- What the engine gives back fits the reply, or it does not become one. -/
theorem Calling.answer (hproper : Proper m calls) (call : Engine.Call) (value : Engine.Value) :
    Calling m blank calls (some (.ended (.call (.returned (call.answer value blank))))) := by
  refine .ended _ hproper fun reply hreply => ?_
  cases hanswer : call.answer value blank with
  | error error =>
    rw [hanswer] at hreply
    cases hreply
  | ok written =>
    rw [hanswer] at hreply
    cases hreply
    exact Engine.Call.answer_eq_ok hanswer

/-- The engine is called when an engine call begins whose request reads as a call. -/
theorem calling_step_starting (hwork : e.work? c = some (.engineCall { request := m, blank }))
    (haborting : e.aborting c = false) (hcalls : calls = []) :
    Calling m blank (calls ++ e.noted c) ((e.step c).1.work? c) := by
  have hstep := step_of_work? hwork haborting
  cases hread : Engine.Call.ofRequest m with
  | error error =>
    have hended : Calling m blank calls (some (.ended (.call (.returned (.error error))))) :=
      .ended _ (Or.inl hcalls) (Dispatcher.fits_error blank _)
    apply hended.finish hwork
    rw [hstep]
    simp only [stepEngineCall, hread]
  | ok call =>
    have hcall : (e.step c).1 = e.callEngine c { request := m, blank } call := by
      rw [hstep]
      simp only [stepEngineCall, hread]
    have hnoted : e.noted c = [call] := by
      have hadded : (e.step c).1.engine.calls = e.engine.calls ++ [call] := by
        rw [hcall]
        rfl
      rw [noted, hadded, List.drop_left]
    rw [hnoted, hcall, work?_callEngine call hwork, if_pos rfl, hcalls]
    exact .working call _ rfl hread

/-- The engine comes to an outcome, or takes time, or never returns. -/
theorem calling_step_working {call : Engine.Call} {outcome : Engine.Outcome}
    (hwork : e.work? c =
      some (.engineCall { request := m, blank, phase := .working call outcome }))
    (haborting : e.aborting c = false) (hcalls : calls = [call])
    (hcall : Engine.Call.ofRequest m = .ok call) :
    Calling m blank (calls ++ e.noted c) ((e.step c).1.work? c) := by
  have hstep := step_of_work? hwork haborting
  have hproper : Proper m calls := Or.inr ⟨call, hcalls, hcall⟩
  cases outcome with
  | usual => exact (Calling.answer hproper call _).finish hwork (by rw [hstep]; rfl)
  | ok value => exact (Calling.answer hproper call value).finish hwork (by rw [hstep]; rfl)
  | error error =>
    have hended : Calling m blank calls (some (.ended (.call (.returned (.error error))))) :=
      .ended _ hproper (Dispatcher.fits_error blank _)
    exact hended.finish hwork (by rw [hstep]; rfl)
  | panic text =>
    have hended : Calling m blank calls (some (.ended (.call (.panicked text)))) :=
      .ended _ hproper (Dispatcher.fits_error blank _)
    exact hended.finish hwork (by rw [hstep]; rfl)
  | never =>
    apply Calling.quiet (.working call .never hcalls hcall) (by rw [hstep]; rfl)
    rw [hstep]
    exact hwork
  | after span next =>
    refine Calling.quiet (.sleeping (e.schedule.now + span) call next hcalls hcall)
      (by rw [hstep]; rfl) ?_
    rw [hstep]
    simp only [stepEngineCall, work?_setWork, if_true, hwork, Option.map_some]

/-- An engine call that sleeps goes on when it is time. -/
theorem calling_step_sleeping {moment : Millis} {call : Engine.Call} {outcome : Engine.Outcome}
    (hwork : e.work? c =
      some (.engineCall { request := m, blank, phase := .sleeping moment call outcome }))
    (haborting : e.aborting c = false) (hcalls : calls = [call])
    (hcall : Engine.Call.ofRequest m = .ok call) :
    Calling m blank (calls ++ e.noted c) ((e.step c).1.work? c) := by
  have hstep := step_of_work? hwork haborting
  by_cases hnow : moment ≤ e.schedule.now
  · refine Calling.quiet (.working call outcome hcalls hcall) ?_ ?_
    · rw [hstep]
      simp only [stepEngineCall, if_pos hnow]
      rfl
    · rw [hstep]
      simp only [stepEngineCall, if_pos hnow, work?_setWork, if_true, hwork, Option.map_some]
  · have hafter : (e.step c).1 = e.sleep c moment := by
      rw [hstep]
      simp only [stepEngineCall, if_neg hnow]
    refine Calling.quiet (.sleeping moment call outcome hcalls hcall) ?_ ?_
    · rw [hafter]
      exact congrArg Parts.engine (parts_sleep e c moment)
    · rw [hafter, work?, tasks_sleep, ← work?, hwork]

/-- A step of an engine call brings it further, and the engine is called when it begins. -/
theorem calling_step (h : Calling m blank calls (e.work? c)) :
    Calling m blank (calls ++ e.noted c) ((e.step c).1.work? c) := by
  have hproper := h.proper
  generalize hwork : e.work? c = work at h
  by_cases haborting : e.aborting c = true
  · cases work with
    | none => cases h
    | some work =>
      rcases step_of_aborting hwork haborting with ⟨-, hstep⟩ | ⟨-, hstep⟩
      · exact h.quiet (by rw [hstep]) (by rw [hstep, hwork])
      · have hdrop : e.drop c work = e := by cases h <;> rfl
        rw [hdrop] at hstep
        exact (Calling.aborted hproper).finish hwork (by rw [hstep])
  · have haborting : e.aborting c = false := by simpa using haborting
    cases h with
    | starting hcalls => exact calling_step_starting hwork haborting hcalls
    | working call outcome hcalls hcall =>
      exact calling_step_working hwork haborting hcalls hcall
    | sleeping moment call outcome hcalls hcall =>
      exact calling_step_sleeping hwork haborting hcalls hcall
    | ended ending _ hfits =>
      have hstep := step_of_work? hwork haborting
      exact (Calling.ended ending hproper hfits).quiet (by rw [hstep]) (by rw [hstep, hwork])
    | aborted _ =>
      have hstep := step_of_work? hwork haborting
      exact (Calling.aborted hproper).quiet (by rw [hstep]) (by rw [hstep, hwork])

/-! ### Engine calls left to themselves -/

/-- Whether an engine call waits for the engine: it never returns, or it goes on later. -/
def EngineCallPhase.waits (now : Millis) : EngineCallPhase → Bool
  | .starting => false
  | .working _ .never => true
  | .working _ _ => false
  | .sleeping moment _ _ => decide (now < moment)

/-- A task has ended, or its engine call waits for the engine and was not told to stop. -/
def Pauses (e : Exchange) (c : TaskId) : Prop :=
  (∃ result, e.work? c = some (.ended result)) ∨
    ∃ call, e.work? c = some (.engineCall call) ∧ e.aborting c = false ∧
      call.phase.waits e.schedule.now = true

/-- An engine call ends with its next step when the engine has come to an outcome, and also
when it was told to stop. -/
theorem ended_of_isFinal {ec : EngineCall} (hwork : e.work? c = some (.engineCall ec))
    (hready : e.aborting c = true ∨
      ∃ call outcome, ec.phase = .working call outcome ∧ outcome.isFinal = true) :
    ∃ result, (e.step c).1.work? c = some (.ended result) := by
  have hfinish : ∀ result : Ended, (e.finish c result).work? c = some (.ended result) := by
    intro result
    rw [work?_finish, if_pos rfl, hwork, Option.map_some]
  by_cases haborting : e.aborting c = true
  · rcases step_of_aborting hwork haborting with ⟨⟨result, hended⟩, -⟩ | ⟨-, hstep⟩
    · cases hended
    · rw [hstep]
      exact ⟨.aborted, hfinish .aborted⟩
  · obtain ⟨call, outcome, hphase, hfinal⟩ := hready.resolve_left haborting
    obtain ⟨request, blank, phase⟩ := ec
    obtain rfl : phase = .working call outcome := hphase
    rw [step_of_work? hwork (by simpa using haborting)]
    cases outcome with
    | usual => exact ⟨_, hfinish _⟩
    | ok value => exact ⟨_, hfinish _⟩
    | error error => exact ⟨_, hfinish _⟩
    | panic text => exact ⟨_, hfinish _⟩
    | never => cases hfinal
    | after span next => cases hfinal

/-- A task that comes to a pause after a step does so with one step more. -/
theorem exists_pauses_of_step (h : ∃ n, Pauses ((e.step c).1.steps (List.replicate n c)) c) :
    ∃ n, Pauses (e.steps (List.replicate n c)) c := by
  obtain ⟨n, hn⟩ := h
  exact ⟨n + 1, hn⟩

/-- An engine call that was told to stop comes to its end. -/
theorem exists_pauses_of_aborting {ec : EngineCall} (hwork : e.work? c = some (.engineCall ec))
    (haborting : e.aborting c = true) : ∃ n, Pauses (e.steps (List.replicate n c)) c :=
  ⟨1, Or.inl (ended_of_isFinal hwork (Or.inl haborting))⟩

/-- When the engine call that goes on after a sleep comes to a pause, so does the sleep. -/
theorem exists_pauses_of_sleeping {moment : Millis} {call : Engine.Call}
    {outcome : Engine.Outcome}
    (hnext : ∀ {e : Exchange}, e.work? c =
        some (.engineCall { request := m, blank, phase := .working call outcome }) →
      ∃ n, Pauses (e.steps (List.replicate n c)) c)
    (hwork : e.work? c =
      some (.engineCall { request := m, blank, phase := .sleeping moment call outcome })) :
    ∃ n, Pauses (e.steps (List.replicate n c)) c := by
  by_cases haborting : e.aborting c = true
  · exact exists_pauses_of_aborting hwork haborting
  have haborting : e.aborting c = false := by simpa using haborting
  by_cases hnow : moment ≤ e.schedule.now
  · refine exists_pauses_of_step (hnext ?_)
    rw [step_of_work? hwork haborting]
    simp only [stepEngineCall, if_pos hnow, work?_setWork, if_true, hwork, Option.map_some]
  · exact ⟨0, Or.inr ⟨_, hwork, haborting, decide_eq_true (Nat.lt_of_not_le hnow)⟩⟩

/-- The engine comes to its outcome, unless it takes longer. -/
theorem exists_pauses_of_working {call : Engine.Call} {outcome : Engine.Outcome}
    (hwork : e.work? c =
      some (.engineCall { request := m, blank, phase := .working call outcome })) :
    ∃ n, Pauses (e.steps (List.replicate n c)) c := by
  have hfinal : ∀ {e : Exchange} {outcome : Engine.Outcome}, e.work? c =
        some (.engineCall { request := m, blank, phase := .working call outcome }) →
      outcome.isFinal = true → ∃ n, Pauses (e.steps (List.replicate n c)) c :=
    fun hwork hfinal => ⟨1, Or.inl (ended_of_isFinal hwork (Or.inr ⟨call, _, rfl, hfinal⟩))⟩
  induction outcome generalizing e with
  | usual => exact hfinal hwork rfl
  | ok value => exact hfinal hwork rfl
  | error error => exact hfinal hwork rfl
  | panic text => exact hfinal hwork rfl
  | never =>
    by_cases haborting : e.aborting c = true
    · exact exists_pauses_of_aborting hwork haborting
    · exact ⟨0, Or.inr ⟨_, hwork, Bool.eq_false_iff.2 haborting, rfl⟩⟩
  | after span next ih =>
    by_cases haborting : e.aborting c = true
    · exact exists_pauses_of_aborting hwork haborting
    have hsleeping : (e.step c).1.work? c =
        some (.engineCall
          { request := m, blank, phase := .sleeping (e.schedule.now + span) call next }) := by
      rw [step_of_work? hwork (by simpa using haborting)]
      simp only [stepEngineCall, work?_setWork, if_true, hwork, Option.map_some]
    exact exists_pauses_of_step (exists_pauses_of_sleeping ih hsleeping)

/-- An engine call comes by steps of its own to its end, or it waits for the engine. -/
theorem exists_pauses (h : Calling m blank calls (e.work? c)) :
    ∃ n, Pauses (e.steps (List.replicate n c)) c := by
  generalize hwork : e.work? c = work at h
  cases h with
  | starting hcalls =>
    by_cases haborting : e.aborting c = true
    · exact exists_pauses_of_aborting hwork haborting
    have haborting : e.aborting c = false := by simpa using haborting
    apply exists_pauses_of_step
    cases hread : Engine.Call.ofRequest m with
    | error error =>
      refine ⟨0, Or.inl ⟨.call (.returned (.error error)), ?_⟩⟩
      have hstep : (e.step c).1 = e.finish c (.call (.returned (.error error))) := by
        rw [step_of_work? hwork haborting]
        simp only [stepEngineCall, hread]
      change (e.step c).1.work? c = _
      rw [hstep, work?_finish, if_pos rfl, hwork, Option.map_some]
    | ok call =>
      have hstep : (e.step c).1 = e.callEngine c { request := m, blank } call := by
        rw [step_of_work? hwork haborting]
        simp only [stepEngineCall, hread]
      have hworking : (e.step c).1.work? c =
          some (.engineCall
            { request := m, blank, phase := .working call (e.engine.start call).1 }) := by
        rw [hstep, work?_callEngine call hwork, if_pos rfl]
      exact exists_pauses_of_working hworking
  | working call outcome => exact exists_pauses_of_working hwork
  | sleeping moment call outcome => exact exists_pauses_of_sleeping exists_pauses_of_working hwork
  | ended ending => exact ⟨0, Or.inl ⟨_, hwork⟩⟩
  | aborted => exact ⟨0, Or.inl ⟨_, hwork⟩⟩

end Exchange

end Parley
