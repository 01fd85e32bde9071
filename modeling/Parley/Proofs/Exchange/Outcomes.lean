/-
# What the engine did about a request

The engine has an outcome for each call that it notes, in the order of the calls.  So the
record of a course tells which outcome the call of a dispatch had: the task of the call goes
through that outcome to its end, or it is told to stop, or the engine was not called at all.
This holds for every dispatch that waits for its call, in every course.
-/

import Parley.Exchange.Handled
import Parley.Proofs.Engine.Outcome
import Parley.Proofs.Exchange.Reply

namespace Parley

namespace Engine.Script

/-- Calls may be started in two parts. -/
theorem startAll_append_append (s : Script) (calls more : List Call) :
    s.startAll (calls ++ more) = (s.startAll calls).startAll more :=
  List.foldl_append

/-- The outcomes of the later ones are those of the script that the earlier ones leave. -/
theorem outcomesOf_append_append (s : Script) (calls more : List Call) :
    s.outcomesOf (calls ++ more) = s.outcomesOf calls ++ (s.startAll calls).outcomesOf more := by
  induction calls generalizing s with
  | nil => rfl
  | cons first rest ih =>
    rw [List.cons_append, outcomesOf, ih]
    rfl

/-- Every call has one outcome. -/
theorem length_outcomesOf (s : Script) (calls : List Call) :
    (s.outcomesOf calls).length = calls.length := by
  induction calls generalizing s with
  | nil => rfl
  | cons first rest ih => rw [outcomesOf, List.length_cons, List.length_cons, ih]

end Engine.Script

namespace Exchange

variable {e : Exchange} {t c : TaskId} {m blank : Message} {script : Engine.Script}
  {made : List (Engine.Call × Engine.Outcome)}

/-! ### One step of an engine call -/

/-- The calls that the engine notes during a step, each with its outcome. -/
def met (e : Exchange) (c : TaskId) : List (Engine.Call × Engine.Outcome) :=
  (e.noted c).zip (e.engine.outcomesOf (e.noted c))

/-- Where the engine is the same nothing was met. -/
theorem met_of_engine_eq (h : (e.step c).1.engine = e.engine) : e.met c = [] := by
  rw [met, noted_of_engine_eq h]
  rfl

/-- The engine notes the call with which it is called. -/
theorem noted_of_callEngine {ec : EngineCall} {call : Engine.Call}
    (hstep : (e.step c).1 = e.callEngine c ec call) : e.noted c = [call] := by
  have hcalls : (e.step c).1.engine.calls = e.engine.calls ++ [call] := by
    rw [hstep]
    rfl
  rw [noted, hcalls, List.drop_left]

/-- How far the engine call of a request has come, given the calls that the engine has noted
during its steps and their outcomes. -/
inductive Enacts (request blank : Message) (made : List (Engine.Call × Engine.Outcome)) :
    Option Work → Prop where
  | starting (hmade : made = []) :
      Enacts request blank made (some (.engineCall { request, blank }))
  | working (call : Engine.Call) (outcome next : Engine.Outcome) (hmade : made = [(call, outcome)])
      (hcall : Engine.Call.ofRequest request = .ok call)
      (hending : next.ending? call blank = outcome.ending? call blank) :
      Enacts request blank made
        (some (.engineCall { request, blank, phase := .working call next }))
  | sleeping (moment : Millis) (call : Engine.Call) (outcome next : Engine.Outcome)
      (hmade : made = [(call, outcome)]) (hcall : Engine.Call.ofRequest request = .ok call)
      (hending : next.ending? call blank = outcome.ending? call blank) :
      Enacts request blank made
        (some (.engineCall { request, blank, phase := .sleeping moment call next }))
  | refused (error : Engine.Error) (hmade : made = [])
      (hcall : Engine.Call.ofRequest request = .error error) :
      Enacts request blank made (some (.ended (.call (.returned (.error error)))))
  | ended (call : Engine.Call) (outcome : Engine.Outcome) (ending : Engine.Ending)
      (hmade : made = [(call, outcome)]) (hcall : Engine.Call.ofRequest request = .ok call)
      (hending : outcome.ending? call blank = some ending) :
      Enacts request blank made (some (.ended (.call ending)))
  | aborted : Enacts request blank made (some (.ended .aborted))

/-- A task that enacts what the engine does is a task of the exchange. -/
theorem Enacts.lt (h : Enacts m blank made (e.work? c)) : c < e.tasks.length := by
  generalize hwork : e.work? c = work at h
  cases h <;> exact lt_of_work? hwork

/-- Nothing is noted by a step that keeps the engine as it is. -/
theorem Enacts.quiet {work : Option Work} (h : Enacts m blank made work)
    (hengine : (e.step c).1.engine = e.engine) (hwork : (e.step c).1.work? c = work) :
    Enacts m blank (made ++ e.met c) ((e.step c).1.work? c) := by
  rw [met_of_engine_eq hengine, List.append_nil, hwork]
  exact h

/-- An engine call that ends has met nothing more. -/
theorem Enacts.finish {work : Work} {result : Ended}
    (h : Enacts m blank made (some (.ended result))) (hwork : e.work? c = some work)
    (hstep : (e.step c).1 = e.finish c result) :
    Enacts m blank (made ++ e.met c) ((e.step c).1.work? c) := by
  refine h.quiet ?_ ?_
  · rw [hstep, engine_finish]
  · rw [hstep, work?_finish, if_pos rfl, hwork, Option.map_some]

/-- The engine is called when an engine call begins whose request reads as a call. -/
theorem enacts_step_starting (hwork : e.work? c = some (.engineCall { request := m, blank }))
    (hfree : e.aborting c = false) (hmade : made = []) :
    Enacts m blank (made ++ e.met c) ((e.step c).1.work? c) := by
  have hstep := step_of_work? hwork hfree
  cases hread : Engine.Call.ofRequest m with
  | error error =>
    apply (Enacts.refused error hmade hread).finish hwork
    rw [hstep]
    simp only [stepEngineCall, hread]
  | ok call =>
    have hcall : (e.step c).1 = e.callEngine c { request := m, blank } call := by
      rw [hstep]
      simp only [stepEngineCall, hread]
    have hmet : e.met c = [(call, (e.engine.start call).1)] := by
      rw [met, noted_of_callEngine hcall]
      rfl
    rw [hmet, hcall, work?_callEngine call hwork, if_pos rfl, hmade]
    exact .working call _ _ rfl hread rfl

/-- The engine goes through its outcome. -/
theorem enacts_step_working {call : Engine.Call} {outcome next : Engine.Outcome}
    (hwork : e.work? c =
      some (.engineCall { request := m, blank, phase := .working call next }))
    (hfree : e.aborting c = false) (hmade : made = [(call, outcome)])
    (hcall : Engine.Call.ofRequest m = .ok call)
    (hending : next.ending? call blank = outcome.ending? call blank) :
    Enacts m blank (made ++ e.met c) ((e.step c).1.work? c) := by
  have hstep := step_of_work? hwork hfree
  have hend : ∀ ending : Engine.Ending, next.ending? call blank = some ending →
      (e.step c).1 = e.finish c (.call ending) →
      Enacts m blank (made ++ e.met c) ((e.step c).1.work? c) := by
    intro ending hnext hfinish
    exact (Enacts.ended call outcome ending hmade hcall (hending ▸ hnext)).finish hwork hfinish
  cases next with
  | usual => exact hend _ rfl (by rw [hstep]; rfl)
  | ok value => exact hend _ rfl (by rw [hstep]; rfl)
  | error reported => exact hend _ rfl (by rw [hstep]; rfl)
  | panic text => exact hend _ rfl (by rw [hstep]; rfl)
  | never =>
    apply (Enacts.working call outcome .never hmade hcall hending).quiet (by rw [hstep]; rfl)
    rw [hstep]
    exact hwork
  | after span next =>
    refine (Enacts.sleeping (e.schedule.now + span) call outcome next hmade hcall hending).quiet
      (by rw [hstep]; rfl) ?_
    rw [hstep]
    simp only [stepEngineCall, work?_setWork, if_true, hwork, Option.map_some]

/-- An engine call that sleeps goes on when it is time. -/
theorem enacts_step_sleeping {moment : Millis} {call : Engine.Call}
    {outcome next : Engine.Outcome}
    (hwork : e.work? c =
      some (.engineCall { request := m, blank, phase := .sleeping moment call next }))
    (hfree : e.aborting c = false) (hmade : made = [(call, outcome)])
    (hcall : Engine.Call.ofRequest m = .ok call)
    (hending : next.ending? call blank = outcome.ending? call blank) :
    Enacts m blank (made ++ e.met c) ((e.step c).1.work? c) := by
  have hstep := step_of_work? hwork hfree
  by_cases hnow : moment ≤ e.schedule.now
  · refine (Enacts.working call outcome next hmade hcall hending).quiet ?_ ?_
    · rw [hstep]
      simp only [stepEngineCall, if_pos hnow]
      rfl
    · rw [hstep]
      simp only [stepEngineCall, if_pos hnow, work?_setWork, if_true, hwork, Option.map_some]
  · have hafter : (e.step c).1 = e.sleep c moment := by
      rw [hstep]
      simp only [stepEngineCall, if_neg hnow]
    refine (Enacts.sleeping moment call outcome next hmade hcall hending).quiet ?_ ?_
    · rw [hafter]
      exact congrArg Parts.engine (parts_sleep e c moment)
    · rw [hafter, work?, tasks_sleep, ← work?, hwork]

/-- A step of an engine call brings it further. -/
theorem enacts_step (h : Enacts m blank made (e.work? c)) :
    Enacts m blank (made ++ e.met c) ((e.step c).1.work? c) := by
  generalize hwork : e.work? c = work at h
  by_cases haborting : e.aborting c = true
  · cases work with
    | none => cases h
    | some work =>
      rcases step_of_aborting hwork haborting with ⟨-, hstep⟩ | ⟨-, hstep⟩
      · exact h.quiet (by rw [hstep]) (by rw [hstep, hwork])
      · have hdrop : e.drop c work = e := by cases h <;> rfl
        rw [hdrop] at hstep
        exact Enacts.aborted.finish hwork (by rw [hstep])
  · have hfree : e.aborting c = false := by simpa using haborting
    cases h with
    | starting hmade => exact enacts_step_starting hwork hfree hmade
    | working call outcome next hmade hcall hending =>
      exact enacts_step_working hwork hfree hmade hcall hending
    | sleeping moment call outcome next hmade hcall hending =>
      exact enacts_step_sleeping hwork hfree hmade hcall hending
    | refused error hmade hcall =>
      have hstep := step_of_ended hwork
      exact (Enacts.refused error hmade hcall).quiet (by rw [hstep]) (by rw [hstep, hwork])
    | ended call outcome ending hmade hcall hending =>
      have hstep := step_of_ended hwork
      exact (Enacts.ended call outcome ending hmade hcall hending).quiet (by rw [hstep])
        (by rw [hstep, hwork])
    | aborted =>
      have hstep := step_of_ended hwork
      exact Enacts.aborted.quiet (by rw [hstep]) (by rw [hstep, hwork])

/-! ### The engine along a course -/

/-- The engine starts what it notes. -/
theorem engine_step (e : Exchange) (t : TaskId) :
    (e.step t).1.engine = e.engine.startAll (e.noted t) := by
  rcases step_cases e t with hspares | ⟨handler, job, -, -, -, hstep⟩ | ⟨ec, call, -, -, -, hstep⟩
  · rw [noted_of_engine_eq hspares.engine]
    exact hspares.engine
  · have hengine : (e.step t).1.engine = e.engine := by
      rw [hstep, engine_forward]
    rw [noted_of_engine_eq hengine]
    exact hengine
  · rw [noted_of_callEngine hstep, hstep]
    rfl

/-- The codec stays what it is, whatever happens. -/
theorem codec_happen (e : Exchange) (event : Event) :
    (e.happen event).dispatcher.codec = e.dispatcher.codec := by
  rcases happen_cases e event with ⟨engine, hspares⟩ | ⟨t, handler, job, -, -, -, -, hstep⟩
  · exact hspares.codec
  · rw [hstep, codec_forward]

/-- What is accepted depends on the codec alone. -/
theorem accept_happen (e : Exchange) (event : Event) (request : Message) :
    (e.happen event).dispatcher.accept request = e.dispatcher.accept request := by
  rw [Dispatcher.accept, Dispatcher.accept, codec_happen]

namespace Course

variable {course : Course}

/-- The outcomes on record are those of the engine when it began with a script and has started
what is on record. -/
def Follows (course : Course) (script : Engine.Script) : Prop :=
  course.exchange.engine = script.startAll (course.calls.map Prod.snd)

/-- A step puts the calls that the engine notes behind those on record. -/
theorem snd_calls_step (course : Course) (t : TaskId) :
    (course.next (.step t)).calls.map Prod.snd =
      course.calls.map Prod.snd ++ course.exchange.noted t := by
  rw [calls_step, List.map_append, List.map_map]
  exact congrArg _ (List.map_id _)

/-- The engine keeps following its script. -/
theorem Follows.next (h : course.Follows script) (event : Event) :
    (course.next event).Follows script := by
  by_cases hevent : ∃ t, event = .step t
  · obtain ⟨t, rfl⟩ := hevent
    rw [Follows, snd_calls_step, Engine.Script.startAll_append_append, ← h]
    exact engine_step course.exchange t
  · have hne : ∀ t, event ≠ .step t := fun t heq => hevent ⟨t, heq⟩
    rw [Follows, exchange_next, (course.next_of_ne_step hne).2, ← h]
    exact (spares_happen hne).engine

/-- A step adds to the record of its own task only. -/
theorem outcomesBy_step (h : course.Follows script) (t c : TaskId) :
    (course.next (.step t)).outcomesBy script c =
      course.outcomesBy script c ++ if c = t then course.exchange.met t else [] := by
  have hlength : course.calls.length =
      (script.outcomesOf (course.calls.map Prod.snd)).length := by
    rw [Engine.Script.length_outcomesOf, List.length_map]
  simp only [outcomesBy]
  rw [snd_calls_step, Engine.Script.outcomesOf_append_append, ← h, calls_step, List.zip_append hlength,
    List.filter_append, List.map_append]
  congr 1
  rw [List.zip_map_left]
  by_cases hct : c = t
  · subst hct
    rw [if_pos rfl, met, List.filter_map, List.filter_eq_self.2, List.map_map]
    · exact List.map_id _
    · intro entry _
      exact beq_self_eq_true c
  · rw [if_neg hct, List.filter_map, List.filter_eq_nil_iff.2]
    · rfl
    · intro entry _ hentry
      exact hct (beq_iff_eq.1 hentry).symm

/-- Whoever has made no call has met no outcome. -/
theorem outcomesBy_of_caller {c : TaskId} (h : ∀ entry ∈ course.calls, entry.1 ≠ c) :
    course.outcomesBy script c = [] := by
  simp only [outcomesBy]
  rw [List.map_eq_nil_iff, List.filter_eq_nil_iff]
  intro entry hentry hcaller
  exact h entry.1 (List.of_mem_zip hentry).1 (beq_iff_eq.1 hcaller)

/-- What an event makes of the engine call of a request. -/
theorem enacts_next (hfollows : course.Follows script)
    (h : Enacts m blank (course.outcomesBy script c) (course.exchange.work? c)) (event : Event) :
    Enacts m blank ((course.next event).outcomesBy script c)
      ((course.next event).exchange.work? c) := by
  rw [exchange_next]
  by_cases hself : event = .step c
  · subst hself
    rw [outcomesBy_step hfollows, if_pos rfl]
    exact enacts_step h
  · have hsame : (course.next event).outcomesBy script c = course.outcomesBy script c := by
      cases event with
      | step t =>
        have hct : c ≠ t := fun hct => hself (hct ▸ rfl)
        rw [outcomesBy_step hfollows, if_neg hct, List.append_nil]
      | _ => rfl
    rw [hsame, work?_happen_of_ne hself h.lt]
    exact h

/-- Every dispatch that waits does so for the engine call of its request, and the record tells
what the engine did about it. -/
structure Grounded (script : Engine.Script) (course : Course) : Prop where
  follows : course.Follows script
  bounded : Bounded course
  joins : ∀ t request purpose job c tracked,
    course.exchange.work? t =
      some (.handler { request, purpose, phase := .joining job c tracked }) →
    course.exchange.dispatcher.accept request = .ok job ∧
      Enacts request job.blank (course.outcomesBy script c) (course.exchange.work? c)

/-- A fresh exchange is grounded in the script of its engine. -/
theorem Grounded.of_fresh (hfresh : Fresh e) : Grounded e.engine { exchange := e } where
  follows := rfl
  bounded := ⟨nofun, nofun⟩
  joins t request purpose job c tracked hwork := by
    have hlt := lt_of_work? hwork
    rw [hfresh.tasks] at hlt
    exact absurd hlt (Nat.not_lt_zero t)

/-- A grounded course stays so, whatever happens. -/
theorem Grounded.next (h : Grounded script course) (event : Event) :
    Grounded script (course.next event) where
  follows := h.follows.next event
  bounded := h.bounded.next event
  joins t request purpose job c tracked hwork := by
    rw [exchange_next] at hwork
    have hkept : course.exchange.work? t =
        some (.handler { request, purpose, phase := .joining job c tracked }) →
        (course.next event).exchange.dispatcher.accept request = .ok job ∧
          Enacts request job.blank ((course.next event).outcomesBy script c)
            ((course.next event).exchange.work? c) := by
      intro hold
      obtain ⟨haccept, henacts⟩ := h.joins t request purpose job c tracked hold
      rw [exchange_next, accept_happen, ← exchange_next]
      exact ⟨haccept, enacts_next h.follows henacts event⟩
    rcases happen_cases course.exchange event with ⟨engine, hspares⟩ |
      ⟨s, handler, job', rfl, hhandler, -, haccept, hstep⟩
    · rcases hspares.dispatch t _ hwork rfl with hold | ⟨-, request', purpose', hnew⟩
      · exact hkept hold
      · cases hnew
    · have hforward := hwork
      rw [hstep] at hforward
      rcases work?_of_forward hhandler hforward rfl with ⟨rfl, heq⟩ | ⟨-, hold⟩
      · cases heq
        -- The call has just been added, so that there is nothing about it on record.
        have hcaller : ∀ entry ∈ course.calls, entry.1 ≠ course.exchange.tasks.length :=
          fun entry hentry => Nat.ne_of_lt (h.bounded.caller entry hentry)
        have hne : course.exchange.tasks.length ≠ t := Ne.symm (Nat.ne_of_lt (lt_of_work? hhandler))
        refine ⟨?_, ?_⟩
        · rw [exchange_next, accept_happen]
          exact haccept
        · rw [outcomesBy_step h.follows, if_neg hne, List.append_nil,
            outcomesBy_of_caller hcaller, exchange_next, hstep, work?_forward job hhandler,
            if_neg hne, if_pos rfl]
          exact .starting rfl
      · exact hkept hold

/-- A grounded course stays so with any more events. -/
theorem Grounded.run (h : Grounded script course) (events : List Event) :
    Grounded script (course.run events) := by
  induction events generalizing course with
  | nil => exact h
  | cons event events ih => exact ih (h.next event)

end Course

end Exchange

end Parley
