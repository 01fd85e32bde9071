/-
# The table of running calls

The dispatcher keeps a table of the engine calls that can be cancelled.  An entry is made
when a dispatch begins to wait for its call and its id is free, and it goes when that
dispatch goes on or a cancel request takes it out.  In between the id may be given away
again, so neither the id nor the call alone says whose entry it is.

What holds throughout is that every entry has one dispatch that waits for its call with a
tracked id.  It follows that a dispatch takes out no entry but its own, that a cancel
request reaches no call but the tracked one, and that nothing is left over.
-/

import Parley.Proofs.Exchange.Dispatch
import Parley.Proofs.Exchange.Service

namespace Parley.Exchange

variable {e e' : Exchange} {t u c : TaskId} {request request' : Message} {id : Int64}
  {tracked : Bool} {event : Event}

/-! ### What is said of the table -/

/-- A task is the engine call of a request, or was. -/
def IsCallOf (e : Exchange) (c : TaskId) (request : Message) : Prop :=
  ∃ blank calls, Calling request blank calls (e.work? c)

/-- What holds of the table of running calls at any moment. -/
structure TableSound (e : Exchange) : Prop where
  /-- Zero is not tracked, and what is tracked is the engine call of a dispatch with that id
  which has not gone on yet. -/
  entries : ∀ id c, (id, c) ∈ e.dispatcher.running → id ≠ 0 ∧
    ∃ t request, request.requestId = id ∧ e.Awaits t request c true ∧ e.IsCallOf c request
  /-- No id is tracked twice. -/
  nodup : (e.dispatcher.running.map Prod.fst).Nodup
  /-- No two dispatches wait for the same call. -/
  alone : ∀ t u request request' c tracked tracked', e.Awaits t request c tracked →
    e.Awaits u request' c tracked' → t = u
  /-- Nothing is left over. -/
  idle : (∀ t, e.dispatches t = false) → e.dispatcher.inProgress = 0

/-- What an event does to the table of running calls and to the calls. -/
structure TableKept (e : Exchange) (event : Event) : Prop where
  /-- A dispatch begins to wait in a step of its own, for a new task.  The call is tracked
  unless the id is zero or taken, and then nothing else changes in the table. -/
  begins : ∀ t request c tracked, (e.happen event).Awaits t request c tracked →
    e.Awaits t request c tracked ∨
      event = .step t ∧ c = e.tasks.length ∧
        (tracked = true ↔ request.requestId ≠ 0 ∧
          e.dispatcher.running.lookup request.requestId = none) ∧
        (e.happen event).dispatcher.running =
          if tracked then e.dispatcher.running ++ [(request.requestId, c)]
          else e.dispatcher.running
  /-- An entry goes in a step of the dispatch whose call it is, which goes on, or in that of a
  cancel request about its id. -/
  removes : ∀ id c, (id, c) ∈ e.dispatcher.running →
    (id, c) ∉ (e.happen event).dispatcher.running →
    ∃ t, event = .step t ∧ (e.Cancels t id ∨
      ∃ request, request.requestId = id ∧ e.Awaits t request c true ∧
        (e.happen event).dispatches t = false)
  /-- A task is told to stop from outside, or by a cancel request as the call that is tracked
  under its target. -/
  stops : ∀ u, (e.happen event).aborting u = true →
    e.aborting u = true ∨ event = .abort u ∨
      ∃ t id, event = .step t ∧ e.Cancels t id ∧ e.dispatcher.running.lookup id = some u
  /-- No two tasks are told to stop at once. -/
  single : ∀ u v, e.aborting u = false → (e.happen event).aborting u = true →
    e.aborting v = false → (e.happen event).aborting v = true → u = v
  /-- A cancel request takes its target out of the table, and the call that was tracked under
  it is told to stop unless it has ended. -/
  cancelled : ∀ t id u, event = .step t → e.Cancels t id →
    e.dispatcher.running.lookup id = some u →
    (e.happen event).dispatcher.running.lookup id = none ∧
      ((e.happen event).aborting u = true ∨ ∃ result, e.work? u = some (.ended result))
  /-- A call that its dispatch does not track is told to stop from outside only. -/
  spared : ∀ t request u, e.Awaits t request u false → event ≠ .abort u →
    (e.happen event).aborting u = e.aborting u

/-- A course in which no dispatch is told to stop before it has come to its reply. -/
def Driven (e : Exchange) : List Event → Prop
  | [] => True
  | event :: events =>
      (∀ t, event = .abort t → e.dispatches t = false) ∧ Driven (e.happen event) events

/-! ### Dispatches -/

/-- Whether a task dispatches is told by its work. -/
theorem dispatches_of_work? {work : Work} (h : e.work? t = some work) :
    e.dispatches t = work.dispatches := by
  rw [dispatches, h, Option.any_some]

/-- Whoever waits for a call dispatches. -/
theorem Awaits.dispatches (h : e.Awaits t request c tracked) : e.dispatches t = true := by
  obtain ⟨purpose, blank, hwork⟩ := h
  exact dispatches_of_work? hwork

/-- Whoever is about to cancel one dispatches. -/
theorem Cancels.dispatches (h : e.Cancels t id) : e.dispatches t = true := by
  obtain ⟨request, purpose, job, hwork, -⟩ := h
  exact dispatches_of_work? hwork

/-- A dispatch is at one request and waits for one call. -/
theorem Awaits.unique {tracked' : Bool} (h : e.Awaits t request c tracked)
    (h' : e.Awaits t request' u tracked') : request = request' ∧ c = u ∧ tracked = tracked' := by
  obtain ⟨purpose, blank, hwork⟩ := h
  obtain ⟨purpose', blank', hwork'⟩ := h'
  rw [hwork] at hwork'
  cases hwork'
  exact ⟨rfl, rfl, rfl⟩

/-- A cancel request is about one id. -/
theorem Cancels.unique {id' : Int64} (h : e.Cancels t id) (h' : e.Cancels t id') : id = id' := by
  obtain ⟨request, purpose, job, hwork, -, -, htarget⟩ := h
  obtain ⟨request', purpose', job', hwork', -, -, htarget'⟩ := h'
  rw [hwork] at hwork'
  cases hwork'
  rw [htarget] at htarget'
  exact Except.ok.inj htarget'

/-- Whoever dispatches is a task of the exchange. -/
theorem lt_of_dispatches (h : e.dispatches t = true) : t < e.tasks.length := by
  obtain ⟨work, hwork, -⟩ := (Option.any_eq_true _ _).1 h
  exact lt_of_work? hwork

/-- Whoever was told to stop is a task of the exchange. -/
theorem lt_of_aborting (h : e.aborting t = true) : t < e.tasks.length := by
  obtain ⟨task, htask, -⟩ := (Option.any_eq_true _ _).1 h
  exact (List.getElem?_eq_some_iff.1 htask).1

/-- An engine call is no dispatch. -/
theorem not_dispatches_of_isCall (h : e.isCall c = true) : e.dispatches c = false := by
  obtain ⟨work, hwork, hcall⟩ := (Option.any_eq_true _ _).1 h
  rw [dispatches_of_work? hwork]
  cases work with
  | handler handler => cases hcall
  | _ => rfl

/-- A task that goes on with other work does not dispatch. -/
theorem dispatches_setWork {work : Work} (h : work.dispatches = false) :
    (e.setWork t work).dispatches t = false := by
  rw [dispatches, work?_setWork, if_pos rfl]
  cases e.work? t with
  | none => rfl
  | some old => exact h

/-- A task that ends does not dispatch. -/
theorem dispatches_finish (result : Ended) : (e.finish t result).dispatches t = false := by
  rw [dispatches, work?_finish, if_pos rfl]
  cases e.work? t with
  | none => rfl
  | some old => rfl

/-- A handler that has come to its reply is no dispatch any more. -/
theorem dispatches_conclude (handler : Handler) (reply : Except Fault Message) :
    (e.conclude t handler reply).1.dispatches t = false := by
  obtain ⟨request, purpose, phase⟩ := handler
  cases purpose with
  | reply => exact dispatches_finish _
  | frame => exact dispatches_finish _
  | send sink =>
    simp only [conclude]
    split
    · exact dispatches_setWork rfl
    · exact dispatches_finish _

/-- A dispatch that waits goes on waiting and nothing changes, or it comes to its reply and its
entry goes. -/
theorem step_of_joining {purpose : Purpose} {job : Dispatcher.Job}
    (hwork : e.work? t =
      some (.handler { request, purpose, phase := .joining job c tracked }))
    (haborting : e.aborting t = false) :
    (e.step t).1 = e ∨ (e.step t).1.dispatches t = false ∧
      (tracked = true → (job.id, c) ∉ (e.step t).1.dispatcher.running) := by
  -- Whatever comes after the entry was taken out, no entry is added.
  have huntracked : ∀ (handler : Handler) (reply : Except Fault Message),
      (job.id, c) ∉ (({ e with dispatcher := e.dispatcher.untrack job.id c } : Exchange).conclude
        t handler reply).1.dispatcher.running := by
    intro handler reply hentry
    have hspares : Spares t (e.reach t) { e with dispatcher := e.dispatcher.untrack job.id c }
        (({ e with dispatcher := e.dispatcher.untrack job.id c } : Exchange).conclude
          t handler reply).1 := spares_conclude handler reply
    have hkept := (List.mem_filter.1 (hspares.running.subset hentry)).2
    simp at hkept
  rw [step_of_work? hwork haborting]
  simp only [stepHandler]
  cases tracked with
  | true =>
    split
    · exact Or.inr ⟨dispatches_conclude _ _, fun _ => huntracked _ _⟩
    · exact Or.inr ⟨dispatches_conclude _ _, fun _ => huntracked _ _⟩
    · exact Or.inl rfl
  | false =>
    split
    · exact Or.inr ⟨dispatches_conclude _ _, fun htracked => absurd htracked Bool.false_ne_true⟩
    · exact Or.inr ⟨dispatches_conclude _ _, fun htracked => absurd htracked Bool.false_ne_true⟩
    · exact Or.inl rfl

/-- When a handler has forwarded its request, it is the one dispatch that has come further. -/
theorem work?_of_forward {handler : Handler} {job : Dispatcher.Job} {work : Work}
    (hwork : e.work? t = some (.handler handler))
    (hnow : (e.forward t handler job).work? u = some work) (hdispatches : work.dispatches = true) :
    (u = t ∧ work = .handler { handler with
        phase := .joining job e.tasks.length (e.dispatcher.track job.id e.tasks.length).1 }) ∨
      u ≠ t ∧ e.work? u = some work := by
  rw [work?_forward job hwork] at hnow
  by_cases hut : u = t
  · rw [if_pos hut] at hnow
    exact Or.inl ⟨hut, (Option.some.inj hnow).symm⟩
  · rw [if_neg hut] at hnow
    by_cases hu : u = e.tasks.length
    · rw [if_pos hu] at hnow
      cases hnow
      cases hdispatches
    · rw [if_neg hu] at hnow
      exact Or.inr ⟨hut, hnow⟩

/-- It waits for the new task, and all others wait for what they have waited for. -/
theorem awaits_forward {handler : Handler} {job : Dispatcher.Job}
    (hwork : e.work? t = some (.handler handler))
    (h : (e.forward t handler job).Awaits u request c tracked) :
    (u = t ∧ request = handler.request ∧ c = e.tasks.length ∧
      tracked = (e.dispatcher.track job.id c).1) ∨ u ≠ t ∧ e.Awaits u request c tracked := by
  obtain ⟨purpose, blank, hnow⟩ := h
  rcases work?_of_forward hwork hnow rfl with ⟨hut, heq⟩ | ⟨hut, hold⟩
  · cases heq
    exact Or.inl ⟨hut, rfl, rfl, rfl⟩
  · exact Or.inr ⟨hut, purpose, blank, hold⟩

/-- When one handler forwards its request, the others wait as before. -/
theorem awaits_of_ne {handler : Handler} {job : Dispatcher.Job}
    (hwork : e.work? t = some (.handler handler)) (hut : u ≠ t)
    (h : e.Awaits u request c tracked) : (e.forward t handler job).Awaits u request c tracked := by
  have hlt := lt_of_dispatches h.dispatches
  obtain ⟨purpose, blank, hold⟩ := h
  refine ⟨purpose, blank, ?_⟩
  rw [work?_forward job hwork, if_neg hut, if_neg (Nat.ne_of_lt hlt), hold]

/-! ### What an event can do -/

/-- The task that an event concerns; an event that is no step concerns none that exists. -/
def Event.subject (e : Exchange) : Event → TaskId
  | .step t => t
  | _ => e.tasks.length

/-- What an event may do beyond the task that it concerns. -/
def Event.reach (e : Exchange) : Event → Reach
  | .step t => e.reach t
  | event => { stops := fun u => event = .abort u, drops := fun _ => False }

/-- An event concerns at most one task and the engine, or a handler forwards its request. -/
theorem happen_cases (e : Exchange) (event : Event) :
    (∃ engine, Spares (event.subject e) (event.reach e) { e with engine } (e.happen event)) ∨
    ∃ t handler job, event = .step t ∧ e.work? t = some (.handler handler) ∧
      handler.phase = .starting ∧ e.dispatcher.accept handler.request = .ok job ∧
      e.happen event = e.forward t handler job := by
  cases event with
  | step t =>
    rcases step_cases e t with hspares | ⟨handler, job, hwork, hphase, haccept, hstep⟩ |
      ⟨ec, call, -, -, -, hstep⟩
    · exact Or.inl ⟨e.engine, hspares⟩
    · exact Or.inr ⟨t, handler, job, rfl, hwork, hphase, haccept, hstep⟩
    · left
      refine ⟨(e.engine.start call).2, ?_⟩
      rw [happen, hstep]
      exact (Spares.refl _).setWork _ rfl
  | _ => exact Or.inl ⟨e.engine, spares_happen fun t heq => by cases heq⟩

/-- What is or was the engine call of a request stays so. -/
theorem IsCallOf.happen (h : e.IsCallOf c request) (event : Event) :
    (e.happen event).IsCallOf c request := by
  obtain ⟨blank, calls, hcalling⟩ := h
  by_cases hself : event = .step c
  · subst hself
    exact ⟨blank, _, calling_step hcalling⟩
  · refine ⟨blank, calls, ?_⟩
    rwa [work?_happen_of_ne hself (lt_of_isCall (isCall_of_calling hcalling))]

/-- A dispatch begins to wait in a step of its own only, for the task that this step adds. -/
theorem awaits_of_happen (e : Exchange) (event : Event)
    (hnow : (e.happen event).Awaits t request c tracked) :
    e.Awaits t request c tracked ∨
      event = .step t ∧ c = e.tasks.length ∧
        (tracked = true ↔ request.requestId ≠ 0 ∧
          e.dispatcher.running.lookup request.requestId = none) ∧
        (e.happen event).dispatcher.running =
          if tracked then e.dispatcher.running ++ [(request.requestId, c)]
          else e.dispatcher.running := by
  rcases happen_cases e event with ⟨engine, hspares⟩ |
    ⟨s, handler, job, rfl, hwork, hphase, haccept, hstep⟩
  · obtain ⟨purpose, blank, hwork⟩ := hnow
    rcases hspares.dispatch t _ hwork rfl with hold | ⟨-, request', purpose', hnew⟩
    · exact Or.inl ⟨purpose, blank, hold⟩
    · cases hnew
  · rw [hstep] at hnow
    rcases awaits_forward hwork hnow with ⟨rfl, rfl, rfl, rfl⟩ | ⟨-, hold⟩
    · have hid := Dispatcher.id_of_accept haccept
      rw [hstep, running_forward, hid]
      exact Or.inr ⟨rfl, rfl, Dispatcher.track_eq_true, rfl⟩
    · exact Or.inl hold

/-- A task is told to stop from outside or by a cancel request. -/
theorem aborting_of_happen (e : Exchange) (event : Event)
    (hnow : (e.happen event).aborting u = true) :
    e.aborting u = true ∨ event = .abort u ∨
      ∃ t id, event = .step t ∧ e.Cancels t id ∧ e.dispatcher.running.lookup id = some u := by
  rcases happen_cases e event with ⟨engine, hspares⟩ | ⟨t, handler, job, rfl, -, -, -, hstep⟩
  · rcases hspares.aborting u hnow with hold | hstop
    · exact Or.inl hold
    · cases event with
      | step t =>
        obtain ⟨id, hcancels, hlookup⟩ := hstop
        exact Or.inr (Or.inr ⟨t, id, rfl, hcancels, hlookup⟩)
      | abort v => exact Or.inr (Or.inl hstop)
      | _ => cases hstop
  · rw [hstep, aborting_forward] at hnow
    exact Or.inl hnow

/-- Who was not told to stop before is told by this event. -/
theorem stops_of_happen (hu : e.aborting u = false) (hnow : (e.happen event).aborting u = true) :
    event = .abort u ∨
      ∃ t id, event = .step t ∧ e.Cancels t id ∧ e.dispatcher.running.lookup id = some u := by
  apply (aborting_of_happen e event hnow).resolve_left
  rw [hu]
  exact Bool.false_ne_true

/-- Whoever was told to stop stays so. -/
theorem aborting_happen (e : Exchange) (event : Event) (hold : e.aborting u = true) :
    (e.happen event).aborting u = true := by
  rcases happen_cases e event with ⟨engine, hspares⟩ | ⟨t, handler, job, rfl, -, -, -, hstep⟩
  · exact hspares.told u hold
  · rw [hstep, aborting_forward]
    exact hold

/-! ### The invariant -/

/-- Dispatches and the calls that they wait for belong together, and the table is about them. -/
structure Orderly (e : Exchange) : Prop where
  /-- No dispatch was told to stop. -/
  heeded : ∀ t, e.dispatches t = true → e.aborting t = false
  /-- A dispatch waits for the engine call of its request, with the id of its request. -/
  joins : ∀ t request purpose job c tracked,
    e.work? t = some (.handler { request, purpose, phase := .joining job c tracked }) →
    job.id = request.requestId ∧ e.IsCallOf c request
  alone : ∀ t u request request' c tracked tracked', e.Awaits t request c tracked →
    e.Awaits u request' c tracked' → t = u
  entries : ∀ id c, (id, c) ∈ e.dispatcher.running → id ≠ 0 ∧
    ∃ t request, request.requestId = id ∧ e.Awaits t request c true
  nodup : (e.dispatcher.running.map Prod.fst).Nodup

namespace Orderly

/-- A dispatch waits for the engine call of its request. -/
theorem isCallOf (h : Orderly e) (hawaits : e.Awaits t request c tracked) :
    e.IsCallOf c request := by
  obtain ⟨purpose, blank, hwork⟩ := hawaits
  exact (h.joins t request purpose _ c tracked hwork).2

/-- A dispatch waits for an engine call. -/
theorem isCall (h : Orderly e) (hawaits : e.Awaits t request c tracked) : e.isCall c = true := by
  obtain ⟨blank, calls, hcalling⟩ := h.isCallOf hawaits
  exact isCall_of_calling hcalling

/-- The call that a dispatch waits for is a task of the exchange. -/
theorem lt (h : Orderly e) (hawaits : e.Awaits t request c tracked) : c < e.tasks.length :=
  lt_of_isCall (h.isCall hawaits)

/-- What is tracked is an engine call. -/
theorem isCall_of_tracked (h : Orderly e) (htracked : e.Tracked c) : e.isCall c = true := by
  obtain ⟨id, hentry⟩ := htracked
  obtain ⟨-, t, request, -, hawaits⟩ := h.entries id c hentry
  exact h.isCall hawaits

/-- The table of an orderly exchange is sound. -/
theorem tableSound (h : Orderly e) : TableSound e where
  entries id c hentry := by
    obtain ⟨hzero, t, request, hid, hawaits⟩ := h.entries id c hentry
    exact ⟨hzero, t, request, hid, hawaits, h.isCallOf hawaits⟩
  nodup := h.nodup
  alone := h.alone
  idle hnone := by
    -- The dispatch of an entry is still in progress.
    cases hrunning : e.dispatcher.running with
    | nil => rw [Dispatcher.inProgress, hrunning, List.length_nil]
    | cons entry rest =>
      have hentry : (entry.1, entry.2) ∈ e.dispatcher.running := by
        rw [hrunning]
        exact List.mem_cons_self
      obtain ⟨-, t, request, -, hawaits⟩ := h.entries entry.1 entry.2 hentry
      have hdispatches := hawaits.dispatches
      rw [hnone t] at hdispatches
      cases hdispatches

/-- An event that forwards no request keeps order when it tells no dispatch to stop and the
dispatches of the entries that are left go on waiting. -/
theorem of_spares {reach : Reach} (h : Orderly e) (hspares : Spares u reach e e')
    (hstops : ∀ t, reach.stops t → e'.dispatches t = false)
    (hcalls : ∀ c request, e.IsCallOf c request → e'.IsCallOf c request)
    (hwaits : ∀ c t request, (request.requestId, c) ∈ e'.dispatcher.running →
      e.Awaits t request c true → e'.Awaits t request c true) : Orderly e' :=
  -- Who waits now has waited before.
  have hbefore : ∀ t request purpose job c tracked,
      e'.work? t = some (.handler { request, purpose, phase := .joining job c tracked }) →
      e.work? t = some (.handler { request, purpose, phase := .joining job c tracked }) := by
    intro t request purpose job c tracked hwork
    rcases hspares.dispatch t _ hwork rfl with hold | ⟨-, request', purpose', hnew⟩
    · exact hold
    · cases hnew
  { heeded := by
      intro t hdispatches
      obtain ⟨work, hwork, hnow⟩ := (Option.any_eq_true _ _).1 hdispatches
      refine Bool.eq_false_iff.2 fun haborting => ?_
      rcases hspares.aborting t haborting with hold | hstop
      · rcases hspares.dispatch t work hwork hnow with hsame | ⟨hle, -⟩
        · have hfree := h.heeded t ((dispatches_of_work? hsame).trans hnow)
          rw [hold] at hfree
          cases hfree
        · exact Nat.not_lt_of_le hle (lt_of_aborting hold)
      · rw [hstops t hstop] at hdispatches
        cases hdispatches
    joins := by
      intro t request purpose job c tracked hwork
      obtain ⟨hid, hcall⟩ :=
        h.joins t request purpose job c tracked (hbefore t request purpose job c tracked hwork)
      exact ⟨hid, hcalls c request hcall⟩
    alone := by
      rintro t u request request' c tracked tracked' ⟨purpose, blank, hwork⟩
        ⟨purpose', blank', hwork'⟩
      exact h.alone t u request request' c tracked tracked'
        ⟨purpose, blank, hbefore _ _ _ _ _ _ hwork⟩ ⟨purpose', blank', hbefore _ _ _ _ _ _ hwork'⟩
    entries := by
      intro id c hentry
      obtain ⟨hzero, t, request, rfl, hawaits⟩ := h.entries id c (hspares.running.subset hentry)
      exact ⟨hzero, t, request, rfl, hwaits c t request hentry hawaits⟩
    nodup := h.nodup.sublist (hspares.running.map Prod.fst) }

/-- A handler that forwards its request keeps order: its call is new, and it is tracked under
an id that was free. -/
theorem forward {handler : Handler} {job : Dispatcher.Job} (h : Orderly e)
    (hwork : e.work? t = some (.handler handler)) (hphase : handler.phase = .starting)
    (haccept : e.dispatcher.accept handler.request = .ok job)
    (hstep : e.happen (.step t) = e.forward t handler job) :
    Orderly (e.forward t handler job) := by
  have hid := Dispatcher.id_of_accept haccept
  have hnew : e.tasks.length ≠ t := Ne.symm (Nat.ne_of_lt (lt_of_work? hwork))
  have hbegins : e.dispatches t = true := by
    obtain ⟨request, purpose, phase⟩ := handler
    obtain rfl : phase = .starting := hphase
    exact dispatches_of_work? hwork
  have hnot : ∀ request c tracked, ¬ e.Awaits t request c tracked := by
    rintro request c tracked ⟨purpose, blank, hjoining⟩
    rw [hwork] at hjoining
    cases hjoining
    cases hphase
  exact {
    heeded := by
      intro u hdispatches
      rw [aborting_forward]
      obtain ⟨work, hnow, hlive⟩ := (Option.any_eq_true _ _).1 hdispatches
      rcases work?_of_forward hwork hnow hlive with ⟨rfl, -⟩ | ⟨-, hold⟩
      · exact h.heeded u hbegins
      · exact h.heeded u ((dispatches_of_work? hold).trans hlive)
    joins := by
      intro u request purpose job' c tracked hnow
      rcases work?_of_forward hwork hnow rfl with ⟨rfl, heq⟩ | ⟨-, hold⟩
      · cases heq
        refine ⟨hid, job.blank, [], ?_⟩
        rw [work?_forward job hwork, if_neg hnew, if_pos rfl]
        exact .starting rfl
      · obtain ⟨hsame, hcall⟩ := h.joins u request purpose job' c tracked hold
        exact ⟨hsame, hstep ▸ hcall.happen (.step t)⟩
    alone := by
      intro u v request request' c tracked tracked' hu hv
      rcases awaits_forward hwork hu with ⟨rfl, -, rfl, -⟩ | ⟨-, hold⟩
      · rcases awaits_forward hwork hv with ⟨rfl, -⟩ | ⟨-, hold'⟩
        · rfl
        · exact absurd (h.lt hold') (Nat.lt_irrefl _)
      · rcases awaits_forward hwork hv with ⟨rfl, -, rfl, -⟩ | ⟨-, hold'⟩
        · exact absurd (h.lt hold) (Nat.lt_irrefl _)
        · exact h.alone u v request request' c tracked tracked' hold hold'
    entries := by
      intro id c hentry
      rcases mem_running_forward hentry with hold | ⟨heq, htracked⟩
      · obtain ⟨hzero, u, request, hrequest, hawaits⟩ := h.entries id c hold
        have hut : u ≠ t := by
          rintro rfl
          exact hnot request c true hawaits
        exact ⟨hzero, u, request, hrequest, awaits_of_ne hwork hut hawaits⟩
      · cases heq
        obtain ⟨hzero, -⟩ := Dispatcher.track_eq_true.1 htracked
        refine ⟨hzero, t, handler.request, hid.symm, handler.purpose, job.blank, ?_⟩
        rw [work?_forward job hwork, if_pos rfl, htracked, ← hid]
    nodup := by
      rw [running_forward]
      split
      next htracked =>
        obtain ⟨-, hfree⟩ := Dispatcher.track_eq_true.1 htracked
        exact nodup_append_of_lookup e.tasks.length h.nodup hfree
      next => exact h.nodup }

/-- A dispatch whose entry is left goes on waiting. -/
theorem awaits_happen (h : Orderly e) (hawaits : e.Awaits t request c true)
    (hentry : (request.requestId, c) ∈ (e.happen event).dispatcher.running) :
    (e.happen event).Awaits t request c true := by
  have hfree := h.heeded t hawaits.dispatches
  have hlt := lt_of_dispatches hawaits.dispatches
  obtain ⟨purpose, blank, hwork⟩ := hawaits
  by_cases hself : event = .step t
  · subst hself
    rcases step_of_joining hwork hfree with hsame | ⟨-, hgone⟩
    · refine ⟨purpose, blank, ?_⟩
      rwa [Exchange.happen, hsame]
    · exact absurd hentry (hgone rfl)
  · refine ⟨purpose, blank, ?_⟩
    rwa [work?_happen_of_ne hself hlt]

/-- Order is kept by every event that tells no dispatch to stop. -/
theorem happen (h : Orderly e) (hdriven : ∀ t, event = .abort t → e.dispatches t = false) :
    Orderly (e.happen event) := by
  rcases happen_cases e event with ⟨engine, hspares⟩ |
    ⟨t, handler, job, rfl, hwork, hphase, haccept, hstep⟩
  · have hengine : Orderly { e with engine } :=
      ⟨h.heeded, h.joins, h.alone, h.entries, h.nodup⟩
    apply hengine.of_spares hspares
    · intro t hstop
      cases event with
      | step s =>
        obtain ⟨id, -, hlookup⟩ := hstop
        have hcall := h.isCall_of_tracked ⟨id, mem_of_lookup hlookup⟩
        exact not_dispatches_of_isCall (isCall_step hcall)
      | abort v =>
        cases hstop
        rw [dispatches, Exchange.happen, work?_abort]
        exact hdriven _ rfl
      | _ => cases hstop
    · intro c request hcall
      have hbefore : e.IsCallOf c request := hcall
      exact hbefore.happen event
    · exact fun c t request hentry hawaits => h.awaits_happen hawaits hentry
  · rw [hstep]
    exact h.forward hwork hphase haccept hstep

/-- A fresh exchange is orderly. -/
theorem of_fresh (h : Fresh e) : Orderly e := by
  have hnone : ∀ t, e.work? t = none := by
    intro t
    rw [work?, h.tasks, List.getElem?_nil, Option.map_none]
  constructor
  · intro t hdispatches
    rw [dispatches, hnone t] at hdispatches
    cases hdispatches
  · intro t request purpose job c tracked hwork
    rw [hnone t] at hwork
    cases hwork
  · rintro t u request request' c tracked tracked' ⟨purpose, blank, hwork⟩
    rw [hnone t] at hwork
    cases hwork
  · intro id c hentry
    rw [h.running] at hentry
    cases hentry
  · rw [h.running]
    exact List.nodup_nil

/-- An exchange stays orderly while its dispatches are driven. -/
theorem follow {events : List Event} (h : Orderly e) (hdriven : Driven e events) :
    Orderly (e.follow events) := by
  induction events generalizing e with
  | nil => exact h
  | cons event events ih =>
    obtain ⟨hfirst, hrest⟩ := hdriven
    exact ih (h.happen hfirst) hrest

/-! ### What an event does to the table -/

/-- A cancel request takes its target out and tells the call to stop that was tracked. -/
theorem step_of_cancels (h : Orderly e) (hcancels : e.Cancels t id)
    (hlookup : e.dispatcher.running.lookup id = some u) :
    (e.step t).1.dispatcher.running.lookup id = none ∧
      ((e.step t).1.aborting u = true ∨ ∃ result, e.work? u = some (.ended result)) := by
  have hfree := h.heeded t hcancels.dispatches
  obtain ⟨request, purpose, job, hwork, haccept, hroute, htarget⟩ := hcancels
  let freed : Exchange :=
    { e with dispatcher :=
      { e.dispatcher with running := e.dispatcher.running.filter (·.1 != id) } }
  obtain ⟨reply, hstep⟩ : ∃ reply,
      (e.step t).1 = ((freed.abort u).conclude t { request, purpose } reply).1 := by
    rw [step_of_work? hwork hfree]
    simp only [stepHandler, haccept, hroute, Dispatcher.cancelRunning, htarget, hlookup]
    exact ⟨_, rfl⟩
  have hspares : Spares t (e.reach t) (freed.abort u) (e.step t).1 := by
    rw [hstep]
    exact spares_conclude _ _
  constructor
  · apply lookup_of_not_mem
    intro hmem
    obtain ⟨entry, hentry, hid⟩ := List.mem_map.1 hmem
    have habort : (freed.abort u).dispatcher.running = freed.dispatcher.running :=
      congrArg (fun parts => parts.dispatcher.running) (parts_abort freed u)
    have hleft := hspares.running.subset hentry
    rw [habort] at hleft
    have hne := (List.mem_filter.1 hleft).2
    simp [hid] at hne
  · obtain ⟨work, hcall, -⟩ :=
      (Option.any_eq_true _ _).1 (h.isCall_of_tracked ⟨id, mem_of_lookup hlookup⟩)
    by_cases hended : ∃ result, work = .ended result
    · obtain ⟨result, rfl⟩ := hended
      exact Or.inr ⟨result, hcall⟩
    · left
      exact hspares.told u (aborting_abort_self hcall fun result heq => hended ⟨result, heq⟩)

/-- An entry goes when its dispatch goes on, or by a cancel request. -/
theorem removes (h : Orderly e) (event : Event) (hentry : (id, c) ∈ e.dispatcher.running)
    (hgone : (id, c) ∉ (e.happen event).dispatcher.running) :
    ∃ t, event = .step t ∧ (e.Cancels t id ∨
      ∃ request, request.requestId = id ∧ e.Awaits t request c true ∧
        (e.happen event).dispatches t = false) := by
  rcases happen_cases e event with ⟨engine, hspares⟩ | ⟨t, handler, job, rfl, -, -, -, hstep⟩
  · have hdrop := (hspares.kept (id, c) hentry).resolve_left hgone
    cases event with
    | step t =>
      refine ⟨t, rfl, hdrop.imp_right ?_⟩
      rintro ⟨request, purpose, ⟨number, blank⟩, hid, hwork⟩
      obtain ⟨hnumber, -⟩ := h.joins t request purpose _ c true hwork
      obtain rfl : number = request.requestId := hnumber
      obtain rfl : id = request.requestId := hid
      have hawaits : e.Awaits t request c true := ⟨purpose, blank, hwork⟩
      refine ⟨request, rfl, hawaits, ?_⟩
      rcases step_of_joining hwork (h.heeded t hawaits.dispatches) with hsame | ⟨hdone, -⟩
      · rw [Exchange.happen, hsame] at hgone
        exact absurd hentry hgone
      · exact hdone
    | _ => exact hdrop.elim
  · -- A dispatch that begins to wait takes nothing out.
    rw [hstep, running_forward] at hgone
    split at hgone
    · exact absurd (List.mem_append_left _ hentry) hgone
    · exact absurd hentry hgone

/-- The table of an orderly exchange is kept by whatever happens. -/
theorem tableKept (h : Orderly e) (event : Event) : TableKept e event where
  begins _ _ _ _ hnow := awaits_of_happen e event hnow
  removes _ _ hentry hgone := h.removes event hentry hgone
  stops _ hnow := aborting_of_happen e event hnow
  single u v hu hnow hv hnow' := by
    rcases stops_of_happen hu hnow with rfl | ⟨t, id, rfl, hcancels, hlookup⟩
    · rcases stops_of_happen hv hnow' with heq | ⟨t, id, heq, -⟩
      · cases heq
        rfl
      · cases heq
    · rcases stops_of_happen hv hnow' with heq | ⟨t', id', heq, hcancels', hlookup'⟩
      · cases heq
      · cases heq
        rw [hcancels.unique hcancels', hlookup'] at hlookup
        exact (Option.some.inj hlookup).symm
  cancelled t id u hevent hcancels hlookup := by
    subst hevent
    exact h.step_of_cancels hcancels hlookup
  spared t request u hawaits hne := by
    cases hold : e.aborting u with
    | true => exact aborting_happen e event hold
    | false =>
      refine Bool.eq_false_iff.2 fun hnow => ?_
      rcases stops_of_happen hold hnow with habort | ⟨s, id, -, -, hlookup⟩
      · exact hne habort
      · -- What is tracked is the call of a dispatch that tracks it, and there is no other.
        obtain ⟨-, t', request', -, htracked⟩ := h.entries id u (mem_of_lookup hlookup)
        obtain rfl := h.alone t t' request request' u false true hawaits htracked
        obtain ⟨-, -, hfalse⟩ := hawaits.unique htracked
        cases hfalse

end Orderly

/-- In every course of an exchange whose dispatches are left to come to their replies, the
table of running calls is at every moment about dispatches that wait for their calls, and
whatever happens next takes out of it and tells to stop only what it should. -/
theorem table_of_driven (e : Exchange) (hfresh : Fresh e) (events : List Event)
    (hdriven : Driven e events) :
    TableSound (e.follow events) ∧ ∀ event, TableKept (e.follow events) event :=
  have hordered : Orderly (e.follow events) := (Orderly.of_fresh hfresh).follow hdriven
  ⟨hordered.tableSound, hordered.tableKept⟩

/-- A request to describe a domain. -/
def describing (id : Int64) : Message :=
  (Message.request .describeDomain).setRequestId id

/-- A request to cancel another one. -/
def cancelling (id target : Int64) : Message :=
  let request := (Message.request .cancel).setRequestId id
  { request with bag := request.bag.setInt64 Key.targetRequestId target }

/-- Task 0 waits for its call, which is cancelled by task 2.  Before task 0 goes on, task 3
takes over the id; the entry of its call, task 4, is left alone.  Task 2 is stopped when it
has come to its reply. -/
def takenOver : List Event :=
  [.start (.handler (describing 40) .reply), .step 0,
    .start (.handler (cancelling 41 40) .reply), .step 2,
    .start (.handler (describing 40) .reply), .step 3, .step 1, .step 0, .abort 2]

/-- A second call takes over the id that a first one had, and the table is about the second. -/
theorem table_of_driven_takenOver :
    Fresh idle ∧ Driven idle takenOver ∧
      (idle.follow takenOver).dispatcher.running = [(40, 4)] ∧
      TableSound (idle.follow takenOver) ∧ ∀ event, TableKept (idle.follow takenOver) event :=
  have hfresh : Fresh idle := ⟨rfl, rfl⟩
  have hdriven : Driven idle takenOver := by
    refine ⟨nofun, nofun, nofun, nofun, nofun, nofun, nofun, nofun, ?_, trivial⟩
    intro t heq
    cases heq
    decide +kernel
  have hrunning : (idle.follow takenOver).dispatcher.running = [(40, 4)] := by decide +kernel
  ⟨hfresh, hdriven, hrunning, table_of_driven idle hfresh takenOver hdriven⟩

end Parley.Exchange
