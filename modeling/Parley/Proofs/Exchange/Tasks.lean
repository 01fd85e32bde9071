/-
# What one step can do

A step of a task changes what that task is at and may add tasks behind all others.  It
may tell another task to stop, but only one that the dispatcher tracks.  Two steps do
more than that: a handler forwards a request, so that one more call may be tracked, and
an engine call calls the engine.  Everything that holds along a course rests on these
three cases.
-/

import Parley.Exchange.Tracking
import Parley.Proofs.Association
import Parley.Proofs.Dispatcher
import Parley.Proofs.Exchange.Parts

namespace Parley.Exchange

variable {e e' e'' : Exchange} {t u : TaskId}

/-- Whether a task was told to stop. -/
def aborting (e : Exchange) (t : TaskId) : Bool :=
  (e.tasks[t]?).any Task.aborting

/-- The dispatcher tracks a task as a call that can be cancelled. -/
def Tracked (e : Exchange) (t : TaskId) : Prop :=
  ∃ id, (id, t) ∈ e.dispatcher.running

/-- What tasks are at when the work of one has been set. -/
theorem work?_of_modify {work : Work}
    (h : e'.tasks = e.tasks.modify t fun task => { task with work }) (u : TaskId) :
    e'.work? u = if u = t then (e.work? t).map fun _ => work else e.work? u := by
  rw [work?, h, List.getElem?_modify]
  by_cases hut : u = t
  · subst hut
    simp [work?, Function.comp_def]
  · simp [hut, Ne.symm hut, work?]

/-- A task that goes on is at its new work, and all others are where they were. -/
theorem work?_setWork (e : Exchange) (t : TaskId) (work : Work) (u : TaskId) :
    (e.setWork t work).work? u = if u = t then (e.work? t).map fun _ => work else e.work? u :=
  work?_of_modify rfl u

/-- A task that ends has its result, and all others are where they were. -/
theorem work?_finish (e : Exchange) (t : TaskId) (result : Ended) (u : TaskId) :
    (e.finish t result).work? u =
      if u = t then (e.work? t).map fun _ => .ended result else e.work? u :=
  work?_of_modify (tasks_finish e t result) u

@[simp]
theorem work?_setLink (e : Exchange) (link : Link) (u : TaskId) :
    (e.setLink link).work? u = e.work? u := rfl

@[simp]
theorem work?_setCorrelator (e : Exchange) (c : Correlator) (u : TaskId) :
    (e.setCorrelator c).work? u = e.work? u := rfl

/-- Whether a task was told to stop is not changed by its going on. -/
theorem aborting_of_modify {work : Work}
    (h : e'.tasks = e.tasks.modify t fun task => { task with work }) (u : TaskId) :
    e'.aborting u = e.aborting u := by
  rw [aborting, aborting, h, List.getElem?_modify]
  cases htask : e.tasks[u]? with
  | none => simp
  | some task => by_cases htu : t = u <;> simp [htu]

/-- What tasks are at when one was added. -/
theorem work?_of_append {work : Work} (h : e'.tasks = e.tasks ++ [{ work := work }]) (u : TaskId) :
    e'.work? u = if u = e.tasks.length then some work else e.work? u := by
  rw [work?, h]
  by_cases hu : u = e.tasks.length
  · subst hu
    simp
  · rw [if_neg hu, work?]
    by_cases hlt : u < e.tasks.length
    · rw [List.getElem?_append_left hlt]
    · have hle : e.tasks.length ≤ u := Nat.le_of_not_lt hlt
      have hlt : e.tasks.length < u := Nat.lt_of_le_of_ne hle (Ne.symm hu)
      have hlast : (e.tasks ++ [({ work := work } : Task)]).length ≤ u := by
        rw [List.length_append]
        exact hlt
      rw [List.getElem?_eq_none hle, List.getElem?_eq_none hlast]

/-- A new task has not been told to stop. -/
theorem aborting_of_append {work : Work} (h : e'.tasks = e.tasks ++ [{ work := work }])
    (u : TaskId) :
    e'.aborting u = e.aborting u := by
  rw [aborting, aborting, h]
  by_cases hlt : u < e.tasks.length
  · rw [List.getElem?_append_left hlt]
  · have hle : e.tasks.length ≤ u := Nat.le_of_not_lt hlt
    rw [List.getElem?_append_right hle, List.getElem?_eq_none hle]
    cases hlast : ([{ work := work }] : List Task)[u - e.tasks.length]? with
    | none => rfl
    | some task =>
      obtain rfl := List.mem_singleton.1 (List.mem_of_getElem? hlast)
      rfl

/-- Telling a task to stop changes what no task is at. -/
@[simp]
theorem work?_abort (e : Exchange) (v u : TaskId) : (e.abort v).work? u = e.work? u := by
  unfold abort
  split
  · rfl
  · rfl
  · simp only [work?, List.getElem?_modify]
    cases e.tasks[u]? with
    | none => rfl
    | some task => by_cases hvu : v = u <;> simp [hvu]

@[simp]
theorem length_abort (e : Exchange) (v : TaskId) : (e.abort v).tasks.length = e.tasks.length := by
  unfold abort
  split <;> simp

/-- Only the task that is told to stop is told so. -/
theorem aborting_abort {v : TaskId} (h : (e.abort v).aborting u = true) :
    e.aborting u = true ∨ u = v := by
  unfold abort at h
  split at h
  · exact Or.inl h
  · exact Or.inl h
  · rw [aborting, List.getElem?_modify] at h
    by_cases hvu : v = u
    · exact Or.inr hvu.symm
    · left
      rw [aborting]
      cases htask : e.tasks[u]? with
      | none => simp [htask] at h
      | some task => simpa [htask, hvu] using h

/-- Who was told to stop stays so. -/
theorem aborting_abort_of_aborting (v : TaskId) (h : e.aborting u = true) :
    (e.abort v).aborting u = true := by
  unfold abort
  split
  · exact h
  · exact h
  · rw [aborting, List.getElem?_modify]
    rw [aborting] at h
    by_cases hvu : v = u
    · cases htask : e.tasks[u]? with
      | none => simp [htask] at h
      | some task => simp [hvu]
    · simpa [hvu] using h

/-- A task that has not ended is told to stop. -/
theorem aborting_abort_self {work : Work} (hwork : e.work? u = some work)
    (hlive : ∀ result, work ≠ .ended result) : (e.abort u).aborting u = true := by
  obtain ⟨task, htask, -⟩ := Option.map_eq_some_iff.1 hwork
  unfold abort
  split
  next hnone =>
    rw [hwork] at hnone
    cases hnone
  next result hended =>
    rw [hwork] at hended
    cases hended
    exact absurd rfl (hlive result)
  next => simp [aborting, htask]

/-! ### Steps that concern one task -/

/-- What a step may do beyond the task whose step it is. -/
structure Reach where
  /-- The tasks that it may tell to stop. -/
  stops : TaskId → Prop
  /-- The entries that it may take out of the table of running calls. -/
  drops : Int64 × TaskId → Prop

/-- What the next step of a task may do beyond it.  A cancel request stops the call that is
tracked under the id it is about, and drops that id.  A handler whose call has ended drops
its own entry. -/
def reach (e : Exchange) (t : TaskId) : Reach where
  stops u := ∃ id, e.Cancels t id ∧ e.dispatcher.running.lookup id = some u
  drops entry := e.Cancels t entry.1 ∨
    ∃ request purpose job, entry.1 = job.id ∧
      e.work? t = some (.handler { request, purpose, phase := .joining job entry.2 true })

variable {reach : Reach}

/-- The task `t` may be at something else now and tasks may have been added.  No dispatch
has come further without coming to its reply, and none has been added that has come
further than to its start.  The only tasks that were told to stop since, and the only
calls that are not tracked any more, are those that `reach` allows.  The engine was not
called, and no more calls are tracked. -/
structure Spares (t : TaskId) (reach : Reach) (e e' : Exchange) : Prop where
  length_le : e.tasks.length ≤ e'.tasks.length
  work : ∀ u, u ≠ t → u < e.tasks.length → e'.work? u = e.work? u
  dispatch : ∀ u work, e'.work? u = some work → work.dispatches = true →
    e.work? u = some work ∨
      e.tasks.length ≤ u ∧ ∃ request purpose, work = .handler { request, purpose }
  aborting : ∀ u, e'.aborting u = true → e.aborting u = true ∨ reach.stops u
  told : ∀ u, e.aborting u = true → e'.aborting u = true
  engine : e'.engine = e.engine
  codec : e'.dispatcher.codec = e.dispatcher.codec
  running : e'.dispatcher.running.Sublist e.dispatcher.running
  kept : ∀ entry ∈ e.dispatcher.running, entry ∈ e'.dispatcher.running ∨ reach.drops entry

namespace Spares

/-- What two changes in a row spare is spared. -/
theorem trans (h : Spares t reach e e') (h' : Spares t reach e' e'') : Spares t reach e e'' where
  length_le := Nat.le_trans h.length_le h'.length_le
  work u hu hlt := by
    rw [h'.work u hu (Nat.lt_of_lt_of_le hlt h.length_le), h.work u hu hlt]
  dispatch u work hwork hdispatches := by
    rcases h'.dispatch u work hwork hdispatches with hmid | ⟨hle, hstarts⟩
    · exact h.dispatch u work hmid hdispatches
    · exact Or.inr ⟨Nat.le_trans h.length_le hle, hstarts⟩
  aborting u hu := by
    rcases h'.aborting u hu with hmid | hstop
    · exact h.aborting u hmid
    · exact Or.inr hstop
  told u hu := h'.told u (h.told u hu)
  engine := h'.engine.trans h.engine
  codec := h'.codec.trans h.codec
  running := h'.running.trans h.running
  kept entry hentry := by
    rcases h.kept entry hentry with hmid | hdrop
    · exact h'.kept entry hmid
    · exact Or.inr hdrop

/-- The dispatcher may drop entries that are within reach. -/
theorem of_dispatcher {d : Dispatcher} (hcodec : d.codec = e.dispatcher.codec)
    (hrunning : d.running.Sublist e.dispatcher.running)
    (hkept : ∀ entry ∈ e.dispatcher.running, entry ∈ d.running ∨ reach.drops entry) :
    Spares t reach e { e with dispatcher := d } where
  length_le := Nat.le_refl _
  work _ _ _ := rfl
  dispatch _ _ hwork _ := Or.inl hwork
  aborting _ hu := Or.inl hu
  told _ hu := hu
  engine := rfl
  codec := hcodec
  running := hrunning
  kept := hkept

/-- The tasks are the same, and so is the serving side. -/
theorem of_tasks (htasks : e'.tasks = e.tasks) (hengine : e'.parts.engine = e.parts.engine)
    (hdispatcher : e'.parts.dispatcher = e.parts.dispatcher) : Spares t reach e e' :=
  have hrunning : e'.dispatcher.running = e.dispatcher.running :=
    congrArg Dispatcher.running hdispatcher
  have hwork : ∀ u, e'.work? u = e.work? u := fun u => by rw [work?, work?, htasks]
  have haborting : ∀ u, e'.aborting u = e.aborting u := fun u => by
    rw [Exchange.aborting, Exchange.aborting, htasks]
  { length_le := Nat.le_of_eq (congrArg List.length htasks.symm)
    work := fun u _ _ => hwork u
    dispatch := fun u _ h _ => Or.inl (hwork u ▸ h)
    aborting := fun u h => Or.inl (haborting u ▸ h)
    told := fun u h => (haborting u).trans h
    engine := hengine
    codec := congrArg Dispatcher.codec hdispatcher
    running := hrunning ▸ List.Sublist.refl _
    kept := fun _ h => Or.inl (hrunning ▸ h) }

/-- A change of neither the tasks nor the parts spares everything. -/
theorem of_parts_eq (htasks : e'.tasks = e.tasks) (hparts : e'.parts = e.parts) :
    Spares t reach e e' :=
  of_tasks htasks (congrArg Parts.engine hparts) (congrArg Parts.dispatcher hparts)

/-- What does not change is spared. -/
theorem refl (e : Exchange) : Spares t reach e e :=
  of_parts_eq rfl rfl

/-- The task is at something else, which is no dispatch in progress. -/
theorem of_modify {work : Work}
    (htasks : e'.tasks = e.tasks.modify t fun task => { task with work })
    (hengine : e'.parts.engine = e.parts.engine)
    (hdispatcher : e'.parts.dispatcher = e.parts.dispatcher)
    (hdispatches : work.dispatches = false) : Spares t reach e e' :=
  have hrunning : e'.dispatcher.running = e.dispatcher.running :=
    congrArg Dispatcher.running hdispatcher
  { length_le := Nat.le_of_eq (by rw [htasks, List.length_modify])
    work := fun u hu _ => by rw [work?_of_modify htasks, if_neg hu]
    dispatch := fun u now hwork hnow => by
      rw [work?_of_modify htasks] at hwork
      by_cases hut : u = t
      · rw [if_pos hut, Option.map_eq_some_iff] at hwork
        obtain ⟨-, -, rfl⟩ := hwork
        rw [hdispatches] at hnow
        cases hnow
      · rw [if_neg hut] at hwork
        exact Or.inl hwork
    aborting := fun u hu => Or.inl (aborting_of_modify htasks u ▸ hu)
    told := fun u hu => (aborting_of_modify htasks u).trans hu
    engine := hengine
    codec := congrArg Dispatcher.codec hdispatcher
    running := hrunning ▸ List.Sublist.refl _
    kept := fun _ hentry => Or.inl (hrunning ▸ hentry) }

/-- A task within reach may be told to stop. -/
theorem of_abort {v : TaskId} (h : reach.stops v) : Spares t reach e (e.abort v) :=
  have hrunning : (e.abort v).dispatcher.running = e.dispatcher.running :=
    congrArg (fun parts => parts.dispatcher.running) (parts_abort e v)
  { length_le := Nat.le_of_eq (length_abort e v).symm
    work := fun u _ _ => work?_abort e v u
    dispatch := fun u _ hwork _ => Or.inl (work?_abort e v u ▸ hwork)
    aborting := fun u hu => (aborting_abort hu).imp_right fun huv => by rwa [huv]
    told := fun u hu => aborting_abort_of_aborting v hu
    engine := congrArg Parts.engine (parts_abort e v)
    codec := congrArg (fun parts => parts.dispatcher.codec) (parts_abort e v)
    running := hrunning ▸ List.Sublist.refl _
    kept := fun _ hentry => Or.inl (hrunning ▸ hentry) }

/-- The task may go on with work that is no dispatch. -/
theorem setWork (h : Spares t reach e e') (work : Work) (hdispatches : work.dispatches = false) :
    Spares t reach e (e'.setWork t work) :=
  h.trans (of_modify rfl rfl rfl hdispatches)

/-- The task may end. -/
theorem finish (h : Spares t reach e e') (result : Ended) :
    Spares t reach e (e'.finish t result) := by
  have hparts := parts_finish e' t result
  exact h.trans (of_modify (tasks_finish e' t result) (by rw [hparts]) (by rw [hparts]) rfl)

/-- The correlator may change. -/
theorem setCorrelator (h : Spares t reach e e') (c : Correlator) :
    Spares t reach e (e'.setCorrelator c) := by
  have hparts := parts_setCorrelator e' c
  exact h.trans (of_tasks rfl (by rw [hparts]) (by rw [hparts]))

/-- The dispatcher may be shut down. -/
theorem setShutdown (h : Spares t reach e e') : Spares t reach e e'.setShutdown := by
  have hparts := parts_setShutdown e'
  have hdispatcher : Spares t reach e'
      { e' with dispatcher := { e'.dispatcher with shutdown := true } } :=
    of_dispatcher rfl (List.Sublist.refl _) fun _ hentry => Or.inl hentry
  exact (h.trans hdispatcher).trans (of_tasks rfl (by rw [hparts]; rfl) (by rw [hparts]; rfl))

/-- A task was added, and if it is a dispatch then one that starts. -/
theorem spawn (h : Spares t reach e e') (work : Work)
    (hstarts : work.dispatches = true →
      ∃ request purpose, work = .handler { request, purpose }) :
    Spares t reach e (e'.spawn work).2 := by
  have hparts := parts_spawn e' work
  have htasks := tasks_spawn e' work
  have hspawn : Spares t reach e' (e'.spawn work).2 := {
    length_le := by
      rw [tasks_spawn, List.length_append]
      exact Nat.le_add_right _ _
    work := fun u _ hlt => by rw [work?_of_append htasks, if_neg (Nat.ne_of_lt hlt)]
    dispatch := fun u now hwork hnow => by
      rw [work?_of_append htasks] at hwork
      by_cases hu : u = e'.tasks.length
      · rw [if_pos hu, Option.some.injEq] at hwork
        subst hwork
        exact Or.inr ⟨Nat.le_of_eq hu.symm, hstarts hnow⟩
      · rw [if_neg hu] at hwork
        exact Or.inl hwork
    aborting := fun u hu => Or.inl (aborting_of_append htasks u ▸ hu)
    told := fun u hu => (aborting_of_append htasks u).trans hu
    engine := congrArg Parts.engine hparts
    codec := congrArg (fun parts => parts.dispatcher.codec) hparts
    running := List.Sublist.refl _
    kept := fun _ hentry => Or.inl hentry }
  exact h.trans hspawn

/-- Something may arrive. -/
theorem arrive (e : Exchange) (source : Source) :
    Spares t reach e (e.arrive source).2.2 :=
  of_parts_eq (tasks_arrive e source) (parts_arrive e source)

/-- The task may send. -/
theorem transmit (e : Exchange) (sink : Sink) (bytes : Frame.Bytes) :
    Spares t reach e (e.transmit t sink bytes).2 :=
  of_parts_eq (tasks_transmit e t sink bytes) (parts_transmit e t sink bytes)

end Spares

/-- A step of a caller spares all other tasks and the table. -/
theorem spares_stepCaller (c : Caller) : Spares t reach e (e.stepCaller t c).1 := by
  cases c with
  | starting request timeout aim =>
    simp only [stepCaller]
    split
    · exact ((Spares.refl e).setCorrelator _).finish _
    · exact ((Spares.refl e).setCorrelator _).setWork _ rfl
  | transmitting request handle rest aim =>
    have htransmit : Spares t reach e (e.transmit t e.outlet rest).2 :=
      Spares.transmit e e.outlet rest
    simp only [stepCaller]
    split
    next rest' after heq =>
      rw [heq] at htransmit
      exact htransmit.setWork _ rfl
    next fault after heq =>
      rw [heq] at htransmit
      exact (htransmit.setCorrelator _).finish _
    next after heq =>
      rw [heq] at htransmit
      cases aim with
      | handle => exact htransmit.finish _
      | reply => exact htransmit.setWork _ rfl
      | answer call => exact htransmit.setWork _ rfl
  | waiting handle aim =>
    simp only [stepCaller]
    split
    · exact ((Spares.refl e).setCorrelator _).finish _
    · split
      · exact Spares.refl e
      · split
        · exact Spares.refl e
        · exact Spares.of_parts_eq (tasks_sleep e t _) (parts_sleep e t _)

/-- A step of a receiver spares all other tasks and the table. -/
theorem spares_stepReceiver (r : Receiver) : Spares t reach e (e.stepReceiver t r).1 := by
  have hend : ∀ e : Exchange, Spares t reach e (e.endReceiver t) :=
    fun e => ((Spares.refl e).setCorrelator _).finish _
  simp only [stepReceiver]
  split
  · exact hend e
  · have harrive : Spares t reach e
        ((e.arrive r.source).2.2.setWork t
          (.receiver { r with source := (e.arrive r.source).2.1 })) :=
      (Spares.arrive e r.source).setWork _ rfl
    split
    · exact harrive
    · exact harrive.setCorrelator _
    · split
      · exact harrive
      · exact harrive.trans (hend _)
    · exact harrive.trans (hend _)

/-- A step of a server spares all other tasks and the table. -/
theorem spares_stepServer (s : Server) : Spares t reach e (e.stepServer t s).1 := by
  simp only [stepServer]
  split
  · exact (Spares.refl e).finish _
  · have harrive : Spares t reach e
        ((e.arrive s.source).2.2.setWork t
          (.server { s with source := (e.arrive s.source).2.1 })) :=
      (Spares.arrive e s.source).setWork _ rfl
    split
    · exact harrive
    · split
      · exact harrive.spawn _ fun _ => ⟨_, _, rfl⟩
      · exact harrive
    · split
      · exact harrive
      · exact harrive.finish _
    · exact harrive.finish _

/-- A step of a peer spares all other tasks and the table. -/
theorem spares_stepPeer (p : Peer) : Spares t reach e (e.stepPeer t p).1 := by
  obtain ⟨source, side, answers, phase⟩ := p
  cases phase with
  | listening =>
    have harrive : Spares t reach e (e.arrive source).2.2 := Spares.arrive e source
    simp only [stepPeer]
    split
    · exact harrive.setWork _ rfl
    · split
      · exact harrive.setWork _ rfl
      · exact harrive.trans (Spares.of_modify rfl rfl rfl rfl)
    · split
      · exact harrive.setWork _ rfl
      · exact harrive.finish _
    · exact harrive.finish _
  | acting id actions =>
    simp only [stepPeer]
    split
    · exact (Spares.refl e).setWork _ rfl
    · exact (Spares.refl e).finish _
    · exact (Spares.refl e).setWork _ rfl
    · split
      · exact (Spares.refl e).setWork _ rfl
      · exact (Spares.refl e).setWork _ rfl
  | transmitting id bytes actions =>
    have htransmit : Spares t reach e (e.transmit t (.link side) bytes).2 :=
      Spares.transmit e (.link side) bytes
    simp only [stepPeer]
    split
    next rest after heq =>
      rw [heq] at htransmit
      exact htransmit.setWork _ rfl
    next attempt after heq =>
      rw [heq] at htransmit
      exact htransmit.setWork _ rfl

/-- The end of a handler that was sending spares all other tasks and the table. -/
theorem spares_endSending (h : Handler) : Spares t reach e (e.endSending t h) := by
  simp only [endSending]
  split
  · exact (Spares.refl e).setShutdown.finish _
  · exact (Spares.refl e).finish _

/-- A handler that comes to its reply spares all other tasks and the table. -/
theorem spares_conclude (h : Handler) (reply : Except Fault Message) :
    Spares t reach e (e.conclude t h reply).1 := by
  obtain ⟨request, purpose, phase⟩ := h
  cases purpose with
  | reply => exact (Spares.refl e).finish _
  | frame =>
    simp only [conclude]
    split
    · exact (Spares.refl e).setShutdown.finish _
    · exact (Spares.refl e).finish _
  | send sink =>
    simp only [conclude]
    split
    · exact (Spares.refl e).setWork _ rfl
    · exact spares_endSending _

/-- A cancel request stops tracking its target, and the call to stop is the one that was
tracked under it. -/
theorem cancelRunning_spares {request : Message} {purpose : Purpose} {job : Dispatcher.Job}
    (hwork : e.work? t = some (.handler { request, purpose }))
    (haccept : e.dispatcher.accept request = .ok job)
    (hroute : Dispatcher.route request.tag = .cancel) :
    Spares t (e.reach t) e
        { e with dispatcher := (e.dispatcher.cancelRunning request job).2.2 } ∧
      ∀ v, (e.dispatcher.cancelRunning request job).2.1 = some v → (e.reach t).stops v := by
  unfold Dispatcher.cancelRunning
  split
  · exact ⟨Spares.refl e, fun v h => by cases h⟩
  next target htarget =>
    have hcancels : e.Cancels t target := ⟨request, purpose, job, hwork, haccept, hroute, htarget⟩
    refine ⟨Spares.of_dispatcher rfl List.filter_sublist fun entry hentry => ?_,
      fun v hv => ⟨target, hcancels, hv⟩⟩
    by_cases hid : entry.1 = target
    · exact Or.inr (Or.inl (hid ▸ hcancels))
    · exact Or.inl (List.mem_filter.2 ⟨hentry, by simpa using hid⟩)

/-- A handler whose call was tracked stops tracking that call alone. -/
theorem untrack_spares {request : Message} {purpose : Purpose} {job : Dispatcher.Job}
    {call : TaskId}
    (hwork : e.work? t =
      some (.handler { request, purpose, phase := .joining job call true })) :
    Spares t (e.reach t) e { e with dispatcher := e.dispatcher.untrack job.id call } := by
  refine Spares.of_dispatcher rfl List.filter_sublist fun entry hentry => ?_
  by_cases heq : entry = (job.id, call)
  · subst heq
    exact Or.inr (Or.inr ⟨request, purpose, job, rfl, hwork⟩)
  · exact Or.inl (List.mem_filter.2 ⟨hentry, by simpa using heq⟩)

/-! ### The three kinds of steps -/

/-- A step of a handler concerns the handler alone, or it forwards the request. -/
theorem stepHandler_cases {h : Handler} (hwork : e.work? t = some (.handler h)) :
    Spares t (e.reach t) e (e.stepHandler t h).1 ∨
    ∃ job, h.phase = .starting ∧ e.dispatcher.accept h.request = .ok job ∧
      Dispatcher.route h.request.tag = .engine ∧ (e.stepHandler t h).1 = e.forward t h job := by
  obtain ⟨request, purpose, phase⟩ := h
  cases phase with
  | starting =>
    cases haccept : e.dispatcher.accept request with
    | error fault =>
      left
      simp only [stepHandler, haccept]
      exact spares_conclude _ _
    | ok job =>
      cases hroute : Dispatcher.route request.tag with
      | acknowledge =>
        left
        simp only [stepHandler, haccept, hroute]
        exact spares_conclude _ _
      | cancel =>
        left
        obtain ⟨hcancel, hvictim⟩ := cancelRunning_spares hwork haccept hroute
        simp only [stepHandler, haccept, hroute]
        cases hv : (e.dispatcher.cancelRunning request job).2.1 with
        | none => exact hcancel.trans (spares_conclude _ _)
        | some v =>
          exact (hcancel.trans (Spares.of_abort (hvictim v hv))).trans (spares_conclude _ _)
      | engine => exact Or.inr ⟨job, rfl, rfl, rfl, by simp only [stepHandler, haccept, hroute]⟩
  | joining job call tracked =>
    left
    have hresume : ∀ ending : Engine.Ending, Spares t (e.reach t) e
        ((if tracked then { e with dispatcher := e.dispatcher.untrack job.id call } else e).conclude
          t ⟨request, purpose, .joining job call tracked⟩
          (job.reply (Dispatcher.outcomeOf ending))).1 := by
      intro ending
      cases tracked with
      | true => exact (untrack_spares hwork).trans (spares_conclude _ _)
      | false => exact spares_conclude _ _
    simp only [stepHandler]
    split
    · exact hresume _
    · exact hresume _
    · exact Spares.refl e
  | transmitting rest =>
    left
    cases purpose with
    | reply => exact spares_endSending _
    | frame => exact spares_endSending _
    | send sink =>
      have htransmit : Spares t (e.reach t) e (e.transmit t sink rest).2 :=
        Spares.transmit e sink rest
      simp only [stepHandler]
      split
      next rest' after heq =>
        rw [heq] at htransmit
        exact htransmit.setWork _ rfl
      next attempt hblocked after heq =>
        rw [heq] at htransmit
        exact htransmit.trans (spares_endSending _)

/-- A step of an engine call concerns that task alone, or it calls the engine. -/
theorem stepEngineCall_cases (e : Exchange) (t : TaskId) (c : EngineCall) :
    Spares t reach e (e.stepEngineCall t c).1 ∨
    ∃ call, c.phase = .starting ∧ Engine.Call.ofRequest c.request = .ok call ∧
      (e.stepEngineCall t c).1 = e.callEngine t c call := by
  obtain ⟨request, blank, phase⟩ := c
  cases phase with
  | starting =>
    cases hcall : Engine.Call.ofRequest request with
    | error error =>
      left
      simp only [stepEngineCall, hcall]
      exact (Spares.refl e).finish _
    | ok call => exact Or.inr ⟨call, rfl, rfl, by simp only [stepEngineCall, hcall]⟩
  | working call outcome =>
    left
    cases outcome with
    | usual => exact (Spares.refl e).finish _
    | ok value => exact (Spares.refl e).finish _
    | error error => exact (Spares.refl e).finish _
    | panic text => exact (Spares.refl e).finish _
    | never => exact Spares.refl e
    | after span next => exact (Spares.refl e).setWork _ rfl
  | sleeping moment call outcome =>
    left
    simp only [stepEngineCall]
    split
    · exact (Spares.refl e).setWork _ rfl
    · exact Spares.of_parts_eq (tasks_sleep e t moment) (parts_sleep e t moment)

/-- Whatever is at some work is a task of the exchange. -/
theorem lt_of_work? {work : Work} (h : e.work? t = some work) : t < e.tasks.length := by
  rw [work?, Option.map_eq_some_iff] at h
  obtain ⟨task, htask, -⟩ := h
  exact (List.getElem?_eq_some_iff.1 htask).1

/-- What tasks are at when a handler has forwarded its request. -/
theorem work?_forward {h : Handler} (job : Dispatcher.Job) (hwork : e.work? t = some (.handler h))
    (u : TaskId) :
    (e.forward t h job).work? u =
      if u = t then
        some (.handler { h with
          phase := .joining job e.tasks.length
            (e.dispatcher.track job.id e.tasks.length).1 })
      else if u = e.tasks.length then
        some (.engineCall { request := h.request, blank := job.blank })
      else e.work? u := by
  have hlt := lt_of_work? hwork
  have hspawn := work?_of_append
    (tasks_spawn e (.engineCall { request := h.request, blank := job.blank }))
  have hset : (e.forward t h job).work? u =
      if u = t then
        ((e.spawn (.engineCall { request := h.request, blank := job.blank })).2.work? t).map
          fun _ => .handler { h with
            phase := .joining job e.tasks.length
              (e.dispatcher.track job.id e.tasks.length).1 }
      else (e.spawn (.engineCall { request := h.request, blank := job.blank })).2.work? u :=
    work?_of_modify rfl u
  rw [hset, hspawn t, if_neg (Nat.ne_of_lt hlt), hwork, hspawn u, Option.map_some]

/-- To forward a request tells nobody to stop. -/
theorem aborting_forward (h : Handler) (job : Dispatcher.Job) (u : TaskId) :
    (e.forward t h job).aborting u = e.aborting u := by
  have hset : (e.forward t h job).aborting u =
      (e.spawn (.engineCall { request := h.request, blank := job.blank })).2.aborting u :=
    aborting_of_modify rfl u
  rw [hset]
  exact aborting_of_append (tasks_spawn e _) u

/-- To forward a request adds one task. -/
theorem length_forward (h : Handler) (job : Dispatcher.Job) :
    (e.forward t h job).tasks.length = e.tasks.length + 1 := by
  simp [forward]

/-- To forward a request tracks the new engine call. -/
theorem dispatcher_forward (h : Handler) (job : Dispatcher.Job) :
    (e.forward t h job).dispatcher = (e.dispatcher.track job.id e.tasks.length).2 := rfl

/-- The call of the job is tracked behind all others, or the table is as it was. -/
theorem running_forward (h : Handler) (job : Dispatcher.Job) :
    (e.forward t h job).dispatcher.running =
      if (e.dispatcher.track job.id e.tasks.length).1 then
        e.dispatcher.running ++ [(job.id, e.tasks.length)]
      else e.dispatcher.running := by
  rw [dispatcher_forward, Dispatcher.running_track]

/-- Only the call of the job can be tracked that was not tracked before. -/
theorem mem_running_forward {h : Handler} {job : Dispatcher.Job} {entry : Int64 × TaskId}
    (hentry : entry ∈ (e.forward t h job).dispatcher.running) :
    entry ∈ e.dispatcher.running ∨
      entry = (job.id, e.tasks.length) ∧
        (e.dispatcher.track job.id e.tasks.length).1 = true := by
  rw [running_forward] at hentry
  split at hentry
  next htracked =>
    rcases List.mem_append.1 hentry with hold | hnew
    · exact Or.inl hold
    · exact Or.inr ⟨List.mem_singleton.1 hnew, htracked⟩
  next => exact Or.inl hentry

/-- To forward a request leaves the codec as it is. -/
theorem codec_forward (h : Handler) (job : Dispatcher.Job) :
    (e.forward t h job).dispatcher.codec = e.dispatcher.codec := by
  rw [dispatcher_forward, Dispatcher.track]
  split <;> rfl

/-- To forward a request does not call the engine, which the new task does. -/
theorem engine_forward (h : Handler) (job : Dispatcher.Job) :
    (e.forward t h job).engine = e.engine := rfl

/-- What tasks are at when the engine has been called. -/
theorem work?_callEngine {c : EngineCall} (call : Engine.Call)
    (hwork : e.work? t = some (.engineCall c)) (u : TaskId) :
    (e.callEngine t c call).work? u =
      if u = t then
        some (.engineCall { c with phase := .working call (e.engine.start call).1 })
      else e.work? u := by
  have hset : (e.callEngine t c call).work? u =
      if u = t then
        (e.work? t).map fun _ =>
          .engineCall { c with phase := .working call (e.engine.start call).1 }
      else e.work? u :=
    work?_of_modify rfl u
  rw [hset, hwork, Option.map_some]

/-- To call the engine tells nobody to stop. -/
theorem aborting_callEngine (c : EngineCall) (call : Engine.Call) (u : TaskId) :
    (e.callEngine t c call).aborting u = e.aborting u :=
  aborting_of_modify rfl u

/-- To call the engine adds no task. -/
theorem length_callEngine (c : EngineCall) (call : Engine.Call) :
    (e.callEngine t c call).tasks.length = e.tasks.length := by
  simp [callEngine]

/-- What a task is at and whether it was told to stop decide its step. -/
theorem step_of_work? {work : Work} (hwork : e.work? t = some work)
    (haborting : e.aborting t = false) :
    e.step t =
      match work with
      | .ended _ => (e, false)
      | .caller c => e.stepCaller t c
      | .receiver r => e.stepReceiver t r
      | .handler h => e.stepHandler t h
      | .engineCall c => e.stepEngineCall t c
      | .server s => e.stepServer t s
      | .peer p => e.stepPeer t p := by
  rw [work?, Option.map_eq_some_iff] at hwork
  obtain ⟨⟨work', flag⟩, htask, rfl⟩ := hwork
  have hflag : flag = false := by
    rw [aborting, htask] at haborting
    exact haborting
  subst hflag
  cases work' <;> simp only [step, htask]

/-- There is no step to take where there is no task. -/
theorem step_of_work?_eq_none (hwork : e.work? t = none) : e.step t = (e, false) := by
  have htask : e.tasks[t]? = none := Option.map_eq_none_iff.1 hwork
  simp only [step, htask]

/-- A task that was told to stop does so, unless it has ended. -/
theorem step_of_aborting {work : Work} (hwork : e.work? t = some work)
    (haborting : e.aborting t = true) :
    ((∃ result, work = .ended result) ∧ e.step t = (e, false)) ∨
    ((∀ result, work ≠ .ended result) ∧ e.step t = ((e.drop t work).finish t .aborted, false)) := by
  rw [work?, Option.map_eq_some_iff] at hwork
  obtain ⟨⟨work', flag⟩, htask, rfl⟩ := hwork
  have hflag : flag = true := by
    rw [aborting, htask] at haborting
    exact haborting
  subst hflag
  cases work' with
  | ended result => exact Or.inl ⟨⟨result, rfl⟩, by simp only [step, htask]⟩
  | _ =>
    right
    refine ⟨fun result h => (by cases h), ?_⟩
    simp only [step, htask]

/-- What a step can do: it concerns the task alone, or a handler forwards its request, or
an engine call calls the engine. -/
theorem step_cases (e : Exchange) (t : TaskId) :
    Spares t (e.reach t) e (e.step t).1 ∨
    (∃ h job, e.work? t = some (.handler h) ∧ h.phase = .starting ∧
      e.dispatcher.accept h.request = .ok job ∧ (e.step t).1 = e.forward t h job) ∨
    ∃ c call, e.work? t = some (.engineCall c) ∧ c.phase = .starting ∧
      Engine.Call.ofRequest c.request = .ok call ∧ (e.step t).1 = e.callEngine t c call := by
  cases hwork : e.work? t with
  | none =>
    left
    rw [step_of_work?_eq_none hwork]
    exact Spares.refl e
  | some work =>
    by_cases haborting : e.aborting t = true
    · left
      rcases step_of_aborting hwork haborting with ⟨-, hstep⟩ | ⟨-, hstep⟩
      · rw [hstep]
        exact Spares.refl e
      · have hdrop : Spares t (e.reach t) e (e.drop t work) := by
          unfold drop
          split
          · exact Spares.of_parts_eq (tasks_leave e t _) (parts_leave e t _)
          · exact (Spares.refl e).setCorrelator _
          · exact Spares.of_parts_eq (tasks_leave e t _) (parts_leave e t _)
          · exact Spares.of_parts_eq (tasks_leave e t _) (parts_leave e t _)
          · exact Spares.refl e
        rw [hstep]
        exact hdrop.finish _
    · rw [step_of_work? hwork (by simpa using haborting)]
      cases work with
      | ended result => exact Or.inl (Spares.refl e)
      | caller c => exact Or.inl (spares_stepCaller c)
      | receiver r => exact Or.inl (spares_stepReceiver r)
      | handler h =>
        rcases stepHandler_cases hwork with hspares | ⟨job, hphase, haccept, -, hstep⟩
        · exact Or.inl hspares
        · exact Or.inr (Or.inl ⟨h, job, rfl, hphase, haccept, hstep⟩)
      | engineCall c =>
        rcases stepEngineCall_cases e t c with hspares | ⟨call, hphase, hcall, hstep⟩
        · exact Or.inl hspares
        · exact Or.inr (Or.inr ⟨c, call, rfl, hphase, hcall, hstep⟩)
      | server s => exact Or.inl (spares_stepServer s)
      | peer p => exact Or.inl (spares_stepPeer p)

/-- A step of another task leaves a task at what it is at. -/
theorem work?_step_of_ne (hut : u ≠ t) (hlt : u < e.tasks.length) :
    (e.step t).1.work? u = e.work? u := by
  rcases step_cases e t with hspares | ⟨handler, job, hhandler, -, -, hstep⟩ |
    ⟨ec, call, hec, -, -, hstep⟩
  · exact hspares.work u hut hlt
  · rw [hstep, work?_forward job hhandler, if_neg hut, if_neg (Nat.ne_of_lt hlt)]
  · rw [hstep, work?_callEngine call hec, if_neg hut]

/-- A step tells only tasks to stop that the dispatcher tracks. -/
theorem aborting_step (h : (e.step t).1.aborting u = true) : e.aborting u = true ∨ e.Tracked u := by
  rcases step_cases e t with hspares | ⟨handler, job, -, -, -, hstep⟩ | ⟨ec, call, -, -, -, hstep⟩
  · rcases hspares.aborting u h with hold | ⟨id, -, hid⟩
    · exact Or.inl hold
    · exact Or.inr ⟨id, mem_of_lookup hid⟩
  · rw [hstep, aborting_forward] at h
    exact Or.inl h
  · rw [hstep, aborting_callEngine] at h
    exact Or.inl h

/-- No step takes a task away. -/
theorem length_le_step (e : Exchange) (t : TaskId) :
    e.tasks.length ≤ (e.step t).1.tasks.length := by
  rcases step_cases e t with hspares | ⟨handler, job, -, -, -, hstep⟩ | ⟨ec, call, -, -, -, hstep⟩
  · exact hspares.length_le
  · rw [hstep, length_forward]
    exact Nat.le_succ _
  · exact Nat.le_of_eq (by rw [hstep, length_callEngine])

/-- An event that is no step changes what no task is at and does not concern the serving
side. -/
theorem spares_happen {event : Event} (hstep : ∀ t, event ≠ .step t) :
    Spares e.tasks.length { stops := fun u => event = .abort u, drops := fun _ => False } e
      (e.happen event) := by
  cases event with
  | start opening =>
    apply (Spares.refl e).spawn
    intro hdispatches
    cases opening with
    | handler request purpose => exact ⟨request, purpose, rfl⟩
    | _ => cases hdispatches
  | step t => exact absurd rfl (hstep t)
  | abort v => exact Spares.of_abort rfl
  | pass span => exact Spares.of_tasks rfl rfl rfl
  | stop => exact Spares.of_tasks rfl rfl rfl
  | correlate correlator => exact (Spares.refl e).setCorrelator correlator
  | relink link => exact Spares.of_parts_eq rfl (parts_setLink e link)

/-- A task is at what it was at unless the event is a step of its own. -/
theorem work?_happen_of_ne {event : Event} (hne : event ≠ .step u) (hlt : u < e.tasks.length) :
    (e.happen event).work? u = e.work? u := by
  cases event with
  | step t => exact work?_step_of_ne (fun hut => hne (hut ▸ rfl)) hlt
  | _ => exact (spares_happen fun t heq => by cases heq).work u (Nat.ne_of_lt hlt) hlt

end Parley.Exchange
