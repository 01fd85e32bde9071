/-
# Two exchanges that differ in the numbers of their tasks

An exchange that serves is mirrored by another one when each of its tasks is found there under
another number, at the same work and with the same before it, but for clutter.  What else
is there are handlers of requests that are not accepted.  Whenever a task takes a step in the
one, what becomes of it in the other is the same.
-/

import Mathlib.Logic.Function.Basic
import Parley.Proofs.Exchange.Serving

namespace Parley

open Parley.Frame (Bytes)
open Parley.Link (Arrival)

/-! ### Other numbers -/

/-- The calls that are running, under other numbers. -/
def Dispatcher.renumber (ρ : TaskId → TaskId) (d : Dispatcher) : Dispatcher :=
  { d with running := d.running.map fun entry => (entry.1, ρ entry.2) }

namespace Exchange

/-- How far a handler has come whose call has another number. -/
def HandlerPhase.renumber (ρ : TaskId → TaskId) : HandlerPhase → HandlerPhase
  | .joining job call tracked => .joining job (ρ call) tracked
  | phase => phase

/-- What a task is at when the calls have other numbers. -/
def Work.renumber (ρ : TaskId → TaskId) : Work → Work
  | .handler h => .handler { h with phase := h.phase.renumber ρ }
  | work => work

/-- A task when the calls have other numbers. -/
def Task.renumber (ρ : TaskId → TaskId) (task : Task) : Task :=
  { task with work := task.work.renumber ρ }

/-- The parts of an exchange when the calls have other numbers. -/
def Parts.renumber (ρ : TaskId → TaskId) (parts : Parts) : Parts :=
  { parts with dispatcher := parts.dispatcher.renumber ρ }

end Exchange

namespace Dispatcher

variable {ρ : TaskId → TaskId} (d : Dispatcher)

/-- Whether a request is accepted does not depend on the numbers of the calls. -/
theorem accept_renumber (request : Message) :
    (d.renumber ρ).accept request = d.accept request := rfl

/-- A call is found under its id with its new number. -/
theorem lookup_renumber (entries : List (Int64 × TaskId)) (id : Int64) :
    (entries.map fun entry => (entry.1, ρ entry.2)).lookup id = (entries.lookup id).map ρ := by
  induction entries with
  | nil => rfl
  | cons entry entries ih =>
    rw [List.map_cons, List.lookup_cons, List.lookup_cons, ih]
    cases id == entry.1 <;> rfl

/-- A call is tracked under its other number. -/
theorem track_renumber (id : Int64) (call : TaskId) :
    (d.renumber ρ).track id (ρ call) = ((d.track id call).1, (d.track id call).2.renumber ρ) := by
  have htaken : ((d.renumber ρ).running.lookup id).isSome = (d.running.lookup id).isSome := by
    rw [renumber, lookup_renumber, Option.isSome_map]
  unfold track
  rw [htaken]
  split
  next => rfl
  next =>
    simp only [renumber, List.map_append, List.map_cons, List.map_nil]

/-- The entry of a call goes under its other number. -/
theorem untrack_renumber (hρ : Function.Injective ρ) (id : Int64) (call : TaskId) :
    (d.renumber ρ).untrack id (ρ call) = (d.untrack id call).renumber ρ := by
  have hsame : ∀ entry : Int64 × TaskId,
      ((entry.1, ρ entry.2) != (id, ρ call)) = (entry != (id, call)) := by
    rintro ⟨id', call'⟩
    rw [Bool.eq_iff_iff, bne_iff_ne, bne_iff_ne, not_iff_not, Prod.mk.injEq, Prod.mk.injEq,
      hρ.eq_iff]
  simp only [untrack, renumber, List.filter_map, Function.comp_def, hsame]

/-- A cancel request finds the same call, under its other number. -/
theorem cancelRunning_renumber (request : Message) (job : Job) :
    (d.renumber ρ).cancelRunning request job =
      ((d.cancelRunning request job).1, (d.cancelRunning request job).2.1.map ρ,
        (d.cancelRunning request job).2.2.renumber ρ) := by
  unfold cancelRunning
  cases cancelTarget request with
  | error fault => rfl
  | ok target =>
    simp only [renumber, lookup_renumber, Option.isSome_map, List.filter_map, Function.comp_def]

end Dispatcher

namespace Exchange

variable {codec : Codec} {ρ : TaskId → TaskId} {e e' e₁ e₁' : Exchange} {t u c : TaskId}
  {work old : Work} {request : Message} {phase : HandlerPhase}

/-! ### Mirrored tasks -/

/-- The registry knows no reply for a request. -/
def Refused (codec : Codec) (request : Message) : Prop :=
  ∀ expected, request.expectedReply? = some expected → codec.registry.template? expected = none

/-- A task is mirrored by one that is at the same work.  A server may have clutter before it. -/
inductive Alike (codec : Codec) (ρ : TaskId → TaskId) : Option Task → Option Task → Prop where
  | same (task : Option Task) : Alike codec ρ task (task.map (Task.renumber ρ))
  | serving {arrivals padded : List Arrival}
      (hpadded : Correlator.Padded (Clutter codec) padded arrivals) :
      Alike codec ρ (some { work := .serving arrivals }) (some { work := .serving padded })

/-- A handler of a request that is not accepted has come to no reply, or it is done. -/
inductive Inert (codec : Codec) : Option Work → Prop where
  | starting (request : Message) (hrefused : Refused codec request) :
      Inert codec (some (.handling request .starting))
  | handled : Inert codec (some .handled)

/-- An exchange is mirrored by another one. -/
structure Mirrors (codec : Codec) (ρ : TaskId → TaskId) (e e' : Exchange) : Prop where
  injective : Function.Injective ρ
  zero : ρ 0 = 0
  /-- The tasks that are still to come correspond in their order. -/
  grows : ∀ k, ρ (e.tasks.length + k) = e'.tasks.length + k
  tasks : ∀ t, Alike codec ρ e.tasks[t]? e'.tasks[ρ t]?
  inert : ∀ u, (∀ t, ρ t ≠ u) → Inert codec (e'.work? u)
  parts : e'.parts = e.parts.renumber ρ
  stores : ∃ capacity capacity' frames, e.Stores capacity frames ∧ e'.Stores capacity' frames

namespace Alike

variable {task task' : Option Task}

/-- Tasks that are alike were both told to stop, or neither was. -/
theorem aborting_eq (h : Alike codec ρ task task') :
    task'.any Task.aborting = task.any Task.aborting := by
  cases h with
  | same => cases task <;> rfl
  | serving => rfl

/-- A task has a partner that is alike. -/
theorem isSome_eq (h : Alike codec ρ task task') : task'.isSome = task.isSome := by
  cases h with
  | same => exact Option.isSome_map
  | serving => rfl

/-- Whether a task has ended, and with what, is the same. -/
theorem ended_iff (h : Alike codec ρ task task') (result : Ended) :
    task'.map Task.work = some (.ended result) ↔ task.map Task.work = some (.ended result) := by
  cases h with
  | same =>
    cases task with
    | none => exact Iff.rfl
    | some task =>
      obtain ⟨work, aborting⟩ := task
      cases work with
      | handler => exact ⟨fun heq => (by cases heq), fun heq => by cases heq⟩
      | _ => exact Iff.rfl
  | serving => exact ⟨fun heq => (by cases heq), fun heq => by cases heq⟩

/-- A task that is no server is at the same work. -/
theorem work_eq (h : Alike codec ρ task task') (hwork : task.map Task.work = some work)
    (hnot : ∀ rest, work ≠ .serving rest) :
    task'.map Task.work = some (work.renumber ρ) := by
  cases h with
  | same =>
    obtain ⟨task, rfl, rfl⟩ := Option.map_eq_some_iff.1 hwork
    rfl
  | serving => exact absurd (Option.some.inj hwork).symm (hnot _)

/-- Both go over to the same work. -/
theorem set (h : Alike codec ρ task task') (work : Work) :
    Alike codec ρ (task.map fun task => { task with work })
      (task'.map fun task => { task with work := work.renumber ρ }) := by
  cases h with
  | same =>
    rw [Option.map_map]
    have hmap : task.map ((fun task : Task => { task with work := work.renumber ρ }) ∘
        Task.renumber ρ) =
        (task.map fun task => { task with work }).map (Task.renumber ρ) := by
      rw [Option.map_map]
      rfl
    rw [hmap]
    exact .same _
  | serving => exact .same (some { work })

/-- A server goes on with what is left, and so does the one that mirrors it. -/
theorem set_serving {arrivals padded : List Arrival} (h : Alike codec ρ task task')
    (hfree : task.any Task.aborting = false)
    (hpadded : Correlator.Padded (Clutter codec) padded arrivals) :
    Alike codec ρ (task.map fun task => { task with work := .serving arrivals })
      (task'.map fun task => { task with work := .serving padded }) := by
  cases h with
  | same =>
    cases task with
    | none => exact .same none
    | some task =>
      obtain ⟨work, aborting⟩ := task
      obtain rfl : aborting = false := hfree
      exact .serving hpadded
  | serving => exact .serving hpadded

/-- Both are told to stop. -/
theorem abort (h : Alike codec ρ task task') (hwork : task.map Task.work = some work)
    (hnot : ∀ rest, work ≠ .serving rest) :
    Alike codec ρ (task.map fun task => { task with aborting := true })
      (task'.map fun task => { task with aborting := true }) := by
  cases h with
  | same =>
    obtain ⟨task, rfl, rfl⟩ := Option.map_eq_some_iff.1 hwork
    exact .same (some { task with aborting := true })
  | serving => exact absurd (Option.some.inj hwork).symm (hnot _)

end Alike

/-- A task has ended with a result when its work is that result. -/
theorem ended?_eq_some_iff {result : Ended} :
    e.ended? t = some result ↔ e.work? t = some (.ended result) := by
  unfold ended?
  split
  next hwork => rw [hwork, Option.some.injEq, Option.some.injEq, Work.ended.injEq]
  next hnot => exact ⟨fun heq => (by cases heq), fun heq => absurd heq (hnot result)⟩

/-! ### What both exchanges do -/

/-- A task at this work reads off no side of the link and sends to the right side only. -/
def Work.Rightward (work : Work) : Prop :=
  (∀ side, work.readsFrom side = false) ∧ ∀ side, work.sendsTo side = true → side = .right

/-- A server sends to the right only. -/
theorem Work.rightward_serving (rest : List Arrival) : (Work.serving rest).Rightward :=
  ⟨fun _ => rfl, fun _ hside => (beq_iff_eq.1 hside).symm⟩

/-- A handler that a server has added sends to the right only. -/
theorem Work.rightward_handling (request : Message) (phase : HandlerPhase) :
    (Work.handling request phase).Rightward :=
  ⟨fun _ => rfl, fun _ hside => (beq_iff_eq.1 hside).symm⟩

/-- An engine call sends nothing. -/
theorem Work.rightward_engineCall (call : EngineCall) : (Work.engineCall call).Rightward :=
  ⟨fun _ => rfl, nofun⟩

/-- A handler that sends its reply to the right side. -/
abbrev Handler.rightward (request : Message) (phase : HandlerPhase) : Handler where
  request := request
  purpose := .send (.link .right)
  phase := phase

namespace Mirrors

/-- The dispatchers are the same up to the numbers of the tasks. -/
theorem dispatcher_eq (h : Mirrors codec ρ e e') : e'.dispatcher = e.dispatcher.renumber ρ :=
  congrArg Parts.dispatcher h.parts

/-- The engines are the same. -/
theorem engine_eq (h : Mirrors codec ρ e e') : e'.engine = e.engine :=
  congrArg Parts.engine h.parts

/-- The clocks are the same. -/
theorem now_eq (h : Mirrors codec ρ e e') : e'.schedule.now = e.schedule.now :=
  congrArg Parts.now h.parts

/-- The codecs are the same. -/
theorem codec_eq (h : Mirrors codec ρ e e') : e'.dispatcher.codec = e.dispatcher.codec := by
  rw [h.dispatcher_eq]
  rfl

/-- The same frames have been sent. -/
theorem sent_eq (h : Mirrors codec ρ e e') : e'.sent = e.sent := by
  obtain ⟨capacity, capacity', frames, hstores, hstores'⟩ := h.stores
  rw [hstores.sent_eq, hstores'.sent_eq]

/-- The next task of the one is the next task of the other. -/
theorem length_eq (h : Mirrors codec ρ e e') : ρ e.tasks.length = e'.tasks.length :=
  h.grows 0

/-- A task was told to stop when its partner was. -/
theorem aborting_eq (h : Mirrors codec ρ e e') (t : TaskId) : e'.aborting (ρ t) = e.aborting t :=
  (h.tasks t).aborting_eq

/-- A task other than the server is at the work of its partner, up to the numbers of the tasks. -/
theorem work?_eq (h : Mirrors codec ρ e e') (hwork : e.work? t = some work)
    (hnot : ∀ rest, work ≠ .serving rest) : e'.work? (ρ t) = some (work.renumber ρ) :=
  (h.tasks t).work_eq hwork hnot

/-- A handler is as far as its partner. -/
theorem work?_handling (h : Mirrors codec ρ e e')
    (hwork : e.work? t = some (.handling request phase)) :
    e'.work? (ρ t) = some (.handling request (phase.renumber ρ)) :=
  h.work?_eq hwork fun rest heq => by cases heq

/-- A task is there when its partner is. -/
theorem work?_isSome (h : Mirrors codec ρ e e') (t : TaskId) :
    (e'.work? (ρ t)).isSome = (e.work? t).isSome := by
  rw [work?, work?, Option.isSome_map, Option.isSome_map]
  exact (h.tasks t).isSome_eq

/-- A task has ended with what its partner has ended with. -/
theorem ended?_eq (h : Mirrors codec ρ e e') (t : TaskId) : e'.ended? (ρ t) = e.ended? t := by
  refine Option.ext fun result => ?_
  rw [ended?_eq_some_iff, ended?_eq_some_iff]
  exact (h.tasks t).ended_iff result

/-- The tasks that there are correspond to tasks that there are. -/
theorem lt (h : Mirrors codec ρ e e') (hlt : t < e.tasks.length) : ρ t < e'.tasks.length := by
  by_contra hle
  obtain ⟨k, hk⟩ := Nat.exists_eq_add_of_le (Nat.le_of_not_lt hle)
  have heq : t = e.tasks.length + k := h.injective (hk.trans (h.grows k).symm)
  exact absurd (heq ▸ hlt) (Nat.not_lt.2 (Nat.le_add_right _ _))

/-- A task and the one that mirrors it change. -/
theorem of_modify (h : Mirrors codec ρ e e') {f f' : Task → Task}
    (htasks : e₁.tasks = e.tasks.modify t f) (htasks' : e₁'.tasks = e'.tasks.modify (ρ t) f')
    (halike : Alike codec ρ (e.tasks[t]?.map f) (e'.tasks[ρ t]?.map f'))
    (hparts : e₁'.parts = e₁.parts.renumber ρ)
    (hstores : ∃ capacity capacity' frames, e₁.Stores capacity frames ∧
      e₁'.Stores capacity' frames) : Mirrors codec ρ e₁ e₁' where
  injective := h.injective
  zero := h.zero
  grows := by
    rw [htasks, htasks', List.length_modify, List.length_modify]
    exact h.grows
  tasks u := by
    rw [htasks, htasks', List.getElem?_modify, List.getElem?_modify]
    by_cases hut : u = t
    · subst hut
      simpa using halike
    · have hρ : ρ t ≠ ρ u := fun heq => hut (h.injective heq).symm
      simpa [Ne.symm hut, hρ] using h.tasks u
  inert u hu := by
    have hsame : e₁'.work? u = e'.work? u := by
      rw [work?, work?, htasks', List.getElem?_modify]
      simp [hu t]
    rw [hsame]
    exact h.inert u hu
  parts := hparts
  stores := hstores

/-- Other parts of both exchanges change. -/
theorem of_tasks_eq (h : Mirrors codec ρ e e') (htasks : e₁.tasks = e.tasks)
    (htasks' : e₁'.tasks = e'.tasks) (hparts : e₁'.parts = e₁.parts.renumber ρ)
    (hstores : ∃ capacity capacity' frames, e₁.Stores capacity frames ∧
      e₁'.Stores capacity' frames) : Mirrors codec ρ e₁ e₁' where
  injective := h.injective
  zero := h.zero
  grows := by
    rw [htasks, htasks']
    exact h.grows
  tasks := by
    rw [htasks, htasks']
    exact h.tasks
  inert u hu := by
    rw [work?, htasks']
    exact h.inert u hu
  parts := hparts
  stores := hstores

/-- Partners may go on alike. -/
theorem setWork (h : Mirrors codec ρ e e') (t : TaskId) (work : Work) :
    Mirrors codec ρ (e.setWork t work) (e'.setWork (ρ t) (work.renumber ρ)) :=
  h.of_modify rfl rfl ((h.tasks t).set work) h.parts h.stores

/-- Partners that send to the right at most may end alike. -/
theorem finish {old' : Work} (h : Mirrors codec ρ e e') (hwork : e.work? t = some old)
    (hwork' : e'.work? (ρ t) = some old') (hold : old.Rightward) (hold' : old'.Rightward)
    (result : Ended) : Mirrors codec ρ (e.finish t result) (e'.finish (ρ t) result) := by
  refine h.of_modify (tasks_finish e t result) (tasks_finish e' (ρ t) result)
    ((h.tasks t).set (.ended result)) ?_ ?_
  · rw [parts_finish, parts_finish]
    exact h.parts
  · obtain ⟨capacity, capacity', frames, hstores, hstores'⟩ := h.stores
    exact ⟨capacity, capacity', frames, hstores.finish hwork hold.1 hold.2 result,
      hstores'.finish hwork' hold'.1 hold'.2 result⟩

/-- The dispatchers may change alike. -/
theorem setDispatcher (h : Mirrors codec ρ e e') (d : Dispatcher) :
    Mirrors codec ρ { e with dispatcher := d } { e' with dispatcher := d.renumber ρ } := by
  refine h.of_tasks_eq rfl rfl ?_ h.stores
  exact congrArg (fun parts : Parts => { parts with dispatcher := d.renumber ρ }) h.parts

/-- The engines may change alike. -/
theorem setEngine (h : Mirrors codec ρ e e') (engine : Engine.Script) :
    Mirrors codec ρ { e with engine } { e' with engine } := by
  refine h.of_tasks_eq rfl rfl ?_ h.stores
  exact congrArg (fun parts : Parts => { parts with engine }) h.parts

/-- Time passes. -/
theorem pass (h : Mirrors codec ρ e e') (span : Millis) :
    Mirrors codec ρ (e.happen (.pass span)) (e'.happen (.pass span)) := by
  refine h.of_tasks_eq rfl rfl ?_ h.stores
  have hparts : ∀ x : Exchange, (x.happen (.pass span)).parts =
      { x.parts with now := x.parts.now + span } := fun x => by
    simp only [Exchange.parts, happen, now_moveTo]
  rw [hparts, hparts, h.parts]
  rfl

/-- Partners may go to sleep alike. -/
theorem sleep (h : Mirrors codec ρ e e') (t : TaskId) (moment : Millis) :
    Mirrors codec ρ (e.sleep t moment) (e'.sleep (ρ t) moment) := by
  refine h.of_tasks_eq (tasks_sleep e t moment) (tasks_sleep e' (ρ t) moment) ?_ ?_
  · rw [parts_sleep, parts_sleep]
    exact h.parts
  · obtain ⟨capacity, capacity', frames, hstores, hstores'⟩ := h.stores
    exact ⟨capacity, capacity', frames, hstores.congr (link_sleep e t moment),
      hstores'.congr (link_sleep e' (ρ t) moment)⟩

/-- An engine call is told to stop. -/
theorem abort (h : Mirrors codec ρ e e') (hcall : e.isCall c = true) :
    Mirrors codec ρ (e.abort c) (e'.abort (ρ c)) := by
  obtain ⟨work, hwork, hwas⟩ := (Option.any_eq_true _ _).1 hcall
  have hnot : ∀ rest, work ≠ .serving rest := by
    rintro rest rfl
    cases hwas
  have hwork' := h.work?_eq hwork hnot
  by_cases hended : ∃ result, work = .ended result
  · obtain ⟨result, rfl⟩ := hended
    have hdone : ∀ {x : Exchange} {v : TaskId}, x.work? v = some (.ended result) →
        x.abort v = x := fun hx => abort_of_not_live fun w hw => ⟨result, by
      rw [hx] at hw
      exact (Option.some.inj hw).symm⟩
    rw [hdone hwork, hdone hwork']
    exact h
  · have hlive : ∀ result, work ≠ .ended result := fun result heq => hended ⟨result, heq⟩
    have hlive' : ∀ result, work.renumber ρ ≠ .ended result := by
      intro result heq
      cases work with
      | ended result => exact hlive result rfl
      | handler => cases hwas
      | _ => cases heq
    have hparts := h.parts
    rw [← parts_abort e c, ← parts_abort e' (ρ c)] at hparts
    obtain ⟨capacity, capacity', frames, hstores, hstores'⟩ := h.stores
    refine h.of_modify (congrArg Exchange.tasks (abort_of_live hwork hlive))
      (congrArg Exchange.tasks (abort_of_live hwork' hlive')) ((h.tasks c).abort hwork hnot) hparts
      ⟨capacity, capacity', frames, hstores.congr (link_abort e c),
        hstores'.congr (link_abort e' (ρ c))⟩

/-- Each gets a task more, which corresponds to the other. -/
theorem spawn (h : Mirrors codec ρ e e') (work : Work) :
    Mirrors codec ρ (e.spawn work).2 (e'.spawn (work.renumber ρ)).2 where
  injective := h.injective
  zero := h.zero
  grows k := by
    rw [tasks_spawn, tasks_spawn, List.length_append, List.length_append, List.length_singleton,
      List.length_singleton, Nat.add_assoc, Nat.add_assoc]
    exact h.grows (1 + k)
  tasks t := by
    rw [tasks_spawn, tasks_spawn]
    rcases Nat.lt_trichotomy t e.tasks.length with hlt | rfl | hlt
    · have hlt' : ρ t < e'.tasks.length := h.lt hlt
      rw [List.getElem?_append_left hlt, List.getElem?_append_left hlt']
      exact h.tasks t
    · rw [h.length_eq, List.getElem?_concat_length, List.getElem?_concat_length]
      exact .same (some { work })
    · obtain ⟨k, rfl⟩ := Nat.exists_eq_add_of_lt hlt
      rw [Nat.add_assoc, h.grows, List.getElem?_eq_none (by simp),
        List.getElem?_eq_none (by simp)]
      exact .same none
  inert u hu := by
    have hne : u ≠ e'.tasks.length := fun heq => hu e.tasks.length (h.length_eq.trans heq.symm)
    rw [work?_of_append (tasks_spawn e' _), if_neg hne]
    exact h.inert u hu
  parts := by
    rw [parts_spawn, parts_spawn]
    exact h.parts
  stores := h.stores

/-! ### Steps of handlers -/

/-- Each sends a frame for which it has room. -/
theorem transmit {frame : Bytes} (h : Mirrors codec ρ e e')
    (hwork : e.work? t = some (.handling request (.transmitting frame)))
    (hroom : e.HasRoom t) (hroom' : e'.HasRoom (ρ t)) :
    ∃ after after', e.transmit t (.link .right) frame = (.sent, after) ∧
      e'.transmit (ρ t) (.link .right) frame = (.sent, after') ∧
      Mirrors codec ρ after after' := by
  have hwork' : e'.work? (ρ t) = some (.handling request (.transmitting frame)) :=
    h.work?_handling hwork
  obtain ⟨capacity, frames, hstores, hlt⟩ := hroom request frame hwork
  obtain ⟨capacity', frames', hstores', hlt'⟩ := hroom' request frame hwork'
  obtain rfl : frames' = frames := by rw [← hstores'.sent_eq, h.sent_eq, hstores.sent_eq]
  obtain ⟨after, hsend, hstored⟩ := hstores.transmit hlt t frame
  obtain ⟨after', hsend', hstored'⟩ := hstores'.transmit hlt' (ρ t) frame
  refine ⟨after, after', hsend, hsend', ?_⟩
  have hafter : after = (e.transmit t (.link .right) frame).2 := by rw [hsend]
  have hafter' : after' = (e'.transmit (ρ t) (.link .right) frame).2 := by rw [hsend']
  refine h.of_tasks_eq ?_ ?_ ?_ ⟨capacity, capacity', _, hstored, hstored'⟩
  · rw [hafter, tasks_transmit]
  · rw [hafter', tasks_transmit]
  · rw [hafter, hafter', parts_transmit, parts_transmit]
    exact h.parts

/-- A handler that is at the same work is done in both. -/
theorem endSending (h : Mirrors codec ρ e e')
    (hwork : e.work? t = some (.handling request phase)) (hstays : asksShutdown request = false)
    (handler handler' : Handler) (hrequest : handler.request = request)
    (hrequest' : handler'.request = request) :
    Mirrors codec ρ (e.endSending t handler) (e'.endSending (ρ t) handler') := by
  have hwork' : e'.work? (ρ t) = some (.handling request (phase.renumber ρ)) :=
    h.work?_handling hwork
  have hno : ¬ asksShutdown request = true := by simp [hstays]
  simp only [Exchange.endSending, hrequest, hrequest', if_neg hno]
  exact h.finish hwork hwork' (Work.rightward_handling _ _) (Work.rightward_handling _ _) _

/-- A handler comes to the same in both. -/
theorem conclude (h : Mirrors codec ρ e e')
    (hwork : e.work? t = some (.handling request phase)) (hstays : asksShutdown request = false)
    (reply : Except Fault Message) (before before' : HandlerPhase) :
    Mirrors codec ρ (e.conclude t (.rightward request before) reply).1
      (e'.conclude (ρ t) (.rightward request before') reply).1 := by
  simp only [Exchange.conclude, h.codec_eq]
  cases reply.bind e.dispatcher.codec.encode with
  | ok frame => exact h.setWork t (.handling request (.transmitting frame))
  | error fault => exact h.endSending hwork hstays _ _ rfl rfl

/-- A handler forwards its request in both; the calls correspond. -/
theorem forward (h : Mirrors codec ρ e e') (t : TaskId) (request : Message) (job : Dispatcher.Job)
    (before before' : HandlerPhase) :
    Mirrors codec ρ (e.forward t (.rightward request before) job)
      (e'.forward (ρ t) (.rightward request before') job) := by
  have hspawned := h.spawn (.engineCall { request, blank := job.blank })
  have htracked := hspawned.setDispatcher (e.dispatcher.track job.id e.tasks.length).2
  have hset := htracked.setWork t (.handling request
    (.joining job e.tasks.length (e.dispatcher.track job.id e.tasks.length).1))
  have htrack : e'.dispatcher.track job.id e'.tasks.length =
      ((e.dispatcher.track job.id e.tasks.length).1,
        (e.dispatcher.track job.id e.tasks.length).2.renumber ρ) := by
    rw [← h.length_eq, h.dispatcher_eq, Dispatcher.track_renumber]
  have hafter' : e'.forward (ρ t) (.rightward request before') job =
      ({ (e'.spawn (.engineCall { request, blank := job.blank })).2 with
          dispatcher := (e.dispatcher.track job.id e.tasks.length).2.renumber ρ }.setWork (ρ t)
        (.handling request (.joining job (ρ e.tasks.length)
          (e.dispatcher.track job.id e.tasks.length).1))) := by
    rw [h.length_eq]
    change ({ (e'.spawn (.engineCall { request, blank := job.blank })).2 with
        dispatcher := (e'.dispatcher.track job.id e'.tasks.length).2 }.setWork (ρ t)
      (.handling request (.joining job e'.tasks.length
        (e'.dispatcher.track job.id e'.tasks.length).1))) = _
    rw [htrack]
  rw [hafter']
  exact hset

/-- A call that a cancel request tells to stop is tracked. -/
theorem tracked_of_victim {job : Dispatcher.Job}
    (h : (e.dispatcher.cancelRunning request job).2.1 = some c) : e.Tracked c := by
  unfold Dispatcher.cancelRunning at h
  cases htarget : Dispatcher.cancelTarget request with
  | error fault =>
    rw [htarget] at h
    cases h
  | ok target =>
    rw [htarget] at h
    exact ⟨target, mem_of_lookup h⟩

/-- A handler that has not begun does the same in both. -/
theorem step_starting (h : Mirrors codec ρ e e') (horderly : Orderly e)
    (hwork : e.work? t = some (.handling request .starting))
    (hstays : asksShutdown request = false) (hfree : e.aborting t = false) :
    Mirrors codec ρ (e.step t).1 (e'.step (ρ t)).1 := by
  have hwork' : e'.work? (ρ t) = some (.handling request .starting) :=
    h.work?_handling hwork
  rw [step_of_work? hwork hfree, step_of_work? hwork' ((h.aborting_eq t).trans hfree)]
  simp only [stepHandler, h.dispatcher_eq, Dispatcher.accept_renumber]
  cases haccept : e.dispatcher.accept request with
  | error fault => exact h.conclude hwork hstays _ _ _
  | ok job =>
    cases hroute : Dispatcher.route request.tag with
    | acknowledge => exact h.conclude hwork hstays _ _ _
    | engine => exact h.forward t request job _ _
    | cancel =>
      simp only [Dispatcher.cancelRunning_renumber]
      have hcancelled := h.setDispatcher (e.dispatcher.cancelRunning request job).2.2
      cases hvictim : (e.dispatcher.cancelRunning request job).2.1 with
      | none => exact hcancelled.conclude hwork hstays _ _ _
      | some c =>
        have hcall : e.isCall c = true := horderly.isCall_of_tracked (tracked_of_victim hvictim)
        have haborted := hcancelled.abort (c := c) hcall
        have hnow : (Exchange.abort { e with
            dispatcher := (e.dispatcher.cancelRunning request job).2.2 } c).work? t =
            some (.handling request .starting) := (work?_abort _ c t).trans hwork
        exact haborted.conclude hnow hstays _ _ _

/-- A handler that waits for its call does the same in both. -/
theorem step_joining {job : Dispatcher.Job} {tracked : Bool} (h : Mirrors codec ρ e e')
    (hwork : e.work? t = some (.handling request (.joining job c tracked)))
    (hstays : asksShutdown request = false) (hfree : e.aborting t = false) :
    Mirrors codec ρ (e.step t).1 (e'.step (ρ t)).1 := by
  have hwork' : e'.work? (ρ t) = some (.handling request (.joining job (ρ c) tracked)) :=
    h.work?_handling hwork
  rw [step_of_work? hwork hfree, step_of_work? hwork' ((h.aborting_eq t).trans hfree)]
  simp only [stepHandler, h.ended?_eq]
  -- The handler goes on when the call has ended, and takes it out of the table if it is there.
  cases tracked with
  | false =>
    cases e.ended? c with
    | none => exact h
    | some result =>
      cases result with
      | call ending => exact h.conclude hwork hstays _ _ _
      | aborted => exact h.conclude hwork hstays _ _ _
      | _ => exact h
  | true =>
    have huntracked := h.setDispatcher (e.dispatcher.untrack job.id c)
    rw [← Dispatcher.untrack_renumber _ h.injective, ← h.dispatcher_eq] at huntracked
    cases e.ended? c with
    | none => exact h
    | some result =>
      cases result with
      | call ending => exact huntracked.conclude hwork hstays _ _ _
      | aborted => exact huntracked.conclude hwork hstays _ _ _
      | _ => exact h

/-- A handler that sends its frame does the same in both. -/
theorem step_transmitting {frame : Bytes} (h : Mirrors codec ρ e e')
    (hwork : e.work? t = some (.handling request (.transmitting frame)))
    (hstays : asksShutdown request = false) (hfree : e.aborting t = false)
    (hroom : e.HasRoom t) (hroom' : e'.HasRoom (ρ t)) :
    Mirrors codec ρ (e.step t).1 (e'.step (ρ t)).1 := by
  have hwork' : e'.work? (ρ t) = some (.handling request (.transmitting frame)) :=
    h.work?_handling hwork
  obtain ⟨after, after', hsend, hsend', hafter⟩ := h.transmit hwork hroom hroom'
  rw [step_of_work? hwork hfree, step_of_work? hwork' ((h.aborting_eq t).trans hfree)]
  simp only [stepHandler, hsend, hsend']
  have hnow : after.work? t = some (.handling request (.transmitting frame)) := by
    rw [(Moved.transmit hwork hsend).work, if_pos rfl]
  exact hafter.endSending hnow hstays _ _ rfl rfl

/-! ### Steps of engine calls -/

/-- An engine call does the same in both. -/
theorem step_engineCall {call : EngineCall} (h : Mirrors codec ρ e e')
    (hwork : e.work? t = some (.engineCall call)) :
    Mirrors codec ρ (e.step t).1 (e'.step (ρ t)).1 := by
  have hwork' : e'.work? (ρ t) = some (.engineCall call) :=
    h.work?_eq hwork fun rest heq => by cases heq
  have hfinish : ∀ result, Mirrors codec ρ (e.finish t result) (e'.finish (ρ t) result) :=
    h.finish hwork hwork' (Work.rightward_engineCall _) (Work.rightward_engineCall _)
  cases haborting : e.aborting t with
  | true =>
    have haborting' := (h.aborting_eq t).trans haborting
    rcases step_of_aborting hwork haborting with ⟨⟨result, hresult⟩, -⟩ | ⟨-, hstep⟩
    · cases hresult
    rcases step_of_aborting hwork' haborting' with ⟨⟨result, hresult⟩, -⟩ | ⟨-, hstep'⟩
    · cases hresult
    rw [hstep, hstep']
    exact hfinish .aborted
  | false =>
    rw [step_of_work? hwork haborting, step_of_work? hwork' ((h.aborting_eq t).trans haborting)]
    obtain ⟨request, blank, phase⟩ := call
    cases phase with
    | starting =>
      simp only [stepEngineCall]
      cases Engine.Call.ofRequest request with
      | error error => exact hfinish _
      | ok call =>
        have hcalled := (h.setEngine (e.engine.start call).2).setWork t
          (.engineCall { request, blank, phase := .working call (e.engine.start call).1 })
        simp only [callEngine, h.engine_eq]
        exact hcalled
    | working call outcome =>
      cases outcome with
      | usual | ok value | error error | panic text => exact hfinish _
      | never => exact h
      | after span next =>
        simp only [stepEngineCall, h.now_eq]
        exact h.setWork t _
    | sleeping moment call outcome =>
      simp only [stepEngineCall, h.now_eq]
      split
      · exact h.setWork t _
      · exact h.sleep t moment

/-! ### Steps of any task but the server -/

/-- Whatever task takes a step, what mirrors it does the same; the server is another matter. -/
theorem step (h : Mirrors codec ρ e e') (horderly : Orderly e) (hattended : Attended codec e)
    (ht : t ≠ 0) (hroom : e.HasRoom t) (hroom' : e'.HasRoom (ρ t)) :
    Mirrors codec ρ (e.step t).1 (e'.step (ρ t)).1 := by
  cases hwork : e.work? t with
  | none =>
    have hwork' : e'.work? (ρ t) = none := by
      rw [← Option.isNone_iff_eq_none, ← Option.not_isSome, h.work?_isSome, hwork]
      rfl
    rw [step_of_work?_eq_none hwork, step_of_work?_eq_none hwork']
    exact h
  | some work =>
    have hended : ∀ result, work = .ended result →
        Mirrors codec ρ (e.step t).1 (e'.step (ρ t)).1 := by
      rintro result rfl
      have hwork' : e'.work? (ρ t) = some (.ended result) :=
        h.work?_eq hwork fun rest heq => by cases heq
      rw [step_of_ended hwork, step_of_ended hwork']
      exact h
    cases hattended.staff t work ht hwork with
    | handling request phase hstays =>
      have hfree := hattended.free hwork rfl
      cases phase with
      | starting => exact h.step_starting horderly hwork hstays hfree
      | joining job c tracked => exact h.step_joining hwork hstays hfree
      | transmitting frame => exact h.step_transmitting hwork hstays hfree hroom hroom'
    | handled => exact hended _ rfl
    | call hcall =>
      cases work with
      | engineCall call => exact h.step_engineCall hwork
      | ended result => exact hended result rfl
      | _ => cases hcall

end Mirrors

end Exchange

end Parley
