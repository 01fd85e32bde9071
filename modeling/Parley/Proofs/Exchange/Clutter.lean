/-
# Clutter before a server

A server that meets clutter goes on without it.  A request that the registry knows no reply to
gets a handler all the same, so that the tasks that are added later have other numbers; the
handler ends without having sent anything, and nobody ever looks at it.  So an exchange is
mirrored by one that has clutter before its server, and what may be sent in the one may be sent
in the other (`maySend_padded`).  With what is known of one server this gives all that a server
does that meets a list of arrivals (`serves_arrivals`).
-/

import Mathlib.Order.Basic
import Parley.Proofs.Exchange.Answers
import Parley.Proofs.Exchange.Mirror

namespace Parley

open Parley.Link (Arrival)

namespace Correlator.Padded

variable {p : Arrival → Prop} {padded arrivals : List Arrival}

/-- Arrivals are padded with nothing at all. -/
theorem refl (arrivals : List Arrival) : Padded p arrivals arrivals := by
  induction arrivals with
  | nil => exact .nil
  | cons arrival arrivals ih => exact .keep arrival ih

/-- The same comes last. -/
theorem concat (h : Padded p padded arrivals) (last : Arrival) :
    Padded p (padded ++ [last]) (arrivals ++ [last]) := by
  induction h with
  | nil => exact .keep last .nil
  | keep arrival rest ih => exact .keep arrival ih
  | insert clutter rest ih => exact .insert clutter ih

end Correlator.Padded

namespace Exchange

variable {codec : Codec} {ρ : TaskId → TaskId} {e e' : Exchange} {t u : TaskId}
  {request : Message} {arrival : Arrival} {rest rest' arrivals padded : List Arrival}

/-! ### What is upheld -/

/-- A source is served, and what holds then holds. -/
def Upheld (codec : Codec) (e : Exchange) : Prop :=
  ∃ s : Serving, s.exchange = e ∧ ∃ arrivals last turns,
    (∀ arrival ∈ arrivals, Passes codec arrival) ∧ Closes last ∧
      s.Underway codec arrivals last turns

/-- The record of an event is kept beside the exchange. -/
theorem Serving.exchange_next (s : Serving) (event : Event) :
    (s.next event).exchange = s.exchange.happen event := by
  cases event <;> rfl

/-- The record of a course is kept beside the exchange. -/
theorem Serving.exchange_run (s : Serving) (events : List Event) :
    (s.run events).exchange = s.exchange.follow events := by
  induction events generalizing s with
  | nil => rfl
  | cons event events ih =>
    have hnext := ih (s.next event)
    rw [exchange_next] at hnext
    exact hnext

namespace Upheld

/-- Every arrival of an upheld exchange is attended to. -/
theorem attended (h : e.Upheld codec) : Attended codec e := by
  obtain ⟨s, rfl, arrivals, last, turns, -, -, hunderway⟩ := h
  exact hunderway.attended

/-- The table of an upheld exchange is in order. -/
theorem orderly (h : e.Upheld codec) : Orderly e := by
  obtain ⟨s, rfl, arrivals, last, turns, -, -, hunderway⟩ := h
  exact hunderway.orderly

/-- No task of an upheld exchange is held up by the lane. -/
theorem hasRoom (h : e.Upheld codec) (t : TaskId) : e.HasRoom t := by
  obtain ⟨s, rfl, arrivals, last, turns, -, -, hunderway⟩ := h
  exact hunderway.hasRoom t

/-- Events from inside keep an exchange upheld. -/
theorem happen (h : e.Upheld codec) (event : Event) (hinner : event.isInner = true) :
    (e.happen event).Upheld codec := by
  obtain ⟨s, rfl, arrivals, last, turns, hpasses, hcloses, hunderway⟩ := h
  exact ⟨s.next event, s.exchange_next event, arrivals, last, _, hpasses, hcloses,
    hunderway.next hpasses hcloses hinner⟩

/-- Courses of events from inside keep an exchange upheld. -/
theorem follow {events : List Event} (hinner : ∀ event ∈ events, event.isInner = true)
    (h : e.Upheld codec) : (e.follow events).Upheld codec := by
  induction events generalizing e with
  | nil => exact h
  | cons event events ih =>
    exact ih (fun event hmem => hinner event (List.mem_cons_of_mem _ hmem))
      (h.happen event (hinner event List.mem_cons_self))

end Upheld

/-! ### Handlers that come to nothing -/

/-- The dispatcher refuses such a request before it looks at what is running. -/
theorem accept_of_refused {d : Dispatcher} (h : Refused d.codec request) :
    ∃ fault, d.accept request = .error fault := by
  unfold Dispatcher.accept
  split
  next => exact ⟨_, rfl⟩
  next expected hexpected =>
    rw [Registry.createMessage, h expected hexpected]
    exact ⟨_, rfl⟩

/-- To put a task to the work that it is at changes nothing. -/
theorem setWork_eq_self {work : Work} (hwork : e.work? t = some work) : e.setWork t work = e := by
  have htasks : (e.tasks.modify t fun task => { task with work }) = e.tasks := by
    refine List.ext_getElem? fun u => ?_
    rw [List.getElem?_modify]
    by_cases htu : t = u
    · subst htu
      obtain ⟨task, htask, rfl⟩ := Option.map_eq_some_iff.1 hwork
      simp [htask]
    · simp [htu]
  rw [setWork, htasks]

/-- What a task waits for is there. -/
theorem Orderly.lt_of_joining {purpose : Purpose} {job : Dispatcher.Job} {c : TaskId}
    {tracked : Bool} (h : Orderly e)
    (hwork : e.work? t =
      some (.handler { request, purpose, phase := .joining job c tracked })) :
    c < e.tasks.length := by
  obtain ⟨-, blank, calls, hcalling⟩ := h.joins t request purpose job c tracked hwork
  exact lt_of_isCall (isCall_of_calling hcalling)

/-- The engine calls in the table are tasks of the exchange. -/
theorem Orderly.lt_of_running {entry : Int64 × TaskId} (h : Orderly e)
    (hentry : entry ∈ e.dispatcher.running) : entry.2 < e.tasks.length :=
  lt_of_isCall (h.isCall_of_tracked ⟨entry.1, hentry⟩)

/-- Other numbers do when they are the same for what is waited for. -/
theorem Alike.congr {ρ' : TaskId → TaskId} {task task' : Option Task} (h : Alike codec ρ task task')
    (hsame : ∀ request purpose job c tracked,
      task.map Task.work = some (.handler { request, purpose, phase := .joining job c tracked }) →
      ρ' c = ρ c) : Alike codec ρ' task task' := by
  cases h with
  | serving hpadded => exact .serving hpadded
  | same =>
    have heq : task.map (Task.renumber ρ') = task.map (Task.renumber ρ) := by
      cases task with
      | none => rfl
      | some task =>
        obtain ⟨work, aborting⟩ := task
        cases work with
        | handler handler =>
          obtain ⟨request, purpose, phase⟩ := handler
          cases phase with
          | joining job c tracked =>
            have hc := hsame request purpose job c tracked rfl
            simp [Task.renumber, Work.renumber, HandlerPhase.renumber, hc]
          | _ => rfl
        | _ => rfl
    rw [← heq]
    exact .same task

/-- The numbers when a task is added that mirrors none: those that come later are one higher. -/
def shiftFrom (ρ : TaskId → TaskId) (n t : TaskId) : TaskId :=
  if t < n then ρ t else ρ t + 1

/-- The tasks that there were keep their partners. -/
theorem shiftFrom_of_lt {n : TaskId} (h : t < n) : shiftFrom ρ n t = ρ t :=
  if_pos h

/-- A task is one of those that there are, or one of those to come. -/
theorem lt_or_exists_eq_add (e : Exchange) (t : TaskId) :
    t < e.tasks.length ∨ ∃ k, t = e.tasks.length + k :=
  (Nat.lt_or_ge t _).imp id Nat.exists_eq_add_of_le

/-- A server is mirrored by one. -/
theorem Alike.serving_of_work {task task' : Option Task} (h : Alike codec ρ task task')
    (hwork : task.map Task.work = some (.serving rest)) :
    ∃ rest', Correlator.Padded (Clutter codec) rest' rest ∧
      task'.map Task.work = some (.serving rest') := by
  cases h with
  | same =>
    obtain ⟨task, rfl, hserving⟩ := Option.map_eq_some_iff.1 hwork
    refine ⟨rest, .refl rest, ?_⟩
    rw [Option.map_some, Option.map_some, Task.renumber, hserving]
    rfl
  | serving hpadded =>
    cases hwork
    exact ⟨_, hpadded, rfl⟩

/-- A handler mirrors one. -/
theorem Alike.handler_of_work {task task' : Option Task} {handler : Handler}
    (h : Alike codec ρ task task') (hwork : task'.map Task.work = some (.handler handler)) :
    ∃ handler, task.map Task.work = some (.handler handler) := by
  cases h with
  | same =>
    cases task with
    | none => cases hwork
    | some task =>
      obtain ⟨work, aborting⟩ := task
      cases work with
      | handler handler => exact ⟨handler, rfl⟩
      | _ => cases hwork
  | serving => cases hwork

namespace Mirrors

/-- A task that mirrors none is done. -/
theorem finish_inert {old : Work} (h : Mirrors codec ρ e e') (hu : ∀ t, ρ t ≠ u)
    (hwork : e'.work? u = some old) (hold : old.Rightward) :
    Mirrors codec ρ e (e'.finish u (.loop (.ok ()))) where
  injective := h.injective
  zero := h.zero
  grows := by
    rw [tasks_finish, List.length_modify]
    exact h.grows
  tasks t := by
    rw [tasks_finish, List.getElem?_modify]
    simpa [Ne.symm (hu t)] using h.tasks t
  inert v hv := by
    rw [work?_finish]
    by_cases hvu : v = u
    · rw [if_pos hvu, hwork]
      exact .handled
    · rw [if_neg hvu]
      exact h.inert v hv
  parts := by
    rw [parts_finish]
    exact h.parts
  stores := by
    obtain ⟨capacity, capacity', frames, hstores, hstores'⟩ := h.stores
    exact ⟨capacity, capacity', frames, hstores, hstores'.finish hwork hold.1 hold.2 _⟩

/-- A task that mirrors none takes a step; then it is done. -/
theorem step_inert (h : Mirrors codec ρ e e') (hattended' : Attended codec e')
    (hu : ∀ t, ρ t ≠ u) :
    Mirrors codec ρ e (e'.step u).1 ∧ (e'.step u).1.work? u = some .handled := by
  generalize hwork : e'.work? u = work
  have hinert := hwork ▸ h.inert u hu
  cases hinert with
  | handled =>
    rw [step_of_ended hwork]
    exact ⟨h, hwork⟩
  | starting request hrefused =>
    obtain ⟨-, hstays⟩ := hattended'.of_handling hwork
    have hno : ¬ asksShutdown request = true := by simp [hstays]
    have hcodec := hattended'.codec_eq
    obtain ⟨fault, haccept⟩ := accept_of_refused (d := e'.dispatcher) (hcodec ▸ hrefused)
    have hstep : (e'.step u).1 = e'.finish u (.loop (.ok ())) := by
      rw [step_of_work? hwork (hattended'.free hwork rfl)]
      simp only [stepHandler, haccept, Exchange.conclude, Except.bind, Exchange.endSending,
        if_neg hno]
    rw [hstep]
    refine ⟨h.finish_inert hu hwork (Work.rightward_handling _ _), ?_⟩
    rw [work?_finish, if_pos rfl, hwork]
    rfl

/-- The tasks to come are one further behind. -/
theorem shiftFrom_add (h : Mirrors codec ρ e e') (k : Nat) :
    shiftFrom ρ e.tasks.length (e.tasks.length + k) = e'.tasks.length + 1 + k := by
  have hge : ¬ e.tasks.length + k < e.tasks.length := Nat.not_lt.2 (Nat.le_add_right _ _)
  have hgrows := h.grows k
  rw [shiftFrom, if_neg hge, hgrows, Nat.add_right_comm]

/-- No two tasks have the same partner. -/
theorem injective_shiftFrom (h : Mirrors codec ρ e e') :
    Function.Injective (shiftFrom ρ e.tasks.length) := by
  have hapart : ∀ t, t < e.tasks.length → ∀ k, ρ t ≠ e'.tasks.length + 1 + k := fun t hlt k =>
    Nat.ne_of_lt (Nat.lt_of_lt_of_le (h.lt hlt)
      (Nat.le_add_right_of_le (Nat.le_add_right _ _)))
  intro t u htu
  rcases lt_or_exists_eq_add e t with ht | ⟨k, rfl⟩ <;>
    rcases lt_or_exists_eq_add e u with hu | ⟨l, rfl⟩
  · rw [shiftFrom_of_lt ht, shiftFrom_of_lt hu] at htu
    exact h.injective htu
  · rw [shiftFrom_of_lt ht, h.shiftFrom_add] at htu
    exact absurd htu (hapart t ht l)
  · rw [shiftFrom_of_lt hu, h.shiftFrom_add] at htu
    exact absurd htu.symm (hapart u hu k)
  · rw [h.shiftFrom_add, h.shiftFrom_add] at htu
    rw [Nat.add_left_cancel htu]

/-- A handler is added that mirrors none. -/
theorem spawn_inert (h : Mirrors codec ρ e e') (horderly : Orderly e)
    (hserver : 0 < e.tasks.length) (hrefused : Refused codec request) :
    Mirrors codec (shiftFrom ρ e.tasks.length) e (e'.spawn (.handling request .starting)).2 where
  injective := h.injective_shiftFrom
  zero := by rw [shiftFrom_of_lt hserver, h.zero]
  grows k := by rw [tasks_spawn, List.length_append, List.length_singleton, h.shiftFrom_add]
  tasks t := by
    rw [tasks_spawn]
    rcases lt_or_exists_eq_add e t with ht | ⟨k, rfl⟩
    · rw [shiftFrom_of_lt ht, List.getElem?_append_left (h.lt ht)]
      exact (h.tasks t).congr fun request purpose job c tracked hwork =>
        shiftFrom_of_lt (horderly.lt_of_joining hwork)
    · rw [h.shiftFrom_add, List.getElem?_eq_none (by simp), List.getElem?_eq_none (by simp)]
      exact .same none
  inert u hu := by
    rw [work?_of_append (tasks_spawn e' _)]
    rcases Nat.lt_trichotomy u e'.tasks.length with hlt | rfl | hlt
    · rw [if_neg (Nat.ne_of_lt hlt)]
      refine h.inert u fun t htu => ?_
      rcases lt_or_exists_eq_add e t with ht | ⟨k, rfl⟩
      · exact hu t ((shiftFrom_of_lt ht).trans htu)
      · rw [h.grows] at htu
        exact absurd (htu ▸ hlt) (Nat.not_lt.2 (Nat.le_add_right _ _))
    · rw [if_pos rfl]
      exact .starting request hrefused
    · obtain ⟨k, rfl⟩ := Nat.exists_eq_add_of_le (Nat.succ_le_of_lt hlt)
      exact absurd (h.shiftFrom_add k) (hu _)
  parts := by
    have hrunning : (e.dispatcher.running.map fun entry => (entry.1, ρ entry.2)) =
        e.dispatcher.running.map fun entry => (entry.1, shiftFrom ρ e.tasks.length entry.2) :=
      List.map_congr_left fun entry hentry => by
        rw [shiftFrom_of_lt (horderly.lt_of_running hentry)]
    rw [parts_spawn, h.parts]
    simp only [Parts.renumber, Dispatcher.renumber, Exchange.parts, hrunning]
  stores := h.stores

/-! ### Steps of the server -/

/-- The servers have this before them. -/
theorem setServing (h : Mirrors codec ρ e e') (hfree : e.aborting 0 = false)
    (hpadded : Correlator.Padded (Clutter codec) rest' rest) :
    Mirrors codec ρ (e.setWork 0 (.serving rest)) (e'.setWork 0 (.serving rest')) := by
  refine h.of_modify rfl ?_ ((h.tasks 0).set_serving hfree hpadded) h.parts h.stores
  rw [h.zero]
  rfl

/-- Both servers take the same. -/
theorem step_keep (h : Mirrors codec ρ e e') (hattended : Attended codec e)
    (hattended' : Attended codec e')
    (hserver : e.work? 0 = some (.serving (arrival :: rest)))
    (hserver' : e'.work? 0 = some (.serving (arrival :: rest')))
    (hpadded : Correlator.Padded (Clutter codec) rest' rest) :
    Mirrors codec ρ (e.step 0).1 (e'.step 0).1 := by
  have hset := h.setServing (hattended.free hserver rfl) hpadded
  have hfinish : ∀ outcome, Mirrors codec ρ
      ((e.setWork 0 (.serving rest)).finish 0 (.loop outcome))
      ((e'.setWork 0 (.serving rest')).finish 0 (.loop outcome)) := by
    intro outcome
    have hnow : (e.setWork 0 (.serving rest)).work? 0 = some (.serving rest) := by
      rw [work?_setWork, if_pos rfl, hserver, Option.map_some]
    have hnow' : (e'.setWork 0 (.serving rest')).work? (ρ 0) = some (.serving rest') := by
      rw [h.zero, work?_setWork, if_pos rfl, hserver', Option.map_some]
    have hended := hset.finish hnow hnow' (Work.rightward_serving _) (Work.rightward_serving _)
      (.loop outcome)
    rwa [h.zero] at hended
  rw [step_of_work? hserver (hattended.free hserver rfl),
    step_of_work? hserver' (hattended'.free hserver' rfl)]
  simp only [stepServer, hattended.stopped, hattended.shutdown, hattended'.stopped,
    hattended'.shutdown, arrive, Bool.or_self, Bool.false_eq_true, if_false]
  cases arrival with
  | nothing => exact hset
  | ended => exact hfinish (.ok ())
  | fault fault =>
    dsimp only
    split
    · exact hset
    · exact hfinish (.error fault)
  | frame frame =>
    have hcodec : (e'.setWork 0 (.serving rest')).dispatcher.codec =
      (e.setWork 0 (.serving rest)).dispatcher.codec := hset.codec_eq
    dsimp only
    rw [hcodec]
    cases (e.setWork 0 (.serving rest)).dispatcher.codec.decode frame with
    | error fault => exact hset
    | ok request => exact hset.spawn (.handling request .starting)

/-- One server takes clutter, and the other waits. -/
theorem step_clutter (h : Mirrors codec ρ e e') (horderly : Orderly e)
    (hattended : Attended codec e) (hattended' : Attended codec e')
    (hserver : e.work? 0 = some (.serving rest))
    (hserver' : e'.work? 0 = some (.serving (arrival :: rest'))) (hclutter : Clutter codec arrival)
    (hpadded : Correlator.Padded (Clutter codec) rest' rest) :
    (∃ ρ', Mirrors codec ρ' e (e'.step 0).1) ∧ (e'.step 0).1.work? 0 = some (.serving rest') := by
  have hset := h.setServing (hattended.free hserver rfl) hpadded
  rw [setWork_eq_self hserver] at hset
  have hnow : (e'.setWork 0 (.serving rest')).work? 0 = some (.serving rest') := by
    rw [work?_setWork, if_pos rfl, hserver', Option.map_some]
  rw [step_of_work? hserver' (hattended'.free hserver' rfl)]
  simp only [stepServer, hattended'.stopped, hattended'.shutdown, arrive, Bool.or_self,
    Bool.false_eq_true, if_false]
  cases arrival with
  | nothing | ended => cases hclutter
  | fault fault =>
    dsimp only
    rw [if_pos (show fault.isProtocol = true from hclutter)]
    exact ⟨⟨ρ, hset⟩, hnow⟩
  | frame frame =>
    have hcodec : (e'.setWork 0 (.serving rest')).dispatcher.codec = codec := hattended'.codec_eq
    dsimp only
    rw [hcodec]
    cases hrequest : codec.decode frame with
    | error fault => exact ⟨⟨ρ, hset⟩, hnow⟩
    | ok request =>
      have hrefused : Refused codec request := hclutter request hrequest
      refine ⟨⟨_, hset.spawn_inert horderly (lt_of_work? hserver) hrefused⟩, ?_⟩
      have hlt := lt_of_work? hnow
      change ((e'.setWork 0 (.serving rest')).spawn (.handling request .starting)).2.work? 0 = _
      rw [work?_of_append (tasks_spawn _ _), if_neg (Nat.ne_of_lt hlt)]
      exact hnow

/-- Each server has something before it, which is the same but for clutter, or both take no
steps. -/
theorem server_cases (h : Mirrors codec ρ e e') (hattended : Attended codec e) :
    (∃ rest rest', rest ≠ [] ∧ Correlator.Padded (Clutter codec) rest' rest ∧
      e.work? 0 = some (.serving rest) ∧ e'.work? 0 = some (.serving rest')) ∨
    (e.step 0).1 = e ∧ (e'.step 0).1 = e' := by
  have halike := h.tasks 0
  have hsome := h.work?_isSome 0
  rw [h.zero] at halike hsome
  cases hwork : e.work? 0 with
  | none =>
    have hwork' : e'.work? 0 = none := by
      rw [hwork] at hsome
      exact Option.not_isSome_iff_eq_none.1 (hsome ▸ Bool.false_ne_true)
    exact Or.inr ⟨by rw [step_of_work?_eq_none hwork], by rw [step_of_work?_eq_none hwork']⟩
  | some work =>
    rcases hattended.server work hwork with ⟨rest, last, -, -, rfl⟩ | ⟨outcome, rfl⟩
    · obtain ⟨rest', hpadded, hwork'⟩ := halike.serving_of_work hwork
      have hne : rest ++ [last] ≠ [] := List.append_ne_nil_of_right_ne_nil _ (List.cons_ne_nil _ _)
      exact Or.inl ⟨_, rest', hne, hpadded, rfl, hwork'⟩
    · have hwork' : e'.work? 0 = some (.ended (.loop outcome)) :=
        halike.work_eq hwork fun _ heq => by cases heq
      exact Or.inr ⟨step_of_ended hwork, step_of_ended hwork'⟩

/-! ### Events -/

/-- Whatever happens in the exchange with the clutter may happen in the other one, where nothing
happens meanwhile when clutter is dealt with. -/
theorem exists_back (h : Mirrors codec ρ e e') (hup : e.Upheld codec) (hup' : e'.Upheld codec)
    {event : Event} (hinner : event.isInner = true) :
    ∃ ρ' events, (∀ event ∈ events, event.isInner = true) ∧
      Mirrors codec ρ' (e.follow events) (e'.happen event) := by
  cases event with
  | pass span => exact ⟨ρ, [.pass span], by simp [Event.isInner], h.pass span⟩
  | step u =>
    by_cases hu : ∃ t, ρ t = u
    · obtain ⟨t, rfl⟩ := hu
      by_cases ht : t = 0
      · subst ht
        rw [h.zero]
        rcases h.server_cases hup.attended with
          ⟨rest, rest', hne, hpadded, hserver, hserver'⟩ | ⟨-, hsame'⟩
        · cases hpadded with
          | nil => exact absurd rfl hne
          | keep arrival hpadded =>
            exact ⟨ρ, [.step 0], by simp [Event.isInner],
              h.step_keep hup.attended hup'.attended hserver hserver' hpadded⟩
          | insert hclutter hpadded =>
            obtain ⟨⟨ρ', hmirrors⟩, -⟩ := h.step_clutter hup.orderly hup.attended hup'.attended
              hserver hserver' hclutter hpadded
            exact ⟨ρ', [], List.forall_mem_nil _, hmirrors⟩
        · refine ⟨ρ, [], List.forall_mem_nil _, ?_⟩
          change Mirrors codec ρ e (e'.step 0).1
          rw [hsame']
          exact h
      · exact ⟨ρ, [.step t], by simp [Event.isInner],
          h.step hup.orderly hup.attended ht (hup.hasRoom t) (hup'.hasRoom (ρ t))⟩
    · have hapart : ∀ t, ρ t ≠ u := fun t htu => hu ⟨t, htu⟩
      exact ⟨ρ, [], List.forall_mem_nil _, (h.step_inert hup'.attended hapart).1⟩
  | _ => cases hinner

/-- The server with the clutter takes all of it that is before the next arrival. -/
theorem exists_take (hpadded : Correlator.Padded (Clutter codec) rest' rest) (hne : rest ≠ [])
    (hserver : e.work? 0 = some (.serving rest)) (hup : e.Upheld codec) {ρ : TaskId → TaskId}
    {e' : Exchange} (h : Mirrors codec ρ e e')
    (hserver' : e'.work? 0 = some (.serving rest')) (hup' : e'.Upheld codec) :
    ∃ ρ' events, (∀ event ∈ events, event.isInner = true) ∧
      Mirrors codec ρ' (e.step 0).1 (e'.follow events) := by
  induction hpadded generalizing ρ e' with
  | nil => exact absurd rfl hne
  | keep arrival hpadded =>
    exact ⟨ρ, [.step 0], by simp [Event.isInner],
      h.step_keep hup.attended hup'.attended hserver hserver' hpadded⟩
  | insert hclutter hpadded ih =>
    obtain ⟨⟨ρ₁, hmirrors⟩, hnow'⟩ := h.step_clutter hup.orderly hup.attended hup'.attended
      hserver hserver' hclutter hpadded
    obtain ⟨ρ₂, events, hinner, hafter⟩ :=
      ih hne hserver hmirrors hnow' (hup'.happen (.step 0) rfl)
    exact ⟨ρ₂, .step 0 :: events, by simpa [Event.isInner] using hinner, hafter⟩

/-- Whatever happens in an exchange may happen in the one with the clutter. -/
theorem exists_forth (h : Mirrors codec ρ e e') (hup : e.Upheld codec) (hup' : e'.Upheld codec)
    {event : Event} (hinner : event.isInner = true) :
    ∃ ρ' events, (∀ event ∈ events, event.isInner = true) ∧
      Mirrors codec ρ' (e.happen event) (e'.follow events) := by
  cases event with
  | pass span => exact ⟨ρ, [.pass span], by simp [Event.isInner], h.pass span⟩
  | step t =>
    by_cases ht : t = 0
    · subst ht
      rcases h.server_cases hup.attended with
        ⟨rest, rest', hne, hpadded, hserver, hserver'⟩ | ⟨hsame, -⟩
      · exact exists_take hpadded hne hserver hup h hserver' hup'
      · refine ⟨ρ, [], List.forall_mem_nil _, ?_⟩
        change Mirrors codec ρ (e.step 0).1 e'
        rw [hsame]
        exact h
    · exact ⟨ρ, [.step (ρ t)], by simp [Event.isInner],
        h.step hup.orderly hup.attended ht (hup.hasRoom t) (hup'.hasRoom (ρ t))⟩
  | _ => cases hinner

/-- Some handlers that mirror none come to their ends. -/
theorem exists_settled_below (h : Mirrors codec ρ e e') (hup' : e'.Upheld codec) (n : Nat) :
    ∃ events, (∀ event ∈ events, event.isInner = true) ∧ Mirrors codec ρ e (e'.follow events) ∧
      ∀ u, u < n → (∀ t, ρ t ≠ u) → (e'.follow events).work? u = some .handled := by
  induction n with
  | zero => exact ⟨[], List.forall_mem_nil _, h, fun u hu => absurd hu (Nat.not_lt_zero u)⟩
  | succ n ih =>
    obtain ⟨events, hinner, hmirrors, hdone⟩ := ih
    by_cases hn : ∃ t, ρ t = n
    · refine ⟨events, hinner, hmirrors, fun u hu hapart => ?_⟩
      rcases Nat.lt_succ_iff_lt_or_eq.1 hu with hlt | rfl
      · exact hdone u hlt hapart
      · obtain ⟨t, ht⟩ := hn
        exact absurd ht (hapart t)
    · have hapart : ∀ t, ρ t ≠ n := fun t ht => hn ⟨t, ht⟩
      obtain ⟨hafter, hnow⟩ := hmirrors.step_inert (hup'.follow hinner).attended hapart
      refine ⟨events ++ [.step n], fun event hmem => ?_, ?_, fun u hu hu' => ?_⟩
      · rcases List.mem_append.1 hmem with hmem | hmem
        · exact hinner event hmem
        · rw [List.mem_singleton.1 hmem]
          rfl
      · rw [follow_append]
        exact hafter
      · rw [follow_append]
        change ((e'.follow events).step n).1.work? u = _
        rcases Nat.lt_succ_iff_lt_or_eq.1 hu with hlt | rfl
        · have hbefore := hdone u hlt hu'
          rw [work?_step_of_ne (Nat.ne_of_lt hlt) (lt_of_work? hbefore)]
          exact hbefore
        · exact hnow

/-- All handlers that mirror none come to their ends. -/
theorem exists_settled (h : Mirrors codec ρ e e') (hup' : e'.Upheld codec) :
    ∃ events, (∀ event ∈ events, event.isInner = true) ∧ Mirrors codec ρ e (e'.follow events) ∧
      ∀ u, (∀ t, ρ t ≠ u) → (e'.follow events).work? u = some .handled := by
  obtain ⟨events, hinner, hmirrors, hdone⟩ := h.exists_settled_below hup' e'.tasks.length
  refine ⟨events, hinner, hmirrors, fun u hapart => hdone u ?_ hapart⟩
  by_contra hle
  obtain ⟨k, rfl⟩ := Nat.exists_eq_add_of_le (Nat.le_of_not_lt hle)
  exact hapart _ (h.grows k)

/-- When the handlers are done that are mirrored, so are those that mirror them. -/
theorem quiet (h : Mirrors codec ρ e e') (hquiet : e.Quiet)
    (hdone : ∀ u, (∀ t, ρ t ≠ u) → e'.work? u = some .handled) : e'.Quiet := by
  intro u handler hwork
  by_cases hu : ∃ t, ρ t = u
  · obtain ⟨t, rfl⟩ := hu
    obtain ⟨handler', hwork'⟩ := (h.tasks t).handler_of_work hwork
    exact hquiet t handler' hwork'
  · have hhandled := hdone u fun t htu => hu ⟨t, htu⟩
    cases hwork.symm.trans hhandled

/-- A handler that is not done is mirrored by one that is not. -/
theorem quiet_back (h : Mirrors codec ρ e e') (hquiet : e'.Quiet) : e.Quiet :=
  fun t _ hwork => hquiet (ρ t) _ (h.work?_eq hwork fun _ heq => by cases heq)

/-- At the beginning each task is mirrored by itself. -/
theorem init (script : Engine.Script)
    (hpadded : Correlator.Padded (Clutter codec) padded arrivals) :
    Mirrors codec id (serving codec script arrivals) (serving codec script padded) where
  injective := Function.injective_id
  zero := rfl
  grows _ := rfl
  tasks t := by
    cases t with
    | zero => exact .serving hpadded
    | succ t => exact .same none
  inert u hu := absurd rfl (hu u)
  parts := rfl
  stores := ⟨_, _, [], ⟨_, rfl, rfl, rfl, rfl, rfl⟩, ⟨_, rfl, rfl, rfl, rfl, rfl⟩⟩

end Mirrors

/-! ### Runs of both -/

/-- Two exchanges serve, and one mirrors the other. -/
def Paired (codec : Codec) (e e' : Exchange) : Prop :=
  e.Upheld codec ∧ e'.Upheld codec ∧ ∃ ρ, Mirrors codec ρ e e'

namespace Paired

/-- Every event of the padded exchange is matched by some of the other, or by none. -/
theorem exists_back (h : Paired codec e e') (event : Event) (hinner : event.isInner = true) :
    ∃ events, (∀ event ∈ events, event.isInner = true) ∧
      Paired codec (e.follow events) (e'.happen event) := by
  obtain ⟨hup, hup', ρ, hmirrors⟩ := h
  obtain ⟨ρ', events, hevents, hafter⟩ := hmirrors.exists_back hup hup' hinner
  exact ⟨events, hevents, hup.follow hevents, hup'.happen event hinner, ρ', hafter⟩

/-- Every event of the other exchange is matched by some of the padded one. -/
theorem exists_forth (h : Paired codec e e') (event : Event) (hinner : event.isInner = true) :
    ∃ events, (∀ event ∈ events, event.isInner = true) ∧
      Paired codec (e.happen event) (e'.follow events) := by
  obtain ⟨hup, hup', ρ, hmirrors⟩ := h
  obtain ⟨ρ', events, hevents, hafter⟩ := hmirrors.exists_forth hup hup' hinner
  exact ⟨events, hevents, hup.happen event hinner, hup'.follow hevents, ρ', hafter⟩

end Paired

/-- When each event of one exchange has its counterpart in another one, so has each run. -/
theorem exists_run {R : Exchange → Exchange → Prop}
    (hevent : ∀ {e e' : Exchange}, R e e' → ∀ event : Event, event.isInner = true →
      ∃ events, (∀ event ∈ events, event.isInner = true) ∧ R (e.happen event) (e'.follow events))
    {events : List Event} (hinner : ∀ event ∈ events, event.isInner = true) (h : R e e') :
    ∃ events', (∀ event ∈ events', event.isInner = true) ∧
      R (e.follow events) (e'.follow events') := by
  induction events generalizing e e' with
  | nil => exact ⟨[], List.forall_mem_nil _, h⟩
  | cons event events ih =>
    obtain ⟨before, hbefore, hnext⟩ := hevent h event (hinner event List.mem_cons_self)
    obtain ⟨after, hafter, hlast⟩ :=
      ih (fun event hmem => hinner event (List.mem_cons_of_mem _ hmem)) hnext
    refine ⟨before ++ after, fun event hmem => ?_, ?_⟩
    · exact (List.mem_append.1 hmem).elim (hbefore event) (hafter event)
    · rw [follow_append]
      exact hlast

/-! ### What may be sent -/

/-- An exchange is upheld when it begins to serve. -/
theorem Upheld.init (codec : Codec) (script : Engine.Script) {last : Arrival}
    (harrivals : ∀ arrival ∈ arrivals, Passes codec arrival) (hlast : Closes last) :
    (serving codec script (arrivals ++ [last])).Upheld codec :=
  ⟨_, rfl, arrivals, last, 0, harrivals, hlast, .init codec script harrivals hlast⟩

/-- Clutter neither adds to what may be sent nor takes from it. -/
theorem maySend_padded (codec : Codec) (script : Engine.Script) {last : Arrival}
    (hpadded : Correlator.Padded (Clutter codec) padded arrivals)
    (harrivals : ∀ arrival ∈ arrivals, Passes codec arrival)
    (hpasses : ∀ arrival ∈ padded, Passes codec arrival) (hlast : Closes last)
    (frames : List Frame.Bytes) :
    MaySend codec script (padded ++ [last]) frames ↔
      MaySend codec script (arrivals ++ [last]) frames := by
  have hpaired : Paired codec (serving codec script (arrivals ++ [last]))
      (serving codec script (padded ++ [last])) :=
    ⟨.init codec script harrivals hlast, .init codec script hpasses hlast, id,
      .init script (hpadded.concat last)⟩
  constructor
  · rintro ⟨events, hinner, hended, hquiet, rfl⟩
    rw [Serving.exchange_run] at hended hquiet ⊢
    obtain ⟨events', hinner', -, -, ρ, hmirrors⟩ :=
      exists_run (R := fun e' e => Paired codec e e') Paired.exists_back hinner hpaired
    refine ⟨events', hinner', ?_⟩
    rw [Serving.exchange_run]
    refine ⟨?_, hmirrors.quiet_back hquiet, hmirrors.sent_eq.symm⟩
    rw [← hmirrors.ended?_eq, hmirrors.zero]
    exact hended
  · rintro ⟨events, hinner, hended, hquiet, rfl⟩
    rw [Serving.exchange_run] at hended hquiet ⊢
    obtain ⟨events', hinner', -, hup', ρ, hmirrors⟩ :=
      exists_run (R := Paired codec) Paired.exists_forth hinner hpaired
    obtain ⟨more, hmore, hsettled, hdone⟩ := hmirrors.exists_settled hup'
    refine ⟨events' ++ more, fun event hmem => ?_, ?_⟩
    · exact (List.mem_append.1 hmem).elim (hinner' event) (hmore event)
    · rw [Serving.exchange_run, follow_append]
      refine ⟨?_, hsettled.quiet hquiet hdone, hsettled.sent_eq⟩
      rw [← hsettled.zero, hsettled.ended?_eq]
      exact hended

/-- A server that meets what it can pass over, and then a last arrival, takes one thing in each
of its turns.  It ends after the last one as that says, and nowhere earlier.  When what it
has taken is done with, in whatever order the tasks took their steps, one frame was sent for
each request whose reply has a frame; it is read as a message of the type that the request
expects, with the id of the request, and nothing else was sent.  Whatever clutter is inserted
among what the server meets, the same may be sent. -/
theorem serves_arrivals (codec : Codec) (script : Engine.Script) (arrivals : List Arrival)
    (last : Arrival) (harrivals : ∀ arrival ∈ arrivals, Passes codec arrival)
    (hlast : Closes last) : Serves codec script arrivals last where
  loop events hinner := by
    have hrun := (Serving.Underway.init codec script harrivals hlast).run harrivals hlast hinner
    rw [Nat.zero_add] at hrun
    exact ⟨hrun.loops.taken, hrun.loops.serving,
      fun hlt => ended?_of_work? (hrun.loops.closed hlt)⟩
  answers events hinner := by
    have hrun := (Serving.Underway.init codec script harrivals hlast).run harrivals hlast hinner
    exact ⟨hrun.handles.nodup, hrun.exists_answers⟩
  clutter padded hpadded hpasses frames :=
    maySend_padded codec script hpadded harrivals hpasses hlast frames

/-- Whether every request that was taken is done with, as a test. -/
def isQuiet (e : Exchange) : Bool :=
  e.tasks.all fun task =>
    match task.work with
    | .handler _ => false
    | _ => true

/-- Whether an exchange is quiet can be computed. -/
theorem quiet_of_isQuiet (h : e.isQuiet = true) : e.Quiet := by
  intro t handler hwork
  obtain ⟨task, htask, hhandler⟩ := Option.map_eq_some_iff.1 hwork
  have htest := List.all_eq_true.1 h task (List.mem_of_getElem? htask)
  rw [hhandler] at htest
  cases htest

/-- The frame of a heartbeat request with the id 7. -/
def beat : Frame.Bytes :=
  [0, 0, 0, 30, 0, 0, 0, 7, 0, 0, 0, 1, 0, 0, 0, 9, 82, 101, 113, 117, 101, 115, 116, 73, 100,
    0, 0, 0, 1, 55, 0, 0, 0, 0]

/-- The frame of the reply to it. -/
def beatReply : Frame.Bytes :=
  [0, 0, 0, 30, 0, 0, 0, 8, 0, 0, 0, 1, 0, 0, 0, 9, 82, 101, 113, 117, 101, 115, 116, 73, 100,
    0, 0, 0, 1, 55, 0, 0, 0, 0]

/-- Half a frame, something that is no frame and a reply come before the request. -/
def cluttered : List Arrival :=
  [.frame [0, 0], .fault (.malformed "no frame"), .frame beatReply, .frame beat]

/-- Among the clutter there is one heartbeat, and it is answered as if it had come alone. -/
theorem serves_arrivals_cluttered :
    Serves Codec.standard {} [.frame beat] .ended ∧
      MaySend Codec.standard {} (cluttered ++ [.ended]) [beatReply] := by
  have hbeat : Codec.standard.decode beat =
      .ok ((Message.request .heartbeat).setRequestId 7) := by decide +kernel
  have hreply : Codec.standard.decode beatReply =
      .ok ((Message.reply .heartbeat).setRequestId 7) := by decide +kernel
  have hcut : Codec.standard.decode [0, 0] =
      .error (Frame.truncated "length prefix" 4 2) := by decide +kernel
  have hpassesBeat : Passes Codec.standard (.frame beat) := by
    intro request hdecode
    cases hbeat.symm.trans hdecode
    rfl
  have hpassesReply : Passes Codec.standard (.frame beatReply) := by
    intro request hdecode
    cases hreply.symm.trans hdecode
    rfl
  have hpassesCut : Passes Codec.standard (.frame [0, 0]) := by
    intro request hdecode
    cases hcut.symm.trans hdecode
  have hserves := serves_arrivals Codec.standard {} [.frame beat] .ended
    (List.forall_mem_singleton.2 hpassesBeat) trivial
  refine ⟨hserves, (hserves.clutter cluttered ?_ ?_ [beatReply]).2 ?_⟩
  · refine .insert ?_ (.insert rfl (.insert ?_ (.keep _ .nil)))
    · intro request hdecode
      cases hcut.symm.trans hdecode
    · intro request hdecode expected hexpected
      cases hreply.symm.trans hdecode
      cases hexpected
  · simp only [cluttered, List.forall_mem_cons]
    exact ⟨hpassesCut, rfl, hpassesReply, hpassesBeat, List.forall_mem_nil _⟩
  · let events : List Event := [.step 0, .step 0, .step 1, .step 1]
    refine ⟨events, by decide, by decide +kernel, quiet_of_isQuiet ?_, ?_⟩ <;> decide +kernel

end Exchange

end Parley
