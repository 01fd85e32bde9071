/-
# What the parts of an exchange are after each operation

An exchange has many parts and each operation on it changes few of them.  For each
operation that the steps of tasks are made of, these lemmas give every part afterwards,
so that what a step does can be read off without opening the operations.
-/

import Parley.Exchange.Step

namespace Parley.Exchange

variable (e : Exchange)

/-- The parts of an exchange beside its tasks, its link and whose turn it is. -/
structure Parts where
  now : Millis
  correlator : Correlator
  dispatcher : Dispatcher
  engine : Engine.Script
  outlet : Sink
  stopped : Bool
  seen : List Message

/-- The parts of an exchange that belong to no task. -/
def parts : Parts where
  now := e.schedule.now
  correlator := e.correlator
  dispatcher := e.dispatcher
  engine := e.engine
  outlet := e.outlet
  stopped := e.stopped
  seen := e.seen

/-! ### Turns and the clock -/

@[simp]
theorem now_wake (s : Schedule) (t : TaskId) : (s.wake t).now = s.now := by
  unfold Schedule.wake
  split <;> rfl

@[simp]
theorem now_wakeAll (s : Schedule) (ts : List TaskId) : (s.wakeAll ts).now = s.now := by
  unfold Schedule.wakeAll
  induction ts generalizing s with
  | nil => rfl
  | cons t ts ih => exact (ih (s.wake t)).trans (now_wake s t)

@[simp]
theorem now_moveTo (s : Schedule) (now : Millis) : (s.moveTo now).now = now :=
  now_wakeAll _ _

@[simp]
theorem tasks_wakeAll (ts : List TaskId) : (e.wakeAll ts).tasks = e.tasks := rfl

@[simp]
theorem link_wakeAll (ts : List TaskId) : (e.wakeAll ts).link = e.link := rfl

@[simp]
theorem parts_wakeAll (ts : List TaskId) : (e.wakeAll ts).parts = e.parts := by
  simp only [parts, wakeAll, now_wakeAll]

@[simp]
theorem tasks_sleep (t : TaskId) (moment : Millis) : (e.sleep t moment).tasks = e.tasks := by
  unfold sleep
  split <;> rfl

@[simp]
theorem link_sleep (t : TaskId) (moment : Millis) : (e.sleep t moment).link = e.link := by
  unfold sleep
  split <;> rfl

@[simp]
theorem parts_sleep (t : TaskId) (moment : Millis) : (e.sleep t moment).parts = e.parts := by
  unfold sleep
  split <;> rfl

/-! ### The link, the correlator and the dispatcher -/

@[simp]
theorem tasks_setLink (link : Link) : (e.setLink link).tasks = e.tasks := rfl

@[simp]
theorem link_setLink (link : Link) : (e.setLink link).link = link := rfl

@[simp]
theorem parts_setLink (link : Link) : (e.setLink link).parts = e.parts := by
  unfold setLink
  exact parts_wakeAll _ _

@[simp]
theorem tasks_setCorrelator (c : Correlator) : (e.setCorrelator c).tasks = e.tasks := rfl

@[simp]
theorem link_setCorrelator (c : Correlator) : (e.setCorrelator c).link = e.link := rfl

@[simp]
theorem parts_setCorrelator (c : Correlator) :
    (e.setCorrelator c).parts = { e.parts with correlator := c } := by
  unfold setCorrelator
  exact parts_wakeAll _ _

@[simp]
theorem tasks_setShutdown : e.setShutdown.tasks = e.tasks := rfl

@[simp]
theorem parts_setShutdown :
    e.setShutdown.parts =
      { e.parts with dispatcher := { e.dispatcher with shutdown := true } } := by
  unfold setShutdown
  exact parts_wakeAll _ _

@[simp]
theorem tasks_stop : e.stop.tasks = e.tasks := rfl

@[simp]
theorem parts_stop : e.stop.parts = { e.parts with stopped := true } := by
  unfold stop
  exact parts_wakeAll _ _

/-! ### Tasks -/

@[simp]
theorem tasks_setWork (t : TaskId) (work : Work) :
    (e.setWork t work).tasks = e.tasks.modify t fun task => { task with work } := rfl

@[simp]
theorem link_setWork (t : TaskId) (work : Work) : (e.setWork t work).link = e.link := rfl

@[simp]
theorem parts_setWork (t : TaskId) (work : Work) : (e.setWork t work).parts = e.parts := rfl

@[simp]
theorem fst_spawn (work : Work) : (e.spawn work).1 = e.tasks.length := rfl

@[simp]
theorem tasks_spawn (work : Work) : (e.spawn work).2.tasks = e.tasks ++ [{ work := work }] := rfl

@[simp]
theorem link_spawn (work : Work) : (e.spawn work).2.link = e.link := rfl

@[simp]
theorem parts_spawn (work : Work) : (e.spawn work).2.parts = e.parts := by
  simp only [parts, spawn, now_wake]

@[simp]
theorem link_abort (t : TaskId) : (e.abort t).link = e.link := by
  unfold abort
  split <;> rfl

@[simp]
theorem parts_abort (t : TaskId) : (e.abort t).parts = e.parts := by
  unfold abort
  split <;> simp only [parts, now_wake]

/-- To release a side of the link leaves the tasks as they are. -/
theorem tasks_releaseSide (work : Work) (side : Link.Side) :
    (e.releaseSide work side).tasks = e.tasks := by
  unfold releaseSide
  by_cases hreads : work.readsFrom side = true
  · rw [if_pos hreads]
    dsimp only
    split <;> rfl
  · rw [if_neg hreads]
    dsimp only
    split <;> rfl

/-- To release a side of the link leaves the parts as they are. -/
theorem parts_releaseSide (work : Work) (side : Link.Side) :
    (e.releaseSide work side).parts = e.parts := by
  unfold releaseSide
  by_cases hreads : work.readsFrom side = true
  · rw [if_pos hreads]
    dsimp only
    split <;> simp only [parts_setLink]
  · rw [if_neg hreads]
    dsimp only
    split <;> simp only [parts_setLink]

@[simp]
theorem tasks_release (work : Work) : (e.release work).tasks = e.tasks := by
  rw [release, tasks_releaseSide, tasks_releaseSide]

@[simp]
theorem parts_release (work : Work) : (e.release work).parts = e.parts := by
  rw [release, parts_releaseSide, parts_releaseSide]

@[simp]
theorem tasks_finish (t : TaskId) (result : Ended) :
    (e.finish t result).tasks =
      e.tasks.modify t fun task => { task with work := .ended result } := by
  unfold finish
  cases hwork : e.work? t with
  | none =>
    have hlength : e.tasks.length ≤ t := by simpa [work?] using hwork
    exact (List.modify_eq_self hlength).symm
  | some work => exact tasks_release _ _

@[simp]
theorem parts_finish (t : TaskId) (result : Ended) : (e.finish t result).parts = e.parts := by
  unfold finish
  cases e.work? t with
  | none => rfl
  | some work => exact (parts_wakeAll _ _).trans (parts_release _ _)

/-! ### Receiving and sending -/

@[simp]
theorem tasks_arrive (source : Source) : (e.arrive source).2.2.tasks = e.tasks := by
  cases source with
  | link side maxSize held => rfl
  | script arrivals => cases arrivals <;> rfl

@[simp]
theorem parts_arrive (source : Source) : (e.arrive source).2.2.parts = e.parts := by
  cases source with
  | link side maxSize held => exact parts_setLink _ _
  | script arrivals => cases arrivals <;> rfl

@[simp]
theorem tasks_transmit (t : TaskId) (sink : Sink) (bytes : Frame.Bytes) :
    (e.transmit t sink bytes).2.tasks = e.tasks := by
  cases sink <;> rfl

@[simp]
theorem parts_transmit (t : TaskId) (sink : Sink) (bytes : Frame.Bytes) :
    (e.transmit t sink bytes).2.parts = e.parts := by
  cases sink with
  | link side => exact parts_setLink _ _
  | failing fault => rfl

@[simp]
theorem tasks_leave (t : TaskId) (sink : Sink) : (e.leave t sink).tasks = e.tasks := by
  cases sink <;> rfl

@[simp]
theorem parts_leave (t : TaskId) (sink : Sink) : (e.leave t sink).parts = e.parts := by
  cases sink with
  | link side => exact parts_setLink _ _
  | failing fault => rfl

@[simp]
theorem tasks_drop (t : TaskId) (work : Work) : (e.drop t work).tasks = e.tasks := by
  unfold drop
  split <;> simp

end Parley.Exchange
