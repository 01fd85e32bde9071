/-
# Whose turn it is

Tasks take turns.  A task that has something to do waits in a queue; a task that
has not is woken when what it waits for may have happened.  Waking a task that is
queued already changes nothing, and a task may be woken in vain: it then looks
again and goes back to waiting.

Time stands still while tasks run.  When none has anything to do it moves to the
moment of the next timer, and every timer of that moment wakes its task, in the order
in which the timers were set.
-/

namespace Parley

/-- The number of a task. -/
abbrev TaskId := Nat

/-- A moment or a span of time, in milliseconds. -/
abbrev Millis := Nat

/-- A task that sleeps until a moment. -/
structure Timer where
  moment : Millis
  task : TaskId
deriving DecidableEq, Repr

/-- The queue, the clock and the timers. -/
structure Schedule where
  now : Millis := 0
  ready : List TaskId := []
  /-- By moment, and timers of one moment in the order in which they were set. -/
  timers : List Timer := []
deriving DecidableEq, Repr

namespace Schedule

/-- Put a task at the end of the queue unless it is queued. -/
def wake (s : Schedule) (t : TaskId) : Schedule :=
  if t ∈ s.ready then s else { s with ready := s.ready ++ [t] }

/-- Wake some tasks, one after the other. -/
def wakeAll (s : Schedule) (ts : List TaskId) : Schedule :=
  ts.foldl wake s

/-- Put a timer behind every timer that is not later. -/
def insertTimer (timer : Timer) : List Timer → List Timer
  | [] => [timer]
  | other :: rest =>
      if other.moment ≤ timer.moment then other :: insertTimer timer rest
      else timer :: other :: rest

/-- Let a task sleep until a moment. -/
def sleep (s : Schedule) (moment : Millis) (t : TaskId) : Schedule :=
  { s with timers := insertTimer ⟨moment, t⟩ s.timers }

/-- Forget the timers of a task. -/
def forget (s : Schedule) (t : TaskId) : Schedule :=
  { s with timers := s.timers.filter fun timer => timer.task != t }

/-- The moment of the first timer after `start` and not after `stop`. -/
def nextMoment? (s : Schedule) (start stop : Millis) : Option { m // start < m ∧ m ≤ stop } :=
  s.timers.findSome? fun timer =>
    if h : start < timer.moment ∧ timer.moment ≤ stop then some ⟨timer.moment, h⟩ else none

/-- Move the clock to a moment and wake the tasks whose moment has come. -/
def moveTo (s : Schedule) (now : Millis) : Schedule :=
  let due := s.timers.filter fun timer => timer.moment ≤ now
  let later := s.timers.filter fun timer => !(timer.moment ≤ now)
  wakeAll { s with now, timers := later } (due.map Timer.task)

/-- The task whose turn it is, and the schedule without it. -/
def next? (s : Schedule) : Option (TaskId × Schedule) :=
  match s.ready with
  | [] => none
  | t :: rest => some (t, { s with ready := rest })

end Schedule

end Parley
