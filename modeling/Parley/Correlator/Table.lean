/-
# Requests in flight

The table of a correlator.  A request is pending from the moment it is recorded
until something resolves it; to resolve it is to take its entry out, so whoever
takes the entry out decides the outcome, and only one can.  A request that was
given up is retired: for a while its late reply is dropped quietly.

Retired entries are looked through only on some occasions.  That is not visible
from outside, because an entry that has reached its age counts no more, whether it
is still there or not.
-/

import Parley.Schedule
import Parley.Tag

namespace Parley

/-- The requests that wait for a reply, and those that were given up. -/
structure InFlight where
  /-- Ids with the type of the reply that is expected. -/
  pending : List (Int64 × Tag) := []
  /-- Ids with the moment at which they were given up. -/
  retired : List (Int64 × Millis) := []
deriving DecidableEq, Repr

namespace InFlight

/-- The type of reply that a pending request expects. -/
def expected? (table : InFlight) (id : Int64) : Option Tag :=
  table.pending.lookup id

/-- Record a request. -/
def record (table : InFlight) (id : Int64) (expected : Tag) : InFlight :=
  { table with pending := table.pending.filter (·.1 != id) ++ [(id, expected)] }

/-- Take the entry of a request out. -/
def resolve (table : InFlight) (id : Int64) : InFlight :=
  { table with pending := table.pending.filter (·.1 != id) }

/-- Forget retired requests that have reached the age `ttl`. -/
def prune (table : InFlight) (now ttl : Millis) : InFlight :=
  { table with retired := table.retired.filter fun entry => decide (now - entry.2 < ttl) }

/-- Give a pending request up; nothing when it is not pending. -/
def retire? (table : InFlight) (id : Int64) (now ttl : Millis) : Option InFlight :=
  if (table.expected? id).isSome then
    let table := (table.resolve id).prune now ttl
    some { table with retired := table.retired.filter (·.1 != id) ++ [(id, now)] }
  else none

/-- Whether a request is among those that were given up. -/
def isRetired (table : InFlight) (id : Int64) : Bool :=
  (table.retired.lookup id).isSome

/-- Forget that a request was given up. -/
def forget (table : InFlight) (id : Int64) : InFlight :=
  { table with retired := table.retired.filter (·.1 != id) }

end InFlight

end Parley
