/-
# Uses of a correlator

Whoever holds a correlator may cancel requests, hand it bytes that have arrived, drop handles
and close it, at any time and in any order.  It takes the ids of its requests from a counter
that all correlators of the process share, so ids are used up elsewhere as well.
-/

import Parley.Correlator

namespace Parley.Correlator

/-- What can be done with a correlator beside sending requests and waiting for their
outcomes. -/
inductive Use where
  | cancel (id : Int64)
  /-- Some bytes have arrived. -/
  | frame (bytes : Frame.Bytes)
  /-- The handle of the request with this id is dropped. -/
  | abandon (id : Int64)
  | close
  /-- Another correlator of the process uses an id up. -/
  | skip
deriving DecidableEq

/-- The correlator after a use of it. -/
def use (c : Correlator) (now : Millis) : Use → Correlator
  | .cancel id => (c.cancel id now).2
  | .frame bytes => (c.receiveFrame bytes now).2
  | .abandon id => c.abandon id now
  | .close => c.close
  | .skip => { c with nextId := c.nextId + 1 }

/-- No request is in flight and no outcome waits to be collected, and the codec knows every
exchange. -/
structure Unused (c : Correlator) : Prop where
  registry : c.codec.registry = .standard
  pending : c.table.pending = []
  delivered : c.delivered = []

/-- How many ids a correlator has given out between two states of it, one use apart. -/
def given (c c' : Correlator) : Nat :=
  if c'.nextId = c.nextId then 0 else 1

/-- The next `n` ids that a correlator gives out. -/
def Coming (c : Correlator) (n : Nat) (id : Int64) : Prop :=
  ∃ k < n, id = c.nextId + Int64.ofNat k

end Parley.Correlator
