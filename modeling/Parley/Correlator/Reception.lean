/-
# A receiver among callers

The receiver of a correlator takes what comes from its source, one thing in each of its
turns, and routes the replies.  It ends when it is told to stop, when the peer is gone and
when the connection has failed, and then the connection is closed for the correlator.
Between its turns anything may happen in the session.

A receiver meets more than replies.  What is no frame, what cannot be decoded, what is no
reply and what answers no request that there ever is concerns no caller.
-/

import Parley.Correlator.Session
import Parley.Link.Channel

namespace Parley

namespace Correlator

open Parley.Link (Arrival)

/-- A session with a receiver. -/
structure Reception where
  session : Session
  /-- What the source of the receiver has still to give. -/
  arrivals : List Arrival
  /-- Whether the receiver is told to stop. -/
  stopped : Bool := false
  /-- Whether the receiver has ended. -/
  ended : Bool := false

/-- What can happen to a session with a receiver. -/
inductive Act where
  /-- Something else than the receiver moves on. -/
  | move (move : Move)
  /-- The receiver is told to stop. -/
  | stop
  /-- The receiver has its turn. -/
  | turn

/-- Whether something uses an id up. -/
def Act.takesId : Act → Bool
  | .move m => m.takesId
  | _ => false

/-- Whether the receiver has its turn. -/
def Act.isTurn : Act → Bool
  | .turn => true
  | _ => false

namespace Reception

/-- A new correlator with a receiver. -/
def start (codec : Codec) (settings : Settings) (arrivals : List Arrival) : Reception where
  session := .start codec settings
  arrivals := arrivals

/-- The receiver ends: what is still in flight fails. -/
def finish (r : Reception) : Reception :=
  { r with session := r.session.move .close, ended := true }

/-- The receiver has its turn.  It looks first whether it is to stop. -/
def turn (r : Reception) : Reception :=
  if r.ended then r
  else if r.stopped then r.finish
  else
    match r.arrivals with
    | [] => r
    | arrival :: rest =>
        let r := { r with arrivals := rest }
        match arrival with
        | .nothing => r
        | .frame frame =>
            match r.session.correlator.codec.decode frame with
            | .ok message => { r with session := r.session.move (.reply message) }
            | .error _ => r
        | .fault fault => if fault.isProtocol then r else r.finish
        | .ended => r.finish

/-- What happens next. -/
def act (r : Reception) : Act → Reception
  | .move move => { r with session := r.session.move move }
  | .stop => { r with stopped := true }
  | .turn => r.turn

/-- A session with a receiver after some things have happened. -/
def run (r : Reception) (acts : List Act) : Reception :=
  acts.foldl act r

/-- Whether the receiver ends when it has its turn: it is to stop, or the peer is gone, or
the connection has failed. -/
def Ends (r : Reception) : Prop :=
  r.stopped = true ∨ (∃ rest, r.arrivals = .ended :: rest) ∨
    ∃ fault rest, r.arrivals = .fault fault :: rest ∧ fault.isProtocol = false

/-- Two sessions are the same for every caller: each has come as far as in the other one, with
the same outcomes on their way, and the same requests are in flight. -/
structure SameForCallers (r r' : Reception) : Prop where
  stage : r.session.stage = r'.session.stage
  pending : r.session.pending = r'.session.pending
  due : r.session.due = r'.session.due
  delivered : r.session.correlator.delivered = r'.session.correlator.delivered
  ended : r.ended = r'.ended

end Reception

/-- What concerns no caller, when `stray` holds of ids that no request gets. -/
def Clutter (codec : Codec) (stray : Int64 → Prop) : Arrival → Prop
  | .nothing => True
  | .frame frame =>
      ∀ message, codec.decode frame = .ok message →
        message.isReply = true → stray message.requestId
  | .fault fault => fault.isProtocol = true
  | .ended => False

/-- The first list is the second one with some items inserted for which `p` holds. -/
inductive Padded (p : Arrival → Prop) : List Arrival → List Arrival → Prop where
  | nil : Padded p [] []
  | keep {arrivals others : List Arrival} (arrival : Arrival) (rest : Padded p arrivals others) :
      Padded p (arrival :: arrivals) (arrival :: others)
  | insert {arrivals others : List Arrival} {arrival : Arrival} (clutter : p arrival)
      (rest : Padded p arrivals others) : Padded p (arrival :: arrivals) others

end Correlator

end Parley
