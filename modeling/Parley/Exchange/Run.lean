/-
# Running an exchange

The tasks of an exchange take turns: the one that was woken first goes on until it
has to wait, then the next.  Between two turns of whoever drives the exchange all
that can happen without time passing does happen.
-/

import Parley.Exchange.Step

namespace Parley.Exchange

/-- Let a task go on until it has to wait, for at most `fuel` steps. -/
def turn : Nat → Exchange → TaskId → Exchange
  | 0, e, _ => e
  | fuel + 1, e, t =>
      match e.step t with
      | (e, true) => turn fuel e t
      | (e, false) => e

/-- Let tasks take turns until none has anything to do, for at most `fuel` turns of at
most `fuel` steps. -/
def settleWithin (fuel : Nat) : Nat → Exchange → Exchange
  | 0, e => e
  | turns + 1, e =>
      match e.schedule.next? with
      | none => e
      | some (t, schedule) => settleWithin fuel turns (turn fuel { e with schedule } t)

/-- More turns, and more steps in a turn, than the tasks of an exchange take before
all of them wait. -/
def patience : Nat := 1 <<< 40

/-- Let tasks take turns until none has anything to do. -/
def settle (e : Exchange) : Exchange :=
  settleWithin patience patience e

/-- Move the clock from `start` to `stop`.  It stops at the moment of every timer on the
way, also of one that is set on the way, and goes on when all that is due has happened. -/
def moveTo (e : Exchange) (start stop : Millis) : Exchange :=
  match e.schedule.nextMoment? start stop with
  | some moment => { e with schedule := e.schedule.moveTo moment }.settle.moveTo moment stop
  | none => { e with schedule := e.schedule.moveTo stop }.settle
termination_by stop - start
decreasing_by
  exact Nat.sub_lt_sub_left (Nat.lt_of_lt_of_le moment.2.1 moment.2.2) moment.2.1

/-- Move the clock forward. -/
def advance (e : Exchange) (span : Millis) : Exchange :=
  e.moveTo e.schedule.now (e.schedule.now + span)

/-! ### Starting tasks -/

/-- Send a request and keep a handle on it. -/
def send (e : Exchange) (request : Message) (timeout : Option Millis) : TaskId × Exchange :=
  e.spawn (.caller (.starting request timeout .handle))

/-- Send a request with the usual deadline and wait for its reply. -/
def call (e : Exchange) (request : Message) : TaskId × Exchange :=
  e.spawn (.caller (.starting request e.correlator.requestTimeout .reply))

/-- Make a client's call. -/
def ask (e : Exchange) (call : Client.Call) : TaskId × Exchange :=
  e.spawn (.caller (.starting call.request e.correlator.requestTimeout (.answer call)))

/-- Wait for the reply to a request that was sent. -/
def wait (e : Exchange) (handle : Handle) : TaskId × Exchange :=
  e.spawn (.caller (.waiting handle .reply))

/-- Give a handle up. -/
def abandon (e : Exchange) (handle : Handle) : Exchange :=
  e.setCorrelator (e.correlator.abandon handle.id e.schedule.now)

/-- Route what arrives at a source. -/
def receiveFrom (e : Exchange) (source : Source) : TaskId × Exchange :=
  e.spawn (.receiver { source })

/-- Handle a request and hand its reply over. -/
def dispatch (e : Exchange) (request : Message) : TaskId × Exchange :=
  e.spawn (.handler { request, purpose := .reply })

/-- Handle the request in a frame and hand the frame of its reply over. -/
def dispatchFrame (e : Exchange) (frame : Frame.Bytes) : TaskId × Exchange :=
  match e.dispatcher.codec.decode frame with
  | .ok request => e.spawn (.handler { request, purpose := .frame })
  | .error fault => e.spawn (.ended (.frame (.error fault)))

/-- Serve the requests that arrive at a source. -/
def serve (e : Exchange) (source : Source) (sink : Sink) : TaskId × Exchange :=
  e.spawn (.server { source, sink })

/-- Answer the requests that arrive at a source by a list of actions each. -/
def answerFrom (e : Exchange) (source : Source) (side : Link.Side)
    (answers : List (List PeerAction)) : TaskId × Exchange :=
  e.spawn (.peer { source, side, answers })

end Parley.Exchange
