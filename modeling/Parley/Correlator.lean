/-
# Correlation of requests and replies

Every request that is sent gets an id of its own and an entry in the table of
requests in flight.  The entry is taken out by exactly one of: the reply with that
id, a cancellation, the deadline, the end of the connection.  Whoever takes it out
delivers the outcome; the caller collects it.

Time comes in from outside: each operation that depends on it is told the moment.
-/

import Parley.Correlator.Table
import Parley.Frame.Codec
import Parley.Settings

namespace Parley

/-- What a reply or a failure means to the caller of a request. -/
abbrev Verdict := Except Fault Message

/-- An outcome on its way to the caller of the request with this id. -/
abbrev Delivery := Int64 × Verdict

/-- What became of an inbound reply. -/
inductive Receipt where
  /-- It was delivered to its caller. -/
  | matched
  /-- It came too late and was dropped. -/
  | discarded
deriving DecidableEq, Repr

/-- The name of a receipt. -/
def Receipt.name : Receipt → String
  | .matched => "Matched"
  | .discarded => "Discarded"

/-- The state of a correlator. -/
structure Correlator where
  codec : Codec
  /-- The deadline of a request that is sent without one of its own. -/
  requestTimeout : Option Millis
  retiredTtl : Millis
  /-- The id of the next request. -/
  nextId : Int64 := 1
  table : InFlight := {}
  /-- Outcomes that their callers have not collected yet. -/
  delivered : List Delivery := []

namespace Correlator

/-- A correlator with these settings.  A timeout of zero is none. -/
def new (codec : Codec) (settings : Settings) : Correlator where
  codec := codec.limitedTo settings.maxFrameSize
  requestTimeout := if settings.requestTimeout = 0 then none else some settings.requestTimeout
  retiredTtl := settings.retiredReplyTtl

/-- Number of requests that wait for a reply. -/
def inFlight (c : Correlator) : Nat :=
  c.table.pending.length

/-- An outcome reaches its caller. -/
def deliver (c : Correlator) (due : Delivery) : Correlator :=
  { c with delivered := c.delivered ++ [due] }

/-- Some outcomes reach their callers. -/
def deliverAll (c : Correlator) (due : List Delivery) : Correlator :=
  due.foldl deliver c

/-- A request that has got its id and its frame and is to be recorded. -/
structure Ready where
  id : Int64
  /-- The type of the reply that is expected. -/
  expected : Tag
  frame : Frame.Bytes

/-- Give a request its id.  The request as it is afterwards comes with what is wrong
with it, if anything is.  An id is used up even when the request cannot be encoded. -/
def stamp (c : Correlator) (request : Message) : Message × Except Fault Ready × Correlator :=
  match request.expectedReply? with
  | none => (request, .error (.unexpectedMessage request.tag), c)
  | some expected =>
      let id := c.nextId
      let c := { c with nextId := id + 1 }
      if request.hasRequestId then
        let request := request.setRequestId id
        (request, (c.codec.encode request).map fun frame => ⟨id, expected, frame⟩, c)
      else (request, .error (.unexpectedMessage request.tag), c)

/-- Record a request that expects this type of reply. -/
def enter (c : Correlator) (id : Int64) (expected : Tag) : Correlator :=
  { c with table := c.table.record id expected }

/-- Give a request its id and record it.  The request as it is afterwards comes with
the id and the frame to transmit, or with what is wrong with the request. -/
def issue (c : Correlator) (request : Message) :
    Message × Except Fault (Int64 × Frame.Bytes) × Correlator :=
  match c.stamp request with
  | (request, .error fault, c) => (request, .error fault, c)
  | (request, .ok ready, c) => (request, .ok (ready.id, ready.frame), c.enter ready.id ready.expected)

/-- The request could not be transmitted and is no longer in flight. -/
def withdraw (c : Correlator) (id : Int64) : Correlator :=
  { c with table := c.table.resolve id }

/-- Take a request out of the table that is given up: the outcome to deliver, if it was
in flight. -/
def giveUp (c : Correlator) (id : Int64) (now : Millis) : Option Delivery × Correlator :=
  match c.table.retire? id now c.retiredTtl with
  | some table => (some (id, .error .cancelled), { c with table })
  | none => (none, c)

/-- Cancel a request; tells whether it was in flight. -/
def cancel (c : Correlator) (id : Int64) (now : Millis) : Bool × Correlator :=
  let (due, c) := c.giveUp id now
  (due.isSome, c.deliverAll due.toList)

/-- The deadline of a request has passed; tells whether it was still in flight.  The
caller finds the outcome itself. -/
def expire (c : Correlator) (id : Int64) (now : Millis) : Bool × Correlator :=
  match c.table.retire? id now c.retiredTtl with
  | some table => (true, { c with table })
  | none => (false, c)

/-- Take the request out of the table that a reply answers: what became of the reply,
and the outcome to deliver. -/
def route (c : Correlator) (reply : Message) (now : Millis) :
    Except Fault Receipt × Option Delivery × Correlator :=
  if reply.isReply then
    let id := reply.requestId
    match c.table.expected? id with
    | some expected =>
        let c := { c with table := c.table.resolve id }
        if reply.tag = expected then (.ok .matched, some (id, .ok reply), c)
        else
          let fault := .replyTypeMismatch expected reply.tag
          (.error fault, some (id, .error fault), c)
    | none =>
        let table := c.table.prune now c.retiredTtl
        if table.isRetired id then (.ok .discarded, none, { c with table := table.forget id })
        else (.error (.unmatched id), none, { c with table })
  else (.error (.unexpectedMessage reply.tag), none, c)

/-- Route a reply to its caller. -/
def receive (c : Correlator) (reply : Message) (now : Millis) :
    Except Fault Receipt × Correlator :=
  let (receipt, due, c) := c.route reply now
  (receipt, c.deliverAll due.toList)

/-- Decode a frame and route it as a reply. -/
def receiveFrame (c : Correlator) (frame : Frame.Bytes) (now : Millis) :
    Except Fault Receipt × Correlator :=
  match c.codec.decode frame with
  | .ok reply => c.receive reply now
  | .error fault => (.error fault, c)

/-- Take every request out of the table, now that the connection is closed: the
outcomes to deliver. -/
def drain (c : Correlator) : List Delivery × Correlator :=
  (c.table.pending.map fun entry => (entry.1, .error .connectionClosed),
    { c with table := { c.table with pending := [] } })

/-- The connection is closed: every request in flight fails. -/
def close (c : Correlator) : Correlator :=
  let (due, c) := c.drain
  c.deliverAll due

/-- The caller takes the outcome of its request, if there is one. -/
def collect (c : Correlator) (id : Int64) : Option Verdict × Correlator :=
  match c.delivered.lookup id with
  | some verdict => (some verdict, { c with delivered := c.delivered.filter (·.1 != id) })
  | none => (none, c)

/-- A caller that waits looks whether its request has an outcome, and a deadline that has
passed makes one if the request is still in flight.  When an outcome has come and the
deadline has passed as well, either may be looked at first: `clockFirst` tells which. -/
def poll (c : Correlator) (id : Int64) (deadline : Option Millis) (now : Millis)
    (clockFirst : Bool) : Option Verdict × Correlator :=
  let look (c : Correlator) : Option Verdict × Correlator := c.collect id
  let strike (c : Correlator) : Option Verdict × Correlator :=
    match c.expire id now with
    | (true, c) => (some (.error .timeout), c)
    | (false, c) => (none, c)
  if deadline.any fun deadline => decide (deadline ≤ now) then
    let (first, second) := if clockFirst then (strike, look) else (look, strike)
    match first c with
    | (some verdict, c) => (some verdict, c)
    | (none, c) => second c
  else look c

/-- The caller gives up its claim to the outcome: the request is given up if it is in
flight, and an outcome that was not collected is lost. -/
def abandon (c : Correlator) (id : Int64) (now : Millis) : Correlator :=
  let (_, c) := c.giveUp id now
  { c with delivered := c.delivered.filter (·.1 != id) }

/-- A span of time for people: whole seconds and the rest of them without trailing
zeros, or milliseconds below a second. -/
def spanText (span : Millis) : String :=
  let pad (digits : Nat) (n : Nat) : String :=
    String.ofList (List.replicate (digits - (Decimal.natText n).length) '0') ++ Decimal.natText n
  let fraction (n : Nat) : String :=
    if n = 0 then ""
    else if n % 100 = 0 then "." ++ pad 1 (n / 100)
    else if n % 10 = 0 then "." ++ pad 2 (n / 10)
    else "." ++ pad 3 n
  if span < 1000 then Decimal.natText span ++ "ms"
  else Decimal.natText (span / 1000) ++ fraction (span % 1000) ++ "s"

/-- A summary for people. -/
def summary (c : Correlator) : String :=
  let timeout :=
    match c.requestTimeout with
    | some span => "Some(" ++ spanText span ++ ")"
    | none => "None"
  "Correlator \x7b in_flight: " ++ Decimal.natText c.inFlight
    ++ ", request_timeout: " ++ timeout ++ ", .. \x7d"

end Correlator

end Parley
