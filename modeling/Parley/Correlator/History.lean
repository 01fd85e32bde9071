/-
# What a session remembers of its past

The history of a session tells for every move when it was made and how far the callers had
come by then.  What has become of a request is read off its history without a look at the
table: whether it was recorded and nothing has resolved it since, which move resolved it,
and whether its late reply is dropped quietly, because the request was given up, not long
ago, and no reply for it has come since.

A correlator forgets the requests that were given up by and by.  Beside it stands here a
table that forgets none of them by age and compares ages only when it is asked.
-/

import Parley.Correlator.Session

namespace Parley

/-- Whether a request was given up less than `ttl` ago, asked of a table that may hold
older ones as well. -/
def InFlight.isRetiredWithin (table : InFlight) (id : Int64) (now ttl : Millis) : Bool :=
  table.retired.any fun entry => entry.1 == id && decide (now - entry.2 < ttl)

namespace Stage

/-- Whether the frame of the request is being sent. -/
def isSending : Stage → Bool
  | .transmitting _ => true
  | _ => false

/-- Whether the caller has a handle, whether it waits on it or not. -/
def hasHandle : Stage → Bool
  | .held _ => true
  | .waiting _ => true
  | _ => false

/-- Whether the caller waits and its deadline has passed. -/
def isOverdue (now : Millis) : Stage → Bool
  | .waiting deadline => deadline.any fun deadline => decide (deadline ≤ now)
  | _ => false

end Stage

namespace Correlator

namespace Move

/-- The request that a move gives up if it resolves it. -/
def givenUp? : Move → Option Int64
  | .cancel id => some id
  | .drop id => some id
  | .poll id _ => some id
  | _ => none

/-- Whether a move uses the next id up.  A request that expects no reply gets none. -/
def spendsId : Move → Bool
  | .stamp request _ => request.expectedReply?.isSome
  | .skip => true
  | _ => false

/-- How far the caller of a request comes by a move that does not resolve the request: by its
own moves only. -/
def advance (id : Int64) (stage : Stage) : Move → Stage
  | .transmitted other =>
      match stage with
      | .transmitting deadline => if id = other then .held deadline else stage
      | _ => stage
  | .forsake other =>
      match stage with
      | .transmitting _ => if id = other then .gone else stage
      | _ => stage
  | .wait other =>
      match stage with
      | .held deadline => if id = other then .waiting deadline else stage
      | _ => stage
  | _ => stage

end Move

/-- A move in a history. -/
structure Happening where
  move : Move
  moment : Millis
  /-- How far the callers had come. -/
  stage : Int64 → Stage

namespace Happening

/-- Whether a request that expects this type of reply is recorded by this. -/
def Records (happening : Happening) (id : Int64) (expected : Tag) : Prop :=
  happening.move = .enter id ∧ ∃ timeout, happening.stage id = .stamped expected timeout

/-- Whether a request is resolved by this if it is in flight: by a reply for it, by its
cancellation or by the end of the connection, and from the side of its caller when the frame
cannot be sent, when the handle or the wait on it is dropped, or when the caller looks for
the outcome after the deadline. -/
def resolves (happening : Happening) (id : Int64) : Bool :=
  match happening.move with
  | .reply message => message.isReply && id == message.requestId
  | .cancel other => id == other
  | .close => true
  | .refused other => id == other && (happening.stage id).isSending
  | .drop other => id == other && (happening.stage id).hasHandle
  | .poll other _ => id == other && (happening.stage id).isOverdue happening.moment
  | _ => false

/-- Whether a request is cancelled, abandoned or out of time by this if it is in flight. -/
def GivesUp (happening : Happening) (id : Int64) : Prop :=
  happening.move.givenUp? = some id ∧ happening.resolves id = true

/-- Whether this is the arrival of a reply for a request. -/
def Answers (happening : Happening) (id : Int64) : Prop :=
  ∃ message, happening.move = .reply message ∧ message.isReply = true ∧ message.requestId = id

end Happening

/-- Whether a request was recorded and nothing has resolved it since. -/
def Unresolved (history : List Happening) (id : Int64) (expected : Tag) : Prop :=
  ∃ before recording after, history = before ++ recording :: after ∧
    recording.Records id expected ∧ ∀ later ∈ after, later.resolves id = false

/-- Whether a request that nothing had resolved before was resolved by this. -/
def ResolvedBy (history : List Happening) (id : Int64) (happening : Happening) : Prop :=
  ∃ before after, history = before ++ happening :: after ∧
    (∃ expected, Unresolved before id expected) ∧ happening.resolves id = true

/-- Whether a request was given up at this moment, as the first thing that resolved it, and no
reply for it has arrived since. -/
def Outstanding (history : List Happening) (id : Int64) (moment : Millis) : Prop :=
  ∃ before happening after, history = before ++ happening :: after ∧
    (∃ expected, Unresolved before id expected) ∧ happening.GivesUp id ∧
    happening.moment = moment ∧ ∀ later ∈ after, ¬ later.Answers id

/-- The id that is given out next after a history. -/
def nextIdAfter (history : List Happening) : Int64 :=
  Int64.ofNat (history.countP (fun happening => happening.move.spendsId) + 1)

/-- Whether the request that got this id was sent with this timeout and expects this type of
reply. -/
def Stamped (history : List Happening) (id : Int64) (expected : Tag) (timeout : Option Millis) :
    Prop :=
  ∃ before stamping after request, history = before ++ stamping :: after ∧
    stamping.move = .stamp request timeout ∧ request.expectedReply? = some expected ∧
      nextIdAfter before = id

/-- How far the caller of a request that was recorded with this deadline has come, when nothing
has resolved the request since. -/
def stageSince (id : Int64) (deadline : Option Millis) (since : List Happening) : Stage :=
  since.foldl (fun stage later => later.move.advance id stage) (.transmitting deadline)

/-- What becomes of a reply when ages are compared on looking up and only then. -/
def answerByAge (c : Correlator) (reply : Message) (now : Millis) : Except Fault Receipt :=
  if reply.isReply then
    match c.table.expected? reply.requestId with
    | some expected =>
        if reply.tag = expected then .ok .matched
        else .error (.replyTypeMismatch expected reply.tag)
    | none =>
        if c.table.isRetiredWithin reply.requestId now c.retiredTtl then .ok .discarded
        else .error (.unmatched reply.requestId)
  else .error (.unexpectedMessage reply.tag)

namespace Session

/-- A move made now. -/
def happening (s : Session) (move : Move) : Happening :=
  ⟨move, s.now, s.stage⟩

/-- The history of some moves from here on. -/
def history (s : Session) : List Move → List Happening
  | [] => []
  | move :: moves => s.happening move :: (s.move move).history moves

/-- The requests that were given up, with their moments. -/
def retired (s : Session) : List (Int64 × Millis) :=
  s.correlator.table.retired

/-- A session that remembers other requests as given up. -/
def withRetired (s : Session) (retired : List (Int64 × Millis)) : Session :=
  { s with
    correlator := { s.correlator with table := { s.correlator.table with retired } } }

/-- What is remembered after a move when nothing is forgotten by age.  A request in flight
that is given up is added.  A reply for a request that is not in flight asks for it, and it
is asked for only once. -/
def keep (s : Session) (move : Move) : List (Int64 × Millis) :=
  match move with
  | .reply message =>
      if message.isReply && (s.correlator.table.expected? message.requestId).isNone then
        s.retired.filter (·.1 != message.requestId)
      else s.retired
  | move =>
      match move.givenUp? with
      | some id =>
          if (s.correlator.table.expected? id).isSome && (s.happening move).resolves id then
            s.retired.filter (·.1 != id) ++ [(id, s.now)]
          else s.retired
      | none => s.retired

/-- A move in a session that forgets nothing by age. -/
def moveKeeping (s : Session) (move : Move) : Session :=
  (s.move move).withRetired (s.keep move)

/-- A session after some moves when it forgets nothing by age. -/
def runKeeping (s : Session) (moves : List Move) : Session :=
  moves.foldl moveKeeping s

end Session

end Correlator

end Parley
