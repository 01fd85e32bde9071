/-
# Sessions of a correlator

A session is everything that can happen to one correlator, in any order: requests are
sent by callers that are tasks of their own, replies arrive, requests are cancelled,
handles are waited on or dropped, the connection is closed and time passes.  Whoever
takes the entry of a request out of the table delivers the outcome later, so other
moves may come in between.

Two records are kept beside: the requests that were recorded, and for every entry that
has left the table the move that took it out.  The second one is read off the table
before and after the move and does not depend on what the move was meant to do.
-/

import Parley.Correlator

namespace Parley

/-- How far the caller of a request has come. -/
inductive Stage where
  /-- No request has this id. -/
  | unused
  /-- The request has its id and is not recorded yet. -/
  | stamped (expected : Tag) (timeout : Option Millis)
  /-- The request is recorded and its frame is being sent. -/
  | transmitting (deadline : Option Millis)
  /-- The caller has a handle. -/
  | held (deadline : Option Millis)
  | waiting (deadline : Option Millis)
  /-- The wait has returned. -/
  | settled (verdict : Verdict)
  /-- The frame was not transmitted. -/
  | failed
  /-- The caller has gone away. -/
  | gone

namespace Correlator

/-- A correlator among its callers. -/
structure Session where
  correlator : Correlator
  now : Millis := 0
  /-- Outcomes whose requests have left the table and that are yet to be delivered. -/
  due : List Delivery := []
  stage : Int64 → Stage := fun _ => .unused
  /-- The requests that were recorded, with the type of reply that each expects. -/
  recorded : List (Int64 × Tag) := []

/-- What can happen in a session. -/
inductive Move where
  /-- A caller has its request stamped with an id. -/
  | stamp (request : Message) (timeout : Option Millis)
  /-- Another correlator of the process uses an id up. -/
  | skip
  /-- A stamped request is recorded. -/
  | enter (id : Int64)
  /-- The frame of a request is out. -/
  | transmitted (id : Int64)
  /-- The frame of a request could not be sent. -/
  | refused (id : Int64)
  /-- A caller goes away while its frame is being sent. -/
  | forsake (id : Int64)
  | reply (message : Message)
  | cancel (id : Int64)
  | close
  /-- An outcome that is due reaches its caller. -/
  | deliver (index : Nat)
  /-- The holder of a handle begins to wait. -/
  | wait (id : Int64)
  /-- The handle, or the wait on it, is dropped. -/
  | drop (id : Int64)
  /-- A caller that waits looks for its outcome. -/
  | poll (id : Int64) (clockFirst : Bool)
  /-- Time passes. -/
  | pass (span : Millis)

/-- Whether a move uses an id up. -/
def Move.takesId : Move → Bool
  | .stamp .. => true
  | .skip => true
  | _ => false

/-- What the caller of request `id` is to be told when this move takes its entry out of
the table; nothing when no caller learns of it. -/
def Move.verdict? (id : Int64) (expected : Tag) : Move → Option Verdict
  | .reply message =>
      if message.requestId = id then
        some (if message.tag = expected then .ok message
          else .error (.replyTypeMismatch expected message.tag))
      else none
  | .cancel other => if other = id then some (.error .cancelled) else none
  | .poll other _ => if other = id then some (.error .timeout) else none
  | .close => some (.error .connectionClosed)
  | _ => none

namespace Session

/-- A session with a new correlator. -/
def start (codec : Codec) (settings : Settings) : Session where
  correlator := Correlator.new codec settings

/-- Set how far a caller has come. -/
def setStage (s : Session) (id : Int64) (stage : Stage) : Session :=
  { s with stage := fun other => if other = id then stage else s.stage other }

/-- Some outcomes have become due. -/
def owe (s : Session) (due : List Delivery) (correlator : Correlator) : Session :=
  { s with correlator, due := s.due ++ due }

/-- What a move does.  A move for which its caller has not come far enough, or has gone
too far, does nothing. -/
def move (s : Session) : Move → Session
  | .stamp request timeout =>
      match s.correlator.stamp request with
      | (_, .ok ready, correlator) =>
          { s with correlator }.setStage ready.id (.stamped ready.expected timeout)
      | (_, .error _, correlator) => { s with correlator }
  | .skip => { s with correlator := { s.correlator with nextId := s.correlator.nextId + 1 } }
  | .enter id =>
      match s.stage id with
      | .stamped expected timeout =>
          { s with
            correlator := s.correlator.enter id expected
            recorded := s.recorded ++ [(id, expected)] }.setStage id
              (.transmitting (timeout.map (s.now + ·)))
      | _ => s
  | .transmitted id =>
      match s.stage id with
      | .transmitting deadline => s.setStage id (.held deadline)
      | _ => s
  | .refused id =>
      match s.stage id with
      | .transmitting _ => { s with correlator := s.correlator.withdraw id }.setStage id .failed
      | _ => s
  | .forsake id =>
      match s.stage id with
      | .transmitting _ => s.setStage id .gone
      | _ => s
  | .reply message =>
      let (_, due, correlator) := s.correlator.route message s.now
      s.owe due.toList correlator
  | .cancel id =>
      let (due, correlator) := s.correlator.giveUp id s.now
      s.owe due.toList correlator
  | .close =>
      let (due, correlator) := s.correlator.drain
      s.owe due correlator
  | .deliver index =>
      match s.due[index]? with
      | some outcome =>
          { s with correlator := s.correlator.deliver outcome, due := s.due.eraseIdx index }
      | none => s
  | .wait id =>
      match s.stage id with
      | .held deadline => s.setStage id (.waiting deadline)
      | _ => s
  | .drop id =>
      match s.stage id with
      | .held _ => { s with correlator := s.correlator.abandon id s.now }.setStage id .gone
      | .waiting _ => { s with correlator := s.correlator.abandon id s.now }.setStage id .gone
      | _ => s
  | .poll id clockFirst =>
      match s.stage id with
      | .waiting deadline =>
          match s.correlator.poll id deadline s.now clockFirst with
          | (some verdict, correlator) => { s with correlator }.setStage id (.settled verdict)
          | (none, correlator) => { s with correlator }
      | _ => s
  | .pass span => { s with now := s.now + span }

/-- The requests that are in flight. -/
def pending (s : Session) : List (Int64 × Tag) :=
  s.correlator.table.pending

/-- The ids of the requests that were in flight before and are not after. -/
def removedBy (s after : Session) : List Int64 :=
  (s.pending.map Prod.fst).filter fun id => !((after.pending.map Prod.fst).contains id)

/-- A session after some more moves, with a record of removals that has been kept so far. -/
def runFrom (s : Session) (removals : List (Int64 × Move)) :
    List Move → Session × List (Int64 × Move)
  | [] => (s, removals)
  | move :: moves =>
      let after := s.move move
      after.runFrom (removals ++ (s.removedBy after).map fun id => (id, move)) moves

/-- A session after some moves, and for each entry that has left the table the move that
took it out. -/
def run (s : Session) (moves : List Move) : Session × List (Int64 × Move) :=
  s.runFrom [] moves

end Session

end Correlator

end Parley
