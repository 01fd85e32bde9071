/-
# The steps of tasks

What each kind of task does in one step.  A step tells whether the task can go on
at once; one that cannot has to wait until it is woken.
-/

import Parley.Exchange.Basic

namespace Parley.Exchange

open Parley.Frame (Bytes)

/-! ### Callers -/

/-- What a caller ends with, given the outcome of its request. -/
def Aim.ended (aim : Aim) (verdict : Verdict) : Ended :=
  match aim with
  | .answer call => .answer (call.answer verdict)
  | _ => .reply verdict

/-- What a caller ends with whose request was not sent. -/
def Aim.unsent (aim : Aim) (request : Message) (fault : Fault) : Ended :=
  match aim with
  | .handle => .sent (.error fault) request
  | _ => aim.ended (.error fault)

/-- The handle of a request that is issued now. -/
def handleFrom (e : Exchange) (id : Int64) (timeout : Option Millis) : Handle :=
  { id, deadline := timeout.map (e.schedule.now + ·) }

/-- A caller records its request, transmits it and waits for the outcome.  A deadline
that has passed counts only when no outcome has come before. -/
def stepCaller (e : Exchange) (t : TaskId) : Caller → Exchange × Bool
  | .starting request timeout aim =>
      let (request, outcome, correlator) := e.correlator.issue request
      let e := e.setCorrelator correlator
      match outcome with
      | .error fault => (e.finish t (aim.unsent request fault), false)
      | .ok (id, frame) =>
          let handle := e.handleFrom id timeout
          (e.setWork t (.caller (.transmitting request handle frame aim)), true)
  | .transmitting request handle rest aim =>
      match e.transmit t e.outlet rest with
      | (.blocked rest, e) =>
          (e.setWork t (.caller (.transmitting request handle rest aim)), false)
      | (.refused fault, e) =>
          let e := e.setCorrelator (e.correlator.withdraw handle.id)
          (e.finish t (aim.unsent request fault), false)
      | (.sent, e) =>
          match aim with
          | .handle => (e.finish t (.sent (.ok handle) request), false)
          | _ => (e.setWork t (.caller (.waiting handle aim)), true)
  | .waiting handle aim =>
      match e.correlator.poll handle.id handle.deadline e.schedule.now false with
      | (some verdict, correlator) =>
          ((e.setCorrelator correlator).finish t (aim.ended verdict), false)
      | (none, _) =>
          match handle.deadline with
          | none => (e, false)
          | some deadline => (if deadline ≤ e.schedule.now then e else e.sleep t deadline, false)

/-! ### Receivers -/

/-- A receiver ends: what is still in flight fails. -/
def endReceiver (e : Exchange) (t : TaskId) : Exchange :=
  (e.setCorrelator e.correlator.close).finish t (.loop (.ok ()))

/-- A receiver routes frames until the connection is closed, fails or is given up.
What cannot be routed is dropped. -/
def stepReceiver (e : Exchange) (t : TaskId) (r : Receiver) : Exchange × Bool :=
  if e.stopped then (e.endReceiver t, false)
  else
    let (arrival, source, e) := e.arrive r.source
    let e := e.setWork t (.receiver { r with source })
    match arrival with
    | .nothing => (e, false)
    | .frame frame =>
        (e.setCorrelator (e.correlator.receiveFrame frame e.schedule.now).2, true)
    | .fault fault => if fault.isProtocol then (e, true) else (e.endReceiver t, false)
    | .ended => (e.endReceiver t, false)

/-! ### Handlers -/

/-- Whether a request asks to shut down. -/
def asksShutdown (request : Message) : Bool :=
  request.tag == .request .terminate

/-- A handler that sends its reply is done, whether the reply went out or not. -/
def endSending (e : Exchange) (t : TaskId) (h : Handler) : Exchange :=
  let e := if asksShutdown h.request then e.setShutdown else e
  e.finish t (.loop (.ok ()))

/-- A handler has its reply, or there is none. -/
def conclude (e : Exchange) (t : TaskId) (h : Handler) (reply : Except Fault Message) :
    Exchange × Bool :=
  match h.purpose with
  | .reply => (e.finish t (.reply reply), false)
  | .frame =>
      let frame := reply.bind e.dispatcher.codec.encode
      let e := if frame.toBool && asksShutdown h.request then e.setShutdown else e
      (e.finish t (.frame frame), false)
  | .send _ =>
      match reply.bind e.dispatcher.codec.encode with
      | .ok frame => (e.setWork t (.handler { h with phase := .transmitting frame }), true)
      | .error _ => (e.endSending t h, false)

/-- A handler makes the engine call of its request a task of its own, which is tracked if
it can be, and waits until it ends. -/
def forward (e : Exchange) (t : TaskId) (h : Handler) (job : Dispatcher.Job) : Exchange :=
  let (call, e) := e.spawn (.engineCall { request := h.request, blank := job.blank })
  let (tracked, dispatcher) := e.dispatcher.track job.id call
  { e with dispatcher }.setWork t (.handler { h with phase := .joining job call tracked })

/-- A handler finds the reply to its request. -/
def stepHandler (e : Exchange) (t : TaskId) (h : Handler) : Exchange × Bool :=
  match h.phase with
  | .starting =>
      match e.dispatcher.accept h.request with
      | .error fault => e.conclude t h (.error fault)
      | .ok job =>
          match Dispatcher.route h.request.tag with
          | .acknowledge => e.conclude t h (job.reply (.ok job.blank))
          | .cancel =>
              let (outcome, victim, dispatcher) := e.dispatcher.cancelRunning h.request job
              let e := { e with dispatcher }
              let e :=
                match victim with
                | some call => e.abort call
                | none => e
              e.conclude t h (job.reply outcome)
          | .engine => (e.forward t h job, true)
  | .joining job call tracked =>
      let resume (ending : Engine.Ending) : Exchange × Bool :=
        let e :=
          if tracked then { e with dispatcher := e.dispatcher.untrack job.id call } else e
        e.conclude t h (job.reply (Dispatcher.outcomeOf ending))
      match e.ended? call with
      | some (.call ending) => resume ending
      | some .aborted => resume .aborted
      | _ => (e, false)
  | .transmitting rest =>
      match h.purpose with
      | .send sink =>
          match e.transmit t sink rest with
          | (.blocked rest, e) =>
              (e.setWork t (.handler { h with phase := .transmitting rest }), false)
          | (_, e) => (e.endSending t h, false)
      | _ => (e.endSending t h, false)

/-! ### Engine calls -/

/-- The engine is called: it notes the call, which goes as the engine was told. -/
def callEngine (e : Exchange) (t : TaskId) (c : EngineCall) (call : Engine.Call) : Exchange :=
  let (outcome, engine) := e.engine.start call
  { e with engine }.setWork t (.engineCall { c with phase := .working call outcome })

/-- An engine call begins when the request reads as a call, and ends when the engine has
come to its outcome. -/
def stepEngineCall (e : Exchange) (t : TaskId) (c : EngineCall) : Exchange × Bool :=
  match c.phase with
  | .starting =>
      match Engine.Call.ofRequest c.request with
      | .error error => (e.finish t (.call (.returned (.error error))), false)
      | .ok call => (e.callEngine t c call, true)
  | .working call outcome =>
      let succeed (value : Engine.Value) : Exchange × Bool :=
        (e.finish t (.call (.returned (call.answer value c.blank))), false)
      match outcome with
      | .usual => succeed call.usualValue
      | .ok value => succeed value
      | .error error => (e.finish t (.call (.returned (.error error))), false)
      | .panic text => (e.finish t (.call (.panicked text)), false)
      | .never => (e, false)
      | .after span next =>
          (e.setWork t
            (.engineCall { c with phase := .sleeping (e.schedule.now + span) call next }), true)
  | .sleeping moment call outcome =>
      if moment ≤ e.schedule.now then
        (e.setWork t (.engineCall { c with phase := .working call outcome }), true)
      else (e.sleep t moment, false)

/-! ### Servers -/

/-- A server gives each request that it can decode a handler, until the connection is
closed or fails, it is told to stop or the peer has asked to shut down. -/
def stepServer (e : Exchange) (t : TaskId) (s : Server) : Exchange × Bool :=
  let end_ (e : Exchange) (outcome : Except Fault Unit) : Exchange × Bool :=
    (e.finish t (.loop outcome), false)
  if e.stopped || e.dispatcher.shutdown then end_ e (.ok ())
  else
    let (arrival, source, e) := e.arrive s.source
    let e := e.setWork t (.server { s with source })
    match arrival with
    | .nothing => (e, false)
    | .frame frame =>
        match e.dispatcher.codec.decode frame with
        | .ok request => ((e.spawn (.handler { request, purpose := .send s.sink })).2, true)
        | .error _ => (e, true)
    | .fault fault => if fault.isProtocol then (e, true) else end_ e (.error fault)
    | .ended => end_ e (.ok ())

/-! ### Scripted peers -/

/-- A scripted peer notes a request and acts upon it. -/
def stepPeer (e : Exchange) (t : TaskId) (p : Peer) : Exchange × Bool :=
  let left (e : Exchange) : Exchange × Bool := (e.finish t (.loop (.ok ())), false)
  let goOn (e : Exchange) (p : Peer) : Exchange × Bool := (e.setWork t (.peer p), true)
  match p.phase with
  | .listening =>
      let (arrival, source, e) := e.arrive p.source
      let p := { p with source }
      match arrival with
      | .nothing => (e.setWork t (.peer p), false)
      | .frame frame =>
          match Codec.standard.decode frame with
          | .error _ => goOn e p
          | .ok request =>
              let actions := p.answers.head?.getD []
              goOn { e with seen := e.seen ++ [request] }
                { p with
                  answers := p.answers.tail, phase := .acting request.requestId actions }
      | .fault fault => if fault.isProtocol then goOn e p else left e
      | .ended => left e
  | .acting id actions =>
      match actions with
      | [] => goOn e { p with phase := .listening }
      | .close :: _ => left e
      | .send frame :: rest => goOn e { p with phase := .transmitting id frame rest }
      | .echo reply :: rest =>
          match Codec.standard.encode (reply.setRequestId id) with
          | .ok frame => goOn e { p with phase := .transmitting id frame rest }
          | .error _ => goOn e { p with phase := .acting id rest }
  | .transmitting id bytes actions =>
      match e.transmit t (.link p.side) bytes with
      | (.blocked rest, e) =>
          (e.setWork t (.peer { p with phase := .transmitting id rest actions }), false)
      | (_, e) => goOn e { p with phase := .acting id actions }

/-! ### All tasks -/

/-- What is done when a task is stopped before it has ended.  A caller that waits
gives its request up; one that is still transmitting leaves its request in flight.
A handler leaves its engine call running. -/
def drop (e : Exchange) (t : TaskId) (work : Work) : Exchange :=
  match work with
  | .caller (.transmitting ..) => e.leave t e.outlet
  | .caller (.waiting handle _) =>
      e.setCorrelator (e.correlator.abandon handle.id e.schedule.now)
  | .handler { purpose := .send sink, phase := .transmitting _, .. } => e.leave t sink
  | .peer { side, phase := .transmitting .., .. } => e.leave t (.link side)
  | _ => e

/-- One step of a task, and whether the task can go on at once. -/
def step (e : Exchange) (t : TaskId) : Exchange × Bool :=
  match e.tasks[t]? with
  | none => (e, false)
  | some { work := .ended _, .. } => (e, false)
  | some { work, aborting := true } => ((e.drop t work).finish t .aborted, false)
  | some { work := .caller c, .. } => e.stepCaller t c
  | some { work := .receiver r, .. } => e.stepReceiver t r
  | some { work := .handler h, .. } => e.stepHandler t h
  | some { work := .engineCall c, .. } => e.stepEngineCall t c
  | some { work := .server s, .. } => e.stepServer t s
  | some { work := .peer p, .. } => e.stepPeer t p

/-- Some steps, each by the task named. -/
def steps (e : Exchange) (ts : List TaskId) : Exchange :=
  ts.foldl (fun e t => (e.step t).1) e

end Parley.Exchange
