/-
# What a serving exchange does

In an exchange that serves, each step of a task is of one of a few kinds: the server takes what
has arrived, a handler forwards its request, comes to its reply or sends it, an engine call
goes on, or nothing changes.  All that is said about such an exchange is read off these
kinds.
-/

import Parley.Exchange.Serving
import Parley.Proofs.Exchange.Outcomes
import Parley.Proofs.Exchange.Paths

namespace Parley

open Parley.Frame (Bytes)
open Parley.Link (Arrival)

namespace Link

/-- An open channel of this capacity with these frames in it; nobody waits for room. -/
def Lane.Stores (lane : Lane) (capacity : Nat) (frames : List Bytes) : Prop :=
  ∃ c, lane = .channel c ∧ c.capacity = capacity ∧ c.queue = frames ∧ c.waiting = [] ∧
    c.receiverGone = false

namespace Lane.Stores

variable {lane : Lane} {capacity : Nat} {frames : List Bytes}

/-- A lane that stores frames has these in it. -/
theorem frames_eq (h : lane.Stores capacity frames) : lane.frames = frames := by
  obtain ⟨c, rfl, -, hqueue, -⟩ := h
  exact hqueue

/-- A lane stores the same frames when its sender is gone. -/
theorem closeSender (h : lane.Stores capacity frames) :
    lane.closeSender.Stores capacity frames := by
  obtain ⟨c, rfl, hcapacity, hqueue, hwaiting, hopen⟩ := h
  exact ⟨_, rfl, hcapacity, hqueue, hwaiting, hopen⟩

/-- There is room for one more frame. -/
theorem send (h : lane.Stores capacity frames) (hroom : frames.length < capacity) (t : TaskId)
    (frame : Bytes) : ∃ lane', lane.send t frame = (.sent, lane') ∧
      lane'.Stores capacity (frames ++ [frame]) := by
  obtain ⟨c, rfl, rfl, rfl, hwaiting, hopen⟩ := h
  have hsend : c.send t frame =
      (.sent, { c.leave t with queue := c.queue ++ [frame] }) := by
    have hplace : c.waiting.findIdx (· == t) < c.room := by
      rw [hwaiting, List.findIdx_nil, Channel.room]
      exact Nat.sub_pos_of_lt hroom
    have hopen' : ¬ c.receiverGone = true := by simp [hopen]
    simp only [Channel.send, if_neg hopen', if_pos hplace]
  refine ⟨.channel { c.leave t with queue := c.queue ++ [frame] }, ?_, _, rfl, rfl, rfl, ?_, hopen⟩
  · simp only [Lane.send, hsend]
  · simp only [Channel.leave, hwaiting, List.filter_nil]

end Lane.Stores

end Link

namespace Exchange

variable {e e' : Exchange} {t u : TaskId} {codec : Codec} {request : Message} {phase : HandlerPhase}
  {capacity : Nat} {frames : List Bytes} {work : Work}

/-! ### Where the replies go -/

/-- The channel to the right side has this capacity and these frames in it. -/
def Stores (e : Exchange) (capacity : Nat) (frames : List Bytes) : Prop :=
  (e.link.outward .right).Stores capacity frames

namespace Stores

/-- An exchange that stores frames has sent these. -/
theorem sent_eq (h : e.Stores capacity frames) : e.sent = frames :=
  Link.Lane.Stores.frames_eq h

/-- An exchange stores the same frames while the link is the same. -/
theorem congr (h : e.Stores capacity frames) (hlink : e'.link = e.link) :
    e'.Stores capacity frames := by
  rw [Stores, hlink]
  exact h

/-- An exchange stores the same frames when a task that sends to the right at most ends. -/
theorem releaseSide (h : e.Stores capacity frames) {side : Link.Side}
    (hreads : work.readsFrom side = false) (hsends : work.sendsTo side = true → side = .right) :
    (e.releaseSide work side).Stores capacity frames := by
  have hreads' : ¬ work.readsFrom side = true := by simp [hreads]
  rw [Exchange.releaseSide, if_neg hreads']
  split
  next hlast =>
    rw [Bool.and_eq_true] at hlast
    obtain rfl := hsends hlast.1
    change ((e.link.releaseSink .right).outward .right).Stores capacity frames
    unfold Link.releaseSink Link.settleHalves
    dsimp only
    split <;> split <;> first | exact h | exact Link.Lane.Stores.closeSender h
  next => exact h

/-- A task ends that reads off no side and sends to no other side. -/
theorem finish (h : e.Stores capacity frames) (hwork : e.work? t = some work)
    (hreads : ∀ side, work.readsFrom side = false)
    (hsends : ∀ side, work.sendsTo side = true → side = .right) (result : Ended) :
    (e.finish t result).Stores capacity frames := by
  let ended : Exchange :=
    { e.setWork t (.ended result) with schedule := e.schedule.forget t }
  have hended : ended.Stores capacity frames := h
  rw [Exchange.finish, hwork]
  exact (hended.releaseSide (hreads .left) (hsends .left)).releaseSide (hreads .right)
    (hsends .right)

/-- A frame is sent for which there is room. -/
theorem transmit (h : e.Stores capacity frames) (hroom : frames.length < capacity) (t : TaskId)
    (frame : Bytes) : ∃ e', e.transmit t (.link .right) frame = (.sent, e') ∧
      e'.Stores capacity (frames ++ [frame]) := by
  obtain ⟨lane, hsend, hstores⟩ := Link.Lane.Stores.send h hroom t frame
  refine ⟨e.setLink (e.link.setOutward .right lane), ?_, hstores⟩
  simp only [Exchange.transmit, Link.send, hsend]

end Stores

/-! ### What one step changes -/

/-- What a server is at that has these arrivals before it. -/
abbrev Work.serving (rest : List Arrival) : Work :=
  .server { source := .script rest, sink := .link .right }

/-- What a handler is at that sends its reply to the right side. -/
abbrev Work.handling (request : Message) (phase : HandlerPhase) : Work :=
  .handler { request, purpose := .send (.link .right), phase }

/-- What a handler is at that is done. -/
abbrev Work.handled : Work :=
  .ended (.loop (.ok ()))

/-- The task `t` is at something else now, one task may have been added, and these frames were
sent for which there was room. -/
structure Moved (e e' : Exchange) (t : TaskId) (work : Work) (added : Option Work)
    (out : List Bytes) : Prop where
  work : ∀ u, e'.work? u =
    if u = t then some work else if u = e.tasks.length then added else e.work? u
  length : e'.tasks.length = e.tasks.length + added.toList.length
  stopped : e'.stopped = e.stopped
  shutdown : e'.dispatcher.shutdown = e.dispatcher.shutdown
  stores : ∀ capacity frames, e.Stores capacity frames → (out ≠ [] → frames.length < capacity) →
    e'.Stores capacity (frames ++ out)

/-- The number of the next task is free. -/
theorem work?_length (e : Exchange) : e.work? e.tasks.length = none := by
  rw [work?, List.getElem?_eq_none (Nat.le_refl _), Option.map_none]

namespace Moved

variable {out : List Bytes} {old : Work}

/-- The task is at something else, and nothing was sent. -/
theorem of_modify (hwork : e.work? t = some old)
    (htasks : e'.tasks = e.tasks.modify t fun task => { task with work })
    (hstopped : e'.stopped = e.stopped)
    (hshutdown : e'.dispatcher.shutdown = e.dispatcher.shutdown)
    (hstores : ∀ capacity frames, e.Stores capacity frames → e'.Stores capacity frames) :
    Moved e e' t work none [] where
  work u := by
    rw [work?_of_modify htasks, hwork, Option.map_some]
    by_cases hu : u = e.tasks.length
    · rw [if_pos hu, hu, work?_length]
    · rw [if_neg hu]
  length := by rw [htasks, List.length_modify, Option.toList_none, List.length_nil, Nat.add_zero]
  stopped := hstopped
  shutdown := hshutdown
  stores capacity frames h _ := by
    rw [List.append_nil]
    exact hstores capacity frames h

/-- A task that goes on has moved. -/
theorem setWork (hwork : e.work? t = some old) (work : Work) :
    Moved e (e.setWork t work) t work none [] :=
  of_modify hwork rfl rfl rfl fun _ _ h => h

/-- A task that ends and sends to the right at most has moved. -/
theorem finish (hwork : e.work? t = some old) (hreads : ∀ side, old.readsFrom side = false)
    (hsends : ∀ side, old.sendsTo side = true → side = .right) (result : Ended) :
    Moved e (e.finish t result) t (.ended result) none [] :=
  of_modify hwork (tasks_finish e t result)
    (congrArg Parts.stopped (parts_finish e t result)) (shutdown_finish e t result)
    fun _ _ h => h.finish hwork hreads hsends result

/-- A task goes on where it was. -/
theorem same (hwork : e.work? t = some work) (htasks : e'.tasks = e.tasks)
    (hparts : e'.parts = e.parts)
    (hstores : ∀ capacity frames, e.Stores capacity frames →
      (out ≠ [] → frames.length < capacity) → e'.Stores capacity (frames ++ out)) :
    Moved e e' t work none out where
  work u := by
    have hsame : e'.work? u = e.work? u := by rw [work?, work?, htasks]
    rw [hsame]
    by_cases hut : u = t
    · rw [if_pos hut, hut, hwork]
    · by_cases hu : u = e.tasks.length
      · rw [if_neg hut, if_pos hu, hu, work?_length]
      · rw [if_neg hut, if_neg hu]
  length := by rw [htasks, Option.toList_none, List.length_nil, Nat.add_zero]
  stopped := congrArg Parts.stopped hparts
  shutdown := congrArg (fun parts : Parts => parts.dispatcher.shutdown) hparts
  stores := hstores

/-- A frame is sent for which there is room. -/
theorem transmit {frame : Bytes} (hwork : e.work? t = some work)
    (hsend : e.transmit t (.link .right) frame = (.sent, e')) :
    Moved e e' t work none [frame] := by
  have hafter : e' = (e.transmit t (.link .right) frame).2 := by rw [hsend]
  refine same hwork ?_ ?_ fun capacity frames hstores hroom => ?_
  · rw [hafter]
    exact tasks_transmit e t _ frame
  · rw [hafter]
    exact parts_transmit e t _ frame
  · obtain ⟨after, hsend', hstored⟩ := hstores.transmit (hroom (List.cons_ne_nil _ _)) t frame
    cases hsend.symm.trans hsend'
    exact hstored

/-- A task is added afterwards. -/
theorem spawn (h : Moved e e' t work none out) (hlt : t < e.tasks.length) (new : Work) :
    Moved e (e'.spawn new).2 t work (some new) out where
  work u := by
    have hlength : e'.tasks.length = e.tasks.length := h.length
    rw [work?_of_append (tasks_spawn e' new), hlength, h.work]
    by_cases hu : u = e.tasks.length
    · rw [if_pos hu, if_neg (hu ▸ Ne.symm (Nat.ne_of_lt hlt)), if_pos hu]
    · rw [if_neg hu, if_neg hu, if_neg hu]
  length := by
    rw [tasks_spawn, List.length_append, h.length]
    rfl
  stopped := (congrArg Parts.stopped (parts_spawn e' new)).trans h.stopped
  shutdown :=
    Eq.trans (congrArg (fun parts : Parts => parts.dispatcher.shutdown) (parts_spawn e' new))
      h.shutdown
  stores capacity frames hstores hroom :=
    (h.stores capacity frames hstores hroom).congr (link_spawn e' new)

/-- A task that moves on without sending has moved in all. -/
theorem trans {e'' : Exchange} {work' : Work} (h : Moved e e' t work none out)
    (h' : Moved e' e'' t work' none []) : Moved e e'' t work' none out where
  work u := by
    have hlength : e'.tasks.length = e.tasks.length := h.length
    rw [h'.work, h.work, hlength]
    by_cases hut : u = t
    · rw [if_pos hut, if_pos hut]
    · by_cases hu : u = e.tasks.length
      · simp only [if_neg hut, if_pos hu]
      · simp only [if_neg hut, if_neg hu]
  length := h'.length.trans (congrArg (· + _) h.length)
  stopped := h'.stopped.trans h.stopped
  shutdown := h'.shutdown.trans h.shutdown
  stores capacity frames hstores hroom := by
    have hafter := h'.stores capacity (frames ++ out) (h.stores capacity frames hstores hroom)
      fun hne => absurd rfl hne
    rwa [List.append_nil] at hafter

/-- A task that moves after the table has changed has moved in all. -/
theorem of_poised {poised : Exchange} {added : Option Work} (hpoised : Poised e poised)
    (h : Moved poised e' t work added out) : Moved e e' t work added out where
  work u := by rw [h.work, hpoised.work, hpoised.length]
  length := by rw [h.length, hpoised.length]
  stopped := h.stopped.trans hpoised.stopped
  shutdown := h.shutdown.trans hpoised.shutdown
  stores capacity frames hstores hroom :=
    h.stores capacity frames (hstores.congr hpoised.link) hroom

end Moved

/-! ### The kinds of steps -/

/-- What a task is at, other than the server, in an exchange that serves. -/
inductive Staff : Work → Prop where
  | handling (request : Message) (phase : HandlerPhase) (hstays : asksShutdown request = false) :
      Staff (.handling request phase)
  | handled : Staff .handled
  | call {work : Work} (hcall : work.isCall = true) : Staff work

/-- What a step of a task can do. -/
inductive Proceeds (codec : Codec) (e : Exchange) (t : TaskId) (e' : Exchange) : Prop where
  /-- The server takes a request and gives it a handler. -/
  | accepts {frame : Bytes} {rest : List Arrival} {request : Message}
      (hserver : e.work? t = some (.serving (.frame frame :: rest)))
      (hrequest : codec.decode frame = .ok request)
      (hmoved : Moved e e' t (.serving rest) (some (.handling request .starting)) [])
  /-- The server takes something else. -/
  | skips {arrival : Arrival} {rest : List Arrival}
      (hserver : e.work? t = some (.serving (arrival :: rest))) (hcloses : ¬ Closes arrival)
      (hnone : ∀ frame request, arrival = .frame frame → codec.decode frame ≠ .ok request)
      (hmoved : Moved e e' t (.serving rest) none [])
  /-- The server ends. -/
  | closes {last : Arrival} {rest : List Arrival}
      (hserver : e.work? t = some (.serving (last :: rest))) (hcloses : Closes last)
      (hmoved : Moved e e' t (.ended (.loop (closing last))) none [])
  /-- A handler makes a task of its engine call. -/
  | forwards {request blank : Message} {job : Dispatcher.Job} {tracked : Bool}
      (hhandler : e.work? t = some (.handling request .starting)) (hreply : e.replyAt? t = none)
      (hmoved : Moved e e' t (.handling request (.joining job e.tasks.length tracked))
        (some (.engineCall { request, blank })) [])
  /-- A handler comes to a reply that has a frame. -/
  | replies {request : Message} {phase : HandlerPhase} {reply : Message} {frame : Bytes}
      (hhandler : e.work? t = some (.handling request phase))
      (hreply : e.replyAt? t = some (.ok reply)) (hframe : codec.encode reply = .ok frame)
      (hmoved : Moved e e' t (.handling request (.transmitting frame)) none [])
  /-- A handler comes to no reply, or to one without a frame. -/
  | drops {request : Message} {phase : HandlerPhase} {reply : Except Fault Message} {fault : Fault}
      (hhandler : e.work? t = some (.handling request phase)) (hreply : e.replyAt? t = some reply)
      (hframe : reply.bind codec.encode = .error fault)
      (hmoved : Moved e e' t .handled none [])
  /-- A handler sends its frame. -/
  | sends {request : Message} {frame : Bytes}
      (hhandler : e.work? t = some (.handling request (.transmitting frame)))
      (hmoved : Moved e e' t .handled none [frame])
  /-- An engine call goes on or ends. -/
  | calls {work : Work} (hcall : e.isCall t = true) (hnow : work.isCall = true)
      (hmoved : Moved e e' t work none [])
  /-- Nothing changes. -/
  | rests (hsame : e' = e) (hreply : e.replyAt? t = none) (harriving : e.arriving? t = none)

/-- What holds at any moment of the tasks of an exchange that serves. -/
structure Attended (codec : Codec) (e : Exchange) : Prop where
  codec_eq : e.dispatcher.codec = codec
  stopped : e.stopped = false
  shutdown : e.dispatcher.shutdown = false
  server : ∀ work, e.work? 0 = some work →
    (∃ rest last, (∀ arrival ∈ rest, Passes codec arrival) ∧ Closes last ∧
      work = .serving (rest ++ [last])) ∨ ∃ outcome, work = .ended (.loop outcome)
  staff : ∀ t work, t ≠ 0 → e.work? t = some work → Staff work
  /-- Nobody was told to stop but engine calls. -/
  told : ∀ t, e.aborting t = true → e.isCall t = true

/-- There is room for what a task is about to send. -/
def HasRoom (e : Exchange) (t : TaskId) : Prop :=
  ∀ request frame, e.work? t = some (.handling request (.transmitting frame)) →
    ∃ capacity frames, e.Stores capacity frames ∧ frames.length < capacity

/-- No task but an engine call was told to stop. -/
theorem Attended.free (h : Attended codec e) (hwork : e.work? t = some work)
    (hnot : work.isCall = false) : e.aborting t = false := by
  refine Bool.eq_false_iff.2 fun haborting => ?_
  have hcall := h.told t haborting
  rw [isCall, hwork, Option.any_some, hnot] at hcall
  cases hcall

/-! ### The server -/

/-- What the server does in its turn. -/
theorem proceeds_server {rest : List Arrival} {last : Arrival} (h : Attended codec e)
    (hwork : e.work? t = some (.serving (rest ++ [last])))
    (hrest : ∀ arrival ∈ rest, Passes codec arrival) (hlast : Closes last) :
    Proceeds codec e t (e.step t).1 := by
  have hgoes : ¬ (e.stopped || e.dispatcher.shutdown) = true := by
    rw [h.stopped, h.shutdown]
    exact Bool.false_ne_true
  have hset : ∀ rest', Moved e (e.setWork t (.serving rest')) t (.serving rest') none [] :=
    fun rest' => Moved.setWork hwork _
  rw [step_of_work? hwork (h.free hwork rfl)]
  cases rest with
  | nil =>
    have hend : ∀ outcome, Moved e ((e.setWork t (.serving [])).finish t (.loop outcome)) t
        (.ended (.loop outcome)) none [] := by
      intro outcome
      have hnow : (e.setWork t (.serving [])).work? t = some (.serving []) := by
        rw [work?_setWork, if_pos rfl, hwork, Option.map_some]
      exact (hset []).trans
        (Moved.finish hnow (fun _ => rfl) (fun side hside => (beq_iff_eq.1 hside).symm) _)
    cases last with
    | nothing => cases hlast
    | frame frame => cases hlast
    | fault fault =>
      refine .closes hwork hlast ?_
      have hfatal : ¬ fault.isProtocol = true := by
        rw [show fault.isProtocol = false from hlast]
        exact Bool.false_ne_true
      simp only [stepServer, if_neg hgoes, arrive, List.nil_append, if_neg hfatal]
      exact hend (.error fault)
    | ended =>
      refine .closes hwork hlast ?_
      simp only [stepServer, if_neg hgoes, arrive, List.nil_append]
      exact hend (.ok ())
  | cons arrival rest =>
    have hpasses := hrest arrival List.mem_cons_self
    cases arrival with
    | nothing => cases hpasses
    | ended => cases hpasses
    | frame frame =>
      cases hdecode : codec.decode frame with
      | ok request =>
        refine .accepts hwork hdecode ?_
        simp only [stepServer, if_neg hgoes, arrive, List.cons_append, setWork, h.codec_eq, hdecode]
        exact (hset _).spawn (lt_of_work? hwork) _
      | error fault =>
        refine .skips hwork id (fun frame' request heq => ?_) ?_
        · cases heq
          rw [hdecode]
          exact fun hok => by cases hok
        · simp only [stepServer, if_neg hgoes, arrive, List.cons_append, setWork, h.codec_eq,
            hdecode]
          exact hset _
    | fault fault =>
      refine .skips hwork ?_ (fun frame' request heq => by cases heq) ?_
      · rw [Closes, show fault.isProtocol = true from hpasses]
        exact Bool.noConfusion
      · simp only [stepServer, if_neg hgoes, arrive, List.cons_append,
          if_pos (show fault.isProtocol = true from hpasses)]
        exact hset _

/-! ### Handlers -/

/-- A handler that sends its replies to the right side is done. -/
theorem moved_endSending {poised : Exchange} (hpoised : Poised e poised)
    (hwork : e.work? t = some (.handling request phase)) (hstays : asksShutdown request = false)
    (handler : Handler) (hrequest : handler.request = request) :
    Moved e (poised.endSending t handler) t .handled none [] := by
  have hstays' : ¬ asksShutdown handler.request = true := by
    rw [hrequest, hstays]
    exact Bool.false_ne_true
  rw [endSending, if_neg hstays']
  exact Moved.of_poised hpoised (Moved.finish ((hpoised.work t).trans hwork) (fun _ => rfl)
    (fun side hside => (beq_iff_eq.1 hside).symm) _)

/-- What a handler does that comes to its reply. -/
theorem proceeds_reply {reply : Except Fault Message} (h : Attended codec e)
    (hwork : e.work? t = some (.handling request phase)) (hstays : asksShutdown request = false)
    (hreply : e.replyAt? t = some reply) : Proceeds codec e t (e.step t).1 := by
  obtain ⟨handler, poised, hhandler, hpoised, hstep⟩ :=
    step_of_replyAt? (h.free hwork rfl) hreply
  cases hwork.symm.trans hhandler
  have hcodec : poised.dispatcher.codec = codec := hpoised.codec.trans h.codec_eq
  rw [hstep]
  simp only [conclude, hcodec]
  cases hframe : reply.bind codec.encode with
  | error fault =>
    exact .drops hwork hreply hframe (moved_endSending hpoised hwork hstays _ rfl)
  | ok frame =>
    obtain ⟨message, rfl, hencode⟩ := bind_eq_ok.1 hframe
    exact .replies hwork hreply hencode
      (Moved.of_poised hpoised (Moved.setWork ((hpoised.work t).trans hwork) _))

/-- A handler that forwards its request is at the call, which is a new task. -/
theorem moved_forward {job : Dispatcher.Job}
    (hwork : e.work? t = some (.handling request .starting)) :
    Moved e (e.forward t { request, purpose := .send (.link .right) } job) t
      (.handling request (.joining job e.tasks.length
        (e.dispatcher.track job.id e.tasks.length).1))
      (some (.engineCall { request, blank := job.blank })) [] where
  work u := work?_forward job hwork u
  length := length_forward _ job
  stopped := rfl
  shutdown := by
    rw [dispatcher_forward, Dispatcher.track]
    split <;> rfl
  stores capacity frames hstores _ := by
    rw [List.append_nil]
    exact hstores.congr rfl

/-- What a handler does in its turn. -/
theorem proceeds_handler (h : Attended codec e)
    (hwork : e.work? t = some (.handling request phase)) (hstays : asksShutdown request = false)
    (hroom : e.HasRoom t) : Proceeds codec e t (e.step t).1 := by
  have hfree := h.free hwork rfl
  cases hreply : e.replyAt? t with
  | some reply => exact proceeds_reply h hwork hstays hreply
  | none =>
    cases hdispatches : e.dispatches t with
    | true =>
      rcases step_of_replyAt?_eq_none hfree hdispatches hreply with
        ⟨handler, job, hhandler, hphase, -, hstep⟩ | ⟨handler, hhandler, -, hstep⟩
      · cases hwork.symm.trans hhandler
        obtain rfl : phase = .starting := hphase
        rw [hstep]
        exact .forwards hwork hreply (moved_forward hwork)
      · exact .rests hstep hreply (by rw [arriving?, hhandler])
    | false =>
      cases phase with
      | starting => cases (dispatches_of_work? hwork).symm.trans hdispatches
      | joining job c tracked => cases (dispatches_of_work? hwork).symm.trans hdispatches
      | transmitting frame =>
        obtain ⟨capacity, frames, hstores, hlt⟩ := hroom request frame hwork
        obtain ⟨after, hsend, -⟩ := hstores.transmit hlt t frame
        have hsent := Moved.transmit hwork hsend
        have hnow : after.work? t = some (.handling request (.transmitting frame)) := by
          rw [hsent.work, if_pos rfl]
        refine .sends hwork ?_
        rw [step_of_work? hwork hfree]
        simp only [stepHandler, hsend]
        exact hsent.trans (moved_endSending (.refl after) hnow hstays _ rfl)

/-! ### Engine calls -/

/-- A task that has ended rests. -/
theorem proceeds_ended {result : Ended} (hwork : e.work? t = some (.ended result)) :
    Proceeds codec e t (e.step t).1 := by
  refine .rests (step_of_ended hwork) ?_ ?_
  · rw [replyAt?, hwork]
  · rw [arriving?, hwork]

/-- A task at the work of an engine call is one. -/
theorem isCall_of_work? (hwork : e.work? t = some work) (hcall : work.isCall = true) :
    e.isCall t = true := by
  rw [isCall, hwork]
  exact hcall

/-- What an engine call does in its turn. -/
theorem moved_stepEngineCall {call : EngineCall} (hwork : e.work? t = some (.engineCall call)) :
    ∃ work, work.isCall = true ∧ Moved e (e.stepEngineCall t call).1 t work none [] := by
  have hfinish : ∀ ending : Engine.Ending, ∃ work, work.isCall = true ∧
      Moved e (e.finish t (.call ending)) t work none [] :=
    fun ending => ⟨_, rfl, Moved.finish hwork (fun _ => rfl) nofun _⟩
  have hset : ∀ next : EngineCall, ∃ work, work.isCall = true ∧
      Moved e (e.setWork t (.engineCall next)) t work none [] :=
    fun next => ⟨_, rfl, Moved.setWork hwork _⟩
  have hkeep : ∀ e' : Exchange, e'.tasks = e.tasks → e'.parts = e.parts → e'.link = e.link →
      ∃ work, work.isCall = true ∧ Moved e e' t work none [] := by
    intro e' htasks hparts hlink
    refine ⟨.engineCall call, rfl, Moved.same hwork htasks hparts fun _ _ hstores _ => ?_⟩
    rw [List.append_nil]
    exact hstores.congr hlink
  obtain ⟨request, blank, phase⟩ := call
  cases phase with
  | starting =>
    simp only [stepEngineCall]
    split
    · exact hfinish _
    · exact ⟨_, rfl, Moved.of_modify hwork rfl rfl rfl fun _ _ hstores => hstores.congr rfl⟩
  | working call outcome =>
    cases outcome with
    | usual | ok value | error error | panic text => exact hfinish _
    | never => exact hkeep e rfl rfl rfl
    | after span next => exact hset _
  | sleeping moment call outcome =>
    simp only [stepEngineCall]
    split
    · exact hset _
    · exact hkeep _ (tasks_sleep e t moment) (parts_sleep e t moment) (link_sleep e t moment)

/-- What an engine call does in its turn, also when it was told to stop. -/
theorem proceeds_call (hwork : e.work? t = some work) (hcall : work.isCall = true) :
    Proceeds codec e t (e.step t).1 := by
  cases work with
  | ended result => exact proceeds_ended hwork
  | engineCall call =>
    by_cases haborting : e.aborting t = true
    · rcases step_of_aborting hwork haborting with ⟨⟨result, hresult⟩, -⟩ | ⟨-, hstep⟩
      · cases hresult
      · rw [hstep]
        exact .calls (isCall_of_work? hwork hcall) rfl
          (Moved.finish hwork (fun _ => rfl) nofun .aborted)
    · rw [step_of_work? hwork (Bool.eq_false_iff.2 haborting)]
      obtain ⟨work', hcall', hmoved⟩ := moved_stepEngineCall hwork
      exact .calls (isCall_of_work? hwork hcall) hcall' hmoved
  | _ => cases hcall

/-! ### Any task -/

/-- What a step can do in an exchange that serves. -/
theorem proceeds_step (h : Attended codec e) (t : TaskId) (hroom : e.HasRoom t) :
    Proceeds codec e t (e.step t).1 := by
  cases hwork : e.work? t with
  | none =>
    refine .rests (by rw [step_of_work?_eq_none hwork]) ?_ ?_
    · rw [replyAt?, hwork]
    · rw [arriving?, hwork]
  | some work =>
    by_cases ht : t = 0
    · subst ht
      rcases h.server work hwork with ⟨rest, last, hrest, hlast, rfl⟩ | ⟨result, rfl⟩
      · exact proceeds_server h hwork hrest hlast
      · exact proceeds_ended hwork
    · cases h.staff t work ht hwork with
      | handling request phase hstays => exact proceeds_handler h hwork hstays hroom
      | handled => exact proceeds_ended hwork
      | call hcall => exact proceeds_call hwork hcall

/-! ### What holds of the tasks -/

namespace Attended

/-- Engine calls are told to stop, and nobody else. -/
theorem told_step (h : Attended codec e) (horderly : Orderly e)
    (hnow : (e.step t).1.aborting u = true) : (e.step t).1.isCall u = true := by
  apply isCall_step
  rcases aborting_of_happen e (.step t) hnow with hold | hfalse | ⟨s, id, -, -, hlookup⟩
  · exact h.told u hold
  · cases hfalse
  · exact horderly.isCall_of_tracked ⟨id, mem_of_lookup hlookup⟩

/-- The task of a step and a task that was added are where they may be. -/
theorem of_moved {added : Option Work} {out : List Bytes} {old : Work} (h : Attended codec e)
    (horderly : Orderly e) (hwork : e.work? t = some old)
    (hmoved : Moved e (e.step t).1 t work added out)
    (hserver : t = 0 → (∃ rest last, (∀ arrival ∈ rest, Passes codec arrival) ∧ Closes last ∧
      work = .serving (rest ++ [last])) ∨ ∃ outcome, work = .ended (.loop outcome))
    (hstaff : t ≠ 0 → Staff work) (hadded : ∀ new, added = some new → Staff new) :
    Attended codec (e.step t).1 where
  codec_eq := (codec_happen e (.step t)).trans h.codec_eq
  stopped := hmoved.stopped.trans h.stopped
  shutdown := hmoved.shutdown.trans h.shutdown
  server now hnow := by
    have hnew : 0 ≠ e.tasks.length := Nat.ne_of_lt (Nat.zero_lt_of_lt (lt_of_work? hwork))
    rw [hmoved.work, if_neg hnew] at hnow
    by_cases ht : 0 = t
    · rw [if_pos ht, Option.some.injEq] at hnow
      rw [← hnow]
      exact hserver ht.symm
    · rw [if_neg ht] at hnow
      exact h.server now hnow
  staff u now hu hnow := by
    rw [hmoved.work] at hnow
    by_cases hut : u = t
    · rw [if_pos hut, Option.some.injEq] at hnow
      rw [← hnow]
      exact hstaff (hut ▸ hu)
    · rw [if_neg hut] at hnow
      by_cases hnew : u = e.tasks.length
      · rw [if_pos hnew] at hnow
        exact hadded now hnow
      · rw [if_neg hnew] at hnow
        exact h.staff u now hu hnow
  told _ := h.told_step horderly

/-- What a server has before it when it has taken one arrival. -/
theorem rest_of_serving {arrival : Arrival} {rest : List Arrival} (h : Attended codec e)
    (hwork : e.work? t = some (.serving (arrival :: rest))) :
    t = 0 ∧ (Closes arrival ∨ Passes codec arrival ∧ ∃ rest' last,
      (∀ arrival ∈ rest', Passes codec arrival) ∧ Closes last ∧ rest = rest' ++ [last]) := by
  by_cases ht : t = 0
  · subst ht
    refine ⟨rfl, ?_⟩
    rcases h.server _ hwork with ⟨rest', last, hrest, hlast, heq⟩ | ⟨result, heq⟩
    · cases rest' with
      | nil =>
        cases heq
        exact Or.inl hlast
      | cons first rest' =>
        cases heq
        exact Or.inr ⟨hrest _ List.mem_cons_self, rest', last,
          fun arrival hmem => hrest arrival (List.mem_cons_of_mem _ hmem), hlast, rfl⟩
    · cases heq
  · cases h.staff t _ ht hwork with
    | call hcall => cases hcall

/-- A handler is not the server, and its request is none to shut down. -/
theorem of_handling (h : Attended codec e) (hwork : e.work? t = some (.handling request phase)) :
    t ≠ 0 ∧ asksShutdown request = false := by
  have ht : t ≠ 0 := by
    rintro rfl
    rcases h.server _ hwork with ⟨rest, last, -, -, heq⟩ | ⟨result, heq⟩ <;> cases heq
  refine ⟨ht, ?_⟩
  cases h.staff t _ ht hwork with
  | handling request phase hstays => exact hstays
  | call hcall => cases hcall

/-- Only the server takes what arrives. -/
theorem arriving?_of_ne (h : Attended codec e) (ht : t ≠ 0) : e.arriving? t = none := by
  unfold arriving?
  split
  next hwork =>
    cases h.staff t _ ht hwork with
    | call hcall => cases hcall
  next => rfl

/-- An engine call is not the server. -/
theorem ne_zero_of_isCall (h : Attended codec e) (hcall : e.isCall t = true) : t ≠ 0 := by
  rintro rfl
  obtain ⟨work, hwork, hwas⟩ := (Option.any_eq_true _ _).1 hcall
  rcases h.server work hwork with ⟨rest, last, -, -, rfl⟩ | ⟨outcome, rfl⟩ <;> cases hwas

/-- The tasks stay what they may be with every step. -/
theorem step (h : Attended codec e) (horderly : Orderly e) (hroom : e.HasRoom t) :
    Attended codec (e.step t).1 := by
  cases proceeds_step h t hroom with
  | accepts hserver hrequest hmoved =>
    obtain ⟨ht, hcloses | ⟨hpasses, rest, last, hrest, hlast, rfl⟩⟩ := h.rest_of_serving hserver
    · cases hcloses
    · refine h.of_moved horderly hserver hmoved (fun _ => Or.inl ⟨rest, last, hrest, hlast, rfl⟩)
        (fun hne => absurd ht hne) fun new hnew => ?_
      cases hnew
      exact .handling _ _ (hpasses _ hrequest)
  | skips hserver hcloses hnone hmoved =>
    obtain ⟨ht, hcloses' | ⟨-, rest, last, hrest, hlast, rfl⟩⟩ := h.rest_of_serving hserver
    · exact absurd hcloses' hcloses
    · exact h.of_moved horderly hserver hmoved (fun _ => Or.inl ⟨rest, last, hrest, hlast, rfl⟩)
        (fun hne => absurd ht hne) fun _ hnew => by cases hnew
  | closes hserver hcloses hmoved =>
    obtain ⟨ht, -⟩ := h.rest_of_serving hserver
    exact h.of_moved horderly hserver hmoved (fun _ => Or.inr ⟨_, rfl⟩)
      (fun hne => absurd ht hne) fun _ hnew => by cases hnew
  | forwards hhandler hreply hmoved =>
    obtain ⟨ht, hstays⟩ := h.of_handling hhandler
    refine h.of_moved horderly hhandler hmoved (fun hzero => absurd hzero ht)
      (fun _ => .handling _ _ hstays) fun new hnew => ?_
    cases hnew
    exact .call rfl
  | replies hhandler hreply hframe hmoved =>
    obtain ⟨ht, hstays⟩ := h.of_handling hhandler
    exact h.of_moved horderly hhandler hmoved (fun hzero => absurd hzero ht)
      (fun _ => .handling _ _ hstays) fun _ hnew => by cases hnew
  | drops hhandler hreply hframe hmoved =>
    obtain ⟨ht, -⟩ := h.of_handling hhandler
    exact h.of_moved horderly hhandler hmoved (fun hzero => absurd hzero ht)
      (fun _ => .handled) fun _ hnew => by cases hnew
  | sends hhandler hmoved =>
    obtain ⟨ht, -⟩ := h.of_handling hhandler
    exact h.of_moved horderly hhandler hmoved (fun hzero => absurd hzero ht)
      (fun _ => .handled) fun _ hnew => by cases hnew
  | calls hcall hnow hmoved =>
    obtain ⟨old, hwork, -⟩ := (Option.any_eq_true _ _).1 hcall
    exact h.of_moved horderly hwork hmoved
      (fun hzero => absurd hzero (h.ne_zero_of_isCall hcall)) (fun _ => .call hnow)
      fun _ hnew => by cases hnew
  | rests hsame =>
    rw [hsame]
    exact h

/-- The server goes on with the rest, or it has taken the last arrival. -/
theorem step_server {arrival : Arrival} {rest : List Arrival} (h : Attended codec e)
    (hwork : e.work? t = some (.serving (arrival :: rest))) :
    (Closes arrival ∧
      Moved e (e.step t).1 t (.ended (.loop (closing arrival))) none []) ∨
    (¬ Closes arrival ∧ ∃ added, Moved e (e.step t).1 t (.serving rest) added []) := by
  have hroom : e.HasRoom t := by
    intro request frame hhandler
    cases hwork.symm.trans hhandler
  cases proceeds_step h t hroom with
  | accepts hserver hrequest hmoved =>
    cases hwork.symm.trans hserver
    exact Or.inr ⟨id, _, hmoved⟩
  | skips hserver hcloses hnone hmoved =>
    cases hwork.symm.trans hserver
    exact Or.inr ⟨hcloses, _, hmoved⟩
  | closes hserver hcloses hmoved =>
    cases hwork.symm.trans hserver
    exact Or.inl ⟨hcloses, hmoved⟩
  | forwards hhandler => cases hwork.symm.trans hhandler
  | replies hhandler => cases hwork.symm.trans hhandler
  | drops hhandler => cases hwork.symm.trans hhandler
  | sends hhandler => cases hwork.symm.trans hhandler
  | calls hcall =>
    rw [isCall, hwork] at hcall
    cases hcall
  | rests hsame hreply harriving =>
    rw [arriving?, hwork] at harriving
    cases harriving

end Attended

end Exchange

end Parley
