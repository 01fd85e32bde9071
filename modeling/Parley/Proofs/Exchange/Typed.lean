/-
# Typed calls among others

A client makes typed calls while others use the same correlator: they send requests of their
own, cancel requests, drop handles, close the connection and hand over whatever bytes have
arrived.  The link may carry anything, and the other tasks may do what they like.  A typed call
is never told of an unexpected message, and each reply that it is given is of the class that it
reads.
-/

import Parley.Proofs.Exchange.CallingSide
import Parley.Proofs.Exchange.Service
import Parley.Proofs.Link.Lane

namespace Parley.Exchange

open Parley.Frame (Bytes Layout sizedContent)

variable {e : Exchange} {t : TaskId} {call : Client.Call} {op : Operation} {n m : Nat}

/-! ### Courses with typed calls -/

/-- A client's call begins. -/
def calling (call : Client.Call) (timeout : Option Millis) : Opening :=
  .caller call.request timeout (.answer call)

/-- How many ids the correlator gives out during some events. -/
def idsGiven (e : Exchange) : List Event → Nat
  | [] => 0
  | event :: events =>
      e.correlator.given (e.happen event).correlator + (e.happen event).idsGiven events

/-- Whoever else uses the correlator does so in one of the ways that there are. -/
def Admits (e : Exchange) (event : Event) : Prop :=
  ∀ c, event = .correlate c → ∃ use, c = e.correlator.use e.schedule.now use

/-- The correlator is used only so during these events. -/
def UsedOnly (e : Exchange) : List Event → Prop
  | [] => True
  | event :: events => e.Admits event ∧ (e.happen event).UsedOnly events

/-- A course in which requests are sent and anything may arrive.  The correlator has not been
used before, what sends its frames reports no unexpected message of its own, and the ids do
not come round. -/
structure Open (e : Exchange) (events : List Event) : Prop where
  unused : e.correlator.Unused
  outlet : ∀ tag, e.outlet ≠ .failing (.unexpectedMessage tag)
  used : e.UsedOnly events
  few : e.idsGiven events ≤ UInt64.size

/-- What holds of the task of a typed call, however far it has come. -/
structure WellTyped (e : Exchange) (t : TaskId) (call : Client.Call) : Prop where
  /-- It calls or has ended. -/
  present : (∃ caller, e.work? t = some (.caller caller)) ∨ ∃ result, e.ended? t = some result
  /-- Its request is one: when it is stamped it gets the next id and is put into a frame, with
  the type of the reply class recorded, and nothing is wrong with it unless it has no frame. -/
  stamped : ∀ request timeout aim, e.work? t = some (.caller (.starting request timeout aim)) →
    ∃ op, call.replyClass = .reply op ∧ e.correlator.stamp request =
      (request.setRequestId e.correlator.nextId,
        (e.correlator.codec.encode (request.setRequestId e.correlator.nextId)).map
          fun frame => ⟨e.correlator.nextId, .reply op, frame⟩,
        { e.correlator with nextId := e.correlator.nextId + 1 })
  /-- A reply that the correlator hands over is of the class that the call asks for, and the
  call only checks and reads it. -/
  handed : ∀ handle aim, e.work? t = some (.caller (.waiting handle aim)) →
    ∀ deadline now clockFirst reply,
      (e.correlator.poll handle.id deadline now clockFirst).1 = some (.ok reply) →
      reply.messageClass = call.replyClass ∧
        aim.ended (.ok reply) = .answer (reply.check >>= fun _ => call.read reply)
  /-- It ends with an answer that is no unexpected message, unless it is told to stop. -/
  ended : ∀ result, e.ended? t = some result → result = .aborted ∨
    ∃ answer, result = .answer answer ∧ ∀ tag, answer ≠ .error (.unexpectedMessage tag)

/-! ### What a typed call is at -/

/-- What the task of a typed call may be at, when the next `n` ids are still to be given out.
Once its request has an id, the correlator knows under this id what suits the request. -/
inductive CallsFor (n : Nat) (c : Correlator) (call : Client.Call) (op : Operation) : Work → Prop
    where
  | starting (timeout : Option Millis) :
      CallsFor n c call op (.caller (.starting call.request timeout (.answer call)))
  | transmitting (request : Message) {handle : Handle} (rest : Bytes)
      (hexpects : c.Expects n handle.id (.reply op)) :
      CallsFor n c call op (.caller (.transmitting request handle rest (.answer call)))
  | waiting {handle : Handle} (hexpects : c.Expects n handle.id (.reply op)) :
      CallsFor n c call op (.caller (.waiting handle (.answer call)))
  | answered {answer : Except Fault Client.Answer} (hanswer : Unsurprising answer) :
      CallsFor n c call op (.ended (.answer answer))
  | aborted : CallsFor n c call op (.ended .aborted)

/-- Others may use the correlator while the task is at what it is at. -/
theorem CallsFor.step {c c' : Correlator} {work : Work}
    (h : CallsFor (c.given c' + m) c call op work) (hstep : c.Step c') :
    CallsFor m c' call op work := by
  cases h with
  | starting timeout => exact .starting timeout
  | transmitting request rest hexpects => exact .transmitting request rest (hexpects.step hstep)
  | waiting hexpects => exact .waiting (hexpects.step hstep)
  | answered hanswer => exact .answered hanswer
  | aborted => exact .aborted

/-- The outcome of a request answers a typed call without surprise. -/
theorem unsurprising_answer (hbegins : call.Begins op) {verdict : Verdict}
    (hsuits : Correlator.Suits (.reply op) verdict) : Unsurprising (call.answer verdict) := by
  cases verdict with
  | ok reply =>
    rw [Client.Call.answer_ok (hsuits.messageClass.trans hbegins.reply.symm)]
    exact reply.unsurprising_check.bind fun _ => call.unsurprising_read reply
  | error fault =>
    rw [Client.Call.answer_error]
    exact .error hsuits

/-- What sends the frames of requests reports its own faults, and a link has none that is an
unexpected message. -/
theorem transmit_refused {sink : Sink} {rest : Bytes} {fault : Fault}
    (houtlet : ∀ tag, sink ≠ .failing (.unexpectedMessage tag))
    (h : (e.transmit t sink rest).1 = .refused fault) (tag : Tag) :
    fault ≠ .unexpectedMessage tag := by
  cases sink with
  | failing reported =>
    obtain rfl : reported = fault := Link.Attempt.refused.inj h
    rintro rfl
    exact houtlet tag rfl
  | link side =>
    have hsend : ((e.link.outward side).send t rest).1 = .refused fault := h
    rcases Link.Lane.refused_of_send hsend with rfl | rfl <;> nofun

/-- The request of a typed call is stamped, and nothing is wrong with it unless it has no
frame. -/
theorem stamp_request (hbegins : call.Begins op) (c : Correlator) :
    c.stamp call.request =
      (call.request.setRequestId c.nextId,
        (c.codec.encode (call.request.setRequestId c.nextId)).map
          fun frame => ⟨c.nextId, .reply op, frame⟩,
        { c with nextId := c.nextId + 1 }) := by
  have hhas := Message.hasRequestId_of_expectedReply? hbegins.request
  simp only [Correlator.stamp, hbegins.request, hhas, if_true]

/-- The task is at what the task of a typed call may be at. -/
def Pursues (n : Nat) (e : Exchange) (t : TaskId) (call : Client.Call) (op : Operation) : Prop :=
  ∃ work, e.work? t = some work ∧ CallsFor n e.correlator call op work

/-- A task that ends with an answer that does not surprise pursues its call. -/
theorem pursues_finish {work : Work} (hwork : e.work? t = some work)
    {answer : Except Fault Client.Answer} (hanswer : Unsurprising answer) :
    Pursues n (e.finish t (.answer answer)) t call op :=
  ⟨_, by rw [work?_finish, if_pos rfl, hwork]; rfl, .answered hanswer⟩

/-- A task that goes on with work for its call pursues it. -/
theorem pursues_setWork {work work' : Work} (hwork : e.work? t = some work)
    (h : CallsFor n e.correlator call op work') : Pursues n (e.setWork t work') t call op :=
  ⟨_, by rw [work?_setWork, if_pos rfl, hwork]; rfl, h⟩

/-- A typed call that begins uses an id up, whether or not its request has a frame. -/
theorem nextId_starting (hbegins : call.Begins op) (timeout : Option Millis) :
    (e.stepCaller t (.starting call.request timeout (.answer call))).1.correlator.nextId =
      e.correlator.nextId + 1 := by
  simp only [stepCaller, Correlator.issue, stamp_request hbegins]
  cases e.correlator.codec.encode (call.request.setRequestId e.correlator.nextId) with
  | error fault =>
    exact congrArg Correlator.nextId (correlator_of_callingSide (callingSide_finish _ _ _))
  | ok frame => rfl

/-- A typed call begins: its request is in flight under the next id, or it has no frame. -/
theorem pursues_starting {timeout : Option Millis}
    (hwork : e.work? t = some (.caller (.starting call.request timeout (.answer call))))
    (hbegins : call.Begins op) (hsound : e.correlator.Sound (m + 1))
    (hfew : m + 1 ≤ UInt64.size) :
    Pursues m (e.stepCaller t (.starting call.request timeout (.answer call))).1 t call op := by
  have hstamp := stamp_request hbegins e.correlator
  cases hencode : e.correlator.codec.encode (call.request.setRequestId e.correlator.nextId) with
  | error fault =>
    have hfault := Unsurprising.of_onlyMalformed (Frame.onlyMalformed_encode e.correlator.codec
      (call.request.setRequestId e.correlator.nextId))
    rw [hencode] at hfault
    simp only [stepCaller, Correlator.issue, hstamp, hencode, Except.map]
    exact pursues_finish (e := e.setCorrelator _) hwork (.error hfault.fault_ne)
  | ok frame =>
    simp only [stepCaller, Correlator.issue, hstamp, hencode, Except.map]
    exact pursues_setWork (e := e.setCorrelator _) hwork
      (.transmitting _ _ (hsound.expects hfew (.reply op)))

/-- The request of a typed call goes out, or the call fails as the sink has failed. -/
theorem pursues_transmitting {request : Message} {handle : Handle} {rest : Bytes}
    (hwork : e.work? t = some (.caller (.transmitting request handle rest (.answer call))))
    (houtlet : ∀ tag, e.outlet ≠ .failing (.unexpectedMessage tag))
    (hexpects : Correlator.Expects n
      (e.stepCaller t (.transmitting request handle rest (.answer call))).1.correlator handle.id
      (.reply op)) :
    Pursues n (e.stepCaller t (.transmitting request handle rest (.answer call))).1 t call op := by
  have htasks := tasks_transmit e t e.outlet rest
  simp only [stepCaller] at hexpects ⊢
  cases htransmit : e.transmit t e.outlet rest with
  | mk attempt after =>
    rw [htransmit] at htasks hexpects
    have hafter : after.work? t = e.work? t :=
      congrArg (fun tasks => tasks[t]?.map Task.work) htasks
    rw [hwork] at hafter
    cases attempt with
    | blocked rest' => exact pursues_setWork hafter (.transmitting _ _ hexpects)
    | refused fault =>
      have hfault := transmit_refused houtlet (congrArg Prod.fst htransmit)
      exact pursues_finish (e := after.setCorrelator _) hafter (.error hfault)
    | sent => exact pursues_setWork hafter (.waiting hexpects)

/-- A typed call looks for its outcome and is given one that suits it, or goes on waiting. -/
theorem pursues_waiting {handle : Handle} (hbegins : call.Begins op)
    (hwork : e.work? t = some (.caller (.waiting handle (.answer call))))
    (hbefore : e.correlator.Expects m handle.id (.reply op))
    (hexpects : Correlator.Expects n
      (e.stepCaller t (.waiting handle (.answer call))).1.correlator handle.id (.reply op)) :
    Pursues n (e.stepCaller t (.waiting handle (.answer call))).1 t call op := by
  simp only [stepCaller] at hexpects ⊢
  cases hpoll : e.correlator.poll handle.id handle.deadline e.schedule.now false with
  | mk verdict correlator =>
    rw [hpoll] at hexpects
    cases verdict with
    | some verdict =>
      exact pursues_finish (e := e.setCorrelator _) hwork
        (unsurprising_answer hbegins (hbefore.poll (congrArg Prod.fst hpoll)))
    | none =>
      dsimp only at hexpects ⊢
      split at hexpects
      · exact ⟨_, hwork, .waiting hexpects⟩
      next deadline hdeadline =>
        refine ⟨_, ?_, .waiting hexpects⟩
        dsimp only
        split
        · exact hwork
        · rw [work?, tasks_sleep]
          exact hwork

/-- A task that is told to stop has ended, or it ends in its next step. -/
theorem pursues_of_aborting {work : Work} (hwork : e.work? t = some work)
    (haborting : e.aborting t = true) (h : CallsFor n (e.step t).1.correlator call op work) :
    Pursues n (e.step t).1 t call op := by
  rcases step_of_aborting hwork haborting with ⟨-, hsame⟩ | ⟨-, hends⟩
  · exact ⟨work, by rw [hsame]; exact hwork, h⟩
  · have hdrop : (e.drop t work).work? t = some work := by
      rw [work?, tasks_drop]
      exact hwork
    rw [hends]
    exact ⟨_, by rw [work?_finish, if_pos rfl, hdrop]; rfl, .aborted⟩

/-- A typed call goes on by one step of its own. -/
theorem Pursues.step_self (h : Pursues (e.correlator.given (e.step t).1.correlator + m) e t call op)
    (hbegins : call.Begins op)
    (houtlet : ∀ tag, e.outlet ≠ .failing (.unexpectedMessage tag))
    (hsound : e.correlator.Sound (e.correlator.given (e.step t).1.correlator + m))
    (hfew : e.correlator.given (e.step t).1.correlator + m ≤ UInt64.size) :
    Pursues m (e.step t).1 t call op := by
  obtain ⟨work, hwork, h⟩ := h
  have hstep := (carries_step hsound.registry t).correlator
  by_cases haborting : e.aborting t = true
  · exact pursues_of_aborting hwork haborting (h.step hstep)
  · have hnow := step_of_work? hwork (by simpa using haborting)
    cases h with
    | starting timeout =>
      have hgiven : e.correlator.given (e.step t).1.correlator = 1 :=
        Correlator.given_of_succ (by rw [hnow]; exact nextId_starting hbegins timeout)
      rw [hgiven, Nat.add_comm] at hsound hfew
      rw [hnow]
      exact pursues_starting hwork hbegins hsound hfew
    | transmitting request rest hexpects =>
      have hafter := hexpects.step hstep
      rw [hnow] at hafter ⊢
      exact pursues_transmitting hwork houtlet hafter
    | waiting hexpects =>
      have hafter := hexpects.step hstep
      rw [hnow] at hafter ⊢
      exact pursues_waiting hbegins hwork hexpects hafter
    | answered hanswer =>
      rw [hnow]
      exact ⟨_, hwork, .answered hanswer⟩
    | aborted =>
      rw [hnow]
      exact ⟨_, hwork, .aborted⟩

/-! ### Courses -/

/-- The table and the outcomes of the correlator are about ids that are not among the next `n`
ones, and its frames go where no message is unexpected. -/
structure Guarded (n : Nat) (e : Exchange) : Prop where
  sound : e.correlator.Sound n
  outlet : ∀ tag, e.outlet ≠ .failing (.unexpectedMessage tag)

/-- The correlator takes at most one step when something happens, also when someone else uses
it. -/
theorem Guarded.carries {event : Event} (h : Guarded n e)
    (hused : e.Admits event) :
    Carries e (e.happen event) := by
  refine carries_happen h.sound.registry fun c hc => ?_
  obtain ⟨use, rfl⟩ := hused c hc
  exact Correlator.step_use h.sound.registry _ use

/-- An exchange stays guarded while ids are left. -/
theorem Guarded.happen {event : Event}
    (h : Guarded (e.correlator.given (e.happen event).correlator + m) e)
    (hused : e.Admits event)
    (hfew : e.correlator.given (e.happen event).correlator + m ≤ UInt64.size) :
    Guarded m (e.happen event) where
  sound := h.sound.step (h.carries hused).correlator hfew
  outlet := (h.carries hused).outlet ▸ h.outlet

/-- A typed call stays one, whatever happens. -/
theorem Pursues.happen {event : Event}
    (h : Pursues (e.correlator.given (e.happen event).correlator + m) e t call op)
    (hbegins : call.Begins op)
    (hguarded : Guarded (e.correlator.given (e.happen event).correlator + m) e)
    (hused : e.Admits event)
    (hfew : e.correlator.given (e.happen event).correlator + m ≤ UInt64.size) :
    Pursues m (e.happen event) t call op := by
  by_cases hown : event = .step t
  · subst hown
    exact h.step_self hbegins hguarded.outlet hguarded.sound hfew
  · obtain ⟨work, hwork, hcalls⟩ := h
    exact ⟨work, by rw [work?_happen_of_ne hown (lt_of_work? hwork)]; exact hwork,
      hcalls.step (hguarded.carries hused).correlator⟩

/-- An exchange stays guarded all along a course while ids are left. -/
theorem Guarded.follow {events : List Event} (h : Guarded (e.idsGiven events + m) e)
    (hused : e.UsedOnly events) (hfew : e.idsGiven events + m ≤ UInt64.size) :
    Guarded m (e.follow events) := by
  induction events generalizing e with
  | nil =>
    rw [idsGiven, Nat.zero_add] at h
    exact h
  | cons event events ih =>
    simp only [idsGiven, Nat.add_assoc] at h hfew
    exact ih (h.happen hused.1 hfew) hused.2 (Nat.le_trans (Nat.le_add_left _ _) hfew)

/-- A typed call stays one along a course. -/
theorem Pursues.follow {events : List Event} (h : Pursues (e.idsGiven events + m) e t call op)
    (hbegins : call.Begins op)
    (hguarded : Guarded (e.idsGiven events + m) e) (hused : e.UsedOnly events)
    (hfew : e.idsGiven events + m ≤ UInt64.size) : Pursues m (e.follow events) t call op := by
  induction events generalizing e with
  | nil =>
    rw [idsGiven, Nat.zero_add] at h
    exact h
  | cons event events ih =>
    simp only [idsGiven, Nat.add_assoc] at h hguarded hfew
    exact ih (h.happen hbegins hguarded hused.1 hfew) (hguarded.happen hused.1 hfew)
      hused.2 (Nat.le_trans (Nat.le_add_left _ _) hfew)

/-- The ids given out in two parts of a course add up. -/
theorem idsGiven_append (e : Exchange) (before after : List Event) :
    e.idsGiven (before ++ after) = e.idsGiven before + (e.follow before).idsGiven after := by
  induction before generalizing e with
  | nil => exact (Nat.zero_add _).symm
  | cons event before ih =>
    simp only [List.cons_append, idsGiven, ih, Nat.add_assoc]
    rfl

/-- No event gives out more than one id. -/
theorem idsGiven_le_length (e : Exchange) (events : List Event) :
    e.idsGiven events ≤ events.length := by
  induction events generalizing e with
  | nil => exact Nat.le_refl 0
  | cons event events ih =>
    have hone : e.correlator.given (e.happen event).correlator ≤ 1 := by
      rw [Correlator.given]
      split <;> decide
    exact Nat.le_trans (Nat.add_le_add hone (ih _)) (Nat.le_of_eq (Nat.add_comm _ _))

/-- The correlator is only used in the whole when it is in both parts. -/
theorem usedOnly_append (e : Exchange) (before after : List Event) :
    e.UsedOnly (before ++ after) ↔ e.UsedOnly before ∧ (e.follow before).UsedOnly after := by
  induction before generalizing e with
  | nil => exact (iff_of_eq (true_and _)).symm
  | cons event before ih =>
    simp only [List.cons_append, UsedOnly, ih, and_assoc]
    rfl

/-- A call that has been made is at its start. -/
theorem pursues_start (n : Nat) (e : Exchange) (call : Client.Call) (op : Operation)
    (timeout : Option Millis) :
    Pursues n (e.happen (.start (calling call timeout))) e.tasks.length call op :=
  ⟨_, by rw [happen, work?_of_append (tasks_spawn e _), if_pos rfl]; rfl, .starting timeout⟩

/-- A task at a typed call is well typed. -/
theorem Pursues.wellTyped (h : Pursues n e t call op) (hbegins : call.Begins op) :
    WellTyped e t call := by
  obtain ⟨work, hwork, h⟩ := h
  refine ⟨?_, ?_, ?_, ?_⟩
  · cases h with
    | starting | transmitting | waiting => exact .inl ⟨_, hwork⟩
    | answered | aborted => exact .inr ⟨_, by rw [ended?, hwork]⟩
  · intro request timeout aim hstarting
    rw [hwork, Option.some.injEq] at hstarting
    subst hstarting
    cases h
    exact ⟨op, hbegins.reply, stamp_request hbegins e.correlator⟩
  · intro handle aim hwaiting deadline now clockFirst reply hpoll
    rw [hwork, Option.some.injEq] at hwaiting
    subst hwaiting
    cases h with
    | waiting hexpects =>
      have hreply : reply.messageClass = call.replyClass :=
        (hexpects.poll hpoll).messageClass.trans hbegins.reply.symm
      exact ⟨hreply, congrArg Ended.answer (Client.Call.answer_ok hreply)⟩
  · intro result hended
    rw [ended?, hwork] at hended
    cases h with
    | answered hanswer => exact .inr ⟨_, (Option.some.inj hended).symm, hanswer⟩
    | aborted => exact .inl (Option.some.inj hended).symm
    | _ => cases hended

/-! ### No message is unexpected -/

/-- Whatever bytes arrive and whatever else is done with the correlator, a typed call never
fails with an unexpected message: its request is one, and each reply that it is handed is of the
class that it asks for. -/
theorem calling_wellTyped (e : Exchange) (before after : List Event) (call : Client.Call)
    (timeout : Option Millis) (htyped : call.isTyped = true)
    (hopen : e.Open (before ++ .start (calling call timeout) :: after)) :
    WellTyped (e.follow (before ++ .start (calling call timeout) :: after))
      (e.follow before).tasks.length call := by
  obtain ⟨op, hbegins⟩ := Client.Call.exists_begins htyped
  obtain ⟨hbefore, hstart⟩ := (usedOnly_append e before _).1 hopen.used
  have hfew := hopen.few
  rw [idsGiven_append] at hfew
  have hguarded : Guarded _ (e.follow before) :=
    Guarded.follow ⟨hopen.unused.sound _, hopen.outlet⟩ hbefore hfew
  rw [follow_append]
  generalize e.follow before = now at *
  have hafter : now.idsGiven (.start (calling call timeout) :: after) + 0 ≤ UInt64.size :=
    Nat.le_trans (Nat.le_add_left _ _) hfew
  simp only [idsGiven, Nat.add_assoc] at hguarded hafter
  have hpursues := (pursues_start _ now call op timeout).follow (m := 0) hbegins
    (hguarded.happen hstart.1 hafter) hstart.2 (Nat.le_trans (Nat.le_add_left _ _) hafter)
  exact hpursues.wellTyped hbegins

/-- The frame of a reply with this tag that names an id. -/
def replyFrame (tag : Tag) (id : String) : Bytes :=
  sizedContent (Layout.body
    { code := tag.code, properties := [(Bag.requestIdKey, some id)], attachments := [] })

/-- A new correlator on a link. -/
def besieged : Exchange where
  link := .channels 1
  correlator := .new .standard {}
  dispatcher := { codec := .standard }

/-- A receiver is handed bytes that are no frame. -/
def skirmish : List Event :=
  [.start (.receiver (.script [.frame [0, 0, 0], .frame (replyFrame (.reply .connect) "1")])),
    .step 0]

/-- The call sends its request, a reply of the wrong class arrives, and the call looks for its
outcome. -/
def siege : List Event :=
  [.step 1, .step 1, .step 0, .step 1]

/-- The exchange when the siege is over. -/
def relieved : Exchange :=
  besieged.follow (skirmish ++ .start (calling .heartbeat none) :: siege)

/-- Then somebody hands a reply of the right class over. -/
def aftermath : Event :=
  .correlate (relieved.correlator.use relieved.schedule.now
    (.frame (replyFrame (.reply .heartbeat) "1")))

/-- A heartbeat is well typed, although a reply of the wrong class comes before the right one. -/
theorem calling_wellTyped_besieged :
    Client.Call.heartbeat.isTyped = true ∧
      besieged.Open (skirmish ++ .start (calling .heartbeat none) :: (siege ++ [aftermath])) ∧
      WellTyped (besieged.follow
        (skirmish ++ .start (calling .heartbeat none) :: (siege ++ [aftermath]))) 1 .heartbeat ∧
      (relieved.ended? 1).isSome = true := by
  have hopen : besieged.Open
      (skirmish ++ .start (calling .heartbeat none) :: (siege ++ [aftermath])) := {
    unused := ⟨rfl, rfl, rfl⟩
    outlet := nofun
    used := ⟨nofun, nofun, nofun, nofun, nofun, nofun, nofun,
      fun c hc => ⟨_, (Event.correlate.inj hc).symm⟩, trivial⟩
    few := Nat.le_trans (idsGiven_le_length _ _) (by decide) }
  exact ⟨rfl, hopen,
    calling_wellTyped besieged skirmish (siege ++ [aftermath]) .heartbeat none rfl hopen,
    by decide +kernel⟩

end Parley.Exchange
