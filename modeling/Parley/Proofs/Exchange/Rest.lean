/-
# Exchanges at rest

When no task has anything to do, both lanes are empty and nobody waits for room in them.
Then every call has come to its end, or the engine was called for it and has not returned.
-/

import Parley.Proofs.Exchange.Handling

namespace Parley.Exchange

open Parley.Frame (Bytes)

variable {s : Service} {e : Exchange} {L : Ledger} {t u : TaskId} {call : Engine.Call}
  {id : Int64} {outcome : Engine.Outcome}

/-- At rest a step leaves its task where it is. -/
theorem AtRest.work?_step {work : Work} (h : e.AtRest) (hwork : e.work? t = some work) :
    (e.step t).1.work? t = some work := by
  rw [← hwork, work?, work?, (h t).tasks]

/-! ### Empty lanes -/

/-- At rest no request is on its way. -/
theorem Holds.rightward_drained (h : Holds s e L) (hrest : e.AtRest) :
    L.rightward.frames = [] ∧ e.link.rightward.load = 0 := by
  have hstep := step_of_work? h.loops.server (h.steady.aborting 0)
  simp only [stepServer, h.steady.stopped, h.steady.shutdown, Bool.or_self, Bool.false_eq_true,
    if_false, arrive, Link.receive, Link.inward, Link.Side.other, Link.outward] at hstep
  rcases h.rightward.receive (fun _ _ hreads => Codec.Reads.whole hreads)
      (fun _ hsender => h.exists_rest_rightward hsender) with
    ⟨u, m, frame, others, lane, -, hsent, hreads, hreceive, -⟩ |
    ⟨held, lane, hframes, hreceive, -, hempty, -⟩
  · obtain ⟨call, id, -, hdecode⟩ := h.decode hsent hreads
    have hdecode : ∀ link work, ((e.setLink link).setWork 0 work).dispatcher.codec.decode frame =
        .ok (call.sentAs id) := fun _ _ => hdecode
    simp only [hreceive, hdecode] at hstep
    have hlength := congrArg List.length (hrest 0).tasks
    rw [hstep] at hlength
    simp at hlength
  · simp only [hreceive] at hstep
    have hlink := congrArg Link.rightward (hrest 0).link
    rw [hstep] at hlink
    have hlane : lane = e.link.rightward := hlink
    rw [← hlane]
    exact ⟨hframes, hempty⟩

/-- At rest no reply is on its way. -/
theorem Holds.leftward_drained (h : Holds s e L) (hrest : e.AtRest) :
    L.leftward.frames = [] ∧ e.link.leftward.load = 0 := by
  have hstep := step_of_work? h.loops.receiver (h.steady.aborting 1)
  simp only [stepReceiver, h.steady.stopped, Bool.false_eq_true, if_false, arrive, Link.receive,
    Link.inward, Link.Side.other, Link.outward] at hstep
  rcases h.leftward.receive (fun _ _ hreads => hreads.whole)
      (fun _ hsender => h.exists_rest_leftward hsender) with
    ⟨u, x, frame, others, lane, -, hreplied, hreads, hreceive, -⟩ |
    ⟨held, lane, hframes, hreceive, -, hempty, -⟩
  · obtain ⟨call, id, outcome, reply, -, -, hc⟩ := h.receiveFrame hreplied hreads
    simp only [hreceive] at hstep
    have hparts := (hrest 1).parts
    rw [hstep, parts_setCorrelator] at hparts
    have hcorrelator := (hc _).symm.trans (congrArg Parts.correlator hparts)
    have hlength := congrArg (fun c : Correlator => c.delivered.length) hcorrelator
    simp [Correlator.deliver, parts] at hlength
  · simp only [hreceive] at hstep
    have hlink := congrArg Link.leftward (hrest 1).link
    rw [hstep] at hlink
    have hlane : lane = e.link.leftward := hlink
    rw [← hlane]
    exact ⟨hframes, hempty⟩

/-- At rest nobody sends a request: there is room for whoever is the first to wait. -/
theorem Holds.not_sending (h : Holds s e L) (hrest : e.AtRest) :
    L.tickets u ≠ some ⟨call, .sending id⟩ := by
  intro hu
  obtain ⟨v, hv, hmoves⟩ :=
    h.rightward.carries.exists_moves (h.rightward_drained hrest).2 u
  obtain ⟨id', hid⟩ : ∃ id, facet Ticket.sending? L.tickets v = some id := by
    rcases hv with hv | rfl
    · exact h.rightward.senders v hv
    · exact ⟨id, facet_of hu⟩
  obtain ⟨⟨call', place⟩, hv', hplace⟩ := facet_eq_some.1 hid
  cases place <;> cases hplace
  obtain ⟨work, hwork, hat⟩ := h.seated.seated v _ .caller v hv' rfl
  cases hat with
  | waiting hplace => cases hplace
  | sending hne hreads =>
    have hsame := hrest.work?_step hwork
    rw [step_of_work? hwork (h.steady.aborting v)] at hsame
    simp only [stepCaller, h.steady.outlet, transmit, Link.send, Link.outward] at hsame
    generalize hsend : e.link.rightward.send v _ = sent at hsame
    obtain ⟨attempt, lane⟩ := sent
    cases attempt with
    | sent => simp [work?_setWork, hwork] at hsame
    | refused fault => simp [work?_finish, hwork] at hsame
    | blocked rest =>
      simp only [work?_setWork, if_true, work?_setLink, hwork, Option.map_some, Option.some.injEq,
        Work.caller.injEq, Caller.transmitting.injEq, true_and, and_true] at hsame
      subst hsame
      exact hmoves _ _ hne hsend

/-- At rest nobody sends a reply. -/
theorem Holds.not_replying (h : Holds s e L) (hrest : e.AtRest) :
    L.tickets u ≠ some ⟨call, .replying id t outcome⟩ := by
  intro hu
  obtain ⟨v, hv, hmoves⟩ :=
    h.leftward.carries.exists_moves (h.leftward_drained hrest).2 t
  obtain ⟨w, hw⟩ : ∃ w, facet Ticket.replying? L.tickets w = some v := by
    rcases hv with hv | rfl
    · exact h.leftward.senders v hv
    · exact ⟨u, facet_of hu⟩
  obtain ⟨⟨call', place⟩, hw', hplace⟩ := facet_eq_some.1 hw
  cases place <;> cases hplace
  obtain ⟨work, hwork, hat⟩ := h.seated.seated w _ .handler v hw' rfl
  cases hat with
  | joining hplace => rcases hplace with heq | ⟨outcome, heq⟩ <;> cases heq
  | replying hreply hne hreads =>
    have hsame := hrest.work?_step hwork
    rw [step_of_work? hwork (h.steady.aborting v)] at hsame
    simp only [stepHandler, transmit, Link.send, Link.outward] at hsame
    generalize hsend : e.link.leftward.send v _ = sent at hsame
    obtain ⟨attempt, lane⟩ := sent
    cases attempt with
    | sent =>
      simp [endSending, asksShutdown_sentAs, work?_finish, hwork] at hsame
    | refused fault =>
      simp [endSending, asksShutdown_sentAs, work?_finish, hwork] at hsame
    | blocked rest =>
      simp only [work?_setWork, if_true, work?_setLink, hwork, Option.map_some, Option.some.injEq,
        Work.handler.injEq, Handler.mk.injEq, HandlerPhase.transmitting.injEq, true_and] at hsame
      subst hsame
      exact hmoves _ _ hne hsend

/-! ### Calls at rest -/

/-- At rest a caller has begun. -/
theorem Holds.not_departing (h : Holds s e L) (hrest : e.AtRest) :
    L.tickets u ≠ some ⟨call, .departing⟩ := by
  intro hu
  obtain ⟨work, hwork, hat⟩ := h.seated.seated u _ .caller u hu rfl
  cases hat with
  | waiting hplace => cases hplace
  | departing timeout =>
    have hsame := hrest.work?_step hwork
    rw [step_of_work? hwork (h.steady.aborting u)] at hsame
    simp only [stepCaller] at hsame
    split at hsame
    · simp [work?_finish, hwork] at hsame
    · simp [work?_setWork, hwork] at hsame

/-- At rest a handler has forwarded its request. -/
theorem Holds.not_accepted (h : Holds s e L) (hsound : s.Sound) (hrest : e.AtRest) :
    L.tickets u ≠ some ⟨call, .accepted id t⟩ := by
  intro hu
  obtain ⟨work, hwork, hat⟩ := h.seated.seated u _ .handler t hu rfl
  cases hat with
  | joining hplace => rcases hplace with heq | ⟨outcome, heq⟩ <;> cases heq
  | accepted =>
    have hsame := hrest.work?_step hwork
    rw [step_of_work? hwork (h.steady.aborting t)] at hsame
    simp only [stepHandler, h.accept hsound call id, call.route_sentAs id] at hsame
    rw [work?_forward _ hwork, if_pos rfl] at hsame
    cases hsame

/-- At rest an engine call has called the engine. -/
theorem Holds.not_forwarded {h' : TaskId} (h : Holds s e L) (hrest : e.AtRest) :
    L.tickets u ≠ some ⟨call, .forwarded id h' t⟩ := by
  intro hu
  have hcall : Engine.Call.ofRequest (call.sentAs id) = .ok call :=
    Engine.Call.ofRequest_request (h.filed.portable u _ hu) id
  obtain ⟨work, hwork, hat⟩ := h.seated.seated u _ .engine t hu rfl
  cases hat with
  | starting =>
    have hsame := hrest.work?_step hwork
    rw [step_of_work? hwork (h.steady.aborting t)] at hsame
    simp only [stepEngineCall, hcall] at hsame
    rw [work?_callEngine call hwork, if_pos rfl] at hsame
    cases hsame

/-- At rest a caller whose reply has come has taken it. -/
theorem Holds.not_delivered (h : Holds s e L) (hrest : e.AtRest) :
    L.tickets u ≠ some ⟨call, .delivered id outcome⟩ := by
  intro hu
  obtain ⟨handle, hwork, rfl⟩ := h.seated.exists_waiting hu rfl
  obtain ⟨-, reply, -, hlook⟩ := h.recorded.arrived u call handle.id outcome (facet_of hu)
  have hsame := hrest.work?_step hwork
  rw [step_of_work? hwork (h.steady.aborting u)] at hsame
  simp only [stepCaller, Correlator.poll_of_delivered hlook] at hsame
  simp [work?_finish, hwork] at hsame

/-- At rest no handler waits for an engine call that has ended. -/
theorem Holds.not_ended {h' : TaskId} {ending : Engine.Ending} (h : Holds s e L)
    (hrest : e.AtRest) (hu : L.tickets u = some ⟨call, .called id h' t outcome⟩)
    (hending : outcome.ending? call (Message.reply call.operation) = some ending) :
    e.work? t ≠ some (.ended (.call ending)) := by
  intro hended
  have hsuits := h.noted.suits u call outcome (facet_of hu)
  obtain ⟨reply, result, hreply, -, -⟩ := Engine.Outcome.exists_reply hsuits hending id
  have hjob : Dispatcher.Job.reply ⟨id, Message.reply call.operation⟩
      (Dispatcher.outcomeOf ending) = .ok reply := hreply
  have hended' : e.ended? t = some (.call ending) := by rw [ended?, hended]
  obtain ⟨work, hwork, hat⟩ := h.seated.seated u _ .handler h' hu rfl
  cases hat with
  | @joining _ id' _ c' tracked hplace =>
    obtain ⟨rfl, rfl⟩ : id' = id ∧ c' = t := by
      rcases hplace with heq | ⟨_, heq⟩ <;> cases heq
      exact ⟨rfl, rfl⟩
    have hsame := hrest.work?_step hwork
    rw [step_of_work? hwork (h.steady.aborting h')] at hsame
    simp only [stepHandler, hended', hjob, conclude] at hsame
    have hwork' : (if tracked = true then
        { e with dispatcher := e.dispatcher.untrack id' c' } else e).work? h' = e.work? h' := by
      split <;> rfl
    split at hsame
    · simp [work?_setWork, hwork', hwork] at hsame
    · simp [endSending, asksShutdown_sentAs, work?_finish, hwork', hwork] at hsame

/-- At rest an engine call that was made has not returned. -/
theorem Holds.awaitsReturn {h' : TaskId} (h : Holds s e L) (hrest : e.AtRest)
    (hu : L.tickets u = some ⟨call, .called id h' t outcome⟩) : e.AwaitsReturn u := by
  obtain ⟨handle, hcaller, rfl⟩ := h.seated.exists_waiting hu rfl
  obtain ⟨work, hwork, hat⟩ := h.seated.seated u _ .engine t hu rfl
  have hawaits : ∀ phase : EngineCallPhase,
      e.work? t = some (.engineCall
        { request := call.sentAs handle.id, blank := Message.reply call.operation, phase }) →
      phase.waits e.schedule.now = true → e.AwaitsReturn u :=
    fun phase hwork hwaits =>
      ⟨handle, _, t, _, hcaller, hwork, call.requestId_sentAs handle.id, hwaits⟩
  cases hat with
  | @working _ _ _ _ next hnext =>
    have hsame := hrest.work?_step hwork
    rw [step_of_work? hwork (h.steady.aborting t)] at hsame
    cases next with
    | never => exact hawaits _ hwork rfl
    | after span next => simp [stepEngineCall, work?_setWork, hwork] at hsame
    | _ => simp [stepEngineCall, work?_finish, hwork] at hsame
  | @sleeping _ _ _ _ next moment hnext =>
    by_cases hnow : moment ≤ e.schedule.now
    · have hsame := hrest.work?_step hwork
      rw [step_of_work? hwork (h.steady.aborting t)] at hsame
      simp [stepEngineCall, if_pos hnow, work?_setWork, hwork] at hsame
    · exact hawaits _ hwork (decide_eq_true (Nat.lt_of_not_le hnow))
  | returned hending =>
    exact absurd hwork (h.not_ended hrest hu hending)

/-- At rest a call has come to its end, or its engine call has not returned. -/
theorem Holds.done_or_called {place : Place} (h : Holds s e L) (hsound : s.Sound)
    (hrest : e.AtRest) (hu : L.tickets u = some ⟨call, place⟩) :
    (∃ outcome, place = .done outcome) ∨ place.outcome?.isSome = true ∧ e.AwaitsReturn u := by
  cases place with
  | departing => exact absurd hu (h.not_departing hrest)
  | sending id => exact absurd hu (h.not_sending hrest)
  | sent id =>
    have hmem := h.rightward.complete u (call.sentAs id) (facet_of hu)
    rw [(h.rightward_drained hrest).1] at hmem
    cases hmem
  | accepted id h' => exact absurd hu (h.not_accepted hsound hrest)
  | forwarded id h' c => exact absurd hu (h.not_forwarded hrest)
  | called id h' c outcome => exact Or.inr ⟨rfl, h.awaitsReturn hrest hu⟩
  | replying id h' outcome => exact absurd hu (h.not_replying hrest)
  | replied id outcome =>
    have hmem := h.leftward.complete u (call, id, outcome) (facet_of hu)
    rw [(h.leftward_drained hrest).1] at hmem
    cases hmem
  | delivered id outcome => exact absurd hu (h.not_delivered hrest)
  | done outcome => exact Or.inl ⟨outcome, rfl⟩

end Parley.Exchange
