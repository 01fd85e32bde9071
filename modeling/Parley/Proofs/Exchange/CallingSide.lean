/-
# The calling side of an exchange

The side that sends requests is the correlator and the sink behind it.  Only callers and
receivers use it, each step of them at most once; the tasks of the serving side, scripted
peers and whoever plays the link leave it as it is.  So whatever happens to an exchange, the
correlator takes at most one step.
-/

import Parley.Proofs.Correlator.Use
import Parley.Proofs.Exchange.Tasks
import Parley.Exchange.Event

namespace Parley.Exchange

variable {e e' e'' : Exchange}

/-- The correlator, and where its frames go. -/
def callingSide (e : Exchange) : Correlator × Sink :=
  (e.correlator, e.outlet)

/-- The calling side is one of the parts. -/
theorem callingSide_of_parts_eq (h : e'.parts = e.parts) : e'.callingSide = e.callingSide :=
  congrArg (fun parts : Parts => (parts.correlator, parts.outlet)) h

/-- The correlator belongs to the calling side. -/
theorem correlator_of_callingSide (h : e'.callingSide = e.callingSide) :
    e'.correlator = e.correlator :=
  congrArg Prod.fst h

/-- The outlet belongs to the calling side. -/
theorem outlet_of_callingSide (h : e'.callingSide = e.callingSide) : e'.outlet = e.outlet :=
  congrArg Prod.snd h

section CallingSide

variable (e)

@[simp]
theorem callingSide_setWork (t : TaskId) (work : Work) :
    (e.setWork t work).callingSide = e.callingSide := rfl

@[simp]
theorem callingSide_finish (t : TaskId) (result : Ended) :
    (e.finish t result).callingSide = e.callingSide :=
  callingSide_of_parts_eq (parts_finish e t result)

@[simp]
theorem callingSide_setLink (link : Link) : (e.setLink link).callingSide = e.callingSide :=
  callingSide_of_parts_eq (parts_setLink e link)

@[simp]
theorem callingSide_spawn (work : Work) : (e.spawn work).2.callingSide = e.callingSide :=
  callingSide_of_parts_eq (parts_spawn e work)

@[simp]
theorem callingSide_abort (t : TaskId) : (e.abort t).callingSide = e.callingSide :=
  callingSide_of_parts_eq (parts_abort e t)

@[simp]
theorem callingSide_sleep (t : TaskId) (moment : Millis) :
    (e.sleep t moment).callingSide = e.callingSide :=
  callingSide_of_parts_eq (parts_sleep e t moment)

@[simp]
theorem callingSide_arrive (source : Source) :
    (e.arrive source).2.2.callingSide = e.callingSide :=
  callingSide_of_parts_eq (parts_arrive e source)

@[simp]
theorem callingSide_transmit (t : TaskId) (sink : Sink) (bytes : Frame.Bytes) :
    (e.transmit t sink bytes).2.callingSide = e.callingSide :=
  callingSide_of_parts_eq (parts_transmit e t sink bytes)

@[simp]
theorem callingSide_leave (t : TaskId) (sink : Sink) :
    (e.leave t sink).callingSide = e.callingSide :=
  callingSide_of_parts_eq (parts_leave e t sink)

@[simp]
theorem callingSide_setShutdown : e.setShutdown.callingSide = e.callingSide := rfl

@[simp]
theorem callingSide_setCorrelator (c : Correlator) :
    (e.setCorrelator c).callingSide = (c, e.outlet) := rfl

@[simp]
theorem callingSide_dispatcher (dispatcher : Dispatcher) :
    ({ e with dispatcher } : Exchange).callingSide = e.callingSide := rfl

/-! ### Tasks of the serving side -/

/-- A handler that is done with sending leaves the calling side alone. -/
theorem callingSide_endSending (t : TaskId) (h : Handler) :
    (e.endSending t h).callingSide = e.callingSide := by
  unfold endSending
  dsimp only
  split <;> simp

/-- A handler that has its reply leaves the calling side alone. -/
theorem callingSide_conclude (t : TaskId) (h : Handler) (reply : Except Fault Message) :
    (e.conclude t h reply).1.callingSide = e.callingSide := by
  unfold conclude
  split
  · simp
  · dsimp only
    split <;> simp
  · split
    · simp
    · exact callingSide_endSending e t h

/-- No step of a handler has to do with the calling side. -/
theorem callingSide_stepHandler (t : TaskId) (h : Handler) :
    (e.stepHandler t h).1.callingSide = e.callingSide := by
  obtain ⟨request, purpose, phase⟩ := h
  cases phase with
  | starting =>
    simp only [stepHandler]
    cases e.dispatcher.accept request with
    | error fault => exact callingSide_conclude _ _ _ _
    | ok job =>
      dsimp only
      cases Dispatcher.route request.tag with
      | acknowledge => exact callingSide_conclude _ _ _ _
      | cancel =>
        dsimp only
        rw [callingSide_conclude]
        cases (e.dispatcher.cancelRunning request job).2.1 <;> simp
      | engine => exact callingSide_spawn e (.engineCall { request, blank := job.blank })
  | joining job running tracked =>
    simp only [stepHandler]
    split
    · rw [callingSide_conclude]
      split <;> simp
    · rw [callingSide_conclude]
      split <;> simp
    · rfl
  | transmitting rest =>
    cases purpose with
    | send sink =>
      have htransmit := callingSide_transmit e t sink rest
      simp only [stepHandler]
      split
      next heq =>
        rw [heq] at htransmit
        exact htransmit
      next heq =>
        rw [heq] at htransmit
        exact (callingSide_endSending _ _ _).trans htransmit
    | _ => exact callingSide_endSending _ _ _

/-- No step of an engine call has to do with the calling side. -/
theorem callingSide_stepEngineCall (t : TaskId) (c : EngineCall) :
    (e.stepEngineCall t c).1.callingSide = e.callingSide := by
  obtain ⟨request, blank, phase⟩ := c
  cases phase with
  | starting =>
    simp only [stepEngineCall]
    cases Engine.Call.ofRequest request with
    | error error => simp
    | ok call => rfl
  | working call outcome => cases outcome <;> simp [stepEngineCall]
  | sleeping moment call outcome =>
    simp only [stepEngineCall]
    split <;> simp

/-- No step of a server has to do with the calling side. -/
theorem callingSide_stepServer (t : TaskId) (s : Server) :
    (e.stepServer t s).1.callingSide = e.callingSide := by
  simp only [stepServer]
  split
  · simp
  · split
    · simp
    · split <;> simp
    · split <;> simp
    · simp

/-- No step of a peer has to do with the calling side. -/
theorem callingSide_stepPeer (t : TaskId) (p : Peer) :
    (e.stepPeer t p).1.callingSide = e.callingSide := by
  obtain ⟨source, side, answers, phase⟩ := p
  cases phase with
  | listening =>
    have harrive := callingSide_arrive e source
    simp only [stepPeer]
    split
    · simp
    · split
      · simp
      · exact harrive
    · split <;> simp
    · simp
  | acting id actions =>
    simp only [stepPeer]
    split
    · rfl
    · simp
    · rfl
    · split <;> rfl
  | transmitting id bytes actions =>
    have htransmit := callingSide_transmit e t (.link side) bytes
    simp only [stepPeer]
    split
    next heq =>
      rw [heq] at htransmit
      exact htransmit
    next heq =>
      rw [heq] at htransmit
      exact htransmit

end CallingSide

/-! ### Tasks that use the correlator -/

/-- The correlator has taken a step, and frames go where they went. -/
structure Carries (e e' : Exchange) : Prop where
  correlator : e.correlator.Step e'.correlator
  outlet : e'.outlet = e.outlet

namespace Carries

/-- Where the calling side is the same, the correlator has taken no step. -/
theorem of_eq (h : e'.callingSide = e.callingSide) : Carries e e' where
  correlator := by
    rw [correlator_of_callingSide h]
    exact .yields (.refl _)
  outlet := outlet_of_callingSide h

/-- Where it differs by the correlator only, the correlator has taken the step. -/
theorem of_step {c : Correlator} (hstep : e.correlator.Step c)
    (h : e'.callingSide = (c, e.outlet)) : Carries e e' where
  correlator := by
    rw [show e'.correlator = c from congrArg Prod.fst h]
    exact hstep
  outlet := congrArg Prod.snd h

/-- Something else may have happened first. -/
theorem of_left (h : e'.callingSide = e.callingSide) (hcarries : Carries e' e'') :
    Carries e e'' where
  correlator := correlator_of_callingSide h ▸ hcarries.correlator
  outlet := hcarries.outlet.trans (outlet_of_callingSide h)

end Carries

/-- A caller stamps, records, withdraws and polls, and does no more to the correlator. -/
theorem carries_stepCaller (e : Exchange) (t : TaskId) (c : Caller) :
    Carries e (e.stepCaller t c).1 := by
  cases c with
  | starting request timeout aim =>
    refine .of_step (e.correlator.step_issue request) ?_
    simp only [stepCaller]
    split <;> simp
  | transmitting request handle rest aim =>
    have htransmit := callingSide_transmit e t e.outlet rest
    simp only [stepCaller]
    split
    next heq =>
      rw [heq] at htransmit
      exact .of_eq htransmit
    next fault after heq =>
      rw [heq] at htransmit
      exact .of_left htransmit
        (.of_step (.yields (after.correlator.yields_withdraw handle.id)) (by simp))
    next heq =>
      rw [heq] at htransmit
      refine .of_eq ?_
      split
      · simpa using htransmit
      · exact htransmit
  | waiting handle aim =>
    have hyields := e.correlator.yields_poll handle.id handle.deadline e.schedule.now false
    simp only [stepCaller]
    split
    next heq =>
      rw [heq] at hyields
      exact .of_step (.yields hyields) (by simp)
    next heq =>
      refine .of_eq ?_
      split
      · rfl
      · dsimp only
        split <;> simp

/-- A receiver that ends closes the correlator. -/
theorem carries_endReceiver (e : Exchange) (t : TaskId) : Carries e (e.endReceiver t) :=
  .of_step (.yields e.correlator.yields_close) (by simp [endReceiver])

/-- A receiver hands the correlator what has arrived. -/
theorem carries_stepReceiver (hregistry : e.correlator.codec.registry = .standard) (t : TaskId)
    (r : Receiver) : Carries e (e.stepReceiver t r).1 := by
  have harrive := callingSide_arrive e r.source
  simp only [stepReceiver]
  split
  · exact carries_endReceiver e t
  · rcases harrival : e.arrive r.source with ⟨arrival, source, after⟩
    rw [harrival] at harrive
    have hkept : after.correlator.codec.registry = .standard := by
      rw [correlator_of_callingSide harrive]
      exact hregistry
    have hset : (after.setWork t (.receiver { source })).callingSide = e.callingSide := harrive
    refine .of_left hset ?_
    cases arrival with
    | nothing => exact .of_eq rfl
    | frame frame =>
      exact .of_step (.yields (Correlator.yields_receiveFrame hkept frame _)) rfl
    | fault fault =>
      dsimp only
      split
      · exact .of_eq rfl
      · exact carries_endReceiver _ t
    | ended => exact carries_endReceiver _ t

/-- A task that is stopped gives its request up, if it waits for one. -/
theorem carries_drop (e : Exchange) (t : TaskId) (work : Work) : Carries e (e.drop t work) := by
  unfold drop
  split
  · exact .of_eq (by simp)
  next handle aim =>
    exact .of_step (.yields (e.correlator.yields_abandon handle.id e.schedule.now)) (by simp)
  · exact .of_eq (by simp)
  · exact .of_eq (by simp)
  · exact .of_eq rfl

/-- The end of a task leaves the correlator alone. -/
theorem Carries.finish (h : Carries e e') (t : TaskId) (result : Ended) :
    Carries e (e'.finish t result) where
  correlator := correlator_of_callingSide (callingSide_finish e' t result) ▸ h.correlator
  outlet := (outlet_of_callingSide (callingSide_finish e' t result)).trans h.outlet

/-- Whatever a task does in its step, the correlator takes at most one step. -/
theorem carries_step (hregistry : e.correlator.codec.registry = .standard) (t : TaskId) :
    Carries e (e.step t).1 := by
  cases hwork : e.work? t with
  | none =>
    rw [step_of_work?_eq_none hwork]
    exact .of_eq rfl
  | some work =>
    by_cases haborting : e.aborting t = true
    · rcases step_of_aborting hwork haborting with ⟨-, hstep⟩ | ⟨-, hstep⟩
      · rw [hstep]
        exact .of_eq rfl
      · rw [hstep]
        exact (carries_drop e t work).finish t .aborted
    · rw [step_of_work? hwork (by simpa using haborting)]
      cases work with
      | ended result => exact .of_eq rfl
      | caller c => exact carries_stepCaller e t c
      | receiver r => exact carries_stepReceiver hregistry t r
      | handler h => exact .of_eq (callingSide_stepHandler e t h)
      | engineCall c => exact .of_eq (callingSide_stepEngineCall e t c)
      | server s => exact .of_eq (callingSide_stepServer e t s)
      | peer p => exact .of_eq (callingSide_stepPeer e t p)

/-- Whatever happens to an exchange, the correlator takes at most one step, unless someone
else replaces it. -/
theorem carries_happen (hregistry : e.correlator.codec.registry = .standard) {event : Event}
    (hused : ∀ c, event = .correlate c → e.correlator.Step c) : Carries e (e.happen event) := by
  cases event with
  | start opening => exact .of_eq (callingSide_spawn e opening.work)
  | step t => exact carries_step hregistry t
  | abort t => exact .of_eq (callingSide_abort e t)
  | pass span => exact .of_eq rfl
  | stop => exact .of_eq rfl
  | correlate c => exact .of_step (hused c rfl) rfl
  | relink link => exact .of_eq (callingSide_setLink e link)

end Parley.Exchange
