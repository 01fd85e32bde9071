/-
# Every dispatch is answered

A request that expects a reply of a registered type is answered in every course of an
exchange, whatever the engine does and whatever else happens: the handler ends with a
reply of that type and with the id of the request.  On the way the engine is called at
most once, and only as the request asks.

Along a course a dispatch is described by where its handler stands and by the one task
that it may have added, its engine call.  The handler itself is never told to stop by a
step, because the dispatcher tracks engine calls only.  So nobody else is needed for the
dispatch to come to its end.
-/

import Parley.Proofs.Exchange.EngineCall
import Parley.Proofs.Registry

namespace Parley.Exchange

variable {e e' : Exchange} {t c u : TaskId} {m blank : Message} {calls : List Engine.Call}

/-! ### Tracked calls -/

/-- An engine call that takes a step is one still. -/
theorem isCall_stepEngineCall {ec : EngineCall} (hwork : e.work? t = some (.engineCall ec)) :
    (e.stepEngineCall t ec).1.isCall t = true := by
  have hfinish : ∀ ending : Engine.Ending, (e.finish t (.call ending)).isCall t = true := by
    intro ending
    rw [isCall, work?_finish, if_pos rfl, hwork]
    rfl
  have hset : ∀ ec' : EngineCall, (e.setWork t (.engineCall ec')).isCall t = true := by
    intro ec'
    rw [isCall, work?_setWork, if_pos rfl, hwork]
    rfl
  have hstay : e.isCall t = true := by
    rw [isCall, hwork]
    rfl
  obtain ⟨request, blank, phase⟩ := ec
  cases phase with
  | starting =>
    simp only [stepEngineCall]
    split
    · exact hfinish _
    next call _ =>
      rw [isCall, work?_callEngine call hwork, if_pos rfl]
      rfl
  | working call outcome =>
    cases outcome with
    | usual => exact hfinish _
    | ok value => exact hfinish _
    | error error => exact hfinish _
    | panic text => exact hfinish _
    | never => exact hstay
    | after span next => exact hset _
  | sleeping moment call outcome =>
    simp only [stepEngineCall]
    split
    · exact hset _
    · rw [isCall, work?, tasks_sleep]
      exact hstay

/-- What is or was an engine call stays so. -/
theorem isCall_step (h : e.isCall u = true) : (e.step t).1.isCall u = true := by
  obtain ⟨work, hwork, hcall⟩ := (Option.any_eq_true _ _).1 h
  have hlt := lt_of_work? hwork
  by_cases hut : u = t
  · subst hut
    by_cases haborting : e.aborting u = true
    · rcases step_of_aborting hwork haborting with ⟨-, hstep⟩ | ⟨-, hstep⟩
      · rw [hstep]
        exact h
      · have hdrop : (e.drop u work).work? u = some work := by
          rw [work?, tasks_drop]
          exact hwork
        rw [hstep, isCall, work?_finish, if_pos rfl, hdrop]
        rfl
    · rw [step_of_work? hwork (by simpa using haborting)]
      cases work with
      | engineCall ec => exact isCall_stepEngineCall hwork
      | ended result => exact h
      | _ => cases hcall
  · rw [isCall, work?_step_of_ne hut hlt]
    exact h

/-- An engine call stays one, whatever happens. -/
theorem isCall_happen (h : e.isCall u = true) (event : Event) :
    (e.happen event).isCall u = true := by
  by_cases hself : event = .step u
  · subst hself
    exact isCall_step h
  · rw [isCall, work?_happen_of_ne hself (lt_of_isCall h)]
    exact h

/-- The dispatcher works with this codec and tracks engine calls only. -/
structure Watched (codec : Codec) (e : Exchange) : Prop where
  codec : e.dispatcher.codec = codec
  isCall : ∀ t, e.Tracked t → e.isCall t = true

/-- The dispatcher tracks engine calls only after a step. -/
theorem Watched.step {codec : Codec} (h : Watched codec e) (t : TaskId) :
    Watched codec (e.step t).1 := by
  rcases step_cases e t with hspares | ⟨handler, job, hhandler, -, -, hstep⟩ |
    ⟨ec, call, hec, -, -, hstep⟩
  · refine ⟨hspares.codec.trans h.codec, ?_⟩
    rintro u ⟨id, hu⟩
    exact isCall_step (h.isCall u ⟨id, hspares.running.subset hu⟩)
  · refine ⟨by rw [hstep, codec_forward, h.codec], ?_⟩
    rintro u ⟨id, hu⟩
    rw [hstep] at hu
    rcases mem_running_forward hu with hold | ⟨hnew, -⟩
    · exact isCall_step (h.isCall u ⟨id, hold⟩)
    · obtain ⟨-, rfl⟩ := Prod.mk.inj hnew
      have hne : e.tasks.length ≠ t := Ne.symm (Nat.ne_of_lt (lt_of_work? hhandler))
      rw [hstep, Exchange.isCall, work?_forward job hhandler, if_neg hne, if_pos rfl]
      rfl
  · refine ⟨by rw [hstep]; exact h.codec, ?_⟩
    rintro u ⟨id, hu⟩
    rw [hstep] at hu
    exact isCall_step (h.isCall u ⟨id, hu⟩)

/-- The dispatcher tracks engine calls only, whatever happens. -/
theorem Watched.happen {codec : Codec} (h : Watched codec e) (event : Event) :
    Watched codec (e.happen event) := by
  by_cases hevent : ∃ t, event = .step t
  · obtain ⟨t, rfl⟩ := hevent
    exact h.step t
  · have hspares := spares_happen (e := e) fun t heq => hevent ⟨t, heq⟩
    refine ⟨hspares.codec.trans h.codec, ?_⟩
    rintro u ⟨id, hu⟩
    exact isCall_happen (h.isCall u ⟨id, hspares.running.subset hu⟩) event

/-! ### One dispatch -/

/-- Where the handler of a request stands that hands its reply over, and the engine call
that it has added. -/
inductive Stands (e : Exchange) (t : TaskId) (request blank : Message) : Option TaskId → Prop where
  | starting (hwork : e.work? t = some (.handler { request, purpose := .reply })) :
      Stands e t request blank none
  | joining (c : TaskId) (tracked : Bool)
      (hwork : e.work? t =
        some (.handler
          { request, purpose := .reply, phase := .joining ⟨request.requestId, blank⟩ c tracked })) :
      Stands e t request blank (some c)
  | ended (child : Option TaskId) (reply : Message)
      (hwork : e.work? t = some (.ended (.reply (.ok reply)))) (htag : reply.tag = blank.tag)
      (hid : reply.requestId = request.requestId) : Stands e t request blank child

/-- The handler waits for its engine call, and the engine call waits for the engine. -/
def AwaitsEngine (e : Exchange) (t : TaskId) : Prop :=
  ∃ request purpose job c tracked call,
    e.work? t = some (.handler { request, purpose, phase := .joining job c tracked }) ∧
      e.work? c = some (.engineCall call) ∧ e.aborting c = false ∧
      call.phase.waits e.schedule.now = true

/-- The handler has ended with a reply of this type and with this id. -/
def Answers (e : Exchange) (t : TaskId) (tag : Tag) (id : Int64) : Prop :=
  ∃ reply, e.ended? t = some (.reply (.ok reply)) ∧ reply.tag = tag ∧ reply.requestId = id

/-- A handler that stands somewhere is a task of the exchange. -/
theorem Stands.lt {child : Option TaskId} (h : Stands e t m blank child) :
    t < e.tasks.length := by
  cases h with
  | starting hwork => exact lt_of_work? hwork
  | joining c tracked hwork => exact lt_of_work? hwork
  | ended child reply hwork => exact lt_of_work? hwork

/-- What a task has ended with is its work. -/
theorem ended?_of_work? {result : Ended} (h : e.work? t = some (.ended result)) :
    e.ended? t = some result := by
  rw [ended?, h]

/-- A handler that has come to its reply ends with it. -/
theorem work?_conclude {phase : HandlerPhase} {reply : Message}
    (hwork : e.work? t = some (.handler { request := m, purpose := .reply, phase })) :
    (e.conclude t { request := m, purpose := .reply, phase } (.ok reply)).1.work? t =
      some (.ended (.reply (.ok reply))) := by
  simp only [conclude, work?_finish, if_true, hwork, Option.map_some]

/-- The next step of a handler ends it with a reply of this type and with this id, and it
neither adds a task nor calls the engine. -/
structure RepliesNext (e : Exchange) (t : TaskId) (tag : Tag) (id : Int64) : Prop where
  ended : ∃ reply, (e.step t).1.work? t = some (.ended (.reply (.ok reply))) ∧
    reply.tag = tag ∧ reply.requestId = id
  length : (e.step t).1.tasks.length = e.tasks.length
  engine : (e.step t).1.engine = e.engine

/-- A handler that replies next answers with its next step. -/
theorem RepliesNext.answers {tag : Tag} {id : Int64} (h : e.RepliesNext t tag id) :
    (e.step t).1.Answers t tag id := by
  obtain ⟨reply, hended, htag, hid⟩ := h.ended
  exact ⟨reply, ended?_of_work? hended, htag, hid⟩

/-- The reply to any outcome of the job is as it should be, and it is what the handler ends
with. -/
theorem repliesNext_of_conclude {outcome : Except Failure Message} {phase : HandlerPhase}
    (hreply : blank.isReply = true) (hfits : Dispatcher.Fits blank outcome)
    (hwork : e'.work? t = some (.handler { request := m, purpose := .reply, phase }))
    (hlength : e'.tasks.length = e.tasks.length) (hengine : e'.engine = e.engine)
    (hstep : (e.step t).1 = (e'.conclude t { request := m, purpose := .reply, phase }
      (Dispatcher.Job.reply ⟨m.requestId, blank⟩ outcome)).1) :
    e.RepliesNext t blank.tag m.requestId := by
  obtain ⟨reply, hmade, htag, hid⟩ :
      ∃ reply, Dispatcher.Job.reply ⟨m.requestId, blank⟩ outcome = .ok reply ∧
        reply.tag = blank.tag ∧ reply.requestId = m.requestId :=
    Dispatcher.exists_reply hreply hfits
  rw [hmade] at hstep
  refine ⟨⟨reply, ?_, htag, hid⟩, ?_, ?_⟩
  · rw [hstep, work?_conclude hwork]
  · rw [hstep, conclude, tasks_finish, List.length_modify, hlength]
  · rw [hstep, conclude, engine_finish, hengine]

/-- A handler that begins replies, unless the request is one that it forwards. -/
theorem step_starting (hwork : e.work? t = some (.handler { request := m, purpose := .reply }))
    (haborting : e.aborting t = false) (hreply : blank.isReply = true)
    (haccept : e.dispatcher.accept m = .ok ⟨m.requestId, blank⟩) :
    e.RepliesNext t blank.tag m.requestId ∨
      (e.step t).1 =
        e.forward t { request := m, purpose := .reply } ⟨m.requestId, blank⟩ := by
  have hstep := step_of_work? hwork haborting
  cases hroute : Dispatcher.route m.tag with
  | acknowledge =>
    left
    have hfits : Dispatcher.Fits blank (.ok blank) := by
      rintro reply heq
      cases heq
      exact ⟨rfl, rfl⟩
    apply repliesNext_of_conclude hreply hfits hwork rfl rfl
    rw [hstep]
    simp only [stepHandler, haccept, hroute]
  | cancel =>
    left
    have hfits := Dispatcher.fits_cancelRunning e.dispatcher m ⟨m.requestId, blank⟩
    let cancelled : Exchange :=
      { e with dispatcher := (e.dispatcher.cancelRunning m ⟨m.requestId, blank⟩).2.2 }
    cases hvictim : (e.dispatcher.cancelRunning m ⟨m.requestId, blank⟩).2.1 with
    | none =>
      have hworkNow : cancelled.work? t =
          some (.handler { request := m, purpose := .reply }) := hwork
      refine repliesNext_of_conclude hreply hfits hworkNow rfl rfl ?_
      rw [hstep]
      simp only [stepHandler, haccept, hroute, hvictim, cancelled]
    | some v =>
      have hworkNow : (abort cancelled v).work? t =
          some (.handler { request := m, purpose := .reply }) := by
        rw [work?_abort]
        exact hwork
      refine repliesNext_of_conclude hreply hfits hworkNow (length_abort _ v)
        (congrArg Parts.engine (parts_abort _ v)) ?_
      rw [hstep]
      simp only [stepHandler, haccept, hroute, hvictim, cancelled]
  | engine =>
    right
    rw [hstep]
    simp only [stepHandler, haccept, hroute]

/-- A handler that waits for its engine call replies when this call has ended. -/
theorem step_joining {tracked : Bool}
    (hwork : e.work? t = some (.handler
      { request := m, purpose := .reply, phase := .joining ⟨m.requestId, blank⟩ c tracked }))
    (haborting : e.aborting t = false) (hreply : blank.isReply = true)
    (hcalling : Calling m blank calls (e.work? c)) :
    e.RepliesNext t blank.tag m.requestId ∨
      (e.step t).1 = e ∧ ∃ call, e.work? c = some (.engineCall call) := by
  have hstep := step_of_work? hwork haborting
  -- The handler goes on with the ending of its call, tracked or not.
  have hresume : ∀ ending : Engine.Ending,
      Dispatcher.Fits blank (Dispatcher.outcomeOf ending) →
      (e.step t).1 =
        ((if tracked then { e with dispatcher := e.dispatcher.untrack m.requestId c }
          else e).conclude t
            { request := m, purpose := .reply,
              phase := .joining ⟨m.requestId, blank⟩ c tracked }
            (Dispatcher.Job.reply ⟨m.requestId, blank⟩ (Dispatcher.outcomeOf ending))).1 →
      e.RepliesNext t blank.tag m.requestId := by
    intro ending hfits heq
    cases tracked with
    | true =>
      let untracked : Exchange := { e with dispatcher := e.dispatcher.untrack m.requestId c }
      have hworkNow : untracked.work? t = _ := hwork
      exact repliesNext_of_conclude hreply hfits hworkNow rfl rfl heq
    | false => exact repliesNext_of_conclude hreply hfits hwork rfl rfl heq
  generalize hc : e.work? c = work at hcalling
  have hawaits : ∀ ec : EngineCall, work = some (.engineCall ec) →
      (e.step t).1 = e ∧ ∃ call, work = some (.engineCall call) := by
    rintro ec rfl
    refine ⟨?_, ec, rfl⟩
    rw [hstep]
    simp only [stepHandler, ended?, hc]
  cases hcalling with
  | starting => exact Or.inr (hawaits _ rfl)
  | working => exact Or.inr (hawaits _ rfl)
  | sleeping => exact Or.inr (hawaits _ rfl)
  | ended ending hproper hfits =>
    left
    apply hresume ending hfits
    rw [hstep]
    simp only [stepHandler, ended?, hc]
  | aborted =>
    left
    apply hresume .aborted (Dispatcher.fits_error blank _)
    rw [hstep]
    simp only [stepHandler, ended?, hc]

/-- What a step of a handler that hands its reply over comes to: it ends with its reply, or
it forwards the request, or it waits for its engine call and nothing changes. -/
theorem stands_step {child : Option TaskId} (h : Stands e t m blank child)
    (haborting : e.aborting t = false) (hreply : blank.isReply = true)
    (haccept : e.dispatcher.accept m = .ok ⟨m.requestId, blank⟩)
    (hcall : ∀ c, child = some c → ∃ calls, Calling m blank calls (e.work? c)) :
    e.RepliesNext t blank.tag m.requestId ∨
    (child = none ∧ e.work? t = some (.handler { request := m, purpose := .reply }) ∧
      (e.step t).1 =
        e.forward t { request := m, purpose := .reply } ⟨m.requestId, blank⟩) ∨
    ((e.step t).1 = e ∧ ∃ c call, child = some c ∧ e.work? c = some (.engineCall call)) := by
  cases h with
  | starting hwork =>
    exact (step_starting hwork haborting hreply haccept).imp_right
      fun hforward => Or.inl ⟨rfl, hwork, hforward⟩
  | joining c tracked hwork =>
    obtain ⟨calls, hcalling⟩ := hcall c rfl
    rcases step_joining hwork haborting hreply hcalling with hreplies | ⟨hsame, call, hlive⟩
    · exact Or.inl hreplies
    · exact Or.inr (Or.inr ⟨hsame, c, call, rfl, hlive⟩)
  | ended child reply hwork htag hid =>
    left
    have hstep : e.step t = (e, false) := step_of_work? hwork haborting
    refine ⟨⟨reply, ?_, htag, hid⟩, ?_, ?_⟩
    · rw [hstep]
      exact hwork
    · rw [hstep]
    · rw [hstep]

/-- Where a handler stands depends on what it is at alone. -/
theorem stands_congr {child : Option TaskId} (h : Stands e t m blank child)
    (hwork : e'.work? t = e.work? t) : Stands e' t m blank child := by
  cases h with
  | starting h => exact .starting (hwork.trans h)
  | joining c tracked h => exact .joining c tracked (hwork.trans h)
  | ended child reply h htag hid => exact .ended child reply (hwork.trans h) htag hid

/-- A handler is no engine call. -/
theorem not_isCall_of_stands {child : Option TaskId} (h : Stands e t m blank child) :
    e.isCall t = false := by
  cases h with
  | starting h => rw [Exchange.isCall, h]; rfl
  | joining c tracked h => rw [Exchange.isCall, h]; rfl
  | ended child reply h => rw [Exchange.isCall, h]; rfl

/-- A task that has come some way as an engine call is one. -/
theorem isCall_of_calling (h : Calling m blank calls (e.work? c)) : e.isCall c = true := by
  rw [Exchange.isCall]
  generalize e.work? c = work at h
  cases h <;> rfl

/-- A task that is no engine call is told to stop only from outside. -/
theorem not_aborting_happen {codec : Codec} {event : Event} (hwatched : Watched codec e)
    (hcall : e.isCall t = false) (haborting : e.aborting t = false) (habort : event ≠ .abort t) :
    (e.happen event).aborting t = false := by
  refine Bool.eq_false_iff.2 fun hset => ?_
  by_cases hevent : ∃ s, event = .step s
  · obtain ⟨s, rfl⟩ := hevent
    rcases aborting_step hset with hold | htracked
    · rw [haborting] at hold
      cases hold
    · rw [hwatched.isCall t htracked] at hcall
      cases hcall
  · rcases (spares_happen fun s heq => hevent ⟨s, heq⟩).aborting t hset with hold | hstop
    · rw [haborting] at hold
      cases hold
    · exact habort hstop

/-! ### Left to themselves -/

/-- The handler of a request has added its engine call, and it was not told to stop. -/
structure Joined (codec : Codec) (e : Exchange) (t c : TaskId) (request blank : Message) :
    Prop where
  watched : Watched codec e
  aborting : e.aborting t = false
  stands : Stands e t request blank (some c)
  calling : ∃ calls, Calling request blank calls (e.work? c)

namespace Joined

variable {codec : Codec}

/-- A step of the engine call leaves its handler joined to it. -/
theorem step (h : Joined codec e t c m blank) : Joined codec (e.step c).1 t c m blank := by
  obtain ⟨calls, hcalling⟩ := h.calling
  have hcall := not_isCall_of_stands h.stands
  have htc : t ≠ c := by
    rintro rfl
    rw [isCall_of_calling hcalling] at hcall
    cases hcall
  have haborting : (e.happen (.step c)).aborting t = false :=
    not_aborting_happen h.watched hcall h.aborting fun heq => by cases heq
  exact {
    watched := h.watched.step c
    aborting := haborting
    stands := stands_congr h.stands (work?_step_of_ne htc h.stands.lt)
    calling := ⟨_, calling_step hcalling⟩ }

/-- Many steps of the engine call leave its handler joined to it. -/
theorem steps (h : Joined codec e t c m blank) (n : Nat) :
    Joined codec (e.steps (List.replicate n c)) t c m blank := by
  induction n generalizing e with
  | zero => exact h
  | succ n ih => exact ih h.step

/-- Once the engine call has ended the handler replies, and until then it waits. -/
theorem answers_or_awaits (h : Joined codec e t c m blank) (hreply : blank.isReply = true)
    (hpauses : Pauses e c) :
    (e.step t).1.Answers t blank.tag m.requestId ∨ e.AwaitsEngine t := by
  obtain ⟨calls, hcalling⟩ := h.calling
  cases h.stands with
  | joining _ tracked hwork =>
    rcases step_joining hwork h.aborting hreply hcalling with hreplies | ⟨-, call, hlive⟩
    · exact Or.inl hreplies.answers
    · rcases hpauses with ⟨result, hended⟩ | ⟨call, hcall, hrunning, hwaits⟩
      · rw [hended] at hlive
        cases hlive
      · exact Or.inr ⟨m, .reply, _, c, tracked, call, hwork, hcall, hrunning, hwaits⟩
  | ended _ reply hwork htag hid =>
    left
    rw [step_of_work? hwork h.aborting]
    exact ⟨reply, ended?_of_work? hwork, htag, hid⟩

/-- The engine call is left to itself, and then the handler replies unless the engine has
not returned. -/
theorem exists_steps (h : Joined codec e t c m blank) (hreply : blank.isReply = true) :
    ∃ turns, (∀ u ∈ turns, u = t ∨ u = c) ∧
      ((e.steps turns).Answers t blank.tag m.requestId ∨ (e.steps turns).AwaitsEngine t) := by
  obtain ⟨calls, hcalling⟩ := h.calling
  obtain ⟨n, hpauses⟩ := exists_pauses hcalling
  rcases (h.steps n).answers_or_awaits hreply hpauses with hanswers | hawaits
  · refine ⟨List.replicate n c ++ [t], fun u hu => ?_, Or.inl ?_⟩
    · rcases List.mem_append.1 hu with hold | hlast
      · exact Or.inr (List.eq_of_mem_replicate hold)
      · exact Or.inl (List.mem_singleton.1 hlast)
    · rw [Exchange.steps, List.foldl_append]
      exact hanswers
  · exact ⟨List.replicate n c, fun u hu => Or.inr (List.eq_of_mem_replicate hu), Or.inr hawaits⟩

end Joined

/-- From where a handler stands, steps of its own and of its engine call bring it to its
reply or to waiting for the engine. -/
theorem exists_steps_of_stands {codec : Codec} {child : Option TaskId}
    (h : Stands e t m blank child) (hwatched : Watched codec e) (haborting : e.aborting t = false)
    (hreply : blank.isReply = true)
    (haccept : e.dispatcher.accept m = .ok ⟨m.requestId, blank⟩)
    (hcall : ∀ c, child = some c → ∃ calls, Calling m blank calls (e.work? c)) :
    ∃ c turns, (∀ u ∈ turns, u = t ∨ u = c) ∧
      ((e.steps turns).Answers t blank.tag m.requestId ∨ (e.steps turns).AwaitsEngine t) := by
  rcases stands_step h haborting hreply haccept hcall with
    hreplies | ⟨-, hwork, hforward⟩ | ⟨-, c, call, rfl, -⟩
  · exact ⟨t, [t], fun u hu => Or.inl (List.mem_singleton.1 hu), Or.inl hreplies.answers⟩
  · have hne : e.tasks.length ≠ t := Ne.symm (Nat.ne_of_lt (lt_of_work? hwork))
    have haborting' : (e.happen (.step t)).aborting t = false :=
      not_aborting_happen hwatched (not_isCall_of_stands h) haborting fun heq => by cases heq
    have hjoined : Joined codec (e.step t).1 t e.tasks.length m blank := by
      refine ⟨hwatched.step t, haborting', ?_, [], ?_⟩
      · rw [hforward]
        refine .joining _ (e.dispatcher.track m.requestId e.tasks.length).1 ?_
        rw [work?_forward _ hwork, if_pos rfl]
      · rw [hforward, work?_forward _ hwork, if_neg hne, if_pos rfl]
        exact .starting rfl
    obtain ⟨turns, hturns, hdone⟩ := hjoined.exists_steps hreply
    refine ⟨e.tasks.length, t :: turns, fun u hu => ?_, hdone⟩
    rcases List.mem_cons.1 hu with rfl | hrest
    · exact Or.inl rfl
    · exact hturns u hrest
  · have hjoined : Joined codec e t c m blank := ⟨hwatched, haborting, h, hcall c rfl⟩
    exact ⟨c, hjoined.exists_steps hreply⟩

/-! ### The course of a dispatch -/

namespace Course

/-- The calls that the engine has noted during the steps of a task. -/
def callsBy (course : Course) (c : TaskId) : List Engine.Call :=
  (course.calls.filter fun entry => entry.1 == c).map Prod.snd

/-- The tasks that a step adds. -/
def added (e : Exchange) (t : TaskId) : List TaskId :=
  (List.range (e.step t).1.tasks.length).drop e.tasks.length

/-- The record of an event is kept beside the exchange and does not change it. -/
theorem exchange_next (course : Course) (event : Event) :
    (course.next event).exchange = course.exchange.happen event := by
  cases event <;> rfl

/-- Only steps are put on record. -/
theorem next_of_ne_step (course : Course) {event : Event} (h : ∀ t, event ≠ .step t) :
    (course.next event).children = course.children ∧
      (course.next event).calls = course.calls := by
  cases event with
  | step t => exact absurd rfl (h t)
  | _ => exact ⟨rfl, rfl⟩

/-- A step puts the tasks on record that it adds. -/
theorem children_step (course : Course) (t : TaskId) :
    (course.next (.step t)).children =
      course.children ++ (added course.exchange t).map fun child => (t, child) := rfl

/-- A step puts the calls on record that the engine notes. -/
theorem calls_step (course : Course) (t : TaskId) :
    (course.next (.step t)).calls =
      course.calls ++ (course.exchange.noted t).map fun call => (t, call) := rfl

/-- A step adds to the calls of its own task only. -/
theorem callsBy_step (course : Course) (t c : TaskId) :
    (course.next (.step t)).callsBy c =
      course.callsBy c ++ if c = t then course.exchange.noted t else [] := by
  rw [callsBy, calls_step, List.filter_append, List.map_append, callsBy]
  congr 1
  by_cases hct : c = t
  · subst hct
    simp [List.filter_map, Function.comp_def]
  · have htc : (t == c) = false := by simpa using Ne.symm hct
    simp [List.filter_map, Function.comp_def, htc, hct]

/-- What is on record is about tasks that exist. -/
structure Bounded (course : Course) : Prop where
  parent : ∀ entry ∈ course.children, entry.1 < course.exchange.tasks.length
  caller : ∀ entry ∈ course.calls, entry.1 < course.exchange.tasks.length

/-- A step of no task calls nobody and adds nothing. -/
theorem noted_eq_nil (h : e.work? t = none) : e.noted t = [] ∧ added e t = [] := by
  have hstep : e.step t = (e, false) := step_of_work?_eq_none h
  refine ⟨noted_of_engine_eq (by rw [hstep]), ?_⟩
  rw [added, hstep, List.drop_eq_nil_of_le]
  exact Nat.le_of_eq List.length_range

/-- What is on record stays about tasks that exist. -/
theorem Bounded.next {course : Course} (h : Bounded course) (event : Event) :
    Bounded (course.next event) := by
  by_cases hevent : ∃ t, event = .step t
  · obtain ⟨t, rfl⟩ := hevent
    have hle : course.exchange.tasks.length ≤ (course.next (.step t)).exchange.tasks.length :=
      length_le_step course.exchange t
    -- A task that does not exist adds nothing to the record.
    have hlt : (course.exchange.noted t ≠ [] ∨ added course.exchange t ≠ []) →
        t < course.exchange.tasks.length := by
      intro hne
      cases hwork : course.exchange.work? t with
      | none =>
        obtain ⟨hnoted, hadded⟩ := noted_eq_nil hwork
        rcases hne with hne | hne
        · exact absurd hnoted hne
        · exact absurd hadded hne
      | some work => exact lt_of_work? hwork
    refine ⟨fun entry hentry => ?_, fun entry hentry => ?_⟩
    · rw [children_step] at hentry
      rcases List.mem_append.1 hentry with hold | hnew
      · exact Nat.lt_of_lt_of_le (h.parent entry hold) hle
      · obtain ⟨child, hchild, rfl⟩ := List.mem_map.1 hnew
        exact Nat.lt_of_lt_of_le (hlt (Or.inr (List.ne_nil_of_mem hchild))) hle
    · rw [calls_step] at hentry
      rcases List.mem_append.1 hentry with hold | hnew
      · exact Nat.lt_of_lt_of_le (h.caller entry hold) hle
      · obtain ⟨call, hcall, rfl⟩ := List.mem_map.1 hnew
        exact Nat.lt_of_lt_of_le (hlt (Or.inl (List.ne_nil_of_mem hcall))) hle
  · have hne : ∀ t, event ≠ .step t := fun t heq => hevent ⟨t, heq⟩
    obtain ⟨hchildren, hcalls⟩ := course.next_of_ne_step hne
    have hle : course.exchange.tasks.length ≤ (course.next event).exchange.tasks.length := by
      rw [exchange_next]
      exact (spares_happen hne).length_le
    refine ⟨fun entry hentry => ?_, fun entry hentry => ?_⟩
    · rw [hchildren] at hentry
      exact Nat.lt_of_lt_of_le (h.parent entry hentry) hle
    · rw [hcalls] at hentry
      exact Nat.lt_of_lt_of_le (h.caller entry hentry) hle

/-- The course of a dispatch: the handler was not told to stop and has not called the
engine itself, and the one task that it may have added is its engine call. -/
structure Attended (course : Course) (t : TaskId) (request blank : Message) : Prop where
  lt : t < course.exchange.tasks.length
  aborting : course.exchange.aborting t = false
  own : ∀ entry ∈ course.calls, entry.1 ≠ t
  stands : ∃ child : Option TaskId,
    (∀ c, (t, c) ∈ course.children ↔ child = some c) ∧
    (∀ c, child = some c →
      Calling request blank (course.callsBy c) (course.exchange.work? c)) ∧
    Stands course.exchange t request blank child

/-- An event that is no step of the handler leaves it where it stands, and brings its engine
call further at most. -/
theorem Attended.next_of_ne {course : Course} {codec : Codec} (h : Attended course t m blank)
    (hwatched : Watched codec course.exchange) {event : Event} (hstep : event ≠ .step t)
    (habort : event ≠ .abort t) : Attended (course.next event) t m blank := by
  obtain ⟨child, hchildren, hcalling, hstands⟩ := h.stands
  have haborting : (course.next event).exchange.aborting t = false := by
    rw [exchange_next]
    exact not_aborting_happen hwatched (not_isCall_of_stands hstands) h.aborting habort
  by_cases hevent : ∃ s, event = .step s
  · obtain ⟨s, rfl⟩ := hevent
    have hst : t ≠ s := fun heq => hstep (by rw [heq])
    have hwork : (course.exchange.step s).1.work? t = course.exchange.work? t :=
      work?_step_of_ne hst h.lt
    refine ⟨Nat.lt_of_lt_of_le h.lt (length_le_step course.exchange s), haborting,
      fun entry hentry => ?_, child, fun c => ?_, fun c hc => ?_, stands_congr hstands hwork⟩
    · rw [calls_step] at hentry
      rcases List.mem_append.1 hentry with hold | hnew
      · exact h.own entry hold
      · obtain ⟨call, -, rfl⟩ := List.mem_map.1 hnew
        exact Ne.symm hst
    · rw [children_step, List.mem_append, hchildren]
      constructor
      · rintro (hold | hnew)
        · exact hold
        · obtain ⟨other, -, heq⟩ := List.mem_map.1 hnew
          exact absurd (Prod.mk.inj heq).1 (Ne.symm hst)
      · exact Or.inl
    · have hold := hcalling c hc
      rw [callsBy_step]
      by_cases hcs : c = s
      · subst hcs
        rw [if_pos rfl]
        exact calling_step hold
      · have hcstep : (course.exchange.step s).1.work? c = course.exchange.work? c :=
          work?_step_of_ne hcs (lt_of_isCall (isCall_of_calling hold))
        rw [if_neg hcs, List.append_nil, exchange_next, Exchange.happen, hcstep]
        exact hold
  · have hne : ∀ s, event ≠ .step s := fun s heq => hevent ⟨s, heq⟩
    have hspares := spares_happen (e := course.exchange) hne
    obtain ⟨hsameChildren, hsameCalls⟩ := course.next_of_ne_step hne
    have hwork : ∀ u, u < course.exchange.tasks.length →
        (course.next event).exchange.work? u = course.exchange.work? u := by
      intro u hu
      rw [exchange_next]
      exact work?_happen_of_ne (hne u) hu
    refine ⟨?_, haborting, fun entry hentry => ?_, child, fun c => ?_, fun c hc => ?_,
      stands_congr hstands (hwork t h.lt)⟩
    · rw [exchange_next]
      exact Nat.lt_of_lt_of_le h.lt hspares.length_le
    · rw [hsameCalls] at hentry
      exact h.own entry hentry
    · rw [hsameChildren, hchildren]
    · have hold := hcalling c hc
      rw [callsBy, hsameCalls, hwork c (lt_of_isCall (isCall_of_calling hold))]
      exact hold

/-- A step of the handler ends it with its reply or makes it wait for its engine call. -/
theorem Attended.next_self {course : Course} {codec : Codec} (h : Attended course t m blank)
    (hwatched : Watched codec course.exchange) (hbounded : Bounded course)
    (hreply : blank.isReply = true)
    (haccept : course.exchange.dispatcher.accept m = .ok ⟨m.requestId, blank⟩) :
    Attended (course.next (.step t)) t m blank := by
  obtain ⟨child, hchildren, hcalling, hstands⟩ := h.stands
  have hlt : t < (course.exchange.step t).1.tasks.length :=
    Nat.lt_of_lt_of_le h.lt (length_le_step course.exchange t)
  have haborting : (course.exchange.happen (.step t)).aborting t = false :=
    not_aborting_happen hwatched (not_isCall_of_stands hstands) h.aborting nofun
  -- The engine call of the handler is another task, so it is where it was.
  have hchild : ∀ c, child = some c → c ≠ t ∧
      (course.exchange.step t).1.work? c = course.exchange.work? c := by
    intro c hc
    have hcall := isCall_of_calling (hcalling c hc)
    have hne : c ≠ t := by
      rintro rfl
      rw [not_isCall_of_stands hstands] at hcall
      cases hcall
    exact ⟨hne, work?_step_of_ne hne (lt_of_isCall hcall)⟩
  have hquiet : course.exchange.noted t = [] → added course.exchange t = [] →
      Stands (course.exchange.step t).1 t m blank child →
        Attended (course.next (.step t)) t m blank := by
    intro hnoted hadded hafter
    refine ⟨hlt, haborting, fun entry hentry => ?_, child, fun c => ?_, fun c hc => ?_, hafter⟩
    · rw [calls_step, hnoted, List.map_nil, List.append_nil] at hentry
      exact h.own entry hentry
    · rw [children_step, hadded, List.map_nil, List.append_nil, hchildren]
    · rw [callsBy_step, hnoted, ite_self, List.append_nil, exchange_next, Exchange.happen,
        (hchild c hc).2]
      exact hcalling c hc
  have hadded_nil : (course.exchange.step t).1.tasks.length = course.exchange.tasks.length →
      added course.exchange t = [] := by
    intro hlength
    rw [added, hlength, List.drop_eq_nil_of_le (Nat.le_of_eq List.length_range)]
  rcases stands_step hstands h.aborting hreply haccept fun c hc => ⟨_, hcalling c hc⟩ with
    ⟨⟨reply, hended, htag, hid⟩, hlength, hengine⟩ | ⟨hnone, hwork, hforward⟩ | ⟨hsame, -⟩
  · exact hquiet (noted_of_engine_eq hengine) (hadded_nil hlength)
      (.ended child reply hended htag hid)
  · have hengine : (course.exchange.step t).1.engine = course.exchange.engine := by
      rw [hforward]
      exact engine_forward _ _
    have hadded : added course.exchange t = [course.exchange.tasks.length] := by
      rw [added, hforward, length_forward, List.range_succ, List.drop_append_of_le_length
        (Nat.le_of_eq List.length_range.symm), List.drop_eq_nil_of_le
        (Nat.le_of_eq List.length_range), List.nil_append]
    refine ⟨hlt, haborting, fun entry hentry => ?_, some course.exchange.tasks.length,
      fun c => ?_, fun c hc => ?_, ?_⟩
    · rw [calls_step, noted_of_engine_eq hengine, List.map_nil, List.append_nil] at hentry
      exact h.own entry hentry
    · rw [children_step, hadded, List.mem_append, hchildren, hnone]
      simp [eq_comm]
    · obtain rfl := Option.some.inj hc
      have hnew : course.callsBy course.exchange.tasks.length = [] := by
        rw [callsBy, List.map_eq_nil_iff, List.filter_eq_nil_iff]
        intro entry hentry
        have hold := hbounded.caller entry hentry
        simpa using Nat.ne_of_lt hold
      have hne : course.exchange.tasks.length ≠ t := Ne.symm (Nat.ne_of_lt h.lt)
      rw [callsBy_step, noted_of_engine_eq hengine, ite_self, List.append_nil, hnew,
        exchange_next, Exchange.happen, hforward, work?_forward _ hwork, if_neg hne, if_pos rfl]
      exact .starting rfl
    · refine .joining course.exchange.tasks.length
        (course.exchange.dispatcher.track m.requestId course.exchange.tasks.length).1 ?_
      rw [exchange_next, Exchange.happen, hforward, work?_forward _ hwork, if_pos rfl]
  · refine hquiet ?_ ?_ ?_
    · exact noted_of_engine_eq (by rw [hsame])
    · exact hadded_nil (by rw [hsame])
    · rw [hsame]
      exact hstands

/-- The calls on behalf of a handler are those of its engine call. -/
theorem Attended.proper_callsFor {course : Course} (h : Attended course t m blank) :
    Proper m (course.callsFor t) := by
  obtain ⟨child, hchildren, hcalling, -⟩ := h.stands
  have hfor : ∀ entry ∈ course.calls,
      (entry.1 == t || course.children.contains (t, entry.1)) = decide (child = some entry.1) := by
    intro entry hentry
    have hown : (entry.1 == t) = false := by simpa using h.own entry hentry
    rw [hown, Bool.false_or, Bool.eq_iff_iff, List.contains_iff_mem, hchildren, decide_eq_true_iff]
  rw [callsFor, List.filter_congr hfor]
  cases child with
  | none =>
    left
    simp
  | some c =>
    have hcalls := (hcalling c rfl).proper
    have hby : (course.calls.filter fun entry => decide (some c = some entry.1)) =
        course.calls.filter fun entry => entry.1 == c := by
      refine List.filter_congr fun entry _ => ?_
      rw [Bool.eq_iff_iff, decide_eq_true_iff, beq_iff_eq, Option.some.injEq, eq_comm]
    rw [hby]
    exact hcalls

/-- What holds of an exchange without tasks holds along every course that it begins. -/
theorem watched_run {codec : Codec} {course : Course} (hwatched : Watched codec course.exchange)
    (hbounded : Bounded course) (events : List Event) :
    Watched codec (course.run events).exchange ∧ Bounded (course.run events) := by
  induction events generalizing course with
  | nil => exact ⟨hwatched, hbounded⟩
  | cons event events ih =>
    refine ih ?_ (hbounded.next event)
    rw [exchange_next]
    exact hwatched.happen event

/-- A dispatch that has begun is attended to. -/
theorem attended_start {course : Course} (hbounded : Bounded course) (m blank : Message) :
    Attended (course.next (.start (.handler m .reply))) course.exchange.tasks.length m blank := by
  have htasks : (course.next (.start (.handler m .reply))).exchange.tasks =
      course.exchange.tasks ++ [{ work := .handler { request := m, purpose := .reply } }] := rfl
  refine ⟨?_, ?_, fun entry hentry => ?_, none, fun c => ?_, fun c hnone => ?_, .starting ?_⟩
  · rw [htasks, List.length_append]
    exact Nat.lt_succ_self _
  · rw [aborting_of_append htasks, Exchange.aborting, List.getElem?_eq_none (Nat.le_refl _)]
    rfl
  · exact Nat.ne_of_lt (hbounded.caller entry hentry)
  · refine ⟨fun hmem => ?_, fun hnone => ?_⟩
    · exact absurd (hbounded.parent _ hmem) (Nat.lt_irrefl _)
    · cases hnone
  · cases hnone
  · rw [work?_of_append htasks, if_pos rfl]

/-- A dispatch is attended to for as long as nobody tells it to stop. -/
theorem attended_run {codec : Codec} {course : Course} {expected : Tag}
    (hwatched : Watched codec course.exchange) (hbounded : Bounded course)
    (h : Attended course t m blank) (hexpected : m.expectedReply? = some expected)
    (hbound : codec.registry.template? expected = some blank) (hreply : blank.isReply = true)
    {events : List Event} (habort : .abort t ∉ events) :
    Attended (course.run events) t m blank := by
  induction events generalizing course with
  | nil => exact h
  | cons event events ih =>
    obtain ⟨hfirst, hrest⟩ := not_or.1 (mt List.mem_cons.2 habort)
    have haccept : course.exchange.dispatcher.accept m = .ok ⟨m.requestId, blank⟩ := by
      apply Dispatcher.accept_eq_ok hexpected
      rw [hwatched.codec]
      exact hbound
    refine ih ?_ (hbounded.next event) ?_ hrest
    · rw [exchange_next]
      exact hwatched.happen event
    · by_cases hself : event = .step t
      · subst hself
        exact h.next_self hwatched hbounded hreply haccept
      · exact h.next_of_ne hwatched hself (Ne.symm hfirst)

end Course

/-- An exchange without tasks. -/
structure Fresh (e : Exchange) : Prop where
  tasks : e.tasks = []
  running : e.dispatcher.running = []

/-- What comes of the dispatch of a request by the handler `t`. -/
structure Dispatched (course : Course) (t : TaskId) (m : Message) (expected : Tag) : Prop where
  /-- It ends with nothing but a reply of the type that is expected and with the id of the
  request. -/
  ended : ∀ result, course.exchange.ended? t = some result →
    course.exchange.Answers t expected m.requestId
  /-- From wherever the course has come, steps of the handler and of one other task bring it to
  that reply, unless the engine has not returned. -/
  progress : ∃ c turns, (∀ u ∈ turns, u = t ∨ u = c) ∧
    ((course.exchange.steps turns).Answers t expected m.requestId ∨
      (course.exchange.steps turns).AwaitsEngine t)
  /-- The engine is called at most once on its behalf, -/
  once : (course.callsFor t).length ≤ 1
  /-- and only as the tag, the class and the properties of the request say. -/
  calls : ∀ call ∈ course.callsFor t, ∃ op, m.tag = .request op ∧ m.messageClass = .request op ∧
    Engine.Call.ofBag? op m.bag = some (.ok call) ∧ call.operation = op

/-- In every course of an exchange the dispatch of a request that expects a reply of a
bound type comes to that reply and to nothing else. -/
theorem dispatch_answers (e : Exchange) (hfresh : Fresh e) (before after : List Event)
    (m blank : Message) (expected : Tag) (hexpected : m.expectedReply? = some expected)
    (hbound : e.dispatcher.codec.registry.template? expected = some blank)
    (hreply : blank.isReply = true) :
    let begun : Course := Course.run { exchange := e } before
    let t := begun.exchange.tasks.length
    let course := begun.run (.start (.handler m .reply) :: after)
    .abort t ∉ after → Dispatched course t m expected := by
  intro begun t course habort
  have hstart : Watched e.dispatcher.codec ({ exchange := e } : Course).exchange := by
    refine ⟨rfl, ?_⟩
    rintro u ⟨id, hu⟩
    rw [hfresh.running] at hu
    cases hu
  have hempty : Course.Bounded { exchange := e } := ⟨nofun, nofun⟩
  obtain ⟨hwatched, hbounded⟩ := Course.watched_run hstart hempty before
  have hopened : Watched e.dispatcher.codec
      (begun.next (.start (.handler m .reply))).exchange := by
    rw [Course.exchange_next]
    exact hwatched.happen _
  have hattended : Course.Attended course t m blank :=
    Course.attended_run hopened (hbounded.next _) (Course.attended_start hbounded m blank)
      hexpected hbound hreply habort
  have htag := Registry.tag_of_template? hbound
  obtain ⟨child, -, hcalling, hstands⟩ := hattended.stands
  exact {
    ended := fun result hresult => by
      cases hstands with
      | starting hwork =>
        rw [ended?, hwork] at hresult
        cases hresult
      | joining c tracked hwork =>
        rw [ended?, hwork] at hresult
        cases hresult
      | ended child reply hwork hreplyTag hid =>
        exact ⟨reply, ended?_of_work? hwork, hreplyTag.trans htag, hid⟩
    progress := by
      have hrun : Watched e.dispatcher.codec course.exchange :=
        (Course.watched_run hopened (hbounded.next _) after).1
      have haccept : course.exchange.dispatcher.accept m = .ok ⟨m.requestId, blank⟩ := by
        apply Dispatcher.accept_eq_ok hexpected
        rw [hrun.codec]
        exact hbound
      rw [← htag]
      exact exists_steps_of_stands hstands hrun hattended.aborting hreply haccept
        fun c hc => ⟨_, hcalling c hc⟩
    once := by
      rcases hattended.proper_callsFor with hnone | ⟨call, hone, -⟩
      · rw [hnone]
        exact Nat.zero_le _
      · rw [hone]
        exact Nat.le_refl _
    calls := fun call hcall => by
      rcases hattended.proper_callsFor with hnone | ⟨called, hone, hread⟩
      · rw [hnone] at hcall
        cases hcall
      · rw [hone] at hcall
        obtain rfl := List.mem_singleton.1 hcall
        obtain ⟨op, hop, hclass, hbag⟩ := Engine.Call.ofRequest_eq_ok hread
        exact ⟨op, hop, hclass, hbag, Engine.Call.operation_of_ofBag? hbag⟩ }

/-- An exchange over the standard registry in which nothing has happened. -/
def idle : Exchange where
  link := .channels 1
  correlator := { codec := .standard, requestTimeout := none, retiredTtl := 0 }
  dispatcher := { codec := .standard }

/-- A request to describe a domain under the tag of a request to connect. -/
def mistagged : Message :=
  { (Message.request .describeDomain).setRequestId 7 with tag := .request .connect }

/-- A request under the tag of another one is dispatched, too. -/
theorem dispatch_answers_mistagged :
    Fresh idle ∧ mistagged.expectedReply? = some (.reply .describeDomain) ∧
    idle.dispatcher.codec.registry.template? (.reply .describeDomain) =
      some (Message.reply .describeDomain) ∧
    (Message.reply .describeDomain).isReply = true ∧
    .abort 0 ∉ ([.step 0, .step 1, .step 0] : List Event) ∧
    Dispatched (Course.run { exchange := idle }
      [.start (.handler mistagged .reply), .step 0, .step 1, .step 0]) 0 mistagged
      (.reply .describeDomain) :=
  have hfresh : Fresh idle := ⟨rfl, rfl⟩
  have hbound : idle.dispatcher.codec.registry.template? (.reply .describeDomain) =
      some (Message.reply .describeDomain) :=
    Registry.template?_standard_reply .describeDomain
  have habort : .abort 0 ∉ ([.step 0, .step 1, .step 0] : List Event) := by simp
  ⟨hfresh, rfl, hbound, rfl, habort,
    dispatch_answers idle hfresh [] [.step 0, .step 1, .step 0] mistagged
      (Message.reply .describeDomain) (.reply .describeDomain) rfl hbound rfl habort⟩

end Parley.Exchange
