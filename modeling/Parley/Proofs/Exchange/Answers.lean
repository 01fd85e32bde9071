/-
# What is sent when a source is served

Each request that a server takes has a handler of its own.  While the handler dispatches,
nothing of it is on record; then it has come to a reply, once and for all, and the frame of
the reply, if there is one, is sent when the handler ends.  So what was sent at any moment
is made of the replies of the handlers that have ended, one frame for each of them.
-/

import Mathlib.Data.List.Basic
import Parley.Proofs.Exchange.Failing
import Parley.Proofs.Exchange.Serving

namespace Parley

open Parley.Frame (Bytes)
open Parley.Link (Arrival)

namespace Dispatcher

/-- What an outcome amounts to fits the blank reply. -/
theorem fits_of_amounts {blank : Message} {outcome : Except Failure Message}
    {mishap? : Option Engine.Mishap} (h : Amounts blank outcome mishap?) : Fits blank outcome := by
  cases mishap? with
  | some mishap =>
    rw [show outcome = .error mishap.failure from h]
    exact fits_error blank _
  | none =>
    obtain ⟨made, rfl, hform, -⟩ := h
    intro reply heq
    cases heq
    have htag : made.blank.tag = blank.blank.tag := by rw [hform]
    have hrole : made.blank.role = blank.blank.role := by rw [hform]
    exact ⟨htag, hrole⟩

/-- The reply of a job is of the type and the class of the blank one, and has the id of the
job. -/
theorem Job.made_of_reply {job : Job} {outcome : Except Failure Message} {reply : Message}
    (hfits : Fits job.blank outcome) (h : job.reply outcome = .ok reply) :
    ∃ made : Message, reply = made.setRequestId job.id ∧ made.hasRequestId = true ∧
      made.tag = job.blank.tag ∧ made.role = job.blank.role := by
  have hwritten : ∀ made : Message, made.tag = job.blank.tag → made.role = job.blank.role →
      (if made.hasRequestId then .ok (made.setRequestId job.id)
        else .error (.unexpectedMessage job.blank.tag)) = (.ok reply : Except Fault Message) →
      ∃ made : Message, reply = made.setRequestId job.id ∧ made.hasRequestId = true ∧
        made.tag = job.blank.tag ∧ made.role = job.blank.role := by
    intro made htag hrole heq
    by_cases hhas : made.hasRequestId = true
    · rw [if_pos hhas, Except.ok.injEq] at heq
      exact ⟨made, heq.symm, hhas, htag, hrole⟩
    · rw [if_neg hhas] at heq
      cases heq
  cases outcome with
  | ok made =>
    obtain ⟨htag, hrole⟩ := hfits made rfl
    exact hwritten made htag hrole h
  | error failure =>
    by_cases hreply : job.blank.isReply = true
    · simp only [Job.reply, if_pos hreply, ok_bind] at h
      exact hwritten (job.blank.setFailure (some failure)) rfl rfl h
    · simp only [Job.reply, if_neg hreply, error_bind] at h
      cases h

end Dispatcher

namespace Exchange

variable {codec : Codec} {e : Exchange} {t u : TaskId} {request reply : Message}
  {result : Except Fault Message}

/-! ### Replies to requests -/

/-- What the dispatch of a request comes to: a reply of the type that the request expects, with
its id, or none, and then the registry knows no reply for it. -/
structure Suits (codec : Codec) (request : Message) (result : Except Fault Message) : Prop where
  made : ∀ reply, result = .ok reply → ∃ made blank : Message,
    reply = made.setRequestId request.requestId ∧ made.hasRequestId = true ∧
    request.expectedReply? = some made.tag ∧
    codec.registry.template? made.tag = some blank ∧ made.role = blank.role
  refused : ∀ fault, result = .error fault → ∀ expected blank,
    request.expectedReply? = some expected → codec.registry.template? expected = some blank →
    blank.isReply = false

namespace Suits

/-- A request that is not accepted has no reply. -/
theorem of_refused {d : Dispatcher} {fault : Fault} (h : d.accept request = .error fault) :
    Suits d.codec request (.error fault) where
  made _ heq := by cases heq
  refused _ _ expected blank hexpected hbound := by
    rw [Dispatcher.accept_eq_ok hexpected hbound] at h
    cases h

/-- The registry has the blank reply for a request that is accepted. -/
theorem blank_of_accept {d : Dispatcher} {job : Dispatcher.Job} (h : d.accept request = .ok job) :
    request.expectedReply? = some job.blank.tag ∧
      d.codec.registry.template? job.blank.tag = some job.blank := by
  unfold Dispatcher.accept at h
  split at h
  next => cases h
  next expected hexpected =>
    obtain ⟨blank, hmade, rfl⟩ := map_eq_ok.1 h
    unfold Registry.createMessage at hmade
    split at hmade
    next bound hbound =>
      cases hmade
      rw [Registry.tag_of_template? hbound]
      exact ⟨hexpected, hbound⟩
    next => cases hmade

/-- A job whose outcome fits its blank reply. -/
theorem of_job {d : Dispatcher} {job : Dispatcher.Job} {outcome : Except Failure Message}
    (haccept : d.accept request = .ok job) (hfits : Dispatcher.Fits job.blank outcome) :
    Suits d.codec request (job.reply outcome) := by
  obtain ⟨hexpected, hbound⟩ := blank_of_accept haccept
  refine ⟨fun reply hreply => ?_, fun fault hfault expected blank hexpected' hbound' => ?_⟩
  · obtain ⟨made, rfl, hhas, htag, hrole⟩ := Dispatcher.Job.made_of_reply hfits hreply
    rw [Dispatcher.id_of_accept haccept]
    rw [← htag] at hexpected hbound
    exact ⟨made, job.blank, rfl, hhas, hexpected, hbound, hrole⟩
  · cases hexpected.symm.trans hexpected'
    cases hbound.symm.trans hbound'
    refine Bool.eq_false_iff.2 fun hreply => ?_
    obtain ⟨reply, hmade, -⟩ := Dispatcher.exists_reply hreply hfits
    cases hmade.symm.trans hfault

/-- The frame of a reply is read as a message of the type that the request expects, with its
id.  What the registry adds by itself has no part in it. -/
theorem decode (h : Suits codec request (.ok reply)) {answer : Bytes}
    (hframe : codec.encode reply = .ok answer) :
    ∃ message, codec.decode answer = .ok message ∧
      request.expectedReply? = some message.tag ∧ message.requestId = request.requestId := by
  obtain ⟨made, blank, rfl, hhas, hexpected, hbound, hrole⟩ := h.made reply rfl
  obtain ⟨hsize, rfl⟩ := Codec.encode_eq_ok.1 hframe
  have hbound' : codec.registry.template? (made.setRequestId request.requestId).tag =
      some blank := hbound
  have hhas' : blank.hasRequestId = true := by
    rw [Message.hasRequestId, ← hrole]
    exact hhas
  refine ⟨_, Codec.decode_sizedContent_of_template hbound' hsize, ?_, ?_⟩
  · rw [hexpected, ← Registry.tag_of_template? hbound]
  · apply Message.requestId_of_text?
    · exact hhas'
    · rw [Bag.text?, Bag.get?_foldl_insert_entries]
      simp [Message.setRequestId, Bag.setInt64]

end Suits

/-- What a handler comes to suits its request, in every course. -/
theorem Course.Grounded.suits {script : Engine.Script} {course : Course}
    (h : Course.Grounded script course) {handler : Handler}
    (hwork : course.exchange.work? t = some (.handler handler))
    (hreply : course.exchange.replyAt? t = some result) :
    Suits course.exchange.dispatcher.codec handler.request result := by
  cases haccept : course.exchange.dispatcher.accept handler.request with
  | ok job =>
    obtain ⟨outcome, mishap?, rfl, -, hamounts⟩ := h.exists_handled hwork haccept hreply
    exact .of_job haccept (Dispatcher.fits_of_amounts hamounts)
  | error fault =>
    obtain ⟨request, purpose, phase⟩ := handler
    cases phase with
    | starting =>
      rw [replyAt?_of_starting hwork, replyAtOnce?, haccept] at hreply
      cases hreply
      exact .of_refused haccept
    | joining job c tracked =>
      obtain ⟨haccept', -⟩ := h.joins t request purpose job c tracked hwork
      cases haccept.symm.trans haccept'
    | transmitting frame =>
      rw [replyAt?, hwork] at hreply
      cases hreply

/-! ### The record after one step -/

namespace Serving

variable {s s' : Serving} {work : Work} {added : Option Work} {out : List Bytes}
  {arrivals : List Arrival} {last : Arrival} {turns capacity : Nat}

/-- The tasks that were added for what was taken. -/
def handlers (s : Serving) : List TaskId :=
  s.taken.filterMap Prod.snd

/-- The frame of the reply that a handler has come to. -/
def answer? (codec : Codec) (s : Serving) (t : TaskId) : Option Bytes :=
  (s.replies.filter fun entry => entry.1 == t).head?.bind fun entry =>
    (entry.2.bind codec.encode).toOption

/-- The frame that was sent by a handler. -/
def delivered? (codec : Codec) (s : Serving) (t : TaskId) : Option Bytes :=
  (s.exchange.ended? t).bind fun _ => s.answer? codec t

/-- The new numbers are those of the tasks that were added. -/
theorem head?_added {e e' : Exchange} (hmoved : Moved e e' t work added out) :
    ((List.range e'.tasks.length).drop e.tasks.length).head? =
      added.map fun _ => e.tasks.length := by
  rw [hmoved.length]
  cases added with
  | none => simp
  | some new => simp [List.range_succ]

/-- The record after a step in which something was taken. -/
theorem next_of_serving {arrival : Arrival} {rest : List Arrival}
    (hserver : s.exchange.work? t = some (.serving (arrival :: rest)))
    (hmoved : Moved s.exchange (s.exchange.step t).1 t work added out) :
    s.next (.step t) =
      { exchange := (s.exchange.step t).1
        taken := s.taken ++ [(arrival, added.map fun _ => s.exchange.tasks.length)]
        replies := s.replies } := by
  have harriving : s.exchange.arriving? t = some arrival := by rw [arriving?, hserver]
  have hreply : s.exchange.replyAt? t = none := by rw [replyAt?, hserver]
  simp only [next, happen, harriving, hreply, head?_added hmoved, Option.toList_some,
    Option.toList_none, List.map_cons, List.map_nil, List.append_nil]

/-- The record after a step in which a handler has come to its reply. -/
theorem next_of_replyAt? {phase : HandlerPhase}
    (hhandler : s.exchange.work? t = some (.handling request phase))
    (hreply : s.exchange.replyAt? t = some result) :
    s.next (.step t) =
      { exchange := (s.exchange.step t).1
        taken := s.taken
        replies := s.replies ++ [(t, result)] } := by
  have harriving : s.exchange.arriving? t = none := by rw [arriving?, hhandler]
  simp only [next, happen, harriving, hreply, Option.toList_some, Option.toList_none,
    List.map_cons, List.map_nil, List.append_nil]

/-- The record after any other step. -/
theorem next_of_silent (harriving : s.exchange.arriving? t = none)
    (hreply : s.exchange.replyAt? t = none) :
    s.next (.step t) = { s with exchange := (s.exchange.step t).1 } := by
  simp only [next, happen, harriving, hreply, Option.toList_none, List.map_nil, List.append_nil]

/-- An engine call takes nothing that arrives and makes no reply. -/
theorem silent_of_isCall {e : Exchange} (hcall : e.isCall t = true) :
    e.arriving? t = none ∧ e.replyAt? t = none := by
  obtain ⟨work, hwork, hwas⟩ := (Option.any_eq_true _ _).1 hcall
  rw [arriving?, replyAt?, hwork]
  cases work <;> first | exact ⟨rfl, rfl⟩ | cases hwas

/-! ### The loop -/

/-- How far the server has come after this many turns. -/
structure Loops (s : Serving) (arrivals : List Arrival) (last : Arrival) (turns : Nat) : Prop where
  taken : s.taken.map Prod.fst = (arrivals ++ [last]).take turns
  serving : turns ≤ arrivals.length →
    s.exchange.work? 0 = some (.serving ((arrivals ++ [last]).drop turns))
  closed : arrivals.length < turns →
    s.exchange.work? 0 = some (.ended (.loop (closing last)))

/-- What passes does not close the connection. -/
theorem not_closes_of_passes {arrival : Arrival} (h : Passes codec arrival) : ¬ Closes arrival := by
  cases arrival with
  | nothing | ended => cases h
  | frame frame => exact id
  | fault fault =>
    rw [Closes, show fault.isProtocol = true from h]
    exact Bool.noConfusion

/-- The arrival that comes next is one of those that pass, or the last. -/
theorem next_arrival {arrival : Arrival} {rest : List Arrival}
    (hnext : (arrivals ++ [last]).drop turns = arrival :: rest) :
    (arrivals ++ [last]).take (turns + 1) = (arrivals ++ [last]).take turns ++ [arrival] ∧
      (arrivals ++ [last]).drop (turns + 1) = rest ∧
      (turns < arrivals.length ∧ arrival ∈ arrivals ∨
        turns = arrivals.length ∧ arrival = last) := by
  have hlt : turns < (arrivals ++ [last]).length := by
    rw [← Nat.not_le]
    intro hle
    rw [List.drop_eq_nil_of_le hle] at hnext
    cases hnext
  rw [List.drop_eq_getElem_cons hlt] at hnext
  obtain ⟨harrival, hrest⟩ := List.cons_eq_cons.1 hnext
  refine ⟨?_, hrest, ?_⟩
  · rw [List.take_succ_eq_append_getElem hlt, harrival]
  · rw [List.length_append, List.length_singleton] at hlt
    rcases Nat.lt_or_eq_of_le (Nat.le_of_lt_succ hlt) with hinner | heq
    · rw [List.getElem_append_left hinner] at harrival
      exact Or.inl ⟨hinner, harrival ▸ List.getElem_mem hinner⟩
    · subst heq
      rw [List.getElem_append_right (Nat.le_refl _)] at harrival
      exact Or.inr ⟨rfl, by simpa using harrival.symm⟩

namespace Loops

/-- There is a server. -/
theorem exists_work (h : s.Loops arrivals last turns) : ∃ work, s.exchange.work? 0 = some work := by
  rcases Nat.lt_or_ge arrivals.length turns with hlt | hle
  · exact ⟨_, h.closed hlt⟩
  · exact ⟨_, h.serving hle⟩

/-- Nobody else has any part in the loop. -/
theorem step_of_ne (h : s.Loops arrivals last turns) (hattended : Attended codec s.exchange)
    (ht : t ≠ 0) : (s.next (.step t)).Loops arrivals last turns := by
  have hkept : (s.next (.step t)).exchange.work? 0 = s.exchange.work? 0 := by
    obtain ⟨work, hwork⟩ := h.exists_work
    exact work?_step_of_ne (Ne.symm ht) (lt_of_work? hwork)
  have htaken : (s.next (.step t)).taken = s.taken := by
    simp only [next, hattended.arriving?_of_ne ht, Option.toList_none, List.map_nil,
      List.append_nil]
  refine ⟨htaken ▸ h.taken, fun hturns => ?_, fun hturns => ?_⟩
  · rw [hkept, h.serving hturns]
  · rw [hkept, h.closed hturns]

/-- A server that has ended takes nothing more. -/
theorem step_closed (h : s.Loops arrivals last turns) (hover : arrivals.length < turns) :
    (s.next (.step 0)).Loops arrivals last (turns + 1) := by
  have hclosed := h.closed hover
  have hsame : s.next (.step 0) = s := by
    rw [next_of_silent (by rw [arriving?, hclosed]) (by rw [replyAt?, hclosed]),
      step_of_ended hclosed]
  have hlength : (arrivals ++ [last]).length ≤ turns := by
    rw [List.length_append]
    exact hover
  refine ⟨?_, fun hle => ?_, fun _ => ?_⟩
  · rw [hsame, h.taken, List.take_of_length_le hlength,
      List.take_of_length_le (Nat.le_succ_of_le hlength)]
  · exact absurd (Nat.lt_of_lt_of_le hover (Nat.le_of_succ_le hle)) (Nat.lt_irrefl _)
  · rw [hsame]
    exact hclosed

/-- In its turn the server takes the next arrival, and ends after the last one. -/
theorem step_self (h : s.Loops arrivals last turns) (hattended : Attended codec s.exchange)
    (harrivals : ∀ arrival ∈ arrivals, Passes codec arrival) (hlast : Closes last) :
    (s.next (.step 0)).Loops arrivals last (turns + 1) := by
  rcases Nat.lt_or_ge arrivals.length turns with hover | hturns
  · exact h.step_closed hover
  have hserving := h.serving hturns
  cases hdrop : (arrivals ++ [last]).drop turns with
  | nil =>
    have hle := List.drop_eq_nil_iff.1 hdrop
    rw [List.length_append, List.length_singleton] at hle
    exact absurd (Nat.lt_of_lt_of_le (Nat.lt_succ_self _) hle) (Nat.not_lt.2 hturns)
  | cons arrival rest =>
    obtain ⟨htake, hrest, hwhich⟩ := next_arrival hdrop
    rw [hdrop] at hserving
    have htaken : ∀ {work added}, Moved s.exchange (s.exchange.step 0).1 0 work added [] →
        (s.next (.step 0)).taken.map Prod.fst = (arrivals ++ [last]).take (turns + 1) := by
      intro work added hmoved
      rw [next_of_serving hserving hmoved, List.map_append, h.taken, htake]
      rfl
    rcases hattended.step_server hserving with ⟨hcloses, hmoved⟩ | ⟨hcloses, added, hmoved⟩
    · have hend : turns = arrivals.length ∧ arrival = last := hwhich.resolve_left
        fun hinner => not_closes_of_passes (harrivals _ hinner.2) hcloses
      refine ⟨htaken hmoved, fun hle => ?_, fun _ => ?_⟩
      · exact absurd hle (Nat.not_le.2 (hend.1 ▸ Nat.lt_succ_self _))
      · rw [← hend.2]
        exact (hmoved.work 0).trans (if_pos rfl)
    · have hinner : turns < arrivals.length := by
        rcases hwhich with hinner | ⟨-, rfl⟩
        · exact hinner.1
        · exact absurd hlast hcloses
      refine ⟨htaken hmoved, fun _ => ?_, fun hover => ?_⟩
      · rw [hrest]
        exact (hmoved.work 0).trans (if_pos rfl)
      · exact absurd hover (Nat.not_lt.2 hinner)

end Loops

/-! ### Handlers -/

/-- How far the handler of a request has come, and what is on record of it. -/
inductive Stage (codec : Codec) (s : Serving) (t : TaskId) (request : Message) : Prop where
  | dispatching {phase : HandlerPhase} (hwork : s.exchange.work? t = some (.handling request phase))
      (hdispatches : s.exchange.dispatches t = true)
      (hnone : s.replies.filter (fun entry => entry.1 == t) = []) : Stage codec s t request
  | sending {reply : Message} {frame : Bytes}
      (hwork : s.exchange.work? t = some (.handling request (.transmitting frame)))
      (hcomes : s.Comes t (.ok reply)) (hframe : codec.encode reply = .ok frame)
      (hsuits : Suits codec request (.ok reply)) : Stage codec s t request
  | done {result : Except Fault Message} (hwork : s.exchange.work? t = some .handled)
      (hcomes : s.Comes t result) (hsuits : Suits codec request result) : Stage codec s t request

/-- What was taken has a handler when it is a request, and none otherwise. -/
inductive Entry (codec : Codec) (s : Serving) : Arrival × Option TaskId → Prop where
  | skipped {arrival : Arrival}
      (hnone : ∀ frame request, arrival = .frame frame → codec.decode frame ≠ .ok request) :
      Entry codec s (arrival, none)
  | handled {frame : Bytes} {request : Message} {t : TaskId}
      (hrequest : codec.decode frame = .ok request) (hstage : Stage codec s t request) :
      Entry codec s (.frame frame, some t)

/-- Each request that was taken has a handler of its own, and there are no others. -/
structure Handles (s : Serving) (codec : Codec) : Prop where
  entries : ∀ entry ∈ s.taken, Entry codec s entry
  nodup : s.handlers.Nodup
  known : ∀ t request phase, s.exchange.work? t = some (.handling request phase) →
    t ∈ s.handlers
  replied : ∀ entry ∈ s.replies, entry.1 ∈ s.handlers

namespace Stage

/-- A handler at some stage is a task. -/
theorem exists_work (h : Stage codec s t request) : ∃ work, s.exchange.work? t = some work := by
  cases h with
  | dispatching hwork => exact ⟨_, hwork⟩
  | sending hwork => exact ⟨_, hwork⟩
  | done hwork => exact ⟨_, hwork⟩

/-- A handler is no engine call. -/
theorem not_isCall (h : Stage codec s t request) : s.exchange.isCall t = false := by
  cases h with
  | dispatching hwork | sending hwork | done hwork =>
    rw [isCall, hwork]
    rfl

/-- A handler is not the server. -/
theorem not_serving (h : Stage codec s t request) (rest : List Arrival) :
    s.exchange.work? t ≠ some (.serving rest) := by
  intro hserver
  cases h with
  | dispatching hwork => cases hserver.symm.trans hwork
  | sending hwork => cases hserver.symm.trans hwork
  | done hwork => cases hserver.symm.trans hwork

/-- How far a handler has come depends on what it is at and on what is on record of it. -/
theorem congr (h : Stage codec s t request)
    (hwork : s'.exchange.work? t = s.exchange.work? t)
    (hreplies : s'.replies.filter (fun entry => entry.1 == t) =
      s.replies.filter (fun entry => entry.1 == t)) : Stage codec s' t request := by
  cases h with
  | dispatching hold hdispatches hnone =>
    refine .dispatching (hwork.trans hold) ?_ (hreplies.trans hnone)
    rw [dispatches, hwork]
    exact hdispatches
  | sending hold hcomes hframe hsuits =>
    exact .sending (hwork.trans hold) (hreplies.trans hcomes) hframe hsuits
  | done hold hcomes hsuits =>
    exact .done (hwork.trans hold) (hreplies.trans hcomes) hsuits

end Stage

namespace Handles

/-- A handler is one of those on record. -/
theorem exists_stage (h : s.Handles codec) (ht : t ∈ s.handlers) :
    ∃ request, Stage codec s t request := by
  obtain ⟨entry, hentry, heq⟩ := List.mem_filterMap.1 ht
  cases h.entries entry hentry with
  | skipped => cases heq
  | handled hrequest hstage =>
    cases heq
    exact ⟨_, hstage⟩

/-- Every handler is a task of the exchange. -/
theorem lt (h : s.Handles codec) (ht : t ∈ s.handlers) : t < s.exchange.tasks.length := by
  obtain ⟨request, hstage⟩ := h.exists_stage ht
  obtain ⟨work, hwork⟩ := hstage.exists_work
  exact lt_of_work? hwork

/-- What is on record stays right when the task of a step has come further, and what was added
to the record is right. -/
theorem of_moved {more : List (Arrival × Option TaskId)} (h : s.Handles codec)
    (hmoved : Moved s.exchange s'.exchange t work added out)
    (htaken : s'.taken = s.taken ++ more)
    (hreplies : ∀ u, u ≠ t → s'.replies.filter (fun entry => entry.1 == u) =
      s.replies.filter (fun entry => entry.1 == u))
    (hself : ∀ request, Stage codec s t request → Stage codec s' t request)
    (hknown : ∀ request phase, work = .handling request phase → t ∈ s.handlers)
    (hmore : ∀ entry ∈ more, Entry codec s' entry)
    (hnew : more.filterMap Prod.snd = [] ∧
        (∀ request phase, added ≠ some (.handling request phase)) ∨
      more.filterMap Prod.snd = [s.exchange.tasks.length])
    (hreplied : ∀ entry ∈ s'.replies, entry.1 ∈ s.handlers) : s'.Handles codec := by
  have hhandlers : s'.handlers = s.handlers ++ more.filterMap Prod.snd := by
    rw [handlers, htaken, List.filterMap_append]
    rfl
  refine ⟨fun entry hentry => ?_, ?_, fun u request phase hwork => ?_, fun entry hentry => ?_⟩
  · rw [htaken] at hentry
    rcases List.mem_append.1 hentry with hold | hnew
    · cases h.entries entry hold with
      | skipped hnone => exact .skipped hnone
      | @handled frame request u hrequest hstage =>
        refine .handled hrequest ?_
        by_cases hut : u = t
        · subst hut
          exact hself request hstage
        · obtain ⟨old, hold⟩ := hstage.exists_work
          refine hstage.congr ?_ (hreplies u hut)
          rw [hmoved.work, if_neg hut, if_neg (Nat.ne_of_lt (lt_of_work? hold))]
    · exact hmore entry hnew
  · rw [hhandlers]
    rcases hnew with ⟨hnone, -⟩ | hone
    · rw [hnone, List.append_nil]
      exact h.nodup
    · rw [hone]
      refine List.nodup_append.2 ⟨h.nodup, List.nodup_singleton _, fun u hu v hv heq => ?_⟩
      obtain rfl := List.mem_singleton.1 hv
      exact Nat.ne_of_lt (h.lt hu) heq
  · rw [hhandlers, List.mem_append]
    rw [hmoved.work] at hwork
    by_cases hut : u = t
    · rw [if_pos hut, Option.some.injEq] at hwork
      rw [hut]
      exact Or.inl (hknown request phase hwork)
    · rw [if_neg hut] at hwork
      by_cases hu : u = s.exchange.tasks.length
      · rw [if_pos hu] at hwork
        rcases hnew with ⟨-, hnone⟩ | hone
        · exact absurd hwork (hnone request phase)
        · rw [hone, hu]
          exact Or.inr (List.mem_singleton.2 rfl)
      · rw [if_neg hu] at hwork
        exact Or.inl (h.known u request phase hwork)
  · rw [hhandlers]
    exact List.mem_append_left _ (hreplied entry hentry)

/-- Nothing is on record of a task that is still to be added. -/
theorem filter_replies_length (h : s.Handles codec) :
    s.replies.filter (fun entry => entry.1 == s.exchange.tasks.length) = [] := by
  refine List.filter_eq_nil_iff.2 fun entry hentry heq => ?_
  exact Nat.ne_of_lt (h.lt (h.replied entry hentry)) (beq_iff_eq.1 heq)

/-- Something is taken, and its entry is right. -/
theorem of_taking {arrival : Arrival} {rest : List Arrival} (h : s.Handles codec)
    (hserver : s.exchange.work? t = some (.serving (arrival :: rest)))
    (hmoved : Moved s.exchange (s.exchange.step t).1 t work added [])
    (hwork : ∀ request phase, work ≠ .handling request phase)
    (hentry : Entry codec (s.next (.step t))
      (arrival, added.map fun _ => s.exchange.tasks.length)) :
    (s.next (.step t)).Handles codec := by
  have hnext := next_of_serving hserver hmoved
  have hno : ∀ request, ¬ Stage codec s t request := fun request hstage =>
    hstage.not_serving _ hserver
  rw [hnext] at hentry ⊢
  refine h.of_moved hmoved rfl (fun _ _ => rfl) (fun request hstage => absurd hstage (hno request))
    (fun request phase heq => absurd heq (hwork request phase)) (fun entry hmem => ?_) ?_ h.replied
  · obtain rfl := List.mem_singleton.1 hmem
    exact hentry
  · cases added with
    | none => exact Or.inl ⟨rfl, fun _ _ heq => by cases heq⟩
    | some new => exact Or.inr rfl

/-- Nothing is taken and no handler comes to its reply. -/
theorem of_silent (h : s.Handles codec)
    (hmoved : Moved s.exchange (s.exchange.step t).1 t work added out)
    (harriving : s.exchange.arriving? t = none) (hreply : s.exchange.replyAt? t = none)
    (hself : ∀ request, Stage codec s t request → Stage codec (s.next (.step t)) t request)
    (hknown : ∀ request phase, work = .handling request phase → t ∈ s.handlers)
    (hadded : ∀ request phase, added ≠ some (.handling request phase)) :
    (s.next (.step t)).Handles codec := by
  rw [next_of_silent harriving hreply] at hself ⊢
  exact h.of_moved hmoved (List.append_nil _).symm (fun _ _ => rfl) hself hknown
    (fun _ hmem => by cases hmem) (Or.inl ⟨rfl, hadded⟩) h.replied

/-- A handler that comes to its reply with this step has come to none before. -/
theorem comes_of_replyAt? {phase : HandlerPhase} (h : s.Handles codec)
    (hhandler : s.exchange.work? t = some (.handling request phase))
    (hreply : s.exchange.replyAt? t = some result) : (s.next (.step t)).Comes t result := by
  have hdispatches := dispatches_of_replyAt? hreply
  obtain ⟨request', hstage⟩ := h.exists_stage (h.known t request phase hhandler)
  rw [next_of_replyAt? hhandler hreply]
  cases hstage with
  | dispatching _ _ hnone => rw [Comes, List.filter_append, hnone]; simp
  | sending hwork => cases (dispatches_of_work? hwork).symm.trans hdispatches
  | done hwork => cases hhandler.symm.trans hwork

/-- A handler comes to its reply. -/
theorem of_reply {phase : HandlerPhase} (h : s.Handles codec)
    (hhandler : s.exchange.work? t = some (.handling request phase))
    (hreply : s.exchange.replyAt? t = some result)
    (hmoved : Moved s.exchange (s.exchange.step t).1 t work none [])
    (hself : Stage codec (s.next (.step t)) t request) : (s.next (.step t)).Handles codec := by
  have ht : t ∈ s.handlers := h.known t request phase hhandler
  rw [next_of_replyAt? hhandler hreply] at hself ⊢
  refine h.of_moved hmoved (List.append_nil _).symm (fun u hut => ?_) (fun request' hstage => ?_)
    (fun _ _ _ => ht) (fun _ hmem => by cases hmem) (Or.inl ⟨rfl, fun _ _ heq => by cases heq⟩)
    (fun entry hentry => ?_)
  · rw [List.filter_append]
    simp [Ne.symm hut]
  · cases hstage with
    | dispatching hwork =>
      cases hhandler.symm.trans hwork
      exact hself
    | sending hwork =>
      cases hhandler.symm.trans hwork
      exact hself
    | done hwork => cases hhandler.symm.trans hwork
  · rcases List.mem_append.1 hentry with hold | hnew
    · exact h.replied entry hold
    · obtain rfl := List.mem_singleton.1 hnew
      exact ht

/-- What is on record stays right with every step. -/
theorem step (h : s.Handles codec) (hattended : Attended codec s.exchange)
    (hroom : s.exchange.HasRoom t)
    (hsuits : ∀ request phase result, s.exchange.work? t = some (.handling request phase) →
      s.exchange.replyAt? t = some result → Suits codec request result) :
    (s.next (.step t)).Handles codec := by
  cases proceeds_step hattended t hroom with
  | @accepts frame rest request hserver hrequest hmoved =>
    refine h.of_taking hserver hmoved (fun _ _ heq => by cases heq) ?_
    have hnew : (s.exchange.step t).1.work? s.exchange.tasks.length =
        some (.handling request .starting) := by
      rw [hmoved.work, if_neg (Ne.symm (Nat.ne_of_lt (lt_of_work? hserver))), if_pos rfl]
    rw [next_of_serving hserver hmoved]
    exact .handled hrequest (.dispatching hnew (dispatches_of_work? hnew) h.filter_replies_length)
  | skips hserver hcloses hnone hmoved =>
    exact h.of_taking hserver hmoved (fun _ _ heq => by cases heq) (.skipped hnone)
  | closes hserver hcloses hmoved =>
    refine h.of_taking hserver hmoved (fun _ _ heq => by cases heq)
      (.skipped fun frame request heq => ?_)
    subst heq
    cases hcloses
  | @forwards request blank job tracked hhandler hreply hmoved =>
    have harriving : s.exchange.arriving? t = none := by rw [arriving?, hhandler]
    refine h.of_silent hmoved harriving hreply (fun request' hstage => ?_)
      (fun _ _ _ => h.known t _ _ hhandler) (fun _ _ heq => by cases heq)
    cases hstage with
    | dispatching hwork _ hnone =>
      cases hhandler.symm.trans hwork
      have hnow : (s.next (.step t)).exchange.work? t = some (.handling request
          (.joining job s.exchange.tasks.length tracked)) := (hmoved.work t).trans (if_pos rfl)
      refine .dispatching hnow (dispatches_of_work? hnow) ?_
      rw [next_of_silent harriving hreply]
      exact hnone
    | sending hwork => cases hhandler.symm.trans hwork
    | done hwork => cases hhandler.symm.trans hwork
  | replies hhandler hreply hframe hmoved =>
    exact h.of_reply hhandler hreply hmoved (.sending ((hmoved.work t).trans (if_pos rfl))
      (h.comes_of_replyAt? hhandler hreply) hframe (hsuits _ _ _ hhandler hreply))
  | drops hhandler hreply hframe hmoved =>
    exact h.of_reply hhandler hreply hmoved (.done ((hmoved.work t).trans (if_pos rfl))
      (h.comes_of_replyAt? hhandler hreply) (hsuits _ _ _ hhandler hreply))
  | sends hhandler hmoved =>
    have harriving : s.exchange.arriving? t = none := by rw [arriving?, hhandler]
    have hreply : s.exchange.replyAt? t = none := by rw [replyAt?, hhandler]
    refine h.of_silent hmoved harriving hreply (fun request' hstage => ?_)
      (fun _ _ heq => by cases heq) (fun _ _ heq => by cases heq)
    cases hstage with
    | dispatching hwork hdispatches =>
      cases hhandler.symm.trans hwork
      cases (dispatches_of_work? hwork).symm.trans hdispatches
    | sending hwork hcomes hframe hsuits =>
      refine .done ((hmoved.work t).trans (if_pos rfl)) ?_ hsuits
      rw [next_of_silent harriving hreply]
      exact hcomes
    | done hwork => cases hhandler.symm.trans hwork
  | calls hcall hnow hmoved =>
    obtain ⟨harriving, hreply⟩ := silent_of_isCall hcall
    refine h.of_silent hmoved harriving hreply (fun request' hstage => ?_)
      (fun request phase heq => ?_) (fun _ _ heq => by cases heq)
    · rw [hstage.not_isCall] at hcall
      cases hcall
    · subst heq
      cases hnow
  | rests hsame hreply harriving =>
    have hkept : s.next (.step t) = s := by
      rw [next_of_silent harriving hreply, hsame]
    rw [hkept]
    exact h

end Handles

/-! ### What was sent -/

/-- When an item of a list without repetitions is given a value, the list has this value beside
the others. -/
theorem perm_filterMap_of_eq {α β : Type} {items : List α} {f g : α → Option β} {item : α}
    {value : β} (hnodup : items.Nodup) (hmem : item ∈ items) (hold : f item = none)
    (hnew : g item = some value) (hsame : ∀ other ∈ items, other ≠ item → g other = f other) :
    (items.filterMap g).Perm (items.filterMap f ++ [value]) := by
  obtain ⟨before, after, rfl⟩ := List.append_of_mem hmem
  obtain ⟨-, hfresh, hapart⟩ := List.nodup_append.1 hnodup
  have hbefore : before.filterMap g = before.filterMap f := by
    refine List.filterMap_congr fun other hother => hsame other (by simp [hother]) ?_
    rintro rfl
    exact hapart other hother other List.mem_cons_self rfl
  have hafter : after.filterMap g = after.filterMap f := by
    refine List.filterMap_congr fun other hother => hsame other (by simp [hother]) ?_
    rintro rfl
    exact (List.nodup_cons.1 hfresh).1 hother
  rw [List.filterMap_append, List.filterMap_append, List.filterMap_cons_some hnew,
    List.filterMap_cons_none hold, hbefore, hafter, List.append_assoc]
  exact List.Perm.append_left _ (List.perm_append_singleton _ _).symm

/-- Where an item is left out fewer are left. -/
theorem length_filterMap_lt {α β : Type} {items : List α} {f : α → Option β} {item : α}
    (hmem : item ∈ items) (hnone : f item = none) : (items.filterMap f).length < items.length := by
  obtain ⟨before, after, rfl⟩ := List.append_of_mem hmem
  have hbefore := List.length_filterMap_le f before
  have hafter := List.length_filterMap_le f after
  rw [List.filterMap_append, List.filterMap_cons_none hnone, List.length_append,
    List.length_append, List.length_cons]
  omega

/-- What was sent are the frames of the handlers that have ended. -/
def Delivers (s : Serving) (codec : Codec) (capacity : Nat) : Prop :=
  ∃ frames, s.exchange.Stores capacity frames ∧
    frames.Perm (s.handlers.filterMap (s.delivered? codec))

/-- A handler that goes on has delivered nothing yet. -/
theorem delivered?_of_not_ended (h : s.exchange.ended? t = none) : s.delivered? codec t = none := by
  rw [delivered?, h, Option.bind_none]

/-- A handler that is at its work has not ended. -/
theorem ended?_of_handling {e : Exchange} {phase : HandlerPhase}
    (h : e.work? t = some (.handling request phase)) : e.ended? t = none := by
  rw [ended?, h]

/-- A handler that has ended has delivered the frame of what it came to, if there is one. -/
theorem delivered?_of_comes {result' : Ended} (h : s.exchange.work? t = some (.ended result'))
    (hcomes : s.Comes t result) :
    s.delivered? codec t = (result.bind codec.encode).toOption := by
  rw [delivered?, ended?_of_work? h, Option.bind_some, answer?, hcomes]
  rfl

/-- A step has no bearing on what the other handlers have sent. -/
theorem delivered?_of_ne (hlt : u < s.exchange.tasks.length) (hut : u ≠ t) :
    (s.next (.step t)).delivered? codec u = s.delivered? codec u := by
  have hwork : (s.next (.step t)).exchange.work? u = s.exchange.work? u :=
    work?_step_of_ne hut hlt
  have hreplies : (s.next (.step t)).replies.filter (fun entry => entry.1 == u) =
      s.replies.filter (fun entry => entry.1 == u) := by
    cases hreply : s.exchange.replyAt? t <;> simp [next, hreply, Ne.symm hut]
  rw [delivered?, delivered?, answer?, answer?, hreplies, ended?, ended?, hwork]

namespace Delivers

/-- Nothing is sent. -/
theorem of_moved {more : List TaskId} (h : s.Delivers codec capacity) (hhandles : s.Handles codec)
    (hmoved : Moved s.exchange (s.exchange.step t).1 t work added [])
    (hhandlers : (s.next (.step t)).handlers = s.handlers ++ more)
    (hmore : ∀ u ∈ more, (s.next (.step t)).exchange.ended? u = none)
    (hself : t ∈ s.handlers → (s.next (.step t)).delivered? codec t = s.delivered? codec t) :
    (s.next (.step t)).Delivers codec capacity := by
  obtain ⟨frames, hstores, hperm⟩ := h
  have hafter := hmoved.stores capacity frames hstores fun hne => absurd rfl hne
  rw [List.append_nil] at hafter
  refine ⟨frames, hafter, ?_⟩
  have hnew : more.filterMap ((s.next (.step t)).delivered? codec) = [] :=
    List.filterMap_eq_nil_iff.2 fun u hu => delivered?_of_not_ended (hmore u hu)
  have hold : s.handlers.filterMap ((s.next (.step t)).delivered? codec) =
      s.handlers.filterMap (s.delivered? codec) := by
    refine List.filterMap_congr fun u hu => ?_
    by_cases hut : u = t
    · rw [hut]
      exact hself (hut ▸ hu)
    · exact delivered?_of_ne (hhandles.lt hu) hut
  rw [hhandlers, List.filterMap_append, hnew, hold, List.append_nil]
  exact hperm

/-- As long as one handler has sent nothing, fewer frames were sent than arrivals were taken. -/
theorem length_lt {frames : List Bytes}
    (hperm : frames.Perm (s.handlers.filterMap (s.delivered? codec)))
    (htaken : s.taken.length ≤ capacity) (ht : t ∈ s.handlers)
    (hnone : s.delivered? codec t = none) : frames.length < capacity := by
  have hsent := length_filterMap_lt ht hnone
  have hhandlers : s.handlers.length ≤ s.taken.length := List.length_filterMap_le _ _
  rw [hperm.length_eq]
  omega

/-- There is room for each frame that is to be sent. -/
theorem hasRoom (h : s.Delivers codec capacity) (hhandles : s.Handles codec)
    (htaken : s.taken.length ≤ capacity) (t : TaskId) : s.exchange.HasRoom t := by
  intro request frame hhandler
  obtain ⟨frames, hstores, hperm⟩ := h
  exact ⟨capacity, frames, hstores, length_lt hperm htaken (hhandles.known t _ _ hhandler)
    (delivered?_of_not_ended (ended?_of_handling hhandler))⟩

/-- A step to which nothing arrives adds no handler. -/
theorem handlers_of_silent (harriving : s.exchange.arriving? t = none) :
    (s.next (.step t)).handlers = s.handlers ++ [] := by
  simp [handlers, next, harriving]

/-- The server is none of the handlers, and an engine call is none. -/
theorem not_mem_of_work? (hhandles : s.Handles codec)
    (hwork : s.exchange.work? t = some work)
    (hnot : work.isCall = true ∨ ∃ rest, work = .serving rest) : t ∉ s.handlers := by
  intro ht
  obtain ⟨request, hstage⟩ := hhandles.exists_stage ht
  rcases hnot with hcall | ⟨rest, rfl⟩
  · have hnone := hstage.not_isCall
    rw [isCall, hwork, Option.any_some, hcall] at hnone
    cases hnone
  · exact hstage.not_serving rest hwork

/-- The server takes something. -/
theorem of_taking {arrival : Arrival} {rest : List Arrival} (h : s.Delivers codec capacity)
    (hhandles : s.Handles codec)
    (hserver : s.exchange.work? t = some (.serving (arrival :: rest)))
    (hmoved : Moved s.exchange (s.exchange.step t).1 t work added [])
    (hadded : ∀ new, added = some new → ∀ result, new ≠ .ended result) :
    (s.next (.step t)).Delivers codec capacity := by
  have hhandlers : (s.next (.step t)).handlers =
      s.handlers ++ (added.map fun _ => s.exchange.tasks.length).toList := by
    rw [next_of_serving hserver hmoved]
    cases added <;> simp [handlers]
  refine h.of_moved hhandles hmoved hhandlers (fun u hu => ?_)
    fun ht => absurd ht (not_mem_of_work? hhandles hserver (Or.inr ⟨_, rfl⟩))
  cases added with
  | none => cases hu
  | some new =>
    obtain rfl := List.mem_singleton.1 hu
    have hnow : (s.exchange.step t).1.work? s.exchange.tasks.length = some new := by
      rw [hmoved.work, if_neg (Ne.symm (Nat.ne_of_lt (lt_of_work? hserver))), if_pos rfl]
    change (s.exchange.step t).1.ended? s.exchange.tasks.length = none
    rw [ended?, hnow]
    cases new with
    | ended result => exact absurd rfl (hadded _ rfl result)
    | _ => rfl

/-- A handler sends the frame of its reply. -/
theorem of_sending {frame : Bytes} (h : s.Delivers codec capacity) (hhandles : s.Handles codec)
    (htaken : s.taken.length ≤ capacity)
    (hhandler : s.exchange.work? t = some (.handling request (.transmitting frame)))
    (hmoved : Moved s.exchange (s.exchange.step t).1 t .handled none [frame])
    (hcomes : s.Comes t (.ok reply)) (hframe : codec.encode reply = .ok frame) :
    (s.next (.step t)).Delivers codec capacity := by
  have ht := hhandles.known t _ _ hhandler
  have harriving : s.exchange.arriving? t = none := by rw [arriving?, hhandler]
  have hreply : s.exchange.replyAt? t = none := by rw [replyAt?, hhandler]
  have hbefore : s.delivered? codec t = none :=
    delivered?_of_not_ended (ended?_of_handling hhandler)
  have hcomes' : (s.next (.step t)).Comes t (.ok reply) := by
    rw [next_of_silent harriving hreply]
    exact hcomes
  have hafter : (s.next (.step t)).delivered? codec t = some frame := by
    rw [delivered?_of_comes ((hmoved.work t).trans (if_pos rfl)) hcomes', Except.bind, hframe]
    rfl
  obtain ⟨frames, hstores, hperm⟩ := h
  refine ⟨frames ++ [frame], hmoved.stores capacity frames hstores
    fun _ => length_lt hperm htaken ht hbefore, ?_⟩
  rw [handlers_of_silent harriving, List.append_nil]
  exact (hperm.append_right [frame]).trans (perm_filterMap_of_eq hhandles.nodup ht hbefore hafter
    fun u hu hut => delivered?_of_ne (hhandles.lt hu) hut).symm

/-- What was sent is what it should be after every step. -/
theorem step (h : s.Delivers codec capacity) (hhandles : s.Handles codec)
    (hattended : Attended codec s.exchange) (htaken : s.taken.length ≤ capacity) :
    (s.next (.step t)).Delivers codec capacity := by
  have harriving : ∀ {request phase}, s.exchange.work? t = some (.handling request phase) →
      s.exchange.arriving? t = none := by
    intro request phase hhandler
    rw [arriving?, hhandler]
  cases proceeds_step hattended t (h.hasRoom hhandles htaken t) with
  | accepts hserver hrequest hmoved =>
    exact h.of_taking hhandles hserver hmoved fun new hnew result heq => by
      cases hnew
      cases heq
  | skips hserver hcloses hnone hmoved =>
    exact h.of_taking hhandles hserver hmoved fun new hnew => by cases hnew
  | closes hserver hcloses hmoved =>
    exact h.of_taking hhandles hserver hmoved fun new hnew => by cases hnew
  | forwards hhandler hreply hmoved =>
    refine h.of_moved hhandles hmoved (handlers_of_silent (harriving hhandler))
      (fun _ hu => by cases hu) fun _ => ?_
    rw [delivered?_of_not_ended (ended?_of_handling ((hmoved.work t).trans (if_pos rfl))),
      delivered?_of_not_ended (ended?_of_handling hhandler)]
  | replies hhandler hreply hframe hmoved =>
    refine h.of_moved hhandles hmoved (handlers_of_silent (harriving hhandler))
      (fun _ hu => by cases hu) fun _ => ?_
    rw [delivered?_of_not_ended (ended?_of_handling ((hmoved.work t).trans (if_pos rfl))),
      delivered?_of_not_ended (ended?_of_handling hhandler)]
  | drops hhandler hreply hframe hmoved =>
    refine h.of_moved hhandles hmoved (handlers_of_silent (harriving hhandler))
      (fun _ hu => by cases hu) fun ht => ?_
    have hcomes : (s.next (.step t)).Comes t _ := hhandles.comes_of_replyAt? hhandler hreply
    rw [delivered?_of_not_ended (ended?_of_handling hhandler),
      delivered?_of_comes ((hmoved.work t).trans (if_pos rfl)) hcomes, hframe]
    rfl
  | sends hhandler hmoved =>
    have ht := hhandles.known t _ _ hhandler
    obtain ⟨request, hstage⟩ := hhandles.exists_stage ht
    cases hstage with
    | dispatching hwork hdispatches =>
      cases hhandler.symm.trans hwork
      cases (dispatches_of_work? hwork).symm.trans hdispatches
    | sending hwork hcomes hframe =>
      cases hhandler.symm.trans hwork
      exact h.of_sending hhandles htaken hhandler hmoved hcomes hframe
    | done hwork => cases hhandler.symm.trans hwork
  | calls hcall hnow hmoved =>
    obtain ⟨old, hold, hwas⟩ := (Option.any_eq_true _ _).1 hcall
    refine h.of_moved hhandles hmoved (handlers_of_silent (silent_of_isCall hcall).1)
      (fun _ hu => by cases hu) fun ht => ?_
    exact absurd ht (not_mem_of_work? hhandles hold (Or.inl hwas))
  | rests hsame hreply harriving =>
    have hkept : s.next (.step t) = s := by
      rw [next_of_silent harriving hreply, hsame]
    rw [hkept]
    exact h

end Delivers

/-! ### The whole record -/

/-- What holds of the record at any moment while a source is served. -/
structure Underway (s : Serving) (codec : Codec) (arrivals : List Arrival) (last : Arrival)
    (turns : Nat) : Prop where
  orderly : Orderly s.exchange
  grounded : ∃ script course, Course.Grounded script course ∧ course.exchange = s.exchange
  attended : Attended codec s.exchange
  loops : s.Loops arrivals last turns
  handles : s.Handles codec
  delivers : s.Delivers codec (arrivals ++ [last]).length

namespace Underway

/-- So many arrivals have come that there is room for a frame for each that was taken. -/
theorem length_taken_le (h : s.Underway codec arrivals last turns) :
    s.taken.length ≤ (arrivals ++ [last]).length := by
  have hlength := congrArg List.length h.loops.taken
  rw [List.length_map, List.length_take] at hlength
  omega

/-- No task is held up by the lane. -/
theorem hasRoom (h : s.Underway codec arrivals last turns) (t : TaskId) : s.exchange.HasRoom t :=
  h.delivers.hasRoom h.handles h.length_taken_le t

/-- Nobody who dispatches is told to stop. -/
theorem orderly_happen (h : s.Underway codec arrivals last turns) (event : Event)
    (hinner : event.isInner = true) : Orderly (s.exchange.happen event) :=
  h.orderly.happen fun t heq => by
    subst heq
    cases hinner

/-- After an event the exchange is still that of a course. -/
theorem grounded_happen (h : s.Underway codec arrivals last turns) (event : Event) :
    ∃ script course, Course.Grounded script course ∧ course.exchange = s.exchange.happen event := by
  obtain ⟨script, course, hgrounded, hexchange⟩ := h.grounded
  refine ⟨script, course.next event, hgrounded.next event, ?_⟩
  rw [Course.exchange_next, hexchange]

/-- What a handler comes to suits its request. -/
theorem suits {phase : HandlerPhase} (h : s.Underway codec arrivals last turns)
    (hhandler : s.exchange.work? t = some (.handling request phase))
    (hreply : s.exchange.replyAt? t = some result) : Suits codec request result := by
  obtain ⟨script, course, hgrounded, hexchange⟩ := h.grounded
  have hsuits := hgrounded.suits (hexchange ▸ hhandler) (hexchange ▸ hreply)
  rwa [hexchange, h.attended.codec_eq] at hsuits

/-- What holds underway is kept by a step. -/
theorem step (h : s.Underway codec arrivals last turns)
    (harrivals : ∀ arrival ∈ arrivals, Passes codec arrival) (hlast : Closes last) (t : TaskId) :
    (s.next (.step t)).Underway codec arrivals last
      (turns + if Event.isStepOf 0 (.step t) then 1 else 0) where
  orderly := h.orderly_happen (.step t) rfl
  grounded := h.grounded_happen (.step t)
  attended := h.attended.step h.orderly (h.hasRoom t)
  loops := by
    by_cases ht : t = 0
    · subst ht
      exact h.loops.step_self h.attended harrivals hlast
    · have hother : ¬ Event.isStepOf 0 (.step t) = true := fun heq => ht (beq_iff_eq.1 heq)
      rw [if_neg hother]
      exact h.loops.step_of_ne h.attended ht
  handles := h.handles.step h.attended (h.hasRoom t) fun _ _ _ => h.suits
  delivers := h.delivers.step h.handles h.attended h.length_taken_le

/-- Time that passes changes nothing of the tasks, of the link and of what is on record. -/
theorem pass (h : s.Underway codec arrivals last turns) (span : Millis) :
    (s.next (.pass span)).Underway codec arrivals last turns where
  orderly := h.orderly_happen (.pass span) rfl
  grounded := h.grounded_happen (.pass span)
  attended := ⟨h.attended.codec_eq, h.attended.stopped, h.attended.shutdown, h.attended.server,
    h.attended.staff, h.attended.told⟩
  loops := ⟨h.loops.taken, h.loops.serving, h.loops.closed⟩
  handles :=
    { entries := fun entry hentry => by
        cases h.handles.entries entry hentry with
        | skipped hnone => exact .skipped hnone
        | handled hrequest hstage => exact .handled hrequest (hstage.congr rfl rfl)
      nodup := h.handles.nodup
      known := h.handles.known
      replied := h.handles.replied }
  delivers := h.delivers

/-- What holds underway is kept by every event from inside. -/
theorem next (h : s.Underway codec arrivals last turns)
    (harrivals : ∀ arrival ∈ arrivals, Passes codec arrival) (hlast : Closes last) {event : Event}
    (hinner : event.isInner = true) :
    (s.next event).Underway codec arrivals last
      (turns + if event.isStepOf 0 then 1 else 0) := by
  cases event with
  | step t => exact h.step harrivals hlast t
  | pass span => exact h.pass span
  | _ => cases hinner

/-- What holds at any moment goes on to hold, and the server takes as many turns as it is
given. -/
theorem run (harrivals : ∀ arrival ∈ arrivals, Passes codec arrival) (hlast : Closes last)
    {events : List Event} (hinner : ∀ event ∈ events, event.isInner = true)
    (h : s.Underway codec arrivals last turns) :
    (s.run events).Underway codec arrivals last (turns + events.countP (Event.isStepOf 0)) := by
  induction events generalizing s turns with
  | nil => exact h
  | cons event events ih =>
    have hnext := ih (fun event hmem => hinner event (List.mem_cons_of_mem _ hmem))
      (h.next harrivals hlast (hinner event List.mem_cons_self))
    rw [List.countP_cons, Nat.add_comm (events.countP _), ← Nat.add_assoc]
    exact hnext

/-- What holds when nothing was taken yet. -/
theorem init (codec : Codec) (script : Engine.Script)
    (harrivals : ∀ arrival ∈ arrivals, Passes codec arrival) (hlast : Closes last) :
    ({ exchange := serving codec script (arrivals ++ [last]) } : Serving).Underway codec arrivals
      last 0 := by
  let idle : Exchange :=
    { link := .channels (arrivals ++ [last]).length
      correlator := { codec, requestTimeout := none, retiredTtl := 0 }
      dispatcher := { codec }
      engine := script }
  have hfresh : Fresh idle := ⟨rfl, rfl⟩
  let opening : Opening := .server (.script (arrivals ++ [last])) (.link .right)
  have hwork : ∀ t work, (serving codec script (arrivals ++ [last])).work? t = some work →
      t = 0 ∧ work = .serving (arrivals ++ [last]) := by
    intro t work hwork
    cases t with
    | zero => exact ⟨rfl, (Option.some.inj hwork).symm⟩
    | succ t => cases hwork
  constructor
  · change Orderly (idle.happen (.start opening))
    exact (Orderly.of_fresh hfresh).happen fun t heq => by cases heq
  · exact ⟨script, Course.next { exchange := idle } (.start opening),
      (Course.Grounded.of_fresh hfresh).next _, rfl⟩
  · refine ⟨rfl, rfl, rfl, fun work h0 => ?_, fun t work ht h => absurd (hwork t work h).1 ht,
      fun t htold => ?_⟩
    · exact Or.inl ⟨arrivals, last, harrivals, hlast, (hwork 0 work h0).2⟩
    · cases t <;> cases htold
  · exact ⟨rfl, fun _ => rfl, fun hlt => absurd hlt (Nat.not_lt_zero _)⟩
  · refine ⟨List.forall_mem_nil _, List.nodup_nil, fun t request phase h => ?_,
      List.forall_mem_nil _⟩
    cases (hwork t _ h).2
  · refine ⟨[], ⟨_, rfl, ?_, rfl, rfl, rfl⟩, List.Perm.nil⟩
    simp [Link.Channel.withCapacity]

/-- What an arrival that was taken has come to when its handler is done. -/
theorem answered (h : s.Underway codec arrivals last turns) (hquiet : s.exchange.Quiet)
    {entry : Arrival × Option TaskId} (hentry : entry ∈ s.taken) :
    Answered codec s entry (entry.2.bind (s.delivered? codec)) := by
  cases h.handles.entries entry hentry with
  | skipped hnone => exact .skipped hnone
  | @handled frame request t hrequest hstage =>
    cases hstage with
    | dispatching hwork => exact absurd hwork (hquiet t _)
    | sending hwork => exact absurd hwork (hquiet t _)
    | @done result hwork hcomes hsuits =>
      rw [Option.bind_some, delivered?_of_comes hwork hcomes]
      cases result with
      | error fault => exact .refused hrequest hcomes (hsuits.refused fault rfl)
      | ok reply =>
        change Answered codec s _ (codec.encode reply).toOption
        cases hframe : codec.encode reply with
        | error fault => exact .unsendable hrequest hcomes hframe
        | ok answer =>
          obtain ⟨message, hmessage, htype, hid⟩ := hsuits.decode hframe
          exact .answered hrequest hcomes hframe hmessage htype hid

/-- When the requests that were taken are done with, one frame was sent for each of them whose
reply has a frame, and none for anything else. -/
theorem exists_answers (h : s.Underway codec arrivals last turns) (hquiet : s.exchange.Quiet) :
    ∃ answers : List (Option Bytes), List.Forall₂ (Answered codec s) s.taken answers ∧
      s.exchange.sent.Perm (answers.filterMap id) := by
  refine ⟨s.taken.map fun entry => entry.2.bind (s.delivered? codec), ?_, ?_⟩
  · rw [List.forall₂_map_right_iff, List.forall₂_same]
    exact fun entry hentry => h.answered hquiet hentry
  · obtain ⟨frames, hstores, hperm⟩ := h.delivers
    rw [hstores.sent_eq]
    rw [handlers, List.filterMap_filterMap] at hperm
    rw [List.filterMap_map]
    exact hperm

end Underway

end Serving

end Exchange

end Parley
