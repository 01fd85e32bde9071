/-
# A ledger of calls

The ledger of a service keeps a ticket for each call: what was called and how far the call
has come, from its caller to the engine and back.  Beside the tickets it keeps what is on
its way in either direction, and in which order ids were given out and the engine was
called.  An exchange in service holds to its ledger: every task, every frame, every entry
of the correlator and every call of the engine belongs to one ticket, and is what the
place of this ticket says.

The parts of an exchange are held to the ledger one by one, each through no more of the
tickets than it depends on.  When one call goes on by one place, the parts that do not
depend on this change are held as before.
-/

import Mathlib.Data.List.Nodup
import Mathlib.Logic.Function.Basic
import Parley.Proofs.Correlator.Table
import Parley.Proofs.Engine.Outcome
import Parley.Proofs.Exchange.Service
import Parley.Proofs.Exchange.Tasks
import Parley.Proofs.Frame.RoundTrip
import Parley.Proofs.Link.Lane

namespace Parley

open Parley.Frame (Bytes Whole)
open Correlator (enter)

/-! ### Requests and replies of calls -/

namespace Engine.Call

/-- The request of a call with its id. -/
def sentAs (call : Call) (id : Int64) : Message :=
  call.request.setRequestId id

variable (call : Call) (id : Int64)

@[simp]
theorem requestId_sentAs : (call.sentAs id).requestId = id :=
  Message.requestId_setRequestId (by cases call <;> rfl) id

/-- The request of a call expects the reply of its operation. -/
theorem expectedReply?_request : call.request.expectedReply? = some (.reply call.operation) := by
  cases call <;> rfl

/-- The request of a call has an id. -/
theorem hasRequestId_request : call.request.hasRequestId = true := by
  cases call <;> rfl

/-- The request of a call expects the reply of its operation under every id. -/
theorem expectedReply?_sentAs :
    (call.sentAs id).expectedReply? = some (.reply call.operation) := by
  cases call <;> rfl

/-- The request of a call goes to the engine. -/
theorem route_sentAs : Dispatcher.route (call.sentAs id).tag = .engine := by
  cases call <;> rfl

/-- The request of a call is registered. -/
theorem template?_sentAs :
    Registry.standard.template? (call.sentAs id).tag = some (call.sentAs id).blank := by
  cases call <;> exact Registry.template?_standard_request _

/-- The reply to a call whose engine call has this outcome. -/
def Replies (outcome : Outcome) (reply : Message) : Prop :=
  ∃ ending, outcome.ending? call (Message.reply call.operation) = some ending ∧
    ending.reply call id = .ok reply

variable {call : Call} {id : Int64}

/-- The client reads off the reply to a call what the outcome of the engine's call says. -/
theorem Replies.answers {outcome : Outcome} {reply : Message} (h : call.Replies id outcome reply)
    (hsuits : outcome.suits call.operation = true) :
    ∃ result, outcome.result? call = some result ∧ call.Answers id reply result := by
  obtain ⟨ending, hending, hreply⟩ := h
  obtain ⟨reply', result, hreply', hresult, hanswers⟩ :=
    Outcome.exists_reply hsuits hending id
  rw [hreply] at hreply'
  cases hreply'
  exact ⟨result, hresult, hanswers⟩

end Engine.Call

/-- A frame that a codec and the reader in front of it understand as a message. -/
structure Codec.Reads (c : Codec) (maxSize : Nat) (m : Message) (frame : Bytes) : Prop where
  whole : Whole maxSize frame
  decode : c.decode frame = .ok m

/-- A message that fits two codecs is understood by one of them as the other has put it. -/
theorem Codec.reads_of_encode {writer reader : Codec} {maxSize : Nat} {m : Message}
    {frame : Bytes} (hframe : writer.encode m = .ok frame) (htakes : reader.Takes m)
    (hmax : reader.maxFrameSize ≤ maxSize)
    (hregistry : reader.registry.template? m.tag = some m.blank) :
    reader.Reads maxSize m frame := by
  obtain ⟨-, rfl⟩ := encode_eq_ok.1 hframe
  obtain ⟨other, hother⟩ := htakes
  obtain ⟨hsize, -⟩ := encode_eq_ok.1 hother
  refine ⟨⟨Frame.content m, rfl, ?_⟩, decode_sizedContent hregistry hsize⟩
  rw [Frame.length_content]
  exact Nat.le_min.2 ⟨Nat.le_trans hsize hmax, Nat.le_trans hsize reader.maxFrameSize_le⟩

namespace Exchange

/-! ### Tickets -/

/-- How far a call has come.  The tasks on the serving side are the handler `h` and the
engine call `c`; from the call of the engine on, the outcome is decided. -/
inductive Place where
  /-- The caller has not begun. -/
  | departing
  /-- The caller has its id and sends its request. -/
  | sending (id : Int64)
  /-- The request is on its way. -/
  | sent (id : Int64)
  | accepted (id : Int64) (h : TaskId)
  | forwarded (id : Int64) (h c : TaskId)
  /-- The engine was called. -/
  | called (id : Int64) (h c : TaskId) (outcome : Engine.Outcome)
  /-- The handler sends its reply. -/
  | replying (id : Int64) (h : TaskId) (outcome : Engine.Outcome)
  /-- The reply is on its way. -/
  | replied (id : Int64) (outcome : Engine.Outcome)
  /-- The correlator has the reply for the caller. -/
  | delivered (id : Int64) (outcome : Engine.Outcome)
  | done (outcome : Engine.Outcome)

namespace Place

/-- The id of a call that waits for its reply. -/
def id? : Place → Option Int64
  | .departing => none
  | .sending id => some id
  | .sent id => some id
  | .accepted id _ => some id
  | .forwarded id _ _ => some id
  | .called id _ _ _ => some id
  | .replying id _ _ => some id
  | .replied id _ => some id
  | .delivered id _ => some id
  | .done _ => none

/-- The outcome of the engine's call. -/
def outcome? : Place → Option Engine.Outcome
  | .called _ _ _ outcome => some outcome
  | .replying _ _ outcome => some outcome
  | .replied _ outcome => some outcome
  | .delivered _ outcome => some outcome
  | .done outcome => some outcome
  | _ => none

/-- How many places are still ahead. -/
def ahead : Place → Nat
  | .departing => 9
  | .sending _ => 8
  | .sent _ => 7
  | .accepted .. => 6
  | .forwarded .. => 5
  | .called .. => 4
  | .replying .. => 3
  | .replied .. => 2
  | .delivered .. => 1
  | .done _ => 0

/-- At no place there is more ahead of a call than at its departure. -/
theorem ahead_le_departing (place : Place) : place.ahead ≤ departing.ahead := by
  cases place <;> simp [ahead]

end Place

/-- A call and how far it has come. -/
structure Ticket where
  call : Engine.Call
  place : Place

/-- The tasks that work at a call. -/
inductive Seat where
  | caller
  | handler
  | engine
deriving DecidableEq

namespace Ticket

/-- The task in a seat, for the call of the caller `u`. -/
def task? (ticket : Ticket) (u : TaskId) : Seat → Option TaskId
  | .caller => some u
  | .handler =>
      match ticket.place with
      | .accepted _ h => some h
      | .forwarded _ h _ => some h
      | .called _ h _ _ => some h
      | .replying _ h _ => some h
      | _ => none
  | .engine =>
      match ticket.place with
      | .forwarded _ _ c => some c
      | .called _ _ c _ => some c
      | _ => none

/-- What a request that is being sent depends on. -/
def sending? (ticket : Ticket) : Option Int64 :=
  match ticket.place with
  | .sending id => some id
  | _ => none

/-- What a request on its way depends on. -/
def sent? (ticket : Ticket) : Option Message :=
  match ticket.place with
  | .sent id => some (ticket.call.sentAs id)
  | _ => none

/-- The handler that sends the reply. -/
def replying? (ticket : Ticket) : Option TaskId :=
  match ticket.place with
  | .replying _ h _ => some h
  | _ => none

/-- What a reply on its way depends on. -/
def replied? (ticket : Ticket) : Option (Engine.Call × Int64 × Engine.Outcome) :=
  match ticket.place with
  | .replied id outcome => some (ticket.call, id, outcome)
  | _ => none

/-- What a reply that has arrived depends on. -/
def delivered? (ticket : Ticket) : Option (Engine.Call × Int64 × Engine.Outcome) :=
  match ticket.place with
  | .delivered id outcome => some (ticket.call, id, outcome)
  | _ => none

/-- The id and the operation of a call that is in flight. -/
def inFlight? (ticket : Ticket) : Option (Int64 × Operation) :=
  match ticket.place with
  | .departing => none
  | .delivered .. => none
  | .done _ => none
  | place => place.id?.map fun id => (id, ticket.call.operation)

/-- The call of the engine, once it was made. -/
def called? (ticket : Ticket) : Option (Engine.Call × Engine.Outcome) :=
  ticket.place.outcome?.map fun outcome => (ticket.call, outcome)

/-- The id under which the caller waits. -/
def id? (ticket : Ticket) : Option Int64 :=
  ticket.place.id?

/-- No task but the caller works at a call that has neither a handler nor an engine call. -/
theorem task?_eq_none {ticket : Ticket} {u : TaskId} (hhandler : ticket.task? u .handler = none)
    (hengine : ticket.task? u .engine = none) (seat : Seat) (hseat : seat ≠ .caller) :
    ticket.task? u seat = none := by
  cases seat with
  | caller => exact absurd rfl hseat
  | handler => exact hhandler
  | engine => exact hengine

end Ticket

/-- What is known of each caller through one property of its ticket. -/
def facet {α : Type} (f : Ticket → Option α) (tickets : TaskId → Option Ticket) (u : TaskId) :
    Option α :=
  (tickets u).bind f

section Facets

variable {α : Type} {f : Ticket → Option α} {tickets tickets' : TaskId → Option Ticket} {u : TaskId}
  {ticket ticket' : Ticket}

/-- The property of a caller is that of its ticket. -/
theorem facet_of (h : tickets u = some ticket) : facet f tickets u = f ticket := by
  rw [facet, h, Option.bind_some]

/-- A caller has the property when it has a ticket with it. -/
theorem facet_eq_some {x : α} :
    facet f tickets u = some x ↔ ∃ ticket, tickets u = some ticket ∧ f ticket = some x :=
  Option.bind_eq_some_iff

/-- A ticket that changes in another property leaves this one as it was. -/
theorem facet_keep (htickets : tickets' = Function.update tickets u (some ticket'))
    (h : tickets u = some ticket) (hf : f ticket' = f ticket) :
    facet f tickets' = facet f tickets := by
  funext v
  rw [htickets]
  by_cases hv : v = u
  · rw [hv, facet, Function.update_self, Option.bind_some, hf, facet_of h]
  · rw [facet, Function.update_of_ne hv, facet]

/-- The caller with the changed ticket has its property. -/
theorem facet_self (htickets : tickets' = Function.update tickets u (some ticket')) :
    facet f tickets' u = f ticket' := by
  rw [htickets, facet, Function.update_self, Option.bind_some]

/-- All other callers have theirs as before. -/
theorem facet_other (htickets : tickets' = Function.update tickets u (some ticket'))
    {v : TaskId} (hv : v ≠ u) : facet f tickets' v = facet f tickets v := by
  rw [htickets, facet, Function.update_of_ne hv, facet]

/-- A value that the ticket of a call did not have is with another call, and stays there. -/
theorem facet_stays {x : α} (htickets : tickets' = Function.update tickets u (some ticket'))
    (h : tickets u = some ticket) (hf : f ticket ≠ some x) {v : TaskId}
    (hv : facet f tickets v = some x) : facet f tickets' v = some x := by
  have hne : v ≠ u := by
    rintro rfl
    exact hf ((facet_of h).symm.trans hv)
  rw [facet_other htickets hne, hv]

/-- A new ticket without this property leaves it as it was. -/
theorem facet_insert (htickets : tickets' = Function.update tickets u (some ticket'))
    (h : tickets u = none) (hf : f ticket' = none) : facet f tickets' = facet f tickets := by
  funext v
  rw [htickets]
  by_cases hv : v = u
  · rw [hv, facet, Function.update_self, Option.bind_some, hf, facet, h, Option.bind_none]
  · rw [facet, Function.update_of_ne hv, facet]

end Facets

/-- What is on its way in one direction: what the reader holds, the frames in the lane with
the callers that they belong to, and what each sender has written of its frame. -/
structure Cargo where
  held : Bytes := []
  frames : List (TaskId × Bytes) := []
  written : TaskId → Bytes := fun _ => []

/-- A ledger. -/
structure Ledger where
  /-- The callers, in the order in which they were started. -/
  callers : List TaskId := []
  tickets : TaskId → Option Ticket := fun _ => none
  /-- The callers that have got an id, in this order. -/
  issued : List TaskId := []
  /-- The callers for which the engine was called, in this order. -/
  noted : List TaskId := []
  rightward : Cargo := {}
  leftward : Cargo := {}

/-! ### Lanes -/

/-- A lane carries one frame for each caller that has freight in it, and those who wait to
send are senders. -/
structure Loaded {α : Type} (reads : α → Bytes → Prop) (lane : Link.Lane) (cargo : Cargo)
    (freight : TaskId → Option α) (sender : TaskId → Prop) : Prop where
  carries : lane.Carries cargo.held (cargo.frames.map Prod.snd) cargo.written
  loaded : ∀ entry ∈ cargo.frames, ∃ x, freight entry.1 = some x ∧ reads x entry.2
  nodup : (cargo.frames.map Prod.fst).Nodup
  complete : ∀ u x, freight u = some x → u ∈ cargo.frames.map Prod.fst
  senders : ∀ t ∈ lane.queueing, sender t
  single : lane.queueing.Nodup

namespace Loaded

variable {α : Type} {reads : α → Bytes → Prop} {lane : Link.Lane} {cargo : Cargo}
  {freight freight' : TaskId → Option α} {sender sender' : TaskId → Prop} {t u : TaskId}
  {rest : Bytes}

/-- Nobody is twice in a queue after joining it. -/
theorem nodup_join {queue : List TaskId} (h : queue.Nodup) (t : TaskId) :
    (Link.join queue t).Nodup := by
  rw [Link.join]
  split
  · exact h
  next hmem =>
    refine List.nodup_append.2 ⟨h, List.nodup_singleton t, ?_⟩
    rintro a ha b hb rfl
    exact hmem (List.mem_singleton.1 hb ▸ ha)

/-- In a queue is who was there or who joined. -/
theorem mem_join {queue : List TaskId} {t u : TaskId} (h : u ∈ Link.join queue t) :
    u ∈ queue ∨ u = t := by
  rw [Link.join] at h
  split at h
  · exact Or.inl h
  · exact (List.mem_append.1 h).imp_right List.mem_singleton.1

/-- An empty lane is loaded with nothing. -/
theorem of_empty (hcarries : lane.Carries [] [] fun _ => []) (hqueueing : lane.queueing = [])
    (hfreight : ∀ u, freight u = none) : Loaded reads lane {} freight sender where
  carries := hcarries
  loaded entry hentry := by cases hentry
  nodup := List.nodup_nil
  complete u x hu := by
    rw [hfreight] at hu
    cases hu
  senders t ht := by
    rw [hqueueing] at ht
    cases ht
  single := by
    rw [hqueueing]
    exact List.nodup_nil

/-- There may be more senders than those that send. -/
theorem mono (h : Loaded reads lane cargo freight sender) (hsender : ∀ t, sender t → sender' t) :
    Loaded reads lane cargo freight sender' :=
  { h with senders := fun t ht => hsender t (h.senders t ht) }

/-- Whoever is no sender has written nothing. -/
theorem written_eq_nil (h : Loaded reads lane cargo freight sender) (ht : ¬ sender t) :
    cargo.written t = [] := by
  by_contra hne
  exact ht (h.senders t (h.carries.mem_queueing hne))

/-- A sender sends all that is left of its frame, or it is held up before. -/
theorem send_cases (h : Loaded reads lane cargo freight sender) (t : TaskId) (hrest : rest ≠ []) :
    (∃ lane', lane.send t rest = (.sent, lane')) ∨
      ∃ rest' lane', lane.send t rest = (.blocked rest', lane') := by
  rcases h.carries.send_cases t hrest with ⟨lane', hsend, -⟩ | ⟨-, rest', lane', -, -, hsend, -⟩
  · exact Or.inl ⟨lane', hsend⟩
  · exact Or.inr ⟨rest', lane', hsend⟩

/-- A frame that has been sent is on its way behind the others. -/
theorem of_sent {lane' : Link.Lane} {x : α} (h : Loaded reads lane cargo freight sender)
    (hrest : rest ≠ []) (hsend : lane.send t rest = (.sent, lane')) (hold : freight u = none)
    (hnew : freight' u = some x) (hreads : reads x (cargo.written t ++ rest))
    (hother : ∀ v, v ≠ u → freight' v = freight v)
    (hothers : ∀ m, m ≠ t → sender m → sender' m) :
    Loaded reads lane'
      { cargo with
        frames := cargo.frames ++ [(u, cargo.written t ++ rest)]
        written := Function.update cargo.written t [] }
      freight' sender' := by
  obtain ⟨hlane', hqueueing⟩ := h.carries.of_sent hrest hsend
  have hu : ∀ entry ∈ cargo.frames, entry.1 ≠ u := by
    rintro entry hentry rfl
    obtain ⟨y, hy, -⟩ := h.loaded entry hentry
    rw [hold] at hy
    cases hy
  have hnotMem : u ∉ cargo.frames.map Prod.fst := by
    intro hmem
    obtain ⟨entry, hentry, heq⟩ := List.mem_map.1 hmem
    exact hu entry hentry heq
  exact {
    carries := by
      rw [List.map_append]
      exact hlane'
    loaded := fun entry hentry => by
      rcases List.mem_append.1 hentry with hentry | hentry
      · obtain ⟨y, hy, hread⟩ := h.loaded entry hentry
        exact ⟨y, (hother _ (hu entry hentry)).trans hy, hread⟩
      · obtain rfl := List.mem_singleton.1 hentry
        exact ⟨x, hnew, hreads⟩
    nodup := by
      rw [List.map_append]
      refine List.nodup_append.2 ⟨h.nodup, List.nodup_singleton u, ?_⟩
      rintro a ha b hb rfl
      have heq : a = u := List.mem_singleton.1 hb
      exact hnotMem (heq ▸ ha)
    complete := fun v y hv => by
      rw [List.map_append, List.mem_append]
      by_cases hvu : v = u
      · exact Or.inr (List.mem_singleton.2 hvu)
      · exact Or.inl (h.complete v y ((hother v hvu).symm.trans hv))
    senders := fun m hm => by
      rw [hqueueing] at hm
      obtain ⟨hm, hne⟩ := List.mem_filter.1 hm
      exact hothers m (by simpa using hne) (h.senders m hm)
    single := by
      rw [hqueueing]
      exact h.single.filter _ }

/-- A sender that is held up has written some more of its frame. -/
theorem of_blocked {rest' : Bytes} {lane' : Link.Lane}
    (h : Loaded reads lane cargo freight sender) (hsender : sender t) (hrest : rest ≠ [])
    (hsend : lane.send t rest = (.blocked rest', lane')) :
    ∃ part, rest = part ++ rest' ∧ rest' ≠ [] ∧
      Loaded reads lane'
        { cargo with written := Function.update cargo.written t (cargo.written t ++ part) }
        freight sender ∧
      lane'.queueing = Link.join lane.queueing t ∧
      (part = [] → lane'.load = lane.load ∧ (t ∈ lane.queueing → lane' = lane)) := by
  obtain ⟨part, hsplit, hrest', hlane', hqueueing, hnone⟩ := h.carries.of_blocked hrest hsend
  refine ⟨part, hsplit, hrest', ?_, hqueueing, hnone⟩
  refine ⟨hlane', h.loaded, h.nodup, h.complete, fun m hm => ?_, ?_⟩
  · rw [hqueueing] at hm
    rcases mem_join hm with hm | rfl
    · exact h.senders m hm
    · exact hsender
  · rw [hqueueing]
    exact nodup_join h.single t

/-- A reader gets the first frame, or nothing when there is none. -/
theorem receive {maxSize : Nat} (h : Loaded reads lane cargo freight sender)
    (hwhole : ∀ x frame, reads x frame → Whole maxSize frame)
    (hpart : ∀ t, sender t → ∃ rest, rest ≠ [] ∧ Whole maxSize (cargo.written t ++ rest)) :
    (∃ u x frame others lane', cargo.frames = (u, frame) :: others ∧ freight u = some x ∧
      reads x frame ∧ lane.receive maxSize cargo.held = (.frame frame, [], lane') ∧
      ∀ freight', freight' u = none → (∀ v, v ≠ u → freight' v = freight v) →
        Loaded reads lane' { cargo with held := [], frames := others } freight' sender) ∨
    (∃ held' lane', cargo.frames = [] ∧
      lane.receive maxSize cargo.held = (.nothing, held', lane') ∧
      Loaded reads lane' { cargo with held := held' } freight sender ∧ lane'.load = 0 ∧
      (held' = cargo.held ∧ lane' = lane ∨ lane'.load < lane.load)) := by
  have hframes : ∀ frame ∈ cargo.frames.map Prod.snd, Whole maxSize frame := by
    intro frame hframe
    obtain ⟨entry, hentry, rfl⟩ := List.mem_map.1 hframe
    obtain ⟨x, -, hread⟩ := h.loaded entry hentry
    exact hwhole x _ hread
  have hwritten : ∀ t, cargo.written t ≠ [] →
      ∃ rest, rest ≠ [] ∧ Whole maxSize (cargo.written t ++ rest) :=
    fun t hne => hpart t (h.senders t (h.carries.mem_queueing hne))
  rcases h.carries.receive_cases hframes hwritten with
    ⟨frame, others, lane', hmap, hreceive, hlane', hqueueing⟩ |
    ⟨held', lane', hmap, hreceive, hlane', hqueueing, hempty, hload⟩
  · obtain ⟨⟨u, frame⟩, entries, hentries, rfl, rfl⟩ := List.map_eq_cons_iff.1 hmap
    have hnodup := h.nodup
    rw [hentries, List.map_cons, List.nodup_cons] at hnodup
    have hmem : (u, frame) ∈ cargo.frames := by
      rw [hentries]
      exact List.mem_cons_self
    obtain ⟨x, hx, hread⟩ := h.loaded (u, frame) hmem
    refine Or.inl ⟨u, x, frame, entries, lane', hentries, hx, hread, hreceive,
      fun freight' hold hother => ?_⟩
    refine ⟨hlane', fun entry hentry => ?_, hnodup.2, fun v y hv => ?_, fun m hm => ?_, ?_⟩
    · have hne : entry.1 ≠ u := fun heq => hnodup.1 (List.mem_map.2 ⟨entry, hentry, heq⟩)
      rw [hother _ hne]
      apply h.loaded entry
      rw [hentries]
      exact List.mem_cons_of_mem _ hentry
    · have hne : v ≠ u := by
        rintro rfl
        rw [hold] at hv
        cases hv
      have hmem := h.complete v y ((hother v hne).symm.trans hv)
      rw [hentries, List.map_cons] at hmem
      exact (List.mem_cons.1 hmem).resolve_left hne
    · rw [hqueueing] at hm
      exact h.senders m hm
    · rw [hqueueing]
      exact h.single
  · have hnil := List.map_eq_nil_iff.1 hmap
    refine Or.inr ⟨held', lane', hnil, hreceive, ?_, hempty, hload⟩
    refine ⟨?_, h.loaded, h.nodup, h.complete, fun m hm => ?_, ?_⟩
    · rw [hmap]
      exact hlane'
    · rw [hqueueing] at hm
      exact h.senders m hm
    · rw [hqueueing]
      exact h.single

end Loaded

/-! ### The correlator -/

/-- The id that is given out after `n` others. -/
def idAt (n : Nat) : Int64 :=
  Int64.ofNat (n + 1)

/-- Of fewer than 2⁶⁴ ids no two are the same. -/
theorem idAt_inj {m n : Nat} (hm : m < UInt64.size) (hn : n < UInt64.size)
    (h : idAt m = idAt n) : m = n := by
  have hbits := congrArg (fun id : Int64 => id.toBitVec.toNat) h
  simp only [idAt, Int64.toBitVec_ofNat', BitVec.toNat_ofNat, UInt64.size] at *
  omega

/-- The correlator has an entry for every request in flight and a reply for every call whose
reply has arrived, and for nothing else. -/
structure Recorded (s : Service) (c : Correlator) (issued : List TaskId)
    (ids : TaskId → Option Int64) (inFlight : TaskId → Option (Int64 × Operation))
    (delivered : TaskId → Option (Engine.Call × Int64 × Engine.Outcome)) : Prop where
  codec : c.codec = s.client
  nextId : c.nextId = idAt issued.length
  few : issued.length ≤ UInt64.size
  numbered : ∀ u id, ids u = some id → ∃ n, issued[n]? = some u ∧ id = idAt n
  recorded : ∀ u id op, inFlight u = some (id, op) →
    ids u = some id ∧ c.table.expected? id = some (.reply op)
  arrived : ∀ u call id outcome, delivered u = some (call, id, outcome) →
    ids u = some id ∧
      ∃ reply, call.Replies id outcome reply ∧ c.delivered.lookup id = some (.ok reply)
  only : ∀ entry ∈ c.delivered, ∃ u call outcome, delivered u = some (call, entry.1, outcome)

namespace Recorded

variable {s : Service} {c : Correlator} {issued : List TaskId} {ids ids' : TaskId → Option Int64}
  {inFlight inFlight' : TaskId → Option (Int64 × Operation)}
  {delivered delivered' : TaskId → Option (Engine.Call × Int64 × Engine.Outcome)}
  {u v : TaskId} {id : Int64} {op : Operation}

/-- Whoever got the n-th id is among those that got one. -/
theorem lt_length {n : Nat} (h : issued[n]? = some u) : n < issued.length :=
  (List.getElem?_eq_some_iff.1 h).1

/-- No two callers wait under the same id. -/
theorem distinct (h : Recorded s c issued ids inFlight delivered) (hu : ids u = some id)
    (hv : ids v = some id) : u = v := by
  obtain ⟨m, hm, hidm⟩ := h.numbered u id hu
  obtain ⟨n, hn, hidn⟩ := h.numbered v id hv
  have heq : m = n := idAt_inj (Nat.lt_of_lt_of_le (lt_length hm) h.few)
    (Nat.lt_of_lt_of_le (lt_length hn) h.few) (hidm.symm.trans hidn)
  rw [heq, hn] at hm
  exact (Option.some.inj hm).symm

/-- The next id is nobody's yet. -/
theorem ne_nextId (h : Recorded s c issued ids inFlight delivered)
    (hfew : issued.length < UInt64.size) (hv : ids v = some id) : id ≠ c.nextId := by
  intro heq
  obtain ⟨n, hn, hid⟩ := h.numbered v id hv
  have hlt := lt_length hn
  have hsame : n = issued.length :=
    idAt_inj (Nat.lt_trans hlt hfew) hfew (by rw [← hid, heq, h.nextId])
  exact Nat.lt_irrefl _ (hsame ▸ hlt)

/-- A caller gets its id and its request is in flight. -/
theorem issue (h : Recorded s c issued ids inFlight delivered)
    (hfew : issued.length < UInt64.size) (hids : ids' u = some c.nextId)
    (hinFlight : inFlight' u = some (c.nextId, op))
    (hidsOther : ∀ v, v ≠ u → ids' v = ids v)
    (hinFlightOther : ∀ v, v ≠ u → inFlight' v = inFlight v) (hold : ids u = none) :
    Recorded s
      ({ c with nextId := c.nextId + 1 }.enter c.nextId (.reply op)) (issued ++ [u]) ids' inFlight'
      delivered where
  codec := h.codec
  nextId := by
    have hnext : c.nextId + 1 = idAt (issued.length + 1) := by
      rw [h.nextId, idAt, idAt, Int64.ofNat_add (issued.length + 1) 1]
      rfl
    rw [List.length_append]
    exact hnext
  few := by
    rw [List.length_append]
    exact hfew
  numbered v id hv := by
    by_cases hvu : v = u
    · subst hvu
      rw [hids] at hv
      refine ⟨issued.length, List.getElem?_concat_length, ?_⟩
      rw [← Option.some.inj hv, h.nextId]
    · rw [hidsOther v hvu] at hv
      obtain ⟨n, hn, hid⟩ := h.numbered v id hv
      exact ⟨n, by rw [List.getElem?_append_left (lt_length hn), hn], hid⟩
  recorded v id op' hv := by
    by_cases hvu : v = u
    · subst hvu
      rw [hinFlight] at hv
      cases hv
      refine ⟨hids, ?_⟩
      rw [enter, InFlight.expected?_record, if_pos rfl]
    · rw [hinFlightOther v hvu] at hv
      obtain ⟨hid, hexpected⟩ := h.recorded v id op' hv
      rw [hidsOther v hvu]
      refine ⟨hid, ?_⟩
      rw [enter, InFlight.expected?_record, if_neg (h.ne_nextId hfew hid)]
      exact hexpected
  arrived v call id outcome hv := by
    obtain ⟨hid, hreply⟩ := h.arrived v call id outcome hv
    have hvu : v ≠ u := by
      rintro rfl
      rw [hold] at hid
      cases hid
    rw [hidsOther v hvu]
    exact ⟨hid, hreply⟩
  only := h.only

/-- The reply to a request in flight arrives. -/
theorem deliver {call : Engine.Call} {outcome : Engine.Outcome} {reply : Message}
    (h : Recorded s c issued ids inFlight delivered) (hu : inFlight u = some (id, op))
    (hreply : call.Replies id outcome reply) (hold : delivered u = none)
    (hinFlight : inFlight' u = none) (hdelivered : delivered' u = some (call, id, outcome))
    (hinFlightOther : ∀ v, v ≠ u → inFlight' v = inFlight v)
    (hdeliveredOther : ∀ v, v ≠ u → delivered' v = delivered v) :
    Recorded s (({ c with table := c.table.resolve id } : Correlator).deliver (id, .ok reply))
      issued ids inFlight' delivered' where
  codec := h.codec
  nextId := h.nextId
  few := h.few
  numbered := h.numbered
  recorded v id' op' hv := by
    have hvu : v ≠ u := by
      rintro rfl
      rw [hinFlight] at hv
      cases hv
    rw [hinFlightOther v hvu] at hv
    obtain ⟨hid', hexpected⟩ := h.recorded v id' op' hv
    have hne : id' ≠ id := by
      rintro rfl
      exact hvu (h.distinct hid' (h.recorded u id' op hu).1)
    refine ⟨hid', ?_⟩
    rw [Correlator.deliver, InFlight.expected?_resolve, if_neg hne]
    exact hexpected
  arrived v call' id' outcome' hv := by
    by_cases hvu : v = u
    · subst hvu
      rw [hdelivered] at hv
      cases hv
      have hnone : c.delivered.lookup id = none := by
        cases hfound : c.delivered.lookup id with
        | none => rfl
        | some verdict =>
          obtain ⟨w, call', outcome', hw⟩ := h.only (id, verdict) (mem_of_lookup hfound)
          have hwv : w = v := h.distinct (h.arrived w call' id outcome' hw).1
            (h.recorded v id op hu).1
          rw [hwv, hold] at hw
          cases hw
      refine ⟨(h.recorded v id op hu).1, reply, hreply, ?_⟩
      rw [Correlator.deliver, List.lookup_append, hnone, lookup_cons_eq_ite, if_pos rfl]
      rfl
    · rw [hdeliveredOther v hvu] at hv
      obtain ⟨hid', reply', hreply', hlookup⟩ := h.arrived v call' id' outcome' hv
      refine ⟨hid', reply', hreply', ?_⟩
      rw [Correlator.deliver, List.lookup_append, hlookup]
      rfl
  only entry hentry := by
    rcases List.mem_append.1 hentry with hentry | hentry
    · obtain ⟨v, call', outcome', hv⟩ := h.only entry hentry
      have hvu : v ≠ u := by
        rintro rfl
        rw [hold] at hv
        cases hv
      exact ⟨v, call', outcome', (hdeliveredOther v hvu).trans hv⟩
    · obtain rfl := List.mem_singleton.1 hentry
      exact ⟨u, call, outcome, hdelivered⟩

/-- A caller takes its reply. -/
theorem collect {call : Engine.Call} {outcome : Engine.Outcome}
    (h : Recorded s c issued ids inFlight delivered) (hu : delivered u = some (call, id, outcome))
    (hflying : inFlight u = none) (hids : ids' u = none) (hdelivered : delivered' u = none)
    (hidsOther : ∀ v, v ≠ u → ids' v = ids v)
    (hdeliveredOther : ∀ v, v ≠ u → delivered' v = delivered v) :
    Recorded s { c with delivered := c.delivered.filter (·.1 != id) } issued ids' inFlight
      delivered' where
  codec := h.codec
  nextId := h.nextId
  few := h.few
  numbered v id' hv := by
    have hvu : v ≠ u := by
      rintro rfl
      rw [hids] at hv
      cases hv
    rw [hidsOther v hvu] at hv
    exact h.numbered v id' hv
  recorded v id' op' hv := by
    have hvu : v ≠ u := by
      rintro rfl
      rw [hflying] at hv
      cases hv
    rw [hidsOther v hvu]
    exact h.recorded v id' op' hv
  arrived v call' id' outcome' hv := by
    have hvu : v ≠ u := by
      rintro rfl
      rw [hdelivered] at hv
      cases hv
    rw [hdeliveredOther v hvu] at hv
    obtain ⟨hid', reply', hreply', hlookup⟩ := h.arrived v call' id' outcome' hv
    have hne : id' ≠ id := by
      rintro rfl
      exact hvu (h.distinct hid' (h.arrived u call id' outcome hu).1)
    refine ⟨(hidsOther v hvu).trans hid', reply', hreply', ?_⟩
    rw [lookup_filter_ne, if_neg hne]
    exact hlookup
  only entry hentry := by
    obtain ⟨hentry, hne⟩ := List.mem_filter.1 hentry
    obtain ⟨v, call', outcome', hv⟩ := h.only entry hentry
    have hvu : v ≠ u := by
      rintro rfl
      rw [hu] at hv
      cases hv
      simp at hne
    exact ⟨v, call', outcome', (hdeliveredOther v hvu).trans hv⟩

end Recorded

/-! ### The engine -/

/-- The engine was called once for each caller that it was noted for, with what this caller
calls, and the outcomes are those of the script. -/
structure Noted (script engine : Engine.Script) (noted : List TaskId)
    (called : TaskId → Option (Engine.Call × Engine.Outcome)) : Prop where
  started : engine = script.startAll engine.calls
  nodup : noted.Nodup
  calls : noted.map (fun u => (called u).map Prod.fst) = engine.calls.map some
  outcomes : noted.map (fun u => (called u).map Prod.snd) =
    (script.outcomesOf engine.calls).map some
  complete : ∀ u entry, called u = some entry → u ∈ noted
  suits : ∀ u call outcome, called u = some (call, outcome) → outcome.suits call.operation = true
  suitable : engine.Suitable

/-- There are as many callers on record as calls that the engine has noted. -/
theorem Noted.length_eq {script engine : Engine.Script} {noted : List TaskId}
    {called : TaskId → Option (Engine.Call × Engine.Outcome)}
    (h : Noted script engine noted called) : noted.length = engine.calls.length := by
  have hlength := congrArg List.length h.calls
  rwa [List.length_map, List.length_map] at hlength

/-- The engine is called for one more caller. -/
theorem Noted.start {script engine : Engine.Script} {noted : List TaskId}
    {called called' : TaskId → Option (Engine.Call × Engine.Outcome)} {u : TaskId}
    {call : Engine.Call} (h : Noted script engine noted called) (hold : called u = none)
    (hnew : called' u = some (call, (engine.start call).1))
    (hother : ∀ v, v ≠ u → called' v = called v) :
    Noted script (engine.start call).2 (noted ++ [u]) called' := by
  have hu : u ∉ noted := by
    intro hmem
    have hsome : (called u).map Prod.fst ∈ engine.calls.map some := by
      rw [← h.calls]
      exact List.mem_map.2 ⟨u, hmem, rfl⟩
    rw [hold] at hsome
    obtain ⟨_, -, heq⟩ := List.mem_map.1 hsome
    cases heq
  have hsame : ∀ v ∈ noted, called' v = called v :=
    fun v hv => hother v (ne_of_mem_of_not_mem hv hu)
  have hcalls : (engine.start call).2.calls = engine.calls ++ [call] := rfl
  refine {
    started := ?_
    nodup := ?_
    calls := ?_
    outcomes := ?_
    complete := ?_
    suits := ?_
    suitable := (h.suitable.start call).2 }
  · rw [hcalls, Engine.Script.startAll_append, ← h.started]
  · refine List.nodup_append.2 ⟨h.nodup, List.nodup_singleton u, ?_⟩
    rintro a ha b hb rfl
    exact hu (List.mem_singleton.1 hb ▸ ha)
  · rw [hcalls, List.map_append, List.map_append, ← h.calls]
    refine congrArg₂ (· ++ ·) (List.map_congr_left fun v hv => ?_) ?_
    · rw [hsame v hv]
    · simp only [List.map_cons, List.map_nil, hnew, Option.map_some]
  · rw [hcalls, Engine.Script.outcomesOf_append, List.map_append, List.map_append, ← h.outcomes,
      ← h.started]
    refine congrArg₂ (· ++ ·) (List.map_congr_left fun v hv => ?_) ?_
    · rw [hsame v hv]
    · simp only [List.map_cons, List.map_nil, hnew, Option.map_some]
  · intro v entry hv
    by_cases hvu : v = u
    · exact List.mem_append_right _ (List.mem_singleton.2 hvu)
    · rw [hother v hvu] at hv
      exact List.mem_append_left _ (h.complete v entry hv)
  · intro v call' outcome hv
    by_cases hvu : v = u
    · subst hvu
      rw [hnew] at hv
      cases hv
      exact (h.suitable.start call).1
    · rw [hother v hvu] at hv
      exact h.suits v call' outcome hv

end Exchange

end Parley
