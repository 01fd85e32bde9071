/-
# Typed calls of a client

A typed call names the class of its reply itself, and that is the class of the exchange that
its request begins.  Two parts of a call may report an unexpected message: the request is
none, or the reply is of another class.  Nothing else that a call reads or writes reports
one.
-/

import Parley.Client
import Parley.Proofs.Frame.Exact

namespace Parley

/-- A computation that reports no unexpected message. -/
def Unsurprising {α : Type} (x : Except Fault α) : Prop :=
  ∀ tag, x ≠ .error (.unexpectedMessage tag)

namespace Unsurprising

variable {α β : Type} {x : Except Fault α}

/-- A value is no surprise. -/
theorem ok (value : α) : Unsurprising (.ok value) := nofun

/-- A fault of another kind is no surprise. -/
theorem error {fault : Fault} (h : ∀ tag, fault ≠ .unexpectedMessage tag) :
    Unsurprising (.error fault : Except Fault α) := by
  rintro tag ⟨⟩
  exact h tag rfl

/-- A fault that is no surprise is of another kind. -/
theorem fault_ne {fault : Fault} (h : Unsurprising (.error fault : Except Fault α)) (tag : Tag) :
    fault ≠ .unexpectedMessage tag := by
  rintro rfl
  exact h tag rfl

/-- Of two steps neither of which surprises the whole does not. -/
theorem bind {f : α → Except Fault β} (hx : Unsurprising x) (hf : ∀ a, Unsurprising (f a)) :
    Unsurprising (x >>= f) := by
  cases x with
  | ok value => exact hf value
  | error fault => exact error hx.fault_ne

/-- What is made of a value does not surprise. -/
theorem map {f : α → β} (hx : Unsurprising x) : Unsurprising (x.map f) := by
  cases x with
  | ok value => exact ok _
  | error fault => exact error hx.fault_ne

/-- A malformed frame is no surprise. -/
theorem of_onlyMalformed (hx : Frame.OnlyMalformed x) : Unsurprising x := by
  rintro tag rfl
  obtain ⟨reason, hreason⟩ := hx _ rfl
  cases hreason

end Unsurprising

/-! ### What is read off a reply -/

namespace Bag

variable (b : Bag) (key : String)

/-- A typed getter finds a value, none or a mismatch of types. -/
theorem unsurprising_getWith {α : Type} (expected : String) (read : String → Option α) :
    Unsurprising (b.getWith key expected read) := by
  intro tag
  rw [getWith]
  cases b.text? key with
  | none => nofun
  | some text =>
    dsimp only
    cases read text <;> nofun

/-- The failure of a reply is read or cannot be read. -/
theorem unsurprising_failure : Unsurprising b.failure := by
  rw [failure]
  cases b.text? failureKey with
  | none => exact .ok _
  | some text =>
    refine Unsurprising.map fun tag => ?_
    rw [Failure.ofText]
    split
    · nofun
    · nofun
    · split <;> nofun

end Bag

/-- A reply tells of success or of a failure. -/
theorem Message.unsurprising_check (m : Message) : Unsurprising m.check := by
  have hfailure := m.bag.unsurprising_failure
  rw [Message.check, Message.failure]
  cases hread : m.bag.failure with
  | ok failure => cases failure <;> nofun
  | error fault =>
    rw [hread] at hfailure
    exact .error hfailure.fault_ne

/-- A description of a domain can be read or has a property of another type. -/
theorem Engine.DomainDescription.unsurprising_ofBag (b : Bag) :
    Unsurprising (Engine.DomainDescription.ofBag b) := by
  refine (b.unsurprising_getWith _ _ _).map.bind fun _ => ?_
  refine (b.unsurprising_getWith _ _ _).map.bind fun _ => ?_
  exact (b.unsurprising_getWith _ _ _).map.bind fun _ => .ok _

namespace Client.Call

/-- Whether a call names the class of its reply itself. -/
def isTyped : Call → Bool
  | .exchange .. => false
  | _ => true

/-- A reply of the right class is read without surprise. -/
theorem unsurprising_read (call : Call) (reply : Message) : Unsurprising (call.read reply) := by
  cases call with
  | cancel target => exact (reply.bag.unsurprising_getWith _ _ _).map.map
  | engine call =>
    cases call with
    | describeDomain name => exact (Engine.DomainDescription.unsurprising_ofBag _).map
    | executeWorkflow params =>
      refine (reply.bag.unsurprising_getWith _ _ _).bind fun execution => ?_
      cases execution <;> nofun
    | _ => exact .ok _
  | _ => exact .ok _

/-! ### Requests and the classes of their replies -/

variable {call : Call}

/-- The request of a call begins this exchange, and the call takes the reply of it. -/
structure Begins (call : Call) (op : Operation) : Prop where
  request : call.request.expectedReply? = some (.reply op)
  reply : call.replyClass = .reply op

/-- Every typed call begins an operation. -/
theorem exists_begins (h : call.isTyped = true) : ∃ op, call.Begins op := by
  cases call with
  | greet address port => exact ⟨.greet, rfl, rfl⟩
  | heartbeat => exact ⟨.heartbeat, rfl, rfl⟩
  | terminate => exact ⟨.terminate, rfl, rfl⟩
  | cancel target => exact ⟨.cancel, rfl, rfl⟩
  | engine call => exact ⟨call.operation, by cases call <;> rfl, rfl⟩
  | exchange request expected => cases h

/-- A reply of the right class is only checked and read. -/
theorem answer_ok {reply : Message} (h : reply.messageClass = call.replyClass) :
    call.answer (.ok reply) = reply.check >>= fun _ => call.read reply := by
  have hdowncast : reply.downcast call.replyClass = .ok reply := if_pos h
  calc call.answer (.ok reply)
      = reply.downcast call.replyClass >>= fun reply => reply.check >>= fun _ => call.read reply :=
        rfl
    _ = reply.check >>= fun _ => call.read reply := by rw [hdowncast]; rfl

/-- A fault is the answer of every call. -/
theorem answer_error (fault : Fault) : call.answer (.error fault) = .error fault := rfl

end Client.Call

/-- Only what has a request id expects a reply. -/
theorem Message.hasRequestId_of_expectedReply? {m : Message} {expected : Tag}
    (h : m.expectedReply? = some expected) : m.hasRequestId = true := by
  obtain ⟨role, tag, bag, attachments⟩ := m
  cases role with
  | anyRequest expected => rfl
  | request op => rfl
  | _ => cases h

end Parley
