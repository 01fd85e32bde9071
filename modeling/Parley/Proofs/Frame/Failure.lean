/-
# Failures written into replies

A reply tells the failure that was written into it last, whatever its property held before,
and so does the reply that is read from its frame (`Message.rewrites_setFailure`).  A failure
of no kind is none: it is not written, and what stood there before goes.

The frame adds the properties of the reply to those of the message that the registry binds to
its tag.  A reply without a failure leaves this property to that message, which is why it must
not bring a failure of its own.
-/

import Parley.Proofs.Failure
import Parley.Proofs.Frame.RoundTrip

namespace Parley

namespace Message

/-- A message tells a failure, or that it has none, and holds a property for it only in the
first case. -/
structure Reports (m : Message) (told : Option Failure) : Prop where
  failure : m.failure = .ok told
  contains : m.bag.contains Bag.failureKey = told.isSome

/-- `after` is `before` but for the failure that it reports, and what is read from its frame
reports the same one. -/
structure Rewrites (before after : Message) (told : Option Failure) : Prop where
  reports : after.Reports told
  property : ∀ key, key ≠ Bag.failureKey → after.bag.get? key = before.bag.get? key
  role : after.role = before.role
  tag : after.tag = before.tag
  attachments : after.attachments = before.attachments
  received : ∀ (c : Codec) (template : Message) (frame : Frame.Bytes),
    c.registry.template? after.tag = some template →
    template.bag.get? Bag.failureKey = none →
    c.encode after = .ok frame →
    ∃ m, c.decode frame = .ok m ∧ m.role = template.role ∧ m.Reports told

/-- A message reports the failure that its error property stands for. -/
theorem reports_of_failureState {m : Message} {failure : Option Failure}
    (h : m.bag.get? Bag.failureKey = Bag.failureState failure) :
    m.Reports (failure.filter Failure.isFailure) where
  failure := Bag.failure_of_failureState h
  contains := by rw [Bag.contains, h, Bag.isSome_failureState]

/-- Writing a failure rewrites what a message reports, and nothing else. -/
theorem rewrites_setFailure (m : Message) (failure : Option Failure) :
    m.Rewrites (m.setFailure failure) (failure.filter Failure.isFailure) := by
  have hget : ∀ key, (m.setFailure failure).bag.get? key =
      if key = Bag.failureKey then Bag.failureState failure else m.bag.get? key :=
    Bag.get?_setFailure m.bag failure
  have hstate : (m.setFailure failure).bag.get? Bag.failureKey = Bag.failureState failure := by
    rw [hget, if_pos rfl]
  constructor
  case reports => exact reports_of_failureState hstate
  case property =>
    intro key hkey
    rw [hget, if_neg hkey]
  case role => rfl
  case tag => rfl
  case attachments => rfl
  case received =>
    intro c template frame hregistry htemplate hencode
    obtain ⟨received, hdecode, hrole, hbag⟩ :=
      Codec.exists_decode_of_template hregistry hencode
    have hreceived : received.bag.get? Bag.failureKey = Bag.failureState failure := by
      rw [hbag, hstate, htemplate, Option.or_none]
    exact ⟨received, hdecode, hrole, reports_of_failureState hreceived⟩

end Message

/-- A failure reads back from its text, whatever texts it has.  Written into a reply in any
state it is what the reply reports, unless it is of no kind: then the reply reports none, as
it does when told that there is none.  Everything else about the reply stays, and the reply
that is read from its frame reports the same. -/
theorem Failure.read_after_write (f : Failure) (reply : Message) :
    Failure.ofText f.json.text = .ok f ∧
      reply.Rewrites (reply.setFailure (some f)) (if f.kind = .none then none else some f) ∧
      reply.Rewrites (reply.setFailure none) none := by
  have htold : (some f).filter Failure.isFailure = if f.kind = .none then none else some f := by
    by_cases hkind : f.kind = .none <;> simp [Failure.isFailure, hkind]
  have hsome := reply.rewrites_setFailure (some f)
  rw [htold] at hsome
  exact ⟨f.ofText_json, hsome, reply.rewrites_setFailure none⟩

end Parley
