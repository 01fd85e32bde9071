/-
# What equal bags give

Bags are equal when their texts stand for the same documents, while the typed getters go by the
characters of a text.  Two kinds of texts tell the difference: minus zero, which is a fraction
as a document, and a truth value with space around it.  Here it is said how far the getters,
and the parameters of the engine that are read with them, agree all the same.
-/

import Parley.Bag.Spelling
import Parley.Engine.Params

namespace Parley

/-- A text that the readers of integers take for zero, and that no document with an integer
has. -/
def IsMinusZero (text : String) : Prop :=
  Text.Padded Text.isBlank Decimal.minusZero text.toList

/-- A text of a document that is a truth value, with space that the reader of truth values does
not allow. -/
def IsSpacedBool (text : String) : Prop :=
  ∃ value, Text.Padded Json.isSpace (Bag.boolText value).toList text.toList ∧
    text ≠ Bag.boolText value

namespace Bag

/-- There is a text under the key, and it is of the kind `p`. -/
def Holds (b : Bag) (p : String → Prop) (key : String) : Prop :=
  ∃ text, b.get? key = some (some text) ∧ p text

/-- The getter `get` gives the same value or the same fault on both bags, except under the keys
where just one of them holds a text of the kind `odd`.  There only one gives a value. -/
structure AgreeBut {β : Type} (odd : String → Prop) (get : Bag → String → Except Fault β)
    (a b : Bag) : Prop where
  agree : ∀ key, get a key = get b key ↔ (a.Holds odd key ↔ b.Holds odd key)
  values : ∀ key value value', get a key = .ok value → get b key = .ok value' → value = value'

/-- How far the typed getters agree on two bags. -/
structure TypedAlike (a b : Bag) : Prop where
  int32 : AgreeBut IsMinusZero getInt32 a b
  int64 : AgreeBut IsMinusZero getInt64 a b
  bool : AgreeBut IsSpacedBool getBool a b
  duration : ∀ key, a.getDuration key = b.getDuration key

end Bag

namespace Engine

/-- How far `convert` agrees on two bags as to the part `typed` of the parameters, which is a
truth value under the key `flag` and an integer under the key `count`: in everything, faults
included, unless just one of the bags holds an odd text there, and always in what it gives on
both. -/
structure DomainAlike {α γ : Type} (convert : Bag → Except Fault α) (typed : α → γ)
    (flag count : String) (a b : Bag) : Prop where
  outcome : (a.Holds IsSpacedBool flag ↔ b.Holds IsSpacedBool flag) →
    (a.Holds IsMinusZero count ↔ b.Holds IsMinusZero count) →
    (convert a).map typed = (convert b).map typed
  values : ∀ p q, convert a = .ok p → convert b = .ok q → typed p = typed q

/-- How far the parameters read from two bags agree in their integers, truth values and
durations. -/
structure ParamsAlike (a b : Bag) : Prop where
  registerDomain : DomainAlike RegisterDomain.ofBag (fun p => (p.emitMetrics, p.retentionDays))
    Key.emitMetrics Key.retentionDays a b
  updateDomain : DomainAlike UpdateDomain.ofBag (fun p => (p.emitMetrics, p.retentionDays))
    Key.configuredEmitMetrics Key.configuredRetentionDays a b
  startWorkflow : ∀ p q, StartWorkflow.ofBag a = .ok p → StartWorkflow.ofBag b = .ok q →
    p.options = q.options

end Engine

end Parley
