/-
# How typed properties are spelled

Which texts stand for which values, said without the readers: numerals with blanks around them,
and words in any case.  Beside that, what it takes for a typed getter to accept a spelling and
nothing else, and to read back what a setter wrote.
-/

import Parley.Bag.Typed
import Parley.Decimal.Numeral

namespace Parley

/-- A text for the integer `i`: a numeral with an optional sign, blanks around it allowed. -/
def SpellsInteger (text : String) (i : Int) : Prop :=
  ∃ core, Text.Padded Text.isBlank core text.toList ∧ Decimal.IsInteger core i

/-- A text for the natural number `n`, which has no minus sign. -/
def SpellsNatural (text : String) (n : Nat) : Prop :=
  ∃ core, Text.Padded Text.isBlank core text.toList ∧ Decimal.IsNatural core n

/-- A text for a truth value: one of the words `true` and `false` in any ASCII case, with nothing
around it. -/
def SpellsBool (text : String) (value : Bool) : Prop :=
  text.toList.map Char.toLower = (Bag.boolText value).toList

namespace Bag

/-- The getter `get` understands the texts that `spells` relates to a value, and no others.  It
gives `missing` when there is no text and wraps what it understands in `found`. -/
structure Accepts {α β : Type} (get : Bag → String → Except Fault β) (missing : β) (found : α → β)
    (expected : String) (spells : String → α → Prop) : Prop where
  absent : ∀ b key, b.get? key = none → get b key = .ok missing
  null : ∀ b key, b.get? key = some none → get b key = .ok missing
  understood : ∀ b key text value, b.get? key = some (some text) → spells text value →
    get b key = .ok (found value)
  refused : ∀ b key text, b.get? key = some (some text) → (∀ value, ¬ spells text value) →
    get b key = .error (.typeMismatch key expected)

/-- What the setter `set` writes under a key the getter `get` reads as `found` tells, and no other
key is concerned. -/
structure ReadsBack {α β : Type} (set : Bag → String → α → Bag)
    (get : Bag → String → Except Fault β) (found : α → β) : Prop where
  same : ∀ b key value, get (set b key value) key = .ok (found value)
  others : ∀ b key value other, other ≠ key → (set b key value).get? other = b.get? other

end Bag

end Parley
