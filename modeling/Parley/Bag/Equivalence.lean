/-
# Equality of contents

Two bags have equal contents when they have the same keys and each key has equal
values: the same text, or two texts of the same JSON document.  So the order of
the keys in an embedded object does not matter.
-/

import Parley.Bag
import Parley.Json.Reader

namespace Parley

/-- Whether two texts are the same or stand for the same document. -/
def sameText (a b : String) : Bool :=
  a == b ||
    match Json.parse a, Json.parse b with
    | some x, some y => x.same y
    | _, _ => false

/-- Whether two values are equal; no value equals only no value. -/
def sameValue : Option String → Option String → Bool
  | none, none => true
  | some a, some b => sameText a b
  | _, _ => false

/-- Whether two bags have equal contents. -/
def Bag.same (a b : Bag) : Bool :=
  a.size == b.size &&
    a.entries.all fun entry =>
      match b.get? entry.1 with
      | some value => sameValue entry.2 value
      | none => false

end Parley
