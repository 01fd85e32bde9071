/-
# Domain status

The state of a domain in its life, as the engine reports it.
-/

namespace Parley

/-- The state of a domain. -/
inductive DomainStatus where
  /-- Not reported; the property is absent. -/
  | unspecified
  | registered
  | deprecated
  | deleted
deriving DecidableEq, Repr

namespace DomainStatus

/-- How a status is written, when it is written at all. -/
def wire? : DomainStatus → Option String
  | .unspecified => none
  | .registered => some "REGISTERED"
  | .deprecated => some "DEPRECATED"
  | .deleted => some "DELETED"

/-- The name of a status. -/
def name (status : DomainStatus) : String :=
  status.wire?.getD "UNSPECIFIED"

/-- The statuses that can be written. -/
def written : List DomainStatus :=
  [.registered, .deprecated, .deleted]

/-- The status that is written as `text`. -/
def ofWire? (text : String) : Option DomainStatus :=
  written.find? fun status => status.wire? == some text

/-- A written status reads back. -/
theorem ofWire?_of_wire? {status : DomainStatus} {text : String} (h : status.wire? = some text) :
    ofWire? text = some status := by
  cases status <;> simp [wire?] at h <;> subst h <;> decide +kernel

end DomainStatus

end Parley
