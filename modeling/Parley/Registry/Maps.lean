/-
# The two maps of a registry

A registry keeps one list of bindings and looks tags and classes up in it.  The same
bindings can be kept as two maps, one from tags to templates and one from classes to tags,
each with an entry of its own for every binding.  A registration then looks into the first
map, and into the second when the tag is free, and writes into both when it is accepted.

Registrations are calls that may come in any number and order.  One that is refused leaves
the registry to the next.
-/

import Parley.Registry

namespace Parley

namespace Registry

/-- A call that registers a class. -/
inductive Registration where
  /-- Under the tag of the fresh messages of the class. -/
  | ofClass (c : MessageClass)
  /-- Under a tag that is named, by a message of which copies are made. -/
  | ofProduct (tag : Tag) (product : Message)

namespace Registration

/-- The tag under which the class is to be registered. -/
def tag : Registration → Tag
  | .ofClass c => (Message.fresh c).tag
  | .ofProduct tag _ => tag

/-- The message from which messages of the tag are to be made. -/
def product : Registration → Message
  | .ofClass c => Message.fresh c
  | .ofProduct _ product => product

end Registration

/-- The class that a tag is bound to. -/
def classOf? (r : Registry) (tag : Tag) : Option MessageClass :=
  (r.template? tag).map Message.messageClass

/-- The registry that a registration makes, or why it is refused. -/
def accept (r : Registry) : Registration → Except Fault Registry
  | .ofClass c => r.register c
  | .ofProduct tag product => r.registerFactory tag product

/-- Register: the outcome and the registry that the next call meets. -/
def enter (r : Registry) (call : Registration) : Except Fault Unit × Registry :=
  match r.accept call with
  | .ok after => (.ok (), after)
  | .error fault => (.error fault, r)

/-- The registry after some calls. -/
def enterEach (r : Registry) (calls : List Registration) : Registry :=
  calls.foldl (fun r call => (r.enter call).2) r

/-- A registration gets in the way of the correspondence of tags and classes: its message
has another tag, or the tag is bound to another class, or the tag is free and the class is
bound to another tag. -/
def Conflicts (r : Registry) (call : Registration) : Prop :=
  call.product.tag ≠ call.tag ∨
  (∃ c, r.classOf? call.tag = some c ∧ c ≠ call.product.messageClass) ∨
  r.classOf? call.tag = none ∧
    ∃ tag, r.tagOf? call.product.messageClass = some tag ∧ tag ≠ call.tag

/-- Bindings kept as two maps. -/
structure Maps where
  templates : List (Tag × Message) := []
  tags : List (MessageClass × Tag) := []
deriving DecidableEq

/-- The bindings of a registry as two maps. -/
def maps (r : Registry) : Maps where
  templates := r.bindings.map fun m => (m.tag, m)
  tags := r.bindings.map fun m => (m.messageClass, m.tag)

namespace Maps

/-- Register in two maps. -/
def enter (maps : Maps) (call : Registration) : Except Fault Unit × Maps :=
  let refuse (reason : String) : Except Fault Unit × Maps :=
    (.error (.registrationConflict reason), maps)
  if call.product.tag ≠ call.tag then
    refuse s!"factory for {call.tag.name} produces {call.product.tag.name}"
  else
    match maps.templates.lookup call.tag with
    | some bound =>
        if bound.messageClass = call.product.messageClass then (.ok (), maps)
        else refuse s!"{call.tag.name} is already bound to another type"
    | none =>
        match maps.tags.lookup call.product.messageClass with
        | some other =>
            refuse s!"type registered for {call.tag.name} is already bound to {other.name}"
        | none =>
            (.ok (),
              { templates := maps.templates ++ [(call.tag, call.product)]
                tags := maps.tags ++ [(call.product.messageClass, call.tag)] })

/-- Two maps after some calls. -/
def enterEach (maps : Maps) (calls : List Registration) : Maps :=
  calls.foldl (fun maps call => (maps.enter call).2) maps

end Maps

end Registry

end Parley
