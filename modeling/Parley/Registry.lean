/-
# Registry

Which message a tag stands for.  Tags and classes correspond one to one: a tag is
bound to at most one class and a class to at most one tag, and a registration that
would break this is refused.  Each binding keeps the message that decoding starts
from.
-/

import Parley.Message.Basic

namespace Parley

/-- The bindings, each the tag of its template together with the template.  Later
bindings stand behind earlier ones. -/
structure Registry where
  bindings : List Message := []

namespace Registry

/-- No bindings. -/
def empty : Registry := {}

/-- The template bound to a tag. -/
def template? (r : Registry) (tag : Tag) : Option Message :=
  r.bindings.find? fun m => m.tag == tag

/-- The tag that a class is bound to. -/
def tagOf? (r : Registry) (c : MessageClass) : Option Tag :=
  (r.bindings.find? fun m => m.messageClass == c).map Message.tag

/-- Whether a tag is bound. -/
def isRegistered (r : Registry) (tag : Tag) : Bool :=
  (r.template? tag).isSome

/-- Number of bindings. -/
def size (r : Registry) : Nat :=
  r.bindings.length

/-- The tags that are bound, by their codes. -/
def tags (r : Registry) : List Tag :=
  Tag.all.filter r.isRegistered

/-- Bind a tag to the class of `product`, from copies of which its messages are
made.  A tag that is already bound to this class keeps its template. -/
def registerFactory (r : Registry) (tag : Tag) (product : Message) : Except Fault Registry :=
  if product.tag ≠ tag then
    .error (.registrationConflict s!"factory for {tag.name} produces {product.tag.name}")
  else
    match r.template? tag with
    | some bound =>
        if bound.messageClass = product.messageClass then .ok r
        else .error (.registrationConflict s!"{tag.name} is already bound to another type")
    | none =>
        match r.tagOf? product.messageClass with
        | some other =>
            .error (.registrationConflict
              s!"type registered for {tag.name} is already bound to {other.name}")
        | none => .ok { bindings := r.bindings ++ [product] }

/-- Bind a class under the tag of its fresh messages. -/
def register (r : Registry) (c : MessageClass) : Except Fault Registry :=
  r.registerFactory (Message.fresh c).tag (Message.fresh c)

/-- The classes of the known exchanges. -/
def knownClasses : List MessageClass :=
  Operation.all.flatMap fun op => [.request op, .reply op]

/-- Register classes one after the other up to the first that is refused. -/
def registerEach (r : Registry) : List MessageClass → Registry × Except Fault Unit
  | [] => (r, .ok ())
  | c :: cs =>
      match r.register c with
      | .ok r => r.registerEach cs
      | .error e => (r, .error e)

/-- Register every known exchange. -/
def registerAll (r : Registry) : Registry × Except Fault Unit :=
  r.registerEach knownClasses

/-- The registry of every known exchange. -/
def standard : Registry :=
  (registerAll empty).1

/-- A new message of a tag. -/
def createMessage (r : Registry) (tag : Tag) : Except Fault Message :=
  match r.template? tag with
  | some m => .ok m
  | none => .error (.unknownTag tag.code)

/-- A new message for the code in a frame. -/
def create (r : Registry) (code : Nat) : Except Fault Message :=
  match Tag.ofCode? code with
  | some tag => r.createMessage tag
  | none => .error (.unknownTag code)

/-- A summary for people. -/
def summary (r : Registry) : String :=
  "MessageRegistry \x7b registered_types: " ++ Decimal.natText r.size ++ " \x7d"

end Registry

end Parley
