/-
# The registry of the known exchanges

Every tag of a known exchange is bound to an empty message of its class.
-/

import Parley.Registry

namespace Parley.Registry

/-- The bindings of the standard registry: both messages of every exchange. -/
theorem standard_bindings :
    standard.bindings =
      Operation.all.flatMap fun op => [Message.request op, Message.reply op] := by
  decide

/-- The tag of a request is bound to the empty request. -/
@[simp]
theorem template?_standard_request (op : Operation) :
    standard.template? (.request op) = some (Message.request op) := by
  rw [template?, standard_bindings]
  cases op <;> rfl

/-- The tag of a reply is bound to the empty reply. -/
@[simp]
theorem template?_standard_reply (op : Operation) :
    standard.template? (.reply op) = some (Message.reply op) := by
  rw [template?, standard_bindings]
  cases op <;> rfl

/-- A template is bound to its own tag. -/
theorem tag_of_template? {r : Registry} {tag : Tag} {m : Message} (h : r.template? tag = some m) :
    m.tag = tag := by
  have hfound := List.find?_some h
  exact eq_of_beq hfound

end Parley.Registry
