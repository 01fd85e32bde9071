/-
# TOML documents

What a document of settings says: tables of named nodes, in the order in which the
names came.  A table remembers how it came about, because that decides what may
still be said about it.  A table that a header has opened takes no further header;
one that only lies on the way to another table may still get a header of its own;
one made by a dotted key grows by dotted keys alone; one written in braces is
complete.
-/

namespace Parley.Toml

/-- How a table came about. -/
inductive Form where
  /-- By a header of its own, or as the whole document. -/
  | header
  /-- On the way to a table with a header. -/
  | implied
  /-- By a dotted key. -/
  | dotted
  /-- In braces. -/
  | braces
deriving DecidableEq, Repr

/-- A node of a document. -/
inductive Node where
  | text (value : String)
  | integer (value : Int)
  /-- A number with a fraction or an exponent, or one that is no number. -/
  | real
  | flag (value : Bool)
  /-- A date, a time of day or both. -/
  | moment
  | array (items : List Node)
  | table (form : Form) (fields : List (String × Node))
  /-- Tables that share a header in double brackets. -/
  | tables (elements : List (List (String × Node)))
deriving Repr, Inhabited

/-- The named nodes of a table. -/
abbrev Fields := List (String × Node)

namespace Fields

/-- The node of a name. -/
def node? (fields : Fields) (key : String) : Option Node :=
  fields.lookup key

/-- Replace the node of a name, or add it at the end. -/
def put (fields : Fields) (key : String) (node : Node) : Fields :=
  if (fields.node? key).isSome then
    fields.map fun field => if field.1 == key then (key, node) else field
  else fields ++ [(key, node)]

/-- Remove a name. -/
def remove (fields : Fields) (key : String) : Fields :=
  fields.filter fun field => field.1 != key

/-- Go down a path of names and change the table at its end.  Names that are missing
are made on the way, as dotted keys or headers make them.  A dotted key does not
enter a table with a header, nothing enters a table in braces, and where tables
share a header the last one is entered. -/
def descend {α : Type} (dottedKey : Bool) (change : Form → Fields → Option (Fields × α)) :
    List String → Form → Fields → Option (Fields × α)
  | [], form, fields => change form fields
  | key :: path, _, fields =>
      let enter (form : Form) (inner : Fields) (wrap : Fields → Node) : Option (Fields × α) := do
        let (inner, result) ← descend dottedKey change path form inner
        return (fields.put key (wrap inner), result)
      match fields.node? key with
      | none =>
          let form := if dottedKey then .dotted else .implied
          enter form [] (.table form)
      | some (.table form inner) =>
          if form = .braces ∨ (dottedKey = true ∧ form = .header) then none
          else enter form inner (.table form)
      | some (.tables elements) => do
          let last ← elements.getLast?
          enter .header last fun inner => .tables (elements.dropLast ++ [inner])
      | some _ => none

/-- Add a node under a path of names, as a dotted key does.  A name is given once, and
a table that lies on the way to another one is not extended from outside. -/
def insert (fields : Fields) (form : Form) (path : List String) (key : String) (node : Node) :
    Option Fields :=
  let add (form : Form) (inner : Fields) : Option (Fields × Unit) :=
    if decide (form = .dotted) == path.isEmpty then none
    else if (inner.node? key).isSome then none
    else some (inner ++ [(key, node)], ())
  (descend true add path form fields).map Prod.fst

end Fields

end Parley.Toml
