/-
# Reading TOML

A document is a list of lines: headers of tables, pairs of a key and a value, and
blank ones.  The lines after a header belong to its table.  A document is read whole
or not at all.
-/

import Parley.Toml.Scalar

namespace Parley.Toml

/-- Nesting of values beyond which a document is refused; also the number of names
that is too many for a path. -/
def depthLimit : Nat := 80

/-- Skip a comment, if there is one, up to the end of its line. -/
def skipComment : Chars → Chars
  | '#' :: cs => cs.dropWhile isPrintable
  | cs => cs

/-- Skip blanks, comments and ends of lines. -/
def skipBlank : Nat → Chars → Chars
  | 0, cs => cs
  | fuel + 1, cs =>
      let cs := skipComment (skipSpaces cs)
      match newline cs with
      | some (_, rest) => skipBlank fuel rest
      | none => cs

/-- What may follow on the line of a header or a pair: a comment. -/
def lineEnd : Reader Unit := fun cs =>
  match skipComment (skipSpaces cs) with
  | [] => some ((), [])
  | cs => newline cs

/-! ### Keys -/

/-- A character of a name without quotes. -/
def isBare (c : Char) : Bool :=
  ('a' ≤ c && c ≤ 'z') || ('A' ≤ c && c ≤ 'Z') || ('0' ≤ c && c ≤ '9') || c == '-' || c == '_'

/-- A name, with or without quotes. -/
def name : Reader String := fun cs =>
  let quoted (quote : Char) (escapes : Bool) (cs : Chars) : Option (String × Chars) := do
    let (text, cs) ← lineText quote escapes (cs.length + 1) cs
    return (String.ofList text, cs)
  match cs with
  | '"' :: cs => quoted '"' true cs
  | '\'' :: cs => quoted '\'' false cs
  | cs =>
      let bare := cs.takeWhile isBare
      if bare.isEmpty then none else some (String.ofList bare, cs.drop bare.length)

/-- Names with dots between them and blanks around them. -/
def names : Nat → Reader (List String)
  | 0, _ => none
  | fuel + 1, cs => do
      let (first, cs) ← name (skipSpaces cs)
      match skipSpaces cs with
      | '.' :: cs => do
          let (rest, cs) ← names fuel cs
          return (first :: rest, cs)
      | cs => return ([first], cs)

/-- The path and the name of a key. -/
def key : Reader (List String × String) := fun cs => do
  let (path, cs) ← names (cs.length + 1) cs
  if depthLimit ≤ path.length then none
  else return ((path.dropLast, ← path.getLast?), cs)

/-! ### Values -/

/-- A value without parts. -/
def scalar : Reader Node := fun cs =>
  let word (text : String) (node : Node) : Option (Node × Chars) :=
    (keyword text cs).map fun (_, cs) => (node, cs)
  match cs with
  | [] => none
  | c :: _ =>
      if c = '"' ∨ c = '\'' then (text cs).map fun (value, cs) => (.text value, cs)
      else if c = 't' then word "true" (.flag true)
      else if c = 'f' then word "false" (.flag false)
      else if c = 'i' then word "inf" .real
      else if c = 'n' then word "nan" .real
      else moment cs <|> real cs <|> integer cs

mutual

/-- A value; `depth` is the number of arrays and tables around it. -/
def value (depth : Nat) : Nat → Reader Node
  | 0, _ => none
  | fuel + 1, cs =>
      if depthLimit ≤ depth + 1 then
        match cs with
        | '[' :: _ => none
        | '\x7b' :: _ => none
        | cs => scalar cs
      else
        match cs with
        | '[' :: cs => do
            let (items, cs) ← items (depth + 1) fuel cs
            return (.array items, cs)
        | '\x7b' :: cs =>
            match skipSpaces cs with
            | '\x7d' :: cs => some (.table .braces [], cs)
            | cs => do
                let (fields, cs) ← pairs (depth + 1) [] fuel cs
                return (.table .braces fields, cs)
        | cs => scalar cs

/-- The rest of an array. -/
def items (depth : Nat) : Nat → Reader (List Node)
  | 0, _ => none
  | fuel + 1, cs =>
      match skipBlank cs.length cs with
      | ']' :: cs => some ([], cs)
      | cs => do
          let (first, cs) ← value depth fuel cs
          match skipBlank cs.length cs with
          | ']' :: cs => return ([first], cs)
          | ',' :: cs => do
              let (rest, cs) ← items depth fuel cs
              return (first :: rest, cs)
          | _ => none

/-- The rest of a table in braces, after the fields that were read. -/
def pairs (depth : Nat) (fields : Fields) : Nat → Reader Fields
  | 0, _ => none
  | fuel + 1, cs => do
      let ((path, key), cs) ← key cs
      let (_, cs) ← keyword "=" cs
      let (node, cs) ← value depth fuel (skipSpaces cs)
      let fields ← fields.insert .braces path key node
      match skipSpaces cs with
      | '\x7d' :: cs => return (fields, cs)
      | ',' :: cs => pairs depth fields fuel cs
      | _ => none

end

/-! ### Lines -/

/-- A document as far as it is read: the finished tables, and the table that the lines
belong to. -/
structure Draft where
  root : Fields := []
  /-- Where the table belongs; nowhere while no header has come. -/
  place : Option (List String × String) := none
  /-- Whether the table shares its header with others. -/
  shared : Bool := false
  fields : Fields := []

namespace Draft

/-- Put the table of the last header into its place. -/
def finish (d : Draft) : Option Fields :=
  match d.place with
  | none => some d.fields
  | some (path, key) =>
      let add (_ : Form) (inner : Fields) : Option (Fields × Unit) :=
        if d.shared then
          match inner.node? key with
          | none => some (inner.put key (.tables [d.fields]), ())
          | some (.tables elements) => some (inner.put key (.tables (elements ++ [d.fields])), ())
          | some _ => none
        else some (inner.put key (.table .header d.fields), ())
      (Fields.descend false add path .header d.root).map Prod.fst

/-- Begin the table of a header.  A table that lies on the way to others is taken over
with what it holds. -/
def openTable (d : Draft) (path : List String) (key : String) : Option Draft := do
  let root ← d.finish
  let take (_ : Form) (inner : Fields) : Option (Fields × Fields) :=
    match inner.node? key with
    | none => some (inner, [])
    | some (.table .implied fields) => some (inner.remove key, fields)
    | some _ => none
  let (root, fields) ← Fields.descend false take path .header root
  return { root, place := some (path, key), fields }

/-- Begin a table that shares its header. -/
def openShared (d : Draft) (path : List String) (key : String) : Option Draft := do
  let root ← d.finish
  let look (_ : Form) (inner : Fields) : Option (Fields × Unit) :=
    match inner.node? key with
    | none => some (inner.put key (.tables []), ())
    | some (.tables elements) => some (inner.put key (.tables elements), ())
    | some _ => none
  let (root, _) ← Fields.descend false look path .header root
  return { root, place := some (path, key), shared := true }

/-- Add a pair to the table. -/
def add (d : Draft) (path : List String) (key : String) (node : Node) : Option Draft :=
  (d.fields.insert .header path key node).map fun fields => { d with fields }

end Draft

/-- One line: a blank one, a header or a pair. -/
def line (d : Draft) : Reader Draft
  | '[' :: '[' :: cs => do
      let ((path, key), cs) ← key cs
      let (_, cs) ← keyword "]]" cs
      let (_, cs) ← lineEnd cs
      return (← d.openShared path key, cs)
  | '[' :: cs => do
      let ((path, key), cs) ← key cs
      let (_, cs) ← keyword "]" cs
      let (_, cs) ← lineEnd cs
      return (← d.openTable path key, cs)
  | '#' :: cs => do
      let (_, cs) ← lineEnd ('#' :: cs)
      return (d, cs)
  | '\n' :: cs => some (d, cs)
  | '\r' :: cs => (newline ('\r' :: cs)).map fun (_, cs) => (d, cs)
  | cs => do
      let ((path, key), cs) ← key cs
      let (_, cs) ← keyword "=" cs
      let (node, cs) ← value 0 (2 * cs.length + 2) (skipSpaces cs)
      let (_, cs) ← lineEnd cs
      return (← d.add path key node, cs)

/-- Lines to the end of the document. -/
def lines : Nat → Draft → Chars → Option Draft
  | 0, _, _ => none
  | fuel + 1, d, cs =>
      match skipSpaces cs with
      | [] => some d
      | cs => do
          let (d, cs) ← line d cs
          lines fuel d cs

/-- The table that a document says.  A byte order mark at the start is skipped. -/
def parse (text : String) : Option Fields := do
  let cs := text.toList
  let cs := if cs.head? = some '\uFEFF' then cs.tail else cs
  (← lines (cs.length + 1) {} cs).finish

end Parley.Toml
