/-
# Directives

A directive lets records up to a level pass: those of a target, those inside a span
with certain fields, or all.  Here directives are read, written and put in order, the
most specific ones first.
-/

import Parley.Filter.Level
import Parley.Filter.Value
import Parley.Text.Blank
import Parley.Text.Letter
import Parley.Text.Slice

namespace Parley.Filter

/-- The order of optional values by an order of values; none comes first. -/
def optionOrder {α : Type} (order : α → α → Ordering) : Option α → Option α → Ordering
  | none, none => .eq
  | none, some _ => .lt
  | some _, none => .gt
  | some a, some b => order a b

/-- Lexicographic order of lists. -/
def listOrder {α : Type} (order : α → α → Ordering) : List α → List α → Ordering
  | [], [] => .eq
  | [], _ :: _ => .lt
  | _ :: _, [] => .gt
  | a :: as, b :: bs => (order a b).then (listOrder order as bs)

/-- A field of a span that must be there, and what its value must be. -/
structure FieldMatch where
  name : String
  value : Option Value := none
deriving DecidableEq, Repr

namespace FieldMatch

/-- A field in a directive.  What follows a second equals sign is passed over. -/
def ofText? (text : List Char) : Option FieldMatch :=
  let nameChars := text.takeWhile (· != '=')
  let name := String.ofList nameChars
  match text.drop nameChars.length with
  | [] => if text.isEmpty then none else some { name }
  | _ :: rest => (Value.ofText? (rest.takeWhile (· != '='))).map fun value => { name, value }

/-- How a field is written. -/
def text (f : FieldMatch) : String :=
  match f.value with
  | some value => f.name ++ "=" ++ value.text
  | none => f.name

/-- The order of fields: those with a value come later, then by name and value. -/
def order (a b : FieldMatch) : Ordering :=
  (compare a.value.isSome b.value.isSome).then
    ((compare a.name b.name).then (optionOrder Value.order a.value b.value))

end FieldMatch

/-- A directive. -/
structure Directive where
  target : Option String := none
  span : Option String := none
  fields : List FieldMatch := []
  level : Level
deriving DecidableEq, Repr

namespace Directive

/-- A character that may begin a directive. -/
def mayBegin (c : Char) : Bool :=
  c == '-' || c == ':' || c == '_' || Text.isAlphanumeric c

/-- The part of a directive after its span; `place` is where `rest` begins. -/
def afterSpan (d : Directive) (text : List Char) (place : Nat) (rest : List Char) :
    Option Directive :=
  match rest with
  | [] => some d
  | '=' :: _ =>
      (Level.given? (Text.dropBytes (place + 1) text)).map fun level => { d with level }
  | _ => none

/-- A span; `place` is where `rest` begins, after the opening bracket. -/
def spanPart (d : Directive) (text : List Char) (place : Nat) (rest : List Char) :
    Option Directive :=
  let nameChars := rest.takeWhile fun c => c != ']' && c != '\x7b'
  let stop := place + Text.size nameChars
  let name := String.ofList (Text.slice text place stop)
  match rest.drop nameChars.length with
  | ']' :: rest => ({ d with span := some name }).afterSpan text (stop + 1) rest
  | '\x7b' :: rest =>
      let span := if stop = place then none else some name
      let fieldChars := rest.takeWhile (· != '\x7d')
      let close := stop + 1 + Text.size fieldChars
      match rest.drop fieldChars.length with
      | '\x7d' :: ']' :: rest => do
          let field ← FieldMatch.ofText? (Text.slice text (stop + 1) close)
          ({ d with span, fields := [field] }).afterSpan text (close + 2) rest
      | _ => none
  | _ => none

/-- A directive: a level, a target, a span in brackets, or a target or a span with a
level after an equals sign.  Without a level everything passes.  Blanks around a
directive are passed over when its parts are looked for, but the parts are counted off
from the beginning, so that a directive after blanks is cut in the wrong places. -/
def ofText? (text : List Char) : Option Directive :=
  match Text.trim text with
  | [] => none
  | '[' :: rest => spanPart { level := .trace } text 1 rest
  | c :: cs =>
      if mayBegin c then
        let scope := (c :: cs).takeWhile fun c => c != '=' && c != '['
        let stop := Text.size scope
        let named : Directive :=
          { target := some (String.ofList (Text.slice text 0 stop)), level := .trace }
        match (c :: cs).drop scope.length with
        | '=' :: _ =>
            (Level.given? (Text.dropBytes (stop + 1) text)).map fun level =>
              { named with level }
        | _ :: rest => named.spanPart text (stop + 1) rest
        | [] =>
            match Level.ofText? text with
            | some level => some { level }
            | none => some { level := .trace, target := some (String.ofList text) }
      else none

/-- Whether a directive can only be decided inside a span. -/
def isDynamic (d : Directive) : Bool :=
  d.span.isSome || !d.fields.isEmpty

/-- Whether a directive can be decided without a span being entered. -/
def isStatic (d : Directive) : Bool :=
  d.span.isNone && d.fields.all fun f => f.value.isNone

/-- How a directive is written. -/
def text (d : Directive) : String :=
  let fields :=
    if d.fields.isEmpty then ""
    else "\x7b" ++ ",".intercalate (d.fields.map FieldMatch.text) ++ "\x7d"
  let place := if d.isDynamic then "[" ++ d.span.getD "" ++ fields ++ "]" else ""
  let scope := d.target.getD "" ++ place
  if d.target.isSome || d.isDynamic then scope ++ "=" ++ d.level.name else d.level.name

/-- The length of a target in bytes, counted from one; zero when there is none. -/
def targetSize (d : Directive) : Nat :=
  match d.target with
  | some target => target.utf8ByteSize + 1
  | none => 0

/-- How specific directives are: by the length of the target, then the presence of a
span, then the number of fields; equally specific ones by what they say. -/
def order (a b : Directive) : Ordering :=
  (compare a.targetSize b.targetSize).then <|
  (compare a.span.isSome b.span.isSome).then <|
  (compare a.fields.length b.fields.length).then <|
  (optionOrder compare a.target b.target).then <|
  (optionOrder compare a.span b.span).then <|
  listOrder FieldMatch.order a.fields b.fields

/-- Put a directive before the less specific ones, in place of an equal one. -/
def insert (d : Directive) : List Directive → List Directive
  | [] => [d]
  | other :: rest =>
      match order d other with
      | .gt => d :: other :: rest
      | .eq => d :: rest
      | .lt => other :: insert d rest

end Directive

end Parley.Filter
