/-
# Patterns for values

The value of a field may be matched by a pattern.  Here it is decided which texts are
patterns: letters and other characters that stand for themselves, escapes, classes in
brackets, groups, alternatives and signs of repetition.

A group can change the mode in which it is read.  Patterns know no tables of characters
beyond ASCII.  So the shorthand classes, the edges of words and the disregard of case,
which would need such tables, are for modes that are restricted to ASCII; and what
could match half of a character is refused there.

A pattern stands inside braces, and a closing brace would end it.  So an opening brace
outside a class opens nothing that could be closed.
-/

import Parley.Json.Reader
import Parley.Text.Blank
import Parley.Text.Letter

namespace Parley.Filter.Pattern

/-- The characters that are still to be read. -/
abbrev Chars := List Char

/-- How a part of a pattern is read. -/
structure Mode where
  /-- Case makes no difference. -/
  ignoreCase : Bool := false
  /-- Characters beyond ASCII are meant as well. -/
  unicode : Bool := true
  /-- Blanks stand for nothing, and comments may be given. -/
  spaced : Bool := false

/-- The text after blanks and comments; the flag tells whether it begins in a comment. -/
def skipBlanks : Bool → Chars → Chars
  | _, [] => []
  | true, c :: cs => skipBlanks (c != '\n') cs
  | false, c :: cs =>
      if Text.isBlank c then skipBlanks false cs
      else if c = '#' then skipBlanks true cs
      else c :: cs

namespace Mode

/-- The text after what stands for nothing in this mode. -/
def skip (mode : Mode) (cs : Chars) : Chars :=
  if mode.spaced then skipBlanks false cs else cs

/-- Whether what needs a table of characters can be used. -/
def isAscii (mode : Mode) : Bool :=
  !mode.unicode

end Mode

/-! ### Escapes -/

/-- What an escape stands for. -/
inductive Symbol where
  /-- One character; the flag tells whether it was given as the number of a byte. -/
  | char (c : Char) (asByte : Bool)
  /-- The digits, blanks or letters of words, or all characters but these. -/
  | shorthand (negated : Bool)
  /-- The beginning or the end of the text. -/
  | textEdge
  | wordEdge

/-- The hexadecimal number of `count` digits. -/
def hexNumber (mode : Mode) (acc : Nat) : Nat → Chars → Option (Nat × Chars)
  | 0, cs => some (acc, cs)
  | _ + 1, [] => none
  | count + 1, c :: cs =>
      (Json.hexValue? c).bind fun d => hexNumber mode (acc * 16 + d) count (mode.skip cs)

/-- The character with the number of `count` hexadecimal digits. -/
def hexSymbol (mode : Mode) (count : Nat) (cs : Chars) : Option (Symbol × Chars) :=
  (hexNumber mode 0 count (mode.skip cs)).bind fun (n, cs) =>
    if n.isValidChar then some (.char (Char.ofNat n) (count = 2), cs) else none

/-- The letters that stand for control characters after a backslash. -/
def controls : List (Char × Char) :=
  [('a', '\x07'), ('f', '\x0c'), ('t', '\t'), ('n', '\n'), ('r', '\r'), ('v', '\x0b')]

/-- What follows a backslash. -/
def escapeTail (mode : Mode) : Chars → Option (Symbol × Chars)
  | [] => none
  | c :: cs =>
      if c = 'x' then hexSymbol mode 2 cs
      else if c = 'u' then hexSymbol mode 4 cs
      else if c = 'U' then hexSymbol mode 8 cs
      else if c ∈ ['d', 's', 'w'] then some (.shorthand false, cs)
      else if c ∈ ['D', 'S', 'W'] then some (.shorthand true, cs)
      else if c ∈ ['A', 'z'] then some (.textEdge, cs)
      else if c ∈ ['b', 'B', '<', '>'] then some (.wordEdge, cs)
      else
        match controls.lookup c with
        | some control => some (.char control false, cs)
        | none =>
            if c.toNat < 128 && !c.isAlphanum then some (.char c false, cs) else none

/-- Whether a character outside a class stands for itself. -/
def Mode.takesChar (mode : Mode) (c : Char) (asByte : Bool) : Bool :=
  if mode.unicode then !mode.ignoreCase else !(asByte && 128 ≤ c.toNat)

/-- Whether what an escape stands for can be used outside a class. -/
def Mode.takes (mode : Mode) : Symbol → Bool
  | .char c asByte => mode.takesChar c asByte
  | .shorthand negated => mode.isAscii && !negated
  | .textEdge => true
  | .wordEdge => mode.isAscii

/-! ### Classes -/

/-- The names of the ASCII classes. -/
def asciiClasses : List String :=
  ["alnum", "alpha", "ascii", "blank", "cntrl", "digit", "graph", "lower", "print", "punct",
   "space", "upper", "word", "xdigit"]

/-- A named class after the bracket that opens it: whether it is negated, and the
rest. -/
def namedClass : Chars → Option (Bool × Chars)
  | ':' :: cs =>
      let (negated, cs) :=
        match cs with
        | '^' :: cs => (true, cs)
        | cs => (false, cs)
      match cs.dropWhile (· != ':') with
      | ':' :: ']' :: rest =>
          if String.ofList (cs.takeWhile (· != ':')) ∈ asciiClasses then some (negated, rest)
          else none
      | _ => none
  | _ => none

/-- A member of a class: a character or an escape. -/
def member (mode : Mode) : Chars → Option (Symbol × Chars)
  | [] => none
  | '\\' :: cs => escapeTail mode cs
  | c :: cs => some (.char c false, cs)

/-- Whether a character can be a member of a class. -/
def Mode.takesMember (mode : Mode) (c : Char) : Bool :=
  mode.unicode || c.toNat < 128

/-- A member of a class or a range of characters.  A minus sign before the end of the
class, or before another one, makes no range. -/
def classItem (mode : Mode) (cs : Chars) : Option Chars := do
  let (first, cs) ← member mode cs
  let single (rest : Chars) : Option Chars :=
    match first with
    | .char c _ => if mode.takesMember c then some rest else none
    | .shorthand negated => if mode.isAscii && !negated then some rest else none
    | _ => none
  match mode.skip cs with
  | '-' :: rest =>
      match mode.skip rest with
      | ']' :: _ => single ('-' :: rest)
      | '-' :: _ => single ('-' :: rest)
      | cs =>
          let (last, cs) ← member mode cs
          match first, last with
          | .char low _, .char high _ =>
              if low ≤ high && mode.takesMember low && mode.takesMember high then some cs
              else none
          | _, _ => none
  | rest => single rest

/-- The text after minus signs, at most `count` of them. -/
def dropMinus (mode : Mode) : Nat → Chars → Chars
  | count + 1, '-' :: cs => dropMinus mode count (mode.skip cs)
  | _, cs => cs

/-- The beginning of a class after its bracket.  A closing bracket or minus signs that
come first stand for themselves. -/
def classHead (mode : Mode) (cs : Chars) : Option Chars :=
  let (negated, cs) :=
    match mode.skip cs with
    | '^' :: cs => (true, mode.skip cs)
    | cs => (false, cs)
  if negated && mode.isAscii then none
  else
    match cs with
    | ']' :: cs => some (mode.skip cs)
    | cs => some (dropMinus mode cs.length cs)

/-- The rest of a class that lies in `depth` others, up to the end of the outermost;
`fuel` bounds the number of members. -/
def classTail (mode : Mode) : Nat → Nat → Chars → Option Chars
  | 0, _, _ => none
  | fuel + 1, depth, cs =>
      match mode.skip cs with
      | [] => none
      | ']' :: cs =>
          match depth with
          | 0 => some cs
          | depth + 1 => classTail mode fuel depth cs
      | '[' :: cs =>
          match namedClass cs with
          | some (negated, cs) =>
              if negated && mode.isAscii then none else classTail mode fuel depth cs
          | none => (classHead mode cs).bind (classTail mode fuel (depth + 1))
      | '&' :: '&' :: cs => classTail mode fuel depth cs
      | '-' :: '-' :: cs => classTail mode fuel depth cs
      | '~' :: '~' :: cs => classTail mode fuel depth cs
      | cs => (classItem mode cs).bind (classTail mode fuel depth)

/-- A class after its bracket. -/
def classRest (mode : Mode) (cs : Chars) : Option Chars :=
  if mode.unicode && mode.ignoreCase then none
  else (classHead mode cs).bind fun rest => classTail mode (rest.length + 1) 0 rest

/-! ### Groups -/

/-- What an opening parenthesis begins. -/
inductive Opening where
  /-- Nothing, but the mode changes for the rest of the group around it. -/
  | change (mode : Mode)
  | group (mode : Mode) (name : Option String)

/-- Switch what a flag stands for.  The other flags do not decide what is a pattern. -/
def Mode.set (mode : Mode) (on : Bool) (flag : Char) : Mode :=
  if flag = 'i' then { mode with ignoreCase := on }
  else if flag = 'u' then { mode with unicode := on }
  else if flag = 'x' then { mode with spaced := on }
  else mode

/-- The flags. -/
def allFlags : List Char := ['i', 'm', 's', 'U', 'u', 'R', 'x']

/-- Flags after the question mark: those before a minus sign are switched on and those
after it off.  None is given twice, and something follows the minus sign. -/
def flagged (mode : Mode) (cs : Chars) : Option Opening :=
  let signs := cs.takeWhile fun c => c != ':' && c != ')'
  let on := signs.takeWhile (· != '-')
  let off := signs.drop (on.length + 1)
  let mode := off.foldl (Mode.set · false) (on.foldl (Mode.set · true) mode)
  if (on ++ off).all (allFlags.contains ·) && (on ++ off).eraseDups.length == (on ++ off).length
      && signs.getLast? != some '-' then
    match cs.drop signs.length with
    | ':' :: _ => some (.group mode none)
    | ')' :: _ => if signs.isEmpty then none else some (.change mode)
    | _ => none
  else none

/-- Whether a text can be the name of a group. -/
def isGroupName : Chars → Bool
  | [] => false
  | c :: cs =>
      (c == '_' || Text.isAlphabetic c)
        && cs.all fun c => c ∈ ['_', '.', '[', ']'] || Text.isAlphanumeric c

/-- What an opening parenthesis begins, and the text after its head. -/
def groupHead (mode : Mode) (cs : Chars) : Option (Opening × Chars) :=
  let named (cs : Chars) : Option (Opening × Chars) :=
    let name := cs.takeWhile (· != '>')
    match cs.drop name.length with
    | '>' :: rest =>
        if isGroupName name then some (.group mode (some (String.ofList name)), rest) else none
    | _ => none
  match mode.skip cs with
  | '?' :: 'P' :: '<' :: cs => named cs
  | '?' :: '<' :: cs => named cs
  | '?' :: cs =>
      (flagged mode cs).map fun opening =>
        (opening, (cs.dropWhile fun c => c != ':' && c != ')').drop 1)
  | cs => some (.group mode none, cs)

/-! ### Patterns -/

/-- How far a pattern has been read. -/
structure Progress where
  mode : Mode := {}
  /-- The modes around the groups that are open, the innermost first. -/
  outer : List Mode := []
  names : List String := []
  /-- Whether something stands before that can be repeated. -/
  repeatable : Bool := false

/-- Something has been read that can be repeated. -/
def Progress.ready (p : Progress) : Progress :=
  { p with repeatable := true }

/-- An opening parenthesis; the name of a group is given once. -/
def Progress.enter? (p : Progress) : Opening → Option Progress
  | .change mode => some { p with mode, repeatable := false }
  | .group mode none => some { p with mode, outer := p.mode :: p.outer, repeatable := false }
  | .group mode (some name) =>
      if p.names.contains name then none
      else
        some
          { mode, outer := p.mode :: p.outer, names := name :: p.names, repeatable := false }

/-- A closing parenthesis; a group must be open. -/
def Progress.leave? (p : Progress) : Option Progress :=
  match p.outer with
  | [] => none
  | mode :: outer => some { p with mode, outer, repeatable := true }

/-- The text after a sign of repetition, which a question mark makes a modest one. -/
def dropModest : Chars → Chars
  | '?' :: cs => cs
  | cs => cs

/-- One part of a pattern, which is not at its end. -/
def part (p : Progress) : Chars → Option (Progress × Chars)
  | [] => none
  | '(' :: cs => do
      let (opening, cs) ← groupHead p.mode cs
      return (← p.enter? opening, cs)
  | ')' :: cs => p.leave?.map (·, cs)
  | '|' :: cs => some ({ p with repeatable := false }, cs)
  | '[' :: cs => (classRest p.mode cs).map (p.ready, ·)
  | '\\' :: cs => do
      let (symbol, cs) ← escapeTail p.mode cs
      if p.mode.takes symbol then some (p.ready, cs) else none
  | c :: cs =>
      if c ∈ ['?', '*', '+'] then if p.repeatable then some (p, dropModest cs) else none
      else if c = '\x7b' then none
      else if c = '.' then if p.mode.unicode then some (p.ready, cs) else none
      else if c = '^' || c = '$' then some (p.ready, cs)
      else if p.mode.takesChar c false then some (p.ready, cs)
      else none

/-- Whether the rest of a pattern is in order; `fuel` bounds the number of its parts. -/
def readsWithin : Nat → Progress → Chars → Bool
  | 0, _, _ => false
  | fuel + 1, p, cs =>
      match p.mode.skip cs with
      | [] => p.outer.isEmpty
      | cs =>
          match part p cs with
          | some (p, cs) => readsWithin fuel p cs
          | none => false

/-- Whether a text is a pattern.  Every part takes a character, so there are not more
parts than characters. -/
def reads (cs : Chars) : Bool :=
  readsWithin (cs.length + 1) {} cs

end Parley.Filter.Pattern
