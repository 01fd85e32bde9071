/-
# Scalars of TOML

Texts in four kinds of quotes, numbers, and dates with times.  A reader takes its
part off the front of the characters, or fails.
-/

import Parley.Decimal.Extended
import Parley.Json.Reader
import Parley.Toml.Node

namespace Parley.Toml

/-- What is left of a document. -/
abbrev Chars := List Char

/-- A reader of the front of a document. -/
abbrev Reader (α : Type) := Chars → Option (α × Chars)

/-- A blank within a line. -/
def isSpace (c : Char) : Bool :=
  c == ' ' || c == '\t'

/-- A character that may stand in a comment or in a text: no control character but
the tabulator. -/
def isPrintable (c : Char) : Bool :=
  c == '\t' || (' ' ≤ c && c ≤ '~') || '\x7f' < c

/-- Skip blanks within a line. -/
def skipSpaces (cs : Chars) : Chars :=
  cs.dropWhile isSpace

/-- Take the end of a line. -/
def newline : Reader Unit
  | '\n' :: rest => some ((), rest)
  | '\r' :: '\n' :: rest => some ((), rest)
  | _ => none

/-- Take a fixed text. -/
def keyword (word : String) : Reader Unit := fun cs =>
  if word.toList.isPrefixOf cs then some ((), cs.drop word.length) else none

/-! ### Texts -/

/-- The value of `count` hexadecimal digits. -/
def hexCode : Nat → Nat → Reader Nat
  | 0, acc, cs => some (acc, cs)
  | count + 1, acc, c :: cs => (Json.hexValue? c).bind fun d => hexCode count (16 * acc + d) cs
  | _ + 1, _, [] => none

/-- The character with a code, if there is one. -/
def charOfCode? (code : Nat) : Option Char :=
  if code.isValidChar then some (Char.ofNat code) else none

/-- The character that an escape stands for; the backslash is already taken. -/
def escape : Reader Char
  | 'b' :: cs => some ('\x08', cs)
  | 't' :: cs => some ('\t', cs)
  | 'n' :: cs => some ('\n', cs)
  | 'f' :: cs => some ('\x0c', cs)
  | 'r' :: cs => some ('\r', cs)
  | '"' :: cs => some ('"', cs)
  | '\\' :: cs => some ('\\', cs)
  | 'u' :: cs => do
      let (code, cs) ← hexCode 4 0 cs
      return (← charOfCode? code, cs)
  | 'U' :: cs => do
      let (code, cs) ← hexCode 8 0 cs
      return (← charOfCode? code, cs)
  | _ => none

/-- The rest of a text on one line; `escapes` says whether a backslash is one. -/
def lineText (quote : Char) (escapes : Bool) : Nat → Reader Chars
  | 0, _ => none
  | _, [] => none
  | fuel + 1, c :: cs =>
      if c = quote then some ([], cs)
      else if escapes && c = '\\' then do
        let (c, cs) ← escape cs
        let (text, cs) ← lineText quote escapes fuel cs
        return (c :: text, cs)
      else if isPrintable c then do
        let (text, cs) ← lineText quote escapes fuel cs
        return (c :: text, cs)
      else none

/-- Whether a backslash with what follows joins two lines. -/
def joinsLines (cs : Chars) : Bool :=
  (newline (skipSpaces cs)).isSome

/-- Skip blanks and ends of lines. -/
def skipLines : Nat → Chars → Chars
  | 0, cs => cs
  | fuel + 1, cs =>
      let cs := skipSpaces cs
      match newline cs with
      | some (_, rest) => skipLines fuel rest
      | none => cs

/-- The rest of a text over several lines.  It ends at three quotes; up to two more
right before them belong to the text. -/
def linesText (quote : Char) (escapes : Bool) : Nat → Reader Chars
  | 0, _ => none
  | _, [] => none
  | fuel + 1, c :: cs =>
      let goOn (head : Chars) (cs : Chars) : Option (Chars × Chars) := do
        let (text, cs) ← linesText quote escapes fuel cs
        return (head ++ text, cs)
      if c = quote then
        let run := ((c :: cs).takeWhile (· == quote)).length
        if run < 3 then goOn (List.replicate run quote) ((c :: cs).drop run)
        else some (List.replicate (min (run - 3) 2) quote, (c :: cs).drop (min run 5))
      else if escapes && c = '\\' then
        if joinsLines cs then goOn [] (skipLines cs.length cs)
        else do
          let (c, cs) ← escape cs
          goOn [c] cs
      else if isPrintable c then goOn [c] cs
      else
        match newline (c :: cs) with
        | some (_, cs) => goOn ['\n'] cs
        | none => none

/-- A text in any quotes.  The end of a line right after three quotes is left out. -/
def text : Reader String := fun cs =>
  let lines (quote : Char) (escapes : Bool) (cs : Chars) : Option (String × Chars) := do
    let cs := match newline cs with
      | some (_, cs) => cs
      | none => cs
    let (text, cs) ← linesText quote escapes (cs.length + 1) cs
    return (String.ofList text, cs)
  let line (quote : Char) (escapes : Bool) (cs : Chars) : Option (String × Chars) := do
    let (text, cs) ← lineText quote escapes (cs.length + 1) cs
    return (String.ofList text, cs)
  match cs with
  | '"' :: '"' :: '"' :: cs => lines '"' true cs
  | '\'' :: '\'' :: '\'' :: cs => lines '\'' false cs
  | '"' :: cs => line '"' true cs
  | '\'' :: cs => line '\'' false cs
  | _ => none

/-! ### Numbers -/

/-- The values of digits to a base; single underscores may stand between digits. -/
def digits (digit? : Char → Option Nat) : Nat → Reader (List Nat)
  | 0, _ => none
  | _, [] => none
  | fuel + 1, c :: cs => do
      let d ← digit? c
      match cs with
      | '_' :: next => do
          let (ds, cs) ← digits digit? fuel next
          return (d :: ds, cs)
      | next :: _ =>
          if (digit? next).isSome then do
            let (ds, cs) ← digits digit? fuel cs
            return (d :: ds, cs)
          else return ([d], cs)
      | [] => return ([d], [])

/-- The number with these digits. -/
def ofDigits (base : Nat) (ds : List Nat) : Nat :=
  ds.foldl (fun acc d => base * acc + d) 0

/-- Decimal digits. -/
def decimalDigits : Reader (List Nat) := fun cs =>
  digits Decimal.digitValue? cs.length cs

/-- Decimal digits of an integer: zero stands alone. -/
def wholeDigits : Reader (List Nat)
  | '0' :: cs => some ([0], cs)
  | cs => decimalDigits cs

/-- Whether there is a minus sign, and the rest after the sign. -/
def sign : Chars → Bool × Chars
  | '+' :: cs => (false, cs)
  | '-' :: cs => (true, cs)
  | cs => (false, cs)

/-- A digit to a base of at most ten. -/
def digitBelow (base : Nat) (c : Char) : Option Nat :=
  (Decimal.digitValue? c).filter (· < base)

/-- An integer that fits 64 bits. -/
def fitInteger (value : Int) : Option Node :=
  if Int64.minValue.toInt ≤ value ∧ value ≤ Int64.maxValue.toInt then some (.integer value) else none

/-- An integer, in base ten or with a mark for another base. -/
def integer : Reader Node := fun cs =>
  let marked (base : Nat) (digit? : Char → Option Nat) (cs : Chars) : Option (Node × Chars) := do
    let (ds, cs) ← digits digit? cs.length cs
    return (← fitInteger (ofDigits base ds), cs)
  match cs with
  | '0' :: 'x' :: cs => marked 16 Json.hexValue? cs
  | '0' :: 'o' :: cs => marked 8 (digitBelow 8) cs
  | '0' :: 'b' :: cs => marked 2 (digitBelow 2) cs
  | cs => do
      let (negative, cs) := sign cs
      let (ds, cs) ← wholeDigits cs
      let value : Int := ofDigits 10 ds
      return (← fitInteger (if negative then -value else value), cs)

/-- An exponent. -/
def exponent : Reader Int
  | c :: cs =>
      if c = 'e' ∨ c = 'E' then do
        let (negative, cs) := sign cs
        let (ds, cs) ← decimalDigits cs
        let value : Int := ofDigits 10 ds
        return (if negative then -value else value, cs)
      else none
  | [] => none

/-- Whether `mantissa * 10 ^ exponent` rounds to a finite number. -/
def isFinite (mantissa : Nat) (exponent : Int) : Bool :=
  (Decimal.Magnitude.nearest? mantissa exponent).isSome

/-- A number with a fraction, an exponent or both, or one that is not finite.  A number
too large is refused when it is positive. -/
def real : Reader Node := fun cs =>
  let (negative, unsigned) := sign cs
  let finite (ds fraction : List Nat) (exponent : Int) (cs : Chars) : Option (Node × Chars) :=
    if negative || isFinite (ofDigits 10 (ds ++ fraction)) (exponent - fraction.length) then
      some (.real, cs)
    else none
  let literal : Option (Node × Chars) := do
    let (ds, cs) ← wholeDigits unsigned
    match cs with
    | '.' :: cs => do
        let (fraction, cs) ← decimalDigits cs
        match cs with
        | c :: _ =>
            if c = 'e' ∨ c = 'E' then do
              let (exponent, cs) ← exponent cs
              finite ds fraction exponent cs
            else finite ds fraction 0 cs
        | [] => finite ds fraction 0 cs
    | cs => do
        let (exponent, cs) ← exponent cs
        finite ds [] exponent cs
  let special (word : String) : Option (Node × Chars) :=
    (keyword word unsigned).map fun (_, cs) => (.real, cs)
  literal <|> special "inf" <|> special "nan"

/-! ### Dates and times -/

/-- A number of exactly `count` digits. -/
def fixedDigits (count : Nat) : Reader Nat := fun cs =>
  let ds := (cs.take count).filterMap Decimal.digitValue?
  if ds.length = count then some (ofDigits 10 ds, cs.drop count) else none

/-- A number of two digits between two bounds. -/
def pair (low high : Nat) : Reader Nat := fun cs => do
  let (value, cs) ← fixedDigits 2 cs
  if low ≤ value ∧ value ≤ high then return (value, cs) else none

/-- Number of days of a month. -/
def daysOf (year month : Nat) : Nat :=
  let leap := decide (year % 4 = 0) && (decide (year % 100 ≠ 0) || decide (year % 400 = 0))
  if month = 2 then (if leap then 29 else 28)
  else if month = 4 ∨ month = 6 ∨ month = 9 ∨ month = 11 then 30
  else 31

/-- A date. -/
def date : Reader Unit := fun cs => do
  let (year, cs) ← fixedDigits 4 cs
  let (_, cs) ← keyword "-" cs
  let (month, cs) ← pair 1 12 cs
  let (_, cs) ← keyword "-" cs
  let (_, cs) ← pair 1 (daysOf year month) cs
  return ((), cs)

/-- A time of day. -/
def timeOfDay : Reader Unit := fun cs => do
  let (_, cs) ← pair 0 23 cs
  let (_, cs) ← keyword ":" cs
  let (_, cs) ← pair 0 59 cs
  let (_, cs) ← keyword ":" cs
  let (_, cs) ← pair 0 60 cs
  match cs with
  | '.' :: c :: rest =>
      if (Decimal.digitValue? c).isSome then
        return ((), rest.dropWhile fun c => (Decimal.digitValue? c).isSome)
      else none
  | '.' :: [] => none
  | cs => return ((), cs)

/-- The distance from universal time, if it is given. -/
def offset : Reader Unit
  | 'Z' :: cs => some ((), cs)
  | 'z' :: cs => some ((), cs)
  | c :: cs =>
      if c = '+' ∨ c = '-' then do
        let (_, cs) ← pair 0 23 cs
        let (_, cs) ← keyword ":" cs
        let (_, cs) ← pair 0 59 cs
        return ((), cs)
      else some ((), c :: cs)
  | [] => some ((), [])

/-- A date, a date with a time, or a time. -/
def moment : Reader Node := fun cs =>
  let dated : Option (Node × Chars) := do
    let (_, cs) ← date cs
    let timed : Option (Node × Chars) :=
      match cs with
      | c :: rest =>
          if c = 'T' ∨ c = 't' ∨ c = ' ' then do
            let (_, rest) ← timeOfDay rest
            let (_, rest) ← offset rest
            return (.moment, rest)
          else none
      | [] => none
    timed <|> some (.moment, cs)
  dated <|> (timeOfDay cs).map fun (_, cs) => (.moment, cs)

end Parley.Toml
