/-
# Reading JSON

A reader takes the characters of a text and gives a value with the characters
left over, or nothing.  Values nest at most `maxDepth` deep.  A number keeps its
exact value while it is an integer of 64 bits; any other number is rounded on the
way, first to its leading digits that fit a word and then once more when the power
of ten is applied.
-/

import Parley.Decimal.Integer
import Parley.Json.Basic

namespace Parley.Json

/-- A reader of a leading part of a text. -/
abbrev Reader (α : Type) := List Char → Option (α × List Char)

/-- How deep arrays and objects may nest. -/
def maxDepth : Nat := 127

/-- The four characters that may stand between tokens. -/
def isSpace (c : Char) : Bool :=
  c == ' ' || c == '\n' || c == '\t' || c == '\r'

/-- Drop the space before a token. -/
def skipSpace (cs : List Char) : List Char :=
  cs.dropWhile isSpace

/-- Require a fixed character after optional space. -/
def expect (c : Char) (cs : List Char) : Option (List Char) :=
  match skipSpace cs with
  | d :: rest => if d = c then some rest else none
  | [] => none

/-- Require a fixed word. -/
def word : List Char → List Char → Option (List Char)
  | [], cs => some cs
  | w :: ws, c :: cs => if c = w then word ws cs else none
  | _ :: _, [] => none

/-! ### Strings -/

/-- The value of a hexadecimal digit of either case. -/
def hexValue? (c : Char) : Option Nat :=
  if '0' ≤ c ∧ c ≤ '9' then some (c.toNat - 48)
  else if 'a' ≤ c ∧ c ≤ 'f' then some (c.toNat - 87)
  else if 'A' ≤ c ∧ c ≤ 'F' then some (c.toNat - 55)
  else none

/-- Four hexadecimal digits. -/
def hexQuad : Reader Nat
  | a :: b :: c :: d :: rest => do
      let a ← hexValue? a
      let b ← hexValue? b
      let c ← hexValue? c
      let d ← hexValue? d
      some (((a * 16 + b) * 16 + c) * 16 + d, rest)
  | _ => none

/-- The character after `\u`.  A code unit of the upper surrogate range must be
followed by the escape of its lower half; a lower half alone stands for nothing. -/
def unicodeEscape (cs : List Char) : Option (Char × List Char) := do
  let (unit, rest) ← hexQuad cs
  if 0xDC00 ≤ unit ∧ unit ≤ 0xDFFF then none
  else if 0xD800 ≤ unit ∧ unit ≤ 0xDBFF then
    match rest with
    | '\\' :: 'u' :: rest =>
        let (low, rest) ← hexQuad rest
        if 0xDC00 ≤ low ∧ low ≤ 0xDFFF then
          some (Char.ofNat (0x10000 + (unit - 0xD800) * 0x400 + (low - 0xDC00)), rest)
        else none
    | _ => none
  else some (Char.ofNat unit, rest)

/-- The character that a one-letter escape stands for. -/
def simpleEscape? (c : Char) : Option Char :=
  if c = '"' then some '"'
  else if c = '\\' then some '\\'
  else if c = '/' then some '/'
  else if c = 'b' then some '\x08'
  else if c = 'f' then some '\x0c'
  else if c = 'n' then some '\n'
  else if c = 'r' then some '\r'
  else if c = 't' then some '\t'
  else none

/-- The rest of a string after its opening quote; `fuel` bounds the number of
characters read. -/
def stringBody : Nat → Reader (List Char)
  | 0, _ => none
  | _ + 1, [] => none
  | fuel + 1, c :: cs =>
      if c = '"' then some ([], cs)
      else if c = '\\' then
        match cs with
        | [] => none
        | 'u' :: cs =>
            (unicodeEscape cs).bind fun (c, rest) =>
              (stringBody fuel rest).map fun (tail, rest) => (c :: tail, rest)
        | e :: cs =>
            (simpleEscape? e).bind fun c =>
              (stringBody fuel cs).map fun (tail, rest) => (c :: tail, rest)
      else if c.toNat < 0x20 then none
      else (stringBody fuel cs).map fun (tail, rest) => (c :: tail, rest)

/-- A string after its opening quote. -/
def stringTail (cs : List Char) : Option (String × List Char) :=
  (stringBody (cs.length + 1) cs).map fun (body, rest) => (String.ofList body, rest)

/-! ### Numbers -/

/-- The largest significand kept while digits are read. -/
def maxSignificand : Nat := UInt64.size - 1

/-- What the digits of a number amount to: `significand * 10 ^ exponent`, where
`exact` says that no digit was dropped. -/
structure Digits where
  significand : Nat
  exponent : Int
  exact : Bool

/-- Read whole digits.  Once a digit no longer fits it and all later ones only
raise the exponent. -/
def wholeDigits (acc : Digits) : List Char → Digits × List Char
  | [] => (acc, [])
  | c :: cs =>
      match Decimal.digitValue? c with
      | none => (acc, c :: cs)
      | some d =>
          if acc.exact ∧ acc.significand * 10 + d ≤ maxSignificand then
            wholeDigits ⟨acc.significand * 10 + d, 0, true⟩ cs
          else wholeDigits ⟨acc.significand, acc.exponent + 1, false⟩ cs

/-- Read the digits of a fraction.  From the first that does not fit on, digits
are skipped. -/
def fractionDigits (full : Bool) (acc : Digits) : List Char → Digits × List Char
  | [] => (acc, [])
  | c :: cs =>
      match Decimal.digitValue? c with
      | none => (acc, c :: cs)
      | some d =>
          if full = false ∧ acc.significand * 10 + d ≤ maxSignificand then
            fractionDigits false ⟨acc.significand * 10 + d, acc.exponent - 1, false⟩ cs
          else fractionDigits true ⟨acc.significand, acc.exponent, false⟩ cs

/-- The leading digits of a text as a number. -/
def takeDigits (acc : Nat) : List Char → Nat × List Char
  | [] => (acc, [])
  | c :: cs =>
      match Decimal.digitValue? c with
      | none => (acc, c :: cs)
      | some d => takeDigits (acc * 10 + d) cs

/-- Whether a text starts with a digit. -/
def startsWithDigit : List Char → Bool
  | c :: _ => (Decimal.digitValue? c).isSome
  | [] => false

/-- The exponent after `e`: an optional sign and at least one digit. -/
def exponentDigits (cs : List Char) : Option (Int × List Char) :=
  let signed : Int × List Char :=
    match cs with
    | '+' :: cs => (1, cs)
    | '-' :: cs => (-1, cs)
    | cs => (1, cs)
  if startsWithDigit signed.2 then
    let (n, rest) := takeDigits 0 signed.2
    some (signed.1 * n, rest)
  else none

/-- The fraction that the digits amount to, `none` beyond the finite range. -/
def Digits.toReal (negative : Bool) (d : Digits) : Option Number := do
  let start ← Decimal.Magnitude.ofRatio d.significand 1
  let magnitude ← start.scaleTen d.exponent
  some (.real ⟨negative, magnitude⟩)

/-- The number of the digits when neither fraction nor exponent follows.  A
negative number below the least 64-bit integer is a fraction, and so is minus
zero. -/
def Digits.toNumber (negative : Bool) (d : Digits) : Option Number :=
  if d.exact then
    if negative then
      if d.significand = 0 ∨ -(d.significand : Int) < minInt then d.toReal true
      else some (.int (-(d.significand : Int)))
    else some (.int d.significand)
  else d.toReal negative

/-- The rest of a number after an exponent mark, or its end. -/
def exponentPart (negative : Bool) (d : Digits) (cs : List Char) (finish : Option Number) :
    Option (Number × List Char) :=
  let scaled (rest : List Char) : Option (Number × List Char) :=
    (exponentDigits rest).bind fun (e, rest) =>
      (Digits.toReal negative ⟨d.significand, d.exponent + e, false⟩).map (·, rest)
  match cs with
  | 'e' :: rest => scaled rest
  | 'E' :: rest => scaled rest
  | cs => finish.map (·, cs)

/-- The whole digits of a number.  No digit follows a leading zero. -/
def wholePart (cs : List Char) : Option (Digits × List Char) :=
  match cs with
  | '0' :: rest => if startsWithDigit rest then none else some (⟨0, 0, true⟩, rest)
  | cs => some (wholeDigits ⟨0, 0, true⟩ cs)

/-- The rest of a number after its whole digits. -/
def fractionPart (negative : Bool) (d : Digits) (cs : List Char) : Option (Number × List Char) :=
  match cs with
  | '.' :: rest =>
      if startsWithDigit rest then
        let (d, rest) := fractionDigits false d rest
        exponentPart negative d rest (d.toReal negative)
      else none
  | rest => exponentPart negative d rest (d.toNumber negative)

/-- An unsigned number. -/
def magnitude (negative : Bool) (cs : List Char) : Option (Number × List Char) :=
  if startsWithDigit cs then
    (wholePart cs).bind fun (d, rest) => fractionPart negative d rest
  else none

/-- A number with an optional minus sign. -/
def number : Reader Number
  | '-' :: cs => magnitude true cs
  | cs => magnitude false cs

/-! ### Arrays and objects -/

/-- The items of an array after the first, up to and with the closing bracket. -/
def moreItems {α : Type} (item : Reader α) : Nat → Reader (List α)
  | 0, _ => none
  | fuel + 1, cs =>
      match skipSpace cs with
      | ']' :: rest => some ([], rest)
      | ',' :: rest =>
          (item rest).bind fun (x, rest) =>
            (moreItems item fuel rest).map fun (xs, rest) => (x :: xs, rest)
      | _ => none

/-- An array after its opening bracket. -/
def itemsTail {α : Type} (item : Reader α) (cs : List Char) : Option (List α × List Char) :=
  match skipSpace cs with
  | ']' :: rest => some ([], rest)
  | _ =>
      (item cs).bind fun (x, rest) =>
        (moreItems item (rest.length + 1) rest).map fun (xs, rest) => (x :: xs, rest)

/-- A key with its colon and what follows it; `item` is told the key. -/
def fieldOf {α : Type} (item : String → Reader α) (cs : List Char) :
    Option ((String × α) × List Char) := do
  let rest ← expect '"' cs
  let (key, rest) ← stringTail rest
  let rest ← expect ':' rest
  let (value, rest) ← item key rest
  some ((key, value), rest)

/-- The fields of an object after the first, up to and with the closing brace. -/
def moreFields {α : Type} (item : String → Reader α) : Nat → Reader (List (String × α))
  | 0, _ => none
  | fuel + 1, cs =>
      match skipSpace cs with
      | '\x7d' :: rest => some ([], rest)
      | ',' :: rest =>
          (fieldOf item rest).bind fun (x, rest) =>
            (moreFields item fuel rest).map fun (xs, rest) => (x :: xs, rest)
      | _ => none

/-- An object after its opening brace. -/
def fieldsTail {α : Type} (item : String → Reader α) (cs : List Char) :
    Option (List (String × α) × List Char) :=
  match skipSpace cs with
  | '\x7d' :: rest => some ([], rest)
  | _ =>
      (fieldOf item cs).bind fun (x, rest) =>
        (moreFields item (rest.length + 1) rest).map fun (xs, rest) => (x :: xs, rest)

/-- A value that is neither array nor object. -/
def scalar : Reader Json
  | 'n' :: cs => (word ['u', 'l', 'l'] cs).map (Json.null, ·)
  | 't' :: cs => (word ['r', 'u', 'e'] cs).map (Json.bool true, ·)
  | 'f' :: cs => (word ['a', 'l', 's', 'e'] cs).map (Json.bool false, ·)
  | '"' :: cs => (stringTail cs).map fun (s, rest) => (Json.str s, rest)
  | cs => (number cs).map fun (n, rest) => (Json.num n, rest)

/-- A value in which arrays and objects nest at most `depth` deep. -/
def value : Nat → Reader Json
  | 0, cs =>
      match skipSpace cs with
      | '[' :: _ => none
      | '\x7b' :: _ => none
      | cs => scalar cs
  | depth + 1, cs =>
      match skipSpace cs with
      | '[' :: rest =>
          (itemsTail (value depth) rest).map fun (items, rest) => (Json.arr items, rest)
      | '\x7b' :: rest =>
          (fieldsTail (fun _ => value depth) rest).map fun (fields, rest) =>
            (Json.obj (ofFields fields), rest)
      | cs => scalar cs

/-- What a reader makes of a whole text: only space may follow. -/
def whole {α : Type} (reader : Reader α) (text : String) : Option α :=
  match reader text.toList with
  | some (x, rest) => if (skipSpace rest).isEmpty then some x else none
  | none => none

/-- The document of a text. -/
def parse (text : String) : Option Json :=
  whole (value maxDepth) text

/-! ### Values that are passed over -/

/-- Pass over a string after its opening quote.  Escapes must have the right
letters, but need not stand for characters. -/
def skipString : Nat → List Char → Option (List Char)
  | 0, _ => none
  | _ + 1, [] => none
  | fuel + 1, c :: cs =>
      if c = '"' then some cs
      else if c = '\\' then
        match cs with
        | [] => none
        | 'u' :: cs => (hexQuad cs).bind fun (_, rest) => skipString fuel rest
        | e :: cs => (simpleEscape? e).bind fun _ => skipString fuel cs
      else if c.toNat < 0x20 then none
      else skipString fuel cs

/-- Pass over a number; its size does not matter. -/
def skipNumber (cs : List Char) : Option (List Char) :=
  let unsigned :=
    match cs with
    | '-' :: cs => cs
    | cs => cs
  let whole : Option (List Char) :=
    match unsigned with
    | '0' :: rest => if startsWithDigit rest then none else some rest
    | cs => if startsWithDigit cs then some (takeDigits 0 cs).2 else none
  let fraction : Option (List Char) :=
    whole.bind fun
      | '.' :: rest => if startsWithDigit rest then some (takeDigits 0 rest).2 else none
      | rest => some rest
  fraction.bind fun
    | 'e' :: rest => (exponentDigits rest).map (·.2)
    | 'E' :: rest => (exponentDigits rest).map (·.2)
    | rest => some rest

/-- Pass over a value that is neither array nor object. -/
def skipScalar : List Char → Option (List Char)
  | 'n' :: cs => word ['u', 'l', 'l'] cs
  | 't' :: cs => word ['r', 'u', 'e'] cs
  | 'f' :: cs => word ['a', 'l', 's', 'e'] cs
  | '"' :: cs => skipString (cs.length + 1) cs
  | cs => skipNumber cs

/-- Pass over a key with its colon. -/
def skipKey (cs : List Char) : Option (List Char) := do
  let rest ← expect '"' cs
  let rest ← skipString (rest.length + 1) rest
  expect ':' rest

/-- Pass over the values still owed.  `open_` lists the enclosing arrays (`false`)
and objects (`true`), innermost first; `before` says whether a value comes next or
has just ended.  There is no bound on the nesting. -/
def skipNested : Nat → Bool → List Bool → List Char → Option (List Char)
  | 0, _, _, _ => none
  | fuel + 1, true, open_, cs =>
      match skipSpace cs with
      | '[' :: rest =>
          match skipSpace rest with
          | ']' :: rest => skipNested fuel false open_ rest
          | rest => skipNested fuel true (false :: open_) rest
      | '\x7b' :: rest =>
          match skipSpace rest with
          | '\x7d' :: rest => skipNested fuel false open_ rest
          | rest => (skipKey rest).bind fun rest => skipNested fuel true (true :: open_) rest
      | cs => (skipScalar cs).bind fun rest => skipNested fuel false open_ rest
  | _ + 1, false, [], cs => some cs
  | fuel + 1, false, isObject :: open_, cs =>
      match skipSpace cs with
      | ',' :: rest =>
          if isObject then (skipKey rest).bind fun rest => skipNested fuel true (true :: open_) rest
          else skipNested fuel true (false :: open_) rest
      | ']' :: rest => if isObject then none else skipNested fuel false open_ rest
      | '\x7d' :: rest => if isObject then skipNested fuel false open_ rest else none
      | _ => none

/-- Pass over one value. -/
def skip (cs : List Char) : Option (List Char) :=
  skipNested (2 * cs.length + 2) true [] cs

/-! ### Records -/

/-- A record of the fields `keys`, each with its value if it is given.  The text is
an object, in which other keys are passed over and none of `keys` may come twice,
or an array of values in the order of `keys`, shorter perhaps but not longer. -/
def record (keys : List String) (text : String) : Option (List (Option Json)) :=
  whole body text
where
  /-- A value of a known key is kept, any other is passed over. -/
  fieldValue (key : String) (cs : List Char) : Option (Option Json × List Char) :=
    if keys.contains key then (value (maxDepth - 1) cs).map fun (v, rest) => (some v, rest)
    else (skip cs).map (none, ·)
  /-- The values in the order of `keys`, unless a key comes twice. -/
  align (fields : List (String × Option Json)) : Option (List (Option Json)) :=
    keys.mapM fun key =>
      match fields.filter fun field => field.1 == key with
      | [] => some none
      | [(_, v)] => some v
      | _ => none
  /-- The object or array that makes up the text. -/
  body (cs : List Char) : Option (List (Option Json) × List Char) :=
    match skipSpace cs with
    | '\x7b' :: rest =>
        (fieldsTail fieldValue rest).bind fun (fields, rest) => (align fields).map (·, rest)
    | '[' :: rest =>
        (itemsTail (value (maxDepth - 1)) rest).bind fun (items, rest) =>
          if items.length ≤ keys.length then
            some (items.map some ++ List.replicate (keys.length - items.length) none, rest)
          else none
    | _ => none

/-- The fields of an object whose values are any documents; the last of several
values of one key counts. -/
def object (text : String) : Option (List (String × Json)) :=
  match parse text with
  | some (.obj fields) => some fields
  | _ => none

end Parley.Json
