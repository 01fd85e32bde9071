/-
# Blank characters

A blank is a character with the Unicode property `White_Space`.  Values of
properties are trimmed with this set before they are read as numbers, so the set
is larger than the six ASCII blanks that core's `Char.isWhitespace` knows.
-/

import Parley.Text.Ranges

namespace Parley.Text

/-- The code points with the property `White_Space`, as closed ranges in
ascending order. -/
def blankRanges : List (Nat × Nat) :=
  [(0x09, 0x0D), (0x20, 0x20), (0x85, 0x85), (0xA0, 0xA0), (0x1680, 0x1680),
   (0x2000, 0x200A), (0x2028, 0x2029), (0x202F, 0x202F), (0x205F, 0x205F), (0x3000, 0x3000)]

/-- Membership in `blankRanges`. -/
def isBlank (c : Char) : Bool :=
  inRanges blankRanges c

/-- Drop the blanks at the start. -/
def trimStart (cs : List Char) : List Char :=
  cs.dropWhile isBlank

/-- Drop the blanks at the end. -/
def trimEnd (cs : List Char) : List Char :=
  (cs.reverse.dropWhile isBlank).reverse

/-- Drop the blanks on both sides. -/
def trim (cs : List Char) : List Char :=
  trimEnd (trimStart cs)

/-- `cs` is `core` with nothing around it but characters of the class `blank`. -/
def Padded (blank : Char → Bool) (core cs : List Char) : Prop :=
  ∃ before after, cs = before ++ core ++ after ∧
    (∀ c ∈ before, blank c = true) ∧ ∀ c ∈ after, blank c = true

/-- A text with no blank at either end is its own trimmed form. -/
theorem trim_eq_self {cs : List Char} (first : ∀ c ∈ cs.head?, isBlank c = false)
    (last : ∀ c ∈ cs.getLast?, isBlank c = false) : trim cs = cs := by
  have start : trimStart cs = cs := by
    cases cs with
    | nil => rfl
    | cons c rest => simp [trimStart, first c (by simp)]
  rw [trim, start, trimEnd]
  cases reversed : cs.reverse with
  | nil => simpa using reversed.symm
  | cons c rest =>
    have hcs : cs = rest.reverse ++ [c] := by
      have := congrArg List.reverse reversed
      simpa using this
    have hlast : isBlank c = false := last c (by simp [hcs])
    simp [hlast, hcs]

end Parley.Text
