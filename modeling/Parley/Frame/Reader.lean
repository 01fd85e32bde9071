/-
# Reading a frame

A reader takes bytes from the front of what is left of a frame.  Nothing is read
beyond the end: a length that asks for more than is left is a fault that names the
part being read.
-/

import Parley.Fault
import Parley.Frame.Word
import Parley.Text.Utf8

namespace Parley.Frame

/-- A reader of the front of some bytes. -/
abbrev Reader (α : Type) := Bytes → Except Fault (α × Bytes)

/-- The fault of a part that is longer than what is left. -/
def truncated (section_ : String) (need left : Nat) : Fault :=
  .malformed
    s!"Truncated {section_}: need {Decimal.natText need} bytes, {Decimal.natText left} left"

/-- Take `count` bytes. -/
def take (count : Nat) (section_ : String) : Reader Bytes := fun bytes =>
  if bytes.length < count then .error (truncated section_ count bytes.length)
  else .ok (bytes.take count, bytes.drop count)

/-- Take a word. -/
def takeWord (section_ : String) : Reader Nat
  | a :: b :: c :: d :: rest => .ok (ofWord a b c d, rest)
  | bytes => .error (truncated section_ wordSize bytes.length)

/-- Take text of a given length. -/
def takeText (count : Nat) (section_ : String) : Reader String := fun bytes => do
  let (raw, rest) ← take count section_ bytes
  match Text.ofUtf8 raw with
  | .ok text => .ok (text, rest)
  | .error e => .error (.malformed s!"Invalid UTF-8 in {section_}: {e.message}")

/-- Take `count` items one after the other. -/
def takeEach {α : Type} (item : Reader α) : Nat → Reader (List α)
  | 0, bytes => .ok ([], bytes)
  | count + 1, bytes => do
      let (x, rest) ← item bytes
      let (xs, rest) ← takeEach item count rest
      .ok (x :: xs, rest)

end Parley.Frame
