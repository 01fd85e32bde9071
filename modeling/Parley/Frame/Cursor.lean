/-
# Reading a frame by positions

The reading of a frame told with a position that moves along it, as it is done where the
bytes lie in memory.  Here a byte outside the frame can be asked for, and then reading
comes to nothing at all, which is not a fault of the frame.  That this never happens is a
statement about the checks made on the way and not built in.
-/

import Parley.Frame.Codec

namespace Parley

namespace Frame

/-- A position in a frame. -/
structure Cursor where
  frame : Bytes
  position : Nat

/-- A reader that moves a position.  It comes to nothing when it asks for a byte outside
the frame. -/
abbrev CursorReader := StateT Cursor (ExceptT Fault Option)

namespace CursorReader

/-- A byte outside the frame was asked for. -/
def outside {α : Type} : CursorReader α :=
  fun _ => (none : Option (Except Fault (α × Cursor)))

/-- Number of bytes from the position to the end; there is no such number behind the
end. -/
def remaining : CursorReader Nat := do
  let c ← get
  if c.position ≤ c.frame.length then return c.frame.length - c.position
  else outside

/-- The next `count` bytes, whether they have been checked for or not. -/
def slice (count : Nat) : CursorReader Bytes := do
  let c ← get
  if c.position + count ≤ c.frame.length then
    set { c with position := c.position + count }
    return (c.frame.drop c.position).take count
  else outside

/-- Take `count` bytes. -/
def take (count : Nat) (section_ : String) : CursorReader Bytes := do
  let left ← remaining
  if left < count then throw (truncated section_ count left) else slice count

/-- Take a word. -/
def takeWord (section_ : String) : CursorReader Nat := do
  match ← take wordSize section_ with
  | a :: b :: c :: d :: _ => return ofWord a b c d
  | _ => outside

/-- Take text of a given length. -/
def takeText (count : Nat) (section_ : String) : CursorReader String := do
  let raw ← take count section_
  match Text.ofUtf8 raw with
  | .ok text => return text
  | .error e => throw (.malformed s!"Invalid UTF-8 in {section_}: {e.message}")

/-- Take `count` items one after the other. -/
def takeEach {α : Type} (item : CursorReader α) : Nat → CursorReader (List α)
  | 0 => return []
  | count + 1 => do
      let x ← item
      let xs ← takeEach item count
      return x :: xs

/-- Read a value after its length. -/
def takeValue : CursorReader (Option String) := do
  let length ← takeWord "property value length"
  if length = nullLength then return none
  else
    let text ← takeText length "property value"
    return some text

/-- Read a property. -/
def takeProperty : CursorReader (String × Option String) := do
  let length ← takeWord "property key"
  let key ← takeText length "property key"
  let value ← takeValue
  return (key, value)

/-- Read an attachment. -/
def takeAttachment : CursorReader Bytes := do
  let length ← takeWord "attachment length"
  take length "attachment"

/-- Read what follows the tag. -/
def takePayload : CursorReader (List (String × Option String) × List Bytes) := do
  let count ← takeWord "property count"
  let properties ← takeEach takeProperty count
  let count ← takeWord "attachment count"
  let attachments ← takeEach takeAttachment count
  let left ← remaining
  if left = 0 then return (properties, attachments)
  else throw (.malformed s!"{Decimal.natText left} trailing bytes after attachments")

end CursorReader

end Frame

namespace Codec

open Parley.Frame

/-- Read the message of a frame from the position on. -/
def readMessage (c : Codec) : CursorReader Message := do
  let length ← CursorReader.takeWord "length prefix"
  if c.maxFrameSize < length then throw (oversized length c.maxFrameSize)
  else
    let left ← CursorReader.remaining
    if length ≠ left then
      throw (.malformed (s!"Length prefix {Decimal.natText length} does not match "
        ++ s!"{Decimal.natText left} body bytes"))
    else
      let code ← CursorReader.takeWord "type tag"
      match c.registry.create code with
      | .error fault => throw fault
      | .ok template =>
          let (properties, attachments) ← CursorReader.takePayload
          return { template with
            bag := properties.foldl (fun b entry => b.insert entry.1 entry.2) template.bag
            attachments := template.attachments ++ attachments }

/-- The message of a frame, read by positions; nothing when a byte outside the frame was
asked for on the way. -/
def decodeAt (c : Codec) (frame : Bytes) : Option (Except Fault Message) :=
  let read : Option (Except Fault (Message × Cursor)) := c.readMessage.run ⟨frame, 0⟩
  read.map fun outcome => outcome.map Prod.fst

end Codec

end Parley
