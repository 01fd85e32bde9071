/-
# Frames of messages

A frame is a length followed by a body of that length.  The body holds the tag,
the properties and the attachments:

    [length][tag][number of properties]
        [key length][key][value length][value] ...
    [number of attachments]
        [length][attachment] ...

All numbers are 32-bit words.  The length of an absent value is the largest word,
which is therefore no length of anything else.  Properties are written in
ascending order of their keys, so a message has one frame; they are read in any
order, and the last of several values of a key counts.
-/

import Parley.Frame.Reader
import Parley.Registry

namespace Parley

namespace Frame

/-- The largest frame body that is ever accepted. -/
def maxFrameSize : Nat := 16 * 1024 * 1024

/-- The length that stands for an absent value. -/
def nullLength : Nat := wordLimit - 1

/-- The fault of a body that is larger than allowed. -/
def oversized (size limit : Nat) : Fault :=
  .malformed s!"Frame size {Decimal.natText size} exceeds maximum {Decimal.natText limit}"

/-- A length as a word; the largest word is taken. -/
def lengthWord (length : Nat) (section_ : String) : Except Fault Bytes :=
  if length < nullLength then .ok (word length)
  else .error (.malformed s!"{section_} too large for u32 length")

/-- Bytes after their length. -/
def sized (bytes : Bytes) (section_ : String) : Except Fault Bytes :=
  (lengthWord bytes.length section_).map (· ++ bytes)

/-- A value after its length, which tells an absent value. -/
def valueBytes : Option String → Except Fault Bytes
  | none => .ok (word nullLength)
  | some text => sized (Text.utf8 text) "property value"

/-- A property: its key and its value. -/
def propertyBytes (entry : String × Option String) : Except Fault Bytes := do
  let key ← sized (Text.utf8 entry.1) "property key"
  let value ← valueBytes entry.2
  return key ++ value

/-- The bytes of items one after the other. -/
def eachBytes {α : Type} (item : α → Except Fault Bytes) : List α → Except Fault Bytes
  | [] => .ok []
  | x :: xs => do
      let first ← item x
      let rest ← eachBytes item xs
      return first ++ rest

/-- A list of items after their number. -/
def counted {α : Type} (item : α → Except Fault Bytes) (section_ : String) (xs : List α) :
    Except Fault Bytes := do
  let count ← lengthWord xs.length section_
  let items ← eachBytes item xs
  return count ++ items

/-- The body of the frame of a message. -/
def body (m : Message) : Except Fault Bytes := do
  let properties ← counted propertyBytes "property count" m.bag.entries
  let attachments ← counted (sized · "attachment") "attachment count" m.attachments
  return word m.tag.code ++ properties ++ attachments

/-- Read a value after its length. -/
def takeValue : Reader (Option String) := fun bytes => do
  let (length, rest) ← takeWord "property value length" bytes
  if length = nullLength then .ok (none, rest)
  else
    let (text, rest) ← takeText length "property value" rest
    .ok (some text, rest)

/-- Read a property. -/
def takeProperty : Reader (String × Option String) := fun bytes => do
  let (length, rest) ← takeWord "property key" bytes
  let (key, rest) ← takeText length "property key" rest
  let (value, rest) ← takeValue rest
  .ok ((key, value), rest)

/-- Read an attachment. -/
def takeAttachment : Reader Bytes := fun bytes => do
  let (length, rest) ← takeWord "attachment length" bytes
  take length "attachment" rest

/-- Read what follows the tag: the properties, then the attachments, then
nothing. -/
def takePayload (bytes : Bytes) :
    Except Fault (List (String × Option String) × List Bytes) := do
  let (count, rest) ← takeWord "property count" bytes
  let (properties, rest) ← takeEach takeProperty count rest
  let (count, rest) ← takeWord "attachment count" rest
  let (attachments, rest) ← takeEach takeAttachment count rest
  if rest.isEmpty then .ok (properties, attachments)
  else .error (.malformed
    s!"{Decimal.natText rest.length} trailing bytes after attachments")

end Frame

/-- What encodes and decodes: a registry and the largest body allowed, which is never
larger than the format allows. -/
structure Codec where
  registry : Registry
  maxFrameSize : Nat
  maxFrameSize_le : maxFrameSize ≤ Frame.maxFrameSize

namespace Codec

/-- A codec whose bodies are at most `size` bytes, and never more than the format
allows. -/
def withMaxFrameSize (registry : Registry) (size : Nat) : Codec :=
  ⟨registry, min size Frame.maxFrameSize, Nat.min_le_right _ _⟩

/-- A codec with the bound of the format. -/
def new (registry : Registry) : Codec :=
  withMaxFrameSize registry Frame.maxFrameSize

/-- The codec of every known exchange. -/
def standard : Codec :=
  new Registry.standard

/-- Lower the bound. -/
def limitedTo (c : Codec) (size : Nat) : Codec :=
  ⟨c.registry, min c.maxFrameSize size,
    Nat.le_trans (Nat.min_le_left _ _) c.maxFrameSize_le⟩

/-- The frame of a message. -/
def encode (c : Codec) (m : Message) : Except Fault Frame.Bytes := do
  let body ← Frame.body m
  if c.maxFrameSize < body.length then
    .error (Frame.oversized body.length c.maxFrameSize)
  else return (← Frame.lengthWord body.length "frame") ++ body

/-- The message of a frame.  The registry supplies the message that the properties
and attachments of the frame are added to. -/
def decode (c : Codec) (frame : Frame.Bytes) : Except Fault Message := do
  let (length, rest) ← Frame.takeWord "length prefix" frame
  if c.maxFrameSize < length then .error (Frame.oversized length c.maxFrameSize)
  else if length ≠ rest.length then
    .error (.malformed (s!"Length prefix {Decimal.natText length} does not match "
      ++ s!"{Decimal.natText rest.length} body bytes"))
  else
    let (code, rest) ← Frame.takeWord "type tag" rest
    let template ← c.registry.create code
    let (properties, attachments) ← Frame.takePayload rest
    return { template with
      bag := properties.foldl (fun b entry => b.insert entry.1 entry.2) template.bag
      attachments := template.attachments ++ attachments }

end Codec

end Parley
