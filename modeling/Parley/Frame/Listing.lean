/-
# Contents in no order

A bag keeps its properties in the order of their keys.  A table that hashes its keys keeps
them in no order at all and lists them as it pleases, each key once.  This module says what
a message holds without an order: for every key its state, beside the tag and the
attachments.  A change of a message is then a change of these contents, and what counts of
a history of changes is where it leads.

A frame is written from a listing of the properties after they have been brought into the
order of the bytes of their keys.
-/

import Parley.Frame.Codec

namespace Parley

open Parley.Frame (Bytes)

/-- A change of what a message holds. -/
inductive Edit where
  /-- Give a property a state, whatever its state was. -/
  | insert (key : String) (value : Option String)
  /-- Make a property absent. -/
  | erase (key : String)
  /-- Add an attachment behind the others. -/
  | push (bytes : Bytes)
  /-- Replace all attachments. -/
  | attach (attachments : List Bytes)
  /-- Change the tag. -/
  | retag (tag : Tag)

/-- What a message holds. -/
@[ext]
structure Contents where
  tag : Tag
  /-- The state of a property: absent, without a value, or with one. -/
  state : String → Option (Option String)
  attachments : List Bytes

namespace Contents

/-- What is held after a change. -/
def edit (held : Contents) : Edit → Contents
  | .insert key value =>
      { held with state := fun other => if other = key then some value else held.state other }
  | .erase key =>
      { held with state := fun other => if other = key then none else held.state other }
  | .push bytes => { held with attachments := held.attachments ++ [bytes] }
  | .attach attachments => { held with attachments }
  | .retag tag => { held with tag }

/-- What is held after some changes. -/
def editAll (held : Contents) (edits : List Edit) : Contents :=
  edits.foldl edit held

/-- A listing of the properties: each that is present once, in any order. -/
structure ListedAs (held : Contents) (listed : List (String × Option String)) : Prop where
  nodup : (listed.map Prod.fst).Nodup
  mem_iff : ∀ key value, (key, value) ∈ listed ↔ held.state key = some value

end Contents

namespace Message

/-- What a message holds. -/
def contents (m : Message) : Contents where
  tag := m.tag
  state := m.bag.get?
  attachments := m.attachments

/-- A message after a change. -/
def edit (m : Message) : Edit → Message
  | .insert key value => m.insert key value
  | .erase key => { m with bag := m.bag.erase key }
  | .push bytes => m.pushAttachment bytes
  | .attach attachments => { m with attachments }
  | .retag tag => { m with tag }

/-- A message after some changes. -/
def editAll (m : Message) (edits : List Edit) : Message :=
  edits.foldl edit m

end Message

namespace Frame

/-- Properties in the order of the bytes of their keys. -/
def inKeyOrder (listed : List (String × Option String)) : List (String × Option String) :=
  listed.mergeSort fun a b => decide (Text.utf8 a.1 ≤ Text.utf8 b.1)

end Frame

namespace Codec

open Parley.Frame

/-- The frame of a message whose properties are listed in any order. -/
def encodeListed (c : Codec) (tag : Tag) (listed : List (String × Option String))
    (attachments : List Bytes) : Except Fault Bytes := do
  let properties ← counted propertyBytes "property count" (inKeyOrder listed)
  let attached ← counted (sized · "attachment") "attachment count" attachments
  let body := word tag.code ++ properties ++ attached
  if c.maxFrameSize < body.length then .error (oversized body.length c.maxFrameSize)
  else return (← lengthWord body.length "frame") ++ body

/-- A frame that may be written for a message, in whatever order its properties are
listed. -/
def MayWrite (c : Codec) (m : Message) (frame : Bytes) : Prop :=
  ∃ listed, m.contents.ListedAs listed ∧ c.encodeListed m.tag listed m.attachments = .ok frame

end Codec

end Parley
