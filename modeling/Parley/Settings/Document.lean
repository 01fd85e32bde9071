/-
# Settings in a document

Settings are read from a TOML document of three sections.  What a document does not
say keeps its value, and what it says beyond the settings is passed over.  A section
may also be an array that gives its values in order; it may stop early, and what it
gives beyond them is passed over as well.
-/

import Parley.Settings
import Parley.Text.Utf8
import Parley.Toml.Document

namespace Parley.Settings

open Toml (Node Fields)

/-- The fault of a document that does not read as settings. -/
def unreadable : Fault :=
  .settings "invalid document"

/-- The values of a section by their names, absent ones as `none`.  A moment is a table
without any of the names. -/
def section? (root : Fields) (name : String) (keys : List String) : Option (List (Option Node)) :=
  match root.node? name with
  | none => some (keys.map fun _ => none)
  | some (.table _ fields) => some (keys.map (Fields.node? fields))
  | some .moment => some (keys.map fun _ => none)
  | some (.array items) => some (keys.zipIdx.map fun entry => items[entry.2]?)
  | some (.tables elements) =>
      some (keys.zipIdx.map fun entry => (elements[entry.2]?).map (.table .header))
  | some _ => none

/-- A natural number, or the value that it has unless it is given. -/
def natural (default : Nat) : Option Node → Option Nat
  | none => some default
  | some (.integer (.ofNat n)) => some n
  | some _ => none

/-- A text, or the value that it has unless it is given. -/
def text (default : String) : Option Node → Option String
  | none => some default
  | some (.text value) => some value
  | some _ => none

/-- A text that may be missing. -/
def optionalText : Option Node → Option (Option String)
  | none => some none
  | some (.text value) => some (some value)
  | some _ => none

/-- The settings that a table says. -/
def ofFields? (root : Fields) : Option Settings := do
  let default : Settings := {}
  let timeouts ← section? root "timeouts" ["request_timeout_ms", "retired_reply_ttl_ms"]
  let limits ← section? root "limits" ["max_frame_size", "channel_capacity"]
  let logging ← section? root "logging" ["filter", "directory", "file_prefix"]
  match timeouts, limits, logging with
  | [request, retired], [frame, capacity], [filter, directory, file] => do
      let requestTimeout ← natural default.requestTimeout request
      let retiredReplyTtl ← natural default.retiredReplyTtl retired
      let maxFrameSize ← natural default.maxFrameSize frame
      let channelCapacity ← natural default.channelCapacity capacity
      let filter ← text default.filter filter
      let directory ← optionalText directory
      let logFile ← text default.logFile file
      return {
        requestTimeout, retiredReplyTtl, maxFrameSize, channelCapacity, filter, directory, logFile }
  | _, _, _ => none

/-- The settings that a document says. -/
def ofText (document : String) : Except Fault Settings :=
  match (Toml.parse document).bind ofFields? with
  | some settings => .ok settings
  | none => .error unreadable

/-- The settings in the bytes of a file, `none` for a file that does not exist. -/
def ofFile : Option (List UInt8) → Except Fault Settings
  | none => .error (.stream "No such file or directory (os error 2)")
  | some bytes =>
      match Text.ofUtf8 bytes with
      | .ok document => ofText document
      | .error _ => .error (.stream "stream did not contain valid UTF-8")

/-- The settings in the first file that exists; the usual ones when there is none or
when it does not read as settings. -/
def load (files : List (Option (List UInt8))) : Settings :=
  match files.find? Option.isSome with
  | some file =>
      match ofFile file with
      | .ok settings => settings
      | .error _ => {}
  | none => {}

end Parley.Settings
