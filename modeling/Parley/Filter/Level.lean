/-
# Levels of records

Records are graded by how much they matter.  A filter lets records up to a level pass.
-/

import Parley.Decimal.Integer

namespace Parley.Filter

/-- How much passes. -/
inductive Level where
  | off
  | error
  | warn
  | info
  | debug
  | trace
deriving DecidableEq, Repr

namespace Level

/-- The levels from the quietest to the loudest; the place of a level is its number. -/
def all : List Level := [.off, .error, .warn, .info, .debug, .trace]

/-- The name of a level. -/
def name : Level → String
  | .off => "off"
  | .error => "error"
  | .warn => "warn"
  | .info => "info"
  | .debug => "debug"
  | .trace => "trace"

/-- The level with this name, in any ASCII case, or with this number; an empty text
stands for errors. -/
def ofText? (text : List Char) : Option Level :=
  match Decimal.readNat? text with
  | some n => all[n]?
  | none =>
      if text.isEmpty then some .error
      else all.find? fun level => level.name.toList == text.map Char.toLower

/-- The level after an equals sign; everything passes when it is left out. -/
def given? (text : List Char) : Option Level :=
  if text.isEmpty then some .trace else ofText? text

end Level

end Parley.Filter
