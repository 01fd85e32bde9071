/-
# Log filters

A filter is a list of directives, each of which lets records up to a level pass:
those of one target, or those inside a span, or all.  Filters are written as text
with commas between the directives; the text of a filter lists the most specific
directives first.
-/

import Parley.Filter.Directive
import Parley.Settings

namespace Parley

namespace Filter

/-- The parts of a text between commas. -/
def splitCommas : List Char → List (List Char)
  | [] => [[]]
  | ',' :: rest => [] :: splitCommas rest
  | c :: rest =>
      match splitCommas rest with
      | [] => [[c]]
      | part :: parts => (c :: part) :: parts

/-- The directives of a filter.  Nothing between commas is no directive. -/
def directives? (text : String) : Option (List Directive) :=
  ((splitCommas text.toList).filter fun part => !part.isEmpty).mapM Directive.ofText?

/-- How a filter with these directives is written.  Directives that can be decided
without a span come first, among them the names of fields of those that cannot. -/
def textOf (directives : List Directive) : String :=
  let (dynamic, fixed) := directives.partition Directive.isDynamic
  let statics := (fixed ++ dynamic.filter Directive.isStatic).foldl
    (fun ds d => Directive.insert d ds) []
  let dynamics := dynamic.foldl (fun ds d => Directive.insert d ds) []
  ",".intercalate ((statics ++ dynamics).map Directive.text)

/-- The filter that is used when no other one reads. -/
def fallback : String := "info"

end Filter

/-- The filter in force: the one that the environment gives if it reads, else the one of
the settings if that reads, else the usual one. -/
def Settings.filterText (settings : Settings) (environment : Option String) : String :=
  match environment.bind Filter.directives? with
  | some directives => Filter.textOf directives
  | none =>
      match Filter.directives? settings.filter with
      | some directives => Filter.textOf directives
      | none => Filter.fallback

end Parley
