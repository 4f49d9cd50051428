import Redirects.Pattern
import Redirects.Rule
import Redirects.Template
import Redirects.Text.Search
import Redirects.Text.Utf8

/-!
# From a rule to its filter and target

A rule that looks for a text becomes a substring filter, unless its destination contains the text:
then the filter is a pattern that leaves the destination alone. A pattern that ends in a wildcard
keeps the rest of the path; any other pattern is taken as it is, and one that occurs in its own
destination is kept from matching where the destination begins.
-/

namespace Redirects

/-- What a request must match. -/
inductive Filter where
  | substring (text : String)
  | regex (pattern : Pattern)
deriving DecidableEq, Repr

/-- Where a request is sent. -/
inductive Target where
  | url (text : String)
  /-- A template for the groups of the filter. -/
  | substitution (template : String)
deriving DecidableEq, Repr

/-- A filter and its target. -/
structure Synthesis where
  filter : Filter
  target : Target
deriving DecidableEq, Repr

/-- The endings after which the rest of a path is kept, the longest first. -/
def wildcardEndings : List String := ["/(.*)", "/(.+)", "/.*", "/.+", "/*", "/+"]

/-- An address without the slashes at its end. -/
def withoutSlashes (url : String) : List Char := Text.dropTrailing '/' url.toList

/-- The destination contains the source, slashes at the ends aside. -/
def overlaps (source destination : String) : Bool :=
  Text.occursIn (withoutSlashes source) (withoutSlashes destination)

/-- The filter that keeps the rest of a path and the template that puts it back, for a pattern that
ends in a wildcard and a destination without places. -/
def pathCapture? (source destination : String) : Option (Pattern × Target) :=
  if Template.hasPlace destination.toList then none
  else
    (wildcardEndings.findSome? fun ending => Text.dropEnding? ending.toList source.toList).map
      fun stem =>
        let slash := if destination.endsWith "/" then "" else "/"
        (.captureTail (String.ofList stem), .substitution (destination ++ slash ++ "\\1"))

/-- What the source lacks of the destination, by their lengths in bytes. -/
def excludedTail (source destination : String) : List Char :=
  let start := Text.byteLength (withoutSlashes source)
  (Text.dropBytes? start (withoutSlashes destination)).getD []

/-- The filter and target of a rule that looks for a text. -/
def synthesizeContains (source destination : String) : Synthesis :=
  if overlaps source destination then
    let literal := Pattern.literal (String.ofList (withoutSlashes source))
    let tail := excludedTail source destination
    let pattern :=
      if tail.isEmpty then literal else .excludeTrailing (String.ofList tail) literal
    ⟨.regex pattern, .url destination⟩
  else ⟨.substring source, .url destination⟩

/-- The pattern and target of a pattern rule, before its own destination is excluded. -/
def baseSynthesis (source destination : String) : Pattern × Target :=
  match pathCapture? source destination with
  | some captured => captured
  | none =>
    (.raw source,
      if Template.hasPlace destination.toList then .substitution destination
      else .url destination)

/-- The filter and target of a pattern rule. -/
def synthesizeRegex (source destination : String) : Synthesis :=
  let (pattern, target) := baseSynthesis source destination
  if pattern.occursIn destination then
    ⟨.regex (.excludeLeading destination pattern), target⟩
  else ⟨.regex pattern, target⟩

/-- The filter and target of a rule. -/
def synthesize (rule : Rule) : Synthesis :=
  match rule.kind with
  | .contains => synthesizeContains rule.source rule.destination
  | .regex => synthesizeRegex rule.source rule.destination

end Redirects
