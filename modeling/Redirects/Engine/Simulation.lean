import Redirects.Declarative

/-!
# Where a request goes

Follows a request through a set of declarative rules. Of the rules that apply to an address the one
with the lowest number redirects it. A text filter asks for an occurrence of the text; a pattern
filter searches the address, and a template replaces what it matched.
-/

namespace Redirects

/-- One redirect. -/
structure Hit where
  /-- Number of the rule that redirected. -/
  ruleId : UInt32
  source : String
  destination : String
deriving DecidableEq, Repr

/-- How a chain of redirects ended. -/
inductive TraceOutcome where
  /-- No rule applied to the last address. -/
  | settled
  /-- An address came a second time. -/
  | loop
  /-- The allowed number of redirects was used up. -/
  | hopLimit
deriving DecidableEq, Repr

/-- A chain of redirects. -/
structure Trace where
  hops : List Hit
  outcome : TraceOutcome
deriving DecidableEq, Repr

/-- The address at which the chain from a start ends. -/
def Trace.finalUrl (trace : Trace) (start : String) : String :=
  (trace.hops.getLast?.map (·.destination)).getD start

/-- The text between two places. -/
def slice (text : Array Char) (start stop : Nat) : List Char :=
  (text.toList.take stop).drop start

/-- The address with what was matched replaced by the filled template. -/
def substitute (text : Array Char) (found : Regex.Match) (template : String) : String :=
  let group (number : Nat) : List Char :=
    match found.spans[number]?.join with
    | some (start, stop) => slice text start stop
    | none => []
  String.ofList <|
    slice text 0 found.start ++ Template.fill group template.toList ++
      slice text found.stop text.size

namespace DeclarativeRule

/-- Where the rule sends an address, if it applies to it. -/
def redirect? (rule : DeclarativeRule) (url : String) : Option String :=
  match rule.condition.urlFilter, rule.condition.regexFilter with
  | some text, _ =>
    if Text.occursIn text.toList url.toList then rule.redirection.url else none
  | none, none => none
  | none, some pattern =>
    match Regex.prepare pattern with
    | .error _ => none
    | .ok prepared =>
      let text := url.toList.toArray
      (prepared.find? text).bind fun found =>
        match rule.redirection.substitution with
        | some template => some (substitute text found template)
        | none => rule.redirection.url

/-- The redirect of an address by the rule. -/
def hit? (rule : DeclarativeRule) (url : String) : Option Hit :=
  (rule.redirect? url).map (⟨rule.id, url, ·⟩)

end DeclarativeRule

/-- Rules by their numbers, those with one number in their order. -/
def byNumber (rules : List DeclarativeRule) : List DeclarativeRule :=
  rules.mergeSort fun rule other => rule.id ≤ other.id

/-- The redirect of an address. -/
def simulate (rules : List DeclarativeRule) (url : String) : Option Hit :=
  (byNumber rules).findSome? (·.hit? url)

/-- The redirects from an address on, the addresses met so far given. -/
def traceFrom (rules : List DeclarativeRule) (met : List String) (url : String) : Nat → Trace
  | 0 => ⟨[], .hopLimit⟩
  | hops + 1 =>
    match simulate rules url with
    | none => ⟨[], .settled⟩
    | some hit =>
      if met.contains hit.destination then ⟨[hit], .loop⟩
      else
        let trace := traceFrom rules (hit.destination :: met) hit.destination hops
        { trace with hops := hit :: trace.hops }

/-- The redirects from an address, at most as many as allowed. -/
def trace (rules : List DeclarativeRule) (url : String) (maxHops : Nat) : Trace :=
  traceFrom rules [url] url maxHops

end Redirects
