import Redirects.Regex.Bracket

/-!
# Patterns as written

The tree of a pattern before it is prepared for matching, and what its preparation asks of it: how
many characters its matches take, and whether it needs more than the classical operators.
-/

namespace Redirects.Regex

open Unicode (CharSet)

/-- A pattern as written. -/
inductive Term where
  | empty
  /-- A character, in either case if that is asked for. -/
  | char (fold : Bool) (c : Char)
  /-- One character of a set. -/
  | set (members : CharSet)
  | bracket (reading : Bracket)
  /-- A bracket or a property that makes no sense. -/
  | unreadable
  | edge (place : Edge)
  | seq (first second : Term)
  | alt (first second : Term)
  /-- A group that captures nothing. -/
  | scope (inner : Term)
  | group (number : Nat) (inner : Term)
  | many (inner : Term) (least : Nat) (most : Option Nat) (greedy : Bool)
  /-- Only the first way to match is tried. -/
  | atomic (inner : Term)
  /-- What follows, or what precedes, must match, or must not. -/
  | look (ahead wanted : Bool) (inner : Term)
  /-- The text of a group once more. -/
  | again (number : Nat)
  /-- The group has been entered. -/
  | entered (number : Nat)
  | choose (condition yes no : Term)
  /-- The match is taken to start here. -/
  | restart
  /-- The place where the search started. -/
  | resume
deriving DecidableEq, Repr

namespace Term

/-- Terms one after another. -/
def inSequence : List Term → Term
  | [] => .empty
  | [term] => term
  | term :: terms => .seq term (inSequence terms)

/-- Terms to choose from. -/
def inChoice (first : Term) : List Term → Term
  | [] => first
  | term :: terms => .alt first (inChoice term terms)

/-- The term inside any scopes around it. -/
def bare : Term → Term
  | .scope inner => inner.bare
  | term => term

/-- Nothing is written, save scopes. -/
def isBlank (term : Term) : Bool := term.bare == .empty

/-- A quantifier can stand behind the term. -/
def repeatable (term : Term) : Bool :=
  match term.bare with
  | .empty | .edge _ | .look .. => false
  | _ => true

/-- A reference points past the groups opened so far, whose number is given and given back. -/
def danglingFrom : Nat → Term → Bool × Nat
  | opened, .empty | opened, .char .. | opened, .set _ | opened, .bracket _ | opened, .unreadable
  | opened, .edge _ | opened, .restart | opened, .resume => (false, opened)
  | opened, .seq first second | opened, .alt first second =>
    let (left, opened) := first.danglingFrom opened
    let (right, opened) := second.danglingFrom opened
    (left || right, opened)
  | opened, .scope inner | opened, .many inner .. | opened, .atomic inner
  | opened, .look _ _ inner => inner.danglingFrom opened
  | opened, .group _ inner => inner.danglingFrom (opened + 1)
  | opened, .again number | opened, .entered number => (opened ≤ number, opened)
  | opened, .choose condition yes no =>
    let (first, opened) := condition.danglingFrom opened
    let (second, opened) := yes.danglingFrom opened
    let (third, opened) := no.danglingFrom opened
    (first || second || third, opened)

/-- A reference points to a group that opens behind it, or to none. The whole pattern is group
zero. -/
def hasDanglingReference (term : Term) : Bool := (term.danglingFrom 1).1

/-- The term needs more than the classical operators. The listed groups are referred to. -/
def beyondClassical (referred : List Nat) : Term → Bool
  | .empty | .char .. | .set _ | .bracket _ | .unreadable => false
  | .edge place => place.isWordy
  | .seq first second | .alt first second =>
    first.beyondClassical referred || second.beyondClassical referred
  | .scope inner | .many inner .. => inner.beyondClassical referred
  | .group number inner => referred.contains number || inner.beyondClassical referred
  | .atomic _ | .look .. | .again _ | .entered _ | .choose .. | .restart | .resume => true

/-- The least number of characters that a match takes. -/
def leastSize : Term → Nat
  | .char .. | .set _ | .bracket _ | .unreadable => 1
  | .seq first second => first.leastSize + second.leastSize
  | .alt first second => min first.leastSize second.leastSize
  | .scope inner | .group _ inner | .atomic inner => inner.leastSize
  | .many inner least .. => inner.leastSize * least
  | .choose condition yes no => condition.leastSize + min yes.leastSize no.leastSize
  | .empty | .edge _ | .look .. | .again _ | .entered _ | .restart | .resume => 0

/-- Every match takes the same number of characters, as far as the form of the term shows. -/
def constantSize : Term → Bool
  | .seq first second => first.constantSize && second.constantSize
  | .alt first second =>
    first.constantSize && second.constantSize && first.leastSize == second.leastSize
  | .scope inner | .group _ inner | .atomic inner => inner.constantSize
  | .many inner least most _ => inner.constantSize && most == some least
  | .choose condition yes no =>
    condition.constantSize && yes.constantSize && no.constantSize &&
      condition.leastSize + yes.leastSize == no.leastSize
  | .again _ => false
  | .empty | .char .. | .set _ | .bracket _ | .unreadable | .edge _ | .look .. | .entered _
  | .restart | .resume => true

/-- The first group in the term. -/
def firstGroup? : Term → Option Nat
  | .group number _ => some number
  | .seq first second | .alt first second => first.firstGroup?.orElse fun _ => second.firstGroup?
  | .scope inner | .many inner .. | .atomic inner | .look _ _ inner => inner.firstGroup?
  | .choose condition yes no =>
    condition.firstGroup?.orElse fun _ => yes.firstGroup?.orElse fun _ => no.firstGroup?
  | .empty | .char .. | .set _ | .bracket _ | .unreadable | .edge _ | .again _ | .entered _
  | .restart | .resume => none

/-- The text that a term made of plain characters stands for. -/
def text? : Term → Option (List Char)
  | .char false c => some [c]
  | .seq first second => do return (← first.text?) ++ (← second.text?)
  | .scope inner => inner.text?
  | _ => none

end Term

end Redirects.Regex
