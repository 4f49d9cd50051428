import Redirects.Unicode.CaseMapping

/-!
# Lower case

Lower case of a whole text. Each character has its lower case, whatever stands around it, save the
capital sigma: at the end of a word its lower case is the final sigma.
-/

namespace Redirects.Text

/-- Looking past the characters that case ignores, the next one has case. -/
def metByCased (text : List Char) : Bool :=
  ((text.dropWhile Unicode.isCaseIgnorable).head?.map Unicode.isCased).getD false

/-- The lower case of a character between what stands before it, nearest first, and after it. -/
def lowercaseAt (before : List Char) (c : Char) (after : List Char) : List Char :=
  if c == 'Σ' then
    [if metByCased before && !metByCased after then 'ς' else 'σ']
  else if c == 'İ' then ['i', Char.ofNat 0x307]
  else [Unicode.lower c]

/-- The lower case of a text that follows the given characters, nearest first. -/
def lowercaseAfter (before : List Char) : List Char → List Char
  | [] => []
  | c :: text => lowercaseAt before c text ++ lowercaseAfter (c :: before) text

/-- The lower case of a text. -/
def lowercaseChars (text : List Char) : List Char := lowercaseAfter [] text

/-- The lower case of a text. -/
def lowercase (text : String) : String := String.ofList (lowercaseChars text.toList)

end Redirects.Text
