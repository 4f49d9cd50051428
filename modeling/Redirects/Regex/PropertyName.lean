import Redirects.Unicode.Age
import Redirects.Unicode.CaseMapping
import Redirects.Unicode.Segmentation

/-!
# Names of character properties

Names are compared without regard to case, to blanks, underscores and hyphens, and to characters
outside ASCII, and an `is` in front is dropped. A bare name is looked for among the properties, then
the general categories, then the scripts; a family and a value ask one kind of property alone.
-/

namespace Redirects.Regex

open Unicode (CharSet Category)

/-- The letters of a name that count. -/
def countedLetters (name : List Char) : List Char :=
  (name.filter fun c => c != ' ' && c != '_' && c != '-' && c.val < 128).map Char.toLower

/-- A property name as it is compared. -/
def plainName (name : List Char) : String :=
  String.ofList <|
    match name with
    | i :: s :: rest =>
      if i.toLower == 'i' && s.toLower == 's' then
        let letters := countedLetters rest
        if letters == ['c'] then ['i', 's', 'c'] else letters
      else countedLetters name
    | _ => countedLetters name

/-- The groups of general categories under their names. -/
def categoryGroup? (name : String) : Option CharSet :=
  match name with
  | "any" => some .all
  | "ascii" => some (.range '\x00' '\x7f')
  | "assigned" => some Unicode.assigned
  | "cn" | "unassigned" => some Unicode.assigned.complement
  | "c" | "other" =>
    some (Unicode.assigned.complement.union (Unicode.categoryGroup 'C'))
  | "l" | "letter" => some (Unicode.categoryGroup 'L')
  | "lc" | "casedletter" => some Unicode.casedLetter
  | "m" | "mark" | "combiningmark" => some (Unicode.categoryGroup 'M')
  | "n" | "number" => some (Unicode.categoryGroup 'N')
  | "p" | "punct" | "punctuation" => some (Unicode.categoryGroup 'P')
  | "s" | "symbol" => some (Unicode.categoryGroup 'S')
  | "z" | "separator" => some (Unicode.categoryGroup 'Z')
  | _ => none

/-- The general category, or group of them, of a plain name. -/
def categoryNamed? (name : String) : Option CharSet :=
  (categoryGroup? name).orElse fun _ =>
    (Category.all.find? (·.names.contains name)).map (·.set)

/-- The set that a plain bare name stands for. Three names that properties have too stand for
categories. -/
def bareName? (name : String) : Option CharSet :=
  let property := if ["cf", "lc", "sc"].contains name then none else Unicode.property? name
  property.orElse fun _ =>
    (categoryNamed? name).orElse fun _ => (Unicode.scriptNamed? name).map (·.set)

/-- The set that a plain value of a plain family stands for. -/
def valuedName? (family value : String) : Option CharSet :=
  match family with
  | "gc" | "generalcategory" => categoryNamed? value
  | "sc" | "script" => (Unicode.scriptNamed? value).map (·.set)
  | "scx" | "scriptextensions" => (Unicode.scriptNamed? value).map (·.extended)
  | "age" => Unicode.assignedBy? value
  | "gcb" | "graphemeclusterbreak" => Unicode.clusterClass? value
  | "wb" | "wordbreak" => Unicode.wordClass? value
  | "sb" | "sentencebreak" => Unicode.sentenceClass? value
  | _ => none

/-- The text before and behind the first place where the mark stands. -/
def cutAt? (mark : List Char) : List Char → Option (List Char × List Char)
  | [] => none
  | c :: rest =>
    if mark.isPrefixOf (c :: rest) then some ([], (c :: rest).drop mark.length)
    else (cutAt? mark rest).map fun (before, behind) => (c :: before, behind)

/-- A set that a property escape names, or asks for the complement of. -/
structure NamedSet where
  set : CharSet
  negated : Bool
deriving DecidableEq, Repr

/-- The set that the text between the braces of a property escape names. -/
def namedSet? (name : List Char) : Option NamedSet :=
  match cutAt? ['!', '='] name with
  | some (family, value) => (valuedName? (plainName family) (plainName value)).map (⟨·, true⟩)
  | none =>
    match (cutAt? [':'] name).orElse fun _ => cutAt? ['='] name with
    | some (family, value) => (valuedName? (plainName family) (plainName value)).map (⟨·, false⟩)
    | none => (bareName? (plainName name)).map (⟨·, false⟩)

end Redirects.Regex
