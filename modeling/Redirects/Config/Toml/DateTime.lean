import Redirects.Timestamp

/-!
# Dates and times

A date, a time of day, or both and then perhaps an offset from universal time. Seconds may be left
out, and a sixtieth is allowed for. A date or time is a setting as the text that writes it in the
usual way.
-/

namespace Redirects.Toml

/-- A time of day. -/
structure TimeOfDay where
  hour : Nat
  minute : Nat
  second : Option Nat
  /-- The digits of a fraction of the second. -/
  fraction : Option (List Char)
deriving DecidableEq, Repr

/-- An offset from universal time. -/
inductive Offset where
  /-- None, as the letter for it says. -/
  | zero
  | minutes (behind : Bool) (count : Nat)
deriving DecidableEq, Repr

/-- A date, a time of day, or both, and where the time is counted. -/
structure DateTime where
  date : Option Timestamp.Date
  time : Option TimeOfDay
  offset : Option Offset
deriving DecidableEq, Repr

namespace DateTime

open Timestamp (padded)

/-- A number of exactly so many digits, and what follows. -/
def field? (width : Nat) (text : List Char) : Option (Nat × List Char) :=
  let digits := text.takeWhile Char.isDigit
  if digits.length != width then none
  else
    some (digits.foldl (fun value c => 10 * value + (c.toNat - '0'.toNat)) 0, text.drop width)

/-- What follows a mark. -/
def mark? (mark : Char) : List Char → Option (List Char)
  | [] => none
  | c :: rest => if c == mark then some rest else none

/-- A date, and what follows. -/
def date? (text : List Char) : Option (Timestamp.Date × List Char) := do
  let (year, text) ← field? 4 text
  let (month, text) ← field? 2 (← mark? '-' text)
  let (day, text) ← field? 2 (← mark? '-' text)
  let date : Timestamp.Date := ⟨year, month, day⟩
  if date.isValid then some (date, text) else none

/-- The seconds of a time with their fraction, if it has any, and what follows. -/
def seconds? (text : List Char) : Option ((Option Nat × Option (List Char)) × List Char) :=
  match text with
  | ':' :: text => do
    let (second, text) ← field? 2 text
    match text with
    | '.' :: text =>
      let digits := text.takeWhile Char.isDigit
      if digits.isEmpty then none else some ((some second, some digits), text.drop digits.length)
    | text => some ((some second, none), text)
  | text => some ((none, none), text)

/-- A time of day, and what follows. -/
def time? (text : List Char) : Option (TimeOfDay × List Char) := do
  let (hour, text) ← field? 2 text
  let (minute, text) ← field? 2 (← mark? ':' text)
  let ((second, fraction), text) ← seconds? text
  if hour ≤ 23 && minute ≤ 59 && second.all (· ≤ 60) then
    some (⟨hour, minute, second, fraction⟩, text)
  else none

/-- The offset that a text is. -/
def offset? (text : List Char) : Option (Option Offset) :=
  match text with
  | [] => some none
  | c :: text =>
    if c == 'Z' || c == 'z' then (if text.isEmpty then some (some .zero) else none)
    else if c == '+' || c == '-' then do
      let (hours, text) ← field? 2 text
      let (minutes, text) ← field? 2 (← mark? ':' text)
      if text.isEmpty && hours ≤ 23 && minutes ≤ 59 then
        some (some (.minutes (c == '-') (60 * hours + minutes)))
      else none
    else none

/-- The date or time that a text is. -/
def read? (text : List Char) : Option DateTime :=
  match date? text with
  | some (date, []) => some ⟨some date, none, none⟩
  | some (date, c :: text) =>
    if c == 'T' || c == 't' || c == ' ' then do
      let (time, text) ← time? text
      return ⟨some date, some time, ← offset? text⟩
    else none
  | none =>
    match time? text with
    | some (time, []) => some ⟨none, some time, none⟩
    | _ => none

/-- The fraction of a second to nine digits, without zeros at its end. -/
def fractionText (digits : List Char) : String :=
  let kept := ((digits.take 9).reverse.dropWhile (· == '0')).reverse
  "." ++ (if kept.isEmpty then "0" else String.ofList kept)

/-- The time of day as it is usually written. -/
def timeText (time : TimeOfDay) : String :=
  let second := (time.second.map fun second => ":" ++ padded 2 second).getD ""
  let fraction := (time.fraction.map fractionText).getD ""
  padded 2 time.hour ++ ":" ++ padded 2 time.minute ++ second ++ fraction

/-- The offset as it is usually written. -/
def offsetText : Offset → String
  | .zero => "Z"
  | .minutes behind count =>
    (if behind && count != 0 then "-" else "+") ++ padded 2 (count / 60) ++ ":" ++
      padded 2 (count % 60)

/-- The date as it is usually written. -/
def dateText (date : Timestamp.Date) : String :=
  padded 4 date.year.toNat ++ "-" ++ padded 2 date.month ++ "-" ++ padded 2 date.day

/-- The date or time as it is usually written. -/
def text (value : DateTime) : String :=
  let date := (value.date.map dateText).getD ""
  let time := (value.time.map timeText).getD ""
  let between := if value.date.isSome && value.time.isSome then "T" else ""
  date ++ between ++ time ++ (value.offset.map offsetText).getD ""

end DateTime

end Redirects.Toml
