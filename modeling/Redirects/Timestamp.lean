import Redirects.Unicode.Property

/-!
# Timestamps

A point in time as a text: a date, a time of day, and the offset from universal time. Years have up
to four digits, or any number behind a sign; the other fields have one or two digits; blanks may
stand between the fields. A sixtieth second is allowed for. The calendar ends on both sides, and the
date in universal time must lie in it as well.
-/

namespace Redirects.Timestamp

/-- The text without the blanks at its front. -/
def skipBlanks (text : List Char) : List Char := text.dropWhile Unicode.isSpace

/-- The number of at most `width` digits at the front, and what follows. -/
def number? (width : Nat) (text : List Char) : Option (Nat × List Char) :=
  let digits := (text.take width).takeWhile Char.isDigit
  if digits.isEmpty then none
  else
    some (digits.foldl (fun value c => 10 * value + (c.toNat - '0'.toNat)) 0,
      text.drop digits.length)

/-- A field of two digits behind blanks. -/
def field? (text : List Char) : Option (Nat × List Char) := number? 2 (skipBlanks text)

/-- What follows a mark, blanks before it left out. -/
def mark? (mark : Char) (text : List Char) : Option (List Char) :=
  match skipBlanks text with
  | [] => none
  | c :: rest => if c == mark then some rest else none

/-- A year, and what follows. -/
def year? (text : List Char) : Option (Int × List Char) :=
  match skipBlanks text with
  | '-' :: rest => (number? rest.length rest).map fun (year, rest) => (-(year : Int), rest)
  | '+' :: rest => (number? rest.length rest).map fun (year, rest) => ((year : Int), rest)
  | text => (number? 4 text).map fun (year, rest) => ((year : Int), rest)

/-- The year has a twenty-ninth of February. -/
def isLeap (year : Int) : Bool := year % 4 == 0 && (year % 100 != 0 || year % 400 == 0)

/-- The number of days of a month. -/
def daysIn (year : Int) (month : Nat) : Nat :=
  if month = 2 then (if isLeap year then 29 else 28)
  else if month = 4 || month = 6 || month = 9 || month = 11 then 30
  else 31

/-- The first year of the calendar. -/
def firstYear : Int := -262143

/-- The last year of the calendar. -/
def lastYear : Int := 262142

/-- A day of the calendar. -/
structure Date where
  year : Int
  month : Nat
  day : Nat
deriving DecidableEq, Repr

/-- The day is in the calendar. -/
def Date.isValid (date : Date) : Bool :=
  firstYear ≤ date.year && date.year ≤ lastYear && 1 ≤ date.month && date.month ≤ 12 &&
    1 ≤ date.day && date.day ≤ daysIn date.year date.month

/-- The first day of the calendar. -/
def Date.first : Date := ⟨firstYear, 1, 1⟩

/-- The last day of the calendar. -/
def Date.last : Date := ⟨lastYear, 12, 31⟩

/-- A date, and what follows. -/
def date? (text : List Char) : Option (Date × List Char) := do
  let (year, text) ← year? text
  let text ← mark? '-' text
  let (month, text) ← field? text
  let text ← mark? '-' text
  let (day, text) ← field? text
  let date : Date := ⟨year, month, day⟩
  if date.isValid then some (date, text) else none

/-- Past the fraction of a second, if there is one. -/
def fraction? (text : List Char) : Option (List Char) :=
  match text with
  | '.' :: rest =>
    let after := rest.dropWhile Char.isDigit
    if after.length = rest.length then none else some after
  | text => some text

/-- A time of day in seconds, and what follows. -/
def time? (text : List Char) : Option (Nat × List Char) := do
  let (hour, text) ← field? text
  let text ← mark? ':' text
  let (minute, text) ← field? text
  let text ← mark? ':' text
  let (second, text) ← field? text
  let text ← fraction? text
  if hour ≤ 23 && minute ≤ 59 && second ≤ 60 then
    some (3600 * hour + 60 * minute + min second 59, skipBlanks text)
  else none

/-- Exactly two digits, and what follows. -/
def twoDigits? (text : List Char) : Option (Nat × List Char) :=
  match number? 2 text with
  | some (value, rest) => if text.length = rest.length + 2 then some (value, rest) else none
  | none => none

/-- An offset from universal time in seconds, which is less than a day, and what follows. -/
def offset? (text : List Char) : Option (Int × List Char) :=
  let isZero := ((text.take 3).map Char.toUpper) == ['U', 'T', 'C']
  if isZero then some (0, text.drop 3)
  else
    match text with
    | [] => none
    | c :: rest =>
      if c == 'Z' || c == 'z' then some (0, rest)
      else if c == '+' || c == '-' || c == '−' then do
        let (hours, rest) ← twoDigits? rest
        let (minutes, rest) ← twoDigits? (rest.dropWhile fun c => c == ':' || Unicode.isSpace c)
        let offset : Nat := 3600 * hours + 60 * minutes
        if hours ≤ 23 && minutes ≤ 59 then
          some (if c == '+' then (offset : Int) else -(offset : Int), rest)
        else none
      else none

/-- A second of a day is still in the calendar when it is counted in universal time. -/
def staysInCalendar (date : Date) (second : Nat) (offset : Int) : Bool :=
  let universal : Int := second - offset
  (date != Date.first || 0 ≤ universal) && (date != Date.last || universal < 24 * 3600)

/-- The text is a timestamp. -/
def isValid (text : String) : Bool :=
  let after := do
    let (date, text) ← date? text.toList
    match text with
    | [] => none
    | c :: text =>
      if c == 'T' || c == 't' || c == ' ' then
        let (second, text) ← time? text
        let (offset, text) ← offset? text
        if staysInCalendar date second offset then some text else none
      else none
  after.any fun rest => (skipBlanks rest).isEmpty

/-- The date a number of days behind the first day of March of the year zero. -/
def dateOf (days : Nat) : Date :=
  let era := days / 146097
  let dayOfEra := days % 146097
  let yearOfEra := (dayOfEra - dayOfEra / 1460 + dayOfEra / 36524 - dayOfEra / 146096) / 365
  let dayOfYear := dayOfEra - (365 * yearOfEra + yearOfEra / 4 - yearOfEra / 100)
  let monthOfYear := (5 * dayOfYear + 2) / 153
  let month := if monthOfYear < 10 then monthOfYear + 3 else monthOfYear - 9
  let year := yearOfEra + 400 * era
  ⟨if month ≤ 2 then year + 1 else year, month, dayOfYear - (153 * monthOfYear + 2) / 5 + 1⟩

/-- The number of days from the first day of March of the year zero to the first of January 1970. -/
def epochDays : Nat := 719468

/-- A number in at least so many digits. -/
def padded (width value : Nat) : String :=
  let digits := (toString value).toList
  String.ofList (List.replicate (width - digits.length) '0' ++ digits)

/-- The timestamp of a number of seconds behind the start of 1970. -/
def ofSeconds (seconds : Nat) : String :=
  let date := dateOf (seconds / 86400 + epochDays)
  let second := seconds % 86400
  padded 4 date.year.toNat ++ "-" ++ padded 2 date.month ++ "-" ++ padded 2 date.day ++ "T" ++
    padded 2 (second / 3600) ++ ":" ++ padded 2 (second / 60 % 60) ++ ":" ++ padded 2 (second % 60) ++
    "Z"

end Redirects.Timestamp
