import LiveSearch.Text.Blank
import LiveSearch.Text.Decimal

/-!
# Dates

Times are counted in seconds from the beginning of 1970. A time is typed as this number, or as a day
of the Gregorian calendar, which is extended into the past and the future, and then stands for the
first second of the day.

* `Day.isValid` – the days that exist, by the lengths of the months and the leap years.
* `Day.sinceEpoch` – how many days after the first of January 1970 a day lies.
* `Day.parse` – the reading of `year-month-day`. Each number may have blanks before it. A year
  without a sign has at most four digits, one with a sign any number; month and day have one or two.
* `parseTime` – **the reading of a time** in either form.
* `dayStart`, `dayEnd?` – the day that a time lies in.
-/

namespace LiveSearch

open Text

/-- A **day** of the calendar. -/
structure Day where
  year : Int
  /-- The month, counted from one. -/
  month : Nat
  /-- The day of the month, counted from one. -/
  day : Nat
deriving DecidableEq, Inhabited

/-- Why a text is not a day. -/
inductive DateFault where
  /-- A number is too large, or there is no such day. -/
  | outOfRange
  /-- Something else stands where a number or a hyphen is expected. -/
  | invalidCharacter
  /-- The text ends too early. -/
  | endOfText
  /-- There is more text behind the day. -/
  | trailingText
deriving DecidableEq

/-- Why a text is not a time. -/
inductive DateError where
  /-- The text, which is given without blanks around it, is neither a number nor a day. -/
  | malformed (text : String) (fault : DateFault)
  /-- The day lies before 1970. -/
  | tooEarly (text : String)
deriving DecidableEq

/-- The words for a fault. -/
def DateFault.message : DateFault → String
  | .outOfRange => "input is out of range"
  | .invalidCharacter => "input contains invalid characters"
  | .endOfText => "premature end of input"
  | .trailingText => "trailing input"

/-- The sentence that describes why a text is not a time. -/
def DateError.message : DateError → String
  | .malformed text fault =>
    "expected YYYY-MM-DD or epoch seconds, got '" ++ text ++ "': " ++ fault.message
  | .tooEarly text => "date '" ++ text ++ "' is before 1970"

namespace Day

/-! ### The calendar -/

/-- Has the year a twenty-ninth of February? -/
def isLeapYear (year : Int) : Bool :=
  year % 4 = 0 && (year % 100 ≠ 0 || year % 400 = 0)

/-- The number of days of a month. -/
def lengthOfMonth (year : Int) (month : Nat) : Nat :=
  if month = 2 then if isLeapYear year then 29 else 28
  else if month ∈ [4, 6, 9, 11] then 30
  else 31

/-- The first year that days are read in. -/
def firstYear : Int := -262143

/-- The last year that days are read in. -/
def lastYear : Int := 262142

/-- Does the day exist, in a year that days are read in? -/
def isValid (d : Day) : Bool :=
  firstYear ≤ d.year && d.year ≤ lastYear && 1 ≤ d.month && d.month ≤ 12 && 1 ≤ d.day &&
    d.day ≤ lengthOfMonth d.year d.month

/-- The number of days from the beginning of the first year to the beginning of another one. -/
def daysBeforeYear (year : Int) : Int :=
  365 * (year - 1) + (year - 1) / 4 - (year - 1) / 100 + (year - 1) / 400

/-- The number of days of the year before a month. -/
def daysBeforeMonth (year : Int) : Nat → Nat
  | 0 | 1 => 0
  | month + 2 => daysBeforeMonth year (month + 1) + lengthOfMonth year (month + 1)

/-- How many days after the first of January 1970 a day lies; negative for an earlier one. -/
def sinceEpoch (d : Day) : Int :=
  daysBeforeYear d.year - daysBeforeYear 1970 + daysBeforeMonth d.year d.month + d.day - 1

/-! ### Reading -/

/-- Reads a number of one to `width` digits, and gives what follows it. -/
def readNumber (width : Nat) (cs : List Char) : Except DateFault (Nat × List Char) :=
  let digits := (cs.take width).takeWhile Char.isDigit
  if cs.isEmpty then .error .endOfText
  else if digits.isEmpty then .error .invalidCharacter
  else .ok (Decimal.value digits, cs.drop digits.length)

/-- The limit of the years that thirty-two bits can hold, `2 ^ 31`. -/
def yearLimit : Int := 0x80000000

/-- Reads a year of at most thirty-two bits. -/
def readYear (cs : List Char) : Except DateFault (Int × List Char) := do
  let (year, rest) ←
    match trimStart cs with
    | '-' :: ds => (readNumber ds.length ds).map fun (n, rest) => (-(n : Int), rest)
    | '+' :: ds => (readNumber ds.length ds).map fun (n, rest) => ((n : Int), rest)
    | ds => (readNumber 4 ds).map fun (n, rest) => ((n : Int), rest)
  if -yearLimit ≤ year ∧ year < yearLimit then return (year, rest) else throw .outOfRange

/-- Reads a number from one to `bound` with at most two digits. -/
def readPart (bound : Nat) (cs : List Char) : Except DateFault (Nat × List Char) := do
  let (n, rest) ← readNumber 2 (trimStart cs)
  if 1 ≤ n ∧ n ≤ bound then return (n, rest) else throw .outOfRange

/-- Passes over a hyphen. -/
def readHyphen : List Char → Except DateFault (List Char)
  | [] => .error .endOfText
  | '-' :: rest => .ok rest
  | _ => .error .invalidCharacter

/-- Reads a day. -/
def parse (cs : List Char) : Except DateFault Day := do
  let (year, rest) ← readYear cs
  let rest ← readHyphen rest
  let (month, rest) ← readPart 12 rest
  let rest ← readHyphen rest
  let (day, rest) ← readPart 31 rest
  if !rest.isEmpty then throw .trailingText
  let d : Day := { year, month, day }
  if d.isValid then return d else throw .outOfRange

end Day

/-- The number of seconds of a day. -/
def secondsPerDay : UInt64 := 86400

/-- The first second of the day of a time. -/
def dayStart (time : UInt64) : UInt64 :=
  time - time % secondsPerDay

/-- The sum of two numbers of sixty-four bits, if it fits into as many. -/
def sum? (a b : UInt64) : Option UInt64 :=
  if a.toNat + b.toNat < Decimal.wordLimit then some (a + b) else none

/-- The first second after the day of a time, if there is one: the last day has no end. -/
def dayEnd? (time : UInt64) : Option UInt64 :=
  sum? (dayStart time) secondsPerDay

/-- **Reads a time**: a number of seconds below `2 ^ 64`, or a day since 1970, with blanks around
it. -/
def parseTime (s : String) : Except DateError UInt64 :=
  let text := trimChars s.toList
  match Decimal.parseWord? text with
  | some n => .ok (UInt64.ofNat n)
  | none =>
    match Day.parse text with
    | .error fault => .error (.malformed (String.ofList text) fault)
    | .ok d =>
      if d.sinceEpoch < 0 then .error (.tooEarly (String.ofList text))
      else .ok (UInt64.ofNat (secondsPerDay.toNat * d.sinceEpoch.toNat))

end LiveSearch
