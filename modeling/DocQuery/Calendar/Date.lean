import DocQuery.Number.Text
import DocQuery.Text.Cut

/-!
# Calendar dates

Dates of the Gregorian calendar, extended to all years, and their count of days
from 1 January 1970.  Years start in March for the conversion, so that the leap
day is the last of its year, and repeat after four centuries.
-/

namespace DocQuery
namespace Calendar

structure Date where
  year : Int
  month : Nat
  day : Nat
  deriving DecidableEq, Repr

def isLeap (year : Int) : Bool :=
  year % 4 = 0 && (year % 100 ≠ 0 || year % 400 = 0)

def daysInMonth (year : Int) (month : Nat) : Nat :=
  if month = 2 then (if isLeap year then 29 else 28)
  else if month = 4 ∨ month = 6 ∨ month = 9 ∨ month = 11 then 30
  else 31

def Date.isValid (d : Date) : Bool :=
  1 ≤ d.month && d.month ≤ 12 && 1 ≤ d.day && d.day ≤ daysInMonth d.year d.month

/-!
# Counting days

Four centuries have 146097 days, and 719468 of them lie between 1 March of year
zero and the first day of 1970.
-/

def Date.toDays (d : Date) : Int :=
  let year := if d.month ≤ 2 then d.year - 1 else d.year
  let month : Int := if d.month ≤ 2 then d.month + 9 else d.month - 3
  let era := year / 400
  let yearOfEra := year % 400
  let dayOfYear := (153 * month + 2) / 5 + d.day - 1
  era * 146097 + (yearOfEra * 365 + yearOfEra / 4 - yearOfEra / 100 + dayOfYear) - 719468

def Date.ofDays (days : Int) : Date :=
  let shifted := days + 719468
  let era := shifted / 146097
  let dayOfEra := shifted % 146097
  let yearOfEra :=
    (dayOfEra - dayOfEra / 1460 + dayOfEra / 36524 - dayOfEra / 146096) / 365
  let dayOfYear := dayOfEra - (365 * yearOfEra + yearOfEra / 4 - yearOfEra / 100)
  let month := (5 * dayOfYear + 2) / 153
  let day := dayOfYear - (153 * month + 2) / 5 + 1
  let year := yearOfEra + era * 400
  if month < 10 then ⟨year, (month + 3).toNat, day.toNat⟩
  else ⟨year + 1, (month - 9).toNat, day.toNat⟩

/-!
# Written dates

The year has four digits at least, and a sign outside the years 0 to 9999.
-/

def padded (width n : Nat) : String :=
  let digits := Nat.toDigits 10 n
  String.ofList (List.replicate (width - digits.length) '0' ++ digits)

def yearText (year : Int) : String :=
  if 0 ≤ year ∧ year ≤ 9999 then padded 4 year.toNat
  else (if year < 0 then "-" else "+") ++ padded 4 year.natAbs

def Date.toText (d : Date) : String :=
  yearText d.year ++ "-" ++ padded 2 d.month ++ "-" ++ padded 2 d.day

/-- The first and last dates that are written. -/
def firstDate : Date :=
  ⟨-262143, 1, 1⟩

def lastDate : Date :=
  ⟨262142, 12, 31⟩

/-!
# Read dates

Each number of a date may follow blank space.  A year without sign has at most
four digits; with a sign it may have any number.
-/

def digitValue? (c : Char) : Option Nat :=
  if '0' ≤ c ∧ c ≤ '9' then some (c.toNat - '0'.toNat) else none

/-- Reads at most `limit` digits after the value read so far. -/
def readDigits : Nat → Nat → List Char → Nat × List Char
  | 0, value, chars => (value, chars)
  | _, value, [] => (value, [])
  | limit + 1, value, c :: rest =>
      match digitValue? c with
      | some d => readDigits limit (10 * value + d) rest
      | none => (value, c :: rest)

/-- Reads a number of `least` to `most` digits. -/
def readNumber? (least most : Nat) (chars : List Char) : Option (Nat × List Char) :=
  let (value, rest) := readDigits most 0 chars
  if least ≤ chars.length - rest.length then some (value, rest) else none

def readChar? (c : Char) : List Char → Option (List Char)
  | head :: rest => if head = c then some rest else none
  | [] => none

def readYear? (chars : List Char) : Option (Int × List Char) :=
  match chars with
  | '-' :: rest => (readNumber? 1 rest.length rest).map fun (n, rest) => (-(n : Int), rest)
  | '+' :: rest => (readNumber? 1 rest.length rest).map fun (n, rest) => ((n : Int), rest)
  | _ => (readNumber? 1 4 chars).map fun (n, rest) => ((n : Int), rest)

def Date.ofText? (chars : List Char) : Option Date := do
  let (year, rest) ← readYear? (Text.trimStart chars)
  let rest ← readChar? '-' rest
  let (month, rest) ← readNumber? 1 2 (Text.trimStart rest)
  let rest ← readChar? '-' rest
  let (day, rest) ← readNumber? 1 2 (Text.trimStart rest)
  let date : Date := ⟨year, month, day⟩
  if rest.isEmpty ∧ date.isValid ∧ firstDate.year ≤ year ∧ year ≤ lastDate.year then
    some date
  else
    none

end Calendar
end DocQuery
