import DocQuery.Calendar.Date

/-!
# Instants

An instant counts milliseconds from the start of 1970.  Its date and time of
day are those of universal time.
-/

namespace DocQuery
namespace Calendar

def millisPerDay : Int :=
  86400000

structure TimeOfDay where
  hour : Nat
  minute : Nat
  second : Nat
  milli : Nat
  deriving DecidableEq, Repr

def TimeOfDay.ofMillis (n : Nat) : TimeOfDay :=
  ⟨n / 3600000, n / 60000 % 60, n / 1000 % 60, n % 1000⟩

def TimeOfDay.toMillis (t : TimeOfDay) : Nat :=
  ((t.hour * 60 + t.minute) * 60 + t.second) * 1000 + t.milli

def midnight (d : Date) : Int :=
  d.toDays * millisPerDay

def dateOf (millis : Int) : Date :=
  Date.ofDays (millis / millisPerDay)

def timeOf (millis : Int) : TimeOfDay :=
  TimeOfDay.ofMillis (millis % millisPerDay).toNat

/-!
# Written instants

Instants before the first date are written as its start, and instants after the
last date as the last nanosecond of it.
-/

def isBeforeDates (millis : Int) : Bool :=
  millis < midnight firstDate

def isAfterDates (millis : Int) : Bool :=
  midnight lastDate + millisPerDay ≤ millis

def dateText (millis : Int) : String :=
  if isBeforeDates millis then firstDate.toText
  else if isAfterDates millis then lastDate.toText
  else (dateOf millis).toText

/-- The time of day, with milliseconds only when there are any. -/
def TimeOfDay.toText (t : TimeOfDay) : String :=
  padded 2 t.hour ++ ":" ++ padded 2 t.minute ++ ":" ++ padded 2 t.second
    ++ (if t.milli = 0 then "" else "." ++ padded 3 t.milli)

def instantText (millis : Int) : String :=
  let time :=
    if isBeforeDates millis then (TimeOfDay.ofMillis 0).toText
    else if isAfterDates millis then "23:59:59.999999999"
    else (timeOf millis).toText
  dateText millis ++ "T" ++ time ++ "Z"

/-!
# Shown instants

In messages the hour is not filled up, and the fraction of the second loses its
trailing zeros but keeps one digit.  Years of more than six digits are not
shown as dates.
-/

def fractionText (milli : Nat) : String :=
  let digits := (padded 3 milli).toList
  let trimmed := (digits.reverse.dropWhile (· == '0')).reverse
  if trimmed.isEmpty then "0" else String.ofList trimmed

def shownInstant (millis : Int) : String :=
  let date := dateOf millis
  let time := timeOf millis
  if -999999 ≤ date.year ∧ date.year ≤ 999999 then
    date.toText ++ " " ++ Number.natText time.hour ++ ":" ++ padded 2 time.minute ++ ":"
      ++ padded 2 time.second ++ "." ++ fractionText time.milli ++ " +00:00:00"
  else
    Number.intText millis

/-!
# Read instants

A date with four-digit year and a time of day, separated by `T` or a space,
with an offset from universal time.  Second sixty is read as the first second
of the next minute, and what a fraction holds beyond milliseconds is cut off.
-/

def readSeparator? : List Char → Option (List Char)
  | c :: rest => if c = 'T' ∨ c = 't' ∨ c = ' ' then some rest else none
  | [] => none

/-- The milliseconds of a fraction of a second, of which one digit at least must be there. -/
def readFraction? (chars : List Char) : Option (Nat × List Char) :=
  match chars with
  | '.' :: rest =>
      let digits := rest.takeWhile (fun c => (digitValue? c).isSome)
      if digits.isEmpty then none
      else
        let (milli, _) := readDigits 3 0 (digits.take 3 ++ List.replicate (3 - digits.length) '0')
        some (milli, rest.drop digits.length)
  | _ => some (0, chars)

/-- The offset from universal time in minutes. -/
def readOffset? (chars : List Char) : Option (Int × List Char) :=
  let signed := fun (sign : Int) (rest : List Char) => do
    let (hours, rest) ← readNumber? 2 2 rest
    let rest ← readChar? ':' rest
    let (minutes, rest) ← readNumber? 2 2 rest
    if hours ≤ 23 ∧ minutes ≤ 59 then some (sign * (hours * 60 + minutes), rest) else none
  match chars with
  | 'Z' :: rest => some (0, rest)
  | 'z' :: rest => some (0, rest)
  | '+' :: rest => signed 1 rest
  | '-' :: rest => signed (-1) rest
  | '\u2212' :: rest => signed (-1) rest
  | _ => none

def instantOfText? (chars : List Char) : Option Int := do
  let (year, rest) ← readNumber? 4 4 chars
  let rest ← readChar? '-' rest
  let (month, rest) ← readNumber? 2 2 rest
  let rest ← readChar? '-' rest
  let (day, rest) ← readNumber? 2 2 rest
  let rest ← readSeparator? rest
  let (hour, rest) ← readNumber? 2 2 rest
  let rest ← readChar? ':' rest
  let (minute, rest) ← readNumber? 2 2 rest
  let rest ← readChar? ':' rest
  let (second, rest) ← readNumber? 2 2 rest
  let (milli, rest) ← readFraction? rest
  let (offset, rest) ← readOffset? rest
  let date : Date := ⟨year, month, day⟩
  if rest.isEmpty ∧ date.isValid ∧ hour ≤ 23 ∧ minute ≤ 59 ∧ second ≤ 60 then
    some (midnight date + (TimeOfDay.toMillis ⟨hour, minute, second, milli⟩ : Nat)
      - offset * 60000)
  else
    none

end Calendar
end DocQuery
