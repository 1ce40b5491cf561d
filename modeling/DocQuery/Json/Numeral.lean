import DocQuery.Calendar.Date
import DocQuery.Number.Text

/-!
# Numerals

A numeral has a whole part without leading zeros, and may have a fraction and
an exponent.  Its value is a whole number when it has neither of them, fits into
a machine word, and is not zero with a minus sign.
-/

namespace DocQuery

structure Numeral where
  negative : Bool := false
  whole : List Char
  fraction : Option (List Char) := none
  exponent : Option Int := none
  deriving DecidableEq, Repr

/-- Whole numbers that fit into a machine word are told apart from all other numbers. -/
inductive Numeral.Value where
  | whole (n : Nat)
  /-- The number `-n`. -/
  | negative (n : Nat)
  | real (x : Float)
  deriving DecidableEq

namespace Numeral

def ofNat (n : Nat) : Numeral :=
  { whole := Nat.toDigits 10 n }

def chars (n : Numeral) : List Char :=
  (if n.negative then ['-'] else []) ++ n.whole
    ++ (n.fraction.map ('.' :: ·)).getD []
    ++ (n.exponent.map fun e => 'e' :: (Number.intText e).toList).getD []

def digitOf (c : Char) : Nat :=
  (Calendar.digitValue? c).getD 0

def isDigit (c : Char) : Bool :=
  '0' ≤ c && c ≤ '9'

def wholeOf (digits : List Char) : Nat :=
  digits.foldl (fun value c => 10 * value + digitOf c) 0

/-!
# Real numbers

A real number is computed from as many of its first digits as a machine word
holds, then multiplied or divided by a power of ten.  Digits of the whole part
that are left over count as zeros, and those of the fraction do not count.
-/

/-- Adds digits to a significand while it fits, and counts those left over. -/
def gather : Nat → List Char → Nat × Nat
  | significand, [] => (significand, 0)
  | significand, c :: rest =>
      let next := 10 * significand + digitOf c
      if next ≤ Number.maxWord then gather next rest else (significand, rest.length + 1)

def powerOfTen (n : Nat) : Float :=
  Float.ofScientific 1 false n

/-- Divides by a power of ten in steps that stay within the range of doubles. -/
def divideTen : Nat → Float → Nat → Float
  | 0, x, n => x / powerOfTen n
  | steps + 1, x, n =>
      if 308 < n then divideTen steps (x / powerOfTen 308) (n - 308) else x / powerOfTen n

/-- A significand times a power of ten; none when that is out of range. -/
def scaled? (significand : Nat) (exponent : Int) : Option Float :=
  let x := Number.ofWord significand
  if significand = 0 then some x
  else if exponent < -1000 then some 0
  else if exponent < 0 then some (divideTen 3 x exponent.natAbs)
  else if 308 < exponent then none
  else
    let y := x * powerOfTen exponent.toNat
    if (Number.dyadic? y).isSome then some y else none

def real? (negative : Bool) (whole fraction : List Char) (exponent : Int) : Option Value :=
  let (significand, left) := gather 0 whole
  let (all, dropped) := gather significand fraction
  let shift : Int := (left : Int) - (fraction.length - dropped : Nat)
  (scaled? all (shift + exponent)).map fun x => .real (if negative then -x else x)

def value? (n : Numeral) : Option Value :=
  let size := wholeOf n.whole
  let isWhole := n.fraction = none ∧ n.exponent = none
  if isWhole ∧ ¬ n.negative ∧ size ≤ Number.maxWord then some (.whole size)
  else if isWhole ∧ n.negative ∧ 1 ≤ size ∧ size ≤ Number.twoTo 63 then some (.negative size)
  else real? n.negative n.whole (n.fraction.getD []) (n.exponent.getD 0)

/-!
# Reading
-/

/-- The digits of a fraction, none when there is no fraction; a point needs a digit. -/
def readFraction? : List Char → Option (Option (List Char) × List Char)
  | '.' :: rest =>
      let digits := rest.takeWhile isDigit
      if digits.isEmpty then none else some (some digits, rest.dropWhile isDigit)
  | chars => some (none, chars)

def readExponentDigits? (sign : Int) (chars : List Char) : Option (Option Int × List Char) :=
  let digits := chars.takeWhile isDigit
  if digits.isEmpty then none else some (some (sign * wholeOf digits), chars.dropWhile isDigit)

def readExponent? : List Char → Option (Option Int × List Char)
  | c :: rest =>
      if c = 'e' ∨ c = 'E' then
        match rest with
        | '-' :: rest => readExponentDigits? (-1) rest
        | '+' :: rest => readExponentDigits? 1 rest
        | _ => readExponentDigits? 1 rest
      else some (none, c :: rest)
  | [] => some (none, [])

def readUnsigned? (negative : Bool) (chars : List Char) : Option (Numeral × List Char) := do
  let whole := chars.takeWhile isDigit
  if whole.isEmpty ∨ (whole.head? = some '0' ∧ whole.length ≠ 1) then none
  else
    let (fraction, rest) ← readFraction? (chars.dropWhile isDigit)
    let (exponent, rest) ← readExponent? rest
    return ({ negative, whole, fraction, exponent }, rest)

def read? : List Char → Option (Numeral × List Char)
  | '-' :: rest => readUnsigned? true rest
  | chars => readUnsigned? false chars

end Numeral
end DocQuery
