import DocQuery.Number.Binary

/-!
# Number text

A layout fixes how the shortest decimal of a double is written: how ties
between equally near decimals go, whether a whole number keeps `.0`, and from
which size on an exponent is used.
-/

namespace DocQuery
namespace Number

/-!
# Shortest decimals

The shortest decimal of a double is the one with the fewest digits among those
that read back as the same double, and of these the one nearest to its value.
Decimals of `n` digits form a grid, and if a point of the grid reads back then
so does one of the two neighbours of the value on it.
-/

/-- A decimal stands for `digits * 10 ^ exponent`. -/
structure Decimal where
  digits : Nat
  exponent : Int
  deriving DecidableEq, Repr

/-- Which neighbour is taken when the value lies half way between the two. -/
inductive Tie where
  | up
  | even
  deriving DecidableEq, Repr

def decimalLength (n : Nat) : Nat :=
  (Nat.toDigits 10 n).length

/-!
# The interval that reads back

Four times the mantissa leaves room for the half steps to the neighbouring
doubles.  At a power of two the step below is half as wide.  The ends belong
to the interval when the mantissa is even, because reading rounds to even.
-/

structure Interval where
  low : Nat
  value : Nat
  high : Nat
  closed : Bool
  deriving DecidableEq, Repr

def Dyadic.interval (d : Dyadic) : Interval :=
  let narrow := d.mantissa = twoTo 52 ∧ -1074 < d.exponent
  { low := 4 * d.mantissa - (if narrow then 1 else 2)
    value := 4 * d.mantissa
    high := 4 * d.mantissa + 2
    closed := d.mantissa % 2 = 0 }

def Interval.holds (i : Interval) (lowSide point highSide : Nat) : Bool :=
  if i.closed then lowSide ≤ point && point ≤ highSide
  else lowSide < point && point < highSide

/-- Multiplies by `2 ^ e` on the left or on the right, whichever keeps both sides whole. -/
def scaleTwo (e : Int) (left right : Nat) : Nat × Nat :=
  if 0 ≤ e then (left * twoTo e.toNat, right) else (left, right * twoTo (-e).toNat)

def scaleTen (e : Int) (left right : Nat) : Nat × Nat :=
  if 0 ≤ e then (left * tenTo e.toNat, right) else (left, right * tenTo (-e).toNat)

/-- The number of decimal places before the point: `10 ^ (p - 1) ≤ v < 10 ^ p`. -/
def decadeOf (numerator denominator : Nat) : Int :=
  let e : Int := (decimalLength numerator : Int) - decimalLength denominator
  let (right, left) := scaleTen e denominator numerator
  if right ≤ left then e + 1 else e

/-!
# Search

`onGrid?` looks at the two neighbours of the value among the multiples of
`10 ^ k`, and `shortest` takes the first grid that has a hit.  The search opens
with the power of ten above the value, and seventeen digits always suffice.
-/

def onGrid? (tie : Tie) (i : Interval) (e k : Int) : Option Decimal :=
  -- `unit * 10 ^ k` against `quarter * 2 ^ (e - 2)`, both made whole
  let (quarter, unit) := scaleTwo (e - 2) 1 1
  let (unit, quarter) := scaleTen k unit quarter
  let below := i.value * quarter / unit
  let above := below + 1
  let reads := fun c => 0 < c && i.holds (i.low * quarter) (c * unit) (i.high * quarter)
  let twice := 2 * (i.value * quarter)
  let middle := (below + above) * unit
  match reads below, reads above with
  | false, false => none
  | true, false => some ⟨below, k⟩
  | false, true => some ⟨above, k⟩
  | true, true =>
      if twice < middle then some ⟨below, k⟩
      else if middle < twice then some ⟨above, k⟩
      else
        match tie with
        | .up => some ⟨above, k⟩
        | .even => if below % 2 = 0 then some ⟨below, k⟩ else some ⟨above, k⟩

def shortest (tie : Tie) (d : Dyadic) : Decimal :=
  if d.mantissa = 0 then
    ⟨0, 0⟩
  else
    let (numerator, denominator) := scaleTwo d.exponent d.mantissa 1
    let decade := decadeOf numerator denominator
    let grid := fun (n : Nat) => onGrid? tie d.interval d.exponent (decade - n)
    ((List.range 18).findSome? grid).getD ⟨0, 0⟩

/-!
# Layouts
-/

structure Layout where
  tie : Tie
  /-- What follows a number without decimal places. -/
  wholeEnd : String
  /-- The least and greatest number of places before the point that are written out. -/
  written : Option (Int × Int)
  deriving DecidableEq, Repr

/-- Numbers shown to a reader are written out in full and whole ones carry no point. -/
def shown : Layout :=
  ⟨.up, "", none⟩

/-- Numbers quoted from a JSON text keep their point, and an exponent takes over at both ends. -/
def quoted : Layout :=
  ⟨.even, ".0", some (-4, 16)⟩

def zeros (n : Nat) : String :=
  String.ofList (List.replicate n '0')

def natText (n : Nat) : String :=
  String.ofList (Nat.toDigits 10 n)

def intText (n : Int) : String :=
  if n < 0 then "-" ++ natText n.natAbs else natText n.natAbs

/-- The digits with a point after `places` of them, filled with zeros where there are none. -/
def pointed (wholeEnd : String) (digits : List Char) (places : Int) : String :=
  if (digits.length : Int) ≤ places then
    String.ofList digits ++ zeros (places - digits.length).toNat ++ wholeEnd
  else if 0 < places then
    String.ofList (digits.take places.toNat) ++ "." ++ String.ofList (digits.drop places.toNat)
  else
    "0." ++ zeros (-places).toNat ++ String.ofList digits

def signedText (n : Int) : String :=
  if 0 ≤ n then "+" ++ intText n else intText n

def scientific (digits : List Char) (places : Int) : String :=
  let fraction := digits.drop 1
  String.ofList (digits.take 1)
    ++ (if fraction.isEmpty then "" else "." ++ String.ofList fraction)
    ++ "e" ++ signedText (places - 1)

def Decimal.text (layout : Layout) (d : Decimal) : String :=
  let digits := Nat.toDigits 10 d.digits
  let places := (digits.length : Int) + d.exponent
  match layout.written with
  | none => pointed layout.wholeEnd digits places
  | some (least, greatest) =>
      if least ≤ places ∧ places ≤ greatest then pointed layout.wholeEnd digits places
      else scientific digits places

def text (layout : Layout) (x : Float) : String :=
  let sign := if isNegative x then "-" else ""
  match dyadic? x with
  | some d => sign ++ (shortest layout.tie d).text layout
  | none => if isNaN x then "NaN" else sign ++ "inf"

end Number
end DocQuery
