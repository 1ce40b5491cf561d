/-!
# Binary floating-point numbers

A double is taken apart into a sign, a whole mantissa and a power of two, and
is given a place on the number line.  Order and equality of doubles are order
and equality of places, so they can be reasoned about in whole numbers.
-/

namespace DocQuery
namespace Number

/-!
# Powers
-/

def twoTo (n : Nat) : Nat :=
  Nat.pow 2 n

def tenTo (n : Nat) : Nat :=
  Nat.pow 10 n

/-!
# Exact value

A finite double stands for `mantissa * 2 ^ exponent`, negated when `negative`
is set.  The sign is kept apart because zero has two signs.
-/

structure Dyadic where
  negative : Bool
  mantissa : Nat
  exponent : Int
  deriving DecidableEq, Repr

def isNegative (x : Float) : Bool :=
  twoTo 63 ≤ x.toBits.toNat

/-- The bits of a double without its sign. -/
def magnitude (x : Float) : Nat :=
  x.toBits.toNat % twoTo 63

/-- The magnitude of the infinities; what lies above it is not a number. -/
def infiniteMagnitude : Nat :=
  0x7ff0000000000000

def dyadic? (x : Float) : Option Dyadic :=
  let fraction : Nat := magnitude x % twoTo 52
  let biased : Nat := magnitude x / twoTo 52
  if infiniteMagnitude ≤ magnitude x then
    none
  else if biased = 0 then
    some ⟨isNegative x, fraction, -1074⟩
  else
    some ⟨isNegative x, twoTo 52 + fraction, (biased : Int) - 1075⟩

/-!
# Order

The place of a double counts representable steps from zero.  Both zeros have
place zero, and what is not a number has no place.
-/

def place? (x : Float) : Option Int :=
  if infiniteMagnitude < magnitude x then
    none
  else if isNegative x then
    some (-(magnitude x : Int))
  else
    some (magnitude x : Int)

def isNaN (x : Float) : Bool :=
  (place? x).isNone

/-- Equality of numbers: what is not a number equals nothing, itself included. -/
def equal (x y : Float) : Bool :=
  match place? x, place? y with
  | some i, some j => i == j
  | _, _ => false

/-- Order of numbers: none when either side is not a number. -/
def compare? (x y : Float) : Option Ordering :=
  match place? x, place? y with
  | some i, some j => some (compare i j)
  | _, _ => none

/-!
# Whole numbers
-/

/-- The value of a double that is a whole number and not below zero. -/
def whole? (x : Float) : Option Nat :=
  match dyadic? x with
  | none => none
  | some d =>
      if d.mantissa = 0 then
        some 0
      else if d.negative then
        none
      else if 0 ≤ d.exponent then
        some (d.mantissa * twoTo d.exponent.toNat)
      else
        let scale := twoTo (-d.exponent).toNat
        if d.mantissa % scale = 0 then some (d.mantissa / scale) else none

/-- The double nearest to a number that fits into a 64-bit unsigned word. -/
def ofWord (n : Nat) : Float :=
  n.toUInt64.toFloat

/-- The double nearest to a number whose size fits into a 64-bit unsigned word. -/
def ofInt (n : Int) : Float :=
  if n < 0 then -ofWord n.natAbs else ofWord n.natAbs

def maxWord : Nat :=
  twoTo 64 - 1

end Number
end DocQuery
