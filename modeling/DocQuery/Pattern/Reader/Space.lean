import DocQuery.Text.Bytes
import DocQuery.Text.Cut

/-!
# Space in patterns

A pattern may be written in the spaced style.  Then blank space is skipped, and
so is a comment from `#` to the end of the line.
-/

namespace DocQuery
namespace Pattern

/-- Skips blank space and comments; `comment` tells whether one is open. -/
def skipOver : Bool → List Char → List Char
  | _, [] => []
  | true, c :: rest => skipOver (c != '\n') rest
  | false, c :: rest =>
      if Text.isBlank c then skipOver false rest
      else if c = '#' then skipOver true rest
      else c :: rest

def skipSpace (spaced : Bool) (chars : List Char) : List Char :=
  if spaced then skipOver false chars else chars

/-- The first character that is not blank, `#` before it aside; nothing closes a comment here. -/
def firstBeyond : Bool → List Char → Option Char
  | _, [] => none
  | comment, c :: rest =>
      if Text.isBlank c then firstBeyond comment rest
      else if !comment && c = '#' then firstBeyond true rest
      else some c

/-- The character that decides what a hyphen before it means. -/
def peek? (spaced : Bool) (chars : List Char) : Option Char :=
  if spaced then (firstBeyond false chars).or chars.head? else chars.head?

/-!
# Taking characters

Space may stand between the characters of a number or a name.
-/

def takeSpaced? (spaced : Bool) : Nat → List Char → Option (List Char × List Char)
  | 0, chars => some ([], chars)
  | count + 1, chars =>
      match skipSpace spaced chars with
      | [] => none
      | c :: rest => (takeSpaced? spaced count rest).map fun (taken, rest) => (c :: taken, rest)

def takeBraced? (spaced : Bool) : Nat → List Char → Option (List Char × List Char)
  | 0, _ => none
  | fuel + 1, chars =>
      match skipSpace spaced chars with
      | [] => none
      | '\x7d' :: rest => some ([], rest)
      | c :: rest => (takeBraced? spaced fuel rest).map fun (taken, rest) => (c :: taken, rest)

def takeWhileSpaced (spaced : Bool) (test : Char → Bool) : Nat → List Char → List Char × List Char
  | 0, chars => ([], chars)
  | _, [] => ([], [])
  | fuel + 1, c :: rest =>
      if test c then
        let (taken, rest) := takeWhileSpaced spaced test fuel (skipSpace spaced rest)
        (c :: taken, rest)
      else ([], c :: rest)

/-!
# Characters by number
-/

def charOfNumber? (n : Nat) : Option Char :=
  if h : n.isValidChar then some ⟨n.toUInt32, by
    have small : n < 4294967296 := by
      rcases h with h | h <;> omega
    simpa [UInt32.isValidChar, Nat.toUInt32, UInt32.toNat_ofNat_of_lt' small] using h⟩
  else none

def hexNumber? (digits : List Char) : Option Nat :=
  digits.foldl (fun acc c => do
    let n ← acc
    let d ← Hex.value? c
    return 16 * n + d) (some 0)

def charOfHex? (digits : List Char) : Option Char :=
  (hexNumber? digits).bind charOfNumber?

end Pattern
end DocQuery
