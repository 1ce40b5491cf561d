import DocQuery.Pattern.Reader.Space
import DocQuery.Pattern.Tree
import DocQuery.Text.Property.Letter

/-!
# Groups and repetitions

What a pattern says in its brackets and braces: how a group is opened, and how
often the part before a repetition may stand.
-/

namespace DocQuery
namespace Pattern

/-!
# Flags

Flag letters turn flags on, and those after a minus sign turn them off.  None is
given twice, and a minus sign is followed by a letter.
-/

/-- Reads flag letters up to a colon or a closing bracket, which is left to be read. -/
def readFlags? (on : Bool) (used : List Char) : List Char → Option (FlagChanges × List Char)
  | [] => none
  | c :: rest =>
      if c = ':' ∨ c = ')' then
        if used.head? = some '-' then none else some ([], c :: rest)
      else if used.contains c then none
      else if c = '-' then readFlags? false (c :: used) rest
      else do
        let flag ← Flag.ofLetter? c
        let (changes, rest) ← readFlags? on (c :: used) rest
        return ((flag, on) :: changes, rest)

/-- The last change of the spaced style, if there is one. -/
def spacedAfter (spaced : Bool) (changes : FlagChanges) : Bool :=
  (changes.lookup .ignoreSpace).getD spaced

/-!
# Names
-/

def isNameStart (c : Char) : Bool :=
  c = '_' || Text.isAlphabetic c

def isNamePart (c : Char) : Bool :=
  c = '_' || c = '.' || c = '[' || c = ']' || Text.isAlphabetic c || Text.isNumeric c

def isName : List Char → Bool
  | [] => false
  | c :: rest => isNameStart c && rest.all isNamePart

def readName? (chars : List Char) : Option (List Char × List Char) :=
  let name := chars.takeWhile (· != '>')
  match chars.dropWhile (· != '>') with
  | '>' :: rest => if isName name then some (name, rest) else none
  | _ => none

/-!
# Opening brackets
-/

/-- What an opening bracket begins. -/
inductive Opening where
  | named (name : List Char)
  | plain
  | flagged (changes : FlagChanges)
  /-- Flags for the rest of the group in which they stand. -/
  | setFlags (changes : FlagChanges)
  deriving Repr

def readOpen? (spaced : Bool) (chars : List Char) : Option (Opening × List Char) :=
  match skipSpace spaced chars with
  | '?' :: 'P' :: '<' :: rest => (readName? rest).map fun (name, rest) => (.named name, rest)
  | '?' :: '<' :: '=' :: _ => none
  | '?' :: '<' :: '!' :: _ => none
  | '?' :: '<' :: rest => (readName? rest).map fun (name, rest) => (.named name, rest)
  | '?' :: ')' :: _ => none
  | '?' :: rest =>
      match readFlags? true [] rest with
      | some (changes, ':' :: rest) => some (.flagged changes, rest)
      | some (changes, _ :: rest) => some (.setFlags changes, rest)
      | _ => none
  | rest => some (.plain, rest)

/-!
# Repetitions

A question mark after a repetition asks for the shortest match, which makes no
difference to whether there is one.
-/

def dropLazy : List Char → List Char
  | '?' :: rest => rest
  | chars => chars

def isDecimal (c : Char) : Bool :=
  '0' ≤ c && c ≤ '9'

def countOf (digits : List Char) : Nat :=
  digits.foldl (fun n c => 10 * n + (c.toNat - '0'.toNat)) 0

/-- Reads a count of 32 bits, with blank space around it. -/
def readCount? (spaced : Bool) (chars : List Char) : Option (Nat × List Char) :=
  let (digits, rest) := takeWhileSpaced spaced isDecimal chars.length (Text.trimStart chars)
  if digits.isEmpty ∨ 4294967296 ≤ countOf digits then none
  else some (countOf digits, skipSpace spaced (Text.trimStart rest))

def readCounts? (spaced : Bool) (chars : List Char) :
    Option (Nat × Option Nat × List Char) := do
  let (least, rest) ← readCount? spaced (skipSpace spaced chars)
  let (most, rest) ←
    match rest with
    | ',' :: rest =>
        match skipSpace spaced rest with
        | '\x7d' :: rest => some (none, '\x7d' :: rest)
        | rest => (readCount? spaced rest).map fun (most, rest) => (some most, rest)
    | rest => some (some least, rest)
  match rest with
  | '\x7d' :: rest =>
      if most.all (decide <| least ≤ ·) then
        some (least, most, dropLazy (skipSpace spaced rest))
      else none
  | _ => none

end Pattern
end DocQuery
