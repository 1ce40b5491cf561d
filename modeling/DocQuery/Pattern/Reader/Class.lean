import DocQuery.Pattern.Reader.Escape
import DocQuery.Pattern.Tree

/-!
# Reading classes

A class is read from left to right into the innermost open bracket.  Each item
joins the list that is being read, and an operator makes that list its left
operand.
-/

namespace DocQuery
namespace Pattern

/-!
# Named classes

A name stands in brackets and colons within a class.  What only looks like one
is read as a class of its characters.
-/

def readNamed? : List Char → Option (ClassTree × List Char)
  | ':' :: rest =>
      let negated := rest.head? = some '^'
      let inner := if negated then rest.drop 1 else rest
      match inner.dropWhile (· != ':') with
      | ':' :: ']' :: rest =>
          (namedSet? (String.ofList (inner.takeWhile (· != ':')))).map fun s =>
            (.named negated s, rest)
      | _ => none
  | _ => none

/-!
# Items
-/

def readItem? (spaced : Bool) : List Char → Option (Tree × List Char)
  | [] => none
  | '\\' :: rest => readEscape? spaced rest
  | c :: rest => some (.literal { char := c }, rest)

def itemOf? : Tree → Option ClassTree
  | .literal l => some (.range l l)
  | .shorthand s => some (.shorthand s)
  | _ => none

/-- Whether a hyphen is the middle of a range: not before a bracket or another hyphen. -/
def opensRange (spaced : Bool) : List Char → Bool
  | '-' :: rest => peek? spaced rest != some ']' && peek? spaced rest != some '-'
  | _ => false

def rangeOf? : Tree → Tree → Option ClassTree
  | .literal a, .literal b => if a.char ≤ b.char then some (.range a b) else none
  | _, _ => none

def readRange? (spaced : Bool) (chars : List Char) : Option (ClassTree × List Char) := do
  let (first, rest) ← readItem? spaced chars
  let rest := skipSpace spaced rest
  if opensRange spaced rest then
    let (last, rest) ← readItem? spaced (skipSpace spaced (rest.drop 1))
    let item ← rangeOf? first last
    return (item, rest)
  else
    let item ← itemOf? first
    return (item, rest)

/-!
# Open brackets
-/

/-- A bracket that is open: its items, the last one first, and the left operand before them. -/
structure OpenClass where
  negated : Bool
  items : List ClassTree := []
  left : Option (SetOperator × ClassTree) := none
  deriving Repr

namespace OpenClass

def push (o : OpenClass) (item : ClassTree) : OpenClass :=
  { o with items := item :: o.items }

def inner (o : OpenClass) : ClassTree :=
  let list := ClassTree.ofItems o.items.reverse
  match o.left with
  | some (operator, left) => .combine operator left list
  | none => list

def operate (o : OpenClass) (operator : SetOperator) : OpenClass :=
  { o with items := [], left := some (operator, o.inner) }

end OpenClass

/-- Hyphens at the start of a class stand for themselves. -/
def readHyphens (spaced : Bool) (o : OpenClass) : Nat → List Char → OpenClass × List Char
  | fuel + 1, '-' :: rest =>
      readHyphens spaced (o.push (.range ⟨'-', false⟩ ⟨'-', false⟩)) fuel (skipSpace spaced rest)
  | _, chars => (o, chars)

/-- Reads what follows an opening bracket; a closing bracket that comes first is an item. -/
def readOpening (spaced : Bool) (chars : List Char) : OpenClass × List Char :=
  let chars := skipSpace spaced chars
  let negated := chars.head? = some '^'
  let chars := if negated then skipSpace spaced (chars.drop 1) else chars
  match chars with
  | ']' :: rest =>
      ({ negated, items := [.range ⟨']', false⟩ ⟨']', false⟩] }, skipSpace spaced rest)
  | chars => readHyphens spaced { negated } chars.length chars

/-!
# Whole classes
-/

def readClass? (spaced : Bool) :
    Nat → OpenClass → List OpenClass → List Char → Option (ClassTree × List Char)
  | 0, _, _, _ => none
  | fuel + 1, o, outer, chars =>
      match skipSpace spaced chars with
      | [] => none
      | ']' :: rest =>
          let closed := ClassTree.bracket o.negated o.inner
          match outer with
          | [] => some (closed, rest)
          | next :: outer => readClass? spaced fuel (next.push closed) outer rest
      | '&' :: '&' :: rest => readClass? spaced fuel (o.operate .common) outer rest
      | '-' :: '-' :: rest => readClass? spaced fuel (o.operate .without) outer rest
      | '~' :: '~' :: rest => readClass? spaced fuel (o.operate .difference) outer rest
      | '[' :: rest =>
          match readNamed? rest with
          | some (item, rest) => readClass? spaced fuel (o.push item) outer rest
          | none =>
              let (inner, rest) := readOpening spaced rest
              readClass? spaced fuel inner (o :: outer) rest
      | chars =>
          match readRange? spaced chars with
          | some (item, rest) => readClass? spaced fuel (o.push item) outer rest
          | none => none

end Pattern
end DocQuery
