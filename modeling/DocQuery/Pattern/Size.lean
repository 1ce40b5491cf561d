import DocQuery.Pattern.Places
import DocQuery.Text.Bytes
import DocQuery.Text.CharSet.Ranges

/-!
# Size

A pattern has a size: the space of the state machine that would read a text byte
by byte to find a match.  Patterns beyond the limit are refused.  As a search
goes forward for the end of a match and backward for its start, the size is
taken both ways.
-/

namespace DocQuery
namespace Pattern

open Text (Ranges)

inductive Direction where
  | forward
  | backward
  deriving DecidableEq, Repr

/-- The space of a state, and of each range of bytes by which it can be left. -/
def stateSize : Nat := 32

def rangeSize : Nat := 8

/-- The space of each way on from a state that reads nothing. -/
def branchSize : Nat := 4

def total (size : α → Nat) (items : List α) : Nat :=
  items.foldl (fun sum item => sum + size item) 0

/-!
# Sets

The characters of a set are read through states that share what follows: going
forward, equal ways to the end are the same; going backward, equal ways from the
start.
-/

/-- The ranges by which a state is left, with the states that follow. -/
abbrev State := List (Nat × Nat × Nat)

/-- The number of a state among those known, which it joins if it is new. -/
def numberOf (s : State) (known : List State) : Nat × List State :=
  match known.idxOf? s with
  | some n => (n, known)
  | none => (known.length, known ++ [s])

/-- Lists of byte ranges that begin alike, taken together. -/
def gathered : List Ranges → List ((Nat × Nat) × List Ranges)
  | [] => []
  | [] :: rest => gathered rest
  | (r :: tail) :: rest =>
      match gathered rest with
      | [] => [(r, [tail])]
      | (s, tails) :: others =>
          if r = s then (s, (tail :: tails)) :: others else (r, [tail]) :: (s, tails) :: others

/-- Adds the states that read some lists of byte ranges; the first number is the end. -/
def addStates : Nat → List Ranges → List State → Nat × List State
  | 0, _, known => (0, known)
  | fuel + 1, lists, known =>
      let groups := gathered lists
      if groups.isEmpty then (0, known)
      else
        let (s, known) := groups.foldl
          (fun (s, known) (range, tails) =>
            let (n, known) := addStates fuel tails known
            (s ++ [(range.1, range.2, n)], known)) (([], known) : State × List State)
        let (n, known) := numberOf s known
        (n + 1, known)

def forwardSize (lists : List Ranges) : Nat :=
  stateSize + total (fun s => stateSize + rangeSize * s.length) (addStates 5 lists []).2

/-- How many members of a list do not begin another list. -/
def newCount : Ranges → Ranges → Nat
  | r :: rest, s :: others => if r = s then newCount rest others else (r :: rest).length
  | rest, _ => rest.length

def newCounts (previous : Ranges) : List Ranges → Nat
  | [] => 0
  | list :: rest => newCount list previous + newCounts list rest

def backwardSize (lists : List Ranges) : Nat :=
  2 * stateSize + branchSize * lists.length + stateSize * newCounts [] lists

def setSize (d : Direction) (r : Ranges) : Nat :=
  if r.all fun range => range.2 < 0x80 then 2 * stateSize + rangeSize * r.length
  else
    let lists := r.flatMap fun range => Text.Utf8.byteRanges range.1 range.2
    match d with
    | .forward => forwardSize lists
    | .backward => backwardSize lists

/-!
# Branches

A branch is a text, a set, or has a size only.  Branches that are all of one
character make a set, and branches that are all texts share their beginnings.
-/

inductive Branch where
  | text (chars : List Nat)
  | set (r : Ranges)
  | other (size : Nat)
  deriving Repr

namespace Branch

/-- A set of one character is a text. -/
def ofRanges : Ranges → Branch
  | [(a, b)] => if a = b then text [a] else set [(a, b)]
  | r => set r

def ranges? : Branch → Option Ranges
  | text [c] => some [(c, c)]
  | set r => some r
  | _ => none

/-- The bytes of a text, the empty one aside. -/
def bytes? (d : Direction) : Branch → Option (List Nat)
  | text [] => none
  | text chars =>
      let bytes := chars.flatMap Text.Utf8.encode
      some (if d = .forward then bytes else bytes.reverse)
  | _ => none

def size (d : Direction) : Branch → Nat
  | text [] => stateSize
  | text chars => stateSize * (chars.flatMap Text.Utf8.encode).length
  | set r => setSize d r
  | other n => n

end Branch

/-- The texts that begin with each byte, less that byte. -/
def byFirst (texts : List (List Nat)) : List (Nat × List (List Nat)) :=
  texts.foldr
    (fun text groups =>
      match text with
      | [] => groups
      | b :: rest =>
          match groups.lookup b with
          | some tails =>
              groups.map fun g => if g.1 = b then (b, rest :: tails) else g
          | none => (b, [rest]) :: groups) []

def textsSize : Nat → List (List Nat) → Nat
  | 0, _ => 0
  | fuel + 1, texts =>
      match byFirst texts with
      | [] => 0
      | groups =>
          stateSize + branchSize
            + (if groups.length = 1 then stateSize else stateSize + rangeSize * groups.length)
            + total (fun g => textsSize fuel g.2) groups

def branchesSize (d : Direction) : List Branch → Nat
  | [b] => b.size d
  | branches =>
      match branches.mapM (Branch.bytes? d) with
      | some texts => stateSize + textsSize (total List.length texts + 1) texts
      | none =>
          total (Branch.size d) branches + 2 * stateSize + branchSize * branches.length

/-!
# Parts

A part is given by its branches, and by the least and the greatest count of
characters that it takes, if it can be met at all.
-/

structure Part where
  branches : List Branch
  shortest : Option Nat
  longest : Option Nat
  deriving Repr

namespace Part

def empty : Part :=
  { branches := [.text []], shortest := some 0, longest := some 0 }

def size (d : Direction) (p : Part) : Nat :=
  branchesSize d p.branches

def ofSet (r : Ranges) : Part :=
  let count := if r.isEmpty then none else some 1
  { branches := [.ofRanges r], shortest := count, longest := count }

def both (f : Nat → Nat → Nat) : Option Nat → Option Nat → Option Nat
  | some a, some b => some (f a b)
  | _, _ => none

def next (d : Direction) (p q : Part) : Part :=
  let branches :=
    match p.branches, q.branches with
    | [.text a], [.text b] => [.text (a ++ b)]
    | [.text []], branches => branches
    | branches, [.text []] => branches
    | _, _ => [.other (p.size d + q.size d)]
  { branches
    shortest := both (· + ·) p.shortest q.shortest
    longest := both (· + ·) p.longest q.longest }

def choice : List Part → Part
  | [p] => p
  | parts =>
      let branches := parts.flatMap Part.branches
      let branches :=
        match branches.mapM Branch.ranges? with
        | some sets => [.ofRanges (sets.foldl Ranges.union [])]
        | none => branches
      let lengths (f : Nat → Nat → Nat) (counts : List (Option Nat)) : Option Nat :=
        (counts.tail.foldl (both f) (counts.head?.getD none))
      { branches
        shortest := lengths min (parts.map Part.shortest)
        longest := lengths max (parts.map Part.longest) }

def repeatSize (size : Nat) (isLong : Bool) : Nat → Option Nat → Nat
  | 0, none =>
      size + stateSize + 2 * branchSize
        + (if isLong then 0 else 2 * stateSize + 2 * branchSize)
  | 0, some 1 => size + 2 * stateSize + 2 * branchSize
  | least, none => least * size + stateSize + 2 * branchSize
  | least, some most =>
      (if least = 0 then stateSize else least * size)
        + (if most ≤ least then 0
          else stateSize + (most - least) * (size + stateSize + 2 * branchSize))

/-- What takes no character is not repeated. -/
def «repeat» (d : Direction) (p : Part) (least : Nat) (most : Option Nat) : Part :=
  let still := p.longest = some 0
  let least := if still then min least 1 else least
  let most := if still then some (min (most.getD 1) 1) else most
  if most = some 0 then empty
  else if least = 1 ∧ most = some 1 then p
  else
    { branches := [.other (repeatSize (p.size d) (p.shortest.any (0 < ·)) least most)]
      shortest := p.shortest.map (least * ·)
      longest := both (· * ·) most p.longest }

end Part

/-!
# Expressions
-/

namespace Expr

def parts (d : Direction) : Meaning → List Part
  | empty => [.empty]
  | step s => [.ofSet s.ranges]
  | look _ => [{ Part.empty with branches := [.other stateSize] }]
  | group captures body =>
      let p := Part.choice (body.parts d)
      if captures then
        let ends := if d = .forward then 2 * stateSize else 0
        [{ p with branches := [.other (p.size d + ends)] }]
      else [p]
  | next first second =>
      [Part.next d (.choice (first.parts d)) (.choice (second.parts d))]
  | or left right => .choice (left.parts d) :: right.parts d
  | .repeat body least most => [Part.repeat d (.choice (body.parts d)) least most]

/-- The size of an expression, with what begins and ends a search. -/
def size (d : Direction) (e : Meaning) : Nat :=
  let around := if d = .forward then 208 else 144
  (Part.choice (e.parts d)).size d + around

def sizeLimit : Nat := 10485760

def fits (e : Meaning) : Bool :=
  e.size .forward ≤ sizeLimit && e.size .backward ≤ sizeLimit

end Expr
end Pattern
end DocQuery
