import DocQuery.Text.Case.Fold

/-!
# Sets of characters

A set is put together from ranges and tables of code points.  A caseless set
also holds the characters that differ from one of its own only in case.
-/

namespace DocQuery
namespace Text

/-!
# Tables of ranges

A table holds ranges of code points, both ends included, in rising order.
-/

/-- Halves the part of the table from `low` to `high` that can hold the code point. -/
def searchRanges (ranges : Array (Nat × Nat)) (n : Nat) : Nat → Nat → Nat → Bool
  | 0, _, _ => false
  | steps + 1, low, high =>
      let middle := (low + high) / 2
      match ranges[middle]? with
      | none => false
      | some (first, last) =>
          if high ≤ low then false
          else if n < first then searchRanges ranges n steps low middle
          else if last < n then searchRanges ranges n steps (middle + 1) high
          else true

def inRanges (ranges : Array (Nat × Nat)) (n : Nat) : Bool :=
  searchRanges ranges n (ranges.size + 1) 0 ranges.size

/-!
# Sets
-/

inductive CharSet where
  | empty
  | range (first last : Nat)
  | table (ranges : Array (Nat × Nat))
  | union (a b : CharSet)
  | common (a b : CharSet)
  | without (a b : CharSet)
  | complement (a : CharSet)
  | caseless (a : CharSet)
  /-- Letters beyond the first 128 characters keep their case. -/
  | asciiCaseless (a : CharSet)
  deriving Repr

/-- The other case of a letter among the first 128 characters. -/
def otherCase (c : Char) : Char :=
  if c.isUpper then c.toLower else c.toUpper

namespace CharSet

def single (c : Char) : CharSet :=
  range c.toNat c.toNat

/-- The characters that are in one of two sets, but not in both. -/
def difference (a b : CharSet) : CharSet :=
  without (union a b) (common a b)

def unions (sets : List CharSet) : CharSet :=
  sets.foldl union empty

def points (listed : List Nat) : CharSet :=
  .table (listed.map fun n => (n, n)).toArray

/-!
# Membership

No character stands between `U+D7FF` and `U+E000`.  A range either reaches over
this gap, or ends at it.  When two ranges end at it, a complement takes the space
between them from the wrong ends, and so holds the two ends.
-/

def beforeGap : Char :=
  '\ud7ff'

def afterGap : Char :=
  '\ue000'

def reachesOver (first last : Nat) : Bool :=
  first ≤ beforeGap.toNat && afterGap.toNat ≤ last

mutual

def contains : CharSet → Char → Bool
  | empty, _ => false
  | range first last, c => first ≤ c.toNat && c.toNat ≤ last
  | table ranges, c => inRanges ranges c.toNat
  | union a b, c => a.contains c || b.contains c
  | common a b, c => a.contains c && b.contains c
  | without a b, c => a.contains c && !b.contains c
  | complement a, c =>
      !a.contains c ||
        ((c = beforeGap || c = afterGap) &&
          (a.contains beforeGap && a.contains afterGap && !a.spansGap))
  | caseless a, c => (variants c).any fun d => a.contains d
  | asciiCaseless a, c => a.contains c || a.contains (otherCase c)
termination_by structural set => set

/-- Whether a single range of the set reaches over the gap. -/
def spansGap : CharSet → Bool
  | empty => false
  | range first last => reachesOver first last
  | table ranges => ranges.any fun r => reachesOver r.1 r.2
  | union a b => a.spansGap || b.spansGap
  | common a b => a.spansGap && b.spansGap
  | without a b => a.spansGap && !(b.contains beforeGap || b.contains afterGap)
  | complement a =>
      if a.contains beforeGap then a.contains afterGap && !a.spansGap
      else !a.contains afterGap
  | caseless a => a.spansGap
  | asciiCaseless a => a.spansGap
termination_by structural set => set

end

end CharSet
end Text
end DocQuery
