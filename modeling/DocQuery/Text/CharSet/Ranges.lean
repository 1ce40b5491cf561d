import DocQuery.Text.CharSet.Basic

/-!
# The ranges of a set

A set is written out as the list of its ranges, in rising order and with a gap
between any two.
-/

namespace DocQuery
namespace Text

abbrev Ranges := List (Nat × Nat)

namespace Ranges

/-- Puts a range before ranges that begin no earlier. -/
def join (first last : Nat) : Ranges → Ranges
  | [] => [(first, last)]
  | (a, b) :: rest =>
      if a ≤ last + 1 then join first (max last b) rest else (first, last) :: (a, b) :: rest

/-- Merges two lists in rising order. -/
def unite : Nat → Ranges → Ranges → Ranges
  | 0, _, _ => []
  | _, [], other => other
  | _, ranges, [] => ranges
  | fuel + 1, (a, b) :: rest, (c, d) :: others =>
      if a ≤ c then join a b (unite fuel rest ((c, d) :: others))
      else join c d (unite fuel ((a, b) :: rest) others)

def union (r s : Ranges) : Ranges :=
  unite (r.length + s.length + 1) r s

/-- The code points from `first` on that are in no range. -/
def gapsFrom (first : Nat) : Ranges → Ranges
  | [] => if first ≤ 0x10ffff then [(first, 0x10ffff)] else []
  | (a, b) :: rest => if first < a then (first, a - 1) :: gapsFrom (b + 1) rest
      else gapsFrom (b + 1) rest

def complement (r : Ranges) : Ranges :=
  gapsFrom 0 r

def common (r s : Ranges) : Ranges :=
  complement (union (complement r) (complement s))

/-- Puts ranges in any order into rising order, by halves. -/
def sorted : Nat → Ranges → Ranges
  | 0, r => r
  | _, [] => []
  | _, [range] => [range]
  | fuel + 1, r =>
      union (sorted fuel (r.take (r.length / 2))) (sorted fuel (r.drop (r.length / 2)))

def ofList (r : Ranges) : Ranges :=
  sorted r.length r

end Ranges

/-!
# Ranges under case
-/

namespace Shift

/-- The code points that a run moves, among those of a range. -/
def sources (s : Shift) (range : Nat × Nat) : Ranges :=
  let first := max s.first range.1
  let last := min s.last range.2
  if last < first then []
  else if s.step = 1 then [(first, last)]
  else
    let start := first + (s.step - (first - s.first) % s.step) % s.step
    (List.range ((last - start) / s.step + (if start ≤ last then 1 else 0))).map fun k =>
      (start + k * s.step, start + k * s.step)

def images (s : Shift) (range : Nat × Nat) : Ranges :=
  (s.sources range).map fun r => (s.apply r.1, s.apply r.2)

/-- The code points that a run moves into a range. -/
def preimages (s : Shift) (range : Nat × Nat) : Ranges :=
  let origin (n : Nat) : Int := n - s.distance
  if origin range.2 < 0 then []
  else s.sources ((origin range.1).toNat, (origin range.2).toNat)

end Shift

namespace Ranges

def caseless (r : Ranges) : Ranges :=
  let folded := union r (ofList (r.flatMap fun range => foldShifts.toList.flatMap (·.images range)))
  union folded
    (ofList (folded.flatMap fun range => foldShifts.toList.flatMap (·.preimages range)))

def asciiCaseless (r : Ranges) : Ranges :=
  let upper := common r [(0x41, 0x5a)]
  let lower := common r [(0x61, 0x7a)]
  union r
    (union (upper.map fun range => (range.1 + 32, range.2 + 32))
      (lower.map fun range => (range.1 - 32, range.2 - 32)))

end Ranges

def CharSet.ranges : CharSet → Ranges
  | empty => []
  | range first last => if first ≤ last then [(first, last)] else []
  | table ranges => ranges.toList
  | union a b => Ranges.union a.ranges b.ranges
  | common a b => Ranges.common a.ranges b.ranges
  | without a b => Ranges.common a.ranges (Ranges.complement b.ranges)
  | complement a => Ranges.complement a.ranges
  | caseless a => Ranges.caseless a.ranges
  | asciiCaseless a => Ranges.asciiCaseless a.ranges

end Text
end DocQuery
