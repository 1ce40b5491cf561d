import DocQuery.Number.Binary
import DocQuery.Value.Basic

/-!
# Comparable forms

The store compares values by their comparable form.  It forgets the width of
numbers and the order of fields, and takes kinds that cannot be compared for
null.
-/

namespace DocQuery

inductive Canonical where
  | null
  | number (x : Float)
  | string (s : String)
  | map (entries : List (String × Canonical))
  | array (items : List Canonical)
  | binary (bytes : List UInt8)
  | objectId (id : ObjectId)
  | boolean (b : Bool)
  | instant (millis : Int64)

namespace Value

mutual

def canonical : Value → Canonical
  | .boolean b => .boolean b
  | .int32 n => .number (Number.ofInt n.toInt)
  | .int64 n => .number (Number.ofInt n.toInt)
  | .double x => .number x
  | .instant millis => .instant millis
  | .string s => .string s
  | .objectId id => .objectId id
  | .binary _ bytes => .binary bytes
  | .array items => .array (canonicalItems items)
  | .document fields => .map (canonicalFields fields)
  | .null | .undefined | .minKey | .maxKey | .regex _ _ | .timestamp _ _ | .code _
  | .scopedCode _ _ | .symbol _ | .decimal _ => .null

def canonicalItems : List Value → List Canonical
  | [] => []
  | v :: rest => canonical v :: canonicalItems rest

def canonicalFields : List (String × Value) → List (String × Canonical)
  | [] => []
  | (key, v) :: rest => (key, canonical v) :: canonicalFields rest

end

end Value

namespace Canonical

/-!
# Sameness

Numbers are the same by value, so that what is not a number is not even the
same as itself.  Maps are the same when they have equally many entries and each
entry of the one is found in the other.
-/

mutual

def same : Canonical → Canonical → Bool
  | .null, .null => true
  | .boolean a, .boolean b => a = b
  | .number x, .number y => Number.equal x y
  | .instant a, .instant b => a = b
  | .string a, .string b => a = b
  | .objectId a, .objectId b => a = b
  | .binary a, .binary b => a = b
  | .array a, .array b => sameItems a b
  | .map a, .map b => a.length = b.length && sameEntries a b
  | _, _ => false

def sameItems : List Canonical → List Canonical → Bool
  | [], [] => true
  | a :: s, b :: t => same a b && sameItems s t
  | _, _ => false

/-- Every entry of the first list is found in the second. -/
def sameEntries : List (String × Canonical) → List (String × Canonical) → Bool
  | [], _ => true
  | (key, a) :: rest, entries =>
      (match Keyed.get? entries key with
        | some b => same a b
        | none => false) && sameEntries rest entries

end

/-!
# Order

Forms of one kind are ordered within it, arrays and maps excepted.  Between
kinds the rank decides, and so it does where there is no order within a kind.
-/

def rank : Canonical → Nat
  | .null => 0
  | .number _ => 1
  | .string _ => 2
  | .map _ => 3
  | .array _ => 4
  | .binary _ => 5
  | .objectId _ => 6
  | .boolean _ => 7
  | .instant _ => 8

def compare? : Canonical → Canonical → Option Ordering
  | .boolean a, .boolean b => some (compare a b)
  | .number x, .number y => Number.compare? x y
  | .instant a, .instant b => some (compare a.toInt b.toInt)
  | .string a, .string b => some (compare a b)
  | .objectId a, .objectId b => some (compare a b)
  | .binary a, .binary b => some (compare a b)
  | _, _ => none

end Canonical

namespace Value

/-- A field that is missing has the comparable form of null. -/
def canonical? (value : Option Value) : Canonical :=
  (value.map canonical).getD .null

def order (left right : Option Value) : Ordering :=
  let a := canonical? left
  let b := canonical? right
  (a.compare? b).getD (compare a.rank b.rank)

/-!
# Index keys

A unique index tells values apart by their key.  Numbers of all widths meet in
one key; other values keep their build, so that the order of fields and the
width of numbers inside them count.
-/

inductive IndexKey where
  | null
  | number (x : Float)
  | other (v : Value)
  deriving DecidableEq

def indexKey : Option Value → IndexKey
  | none => .null
  | some .null => .null
  | some (.int32 n) => .number (Number.ofInt n.toInt)
  | some (.int64 n) => .number (Number.ofInt n.toInt)
  | some (.double x) => .number x
  | some v => .other v

end Value
end DocQuery
