import DocQuery.Text.Bytes

/-!
# Identifiers

Identifiers are a fixed number of bytes, written as hexadecimal digits.
-/

namespace DocQuery

/-!
# Object identifiers

The store's own identifiers are twelve bytes.  Outside the store they are
written as twenty-four hexadecimal digits, and read in either case.
-/

structure ObjectId where
  bytes : List UInt8
  length_bytes : bytes.length = 12
  deriving DecidableEq, Repr

/-- The last `count` bytes of a number, high byte first. -/
def bytesOfNat : Nat → Nat → List UInt8
  | 0, _ => []
  | count + 1, n => bytesOfNat count (n / 256) ++ [UInt8.ofNat (n % 256)]

theorem length_bytesOfNat (count n : Nat) : (bytesOfNat count n).length = count := by
  induction count generalizing n with
  | zero =>
      rfl
  | succ count ih =>
      simp [bytesOfNat, ih]

namespace ObjectId

def toHex (id : ObjectId) : String :=
  String.ofList (Hex.encode id.bytes)

def ofHex? (text : String) : Option ObjectId :=
  match Hex.decode? text.toList with
  | some bytes => if h : bytes.length = 12 then some ⟨bytes, h⟩ else none
  | none => none

/-- The identifier with a given serial number; greater numbers give greater identifiers. -/
def ofSerial (n : Nat) : ObjectId :=
  ⟨bytesOfNat 12 n, length_bytesOfNat 12 n⟩

instance : Ord ObjectId where
  compare a b := compare a.bytes b.bytes

theorem ofHex?_toHex (id : ObjectId) : ofHex? id.toHex = some id := by
  simp [ofHex?, toHex, Hex.decode?_encode, id.length_bytes]

end ObjectId

/-!
# Universally unique identifiers

A UUID is sixteen bytes, written as thirty-two hexadecimal digits with hyphens
after the eighth, twelfth, sixteenth and twentieth.  Three more spellings are
read: without hyphens, in braces, and after `urn:uuid:`.
-/

structure Uuid where
  bytes : List UInt8
  length_bytes : bytes.length = 16
  deriving DecidableEq, Repr

namespace Uuid

def ofBytes? (bytes : List UInt8) : Option Uuid :=
  if h : bytes.length = 16 then some ⟨bytes, h⟩ else none

def toText (u : Uuid) : String :=
  let part := fun start count => Hex.encode ((u.bytes.drop start).take count)
  String.ofList
    (part 0 4 ++ '-' :: part 4 2 ++ '-' :: part 6 2 ++ '-' :: part 8 2 ++ '-' :: part 10 6)

/-- The digits of the hyphenated spelling, when every hyphen is in its place. -/
def unhyphenated? (chars : List Char) : Option (List Char) :=
  let group := fun start count => (chars.drop start).take count
  let hyphens := [8, 13, 18, 23].all fun place => chars[place]? == some '-'
  if chars.length = 36 ∧ hyphens then
    some (group 0 8 ++ group 9 4 ++ group 14 4 ++ group 19 4 ++ group 24 12)
  else
    none

def urnHead : List Char :=
  "urn:uuid:".toList

def digits? (chars : List Char) : Option (List Char) :=
  match chars.length with
  | 32 => some chars
  | 36 => unhyphenated? chars
  | 38 =>
      if chars.head? = some '\x7b' ∧ chars.getLast? = some '\x7d' then
        unhyphenated? (chars.drop 1).dropLast
      else
        none
  | 45 =>
      if (chars.take 9).map Char.toLower = urnHead then unhyphenated? (chars.drop 9) else none
  | _ => none

def ofText? (text : String) : Option Uuid := do
  let digits ← digits? text.toList
  let bytes ← Hex.decode? digits
  ofBytes? bytes

end Uuid
end DocQuery
