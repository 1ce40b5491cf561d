/-!
# Bytes in text

Bytes are written as digits of several kinds, and characters as bytes.
-/

namespace DocQuery

/-!
# Hexadecimal text

Bytes are written as two digits each, high digit first.  Written digits are
lower case; digits of either case are read.
-/

namespace Hex

def digit (n : Nat) : Char :=
  if n < 10 then Char.ofNat ('0'.toNat + n) else Char.ofNat ('a'.toNat + (n - 10))

def value? (c : Char) : Option Nat :=
  if '0' ≤ c ∧ c ≤ '9' then some (c.toNat - '0'.toNat)
  else if 'a' ≤ c ∧ c ≤ 'f' then some (c.toNat - 'a'.toNat + 10)
  else if 'A' ≤ c ∧ c ≤ 'F' then some (c.toNat - 'A'.toNat + 10)
  else none

def encode : List UInt8 → List Char
  | [] => []
  | b :: rest => digit (b.toNat / 16) :: digit (b.toNat % 16) :: encode rest

def decode? : List Char → Option (List UInt8)
  | [] => some []
  | [_] => none
  | high :: low :: rest =>
      match value? high, value? low, decode? rest with
      | some h, some l, some bytes => some (UInt8.ofNat (16 * h + l) :: bytes)
      | _, _, _ => none

/-!
# Reading back
-/

theorem value?_digit : ∀ n : Fin 16, value? (digit n) = some n.val := by
  decide

theorem value?_digit_of_lt {n : Nat} (h : n < 16) : value? (digit n) = some n :=
  value?_digit ⟨n, h⟩

theorem encode_length (bytes : List UInt8) :
    (encode bytes).length = 2 * bytes.length := by
  induction bytes with
  | nil =>
      rfl
  | cons b rest ih =>
      simp [encode, ih]
      omega

theorem decode?_encode (bytes : List UInt8) : decode? (encode bytes) = some bytes := by
  induction bytes with
  | nil =>
      rfl
  | cons b rest ih =>
      have hb : b.toNat < 256 := b.toNat_lt
      have hhigh : value? (digit (b.toNat / 16)) = some (b.toNat / 16) :=
        value?_digit_of_lt (by omega)
      have hlow : value? (digit (b.toNat % 16)) = some (b.toNat % 16) :=
        value?_digit_of_lt (by omega)
      have hsum : 16 * (b.toNat / 16) + b.toNat % 16 = b.toNat := by
        omega
      simp [encode, decode?, hhigh, hlow, ih, hsum]

theorem decode?_length {chars : List Char} {bytes : List UInt8}
    (h : decode? chars = some bytes) : chars.length = 2 * bytes.length := by
  fun_induction decode? chars generalizing bytes with
  | case1 =>
      simp at h
      simp [h]
  | case2 =>
      simp at h
  | case3 high low rest hv lv tail htail hlow hhigh ih =>
      simp at h
      simp [← h, ih htail]
      omega
  | case4 =>
      simp at h

end Hex

/-!
# Base64 text

Three bytes become four characters of six bits each.  A last group of one or
two bytes is filled up with `=`.
-/

namespace Base64

def alphabet : List Char :=
  "ABCDEFGHIJKLMNOPQRSTUVWXYZabcdefghijklmnopqrstuvwxyz0123456789+/".toList

def digit (n : Nat) : Char :=
  alphabet.getD n '='

def encode : List UInt8 → List Char
  | [] => []
  | [a] =>
      let n := a.toNat * 16
      [digit (n / 64), digit (n % 64), '=', '=']
  | [a, b] =>
      let n := (a.toNat * 256 + b.toNat) * 4
      [digit (n / 4096), digit (n / 64 % 64), digit (n % 64), '=']
  | a :: b :: c :: rest =>
      let n := (a.toNat * 256 + b.toNat) * 256 + c.toNat
      digit (n / 262144) :: digit (n / 4096 % 64) :: digit (n / 64 % 64) :: digit (n % 64)
        :: encode rest

end Base64

/-!
# Percent signs

In an address a byte may be written as a percent sign and two hexadecimal
digits.  A percent sign without them stands for itself.
-/

namespace Percent

def bytes : List Char → List UInt8
  | [] => []
  | '%' :: high :: low :: rest =>
      match Hex.value? high, Hex.value? low with
      | some h, some l => UInt8.ofNat (16 * h + l) :: bytes rest
      | _, _ => String.utf8EncodeChar '%' ++ bytes (high :: low :: rest)
  | c :: rest => String.utf8EncodeChar c ++ bytes rest

/-- The text that is meant, unless its bytes are no text. -/
def decode? (chars : List Char) : Option String :=
  String.fromUTF8? ⟨(bytes chars).toArray⟩

def isClean : List Char → Bool
  | [] => true
  | '%' :: high :: low :: rest =>
      (Hex.value? high).isSome && (Hex.value? low).isSome && isClean rest
  | c :: rest => c != '%' && isClean rest

end Percent

/-!
# UTF-8

A character is written as one to four bytes.  The characters of a range are
those whose bytes fall into one of some lists of ranges, byte by byte.
-/

namespace Text
namespace Utf8

def encode (n : Nat) : List Nat :=
  if n < 0x80 then [n]
  else if n < 0x800 then [0xc0 + n / 64, 0x80 + n % 64]
  else if n < 0x10000 then [0xe0 + n / 4096, 0x80 + n / 64 % 64, 0x80 + n % 64]
  else [0xf0 + n / 262144, 0x80 + n / 4096 % 64, 0x80 + n / 64 % 64, 0x80 + n % 64]

/-- Where a range must be cut before its ends differ in a block of such a size only as a whole. -/
def cutByBlock? (first last size : Nat) : Option Nat :=
  if first / size = last / size then none
  else if first % size ≠ 0 then some (first - first % size + (size - 1))
  else if last % size ≠ size - 1 then some (last - last % size - 1)
  else none

/-- The last code point before a cut.  A range is cut where the count of bytes changes first. -/
def cut? (first last : Nat) : Option Nat :=
  match [0x7f, 0x7ff, 0xffff].find? fun end_ => first ≤ end_ && end_ < last with
  | some end_ => some end_
  | none => if last < 0x80 then none else [64, 4096, 262144].findSome? (cutByBlock? first last)

/-- The parts of a range that need no cut. -/
def parts : Nat → Nat → Nat → List (Nat × Nat)
  | 0, _, _ => []
  | fuel + 1, first, last =>
      if last < first then []
      else
        match cut? first last with
        | some middle => parts fuel first middle ++ parts fuel (middle + 1) last
        | none => [(first, last)]

/-- The lists of byte ranges of a range of characters; the surrogates have none. -/
def byteRanges (first last : Nat) : List (List (Nat × Nat)) :=
  (parts 24 first (min last 0xd7ff) ++ parts 24 (max first 0xe000) last).map fun r =>
    (encode r.1).zip (encode r.2)

end Utf8
end Text
end DocQuery
