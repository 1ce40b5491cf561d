import DocQuery.Text.Bytes

/-!
# Strings in JSON

A string stands in quotes, which are not counted among its written characters.
Quotes, backslashes and control characters are escaped when a text is written,
and other characters may be.
-/

namespace DocQuery
namespace Json

/-- What keeps a string or a number from having a value, although it is well written. -/
inductive Fault where
  | loneUnit
  | brokenPair
  | outOfRange
  deriving DecidableEq, Repr

def Fault.message : Fault → String
  | loneUnit => "lone leading surrogate in hex escape"
  | brokenPair => "unexpected end of hex escape"
  | outOfRange => "number out of range"

def escapedChar (c : Char) : List Char :=
  if c = '"' then ['\\', '"']
  else if c = '\\' then ['\\', '\\']
  else if c = '\x08' then ['\\', 'b']
  else if c = '\x0c' then ['\\', 'f']
  else if c = '\n' then ['\\', 'n']
  else if c = '\r' then ['\\', 'r']
  else if c = '\t' then ['\\', 't']
  else if c < ' ' then
    '\\' :: 'u' :: '0' :: '0' :: [Hex.digit (c.toNat / 16), Hex.digit (c.toNat % 16)]
  else [c]

def escaped (text : String) : List Char :=
  text.toList.flatMap escapedChar

/-!
# Escapes
-/

def plainEscape? (c : Char) : Option Char :=
  match c with
  | '"' => some '"'
  | '\\' => some '\\'
  | '/' => some '/'
  | 'b' => some '\x08'
  | 'f' => some '\x0c'
  | 'n' => some '\n'
  | 'r' => some '\r'
  | 't' => some '\t'
  | _ => none

def unit? (a b c d : Char) : Option Nat := do
  let a ← Hex.value? a
  let b ← Hex.value? b
  let c ← Hex.value? c
  let d ← Hex.value? d
  some (((a * 16 + b) * 16 + c) * 16 + d)

/-!
# Reading

What is written is taken up to the closing quote.  It need only be well written;
whether it stands for a text is asked when the text is needed.
-/

def prependRead (taken : List Char) (read : Option (List Char × List Char)) :
    Option (List Char × List Char) :=
  read.map fun (written, rest) => (taken ++ written, rest)

def readWritten? : List Char → Option (List Char × List Char)
  | [] => none
  | '"' :: rest => some ([], rest)
  | '\\' :: 'u' :: a :: b :: c :: d :: rest =>
      if (unit? a b c d).isSome then prependRead ['\\', 'u', a, b, c, d] (readWritten? rest)
      else none
  | '\\' :: c :: rest =>
      if (plainEscape? c).isSome then prependRead ['\\', c] (readWritten? rest) else none
  | c :: rest => if c < ' ' ∨ c = '\\' then none else prependRead [c] (readWritten? rest)

/-!
# Values

Characters beyond the first 65536 are escaped as pairs of units, of which
neither may stand alone.
-/

def isHighUnit (n : Nat) : Bool :=
  0xd800 ≤ n && n < 0xdc00

def isLowUnit (n : Nat) : Bool :=
  0xdc00 ≤ n && n < 0xe000

def pairChar (high low : Nat) : Char :=
  Char.ofNat (0x10000 + (high - 0xd800) * 0x400 + (low - 0xdc00))

def decode : List Char → Except Fault (List Char)
  | [] => .ok []
  | '\\' :: 'u' :: a :: b :: c :: d :: rest =>
      let n := (unit? a b c d).getD 0
      if isLowUnit n then .error .loneUnit
      else if isHighUnit n then
        match rest with
        | '\\' :: 'u' :: e :: f :: g :: h :: rest =>
            let low := (unit? e f g h).getD 0
            if isLowUnit low then (decode rest).map (pairChar n low :: ·) else .error .loneUnit
        | _ => .error .brokenPair
      else (decode rest).map (Char.ofNat n :: ·)
  | '\\' :: c :: rest => (decode rest).map ((plainEscape? c).getD c :: ·)
  | c :: rest => (decode rest).map (c :: ·)

def decodeText (written : List Char) : Except Fault String :=
  (decode written).map String.ofList

end Json
end DocQuery
