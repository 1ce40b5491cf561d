import DocQuery.Calendar.Date
import DocQuery.Number.Binary
import DocQuery.Text.Bytes
import DocQuery.Text.Cut

/-!
# Hosts

A host is a server, by name or number and perhaps with a port, or a socket of
the same machine, whose path ends in `.sock`.
-/

namespace DocQuery

/-!
# Machine words in text

A machine word is written in digits, with a sign before them if wanted.  A
number that does not fit into the word is not read.
-/

namespace Number

def readNatural? (digits : List Char) : Option Nat :=
  if digits.isEmpty then none
  else digits.foldlM (fun value c => (Calendar.digitValue? c).map (10 * value + ·)) 0

def readWord? (bits : Nat) (chars : List Char) : Option Nat :=
  let digits :=
    match chars with
    | '+' :: rest => rest
    | _ => chars
  (readNatural? digits).filter (· < twoTo bits)

def readSigned? (bits : Nat) : List Char → Option Int
  | '-' :: digits =>
      ((readNatural? digits).filter (· ≤ twoTo (bits - 1))).map fun n => -(n : Int)
  | chars => (readWord? (bits - 1) chars).map Int.ofNat

theorem readWord?_lt {bits n : Nat} {chars : List Char} (h : readWord? bits chars = some n) :
    n < twoTo bits := by
  simp [readWord?, Option.filter_eq_some_iff] at h
  exact h.2

end Number

/-!
# Servers and sockets
-/

inductive Host where
  | socket (path : String)
  | server (name : String) (port : Option UInt16)
  deriving DecidableEq, Repr

namespace Host

/-!
# Numbers of servers

The number of a server stands in square brackets and has eight groups of
hexadecimal digits.  `::` stands for at least one group of zeros, and the last
two groups may be written as four decimal numbers.
-/

def isGroup (chars : List Char) : Bool :=
  !chars.isEmpty && chars.length ≤ 4 && chars.all fun c => (Hex.value? c).isSome

/-- Whether a text is a number below 256 without zeros before it. -/
def isOctet (chars : List Char) : Bool :=
  ((Number.readNatural? chars).any (· < 256)) && (chars.length == 1 || chars.head? != some '0')

def isFourOctets (chars : List Char) : Bool :=
  let octets := Text.splitAt '.' chars
  octets.length == 4 && octets.all isOctet

def countGroups? : List (List Char) → Option Nat
  | [] => some 0
  | [last] => if isGroup last then some 1 else if isFourOctets last then some 2 else none
  | group :: rest => if isGroup group then (countGroups? rest).map (· + 1) else none

def groups? (chars : List Char) : Option Nat :=
  if chars.isEmpty then some 0 else countGroups? (Text.splitAt ':' chars)

def isNumber (chars : List Char) : Bool :=
  match Text.cutAt? [':', ':'] chars with
  | none => groups? chars == some 8
  | some (front, back) =>
      match groups? front, groups? back with
      | some f, some b => !front.contains '.' && f + b ≤ 7
      | _, _ => false

/-!
# Written hosts
-/

/-- A port may be any number of 16 bits but zero. -/
def readPort? (chars : List Char) : Option UInt16 :=
  ((Number.readWord? 16 chars).filter (· ≠ 0)).map UInt16.ofNat

def readNumbered? (chars : List Char) : Option Host :=
  match Text.cutAt? [']'] chars with
  | none => none
  | some (number, rest) =>
      if isNumber number then
        match rest with
        | [] => some (.server (String.ofList number) none)
        | ':' :: port => (readPort? port).map fun p => .server (String.ofList number) (some p)
        | _ => none
      else none

def readNamed? (chars : List Char) : Option Host :=
  match Text.cutAt? [':'] chars with
  | none => if chars.isEmpty then none else some (.server (String.ofList chars) none)
  | some (name, port) =>
      if name.isEmpty then none
      else (readPort? port).map fun p => .server (String.ofList name) (some p)

def read? (chars : List Char) : Option Host :=
  if ".sock".toList.isSuffixOf chars then (Percent.decode? chars).map socket
  else
    match chars with
    | '[' :: rest => readNumbered? rest
    | _ => readNamed? chars

end Host
end DocQuery
