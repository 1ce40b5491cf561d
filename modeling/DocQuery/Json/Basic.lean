import DocQuery.Json.Numeral
import DocQuery.Json.Text

/-!
# JSON values

A JSON text as it is written.  Strings and numbers keep their written form, the
members of an object stay in their order, and a name that occurs twice stays
twice.
-/

namespace DocQuery

inductive Json where
  | null
  | boolean (b : Bool)
  | number (n : Numeral)
  | string (written : List Char)
  | array (items : List Json)
  | object (members : List (List Char × Json))

namespace Json

def whole (n : Nat) : Json :=
  .number (.ofNat n)

def text (s : String) : Json :=
  .string (escaped s)

def record (members : List (String × Json)) : Json :=
  .object (members.map fun m => (escaped m.1, m.2))

/-!
# Printing

A text without blank space.
-/

def stringChars (written : List Char) : List Char :=
  '"' :: (written ++ ['"'])

mutual

def chars : Json → List Char
  | .null => ['n', 'u', 'l', 'l']
  | .boolean true => ['t', 'r', 'u', 'e']
  | .boolean false => ['f', 'a', 'l', 's', 'e']
  | .number n => n.chars
  | .string written => stringChars written
  | .array [] => ['[', ']']
  | .array (item :: rest) => '[' :: (chars item ++ itemChars rest)
  | .object [] => ['\x7b', '\x7d']
  | .object ((name, value) :: rest) =>
      '\x7b' :: (stringChars name ++ ':' :: (chars value ++ memberChars rest))

def itemChars : List Json → List Char
  | [] => [']']
  | item :: rest => ',' :: (chars item ++ itemChars rest)

def memberChars : List (List Char × Json) → List Char
  | [] => ['\x7d']
  | (name, value) :: rest => ',' :: (stringChars name ++ ':' :: (chars value ++ memberChars rest))

end

def print (j : Json) : String :=
  String.ofList (chars j)

/-!
# Reading JSON

A text is read into the one value that it holds, or not at all.
-/

def isBlank (c : Char) : Bool :=
  c = ' ' || c = '\t' || c = '\n' || c = '\r'

def skipBlank (chars : List Char) : List Char :=
  chars.dropWhile isBlank

def readWord? : List Char → List Char → Option (List Char)
  | [], chars => some chars
  | w :: word, c :: rest => if w = c then readWord? word rest else none
  | _ :: _, [] => none

/-!
# Values

Each step uses up fuel, of which there is more than there are characters.
-/

def readName? (chars : List Char) : Option (List Char × List Char) :=
  match skipBlank chars with
  | '"' :: rest =>
      match readWritten? rest with
      | none => none
      | some (name, rest) =>
          match skipBlank rest with
          | ':' :: rest => some (name, rest)
          | _ => none
  | _ => none

mutual

def readValue? : Nat → List Char → Option (Json × List Char)
  | 0, _ => none
  | fuel + 1, chars =>
      match skipBlank chars with
      | '"' :: rest => (readWritten? rest).map fun (written, rest) => (.string written, rest)
      | '[' :: rest =>
          match skipBlank rest with
          | ']' :: rest => some (.array [], rest)
          | rest => (readItems? fuel rest).map fun (items, rest) => (.array items, rest)
      | '\x7b' :: rest =>
          match skipBlank rest with
          | '\x7d' :: rest => some (.object [], rest)
          | rest => (readMembers? fuel rest).map fun (members, rest) => (.object members, rest)
      | 'n' :: rest => (readWord? ['u', 'l', 'l'] rest).map fun rest => (.null, rest)
      | 't' :: rest => (readWord? ['r', 'u', 'e'] rest).map fun rest => (.boolean true, rest)
      | 'f' :: rest => (readWord? ['a', 'l', 's', 'e'] rest).map fun rest => (.boolean false, rest)
      | rest => (Numeral.read? rest).map fun (n, rest) => (.number n, rest)

def readItems? : Nat → List Char → Option (List Json × List Char)
  | 0, _ => none
  | fuel + 1, chars =>
      match readValue? fuel chars with
      | none => none
      | some (item, rest) =>
          match skipBlank rest with
          | ']' :: rest => some ([item], rest)
          | ',' :: rest => (readItems? fuel rest).map fun (items, rest) => (item :: items, rest)
          | _ => none

def readMembers? : Nat → List Char → Option (List (List Char × Json) × List Char)
  | 0, _ => none
  | fuel + 1, chars =>
      match readName? chars with
      | none => none
      | some (name, rest) =>
          match readValue? fuel rest with
          | none => none
          | some (value, rest) =>
              match skipBlank rest with
              | '\x7d' :: rest => some ([(name, value)], rest)
              | ',' :: rest =>
                  (readMembers? fuel rest).map fun (members, rest) =>
                    ((name, value) :: members, rest)
              | _ => none

end

def read? (text : String) : Option Json :=
  let chars := text.toList
  match readValue? (2 * chars.length + 2) chars with
  | some (j, rest) => if (skipBlank rest).isEmpty then some j else none
  | none => none

end Json
end DocQuery
