import DocQuery.Json.Basic
import DocQuery.Keyed
import DocQuery.Number.Text
import DocQuery.Text.Property.Control

/-!
# Shapes of JSON values

Settings are records: objects with known members, of which most may be left
out, or arrays that give the members in order.  Reading one either gives the
record or the first fault in it.  Only what is asked for is given a value, so
that strings and numbers without one do no harm elsewhere.
-/

namespace DocQuery

/-!
# Quoted text

Text in quotes for a message.  Quotes, backslashes and the common control
characters are escaped with a backslash, and characters that would not be seen
are given by their number.
-/

namespace Text

/-- Whether a character would be seen for itself.  Letters that extend others are seen. -/
def isShown (c : Char) : Bool :=
  isVisible c && !isHidden c && (!isExtender c || isOf Category.letters c)

def escapedChar (c : Char) : List Char :=
  if c = '"' then ['\\', '"']
  else if c = '\\' then ['\\', '\\']
  else if c = '\n' then ['\\', 'n']
  else if c = '\r' then ['\\', 'r']
  else if c = '\t' then ['\\', 't']
  else if c = '\x00' then ['\\', '0']
  else if c = ' ' ∨ isShown c then [c]
  else '\\' :: 'u' :: '\x7b' :: (Nat.toDigits 16 c.toNat ++ ['\x7d'])

def quoted (text : String) : String :=
  "\"" ++ String.ofList (text.toList.flatMap escapedChar) ++ "\""

end Text

/-!
# Faults
-/

/-- What is found where something else was expected. -/
inductive Found where
  | null
  | boolean (b : Bool)
  | number (n : Numeral.Value)
  | string (s : String)
  | sequence
  | map
  deriving DecidableEq

inductive ShapeFault where
  | missing (member : String)
  | twice (member : String)
  | wrongKind (found : Found) (expected : String)
  | outOfRange (found : Found) (expected : String)
  | tooShort (length : Nat) (expected : String)
  | tooLong
  | noName
  | unknownName (name : String) (expected : List String)
  | noValue (fault : Json.Fault)
  deriving DecidableEq

namespace ShapeFault

def numeralText : Numeral.Value → String
  | .whole n => "integer `" ++ Number.natText n ++ "`"
  | .negative n => "integer `-" ++ Number.natText n ++ "`"
  | .real x => "floating point `" ++ Number.text Number.quoted x ++ "`"

def kindText : Found → String
  | .null => "null"
  | .boolean b => "boolean `" ++ (if b then "true" else "false") ++ "`"
  | .number n => numeralText n
  | .string s => "string " ++ Text.quoted s
  | .sequence => "sequence"
  | .map => "map"

def namesText (names : List String) : String :=
  ", ".intercalate (names.map fun name => "`" ++ name ++ "`")

def message : ShapeFault → String
  | missing member => "missing field `" ++ member ++ "`"
  | twice member => "duplicate field `" ++ member ++ "`"
  | wrongKind found expected => "invalid type: " ++ kindText found ++ ", expected " ++ expected
  | outOfRange found expected => "invalid value: " ++ kindText found ++ ", expected " ++ expected
  | tooShort length expected =>
      "invalid length " ++ Number.natText length ++ ", expected " ++ expected
  | tooLong => "trailing characters"
  | noName => "expected value"
  | unknownName name expected =>
      "unknown variant `" ++ name ++ "`, expected one of " ++ namesText expected
  | noValue fault => fault.message

end ShapeFault

namespace Shape

abbrev Reader (α : Type) := Json → Except ShapeFault α

/-!
# Single values
-/

def decoded (written : List Char) : Except ShapeFault String :=
  (Json.decodeText written).mapError .noValue

def valued (n : Numeral) : Except ShapeFault Numeral.Value :=
  match n.value? with
  | some v => .ok v
  | none => .error (.noValue .outOfRange)

def found : Json → Except ShapeFault Found
  | .null => .ok .null
  | .boolean b => .ok (.boolean b)
  | .number n => (valued n).map .number
  | .string written => (decoded written).map .string
  | .array _ => .ok .sequence
  | .object _ => .ok .map

def wrongKind (expected : String) : Reader α :=
  fun j => do throw (.wrongKind (← found j) expected)

def text : Reader String
  | .string written => decoded written
  | j => wrongKind "a string" j

def boolean : Reader Bool
  | .boolean b => .ok b
  | j => wrongKind "a boolean" j

def word (expected : String) (bound : Nat) : Reader Nat
  | .number n => do
      match ← valued n with
      | .whole k => if k < bound then .ok k else .error (.outOfRange (.number (.whole k)) expected)
      | .negative k => .error (.outOfRange (.number (.negative k)) expected)
      | .real x => .error (.wrongKind (.number (.real x)) expected)
  | j => wrongKind expected j

def optional (read : Reader α) : Reader (Option α)
  | .null => .ok none
  | j => (read j).map some

/-!
# Names

A name of a fixed list stands alone as a string, or as the only member of an
object, with null for its value.
-/

def lookName (names : List (String × α)) (expected : List String) (name : String) :
    Except ShapeFault α :=
  match Keyed.get? names name with
  | some a => .ok a
  | none => .error (.unknownName name expected)

def oneOf (names : List (String × α)) (expected : List String) : Reader α
  | .string name => do lookName names expected (← decoded name)
  | .object ((name, value) :: rest) => do
      let a ← lookName names expected (← decoded name)
      match value, rest with
      | .null, [] => .ok a
      | .null, _ => .error .noName
      | j, _ => wrongKind "unit" j
  | _ => .error .noName

/-!
# Maps

A name that occurs twice keeps its place and takes the later value.
-/

def mapMembers (read : Reader α) :
    Keyed α → List (List Char × Json) → Except ShapeFault (Keyed α)
  | entries, [] => .ok entries
  | entries, (name, value) :: rest => do
      let name ← decoded name
      let a ← read value
      mapMembers read (Keyed.insert entries name a) rest

def map (read : Reader α) : Reader (Keyed α)
  | .object members => mapMembers read [] members
  | j => wrongKind "a map" j

/-!
# Records
-/

structure Member (σ : Type) where
  name : String
  /-- A second name under which the member is accepted. -/
  otherName : Option String := none
  required : Bool := false
  put : σ → Json → Except ShapeFault σ

structure Record (σ : Type) where
  title : String
  start : σ
  members : List (Member σ)

namespace Member

def answersTo (m : Member σ) (name : String) : Bool :=
  m.name = name || m.otherName = some name

/-- A member whose value is read on its own and then stored. -/
def of (name : String) (read : Reader α) (store : σ → α → σ) : Member σ :=
  { name := name, put := fun s j => (read j).map (store s) }

end Member

namespace Record

/-- Reads the members of an object; `seen` lists those read already. -/
def readMembers (members : List (Member σ)) :
    List String → σ → List (List Char × Json) → Except ShapeFault (σ × List String)
  | seen, s, [] => .ok (s, seen)
  | seen, s, (name, value) :: rest => do
      let name ← decoded name
      match members.find? (fun m => m.answersTo name) with
      | none => readMembers members seen s rest
      | some m =>
          if seen.contains m.name then .error (.twice m.name)
          else
            let s ← m.put s value
            readMembers members (m.name :: seen) s rest

def requireMembers (seen : List String) : List (Member σ) → Except ShapeFault Unit
  | [] => .ok ()
  | m :: rest =>
      if m.required && !seen.contains m.name then .error (.missing m.name)
      else requireMembers seen rest

/-- Reads members that are given in order; `place` counts those read already. -/
def readItems (expected : String) (place : Nat) :
    List (Member σ) → σ → List Json → Except ShapeFault σ
  | [], s, [] => .ok s
  | [], _, _ :: _ => .error .tooLong
  | m :: rest, s, [] =>
      if m.required then .error (.tooShort place expected)
      else readItems expected (place + 1) rest s []
  | m :: rest, s, value :: values => do
      let s ← m.put s value
      readItems expected (place + 1) rest s values

def read (r : Record σ) : Reader σ
  | .object members => do
      let (s, seen) ← readMembers r.members [] r.start members
      requireMembers seen r.members
      return s
  | .array items =>
      let expected :=
        r.title ++ " with " ++ Number.natText r.members.length ++ " elements"
      readItems expected 0 r.members r.start items
  | j => wrongKind r.title j

end Record
end Shape
end DocQuery
