import DocQuery.Pattern.Reader.Space
import DocQuery.Pattern.Tree

/-!
# Escapes

A backslash takes the meaning from a special character, and gives one to some
letters.
-/

namespace DocQuery
namespace Pattern

/-- Whether a backslash may stand before a character that has no need of it. -/
def isEscapable (c : Char) : Bool :=
  c.toNat < 128 && !c.isAlphanum && c != '<' && c != '>'

/-- Control characters that have a letter of their own. -/
def controlChar? : Char → Option Char
  | 'a' => some '\x07'
  | 'f' => some '\x0c'
  | 't' => some '\t'
  | 'n' => some '\n'
  | 'r' => some '\r'
  | 'v' => some '\x0b'
  | _ => none

def classLetter? : Char → Option Shorthand
  | 'd' => some (.letter false .digit)
  | 's' => some (.letter false .space)
  | 'w' => some (.letter false .word)
  | 'D' => some (.letter true .digit)
  | 'S' => some (.letter true .space)
  | 'W' => some (.letter true .word)
  | _ => none

def markLetter? : Char → Option Mark
  | 'A' => some .textStart
  | 'z' => some .textEnd
  | 'B' => some .noBoundary
  | '<' => some .wordStart
  | '>' => some .wordEnd
  | _ => none

/-!
# Characters by number

The number stands in braces, or has a fixed count of digits.  Only two digits
make a byte.
-/

def readNumbered? (spaced : Bool) (count : Nat) (chars : List Char) :
    Option (Tree × List Char) := do
  match skipSpace spaced chars with
  | '\x7b' :: rest =>
      let (digits, rest) ← takeBraced? spaced (rest.length + 1) rest
      let c ← if digits.isEmpty then none else charOfHex? digits
      return (.literal { char := c }, rest)
  | rest =>
      let (digits, rest) ← takeSpaced? spaced count rest
      let c ← charOfHex? digits
      return (.literal { char := c, asByte := count == 2 }, rest)

/-!
# Boundaries

A boundary may be of one side only, which its name in braces tells.
-/

def boundaryOfName? (name : List Char) : Option Mark :=
  match String.ofList name with
  | "start" => some .wordStart
  | "end" => some .wordEnd
  | "start-half" => some .outsideBefore
  | "end-half" => some .outsideAfter
  | _ => none

def isNameChar (c : Char) : Bool :=
  c.isAlpha || c = '-'

/-- Braces without a name count repetitions, and are left to be read as such. -/
def readBoundary? (spaced : Bool) (chars : List Char) : Option (Tree × List Char) :=
  match chars with
  | '\x7b' :: rest =>
      match skipSpace spaced rest with
      | [] => none
      | c :: inner =>
          if isNameChar c then do
            let (name, rest) ← takeBraced? spaced (inner.length + 2) (c :: inner)
            let m ← boundaryOfName? name
            return (.mark m, rest)
          else some (.mark .boundary, chars)
  | _ => some (.mark .boundary, chars)

/-!
# Properties

A property is asked for by one letter, or by a name in braces.  The name may
come with a value, after `:` or `=`, or after `!=` for all other values.
-/

/-- The property of a text in braces, and whether the other values are asked for. -/
def queryOf (text : List Char) : Bool × Query :=
  match Text.cutAt? ['!', '='] text with
  | some (name, value) => (true, .valued name value)
  | none =>
      match (Text.cutAt? [':'] text).or (Text.cutAt? ['='] text) with
      | some (name, value) => (false, .valued name value)
      | none => (false, .named text)

def readProperty? (spaced : Bool) (negated : Bool) (chars : List Char) :
    Option (Tree × List Char) :=
  match skipSpace spaced chars with
  | '\x7b' :: rest =>
      (takeBraced? spaced (rest.length + 1) rest).map fun (text, rest) =>
        let (others, q) := queryOf text
        (.shorthand (.property (negated != others) q), rest)
  | '\\' :: _ => none
  | c :: rest => some (.shorthand (.property negated (.named [c])), rest)
  | [] => none

def readEscape? (spaced : Bool) : List Char → Option (Tree × List Char)
  | [] => none
  | c :: rest =>
      if isEscapable c then some (.literal { char := c }, rest)
      else
        match c with
        | 'x' => readNumbered? spaced 2 rest
        | 'u' => readNumbered? spaced 4 rest
        | 'U' => readNumbered? spaced 8 rest
        | 'p' => readProperty? spaced false rest
        | 'P' => readProperty? spaced true rest
        | 'b' => readBoundary? spaced rest
        | c =>
            match markLetter? c, classLetter? c, controlChar? c with
            | some m, _, _ => some (.mark m, rest)
            | none, some s, _ => some (.shorthand s, rest)
            | none, none, some c => some (.literal { char := c }, rest)
            | none, none, none => none

end Pattern
end DocQuery
