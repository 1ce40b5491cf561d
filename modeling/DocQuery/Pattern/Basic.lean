import DocQuery.Pattern.Reader.Class
import DocQuery.Pattern.Reader.Group
import DocQuery.Pattern.Size

/-!
# Patterns

From texts to expressions, and from texts to patterns that match them.
-/

namespace DocQuery
namespace Pattern

/-!
# Reading patterns

A pattern is read from left to right into the innermost open group.  Each part
joins the branch that is being read, and a repetition takes the last part of
it.
-/

/-- A group that is being read: the finished branches and the parts, the last ones first. -/
structure OpenGroup where
  branches : List Tree := []
  parts : List Tree := []
  deriving Repr

namespace OpenGroup

def push (g : OpenGroup) (t : Tree) : OpenGroup :=
  { g with parts := t :: g.parts }

def branch (g : OpenGroup) : Tree :=
  Tree.sequence g.parts.reverse

def endBranch (g : OpenGroup) : OpenGroup :=
  { branches := g.branch :: g.branches }

def tree (g : OpenGroup) : Tree :=
  match g.branches.reverse with
  | [] => g.branch
  | first :: rest => Tree.choice first (rest ++ [g.branch])

def repeatLast? (g : OpenGroup) (least : Nat) (most : Option Nat) : Option OpenGroup :=
  match g.parts with
  | [] => none
  | t :: rest =>
      if t.isRepeatable then some { g with parts := .repeat t least most :: rest } else none

end OpenGroup

/-- The place of a group: the group around it, and what its closing bracket restores. -/
structure Outside where
  group : OpenGroup
  captures : Bool
  changes : FlagChanges
  spaced : Bool
  deriving Repr

structure Reading where
  current : OpenGroup := {}
  /-- The groups around the current one, innermost first. -/
  outer : List Outside := []
  spaced : Bool := false
  names : List (List Char) := []
  deriving Repr

namespace Reading

def push (r : Reading) (t : Tree) : Reading :=
  { r with current := r.current.push t }

def openGroup (r : Reading) (captures : Bool) (changes : FlagChanges) : Reading :=
  { r with
    current := {}
    outer := { group := r.current, captures, changes, spaced := r.spaced } :: r.outer
    spaced := spacedAfter r.spaced changes }

def closeGroup? (r : Reading) : Option Reading :=
  match r.outer with
  | [] => none
  | o :: outer =>
      some { r with
        current := o.group.push (.group o.captures o.changes r.current.tree)
        outer
        spaced := o.spaced }

def openWith? (r : Reading) : Opening → Option Reading
  | .plain => some (r.openGroup true [])
  | .named name =>
      if r.names.contains name then none
      else some ({ r with names := name :: r.names }.openGroup true [])
  | .flagged changes => some (r.openGroup false changes)
  | .setFlags changes =>
      some { r.push (.setFlags changes) with spaced := spacedAfter r.spaced changes }

def repeatLast? (r : Reading) (least : Nat) (most : Option Nat) : Option Reading :=
  (r.current.repeatLast? least most).map fun g => { r with current := g }

end Reading

/-!
# Steps
-/

def readPart? (r : Reading) (c : Char) (rest : List Char) : Option (Reading × List Char) :=
  match c with
  | '(' => do
      let (opening, rest) ← readOpen? r.spaced rest
      let r ← r.openWith? opening
      return (r, rest)
  | ')' => r.closeGroup?.map fun r => (r, rest)
  | '|' => some ({ r with current := r.current.endBranch }, rest)
  | '[' =>
      let (o, rest) := readOpening r.spaced rest
      (readClass? r.spaced (rest.length + 1) o [] rest).map fun (item, rest) =>
        (r.push (.oneOf item), rest)
  | '?' => (r.repeatLast? 0 (some 1)).map fun r => (r, dropLazy rest)
  | '*' => (r.repeatLast? 0 none).map fun r => (r, dropLazy rest)
  | '+' => (r.repeatLast? 1 none).map fun r => (r, dropLazy rest)
  | '\x7b' => do
      let (least, most, rest) ← readCounts? r.spaced rest
      let r ← r.repeatLast? least most
      return (r, rest)
  | '\\' => (readEscape? r.spaced rest).map fun (t, rest) => (r.push t, rest)
  | '.' => some (r.push .dot, rest)
  | '^' => some (r.push (.mark .lineStart), rest)
  | '$' => some (r.push (.mark .lineEnd), rest)
  | c => some (r.push (.literal { char := c }), rest)

/-- Reads part after part.  Each takes a character at least. -/
def readParts? : Nat → Reading → List Char → Option Reading
  | fuel, r, chars =>
      match skipSpace r.spaced chars, fuel with
      | [], _ => some r
      | _ :: _, 0 => none
      | c :: rest, fuel + 1 =>
          match readPart? r c rest with
          | some (r, rest) => readParts? fuel r rest
          | none => none

def readTree? (chars : List Char) : Option Tree :=
  match readParts? chars.length {} chars with
  | some r => if r.outer.isEmpty then some r.current.tree else none
  | none => none

/-!
# Accepted patterns

A text is a pattern when it can be read, its parts do not lie too deep within
each other, it has a meaning under its flags, and that is not too large.
-/

/-- The expression of a pattern, none when it is no pattern. -/
def read? (f : Flags) (pattern : String) : Option Meaning := do
  let t ← readTree? pattern.toList
  if depthLimit < t.depth then none
  else
    let (e, _) ← t.meaning? f
    if e.fits then some e else none

/-!
# Patterns for texts

Patterns that match a given text, and patterns for the wildcards of `like`:
`%` stands for any run of characters and `_` for one.
-/

/-- The characters that mean something in a pattern. -/
def isSpecial (c : Char) : Bool :=
  ['\\', '.', '+', '*', '?', '(', ')', '|', '[', ']', '\x7b', '\x7d', '^', '$', '#', '&', '-',
    '~'].contains c

def escapeChar (c : Char) : List Char :=
  if isSpecial c then ['\\', c] else [c]

def escapeChars (chars : List Char) : List Char :=
  chars.flatMap escapeChar

def escape (text : String) : String :=
  String.ofList (escapeChars text.toList)

def likeChar (c : Char) : List Char :=
  if c = '%' then ['.', '*']
  else if c = '_' then ['.']
  else escapeChar c

def ofLike (text : String) : String :=
  String.ofList ('^' :: (text.toList.flatMap likeChar ++ ['$']))

end Pattern
end DocQuery
