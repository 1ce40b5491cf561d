import DocQuery.Text.CharSet.Basic

/-!
# Pattern trees

A pattern as it is written, before its flags are known.  Chains of parts and of
branches lean to the right: only the second part of a chain is a chain.
-/

namespace DocQuery
namespace Pattern

/-!
# Flags

Flags change what the parts of a pattern mean.  Each one has a letter, by which
a pattern turns it on or off.
-/

inductive Flag where
  | caseless
  | multiLine
  | dotMatchesLine
  | lazyFirst
  | unicode
  | carriageReturn
  | ignoreSpace
  deriving DecidableEq, Repr

def Flag.ofLetter? : Char → Option Flag
  | 'i' => some caseless
  | 'm' => some multiLine
  | 's' => some dotMatchesLine
  | 'U' => some lazyFirst
  | 'u' => some unicode
  | 'R' => some carriageReturn
  | 'x' => some ignoreSpace
  | _ => none

abbrev FlagChanges := List (Flag × Bool)

/-- The flags that change what a pattern matches. -/
structure Flags where
  caseless : Bool := false
  multiLine : Bool := false
  dotMatchesLine : Bool := false
  unicode : Bool := true
  carriageReturn : Bool := false
  deriving DecidableEq, Repr

namespace Flags

def change (f : Flags) : Flag × Bool → Flags
  | (.caseless, on) => { f with caseless := on }
  | (.multiLine, on) => { f with multiLine := on }
  | (.dotMatchesLine, on) => { f with dotMatchesLine := on }
  | (.unicode, on) => { f with unicode := on }
  | (.carriageReturn, on) => { f with carriageReturn := on }
  | (.lazyFirst, _) => f
  | (.ignoreSpace, _) => f

def apply (f : Flags) (changes : FlagChanges) : Flags :=
  changes.foldl change f

/-- Lets a set ignore case where the flags say so. -/
def fold (f : Flags) (set : Text.CharSet) : Text.CharSet :=
  if !f.caseless then set
  else if f.unicode then .caseless set
  else .asciiCaseless set

end Flags

/-!
# Named classes

The classes of the first 128 characters that have a name.
-/

def charRanges (ranges : List (Char × Char)) : Text.CharSet :=
  .unions (ranges.map fun r => .range r.1.toNat r.2.toNat)

def namedRanges : List (String × List (Char × Char)) :=
  [("alnum", [('0', '9'), ('A', 'Z'), ('a', 'z')]),
    ("alpha", [('A', 'Z'), ('a', 'z')]),
    ("ascii", [('\x00', '\x7f')]),
    ("blank", [('\t', '\t'), (' ', ' ')]),
    ("cntrl", [('\x00', '\x1f'), ('\x7f', '\x7f')]),
    ("digit", [('0', '9')]),
    ("graph", [('!', '~')]),
    ("lower", [('a', 'z')]),
    ("print", [(' ', '~')]),
    ("punct", [('!', '/'), (':', '@'), ('[', '\x60'), ('\x7b', '~')]),
    ("space", [('\t', '\r'), (' ', ' ')]),
    ("upper", [('A', 'Z')]),
    ("word", [('0', '9'), ('A', 'Z'), ('_', '_'), ('a', 'z')]),
    ("xdigit", [('0', '9'), ('A', 'F'), ('a', 'f')])]

def namedSet? (name : String) : Option Text.CharSet :=
  (namedRanges.lookup name).map charRanges

/-!
# Characters and shorthands
-/

/-- A character, and whether it is written as a byte: by its number in two digits. -/
structure Literal where
  char : Char
  asByte : Bool := false
  deriving DecidableEq, Repr

inductive ClassLetter where
  | digit
  | space
  | word
  deriving DecidableEq, Repr

/-- A property as it is asked for, by its name alone or with a value. -/
inductive Query where
  | named (name : List Char)
  | valued (name value : List Char)
  deriving DecidableEq, Repr

/-- Classes that have an escape of their own. -/
inductive Shorthand where
  | letter (negated : Bool) (l : ClassLetter)
  | property (negated : Bool) (q : Query)
  deriving DecidableEq, Repr

/-!
# Classes

A class in brackets lists characters, ranges and other classes, and combines
such lists by what they have in common or where they differ.
-/

inductive SetOperator where
  | common
  | without
  | difference
  deriving DecidableEq, Repr

inductive ClassTree where
  | nothing
  | range (first last : Literal)
  | named (negated : Bool) (set : Text.CharSet)
  | shorthand (s : Shorthand)
  | bracket (negated : Bool) (inner : ClassTree)
  | also (first rest : ClassTree)
  | combine (operator : SetOperator) (left right : ClassTree)
  deriving Repr

namespace ClassTree

def ofItems : List ClassTree → ClassTree
  | [] => nothing
  | [item] => item
  | item :: rest => also item (ofItems rest)

def isChain : ClassTree → Bool
  | also _ _ => true
  | _ => false

def depth : ClassTree → Nat
  | nothing => 0
  | range _ _ => 0
  | named _ _ => 0
  | shorthand _ => 0
  | bracket _ inner => inner.depth + 1
  | also first rest => max (first.depth + 1) (if rest.isChain then rest.depth else rest.depth + 1)
  | combine _ left right => max left.depth right.depth + 1

end ClassTree

/-!
# Whole patterns
-/

/-- What a pattern can ask of a place in the text. -/
inductive Mark where
  | lineStart
  | lineEnd
  | textStart
  | textEnd
  | boundary
  | noBoundary
  | wordStart
  | wordEnd
  | outsideBefore
  | outsideAfter
  deriving DecidableEq, Repr

inductive Tree where
  | empty
  | setFlags (changes : FlagChanges)
  | literal (l : Literal)
  | dot
  | mark (m : Mark)
  | shorthand (s : Shorthand)
  | oneOf (c : ClassTree)
  | repeat (body : Tree) (least : Nat) (most : Option Nat)
  | group (captures : Bool) (changes : FlagChanges) (body : Tree)
  | next (first rest : Tree)
  | or (first rest : Tree)
  deriving Repr

namespace Tree

def sequence : List Tree → Tree
  | [] => empty
  | [t] => t
  | t :: rest => next t (sequence rest)

def choice : Tree → List Tree → Tree
  | t, [] => t
  | t, u :: rest => or t (choice u rest)

def isSequence : Tree → Bool
  | next _ _ => true
  | _ => false

def isChoice : Tree → Bool
  | or _ _ => true
  | _ => false

/-- Whether a repetition may stand after a part. -/
def isRepeatable : Tree → Bool
  | empty => false
  | setFlags _ => false
  | _ => true

/-- How deep parts lie within each other.  A chain adds one level, however long it is. -/
def depth : Tree → Nat
  | empty => 0
  | setFlags _ => 0
  | literal _ => 0
  | dot => 0
  | mark _ => 0
  | shorthand _ => 0
  | oneOf c => c.depth
  | .repeat body _ _ => body.depth + 1
  | group _ _ body => body.depth + 1
  | next first rest =>
      max (first.depth + 1) (if rest.isSequence then rest.depth else rest.depth + 1)
  | or first rest => max (first.depth + 1) (if rest.isChoice then rest.depth else rest.depth + 1)

end Tree

def depthLimit : Nat :=
  250

end Pattern
end DocQuery
