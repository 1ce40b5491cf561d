import DocQuery.Pattern.Property.Query
import DocQuery.Pattern.Tree

/-!
# What patterns mean

Under its flags a tree is an expression over sets of characters and assertions.
Flags that are set within a group hold for the rest of it, over all branches.
-/

namespace DocQuery
namespace Pattern

open Text (CharSet)

/-!
# Sets of classes

What a class holds under the flags.  Without Unicode a class holds some of the
first 128 characters, and one that would hold more is no class.
-/

/-!
# Class letters and properties
-/

def ClassLetter.set (f : Flags) : ClassLetter → CharSet
  | digit => if f.unicode then Property.digit else (namedSet? "digit").getD .empty
  | space => if f.unicode then Property.space else (namedSet? "space").getD .empty
  | word => if f.unicode then Property.word else (namedSet? "word").getD .empty

def negate? (f : Flags) (negated : Bool) (set : CharSet) : Option CharSet :=
  if !negated then some set
  else if f.unicode then some (.complement set)
  else none

/-- A set ignores case before its complement is taken. -/
def foldAndNegate? (f : Flags) (negated : Bool) (set : CharSet) : Option CharSet :=
  negate? f negated (f.fold set)

/-- Class letters ignore case as they are. -/
def Shorthand.set? (f : Flags) : Shorthand → Option CharSet
  | letter negated l => negate? f negated (l.set f)
  | property negated q => do
      let set ← q.set?
      if f.unicode then foldAndNegate? f negated set else none

/-!
# Bracketed classes
-/

def SetOperator.apply : SetOperator → CharSet → CharSet → CharSet
  | common => .common
  | without => .without
  | difference => .difference

def rangeSet? (f : Flags) (first last : Literal) : Option CharSet :=
  if f.unicode ∨ (first.char.toNat < 128 ∧ last.char.toNat < 128) then
    some (.range first.char.toNat last.char.toNat)
  else none

namespace ClassTree

def set? (f : Flags) : ClassTree → Option CharSet
  | nothing => some .empty
  | range first last => rangeSet? f first last
  | named negated set => foldAndNegate? f negated set
  | shorthand s => s.set? f
  | bracket negated inner => do
      let set ← inner.set? f
      foldAndNegate? f negated set
  | also first rest => do
      let a ← first.set? f
      let b ← rest.set? f
      return .union a b
  | combine operator left right => do
      let a ← left.set? f
      let b ← right.set? f
      return operator.apply (f.fold a) (f.fold b)

end ClassTree

/-!
# Expressions

An expression is built from steps over one character and looks at a place.  What
tells the characters of a step and the places of a look is left open: it may be
a set and a condition, or, once the text is known, places in the text.
-/

inductive Expr (Step Look : Type) where
  | empty
  | step (s : Step)
  | look (l : Look)
  | group (captures : Bool) (body : Expr Step Look)
  | next (first second : Expr Step Look)
  | or (left right : Expr Step Look)
  | repeat (body : Expr Step Look) (least : Nat) (most : Option Nat)
  deriving Repr

namespace Expr

def map (f : α → γ) (g : β → δ) : Expr α β → Expr γ δ
  | empty => empty
  | step s => step (f s)
  | look l => look (g l)
  | group captures body => group captures (body.map f g)
  | next first second => next (first.map f g) (second.map f g)
  | or left right => or (left.map f g) (right.map f g)
  | .repeat body least most => .repeat (body.map f g) least most

end Expr

/-!
# Assertions
-/

/-- What can be asked of the characters before and after a place. -/
inductive Assertion where
  | textStart
  | textEnd
  | lineStart
  | lineEnd
  /-- Lines may also end in a carriage return, with or without a line feed. -/
  | anyLineStart
  | anyLineEnd
  | boundary (word : CharSet)
  | noBoundary (word : CharSet)
  | wordStart (word : CharSet)
  | wordEnd (word : CharSet)
  /-- No word goes on from before the place. -/
  | outsideBefore (word : CharSet)
  | outsideAfter (word : CharSet)
  deriving Repr

def isIn (set : CharSet) : Option Char → Bool
  | some c => set.contains c
  | none => false

def Assertion.holds (previous following : Option Char) : Assertion → Bool
  | textStart => previous.isNone
  | textEnd => following.isNone
  | lineStart => previous.isNone || previous = some '\n'
  | lineEnd => following.isNone || following = some '\n'
  | anyLineStart =>
      previous.isNone || previous = some '\n' || (previous = some '\r' && following ≠ some '\n')
  | anyLineEnd =>
      following.isNone || following = some '\r' || (following = some '\n' && previous ≠ some '\r')
  | boundary word => isIn word previous != isIn word following
  | noBoundary word => isIn word previous == isIn word following
  | wordStart word => !isIn word previous && isIn word following
  | wordEnd word => isIn word previous && !isIn word following
  | outsideBefore word => !isIn word previous
  | outsideAfter word => !isIn word following

def Mark.assertion (f : Flags) : Mark → Assertion
  | lineStart =>
      if !f.multiLine then .textStart
      else if f.carriageReturn then .anyLineStart
      else .lineStart
  | lineEnd =>
      if !f.multiLine then .textEnd
      else if f.carriageReturn then .anyLineEnd
      else .lineEnd
  | textStart => .textStart
  | textEnd => .textEnd
  | boundary => .boundary (ClassLetter.word.set f)
  | noBoundary => .noBoundary (ClassLetter.word.set f)
  | wordStart => .wordStart (ClassLetter.word.set f)
  | wordEnd => .wordEnd (ClassLetter.word.set f)
  | outsideBefore => .outsideBefore (ClassLetter.word.set f)
  | outsideAfter => .outsideAfter (ClassLetter.word.set f)

/-!
# Single characters
-/

abbrev Meaning := Expr CharSet Assertion

def charSet (f : Flags) (c : Char) : CharSet :=
  if !f.caseless then .single c
  else if f.unicode then .unions ((Text.variants c).map .single)
  else .asciiCaseless (.single c)

/-- Without Unicode, bytes beyond the first 128 are no characters. -/
def Literal.set? (f : Flags) (l : Literal) : Option CharSet :=
  if l.asByte ∧ ¬ f.unicode ∧ 128 ≤ l.char.toNat then none else some (charSet f l.char)

def dotSet? (f : Flags) : Option CharSet :=
  if !f.unicode then none
  else if f.dotMatchesLine then some (.range 0 0x10ffff)
  else if f.carriageReturn then some (.complement (.union (.single '\n') (.single '\r')))
  else some (.complement (.single '\n'))

/-!
# Trees
-/

namespace Tree

/-- The meaning under the flags, and the flags for what follows. -/
def meaning? : Tree → Flags → Option (Meaning × Flags)
  | empty, f => some (.empty, f)
  | setFlags changes, f => some (.empty, f.apply changes)
  | literal l, f => (l.set? f).map fun s => (.step s, f)
  | dot, f => (dotSet? f).map fun s => (.step s, f)
  | mark m, f => some (.look (m.assertion f), f)
  | shorthand s, f => (s.set? f).map fun s => (.step s, f)
  | oneOf c, f => (c.set? f).map fun s => (.step s, f)
  | .repeat body least most, f => do
      let (e, f) ← body.meaning? f
      return (.repeat e least most, f)
  | group captures changes body, f => do
      let (e, _) ← body.meaning? (f.apply changes)
      return (.group captures e, f)
  | next first rest, f => do
      let (a, f) ← first.meaning? f
      let (b, f) ← rest.meaning? f
      return (.next a b, f)
  | or first rest, f => do
      let (a, f) ← first.meaning? f
      let (b, f) ← rest.meaning? f
      return (.or a b, f)

end Tree
end Pattern
end DocQuery
