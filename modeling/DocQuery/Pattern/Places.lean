import DocQuery.Pattern.Meaning

/-!
# Matching

The places of a text lie before, between and after its characters.  A set of
places is a number: its bit `i` tells whether the place after the first `i`
characters belongs to it.  An expression takes the places where a match can
begin to those where it can end, all at once.  The places of a set or an
assertion are found when a match first comes to them.
-/

namespace DocQuery
namespace Pattern

abbrev Places := Nat

/-- The places that pass a test on the character before them and the one after. -/
def placesWhere (test : Option Char → Option Char → Bool) :
    Option Char → List Char → Places
  | previous, [] => (test previous none).toNat
  | previous, c :: rest =>
      let later := 2 * placesWhere test (some c) rest
      if test previous (some c) then later + 1 else later

def allPlaces (text : List Char) : Places :=
  placesWhere (fun _ _ => true) none text

def placesBefore (text : List Char) (set : Text.CharSet) : Places :=
  placesWhere (fun _ following => isIn set following) none text

def placesOf (text : List Char) (a : Assertion) : Places :=
  placesWhere (fun previous following => a.holds previous following) none text

/-!
# Repetition

Repeating stops early when it changes nothing any more.
-/

/-- The places after exactly so many steps. -/
def advance (step : Places → Places) : Nat → Places → Places
  | 0, places => places
  | count + 1, places =>
      if step places = places then places else advance step count (step places)

/-- The places after at most so many steps. -/
def spread (step : Places → Places) : Nat → Places → Places
  | 0, places => places
  | count + 1, places =>
      if places ||| step places = places then places
      else spread step count (places ||| step places)

namespace Expr

/-- The places where a match ends that begins at one of the given places.  No more
repetitions are tried than there are places. -/
def ends (count : Nat) : Expr (Thunk Places) (Thunk Places) → Places → Places
  | empty, places => places
  | step s, places => if places = 0 then 0 else 2 * (places &&& s.get)
  | look l, places => if places = 0 then 0 else places &&& l.get
  | group _ body, places => body.ends count places
  | next first second, places => second.ends count (first.ends count places)
  | or left right, places => left.ends count places ||| right.ends count places
  | .repeat body least most, places =>
      spread (body.ends count) ((most.map (· - least)).getD count)
        (advance (body.ends count) least places)

/-- Whether some stretch of the text matches. -/
def matchesText (e : Meaning) (text : String) : Bool :=
  let chars := text.toList
  let e := e.map (fun s => Thunk.mk fun _ => placesBefore chars s)
    (fun a => Thunk.mk fun _ => placesOf chars a)
  e.ends (chars.length + 1) (allPlaces chars) != 0

end Expr
end Pattern
end DocQuery
