/-!
# Comparisons

The ways in which a where-clause compares a field with an operand.  Each is
written under several keys, and some ask for an operand of a certain shape.
-/

namespace DocQuery

inductive Comparison where
  | equal
  | notEqual
  | greater
  | atLeast
  | less
  | atMost
  | anyOf
  | noneOf
  | like
  | contains
  | startsWith
  | endsWith
  | pattern
  deriving DecidableEq, Repr

namespace Comparison

def all : List Comparison :=
  [equal, notEqual, greater, atLeast, less, atMost, anyOf, noneOf, like, contains, startsWith,
    endsWith, pattern]

def name : Comparison → String
  | equal => "Eq"
  | notEqual => "Ne"
  | greater => "Gt"
  | atLeast => "Gte"
  | less => "Lt"
  | atMost => "Lte"
  | anyOf => "AnyOf"
  | noneOf => "NoneOf"
  | like => "Like"
  | contains => "Contains"
  | startsWith => "StartsWith"
  | endsWith => "EndsWith"
  | pattern => "Matches"

/-- The keys under which a where-clause may write a comparison. -/
def keys : Comparison → List String
  | equal => ["=", "eq", "equals"]
  | notEqual => ["!", "!=", "ne", "not"]
  | greater => [">", "gt", "greaterThan"]
  | atLeast => [">=", "gte", "greaterThanOrEqual"]
  | less => ["<", "lt", "lessThan"]
  | atMost => ["<=", "lte", "lessThanOrEqual"]
  | anyOf => ["in"]
  | noneOf => ["nin", "!in", "notIn"]
  | like => ["like"]
  | contains => ["contains"]
  | startsWith => ["startsWith"]
  | endsWith => ["endsWith"]
  | pattern => ["regex", "matches"]

def ofKey? (key : String) : Option Comparison :=
  all.find? fun c => c.keys.contains key

def ofName? (name : String) : Option Comparison :=
  all.find? fun c => c.name = name

def needsText : Comparison → Bool
  | like | contains | startsWith | endsWith | pattern => true
  | _ => false

def needsList : Comparison → Bool
  | anyOf | noneOf => true
  | _ => false

/-!
# Keys name one comparison
-/

theorem mem_all (c : Comparison) : c ∈ all := by
  cases c <;> decide

theorem ofKey?_keys : ∀ c ∈ all, ∀ key ∈ c.keys, ofKey? key = some c := by
  decide

theorem ofKey?_of_mem_keys {c : Comparison} {key : String} (h : key ∈ c.keys) :
    ofKey? key = some c :=
  ofKey?_keys c (mem_all c) key h

theorem mem_keys_of_ofKey? {c : Comparison} {key : String} (h : ofKey? key = some c) :
    key ∈ c.keys := by
  simpa using List.find?_some h

end Comparison
end DocQuery
