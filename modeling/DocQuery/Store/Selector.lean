import DocQuery.Error
import DocQuery.Pattern.Basic
import DocQuery.Value.Basic
import DocQuery.Value.Canonical

/-!
# Native filters

A filter is a document of conditions, all of which must hold.  A condition
compares the value on a path with an operand, or combines other filters.  Tests
run from left to right, and those after the first that fails are not looked at.
-/

namespace DocQuery
namespace Selector

abbrev Verdict := Except CriteriaFault Bool

def isOperator (key : String) : Bool :=
  key.toList.head? = some '$'

/-!
# Single comparisons

A list matches when any of its items does.  Only against a list it is compared
as a whole, and only for equality.
-/

def isList : Value → Bool
  | .array _ => true
  | _ => false

def isNull : Canonical → Bool
  | .null => true
  | _ => false

def equals (value : Option Value) (operand : Value) : Bool :=
  match value with
  | none => isNull operand.canonical
  | some (.array items) =>
      if isList operand then (Value.array items).canonical.same operand.canonical
      else items.any fun item => item.canonical.same operand.canonical
  | some v => v.canonical.same operand.canonical

def ordered (operand : Value) (accept : Ordering → Bool) (v : Value) : Bool :=
  match v.canonical.compare? operand.canonical with
  | some o => accept o
  | none => false

def compares (value : Option Value) (operand : Value) (accept : Ordering → Bool) : Bool :=
  match value with
  | none => false
  | some (.array items) => items.any (ordered operand accept)
  | some v => ordered operand accept v

def isMember (value : Option Value) : Value → Verdict
  | .array candidates => .ok (candidates.any (equals value))
  | got => .error (.membershipList got)

def exists? (value : Option Value) : Value → Bool
  | .boolean true => value.isSome
  | _ => value.isNone

/-!
# Patterns
-/

def flagsOf (options : String) : Pattern.Flags :=
  { caseless := options.toList.contains 'i'
    multiLine := options.toList.contains 'm'
    dotMatchesLine := options.toList.contains 's' }

def matchesValue (e : Pattern.Meaning) : Value → Bool
  | .string text => e.matchesText text
  | _ => false

def matchesPattern (value : Option Value) (options : String) : Value → Verdict
  | .string pattern =>
      match Pattern.read? (flagsOf options) pattern with
      | none => .error (.pattern pattern)
      | some e =>
          match value with
          | none => .ok false
          | some (.array items) => .ok (items.any (matchesValue e))
          | some v => .ok (matchesValue e v)
  | got => .error (.patternShape got)

def optionsOf (operators : Document) : String :=
  match Keyed.get? operators "$options" with
  | some (.string options) => options
  | _ => ""

/-!
# Operators
-/

/-- An operator other than negation. -/
def plainOperator (value : Option Value) (options name : String) (operand : Value) : Verdict :=
  match name with
  | "$eq" => .ok (equals value operand)
  | "$ne" => .ok (!equals value operand)
  | "$gt" => .ok (compares value operand (· == .gt))
  | "$gte" => .ok (compares value operand (· != .lt))
  | "$lt" => .ok (compares value operand (· == .lt))
  | "$lte" => .ok (compares value operand (· != .gt))
  | "$in" => isMember value operand
  | "$nin" => (isMember value operand).map (!·)
  | "$exists" => .ok (exists? value operand)
  | "$regex" => matchesPattern value options operand
  | "$options" => .ok true
  | name => .error (.operator name)

mutual

def operators (value : Option Value) (options : String) : List (String × Value) → Verdict
  | [] => .ok true
  | (name, operand) :: rest => do
      if ← operator value options name operand then operators value options rest
      else return false

def operator (value : Option Value) (options name : String) : Value → Verdict
  | .document inner =>
      if name = "$not" then (operators value (optionsOf inner) inner).map (!·)
      else plainOperator value options name (.document inner)
  | operand =>
      if name = "$not" then .error (.negationOperand operand)
      else plainOperator value options name operand

end

/-- A document of operators is known by its first field. -/
def isOperators : Value → Bool
  | .document ((key, _) :: _) => isOperator key
  | _ => false

def condition (value : Option Value) : Value → Verdict
  | .document fields =>
      if isOperators (.document fields) then operators value (optionsOf fields) fields
      else .ok (equals value (.document fields))
  | operand => .ok (equals value operand)

/-!
# Filters
-/

def allKey : String :=
  "$and"

def anyKey : String :=
  "$or"

def noneKey : String :=
  "$nor"

def isCombinator (key : String) : Bool :=
  key = allKey || key = anyKey || key = noneKey

def fieldTest (d : Document) (key : String) (operand : Value) : Verdict :=
  if isOperator key then .error (.topLevelOperator key)
  else condition (d.lookup? key) operand

mutual

def entries (d : Document) : List (String × Value) → Verdict
  | [] => .ok true
  | (key, operand) :: rest => do
      if ← entry d key operand then entries d rest else return false

def entry (d : Document) (key : String) : Value → Verdict
  | .array branches =>
      if key = allKey then allOf d branches
      else if key = anyKey then anyOf d branches
      else if key = noneKey then (anyOf d branches).map (!·)
      else fieldTest d key (.array branches)
  | operand =>
      if isCombinator key then .error (.branchList operand) else fieldTest d key operand

/-- Whether all branches hold; what is no document is passed over. -/
def allOf (d : Document) : List Value → Verdict
  | [] => .ok true
  | .document branch :: rest => do
      if ← entries d branch then allOf d rest else return false
  | _ :: rest => allOf d rest

def anyOf (d : Document) : List Value → Verdict
  | [] => .ok false
  | .document branch :: rest => do
      if ← entries d branch then return true else anyOf d rest
  | _ :: rest => anyOf d rest

end

/-- Whether a document matches a filter; the empty filter matches all. -/
def matches? (filter d : Document) : Verdict :=
  entries d filter

def select (filter : Document) : List Document → Except CriteriaFault (List Document)
  | [] => .ok []
  | d :: rest => do
      let matched ← matches? filter d
      let others ← select filter rest
      return if matched then d :: others else others

end Selector
end DocQuery
