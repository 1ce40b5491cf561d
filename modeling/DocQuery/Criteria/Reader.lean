import DocQuery.Criteria.Basic
import DocQuery.Error
import DocQuery.Number.Binary
import DocQuery.Text.Cut

/-!
# Reading criteria

Criteria are also written as a loose document.  Its reserved fields give the
parts of the criteria, and without a `where` the other fields are the clause.
-/

namespace DocQuery
namespace Criteria

abbrev Read (α : Type) := Except CriteriaFault α

/-!
# Clauses

Every entry of a clause asks for something, and all of them must hold.  A field
beside a list asks for one of its values, beside a document for the comparisons
in it, and beside anything else for that value.
-/

def anyKey : String :=
  "or"

def allKey : String :=
  "and"

def notKey : String :=
  "not"

/-- The comparison that a key asks for: `not` beside a list asks for none of its values. -/
def comparisonFor (comparison : Comparison) (operand : Value) : Comparison :=
  match comparison, operand with
  | .notEqual, .array _ => .noneOf
  | comparison, _ => comparison

def isList : Value → Bool
  | .array _ => true
  | _ => false

def isText : Value → Bool
  | .string _ => true
  | _ => false

def readTest (field key : String) (operand : Value) : Read Condition :=
  match Comparison.ofKey? key with
  | none => .error (.unknownKey key field)
  | some written =>
      let comparison := comparisonFor written operand
      if comparison.needsList && !isList operand then .error (.keyNeedsList key field)
      else if comparison.needsText && !isText operand then .error (.keyNeedsText key field)
      else .ok (.test field comparison operand)

def readTests (field : String) : List (String × Value) → Read (List Condition)
  | [] => .ok []
  | (key, operand) :: rest => do
      let test ← readTest field key operand
      let tests ← readTests field rest
      return test :: tests

def readField (field : String) (operators : List (String × Value)) : Read Condition := do
  let tests ← readTests field operators
  match Condition.combine? tests with
  | some c => return c
  | none => throw (.noOperators field)

mutual

def readEntries : List (String × Value) → Read (List Condition)
  | [] => .ok []
  | (key, value) :: rest => do
      let c ← readEntry key value
      let cs ← readEntries rest
      return c :: cs

def readEntry (key : String) : Value → Read Condition
  | .array items =>
      if key = notKey then .error (.negationShape (.array items))
      else if key ≠ anyKey ∧ key ≠ allKey then .ok (.test key .anyOf (.array items))
      else if items.isEmpty then .error (.branchesShape key (.array items))
      else do
        let branches ← readBranches key items
        return if key = anyKey then .any branches else .all branches
  | .document fields =>
      if key = anyKey ∨ key = allKey then .error (.branchesShape key (.document fields))
      else if key = notKey then do
        let cs ← readEntries fields
        match Condition.combine? cs with
        | some c => return .negation c
        | none => throw .negationEmpty
      else readField key fields
  | value =>
      if key = anyKey ∨ key = allKey then .error (.branchesShape key value)
      else if key = notKey then .error (.negationShape value)
      else .ok (.test key .equal value)

def readBranches (key : String) : List Value → Read (List Condition)
  | [] => .ok []
  | .document fields :: rest => do
      let cs ← readEntries fields
      match Condition.combine? cs with
      | none => throw (.branchEmpty key)
      | some c =>
          let branches ← readBranches key rest
          return c :: branches
  | other :: _ => .error (.branchShape key other)

end

def readClause (clause : Document) : Read (Option Condition) := do
  let cs ← readEntries clause
  return Condition.combine? cs

/-!
# Sort orders

A sort order is a text of parts between commas, a document of directions, or a
list of sort orders.
-/

def lowerAscii (text : String) : String :=
  String.ofList (text.toList.map Char.toLower)

def directionOfText? (text : String) : Option Direction :=
  if lowerAscii text = "asc" then some .ascending
  else if lowerAscii text = "desc" then some .descending
  else none

def direction? : Value → Option Direction
  | .int32 n => Direction.ofSign? n.toInt
  | .int64 n => Direction.ofSign? n.toInt
  | .double x =>
      if Number.equal x 1 then some .ascending
      else if Number.equal x (-1) then some .descending
      else none
  | .string text => directionOfText? text
  | _ => none

def readDirection (field : String) (value : Value) : Read Direction :=
  match direction? value with
  | some direction => .ok direction
  | none => .error (.direction value field)

def readPart (part : List Char) : Read SortKey :=
  match (Text.words part).map String.ofList with
  | [] => .ok ⟨"", .ascending⟩
  | [field] => .ok ⟨field, .ascending⟩
  | field :: word :: rest => do
      let direction ← readDirection field (.string word)
      match rest with
      | [] => return ⟨field, direction⟩
      | extra :: _ => throw (.sortWord extra)

def readParts : List (List Char) → Read (List SortKey)
  | [] => .ok []
  | part :: rest =>
      if (Text.trim part).isEmpty then readParts rest
      else do
        let key ← readPart part
        let keys ← readParts rest
        return key :: keys

def readSortFields : List (String × Value) → Read (List SortKey)
  | [] => .ok []
  | (field, value) :: rest => do
      let direction ← readDirection field value
      let keys ← readSortFields rest
      return ⟨field, direction⟩ :: keys

mutual

def readSort : Value → Read (List SortKey)
  | .null => .ok []
  | .string text => readParts (Text.splitAt ',' text.toList)
  | .document fields => readSortFields fields
  | .array items => readSorts items
  | got => .error (.sortShape got)

def readSorts : List Value → Read (List SortKey)
  | [] => .ok []
  | item :: rest => do
      let keys ← readSort item
      let others ← readSorts rest
      return keys ++ others

end

/-!
# Amounts, fields and summaries
-/

/-- The whole number that a value stands for, as far as a machine word holds it. -/
def amount? : Value → Option Nat
  | .int32 n => if 0 ≤ n.toInt then some n.toInt.toNat else none
  | .int64 n => if 0 ≤ n.toInt then some n.toInt.toNat else none
  | .double x => (Number.whole? x).map (min Number.maxWord)
  | _ => none

def readAmount (key : String) (d : Document) : Read (Option Nat) :=
  match Keyed.get? d key with
  | none => .ok none
  | some .null => .ok none
  | some value =>
      match amount? value with
      | some n => .ok (some n)
      | none => .error (.amount key value)

def readNames (key : String) : List Value → Read (List String)
  | [] => .ok []
  | .string field :: rest => do
      let fields ← readNames key rest
      return field :: fields
  | other :: _ => .error (.fieldName key other)

def readFieldList (key : String) : Value → Read (List String)
  | .string field => .ok [field]
  | .array items => readNames key items
  | other => .error (.fieldList key other)

def readFields (key : String) (d : Document) : Read (Option (List String)) :=
  match Keyed.get? d key with
  | none => .ok none
  | some value => (readFieldList key value).map some

/-- A choice of no fields at all chooses everything. -/
def readChoice (d : Document) : Read FieldChoice :=
  match Keyed.get? d "select", Keyed.get? d "omit" with
  | none, none => .ok .everything
  | some _, some _ => .error .selectAndOmit
  | some value, none => do
      let fields ← readFieldList "select" value
      return if fields.isEmpty then .everything else .only fields
  | none, some value => do
      let fields ← readFieldList "omit" value
      return if fields.isEmpty then .everything else .without fields

def readCount (d : Document) : Read Bool :=
  match Keyed.get? d "count" with
  | none => .ok false
  | some (.boolean b) => .ok b
  | some other => .error (.countFlag other)

def summariesOf (summary : String → Summary) (fields : Option (List String)) : List Summary :=
  (fields.getD []).map summary

def readGrouping (d : Document) : Read (Option Grouping) := do
  let groupBy ← readFields "groupBy" d
  let sum ← readFields "sum" d
  let average ← readFields "average" d
  let least ← readFields "min" d
  let greatest ← readFields "max" d
  let count ← readCount d
  let requested :=
    groupBy.isSome || sum.isSome || average.isSome || least.isSome || greatest.isSome || count
  let summaries :=
    summariesOf .sum sum ++ summariesOf .average average ++ summariesOf .least least
      ++ summariesOf .greatest greatest ++ (if count then [.count] else [])
  return if requested then some ⟨groupBy.getD [], summaries⟩ else none

/-!
# Whole criteria
-/

def reservedKeys : List String :=
  ["where", "sort", "skip", "limit", "select", "omit", "groupBy", "sum", "average", "min", "max",
    "count"]

def shorthand (d : Document) : Document :=
  d.filter fun entry => !reservedKeys.contains entry.1

def readCondition (d : Document) : Read (Option Condition) :=
  match Keyed.get? d "where" with
  | some (.document clause) => readClause clause
  | some .null => .ok none
  | some other => .error (.clauseShape other)
  | none => readClause (shorthand d)

def readOrder (d : Document) : Read (List SortKey) :=
  match Keyed.get? d "sort" with
  | some value => readSort value
  | none => .ok []

def readAll (d : Document) : Read Criteria := do
  let condition ← readCondition d
  let choice ← readChoice d
  let sort ← readOrder d
  let skip ← readAmount "skip" d
  let limit ← readAmount "limit" d
  let grouping ← readGrouping d
  return { condition, sort, skip, limit, choice, grouping }

def read (d : Document) : Except Error Criteria :=
  (readAll d).mapError .criteria

end Criteria
end DocQuery
