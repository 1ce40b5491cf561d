import DocQuery.Criteria.Basic
import DocQuery.Pattern.Basic
import DocQuery.Query.Native
import DocQuery.Schema.Conversion
import DocQuery.Schema.Written

/-!
# Compiling criteria

Criteria become a native query under the schema of their collection.  Operands
take their stored form, and fields their stored names.
-/

namespace DocQuery

structure Compiler where
  schema : Schema
  settings : Settings

namespace Compiler

/-!
# Operands
-/

def encodeItems (encoder : Value → Except ValueFault Value) :
    List Value → Except ValueFault (List Value)
  | [] => .ok []
  | v :: rest => do
      let v ← encoder v
      let vs ← encodeItems encoder rest
      return v :: vs

/-- Encodes a value, or each item of a list. -/
def encodeEach (encoder : Value → Except ValueFault Value) : Value → Except ValueFault Value
  | .array items => (encodeItems encoder items).map .array
  | v => encoder v

def operand (c : Compiler) (field : String) (value : Value) : Except Error Value :=
  if c.schema.isIdentifier field then
    value.parseIdentifier.mapError .identifier
  else
    match (c.schema.kind? field).bind AttributeKind.encoder? with
    | some encoder => (encodeEach encoder value).mapError fun fault => .criteria (.operand fault)
    | none => .ok value

/-!
# Tests

Without regard to case, texts are compared by patterns, where the field holds
text as far as the schema knows.
-/

def patternTest (c : Compiler) (pattern : String) : Document :=
  let regex := ("$regex", Value.string pattern)
  if c.settings.caseSensitive then [regex] else [regex, ("$options", .string "i")]

def wholeText (text : String) : String :=
  "^" ++ Pattern.escape text ++ "$"

def holdsText (c : Compiler) (field : String) : Bool :=
  match c.schema.kind? field with
  | none => true
  | some kind => kind = .string || kind = .text

def foldsCase (c : Compiler) (field : String) : Bool :=
  !c.settings.caseSensitive && !c.schema.isIdentifier field && c.holdsText field

def operandTest (c : Compiler) (key field : String) (value : Value) : Except Error Document := do
  let value ← c.operand field value
  return [(key, value)]

def listTest (c : Compiler) (key field : String) (comparison : Comparison) :
    Value → Except Error Document
  | .array items => c.operandTest key field (.array items)
  | got => .error (.criteria (.needsList comparison field got))

def textTest (c : Compiler) (field : String) (comparison : Comparison)
    (pattern : String → String) : Value → Except Error Document
  | .string text => .ok (c.patternTest (pattern text))
  | got => .error (.criteria (.needsText comparison field got))

def operators (c : Compiler) (field : String) (comparison : Comparison) (value : Value) :
    Except Error Document :=
  match comparison with
  | .equal =>
      match value, c.foldsCase field with
      | .string text, true => .ok (c.patternTest (wholeText text))
      | value, _ => c.operandTest "$eq" field value
  | .notEqual =>
      match value, c.foldsCase field with
      | .string text, true => .ok [("$not", .document (c.patternTest (wholeText text)))]
      | value, _ => c.operandTest "$ne" field value
  | .greater => c.operandTest "$gt" field value
  | .atLeast => c.operandTest "$gte" field value
  | .less => c.operandTest "$lt" field value
  | .atMost => c.operandTest "$lte" field value
  | .anyOf => c.listTest "$in" field comparison value
  | .noneOf => c.listTest "$nin" field comparison value
  | .like => c.textTest field comparison Pattern.ofLike value
  | .contains => c.textTest field comparison Pattern.escape value
  | .startsWith => c.textTest field comparison (fun text => "^" ++ Pattern.escape text) value
  | .endsWith => c.textTest field comparison (fun text => Pattern.escape text ++ "$") value
  | .pattern => c.textTest field comparison id value

/-!
# Conditions
-/

mutual

def filter (c : Compiler) : Condition → Except Error Document
  | .all conditions =>
      if conditions.isEmpty then .error (.criteria .noOperands)
      else do
        let filters ← filters c conditions
        return [("$and", .array filters)]
  | .any conditions =>
      if conditions.isEmpty then .error (.criteria .noOperands)
      else do
        let filters ← filters c conditions
        return [("$or", .array filters)]
  | .negation condition => do
      let negated ← filter c condition
      return [("$nor", .array [.document negated])]
  | .test field comparison value => do
      let condition ← c.operators field comparison value
      return [(storedName field, .document condition)]

def filters (c : Compiler) : List Condition → Except Error (List Value)
  | [] => .ok []
  | condition :: rest => do
      let first ← filter c condition
      let others ← filters c rest
      return .document first :: others

end

/-- No condition at all compiles to the empty filter. -/
def filter? (c : Compiler) : Option Condition → Except Error Document
  | some condition => c.filter condition
  | none => .ok []

/-!
# Grouping

The key of a group is a document of references to the grouping fields, or null
when there are none.  Every summary has an output of its own.
-/

def reference (field : String) : Value :=
  .string ("$" ++ storedName field)

def groupKey (fields : List String) : Value :=
  if fields.isEmpty then .null
  else .document (Keyed.ofList (fields.map fun field => (field, reference field)))

def accumulator : Summary → Document
  | .count => [("$sum", .int32 1)]
  | .sum field => [("$sum", reference field)]
  | .average field => [("$avg", reference field)]
  | .least field => [("$min", reference field)]
  | .greatest field => [("$max", reference field)]

def addOutputs (fields : List String) : Document → List Summary → Except Error Document
  | group, [] => .ok group
  | group, summary :: rest =>
      if Keyed.contains group summary.output || fields.contains summary.output then
        .error (.criteria (.outputTwice summary.output))
      else
        addOutputs fields
          (Keyed.insert group summary.output (.document (accumulator summary))) rest

def groupStage (g : Grouping) : Except Error Document :=
  addOutputs g.fields [(storedIdField, groupKey g.fields)] g.summaries

def pipeline? (filter : Document) : Option Grouping → Except Error (Option (List Document))
  | none => .ok none
  | some g => do
      let group ← groupStage g
      return some [[("$match", .document filter)], [("$group", .document group)]]

/-!
# Options
-/

def projection (fields : List String) (flag : Int32) : Document :=
  Keyed.ofList (fields.map fun field => (storedName field, .int32 flag))

def projection? : FieldChoice → Option Document
  | .everything => none
  | .only fields => some (projection fields 1)
  | .without fields => some (projection fields 0)

def storedKey (key : SortKey) : SortKey :=
  { key with field := storedName key.field }

def options (criteria : Criteria) : FetchOptions :=
  { sort := criteria.sort.map storedKey
    skip := criteria.skip
    limit := criteria.limit
    projection := projection? criteria.choice }

def compile (c : Compiler) (criteria : Criteria) : Except Error NativeQuery := do
  let filter ← c.filter? criteria.condition
  let pipeline ← pipeline? filter criteria.grouping
  return { filter, options := options criteria, pipeline }

end Compiler
end DocQuery
