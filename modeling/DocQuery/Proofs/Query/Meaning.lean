import DocQuery.Query.Compile
import DocQuery.Store.Selector

/-!
# What conditions mean

A condition is true or false of a stored document, and this says which, without
the native filter that the condition is compiled to.  Only the stored form of
operands and the patterns for texts are those of the compiler.
-/

namespace DocQuery

/-!
# Values on a path

A test looks at the items of a list one by one, and at any other value itself.
-/

namespace Value

def elements : Option Value → List Value
  | none => []
  | some (.array items) => items
  | some v => [v]

/-- Values that the store does not tell apart. -/
def Same (a b : Value) : Prop :=
  a.canonical.same b.canonical = true

/-- Lists equal lists as wholes, and other operands equal one of the elements.  What is
missing equals null. -/
def Equals (value : Option Value) (operand : Value) : Prop :=
  (value = none ∧ operand.canonical = .null) ∨
    if Selector.isList operand then ∃ v, value = some v ∧ Same v operand
    else ∃ v ∈ elements value, Same v operand

/-- Some element is ordered with the operand, and in a way that is accepted. -/
def Ordered (value : Option Value) (accept : Ordering → Prop) (operand : Value) : Prop :=
  ∃ v ∈ elements value, ∃ o, v.canonical.compare? operand.canonical = some o ∧ accept o

/-- Some element is a text that the pattern matches. -/
def Fits (f : Pattern.Flags) (value : Option Value) (pattern : String) : Prop :=
  ∃ e, Pattern.read? f pattern = some e ∧
    ∃ text, .string text ∈ elements value ∧ e.matchesText text = true

end Value

/-!
# Tests
-/

structure Test where
  field : String
  comparison : Comparison
  operand : Value

namespace Compiler

def flags (c : Compiler) : Pattern.Flags :=
  { caseless := !c.settings.caseSensitive }

/-- A statement about the stored form of an operand, which it must have. -/
def Stored (c : Compiler) (field : String) (p : Value → Prop) (operand : Value) : Prop :=
  ∃ stored, c.operand field operand = .ok stored ∧ p stored

def Equal (c : Compiler) (field : String) (value : Option Value) (operand : Value) : Prop :=
  match operand, c.foldsCase field with
  | .string text, true => Value.Fits c.flags value (wholeText text)
  | operand, _ => c.Stored field (Value.Equals value) operand

/-- Equality with a listed value in its stored form.  It does not fold case. -/
def Listed (c : Compiler) (field : String) (value : Option Value) (operand : Value) : Prop :=
  ∃ items, operand = .array items ∧ ∃ item ∈ items, c.Stored field (Value.Equals value) item

def Matching (c : Compiler) (value : Option Value) (pattern : String → String)
    (operand : Value) : Prop :=
  ∃ text, operand = .string text ∧ Value.Fits c.flags value (pattern text)

/-- Whether a test holds of the value on the path of its field. -/
def Passes (c : Compiler) (t : Test) (value : Option Value) : Prop :=
  match t.comparison with
  | .equal => c.Equal t.field value t.operand
  | .notEqual => ¬ c.Equal t.field value t.operand
  | .greater => c.Stored t.field (Value.Ordered value (· = .gt)) t.operand
  | .atLeast => c.Stored t.field (Value.Ordered value (· ≠ .lt)) t.operand
  | .less => c.Stored t.field (Value.Ordered value (· = .lt)) t.operand
  | .atMost => c.Stored t.field (Value.Ordered value (· ≠ .gt)) t.operand
  | .anyOf => c.Listed t.field value t.operand
  | .noneOf => ¬ c.Listed t.field value t.operand
  | .like => c.Matching value Pattern.ofLike t.operand
  | .contains => c.Matching value Pattern.escape t.operand
  | .startsWith => c.Matching value (fun text => "^" ++ Pattern.escape text) t.operand
  | .endsWith => c.Matching value (fun text => Pattern.escape text ++ "$") t.operand
  | .pattern => c.Matching value id t.operand

def pattern? (c : Compiler) (t : Test) : Option String :=
  match t.comparison, t.operand with
  | .equal, .string text => if c.foldsCase t.field then some (wholeText text) else none
  | .notEqual, .string text => if c.foldsCase t.field then some (wholeText text) else none
  | .like, .string text => some (Pattern.ofLike text)
  | .contains, .string text => some (Pattern.escape text)
  | .startsWith, .string text => some ("^" ++ Pattern.escape text)
  | .endsWith, .string text => some (Pattern.escape text ++ "$")
  | .pattern, .string text => some text
  | _, _ => none

end Compiler

/-!
# Conditions
-/

namespace Condition

def Holds (c : Compiler) (d : Document) : Condition → Prop
  | .all conditions => ∀ e ∈ conditions, Holds c d e
  | .any conditions => ∃ e, ∃ _ : e ∈ conditions, Holds c d e
  | .negation condition => ¬ Holds c d condition
  | .test field comparison operand =>
      c.Passes ⟨field, comparison, operand⟩ (d.lookup? (storedName field))

mutual

def tests : Condition → List Test
  | .all conditions => testsOf conditions
  | .any conditions => testsOf conditions
  | .negation condition => tests condition
  | .test field comparison operand => [⟨field, comparison, operand⟩]

def testsOf : List Condition → List Test
  | [] => []
  | condition :: rest => tests condition ++ testsOf rest

end

end Condition
end DocQuery
