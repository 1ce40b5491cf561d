import DocQuery.Proofs.Criteria.Fields
import DocQuery.Proofs.Query.Compile

/-!
# Recognized filters

The operators of a compiled filter are those that the store knows, and only a
pattern can be at fault in them.  The keys beside them are names of fields as the
caller writes them, and a name that starts like an operator is taken for one.
-/

namespace DocQuery

open Outcome

namespace Selector

/-!
# Keys of a filter
-/

mutual

/-- Whether every key is known, in the filter and in the branches of its combinators: a
combinator of filters, or the name of a field. -/
def isRecognized : List (String × Value) → Bool
  | [] => true
  | (key, operand) :: rest => entryIsRecognized key operand && isRecognized rest

def entryIsRecognized (key : String) : Value → Bool
  | .array branches =>
      if isCombinator key then branchesAreRecognized branches else !isOperator key
  | _ => !isOperator key

def branchesAreRecognized : List Value → Bool
  | [] => true
  | .document branch :: rest => isRecognized branch && branchesAreRecognized rest
  | _ :: _ => false

end

theorem isRecognized_combinator {key : String} (h : isCombinator key = true)
    (branches : List Value) :
    isRecognized [(key, .array branches)] = branchesAreRecognized branches := by
  simp [isRecognized, entryIsRecognized, h]

theorem isRecognized_test (key : String) (test : Document) :
    isRecognized [(key, .document test)] = !isOperator key := by
  simp [isRecognized, entryIsRecognized]

theorem isOperator_storedName (field : String) :
    isOperator (storedName field) = isOperator field := by
  unfold storedName
  split
  · rename_i h
    subst h
    decide
  · rfl

/-!
# Faults of patterns

What fails on patterns only still does so when it is combined with others.
-/

def FailsOnPatterns (v : Verdict) : Prop :=
  ∀ fault, v = .error fault → ∃ pattern, fault = .pattern pattern

theorem failsOnPatterns_ok (b : Bool) : FailsOnPatterns (.ok b) := by
  intro fault h
  cases h

theorem FailsOnPatterns.bind {v : Verdict} {f : Bool → Verdict} (h : FailsOnPatterns v)
    (hnext : ∀ b, FailsOnPatterns (f b)) : FailsOnPatterns (v >>= f) := by
  intro fault hfault
  rcases bind_eq_error.mp hfault with hfirst | ⟨b, _, hrest⟩
  · exact h fault hfirst
  · exact hnext b fault hrest

theorem FailsOnPatterns.not {v : Verdict} (h : FailsOnPatterns v) :
    FailsOnPatterns (v.map (!·)) := by
  intro fault hfault
  cases v with
  | error e =>
      refine h fault ?_
      cases hfault
      rfl
  | ok b =>
      cases hfault

theorem failsOnPatterns_matchesPattern (value : Option Value) (options pattern : String) :
    FailsOnPatterns (matchesPattern value options (.string pattern)) := by
  intro fault hfault
  unfold matchesPattern at hfault
  simp only at hfault
  split at hfault
  · cases hfault
    exact ⟨pattern, rfl⟩
  · split at hfault <;> cases hfault

theorem failsOnPatterns_allOf_cons {d branch : Document} {rest : List Value}
    (hfirst : FailsOnPatterns (entries d branch)) (hrest : FailsOnPatterns (allOf d rest)) :
    FailsOnPatterns (allOf d (.document branch :: rest)) := by
  simp only [allOf]
  refine hfirst.bind ?_
  intro b
  cases b with
  | false =>
      exact failsOnPatterns_ok false
  | true =>
      exact hrest

theorem failsOnPatterns_anyOf_cons {d branch : Document} {rest : List Value}
    (hfirst : FailsOnPatterns (entries d branch)) (hrest : FailsOnPatterns (anyOf d rest)) :
    FailsOnPatterns (anyOf d (.document branch :: rest)) := by
  simp only [anyOf]
  refine hfirst.bind ?_
  intro b
  cases b with
  | false =>
      exact hrest
  | true =>
      exact failsOnPatterns_ok true

end Selector

namespace Compiler

open Selector (isRecognized branchesAreRecognized isOperator FailsOnPatterns)

/-!
# Operators of a test
-/

/-- The operator documents that comparisons are compiled to. -/
inductive Operators (c : Compiler) : Document → Prop where
  | comparison (key : String) (stored : Value)
      (hkey : key ∈ ["$eq", "$ne", "$gt", "$gte", "$lt", "$lte"]) : Operators c [(key, stored)]
  | membership (key : String) (items : List Value) (hkey : key ∈ ["$in", "$nin"]) :
      Operators c [(key, .array items)]
  | pattern (pattern : String) : Operators c (c.patternTest pattern)
  | noPattern (pattern : String) :
      Operators c [("$not", .document (c.patternTest pattern))]

theorem operators_of_operandTest {c : Compiler} {key field : String} {operand : Value}
    {test : Document} (hkey : key ∈ ["$eq", "$ne", "$gt", "$gte", "$lt", "$lte"])
    (h : c.operandTest key field operand = .ok test) : c.Operators test := by
  rcases operandTest_eq_ok.mp h with ⟨stored, _, rfl⟩
  exact Operators.comparison key stored hkey

theorem operators_of_listTest {c : Compiler} {key field : String} {comparison : Comparison}
    {operand : Value} {test : Document} (hkey : key ∈ ["$in", "$nin"])
    (h : c.listTest key field comparison operand = .ok test) : c.Operators test := by
  rcases listTest_eq_ok h with ⟨_, others, _, rfl, _⟩
  exact Operators.membership key others hkey

theorem operators_of_textTest {c : Compiler} {field : String} {comparison : Comparison}
    {pattern : String → String} {operand : Value} {test : Document}
    (h : c.textTest field comparison pattern operand = .ok test) : c.Operators test := by
  rcases textTest_eq_ok h with ⟨text, _, rfl⟩
  exact Operators.pattern (pattern text)

theorem operators_of_operators {c : Compiler} {field : String} {comparison : Comparison}
    {operand : Value} {test : Document} (h : c.operators field comparison operand = .ok test) :
    c.Operators test := by
  cases comparison with
  | equal =>
      simp only [operators] at h
      split at h
      · cases h
        exact Operators.pattern _
      · exact operators_of_operandTest (by decide) h
  | notEqual =>
      simp only [operators] at h
      split at h
      · cases h
        exact Operators.noPattern _
      · exact operators_of_operandTest (by decide) h
  | greater | atLeast | less | atMost =>
      exact operators_of_operandTest (by decide) h
  | anyOf | noneOf =>
      exact operators_of_listTest (by decide) h
  | like | contains | startsWith | endsWith | pattern =>
      exact operators_of_textTest h

theorem failsOnPatterns_patternTest (c : Compiler) (value : Option Value)
    (options pattern : String) :
    FailsOnPatterns (Selector.operators value options (c.patternTest pattern)) := by
  rw [operators_patternTest]
  exact Selector.failsOnPatterns_matchesPattern value options pattern

theorem Operators.failsOnPatterns {c : Compiler} {test : Document} (h : c.Operators test)
    (value : Option Value) :
    FailsOnPatterns (Selector.condition value (.document test)) := by
  cases h with
  | comparison key stored hkey =>
      simp only [List.mem_cons, List.not_mem_nil, or_false] at hkey
      rcases hkey with rfl | rfl | rfl | rfl | rfl | rfl <;>
        rw [Selector.condition_single (by decide) (by decide) (by decide)] <;>
        exact Selector.failsOnPatterns_ok _
  | membership key items hkey =>
      simp only [List.mem_cons, List.not_mem_nil, or_false] at hkey
      rcases hkey with rfl | rfl <;>
        rw [Selector.condition_single (by decide) (by decide) (by decide)] <;>
        exact Selector.failsOnPatterns_ok _
  | pattern pattern =>
      have hoperators : Selector.isOperators (.document (c.patternTest pattern)) = true := by
        unfold patternTest
        split <;> rfl
      rw [Selector.condition, if_pos hoperators]
      exact failsOnPatterns_patternTest c value _ pattern
  | noPattern pattern =>
      have hoperators :
          Selector.isOperators (.document [("$not", .document (c.patternTest pattern))]) = true :=
        rfl
      rw [Selector.condition, if_pos hoperators, Selector.operators_single, Selector.operator,
        if_pos rfl]
      exact (failsOnPatterns_patternTest c value _ pattern).not

/-!
# Keys of a compiled filter

The induction follows the condition, and takes a list of conditions together
with its branches.
-/

mutual

theorem isRecognized_filter {c : Compiler} :
    ∀ {condition : Condition} {filter : Document}, c.filter condition = .ok filter →
      (isRecognized filter = true ↔
        ∀ name ∈ Condition.fieldsOf [condition], isOperator name = false)
  | .all conditions, filter, h => by
      rcases filter_all_eq_ok h with ⟨branches, hbranches, rfl⟩
      rw [Selector.isRecognized_combinator (by decide), Condition.fieldsOf_all]
      exact branchesAreRecognized_filters hbranches
  | .any conditions, filter, h => by
      rcases filter_any_eq_ok h with ⟨branches, hbranches, rfl⟩
      rw [Selector.isRecognized_combinator (by decide), Condition.fieldsOf_any]
      exact branchesAreRecognized_filters hbranches
  | .negation condition, filter, h => by
      rcases filter_negation_eq_ok h with ⟨negated, hnegated, rfl⟩
      rw [Selector.isRecognized_combinator (by decide), Condition.fieldsOf_negation,
        branchesAreRecognized, branchesAreRecognized, Bool.and_true]
      exact isRecognized_filter hnegated
  | .test field comparison operand, filter, h => by
      rcases filter_test_eq_ok h with ⟨test, _, rfl⟩
      rw [Selector.isRecognized_test, Selector.isOperator_storedName, Condition.fieldsOf_test,
        List.forall_mem_singleton, Bool.not_eq_true']

theorem branchesAreRecognized_filters {c : Compiler} :
    ∀ {conditions : List Condition} {branches : List Value},
      c.filters conditions = .ok branches →
        (branchesAreRecognized branches = true ↔
          ∀ name ∈ Condition.fieldsOf conditions, isOperator name = false)
  | [], branches, h => by
      cases h
      simp [branchesAreRecognized, Condition.fieldsOf, Condition.testsOf]
  | condition :: rest, branches, h => by
      rcases filters_cons_eq_ok h with ⟨first, others, hfirst, hothers, rfl⟩
      rw [branchesAreRecognized, Bool.and_eq_true, isRecognized_filter hfirst,
        branchesAreRecognized_filters hothers, Condition.fieldsOf_cons condition rest,
        List.forall_mem_append]

end

/-!
# Faults of a compiled filter
-/

mutual

theorem failsOnPatterns_filter {c : Compiler} (d : Document) :
    ∀ {condition : Condition} {filter : Document}, c.filter condition = .ok filter →
      (∀ name ∈ Condition.fieldsOf [condition], isOperator name = false) →
        FailsOnPatterns (Selector.entries d filter)
  | .all conditions, filter, h, hnames => by
      rcases filter_all_eq_ok h with ⟨branches, hbranches, rfl⟩
      rw [Condition.fieldsOf_all] at hnames
      rw [entries_combinator_all]
      exact (failsOnPatterns_filters d hbranches hnames).1
  | .any conditions, filter, h, hnames => by
      rcases filter_any_eq_ok h with ⟨branches, hbranches, rfl⟩
      rw [Condition.fieldsOf_any] at hnames
      rw [entries_combinator_any]
      exact (failsOnPatterns_filters d hbranches hnames).2
  | .negation condition, filter, h, hnames => by
      rcases filter_negation_eq_ok h with ⟨negated, hnegated, rfl⟩
      rw [entries_combinator_none]
      have hbranch := failsOnPatterns_filter d hnegated hnames
      have hnone : FailsOnPatterns (Selector.anyOf d []) := Selector.failsOnPatterns_ok false
      exact (Selector.failsOnPatterns_anyOf_cons hbranch hnone).not
  | .test field comparison operand, filter, h, hnames => by
      rcases filter_test_eq_ok h with ⟨test, htest, rfl⟩
      have hfield : isOperator (storedName field) = false := by
        rw [Selector.isOperator_storedName]
        exact hnames field List.mem_cons_self
      rw [Selector.entries_single, Selector.entry_field hfield]
      exact (operators_of_operators htest).failsOnPatterns _

theorem failsOnPatterns_filters {c : Compiler} (d : Document) :
    ∀ {conditions : List Condition} {branches : List Value},
      c.filters conditions = .ok branches →
        (∀ name ∈ Condition.fieldsOf conditions, isOperator name = false) →
          FailsOnPatterns (Selector.allOf d branches) ∧ FailsOnPatterns (Selector.anyOf d branches)
  | [], branches, h, _ => by
      cases h
      exact ⟨Selector.failsOnPatterns_ok true, Selector.failsOnPatterns_ok false⟩
  | condition :: rest, branches, h, hnames => by
      rcases filters_cons_eq_ok h with ⟨first, others, hfirst, hothers, rfl⟩
      rw [Condition.fieldsOf_cons, List.forall_mem_append] at hnames
      have hhead := failsOnPatterns_filter d hfirst hnames.1
      have htail := failsOnPatterns_filters d hothers hnames.2
      exact ⟨Selector.failsOnPatterns_allOf_cons hhead htail.1,
        Selector.failsOnPatterns_anyOf_cons hhead htail.2⟩

end

theorem isRecognized_filter? {c : Compiler} {condition : Option Condition} {filter : Document}
    (h : c.filter? condition = .ok filter) :
    isRecognized filter = true ↔
      ∀ name ∈ Condition.fieldsOf condition.toList, isOperator name = false := by
  cases condition with
  | none =>
      cases h
      simp [isRecognized, Condition.fieldsOf, Condition.testsOf]
  | some condition =>
      exact isRecognized_filter h

theorem failsOnPatterns_filter? {c : Compiler} {condition : Option Condition} {filter : Document}
    (h : c.filter? condition = .ok filter)
    (hnames : ∀ name ∈ Condition.fieldsOf condition.toList, isOperator name = false)
    (d : Document) : FailsOnPatterns (Selector.matches? filter d) := by
  cases condition with
  | none =>
      cases h
      exact Selector.failsOnPatterns_ok true
  | some condition =>
      exact failsOnPatterns_filter d h hnames

/-!
# Filters of criteria documents
-/

/-- The filter of a criteria document is recognized exactly when no field that the document names
starts like an operator.  Then nothing but a pattern can be at fault in it, whatever document it
is tried on. -/
theorem isRecognized_iff_fieldNames {d : Document} {criteria : Criteria}
    (hread : Criteria.read d = .ok criteria) (c : Compiler) {q : NativeQuery}
    (hcompile : c.compile criteria = .ok q) :
    (isRecognized q.filter = true ↔ ∀ name ∈ Criteria.fieldNames d, isOperator name = false) ∧
      (isRecognized q.filter = true → ∀ (stored : Document) (fault : CriteriaFault),
        Selector.matches? q.filter stored = .error fault → ∃ pattern, fault = .pattern pattern) := by
  have hfilter := (compile_eq_ok hcompile).1
  have hrecognized := isRecognized_filter? hfilter
  refine ⟨?_, fun h stored => failsOnPatterns_filter? hfilter (hrecognized.mp h) stored⟩
  rw [hrecognized]
  exact forall_congr' fun name => imp_congr_left (Criteria.mem_fieldsOf_read hread name)

/-- Names at several depths, one of them that of the identifier, and a pattern that is none. -/
theorem isRecognized_iff_fieldNames_nested :
    let d : Document := [("where", .document [("id", .null),
      ("or", .array [.document [("name", .document [("regex", .string "(")])],
        .document [("not", .document [("a.$b", .array [.int32 1])])]])])]
    ∃ criteria q, Criteria.read d = .ok criteria ∧
      (⟨⟨[]⟩, {}⟩ : Compiler).compile criteria = .ok q ∧ isRecognized q.filter = true ∧
        ∀ (stored : Document) (fault : CriteriaFault),
          Selector.matches? q.filter stored = .error fault → ∃ pattern, fault = .pattern pattern := by
  intro d
  refine ⟨_, _, rfl, rfl, ?_⟩
  have hrecognized := @isRecognized_iff_fieldNames d _ rfl ⟨⟨[]⟩, {}⟩ _ rfl
  have hnames : ∀ name ∈ Criteria.fieldNames d, isOperator name = false := by
    decide
  exact ⟨hrecognized.1.mpr hnames, hrecognized.2 (hrecognized.1.mpr hnames)⟩

/-- Criteria may name a field like an operator.  The filter then reaches the store, where the name
is refused as that of an operator which is not supported. -/
theorem operator_named_field_refused :
    ∃ criteria q,
      Criteria.read [("where", .document [("$where", .int32 1)])] = .ok criteria ∧
        (⟨⟨[]⟩, {}⟩ : Compiler).compile criteria = .ok q ∧ isRecognized q.filter = false ∧
          Selector.matches? q.filter [] = .error (.topLevelOperator "$where") := by
  refine ⟨_, _, rfl, rfl, ?_, rfl⟩
  decide

end Compiler
end DocQuery
