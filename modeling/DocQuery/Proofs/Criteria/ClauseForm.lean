import DocQuery.Criteria.Reader
import DocQuery.Proofs.Outcome
import Mathlib.Data.List.Basic

/-!
# The grammar of clauses

Which documents are read as clauses, said without the reader: a grammar by
induction on the clause, and the proof that the reader takes what it allows.
-/

namespace DocQuery
namespace Criteria

open Outcome

/-!
# Forms

An entry of a clause combines other clauses, or it compares a field with a value
or by operators.
-/

/-- A key of some comparison, beside an operand of the shape that it asks for. -/
def OperatorForm (key : String) (operand : Value) : Prop :=
  ∃ comparison : Comparison, key ∈ comparison.keys ∧
    (comparison.needsList = true → ∃ items, operand = .array items) ∧
      (comparison.needsText = true → ∃ text, operand = .string text)

inductive EntryForm : String → Value → Prop where
  | branches {key : String} {clauses : List Document} (hkey : key = anyKey ∨ key = allKey)
      (hsome : clauses ≠ []) (hfilled : ∀ clause ∈ clauses, clause ≠ [])
      (h : ∀ clause ∈ clauses, ∀ entry ∈ clause, EntryForm entry.1 entry.2) :
      EntryForm key (.array (clauses.map Value.document))
  | negation {clause : Document} (hfilled : clause ≠ [])
      (h : ∀ entry ∈ clause, EntryForm entry.1 entry.2) : EntryForm notKey (.document clause)
  | value {key : String} {v : Value} (hkey : key ∉ [anyKey, allKey, notKey])
      (hv : ∀ fields, v ≠ .document fields) : EntryForm key v
  | operators {key : String} {operators : Document} (hkey : key ∉ [anyKey, allKey, notKey])
      (hfilled : operators ≠ []) (h : ∀ entry ∈ operators, OperatorForm entry.1 entry.2) :
      EntryForm key (.document operators)

def ClauseForm (clause : Document) : Prop :=
  ∀ entry ∈ clause, EntryForm entry.1 entry.2

/-- Lists of clauses of which none is empty. -/
def BranchesForm (items : List Value) : Prop :=
  ∃ clauses : List Document, items = clauses.map Value.document ∧
    ∀ clause ∈ clauses, clause ≠ [] ∧ ClauseForm clause

theorem isField_iff {key : String} :
    key ∉ [anyKey, allKey, notKey] ↔ ¬ (key = anyKey ∨ key = allKey) ∧ key ≠ notKey := by
  simp [and_assoc]

theorem clauseForm_cons {key : String} {v : Value} {rest : Document} :
    ClauseForm ((key, v) :: rest) ↔ EntryForm key v ∧ ClauseForm rest :=
  List.forall_mem_cons

theorem entryForm_array {key : String} {items : List Value} :
    EntryForm key (.array items) ↔
      key ≠ notKey ∧ (key = anyKey ∨ key = allKey → items ≠ [] ∧ BranchesForm items) := by
  constructor
  · intro h
    cases h with
    | branches hkey hsome hfilled h =>
        refine ⟨?_, fun _ => ⟨?_, _, rfl, fun clause hclause =>
          ⟨hfilled clause hclause, h clause hclause⟩⟩⟩
        · rcases hkey with rfl | rfl <;> decide
        · exact fun hnil => hsome (List.map_eq_nil_iff.mp hnil)
    | value hkey hv =>
        rcases isField_iff.mp hkey with ⟨hsingle, hnot⟩
        exact ⟨hnot, fun hcombined => absurd hcombined hsingle⟩
  · rintro ⟨hnot, hbranches⟩
    by_cases hkey : key = anyKey ∨ key = allKey
    · rcases hbranches hkey with ⟨hsome, clauses, rfl, hclauses⟩
      refine EntryForm.branches hkey ?_ (fun clause hclause => (hclauses clause hclause).1)
        fun clause hclause => (hclauses clause hclause).2
      exact fun hnil => hsome (List.map_eq_nil_iff.mpr hnil)
    · exact EntryForm.value (isField_iff.mpr ⟨hkey, hnot⟩) (fun _ h => nomatch h)

theorem entryForm_document {key : String} {fields : Document} :
    EntryForm key (.document fields) ↔
      key ≠ anyKey ∧ key ≠ allKey ∧ fields ≠ [] ∧ (key = notKey → ClauseForm fields) ∧
        (key ≠ notKey → ∀ entry ∈ fields, OperatorForm entry.1 entry.2) := by
  constructor
  · intro h
    cases h with
    | negation hfilled h =>
        exact ⟨by decide, by decide, hfilled, fun _ => h, fun hne => absurd rfl hne⟩
    | value _ hv =>
        exact absurd rfl (hv fields)
    | operators hkey hfilled h =>
        rcases isField_iff.mp hkey with ⟨hsingle, hnot⟩
        rcases not_or.mp hsingle with ⟨hany, hall⟩
        exact ⟨hany, hall, hfilled, fun heq => absurd heq hnot, fun _ => h⟩
  · rintro ⟨hany, hall, hfilled, hclause, hoperators⟩
    by_cases hnot : key = notKey
    · subst hnot
      exact EntryForm.negation hfilled (hclause rfl)
    · have hkey : key ∉ [anyKey, allKey, notKey] :=
        isField_iff.mpr ⟨not_or.mpr ⟨hany, hall⟩, hnot⟩
      exact EntryForm.operators hkey hfilled (hoperators hnot)

theorem entryForm_plain {key : String} {v : Value} (harray : ∀ items, v ≠ .array items)
    (hdocument : ∀ fields, v ≠ .document fields) :
    EntryForm key v ↔ ¬ (key = anyKey ∨ key = allKey) ∧ key ≠ notKey := by
  rw [← isField_iff]
  constructor
  · intro h
    cases h with
    | branches => exact absurd rfl (harray _)
    | negation => exact absurd rfl (hdocument _)
    | value hkey _ => exact hkey
    | operators => exact absurd rfl (hdocument _)
  · exact fun hkey => EntryForm.value hkey hdocument

/-!
# Operators
-/

theorem isList_iff {v : Value} : isList v = true ↔ ∃ items, v = .array items := by
  cases v <;> simp [isList]

theorem isText_iff {v : Value} : isText v = true ↔ ∃ text, v = .string text := by
  cases v <;> simp [isText]

/-- Beside a list, asking for another value is asking for none of a list, which a list serves. -/
theorem needsList_comparisonFor (comparison : Comparison) (operand : Value) :
    ((comparisonFor comparison operand).needsList && !isList operand) =
      (comparison.needsList && !isList operand) := by
  unfold comparisonFor
  split <;> rfl

theorem needsText_comparisonFor (comparison : Comparison) (operand : Value) :
    (comparisonFor comparison operand).needsText = comparison.needsText := by
  unfold comparisonFor
  split <;> rfl

theorem operatorForm_iff {comparison : Comparison} {key : String} {operand : Value}
    (h : Comparison.ofKey? key = some comparison) :
    OperatorForm key operand ↔
      (comparison.needsList && !isList operand) = false ∧
        (comparison.needsText && !isText operand) = false := by
  have hshape : OperatorForm key operand ↔
      (comparison.needsList = true → ∃ items, operand = .array items) ∧
        (comparison.needsText = true → ∃ text, operand = .string text) := by
    constructor
    · rintro ⟨other, hkey, hshape⟩
      cases h.symm.trans (Comparison.ofKey?_of_mem_keys hkey)
      exact hshape
    · exact fun hshape => ⟨comparison, Comparison.mem_keys_of_ofKey? h, hshape⟩
  rw [hshape, ← isList_iff, ← isText_iff]
  cases comparison.needsList <;> cases comparison.needsText <;> simp

theorem succeeds_readTest {field key : String} {operand : Value} :
    Succeeds (readTest field key operand) ↔ OperatorForm key operand := by
  unfold readTest
  cases hkey : Comparison.ofKey? key with
  | none =>
      refine iff_of_false (not_succeeds_error _) ?_
      rintro ⟨comparison, hmem, _⟩
      rw [Comparison.ofKey?_of_mem_keys hmem] at hkey
      cases hkey
  | some comparison =>
      rw [operatorForm_iff hkey]
      simp only [needsList_comparisonFor, needsText_comparisonFor]
      cases comparison.needsList && !isList operand <;>
        cases comparison.needsText && !isText operand <;> simp

theorem succeeds_readTests {field : String} {operators : Document} :
    Succeeds (readTests field operators) ↔
      ∀ entry ∈ operators, OperatorForm entry.1 entry.2 := by
  induction operators with
  | nil =>
      simp [readTests]
  | cons entry rest ih =>
      rcases entry with ⟨key, operand⟩
      rw [readTests, List.forall_mem_cons, succeeds_bind_iff fun _ _ => ?_]
      · exact and_congr_left fun _ => succeeds_readTest
      · rw [succeeds_bind_pure, ih]

/-!
# Fields

Beside a field stands at least one operator.
-/

theorem length_readTests {field : String} {operators : Document} {tests : List Condition}
    (h : readTests field operators = .ok tests) : tests.length = operators.length := by
  induction operators generalizing tests with
  | nil =>
      cases h
      rfl
  | cons entry rest ih =>
      rcases entry with ⟨key, operand⟩
      simp only [readTests, bind_eq_ok, pure_eq_ok] at h
      rcases h with ⟨test, _, others, hothers, rfl⟩
      rw [List.length_cons, List.length_cons, ih hothers]

theorem length_readEntries {entries : Document} {conditions : List Condition}
    (h : readEntries entries = .ok conditions) : conditions.length = entries.length := by
  induction entries generalizing conditions with
  | nil =>
      cases h
      rfl
  | cons entry rest ih =>
      rcases entry with ⟨key, value⟩
      simp only [readEntries, bind_eq_ok, pure_eq_ok] at h
      rcases h with ⟨c, _, others, hothers, rfl⟩
      rw [List.length_cons, List.length_cons, ih hothers]

theorem combine?_cases {entries : Document} {conditions : List Condition}
    (hlength : conditions.length = entries.length) :
    (entries = [] ∧ Condition.combine? conditions = none) ∨
      (entries ≠ [] ∧ ∃ c, Condition.combine? conditions = some c) := by
  cases entries with
  | nil =>
      rw [List.length_eq_zero_iff.mp hlength]
      exact Or.inl ⟨rfl, rfl⟩
  | cons entry rest =>
      refine Or.inr ⟨List.cons_ne_nil _ _, ?_⟩
      match conditions, hlength with
      | [c], _ => exact ⟨c, rfl⟩
      | c :: second :: others, _ => exact ⟨.all (c :: second :: others), rfl⟩

theorem succeeds_readField {field : String} {operators : Document} :
    Succeeds (readField field operators) ↔
      operators ≠ [] ∧ ∀ entry ∈ operators, OperatorForm entry.1 entry.2 := by
  rw [readField, succeeds_bind_iff fun tests htests => ?_, succeeds_readTests, and_comm]
  rcases combine?_cases (length_readTests htests) with ⟨hnil, hnone⟩ | ⟨hfilled, c, hc⟩
  · rw [hnone]
    exact iff_of_false (not_succeeds_error _) (not_not_intro hnil)
  · rw [hc]
    exact iff_of_true (succeeds_pure c) hfilled

/-!
# Branches
-/

theorem branchesForm_nil : BranchesForm [] :=
  ⟨[], rfl, fun _ hmem => absurd hmem List.not_mem_nil⟩

theorem branchesForm_document {fields : Document} {rest : List Value} :
    BranchesForm (.document fields :: rest) ↔
      fields ≠ [] ∧ ClauseForm fields ∧ BranchesForm rest := by
  constructor
  · rintro ⟨clauses, hitems, hclauses⟩
    cases clauses with
    | nil =>
        cases hitems
    | cons clause others =>
        cases hitems
        rcases List.forall_mem_cons.mp hclauses with ⟨⟨hfilled, hclause⟩, hothers⟩
        exact ⟨hfilled, hclause, others, rfl, hothers⟩
  · rintro ⟨hfilled, hclause, clauses, rfl, hclauses⟩
    exact ⟨fields :: clauses, rfl, List.forall_mem_cons.mpr ⟨⟨hfilled, hclause⟩, hclauses⟩⟩

theorem not_branchesForm {item : Value} {rest : List Value}
    (h : ∀ fields, item ≠ .document fields) : ¬ BranchesForm (item :: rest) := by
  rintro ⟨clauses, hitems, _⟩
  cases clauses with
  | nil =>
      cases hitems
  | cons clause others =>
      cases hitems
      exact h clause rfl

/-!
# Entries

The induction follows the clause, and takes its entries, a single entry and the
branches of a combination together.
-/

theorem readEntry_plain {key : String} {v : Value} (harray : ∀ items, v ≠ .array items)
    (hdocument : ∀ fields, v ≠ .document fields) :
    readEntry key v =
      if key = anyKey ∨ key = allKey then .error (.branchesShape key v)
      else if key = notKey then .error (.negationShape v) else .ok (.test key .equal v) := by
  cases v with
  | array items => exact absurd rfl (harray items)
  | document fields => exact absurd rfl (hdocument fields)
  | _ => rfl

theorem succeeds_readEntry_plain {key : String} {v : Value} (harray : ∀ items, v ≠ .array items)
    (hdocument : ∀ fields, v ≠ .document fields) :
    Succeeds (readEntry key v) ↔ EntryForm key v := by
  rw [readEntry_plain harray hdocument, entryForm_plain harray hdocument]
  by_cases hcombined : key = anyKey ∨ key = allKey
  · rw [if_pos hcombined]
    exact iff_of_false (not_succeeds_error _) fun h => h.1 hcombined
  · rw [if_neg hcombined]
    by_cases hnot : key = notKey
    · rw [if_pos hnot]
      exact iff_of_false (not_succeeds_error _) fun h => h.2 hnot
    · rw [if_neg hnot]
      exact iff_of_true (succeeds_ok _) ⟨hcombined, hnot⟩

mutual

theorem succeeds_readEntries :
    ∀ {entries : List (String × Value)}, Succeeds (readEntries entries) ↔ ClauseForm entries
  | [] =>
      iff_of_true (succeeds_ok _) fun _ hmem => absurd hmem List.not_mem_nil
  | (key, value) :: rest => by
      rw [readEntries, clauseForm_cons, ← succeeds_readEntry, ← succeeds_readEntries]
      exact succeeds_bind_iff fun _ _ => succeeds_bind_pure

theorem succeeds_readEntry :
    ∀ {key : String} {value : Value}, Succeeds (readEntry key value) ↔ EntryForm key value
  | key, .array items => by
      rw [readEntry, entryForm_array, ← @succeeds_readBranches key]
      by_cases hnot : key = notKey
      · rw [if_pos hnot]
        exact iff_of_false (not_succeeds_error _) fun h => h.1 hnot
      rw [if_neg hnot]
      by_cases hcombined : key = anyKey ∨ key = allKey
      · rw [if_neg (by rwa [← not_or, not_not])]
        cases items with
        | nil =>
            exact iff_of_false (not_succeeds_error _) fun h => (h.2 hcombined).1 rfl
        | cons item rest =>
            refine succeeds_bind_pure.trans ?_
            exact ⟨fun h => ⟨hnot, fun _ => ⟨List.cons_ne_nil _ _, h⟩⟩,
              fun h => (h.2 hcombined).2⟩
      · rw [if_pos (not_or.mp hcombined)]
        exact iff_of_true (succeeds_ok _) ⟨hnot, fun h => absurd h hcombined⟩
  | key, .document fields => by
      rw [readEntry, entryForm_document]
      by_cases hcombined : key = anyKey ∨ key = allKey
      · rw [if_pos hcombined]
        exact iff_of_false (not_succeeds_error _) fun h => hcombined.elim h.1 h.2.1
      rw [if_neg hcombined]
      rcases not_or.mp hcombined with ⟨hany, hall⟩
      by_cases hnot : key = notKey
      · have hnegation : Succeeds (readEntries fields >>= fun cs =>
            match Condition.combine? cs with
            | some c => pure (.negation c)
            | none => throw .negationEmpty : Read Condition) ↔
              ClauseForm fields ∧ fields ≠ [] := by
          rw [← succeeds_readEntries]
          refine succeeds_bind_iff fun cs hcs => ?_
          rcases combine?_cases (length_readEntries hcs) with ⟨hnil, hnone⟩ | ⟨hfilled, c, hc⟩
          · rw [hnone]
            exact iff_of_false (not_succeeds_error _) (not_not_intro hnil)
          · rw [hc]
            exact iff_of_true (succeeds_pure _) hfilled
        rw [if_pos hnot]
        refine hnegation.trans ?_
        exact ⟨fun h => ⟨hany, hall, h.2, fun _ => h.1, fun hne => absurd hnot hne⟩,
          fun h => ⟨h.2.2.2.1 hnot, h.2.2.1⟩⟩
      · rw [if_neg hnot, succeeds_readField]
        exact ⟨fun h => ⟨hany, hall, h.1, fun heq => absurd heq hnot, fun _ => h.2⟩,
          fun h => ⟨h.2.2.1, h.2.2.2.2 hnot⟩⟩
  | key, .null | key, .undefined | key, .minKey | key, .maxKey | key, .boolean _
  | key, .int32 _ | key, .int64 _ | key, .double _ | key, .string _ | key, .objectId _
  | key, .instant _ | key, .binary _ _ | key, .regex _ _ | key, .timestamp _ _
  | key, .code _ | key, .scopedCode _ _ | key, .symbol _ | key, .decimal _ => by
      apply succeeds_readEntry_plain <;> exact fun _ h => by cases h

theorem succeeds_readBranches :
    ∀ {key : String} {items : List Value},
      Succeeds (readBranches key items) ↔ BranchesForm items
  | key, [] =>
      iff_of_true (succeeds_ok _) branchesForm_nil
  | key, .document fields :: rest => by
      rw [readBranches, branchesForm_document, ← succeeds_readEntries,
        ← @succeeds_readBranches key, and_left_comm]
      refine succeeds_bind_iff fun cs hcs => ?_
      rcases combine?_cases (length_readEntries hcs) with ⟨hnil, hnone⟩ | ⟨hfilled, c, hc⟩
      · rw [hnone]
        exact iff_of_false (not_succeeds_error _) fun h => h.1 hnil
      · rw [hc, and_iff_right hfilled]
        exact succeeds_bind_pure
  | key, .null :: rest | key, .undefined :: rest | key, .minKey :: rest
  | key, .maxKey :: rest | key, .boolean _ :: rest | key, .int32 _ :: rest
  | key, .int64 _ :: rest | key, .double _ :: rest | key, .string _ :: rest
  | key, .objectId _ :: rest | key, .instant _ :: rest | key, .binary _ _ :: rest
  | key, .regex _ _ :: rest | key, .timestamp _ _ :: rest | key, .code _ :: rest
  | key, .scopedCode _ _ :: rest | key, .symbol _ :: rest | key, .decimal _ :: rest
  | key, .array _ :: rest =>
      iff_of_false (not_succeeds_error _) (not_branchesForm fun _ h => by cases h)

end

theorem succeeds_readClause {clause : Document} :
    Succeeds (readClause clause) ↔ ClauseForm clause := by
  rw [readClause, succeeds_bind_pure, succeeds_readEntries]

end Criteria
end DocQuery
