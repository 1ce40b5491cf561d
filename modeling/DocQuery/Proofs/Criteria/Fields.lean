import DocQuery.Criteria.Reader
import DocQuery.Proofs.Outcome
import DocQuery.Proofs.Query.Meaning
import Mathlib.Tactic.SplitIfs

/-!
# Fields of a clause

A clause names fields at every depth of its branches.  The condition that is
read from it tests these fields and no others.
-/

namespace DocQuery

/-!
# Fields of conditions
-/

namespace Condition

/-- The fields that the tests of a list of conditions look at. -/
def fieldsOf (conditions : List Condition) : List String :=
  (testsOf conditions).map Test.field

theorem fieldsOf_cons (c : Condition) (rest : List Condition) :
    fieldsOf (c :: rest) = fieldsOf [c] ++ fieldsOf rest := by
  simp [fieldsOf, testsOf]

@[simp] theorem fieldsOf_all (conditions : List Condition) :
    fieldsOf [.all conditions] = fieldsOf conditions := by
  simp [fieldsOf, testsOf, tests]

@[simp] theorem fieldsOf_any (conditions : List Condition) :
    fieldsOf [.any conditions] = fieldsOf conditions := by
  simp [fieldsOf, testsOf, tests]

@[simp] theorem fieldsOf_negation (c : Condition) : fieldsOf [.negation c] = fieldsOf [c] :=
  rfl

@[simp] theorem fieldsOf_test (field : String) (comparison : Comparison) (operand : Value) :
    fieldsOf [.test field comparison operand] = [field] :=
  rfl

theorem fieldsOf_of_combine? {conditions : List Condition} {c : Condition}
    (h : combine? conditions = some c) : fieldsOf [c] = fieldsOf conditions := by
  match conditions, h with
  | [], h =>
      cases h
  | [first], h =>
      cases h
      rfl
  | first :: second :: rest, h =>
      cases h
      exact fieldsOf_all _

end Condition

namespace Criteria

open Condition (fieldsOf fieldsOf_cons fieldsOf_of_combine?)
open Outcome

/-!
# Names in a clause
-/

mutual

def clauseFields : List (String × Value) → List String
  | [] => []
  | (key, value) :: rest => entryFields key value ++ clauseFields rest

def entryFields (key : String) : Value → List String
  | .array items => if key = anyKey ∨ key = allKey then branchFields items else [key]
  | .document fields => if key = notKey then clauseFields fields else [key]
  | _ => [key]

def branchFields : List Value → List String
  | [] => []
  | .document fields :: rest => clauseFields fields ++ branchFields rest
  | _ :: rest => branchFields rest

end

def clause (d : Document) : Document :=
  match Keyed.get? d "where" with
  | some (.document clause) => clause
  | some _ => []
  | none => shorthand d

/-- The names of all fields that a criteria document compares with something. -/
def fieldNames (d : Document) : List String :=
  clauseFields (clause d)

/-!
# Tests of what is read
-/

theorem fieldsOf_readTest {field key : String} {operand : Value} {c : Condition}
    (h : readTest field key operand = .ok c) : fieldsOf [c] = [field] := by
  unfold readTest at h
  split at h
  · cases h
  · simp only at h
    split_ifs at h
    cases h
    rfl

theorem fieldsOf_readTests {field : String} {operators : List (String × Value)}
    {conditions : List Condition} (h : readTests field operators = .ok conditions) :
    fieldsOf conditions = List.replicate conditions.length field := by
  induction operators generalizing conditions with
  | nil =>
      cases h
      rfl
  | cons entry rest ih =>
      rcases entry with ⟨key, operand⟩
      simp only [readTests, bind_eq_ok, pure_eq_ok] at h
      rcases h with ⟨test, htest, tests, htests, rfl⟩
      rw [fieldsOf_cons, fieldsOf_readTest htest, ih htests, List.length_cons,
        List.replicate_succ, List.singleton_append]

theorem mem_fieldsOf_readField {field : String} {operators : List (String × Value)}
    {c : Condition} (h : readField field operators = .ok c) (name : String) :
    name ∈ fieldsOf [c] ↔ name = field := by
  simp only [readField, bind_eq_ok] at h
  rcases h with ⟨tests, htests, h⟩
  cases hcombine : Condition.combine? tests with
  | none =>
      rw [hcombine] at h
      cases h
  | some combined =>
      rw [hcombine] at h
      cases h
      -- Without operators there would be no condition, and the field would not be tested.
      have hnonempty : tests.length ≠ 0 := by
        intro hzero
        rw [List.length_eq_zero_iff.mp hzero] at hcombine
        cases hcombine
      rw [fieldsOf_of_combine? hcombine, fieldsOf_readTests htests, List.mem_replicate]
      exact and_iff_right hnonempty

/-!
# Fields of what is read

The induction follows the clause, and takes its entries, a single entry and the
branches of a combination together.
-/

mutual

theorem mem_fieldsOf_readEntries (name : String) :
    ∀ {entries : List (String × Value)} {conditions : List Condition},
      readEntries entries = .ok conditions →
        (name ∈ fieldsOf conditions ↔ name ∈ clauseFields entries)
  | [], conditions, h => by
      cases h
      exact Iff.rfl
  | (key, value) :: rest, conditions, h => by
      simp only [readEntries, bind_eq_ok, pure_eq_ok] at h
      rcases h with ⟨c, hc, others, hothers, rfl⟩
      rw [fieldsOf_cons, clauseFields, List.mem_append, List.mem_append]
      exact or_congr (mem_fieldsOf_readEntry name hc) (mem_fieldsOf_readEntries name hothers)

theorem mem_fieldsOf_readEntry (name : String) :
    ∀ {key : String} {value : Value} {c : Condition}, readEntry key value = .ok c →
      (name ∈ fieldsOf [c] ↔ name ∈ entryFields key value)
  | key, .array items, c, h => by
      simp only [readEntry] at h
      by_cases hcombined : key = anyKey ∨ key = allKey
      · have hnot : key ≠ notKey := by
          rcases hcombined with rfl | rfl <;> decide
        have hkey : ¬ (key ≠ anyKey ∧ key ≠ allKey) := fun hne => hcombined.elim hne.1 hne.2
        rw [if_neg hnot, if_neg hkey] at h
        split at h
        · cases h
        · simp only [bind_eq_ok, pure_eq_ok] at h
          rcases h with ⟨branches, hbranches, rfl⟩
          have hfields : fieldsOf [if key = anyKey then .any branches else .all branches] =
              fieldsOf branches := by
            split <;> simp
          rw [hfields, entryFields, if_pos hcombined]
          exact mem_fieldsOf_readBranches name hbranches
      · have hkey : key ≠ anyKey ∧ key ≠ allKey := not_or.mp hcombined
        rw [if_pos hkey] at h
        split at h
        · cases h
        · cases h
          rw [entryFields, if_neg hcombined]
          exact Iff.rfl
  | key, .document fields, c, h => by
      simp only [readEntry] at h
      split at h
      · cases h
      · split at h
        · rename_i hnot
          simp only [bind_eq_ok] at h
          rcases h with ⟨inner, hinner, h⟩
          cases hcombine : Condition.combine? inner with
          | none =>
              rw [hcombine] at h
              cases h
          | some combined =>
              rw [hcombine] at h
              cases h
              rw [Condition.fieldsOf_negation, fieldsOf_of_combine? hcombine, entryFields,
                if_pos hnot]
              exact mem_fieldsOf_readEntries name hinner
        · rename_i hnot
          rw [entryFields, if_neg hnot, List.mem_singleton]
          exact mem_fieldsOf_readField h name
  | key, .null, c, h | key, .undefined, c, h | key, .minKey, c, h | key, .maxKey, c, h
  | key, .boolean _, c, h | key, .int32 _, c, h | key, .int64 _, c, h | key, .double _, c, h
  | key, .string _, c, h | key, .objectId _, c, h | key, .instant _, c, h
  | key, .binary _ _, c, h | key, .regex _ _, c, h | key, .timestamp _ _, c, h
  | key, .code _, c, h | key, .scopedCode _ _, c, h | key, .symbol _, c, h
  | key, .decimal _, c, h => by
      simp only [readEntry] at h
      split_ifs at h
      cases h
      exact Iff.rfl

theorem mem_fieldsOf_readBranches (name : String) :
    ∀ {key : String} {items : List Value} {conditions : List Condition},
      readBranches key items = .ok conditions →
        (name ∈ fieldsOf conditions ↔ name ∈ branchFields items)
  | key, [], conditions, h => by
      cases h
      exact Iff.rfl
  | key, .document fields :: rest, conditions, h => by
      simp only [readBranches, bind_eq_ok] at h
      rcases h with ⟨inner, hinner, h⟩
      cases hcombine : Condition.combine? inner with
      | none =>
          rw [hcombine] at h
          cases h
      | some combined =>
          rw [hcombine] at h
          simp only [bind_eq_ok, pure_eq_ok] at h
          rcases h with ⟨branches, hbranches, rfl⟩
          rw [fieldsOf_cons, fieldsOf_of_combine? hcombine, branchFields, List.mem_append,
            List.mem_append]
          exact or_congr (mem_fieldsOf_readEntries name hinner)
            (mem_fieldsOf_readBranches name hbranches)
  | key, .null :: rest, conditions, h | key, .undefined :: rest, conditions, h
  | key, .minKey :: rest, conditions, h | key, .maxKey :: rest, conditions, h
  | key, .boolean _ :: rest, conditions, h | key, .int32 _ :: rest, conditions, h
  | key, .int64 _ :: rest, conditions, h | key, .double _ :: rest, conditions, h
  | key, .string _ :: rest, conditions, h | key, .objectId _ :: rest, conditions, h
  | key, .instant _ :: rest, conditions, h | key, .binary _ _ :: rest, conditions, h
  | key, .regex _ _ :: rest, conditions, h | key, .timestamp _ _ :: rest, conditions, h
  | key, .code _ :: rest, conditions, h | key, .scopedCode _ _ :: rest, conditions, h
  | key, .symbol _ :: rest, conditions, h | key, .decimal _ :: rest, conditions, h
  | key, .array _ :: rest, conditions, h => by
      cases h

end

theorem mem_fieldsOf_readClause {clause : Document} {condition : Option Condition}
    (h : readClause clause = .ok condition) (name : String) :
    name ∈ fieldsOf condition.toList ↔ name ∈ clauseFields clause := by
  simp only [readClause, bind_eq_ok, pure_eq_ok] at h
  rcases h with ⟨conditions, hconditions, rfl⟩
  rw [← mem_fieldsOf_readEntries name hconditions]
  cases hcombine : Condition.combine? conditions with
  | none =>
      cases conditions with
      | nil =>
          exact Iff.rfl
      | cons first rest =>
          cases rest <;> cases hcombine
  | some c =>
      rw [Option.toList_some, fieldsOf_of_combine? hcombine]

theorem mem_fieldsOf_read {d : Document} {criteria : Criteria} (h : read d = .ok criteria)
    (name : String) : name ∈ fieldsOf criteria.condition.toList ↔ name ∈ fieldNames d := by
  simp only [read, mapError_eq_ok, readAll, bind_eq_ok, pure_eq_ok] at h
  rcases h with ⟨condition, hcondition, _, _, _, _, _, _, _, _, _, _, rfl⟩
  unfold readCondition at hcondition
  unfold fieldNames clause
  cases hwhere : Keyed.get? d "where" with
  | none =>
      rw [hwhere] at hcondition
      exact mem_fieldsOf_readClause hcondition name
  | some value =>
      rw [hwhere] at hcondition
      cases value with
      | document fields =>
          exact mem_fieldsOf_readClause hcondition name
      | null =>
          cases hcondition
          exact Iff.rfl
      | _ =>
          cases hcondition

end Criteria
end DocQuery
