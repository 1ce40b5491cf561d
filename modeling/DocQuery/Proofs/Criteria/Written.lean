import DocQuery.Proofs.Criteria.ClauseForm
import Mathlib.Tactic.SplitIfs

/-!
# Conditions as they are written

A condition is written as a clause of one entry.  What is read from the clause
is that condition again, and nothing that cannot be written is ever read.
-/

namespace DocQuery

open Outcome

/-- An operand has the shape that a comparison asks for.  Beside a list, asking for another value
would be asking for none of the list. -/
structure Comparison.Fits (comparison : Comparison) (operand : Value) : Prop where
  list : comparison.needsList = true → ∃ items, operand = .array items
  text : comparison.needsText = true → ∃ text, operand = .string text
  single : comparison = .notEqual → ∀ items, operand ≠ .array items

theorem Comparison.Fits.equal (operand : Value) : Comparison.equal.Fits operand where
  list h := nomatch h
  text h := nomatch h
  single h := nomatch h

theorem Comparison.Fits.anyOf (items : List Value) : Comparison.anyOf.Fits (.array items) where
  list _ := ⟨items, rfl⟩
  text h := nomatch h
  single h := nomatch h

theorem Comparison.keys_ne_nil (comparison : Comparison) : comparison.keys ≠ [] := by
  cases comparison <;> decide

namespace Condition

open Criteria (anyKey allKey notKey)

inductive IsExpressible : Condition → Prop where
  | all {conditions : List Condition} (hsome : conditions ≠ [])
      (h : ∀ c ∈ conditions, IsExpressible c) : IsExpressible (.all conditions)
  | any {conditions : List Condition} (hsome : conditions ≠ [])
      (h : ∀ c ∈ conditions, IsExpressible c) : IsExpressible (.any conditions)
  | negation {c : Condition} (h : IsExpressible c) : IsExpressible (.negation c)
  | test {field : String} {comparison : Comparison} {operand : Value}
      (hfield : field ∉ [anyKey, allKey, notKey]) (h : comparison.Fits operand) :
      IsExpressible (.test field comparison operand)

mutual

/-- A clause that a condition is written as. -/
inductive Written : Condition → Document → Prop where
  | all {conditions : List Condition} {branches : List Value}
      (h : WrittenBranches conditions branches) :
      Written (.all conditions) [(allKey, .array branches)]
  | any {conditions : List Condition} {branches : List Value}
      (h : WrittenBranches conditions branches) :
      Written (.any conditions) [(anyKey, .array branches)]
  | negation {c : Condition} {clause : Document} (h : Written c clause) :
      Written (.negation c) [(notKey, .document clause)]
  | test {field key : String} {comparison : Comparison} {operand : Value}
      (hkey : key ∈ comparison.keys) :
      Written (.test field comparison operand) [(field, .document [(key, operand)])]

inductive WrittenBranches : List Condition → List Value → Prop where
  | nil : WrittenBranches [] []
  | cons {c : Condition} {rest : List Condition} {clause : Document} {branches : List Value}
      (h : Written c clause) (hrest : WrittenBranches rest branches) :
      WrittenBranches (c :: rest) (.document clause :: branches)

end

/-!
# Clauses of conditions
-/

mutual

theorem exists_written : ∀ c : Condition, ∃ clause, Written c clause
  | .all conditions => by
      rcases exists_writtenBranches conditions with ⟨branches, h⟩
      exact ⟨_, .all h⟩
  | .any conditions => by
      rcases exists_writtenBranches conditions with ⟨branches, h⟩
      exact ⟨_, .any h⟩
  | .negation c => by
      rcases exists_written c with ⟨clause, h⟩
      exact ⟨_, .negation h⟩
  | .test field comparison operand => by
      rcases List.exists_mem_of_ne_nil _ comparison.keys_ne_nil with ⟨key, hkey⟩
      exact ⟨_, .test hkey⟩

theorem exists_writtenBranches :
    ∀ conditions : List Condition, ∃ branches, WrittenBranches conditions branches
  | [] =>
      ⟨[], .nil⟩
  | c :: rest => by
      rcases exists_written c with ⟨clause, h⟩
      rcases exists_writtenBranches rest with ⟨branches, hrest⟩
      exact ⟨_, .cons h hrest⟩

end

theorem WrittenBranches.ne_nil {conditions : List Condition} {branches : List Value}
    (h : WrittenBranches conditions branches) (hsome : conditions ≠ []) : branches ≠ [] := by
  cases h with
  | nil => exact absurd rfl hsome
  | cons => exact List.cons_ne_nil _ _

end Condition

namespace Criteria

open Condition (IsExpressible Written WrittenBranches)

/-!
# Reading what is written

The induction follows the condition, and takes it together with the branches of
a combination.
-/

theorem comparisonFor_of_fits {comparison : Comparison} {operand : Value}
    (h : comparison.Fits operand) : comparisonFor comparison operand = comparison := by
  unfold comparisonFor
  split
  · exact absurd rfl (h.single rfl _)
  · rfl

theorem readTest_of_fits {field key : String} {comparison : Comparison} {operand : Value}
    (hkey : key ∈ comparison.keys) (h : comparison.Fits operand) :
    readTest field key operand = .ok (.test field comparison operand) := by
  have hlist : ¬ (comparison.needsList && !isList operand) = true := by
    cases hneeds : comparison.needsList with
    | false => exact Bool.false_ne_true
    | true => simp [isList_iff.mpr (h.list hneeds)]
  have htext : ¬ (comparison.needsText && !isText operand) = true := by
    cases hneeds : comparison.needsText with
    | false => exact Bool.false_ne_true
    | true => simp [isText_iff.mpr (h.text hneeds)]
  rw [readTest, Comparison.ofKey?_of_mem_keys hkey]
  simp only [comparisonFor_of_fits h, if_neg hlist, if_neg htext]

theorem readEntry_branches {key : String} {items : List Value} {conditions : List Condition}
    (hkey : key = anyKey ∨ key = allKey) (hsome : items ≠ [])
    (h : readBranches key items = .ok conditions) :
    readEntry key (.array items) =
      .ok (if key = anyKey then .any conditions else .all conditions) := by
  have hnot : key ≠ notKey := by
    rcases hkey with rfl | rfl <;> decide
  have hcombined : ¬ (key ≠ anyKey ∧ key ≠ allKey) := fun hne => hkey.elim hne.1 hne.2
  have hfilled : ¬ items.isEmpty = true := fun hempty => hsome (List.isEmpty_iff.mp hempty)
  rw [readEntry, if_neg hnot, if_neg hcombined, if_neg hfilled, h]
  rfl

theorem readEntry_operator {field key : String} {operand : Value} {c : Condition}
    (hfield : field ∉ [anyKey, allKey, notKey]) (h : readTest field key operand = .ok c) :
    readEntry field (.document [(key, operand)]) = .ok c := by
  rcases isField_iff.mp hfield with ⟨hcombined, hnot⟩
  rw [readEntry, if_neg hcombined, if_neg hnot, readField, readTests, h]
  rfl

theorem readEntries_single {key : String} {value : Value} {c : Condition}
    (h : readEntry key value = .ok c) : readEntries [(key, value)] = .ok [c] := by
  rw [readEntries, h]
  rfl

mutual

theorem readEntries_of_written :
    ∀ {c : Condition} {clause : Document}, c.IsExpressible → c.Written clause →
      readEntries clause = .ok [c]
  | .all conditions, clause, he, hw => by
      cases he with
      | all hsome h =>
        cases hw with
        | all hw =>
          have hbranches := readBranches_of_written allKey h hw
          exact readEntries_single (readEntry_branches (Or.inr rfl) (hw.ne_nil hsome) hbranches)
  | .any conditions, clause, he, hw => by
      cases he with
      | any hsome h =>
        cases hw with
        | any hw =>
          have hbranches := readBranches_of_written anyKey h hw
          exact readEntries_single (readEntry_branches (Or.inl rfl) (hw.ne_nil hsome) hbranches)
  | .negation c, clause, he, hw => by
      cases he with
      | negation h =>
        cases hw with
        | negation hw =>
          refine readEntries_single ?_
          rw [readEntry, if_neg (by decide), if_pos rfl, readEntries_of_written h hw]
          rfl
  | .test field comparison operand, clause, he, hw => by
      cases he with
      | test hfield h =>
        cases hw with
        | test hkey =>
          exact readEntries_single (readEntry_operator hfield (readTest_of_fits hkey h))

theorem readBranches_of_written (key : String) :
    ∀ {conditions : List Condition} {branches : List Value},
      (∀ c ∈ conditions, c.IsExpressible) → WrittenBranches conditions branches →
        readBranches key branches = .ok conditions
  | [], branches, _, hw => by
      cases hw
      rfl
  | c :: rest, branches, he, hw => by
      cases hw with
      | cons h hrest =>
          rcases List.forall_mem_cons.mp he with ⟨hc, hothers⟩
          rw [readBranches, readEntries_of_written hc h]
          change (readBranches key _ >>= fun branches => pure (c :: branches)) = _
          rw [readBranches_of_written key hothers hrest]
          rfl

end

/-!
# Conditions that are read

The induction follows the clause, and takes its entries, a single entry and the
branches of a combination together.
-/

theorem isExpressible_of_combine? {conditions : List Condition} {c : Condition}
    (he : ∀ c ∈ conditions, c.IsExpressible) (h : Condition.combine? conditions = some c) :
    c.IsExpressible := by
  match conditions, h with
  | [], h =>
      cases h
  | [first], h =>
      cases h
      exact he _ List.mem_cons_self
  | first :: second :: rest, h =>
      cases h
      exact .all (List.cons_ne_nil _ _) he

theorem fits_comparisonFor {comparison : Comparison} {operand : Value}
    (hlist : (comparison.needsList && !isList operand) = false)
    (htext : (comparison.needsText && !isText operand) = false) :
    (comparisonFor comparison operand).Fits operand := by
  rw [← needsList_comparisonFor] at hlist
  rw [← needsText_comparisonFor comparison operand] at htext
  constructor
  case list =>
    intro hneeds
    rw [hneeds, Bool.true_and, Bool.not_eq_false'] at hlist
    exact isList_iff.mp hlist
  case text =>
    intro hneeds
    rw [hneeds, Bool.true_and, Bool.not_eq_false'] at htext
    exact isText_iff.mp htext
  case single =>
    rintro hsingle items rfl
    cases comparison <;> cases hsingle

theorem isExpressible_of_readTest {field key : String} {operand : Value} {c : Condition}
    (hfield : field ∉ [anyKey, allKey, notKey]) (h : readTest field key operand = .ok c) :
    c.IsExpressible := by
  unfold readTest at h
  split at h
  · cases h
  · simp only [needsList_comparisonFor, needsText_comparisonFor] at h
    split_ifs at h with hlist htext
    cases h
    exact .test hfield
      (fits_comparisonFor (Bool.not_eq_true _ ▸ hlist) (Bool.not_eq_true _ ▸ htext))

theorem isExpressible_of_readTests {field : String} {operators : Document}
    {conditions : List Condition} (hfield : field ∉ [anyKey, allKey, notKey])
    (h : readTests field operators = .ok conditions) : ∀ c ∈ conditions, c.IsExpressible := by
  induction operators generalizing conditions with
  | nil =>
      cases h
      exact fun _ hmem => absurd hmem List.not_mem_nil
  | cons entry rest ih =>
      rcases entry with ⟨key, operand⟩
      simp only [readTests, bind_eq_ok, pure_eq_ok] at h
      rcases h with ⟨test, htest, tests, htests, rfl⟩
      exact List.forall_mem_cons.mpr ⟨isExpressible_of_readTest hfield htest, ih htests⟩

theorem isExpressible_of_readField {field : String} {operators : Document} {c : Condition}
    (hfield : field ∉ [anyKey, allKey, notKey]) (h : readField field operators = .ok c) :
    c.IsExpressible := by
  simp only [readField, bind_eq_ok] at h
  rcases h with ⟨tests, htests, h⟩
  split at h
  · rename_i combined hcombine
    cases h
    exact isExpressible_of_combine? (isExpressible_of_readTests hfield htests) hcombine
  · cases h

theorem isExpressible_of_plain {key : String} {v : Value} {c : Condition}
    (harray : ∀ items, v ≠ .array items) (hdocument : ∀ fields, v ≠ .document fields)
    (h : readEntry key v = .ok c) : c.IsExpressible := by
  rw [readEntry_plain harray hdocument] at h
  split_ifs at h with hcombined hnot
  cases h
  exact .test (isField_iff.mpr ⟨hcombined, hnot⟩) (.equal v)

theorem eq_nil_of_readBranches {key : String} {items : List Value}
    (h : readBranches key items = .ok []) : items = [] := by
  match items, h with
  | [], _ =>
      rfl
  | item :: rest, h =>
      unfold readBranches at h
      split at h
      · cases ‹_ = []›
      · simp only [bind_eq_ok] at h
        rcases h with ⟨cs, hcs, h⟩
        split at h
        · cases h
        · simp only [bind_eq_ok, pure_eq_ok] at h
          rcases h with ⟨_, _, h⟩
          cases h
      · cases h

mutual

theorem isExpressible_of_readEntries :
    ∀ {entries : List (String × Value)} {conditions : List Condition},
      readEntries entries = .ok conditions → ∀ c ∈ conditions, c.IsExpressible
  | [], conditions, h => by
      cases h
      exact fun _ hmem => absurd hmem List.not_mem_nil
  | (key, value) :: rest, conditions, h => by
      simp only [readEntries, bind_eq_ok, pure_eq_ok] at h
      rcases h with ⟨c, hc, others, hothers, rfl⟩
      exact List.forall_mem_cons.mpr
        ⟨isExpressible_of_readEntry hc, isExpressible_of_readEntries hothers⟩

theorem isExpressible_of_readEntry :
    ∀ {key : String} {value : Value} {c : Condition}, readEntry key value = .ok c →
      c.IsExpressible
  | key, .array items, c, h => by
      rw [readEntry] at h
      split at h
      · cases h
      rename_i hnot
      split at h
      · rename_i hfield
        cases h
        exact .test (isField_iff.mpr ⟨not_or.mpr hfield, hnot⟩) (.anyOf items)
      split at h
      · cases h
      rename_i hempty
      simp only [bind_eq_ok, pure_eq_ok] at h
      rcases h with ⟨branches, hbranches, rfl⟩
      have he := isExpressible_of_readBranches hbranches
      have hsome : branches ≠ [] := by
        rintro rfl
        exact hempty (List.isEmpty_iff.mpr (eq_nil_of_readBranches hbranches))
      split
      · exact .any hsome he
      · exact .all hsome he
  | key, .document fields, c, h => by
      rw [readEntry] at h
      split_ifs at h with hcombined hnot
      · simp only [bind_eq_ok] at h
        rcases h with ⟨inner, hinner, h⟩
        split at h
        · rename_i combined hcombine
          cases h
          exact .negation
            (isExpressible_of_combine? (isExpressible_of_readEntries hinner) hcombine)
        · cases h
      · exact isExpressible_of_readField (isField_iff.mpr ⟨hcombined, hnot⟩) h
  | key, .null, c, h | key, .undefined, c, h | key, .minKey, c, h | key, .maxKey, c, h
  | key, .boolean _, c, h | key, .int32 _, c, h | key, .int64 _, c, h | key, .double _, c, h
  | key, .string _, c, h | key, .objectId _, c, h | key, .instant _, c, h
  | key, .binary _ _, c, h | key, .regex _ _, c, h | key, .timestamp _ _, c, h
  | key, .code _, c, h | key, .scopedCode _ _, c, h | key, .symbol _, c, h
  | key, .decimal _, c, h => by
      refine isExpressible_of_plain ?_ ?_ h <;> exact fun _ h => by cases h

theorem isExpressible_of_readBranches :
    ∀ {key : String} {items : List Value} {conditions : List Condition},
      readBranches key items = .ok conditions → ∀ c ∈ conditions, c.IsExpressible
  | key, [], conditions, h => by
      cases h
      exact fun _ hmem => absurd hmem List.not_mem_nil
  | key, .document fields :: rest, conditions, h => by
      simp only [readBranches, bind_eq_ok] at h
      rcases h with ⟨inner, hinner, h⟩
      split at h
      · cases h
      · rename_i combined hcombine
        simp only [bind_eq_ok, pure_eq_ok] at h
        rcases h with ⟨branches, hbranches, rfl⟩
        exact List.forall_mem_cons.mpr
          ⟨isExpressible_of_combine? (isExpressible_of_readEntries hinner) hcombine,
            isExpressible_of_readBranches hbranches⟩
  | key, .null :: rest, conditions, h | key, .undefined :: rest, conditions, h
  | key, .minKey :: rest, conditions, h | key, .maxKey :: rest, conditions, h
  | key, .boolean _ :: rest, conditions, h | key, .int32 _ :: rest, conditions, h
  | key, .int64 _ :: rest, conditions, h | key, .double _ :: rest, conditions, h
  | key, .string _ :: rest, conditions, h | key, .objectId _ :: rest, conditions, h
  | key, .instant _ :: rest, conditions, h | key, .binary _ _ :: rest, conditions, h
  | key, .regex _ _ :: rest, conditions, h | key, .timestamp _ _ :: rest, conditions, h
  | key, .code _ :: rest, conditions, h | key, .scopedCode _ _ :: rest, conditions, h
  | key, .symbol _ :: rest, conditions, h | key, .decimal _ :: rest, conditions, h
  | key, .array _ :: rest, conditions, h => by
      cases h

end

theorem isExpressible_of_read {d : Document} {criteria : Criteria} {c : Condition}
    (h : read d = .ok criteria) (hc : criteria.condition = some c) : c.IsExpressible := by
  have hclause {clause : Document} (h : readClause clause = .ok (some c)) :
      c.IsExpressible := by
    simp only [readClause, bind_eq_ok, pure_eq_ok] at h
    rcases h with ⟨conditions, hconditions, hcombine⟩
    exact isExpressible_of_combine? (isExpressible_of_readEntries hconditions) hcombine
  simp only [read, mapError_eq_ok, readAll, bind_eq_ok, pure_eq_ok] at h
  rcases h with ⟨condition, hcondition, _, _, _, _, _, _, _, _, _, _, rfl⟩
  obtain rfl : condition = some c := hc
  unfold readCondition at hcondition
  split at hcondition
  · exact hclause hcondition
  · cases hcondition
  · cases hcondition
  · exact hclause hcondition

/-!
# Every condition that can be written is read
-/

/-- Whichever way a condition is written, it is what a document with that clause asks for. -/
theorem read_of_written {c : Condition} (he : c.IsExpressible) :
    (∃ clause, c.Written clause) ∧
      ∀ clause, c.Written clause →
        read [("where", .document clause)] = .ok { condition := some c } := by
  refine ⟨c.exists_written, ?_⟩
  intro clause hw
  have hread : readCondition [("where", .document clause)] = .ok (some c) := by
    change readClause clause = _
    rw [readClause, readEntries_of_written he hw]
    rfl
  rw [read, readAll, hread]
  rfl

/-- A combination in another, and a comparison under the last of its keys. -/
theorem read_of_written_nested :
    read [("where", .document [("and", .array [
      .document [("not", .document [("age", .document [("greaterThanOrEqual", .int32 3)])])],
      .document [("or", .array [
        .document [("name", .document [("in", .array [.string "Ada"])])],
        .document [("name", .document [("like", .string "B%")])]])]])])] =
      .ok {
        condition := some (.all [
          .negation (.test "age" .atLeast (.int32 3)),
          .any [.test "name" .anyOf (.array [.string "Ada"]),
            .test "name" .like (.string "B%")]]) } := by
  have hage : Comparison.atLeast.Fits (.int32 3) :=
    ⟨(nomatch ·), (nomatch ·), (nomatch ·)⟩
  have hname : Comparison.like.Fits (.string "B%") :=
    ⟨(nomatch ·), fun _ => ⟨"B%", rfl⟩, (nomatch ·)⟩
  have hbranches : ∀ c ∈ [Condition.test "name" .anyOf (.array [.string "Ada"]),
      .test "name" .like (.string "B%")], c.IsExpressible :=
    List.forall_mem_cons.mpr ⟨.test (by decide) (.anyOf _),
      List.forall_mem_singleton.mpr (.test (by decide) hname)⟩
  refine (read_of_written (.all (List.cons_ne_nil _ _) ?_)).2 _ ?_
  · exact List.forall_mem_cons.mpr ⟨.negation (.test (by decide) hage),
      List.forall_mem_singleton.mpr (.any (List.cons_ne_nil _ _) hbranches)⟩
  · refine .all (.cons (.negation (.test (by decide))) (.cons (.any ?_) .nil))
    exact .cons (.test (by decide)) (.cons (.test (by decide)) .nil)

end Criteria
end DocQuery
