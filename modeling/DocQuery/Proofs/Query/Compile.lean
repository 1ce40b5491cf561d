import DocQuery.Proofs.Keyed
import DocQuery.Proofs.Outcome
import DocQuery.Proofs.Query.Verdict
import Mathlib.Data.List.Forall2

/-!
# Compiled filters

A native filter tells of every document whether the condition holds that it was
compiled from.  Each helper of the compiler is described once by what it gives
when it succeeds; the comparisons are then put together from these.
-/

namespace DocQuery
namespace Compiler

open Outcome
open Selector (Tells)

/-!
# Stored operands

The stored form of a list is the list of the stored forms of its items.
-/

theorem parseIdentifiers_forall₂ {items ids : List Value}
    (h : Value.parseIdentifiers items = .ok ids) :
    List.Forall₂ (fun v id => v.parseIdentifier = .ok id) items ids := by
  induction items generalizing ids with
  | nil =>
      cases h
      exact List.Forall₂.nil
  | cons v rest ih =>
      simp only [Value.parseIdentifiers, bind_eq_ok, pure_eq_ok] at h
      rcases h with ⟨id, hid, others, hothers, rfl⟩
      exact List.Forall₂.cons hid (ih hothers)

theorem encodeItems_forall₂ {encoder : Value → Except ValueFault Value}
    {items stored : List Value} (h : encodeItems encoder items = .ok stored) :
    List.Forall₂ (fun v w => encoder v = .ok w) items stored := by
  induction items generalizing stored with
  | nil =>
      cases h
      exact List.Forall₂.nil
  | cons v rest ih =>
      simp only [encodeItems, bind_eq_ok, pure_eq_ok] at h
      rcases h with ⟨w, hw, others, hothers, rfl⟩
      exact List.Forall₂.cons hw (ih hothers)

/-- No encoder takes a list, so that the items of a list are no lists. -/
theorem encoder_array {kind : AttributeKind} {encoder : Value → Except ValueFault Value}
    (h : kind.encoder? = some encoder) (items : List Value) (stored : Value) :
    encoder (.array items) ≠ .ok stored := by
  intro hstored
  cases kind <;> cases h <;> cases hstored

theorem encodeEach_of_encoder {kind : AttributeKind}
    {encoder : Value → Except ValueFault Value} (h : kind.encoder? = some encoder)
    {v stored : Value} (hv : encoder v = .ok stored) : encodeEach encoder v = .ok stored := by
  cases v with
  | array items =>
      exact absurd hv (encoder_array h items stored)
  | _ =>
      exact hv

theorem operand_array {c : Compiler} {field : String} {items : List Value} {stored : Value}
    (h : c.operand field (.array items) = .ok stored) :
    ∃ others, stored = .array others ∧
      List.Forall₂ (fun v w => c.operand field v = .ok w) items others := by
  unfold operand at h
  split at h
  · rename_i hid
    simp only [Value.parseIdentifier, mapError_eq_ok, map_eq_ok] at h
    rcases h with ⟨ids, hids, rfl⟩
    refine ⟨ids, rfl, (parseIdentifiers_forall₂ hids).imp ?_⟩
    intro v id hv
    simpa [operand, hid, mapError_eq_ok] using hv
  · rename_i hid
    split at h
    · rename_i encoder hencoder
      rcases Option.bind_eq_some_iff.mp hencoder with ⟨kind, _, hkind⟩
      simp only [encodeEach, mapError_eq_ok, map_eq_ok] at h
      rcases h with ⟨others, hothers, rfl⟩
      refine ⟨others, rfl, (encodeItems_forall₂ hothers).imp ?_⟩
      intro v w hv
      simpa [operand, hid, hencoder, mapError_eq_ok] using encodeEach_of_encoder hkind hv
    · rename_i hencoder
      cases h
      refine ⟨items, rfl, List.forall₂_same.mpr ?_⟩
      intro v _
      simp [operand, hid, hencoder]

theorem operand_of_foldsCase {c : Compiler} {field : String} (h : c.foldsCase field = true)
    (v : Value) : c.operand field v = .ok v := by
  simp only [foldsCase, Bool.and_eq_true, Bool.not_eq_true'] at h
  rcases h with ⟨⟨_, hidentifier⟩, htext⟩
  unfold holdsText at htext
  cases hkind : c.schema.kind? field with
  | none =>
      simp [operand, hidentifier, hkind]
  | some kind =>
      rw [hkind] at htext
      cases kind <;> simp [operand, hidentifier, hkind, AttributeKind.encoder?] at htext ⊢

/-!
# Helpers of the compiler
-/

theorem operandTest_eq_ok {c : Compiler} {key field : String} {operand : Value}
    {test : Document} :
    c.operandTest key field operand = .ok test ↔
      ∃ stored, c.operand field operand = .ok stored ∧ [(key, stored)] = test := by
  simp only [operandTest, bind_eq_ok, pure_eq_ok]

theorem listTest_eq_ok {c : Compiler} {key field : String} {comparison : Comparison}
    {operand : Value} {test : Document}
    (h : c.listTest key field comparison operand = .ok test) :
    ∃ items others, operand = .array items ∧ test = [(key, .array others)] ∧
      List.Forall₂ (fun v w => c.operand field v = .ok w) items others := by
  cases operand with
  | array items =>
      rcases operandTest_eq_ok.mp h with ⟨stored, hstored, rfl⟩
      rcases operand_array hstored with ⟨others, rfl, hothers⟩
      exact ⟨items, others, rfl, rfl, hothers⟩
  | _ =>
      cases h

theorem textTest_eq_ok {c : Compiler} {field : String} {comparison : Comparison}
    {pattern : String → String} {operand : Value} {test : Document}
    (h : c.textTest field comparison pattern operand = .ok test) :
    ∃ text, operand = .string text ∧ test = c.patternTest (pattern text) := by
  cases operand with
  | string text =>
      cases h
      exact ⟨text, rfl, rfl⟩
  | _ =>
      cases h

theorem flagsOf_optionsOf_patternTest (c : Compiler) (pattern : String) :
    Selector.flagsOf (Selector.optionsOf (c.patternTest pattern)) = c.flags := by
  unfold patternTest
  cases hcase : c.settings.caseSensitive <;>
    simp [Selector.optionsOf, Selector.flagsOf, Keyed.get?, flags, hcase]

theorem operators_patternTest (c : Compiler) (pattern : String) (value : Option Value)
    (options : String) :
    Selector.operators value options (c.patternTest pattern) =
      Selector.matchesPattern value options (.string pattern) := by
  have hregex : Selector.operator value options "$regex" (.string pattern) =
      Selector.matchesPattern value options (.string pattern) :=
    rfl
  unfold patternTest
  split
  · rw [Selector.operators_single]
    exact hregex
  · simp only [Selector.operators, hregex]
    rcases Selector.matchesPattern value options (.string pattern) with fault | b
    · rfl
    · cases b <;> rfl

theorem operators_patternTest_tells {c : Compiler} {pattern : String}
    (hread : (Pattern.read? c.flags pattern).isSome) (value : Option Value) :
    Tells (Selector.operators value (Selector.optionsOf (c.patternTest pattern))
      (c.patternTest pattern)) (Value.Fits c.flags value pattern) := by
  rw [operators_patternTest]
  rw [← flagsOf_optionsOf_patternTest c pattern] at hread ⊢
  exact Selector.matchesPattern_tells hread value

theorem condition_patternTest (c : Compiler) (pattern : String) (value : Option Value) :
    Selector.condition value (.document (c.patternTest pattern)) =
      Selector.operators value (Selector.optionsOf (c.patternTest pattern))
        (c.patternTest pattern) := by
  have hoperators : Selector.isOperators (.document (c.patternTest pattern)) = true := by
    unfold patternTest
    split <;> rfl
  simp only [Selector.condition, hoperators, if_true]

theorem condition_patternTest_tells {c : Compiler} {pattern : String}
    (hread : (Pattern.read? c.flags pattern).isSome) (value : Option Value) :
    Tells (Selector.condition value (.document (c.patternTest pattern)))
      (Value.Fits c.flags value pattern) := by
  rw [condition_patternTest]
  exact operators_patternTest_tells hread value

theorem condition_patternTest_error {c : Compiler} {pattern : String}
    (hread : Pattern.read? c.flags pattern = none) (value : Option Value) :
    Selector.condition value (.document (c.patternTest pattern)) = .error (.pattern pattern) := by
  rw [condition_patternTest, operators_patternTest]
  rw [← flagsOf_optionsOf_patternTest c pattern] at hread
  simp only [Selector.matchesPattern, hread]

theorem condition_notPatternTest_tells {c : Compiler} {pattern : String}
    (hread : (Pattern.read? c.flags pattern).isSome) (value : Option Value) :
    Tells (Selector.condition value (.document [("$not", .document (c.patternTest pattern))]))
      (¬ Value.Fits c.flags value pattern) := by
  have hoperators :
      Selector.isOperators (.document [("$not", .document (c.patternTest pattern))]) = true :=
    rfl
  simp only [Selector.condition, hoperators, if_true, Selector.operators_single,
    Selector.operator]
  exact (operators_patternTest_tells hread value).not

/-!
# Grouping stages
-/

theorem keys_outputs (summaries : List Summary) (f : Summary → Value) :
    Keyed.keys (summaries.map fun s => (s.output, f s)) = summaries.map Summary.output := by
  rw [Keyed.keys, List.map_map]
  rfl

/-- The outputs of a stage stand behind its key, each under a name of its own. -/
structure Staged (g : Grouping) (stage : Document) : Prop where
  fields : stage = (storedIdField, groupKey g.fields) ::
    g.summaries.map fun s => (s.output, .document (accumulator s))
  distinct : (storedIdField :: g.summaries.map Summary.output).Nodup
  fresh : ∀ s ∈ g.summaries, s.output ∉ g.fields

theorem addOutputs_eq_ok {fields : List String} {stage stage' : Document}
    {summaries : List Summary} (hstage : (Keyed.keys stage).Nodup)
    (h : addOutputs fields stage summaries = .ok stage') :
    stage' = stage ++ summaries.map (fun s => (s.output, .document (accumulator s))) ∧
      (Keyed.keys stage').Nodup ∧ ∀ s ∈ summaries, s.output ∉ fields := by
  induction summaries generalizing stage with
  | nil =>
      cases h
      simpa using hstage
  | cons s rest ih =>
      unfold addOutputs at h
      split at h
      · cases h
      · rename_i hnew
        rw [Bool.or_eq_true, not_or, Keyed.contains_iff_mem_keys, List.contains_iff_mem] at hnew
        have hinsert := Keyed.insert_of_not_mem hnew.1 (.document (accumulator s))
        rcases ih (Keyed.nodup_keys_insert hstage _ _) h with ⟨hfields, hdistinct, hfresh⟩
        refine ⟨?_, hdistinct, ?_⟩
        · rw [hfields, hinsert, List.append_assoc]
          rfl
        · rw [List.forall_mem_cons]
          exact ⟨hnew.2, hfresh⟩

theorem staged_of_groupStage {g : Grouping} {stage : Document}
    (h : groupStage g = .ok stage) : Staged g stage := by
  have hkey : (Keyed.keys [(storedIdField, groupKey g.fields)]).Nodup :=
    List.nodup_singleton storedIdField
  rcases addOutputs_eq_ok hkey h with ⟨hfields, hdistinct, hfresh⟩
  refine ⟨hfields, ?_, hfresh⟩
  rw [hfields, Keyed.keys, List.map_append, List.map_map] at hdistinct
  exact hdistinct

/-!
# Compiled criteria
-/

theorem pipeline?_eq_some {filter : Document} {grouping : Option Grouping}
    {pipeline : List Document} (h : pipeline? filter grouping = .ok (some pipeline)) :
    ∃ g stage, grouping = some g ∧ Staged g stage ∧
      pipeline = [[("$match", .document filter)], [("$group", .document stage)]] := by
  cases grouping with
  | none =>
      cases h
  | some g =>
      simp only [pipeline?, bind_eq_ok, pure_eq_ok] at h
      rcases h with ⟨stage, hstage, hpipeline⟩
      cases hpipeline
      exact ⟨g, stage, rfl, staged_of_groupStage hstage, rfl⟩

theorem compile_eq_ok {c : Compiler} {criteria : Criteria} {q : NativeQuery}
    (h : c.compile criteria = .ok q) :
    c.filter? criteria.condition = .ok q.filter ∧ q.options = options criteria ∧
      pipeline? q.filter criteria.grouping = .ok q.pipeline := by
  simp only [compile, bind_eq_ok, pure_eq_ok] at h
  rcases h with ⟨filter, hfilter, pipeline, hpipeline, rfl⟩
  exact ⟨hfilter, rfl, hpipeline⟩

/-!
# Comparisons
-/

theorem stored_iff {c : Compiler} {field : String} {operand stored : Value}
    (h : c.operand field operand = .ok stored) (p : Value → Prop) :
    c.Stored field p operand ↔ p stored := by
  simp [Stored, h]

theorem listed_iff {c : Compiler} {field : String} {items others : List Value}
    (h : List.Forall₂ (fun v w => c.operand field v = .ok w) items others)
    (value : Option Value) :
    c.Listed field value (.array items) ↔ ∃ w ∈ others, Value.Equals value w := by
  have hitems : c.Listed field value (.array items) ↔
      ∃ v ∈ items, c.Stored field (Value.Equals value) v := by
    simp [Listed]
  rw [hitems]
  clear hitems
  induction h with
  | nil =>
      simp
  | cons hfirst _ ih =>
      simp [stored_iff hfirst, ih]

theorem matching_iff (c : Compiler) (value : Option Value) (pattern : String → String)
    (text : String) :
    c.Matching value pattern (.string text) ↔ Value.Fits c.flags value (pattern text) := by
  simp [Matching]

theorem equal_folded {c : Compiler} {field : String} (h : c.foldsCase field = true)
    (value : Option Value) (text : String) :
    c.Equal field value (.string text) ↔ Value.Fits c.flags value (wholeText text) := by
  simp [Equal, h]

theorem equal_stored {c : Compiler} {field : String} {operand : Value}
    (h : ∀ text, operand = .string text → c.foldsCase field = true → False)
    (value : Option Value) :
    c.Equal field value operand ↔ c.Stored field (Value.Equals value) operand := by
  unfold Equal
  split
  · rename_i text hfold
    exact (h text rfl hfold).elim
  · rfl

theorem condition_operandTest_tells {c : Compiler} {key field : String} {operand : Value}
    {test : Document} (h : c.operandTest key field operand = .ok test)
    (hkey : Selector.isOperator key = true ∧ key ≠ "$not" ∧ key ≠ "$options")
    {value : Option Value} {p : Value → Prop}
    (hplain : ∀ stored, Tells (Selector.plainOperator value "" key stored) (p stored)) :
    Tells (Selector.condition value (.document test)) (c.Stored field p operand) := by
  rcases operandTest_eq_ok.mp h with ⟨stored, hstored, rfl⟩
  rw [Selector.condition_single hkey.1 hkey.2.1 hkey.2.2]
  exact (hplain stored).congr (stored_iff hstored p).symm

theorem condition_equal_tells {c : Compiler} {field : String} {operand : Value}
    {test : Document} (h : c.operators field .equal operand = .ok test)
    (hread : ∀ pattern, c.pattern? ⟨field, .equal, operand⟩ = some pattern →
      (Pattern.read? c.flags pattern).isSome) (value : Option Value) :
    Tells (Selector.condition value (.document test)) (c.Equal field value operand) := by
  simp only [operators] at h
  split at h
  · rename_i text hfold
    cases h
    have hpattern : (Pattern.read? c.flags (wholeText text)).isSome :=
      hread _ (by simp [pattern?, hfold])
    exact (condition_patternTest_tells hpattern value).congr (equal_folded hfold value text).symm
  · rename_i hfold
    refine Tells.congr ?_ (equal_stored hfold value).symm
    refine condition_operandTest_tells h (by decide) ?_
    intro stored
    exact (Selector.tells_ok _).congr (Selector.equals_iff value stored)

theorem condition_notEqual_tells {c : Compiler} {field : String} {operand : Value}
    {test : Document} (h : c.operators field .notEqual operand = .ok test)
    (hread : ∀ pattern, c.pattern? ⟨field, .notEqual, operand⟩ = some pattern →
      (Pattern.read? c.flags pattern).isSome) (value : Option Value) :
    Tells (Selector.condition value (.document test)) (¬ c.Equal field value operand) := by
  simp only [operators] at h
  split at h
  · rename_i text hfold
    cases h
    have hpattern : (Pattern.read? c.flags (wholeText text)).isSome :=
      hread _ (by simp [pattern?, hfold])
    exact (condition_notPatternTest_tells hpattern value).congr
      (not_congr (equal_folded hfold value text).symm)
  · rename_i hfold
    rcases operandTest_eq_ok.mp h with ⟨stored, hstored, rfl⟩
    rw [Selector.condition_single (by decide) (by decide) (by decide)]
    have hequal := (equal_stored hfold value).trans (stored_iff hstored (Value.Equals value))
    exact (Selector.tells_ok _).not.congr
      (not_congr ((Selector.equals_iff value stored).trans hequal.symm))

theorem condition_ordered_tells {c : Compiler} {key field : String} {operand : Value}
    {test : Document} (h : c.operandTest key field operand = .ok test)
    (hkey : Selector.isOperator key = true ∧ key ≠ "$not" ∧ key ≠ "$options")
    {value : Option Value} {accept : Ordering → Bool} {p : Ordering → Prop}
    (hplain : ∀ stored, Selector.plainOperator value "" key stored =
      .ok (Selector.compares value stored accept))
    (haccept : ∀ o, accept o = true ↔ p o) :
    Tells (Selector.condition value (.document test))
      (c.Stored field (Value.Ordered value p) operand) := by
  refine condition_operandTest_tells h hkey ?_
  intro stored
  rw [hplain]
  refine (Selector.tells_ok _).congr ((Selector.compares_iff value stored accept).trans ?_)
  simp only [Value.Ordered, haccept]

theorem condition_textTest_tells {c : Compiler} {field : String} {comparison : Comparison}
    {pattern : String → String} {operand : Value} {test : Document}
    (h : c.textTest field comparison pattern operand = .ok test)
    (hread : ∀ text, operand = .string text →
      (Pattern.read? c.flags (pattern text)).isSome) (value : Option Value) :
    Tells (Selector.condition value (.document test)) (c.Matching value pattern operand) := by
  rcases textTest_eq_ok h with ⟨text, rfl, rfl⟩
  exact (condition_patternTest_tells (hread text rfl) value).congr
    (matching_iff c value pattern text).symm

theorem condition_anyOf_tells {c : Compiler} {field : String} {comparison : Comparison}
    {operand : Value} {test : Document}
    (h : c.listTest "$in" field comparison operand = .ok test) (value : Option Value) :
    Tells (Selector.condition value (.document test)) (c.Listed field value operand) := by
  rcases listTest_eq_ok h with ⟨items, others, rfl, rfl, hothers⟩
  rw [Selector.condition_single (by decide) (by decide) (by decide)]
  exact (Selector.isMember_tells value others).congr (listed_iff hothers value).symm

theorem condition_noneOf_tells {c : Compiler} {field : String} {comparison : Comparison}
    {operand : Value} {test : Document}
    (h : c.listTest "$nin" field comparison operand = .ok test) (value : Option Value) :
    Tells (Selector.condition value (.document test)) (¬ c.Listed field value operand) := by
  rcases listTest_eq_ok h with ⟨items, others, rfl, rfl, hothers⟩
  rw [Selector.condition_single (by decide) (by decide) (by decide)]
  exact (Selector.isMember_tells value others).not.congr
    (not_congr (listed_iff hothers value).symm)

theorem condition_operators_tells {c : Compiler} {t : Test} {test : Document}
    (h : c.operators t.field t.comparison t.operand = .ok test)
    (hread : ∀ pattern, c.pattern? t = some pattern → (Pattern.read? c.flags pattern).isSome)
    (value : Option Value) :
    Tells (Selector.condition value (.document test)) (c.Passes t value) := by
  rcases t with ⟨field, comparison, operand⟩
  cases comparison with
  | equal =>
      exact condition_equal_tells h hread value
  | notEqual =>
      exact condition_notEqual_tells h hread value
  | greater =>
      exact condition_ordered_tells h (by decide) (fun _ => rfl) (by decide)
  | atLeast =>
      exact condition_ordered_tells h (by decide) (fun _ => rfl) (by decide)
  | less =>
      exact condition_ordered_tells h (by decide) (fun _ => rfl) (by decide)
  | atMost =>
      exact condition_ordered_tells h (by decide) (fun _ => rfl) (by decide)
  | anyOf =>
      exact condition_anyOf_tells h value
  | noneOf =>
      exact condition_noneOf_tells h value
  | like | contains | startsWith | endsWith | pattern =>
      refine condition_textTest_tells h ?_ value
      rintro text rfl
      exact hread _ rfl

/-!
# Conditions

The tests of a condition must be such that the store can run them.  The
induction follows the condition, and a list of conditions is taken together
with both ways of combining it.
-/

/-- The fields of all tests can be told from operators, and their patterns can be read. -/
structure Runs (c : Compiler) (ts : List Test) : Prop where
  fields : ∀ t ∈ ts, (storedName t.field).toList.head? ≠ some '$'
  patterns : ∀ t ∈ ts, ∀ pattern, c.pattern? t = some pattern →
    (Pattern.read? c.flags pattern).isSome

theorem Runs.mono {c : Compiler} {ts us : List Test} (h : c.Runs us) (hsub : ts ⊆ us) :
    c.Runs ts where
  fields t ht := h.fields t (hsub ht)
  patterns t ht := h.patterns t (hsub ht)

theorem entries_combinator_all {d : Document} {branches : List Value} :
    Selector.entries d [("$and", .array branches)] = Selector.allOf d branches := by
  rw [Selector.entries_single]
  simp [Selector.entry, Selector.allKey]

theorem entries_combinator_any {d : Document} {branches : List Value} :
    Selector.entries d [("$or", .array branches)] = Selector.anyOf d branches := by
  rw [Selector.entries_single]
  simp [Selector.entry, Selector.allKey, Selector.anyKey]

theorem entries_combinator_none {d : Document} {branches : List Value} :
    Selector.entries d [("$nor", .array branches)] =
      (Selector.anyOf d branches).map (!·) := by
  rw [Selector.entries_single]
  simp [Selector.entry, Selector.allKey, Selector.anyKey, Selector.noneKey]

theorem entries_test_tells {c : Compiler} {field : String} {comparison : Comparison}
    {operand : Value} {test : Document} (h : c.operators field comparison operand = .ok test)
    (hruns : c.Runs [⟨field, comparison, operand⟩]) (d : Document) :
    Tells (Selector.entries d [(storedName field, .document test)])
      (Condition.Holds c d (.test field comparison operand)) := by
  have hfield := hruns.fields ⟨field, comparison, operand⟩ (List.mem_singleton.mpr rfl)
  rw [Selector.entries_field hfield, Condition.Holds]
  exact condition_operators_tells (t := ⟨field, comparison, operand⟩) h
    (hruns.patterns _ (List.mem_singleton.mpr rfl)) _

theorem filter_all_eq_ok {c : Compiler} {conditions : List Condition} {filter : Document}
    (h : c.filter (.all conditions) = .ok filter) :
    ∃ branches, c.filters conditions = .ok branches ∧ filter = [("$and", .array branches)] := by
  simp only [Compiler.filter] at h
  split at h
  · cases h
  · simp only [bind_eq_ok, pure_eq_ok] at h
    rcases h with ⟨branches, hbranches, rfl⟩
    exact ⟨branches, hbranches, rfl⟩

theorem filter_any_eq_ok {c : Compiler} {conditions : List Condition} {filter : Document}
    (h : c.filter (.any conditions) = .ok filter) :
    ∃ branches, c.filters conditions = .ok branches ∧ filter = [("$or", .array branches)] := by
  simp only [Compiler.filter] at h
  split at h
  · cases h
  · simp only [bind_eq_ok, pure_eq_ok] at h
    rcases h with ⟨branches, hbranches, rfl⟩
    exact ⟨branches, hbranches, rfl⟩

theorem filter_negation_eq_ok {c : Compiler} {condition : Condition} {filter : Document}
    (h : c.filter (.negation condition) = .ok filter) :
    ∃ negated, c.filter condition = .ok negated ∧
      filter = [("$nor", .array [.document negated])] := by
  simp only [Compiler.filter, bind_eq_ok, pure_eq_ok] at h
  rcases h with ⟨negated, hnegated, rfl⟩
  exact ⟨negated, hnegated, rfl⟩

theorem filter_test_eq_ok {c : Compiler} {field : String} {comparison : Comparison}
    {operand : Value} {filter : Document}
    (h : c.filter (.test field comparison operand) = .ok filter) :
    ∃ test, c.operators field comparison operand = .ok test ∧
      filter = [(storedName field, .document test)] := by
  simp only [Compiler.filter, bind_eq_ok, pure_eq_ok] at h
  rcases h with ⟨test, htest, rfl⟩
  exact ⟨test, htest, rfl⟩

theorem filters_cons_eq_ok {c : Compiler} {condition : Condition} {rest : List Condition}
    {branches : List Value} (h : c.filters (condition :: rest) = .ok branches) :
    ∃ first others, c.filter condition = .ok first ∧ c.filters rest = .ok others ∧
      branches = .document first :: others := by
  simp only [Compiler.filters, bind_eq_ok, pure_eq_ok] at h
  rcases h with ⟨first, hfirst, others, hothers, rfl⟩
  exact ⟨first, others, hfirst, hothers, rfl⟩

mutual

theorem entries_filter_tells {c : Compiler} (d : Document) :
    ∀ {condition : Condition} {filter : Document}, c.filter condition = .ok filter →
      c.Runs condition.tests → Tells (Selector.entries d filter) (condition.Holds c d)
  | .all conditions, filter, h, hruns => by
      rcases filter_all_eq_ok h with ⟨branches, hbranches, rfl⟩
      rw [entries_combinator_all, Condition.Holds]
      exact (branches_filters_tells d hbranches hruns).1
  | .any conditions, filter, h, hruns => by
      rcases filter_any_eq_ok h with ⟨branches, hbranches, rfl⟩
      rw [entries_combinator_any, Condition.Holds]
      exact (branches_filters_tells d hbranches hruns).2
  | .negation condition, filter, h, hruns => by
      rcases filter_negation_eq_ok h with ⟨negated, hnegated, rfl⟩
      rw [entries_combinator_none, Condition.Holds]
      have hbranch := entries_filter_tells d hnegated hruns
      have hnone : Tells (Selector.anyOf d []) False := ⟨false, rfl, by simp⟩
      exact (Selector.anyOf_cons_tells hbranch hnone).not.congr (by simp)
  | .test field comparison operand, filter, h, hruns => by
      rcases filter_test_eq_ok h with ⟨test, htest, rfl⟩
      exact entries_test_tells htest hruns d

theorem branches_filters_tells {c : Compiler} (d : Document) :
    ∀ {conditions : List Condition} {branches : List Value},
      c.filters conditions = .ok branches → c.Runs (Condition.testsOf conditions) →
        Tells (Selector.allOf d branches) (∀ e ∈ conditions, e.Holds c d) ∧
          Tells (Selector.anyOf d branches) (∃ e, ∃ _ : e ∈ conditions, e.Holds c d)
  | [], branches, h, _ => by
      cases h
      exact ⟨⟨true, rfl, by simp⟩, ⟨false, rfl, by simp⟩⟩
  | condition :: rest, branches, h, hruns => by
      rcases filters_cons_eq_ok h with ⟨first, others, hfirst, hothers, rfl⟩
      simp only [Condition.testsOf] at hruns
      have hhead := entries_filter_tells d hfirst
        (hruns.mono (List.subset_append_left _ _))
      have htail := branches_filters_tells d hothers
        (hruns.mono (List.subset_append_right _ _))
      constructor
      · exact (Selector.allOf_cons_tells hhead htail.1).congr (by simp)
      · exact (Selector.anyOf_cons_tells hhead htail.2).congr (by simp)

end

/-- Evaluating a compiled filter never fails, and tells whether the condition holds. -/
theorem matches?_filter?_iff_holds (c : Compiler) (condition : Condition) (filter : Document)
    (d : Document) (hcompile : c.filter? (some condition) = .ok filter)
    (hfields : ∀ t ∈ condition.tests, (storedName t.field).toList.head? ≠ some '$')
    (hpatterns : ∀ t ∈ condition.tests, ∀ pattern, c.pattern? t = some pattern →
      (Pattern.read? c.flags pattern).isSome) :
    ∃ b, Selector.matches? filter d = .ok b ∧ (b = true ↔ condition.Holds c d) :=
  entries_filter_tells d hcompile ⟨hfields, hpatterns⟩

theorem matches?_filter?_iff_holds_folded :
    ∃ filter,
      filter? ⟨⟨[]⟩, { caseSensitive := false }⟩
          (some (.negation (.any [.test "name" .equal (.string "Rex"),
            .test "age" .anyOf (.array [.int32 3, .null])]))) = .ok filter ∧
        ∃ b, Selector.matches? filter [("name", .array [.string "rex"])] = .ok b ∧
          (b = true ↔ Condition.Holds ⟨⟨[]⟩, { caseSensitive := false }⟩
            [("name", .array [.string "rex"])]
            (.negation (.any [.test "name" .equal (.string "Rex"),
              .test "age" .anyOf (.array [.int32 3, .null])]))) := by
  refine ⟨_, rfl, ?_⟩
  apply matches?_filter?_iff_holds _ _ _ _ rfl
  · simp only [Condition.tests, Condition.testsOf, List.append_nil, List.cons_append,
      List.nil_append, List.forall_mem_cons]
    decide
  · have hread : (Pattern.read? { caseless := true } (wholeText "Rex")).isSome := by
      decide +kernel
    simp only [Condition.tests, Condition.testsOf, List.append_nil, List.cons_append,
      List.nil_append, List.forall_mem_cons, pattern?, flags]
    simp [hread]

end Compiler
end DocQuery
