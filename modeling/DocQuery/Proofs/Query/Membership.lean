import DocQuery.Proofs.Query.Compile
import DocQuery.Proofs.Schema.StoredForm

/-!
# Membership and equality

A test for membership in a list comes to a test for equality with each of its
items.  The two are compiled along different ways, and differ in two points:
membership always regards case, and where operands are converted the items of
its list cannot be lists themselves.
-/

namespace DocQuery

open Outcome
open Selector (Tells)

namespace Condition

def equalToAny (field : String) (vs : List Value) : Condition :=
  .any (vs.map (.test field .equal))

def equalToNone (field : String) (vs : List Value) : Condition :=
  .all (vs.map (.test field .notEqual))

theorem testsOf_map_test (field : String) (comparison : Comparison) (vs : List Value) :
    testsOf (vs.map (.test field comparison)) = vs.map (⟨field, comparison, ·⟩) := by
  induction vs with
  | nil =>
      rfl
  | cons v rest ih =>
      rw [List.map_cons, testsOf, ih]
      rfl

end Condition

namespace Compiler

open Condition (equalToAny equalToNone)

/-!
# Which lists are taken

A list is taken as an operand when all of its items are.
-/

/-- Operands are converted by the kind of the field, and not as identifiers. -/
def Converts (c : Compiler) (field : String) : Prop :=
  c.schema.isIdentifier field = false ∧
    ∃ kind ∈ [AttributeKind.date, .datetime, .uuid], c.schema.kind? field = some kind

theorem isSome_encoder?_iff {kind : AttributeKind} :
    kind.encoder?.isSome ↔ kind ∈ [AttributeKind.date, .datetime, .uuid] := by
  cases kind <;> decide

theorem succeeds_encodeItems {encoder : Value → Except ValueFault Value} {items : List Value} :
    Succeeds (encodeItems encoder items) ↔ ∀ v ∈ items, Succeeds (encoder v) := by
  induction items with
  | nil =>
      simp [encodeItems]
  | cons v rest ih =>
      rw [encodeItems, succeeds_bind_iff fun _ _ => succeeds_bind_pure, ih, List.forall_mem_cons]

theorem succeeds_encoder_iff {kind : AttributeKind} {encoder : Value → Except ValueFault Value}
    (h : kind.encoder? = some encoder) (v : Value) :
    Succeeds (encoder v) ↔ Succeeds (encodeEach encoder v) ∧ Selector.isList v = false := by
  rcases Selector.isList_cases v with hv | ⟨items, rfl⟩
  · have heach : encodeEach encoder v = encoder v := by
      unfold encodeEach
      split
      · cases hv
      · rfl
    rw [heach, hv]
    simp
  · constructor
    · rintro ⟨stored, hstored⟩
      exact absurd hstored (encoder_array h items stored)
    · rintro ⟨_, hlist⟩
      cases hlist

theorem succeeds_operand_array {c : Compiler} {field : String} {vs : List Value} :
    Succeeds (c.operand field (.array vs)) ↔
      (∀ v ∈ vs, Succeeds (c.operand field v)) ∧
        (c.Converts field → ∀ v ∈ vs, Selector.isList v = false) := by
  unfold operand Converts
  split
  · rename_i hid
    simp [succeeds_mapError, Value.succeeds_parseIdentifier, Value.isIdentifierTree_array, hid]
  · rename_i hid
    rw [Bool.not_eq_true] at hid
    split
    · rename_i encoder hencoder
      rcases Option.bind_eq_some_iff.mp hencoder with ⟨kind, hkind, hencoder⟩
      have hmem := isSome_encoder?_iff.mp (Option.isSome_of_eq_some hencoder)
      simp only [encodeEach, succeeds_mapError, succeeds_map, succeeds_encodeItems,
        succeeds_encoder_iff hencoder, forall_and, hid, hkind, Option.some.injEq]
      constructor
      · rintro ⟨hvs, hlists⟩
        exact ⟨hvs, fun _ => hlists⟩
      · rintro ⟨hvs, hlists⟩
        exact ⟨hvs, hlists ⟨trivial, kind, hmem, rfl⟩⟩
    · rename_i hencoder
      simp only [succeeds_ok, implies_true, true_and, true_iff]
      rintro ⟨_, kind, hmem, hkind⟩
      rw [hkind, Option.bind_some] at hencoder
      rw [← isSome_encoder?_iff, hencoder] at hmem
      cases hmem

/-!
# Compiling

Both conditions are compiled when all items of the list are taken.
-/

theorem succeeds_operators_equality {c : Compiler} {field : String} {comparison : Comparison}
    (h : comparison = .equal ∨ comparison = .notEqual) (v : Value) :
    Succeeds (c.operators field comparison v) ↔ Succeeds (c.operand field v) := by
  rcases h with rfl | rfl <;>
  · simp only [operators]
    split
    · rename_i hfold
      simp [operand_of_foldsCase hfold]
    · exact succeeds_bind_pure

theorem succeeds_operators_membership {c : Compiler} {field : String} {comparison : Comparison}
    (h : comparison = .anyOf ∨ comparison = .noneOf) (vs : List Value) :
    Succeeds (c.operators field comparison (.array vs)) ↔
      Succeeds (c.operand field (.array vs)) := by
  rcases h with rfl | rfl <;> exact succeeds_bind_pure

theorem succeeds_filter_test {c : Compiler} {field : String} {comparison : Comparison}
    {v : Value} :
    Succeeds (c.filter (.test field comparison v)) ↔
      Succeeds (c.operators field comparison v) := by
  rw [Compiler.filter]
  exact succeeds_bind_pure

theorem succeeds_filters {c : Compiler} {conditions : List Condition} :
    Succeeds (c.filters conditions) ↔ ∀ e ∈ conditions, Succeeds (c.filter e) := by
  induction conditions with
  | nil =>
      simp [Compiler.filters]
  | cons e rest ih =>
      rw [Compiler.filters, succeeds_bind_iff fun _ _ => succeeds_bind_pure, ih,
        List.forall_mem_cons]

theorem succeeds_filters_map_test {c : Compiler} {field : String} {comparison : Comparison}
    {vs : List Value} :
    Succeeds (c.filters (vs.map (.test field comparison))) ↔
      ∀ v ∈ vs, Succeeds (c.operators field comparison v) := by
  rw [succeeds_filters, List.forall_mem_map]
  simp only [succeeds_filter_test]

theorem succeeds_combined {c : Compiler} {conditions : List Condition} (h : conditions ≠ []) :
    (Succeeds (c.filter (.any conditions)) ↔ Succeeds (c.filters conditions)) ∧
      (Succeeds (c.filter (.all conditions)) ↔ Succeeds (c.filters conditions)) := by
  have hnonempty : ¬ conditions.isEmpty = true := by
    simpa using h
  rw [Compiler.filter, Compiler.filter, if_neg hnonempty, if_neg hnonempty]
  exact ⟨succeeds_bind_pure, succeeds_bind_pure⟩

theorem succeeds_equalToAny {c : Compiler} {field : String} {vs : List Value} (h : vs ≠ []) :
    Succeeds (c.filter? (some (equalToAny field vs))) ↔
      ∀ v ∈ vs, Succeeds (c.operand field v) := by
  rw [filter?, equalToAny, (succeeds_combined (List.map_eq_nil_iff.not.mpr h)).1,
    succeeds_filters_map_test]
  simp only [succeeds_operators_equality (Or.inl rfl)]

theorem succeeds_equalToNone {c : Compiler} {field : String} {vs : List Value} (h : vs ≠ []) :
    Succeeds (c.filter? (some (equalToNone field vs))) ↔
      ∀ v ∈ vs, Succeeds (c.operand field v) := by
  rw [filter?, equalToNone, (succeeds_combined (List.map_eq_nil_iff.not.mpr h)).2,
    succeeds_filters_map_test]
  simp only [succeeds_operators_equality (Or.inr rfl)]

theorem succeeds_membership {c : Compiler} {field : String} {comparison : Comparison}
    (h : comparison = .anyOf ∨ comparison = .noneOf) (vs : List Value) :
    Succeeds (c.filter? (some (.test field comparison (.array vs)))) ↔
      (∀ v ∈ vs, Succeeds (c.operand field v)) ∧
        (c.Converts field → ∀ v ∈ vs, Selector.isList v = false) := by
  rw [filter?, succeeds_filter_test, succeeds_operators_membership h, succeeds_operand_array]

/-!
# Verdicts

Unless case is folded, both conditions ask whether the value equals the stored
form of an item.
-/

/-- No item of the list is a text that is compared without regard to case. -/
def FoldsNone (c : Compiler) (field : String) (vs : List Value) : Prop :=
  c.foldsCase field = true → ∀ text, .string text ∉ vs

section Verdicts

variable {c : Compiler} {field : String} {vs : List Value} {filter : Document}

theorem FoldsNone.equal_iff (h : c.FoldsNone field vs) {v : Value} (hv : v ∈ vs)
    (value : Option Value) :
    c.Equal field value v ↔ c.Stored field (Value.Equals value) v := by
  apply equal_stored
  rintro text rfl hfold
  exact h hfold text hv

theorem FoldsNone.pattern?_eq_none (h : c.FoldsNone field vs) {comparison : Comparison}
    (hcomparison : comparison = .equal ∨ comparison = .notEqual) {v : Value} (hv : v ∈ vs) :
    c.pattern? ⟨field, comparison, v⟩ = none := by
  cases v with
  | string text =>
      have hfold : c.foldsCase field = false := by
        rw [← Bool.not_eq_true]
        intro hfold
        exact h hfold text hv
      rcases hcomparison with rfl | rfl <;> simp [pattern?, hfold]
  | _ =>
      rcases hcomparison with rfl | rfl <;> rfl

theorem FoldsNone.runs (h : c.FoldsNone field vs) {comparison : Comparison}
    (hcomparison : comparison = .equal ∨ comparison = .notEqual)
    (hfield : (storedName field).toList.head? ≠ some '$') :
    c.Runs (Condition.testsOf (vs.map (.test field comparison))) := by
  rw [Condition.testsOf_map_test]
  constructor
  · simp only [List.forall_mem_map]
    intro _ _
    exact hfield
  · simp only [List.forall_mem_map]
    intro v hv pattern hpattern
    rw [h.pattern?_eq_none hcomparison hv] at hpattern
    cases hpattern

theorem listed_array {value : Option Value} :
    c.Listed field value (.array vs) ↔ ∃ v ∈ vs, c.Stored field (Value.Equals value) v := by
  simp [Listed]

theorem matches?_equalToAny_tells (h : c.FoldsNone field vs)
    (hfield : (storedName field).toList.head? ≠ some '$')
    (hfilter : c.filter? (some (equalToAny field vs)) = .ok filter) (d : Document) :
    Tells (Selector.matches? filter d)
      (c.Listed field (d.lookup? (storedName field)) (.array vs)) := by
  refine (entries_filter_tells d hfilter (h.runs (Or.inl rfl) hfield)).congr ?_
  rw [listed_array, equalToAny, Condition.Holds]
  simp only [List.mem_map]
  constructor
  · rintro ⟨_, ⟨v, hv, rfl⟩, hholds⟩
    rw [Condition.Holds] at hholds
    exact ⟨v, hv, (h.equal_iff hv _).mp hholds⟩
  · rintro ⟨v, hv, hequals⟩
    refine ⟨.test field .equal v, ⟨v, hv, rfl⟩, ?_⟩
    rw [Condition.Holds]
    exact (h.equal_iff hv _).mpr hequals

theorem matches?_equalToNone_tells (h : c.FoldsNone field vs)
    (hfield : (storedName field).toList.head? ≠ some '$')
    (hfilter : c.filter? (some (equalToNone field vs)) = .ok filter) (d : Document) :
    Tells (Selector.matches? filter d)
      (¬ c.Listed field (d.lookup? (storedName field)) (.array vs)) := by
  refine (entries_filter_tells d hfilter (h.runs (Or.inr rfl) hfield)).congr ?_
  rw [listed_array, equalToNone, Condition.Holds]
  simp only [List.forall_mem_map, Condition.Holds, Passes, not_exists, not_and]
  constructor
  · intro hholds v hv hequals
    exact hholds v hv ((h.equal_iff hv _).mpr hequals)
  · intro hnone v hv hequal
    exact hnone v hv ((h.equal_iff hv _).mp hequal)

theorem runs_membership {comparison : Comparison}
    (h : comparison = .anyOf ∨ comparison = .noneOf)
    (hfield : (storedName field).toList.head? ≠ some '$') :
    c.Runs (Condition.test field comparison (.array vs)).tests := by
  constructor
  · intro t ht
    rw [List.mem_singleton.mp ht]
    exact hfield
  · intro t ht pattern hpattern
    rw [List.mem_singleton.mp ht] at hpattern
    rcases h with rfl | rfl <;> cases hpattern

theorem matches?_anyOf_tells (hfield : (storedName field).toList.head? ≠ some '$')
    (hfilter : c.filter? (some (.test field .anyOf (.array vs))) = .ok filter) (d : Document) :
    Tells (Selector.matches? filter d)
      (c.Listed field (d.lookup? (storedName field)) (.array vs)) := by
  have htells := entries_filter_tells d hfilter (runs_membership (Or.inl rfl) hfield)
  rw [Condition.Holds] at htells
  exact htells

theorem matches?_noneOf_tells (hfield : (storedName field).toList.head? ≠ some '$')
    (hfilter : c.filter? (some (.test field .noneOf (.array vs))) = .ok filter) (d : Document) :
    Tells (Selector.matches? filter d)
      (¬ c.Listed field (d.lookup? (storedName field)) (.array vs)) := by
  have htells := entries_filter_tells d hfilter (runs_membership (Or.inr rfl) hfield)
  rw [Condition.Holds] at htells
  exact htells

end Verdicts

/-!
# Membership as equality
-/

/-- Two filters lead to the same verdict on every document. -/
def Alike (f g : Document) : Prop :=
  ∀ d, ∃ verdict, Selector.matches? f d = .ok verdict ∧ Selector.matches? g d = .ok verdict

theorem Alike.of_tells {f g : Document} {p : Document → Prop}
    (hf : ∀ d, Tells (Selector.matches? f d) (p d))
    (hg : ∀ d, Tells (Selector.matches? g d) (p d)) : Alike f g := by
  intro d
  rcases hf d with ⟨b, hb, hp⟩
  rcases hg d with ⟨b', hb', hp'⟩
  refine ⟨b, hb, ?_⟩
  rw [hb', Bool.eq_iff_iff.mpr (hp'.trans hp.symm)]

def regardingCase (c : Compiler) : Compiler :=
  ⟨c.schema, { c.settings with caseSensitive := true }⟩

theorem foldsNone_regardingCase (c : Compiler) (field : String) (vs : List Value) :
    c.regardingCase.FoldsNone field vs := by
  intro hfold
  simp [foldsCase, regardingCase] at hfold

/-- A condition on a list comes to another one, which is made up of tests of its items. -/
structure ComesTo (c : Compiler) (field : String) (vs : List Value)
    (ofList ofItems : Condition) : Prop where
  /-- Where operands are converted, the items of a list cannot be lists. -/
  compiles : Succeeds (c.filter? (some ofList)) ↔
    Succeeds (c.filter? (some ofItems)) ∧
      (c.Converts field → ∀ v ∈ vs, Selector.isList v = false)
  /-- The condition on the list regards case under both settings. -/
  regardsCase : ∀ f, c.filter? (some ofList) = .ok f →
    ∃ g, c.regardingCase.filter? (some ofItems) = .ok g ∧ Alike f g
  agrees : c.FoldsNone field vs → ∀ f g, c.filter? (some ofList) = .ok f →
    c.filter? (some ofItems) = .ok g → Alike f g

/-- Operands do not depend on the settings, so that the tests of the items may be compiled under
any that fold none of them. -/
theorem comesTo_of_tells {c : Compiler} {field : String} {vs : List Value}
    {comparison : Comparison} {ofItems : Condition} {p : Document → Prop}
    (h : comparison = .anyOf ∨ comparison = .noneOf)
    (hcompiles : ∀ settings, Succeeds (filter? ⟨c.schema, settings⟩ (some ofItems)) ↔
      ∀ v ∈ vs, Succeeds (c.operand field v))
    (hlist : ∀ f, c.filter? (some (.test field comparison (.array vs))) = .ok f →
      ∀ d, Tells (Selector.matches? f d) (p d))
    (hitems : ∀ settings, FoldsNone ⟨c.schema, settings⟩ field vs →
      ∀ g, filter? ⟨c.schema, settings⟩ (some ofItems) = .ok g →
        ∀ d, Tells (Selector.matches? g d) (p d)) :
    c.ComesTo field vs (.test field comparison (.array vs)) ofItems where
  compiles := by
    rw [succeeds_membership h, hcompiles c.settings]
  regardsCase := by
    intro f hf
    have hoperands := ((succeeds_membership h vs).mp ⟨f, hf⟩).1
    rcases (hcompiles c.regardingCase.settings).mpr hoperands with ⟨g, hg⟩
    exact ⟨g, hg, Alike.of_tells (hlist f hf)
      (hitems _ (foldsNone_regardingCase c field vs) g hg)⟩
  agrees := by
    intro hfolds f g hf hg
    exact Alike.of_tells (hlist f hf) (hitems c.settings hfolds g hg)

/-- Membership in a list comes to equality with one of its items, and the lack of it to inequality
with all of them. -/
theorem membership_comesTo (c : Compiler) {field : String}
    (hfield : (storedName field).toList.head? ≠ some '$') {vs : List Value} (hvs : vs ≠ []) :
    c.ComesTo field vs (.test field .anyOf (.array vs)) (equalToAny field vs) ∧
      c.ComesTo field vs (.test field .noneOf (.array vs)) (equalToNone field vs) := by
  constructor
  · apply comesTo_of_tells (Or.inl rfl)
    · intro settings
      exact succeeds_equalToAny hvs
    · intro f
      exact matches?_anyOf_tells hfield
    · intro settings hfolds g
      exact matches?_equalToAny_tells hfolds hfield
  · apply comesTo_of_tells (Or.inr rfl)
    · intro settings
      exact succeeds_equalToNone hvs
    · intro f
      exact matches?_noneOf_tells hfield
    · intro settings hfolds g
      exact matches?_equalToNone_tells hfolds hfield

/-- Also where texts are compared without regard to case, the listed ones are not. -/
theorem membership_comesTo_names :
    let c : Compiler := ⟨⟨[]⟩, { caseSensitive := false }⟩
    let vs : List Value := [.string "ada", .null]
    (storedName "name").toList.head? ≠ some '$' ∧ vs ≠ [] ∧
      ∃ f g, c.filter? (some (.test "name" .anyOf (.array vs))) = .ok f ∧
        c.regardingCase.filter? (some (equalToAny "name" vs)) = .ok g ∧ Alike f g ∧
          Selector.matches? f [("name", .string "Ada")] = .ok false := by
  intro c vs
  have hfield : (storedName "name").toList.head? ≠ some '$' := by
    decide
  have hvs : vs ≠ [] := List.cons_ne_nil _ _
  refine ⟨hfield, hvs, ?_⟩
  rcases (membership_comesTo c hfield hvs).1.regardsCase _ rfl with ⟨g, hg, halike⟩
  have hverdict : Selector.matches? [("name", .document [("$in", .array vs)])]
      [("name", .string "Ada")] = .ok false := by
    decide +kernel
  exact ⟨_, g, rfl, hg, halike, hverdict⟩

/-- Without regard to case a text equals an item of a list without being a member of it, and on a
day a list is an operand of equality but no item of a list. -/
theorem membership_unlike_equality :
    (¬ ∀ (c : Compiler) (field : String), (storedName field).toList.head? ≠ some '$' →
      ∀ vs : List Value, vs ≠ [] → ∀ f g d : Document,
        c.filter? (some (.test field .anyOf (.array vs))) = .ok f →
          c.filter? (some (equalToAny field vs)) = .ok g →
            Selector.matches? f d = Selector.matches? g d) ∧
    (¬ ∀ (c : Compiler) (field : String), (storedName field).toList.head? ≠ some '$' →
      ∀ vs : List Value, vs ≠ [] →
        (Succeeds (c.filter? (some (.test field .anyOf (.array vs)))) ↔
          Succeeds (c.filter? (some (equalToAny field vs))))) := by
  constructor
  · intro h
    have hsame := h ⟨⟨[]⟩, { caseSensitive := false }⟩ "initial" (by decide) [.string "a"]
      (List.cons_ne_nil _ _) _ _ [("initial", .string "A")] rfl rfl
    have hmember : Selector.matches? [("initial", .document [("$in", .array [.string "a"])])]
        [("initial", .string "A")] = .ok false := by
      decide +kernel
    have hequal : Selector.matches?
        [("$or", .array [.document [("initial",
          .document [("$regex", .string "^a$"), ("$options", .string "i")])]])]
        [("initial", .string "A")] = .ok true := by
      decide +kernel
    cases hmember.symm.trans (hsame.trans hequal)
  · intro h
    have hsame := h ⟨⟨[("born", { kind := .date })]⟩, {}⟩ "born" (by decide)
      [.array [.null]] (List.cons_ne_nil _ _)
    rcases hsame.mpr ⟨_, rfl⟩ with ⟨f, hf⟩
    cases hf

end Compiler
end DocQuery
