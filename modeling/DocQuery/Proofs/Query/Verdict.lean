import DocQuery.Proofs.Query.Meaning

/-!
# Verdicts of native filters

What the store computes for each native operator and combinator, said as a
statement about the values on a path.  Every law here is about filters that
lead to a verdict, and says which one.
-/

namespace DocQuery
namespace Selector

/-- A verdict is reached, and it tells whether a statement is true. -/
def Tells (v : Verdict) (p : Prop) : Prop :=
  ∃ b, v = .ok b ∧ (b = true ↔ p)

theorem tells_ok (b : Bool) : Tells (.ok b) (b = true) :=
  ⟨b, rfl, Iff.rfl⟩

theorem Tells.congr {v : Verdict} {p q : Prop} (h : Tells v p) (hpq : p ↔ q) : Tells v q := by
  rcases h with ⟨b, hv, hb⟩
  exact ⟨b, hv, hb.trans hpq⟩

theorem Tells.eq_true_iff {v : Verdict} {p : Prop} (h : Tells v p) : v = .ok true ↔ p := by
  rcases h with ⟨b, rfl, hb⟩
  rw [← hb, Except.ok.injEq]

theorem Tells.not {v : Verdict} {p : Prop} (h : Tells v p) : Tells (v.map (!·)) (¬ p) := by
  rcases h with ⟨b, hv, hb⟩
  refine ⟨!b, ?_, ?_⟩
  · rw [hv]
    rfl
  · rw [← hb]
    cases b <;> simp

/-!
# Single comparisons
-/

theorem isNull_iff (a : Canonical) : isNull a = true ↔ a = .null := by
  cases a <;> simp [isNull]

theorem elements_of_not_isList {v : Value} (h : isList v = false) :
    Value.elements (some v) = [v] := by
  cases v with
  | array items =>
      simp [isList] at h
  | _ =>
      rfl

theorem equals_of_not_isList {v : Value} (h : isList v = false) (operand : Value) :
    equals (some v) operand = v.canonical.same operand.canonical := by
  cases v with
  | array items =>
      simp [isList] at h
  | _ =>
      rfl

theorem compares_of_not_isList {v : Value} (h : isList v = false) (operand : Value)
    (accept : Ordering → Bool) : compares (some v) operand accept = ordered operand accept v := by
  cases v with
  | array items =>
      simp [isList] at h
  | _ =>
      rfl

theorem exists_list_of_isList {v : Value} (h : isList v = true) : ∃ items, v = .array items := by
  cases v with
  | array items =>
      exact ⟨items, rfl⟩
  | _ =>
      simp [isList] at h

theorem isList_cases (v : Value) : isList v = false ∨ ∃ items, v = .array items := by
  cases h : isList v with
  | false =>
      exact Or.inl rfl
  | true =>
      exact Or.inr (exists_list_of_isList h)

theorem equals_iff (value : Option Value) (operand : Value) :
    equals value operand = true ↔ Value.Equals value operand := by
  cases value with
  | none =>
      cases hlist : isList operand <;>
        simp [equals, Value.Equals, Value.elements, isNull_iff, hlist]
  | some v =>
      rcases isList_cases v with hv | ⟨items, rfl⟩
      · rw [equals_of_not_isList hv]
        cases hlist : isList operand <;>
          simp [Value.Equals, Value.Same, elements_of_not_isList hv, hlist]
      · cases hlist : isList operand <;>
          simp [equals, Value.Equals, Value.Same, Value.elements, hlist]

theorem ordered_iff (operand : Value) (accept : Ordering → Bool) (v : Value) :
    ordered operand accept v = true ↔
      ∃ o, v.canonical.compare? operand.canonical = some o ∧ accept o = true := by
  unfold ordered
  cases v.canonical.compare? operand.canonical <;> simp

theorem compares_iff (value : Option Value) (operand : Value) (accept : Ordering → Bool) :
    compares value operand accept = true ↔
      Value.Ordered value (fun o => accept o = true) operand := by
  cases value with
  | none =>
      simp [compares, Value.Ordered, Value.elements]
  | some v =>
      rcases isList_cases v with hv | ⟨items, rfl⟩
      · simp [compares_of_not_isList hv, Value.Ordered, elements_of_not_isList hv, ordered_iff]
      · simp [compares, Value.Ordered, Value.elements, ordered_iff]

theorem matchesValue_iff (e : Pattern.Meaning) (v : Value) :
    matchesValue e v = true ↔ ∃ text, .string text = v ∧ e.matchesText text = true := by
  cases v <;> simp [matchesValue]

theorem matchesPattern_tells {options pattern : String}
    (hread : (Pattern.read? (flagsOf options) pattern).isSome) (value : Option Value) :
    Tells (matchesPattern value options (.string pattern))
      (Value.Fits (flagsOf options) value pattern) := by
  rcases Option.isSome_iff_exists.mp hread with ⟨e, he⟩
  have hfits : Value.Fits (flagsOf options) value pattern ↔
      ∃ v ∈ Value.elements value, matchesValue e v = true := by
    simp only [Value.Fits, he, Option.some.injEq, exists_eq_left', matchesValue_iff]
    constructor
    · rintro ⟨text, hmem, hmatch⟩
      exact ⟨_, hmem, text, rfl, hmatch⟩
    · rintro ⟨_, hmem, text, rfl, hmatch⟩
      exact ⟨text, hmem, hmatch⟩
  refine Tells.congr ?_ hfits.symm
  simp only [matchesPattern, he]
  cases value with
  | none =>
      exact ⟨false, rfl, by simp [Value.elements]⟩
  | some v =>
      rcases isList_cases v with hv | ⟨items, rfl⟩
      · refine ⟨matchesValue e v, ?_, by simp [elements_of_not_isList hv]⟩
        cases v with
        | array items =>
            simp [isList] at hv
        | _ =>
            rfl
      · exact ⟨items.any (matchesValue e), rfl, by simp [Value.elements]⟩

theorem isMember_tells (value : Option Value) (items : List Value) :
    Tells (isMember value (.array items)) (∃ item ∈ items, Value.Equals value item) := by
  refine ⟨items.any (equals value), rfl, ?_⟩
  simp [equals_iff]

/-!
# Operator documents
-/

theorem operators_single (value : Option Value) (options name : String) (operand : Value) :
    operators value options [(name, operand)] = operator value options name operand := by
  simp only [operators]
  rcases operator value options name operand with fault | b
  · rfl
  · cases b <;> rfl

theorem operator_of_ne_not {name : String} (h : name ≠ "$not") (value : Option Value)
    (options : String) (operand : Value) :
    operator value options name operand = plainOperator value options name operand := by
  cases operand <;> simp [operator, h]

theorem condition_single {name : String} (hoperator : isOperator name = true)
    (hnot : name ≠ "$not") (hoptions : name ≠ "$options") (value : Option Value)
    (operand : Value) :
    condition value (.document [(name, operand)]) = plainOperator value "" name operand := by
  have hnone : optionsOf [(name, operand)] = "" := by
    simp [optionsOf, Keyed.get?, hoptions]
  simp [condition, isOperators, hoperator, hnone, operators_single, operator_of_ne_not hnot]

/-!
# Filters
-/

theorem entries_single (d : Document) (key : String) (operand : Value) :
    entries d [(key, operand)] = entry d key operand := by
  simp only [entries]
  rcases entry d key operand with fault | b
  · rfl
  · cases b <;> rfl

theorem isCombinator_of_not_isOperator {key : String} (h : isOperator key = false) :
    key ≠ allKey ∧ key ≠ anyKey ∧ key ≠ noneKey := by
  have hall : isOperator allKey = true := by decide
  have hany : isOperator anyKey = true := by decide
  have hnone : isOperator noneKey = true := by decide
  refine ⟨?_, ?_, ?_⟩ <;> rintro rfl <;> simp_all

theorem entry_field {key : String} (h : isOperator key = false) (d : Document)
    (operand : Value) : entry d key operand = condition (d.lookup? key) operand := by
  rcases isCombinator_of_not_isOperator h with ⟨hall, hany, hnone⟩
  cases operand <;> simp [entry, isCombinator, fieldTest, h, hall, hany, hnone]

theorem entries_field {key : String} (h : key.toList.head? ≠ some '$') (d : Document)
    (operand : Value) : entries d [(key, operand)] = condition (d.lookup? key) operand := by
  have hfield : isOperator key = false := by
    simpa [isOperator] using h
  rw [entries_single, entry_field hfield]

theorem allOf_cons_tells {d branch : Document} {rest : List Value} {p q : Prop}
    (hfirst : Tells (entries d branch) p) (hrest : Tells (allOf d rest) q) :
    Tells (allOf d (.document branch :: rest)) (p ∧ q) := by
  rcases hfirst with ⟨b, hb, hp⟩
  rcases hrest with ⟨b', hb', hq⟩
  refine ⟨b && b', ?_, ?_⟩
  · simp only [allOf, hb, hb']
    cases b <;> rfl
  · rw [← hp, ← hq]
    exact Bool.and_eq_true_iff

theorem anyOf_cons_tells {d branch : Document} {rest : List Value} {p q : Prop}
    (hfirst : Tells (entries d branch) p) (hrest : Tells (anyOf d rest) q) :
    Tells (anyOf d (.document branch :: rest)) (p ∨ q) := by
  rcases hfirst with ⟨b, hb, hp⟩
  rcases hrest with ⟨b', hb', hq⟩
  refine ⟨b || b', ?_, ?_⟩
  · simp only [anyOf, hb, hb']
    cases b <;> rfl
  · rw [← hp, ← hq]
    exact Bool.or_eq_true_iff

end Selector
end DocQuery
