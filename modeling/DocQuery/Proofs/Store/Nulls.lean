import DocQuery.Proofs.Outcome
import DocQuery.Proofs.Query.Verdict

/-!
# What equals null

Equality is asked of comparable forms, and there null stands for every kind that
cannot be compared.  A missing field therefore equals null and also the values
of these kinds, and so does a null.
-/

namespace DocQuery

namespace Value

/-- Values of the kinds that have no comparable form of their own. -/
def isIncomparable : Value → Bool
  | .minKey | .maxKey | .regex _ _ | .timestamp _ _ | .code _ | .scopedCode _ _ | .symbol _
  | .decimal _ => true
  | _ => false

/-- Null and undefined, and what is not told apart from them. -/
def CountsAsNull (v : Value) : Prop :=
  v = .null ∨ v = .undefined ∨ v.isIncomparable = true

theorem canonical_eq_null_iff {v : Value} : v.canonical = .null ↔ v.CountsAsNull := by
  cases v <;> simp [canonical, CountsAsNull, isIncomparable]

theorem same_null_iff {v : Value} : Same v .null ↔ v.CountsAsNull := by
  rw [Same, canonical, ← canonical_eq_null_iff]
  cases v.canonical <;> simp [Canonical.same]

theorem null_same_iff {v : Value} : Same .null v ↔ v.CountsAsNull := by
  rw [Same, canonical, ← canonical_eq_null_iff]
  cases v.canonical <;> simp [Canonical.same]

theorem equals_none_iff {v : Value} : Equals none v ↔ v.CountsAsNull := by
  rw [← canonical_eq_null_iff]
  simp [Equals, elements]

theorem equals_some_null_iff {v : Value} : Equals (some .null) v ↔ v.CountsAsNull := by
  rw [← null_same_iff]
  simp [Equals, elements]

theorem equals_null_iff {value : Option Value} :
    Equals value .null ↔ value = none ∨ ∃ v ∈ elements value, v.CountsAsNull := by
  have hmissing : (value = none ∧ canonical .null = .null) ↔ value = none :=
    and_iff_left rfl
  have hlist : ¬ Selector.isList .null = true := Bool.false_ne_true
  rw [Equals, hmissing, if_neg hlist]
  simp only [same_null_iff]

end Value

namespace Selector

open Outcome

theorem matches?_equal_tells {field : String} (hfield : field.toList.head? ≠ some '$')
    (d : Document) (v : Value) :
    Tells (matches? [(field, .document [("$eq", v)])] d) (Value.Equals (d.lookup? field) v) := by
  rw [matches?, entries_field hfield, condition_single (by decide) (by decide) (by decide)]
  exact (tells_ok _).congr (equals_iff _ v)

theorem matches?_member_tells {field : String} (hfield : field.toList.head? ≠ some '$')
    (d : Document) (candidates : List Value) :
    Tells (matches? [(field, .document [("$in", .array candidates)])] d)
      (∃ v ∈ candidates, Value.Equals (d.lookup? field) v) := by
  rw [matches?, entries_field hfield, condition_single (by decide) (by decide) (by decide)]
  exact isMember_tells _ candidates

/-- What tests for equality tell of a field that is missing or null, and what a test for null
tells of any field. -/
structure NullEquality (d : Document) (field : String) : Prop where
  absent : d.lookup? field = none ∨ d.lookup? field = some .null → ∀ v,
    Tells (matches? [(field, .document [("$eq", v)])] d) v.CountsAsNull
  null : Tells (matches? [(field, .document [("$eq", .null)])] d)
    (d.lookup? field = none ∨ ∃ v ∈ Value.elements (d.lookup? field), v.CountsAsNull)
  /-- Membership is equality with one of the candidates. -/
  member : ∀ candidates, Tells (matches? [(field, .document [("$in", .array candidates)])] d)
    (∃ v ∈ candidates, matches? [(field, .document [("$eq", v)])] d = .ok true)

/-- Missing fields and nulls equal each other, undefined, and the values that cannot be compared,
and nothing else does. -/
theorem nullEquality {field : String} (hfield : field.toList.head? ≠ some '$') (d : Document) :
    NullEquality d field where
  absent := by
    intro habsent v
    refine (matches?_equal_tells hfield d v).congr ?_
    rcases habsent with hmissing | hnull
    · rw [hmissing]
      exact Value.equals_none_iff
    · rw [hnull]
      exact Value.equals_some_null_iff
  null := (matches?_equal_tells hfield d .null).congr Value.equals_null_iff
  member := by
    intro candidates
    refine (matches?_member_tells hfield d candidates).congr ?_
    refine exists_congr fun v => and_congr_right fun _ => ?_
    rcases matches?_equal_tells hfield d v with ⟨b, hb, hequals⟩
    rw [← hequals, hb, Except.ok.injEq]

/-- A pet without an owner has the owner null, and none under any other name. -/
theorem nullEquality_owner :
    Tells (matches? [("owner", .document [("$eq", .null)])] [("name", .string "Rex")]) True ∧
      Tells (matches? [("owner", .document [("$eq", .string "Ada")])] [("name", .string "Rex")])
        False := by
  have hmissing : Document.lookup? [("name", .string "Rex")] "owner" = none := by
    decide +kernel
  have hnulls := nullEquality (show "owner".toList.head? ≠ some '$' by decide)
    [("name", .string "Rex")]
  exact ⟨hnulls.null.congr (iff_true_intro (Or.inl hmissing)),
    (hnulls.absent (Or.inl hmissing) (.string "Ada")).congr
      (iff_false_intro (by simp [Value.CountsAsNull, Value.isIncomparable]))⟩

/-- A price that is missing equals one that is a decimal. -/
theorem missing_equals_decimal :
    ¬ ∀ (d : Document) (field : String), field.toList.head? ≠ some '$' →
      d.lookup? field = none ∨ d.lookup? field = some .null → ∀ v, v ≠ .null → v ≠ .undefined →
        matches? [(field, .document [("$eq", v)])] d = .ok false := by
  intro h
  have hunequal := h [("name", .string "Rex")] "price" (by decide) (Or.inl (by decide +kernel))
    (.decimal "1.5") (nomatch ·) (nomatch ·)
  have hequal : matches? [("price", .document [("$eq", .decimal "1.5")])]
      [("name", .string "Rex")] = .ok true :=
    toOption_eq_some.mp (by decide +kernel)
  cases hequal.symm.trans hunequal

end Selector
end DocQuery
