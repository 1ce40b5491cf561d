import DocQuery.Proofs.Criteria.Written
import DocQuery.Proofs.Query.Membership
import DocQuery.Proofs.Query.Outputs

/-!
# What is refused

The reader of criteria and the compiler both look at the shape of conditions.
They agree on it, so that criteria that have been read are refused only for the
values they compare with, or for outputs that collide.
-/

namespace DocQuery

open Outcome

namespace Compiler

/-!
# Operands
-/

/-- An operand is one that its field takes.  What the schema says of an attribute under the name
of the identifier does not count. -/
structure Takes (c : Compiler) (field : String) (operand : Value) : Prop where
  identifier : c.schema.isIdentifier field = true → operand.IsIdentifierTree
  typed : field ∉ [idField, storedIdField] → ∀ kind ∈ [AttributeKind.date, .datetime, .uuid],
    c.schema.kind? field = some kind →
      ∀ v ∈ Value.elements (some operand), Succeeds (kind.encode v)

/-- What a condition or an output can be refused for once it has been read. -/
inductive Refusal : Error → Prop where
  | identifier (fault : IdentifierFault) : Refusal (.identifier fault)
  | operand (fault : ValueFault) : Refusal (.criteria (.operand fault))
  | output (output : String) : Refusal (.criteria (.outputTwice output))

theorem Refusal.kind {e : Error} (h : Refusal e) :
    e.kind = .invalidIdentifier ∨ e.kind = .invalidCriteria := by
  cases h with
  | identifier => exact Or.inl rfl
  | operand => exact Or.inr rfl
  | output => exact Or.inr rfl

theorem succeeds_encodeEach {encoder : Value → Except ValueFault Value} {v : Value} :
    Succeeds (encodeEach encoder v) ↔ ∀ u ∈ Value.elements (some v), Succeeds (encoder u) := by
  unfold encodeEach
  split
  · rw [succeeds_map]
    exact succeeds_encodeItems
  · simp [Value.elements]

theorem succeeds_encode {kind : AttributeKind} {encoder : Value → Except ValueFault Value}
    (h : kind.encoder? = some encoder) (v : Value) :
    Succeeds (kind.encode v) ↔ Succeeds (encoder v) := by
  have hkind : kind ≠ .objectId := by
    rintro rfl
    cases h
  rw [AttributeKind.encode, if_neg hkind, h]
  exact succeeds_mapError

theorem takes_of_isIdentifier {c : Compiler} {field : String} {operand : Value}
    (h : c.schema.isIdentifier field = true) :
    c.Takes field operand ↔ operand.IsIdentifierTree := by
  refine ⟨fun htakes => htakes.identifier h, fun htree => ⟨fun _ => htree, ?_⟩⟩
  intro hname kind hkind hdeclared
  simp only [List.mem_cons, List.not_mem_nil, or_false, not_or] at hname
  -- Only an attribute of the kind of identifiers is one without having the name.
  simp only [Schema.isIdentifier, hname, hdeclared, decide_false, Bool.or_self, Bool.false_or,
    decide_eq_true_eq, Option.some.injEq] at h
  subst h
  exact absurd hkind (by decide)

theorem takes_of_not_isIdentifier {c : Compiler} {field : String} {operand : Value}
    (h : c.schema.isIdentifier field = false) :
    c.Takes field operand ↔ ∀ kind ∈ [AttributeKind.date, .datetime, .uuid],
      c.schema.kind? field = some kind →
        ∀ v ∈ Value.elements (some operand), Succeeds (kind.encode v) := by
  have hname : field ∉ [idField, storedIdField] := by
    simp only [Schema.isIdentifier, Bool.or_eq_false_iff, decide_eq_false_iff_not] at h
    simp only [List.mem_cons, List.not_mem_nil, or_false, not_or]
    exact h.1
  constructor
  · exact fun htakes => htakes.typed hname
  · exact fun htyped => ⟨fun hid => absurd (h.symm.trans hid) Bool.false_ne_true, fun _ => htyped⟩

theorem succeeds_operand {c : Compiler} {field : String} {v : Value} :
    Succeeds (c.operand field v) ↔ c.Takes field v := by
  unfold operand
  split
  · rename_i hid
    rw [succeeds_mapError, takes_of_isIdentifier hid, Value.succeeds_parseIdentifier]
  · rename_i hid
    rw [takes_of_not_isIdentifier (Bool.not_eq_true _ ▸ hid)]
    split
    · rename_i encoder hencoder
      rcases Option.bind_eq_some_iff.mp hencoder with ⟨kind, hkind, hencoder⟩
      have hmem := isSome_encoder?_iff.mp (Option.isSome_of_eq_some hencoder)
      rw [succeeds_mapError, succeeds_encodeEach, hkind]
      constructor
      · rintro h other _ hother u hu
        cases hother
        exact (succeeds_encode hencoder u).mpr (h u hu)
      · intro h u hu
        exact (succeeds_encode hencoder u).mp (h kind hmem rfl u hu)
    · rename_i hencoder
      refine iff_of_true (succeeds_ok _) ?_
      intro kind hmem hkind
      rw [hkind, Option.bind_some] at hencoder
      rw [← isSome_encoder?_iff, hencoder] at hmem
      cases hmem

theorem refusal_of_operand {c : Compiler} {field : String} {v : Value} {e : Error}
    (h : c.operand field v = .error e) : Refusal e := by
  unfold operand at h
  split at h
  · cases hparse : v.parseIdentifier with
    | ok id =>
        rw [hparse] at h
        cases h
    | error fault =>
        rw [hparse] at h
        cases h
        exact .identifier fault
  · split at h
    · rename_i encoder _
      cases hencode : encodeEach encoder v with
      | ok stored =>
          rw [hencode] at h
          cases h
      | error fault =>
          rw [hencode] at h
          cases h
          exact .operand fault
    · cases h

/-!
# Tests

An operand of the shape that its comparison asks for is compiled if the field
takes it.  Texts for patterns are not asked for more.
-/

/-- The operand of a test is compiled to a pattern, or its field takes it. -/
def TakesTest (c : Compiler) (t : Test) : Prop :=
  t.comparison.needsText = false → c.Takes t.field t.operand

theorem operators_of_needsText {c : Compiler} {field : String} {comparison : Comparison}
    {v : Value} (hneeds : comparison.needsText = true) (h : comparison.Fits v) :
    Succeeds (c.operators field comparison v) := by
  rcases h.text hneeds with ⟨text, rfl⟩
  cases comparison with
  | like | contains | startsWith | endsWith | pattern => exact succeeds_ok _
  | _ => cases hneeds

/-- Other tests come to the stored form of the operand, unless a text is compared without regard
to case, which every field takes that does so. -/
theorem operators_of_not_needsText {c : Compiler} {field : String} {comparison : Comparison}
    {v : Value} (hneeds : comparison.needsText = false) (h : comparison.Fits v) :
    (∃ key, c.operators field comparison v = c.operandTest key field v) ∨
      Succeeds (c.operators field comparison v) ∧ Succeeds (c.operand field v) := by
  cases comparison with
  | equal | notEqual =>
      simp only [operators]
      split
      · rename_i hfold
        rw [operand_of_foldsCase hfold]
        exact Or.inr ⟨succeeds_ok _, succeeds_ok _⟩
      · exact Or.inl ⟨_, rfl⟩
  | greater | atLeast | less | atMost =>
      exact Or.inl ⟨_, rfl⟩
  | anyOf | noneOf =>
      rcases h.list rfl with ⟨items, rfl⟩
      exact Or.inl ⟨_, rfl⟩
  | like | contains | startsWith | endsWith | pattern =>
      cases hneeds

theorem succeeds_operators {c : Compiler} {field : String} {comparison : Comparison} {v : Value}
    (h : comparison.Fits v) :
    Succeeds (c.operators field comparison v) ↔ c.TakesTest ⟨field, comparison, v⟩ := by
  unfold TakesTest
  cases hneeds : comparison.needsText with
  | true =>
      exact iff_of_true (operators_of_needsText hneeds h) (fun hfalse => nomatch hfalse)
  | false =>
      have hoperand : Succeeds (c.operators field comparison v) ↔ Succeeds (c.operand field v) := by
        rcases operators_of_not_needsText hneeds h with ⟨key, hkey⟩ | ⟨hoperators, hoperand⟩
        · rw [hkey]
          exact succeeds_bind_pure
        · exact iff_of_true hoperators hoperand
      rw [hoperand, succeeds_operand]
      exact ⟨fun htakes _ => htakes, fun htakes => htakes rfl⟩

theorem refusal_of_operators {c : Compiler} {field : String} {comparison : Comparison} {v : Value}
    {e : Error} (hfits : comparison.Fits v) (h : c.operators field comparison v = .error e) :
    Refusal e := by
  have hfails : ¬ Succeeds (c.operators field comparison v) := by
    rw [h]
    exact not_succeeds_error e
  cases hneeds : comparison.needsText with
  | true =>
      exact absurd (operators_of_needsText hneeds hfits) hfails
  | false =>
      rcases operators_of_not_needsText hneeds hfits with ⟨key, hkey⟩ | ⟨hoperators, _⟩
      · exact refusal_of_operand (bind_pure_eq_error.mp (hkey.symm.trans h))
      · exact absurd hoperators hfails

/-!
# Conditions

A combination is at fault where one of its conditions is.
-/

theorem exists_of_filters_eq_error {c : Compiler} {conditions : List Condition} {e : Error}
    (h : c.filters conditions = .error e) : ∃ d ∈ conditions, c.filter d = .error e := by
  induction conditions with
  | nil =>
      cases h
  | cons first rest ih =>
      rw [Compiler.filters] at h
      rcases bind_eq_error.mp h with hfirst | ⟨_, _, hrest⟩
      · exact ⟨first, List.mem_cons_self, hfirst⟩
      · rcases ih (bind_pure_eq_error.mp hrest) with ⟨d, hd, hfault⟩
        exact ⟨d, List.mem_cons_of_mem _ hd, hfault⟩

theorem filter_combined_eq_error {c : Compiler} {conditions : List Condition} {e : Error}
    (hsome : conditions ≠ [])
    (h : c.filter (.all conditions) = .error e ∨ c.filter (.any conditions) = .error e) :
    ∃ d ∈ conditions, c.filter d = .error e := by
  have hfilled : ¬ conditions.isEmpty = true := by
    simpa using hsome
  rw [Compiler.filter, Compiler.filter, if_neg hfilled, if_neg hfilled] at h
  exact exists_of_filters_eq_error (h.elim bind_pure_eq_error.mp bind_pure_eq_error.mp)

theorem refusal_of_filter {c : Compiler} {condition : Condition} (he : condition.IsExpressible)
    {e : Error} (h : c.filter condition = .error e) : Refusal e := by
  induction he with
  | all hsome _ ih =>
      rcases filter_combined_eq_error hsome (Or.inl h) with ⟨d, hd, hfault⟩
      exact ih d hd hfault
  | any hsome _ ih =>
      rcases filter_combined_eq_error hsome (Or.inr h) with ⟨d, hd, hfault⟩
      exact ih d hd hfault
  | negation _ ih =>
      rw [Compiler.filter] at h
      exact ih (bind_pure_eq_error.mp h)
  | test _ hfits =>
      rw [Compiler.filter] at h
      exact refusal_of_operators hfits (bind_pure_eq_error.mp h)

theorem succeeds_filters_of_forall {c : Compiler} {conditions : List Condition}
    (h : ∀ e ∈ conditions, Succeeds (c.filter e) ↔ ∀ t ∈ e.tests, c.TakesTest t) :
    Succeeds (c.filters conditions) ↔ ∀ t ∈ Condition.testsOf conditions, c.TakesTest t := by
  induction conditions with
  | nil =>
      exact iff_of_true (succeeds_ok _) fun _ hmem => absurd hmem List.not_mem_nil
  | cons e rest ih =>
      rw [List.forall_mem_cons] at h
      rw [succeeds_filters, List.forall_mem_cons, h.1, ← succeeds_filters, ih h.2,
        Condition.testsOf, List.forall_mem_append]

theorem succeeds_filter {c : Compiler} {condition : Condition} (he : condition.IsExpressible) :
    Succeeds (c.filter condition) ↔ ∀ t ∈ condition.tests, c.TakesTest t := by
  induction he with
  | all hsome _ ih =>
      exact (succeeds_combined hsome).2.trans (succeeds_filters_of_forall ih)
  | any hsome _ ih =>
      exact (succeeds_combined hsome).1.trans (succeeds_filters_of_forall ih)
  | negation _ ih =>
      rw [Compiler.filter]
      exact succeeds_bind_pure.trans ih
  | test _ hfits =>
      rw [succeeds_filter_test, succeeds_operators hfits, Condition.tests, List.forall_mem_singleton]

/-!
# Criteria
-/

/-- Criteria that have been read are compiled exactly when all operands are taken and no outputs
collide, and whatever else they ask for is never at fault. -/
theorem compile_of_read {d : Document} {criteria : Criteria}
    (hread : Criteria.read d = .ok criteria) (c : Compiler) :
    (Succeeds (c.compile criteria) ↔
      (∀ t ∈ Condition.testsOf criteria.condition.toList, c.TakesTest t) ∧
        ∀ g, criteria.grouping = some g → ¬ g.Collides) ∧
      ∀ e, c.compile criteria = .error e →
        Refusal e ∧ (e.kind = .invalidIdentifier ∨ e.kind = .invalidCriteria) := by
  constructor
  · rw [succeeds_compile]
    refine and_congr_left fun _ => ?_
    cases hcondition : criteria.condition with
    | none =>
        exact iff_of_true (succeeds_ok _) fun _ hmem => absurd hmem List.not_mem_nil
    | some condition =>
        rw [filter?, succeeds_filter (Criteria.isExpressible_of_read hread hcondition),
          Option.toList_some, Condition.testsOf, Condition.testsOf, List.append_nil]
  · intro e he
    have hrefusal : Refusal e := by
      rcases compile_eq_error he with hfilter | ⟨output, rfl⟩
      · cases hcondition : criteria.condition with
        | none =>
            rw [hcondition] at hfilter
            cases hfilter
        | some condition =>
            rw [hcondition] at hfilter
            exact refusal_of_filter (Criteria.isExpressible_of_read hread hcondition) hfilter
      · exact .output output
    exact ⟨hrefusal, hrefusal.kind⟩

/-- A day is taken for the time of birth, and digits in a list for the identifier. -/
theorem compile_of_read_born :
    let c : Compiler := ⟨.ofAttributes [("born", { kind := .date })], {}⟩
    let ids : Value := .array [.string "64b7f0a2c3d4e5f601234567", .null]
    ∃ criteria, Criteria.read [("born", .string "2024-02-29"), ("id", ids)] = .ok criteria ∧
      Succeeds (c.compile criteria) := by
  intro c ids
  have hread : Criteria.read [("born", .string "2024-02-29"), ("id", ids)] =
      .ok { condition := some (.all [.test "born" .equal (.string "2024-02-29"),
        .test "id" .anyOf ids]) } :=
    rfl
  refine ⟨_, hread, (compile_of_read hread c).1.mpr ⟨?_, fun _ h => nomatch h⟩⟩
  have hborn : c.Takes "born" (.string "2024-02-29") := by
    rw [takes_of_not_isIdentifier (by decide)]
    intro kind _ hkind v hv
    obtain rfl : AttributeKind.date = kind := Option.some_inj.mp hkind
    obtain rfl : v = .string "2024-02-29" := List.mem_singleton.mp hv
    exact ⟨.instant 1709164800000, toOption_eq_some.mp (by decide +kernel)⟩
  have hids : c.Takes "id" ids := by
    rw [takes_of_isIdentifier (by decide), Value.isIdentifierTree_array]
    exact List.forall_mem_cons.mpr ⟨.text (by decide), List.forall_mem_singleton.mpr .null⟩
  change ∀ t ∈ [⟨"born", .equal, .string "2024-02-29"⟩, ⟨"id", .anyOf, ids⟩], c.TakesTest t
  exact List.forall_mem_cons.mpr ⟨fun _ => hborn, List.forall_mem_singleton.mpr fun _ => hids⟩

/-- An operand that the declared kind refuses is taken under the name of the identifier. -/
theorem declared_identifier_takes :
    let c : Compiler := ⟨.ofAttributes [("id", { kind := .uuid })], {}⟩
    let id : Value := .string "64b7f0a2c3d4e5f601234567"
    ∃ criteria, Criteria.read [("where", .document [("id", id)])] = .ok criteria ∧
      Condition.testsOf criteria.condition.toList = [⟨"id", .equal, id⟩] ∧
        c.schema.kind? "id" = some .uuid ∧ ¬ Succeeds (AttributeKind.uuid.encode id) ∧
          Succeeds (c.compile criteria) := by
  intro c id
  refine ⟨_, rfl, rfl, rfl, ?_, ⟨_, rfl⟩⟩
  rintro ⟨stored, hstored⟩
  cases hstored

end Compiler
end DocQuery
