import DocQuery.Proofs.Query.Compile
import DocQuery.Proofs.Schema.StoredForm

/-!
# Stored names and forms in queries

A native query knows fields by their stored names only, at every depth of its
filter, in its order and choice of fields and in what it groups by.  Operands
have the form in which the store keeps the values of their field.
-/

namespace DocQuery

open Outcome

/-- What a value refers to, itself or anywhere in it. -/
inductive Value.Refers : Value → String → Prop where
  | reference (field : String) : Refers (.string ("$" ++ field)) field
  | field {d : Document} {entry : String × Value} {name : String} (hentry : entry ∈ d)
      (h : Refers entry.2 name) : Refers (.document d) name
  | item {items : List Value} {v : Value} {name : String} (hitem : v ∈ items)
      (h : Refers v name) : Refers (.array items) name

/-- A value with a property, or a list of such values. -/
def Value.OneOrMany (p : Value → Prop) (v : Value) : Prop :=
  p v ∨ ∃ items, v = .array items ∧ ∀ item ∈ items, p item

namespace Selector

/-- The entries of a filter and of the filters that are combined in it. -/
inductive Entry : Document → String → Value → Prop where
  | here {filter : Document} {key : String} {v : Value} (h : (key, v) ∈ filter) :
      Entry filter key v
  | branch {filter branch : Document} {combinator key : String} {branches : List Value}
      {v : Value} (hbranches : (combinator, .array branches) ∈ filter)
      (hbranch : .document branch ∈ branches) (h : Entry branch key v) : Entry filter key v

def comparisonOperators : List String :=
  ["$eq", "$ne", "$gt", "$gte", "$lt", "$lte", "$in", "$nin"]

/-- The operands that a test compares with, where it is negated too. -/
inductive ComparesWith : Document → Value → Prop where
  | operand {test : Document} {operator : String} {v : Value}
      (hoperator : operator ∈ comparisonOperators) (h : (operator, v) ∈ test) :
      ComparesWith test v
  | negated {test inner : Document} {v : Value} (hinner : ("$not", .document inner) ∈ test)
      (h : ComparesWith inner v) : ComparesWith test v

end Selector

open Selector (Entry ComparesWith)

/-- A query in stored names, whose operands have their stored form.  The identifier is one whatever
the schema says of an attribute of that name. -/
structure NativeQuery.IsStored (s : Schema) (q : NativeQuery) : Prop where
  fields : ∀ key v, Entry q.filter key v → key ≠ idField
  identifiers : ∀ key test v, Entry q.filter key (.document test) → ComparesWith test v →
    s.isIdentifier key = true → v.IsReference
  typed : ∀ key test v, Entry q.filter key (.document test) → ComparesWith test v →
    key ≠ storedIdField → ∀ kind, s.kind? key = some kind → v.OneOrMany kind.Holds
  sort : ∀ key ∈ q.options.sort, key.field ≠ idField
  projection : ∀ choice, q.options.projection = some choice → idField ∉ Keyed.keys choice
  pipeline : ∀ stages, q.pipeline = some stages → ∃ group,
    stages = [[("$match", .document q.filter)], [("$group", .document group)]] ∧
      ¬ (Value.document group).Refers idField

/-!
# Entries of a filter
-/

theorem Selector.entry_singleton {name key : String} {w v : Value}
    (h : Entry [(name, w)] key v) :
    (key = name ∧ v = w) ∨
      ∃ branches branch, w = .array branches ∧ .document branch ∈ branches ∧ Entry branch key v := by
  cases h with
  | here hmem =>
      cases List.mem_singleton.mp hmem
      exact Or.inl ⟨rfl, rfl⟩
  | branch hbranches hbranch hentry =>
      cases List.mem_singleton.mp hbranches
      exact Or.inr ⟨_, _, rfl, hbranch, hentry⟩

namespace Compiler

/-- The entries that conditions are compiled to. -/
inductive CompiledEntry (c : Compiler) : String → Value → Prop where
  | combinator {key : String} (branches : List Value) (hkey : Selector.isCombinator key = true) :
      CompiledEntry c key (.array branches)
  | test {field : String} {comparison : Comparison} {operand : Value} {test : Document}
      (h : c.operators field comparison operand = .ok test) :
      CompiledEntry c (storedName field) (.document test)

mutual

theorem compiledEntry_of_filter {c : Compiler} {key : String} {v : Value} :
    ∀ {condition : Condition} {filter : Document}, c.filter condition = .ok filter →
      Entry filter key v → c.CompiledEntry key v
  | .all conditions, filter, h, hentry => by
      rcases filter_all_eq_ok h with ⟨branches, hbranches, rfl⟩
      rcases Selector.entry_singleton hentry with ⟨rfl, rfl⟩ | ⟨_, branch, hw, hmem, hentry⟩
      · exact .combinator branches (by decide)
      · cases hw
        exact compiledEntry_of_filters hbranches hmem hentry
  | .any conditions, filter, h, hentry => by
      rcases filter_any_eq_ok h with ⟨branches, hbranches, rfl⟩
      rcases Selector.entry_singleton hentry with ⟨rfl, rfl⟩ | ⟨_, branch, hw, hmem, hentry⟩
      · exact .combinator branches (by decide)
      · cases hw
        exact compiledEntry_of_filters hbranches hmem hentry
  | .negation condition, filter, h, hentry => by
      rcases filter_negation_eq_ok h with ⟨negated, hnegated, rfl⟩
      rcases Selector.entry_singleton hentry with ⟨rfl, rfl⟩ | ⟨_, branch, hw, hmem, hentry⟩
      · exact .combinator _ (by decide)
      · cases hw
        cases List.mem_singleton.mp hmem
        exact compiledEntry_of_filter hnegated hentry
  | .test field comparison operand, filter, h, hentry => by
      rcases filter_test_eq_ok h with ⟨test, htest, rfl⟩
      rcases Selector.entry_singleton hentry with ⟨rfl, rfl⟩ | ⟨_, _, hw, _⟩
      · exact .test htest
      · cases hw

theorem compiledEntry_of_filters {c : Compiler} {key : String} {v : Value} {branch : Document} :
    ∀ {conditions : List Condition} {branches : List Value},
      c.filters conditions = .ok branches → .document branch ∈ branches →
        Entry branch key v → c.CompiledEntry key v
  | [], branches, h, hmem, _ => by
      cases h
      cases hmem
  | condition :: rest, branches, h, hmem, hentry => by
      rcases filters_cons_eq_ok h with ⟨first, others, hfirst, hothers, rfl⟩
      rcases List.mem_cons.mp hmem with hbranch | hmem
      · cases hbranch
        exact compiledEntry_of_filter hfirst hentry
      · exact compiledEntry_of_filters hothers hmem hentry

end

theorem compiledEntry_of_filter? {c : Compiler} {condition : Option Condition}
    {filter : Document} {key : String} {v : Value} (h : c.filter? condition = .ok filter)
    (hentry : Entry filter key v) : c.CompiledEntry key v := by
  cases condition with
  | none =>
      cases h
      cases hentry with
      | here hmem | branch hmem =>
          cases hmem
  | some condition =>
      exact compiledEntry_of_filter h hentry

theorem CompiledEntry.ne_idField {c : Compiler} {key : String} {v : Value}
    (h : c.CompiledEntry key v) : key ≠ idField := by
  cases h with
  | combinator branches hkey =>
      rintro rfl
      exact absurd hkey (by decide)
  | @test field =>
      exact storedName_ne_idField field

/-!
# Operands of a test

A test compares with the stored form of its operand, or not at all.
-/

theorem comparesWith_singleton {operator : String} {stored v : Value}
    (hoperator : operator ≠ "$not") (h : ComparesWith [(operator, stored)] v) : v = stored := by
  cases h with
  | operand _ hmem =>
      cases List.mem_singleton.mp hmem
      rfl
  | negated hmem =>
      cases List.mem_singleton.mp hmem
      exact absurd rfl hoperator

theorem not_comparesWith_patternTest {c : Compiler} {pattern : String} {v : Value} :
    ¬ ComparesWith (c.patternTest pattern) v := by
  have hkeys : ∀ entry ∈ c.patternTest pattern,
      entry.1 ∉ "$not" :: Selector.comparisonOperators := by
    unfold patternTest
    split <;> simp [Selector.comparisonOperators]
  intro h
  cases h with
  | operand hoperator hmem =>
      exact hkeys _ hmem (List.mem_cons_of_mem _ hoperator)
  | negated hmem =>
      exact hkeys _ hmem List.mem_cons_self

theorem not_comparesWith_noPattern {c : Compiler} {pattern : String} {v : Value} :
    ¬ ComparesWith [("$not", .document (c.patternTest pattern))] v := by
  intro h
  cases h with
  | operand hoperator hmem =>
      cases List.mem_singleton.mp hmem
      exact absurd hoperator (by decide)
  | negated hmem hinner =>
      cases List.mem_singleton.mp hmem
      exact not_comparesWith_patternTest hinner

theorem operand_of_operandTest {c : Compiler} {key field : String} {operand v : Value}
    {test : Document} (hkey : key ≠ "$not") (h : c.operandTest key field operand = .ok test)
    (hv : ComparesWith test v) : c.operand field operand = .ok v := by
  rcases operandTest_eq_ok.mp h with ⟨stored, hstored, rfl⟩
  rw [comparesWith_singleton hkey hv]
  exact hstored

theorem operand_of_listTest {c : Compiler} {key field : String} {comparison : Comparison}
    {operand v : Value} {test : Document} (hkey : key ≠ "$not")
    (h : c.listTest key field comparison operand = .ok test) (hv : ComparesWith test v) :
    c.operand field operand = .ok v := by
  cases operand with
  | array items =>
      exact operand_of_operandTest hkey h hv
  | _ =>
      cases h

theorem operand_of_operators {c : Compiler} {field : String} {comparison : Comparison}
    {operand v : Value} {test : Document} (h : c.operators field comparison operand = .ok test)
    (hv : ComparesWith test v) : c.operand field operand = .ok v := by
  cases comparison with
  | equal =>
      simp only [operators] at h
      split at h
      · cases h
        exact absurd hv not_comparesWith_patternTest
      · exact operand_of_operandTest (by decide) h hv
  | notEqual =>
      simp only [operators] at h
      split at h
      · cases h
        exact absurd hv not_comparesWith_noPattern
      · exact operand_of_operandTest (by decide) h hv
  | greater | atLeast | less | atMost =>
      exact operand_of_operandTest (by decide) h hv
  | anyOf | noneOf =>
      exact operand_of_listTest (by decide) h hv
  | like | contains | startsWith | endsWith | pattern =>
      rcases textTest_eq_ok h with ⟨text, _, rfl⟩
      exact absurd hv not_comparesWith_patternTest

/-!
# Forms of operands
-/

theorem isIdentifier_of_storedName {s : Schema} {field : String}
    (h : s.isIdentifier (storedName field) = true) : s.isIdentifier field = true := by
  by_cases hfield : field = idField
  · simp [Schema.isIdentifier, hfield]
  · rwa [storedName_of_ne hfield] at h

theorem isReference_of_operand {c : Compiler} {field : String} {operand v : Value}
    (hid : c.schema.isIdentifier field = true) (h : c.operand field operand = .ok v) :
    v.IsReference := by
  rw [Compiler.operand, if_pos hid, mapError_eq_ok] at h
  exact Value.isReference_of_parseIdentifier h

theorem holds_of_encodeItems {kind : AttributeKind}
    {encoder : Value → Except ValueFault Value} (hkind : kind.encoder? = some encoder)
    {items stored : List Value} (h : encodeItems encoder items = .ok stored) :
    ∀ item ∈ stored, kind.Holds item := by
  have hencoded := encodeItems_forall₂ h
  clear h
  induction hencoded with
  | nil =>
      exact fun _ hitem => absurd hitem List.not_mem_nil
  | cons hfirst _ ih =>
      exact List.forall_mem_cons.mpr ⟨AttributeKind.holds_of_encoder hkind hfirst, ih⟩

theorem oneOrMany_of_encodeEach {kind : AttributeKind}
    {encoder : Value → Except ValueFault Value} (hkind : kind.encoder? = some encoder)
    {v w : Value} (h : encodeEach encoder v = .ok w) : w.OneOrMany kind.Holds := by
  cases v with
  | array items =>
      simp only [encodeEach, map_eq_ok] at h
      rcases h with ⟨stored, hstored, rfl⟩
      exact Or.inr ⟨stored, rfl, holds_of_encodeItems hkind hstored⟩
  | _ =>
      exact Or.inl (AttributeKind.holds_of_encoder hkind h)

theorem oneOrMany_of_operand {c : Compiler} {field : String} {operand v : Value}
    {kind : AttributeKind} (hkind : c.schema.kind? field = some kind)
    (hfield : field ≠ idField ∧ field ≠ storedIdField) (h : c.operand field operand = .ok v) :
    v.OneOrMany kind.Holds := by
  by_cases hid : c.schema.isIdentifier field = true
  · have hobject : kind = .objectId := by
      simpa [Schema.isIdentifier, hfield, hkind] using hid
    rw [hobject]
    exact Or.inl (isReference_of_operand hid h)
  · rw [Compiler.operand, if_neg hid, hkind] at h
    cases hencoder : kind.encoder? with
    | some encoder =>
        simp only [Option.bind_some, hencoder, mapError_eq_ok] at h
        exact oneOrMany_of_encodeEach hencoder h
    | none =>
        cases kind with
        | objectId =>
            simp [Schema.isIdentifier, hkind] at hid
        | date | datetime | uuid =>
            cases hencoder
        | _ =>
            exact Or.inl trivial

/-!
# References

The key of a grouping stage and its outputs refer to stored names.
-/

theorem refers_reference {field name : String} (h : (reference field).Refers name) :
    name = storedName field := by
  rw [reference] at h
  generalize htext : "$" ++ storedName field = text at h
  cases h
  exact ((String.append_right_inj "$").mp htext).symm

theorem refers_groupKey {fields : List String} {name : String}
    (h : (groupKey fields).Refers name) : ∃ field, name = storedName field := by
  unfold groupKey at h
  split at h
  · cases h
  · cases h with
    | field hentry hrefers =>
        rcases Keyed.mem_of_mem_insertAll hentry with hentry | hentry
        · rcases List.mem_map.mp hentry with ⟨field, _, rfl⟩
          exact ⟨field, refers_reference hrefers⟩
        · exact absurd hentry List.not_mem_nil

theorem refers_accumulator {s : Summary} {name : String}
    (h : (Value.document (accumulator s)).Refers name) : ∃ field, name = storedName field := by
  cases h with
  | field hentry hrefers =>
      cases s with
      | count =>
          cases List.mem_singleton.mp hentry
          cases hrefers
      | sum field | average field | least field | greatest field =>
          cases List.mem_singleton.mp hentry
          exact ⟨field, refers_reference hrefers⟩

theorem Staged.refers {g : Grouping} {stage : Document} (h : Staged g stage) {name : String}
    (hrefers : (Value.document stage).Refers name) : ∃ field, name = storedName field := by
  rw [h.fields] at hrefers
  cases hrefers with
  | field hentry hrefers =>
      rcases List.mem_cons.mp hentry with rfl | hentry
      · exact refers_groupKey hrefers
      · rcases List.mem_map.mp hentry with ⟨s, _, rfl⟩
        exact refers_accumulator hrefers

/-!
# Compiled queries
-/

theorem idField_not_mem_keys_projection (fields : List String) (flag : Int32) :
    idField ∉ Keyed.keys (projection fields flag) := by
  intro h
  rcases List.mem_map.mp h with ⟨entry, hentry, hkey⟩
  rcases Keyed.mem_of_mem_insertAll hentry with hentry | hentry
  · rcases List.mem_map.mp hentry with ⟨field, _, rfl⟩
    exact storedName_ne_idField field hkey
  · exact absurd hentry List.not_mem_nil

/-- Whatever the criteria and the schema are, a compiled query names fields as the store does, and
compares them with values as the store keeps them. -/
theorem isStored_of_compile (c : Compiler) {criteria : Criteria} {q : NativeQuery}
    (h : c.compile criteria = .ok q) : q.IsStored c.schema := by
  rcases compile_eq_ok h with ⟨hfilter, hoptions, hpipeline⟩
  have hentries := fun key v => @compiledEntry_of_filter? c _ _ key v hfilter
  constructor
  case fields =>
    intro key v hentry
    exact (hentries key v hentry).ne_idField
  case identifiers =>
    intro key test v hentry hv hid
    cases hentries key _ hentry with
    | test h =>
        refine isReference_of_operand ?_ (operand_of_operators h hv)
        exact isIdentifier_of_storedName hid
  case typed =>
    intro key test v hentry hv hkey kind hkind
    cases hentries key _ hentry with
    | @test field _ _ _ h =>
        have hfield : field ≠ idField := by
          rintro rfl
          exact hkey rfl
        rw [storedName_of_ne hfield] at hkey hkind
        exact oneOrMany_of_operand hkind ⟨hfield, hkey⟩ (operand_of_operators h hv)
  case sort =>
    intro key hkey
    rw [hoptions] at hkey
    rcases List.mem_map.mp hkey with ⟨key, _, rfl⟩
    exact storedName_ne_idField key.field
  case projection =>
    intro choice hchoice
    simp only [hoptions, options] at hchoice
    unfold projection? at hchoice
    split at hchoice
    · cases hchoice
    all_goals
      cases hchoice
      exact idField_not_mem_keys_projection _ _
  case pipeline =>
    intro stages hstages
    rw [hstages] at hpipeline
    rcases pipeline?_eq_some hpipeline with ⟨g, stage, _, hstage, rfl⟩
    refine ⟨stage, rfl, ?_⟩
    intro hrefers
    rcases hstage.refers hrefers with ⟨field, hfield⟩
    exact storedName_ne_idField field hfield.symm

/-- Criteria in the terms of the caller throughout, and the query in those of the store. -/
theorem isStored_of_compile_owners :
    let c : Compiler := ⟨.ofAttributes [("owner", { kind := .integer, foreignKey := true }),
      ("born", { kind := .date }), ("chip", { kind := .uuid })], {}⟩
    let owner := Value.string "000000000000000000000a1f"
    let stored := Value.objectId (ObjectId.ofSerial 0xa1f)
    let criteria : Criteria :=
      { condition := some (.negation (.any [
          .all [.test "id" .notEqual owner, .test "owner" .anyOf (.array [owner, .null])],
          .test "born" .noneOf (.array [.string "2024-02-29", .null])]))
        sort := [⟨"id", .descending⟩]
        choice := .without ["id", "chip"]
        grouping := some ⟨["owner"], [.count, .greatest "id"]⟩ }
    let filter : Document :=
      [("$nor", .array [.document [("$or", .array [
        .document [("$and", .array [.document [("_id", .document [("$ne", stored)])],
          .document [("owner", .document [("$in", .array [stored, .null])])]])],
        .document [("born", .document [("$nin", .array [.instant 1709164800000, .null])])]])]])]
    let q : NativeQuery :=
      { filter
        options :=
          { sort := [⟨"_id", .descending⟩]
            projection := some [("_id", .int32 0), ("chip", .int32 0)] }
        pipeline := some [[("$match", .document filter)],
          [("$group", .document [("_id", .document [("owner", .string "$owner")]),
            ("count", .document [("$sum", .int32 1)]),
            ("id", .document [("$max", .string "$_id")])])]] }
    c.compile criteria = .ok q ∧ q.IsStored c.schema := by
  intro c owner stored criteria filter q
  have hcompile : c.compile criteria = .ok q := toOption_eq_some.mp (by decide +kernel)
  exact ⟨hcompile, isStored_of_compile c hcompile⟩

/-- An attribute under the name of the identifier is no date, although it is declared as one. -/
theorem declared_identifier_untyped :
    let c : Compiler := ⟨.ofAttributes [("id", { kind := .date })], {}⟩
    ∃ q test operand,
      c.compile { condition := some (.test "id" .equal (.string "64b7f0a2c3d4e5f601234567")) } =
          .ok q ∧
        c.schema.kind? "id" = some .date ∧ Entry q.filter (storedName "id") (.document test) ∧
          ComparesWith test operand ∧ ¬ operand.OneOrMany AttributeKind.date.Holds := by
  intro c
  refine ⟨_, _, _, rfl, rfl, .here List.mem_cons_self,
    .operand (by decide) List.mem_cons_self, ?_⟩
  rintro ((h | ⟨_, h⟩) | ⟨_, h, _⟩) <;> cases h

end Compiler
end DocQuery
