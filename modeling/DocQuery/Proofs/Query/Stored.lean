import DocQuery.Proofs.Pattern.WholeText
import DocQuery.Proofs.Query.Compile
import DocQuery.Proofs.Value.Sameness

/-!
# Finding what was stored

A document is encoded on its way into the store, and so is the operand of a
filter that looks for it.  Both ways agree, so that a stored document is found
by each of the values that it was made from.
-/

namespace DocQuery

open Outcome

/-!
# Names without points
-/

theorem Text.pieces_of_not_mem {separator : Char} {chars : List Char} (h : separator ∉ chars) :
    Text.pieces (· == separator) chars = (chars, []) := by
  induction chars with
  | nil =>
      rfl
  | cons c rest ih =>
      rw [List.mem_cons, not_or] at h
      have hc : (c == separator) = false := beq_eq_false_iff_ne.mpr fun e => h.1 e.symm
      simp [Text.pieces, ih h.2, hc]

theorem Document.lookup?_of_not_mem {name : String} (h : '.' ∉ name.toList) (d : Document) :
    d.lookup? name = Keyed.get? d name := by
  have hsteps : pathSteps name = [name] := by
    simp [pathSteps, Text.splitAt, Text.pieces_of_not_mem h]
  rw [Document.lookup?, hsteps]
  rfl

/-!
# Encoded fields
-/

namespace Schema

/-- What a field is stored as, unless it is left out. -/
def storedValue (s : Schema) (field : String) (v : Value) : Except Error Value :=
  if field = idField ∨ field = storedIdField then v.parseIdentifier.mapError .identifier
  else s.encodeField field v

theorem encodeFields_cons_eq_ok {s : Schema} {encoded rest stored : Document} {field : String}
    {v : Value} (h : s.encodeFields encoded ((field, v) :: rest) = .ok stored) :
    (v = .null ∧ (field = idField ∨ field = storedIdField) ∧
        s.encodeFields encoded rest = .ok stored) ∨
      ∃ w, s.storedValue field v = .ok w ∧
        s.encodeFields (Keyed.insert encoded (storedName field) w) rest = .ok stored := by
  simp only [encodeFields] at h
  split at h
  · rename_i hid
    have hname : storedName field = storedIdField := by
      rcases hid with rfl | rfl <;> decide
    split at h
    · rename_i hnull
      exact Or.inl ⟨hnull, hid, h⟩
    · rcases bind_eq_ok.mp h with ⟨w, hw, hrest⟩
      rw [storedValue, if_pos hid, hname]
      exact Or.inr ⟨w, hw, hrest⟩
  · rename_i hid
    rcases bind_eq_ok.mp h with ⟨w, hw, hrest⟩
    rw [storedValue, if_neg hid, storedName_of_ne fun e => hid (Or.inl e)]
    exact Or.inr ⟨w, hw, hrest⟩

theorem get?_encodeFields_of_ne {s : Schema} {encoded values stored : Document} {name : String}
    (hname : ∀ field ∈ Keyed.keys values, storedName field ≠ name)
    (h : s.encodeFields encoded values = .ok stored) :
    Keyed.get? stored name = Keyed.get? encoded name := by
  induction values generalizing encoded with
  | nil =>
      cases h
      rfl
  | cons entry rest ih =>
      rcases entry with ⟨field, v⟩
      simp only [Keyed.keys, List.map_cons, List.forall_mem_cons] at hname
      rcases encodeFields_cons_eq_ok h with ⟨_, _, hrest⟩ | ⟨w, _, hrest⟩
      · exact ih hname.2 hrest
      · rw [ih hname.2 hrest, Keyed.get?_insert_of_ne _ _ hname.1]

theorem get?_encodeFields {s : Schema} {encoded values stored : Document} {field : String}
    {v : Value} (hdistinct : (Keyed.keys values).Nodup) (hget : Keyed.get? values field = some v)
    (hkept : ¬ (v = .null ∧ (field = idField ∨ field = storedIdField)))
    (hother : ∀ other ∈ Keyed.keys values, other ≠ field → storedName other ≠ storedName field)
    (h : s.encodeFields encoded values = .ok stored) :
    ∃ w, s.storedValue field v = .ok w ∧ Keyed.get? stored (storedName field) = some w := by
  induction values generalizing encoded with
  | nil =>
      cases hget
  | cons entry rest ih =>
      rcases entry with ⟨first, u⟩
      simp only [Keyed.keys, List.map_cons, List.nodup_cons] at hdistinct
      simp only [Keyed.keys, List.map_cons, List.forall_mem_cons] at hother
      by_cases hfirst : first = field
      · subst hfirst
        simp only [Keyed.get?, if_true, Option.some.injEq] at hget
        subst hget
        rcases encodeFields_cons_eq_ok h with ⟨hnull, hid, _⟩ | ⟨w, hw, hrest⟩
        · exact absurd ⟨hnull, hid⟩ hkept
        · refine ⟨w, hw, ?_⟩
          have hrestname : ∀ other ∈ Keyed.keys rest, storedName other ≠ storedName first := by
            intro other hmem
            apply hother.2 other hmem
            rintro rfl
            exact hdistinct.1 hmem
          rw [get?_encodeFields_of_ne hrestname hrest, Keyed.get?_insert_self]
      · simp only [Keyed.get?, hfirst, if_false] at hget
        rcases encodeFields_cons_eq_ok h with ⟨_, _, hrest⟩ | ⟨_, _, hrest⟩
        · exact ih hdistinct.2 hget hother.2 hrest
        · exact ih hdistinct.2 hget hother.2 hrest

end Schema

theorem AttributeKind.same_of_encode {kind : AttributeKind} {v w : Value} (hv : v.Same v)
    (h : kind.encode v = .ok w) : w.Same w := by
  have hholds := holds_of_encode h
  cases kind with
  | objectId =>
      exact Value.same_of_isReference hholds
  | date | datetime =>
      rcases hholds with rfl | ⟨millis, rfl⟩
      · rfl
      · exact Value.same_self rfl rfl
  | uuid =>
      rcases hholds with rfl | ⟨subtype, bytes, rfl⟩
      · rfl
      · exact Value.same_self rfl rfl
  | _ =>
      cases h
      exact hv

theorem Schema.same_of_storedValue {s : Schema} {field : String} {v w : Value} (hv : v.Same v)
    (h : s.storedValue field v = .ok w) : w.Same w := by
  unfold storedValue at h
  split at h
  · exact Value.same_of_isReference (Value.isReference_of_parseIdentifier (mapError_eq_ok.mp h))
  · unfold encodeField at h
    split at h
    · exact AttributeKind.same_of_encode hv h
    · cases h
      exact hv

namespace Compiler

/-!
# Operands
-/

theorem operand_of_storedValue {c : Compiler} {field : String} {v w : Value}
    (h : c.schema.storedValue field v = .ok w) : c.operand field v = .ok w := by
  unfold Schema.storedValue at h
  split at h
  · rename_i hid
    have hidentifier : c.schema.isIdentifier field = true := by
      rcases hid with rfl | rfl <;> simp [Schema.isIdentifier]
    rw [operand, if_pos hidentifier]
    exact h
  · rename_i hid
    rw [not_or] at hid
    unfold Schema.encodeField at h
    cases hkind : c.schema.kind? field with
    | none =>
        rw [hkind] at h
        cases h
        simp [operand, Schema.isIdentifier, hid, hkind]
    | some kind =>
        simp only [hkind, AttributeKind.encode] at h
        by_cases hobject : kind = .objectId
        · rw [if_pos hobject] at h
          simpa [operand, Schema.isIdentifier, hid, hkind, hobject] using h
        · rw [if_neg hobject] at h
          cases hencoder : kind.encoder? with
          | none =>
              rw [hencoder] at h
              cases h
              simp [operand, Schema.isIdentifier, hid, hkind, hobject, hencoder]
          | some encoder =>
              rw [hencoder] at h
              have hv : encoder v = .ok w := mapError_eq_ok.mp h
              simp [operand, Schema.isIdentifier, hid, hkind, hobject, hencoder,
                encodeEach_of_encoder hencoder hv]

theorem equal_of_operand {c : Compiler} {field : String} {v w : Value}
    (hoperand : c.operand field v = .ok w) (hsame : w.Same w)
    (hpattern : ∀ pattern, c.pattern? ⟨field, .equal, v⟩ = some pattern →
      (Pattern.read? c.flags pattern).isSome) :
    c.Equal field (some w) v := by
  by_cases hfold : ∃ text, v = .string text ∧ c.foldsCase field = true
  · rcases hfold with ⟨text, rfl, hfold⟩
    rw [operand_of_foldsCase hfold] at hoperand
    cases hoperand
    have hread : (Pattern.read? c.flags (wholeText text)).isSome :=
      hpattern _ (by simp [pattern?, hfold])
    rcases Option.isSome_iff_exists.mp hread with ⟨e, he⟩
    rw [equal_folded hfold]
    exact ⟨e, he, text, List.mem_singleton_self _, Pattern.matchesText_of_read?_wholeText he⟩
  · rw [equal_stored fun text htext hfold' => hfold ⟨text, htext, hfold'⟩, stored_iff hoperand]
    exact hsame.equals

theorem exists_operators_equal {c : Compiler} {field : String} {v w : Value}
    (hoperand : c.operand field v = .ok w) : ∃ test, c.operators field .equal v = .ok test := by
  simp only [operators]
  split
  · exact ⟨_, rfl⟩
  · exact ⟨_, operandTest_eq_ok.mpr ⟨w, hoperand, rfl⟩⟩

/-!
# Searching
-/

/-- The fields of a document by which it can be searched for. -/
inductive Searchable (values : Document) (field : String) (v : Value) : Prop where
  | plain (hid : field ≠ idField ∧ field ≠ storedIdField) (hpoint : '.' ∉ field.toList)
      (hsign : field.toList.head? ≠ some '$')
  | identifier (hid : field = idField) (hnull : v ≠ .null)
      (hother : storedIdField ∉ Keyed.keys values)

section Searchable

variable {values : Document} {field : String} {v : Value}

theorem Searchable.storedName (h : Searchable values field v) :
    '.' ∉ (storedName field).toList ∧ (storedName field).toList.head? ≠ some '$' := by
  cases h with
  | plain hid hpoint hsign =>
      rw [storedName_of_ne hid.1]
      exact ⟨hpoint, hsign⟩
  | identifier hid =>
      subst hid
      decide

theorem Searchable.get?_encode {s : Schema} {stored : Document} (h : Searchable values field v)
    (hdistinct : (Keyed.keys values).Nodup) (hget : Keyed.get? values field = some v)
    (hencode : s.encode values = .ok stored) :
    ∃ w, s.storedValue field v = .ok w ∧ Keyed.get? stored (DocQuery.storedName field) = some w := by
  cases h with
  | plain hid =>
      apply Schema.get?_encodeFields hdistinct hget _ _ hencode
      · rintro ⟨_, hfield | hfield⟩
        · exact hid.1 hfield
        · exact hid.2 hfield
      · intro other _ hne
        rw [storedName_of_ne hid.1]
        unfold DocQuery.storedName
        split
        · exact fun e => hid.2 e.symm
        · exact hne
  | identifier hid hnull hother =>
      apply Schema.get?_encodeFields hdistinct hget _ _ hencode
      · exact fun hskipped => hnull hskipped.1
      · intro other hmem hne hsame
        have hname : DocQuery.storedName idField = storedIdField := by
          decide
        rw [hid] at hne hsame
        rw [storedName_of_ne hne, hname] at hsame
        exact hother (hsame ▸ hmem)

end Searchable

/-- A document that was encoded is found by any value that it was made from. -/
theorem matches?_encode (c : Compiler) {values stored : Document} {field : String} {v : Value}
    (hnan : (Value.document values).hasNaN = false)
    (hnames : (Value.document values).hasDistinctNames = true)
    (hencode : c.schema.encode values = .ok stored)
    (hget : Keyed.get? values field = some v) (hfield : Searchable values field v)
    (hpattern : ∀ pattern, c.pattern? ⟨field, .equal, v⟩ = some pattern →
      (Pattern.read? c.flags pattern).isSome) :
    ∃ filter, c.filter? (some (.test field .equal v)) = .ok filter ∧
      Selector.matches? filter stored = .ok true := by
  rw [Value.hasDistinctNames, Bool.and_eq_true, decide_eq_true_iff] at hnames
  have hmem := Keyed.mem_of_get? hget
  have hself : v.Same v := Value.fields_same_self hnan hnames.2 _ hmem
  rcases hfield.get?_encode hnames.1 hget hencode with ⟨w, hw, hstored⟩
  have hoperand := operand_of_storedValue hw
  rcases exists_operators_equal hoperand with ⟨test, htest⟩
  have hfilter : c.filter? (some (.test field .equal v)) =
      .ok [(DocQuery.storedName field, .document test)] := by
    simp [filter?, filter, htest, bind, Except.bind, pure, Except.pure]
  have hruns : c.Runs [⟨field, .equal, v⟩] :=
    ⟨fun t ht => List.mem_singleton.mp ht ▸ hfield.storedName.2,
      fun t ht => List.mem_singleton.mp ht ▸ hpattern⟩
  have hlookup : stored.lookup? (DocQuery.storedName field) = some w := by
    rw [Document.lookup?_of_not_mem hfield.storedName.1, hstored]
  have hholds : Condition.Holds c stored (.test field .equal v) := by
    rw [Condition.Holds, hlookup]
    exact equal_of_operand hoperand (Schema.same_of_storedValue hself hw) hpattern
  rcases entries_test_tells htest hruns stored with ⟨b, hb, htells⟩
  rw [htells.mpr hholds] at hb
  exact ⟨_, hfilter, hb⟩

/-- A dog, looked for by its name, its day of birth and its identifier. -/
theorem matches?_encode_rex :
    let c : Compiler := ⟨.ofAttributes [("born", { kind := .date })], { caseSensitive := false }⟩
    let values : Document :=
      [("id", .string "000000000000000000000a1f"), ("name", .string "Rex (II.)"),
        ("born", .string "2024-02-29"), ("litter", .array [.document [("kg", .int32 3)]])]
    ∃ stored, c.schema.encode values = .ok stored ∧
      ∀ entry ∈ values, ∃ filter,
        c.filter? (some (.test entry.1 .equal entry.2)) = .ok filter ∧
          Selector.matches? filter stored = .ok true := by
  intro c values
  have hread : (Pattern.read? c.flags (wholeText "Rex (II.)")).isSome := by
    decide +kernel
  have hnone : ∀ {field : String} {v : Value}, c.pattern? ⟨field, .equal, v⟩ = none →
      ∀ pattern, c.pattern? ⟨field, .equal, v⟩ = some pattern →
        (Pattern.read? c.flags pattern).isSome := by
    intro field v h pattern hpattern
    rw [h] at hpattern
    cases hpattern
  refine ⟨_, rfl, ?_⟩
  have hfound := fun {field : String} {v : Value} =>
    @matches?_encode c values _ field v rfl (by decide) rfl
  simp only [values, List.forall_mem_cons]
  refine ⟨hfound rfl (.identifier rfl (by decide) (by decide)) (hnone (by decide)),
    hfound rfl (.plain (by decide) (by decide) (by decide)) ?name,
    hfound rfl (.plain (by decide) (by decide) (by decide)) (hnone (by decide)),
    hfound rfl (.plain (by decide) (by decide) (by decide)) (hnone (by decide)),
    fun _ h => absurd h List.not_mem_nil⟩
  case name =>
    intro pattern hpattern
    cases hpattern
    exact hread

end Compiler
end DocQuery
