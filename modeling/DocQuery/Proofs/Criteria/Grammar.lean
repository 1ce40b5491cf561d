import DocQuery.Proofs.Criteria.ClauseForm
import DocQuery.Proofs.Number.Exact
import DocQuery.Proofs.Text.Words

/-!
# The grammar of criteria documents

Which documents are read as criteria, said without the reader.  Everything else
is refused, and refused as invalid criteria.
-/

namespace DocQuery
namespace Criteria

open Outcome
open Text (Spaced)

/-!
# Sort orders
-/

def DirectionWord (text : String) : Prop :=
  lowerAscii text = "asc" ∨ lowerAscii text = "desc"

inductive DirectionForm : Value → Prop where
  | int32 {n : Int32} (h : n = 1 ∨ n = -1) : DirectionForm (.int32 n)
  | int64 {n : Int64} (h : n = 1 ∨ n = -1) : DirectionForm (.int64 n)
  | double {x : Float} (h : Number.equal x 1 = true ∨ Number.equal x (-1) = true) :
      DirectionForm (.double x)
  | text {text : String} (h : DirectionWord text) : DirectionForm (.string text)

inductive KeyForm : List (List Char) → Prop where
  | blank : KeyForm []
  | field (field : List Char) : KeyForm [field]
  | directed (field : List Char) {direction : List Char}
      (h : DirectionWord (String.ofList direction)) : KeyForm [field, direction]

def PartForm (part : List Char) : Prop :=
  ∃ ws, Spaced ws part ∧ KeyForm ws

inductive SortForm : Value → Prop where
  | null : SortForm .null
  | text {text : String} {parts : List (List Char)} (hparts : parts ≠ [])
      (hfree : ∀ part ∈ parts, ',' ∉ part) (htext : [','].intercalate parts = text.toList)
      (h : ∀ part ∈ parts, PartForm part) : SortForm (.string text)
  | fields {fields : Document} (h : ∀ entry ∈ fields, DirectionForm entry.2) :
      SortForm (.document fields)
  | orders {orders : List Value} (h : ∀ order ∈ orders, SortForm order) : SortForm (.array orders)

theorem succeeds_directionOfText? {text : String} :
    (∃ direction, directionOfText? text = some direction) ↔ DirectionWord text := by
  unfold directionOfText? DirectionWord
  split
  · rename_i hasc
    exact iff_of_true ⟨_, rfl⟩ (Or.inl hasc)
  · rename_i hasc
    split
    · rename_i hdesc
      exact iff_of_true ⟨_, rfl⟩ (Or.inr hdesc)
    · rename_i hdesc
      exact iff_of_false (fun ⟨_, h⟩ => nomatch h) (not_or.mpr ⟨hasc, hdesc⟩)

theorem ofSign?_eq_some_iff {n : Int} :
    (∃ direction, Direction.ofSign? n = some direction) ↔ n = 1 ∨ n = -1 := by
  unfold Direction.ofSign?
  split
  · rename_i hone
    exact iff_of_true ⟨_, rfl⟩ (Or.inl hone)
  · rename_i hone
    split
    · rename_i hminus
      exact iff_of_true ⟨_, rfl⟩ (Or.inr hminus)
    · rename_i hminus
      exact iff_of_false (fun ⟨_, h⟩ => nomatch h) (not_or.mpr ⟨hone, hminus⟩)

theorem direction?_eq_some_iff {v : Value} :
    (∃ direction, direction? v = some direction) ↔ DirectionForm v := by
  cases v with
  | int32 n =>
      have hsign : (n.toInt = 1 ∨ n.toInt = -1) ↔ (n = 1 ∨ n = -1) :=
        or_congr (@Int32.toInt_inj n 1) (@Int32.toInt_inj n (-1))
      refine (ofSign?_eq_some_iff.trans hsign).trans ?_
      exact ⟨DirectionForm.int32, fun h => by cases h; assumption⟩
  | int64 n =>
      have hsign : (n.toInt = 1 ∨ n.toInt = -1) ↔ (n = 1 ∨ n = -1) :=
        or_congr (@Int64.toInt_inj n 1) (@Int64.toInt_inj n (-1))
      refine (ofSign?_eq_some_iff.trans hsign).trans ?_
      exact ⟨DirectionForm.int64, fun h => by cases h; assumption⟩
  | double x =>
      have hform : DirectionForm (.double x) ↔
          Number.equal x 1 = true ∨ Number.equal x (-1) = true :=
        ⟨fun h => by cases h; assumption, DirectionForm.double⟩
      rw [hform]
      simp only [direction?]
      cases Number.equal x 1 <;> cases Number.equal x (-1) <;> simp
  | string text =>
      refine succeeds_directionOfText?.trans ?_
      exact ⟨DirectionForm.text, fun h => by cases h; assumption⟩
  | _ =>
      exact iff_of_false (fun ⟨_, h⟩ => nomatch h) (fun h => nomatch h)

theorem succeeds_readDirection {field : String} {v : Value} :
    Succeeds (readDirection field v) ↔ DirectionForm v := by
  rw [← direction?_eq_some_iff, readDirection]
  cases direction? v with
  | none => exact iff_of_false (not_succeeds_error _) (fun ⟨_, h⟩ => nomatch h)
  | some direction => exact iff_of_true (succeeds_ok _) ⟨direction, rfl⟩

theorem partForm_iff {part : List Char} : PartForm part ↔ KeyForm (Text.words part) := by
  constructor
  · rintro ⟨ws, hspaced, hform⟩
    rwa [Text.words_of_spaced hspaced]
  · exact fun h => ⟨Text.words part, Text.words_eq_iff.mp rfl, h⟩

theorem succeeds_readPart {part : List Char} : Succeeds (readPart part) ↔ PartForm part := by
  rw [partForm_iff, readPart]
  match Text.words part with
  | [] =>
      exact iff_of_true (succeeds_ok _) KeyForm.blank
  | [field] =>
      exact iff_of_true (succeeds_ok _) (KeyForm.field field)
  | [field, direction] =>
      refine succeeds_bind_pure.trans ?_
      rw [succeeds_readDirection]
      exact ⟨fun h => by cases h with | text h => exact KeyForm.directed field h,
        fun h => by cases h with | directed _ h => exact DirectionForm.text h⟩
  | field :: direction :: extra :: rest =>
      refine iff_of_false ?_ (fun h => nomatch h)
      rw [List.map_cons, List.map_cons, List.map_cons, succeeds_bind]
      rintro ⟨_, _, h⟩
      exact not_succeeds_error _ h

theorem succeeds_readParts {parts : List (List Char)} :
    Succeeds (readParts parts) ↔ ∀ part ∈ parts, PartForm part := by
  induction parts with
  | nil =>
      exact iff_of_true (succeeds_ok _) fun _ hmem => absurd hmem List.not_mem_nil
  | cons part rest ih =>
      rw [readParts, List.forall_mem_cons]
      split
      · rename_i htrim
        have hblank : Text.Blank part := Text.trim_eq_nil_iff.mp (List.isEmpty_iff.mp htrim)
        have hform : PartForm part := ⟨[], Spaced.blank hblank, KeyForm.blank⟩
        rw [ih, and_iff_right hform]
      · rw [← succeeds_readPart, ← ih]
        exact succeeds_bind_iff fun _ _ => succeeds_bind_pure

theorem succeeds_readSortFields {fields : Document} :
    Succeeds (readSortFields fields) ↔ ∀ entry ∈ fields, DirectionForm entry.2 := by
  induction fields with
  | nil =>
      exact iff_of_true (succeeds_ok _) fun _ hmem => absurd hmem List.not_mem_nil
  | cons entry rest ih =>
      rcases entry with ⟨field, v⟩
      rw [readSortFields, List.forall_mem_cons, ← ih, ← @succeeds_readDirection field]
      exact succeeds_bind_iff fun _ _ => succeeds_bind_pure

theorem sortForm_text {text : String} :
    SortForm (.string text) ↔ ∀ part ∈ Text.splitAt ',' text.toList, PartForm part := by
  constructor
  · intro h
    cases h with
    | text hparts hfree htext h => rwa [Text.splitAt_eq_iff.mpr ⟨hparts, hfree, htext⟩]
  · intro h
    rcases Text.splitAt_eq_iff.mp rfl with ⟨hparts, hfree, htext⟩
    exact SortForm.text hparts hfree htext h

mutual

theorem succeeds_readSort : ∀ {v : Value}, Succeeds (readSort v) ↔ SortForm v
  | .null =>
      iff_of_true (succeeds_ok _) SortForm.null
  | .string text =>
      succeeds_readParts.trans sortForm_text.symm
  | .document fields =>
      succeeds_readSortFields.trans ⟨SortForm.fields, fun h => by cases h; assumption⟩
  | .array orders =>
      succeeds_readSorts.trans ⟨SortForm.orders, fun h => by cases h; assumption⟩
  | .undefined | .minKey | .maxKey | .boolean _ | .int32 _ | .int64 _ | .double _
  | .objectId _ | .instant _ | .binary _ _ | .regex _ _ | .timestamp _ _ | .code _
  | .scopedCode _ _ | .symbol _ | .decimal _ =>
      iff_of_false (not_succeeds_error _) fun h => by cases h

theorem succeeds_readSorts :
    ∀ {orders : List Value}, Succeeds (readSorts orders) ↔ ∀ order ∈ orders, SortForm order
  | [] =>
      iff_of_true (succeeds_ok _) fun _ hmem => absurd hmem List.not_mem_nil
  | order :: rest => by
      rw [readSorts, List.forall_mem_cons, ← succeeds_readSort, ← succeeds_readSorts]
      exact succeeds_bind_iff fun _ _ => succeeds_bind_pure

end

/-!
# Amounts and fields
-/

inductive AmountForm : Value → Prop where
  | null : AmountForm .null
  | int32 {n : Int32} (h : 0 ≤ n.toInt) : AmountForm (.int32 n)
  | int64 {n : Int64} (h : 0 ≤ n.toInt) : AmountForm (.int64 n)
  | double {x : Float} {dyadic : Number.Dyadic} {n : Nat} (h : Number.dyadic? x = some dyadic)
      (hwhole : dyadic.value = n) : AmountForm (.double x)

inductive FieldsForm : Value → Prop where
  | name (field : String) : FieldsForm (.string field)
  | names (fields : List String) : FieldsForm (.array (fields.map Value.string))

def CountForm (v : Value) : Prop :=
  ∃ b, v = .boolean b

/-- A key that is there stands beside what has the form. -/
def Keeps (form : Value → Prop) (d : Document) (key : String) : Prop :=
  ∀ v, Keyed.get? d key = some v → form v

theorem keeps_of_eq_none {form : Value → Prop} {d : Document} {key : String}
    (h : Keyed.get? d key = none) : Keeps form d key := by
  intro v hv
  cases h.symm.trans hv

theorem keeps_of_eq_some {form : Value → Prop} {d : Document} {key : String} {v : Value}
    (h : Keyed.get? d key = some v) : Keeps form d key ↔ form v := by
  constructor
  · exact fun hkeeps => hkeeps v h
  · intro hform other hother
    cases h.symm.trans hother
    exact hform

theorem amount?_eq_some_iff {v : Value} (hnull : v ≠ .null) :
    (∃ n, amount? v = some n) ↔ AmountForm v := by
  cases v with
  | null =>
      exact absurd rfl hnull
  | int32 n =>
      have hform : AmountForm (.int32 n) ↔ 0 ≤ n.toInt :=
        ⟨fun h => by cases h; assumption, AmountForm.int32⟩
      rw [hform]
      simp [amount?]
  | int64 n =>
      have hform : AmountForm (.int64 n) ↔ 0 ≤ n.toInt :=
        ⟨fun h => by cases h; assumption, AmountForm.int64⟩
      rw [hform]
      simp [amount?]
  | double x =>
      constructor
      · rintro ⟨n, h⟩
        rcases Option.map_eq_some_iff.mp h with ⟨m, hm, _⟩
        rcases Number.whole?_eq_some_iff.mp hm with ⟨dyadic, hdyadic, hwhole⟩
        exact AmountForm.double hdyadic hwhole
      · intro h
        cases h with
        | @double _ dyadic n h hwhole =>
            have hread : Number.whole? x = some n :=
              Number.whole?_eq_some_iff.mpr ⟨dyadic, h, hwhole⟩
            exact ⟨_, Option.map_eq_some_iff.mpr ⟨n, hread, rfl⟩⟩
  | _ =>
      exact iff_of_false (fun ⟨_, h⟩ => nomatch h) (fun h => nomatch h)

theorem succeeds_readAmount {key : String} {d : Document} :
    Succeeds (readAmount key d) ↔ Keeps AmountForm d key := by
  unfold readAmount
  cases hkey : Keyed.get? d key with
  | none =>
      exact iff_of_true (succeeds_ok _) (keeps_of_eq_none hkey)
  | some v =>
      rw [keeps_of_eq_some hkey]
      by_cases hnull : v = .null
      · subst hnull
        exact iff_of_true (succeeds_ok _) AmountForm.null
      · rw [← amount?_eq_some_iff hnull]
        cases hamount : amount? v with
        | none => exact iff_of_false (by simp [hamount]) (fun ⟨_, h⟩ => nomatch h)
        | some n => exact iff_of_true (by simp [hamount]) ⟨n, rfl⟩

theorem succeeds_readNames {key : String} {items : List Value} :
    Succeeds (readNames key items) ↔ ∃ fields : List String, items = fields.map Value.string := by
  induction items with
  | nil =>
      exact iff_of_true (succeeds_ok _) ⟨[], rfl⟩
  | cons item rest ih =>
      by_cases htext : ∃ field, item = .string field
      · rcases htext with ⟨field, rfl⟩
        rw [readNames, succeeds_bind_pure, ih]
        constructor
        · rintro ⟨fields, rfl⟩
          exact ⟨field :: fields, rfl⟩
        · rintro ⟨fields, hfields⟩
          cases fields with
          | nil =>
              cases hfields
          | cons first others =>
              cases hfields
              exact ⟨others, rfl⟩
      · refine iff_of_false ?_ ?_
        · rw [readNames]
          · exact not_succeeds_error _
          · exact fun field heq => htext ⟨field, heq⟩
        · rintro ⟨fields, hfields⟩
          cases fields with
          | nil =>
              cases hfields
          | cons first others =>
              cases hfields
              exact htext ⟨first, rfl⟩

theorem succeeds_readFieldList {key : String} {v : Value} :
    Succeeds (readFieldList key v) ↔ FieldsForm v := by
  cases v with
  | string field =>
      exact iff_of_true (succeeds_ok _) (FieldsForm.name field)
  | array items =>
      refine succeeds_readNames.trans ?_
      constructor
      · rintro ⟨fields, rfl⟩
        exact FieldsForm.names fields
      · intro h
        cases h with
        | names fields => exact ⟨fields, rfl⟩
  | _ =>
      exact iff_of_false (not_succeeds_error _) (fun h => nomatch h)

theorem succeeds_readFields {key : String} {d : Document} :
    Succeeds (readFields key d) ↔ Keeps FieldsForm d key := by
  unfold readFields
  cases hkey : Keyed.get? d key with
  | none =>
      exact iff_of_true (succeeds_ok _) (keeps_of_eq_none hkey)
  | some v =>
      rw [keeps_of_eq_some hkey, ← @succeeds_readFieldList key]
      exact succeeds_map

theorem succeeds_readCount {d : Document} :
    Succeeds (readCount d) ↔ Keeps CountForm d "count" := by
  unfold readCount
  cases hkey : Keyed.get? d "count" with
  | none =>
      exact iff_of_true (succeeds_ok _) (keeps_of_eq_none hkey)
  | some v =>
      rw [keeps_of_eq_some hkey]
      cases v with
      | boolean b => exact iff_of_true (succeeds_ok _) ⟨b, rfl⟩
      | _ => exact iff_of_false (not_succeeds_error _) (fun ⟨_, h⟩ => nomatch h)

/-!
# Criteria
-/

/-- Without a `where` the fields that are not reserved are the clause. -/
inductive ConditionForm (d : Document) : Prop where
  | shorthand (h : Keyed.get? d "where" = none) (hclause : ClauseForm (shorthand d))
  | null (h : Keyed.get? d "where" = some .null)
  | clause {clause : Document} (h : Keyed.get? d "where" = some (.document clause))
      (hclause : ClauseForm clause)

def fieldKeys : List String :=
  ["select", "omit", "groupBy", "sum", "average", "min", "max"]

structure Form (d : Document) : Prop where
  condition : ConditionForm d
  oneChoice : Keyed.get? d "select" = none ∨ Keyed.get? d "omit" = none
  fields : ∀ key ∈ fieldKeys, Keeps FieldsForm d key
  sort : Keeps SortForm d "sort"
  skip : Keeps AmountForm d "skip"
  limit : Keeps AmountForm d "limit"
  count : Keeps CountForm d "count"

theorem succeeds_readCondition {d : Document} :
    Succeeds (readCondition d) ↔ ConditionForm d := by
  unfold readCondition
  cases hwhere : Keyed.get? d "where" with
  | none =>
      refine succeeds_readClause.trans ⟨ConditionForm.shorthand hwhere, fun h => ?_⟩
      cases h with
      | shorthand _ hclause => exact hclause
      | null h => cases hwhere.symm.trans h
      | clause h _ => cases hwhere.symm.trans h
  | some v =>
      cases v with
      | null =>
          exact iff_of_true (succeeds_ok _) (ConditionForm.null hwhere)
      | document clause =>
          refine succeeds_readClause.trans ⟨ConditionForm.clause hwhere, fun h => ?_⟩
          cases h with
          | shorthand h _ => cases hwhere.symm.trans h
          | null h => cases hwhere.symm.trans h
          | clause h hclause =>
              cases hwhere.symm.trans h
              exact hclause
      | _ =>
          refine iff_of_false (not_succeeds_error _) fun h => ?_
          cases h with
          | shorthand h _ => cases hwhere.symm.trans h
          | null h => cases hwhere.symm.trans h
          | clause h _ => cases hwhere.symm.trans h

theorem succeeds_readChoice {d : Document} :
    Succeeds (readChoice d) ↔
      (Keyed.get? d "select" = none ∨ Keyed.get? d "omit" = none) ∧
        Keeps FieldsForm d "select" ∧ Keeps FieldsForm d "omit" := by
  unfold readChoice
  cases hselect : Keyed.get? d "select" with
  | none =>
      rw [and_iff_right (Or.inl rfl), and_iff_right (keeps_of_eq_none hselect)]
      cases homit : Keyed.get? d "omit" with
      | none =>
          exact iff_of_true (succeeds_ok _) (keeps_of_eq_none homit)
      | some v =>
          rw [keeps_of_eq_some homit, ← @succeeds_readFieldList "omit"]
          exact succeeds_bind_pure
  | some v =>
      cases homit : Keyed.get? d "omit" with
      | none =>
          rw [and_iff_right (Or.inr rfl), keeps_of_eq_some hselect,
            and_iff_left (keeps_of_eq_none homit), ← @succeeds_readFieldList "select"]
          exact succeeds_bind_pure
      | some w =>
          exact iff_of_false (not_succeeds_error _) fun h => h.1.elim nofun nofun

theorem succeeds_readOrder {d : Document} :
    Succeeds (readOrder d) ↔ Keeps SortForm d "sort" := by
  unfold readOrder
  cases hkey : Keyed.get? d "sort" with
  | none => exact iff_of_true (succeeds_ok _) (keeps_of_eq_none hkey)
  | some v => exact succeeds_readSort.trans (keeps_of_eq_some hkey).symm

theorem succeeds_readGrouping {d : Document} :
    Succeeds (readGrouping d) ↔
      Keeps FieldsForm d "groupBy" ∧ Keeps FieldsForm d "sum" ∧ Keeps FieldsForm d "average" ∧
        Keeps FieldsForm d "min" ∧ Keeps FieldsForm d "max" ∧ Keeps CountForm d "count" := by
  unfold readGrouping
  simp only [← succeeds_readFields, ← succeeds_readCount]
  iterate 5 refine succeeds_bind_iff fun _ _ => ?_
  exact succeeds_bind_pure

theorem succeeds_readAll {d : Document} : Succeeds (readAll d) ↔ Form d := by
  have hsteps : Succeeds (readAll d) ↔
      Succeeds (readCondition d) ∧ Succeeds (readChoice d) ∧ Succeeds (readOrder d) ∧
        Succeeds (readAmount "skip" d) ∧ Succeeds (readAmount "limit" d) ∧
          Succeeds (readGrouping d) := by
    unfold readAll
    iterate 5 refine succeeds_bind_iff fun _ _ => ?_
    exact succeeds_bind_pure
  rw [hsteps, succeeds_readCondition, succeeds_readChoice, succeeds_readOrder,
    succeeds_readAmount, succeeds_readAmount, succeeds_readGrouping]
  constructor
  · rintro ⟨hcondition, ⟨hone, hselect, homit⟩, hsort, hskip, hlimit, hby, hsum, haverage,
      hmin, hmax, hcount⟩
    refine ⟨hcondition, hone, ?_, hsort, hskip, hlimit, hcount⟩
    simp only [fieldKeys, List.forall_mem_cons]
    exact ⟨hselect, homit, hby, hsum, haverage, hmin, hmax,
      fun _ hmem => absurd hmem List.not_mem_nil⟩
  · intro h
    have hfields : ∀ key, key ∈ fieldKeys → Keeps FieldsForm d key := h.fields
    exact ⟨h.condition, ⟨h.oneChoice, hfields _ (by decide), hfields _ (by decide)⟩, h.sort,
      h.skip, h.limit, hfields _ (by decide), hfields _ (by decide), hfields _ (by decide),
      hfields _ (by decide), hfields _ (by decide), h.count⟩

/-- The reader takes the documents of the grammar, and has only one complaint about others. -/
theorem read_succeeds_iff_form (d : Document) :
    ((∃ criteria, read d = .ok criteria) ↔ Form d) ∧
      ∀ e, read d = .error e → e.kind = .invalidCriteria := by
  constructor
  · exact succeeds_mapError.trans succeeds_readAll
  · intro e h
    unfold read at h
    cases hread : readAll d with
    | ok criteria =>
        rw [hread] at h
        cases h
    | error fault =>
        rw [hread] at h
        cases h
        rfl

end Criteria
end DocQuery
