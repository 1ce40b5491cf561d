import DocQuery.Proofs.Keyed
import DocQuery.Proofs.Number.Whole
import DocQuery.Proofs.Query.Verdict
import DocQuery.Proofs.Schema.StoredForm

/-!
# Values that are the same as themselves

The store takes two values for the same by their comparable forms, under which
what is not a number is not the same as itself.  A value is found by itself when
it holds nothing of the kind, and when each name in its documents stands once.
-/

namespace DocQuery
namespace Value

/-!
# Values without exceptions
-/

mutual

/-- Whether there is what is not a number in a value. -/
def hasNaN : Value → Bool
  | .double x => Number.isNaN x
  | .array items => itemsHaveNaN items
  | .document fields => fieldsHaveNaN fields
  | .scopedCode _ scope => fieldsHaveNaN scope
  | _ => false

def itemsHaveNaN : List Value → Bool
  | [] => false
  | v :: rest => hasNaN v || itemsHaveNaN rest

def fieldsHaveNaN : List (String × Value) → Bool
  | [] => false
  | (_, v) :: rest => hasNaN v || fieldsHaveNaN rest

end

mutual

/-- Whether every document in a value has each of its names once. -/
def hasDistinctNames : Value → Bool
  | .array items => itemsHaveDistinctNames items
  | .document fields => decide (Keyed.keys fields).Nodup && fieldsHaveDistinctNames fields
  | .scopedCode _ scope => decide (Keyed.keys scope).Nodup && fieldsHaveDistinctNames scope
  | _ => true

def itemsHaveDistinctNames : List Value → Bool
  | [] => true
  | v :: rest => hasDistinctNames v && itemsHaveDistinctNames rest

def fieldsHaveDistinctNames : List (String × Value) → Bool
  | [] => true
  | (_, v) :: rest => hasDistinctNames v && fieldsHaveDistinctNames rest

end

/-!
# Lists and documents

They are the same as themselves when what they hold is.
-/

theorem same_array {items : List Value} (h : ∀ v ∈ items, v.Same v) :
    (Value.array items).Same (.array items) := by
  change Canonical.sameItems (canonicalItems items) (canonicalItems items) = true
  induction items with
  | nil =>
      rfl
  | cons v rest ih =>
      rw [List.forall_mem_cons] at h
      rw [canonicalItems, Canonical.sameItems, Bool.and_eq_true]
      exact ⟨h.1, ih h.2⟩

theorem get?_canonicalFields (fields : Document) (key : String) :
    Keyed.get? (canonicalFields fields) key = (Keyed.get? fields key).map canonical := by
  induction fields with
  | nil =>
      rfl
  | cons entry rest ih =>
      rcases entry with ⟨k, v⟩
      by_cases hk : k = key
      · simp [canonicalFields, Keyed.get?, hk]
      · simp [canonicalFields, Keyed.get?, hk, ih]

theorem sameEntries_of_subset {part fields : Document} (hsubset : part ⊆ fields)
    (hdistinct : (Keyed.keys fields).Nodup) (h : ∀ entry ∈ fields, entry.2.Same entry.2) :
    Canonical.sameEntries (canonicalFields part) (canonicalFields fields) = true := by
  induction part with
  | nil =>
      rfl
  | cons entry rest ih =>
      rcases entry with ⟨key, v⟩
      have hmem : (key, v) ∈ fields := hsubset List.mem_cons_self
      have hget : Keyed.get? (canonicalFields fields) key = some v.canonical := by
        rw [get?_canonicalFields, Keyed.get?_of_mem hdistinct hmem]
        rfl
      rw [canonicalFields, Canonical.sameEntries, hget, Bool.and_eq_true]
      exact ⟨h (key, v) hmem, ih fun e he => hsubset (List.mem_cons_of_mem _ he)⟩

theorem same_document {fields : Document} (hdistinct : (Keyed.keys fields).Nodup)
    (h : ∀ entry ∈ fields, entry.2.Same entry.2) :
    (Value.document fields).Same (.document fields) := by
  simp [Same, canonical, Canonical.same,
    sameEntries_of_subset (List.Subset.refl fields) hdistinct h]

theorem same_ofInt (n : Int) :
    Canonical.same (.number (Number.ofInt n)) (.number (Number.ofInt n)) = true :=
  Number.equal_self (Number.isNaN_ofInt n)

/-!
# Sameness
-/

mutual

theorem same_self : ∀ {v : Value}, v.hasNaN = false → v.hasDistinctNames = true → v.Same v
  | .array items, hnan, hnames =>
      same_array (items_same_self hnan hnames)
  | .document fields, hnan, hnames => by
      rw [hasDistinctNames, Bool.and_eq_true, decide_eq_true_iff] at hnames
      exact same_document hnames.1 (fields_same_self hnan hnames.2)
  | .double x, hnan, _ =>
      Number.equal_self hnan
  | .int32 n, _, _ | .int64 n, _, _ =>
      same_ofInt n.toInt
  | .boolean _, _, _ | .instant _, _, _ | .string _, _, _ | .objectId _, _, _
  | .binary _ _, _, _ => by
      simp [Same, canonical, Canonical.same]
  | .null, _, _ | .undefined, _, _ | .minKey, _, _ | .maxKey, _, _ | .regex _ _, _, _
  | .timestamp _ _, _, _ | .code _, _, _ | .scopedCode _ _, _, _ | .symbol _, _, _
  | .decimal _, _, _ =>
      rfl

theorem items_same_self : ∀ {items : List Value}, itemsHaveNaN items = false →
    itemsHaveDistinctNames items = true → ∀ v ∈ items, v.Same v
  | [], _, _ => fun _ hv => nomatch hv
  | v :: rest, hnan, hnames => by
      rw [itemsHaveNaN, Bool.or_eq_false_iff] at hnan
      rw [itemsHaveDistinctNames, Bool.and_eq_true] at hnames
      rw [List.forall_mem_cons]
      exact ⟨same_self hnan.1 hnames.1, items_same_self hnan.2 hnames.2⟩

theorem fields_same_self : ∀ {fields : List (String × Value)}, fieldsHaveNaN fields = false →
    fieldsHaveDistinctNames fields = true → ∀ entry ∈ fields, entry.2.Same entry.2
  | [], _, _ => fun _ hentry => nomatch hentry
  | (_, v) :: rest, hnan, hnames => by
      rw [fieldsHaveNaN, Bool.or_eq_false_iff] at hnan
      rw [fieldsHaveDistinctNames, Bool.and_eq_true] at hnames
      rw [List.forall_mem_cons]
      exact ⟨same_self hnan.1 hnames.1, fields_same_self hnan.2 hnames.2⟩

end

theorem same_of_isReference {v : Value} (h : v.IsReference) : v.Same v := by
  induction h with
  | objectId id =>
      simp [Same, canonical, Canonical.same]
  | null =>
      rfl
  | array items _ ih =>
      exact same_array ih

theorem Same.equals {v : Value} (h : v.Same v) : Equals (some v) v := by
  right
  cases hlist : Selector.isList v with
  | true =>
      exact ⟨v, rfl, h⟩
  | false =>
      rw [Selector.elements_of_not_isList hlist]
      exact ⟨v, List.mem_singleton_self v, h⟩

end Value
end DocQuery
