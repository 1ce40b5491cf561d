import DocQuery.Proofs.Number.Zero
import DocQuery.Proofs.Store.Uniqueness
import DocQuery.Proofs.Value.Sameness
import Mathlib.Data.List.Perm.Subperm

/-!
# Index keys against sameness

Values with one index key are the same to the store.  The converse holds of
values in a normal form, because a key keeps the build of what is not a number,
which the comparable form forgets: the sign of zero, the width of numbers in
lists and documents, the order of fields, the subtype of bytes, and the kinds
that are compared as null.
-/

namespace DocQuery
namespace Value

/-!
# Normal values

Among values that are the same, one at most is normal.
-/

mutual

/-- Whether a value has its numbers as doubles, zero without a sign, its fields in the order
of their names, its bytes without a subtype, and no kind that cannot be compared. -/
def isNormal : Value → Bool
  | .null | .boolean _ | .string _ | .objectId _ | .instant _ => true
  | .double x => !Number.isNegativeZero x
  | .binary subtype _ => subtype == 0
  | .array items => itemsAreNormal items
  | .document fields => decide ((Keyed.keys fields).Pairwise (· < ·)) && fieldsAreNormal fields
  | _ => false

def itemsAreNormal : List Value → Bool
  | [] => true
  | v :: rest => isNormal v && itemsAreNormal rest

def fieldsAreNormal : List (String × Value) → Bool
  | [] => true
  | (_, v) :: rest => isNormal v && fieldsAreNormal rest

end

theorem isNormal_document_iff {fields : Document} :
    (Value.document fields).isNormal = true ↔
      (Keyed.keys fields).Pairwise (· < ·) ∧ fieldsAreNormal fields = true := by
  rw [isNormal, Bool.and_eq_true, decide_eq_true_iff]

theorem isNormal_of_fieldsAreNormal {fields : Document} {key : String} {v : Value}
    (h : fieldsAreNormal fields = true) (hmem : (key, v) ∈ fields) : v.isNormal = true := by
  induction fields with
  | nil =>
      cases hmem
  | cons entry rest ih =>
      rw [fieldsAreNormal, Bool.and_eq_true] at h
      cases hmem with
      | head =>
          exact h.1
      | tail _ hmem =>
          exact ih h.2 hmem

theorem length_canonicalFields (fields : Document) :
    (canonicalFields fields).length = fields.length := by
  induction fields with
  | nil =>
      rfl
  | cons entry rest ih =>
      simp [canonicalFields, ih]

theorem eq_of_subset_of_sorted {s t : Document} (hs : (Keyed.keys s).Pairwise (· < ·))
    (ht : (Keyed.keys t).Pairwise (· < ·)) (hsubset : s ⊆ t) (hlength : t.length ≤ s.length) :
    s = t := by
  rw [Keyed.keys, List.pairwise_map] at hs ht
  have hnodup : s.Nodup := by
    refine hs.imp ?_
    rintro a _ hlt rfl
    exact String.lt_irrefl _ hlt
  have hperm : s.Perm t := (List.subperm_of_subset hnodup hsubset).perm_of_length_le hlength
  refine hperm.eq_of_pairwise ?_ hs ht
  intro a b _ _ hlt hgt
  exact absurd hgt (String.lt_asymm hlt)

mutual

theorem eq_of_same : ∀ {v w : Value}, v.isNormal = true → w.isNormal = true →
    Canonical.same v.canonical w.canonical = true → v = w
  | .array s, w, hv, hw, h => by
      cases w <;> simp [isNormal, canonical, Canonical.same] at hv hw h
      case array t =>
        rw [items_eq_of_same hv hw h]
  | .document s, w, hv, hw, h => by
      cases w <;> simp only [canonical, Canonical.same, Bool.false_eq_true] at h
      case document t =>
        rw [isNormal_document_iff] at hv hw
        rw [Bool.and_eq_true, decide_eq_true_iff] at h
        rw [length_canonicalFields, length_canonicalFields] at h
        -- Sameness only asks for the fields of the first; the second has no more than these.
        rw [eq_of_subset_of_sorted hv.1 hw.1 ?_ (Nat.le_of_eq h.1.symm)]
        rintro ⟨key, v⟩ hmem
        exact Keyed.mem_of_get? (fields_eq_of_same hv.2 hw.2 h.2 (key, v) hmem)
  | .double x, w, hv, hw, h => by
      cases w <;> simp [isNormal, canonical, Canonical.same] at hv hw h
      case double y =>
        rw [Number.eq_of_equal h hv hw]
  | .null, w, hv, hw, h | .boolean _, w, hv, hw, h | .string _, w, hv, hw, h
  | .objectId _, w, hv, hw, h | .instant _, w, hv, hw, h | .binary _ _, w, hv, hw, h => by
      cases w <;> simp_all [isNormal, canonical, Canonical.same]

theorem items_eq_of_same : ∀ {s t : List Value}, itemsAreNormal s = true →
    itemsAreNormal t = true →
    Canonical.sameItems (canonicalItems s) (canonicalItems t) = true → s = t
  | [], t, _, _, h => by
      cases t with
      | nil =>
          rfl
      | cons w t =>
          simp [canonicalItems, Canonical.sameItems] at h
  | v :: s, t, hs, ht, h => by
      cases t with
      | nil =>
          simp [canonicalItems, Canonical.sameItems] at h
      | cons w t =>
          simp only [itemsAreNormal, canonicalItems, Canonical.sameItems, Bool.and_eq_true]
            at hs ht h
          rw [eq_of_same hs.1 ht.1 h.1, items_eq_of_same hs.2 ht.2 h.2]

theorem fields_eq_of_same : ∀ {s t : List (String × Value)}, fieldsAreNormal s = true →
    fieldsAreNormal t = true →
    Canonical.sameEntries (canonicalFields s) (canonicalFields t) = true →
    ∀ entry ∈ s, Keyed.get? t entry.1 = some entry.2
  | [], _, _, _, _ => fun _ hentry => nomatch hentry
  | (key, v) :: s, t, hs, ht, h => by
      simp only [fieldsAreNormal, canonicalFields, Canonical.sameEntries, Bool.and_eq_true]
        at hs h
      rw [List.forall_mem_cons]
      refine ⟨?_, fields_eq_of_same hs.2 ht h.2⟩
      have hfirst := h.1
      rw [get?_canonicalFields] at hfirst
      cases hget : Keyed.get? t key with
      | none =>
          simp [hget] at hfirst
      | some w =>
          have hw := isNormal_of_fieldsAreNormal ht (Keyed.mem_of_get? hget)
          simp only [hget, Option.map_some] at hfirst
          rw [eq_of_same hs.1 hw hfirst]

end

/-!
# Keys

Each key is that of a value which represents it.  From the values that represent
keys both the comparable form and the key can be told.
-/

namespace IndexKey

def represent : IndexKey → Value
  | .null => .null
  | .number x => .double x
  | .other v => v

end IndexKey

theorem canonical_represent (value : Option Value) :
    (indexKey value).represent.canonical = canonical? value := by
  cases value with
  | none =>
      rfl
  | some v =>
      cases v <;> rfl

theorem indexKey_represent (value : Option Value) :
    indexKey (some (indexKey value).represent) = indexKey value := by
  cases value with
  | none =>
      rfl
  | some v =>
      cases v <;> rfl

theorem same_of_indexKey_eq {a b : Option Value} (hnan : a.any hasNaN = false)
    (hnames : a.all hasDistinctNames = true) (h : indexKey a = indexKey b) :
    (canonical? a).same (canonical? b) = true := by
  rw [← canonical_represent b, ← h, canonical_represent]
  cases a with
  | none =>
      rfl
  | some v =>
      exact same_self hnan hnames

/-- Whether the key of a value is that of a normal one.  A missing field has the key of null,
and whole numbers of all widths have those of doubles. -/
def hasNormalKey : Option Value → Bool
  | none | some (.int32 _) | some (.int64 _) => true
  | some v => v.isNormal

theorem natAbs_toInt_int32 (n : Int32) : n.toInt.natAbs ≤ Number.maxWord := by
  have hlower : -2 ^ 31 ≤ n.toInt := n.le_toInt
  have hupper : n.toInt < 2 ^ 31 := n.toInt_lt
  change n.toInt.natAbs ≤ 2 ^ 64 - 1
  omega

theorem natAbs_toInt_int64 (n : Int64) : n.toInt.natAbs ≤ Number.maxWord := by
  have hlower : -2 ^ 63 ≤ n.toInt := n.le_toInt
  have hupper : n.toInt < 2 ^ 63 := n.toInt_lt
  change n.toInt.natAbs ≤ 2 ^ 64 - 1
  omega

theorem isNormal_represent {value : Option Value} (h : hasNormalKey value = true) :
    (indexKey value).represent.isNormal = true := by
  cases value with
  | none =>
      rfl
  | some v =>
      cases v with
      | int32 n =>
          rw [indexKey, IndexKey.represent, isNormal,
            Number.isNegativeZero_ofInt (natAbs_toInt_int32 n), Bool.not_false]
      | int64 n =>
          rw [indexKey, IndexKey.represent, isNormal,
            Number.isNegativeZero_ofInt (natAbs_toInt_int64 n), Bool.not_false]
      | _ =>
          exact h

theorem indexKey_eq_of_same {a b : Option Value} (ha : hasNormalKey a = true)
    (hb : hasNormalKey b = true) (h : (canonical? a).same (canonical? b) = true) :
    indexKey a = indexKey b := by
  rw [← canonical_represent a, ← canonical_represent b] at h
  rw [← indexKey_represent a, ← indexKey_represent b,
    eq_of_same (isNormal_represent ha) (isNormal_represent hb) h]

/-- Values that share a key are the same to the store.  Those that are the same share a key if
they are normal, missing or whole numbers. -/
theorem indexKey_eq_iff_same {a b : Option Value} (hnan : a.any hasNaN = false)
    (hnames : a.all hasDistinctNames = true) :
    (indexKey a = indexKey b → (canonical? a).same (canonical? b) = true) ∧
      (hasNormalKey a = true → hasNormalKey b = true →
        (canonical? a).same (canonical? b) = true → indexKey a = indexKey b) :=
  ⟨same_of_indexKey_eq hnan hnames, indexKey_eq_of_same⟩

theorem indexKey_eq_iff_same_widths :
    indexKey (some (.int32 3)) = indexKey (some (.double 3)) ∧
      (canonical? (some (.int64 3))).same (canonical? (some (.double 3))) = true :=
  ⟨(indexKey_eq_iff_same (by decide) (by decide)).2 (by decide) (by decide) (by decide),
    (indexKey_eq_iff_same (by decide) (by decide)).1 (by decide)⟩

/-- Two values are the same to the store, but a unique index tells them apart. -/
def SameWithoutKey (v w : Value) : Prop :=
  (canonical? (some v)).same (canonical? (some w)) = true ∧ indexKey (some v) ≠ indexKey (some w)

instance (v w : Value) : Decidable (SameWithoutKey v w) :=
  inferInstanceAs (Decidable (_ ∧ _))

/-- The zeros are the same without sharing a key, and so are numbers of two widths in a list,
documents with their fields in two orders, bytes of two subtypes, and null and a kind that
cannot be compared. -/
theorem same_without_indexKey :
    SameWithoutKey (.double 0.0) (.double (-0.0)) ∧
      SameWithoutKey (.array [.int32 1]) (.array [.double 1]) ∧
      SameWithoutKey (.document [("a", .null), ("b", .null)])
        (.document [("b", .null), ("a", .null)]) ∧
      SameWithoutKey (.binary 0 [1]) (.binary 128 [1]) ∧ SameWithoutKey .null .minKey := by
  decide

end Value

/-!
# Unique indexes
-/

namespace Uniqueness

open Value (canonical? indexKey hasNaN hasDistinctNames hasNormalKey)

/-- Two documents hold the same values in all fields of an index. -/
def HoldSame (index : Index) (d e : Document) : Prop :=
  ∀ key ∈ index.keys, (canonical? (d.lookup? key.1)).same (canonical? (e.lookup? key.1)) = true

/-- Two documents do not hold the same, unless the index passes over one of them. -/
def HoldDistinct (index : Index) (d e : Document) : Prop :=
  isPassedOver index d = true ∨ isPassedOver index e = true ∨ ¬ HoldSame index d e

theorem keyOf_eq_iff {index : Index} {d e : Document} :
    keyOf index d = keyOf index e ↔
      ∀ key ∈ index.keys, indexKey (d.lookup? key.1) = indexKey (e.lookup? key.1) := by
  rw [keyOf, keyOf, indexed, indexed, List.map_map, List.map_map, List.map_inj_left]
  rfl

theorem holdSame_of_keyOf_eq {index : Index} {d e : Document}
    (hnan : ∀ a ∈ indexed index d, a.any hasNaN = false)
    (hnames : ∀ a ∈ indexed index d, a.all hasDistinctNames = true)
    (h : keyOf index d = keyOf index e) : HoldSame index d e := by
  intro key hkey
  have hmem : d.lookup? key.1 ∈ indexed index d := List.mem_map_of_mem hkey
  exact Value.same_of_indexKey_eq (hnan _ hmem) (hnames _ hmem) (keyOf_eq_iff.mp h key hkey)

theorem keyOf_eq_of_holdSame {index : Index} {d e : Document}
    (hd : ∀ a ∈ indexed index d, hasNormalKey a = true)
    (he : ∀ b ∈ indexed index e, hasNormalKey b = true) (h : HoldSame index d e) :
    keyOf index d = keyOf index e := by
  rw [keyOf_eq_iff]
  intro key hkey
  exact Value.indexKey_eq_of_same (hd _ (List.mem_map_of_mem hkey))
    (he _ (List.mem_map_of_mem hkey)) (h key hkey)

/-- A unique index accepts documents no two of which hold the same.  If all they hold is
normal, missing or a whole number, it accepts no others. -/
theorem repeatsKey_eq_false_iff_holdDistinct {index : Index} {documents : List Document}
    (hnan : ∀ d ∈ documents, ∀ a ∈ indexed index d, a.any hasNaN = false)
    (hnames : ∀ d ∈ documents, ∀ a ∈ indexed index d, a.all hasDistinctNames = true) :
    (documents.Pairwise (HoldDistinct index) → repeatsKey index documents = false) ∧
      ((∀ d ∈ documents, ∀ a ∈ indexed index d, hasNormalKey a = true) →
        repeatsKey index documents = false → documents.Pairwise (HoldDistinct index)) := by
  rw [repeatsKey_eq_false_iff]
  constructor
  · intro h
    refine h.imp_of_mem ?_
    intro d e hd _ hdistinct
    refine hdistinct.imp_right (Or.imp_right ?_)
    intro hhold hkeys
    exact hhold (holdSame_of_keyOf_eq (hnan d hd) (hnames d hd) hkeys)
  · intro hnormal h
    refine h.imp_of_mem ?_
    intro d e hd he hdiffer
    refine hdiffer.imp_right (Or.imp_right ?_)
    intro hkeys hhold
    exact hkeys (keyOf_eq_of_holdSame (hnormal d hd) (hnormal e he) hhold)

end Uniqueness
end DocQuery
