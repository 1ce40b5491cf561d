import DocQuery.Proofs.Value.Sameness
import Mathlib.Data.List.Perm.Subperm

/-!
# Sameness as an equivalence

Values that are the same stay so when they are exchanged, and what is the same
as one of two values that are the same is the same as the other.  Exchanging
needs each name of a document to stand once: a document that holds all names of
another and no more fields then holds no other names.
-/

namespace DocQuery

/-!
# Numbers
-/

namespace Number

theorem equal_comm (x y : Float) : equal x y = equal y x := by
  unfold equal
  cases place? x <;> cases place? y <;> first | rfl | exact Bool.beq_comm

theorem equal_trans {x y z : Float} (hxy : equal x y = true) (hyz : equal y z = true) :
    equal x z = true := by
  unfold equal at *
  cases hx : place? x <;> cases hy : place? y <;> cases hz : place? z <;> simp_all

end Number

/-!
# Comparable forms
-/

namespace Canonical

mutual

/-- Whether every map in a comparable form has each of its names once. -/
def hasDistinctNames : Canonical → Bool
  | .array items => itemsHaveDistinctNames items
  | .map entries => decide (Keyed.keys entries).Nodup && entriesHaveDistinctNames entries
  | _ => true

def itemsHaveDistinctNames : List Canonical → Bool
  | [] => true
  | a :: rest => hasDistinctNames a && itemsHaveDistinctNames rest

def entriesHaveDistinctNames : List (String × Canonical) → Bool
  | [] => true
  | (_, a) :: rest => hasDistinctNames a && entriesHaveDistinctNames rest

end

theorem hasDistinctNames_of_entries {entries : Keyed Canonical} {key : String} {a : Canonical}
    (h : entriesHaveDistinctNames entries = true) (hmem : (key, a) ∈ entries) :
    a.hasDistinctNames = true := by
  induction entries with
  | nil =>
      cases hmem
  | cons entry rest ih =>
      rw [entriesHaveDistinctNames, Bool.and_eq_true] at h
      cases hmem with
      | head =>
          exact h.1
      | tail _ hmem =>
          exact ih h.2 hmem

theorem sameEntries_iff {s t : Keyed Canonical} :
    sameEntries s t = true ↔
      ∀ entry ∈ s, ∃ b, Keyed.get? t entry.1 = some b ∧ same entry.2 b = true := by
  induction s with
  | nil =>
      simp [sameEntries]
  | cons entry rest ih =>
      rcases entry with ⟨key, a⟩
      rw [sameEntries, Bool.and_eq_true, ih, List.forall_mem_cons]
      refine and_congr_left' ?_
      cases Keyed.get? t key <;> simp

mutual

theorem same_trans : ∀ {a b c : Canonical}, same a b = true → same b c = true → same a c = true
  | .array s, b, c, hab, hbc => by
      cases b <;> simp only [same, Bool.false_eq_true] at hab
      case array t =>
        cases c <;> simp only [same, Bool.false_eq_true] at hbc
        case array u =>
          exact sameItems_trans hab hbc
  | .map s, b, c, hab, hbc => by
      cases b <;> simp only [same, Bool.false_eq_true, Bool.and_eq_true, decide_eq_true_iff] at hab
      case map t =>
        cases c <;>
          simp only [same, Bool.false_eq_true, Bool.and_eq_true, decide_eq_true_iff] at hbc
        case map u =>
          rw [same, Bool.and_eq_true, decide_eq_true_iff, sameEntries_iff]
          refine ⟨hab.1.trans hbc.1, ?_⟩
          intro entry hentry
          rcases sameEntries_iff.mp hab.2 entry hentry with ⟨y, hy, hxy⟩
          rcases sameEntries_iff.mp hbc.2 _ (Keyed.mem_of_get? hy) with ⟨z, hz, hyz⟩
          exact ⟨z, hz, entries_same_trans entry hentry hxy hyz⟩
  | .number x, b, c, hab, hbc => by
      cases b <;> simp only [same, Bool.false_eq_true] at hab
      case number y =>
        cases c <;> simp only [same, Bool.false_eq_true] at hbc
        case number z =>
          exact Number.equal_trans hab hbc
  | .null, b, c, hab, hbc | .boolean _, b, c, hab, hbc | .string _, b, c, hab, hbc
  | .objectId _, b, c, hab, hbc | .instant _, b, c, hab, hbc | .binary _, b, c, hab, hbc => by
      cases b <;> cases c <;> simp_all [same]

theorem sameItems_trans : ∀ {s t u : List Canonical}, sameItems s t = true →
    sameItems t u = true → sameItems s u = true
  | [], t, u, hst, htu => by
      cases t with
      | nil =>
          exact htu
      | cons b t =>
          simp [sameItems] at hst
  | a :: s, t, u, hst, htu => by
      cases t with
      | nil =>
          simp [sameItems] at hst
      | cons b t =>
          cases u with
          | nil =>
              simp [sameItems] at htu
          | cons c u =>
              rw [sameItems, Bool.and_eq_true] at hst htu ⊢
              exact ⟨same_trans hst.1 htu.1, sameItems_trans hst.2 htu.2⟩

theorem entries_same_trans : ∀ {s : List (String × Canonical)}, ∀ entry ∈ s,
    ∀ {b c : Canonical}, same entry.2 b = true → same b c = true → same entry.2 c = true
  | [] => fun _ hentry => nomatch hentry
  | (key, a) :: rest => by
      rw [List.forall_mem_cons]
      exact ⟨same_trans, entries_same_trans⟩

end

theorem exists_get?_of_same_names {s t : Keyed Canonical} (hs : (Keyed.keys s).Nodup)
    (hlength : s.length = t.length) (hst : sameEntries s t = true) {key : String}
    (hkey : key ∈ Keyed.keys t) : ∃ a, Keyed.get? s key = some a := by
  have hsubset : Keyed.keys s ⊆ Keyed.keys t := by
    intro name hname
    rcases List.mem_map.mp hname with ⟨entry, hentry, rfl⟩
    rcases sameEntries_iff.mp hst entry hentry with ⟨b, hb, _⟩
    exact List.mem_map.mpr ⟨_, Keyed.mem_of_get? hb, rfl⟩
  have hle : (Keyed.keys t).length ≤ (Keyed.keys s).length := by
    simp [Keyed.keys, hlength]
  have hperm := (List.subperm_of_subset hs hsubset).perm_of_length_le hle
  exact Option.isSome_iff_exists.mp
    (Keyed.contains_iff_mem_keys.mpr (hperm.mem_iff.mpr hkey))

mutual

theorem same_symm : ∀ {a b : Canonical}, a.hasDistinctNames = true → b.hasDistinctNames = true →
    same a b = true → same b a = true
  | .array s, b, ha, hb, h => by
      cases b <;> simp only [same, Bool.false_eq_true] at h
      case array t =>
        exact sameItems_symm ha hb h
  | .map s, b, ha, hb, h => by
      cases b <;> simp only [same, Bool.false_eq_true, Bool.and_eq_true, decide_eq_true_iff] at h
      case map t =>
        rw [hasDistinctNames, Bool.and_eq_true, decide_eq_true_iff] at ha hb
        rw [same, Bool.and_eq_true, decide_eq_true_iff, sameEntries_iff]
        refine ⟨h.1.symm, ?_⟩
        rintro ⟨key, y⟩ hy
        -- What the first map has under the name is compared with the entry that is looked up.
        rcases exists_get?_of_same_names ha.1 h.1 h.2 (List.mem_map_of_mem hy) with ⟨x, hx⟩
        have hmem := Keyed.mem_of_get? hx
        rcases sameEntries_iff.mp h.2 (key, x) hmem with ⟨y', hy', hsame⟩
        rw [Keyed.get?_of_mem hb.1 hy, Option.some_inj] at hy'
        subst hy'
        exact ⟨x, hx, entries_same_symm ha.2 (key, x) hmem
          (hasDistinctNames_of_entries hb.2 hy) hsame⟩
  | .number x, b, _, _, h => by
      cases b <;> simp only [same, Bool.false_eq_true] at h
      case number y =>
        rw [same, Number.equal_comm]
        exact h
  | .null, b, _, _, h | .boolean _, b, _, _, h | .string _, b, _, _, h
  | .objectId _, b, _, _, h | .instant _, b, _, _, h | .binary _, b, _, _, h => by
      cases b <;> simp_all [same]

theorem sameItems_symm : ∀ {s t : List Canonical}, itemsHaveDistinctNames s = true →
    itemsHaveDistinctNames t = true → sameItems s t = true → sameItems t s = true
  | [], t, _, _, h => by
      cases t with
      | nil =>
          rfl
      | cons b t =>
          simp [sameItems] at h
  | a :: s, t, hs, ht, h => by
      cases t with
      | nil =>
          simp [sameItems] at h
      | cons b t =>
          rw [sameItems, Bool.and_eq_true] at h ⊢
          rw [itemsHaveDistinctNames, Bool.and_eq_true] at hs ht
          exact ⟨same_symm hs.1 ht.1 h.1, sameItems_symm hs.2 ht.2 h.2⟩

theorem entries_same_symm : ∀ {s : List (String × Canonical)},
    entriesHaveDistinctNames s = true → ∀ entry ∈ s, ∀ {b : Canonical},
    b.hasDistinctNames = true → same entry.2 b = true → same b entry.2 = true
  | [], _ => fun _ hentry => nomatch hentry
  | (key, a) :: rest, h => by
      rw [entriesHaveDistinctNames, Bool.and_eq_true] at h
      rw [List.forall_mem_cons]
      exact ⟨same_symm h.1, entries_same_symm h.2⟩

end

end Canonical

/-!
# Values
-/

namespace Value

theorem keys_canonicalFields (fields : Document) :
    Keyed.keys (canonicalFields fields) = Keyed.keys fields := by
  induction fields with
  | nil =>
      rfl
  | cons entry rest ih =>
      rcases entry with ⟨key, v⟩
      rw [Keyed.keys, Keyed.keys] at ih
      rw [canonicalFields, Keyed.keys, Keyed.keys, List.map_cons, List.map_cons, ih]

mutual

theorem hasDistinctNames_canonical : ∀ {v : Value}, v.hasDistinctNames = true →
    v.canonical.hasDistinctNames = true
  | .array items, h =>
      itemsHaveDistinctNames_canonicalItems h
  | .document fields, h => by
      rw [hasDistinctNames, Bool.and_eq_true] at h
      rw [canonical, Canonical.hasDistinctNames, keys_canonicalFields, Bool.and_eq_true]
      exact ⟨h.1, entriesHaveDistinctNames_canonicalFields h.2⟩
  | .double _, _ | .int32 _, _ | .int64 _, _ | .boolean _, _ | .instant _, _ | .string _, _
  | .objectId _, _ | .binary _ _, _ | .null, _ | .undefined, _ | .minKey, _ | .maxKey, _
  | .regex _ _, _ | .timestamp _ _, _ | .code _, _ | .scopedCode _ _, _ | .symbol _, _
  | .decimal _, _ =>
      rfl

theorem itemsHaveDistinctNames_canonicalItems : ∀ {items : List Value},
    itemsHaveDistinctNames items = true →
    Canonical.itemsHaveDistinctNames (canonicalItems items) = true
  | [], _ => rfl
  | v :: rest, h => by
      rw [itemsHaveDistinctNames, Bool.and_eq_true] at h
      rw [canonicalItems, Canonical.itemsHaveDistinctNames, Bool.and_eq_true]
      exact ⟨hasDistinctNames_canonical h.1, itemsHaveDistinctNames_canonicalItems h.2⟩

theorem entriesHaveDistinctNames_canonicalFields : ∀ {fields : List (String × Value)},
    fieldsHaveDistinctNames fields = true →
    Canonical.entriesHaveDistinctNames (canonicalFields fields) = true
  | [], _ => rfl
  | (_, v) :: rest, h => by
      rw [fieldsHaveDistinctNames, Bool.and_eq_true] at h
      rw [canonicalFields, Canonical.entriesHaveDistinctNames, Bool.and_eq_true]
      exact ⟨hasDistinctNames_canonical h.1, entriesHaveDistinctNames_canonicalFields h.2⟩

end

theorem fieldsHaveDistinctNames_iff {fields : Document} :
    fieldsHaveDistinctNames fields = true ↔
      ∀ entry ∈ fields, entry.2.hasDistinctNames = true := by
  induction fields with
  | nil =>
      simp [fieldsHaveDistinctNames]
  | cons entry rest ih =>
      rw [fieldsHaveDistinctNames, Bool.and_eq_true, ih, List.forall_mem_cons]

theorem hasDistinctNames_follow? {d : Document} {steps : List String} {v : Value}
    (hd : fieldsHaveDistinctNames d = true) (h : d.follow? steps = some v) :
    v.hasDistinctNames = true := by
  fun_induction Document.follow? d steps with
  | case1 =>
      cases h
  | case2 d last =>
      exact fieldsHaveDistinctNames_iff.mp hd _ (Keyed.mem_of_get? h)
  | case3 d step rest hrest inner hinner ih =>
      have hnames := fieldsHaveDistinctNames_iff.mp hd _ (Keyed.mem_of_get? hinner)
      rw [hasDistinctNames, Bool.and_eq_true] at hnames
      exact ih hnames.2 h
  | case4 =>
      cases h

end Value
end DocQuery
