import DocQuery.Proofs.Keyed
import DocQuery.Proofs.Store.Change

/-!
# Uniqueness of stored documents

A check passes exactly when no two of the checked documents have the same key.
As all documents that would result from a write are checked, whatever the write
is, the keys stay distinct in every store that writes lead to.
-/

namespace DocQuery
namespace Uniqueness

open Outcome

theorem firstRepeated_eq_none_iff [DecidableEq κ] (key : α → κ) (seen : List κ)
    (items : List α) :
    firstRepeated key seen items = none ↔
      items.Pairwise (fun a b => key a ≠ key b) ∧ ∀ a ∈ items, key a ∉ seen := by
  induction items generalizing seen with
  | nil =>
      simp [firstRepeated]
  | cons a rest ih =>
      by_cases ha : key a ∈ seen
      · simp [firstRepeated, ha]
      · rw [List.forall_mem_cons, List.pairwise_cons]
        simp only [firstRepeated, ha, if_false, ih, List.mem_cons, not_or]
        constructor
        · rintro ⟨hrest, hseen⟩
          exact ⟨⟨fun b hb e => (hseen b hb).1 e.symm, hrest⟩, not_false,
            fun b hb => (hseen b hb).2⟩
        · rintro ⟨⟨hfirst, hrest⟩, _, hseen⟩
          exact ⟨hrest, fun b hb => ⟨fun e => hfirst b hb e.symm, hseen b hb⟩⟩

/-!
# Checks
-/

def idKey (d : Document) : Value.IndexKey :=
  Value.indexKey (Keyed.get? d storedIdField)

/-- Two documents that an index covers differ in its key. -/
def Differ (index : Index) (a b : Document) : Prop :=
  isPassedOver index a = true ∨ isPassedOver index b = true ∨ keyOf index a ≠ keyOf index b

theorem pairwise_idsOf {collection : String} {documents : List Document}
    (h : checkIds collection documents = .ok ()) :
    (idsOf documents).Pairwise fun v w => Value.indexKey (some v) ≠ Value.indexKey (some w) := by
  unfold checkIds at h
  split at h
  · cases h
  · rename_i hnone
    exact ((firstRepeated_eq_none_iff _ _ _).mp hnone).1

theorem checkIds_eq_ok {collection : String} {documents : List Document}
    (hids : ∀ d ∈ documents, Keyed.contains d storedIdField = true)
    (h : checkIds collection documents = .ok ()) :
    documents.Pairwise fun a b => idKey a ≠ idKey b := by
  have hpairs := pairwise_idsOf h
  rw [idsOf, List.pairwise_filterMap] at hpairs
  refine hpairs.imp_of_mem ?_
  intro a b ha hb hkeys
  rcases Option.isSome_iff_exists.mp (hids a ha) with ⟨v, hv⟩
  rcases Option.isSome_iff_exists.mp (hids b hb) with ⟨w, hw⟩
  rw [idKey, idKey, hv, hw]
  exact hkeys v hv w hw

theorem repeatsKey_eq_false_iff {index : Index} {documents : List Document} :
    repeatsKey index documents = false ↔ documents.Pairwise (Differ index) := by
  have hnone : repeatsKey index documents = false ↔
      firstRepeated (keyOf index) []
        (documents.filter fun d => !isPassedOver index d) = none := by
    simp [repeatsKey]
  rw [hnone, firstRepeated_eq_none_iff, List.pairwise_filter]
  simp only [List.not_mem_nil, not_false_eq_true, implies_true, and_true]
  refine Iff.of_eq (congrArg (List.Pairwise · documents) ?_)
  funext a b
  cases ha : isPassedOver index a <;> cases hb : isPassedOver index b <;> simp [Differ, ha, hb]

theorem checkIndexes_eq_ok {collection : String} {documents : List Document}
    {indexes : List Index} (h : checkIndexes collection documents indexes = .ok ()) :
    ∀ index ∈ indexes, index.unique = true → documents.Pairwise (Differ index) := by
  induction indexes with
  | nil =>
      intro index hindex
      cases hindex
  | cons first rest ih =>
      unfold checkIndexes at h
      split at h
      · cases h
      · rename_i hfirst
        rw [List.forall_mem_cons]
        refine ⟨?_, ih h⟩
        intro hunique
        rw [← repeatsKey_eq_false_iff]
        simpa [hunique] using hfirst

theorem check_eq_ok {collection : String} {documents : List Document} {indexes : List Index}
    (h : check collection indexes documents = .ok ()) :
    checkIds collection documents = .ok () ∧
      checkIndexes collection documents indexes = .ok () := by
  rcases bind_eq_ok.mp h with ⟨⟨⟩, hids, hindexes⟩
  exact ⟨hids, hindexes⟩

theorem nodup_idsOf_of_check {collection : String} {documents : List Document}
    {indexes : List Index} (h : check collection indexes documents = .ok ()) :
    (idsOf documents).Nodup := by
  refine (pairwise_idsOf (check_eq_ok h).1).imp ?_
  rintro v _ hkeys rfl
  exact hkeys rfl

end Uniqueness

/-!
# Unique contents
-/

namespace Contents

open Uniqueness (idKey Differ)

structure Unique (c : Contents) : Prop where
  identified : ∀ d ∈ c.documents, Keyed.contains d storedIdField = true
  ids : c.documents.Pairwise fun a b => idKey a ≠ idKey b
  indexed : ∀ index ∈ c.indexes, index.unique = true → c.documents.Pairwise (Differ index)
  names : c.indexes.Pairwise fun a b => a.name ≠ b.name

theorem unique_empty : Unique {} where
  identified := by simp
  ids := List.Pairwise.nil
  indexed := by simp
  names := List.Pairwise.nil

theorem Unique.ofCheck {collection : String} {c : Contents} {documents : List Document}
    (h : c.Unique) (hids : ∀ d ∈ documents, Keyed.contains d storedIdField = true)
    (hcheck : Uniqueness.check collection c.indexes documents = .ok ()) :
    Unique { c with documents } where
  identified := hids
  ids := Uniqueness.checkIds_eq_ok hids (Uniqueness.check_eq_ok hcheck).1
  indexed := Uniqueness.checkIndexes_eq_ok (Uniqueness.check_eq_ok hcheck).2
  names := h.names

theorem contains_withId (serial : Nat) (d : Document) :
    Keyed.contains (Store.withId serial d) storedIdField = true := by
  unfold Store.withId
  split
  · assumption
  · simp [Keyed.contains, Keyed.get?]

/-- Every change keeps contents unique. -/
theorem Unique.change {collection : String} {c c' : Contents} (h : c.Unique)
    (hchange : Change collection c c') : c'.Unique := by
  cases hchange with
  | none =>
      exact h
  | insert serial added hcheck =>
      have hadded : ∀ d ∈ Store.withIds serial added, Keyed.contains d storedIdField = true :=
        Store.forall_mem_withIds (p := fun _ => True) (fun serial d _ => contains_withId serial d)
          (fun _ _ => trivial) serial
      refine h.ofCheck ?_ hcheck
      intro d hd
      rcases List.mem_append.mp hd with hd | hd
      · exact h.identified d hd
      · exact hadded d hd
  | update filter set documents n hset hcheck =>
      refine h.ofCheck (Store.forall_mem_updateAll hset ?_ h.identified) hcheck
      intro d hd
      exact Keyed.contains_insertAll hd set
  | delete filter documents n hremove =>
      have hsub := Store.removeAll_sublist hremove
      exact
        { identified := fun d hd => h.identified d (hsub.subset hd)
          ids := h.ids.sublist hsub
          indexed := fun index hindex hunique => (h.indexed index hindex hunique).sublist hsub
          names := h.names }
  | createIndex index hnew hcheck =>
      refine { identified := h.identified, ids := h.ids, indexed := ?_, names := ?_ }
      · intro other hother hunique
        rcases List.mem_append.mp hother with hother | hother
        · exact h.indexed other hother hunique
        · exact Uniqueness.checkIndexes_eq_ok (Uniqueness.check_eq_ok hcheck).2 other hother
            hunique
      · rw [List.pairwise_append]
        refine ⟨h.names, List.pairwise_singleton _ _, ?_⟩
        intro installed hinstalled other hother
        rw [List.mem_singleton.mp hother]
        exact hnew installed hinstalled
  | drop =>
      exact unique_empty

theorem Change.unindexed {collection : String} {c c' : Contents}
    (h : Change collection c c') :
    Change collection { c with indexes := [] } { c' with indexes := [] } := by
  have hids : ∀ {indexes : List Index} {documents : List Document},
      Uniqueness.check collection indexes documents = .ok () →
        Uniqueness.check collection [] documents = .ok () := by
    intro indexes documents hcheck
    rw [Uniqueness.check, (Uniqueness.check_eq_ok hcheck).1]
    rfl
  cases h with
  | none =>
      exact Change.none
  | insert serial added hcheck =>
      exact Change.insert serial added (hids hcheck)
  | update filter set documents n hset hcheck =>
      exact Change.update filter set documents n hset (hids hcheck)
  | delete filter documents n hremove =>
      exact Change.delete filter documents n hremove
  | createIndex index hnew hcheck =>
      exact Change.none
  | drop =>
      exact Change.drop

end Contents

namespace Store

/-- Whatever writes are sent to an empty store, in whatever order, every collection has
unique contents afterwards.  It does not matter from where identifiers are numbered. -/
theorem unique_contents_run (serial : Nat) (steps : List Step) (collection : String) :
    ((run ⟨[], serial⟩ steps).contents collection).Unique :=
  run_induction Contents.Unique.change ⟨[], serial⟩ Contents.unique_empty steps

end Store
end DocQuery
