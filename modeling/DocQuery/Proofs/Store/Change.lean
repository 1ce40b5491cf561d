import DocQuery.Proofs.Outcome
import DocQuery.Store.Basic
import Mathlib.Data.List.Forall2

/-!
# Changes of a store

A write changes the contents of one collection, in one of few ways, or leaves
them as they were.  Whatever is to be kept by all writes has to be kept by these
changes only.
-/

namespace DocQuery

/-- One write to a collection, or its removal.  The writes of several clients follow each
other in some order. -/
inductive Store.Step where
  | insert (collection : String) (added : List Document)
  | update (collection : String) (filter set : Document)
  | delete (collection : String) (filter : Document)
  | createIndex (collection : String) (index : Index)
  | drop (collection : String)

namespace Store

def after (s : Store) : Step → Store
  | .insert collection added => (s.insert collection added).2
  | .update collection filter set => (s.update collection filter set).2
  | .delete collection filter => (s.delete collection filter).2
  | .createIndex collection index => (s.createIndex collection index).2
  | .drop collection => s.drop collection

def run (s : Store) (steps : List Step) : Store :=
  steps.foldl after s

def Step.collection : Step → String
  | insert collection _ => collection
  | update collection _ _ => collection
  | delete collection _ => collection
  | createIndex collection _ => collection
  | drop collection => collection

/-!
# Contents
-/

@[simp] theorem contents_put_self (s : Store) (collection : String) (c : Contents) :
    (s.put collection c).contents collection = c := by
  simp [contents, contents?, put, Keyed.get?_insert_self]

theorem contents_put_of_ne (s : Store) {collection other : String} (c : Contents)
    (h : collection ≠ other) : (s.put collection c).contents other = s.contents other := by
  simp [contents, contents?, put, Keyed.get?_insert_of_ne _ _ h]

@[simp] theorem contents_drop_self (s : Store) (collection : String) :
    (s.drop collection).contents collection = {} := by
  simp [contents, contents?, drop, Keyed.get?_erase_self]

theorem contents_drop_of_ne (s : Store) {collection other : String} (h : collection ≠ other) :
    (s.drop collection).contents other = s.contents other := by
  simp [contents, contents?, drop, Keyed.get?_erase_of_ne _ h]

theorem contents_of_contents? {s : Store} {collection : String} {c : Contents}
    (h : s.contents? collection = some c) : s.contents collection = c := by
  simp [contents, h]

/-!
# Writes

For each write: what becomes of the collection that it is sent to, and that no
other collection changes.
-/

theorem contents_insert (s : Store) (collection : String) (added : List Document) :
    (s.insert collection added).2.contents collection = s.contents collection ∨
      Uniqueness.check collection (s.contents collection).indexes
          ((s.contents collection).documents ++ withIds s.serial added) = .ok () ∧
        (s.insert collection added).2.contents collection =
          { s.contents collection with
            documents := (s.contents collection).documents ++ withIds s.serial added } := by
  simp only [insert]
  split
  · exact Or.inl (contents_put_self _ _ _)
  · rename_i hcheck
    exact Or.inr ⟨hcheck, contents_put_self _ _ _⟩

theorem contents_insert_of_ne (s : Store) {collection other : String} (added : List Document)
    (h : collection ≠ other) :
    (s.insert collection added).2.contents other = s.contents other := by
  simp only [insert]
  split <;> exact contents_put_of_ne _ _ h

theorem contents_update (s : Store) (collection : String) (filter set : Document) :
    (s.update collection filter set).2.contents collection = s.contents collection ∨
      ∃ documents n,
        updateAll filter set (s.contents collection).documents = .ok (documents, n) ∧
          Uniqueness.check collection (s.contents collection).indexes documents = .ok () ∧
            (s.update collection filter set).2.contents collection =
              { s.contents collection with documents } := by
  simp only [update]
  split
  · exact Or.inl rfl
  · rename_i c hc
    rw [contents_of_contents? hc]
    split
    · exact Or.inl (contents_of_contents? hc)
    · rename_i documents n hset
      split
      · exact Or.inl (contents_of_contents? hc)
      · rename_i hcheck
        exact Or.inr ⟨documents, n, hset, hcheck, contents_put_self _ _ _⟩

theorem contents_update_of_ne (s : Store) {collection other : String} (filter set : Document)
    (h : collection ≠ other) :
    (s.update collection filter set).2.contents other = s.contents other := by
  simp only [update]
  split
  · rfl
  · split
    · rfl
    · split
      · rfl
      · exact contents_put_of_ne _ _ h

theorem contents_delete (s : Store) (collection : String) (filter : Document) :
    (s.delete collection filter).2.contents collection = s.contents collection ∨
      ∃ documents n, removeAll filter (s.contents collection).documents = .ok (documents, n) ∧
        (s.delete collection filter).2.contents collection =
          { s.contents collection with documents } := by
  simp only [delete]
  split
  · exact Or.inl rfl
  · rename_i c hc
    rw [contents_of_contents? hc]
    split
    · exact Or.inl (contents_of_contents? hc)
    · rename_i documents n hremove
      exact Or.inr ⟨documents, n, hremove, contents_put_self _ _ _⟩

theorem contents_delete_of_ne (s : Store) {collection other : String} (filter : Document)
    (h : collection ≠ other) :
    (s.delete collection filter).2.contents other = s.contents other := by
  simp only [delete]
  split
  · rfl
  · split
    · rfl
    · exact contents_put_of_ne _ _ h

theorem contents_createIndex (s : Store) (collection : String) (index : Index) :
    (s.createIndex collection index).2.contents collection = s.contents collection ∨
      (∀ installed ∈ (s.contents collection).indexes, installed.name ≠ index.name) ∧
        Uniqueness.check collection [index] (s.contents collection).documents = .ok () ∧
          (s.createIndex collection index).2.contents collection =
            { s.contents collection with
              indexes := (s.contents collection).indexes ++ [index] } := by
  simp only [createIndex]
  split
  · exact Or.inl (contents_put_self _ _ _)
  · rename_i hnew
    split
    · exact Or.inl (contents_put_self _ _ _)
    · rename_i hcheck
      exact Or.inr ⟨by simpa using hnew, hcheck, contents_put_self _ _ _⟩

theorem contents_createIndex_of_ne (s : Store) {collection other : String} (index : Index)
    (h : collection ≠ other) :
    (s.createIndex collection index).2.contents other = s.contents other := by
  simp only [createIndex]
  split
  · exact contents_put_of_ne _ _ h
  · split <;> exact contents_put_of_ne _ _ h

theorem contents_after_of_ne (s : Store) (step : Step) {other : String}
    (h : step.collection ≠ other) : (s.after step).contents other = s.contents other := by
  cases step with
  | insert collection added =>
      exact contents_insert_of_ne s added h
  | update collection filter set =>
      exact contents_update_of_ne s filter set h
  | delete collection filter =>
      exact contents_delete_of_ne s filter h
  | createIndex collection index =>
      exact contents_createIndex_of_ne s index h
  | drop collection =>
      exact contents_drop_of_ne s h

end Store

/-!
# Changes
-/

namespace Contents

/-- What a write can make of the contents of a collection. -/
inductive Change (collection : String) (c : Contents) : Contents → Prop where
  | none : Change collection c c
  | insert (serial : Nat) (added : List Document)
      (hcheck : Uniqueness.check collection c.indexes
        (c.documents ++ Store.withIds serial added) = .ok ()) :
      Change collection c { c with documents := c.documents ++ Store.withIds serial added }
  | update (filter set : Document) (documents : List Document) (n : Nat)
      (hset : Store.updateAll filter set c.documents = .ok (documents, n))
      (hcheck : Uniqueness.check collection c.indexes documents = .ok ()) :
      Change collection c { c with documents }
  | delete (filter : Document) (documents : List Document) (n : Nat)
      (hremove : Store.removeAll filter c.documents = .ok (documents, n)) :
      Change collection c { c with documents }
  | createIndex (index : Index)
      (hnew : ∀ installed ∈ c.indexes, installed.name ≠ index.name)
      (hcheck : Uniqueness.check collection [index] c.documents = .ok ()) :
      Change collection c { c with indexes := c.indexes ++ [index] }
  | drop : Change collection c {}

end Contents

namespace Store

open Contents (Change)
open Outcome

theorem change_after_self (s : Store) (step : Step) :
    Change step.collection (s.contents step.collection)
      ((s.after step).contents step.collection) := by
  cases step with
  | insert collection added =>
      rcases contents_insert s collection added with h | ⟨hcheck, h⟩
      · exact h ▸ Change.none
      · exact h ▸ Change.insert s.serial added hcheck
  | update collection filter set =>
      rcases contents_update s collection filter set with h | ⟨documents, n, hset, hcheck, h⟩
      · exact h ▸ Change.none
      · exact h ▸ Change.update filter set documents n hset hcheck
  | delete collection filter =>
      rcases contents_delete s collection filter with h | ⟨documents, n, hremove, h⟩
      · exact h ▸ Change.none
      · exact h ▸ Change.delete filter documents n hremove
  | createIndex collection index =>
      rcases contents_createIndex s collection index with h | ⟨hnew, hcheck, h⟩
      · exact h ▸ Change.none
      · exact h ▸ Change.createIndex index hnew hcheck
  | drop collection =>
      have h : (s.drop collection).contents collection = {} := contents_drop_self s collection
      exact h ▸ Change.drop

/-- Every step makes such a change to every collection. -/
theorem change_after (s : Store) (step : Step) (collection : String) :
    Change collection (s.contents collection) ((s.after step).contents collection) := by
  by_cases h : step.collection = collection
  · exact h ▸ change_after_self s step
  · rw [contents_after_of_ne s step h]
    exact Change.none

/-- What holds of the contents of a collection is kept by a run when every change keeps it. -/
theorem run_induction {collection : String} {p : Contents → Prop}
    (hchange : ∀ {c c' : Contents}, p c → Change collection c c' → p c') (s : Store)
    (hstart : p (s.contents collection)) (steps : List Step) :
    p ((s.run steps).contents collection) := by
  induction steps generalizing s with
  | nil =>
      exact hstart
  | cons step rest ih =>
      exact ih (s.after step) (hchange hstart (change_after s step collection))

/-!
# Documents of a change
-/

theorem updateAll_forall₂ {filter set : Document} {documents updated : List Document} {n : Nat}
    (h : updateAll filter set documents = .ok (updated, n)) :
    List.Forall₂ (fun d d' => ∃ matched, Selector.matches? filter d = .ok matched ∧
      d' = if matched then Keyed.insertAll d set else d) documents updated := by
  induction documents generalizing updated n with
  | nil =>
      cases h
      exact List.Forall₂.nil
  | cons d rest ih =>
      simp only [updateAll, bind_eq_ok, pure_eq_ok] at h
      rcases h with ⟨matched, hmatched, ⟨others, m⟩, hothers, h⟩
      cases matched with
      | false =>
          cases h
          exact List.Forall₂.cons ⟨false, hmatched, rfl⟩ (ih hothers)
      | true =>
          cases h
          exact List.Forall₂.cons ⟨true, hmatched, rfl⟩ (ih hothers)

theorem forall_mem_updateAll {p : Document → Prop} {filter set : Document}
    {documents updated : List Document} {n : Nat}
    (h : updateAll filter set documents = .ok (updated, n))
    (hset : ∀ d, p d → p (Keyed.insertAll d set)) (hdocuments : ∀ d ∈ documents, p d) :
    ∀ d ∈ updated, p d := by
  have hpairs := updateAll_forall₂ h
  clear h
  induction hpairs with
  | nil =>
      exact hdocuments
  | cons hfirst _ ih =>
      rw [List.forall_mem_cons] at hdocuments ⊢
      refine ⟨?_, ih hdocuments.2⟩
      rcases hfirst with ⟨matched, _, rfl⟩
      split
      · exact hset _ hdocuments.1
      · exact hdocuments.1

theorem forall_mem_withIds {p q : Document → Prop}
    (hid : ∀ serial d, p d → q (withId serial d)) {added : List Document}
    (h : ∀ d ∈ added, p d) (serial : Nat) : ∀ d ∈ withIds serial added, q d := by
  induction added generalizing serial with
  | nil =>
      exact fun _ hd => absurd hd List.not_mem_nil
  | cons d rest ih =>
      simp only [withIds, List.forall_mem_cons] at h ⊢
      exact ⟨hid serial d h.1, ih h.2 (serial + 1)⟩

theorem removeAll_sublist {filter : Document} {documents kept : List Document} {n : Nat}
    (h : removeAll filter documents = .ok (kept, n)) : kept.Sublist documents := by
  induction documents generalizing kept n with
  | nil =>
      cases h
      exact List.Sublist.refl []
  | cons d rest ih =>
      simp only [removeAll, bind_eq_ok, pure_eq_ok] at h
      rcases h with ⟨matched, _, ⟨others, m⟩, hothers, h⟩
      cases matched with
      | false =>
          cases h
          exact (ih hothers).cons_cons d
      | true =>
          cases h
          exact (ih hothers).cons d

section ForallDocuments

variable {p : Document → Prop} {s : Store} {collection : String}
  (h : ∀ d ∈ s.documents collection, p d)

include h

theorem forall_documents_insert {added : List Document}
    (hadded : ∀ d ∈ withIds s.serial added, p d) :
    ∀ d ∈ (s.insert collection added).2.documents collection, p d := by
  unfold documents at h ⊢
  rcases contents_insert s collection added with hsame | ⟨_, hnew⟩
  · rw [hsame]
    exact h
  · rw [hnew]
    exact List.forall_mem_append.mpr ⟨h, hadded⟩

theorem forall_documents_update (filter : Document) {set : Document}
    (hset : ∀ d, p d → p (Keyed.insertAll d set)) :
    ∀ d ∈ (s.update collection filter set).2.documents collection, p d := by
  unfold documents at h ⊢
  rcases contents_update s collection filter set with hsame | ⟨documents, n, hall, _, hnew⟩
  · rw [hsame]
    exact h
  · rw [hnew]
    exact forall_mem_updateAll hall hset h

theorem forall_documents_delete (filter : Document) :
    ∀ d ∈ (s.delete collection filter).2.documents collection, p d := by
  unfold documents at h ⊢
  rcases contents_delete s collection filter with hsame | ⟨documents, n, hall, hnew⟩
  · rw [hsame]
    exact h
  · rw [hnew]
    exact fun d hd => h d ((removeAll_sublist hall).subset hd)

theorem forall_documents_createIndex (index : Index) :
    ∀ d ∈ (s.createIndex collection index).2.documents collection, p d := by
  unfold documents at h ⊢
  rcases contents_createIndex s collection index with hsame | ⟨_, _, hnew⟩
  · rw [hsame]
    exact h
  · rw [hnew]
    exact h

end ForallDocuments

end Store
end DocQuery
