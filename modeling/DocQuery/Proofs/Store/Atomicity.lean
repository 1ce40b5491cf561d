import DocQuery.Collection.Program
import DocQuery.Proofs.Store.Change
import DocQuery.Proofs.Store.Matching

/-!
# Writes as a whole

A write either gives one collection the contents that were asked for, or says
why it cannot and leaves all collections as they were.  Whatever request is sent
to the store, when it fails no document has been added, changed or lost, and no
index either.
-/

namespace DocQuery
namespace Store

open Selector (select Decides takes untaken)

/-!
# Stores that are alike
-/

def Unchanged (s after : Store) : Prop :=
  ∀ collection, after.contents collection = s.contents collection

/-- One collection has new contents, and the others have kept theirs. -/
structure Replaced (s : Store) (collection : String) (c : Contents) (after : Store) : Prop where
  self : after.contents collection = c
  others : ∀ other, collection ≠ other → after.contents other = s.contents other

/-- A computation that succeeds with a described result, or fails for a described reason and
changes nothing. -/
structure AllOrNothing (s : Store) (p : α → Store → Prop) (q : Error → Prop)
    (outcome : Except Error α × Store) : Prop where
  ok : ∀ {a}, outcome.1 = .ok a → p a outcome.2
  refused : ∀ {e}, outcome.1 = .error e → q e
  unchanged : ∀ {e}, outcome.1 = .error e → s.Unchanged outcome.2

theorem Unchanged.replaced_put {s before : Store} (h : s.Unchanged before) (collection : String)
    (c : Contents) : s.Replaced collection c (before.put collection c) where
  self := contents_put_self before collection c
  others other hother := (contents_put_of_ne before c hother).trans (h other)

theorem Replaced.unchanged {s after : Store} {collection : String}
    (h : s.Replaced collection (s.contents collection) after) : s.Unchanged after := by
  intro other
  by_cases hother : collection = other
  · exact hother ▸ h.self
  · exact h.others other hother

theorem Replaced.documents {s after : Store} {collection : String} {c : Contents}
    (h : s.Replaced collection c after) : after.documents collection = c.documents :=
  congrArg Contents.documents h.self

theorem AllOrNothing.of_ok {s after : Store} {p : α → Store → Prop} {q : Error → Prop} {a : α}
    (h : p a after) : s.AllOrNothing p q (.ok a, after) where
  ok ha := Except.ok.inj ha ▸ h
  refused he := nomatch he
  unchanged he := nomatch he

theorem AllOrNothing.of_error {s after : Store} {p : α → Store → Prop} {q : Error → Prop}
    {e : Error} (h : s.Unchanged after) (he : q e) : s.AllOrNothing p q (.error e, after) where
  ok ha := nomatch ha
  refused heq := Except.error.inj heq ▸ he
  unchanged _ := h

/-!
# Reasons to fail
-/

/-- On some document the filter leads to no verdict. -/
def Undecided (s : Store) (collection : String) (filter : Document) (e : Error) : Prop :=
  ∃ fault, select filter (s.documents collection) = .error fault ∧ e = .criteria fault

/-- Documents that would result from a write repeat a key. -/
def Repeats (collection : String) (indexes : List Index) (documents : List Document) (e : Error) :
    Prop :=
  ∃ fault, Uniqueness.check collection indexes documents = .error fault ∧ e = .storage fault

/-!
# Writes
-/

theorem insert_allOrNothing (s : Store) (collection : String) (added : List Document) :
    s.AllOrNothing
      (fun ids after =>
        ids = Uniqueness.idsOf (withIds s.serial added) ∧
          Uniqueness.check collection (s.indexes collection)
              (s.documents collection ++ withIds s.serial added) = .ok () ∧
            s.Replaced collection
              { s.contents collection with
                documents := s.documents collection ++ withIds s.serial added } after)
      (Repeats collection (s.indexes collection)
        (s.documents collection ++ withIds s.serial added))
      (s.insert collection added) := by
  have hserial : s.Unchanged { s with serial := s.serial + added.length } := fun _ => rfl
  simp only [insert]
  split
  · rename_i fault hcheck
    exact .of_error (hserial.replaced_put collection _).unchanged ⟨fault, hcheck, rfl⟩
  · rename_i hcheck
    exact .of_ok ⟨rfl, hcheck, hserial.replaced_put collection _⟩

theorem update_allOrNothing (s : Store) (collection : String) (filter set : Document) :
    s.AllOrNothing
      (fun a after =>
        a.acknowledged = true ∧ Decides filter (s.documents collection) ∧
          s.Replaced collection
            { s.contents collection with
              documents := (s.documents collection).map fun d =>
                if takes filter d then Keyed.insertAll d set else d } after)
      (fun e => s.Undecided collection filter e ∨
        Repeats collection (s.indexes collection)
          ((s.documents collection).map fun d =>
            if takes filter d then Keyed.insertAll d set else d) e)
      (s.update collection filter set) := by
  have hsame : s.Unchanged s := fun _ => rfl
  simp only [update]
  split
  · rename_i hnone
    have hempty : s.contents collection = {} := by
      simp [contents, hnone]
    refine .of_ok ⟨rfl, ?_, ?_, fun _ _ => rfl⟩ <;> simp [Decides, documents, hempty]
  · rename_i c hc
    have hcontents := contents_of_contents? hc
    simp only [Undecided, documents, indexes, hcontents]
    split
    · rename_i fault hset
      exact .of_error hsame (Or.inl ⟨fault, Selector.updateAll_eq_error hset, rfl⟩)
    · rename_i updated n hset
      rcases Selector.updateAll_eq_ok hset with ⟨hdecides, rfl⟩
      split
      · rename_i fault hcheck
        exact .of_error hsame (Or.inr ⟨fault, hcheck, rfl⟩)
      · exact .of_ok ⟨rfl, hdecides, hsame.replaced_put collection _⟩

theorem delete_allOrNothing (s : Store) (collection : String) (filter : Document) :
    s.AllOrNothing
      (fun a after =>
        a.acknowledged = true ∧ Decides filter (s.documents collection) ∧
          s.Replaced collection
            { s.contents collection with
              documents := untaken filter (s.documents collection) } after)
      (s.Undecided collection filter)
      (s.delete collection filter) := by
  have hsame : s.Unchanged s := fun _ => rfl
  simp only [delete]
  split
  · rename_i hnone
    have hempty : s.contents collection = {} := by
      simp [contents, hnone]
    refine .of_ok ⟨rfl, ?_, ?_, fun _ _ => rfl⟩ <;> simp [Decides, untaken, documents, hempty]
  · rename_i c hc
    have hcontents := contents_of_contents? hc
    simp only [documents, hcontents]
    split
    · rename_i fault hremove
      refine .of_error hsame ⟨fault, ?_, rfl⟩
      rw [documents, hcontents]
      exact Selector.removeAll_eq_error hremove
    · rename_i kept n hremove
      rcases Selector.removeAll_eq_ok hremove with ⟨hdecides, rfl⟩
      exact .of_ok ⟨rfl, hdecides, hsame.replaced_put collection _⟩

theorem createIndex_allOrNothing (s : Store) (collection : String) (index : Index) :
    s.AllOrNothing
      (fun _ after =>
        s.Unchanged after ∨
          s.Replaced collection
            { s.contents collection with
              indexes := s.indexes collection ++ [index] } after)
      (Repeats collection [index] (s.documents collection))
      (s.createIndex collection index) := by
  have hsame : s.Unchanged s := fun _ => rfl
  simp only [createIndex]
  split
  · exact .of_ok (Or.inl (hsame.replaced_put collection _).unchanged)
  · split
    · rename_i fault hcheck
      exact .of_error (hsame.replaced_put collection _).unchanged ⟨fault, hcheck, rfl⟩
    · exact .of_ok (Or.inr (hsame.replaced_put collection _))

end Store

/-!
# Requests
-/

namespace Store

/-- Whatever is asked, the collection changes in one of the ways of writes, if at all. -/
theorem change_answer (s : Store) (collection : String) (r : Request) :
    Contents.Change collection (s.contents collection)
      ((answer collection s r).2.contents collection) := by
  cases r with
  | insert documents =>
      exact change_after_self s (.insert collection documents)
  | update filter set =>
      exact change_after_self s (.update collection filter set)
  | delete filter =>
      exact change_after_self s (.delete collection filter)
  | createIndex index =>
      exact change_after_self s (.createIndex collection index)
  | query filter options | stream filter options | aggregate pipeline | count filter =>
      exact Contents.Change.none

end Store

/-!
# Requests that fail
-/

/-- A request fails with an error, and a stream also when it breaks off with one. -/
def Request.fails : (r : Request) → r.Answer → Bool
  | stream _ _, .ok feed => feed.error?.isSome
  | _, .ok _ => false
  | _, .error _ => true

namespace Store

theorem unchanged_of_eq_error {s : Store} {collection : String} {r : Request} {e : Error}
    (h : (answer collection s r).1 = .error e) : s.Unchanged (answer collection s r).2 := by
  cases r with
  | insert documents =>
      exact (insert_allOrNothing s collection documents).unchanged h
  | update filter set =>
      exact (update_allOrNothing s collection filter set).unchanged h
  | delete filter =>
      exact (delete_allOrNothing s collection filter).unchanged h
  | createIndex index =>
      exact (createIndex_allOrNothing s collection index).unchanged h
  | query filter options | stream filter options | aggregate pipeline | count filter =>
      exact fun _ => rfl

/-- A request that fails leaves all documents and indexes as they were, in every collection. -/
theorem documents_indexes_of_fails {s : Store} {collection : String} {r : Request}
    (h : r.fails (answer collection s r).1 = true) (other : String) :
    (answer collection s r).2.documents other = s.documents other ∧
      (answer collection s r).2.indexes other = s.indexes other := by
  have hsame : s.Unchanged (answer collection s r).2 := by
    cases hresult : (answer collection s r).1 with
    | error e =>
        exact unchanged_of_eq_error hresult
    | ok reply =>
        -- Only a stream can fail after it was opened, and reading it changes nothing.
        rw [hresult] at h
        cases r with
        | stream filter options =>
            exact fun _ => rfl
        | _ =>
            cases h
  exact ⟨congrArg Contents.documents (hsame other), congrArg Contents.indexes (hsame other)⟩

def tagged : Store :=
  ⟨[("pets", { documents :=
      [[(storedIdField, .string "a"), ("name", .string "Ada")],
        [(storedIdField, .string "b"), ("tag", .string "new")]] })], 0⟩

/-- The first document is to be renamed before the filter is seen to be no filter. -/
def newName : Request :=
  .update
    [("$or", .array
      [.document [("name", .string "Ada")],
        .document [("tag", .document [("$near", .null)])]])]
    [("name", .string "Eve")]

theorem documents_indexes_of_fails_newName :
    newName.fails (answer "pets" tagged newName).1 = true ∧
      (answer "pets" tagged newName).2.documents "pets" = tagged.documents "pets" := by
  have hfails : newName.fails (answer "pets" tagged newName).1 = true := by
    decide +kernel
  exact ⟨hfails, (documents_indexes_of_fails hfails "pets").1⟩

end Store
end DocQuery
