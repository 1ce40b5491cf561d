import DocQuery.Proofs.Collection.Runs
import DocQuery.Proofs.Query.Verdict
import DocQuery.Proofs.Value.Sameness
import DocQuery.Proofs.Value.Shown

/-!
# Reading documents back

After a write, a collection asks the store for the documents with certain
identifiers.  The question always has an answer.  It may be too long: a list of
identifiers also answers for each of its items.
-/

namespace DocQuery

open Selector (equals)

/-!
# Identifiers in filters
-/

theorem lookup?_storedIdField (d : Document) :
    d.lookup? storedIdField = Keyed.get? d storedIdField := by
  have hsteps : pathSteps storedIdField = [storedIdField] := by
    decide
  rw [Document.lookup?, hsteps]
  rfl

namespace Selector

theorem equals_objectId (id other : ObjectId) :
    equals (some (.objectId id)) (.objectId other) = decide (id = other) := by
  simp [equals, Value.canonical, Canonical.same]

theorem equals_of_isReference {v : Value} (h : v.IsReference) : equals (some v) v = true := by
  have hsame : v.Same v := Value.same_of_isReference h
  cases h <;> exact hsame

end Selector

namespace Collection

open Program

/-- One of the identifiers is the one of a document, or stands in it when it is a list. -/
def isAmong (ids : List Value) (d : Document) : Bool :=
  ids.any (equals (Keyed.get? d storedIdField))

theorem matches?_byIdentifiers (ids : List Value) (d : Document) :
    Selector.matches? (byIdentifiers ids) d = .ok (isAmong ids d) := by
  rw [Selector.matches?, byIdentifiers, Selector.entries_field (by decide),
    Selector.condition_single (by decide) (by decide) (by decide), lookup?_storedIdField]
  rfl

theorem select_byIdentifiers (ids : List Value) (documents : List Document) :
    Selector.select (byIdentifiers ids) documents = .ok (documents.filter (isAmong ids)) := by
  have htakes : Selector.takes (byIdentifiers ids) = isAmong ids :=
    funext fun d => Selector.takes_of_matches? (matches?_byIdentifiers ids d)
  refine Selector.select_eq_ok_iff.mpr ⟨?_, ?_⟩
  · intro d _
    rw [matches?_byIdentifiers, htakes]
  · rw [Selector.taken, htakes]

theorem run_readBack {collection : String} {ids : List Value} (f : List Document → Program α)
    (s : Store) :
    run (Store.answer collection) (call (.query (byIdentifiers ids) {}) >>= f) s =
      run (Store.answer collection) (f ((s.documents collection).filter (isAmong ids))) s := by
  have hquery : s.query collection (byIdentifiers ids) {} =
      .ok ((s.documents collection).filter (isAmong ids)) := by
    rw [Store.query_plain, select_byIdentifiers]
    rfl
  rw [run_call_seq]
  simp only [Store.answer, hquery]

/-!
# Documents with references
-/

/-- Each document has a reference for an identifier. -/
def Referenced (documents : List Document) : Prop :=
  ∀ d ∈ documents, ∃ id, Keyed.get? d storedIdField = some id ∧ id.IsReference

theorem isAmong_idsOf {documents : List Document} (h : Referenced documents) {d : Document}
    (hd : d ∈ documents) : isAmong (Uniqueness.idsOf documents) d = true := by
  rcases h d hd with ⟨id, hid, hreference⟩
  rw [isAmong, hid, List.any_eq_true]
  exact ⟨id, List.mem_filterMap.mpr ⟨d, hd, hid⟩, Selector.equals_of_isReference hreference⟩

/-!
# Object identifiers

Where all identifiers are object identifiers and no two documents share one, a
document is read back exactly when its own identifier was asked for.
-/

theorem isAmong_congr {ids : List Value} {d d' : Document}
    (h : Keyed.get? d storedIdField = Keyed.get? d' storedIdField) :
    isAmong ids d = isAmong ids d' := by
  rw [isAmong, isAmong, h]

theorem filter_isAmong_idsOf {documents : List Document} (p : Document → Bool)
    (hids : ∀ d ∈ documents, ∃ id, Keyed.get? d storedIdField = some (.objectId id))
    (hdistinct : (documents.map fun d => Keyed.get? d storedIdField).Nodup) :
    documents.filter (isAmong (Uniqueness.idsOf (documents.filter p))) = documents.filter p := by
  have hreferenced : Referenced (documents.filter p) := by
    intro d hd
    rcases hids d (List.mem_of_mem_filter hd) with ⟨id, hid⟩
    exact ⟨.objectId id, hid, Value.IsReference.objectId id⟩
  refine List.filter_congr ?_
  intro d hd
  rw [Bool.eq_iff_iff]
  constructor
  · intro hamong
    rcases hids d hd with ⟨id, hid⟩
    rw [isAmong, List.any_eq_true, hid] at hamong
    rcases hamong with ⟨v, hv, hequal⟩
    rcases List.mem_filterMap.mp hv with ⟨e, he, hev⟩
    rcases List.mem_filter.mp he with ⟨hedocuments, hp⟩
    rcases hids e hedocuments with ⟨other, hother⟩
    cases hev.symm.trans hother
    rw [Selector.equals_objectId, decide_eq_true_eq] at hequal
    have hsame : d = e := List.inj_on_of_nodup_map hdistinct hd hedocuments (by
      rw [hid, hother, hequal])
    exact hsame ▸ hp
  · intro hp
    exact isAmong_idsOf hreferenced (List.mem_filter.mpr ⟨hd, hp⟩)

end Collection
end DocQuery
