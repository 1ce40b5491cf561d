import DocQuery.Proofs.Collection.History
import DocQuery.Proofs.Collection.ReadBack
import DocQuery.Proofs.Store.Uniqueness

/-!
# Inserting

A collection reads its new documents back by their identifiers, and brings them
into order by the texts of these.  It may read documents that it did not write.
They have identifiers of their own, and so have texts of their own, and none of
them is picked.
-/

namespace DocQuery
namespace Collection

open Outcome
open Program
open Uniqueness (idsOf)

/-- What is stored for given values: they are encoded, and without an identifier of their own
they get a new one in front. -/
inductive StoredAs (schema : Schema) (values : Document) : Document → Prop where
  | own {encoded : Document} (hencode : schema.encode values = .ok encoded)
      (hid : Keyed.contains encoded storedIdField = true) : StoredAs schema values encoded
  | numbered {encoded : Document} (id : ObjectId) (hencode : schema.encode values = .ok encoded)
      (hid : Keyed.contains encoded storedIdField = false) :
      StoredAs schema values ((storedIdField, .objectId id) :: encoded)

/-- What it comes to when a batch has been inserted. -/
structure Inserted (c : Collection) (batch : List Document) (s : Store)
    (stored rows : List Document) (after : Store) : Prop where
  storedAs : List.Forall₂ (StoredAs c.schema) batch stored
  added : s.Replaced c.identity
    { s.contents c.identity with documents := s.documents c.identity ++ stored } after
  length : rows.length = batch.length
  rows : rows = stored.map c.schema.decode

inductive InsertRefused (c : Collection) (batch : List Document) (s : Store) : Error → Prop where
  | unencoded {e : Error} (h : encodeAll c.schema batch = .error e) : InsertRefused c batch s e
  | repeated {encoded : List Document} {e : Error}
      (hencoded : encodeAll c.schema batch = .ok encoded)
      (h : Store.Repeats c.identity (s.indexes c.identity)
        (s.documents c.identity ++ Store.withIds s.serial encoded) e) : InsertRefused c batch s e

/-!
# The documents written
-/

theorem encodeAll_forall₂ {schema : Schema} {batch encoded : List Document}
    (h : encodeAll schema batch = .ok encoded) :
    List.Forall₂ (fun values d => schema.encode values = .ok d) batch encoded := by
  induction batch generalizing encoded with
  | nil =>
      cases h
      exact List.Forall₂.nil
  | cons values rest ih =>
      simp only [encodeAll, bind_eq_ok, pure_eq_ok] at h
      rcases h with ⟨first, hfirst, others, hothers, rfl⟩
      exact List.Forall₂.cons hfirst (ih hothers)

theorem storedAs_withId {schema : Schema} {values encoded : Document}
    (hencode : schema.encode values = .ok encoded) (serial : Nat) :
    StoredAs schema values (Store.withId serial encoded) := by
  unfold Store.withId
  split
  · rename_i hid
    exact StoredAs.own hencode hid
  · rename_i hid
    exact StoredAs.numbered (ObjectId.ofSerial serial) hencode (Bool.not_eq_true _ ▸ hid)

theorem storedAs_withIds {schema : Schema} {batch encoded : List Document}
    (h : List.Forall₂ (fun values d => schema.encode values = .ok d) batch encoded)
    (serial : Nat) : List.Forall₂ (StoredAs schema) batch (Store.withIds serial encoded) := by
  induction h generalizing serial with
  | nil =>
      exact List.Forall₂.nil
  | cons hfirst _ ih =>
      exact List.Forall₂.cons (storedAs_withId hfirst serial) (ih (serial + 1))

/-!
# Picking documents
-/

theorem isReference_of_mem_idsOf {documents : List Document} (h : Referenced documents)
    {id : Value} (hid : id ∈ idsOf documents) : id.IsReference := by
  rcases List.mem_filterMap.mp hid with ⟨d, hd, hget⟩
  rcases h d hd with ⟨other, hother, hreference⟩
  cases hget.symm.trans hother
  exact hreference

theorem nodup_shown_idsOf {documents : List Document} (h : Referenced documents)
    (hdistinct : (idsOf documents).Nodup) : ((idsOf documents).map Value.shown).Nodup := by
  refine hdistinct.map_on ?_
  intro v hv w hw hshown
  exact Value.shown_inj (isReference_of_mem_idsOf h hv) (isReference_of_mem_idsOf h hw) hshown

theorem mem_byText {documents : List Document}
    (hshown : ((idsOf documents).map Value.shown).Nodup) {d : Document} {id : Value}
    (hd : d ∈ documents) (hid : Keyed.get? d storedIdField = some id) :
    (id.shown, d) ∈ byText documents := by
  have hkeys : Keyed.keys (documents.filterMap fun d =>
      (Keyed.get? d storedIdField).map fun id => (id.shown, d)) =
        (idsOf documents).map Value.shown := by
    rw [Keyed.keys, idsOf, List.map_filterMap, List.map_filterMap]
    refine List.filterMap_congr ?_
    intro d _
    cases Keyed.get? d storedIdField <;> rfl
  rw [byText, Keyed.ofList_of_nodup (by rw [hkeys]; exact hshown)]
  exact List.mem_filterMap.mpr ⟨d, hd, by rw [hid]; rfl⟩

theorem pick_of_mem {entries : Keyed Document} (hdistinct : (Keyed.keys entries).Nodup)
    {documents : List Document} (hshown : ((idsOf documents).map Value.shown).Nodup)
    (hentries : ∀ d ∈ documents, ∃ id, Keyed.get? d storedIdField = some id ∧
      (id.shown, d) ∈ entries) :
    pick entries (idsOf documents) = documents := by
  induction documents generalizing entries with
  | nil =>
      rfl
  | cons d rest ih =>
      rw [List.forall_mem_cons] at hentries
      rcases hentries with ⟨⟨id, hid, hentry⟩, hrest⟩
      have hfirst : idsOf (d :: rest) = id :: idsOf rest := List.filterMap_cons_some hid
      rw [hfirst, List.map_cons, List.nodup_cons] at hshown
      simp only [hfirst, pick, Keyed.get?_of_mem hdistinct hentry]
      -- Taking one document out leaves the others there, as their texts differ from its text.
      refine congrArg (d :: ·) (ih (Keyed.nodup_keys_erase hdistinct _) hshown.2 ?_)
      intro e he
      rcases hrest e he with ⟨other, hother, hmem⟩
      have hne : other.shown ≠ id.shown := by
        intro hsame
        exact hshown.1 (hsame ▸ List.mem_map_of_mem (List.mem_filterMap.mpr ⟨e, he, hother⟩))
      exact ⟨other, hother, List.mem_filter.mpr ⟨hmem, decide_eq_true hne⟩⟩

theorem pick_byText {found documents : List Document} (hreferenced : Referenced found)
    (hdistinct : (idsOf found).Nodup) (hsub : documents.Sublist found) :
    pick (byText found) (idsOf documents) = documents := by
  have hshown := nodup_shown_idsOf hreferenced hdistinct
  refine pick_of_mem (Keyed.nodup_keys_ofList _)
    (hshown.sublist ((hsub.filterMap _).map _)) ?_
  intro d hd
  rcases hreferenced d (hsub.subset hd) with ⟨id, hid, _⟩
  exact ⟨id, hid, mem_byText hshown (hsub.subset hd) hid⟩

/-!
# The documents read back
-/

theorem pick_added {documents added : List Document} (hreferenced : Referenced (documents ++ added))
    (hdistinct : (idsOf (documents ++ added)).Nodup) :
    pick (byText ((documents ++ added).filter (isAmong (idsOf added)))) (idsOf added) = added := by
  have hadded : Referenced added := fun d hd => hreferenced d (List.mem_append_right _ hd)
  have hsub : added.Sublist ((documents ++ added).filter (isAmong (idsOf added))) := by
    rw [List.filter_append, List.filter_eq_self.mpr fun d hd => isAmong_idsOf hadded hd]
    exact List.sublist_append_right _ _
  refine pick_byText ?_ (hdistinct.sublist (List.filter_sublist.filterMap _)) hsub
  exact fun d hd => hreferenced d (List.mem_of_mem_filter hd)

/-- A list answers for the identifier in it.  It is read back too, and is not picked. -/
example :
    let listed : Document := [(storedIdField, .array [.objectId (ObjectId.ofSerial 1)])]
    let single : Document := [(storedIdField, .objectId (ObjectId.ofSerial 1))]
    let found := [listed, single].filter (isAmong (idsOf [single]))
    found = [listed, single] ∧ pick (byText found) (idsOf [single]) = [single] := by
  decide +kernel

theorem insertMany_allOrNothing (c : Collection) (batch : List Document) (s : Store)
    (hstored : s.Holds Schema.untyped c.identity) :
    s.AllOrNothing (fun rows after => ∃ stored, Inserted c batch s stored rows after)
      (InsertRefused c batch s)
      ((c.insertMany batch).run (Store.answer c.identity) s) := by
  unfold insertMany
  split
  · rename_i hempty
    rw [List.isEmpty_iff.mp hempty]
    refine .of_ok ⟨[], List.Forall₂.nil, ?_, rfl, rfl⟩
    rw [List.append_nil]
    exact ⟨rfl, fun _ _ => rfl⟩
  · refine allOrNothing_ofExcept (fun _ => InsertRefused.unencoded) ?_
    intro encoded hencoded
    refine allOrNothing_write (s.insert_allOrNothing c.identity encoded)
      (fun _ => InsertRefused.repeated hencoded) ?_
    rintro _ after ⟨rfl, hcheck, hafter⟩
    have hadded : ∀ d ∈ Store.withIds s.serial encoded, Schema.untyped.StoredDocument d :=
      Store.forall_mem_withIds (fun serial _ hd => Schema.StoredDocument.withId hd serial)
        (fun d hd => (storedFields_encodeAll hencoded d hd).untyped) s.serial
    -- Old documents may have been written under other schemas than the new ones.
    have hreferenced :
        Referenced (s.documents c.identity ++ Store.withIds s.serial encoded) := by
      intro d hd
      rcases List.mem_append.mp hd with hd | hd
      · exact (hstored d hd).reference
      · exact (hadded d hd).reference
    have hdocuments : after.documents c.identity =
        s.documents c.identity ++ Store.withIds s.serial encoded :=
      hafter.documents
    have hpick := pick_added hreferenced (Uniqueness.nodup_idsOf_of_check hcheck)
    have hbatch := storedAs_withIds (encodeAll_forall₂ hencoded) s.serial
    refine ⟨_, run_readBack _ after, Store.withIds s.serial encoded, hbatch, hafter, ?_, ?_⟩
    · rw [hdocuments, hpick, List.length_map, hbatch.length_eq]
    · rw [hdocuments, hpick]

/-- In every store that calls of collections lead to: inserting a batch gives back one document
for each of it, in its order, decoded from what was stored for it, and these are behind the
documents that were there, which are as they were.  Otherwise a document cannot be encoded or a
key would be repeated, and no collection has changed. -/
theorem inserted_or_unchanged (c : Collection) (batch : List Document) (serial : Nat)
    (calls : List (Collection × Operation)) :
    (performAll ⟨[], serial⟩ calls).AllOrNothing
      (fun rows after =>
        ∃ stored, Inserted c batch (performAll ⟨[], serial⟩ calls) stored rows after)
      (InsertRefused c batch (performAll ⟨[], serial⟩ calls))
      ((c.insertMany batch).run (Store.answer c.identity) (performAll ⟨[], serial⟩ calls)) := by
  have hstart : (⟨[], serial⟩ : Store).Holds Schema.untyped c.identity :=
    fun _ hd => absurd hd List.not_mem_nil
  exact insertMany_allOrNothing c batch _ (holds_untyped_performAll hstart calls)

end Collection
end DocQuery
