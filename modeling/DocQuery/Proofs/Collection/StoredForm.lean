import DocQuery.Proofs.Collection.Requests
import DocQuery.Proofs.Schema.StoredForm
import DocQuery.Proofs.Store.Change

/-!
# Stored form under writes

The writes of a collection send to the store only what has been encoded.  So
every document that they lead to is in its stored form, and can be decoded
without losing a field.
-/

namespace DocQuery

open Outcome

namespace Schema

/-- A stored document: its fields are in their stored form, and one of them identifies it. -/
structure StoredDocument (s : Schema) (d : Document) : Prop where
  fields : s.StoredFields d
  identified : Keyed.contains d storedIdField = true

theorem StoredDocument.withId {s : Schema} {d : Document} (h : s.StoredFields d)
    (serial : Nat) : s.StoredDocument (Store.withId serial d) := by
  unfold Store.withId
  split
  · rename_i hid
    exact ⟨h, hid⟩
  · rename_i hid
    refine ⟨⟨?_, ?_⟩, by simp [Keyed.contains, Keyed.get?]⟩
    · have hnew : storedIdField ∉ Keyed.keys d := by
        rw [← Keyed.contains_iff_mem_keys]
        exact hid
      exact List.nodup_cons.mpr ⟨hnew, h.distinct⟩
    · rw [List.forall_mem_cons]
      exact ⟨storedEntry_id (Or.inl ⟨_, rfl⟩), h.entries⟩

theorem StoredDocument.insertAll {s : Schema} {d set : Document} (h : s.StoredDocument d)
    (hset : s.StoredFields set) : s.StoredDocument (Keyed.insertAll d set) where
  fields := h.fields.insertAll hset.entries
  identified := Keyed.contains_insertAll h.identified set

end Schema

/-!
# Requests that carry encoded documents
-/

/-- Documents and fields to be written are in their stored form. -/
def Request.Encoded (s : Schema) : Request → Prop
  | insert documents => ∀ d ∈ documents, s.StoredFields d
  | update _ set => s.StoredFields set
  | _ => True

namespace Store

def Holds (schema : Schema) (collection : String) (s : Store) : Prop :=
  ∀ d ∈ (s.contents collection).documents, schema.StoredDocument d

theorem holds_insert {schema : Schema} {collection : String} {s : Store}
    (h : s.Holds schema collection) {added : List Document}
    (hadded : ∀ d ∈ added, schema.StoredFields d) :
    (s.insert collection added).2.Holds schema collection :=
  forall_documents_insert h
    (forall_mem_withIds (fun serial _ hd => Schema.StoredDocument.withId hd serial) hadded s.serial)

theorem holds_update {schema : Schema} {collection : String} {s : Store}
    (h : s.Holds schema collection) (filter : Document) {set : Document}
    (hset : schema.StoredFields set) :
    (s.update collection filter set).2.Holds schema collection :=
  forall_documents_update h filter fun _ hd => hd.insertAll hset

theorem holds_delete {schema : Schema} {collection : String} {s : Store}
    (h : s.Holds schema collection) (filter : Document) :
    (s.delete collection filter).2.Holds schema collection :=
  forall_documents_delete h filter

theorem holds_createIndex {schema : Schema} {collection : String} {s : Store}
    (h : s.Holds schema collection) (index : Index) :
    (s.createIndex collection index).2.Holds schema collection :=
  forall_documents_createIndex h index

theorem holds_answer {schema : Schema} {collection : String} (s : Store) (r : Request)
    (h : s.Holds schema collection) (hr : r.Encoded schema) :
    (Store.answer collection s r).2.Holds schema collection := by
  cases r with
  | insert documents =>
      exact holds_insert h hr
  | update filter set =>
      exact holds_update h filter hr
  | delete filter =>
      exact holds_delete h filter
  | createIndex index =>
      exact holds_createIndex h index
  | query filter options | stream filter options | aggregate pipeline | count filter =>
      exact h

end Store

/-!
# Writes of a collection
-/

namespace Collection

open Program

theorem storedFields_encodeAll {schema : Schema} {batch encoded : List Document}
    (h : encodeAll schema batch = .ok encoded) : ∀ d ∈ encoded, schema.StoredFields d := by
  induction batch generalizing encoded with
  | nil =>
      cases h
      exact fun _ hd => absurd hd List.not_mem_nil
  | cons d rest ih =>
      simp only [encodeAll, bind_eq_ok, pure_eq_ok] at h
      rcases h with ⟨first, hfirst, others, hothers, rfl⟩
      rw [List.forall_mem_cons]
      exact ⟨Schema.storedFields_encode hfirst, ih hothers⟩

section Sends

variable {p : Request → Prop} (hquery : ∀ filter options, p (.query filter options))

include hquery

theorem sends_insertMany (c : Collection) (batch : List Document)
    (hinsert : ∀ encoded, encodeAll c.schema batch = .ok encoded → p (.insert encoded)) :
    Sends p (c.insertMany batch) := by
  unfold insertMany
  split
  · exact sends_pure _
  · refine sends_ofExcept_bind ?_
    intro encoded hencoded
    refine sends_bind (sends_call (hinsert encoded hencoded)) ?_
    intro ids
    refine sends_bind (sends_call (hquery _ _)) ?_
    intro stored
    exact sends_pure _

theorem sends_insert (c : Collection) (values : Document)
    (hinsert : ∀ encoded, encodeAll c.schema [values] = .ok encoded → p (.insert encoded)) :
    Sends p (c.insert values) := by
  refine sends_bind (sends_insertMany hquery c [values] hinsert) ?_
  intro inserted
  split
  · exact sends_pure _
  · exact sends_fail _

theorem sends_captureIds (filter : Document) : Sends p (captureIds filter) := by
  refine sends_bind (sends_call (hquery _ _)) ?_
  intro found
  exact sends_pure _

omit hquery in
theorem sends_ensure (operation : String) (a : Acknowledgement) :
    Sends p (ensure operation a) := by
  unfold ensure
  split
  · exact sends_pure _
  · exact sends_fail _

omit hquery in
theorem sends_writeSet (filter : Document) {set : Document}
    (hupdate : p (.update filter set)) : Sends p (writeSet filter set) := by
  unfold writeSet
  split
  · exact sends_pure _
  · exact sends_bind (sends_call hupdate) (sends_ensure "update")

theorem sends_update (c : Collection) (condition : Option Condition) (values : Document)
    (hupdate : ∀ filter encoded, c.schema.encode values = .ok encoded →
      p (.update filter (Keyed.erase encoded storedIdField))) :
    Sends p (c.update condition values) := by
  refine sends_ofExcept_bind ?_
  intro filter _
  refine sends_ofExcept_bind ?_
  intro encoded hencoded
  refine sends_bind (sends_captureIds hquery filter) ?_
  intro ids
  split
  · exact sends_pure _
  · refine sends_bind (sends_writeSet filter (hupdate filter encoded hencoded)) ?_
    intro _
    refine sends_bind (sends_call (hquery _ _)) ?_
    intro documents
    exact sends_pure _

theorem sends_destroy (c : Collection) (condition : Option Condition)
    (hdelete : ∀ filter, p (.delete filter)) : Sends p (c.destroy condition) := by
  refine sends_ofExcept_bind ?_
  intro filter _
  refine sends_bind (sends_captureIds hquery filter) ?_
  intro ids
  split
  · exact sends_pure _
  · refine sends_bind (sends_call (hdelete filter)) ?_
    intro a
    refine sends_bind (sends_ensure "destroy" a) ?_
    intro _
    exact sends_pure _

end Sends

/-!
# Runs
-/

inductive Write where
  | insert (values : Document)
  | insertMany (batch : List Document)
  | update (condition : Option Condition) (values : Document)
  | destroy (condition : Option Condition)

def after (c : Collection) (s : Store) : Write → Store
  | .insert values => ((c.insert values).run (Store.answer c.identity) s).2
  | .insertMany batch => ((c.insertMany batch).run (Store.answer c.identity) s).2
  | .update condition values => ((c.update condition values).run (Store.answer c.identity) s).2
  | .destroy condition => ((c.destroy condition).run (Store.answer c.identity) s).2

def runAll (c : Collection) (s : Store) (writes : List Write) : Store :=
  writes.foldl c.after s

inductive Write.Requests (c : Collection) : Write → Request → Prop where
  | query (w : Write) (filter : Document) (options : FetchOptions) :
      Requests c w (.query filter options)
  | insert {values : Document} {encoded : List Document}
      (h : encodeAll c.schema [values] = .ok encoded) :
      Requests c (.insert values) (.insert encoded)
  | insertMany {batch encoded : List Document} (h : encodeAll c.schema batch = .ok encoded) :
      Requests c (.insertMany batch) (.insert encoded)
  | update (condition : Option Condition) (filter : Document) {values encoded : Document}
      (h : c.schema.encode values = .ok encoded) :
      Requests c (.update condition values) (.update filter (Keyed.erase encoded storedIdField))
  | destroy (condition : Option Condition) (filter : Document) :
      Requests c (.destroy condition) (.delete filter)

theorem Write.Requests.encoded {c : Collection} {w : Write} {r : Request} (h : w.Requests c r) :
    r.Encoded c.schema := by
  cases h with
  | query filter options =>
      trivial
  | insert h | insertMany h =>
      exact storedFields_encodeAll h
  | update condition filter h =>
      exact (Schema.storedFields_encode h).erase storedIdField
  | destroy condition filter =>
      trivial

theorem after_invariant_of_requests {c : Collection} {w : Write} {inv : Store → Prop}
    (hanswer : ∀ s r, inv s → w.Requests c r → inv (Store.answer c.identity s r).2)
    {s : Store} (h : inv s) : inv (c.after s w) := by
  have hquery : ∀ filter options, w.Requests c (.query filter options) := Write.Requests.query w
  cases w with
  | insert values =>
      exact run_invariant hanswer
        (sends_insert hquery c values fun _ => Write.Requests.insert) h
  | insertMany batch =>
      exact run_invariant hanswer
        (sends_insertMany hquery c batch fun _ => Write.Requests.insertMany) h
  | update condition values =>
      exact run_invariant hanswer
        (sends_update hquery c condition values fun filter _ =>
          Write.Requests.update condition filter) h
  | destroy condition =>
      exact run_invariant hanswer
        (sends_destroy hquery c condition (Write.Requests.destroy condition)) h

theorem after_invariant {c : Collection} {inv : Store → Prop}
    (hanswer : ∀ s r, inv s → r.Encoded c.schema → inv (Store.answer c.identity s r).2)
    {s : Store} (h : inv s) (w : Write) : inv (c.after s w) :=
  after_invariant_of_requests (fun s r hs hr => hanswer s r hs hr.encoded) h

theorem holds_after {c : Collection} {s : Store} (h : s.Holds c.schema c.identity) (w : Write) :
    (c.after s w).Holds c.schema c.identity :=
  after_invariant Store.holds_answer h w

theorem runAll_invariant {c : Collection} (inv : Store → Prop) {writes : List Write}
    (hafter : ∀ w ∈ writes, ∀ s, inv s → inv (c.after s w)) {s : Store} (h : inv s) :
    inv (c.runAll s writes) := by
  induction writes generalizing s with
  | nil =>
      exact h
  | cons w rest ih =>
      rw [List.forall_mem_cons] at hafter
      exact ih hafter.2 (hafter.1 s h)

theorem holds_runAll {c : Collection} {s : Store} (h : s.Holds c.schema c.identity)
    (writes : List Write) : (c.runAll s writes).Holds c.schema c.identity :=
  runAll_invariant (Store.Holds c.schema c.identity) (fun w _ _ hs => holds_after hs w) h

/-- Whatever is written to a collection that was empty, its documents are stored under its
schema, and decoding gives each of their fields in its place, the identifier renamed. -/
theorem storedDocument_runAll (c : Collection) (s : Store)
    (hempty : s.documents c.identity = []) (writes : List Write) (d : Document)
    (hd : d ∈ (c.runAll s writes).documents c.identity) :
    c.schema.StoredDocument d ∧
      c.schema.decode d = d.map c.schema.decodedEntry ∧
        Keyed.keys (c.schema.decode d) = (Keyed.keys d).map Schema.logicalName := by
  have hstart : s.Holds c.schema c.identity := by
    intro d hd
    have hnone : d ∈ s.documents c.identity := hd
    rw [hempty] at hnone
    exact absurd hnone List.not_mem_nil
  have hstored : c.schema.StoredDocument d := holds_runAll hstart writes d hd
  have hdecode := Schema.decode_eq_map hstored.fields
  refine ⟨hstored, hdecode, ?_⟩
  rw [hdecode]
  exact Schema.keys_map_decodedEntry c.schema d

theorem storedDocument_runAll_birthday :
    Store.empty.documents "pets" = [] ∧
      (⟨"pets", ⟨[("born", { kind := .date })]⟩, {}⟩ : Collection).schema.StoredDocument
          [(storedIdField, .objectId (ObjectId.ofSerial Store.firstSerial)),
            ("born", .instant 86400000)] ∧
        Keyed.keys ((⟨[("born", { kind := .date })]⟩ : Schema).decode
          [(storedIdField, .objectId (ObjectId.ofSerial Store.firstSerial)),
            ("born", .instant 86400000)]) = [idField, "born"] := by
  have hd : [(storedIdField, .objectId (ObjectId.ofSerial Store.firstSerial)),
      ("born", .instant 86400000)] ∈
        (runAll ⟨"pets", ⟨[("born", { kind := .date })]⟩, {}⟩ .empty
          [.insert [(idField, .null), ("born", .null)], .insert [(idField, .boolean true)],
            .update none [("born", .string "1970-01-02")]]).documents "pets" := by
    decide +kernel
  have hstored := storedDocument_runAll ⟨"pets", ⟨[("born", { kind := .date })]⟩, {}⟩ .empty rfl
    _ _ hd
  exact ⟨rfl, hstored.1, hstored.2.2⟩

/-- The schema does not type the stored identifier: declared as an instant, it still is an
object identifier. -/
theorem typed_identifier_fails :
    ¬ ∀ (c : Collection) (s : Store), s.documents c.identity = [] → ∀ writes : List Write,
      ∀ d ∈ (c.runAll s writes).documents c.identity, ∀ field v kind,
        (field, v) ∈ d → c.schema.kind? field = some kind → kind.Holds v := by
  intro h
  have hd : [(storedIdField, .objectId (ObjectId.ofSerial Store.firstSerial))] ∈
      (runAll ⟨"events", ⟨[(storedIdField, { kind := .datetime })]⟩, {}⟩ .empty
        [.insert []]).documents "events" := by
    decide +kernel
  have hinstant := h _ .empty rfl _ _ hd storedIdField _ .datetime List.mem_cons_self rfl
  rcases hinstant with hnull | ⟨_, hinstant⟩
  · cases hnull
  · cases hinstant

end Collection
end DocQuery
