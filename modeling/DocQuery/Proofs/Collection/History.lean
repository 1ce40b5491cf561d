import DocQuery.Collection.Basic
import DocQuery.Proofs.Collection.StoredForm

/-!
# Histories

A store comes about by calls of operations, and the collections that are called
may keep their documents in the same place under different schemas.  What such
documents have in common is the stored form that types no attribute: they have
identifiers.
-/

namespace DocQuery

/-!
# Stored form without types
-/

namespace Schema

/-- The schema that declares no attribute. -/
def untyped : Schema :=
  ⟨[]⟩

theorem StoredFields.untyped {s : Schema} {d : Document} (h : s.StoredFields d) :
    Schema.untyped.StoredFields d where
  distinct := h.distinct
  entries entry hentry :=
    { name := (h.entries entry hentry).name
      identifier := (h.entries entry hentry).identifier
      typed := fun _ _ hkind => nomatch hkind }

theorem StoredDocument.reference {s : Schema} {d : Document} (h : s.StoredDocument d) :
    ∃ id, Keyed.get? d storedIdField = some id ∧ id.IsReference := by
  rcases Option.isSome_iff_exists.mp h.identified with ⟨id, hid⟩
  refine ⟨id, hid, ?_⟩
  rcases (h.fields.entries _ (Keyed.mem_of_get? hid)).identifier rfl with ⟨oid, rfl⟩ | ⟨_, _, hread⟩
  · exact Value.IsReference.objectId oid
  · exact Value.isReference_of_parseIdentifier hread

end Schema

theorem Request.Encoded.untyped {s : Schema} {r : Request} (h : r.Encoded s) :
    r.Encoded Schema.untyped := by
  cases r with
  | insert documents =>
      exact fun d hd => (h d hd).untyped
  | update filter set =>
      exact Schema.StoredFields.untyped h
  | _ =>
      trivial

namespace Store

theorem contents_answer_of_ne (s : Store) {collection other : String} (h : collection ≠ other)
    (r : Request) : (answer collection s r).2.contents other = s.contents other := by
  cases r with
  | insert documents =>
      exact contents_insert_of_ne s documents h
  | update filter set =>
      exact contents_update_of_ne s filter set h
  | delete filter =>
      exact contents_delete_of_ne s filter h
  | createIndex index =>
      exact contents_createIndex_of_ne s index h
  | query filter options | stream filter options | aggregate pipeline | count filter =>
      rfl

theorem holds_untyped_answer {schema : Schema} {collection other : String} (s : Store)
    (r : Request) (h : s.Holds Schema.untyped other) (hr : r.Encoded schema) :
    (answer collection s r).2.Holds Schema.untyped other := by
  by_cases hother : collection = other
  · subst hother
    exact holds_answer s r h hr.untyped
  · unfold Holds
    rw [contents_answer_of_ne s hother r]
    exact h

end Store

/-!
# Operations that do not write documents
-/

def Request.Reads : Request → Prop
  | query _ _ | stream _ _ | aggregate _ | count _ => True
  | _ => False

namespace Program

theorem sends_attempt {p : Request → Prop} {x : Program α} (hx : Sends p x) :
    Sends p x.attempt := by
  induction x with
  | done result =>
      exact trivial
  | ask r next ih =>
      exact ⟨hx.1, fun answer => ih answer (hx.2 answer)⟩

end Program

namespace Collection

open Program

theorem sends_find (c : Collection) (criteria : Criteria) :
    Sends Request.Reads (c.find criteria) := by
  refine sends_ofExcept_bind ?_
  intro q _
  split
  · refine sends_bind (sends_call trivial) ?_
    intro rows
    exact sends_pure _
  · refine sends_bind (sends_call trivial) ?_
    intro documents
    exact sends_pure _

theorem sends_stream (c : Collection) (criteria : Criteria) :
    Sends Request.Reads (c.stream criteria) := by
  refine sends_ofExcept_bind ?_
  intro q _
  refine sends_bind (sends_call trivial) ?_
  intro feed
  exact sends_pure _

theorem sends_streamInto (c : Collection) (criteria : Criteria) (sink : Sink σ) (start : σ) :
    Sends Request.Reads (c.streamInto criteria sink start) := by
  refine sends_bind (sends_bind (sends_attempt (sends_stream c criteria)) ?_) ?_
  · intro outcome
    cases outcome <;> exact sends_pure _
  · intro outcome
    exact sends_pure _

theorem sends_count (c : Collection) (condition : Option Condition) :
    Sends Request.Reads (c.count condition) := by
  refine sends_ofExcept_bind ?_
  intro filter _
  exact sends_call trivial

theorem sends_installAll (indexes : List Index) :
    Sends (fun r => ∃ index ∈ indexes, r = .createIndex index) (installAll indexes) := by
  induction indexes with
  | nil =>
      exact sends_pure _
  | cons index rest ih =>
      refine sends_bind (sends_call ⟨index, List.mem_cons_self, rfl⟩) ?_
      intro _
      refine ih.mono ?_
      rintro r ⟨other, hother, rfl⟩
      exact ⟨other, List.mem_cons_of_mem _ hother, rfl⟩

/-!
# Calls
-/

inductive Operation : Type 1 where
  | find (criteria : Criteria)
  | stream (criteria : Criteria)
  | streamInto {σ : Type} (criteria : Criteria) (sink : Sink σ) (start : σ)
  | count (condition : Option Condition)
  | installIndexes
  | write (w : Write)

/-- The store after a call, which may have failed. -/
def perform (c : Collection) (s : Store) : Operation → Store
  | .find criteria => ((c.find criteria).run (Store.answer c.identity) s).2
  | .stream criteria => ((c.stream criteria).run (Store.answer c.identity) s).2
  | .streamInto criteria sink start =>
      ((c.streamInto criteria sink start).run (Store.answer c.identity) s).2
  | .count condition => ((c.count condition).run (Store.answer c.identity) s).2
  | .installIndexes => (c.installIndexes.run (Store.answer c.identity) s).2
  | .write w => c.after s w

/-- Calls one after the other, each of a collection of its own. -/
def performAll (s : Store) (calls : List (Collection × Operation)) : Store :=
  calls.foldl (fun s call => call.1.perform s call.2) s

inductive Operation.Requests (c : Collection) : Operation → Request → Prop where
  | reads (operation : Operation) {r : Request} (h : r.Reads) : Requests c operation r
  | installs {index : Index} (h : index ∈ c.indexes) :
      Requests c .installIndexes (.createIndex index)
  | writes {w : Write} {r : Request} (h : w.Requests c r) : Requests c (.write w) r

theorem Operation.Requests.encoded {c : Collection} {operation : Operation} {r : Request}
    (h : operation.Requests c r) : r.Encoded c.schema := by
  cases h with
  | reads operation h =>
      cases r <;> trivial
  | installs h =>
      trivial
  | writes h =>
      exact h.encoded

theorem perform_invariant_of_requests {c : Collection} {operation : Operation}
    (inv : Store → Prop)
    (hanswer : ∀ s r, inv s → operation.Requests c r → inv (Store.answer c.identity s r).2)
    {s : Store} (h : inv s) : inv (c.perform s operation) := by
  have hreads (r : Request) : r.Reads → operation.Requests c r :=
    Operation.Requests.reads operation
  cases operation with
  | find criteria =>
      exact run_invariant hanswer ((sends_find c criteria).mono hreads) h
  | stream criteria =>
      exact run_invariant hanswer ((sends_stream c criteria).mono hreads) h
  | streamInto criteria sink start =>
      exact run_invariant hanswer ((sends_streamInto c criteria sink start).mono hreads) h
  | count condition =>
      exact run_invariant hanswer ((sends_count c condition).mono hreads) h
  | installIndexes =>
      refine run_invariant hanswer ((sends_installAll c.indexes).mono ?_) h
      rintro r ⟨index, hindex, rfl⟩
      exact Operation.Requests.installs hindex
  | write w =>
      exact after_invariant_of_requests
        (fun s r hs hr => hanswer s r hs (Operation.Requests.writes hr)) h

theorem perform_invariant {c : Collection} {inv : Store → Prop}
    (hanswer : ∀ s r, inv s → r.Encoded c.schema → inv (Store.answer c.identity s r).2)
    {s : Store} (h : inv s) (operation : Operation) : inv (c.perform s operation) :=
  perform_invariant_of_requests inv (fun s r hs hr => hanswer s r hs hr.encoded) h

theorem holds_untyped_performAll {collection : String} {s : Store}
    (h : s.Holds Schema.untyped collection) (calls : List (Collection × Operation)) :
    (performAll s calls).Holds Schema.untyped collection := by
  induction calls generalizing s with
  | nil =>
      exact h
  | cons call rest ih =>
      exact ih (perform_invariant Store.holds_untyped_answer h call.2)

end Collection
end DocQuery
