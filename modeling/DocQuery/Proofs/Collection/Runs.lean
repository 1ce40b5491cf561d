import DocQuery.Collection.Basic
import DocQuery.Proofs.Keyed
import DocQuery.Proofs.Store.Atomicity

/-!
# Runs of programs on the store

What the small programs come to that the operations of a collection are made of.
Identifiers are looked up by a query that gives nothing else, and a query
without options gives just the documents that its filter takes.
-/

namespace DocQuery

open Selector (select Decides taken)

namespace Program

variable {σ : Type} {answering : Answering σ}

theorem run_seq (p : Program α) (f : α → Program β) (s : σ) :
    run answering (p >>= f) s =
      match run answering p s with
      | (.ok a, s) => run answering (f a) s
      | (.error e, s) => (.error e, s) :=
  run_bind answering p f s

theorem run_ofExcept_seq (result : Except Error α) (f : α → Program β) (s : σ) :
    run answering (ofExcept result >>= f) s =
      match result with
      | .ok a => run answering (f a) s
      | .error e => (.error e, s) := by
  rw [run_seq]
  cases result <;> rfl

theorem run_call_seq (r : Request) (f : r.Reply → Program β) (s : σ) :
    run answering (call r >>= f) s =
      match answering s r with
      | (.ok a, s) => run answering (f a) s
      | (.error e, s) => (.error e, s) := by
  rw [run_seq, run_call]
  rcases answering s r with ⟨_ | _, _⟩ <;> rfl

theorem requests_seq (p : Program α) (f : α → Program β) (s : σ) :
    requests answering (p >>= f) s =
      requests answering p s ++
        match run answering p s with
        | (.ok a, s) => requests answering (f a) s
        | (.error _, _) => [] :=
  requests_bind answering p f s

theorem requests_ofExcept_seq (result : Except Error α) (f : α → Program β) (s : σ) :
    requests answering (ofExcept result >>= f) s =
      match result with
      | .ok a => requests answering (f a) s
      | .error _ => [] := by
  rw [requests_seq]
  cases result <;> rfl

end Program

/-!
# Queries
-/

namespace Store

theorem query_plain (s : Store) (collection : String) (filter : Document) :
    s.query collection filter {} =
      (select filter (s.documents collection)).mapError .criteria := by
  have hpage : ∀ found, page {} (arrange {} found) = found := fun _ => rfl
  have hwhole : Projection.apply none = id := rfl
  simp only [query, hpage]
  cases select filter (s.documents collection) with
  | error fault =>
      rfl
  | ok found =>
      simp [hwhole, bind, Except.bind, pure, Except.pure]

theorem get?_identifiersOnly (d : Document) :
    Keyed.get? (Projection.apply FetchOptions.identifiersOnly.projection d) storedIdField =
      Keyed.get? d storedIdField := by
  have hkeeps : Projection.keeps [(storedIdField, .int32 1)] storedIdField = true := by
    decide
  have hfilter : Projection.apply FetchOptions.identifiersOnly.projection d =
      d.filter fun entry => Projection.keeps [(storedIdField, .int32 1)] entry.1 := rfl
  rw [hfilter]
  exact Keyed.get?_filter hkeeps d

theorem idsOf_identifiersOnly (found : List Document) :
    Uniqueness.idsOf (found.map (Projection.apply FetchOptions.identifiersOnly.projection)) =
      Uniqueness.idsOf found := by
  simp only [Uniqueness.idsOf, List.filterMap_map]
  exact List.filterMap_congr fun d _ => get?_identifiersOnly d

end Store

/-!
# Looking up identifiers
-/

namespace Collection

open Program

theorem run_captureIds (collection : String) (filter : Document) (s : Store) :
    run (Store.answer collection) (captureIds filter) s =
      (((select filter (s.documents collection)).mapError .criteria).map Uniqueness.idsOf, s) := by
  rw [captureIds, run_call_seq]
  simp only [Store.answer, Store.query]
  cases select filter (s.documents collection) with
  | error fault =>
      rfl
  | ok found =>
      exact congrArg (fun ids => (Except.ok ids, s)) (Store.idsOf_identifiersOnly found)

theorem eq_nil_of_idsOf_eq_nil {documents : List Document}
    (hids : ∀ d ∈ documents, Keyed.contains d storedIdField = true)
    (h : Uniqueness.idsOf documents = []) : documents = [] := by
  rw [Uniqueness.idsOf, List.filterMap_eq_nil_iff] at h
  refine List.eq_nil_iff_forall_not_mem.mpr ?_
  intro d hd
  have hid := hids d hd
  rw [Keyed.contains, h d hd] at hid
  cases hid

theorem requests_captureIds (collection : String) (filter : Document) (s : Store) :
    requests (Store.answer collection) (captureIds filter) s =
      [.query filter .identifiersOnly] := by
  rw [captureIds, requests_seq, run_call]
  rcases Store.answer collection s (.query filter .identifiersOnly) with ⟨_ | _, _⟩ <;> rfl

/-!
# Programs that do all or nothing

A program that has changed nothing yet may fail.  Once it has written it must
come to its end.
-/

section AllOrNothing

variable {α β : Type} {s : Store} {collection : String} {p : β → Store → Prop} {q : Error → Prop}

theorem allOrNothing_ofExcept {result : Except Error α} {f : α → Program β}
    (hrefused : ∀ e, result = .error e → q e)
    (hnext : ∀ a, result = .ok a → s.AllOrNothing p q ((f a).run (Store.answer collection) s)) :
    s.AllOrNothing p q ((ofExcept result >>= f).run (Store.answer collection) s) := by
  rw [run_ofExcept_seq]
  cases result with
  | error e =>
      exact .of_error (fun _ => rfl) (hrefused e rfl)
  | ok a =>
      exact hnext a rfl

theorem allOrNothing_captureIds {filter : Document} {f : List Value → Program β}
    (hrefused : ∀ e, s.Undecided collection filter e → q e)
    (hnext : ∀ found, select filter (s.documents collection) = .ok found →
      s.AllOrNothing p q ((f (Uniqueness.idsOf found)).run (Store.answer collection) s)) :
    s.AllOrNothing p q ((captureIds filter >>= f).run (Store.answer collection) s) := by
  rw [run_seq, run_captureIds]
  cases hselect : select filter (s.documents collection) with
  | error fault =>
      exact .of_error (fun _ => rfl) (hrefused _ ⟨fault, hselect, rfl⟩)
  | ok found =>
      exact hnext found hselect

theorem allOrNothing_write {x : Program α} {f : α → Program β} {written : α → Store → Prop}
    {failed : Error → Prop}
    (hwrite : s.AllOrNothing written failed (x.run (Store.answer collection) s))
    (hrefused : ∀ e, failed e → q e)
    (hnext : ∀ a after, written a after →
      ∃ b, (f a).run (Store.answer collection) after = (.ok b, after) ∧ p b after) :
    s.AllOrNothing p q ((x >>= f).run (Store.answer collection) s) := by
  rw [run_seq]
  revert hwrite
  rcases x.run (Store.answer collection) s with ⟨e | a, after⟩ <;> intro hwrite
  · exact .of_error (hwrite.unchanged rfl) (hrefused e (hwrite.refused rfl))
  · rcases hnext a after (hwrite.ok rfl) with ⟨b, hrun, hb⟩
    simp only [hrun]
    exact .of_ok hb

end AllOrNothing

theorem not_undecided {s : Store} {collection : String} {filter : Document} {e : Error}
    (hdecides : Decides filter (s.documents collection)) :
    ¬ s.Undecided collection filter e := by
  rintro ⟨fault, hfault, _⟩
  rw [Selector.select_eq_ok_iff.mpr ⟨hdecides, rfl⟩] at hfault
  cases hfault

theorem run_ensure_of_acknowledged {a : Acknowledgement} (h : a.acknowledged = true)
    (operation : String) {collection : String} (s : Store) :
    run (Store.answer collection) (ensure operation a) s = (.ok (), s) := by
  rw [ensure, if_pos h]
  rfl

end Collection
end DocQuery
