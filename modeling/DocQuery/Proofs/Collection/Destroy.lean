import DocQuery.Proofs.Collection.Runs
import DocQuery.Proofs.Store.Uniqueness

/-!
# Destroying

A collection looks up what it is to destroy, and sends the store the same filter
again.  Both go by the same documents, so that the identifiers it gives back are
those of the documents that are gone, and none of the others is touched.
-/

namespace DocQuery
namespace Collection

open Program
open Selector (select Decides taken untaken)

/-- A document given back for a destroyed one: its identifier as callers see it. -/
def Identifies (d row : Document) : Prop :=
  ∃ id, Keyed.get? d storedIdField = some id ∧ row = [(idField, id.renderIdentifier)]

/-- What it comes to when all documents that a filter takes have been destroyed. -/
structure Destroyed (c : Collection) (condition : Option Condition) (filter : Document)
    (s : Store) (rows : List Document) (after : Store) : Prop where
  compiled : c.compiler.filter? condition = .ok filter
  decided : Decides filter (s.documents c.identity)
  identified : List.Forall₂ Identifies (taken filter (s.documents c.identity)) rows
  counted : (c.count condition).run (Store.answer c.identity) s = (.ok rows.length, s)
  left : s.Replaced c.identity
    { s.contents c.identity with documents := untaken filter (s.documents c.identity) } after
  none : (c.count condition).run (Store.answer c.identity) after = (.ok 0, after)
  again : (c.destroy condition).run (Store.answer c.identity) after = (.ok [], after)
  unwritten : (c.destroy condition).requests (Store.answer c.identity) after =
    [.query filter .identifiersOnly]

inductive DestroyRefused (c : Collection) (condition : Option Condition) (s : Store) :
    Error → Prop where
  | uncompiled {e : Error} (h : c.compiler.filter? condition = .error e) :
      DestroyRefused c condition s e
  | undecided {filter : Document} {e : Error}
      (hfilter : c.compiler.filter? condition = .ok filter)
      (h : s.Undecided c.identity filter e) : DestroyRefused c condition s e

/-!
# Counting
-/

theorem run_count {c : Collection} {condition : Option Condition} {filter : Document}
    (hfilter : c.compiler.filter? condition = .ok filter) {s : Store}
    (hdecides : Decides filter (s.documents c.identity)) :
    (c.count condition).run (Store.answer c.identity) s =
      (.ok (taken filter (s.documents c.identity)).length, s) := by
  have hselect := Selector.select_eq_ok_iff.mpr ⟨hdecides, rfl⟩
  have hcount : s.count c.identity filter =
      .ok (taken filter (s.documents c.identity)).length := by
    rw [Store.count, hselect]
    rfl
  rw [count, run_ofExcept_seq, hfilter]
  exact congrArg (fun n => (n, s)) hcount

/-!
# Destroying nothing
-/

theorem run_destroy_none {c : Collection} {condition : Option Condition} {filter : Document}
    (hfilter : c.compiler.filter? condition = .ok filter) {s : Store}
    (hselect : select filter (s.documents c.identity) = .ok []) :
    (c.destroy condition).run (Store.answer c.identity) s = (.ok [], s) := by
  rw [destroy, run_ofExcept_seq, hfilter]
  simp only [run_seq, run_captureIds, hselect]
  rfl

theorem requests_destroy_none {c : Collection} {condition : Option Condition} {filter : Document}
    (hfilter : c.compiler.filter? condition = .ok filter) {s : Store}
    (hselect : select filter (s.documents c.identity) = .ok []) :
    (c.destroy condition).requests (Store.answer c.identity) s =
      [.query filter .identifiersOnly] := by
  rw [destroy, requests_ofExcept_seq, hfilter]
  simp only [requests_seq, requests_captureIds, run_captureIds, hselect]
  rfl

/-!
# Destroying what a filter takes
-/

theorem decode_identifierRow (schema : Schema) (id : Value) :
    schema.decode (identifierRow id) = [(idField, id.renderIdentifier)] :=
  rfl

theorem identifies_idsOf (schema : Schema) {documents : List Document}
    (hids : ∀ d ∈ documents, Keyed.contains d storedIdField = true) :
    List.Forall₂ Identifies documents
      ((Uniqueness.idsOf documents).map fun id => schema.decode (identifierRow id)) := by
  induction documents with
  | nil =>
      exact List.Forall₂.nil
  | cons d rest ih =>
      rw [List.forall_mem_cons] at hids
      rcases Option.isSome_iff_exists.mp hids.1 with ⟨id, hid⟩
      have hfirst : Uniqueness.idsOf (d :: rest) = id :: Uniqueness.idsOf rest :=
        List.filterMap_cons_some hid
      rw [hfirst, List.map_cons]
      exact List.Forall₂.cons ⟨id, hid, decode_identifierRow schema id⟩ (ih hids.2)

theorem destroyed_of_replaced {c : Collection} {condition : Option Condition} {filter : Document}
    (hfilter : c.compiler.filter? condition = .ok filter) {s after : Store}
    (hdecides : Decides filter (s.documents c.identity))
    (hids : ∀ d ∈ s.documents c.identity, Keyed.contains d storedIdField = true)
    (hafter : s.Replaced c.identity
      { s.contents c.identity with documents := untaken filter (s.documents c.identity) } after) :
    Destroyed c condition filter s
      ((Uniqueness.idsOf (taken filter (s.documents c.identity))).map fun id =>
        c.schema.decode (identifierRow id)) after := by
  have hdocuments : after.documents c.identity = untaken filter (s.documents c.identity) :=
    hafter.documents
  have hdecidesAfter : Decides filter (after.documents c.identity) :=
    hdocuments ▸ hdecides.sublist List.filter_sublist
  have hnone : taken filter (after.documents c.identity) = [] := by
    rw [hdocuments, Selector.taken_untaken]
  have hselect : select filter (after.documents c.identity) = .ok [] :=
    Selector.select_eq_ok_iff.mpr ⟨hdecidesAfter, hnone.symm⟩
  have htaken : ∀ d ∈ taken filter (s.documents c.identity),
      Keyed.contains d storedIdField = true :=
    fun d hd => hids d (List.mem_of_mem_filter hd)
  have hrows := identifies_idsOf c.schema htaken
  exact
    { compiled := hfilter
      decided := hdecides
      identified := hrows
      counted := by
        rw [run_count hfilter hdecides, hrows.length_eq]
      left := hafter
      none := by
        rw [run_count hfilter hdecidesAfter, hnone]
        rfl
      again := run_destroy_none hfilter hselect
      unwritten := requests_destroy_none hfilter hselect }

theorem destroy_allOrNothing (c : Collection) (condition : Option Condition) (s : Store)
    (hids : ∀ d ∈ s.documents c.identity, Keyed.contains d storedIdField = true) :
    s.AllOrNothing (fun rows after => ∃ filter, Destroyed c condition filter s rows after)
      (DestroyRefused c condition s)
      ((c.destroy condition).run (Store.answer c.identity) s) := by
  refine allOrNothing_ofExcept (fun _ => DestroyRefused.uncompiled) ?_
  intro filter hfilter
  refine allOrNothing_captureIds (fun _ => DestroyRefused.undecided hfilter) ?_
  intro found hselect
  rcases Selector.select_eq_ok_iff.mp hselect with ⟨hdecides, rfl⟩
  split
  · rename_i hempty
    have hnone : taken filter (s.documents c.identity) = [] :=
      eq_nil_of_idsOf_eq_nil (fun d hd => hids d (List.mem_of_mem_filter hd))
        (List.isEmpty_iff.mp hempty)
    have hsame : s.Replaced c.identity
        { s.contents c.identity with documents := untaken filter (s.documents c.identity) } s := by
      rw [Selector.untaken_of_taken_eq_nil hnone]
      exact ⟨rfl, fun _ _ => rfl⟩
    have hdestroyed := destroyed_of_replaced hfilter hdecides hids hsame
    rw [List.isEmpty_iff.mp hempty] at hdestroyed
    exact .of_ok ⟨filter, hdestroyed⟩
  · refine allOrNothing_write (s.delete_allOrNothing c.identity filter)
      (fun _ => DestroyRefused.undecided hfilter) ?_
    rintro a after ⟨hack, _, hafter⟩
    refine ⟨_, ?_, filter, destroyed_of_replaced hfilter hdecides hids hafter⟩
    rw [run_seq, run_ensure_of_acknowledged hack]
    rfl

/-- In every store that writes lead to, of whatever clients: destroying gives back the identifiers
of the documents that the filter takes, which are as many as were counted, in their order.  These
are gone and the others are left, so that nothing is counted any more, and destroying again writes
nothing.  Otherwise the filter is at fault, and no collection has changed. -/
theorem destroyed_or_unchanged (c : Collection) (condition : Option Condition) (serial : Nat)
    (steps : List Store.Step) :
    (Store.run ⟨[], serial⟩ steps).AllOrNothing
      (fun rows after =>
        ∃ filter, Destroyed c condition filter (Store.run ⟨[], serial⟩ steps) rows after)
      (DestroyRefused c condition (Store.run ⟨[], serial⟩ steps))
      ((c.destroy condition).run (Store.answer c.identity) (Store.run ⟨[], serial⟩ steps)) := by
  have hunique : ((Store.run ⟨[], serial⟩ steps).contents c.identity).Unique :=
    Store.run_induction Contents.Unique.change ⟨[], serial⟩ Contents.unique_empty steps
  exact destroy_allOrNothing c condition _ hunique.identified

end Collection
end DocQuery
