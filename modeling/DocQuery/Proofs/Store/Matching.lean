import DocQuery.Proofs.Outcome
import DocQuery.Store.Basic

/-!
# Documents that a filter takes

Reading, updating and deleting walk through a collection each in its own way, and
each gives up at a document on which the filter leads to no verdict.  Where they
succeed they have told the same documents apart, and each has kept the order.
-/

namespace DocQuery
namespace Selector

open Outcome

/-- Whether a filter takes a document.  Without a verdict the document is not taken. -/
def takes (filter d : Document) : Bool :=
  match matches? filter d with
  | .ok matched => matched
  | .error _ => false

/-- The filter leads to a verdict on every one of the documents. -/
def Decides (filter : Document) (documents : List Document) : Prop :=
  ∀ d ∈ documents, matches? filter d = .ok (takes filter d)

def taken (filter : Document) (documents : List Document) : List Document :=
  documents.filter (takes filter)

def untaken (filter : Document) (documents : List Document) : List Document :=
  documents.filter fun d => !takes filter d

theorem takes_of_matches? {filter d : Document} {matched : Bool}
    (h : matches? filter d = .ok matched) : takes filter d = matched := by
  simp [takes, h]

theorem Decides.cons {filter d : Document} {rest : List Document} {matched : Bool}
    (hfirst : matches? filter d = .ok matched) (hrest : Decides filter rest) :
    Decides filter (d :: rest) := by
  unfold Decides
  rw [List.forall_mem_cons]
  exact ⟨by rw [hfirst, takes_of_matches? hfirst], hrest⟩

theorem Decides.sublist {filter : Document} {documents others : List Document}
    (h : Decides filter documents) (hsub : others.Sublist documents) : Decides filter others :=
  fun d hd => h d (hsub.subset hd)

theorem not_matches_of_taken_eq_nil {filter d : Document} {documents : List Document}
    (hnone : taken filter documents = []) (hd : d ∈ documents) : matches? filter d ≠ .ok true := by
  intro hmatch
  have htaken : d ∈ taken filter documents :=
    List.mem_filter.mpr ⟨hd, takes_of_matches? hmatch⟩
  rw [hnone] at htaken
  cases htaken

theorem untaken_of_taken_eq_nil {filter : Document} {documents : List Document}
    (h : taken filter documents = []) : untaken filter documents = documents := by
  rw [taken, List.filter_eq_nil_iff] at h
  rw [untaken, List.filter_eq_self]
  intro d hd
  simp [h d hd]

theorem map_of_taken_eq_nil {filter : Document} {documents : List Document}
    (h : taken filter documents = []) (change : Document → Document) :
    (documents.map fun d => if takes filter d then change d else d) = documents := by
  rw [taken, List.filter_eq_nil_iff] at h
  have hsame : ∀ d ∈ documents, (if takes filter d then change d else d) = d :=
    fun d hd => if_neg (h d hd)
  rw [List.map_congr_left hsame, List.map_id']

theorem taken_untaken (filter : Document) (documents : List Document) :
    taken filter (untaken filter documents) = [] := by
  simp [taken, untaken]

/-!
# Reading
-/

theorem select_eq_ok_iff {filter : Document} {documents found : List Document} :
    select filter documents = .ok found ↔
      Decides filter documents ∧ found = taken filter documents := by
  induction documents generalizing found with
  | nil =>
      simp [select, Decides, taken, eq_comm]
  | cons d rest ih =>
      simp only [select, bind_eq_ok, pure_eq_ok, ih]
      constructor
      · rintro ⟨matched, hmatched, _, ⟨hrest, rfl⟩, rfl⟩
        refine ⟨hrest.cons hmatched, ?_⟩
        cases matched <;> simp [taken, takes_of_matches? hmatched]
      · rintro ⟨hdecides, rfl⟩
        refine ⟨_, hdecides d List.mem_cons_self, _,
          ⟨hdecides.sublist (List.sublist_cons_self d rest), rfl⟩, ?_⟩
        cases h : takes filter d <;> simp [taken, h]

/-!
# Writing
-/

theorem updateAll_eq_ok {filter set : Document} {documents updated : List Document} {n : Nat}
    (h : Store.updateAll filter set documents = .ok (updated, n)) :
    Decides filter documents ∧
      updated = documents.map fun d =>
        if takes filter d then Keyed.insertAll d set else d := by
  induction documents generalizing updated n with
  | nil =>
      cases h
      exact ⟨fun _ hd => absurd hd List.not_mem_nil, rfl⟩
  | cons d rest ih =>
      simp only [Store.updateAll, bind_eq_ok, pure_eq_ok] at h
      rcases h with ⟨matched, hmatched, ⟨others, m⟩, hothers, h⟩
      rcases ih hothers with ⟨hrest, rfl⟩
      refine ⟨hrest.cons hmatched, ?_⟩
      rw [List.map_cons, takes_of_matches? hmatched]
      cases matched <;> cases h <;> rfl

theorem updateAll_eq_error {filter set : Document} {documents : List Document}
    {fault : CriteriaFault} (h : Store.updateAll filter set documents = .error fault) :
    select filter documents = .error fault := by
  induction documents with
  | nil =>
      cases h
  | cons d rest ih =>
      simp only [Store.updateAll, bind_eq_error] at h
      simp only [select, bind_eq_error]
      rcases h with hfirst | ⟨matched, hmatched, hrest | ⟨_, _, h⟩⟩
      · exact Or.inl hfirst
      · exact Or.inr ⟨matched, hmatched, Or.inl (ih hrest)⟩
      · cases h

theorem removeAll_eq_ok {filter : Document} {documents kept : List Document} {n : Nat}
    (h : Store.removeAll filter documents = .ok (kept, n)) :
    Decides filter documents ∧ kept = untaken filter documents := by
  induction documents generalizing kept n with
  | nil =>
      cases h
      exact ⟨fun _ hd => absurd hd List.not_mem_nil, rfl⟩
  | cons d rest ih =>
      simp only [Store.removeAll, bind_eq_ok, pure_eq_ok] at h
      rcases h with ⟨matched, hmatched, ⟨others, m⟩, hothers, h⟩
      rcases ih hothers with ⟨hrest, rfl⟩
      refine ⟨hrest.cons hmatched, ?_⟩
      cases matched <;> cases h <;> simp [untaken, takes_of_matches? hmatched]

theorem removeAll_eq_error {filter : Document} {documents : List Document}
    {fault : CriteriaFault} (h : Store.removeAll filter documents = .error fault) :
    select filter documents = .error fault := by
  induction documents with
  | nil =>
      cases h
  | cons d rest ih =>
      simp only [Store.removeAll, bind_eq_error] at h
      simp only [select, bind_eq_error]
      rcases h with hfirst | ⟨matched, hmatched, hrest | ⟨_, _, h⟩⟩
      · exact Or.inl hfirst
      · exact Or.inr ⟨matched, hmatched, Or.inl (ih hrest)⟩
      · cases h

end Selector
end DocQuery
