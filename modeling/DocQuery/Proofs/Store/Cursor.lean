import DocQuery.Proofs.Store.Matching
import DocQuery.Store.Cursor

/-!
# What cursors give

A cursor finds the documents that a filter takes one after the other.  Read to
its end it gives the documents that a query would give, and then it is over.
-/

namespace DocQuery

open Outcome
open Selector (Decides select takes taken)

namespace Cursor

/-!
# One walk

A walk ends at a document that matches.  Before it are documents with verdicts,
and as many matching ones among them as were to be skipped.
-/

/-- Where a walk over some documents has come to. -/
structure Reached (filter : Document) (passed skip : Nat) (documents : List Document)
    (found : Found) (before rest : List Document) : Prop where
  split : documents = before ++ found.document :: rest
  decided : Decides filter before
  skipped : (taken filter before).length = skip
  matched : Selector.matches? filter found.document = .ok true
  passed : found.passed = passed + before.length
  skip : found.skip = 0

theorem Reached.cons {filter d : Document} {passed skip : Nat} {documents : List Document}
    {found : Found} {before rest : List Document} {matched : Bool}
    (hd : Selector.matches? filter d = .ok matched)
    (h : Reached filter (passed + 1) skip documents found before rest) :
    Reached filter passed (skip + matched.toNat) (d :: documents) found (d :: before) rest where
  split := by
    rw [h.split]
    rfl
  decided := h.decided.cons hd
  skipped := by
    rw [← h.skipped]
    cases matched <;> simp [taken, Selector.takes_of_matches? hd]
  matched := h.matched
  passed := by
    rw [h.passed, List.length_cons]
    omega
  skip := h.skip

theorem exists_reached {filter : Document} {passed skip : Nat} {documents : List Document}
    {found : Found} (h : find? filter passed skip documents = .ok (some found)) :
    ∃ before rest, Reached filter passed skip documents found before rest := by
  induction documents generalizing passed skip with
  | nil =>
      cases h
  | cons d rest ih =>
      simp only [find?, bind_eq_ok] at h
      rcases h with ⟨matched, hd, h⟩
      cases matched with
      | false =>
          rcases ih h with ⟨before, after, hreached⟩
          exact ⟨d :: before, after, hreached.cons hd⟩
      | true =>
          cases skip with
          | zero =>
              cases h
              refine ⟨[], rest, ?_⟩
              constructor
              · rfl
              · intro other hother
                cases hother
              · rfl
              · exact hd
              · rfl
              · rfl
          | succ skip =>
              rcases ih h with ⟨before, after, hreached⟩
              exact ⟨d :: before, after, hreached.cons hd⟩

/-- A walk that finds nothing has had a verdict on every document, and has skipped all matches. -/
theorem decides_of_find?_eq_none {filter : Document} {passed skip : Nat}
    {documents : List Document} (h : find? filter passed skip documents = .ok none) :
    Decides filter documents ∧ (taken filter documents).length ≤ skip := by
  induction documents generalizing passed skip with
  | nil =>
      constructor
      · intro d hd
        cases hd
      · exact Nat.zero_le skip
  | cons d rest ih =>
      simp only [find?, bind_eq_ok] at h
      rcases h with ⟨matched, hd, h⟩
      cases matched with
      | false =>
          rcases ih h with ⟨hrest, hskip⟩
          refine ⟨hrest.cons hd, ?_⟩
          simpa [taken, Selector.takes_of_matches? hd] using hskip
      | true =>
          cases skip with
          | zero =>
              cases h
          | succ skip =>
              rcases ih h with ⟨hrest, hskip⟩
              refine ⟨hrest.cons hd, ?_⟩
              simpa [taken, Selector.takes_of_matches? hd] using hskip

theorem find?_of_decides {filter : Document} {documents : List Document}
    (h : Decides filter documents) (passed skip : Nat) :
    ∃ found, find? filter passed skip documents = .ok found := by
  induction documents generalizing passed skip with
  | nil =>
      exact ⟨none, rfl⟩
  | cons d rest ih =>
      have hrest := h.sublist (List.sublist_cons_self d rest)
      simp only [find?, bind_eq_ok]
      cases hd : takes filter d with
      | false =>
          rcases ih hrest (passed + 1) skip with ⟨found, hfound⟩
          exact ⟨found, false, hd ▸ h d List.mem_cons_self, hfound⟩
      | true =>
          have hmatch : Selector.matches? filter d = .ok true := hd ▸ h d List.mem_cons_self
          cases skip with
          | zero =>
              exact ⟨_, true, hmatch, rfl⟩
          | succ skip =>
              rcases ih hrest (passed + 1) skip with ⟨found, hfound⟩
              exact ⟨found, true, hmatch, hfound⟩

/-!
# What is left

Of the documents from its position on, a cursor has still to give those that its
filter takes, less the first ones and no more than some.
-/

def ahead (c : Cursor) (s : Store) : List Document :=
  (s.documents c.collection).drop c.position

def left (c : Cursor) (s : Store) : List Document :=
  Store.page { skip := some c.skip, limit := c.remaining } (taken c.filter (c.ahead s))

def past (c : Cursor) (found : Found) : Cursor :=
  { c with
    position := c.position + found.passed + 1
    skip := found.skip
    remaining := c.remaining.map (· - 1) }

theorem advance_eq_ok {c : Cursor} {s : Store} {d : Document} {after : Cursor}
    (h : c.advance s = .ok (some (d, after))) :
    c.remaining ≠ some 0 ∧ ∃ found, find? c.filter 0 c.skip (c.ahead s) = .ok (some found) ∧
      d = Projection.apply c.projection found.document ∧ after = c.past found := by
  unfold advance at h
  split at h
  · cases h
  · rename_i hremaining
    refine ⟨hremaining, ?_⟩
    rcases bind_eq_ok.mp h with ⟨found, hfound, h⟩
    cases found with
    | none =>
        cases h
    | some found =>
        cases h
        exact ⟨found, hfound, rfl, rfl⟩

theorem advance_eq_none {c : Cursor} {s : Store} (h : c.advance s = .ok none) :
    c.remaining = some 0 ∨ find? c.filter 0 c.skip (c.ahead s) = .ok none := by
  unfold advance at h
  split at h
  · rename_i hremaining
    exact Or.inl hremaining
  · rcases bind_eq_ok.mp h with ⟨found, hfound, h⟩
    cases found with
    | none =>
        exact Or.inr hfound
    | some found =>
        cases h

theorem advance_of_decides {c : Cursor} {s : Store} (h : Decides c.filter (c.ahead s)) :
    ∃ next, c.advance s = .ok next := by
  unfold advance
  split
  · exact ⟨none, rfl⟩
  · rcases find?_of_decides h 0 c.skip with ⟨found, hfound⟩
    cases found with
    | none =>
        exact ⟨none, bind_eq_ok.mpr ⟨none, hfound, rfl⟩⟩
    | some found =>
        exact ⟨_, bind_eq_ok.mpr ⟨some found, hfound, rfl⟩⟩

theorem ahead_past {c : Cursor} {s : Store} {found : Found} {before rest : List Document}
    (h : Reached c.filter 0 c.skip (c.ahead s) found before rest) :
    (c.past found).ahead s = rest := by
  have hposition : (c.past found).position = c.position + (before.length + 1) := by
    show c.position + found.passed + 1 = _
    rw [h.passed]
    omega
  have hahead : (c.past found).ahead s = (c.ahead s).drop (before.length + 1) := by
    unfold ahead
    rw [hposition, List.drop_drop]
    rfl
  have hsplit : c.ahead s = (before ++ [found.document]) ++ rest := by
    rw [h.split, List.append_assoc]
    rfl
  rw [hahead, hsplit]
  exact List.drop_left' (by simp)

theorem left_of_reached {c : Cursor} {s : Store} {found : Found} {before rest : List Document}
    (hremaining : c.remaining ≠ some 0)
    (h : Reached c.filter 0 c.skip (c.ahead s) found before rest) :
    c.left s = found.document :: (c.past found).left s := by
  have htaken : taken c.filter (c.ahead s) =
      taken c.filter before ++ found.document :: taken c.filter rest := by
    rw [h.split]
    simp [taken, Selector.takes_of_matches? h.matched]
  have hdrop : (taken c.filter (c.ahead s)).drop c.skip =
      found.document :: taken c.filter rest := by
    rw [htaken]
    exact List.drop_left' h.skipped
  have hrest : taken (c.past found).filter ((c.past found).ahead s) = taken c.filter rest := by
    rw [ahead_past h]
    rfl
  have hskip : (c.past found).skip = 0 := h.skip
  have hlimit : (c.past found).remaining = c.remaining.map (· - 1) := rfl
  unfold left Store.page
  simp only [Option.getD_some, hdrop, hrest, hskip, hlimit, List.drop_zero]
  cases hc : c.remaining with
  | none =>
      rfl
  | some n =>
      cases n with
      | zero =>
          exact absurd hc hremaining
      | succ n =>
          rfl

theorem left_eq_nil {c : Cursor} {s : Store} (h : c.advance s = .ok none) : c.left s = [] := by
  unfold left Store.page
  rcases advance_eq_none h with hremaining | hnone
  · simp [hremaining]
  · have hdrop : (taken c.filter (c.ahead s)).drop c.skip = [] :=
      List.drop_eq_nil_of_le (decides_of_find?_eq_none hnone).2
    simp only [Option.getD_some, hdrop]
    cases c.remaining <;> simp

end Cursor

/-!
# Streams read to their end
-/

namespace Stream

theorem next_walking (s : Store) (c : Cursor) :
    next s (.walking c) =
      match c.advance s with
      | .error fault => (some (.error (.criteria fault)), ended)
      | .ok none => (none, ended)
      | .ok (some (d, c)) => (some (.ok d), walking c) :=
  rfl

theorem advance_of_next_eq_none {s : Store} {c : Cursor} (h : (next s (.walking c)).1 = none) :
    c.advance s = .ok none := by
  rw [next_walking] at h
  cases hadvance : c.advance s with
  | error fault =>
      rw [hadvance] at h
      cases h
  | ok item =>
      cases item with
      | none =>
          rfl
      | some item =>
          rw [hadvance] at h
          cases h

/-- The stream gives just these documents when it is polled again and again, and after them
nothing any more, whatever becomes of the store. -/
def Yields (s : Store) : Stream → List Document → Prop
  | stream, [] =>
      ∃ after, stream.next s = (none, after) ∧ ∀ later, after.next later = (none, after)
  | stream, d :: rest =>
      ∃ after, stream.next s = (some (.ok d), after) ∧ Yields s after rest

theorem yields_gathered (s : Store) (documents : List Document) :
    Yields s (.gathered documents) documents := by
  induction documents with
  | nil =>
      exact ⟨.ended, rfl, fun _ => rfl⟩
  | cons d rest ih =>
      exact ⟨.gathered rest, rfl, ih⟩

/-- The induction is on what is left, of which every poll takes the first document away. -/
theorem yields_walking {s : Store} {documents : List Document} {c : Cursor}
    (hdecides : Decides c.filter (c.ahead s)) (hleft : c.left s = documents) :
    Yields s (.walking c) (documents.map (Projection.apply c.projection)) := by
  induction documents generalizing c with
  | nil =>
      rcases Cursor.advance_of_decides hdecides with ⟨next, hnext⟩
      cases next with
      | none =>
          exact ⟨.ended, by rw [next_walking, hnext], fun _ => rfl⟩
      | some next =>
          rcases Cursor.advance_eq_ok hnext with ⟨hremaining, found, hfound, _, _⟩
          rcases Cursor.exists_reached hfound with ⟨before, rest, hreached⟩
          rw [Cursor.left_of_reached hremaining hreached] at hleft
          cases hleft
  | cons d rest ih =>
      rcases Cursor.advance_of_decides hdecides with ⟨next, hnext⟩
      cases next with
      | none =>
          rw [Cursor.left_eq_nil hnext] at hleft
          cases hleft
      | some next =>
          rcases next with ⟨given, after⟩
          rcases Cursor.advance_eq_ok hnext with ⟨hremaining, found, hfound, rfl, rfl⟩
          rcases Cursor.exists_reached hfound with ⟨before, others, hreached⟩
          rw [Cursor.left_of_reached hremaining hreached] at hleft
          injection hleft with hd hrest
          have hothers : others.Sublist (c.ahead s) := by
            rw [hreached.split]
            exact (List.sublist_cons_self _ _).trans (List.sublist_append_right _ _)
          have hlater : Decides (c.past found).filter ((c.past found).ahead s) := by
            rw [Cursor.ahead_past hreached]
            exact hdecides.sublist hothers
          refine ⟨.walking (c.past found), ?_, ih hlater hrest⟩
          rw [next_walking, hnext, hd]

theorem drain_of_yields {s : Store} {documents : List Document} {stream : Stream} {fuel : Nat}
    (h : Yields s stream documents) (hfuel : documents.length ≤ fuel) :
    drain s fuel stream = ⟨documents, none⟩ := by
  induction documents generalizing stream fuel with
  | nil =>
      rcases h with ⟨after, hnext, _⟩
      cases fuel with
      | zero =>
          rfl
      | succ fuel =>
          simp only [drain, hnext]
  | cons d rest ih =>
      rcases h with ⟨after, hnext, hrest⟩
      cases fuel with
      | zero =>
          cases hfuel
      | succ fuel =>
          simp only [drain, hnext]
          rw [ih hrest (Nat.le_of_succ_le_succ hfuel)]

end Stream

/-!
# Streams and queries
-/

namespace Store

theorem page_sublist (o : FetchOptions) (documents : List Document) :
    (page o documents).Sublist documents := by
  unfold page
  split
  · exact (List.take_sublist _ _).trans (List.drop_sublist _ _)
  · exact List.drop_sublist _ _

theorem length_left_le (c : Cursor) (s : Store) :
    (c.left s).length ≤ (s.documents c.collection).length := by
  have hpage : (c.left s).length ≤ (taken c.filter (c.ahead s)).length :=
    (page_sublist _ _).length_le
  have htaken : (taken c.filter (c.ahead s)).length ≤ (c.ahead s).length :=
    List.length_filter_le _ _
  have hahead : (c.ahead s).length ≤ (s.documents c.collection).length := by
    simp [Cursor.ahead]
  omega

/-- Where a query succeeds a stream can be opened that yields the same documents, and reading it
does not stop before its end. -/
theorem exists_openStream {s : Store} {collection : String} {filter : Document}
    {o : FetchOptions} {documents : List Document}
    (h : s.query collection filter o = .ok documents) :
    ∃ stream, s.openStream collection filter o = .ok stream ∧
      stream.Yields s documents ∧ stream.feed s = ⟨documents, none⟩ := by
  by_cases hsort : o.sort.isEmpty = true
  · have hquery := h
    simp only [query, bind_eq_ok, mapError_eq_ok, pure_eq_ok] at hquery
    rcases hquery with ⟨found, hselect, rfl⟩
    rcases Selector.select_eq_ok_iff.mp hselect with ⟨hdecides, rfl⟩
    -- Without sort keys the documents stand as they were found.
    have harrange : ∀ found, arrange o found = found := by
      intro found
      simp [arrange, FetchOptions.sortDocument?, hsort]
    let c : Cursor := ⟨collection, filter, o.projection, 0, o.skip.getD 0, o.limit⟩
    have hleft : c.left s = page o (arrange o (taken filter (s.documents collection))) := by
      rw [harrange]
      rfl
    have hyields := Stream.yields_walking (c := c) hdecides hleft
    refine ⟨.walking c, if_pos hsort, hyields, Stream.drain_of_yields hyields ?_⟩
    rw [List.length_map, ← hleft]
    exact Nat.le_succ_of_le (length_left_le c s)
  · have hyields := Stream.yields_gathered s documents
    refine ⟨.gathered documents, ?_, hyields, Stream.drain_of_yields hyields (Nat.le_refl _)⟩
    rw [openStream, if_neg hsort, h]
    rfl

end Store
end DocQuery
