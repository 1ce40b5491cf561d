import DocQuery.Proofs.Store.Cursor
import DocQuery.Proofs.Store.Uniqueness

/-!
# Streams among writes

A stream without sort keys looks at the store at every poll, and other clients
may write between two polls.  Its cursor keeps no more than a position.  All
identifiers that are ever stored have an order, that of their first coming, and
a position cuts this order in two: nothing is given any more that stands before
the cut, and nothing behind it has been given.
-/

namespace DocQuery

open Selector (Decides takes taken)

/-!
# Runs of polls and writes
-/

def storedIds (documents : List Document) : List (Option Value) :=
  documents.map fun d => Keyed.get? d storedIdField

inductive Event where
  | poll
  | write (step : Store.Step)

/-- An item of a stream, with the documents that were stored when it was given. -/
structure Given where
  item : Document
  among : List Document

/-- A stream that is open on a collection, and what has been seen since it was opened. -/
structure Watch where
  store : Store
  stream : Stream
  given : List Given
  /-- The documents of the collection, from the opening on and after every write. -/
  moments : List (List Document)

namespace Watch

def opened (collection : String) (s : Store) (stream : Stream) : Watch :=
  ⟨s, stream, [], [s.documents collection]⟩

/-- A poll that gives a document is noted.  The end of the stream and an error are not. -/
def noted (among : List Document) : Option (Except Error Document) → List Given
  | some (.ok item) => [⟨item, among⟩]
  | _ => []

def after (collection : String) (w : Watch) : Event → Watch
  | .poll =>
      { w with
        stream := (w.stream.next w.store).2
        given := w.given ++ noted (w.store.documents collection) (w.stream.next w.store).1 }
  | .write step =>
      { w with
        store := w.store.after step
        moments := w.moments ++ [(w.store.after step).documents collection] }

def run (collection : String) (w : Watch) (events : List Event) : Watch :=
  events.foldl (after collection) w

/-- No identifier that was stored at one moment and not at a later one is stored again. -/
def NeverReturns (w : Watch) : Prop :=
  ∀ first second third, [first, second, third].Sublist w.moments →
    ∀ id ∈ storedIds first, id ∈ storedIds third → id ∈ storedIds second

end Watch

/-- Writes that leave the documents of a collection their identifiers. -/
def Store.Step.KeepsIds (collection : String) : Store.Step → Prop
  | .update target _ set => target = collection → Keyed.contains set storedIdField = false
  | .drop target => target ≠ collection
  | _ => True

/-!
# The identifiers after a write
-/

namespace Store

theorem get?_insertAll_of_not_contains {set : Document} {field : String}
    (h : Keyed.contains set field = false) (d : Document) :
    Keyed.get? (Keyed.insertAll d set) field = Keyed.get? d field := by
  induction set generalizing d with
  | nil =>
      rfl
  | cons entry rest ih =>
      rcases entry with ⟨k, v⟩
      by_cases hk : k = field
      · simp [Keyed.contains, Keyed.get?, hk] at h
      · have hrest : Keyed.contains rest field = false := by
          simpa [Keyed.contains, Keyed.get?, hk] using h
        have hstep : Keyed.insertAll d ((k, v) :: rest) =
            Keyed.insertAll (Keyed.insert d k v) rest := rfl
        rw [hstep, ih hrest, Keyed.get?_insert_of_ne _ _ hk]

theorem storedIds_updateAll {filter set : Document} {documents updated : List Document} {n : Nat}
    (hset : Keyed.contains set storedIdField = false)
    (h : updateAll filter set documents = .ok (updated, n)) :
    storedIds updated = storedIds documents := by
  rcases Selector.updateAll_eq_ok h with ⟨_, rfl⟩
  unfold storedIds
  rw [List.map_map]
  refine List.map_congr_left ?_
  intro d _
  show Keyed.get? (if takes filter d then Keyed.insertAll d set else d) storedIdField = _
  split
  · exact get?_insertAll_of_not_contains hset d
  · rfl

theorem storedIds_after_self {step : Step} (s : Store) (h : step.KeepsIds step.collection) :
    (∃ added, storedIds ((s.after step).documents step.collection) =
        storedIds (s.documents step.collection) ++ added) ∨
      (∃ filter, step = .delete step.collection filter) ∧
        (storedIds ((s.after step).documents step.collection)).Sublist
          (storedIds (s.documents step.collection)) := by
  cases step with
  | insert collection added =>
      apply Or.inl
      rcases contents_insert s collection added with hsame | ⟨_, hinsert⟩
      · exact ⟨[], by simp [documents, after, Step.collection, hsame]⟩
      · refine ⟨storedIds (withIds s.serial added), ?_⟩
        simp [storedIds, documents, after, Step.collection, hinsert]
  | update collection filter set =>
      refine Or.inl ⟨[], ?_⟩
      rw [List.append_nil]
      rcases contents_update s collection filter set with hsame | ⟨updated, n, hset, _, hupdate⟩
      · simp [documents, after, Step.collection, hsame]
      · simpa [documents, after, Step.collection, hupdate] using
          storedIds_updateAll (h rfl) hset
  | delete collection filter =>
      refine Or.inr ⟨⟨filter, rfl⟩, ?_⟩
      rcases contents_delete s collection filter with hsame | ⟨left, n, hremove, hdelete⟩
      · simp [documents, after, Step.collection, hsame]
      · have hleft : (storedIds left).Sublist (storedIds (s.contents collection).documents) :=
          (removeAll_sublist hremove).map _
        simpa [documents, after, Step.collection, hdelete] using hleft
  | createIndex collection index =>
      refine Or.inl ⟨[], ?_⟩
      rw [List.append_nil]
      rcases contents_createIndex s collection index with hsame | ⟨_, _, hindex⟩
      · simp [documents, after, Step.collection, hsame]
      · simp [documents, after, Step.collection, hindex]
  | drop collection =>
      exact absurd rfl h

theorem storedIds_after {collection : String} {step : Step} (s : Store)
    (h : step.KeepsIds collection) :
    (∃ added, storedIds ((s.after step).documents collection) =
        storedIds (s.documents collection) ++ added) ∨
      (∃ filter, step = .delete collection filter) ∧
        (storedIds ((s.after step).documents collection)).Sublist
          (storedIds (s.documents collection)) := by
  by_cases hself : step.collection = collection
  · cases hself
    exact storedIds_after_self s h
  · have hsame : (s.after step).documents collection = s.documents collection :=
      congrArg Contents.documents (contents_after_of_ne s step hself)
    exact Or.inl ⟨[], by rw [hsame, List.append_nil]⟩

end Store

theorem Contents.Unique.nodup_storedIds {c : Contents} (h : c.Unique) :
    (storedIds c.documents).Nodup := by
  unfold storedIds List.Nodup
  rw [List.pairwise_map]
  refine h.ids.imp ?_
  intro a b hkeys hids
  exact hkeys (congrArg Value.indexKey hids)

/-- A write keeps some of the identifiers, and behind them adds others that are not stored. -/
theorem Store.exists_kept_added {collection : String} {step : Store.Step} (s : Store)
    (h : step.KeepsIds collection) (hunique : ((s.after step).contents collection).Unique) :
    ∃ kept added, storedIds ((s.after step).documents collection) = kept ++ added ∧
      kept.Sublist (storedIds (s.documents collection)) ∧
        ∀ id ∈ added, id ∉ storedIds (s.documents collection) := by
  rcases storedIds_after s h with ⟨added, hadded⟩ | ⟨_, hsub⟩
  · refine ⟨_, added, hadded, List.Sublist.refl _, ?_⟩
    have hdistinct : (storedIds ((s.after step).documents collection)).Nodup :=
      hunique.nodup_storedIds
    rw [hadded] at hdistinct
    intro id hid hmem
    exact (List.nodup_append.mp hdistinct).2.2 id hmem id hid rfl
  · exact ⟨_, [], (List.append_nil _).symm, hsub, fun _ hid => absurd hid List.not_mem_nil⟩

/-!
# Orders cut in two
-/

section Cuts

variable {ids seen ahead : List (Option Value)} {position : Nat}

/-- What stands before a position has been seen, and what stands behind it is ahead. -/
structure Cut (position : Nat) (ids seen ahead : List (Option Value)) : Prop where
  before : (ids.take position).Sublist seen
  behind : (ids.drop position).Sublist ahead

theorem Cut.forward (h : Cut position ids seen ahead) (n : Nat) :
    ∃ passed rest, ahead = passed ++ rest ∧ ((ids.drop position).take n).Sublist passed ∧
      Cut (position + n) ids (seen ++ passed) rest := by
  have hbehind := h.behind
  rw [← List.take_append_drop n (ids.drop position), List.append_sublist_iff] at hbehind
  rcases hbehind with ⟨passed, rest, rfl, hpassed, hrest⟩
  refine ⟨passed, rest, rfl, hpassed, ?_, ?_⟩
  · rw [List.take_add]
    exact h.before.append hpassed
  · rwa [← List.drop_drop]

/-- A write leaves the position where it is.  What it moves before the position has not been
given, and is not given any more. -/
theorem Cut.extend {kept : List (Option Value)} (h : Cut position ids seen ahead)
    (hkept : kept.Sublist ids) (added : List (Option Value)) :
    ∃ passed rest, ahead ++ added = passed ++ rest ∧
      Cut position (kept ++ added) (seen ++ passed) rest := by
  rw [← List.take_append_drop position ids, List.sublist_append_iff] at hkept
  rcases hkept with ⟨front, back, rfl, hfront, hback⟩
  have hlength : front.length ≤ position :=
    Nat.le_trans hfront.length_le (List.length_take_le position ids)
  have hbehind : (back ++ added).Sublist (ahead ++ added) :=
    (hback.trans h.behind).append (List.Sublist.refl added)
  rw [← List.take_append_drop (position - front.length) (back ++ added),
    List.append_sublist_iff] at hbehind
  rcases hbehind with ⟨passed, rest, hsplit, hpassed, hrest⟩
  refine ⟨passed, rest, hsplit, ?_, ?_⟩
  · rw [List.append_assoc, List.take_append, List.take_of_length_le hlength]
    exact (hfront.trans h.before).append hpassed
  · rw [List.append_assoc, List.drop_append, List.drop_of_length_le hlength]
    exact hrest

theorem filter_mem_of_sublist {part all : List (Option Value)} (h : part.Sublist all)
    (hdistinct : all.Nodup) : all.filter (· ∈ part) = part := by
  induction h with
  | slnil =>
      rfl
  | cons id h ih =>
      rw [List.nodup_cons] at hdistinct
      rw [List.filter_cons_of_neg, ih hdistinct.2]
      intro hmem
      exact hdistinct.1 (h.subset (of_decide_eq_true hmem))
  | @cons_cons part all id h ih =>
      rw [List.nodup_cons] at hdistinct
      rw [List.filter_cons_of_pos (by simp)]
      have hrest : all.filter (· ∈ id :: part) = all.filter (· ∈ part) := by
        refine List.filter_congr ?_
        intro other hother
        have hne : other ≠ id := by
          rintro rfl
          exact hdistinct.1 hother
        simp [hne]
      rw [hrest, ih hdistinct.2]

theorem filter_mem_sublist {one other all : List (Option Value)} (hone : one.Sublist all)
    (hother : other.Sublist all) (hdistinct : all.Nodup) :
    (one.filter (· ∈ other)).Sublist other := by
  have h := hone.filter (fun id => decide (id ∈ other))
  rwa [filter_mem_of_sublist hother hdistinct] at h

end Cuts

namespace Watch

/-!
# What is kept by polls and writes
-/

/-- An item is given for a stored document that matches at that time. -/
structure Delivers (filter : Document) (projection : Option Document) (g : Given)
    (source : Document) : Prop where
  stored : source ∈ g.among
  matched : Selector.matches? filter source = .ok true
  item : g.item = Projection.apply projection source

/-- The position of a stream, which is of no interest any more once the stream has ended. -/
structure At (collection : String) (filter : Document) (projection : Option Document)
    (position : Nat) (c : Cursor) : Prop where
  collection : c.collection = collection
  filter : c.filter = filter
  projection : c.projection = projection
  position : c.position = position

theorem At.drop_eq {collection : String} {filter : Document} {projection : Option Document}
    {position : Nat} {c : Cursor} (hc : At collection filter projection position c) {s : Store}
    {found : Cursor.Found} {before rest : List Document}
    (hreached : Cursor.Reached c.filter 0 c.skip (c.ahead s) found before rest) :
    (s.documents collection).drop position = before ++ found.document :: rest := by
  rw [← hreached.split, Cursor.ahead, hc.collection, hc.position]

theorem take_drop_storedIds {documents before rest : List Document} {d : Document}
    {position : Nat} (h : documents.drop position = before ++ d :: rest) :
    ((storedIds documents).drop position).take (before.length + 1) =
      storedIds before ++ [Keyed.get? d storedIdField] := by
  have hsplit : documents.drop position = (before ++ [d]) ++ rest := by
    rw [h, List.append_assoc]
    rfl
  rw [storedIds, ← List.map_drop, hsplit, List.map_append, List.take_left' (by simp),
    List.map_append]
  rfl

/-- A stream that is watched, with the documents that were given so far.  What was seen and what is
ahead are together all identifiers that were ever stored, each once. -/
structure Follows (collection : String) (filter : Document) (projection : Option Document)
    (w : Watch) (sources : List Document) (position : Nat) (seen ahead : List (Option Value)) :
    Prop where
  unique : (w.store.contents collection).Unique
  current : ∃ earlier, w.moments = earlier ++ [w.store.documents collection]
  stream : w.stream = .ended ∨
    ∃ c, w.stream = .walking c ∧ At collection filter projection position c
  cut : Cut position (storedIds (w.store.documents collection)) seen ahead
  distinct : (seen ++ ahead).Nodup
  known : ∀ id ∈ seen ++ ahead, ∃ documents ∈ w.moments, id ∈ storedIds documents
  moments : ∀ documents ∈ w.moments, (storedIds documents).Sublist (seen ++ ahead)
  given : List.Forall₂ (Delivers filter projection) w.given sources
  delivered : (storedIds sources).Sublist seen

/-- What a poll does: it ends the stream, or gives the document that the cursor comes to. -/
theorem after_poll (collection : String) {w : Watch} {c : Cursor} (h : w.stream = .walking c) :
    w.after collection .poll = { w with stream := .ended } ∨
      ∃ found before rest, c.remaining ≠ some 0 ∧
        Cursor.Reached c.filter 0 c.skip (c.ahead w.store) found before rest ∧
          w.after collection .poll =
            { w with
              stream := .walking (c.past found)
              given := w.given ++ [⟨Projection.apply c.projection found.document,
                w.store.documents collection⟩] } := by
  have hnext := Stream.next_walking w.store c
  cases hadvance : c.advance w.store with
  | error fault =>
      apply Or.inl
      simp [after, h, hnext, hadvance, noted]
  | ok next =>
      cases next with
      | none =>
          apply Or.inl
          simp [after, h, hnext, hadvance, noted]
      | some next =>
          rcases next with ⟨item, later⟩
          rcases Cursor.advance_eq_ok hadvance with ⟨hremaining, found, hfound, rfl, rfl⟩
          rcases Cursor.exists_reached hfound with ⟨before, rest, hreached⟩
          refine Or.inr ⟨found, before, rest, hremaining, hreached, ?_⟩
          simp [after, h, hnext, hadvance, noted]

theorem after_poll_ended (collection : String) {w : Watch} (h : w.stream = .ended) :
    w.after collection .poll = w := by
  rcases w with ⟨s, stream, given, moments⟩
  cases h
  simp [after, noted, Stream.next]

theorem Follows.mem_moments {collection : String} {filter : Document}
    {projection : Option Document} {w : Watch} {sources : List Document} {position : Nat}
    {seen ahead : List (Option Value)}
    (h : Follows collection filter projection w sources position seen ahead) :
    w.store.documents collection ∈ w.moments := by
  rcases h.current with ⟨earlier, hcurrent⟩
  rw [hcurrent]
  exact List.mem_append_right _ (List.mem_singleton.mpr rfl)

section Steps

variable {collection : String} {filter : Document} {projection : Option Document} {w : Watch}
  {sources : List Document} {position : Nat} {seen ahead : List (Option Value)}

theorem Follows.ended (h : Follows collection filter projection w sources position seen ahead) :
    Follows collection filter projection { w with stream := .ended } sources position seen ahead :=
  { h with stream := Or.inl rfl }

theorem Follows.found {c : Cursor} {found : Cursor.Found} {before rest : List Document}
    (h : Follows collection filter projection w sources position seen ahead)
    (hc : At collection filter projection position c)
    (hreached : Cursor.Reached c.filter 0 c.skip (c.ahead w.store) found before rest) :
    ∃ seen' ahead', Follows collection filter projection
      { w with
        stream := .walking (c.past found)
        given := w.given ++ [⟨Projection.apply c.projection found.document,
          w.store.documents collection⟩] }
      (sources ++ [found.document]) (position + (before.length + 1)) seen' ahead' := by
  have hahead := hc.drop_eq hreached
  rcases h.cut.forward (before.length + 1) with ⟨passed, later, rfl, hpassed, hcut⟩
  have hgiven : [Keyed.get? found.document storedIdField].Sublist passed := by
    rw [take_drop_storedIds hahead] at hpassed
    exact (List.sublist_append_right _ _).trans hpassed
  have hall : (seen ++ passed) ++ later = seen ++ (passed ++ later) :=
    List.append_assoc seen passed later
  have hmem : found.document ∈ w.store.documents collection := by
    refine List.mem_of_mem_drop (i := position) ?_
    rw [hahead]
    exact List.mem_append_right _ List.mem_cons_self
  refine ⟨seen ++ passed, later, ?_⟩
  exact
    { unique := h.unique
      current := h.current
      stream := Or.inr ⟨c.past found, rfl, hc.collection, hc.filter, hc.projection, by
        show c.position + found.passed + 1 = _
        rw [hc.position, hreached.passed]
        omega⟩
      cut := hcut
      distinct := hall ▸ h.distinct
      known := hall ▸ h.known
      moments := hall ▸ h.moments
      given := by
        refine List.rel_append h.given (List.Forall₂.cons ⟨hmem, ?_, ?_⟩ List.Forall₂.nil)
        · rw [← hc.filter]
          exact hreached.matched
        · rw [hc.projection]
      delivered := by
        rw [storedIds, List.map_append]
        exact h.delivered.append hgiven }

theorem Follows.stored_of_after {step : Store.Step}
    (h : Follows collection filter projection w sources position seen ahead)
    (hreturn : (w.after collection (.write step)).NeverReturns) {id : Option Value}
    (hid : id ∈ seen ++ ahead)
    (hafter : id ∈ storedIds ((w.store.after step).documents collection)) :
    id ∈ storedIds (w.store.documents collection) := by
  rcases h.current with ⟨earlier, hcurrent⟩
  rcases h.known id hid with ⟨documents, hdocuments, hmem⟩
  rw [hcurrent, List.mem_append, List.mem_singleton] at hdocuments
  rcases hdocuments with hdocuments | rfl
  · refine hreturn documents _ _ ?_ id hmem hafter
    show List.Sublist _ (w.moments ++ [_])
    rw [hcurrent, List.append_assoc]
    exact (List.singleton_sublist.mpr hdocuments).append (List.Sublist.refl _)
  · exact hmem

/-- Only identifiers are added that are not stored, and these have never been. -/
theorem Follows.write {step : Store.Step}
    (h : Follows collection filter projection w sources position seen ahead)
    (hstep : step.KeepsIds collection)
    (hreturn : (w.after collection (.write step)).NeverReturns) :
    ∃ seen' ahead', Follows collection filter projection (w.after collection (.write step)) sources
      position seen' ahead' := by
  have hunique : ((w.store.after step).contents collection).Unique :=
    h.unique.change (Store.change_after w.store step collection)
  rcases Store.exists_kept_added w.store hstep hunique with ⟨kept, added, hids, hkept, hnew⟩
  rcases h.cut.extend hkept added with ⟨passed, rest, hsplit, hcut⟩
  have hall : (seen ++ passed) ++ rest = (seen ++ ahead) ++ added := by
    rw [List.append_assoc, ← hsplit, List.append_assoc]
  refine ⟨seen ++ passed, rest, ?_⟩
  exact
    { unique := hunique
      current := ⟨w.moments, rfl⟩
      stream := h.stream
      cut := hids ▸ hcut
      distinct := by
        have hdistinct : (storedIds ((w.store.after step).documents collection)).Nodup :=
          hunique.nodup_storedIds
        rw [hids] at hdistinct
        rw [hall, List.nodup_append]
        refine ⟨h.distinct, (List.nodup_append.mp hdistinct).2.1, ?_⟩
        rintro id hid other hother rfl
        refine hnew id hother (h.stored_of_after hreturn hid ?_)
        rw [hids]
        exact List.mem_append_right _ hother
      known := by
        rw [hall]
        intro id hid
        rcases List.mem_append.mp hid with hid | hid
        · rcases h.known id hid with ⟨documents, hdocuments, hmem⟩
          exact ⟨documents, List.mem_append_left _ hdocuments, hmem⟩
        · refine ⟨_, List.mem_append_right _ (List.mem_singleton.mpr rfl), ?_⟩
          rw [hids]
          exact List.mem_append_right _ hid
      moments := by
        intro documents hdocuments
        rcases List.mem_append.mp hdocuments with hdocuments | hdocuments
        · rw [hall]
          exact (h.moments documents hdocuments).trans (List.sublist_append_left _ _)
        · rw [List.mem_singleton.mp hdocuments, hids,
            ← List.take_append_drop position (kept ++ added)]
          exact hcut.before.append hcut.behind
      given := h.given
      delivered := h.delivered.trans (List.sublist_append_left _ _) }

/-!
# What is covered without deletions

As long as no document is deleted, positions keep their documents.  A stream that
skips nothing passes over a document only when it does not match.
-/

/-- Whenever a document was stored under the identifier, it matched. -/
def MatchesThroughout (filter : Document) (w : Watch) (id : Option Value) : Prop :=
  ∀ documents ∈ w.moments, ∀ d ∈ documents, Keyed.get? d storedIdField = id →
    Selector.matches? filter d = .ok true

structure Covers (collection : String) (filter : Document) (w : Watch) (sources : List Document)
    (position : Nat) : Prop where
  cursor : ∀ c, w.stream = .walking c → c.skip = 0 ∧ c.remaining = none
  kept : ∀ documents ∈ w.moments, storedIds documents ⊆
    storedIds (w.store.documents collection)
  bounded : position ≤ (w.store.documents collection).length
  passed : ∀ id ∈ (storedIds (w.store.documents collection)).take position,
    MatchesThroughout filter w id → id ∈ storedIds sources

theorem Covers.ended (h : Covers collection filter w sources position) :
    Covers collection filter { w with stream := .ended } sources position :=
  { h with cursor := fun _ hc => nomatch hc }

theorem Covers.found {c : Cursor} {found : Cursor.Found} {before rest : List Document}
    {given : List Given} (h : Covers collection filter w sources position)
    (hcurrent : w.store.documents collection ∈ w.moments)
    (hstream : w.stream = .walking c) (hc : At collection filter projection position c)
    (hreached : Cursor.Reached c.filter 0 c.skip (c.ahead w.store) found before rest) :
    Covers collection filter { w with stream := .walking (c.past found), given }
      (sources ++ [found.document]) (position + (before.length + 1)) := by
  have hahead := hc.drop_eq hreached
  rcases h.cursor c hstream with ⟨hskip, hremaining⟩
  constructor
  · intro later hlater
    cases hlater
    refine ⟨hreached.skip, ?_⟩
    show c.remaining.map (· - 1) = none
    rw [hremaining]
    rfl
  · exact h.kept
  · have hlength := congrArg List.length hahead
    simp only [List.length_drop, List.length_append, List.length_cons] at hlength
    show _ ≤ (w.store.documents collection).length
    omega
  · show ∀ id ∈ (storedIds (w.store.documents collection)).take _, _
    rw [List.take_add, take_drop_storedIds hahead]
    intro id hid hmatches
    rw [storedIds, List.map_append]
    rcases List.mem_append.mp hid with hid | hid
    · exact List.mem_append_left _ (h.passed id hid hmatches)
    · rcases List.mem_append.mp hid with hid | hid
      · -- Nothing is skipped, so that what was passed over did not match.
        rcases List.mem_map.mp hid with ⟨d, hd, hname⟩
        have hmem : d ∈ w.store.documents collection := by
          refine List.mem_of_mem_drop (i := position) ?_
          rw [hahead]
          exact List.mem_append_left _ hd
        have hnone : taken c.filter before = [] :=
          List.eq_nil_of_length_eq_zero (hreached.skipped.trans hskip)
        refine absurd (hmatches _ hcurrent d hmem hname) ?_
        rw [← hc.filter]
        exact Selector.not_matches_of_taken_eq_nil hnone hd
      · rw [List.mem_singleton.mp hid]
        exact List.mem_append_right _ (List.mem_singleton.mpr rfl)

theorem Covers.write {step : Store.Step} (h : Covers collection filter w sources position)
    (hstep : step.KeepsIds collection) (hdelete : ∀ f, step ≠ .delete collection f) :
    Covers collection filter (w.after collection (.write step)) sources position := by
  rcases Store.storedIds_after w.store hstep with ⟨added, hadded⟩ | ⟨⟨f, hf⟩, _⟩
  · have hlength : (w.store.documents collection).length ≤
        ((w.store.after step).documents collection).length := by
      have hids := congrArg List.length hadded
      simp only [storedIds, List.length_map, List.length_append] at hids
      omega
    have htake : (storedIds ((w.store.after step).documents collection)).take position =
        (storedIds (w.store.documents collection)).take position := by
      rw [hadded]
      refine List.take_append_of_le_length ?_
      rw [storedIds, List.length_map]
      exact h.bounded
    refine ⟨h.cursor, ?_, Nat.le_trans h.bounded hlength, ?_⟩
    · intro documents hdocuments
      show _ ⊆ storedIds ((w.store.after step).documents collection)
      rcases List.mem_append.mp hdocuments with hdocuments | hdocuments
      · rw [hadded]
        exact List.subset_append_of_subset_left _ (h.kept documents hdocuments)
      · rw [List.mem_singleton.mp hdocuments]
        exact List.Subset.refl _
    show ∀ id ∈ (storedIds ((w.store.after step).documents collection)).take position, _
    rw [htake]
    intro id hid hmatches
    exact h.passed id hid fun documents hdocuments =>
      hmatches documents (List.mem_append_left _ hdocuments)
  · exact absurd hf (hdelete f)

/-!
# Runs
-/

theorem Follows.after {e : Event}
    (h : Follows collection filter projection w sources position seen ahead)
    (hwrite : ∀ step, e = .write step → step.KeepsIds collection)
    (hreturn : (w.after collection e).NeverReturns) :
    ∃ sources' position' seen' ahead',
      Follows collection filter projection (w.after collection e) sources' position' seen' ahead' ∧
        ((∀ f, e ≠ .write (.delete collection f)) → Covers collection filter w sources position →
          Covers collection filter (w.after collection e) sources' position') := by
  cases e with
  | poll =>
      rcases h.stream with hended | ⟨c, hstream, hc⟩
      · rw [after_poll_ended collection hended]
        exact ⟨sources, position, seen, ahead, h, fun _ hcovers => hcovers⟩
      · rcases after_poll collection hstream with hafter | ⟨found, before, rest, _, hreached, hafter⟩
        · rw [hafter]
          exact ⟨sources, position, seen, ahead, h.ended, fun _ hcovers => hcovers.ended⟩
        · rw [hafter]
          rcases h.found hc hreached with ⟨seen', ahead', hfollows⟩
          refine ⟨_, _, seen', ahead', hfollows, fun _ hcovers => ?_⟩
          exact hcovers.found h.mem_moments hstream hc hreached
  | write step =>
      have hstep := hwrite step rfl
      rcases h.write hstep hreturn with ⟨seen', ahead', hfollows⟩
      refine ⟨sources, position, seen', ahead', hfollows, fun hdelete hcovers => ?_⟩
      refine hcovers.write hstep ?_
      rintro f rfl
      exact hdelete f rfl

end Steps

theorem moments_sublist_run (collection : String) (w : Watch) (events : List Event) :
    w.moments.Sublist (w.run collection events).moments := by
  induction events generalizing w with
  | nil =>
      exact List.Sublist.refl _
  | cons e rest ih =>
      refine List.Sublist.trans ?_ (ih (w.after collection e))
      cases e with
      | poll =>
          exact List.Sublist.refl _
      | write step =>
          exact List.sublist_append_left _ _

/-- The induction is on the events.  What is forbidden in all of the run is so in each part. -/
theorem Follows.run {collection : String} {filter : Document} {projection : Option Document}
    {w : Watch} {sources : List Document} {position : Nat} {seen ahead : List (Option Value)}
    (h : Follows collection filter projection w sources position seen ahead) {events : List Event}
    (hwrites : ∀ step, .write step ∈ events → step.KeepsIds collection)
    (hreturn : (w.run collection events).NeverReturns) :
    ∃ sources' position' seen' ahead',
      Follows collection filter projection (w.run collection events) sources' position' seen'
          ahead' ∧
        ((∀ f, .write (.delete collection f) ∉ events) →
          Covers collection filter w sources position →
            Covers collection filter (w.run collection events) sources' position') := by
  induction events generalizing w sources position seen ahead with
  | nil =>
      exact ⟨sources, position, seen, ahead, h, fun _ hcovers => hcovers⟩
  | cons e rest ih =>
      have hfirst : (w.after collection e).NeverReturns := by
        intro first second third hsub
        exact hreturn first second third
          (hsub.trans (moments_sublist_run collection (w.after collection e) rest))
      have hwrite : ∀ step, e = .write step → step.KeepsIds collection := by
        rintro step rfl
        exact hwrites step List.mem_cons_self
      rcases h.after hwrite hfirst with ⟨sources₁, position₁, seen₁, ahead₁, hafter, hcovers⟩
      have hrest : ∀ step, .write step ∈ rest → step.KeepsIds collection :=
        fun step hstep => hwrites step (List.mem_cons_of_mem e hstep)
      rcases ih hafter hrest hreturn with ⟨sources₂, position₂, seen₂, ahead₂, hrun, hcovers'⟩
      refine ⟨sources₂, position₂, seen₂, ahead₂, hrun, ?_⟩
      intro hdelete hstart
      refine hcovers' (fun f hf => hdelete f (List.mem_cons_of_mem e hf)) (hcovers ?_ hstart)
      rintro f rfl
      exact hdelete f List.mem_cons_self

/-!
# Streams that are watched from the opening on
-/

theorem follows_opened {collection : String} {filter : Document} {o : FetchOptions} {s : Store}
    (hunique : (s.contents collection).Unique) :
    Follows collection filter o.projection
      (opened collection s
        (.walking ⟨collection, filter, o.projection, 0, o.skip.getD 0, o.limit⟩))
      [] 0 [] (storedIds (s.documents collection)) where
  unique := hunique
  current := ⟨[], rfl⟩
  stream := Or.inr ⟨_, rfl, rfl, rfl, rfl, rfl⟩
  cut := ⟨List.Sublist.refl _, List.Sublist.refl _⟩
  distinct := hunique.nodup_storedIds
  known id hid := ⟨_, List.mem_singleton.mpr rfl, hid⟩
  moments documents hdocuments := by
    rw [List.mem_singleton.mp hdocuments]
    exact List.Sublist.refl _
  given := List.Forall₂.nil
  delivered := List.Sublist.refl _

theorem covers_opened {collection : String} {filter : Document} {o : FetchOptions} (s : Store)
    (hskip : o.skip.getD 0 = 0) (hlimit : o.limit = none) :
    Covers collection filter
      (opened collection s
        (.walking ⟨collection, filter, o.projection, 0, o.skip.getD 0, o.limit⟩)) [] 0 where
  cursor c hc := by
    cases hc
    exact ⟨hskip, hlimit⟩
  kept documents hdocuments := by
    rw [List.mem_singleton.mp hdocuments]
    exact List.Subset.refl _
  bounded := Nat.zero_le _
  passed id hid _ := absurd hid List.not_mem_nil

def Ends (w : Watch) : Prop :=
  w.stream ≠ .ended ∧ (w.stream.next w.store).1 = none

/-- Nothing is given twice, and what has been given stands in the store in the order in which it
was given, as far as it is stored. -/
structure InOrder (filter : Document) (projection : Option Document) (w : Watch)
    (sources : List Document) : Prop where
  given : List.Forall₂ (Delivers filter projection) w.given sources
  once : (storedIds sources).Nodup
  ordered : ∀ documents ∈ w.moments,
    ((storedIds sources).filter (· ∈ storedIds documents)).Sublist (storedIds documents)

theorem Follows.inOrder {collection : String} {filter : Document} {projection : Option Document}
    {w : Watch} {sources : List Document} {position : Nat} {seen ahead : List (Option Value)}
    (h : Follows collection filter projection w sources position seen ahead) :
    InOrder filter projection w sources where
  given := h.given
  once := (h.delivered.trans (List.sublist_append_left _ _)).nodup h.distinct
  ordered documents hdocuments :=
    filter_mem_sublist (h.delivered.trans (List.sublist_append_left _ _))
      (h.moments documents hdocuments) h.distinct

theorem Covers.complete {collection : String} {filter : Document} {projection : Option Document}
    {w : Watch} {sources : List Document} {position : Nat} {seen ahead : List (Option Value)}
    (h : Covers collection filter w sources position)
    (hfollows : Follows collection filter projection w sources position seen ahead)
    (hends : w.Ends) :
    ∀ documents ∈ w.moments, ∀ id ∈ storedIds documents, MatchesThroughout filter w id →
      id ∈ storedIds sources := by
  intro documents hdocuments id hid hmatches
  have hstored := h.kept documents hdocuments hid
  rw [← List.take_append_drop position (storedIds _)] at hstored
  rcases List.mem_append.mp hstored with hpassed | hahead
  · exact h.passed id hpassed hmatches
  · rcases hfollows.stream with hended | ⟨c, hstream, hc⟩
    · exact absurd hended hends.1
    · rw [storedIds, ← List.map_drop] at hahead
      rcases List.mem_map.mp hahead with ⟨d, hd, hname⟩
      have hmatch := hmatches _ hfollows.mem_moments d (List.mem_of_mem_drop hd) hname
      rcases h.cursor c hstream with ⟨hskip, hremaining⟩
      have hadvance : c.advance w.store = .ok none := by
        have hnext := hends.2
        rw [hstream] at hnext
        exact Stream.advance_of_next_eq_none hnext
      rcases Cursor.advance_eq_none hadvance with hlimit | hnone
      · rw [hremaining] at hlimit
        cases hlimit
      · have hlength := (Cursor.decides_of_find?_eq_none hnone).2
        rw [Cursor.ahead, hc.collection, hc.position, hc.filter, hskip] at hlength
        have htaken : taken filter ((w.store.documents collection).drop position) = [] :=
          List.eq_nil_of_length_eq_zero (Nat.le_zero.mp hlength)
        exact absurd hmatch (Selector.not_matches_of_taken_eq_nil htaken hd)

/-- A stream without sort keys, opened on a store that writes of whatever clients have led to, and
then polled while clients go on writing.  No identifier is changed, and none comes back.  Every item
is given for a document that is stored and matches at that time, no document twice, and all of them
in the order in which they are stored.  If no document is deleted and the stream skips nothing and
has no limit, it ends only when every document was given that has matched ever since it was there. -/
theorem given_among_writes (serial : Nat) (steps : List Store.Step) {collection : String}
    {filter : Document} {o : FetchOptions} (hsort : o.sort = []) {stream : Stream}
    (hopen : (Store.run ⟨[], serial⟩ steps).openStream collection filter o = .ok stream)
    {events : List Event} (hwrites : ∀ step, .write step ∈ events → step.KeepsIds collection)
    {w : Watch}
    (hw : w = (opened collection (Store.run ⟨[], serial⟩ steps) stream).run collection events)
    (hreturn : w.NeverReturns) :
    ∃ sources, InOrder filter o.projection w sources ∧
      ((∀ f, .write (.delete collection f) ∉ events) → o.skip.getD 0 = 0 → o.limit = none →
        w.Ends → ∀ documents ∈ w.moments, ∀ d ∈ documents,
          MatchesThroughout filter w (Keyed.get? d storedIdField) →
            Keyed.get? d storedIdField ∈ storedIds sources) := by
  cases hw
  have hstream : .walking ⟨collection, filter, o.projection, 0, o.skip.getD 0, o.limit⟩ = stream := by
    rw [Store.openStream, hsort] at hopen
    exact Except.ok.inj hopen
  cases hstream
  have hunique := Store.unique_contents_run serial steps collection
  have hstart : Follows collection filter o.projection _ [] 0 [] _ := follows_opened hunique
  rcases hstart.run hwrites hreturn with ⟨sources, position, seen, ahead, hfollows, hcovers⟩
  refine ⟨sources, hfollows.inOrder, ?_⟩
  intro hdelete hskip hlimit hends documents hdocuments d hd hmatches
  have hall := hcovers hdelete (covers_opened _ hskip hlimit)
  exact hall.complete hfollows hends documents hdocuments _ (List.mem_map_of_mem hd) hmatches

def namedPets : List Store.Step :=
  [.insert "pets"
    [[(storedIdField, .int32 1), ("name", .string "Rex")], [(storedIdField, .int32 2)]]]

def rexFilter : Document :=
  [("name", .string "Rex")]

/-- Between two polls the other pet gets its name, and a third one comes. -/
def naming : List Event :=
  [.poll, .write (.update "pets" [(storedIdField, .int32 2)] rexFilter),
    .write (.insert "pets" [[("name", .string "Rex"), (storedIdField, .int32 3)]]), .poll, .poll]

def namingWatch : Watch :=
  (opened "pets" (Store.run ⟨[], 0⟩ namedPets)
    (.walking ⟨"pets", rexFilter, none, 0, 0, none⟩)).run "pets" naming

theorem given_among_writes_naming :
    namingWatch.NeverReturns ∧ ∃ sources, InOrder rexFilter none namingWatch sources ∧
      some (.int32 1) ∈ storedIds sources ∧ some (.int32 3) ∈ storedIds sources := by
  have hmoments : namingWatch.moments.map storedIds =
      [[some (.int32 1), some (.int32 2)], [some (.int32 1), some (.int32 2)],
        [some (.int32 1), some (.int32 2), some (.int32 3)]] := by
    decide +kernel
  have hreturn : namingWatch.NeverReturns := by
    intro first second third hsub
    have hids := hsub.map storedIds
    rw [hmoments] at hids
    have heq := hids.eq_of_length rfl
    simp only [List.map_cons, List.map_nil, List.cons.injEq, and_true] at heq
    rw [heq.1, heq.2.1]
    intro id hid _
    exact hid
  have hwrites : ∀ step, Event.write step ∈ naming → step.KeepsIds "pets" := by
    intro step hstep
    simp only [naming, List.mem_cons, Event.write.injEq, reduceCtorEq, false_or,
      List.not_mem_nil, or_false] at hstep
    rcases hstep with rfl | rfl
    · exact fun _ => by decide
    · trivial
  have hdelete : ∀ f, Event.write (.delete "pets" f) ∉ naming := by
    intro f hf
    simp [naming] at hf
  have hends : namingWatch.Ends := by
    have hstream : namingWatch.stream = .walking ⟨"pets", rexFilter, none, 3, 0, none⟩ := by
      rfl
    constructor
    · rw [hstream]
      intro h
      cases h
    · rw [hstream]
      rfl
  have hmatches : ∀ documents ∈ namingWatch.moments, ∀ d ∈ documents,
      Keyed.get? d storedIdField ≠ some (.int32 2) →
        (Selector.matches? rexFilter d).toOption = some true := by
    decide +kernel
  have hstored : ∀ id ∈ [some (Value.int32 1), some (.int32 3)],
      ∃ documents ∈ namingWatch.moments, ∃ d ∈ documents, Keyed.get? d storedIdField = id := by
    decide +kernel
  rcases given_among_writes 0 namedPets (o := {}) rfl rfl hwrites rfl hreturn with
    ⟨sources, hinOrder, hcomplete⟩
  have hgiven : ∀ id ∈ [some (Value.int32 1), some (.int32 3)], id ∈ storedIds sources := by
    intro id hid
    rcases hstored id hid with ⟨documents, hdocuments, d, hd, rfl⟩
    refine hcomplete hdelete rfl rfl hends documents hdocuments d hd ?_
    intro others hothers other hother hname
    refine Outcome.toOption_eq_some.mp (hmatches others hothers other hother ?_)
    rw [hname]
    rintro h
    rw [h] at hid
    revert hid
    decide
  exact ⟨hreturn, sources, hinOrder, hgiven _ (by simp), hgiven _ (by simp)⟩

end Watch
end DocQuery
