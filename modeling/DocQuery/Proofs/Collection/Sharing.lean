import DocQuery.Proofs.Collection.Destroy
import DocQuery.Proofs.Collection.RoundTrips
import DocQuery.Proofs.Collection.Update
import Mathlib.Data.List.Pairwise

/-!
# Operations among the writes of others

An operation asks a store for several things, and between two of its requests
other clients may write whatever they like.  What an update or a destruction has
looked up may not be there any more when it writes, and it writes what it has not
looked up.  Each request goes by the documents that it finds.
-/

namespace DocQuery

open Outcome
open Program (Conversation)
open Selector (takes taken untaken)
open Uniqueness (idsOf)

/-!
# Sharing a store
-/

/-- A request, and the store that it found. -/
structure Moment where
  request : Request
  found : Store

namespace Moment

def left (collection : String) (m : Moment) : Store :=
  (Store.answer collection m.found m.request).2

def exchange (collection : String) (m : Moment) : Exchange :=
  ⟨m.request, (Store.answer collection m.found m.request).1⟩

@[simp] theorem left_query (collection : String) (filter : Document) (options : FetchOptions)
    (s : Store) : left collection ⟨.query filter options, s⟩ = s :=
  rfl

theorem cons_of_exchange {collection : String} {moments : List Moment} {r : Request}
    {answer : r.Answer} {talk : List Exchange}
    (h : moments.map (exchange collection) = ⟨r, answer⟩ :: talk) :
    ∃ s rest, moments = ⟨r, s⟩ :: rest ∧ (Store.answer collection s r).1 = answer ∧
      rest.map (exchange collection) = talk := by
  rcases List.map_eq_cons_iff.mp h with ⟨⟨request, s⟩, rest, rfl, hfirst, hrest⟩
  cases hfirst
  exact ⟨s, rest, rfl, rfl, hrest⟩

end Moment

/-- A run before each request of which others write to the store.  Their writes are given in
order, those before the first request, those before the second, and so on. -/
def Program.share (collection : String) :
    Program α → Store → List (List Store.Step) → List Moment × Except Error α
  | done result, _, _ => ([], result)
  | ask r next, s, others =>
      let found := s.run (others.headD [])
      let (answer, left) := Store.answer collection found r
      let (moments, result) := share collection (next answer) left others.tail
      (⟨r, found⟩ :: moments, result)

namespace Program

theorem share_nil (collection : String) (p : Program α) (s : Store) :
    (p.share collection s []).2 = (p.run (Store.answer collection) s).1 := by
  induction p generalizing s with
  | done result =>
      rfl
  | ask r next ih =>
      exact ih _ _

theorem conversation_share (collection : String) (p : Program α) (s : Store)
    (others : List (List Store.Step)) :
    Conversation p ((p.share collection s others).1.map (Moment.exchange collection))
      (p.share collection s others).2 := by
  induction p generalizing s others with
  | done result =>
      exact Conversation.done
  | ask r next ih =>
      exact Conversation.ask (ih _ _ _)

/-- What all changes keep of the contents of a collection holds at every moment. -/
theorem share_invariant {collection : String} {inv : Contents → Prop}
    (hchange : ∀ {c c' : Contents}, inv c → Contents.Change collection c c' → inv c')
    (p : Program α) {s : Store} (hs : inv (s.contents collection))
    (others : List (List Store.Step)) :
    ∀ m ∈ (p.share collection s others).1, inv (m.found.contents collection) := by
  induction p generalizing s others with
  | done result =>
      exact fun _ hm => absurd hm List.not_mem_nil
  | ask r next ih =>
      have hfound : inv ((s.run (others.headD [])).contents collection) :=
        Store.run_induction hchange s hs _
      refine List.forall_mem_cons.mpr ⟨hfound, ?_⟩
      exact ih _ (hchange hfound (Store.change_answer _ collection r)) others.tail

end Program

theorem Prepared.of_ok {plan : Except Error α} {follow : α → Course β} {talk : List Exchange}
    {b : β} (h : Prepared plan follow talk (.ok b)) :
    ∃ a, plan = .ok a ∧ follow a talk (.ok b) := by
  cases h with
  | ready hplan hfollow => exact ⟨_, hplan, hfollow⟩

/-!
# What requests come to
-/

namespace Store

theorem query_identifiersOnly {s : Store} {collection : String} {filter : Document}
    {documents : List Document}
    (h : s.query collection filter .identifiersOnly = .ok documents) :
    idsOf documents = idsOf (taken filter (s.documents collection)) := by
  simp only [query, bind_eq_ok, pure_eq_ok, mapError_eq_ok] at h
  rcases h with ⟨found, hfound, rfl⟩
  rcases Selector.select_eq_ok_iff.mp hfound with ⟨_, rfl⟩
  exact idsOf_identifiersOnly _

theorem eq_of_same_id {s : Store} {collection : String} (h : (s.contents collection).Unique)
    {d e : Document} (hd : d ∈ s.documents collection) (he : e ∈ s.documents collection)
    (hid : Keyed.get? d storedIdField = Keyed.get? e storedIdField) : d = e := by
  by_contra hne
  have hsymm : Std.Symm fun a b => Uniqueness.idKey a ≠ Uniqueness.idKey b :=
    ⟨fun _ _ => Ne.symm⟩
  exact h.ids.forall hd he hne (congrArg Value.indexKey hid)

end Store

namespace Collection

/-!
# Destroying
-/

/-- The documents that the filter takes when they are deleted, and no others, are gone. -/
structure Deletes (collection : String) (filter : Document) (found left : Store) : Prop where
  replaced : found.Replaced collection
    { found.contents collection with documents := untaken filter (found.documents collection) } left
  gone : ∀ d ∈ found.documents collection, takes filter d = true →
    ∀ e ∈ left.documents collection, Keyed.get? e storedIdField ≠ Keyed.get? d storedIdField
  kept : ∀ d ∈ found.documents collection, takes filter d = false → d ∈ left.documents collection

/-- The moments of a destruction, and what it gives back.  The identifiers are those of the
documents that were looked up, and others may have been deleted. -/
inductive DestroyedAmong (c : Collection) (filter : Document) :
    List Moment → List Document → Prop where
  | nothing {lookup : Store} (hnone : taken filter (lookup.documents c.identity) = []) :
      DestroyedAmong c filter [⟨.query filter .identifiersOnly, lookup⟩] []
  | deleted {lookup found : Store} {rows : List Document}
      (hsome : taken filter (lookup.documents c.identity) ≠ [])
      (hrows : List.Forall₂ Identifies (taken filter (lookup.documents c.identity)) rows)
      (hdeletes : Deletes c.identity filter found
        (Moment.left c.identity ⟨.delete filter, found⟩)) :
      DestroyedAmong c filter
        [⟨.query filter .identifiersOnly, lookup⟩, ⟨.delete filter, found⟩] rows

/-!
# Updating
-/

/-- The documents that the filter takes when they are written, and no others, are written over. -/
structure Overwrites (collection : String) (filter encoded : Document) (found left : Store) :
    Prop where
  replaced : found.Replaced collection
    { found.contents collection with
      documents := (found.documents collection).map fun d =>
        if takes filter d then overwrite encoded d else d } left
  written : ∀ d ∈ found.documents collection, takes filter d = true →
    overwrite encoded d ∈ left.documents collection ∧ Overwritten encoded d (overwrite encoded d)
  kept : ∀ d ∈ found.documents collection, takes filter d = false → d ∈ left.documents collection

def HaveObjectIds (documents : List Document) : Prop :=
  ∀ d ∈ documents, ∃ id, Keyed.get? d storedIdField = some (.objectId id)

/-- What is given back is read after the write, by the identifiers that were looked up before it.
Where these are object identifiers each of them stands for its own document. -/
structure ReadAgain (c : Collection) (filter : Document) (lookup reread : Store)
    (rows : List Document) : Prop where
  among : rows = ((reread.documents c.identity).filter
    (isAmong (idsOf (taken filter (lookup.documents c.identity))))).map c.schema.decode
  still : HaveObjectIds (lookup.documents c.identity) →
    HaveObjectIds (reread.documents c.identity) →
      rows = ((reread.documents c.identity).filter fun d =>
        (taken filter (lookup.documents c.identity)).any fun e =>
          Keyed.get? e storedIdField = Keyed.get? d storedIdField).map c.schema.decode

/-- The moments of an update, and what it gives back. -/
inductive UpdatedAmong (c : Collection) (filter encoded : Document) :
    List Moment → List Document → Prop where
  | nothing {lookup : Store} (hnone : taken filter (lookup.documents c.identity) = []) :
      UpdatedAmong c filter encoded [⟨.query filter .identifiersOnly, lookup⟩] []
  | unwritten {lookup reread : Store} {rows : List Document}
      (hsome : taken filter (lookup.documents c.identity) ≠ [])
      (hset : Keyed.erase encoded storedIdField = [])
      (hread : ReadAgain c filter lookup reread rows) :
      UpdatedAmong c filter encoded
        [⟨.query filter .identifiersOnly, lookup⟩,
          ⟨.query (byIdentifiers (idsOf (taken filter (lookup.documents c.identity)))) {}, reread⟩]
        rows
  | written {lookup found reread : Store} {rows : List Document}
      (hsome : taken filter (lookup.documents c.identity) ≠ [])
      (hset : Keyed.erase encoded storedIdField ≠ [])
      (hoverwrites : Overwrites c.identity filter encoded found
        (Moment.left c.identity ⟨.update filter (Keyed.erase encoded storedIdField), found⟩))
      (hread : ReadAgain c filter lookup reread rows) :
      UpdatedAmong c filter encoded
        [⟨.query filter .identifiersOnly, lookup⟩,
          ⟨.update filter (Keyed.erase encoded storedIdField), found⟩,
          ⟨.query (byIdentifiers (idsOf (taken filter (lookup.documents c.identity)))) {}, reread⟩]
        rows

/-!
# From courses to moments
-/

theorem idsOf_taken_eq_nil_iff {filter : Document} {s : Store} {collection : String}
    (hids : ∀ d ∈ s.documents collection, Keyed.contains d storedIdField = true) :
    idsOf (taken filter (s.documents collection)) = [] ↔
      taken filter (s.documents collection) = [] := by
  constructor
  · exact eq_nil_of_idsOf_eq_nil fun d hd => hids d (List.mem_of_mem_filter hd)
  · intro hnone
    rw [hnone]
    rfl

theorem deletes_of_answer {collection : String} {filter : Document} {found : Store}
    (hunique : (found.contents collection).Unique) {a : Acknowledgement}
    (h : (Store.answer collection found (.delete filter)).1 = .ok a) :
    Deletes collection filter found (Moment.left collection ⟨.delete filter, found⟩) := by
  rcases (found.delete_allOrNothing collection filter).ok h with ⟨_, _, hreplaced⟩
  have hleft : (Moment.left collection ⟨.delete filter, found⟩).documents collection =
      untaken filter (found.documents collection) := hreplaced.documents
  refine ⟨hreplaced, ?_, ?_⟩
  · intro d hd htakes e he hid
    rw [hleft] at he
    rcases List.mem_filter.mp he with ⟨hfound, huntaken⟩
    rw [Store.eq_of_same_id hunique hfound hd hid, htakes] at huntaken
    cases huntaken
  · intro d hd htakes
    rw [hleft]
    exact List.mem_filter.mpr ⟨hd, by rw [htakes]; rfl⟩

theorem overwrites_of_answer {collection : String} {filter encoded : Document} {found : Store}
    (hencoded : (Keyed.keys encoded).Nodup) {a : Acknowledgement}
    (h : (Store.answer collection found
      (.update filter (Keyed.erase encoded storedIdField))).1 = .ok a) :
    Overwrites collection filter encoded found
      (Moment.left collection ⟨.update filter (Keyed.erase encoded storedIdField), found⟩) := by
  rcases (found.update_allOrNothing collection filter _).ok h with ⟨_, _, hreplaced⟩
  have hleft : (Moment.left collection
      ⟨.update filter (Keyed.erase encoded storedIdField), found⟩).documents collection =
        (found.documents collection).map fun d =>
          if takes filter d then overwrite encoded d else d := hreplaced.documents
  refine ⟨hreplaced, ?_, ?_⟩
  · intro d hd htakes
    rw [hleft]
    exact ⟨List.mem_map.mpr ⟨d, hd, if_pos htakes⟩, overwritten_overwrite hencoded d⟩
  · intro d hd htakes
    rw [hleft]
    exact List.mem_map.mpr ⟨d, hd, if_neg (by simp [htakes])⟩

theorem isAmong_idsOf_eq_any {documents : List Document} (hids : HaveObjectIds documents)
    {d : Document} (hd : ∃ id, Keyed.get? d storedIdField = some (.objectId id)) :
    isAmong (idsOf documents) d =
      documents.any fun e => Keyed.get? e storedIdField = Keyed.get? d storedIdField := by
  rcases hd with ⟨id, hid⟩
  rw [Bool.eq_iff_iff, isAmong, List.any_eq_true, List.any_eq_true, hid]
  constructor
  · rintro ⟨v, hv, hequal⟩
    rcases List.mem_filterMap.mp hv with ⟨e, he, hev⟩
    rcases hids e he with ⟨other, hother⟩
    cases hev.symm.trans hother
    rw [Selector.equals_objectId, decide_eq_true_eq] at hequal
    exact ⟨e, he, by rw [hother, hequal]; exact decide_eq_true rfl⟩
  · rintro ⟨e, he, hsame⟩
    refine ⟨.objectId id, List.mem_filterMap.mpr ⟨e, he, of_decide_eq_true hsame⟩, ?_⟩
    rw [Selector.equals_objectId]
    exact decide_eq_true rfl

theorem readAgain_of_answer {c : Collection} {filter : Document} {lookup reread : Store}
    {documents : List Document}
    (h : (Store.answer c.identity reread
      (.query (byIdentifiers (idsOf (taken filter (lookup.documents c.identity)))) {})).1 =
        .ok documents) :
    ReadAgain c filter lookup reread (documents.map c.schema.decode) := by
  have hquery := Store.query_plain reread c.identity
    (byIdentifiers (idsOf (taken filter (lookup.documents c.identity))))
  rw [select_byIdentifiers] at hquery
  have hdocuments : documents = (reread.documents c.identity).filter
      (isAmong (idsOf (taken filter (lookup.documents c.identity)))) :=
    Except.ok.inj (h.symm.trans hquery)
  refine ⟨by rw [hdocuments], ?_⟩
  intro hlookup hreread
  rw [hdocuments]
  refine congrArg (List.map c.schema.decode) (List.filter_congr ?_)
  intro d hd
  exact isAmong_idsOf_eq_any (fun e he => hlookup e (List.mem_of_mem_filter he)) (hreread d hd)

theorem moments_of_lookedUp {c : Collection} {filter : Document}
    {follow : List Value → Course (List Document)} {moments : List Moment} {rows : List Document}
    (hids : ∀ m ∈ moments, ∀ d ∈ m.found.documents c.identity,
      Keyed.contains d storedIdField = true)
    (h : LookedUp filter follow (moments.map (Moment.exchange c.identity)) (.ok rows)) :
    ∃ lookup rest, moments = ⟨.query filter .identifiersOnly, lookup⟩ :: rest ∧
      ((taken filter (lookup.documents c.identity) = [] ∧ rest = [] ∧ rows = []) ∨
        (taken filter (lookup.documents c.identity) ≠ [] ∧
          follow (idsOf (taken filter (lookup.documents c.identity)))
            (rest.map (Moment.exchange c.identity)) (.ok rows))) := by
  generalize htalk : moments.map (Moment.exchange c.identity) = talk at h
  generalize hresult : (Except.ok rows : Except Error (List Document)) = result at h
  cases h with
  | failed =>
      cases hresult
  | nothing hnone =>
      cases hresult
      rcases Moment.cons_of_exchange htalk with ⟨lookup, rest, rfl, hanswer, hrest⟩
      cases List.map_eq_nil_iff.mp hrest
      rw [Store.query_identifiersOnly hanswer,
        idsOf_taken_eq_nil_iff (hids _ List.mem_cons_self)] at hnone
      exact ⟨lookup, [], rfl, Or.inl ⟨hnone, rfl, rfl⟩⟩
  | found hsome hfollow =>
      rcases Moment.cons_of_exchange htalk with ⟨lookup, rest, rfl, hanswer, rfl⟩
      rw [Store.query_identifiersOnly hanswer] at hsome hfollow
      rw [Ne, idsOf_taken_eq_nil_iff (hids _ List.mem_cons_self)] at hsome
      exact ⟨lookup, rest, rfl, Or.inr ⟨hsome, hresult ▸ hfollow⟩⟩

theorem destroyedAmong_of_course {c : Collection} {filter : Document} {moments : List Moment}
    {rows : List Document}
    (hunique : ∀ m ∈ moments, (m.found.contents c.identity).Unique)
    (h : LookedUp filter (c.Deleting filter) (moments.map (Moment.exchange c.identity))
      (.ok rows)) : DestroyedAmong c filter moments rows := by
  rcases moments_of_lookedUp (fun m hm => (hunique m hm).identified) h with
    ⟨lookup, rest, rfl, ⟨hnone, rfl, rfl⟩ | ⟨hsome, hfollow⟩⟩
  · exact DestroyedAmong.nothing hnone
  · generalize htalk : rest.map (Moment.exchange c.identity) = talk at hfollow
    cases hfollow with
    | deleted =>
        rcases Moment.cons_of_exchange htalk with ⟨found, rest, rfl, hanswer, hrest⟩
        cases List.map_eq_nil_iff.mp hrest
        have hidentified := (hunique _ List.mem_cons_self).identified
        have hfound := hunique _ (List.mem_cons_of_mem _ List.mem_cons_self)
        refine DestroyedAmong.deleted hsome (identifies_idsOf c.schema ?_)
          (deletes_of_answer hfound hanswer)
        exact fun d hd => hidentified d (List.mem_of_mem_filter hd)

theorem updatedAmong_of_course {c : Collection} {filter encoded : Document}
    (hencoded : (Keyed.keys encoded).Nodup) {moments : List Moment} {rows : List Document}
    (hids : ∀ m ∈ moments, ∀ d ∈ m.found.documents c.identity,
      Keyed.contains d storedIdField = true)
    (h : LookedUp filter (c.Rewriting filter (Keyed.erase encoded storedIdField))
      (moments.map (Moment.exchange c.identity)) (.ok rows)) :
    UpdatedAmong c filter encoded moments rows := by
  rcases moments_of_lookedUp hids h with
    ⟨lookup, rest, rfl, ⟨hnone, rfl, rfl⟩ | ⟨hsome, hfollow⟩⟩
  · exact UpdatedAmong.nothing hnone
  · generalize htalk : rest.map (Moment.exchange c.identity) = talk at hfollow
    cases hfollow with
    | rewritten hwrite hread =>
        generalize hresult : (Except.ok rows : Except Error (List Document)) = result at hread
        cases hread with
        | failed =>
            cases hresult
        | answered =>
            cases hresult
            cases hwrite with
            | nothing hset =>
                rcases Moment.cons_of_exchange htalk with ⟨reread, rest, rfl, hreread, hrest⟩
                cases List.map_eq_nil_iff.mp hrest
                exact UpdatedAmong.unwritten hsome hset (readAgain_of_answer hreread)
            | written hset =>
                rcases Moment.cons_of_exchange htalk with ⟨found, rest, rfl, hanswer, hrest⟩
                rcases Moment.cons_of_exchange hrest with ⟨reread, rest, rfl, hreread, hrest⟩
                cases List.map_eq_nil_iff.mp hrest
                exact UpdatedAmong.written hsome hset (overwrites_of_answer hencoded hanswer)
                  (readAgain_of_answer hreread)

theorem unique_share (collection : String) (p : Program α) (serial : Nat)
    (others : List (List Store.Step)) :
    ∀ m ∈ (p.share collection ⟨[], serial⟩ others).1, (m.found.contents collection).Unique := by
  have hstart : ((⟨[], serial⟩ : Store).contents collection).Unique := Contents.unique_empty
  exact Program.share_invariant Contents.Unique.change p hstart others

/-- Whatever others write to a store from its beginning on and before each of the requests: what is
destroyed are the documents that match when they are deleted, and what is given back are the
identifiers of those that matched when they were looked up.  What an update writes over are the
documents that match when they are written, and what it gives back are those that were looked up,
as far as they are still there and as they are then. -/
theorem shared_writes (c : Collection) (condition : Option Condition) (serial : Nat)
    (others : List (List Store.Step)) :
    (∀ rows, ((c.destroy condition).share c.identity ⟨[], serial⟩ others).2 = .ok rows →
      ∃ filter, c.compiler.filter? condition = .ok filter ∧
        DestroyedAmong c filter
          ((c.destroy condition).share c.identity ⟨[], serial⟩ others).1 rows) ∧
    ∀ values rows,
      ((c.update condition values).share c.identity ⟨[], serial⟩ others).2 = .ok rows →
        ∃ filter encoded, c.compiler.filter? condition = .ok filter ∧
          c.schema.encode values = .ok encoded ∧
            UpdatedAmong c filter encoded
              ((c.update condition values).share c.identity ⟨[], serial⟩ others).1 rows := by
  constructor
  · intro rows hrows
    have hcourse := c.destroy_course
      (Program.conversation_share c.identity (c.destroy condition) ⟨[], serial⟩ others)
    rw [hrows] at hcourse
    rcases hcourse.of_ok with ⟨filter, hfilter, hfollow⟩
    exact ⟨filter, hfilter, destroyedAmong_of_course (unique_share _ _ serial others) hfollow⟩
  · intro values rows hrows
    have hcourse := c.update_course
      (Program.conversation_share c.identity (c.update condition values) ⟨[], serial⟩ others)
    rw [hrows] at hcourse
    rcases hcourse.of_ok with ⟨plan, hplan, hfollow⟩
    simp only [rewrite, bind_eq_ok, pure_eq_ok] at hplan
    rcases hplan with ⟨filter, hfilter, encoded, hencoded, rfl⟩
    refine ⟨filter, encoded, hfilter, hencoded,
      updatedAmong_of_course (Schema.storedFields_encode hencoded).distinct ?_ hfollow⟩
    exact fun m hm => (unique_share _ _ serial others m hm).identified

def strays : Collection :=
  ⟨"strays", ⟨[]⟩, {}⟩

def namedTom : Option Condition :=
  some (.test "name" .equal (.string "Tom"))

def stray (n : Nat) (name : String) : Document :=
  [(storedIdField, .objectId (ObjectId.ofSerial n)), ("name", .string name)]

/-- After the lookup the first stray is called Tom no longer, and the third one is. -/
def renamings : List (List Store.Step) :=
  [[.insert "strays" [stray 1 "Tom", stray 2 "Tom", stray 3 "Kit"]],
    [.update "strays" [(storedIdField, .objectId (ObjectId.ofSerial 1))] [("name", .string "Kit")],
      .update "strays" [(storedIdField, .objectId (ObjectId.ofSerial 3))]
        [("name", .string "Tom")]]]

/-- The first stray is named among the destroyed and is left; it is given back by the update, which
has not written to it. -/
theorem shared_writes_renamings :
    (∃ filter, DestroyedAmong strays filter
      ((strays.destroy namedTom).share "strays" ⟨[], 0⟩ renamings).1
        [[(idField, .string "000000000000000000000001")],
          [(idField, .string "000000000000000000000002")]]) ∧
      ∃ filter encoded, UpdatedAmong strays filter encoded
        ((strays.update namedTom [("age", .int32 5)]).share "strays" ⟨[], 0⟩ renamings).1
          [[(idField, .string "000000000000000000000001"), ("name", .string "Kit")],
            [(idField, .string "000000000000000000000002"), ("name", .string "Tom"),
              ("age", .int32 5)]] := by
  have hdestroy : ((strays.destroy namedTom).share "strays" ⟨[], 0⟩ renamings).2.toOption =
      some [[(idField, .string "000000000000000000000001")],
        [(idField, .string "000000000000000000000002")]] := by
    decide +kernel
  have hupdate : ((strays.update namedTom [("age", .int32 5)]).share "strays" ⟨[], 0⟩
      renamings).2.toOption =
        some [[(idField, .string "000000000000000000000001"), ("name", .string "Kit")],
          [(idField, .string "000000000000000000000002"), ("name", .string "Tom"),
            ("age", .int32 5)]] := by
    decide +kernel
  rcases shared_writes strays namedTom 0 renamings with ⟨hdestroyed, hupdated⟩
  rcases hdestroyed _ (toOption_eq_some.mp hdestroy) with ⟨filter, _, hdestroyed⟩
  rcases hupdated _ _ (toOption_eq_some.mp hupdate) with ⟨other, encoded, _, _, hupdated⟩
  exact ⟨⟨filter, hdestroyed⟩, other, encoded, hupdated⟩

end Collection
end DocQuery
