import DocQuery.Proofs.Collection.ReadBack
import DocQuery.Proofs.Schema.StoredForm

/-!
# Updating

The documents to be updated are looked up before the write, and read back after
it by their identifiers.  The write may decide whether a document matches, but
it cannot touch its identifier, so that the documents that are read back are
those that matched before.
-/

namespace DocQuery
namespace Collection

open Program
open Selector (select Decides takes taken)

/-!
# Documents written over
-/

/-- A stored document with the encoded values in it, all but an identifier. -/
def overwrite (encoded d : Document) : Document :=
  Keyed.insertAll d (Keyed.erase encoded storedIdField)

/-- The fields of a document that was written over.  Those that were there stay in their places. -/
structure Overwritten (encoded d d' : Document) : Prop where
  written : ∀ field value, field ≠ storedIdField →
    Keyed.get? encoded field = some value → Keyed.get? d' field = some value
  kept : ∀ field, field = storedIdField ∨ Keyed.get? encoded field = none →
    Keyed.get? d' field = Keyed.get? d field
  places : Keyed.keys d <+: Keyed.keys d'

theorem get?_overwrite {encoded : Document} (hdistinct : (Keyed.keys encoded).Nodup)
    (d : Document) (field : String) :
    Keyed.get? (overwrite encoded d) field =
      (Keyed.get? (Keyed.erase encoded storedIdField) field).or (Keyed.get? d field) :=
  Keyed.get?_insertAll (Keyed.nodup_keys_erase hdistinct storedIdField) d field

theorem overwritten_overwrite {encoded : Document} (hdistinct : (Keyed.keys encoded).Nodup)
    (d : Document) : Overwritten encoded d (overwrite encoded d) where
  written field value hfield hvalue := by
    rw [get?_overwrite hdistinct, Keyed.get?_erase_of_ne _ hfield.symm, hvalue]
    rfl
  kept field hfield := by
    rw [get?_overwrite hdistinct]
    by_cases hid : storedIdField = field
    · rw [← hid, Keyed.get?_erase_self]
      rfl
    · rcases hfield with rfl | hnone
      · exact absurd rfl hid
      · rw [Keyed.get?_erase_of_ne _ hid, hnone]
        rfl
  places := Keyed.keys_prefix_insertAll d (Keyed.erase encoded storedIdField)

/-- What it comes to when the documents that a filter takes have been written over. -/
structure Updated (c : Collection) (condition : Option Condition) (values filter encoded : Document)
    (s : Store) (rows : List Document) (after : Store) : Prop where
  compiled : c.compiler.filter? condition = .ok filter
  encode : c.schema.encode values = .ok encoded
  decided : Decides filter (s.documents c.identity)
  overwritten : ∀ d, Overwritten encoded d (overwrite encoded d)
  stored : s.Replaced c.identity
    { s.contents c.identity with
      documents := (s.documents c.identity).map fun d =>
        if takes filter d then overwrite encoded d else d } after
  rows : rows = (taken filter (s.documents c.identity)).map fun d =>
    c.schema.decode (overwrite encoded d)

inductive UpdateRefused (c : Collection) (condition : Option Condition) (values : Document)
    (s : Store) : Error → Prop where
  | uncompiled {e : Error} (h : c.compiler.filter? condition = .error e) :
      UpdateRefused c condition values s e
  | unencoded {filter : Document} {e : Error}
      (hfilter : c.compiler.filter? condition = .ok filter)
      (h : c.schema.encode values = .error e) : UpdateRefused c condition values s e
  | undecided {filter encoded : Document} {e : Error}
      (hfilter : c.compiler.filter? condition = .ok filter)
      (hencoded : c.schema.encode values = .ok encoded)
      (h : s.Undecided c.identity filter e) : UpdateRefused c condition values s e
  | repeated {filter encoded : Document} {e : Error}
      (hfilter : c.compiler.filter? condition = .ok filter)
      (hencoded : c.schema.encode values = .ok encoded)
      (h : Store.Repeats c.identity (s.indexes c.identity)
        ((s.documents c.identity).map fun d => if takes filter d then overwrite encoded d else d)
        e) : UpdateRefused c condition values s e

/-!
# The write
-/

theorem writeSet_allOrNothing (s : Store) (collection : String) (filter encoded : Document)
    (hdecides : Decides filter (s.documents collection)) :
    s.AllOrNothing
      (fun _ after =>
        s.Replaced collection
          { s.contents collection with
            documents := (s.documents collection).map fun d =>
              if takes filter d then overwrite encoded d else d } after)
      (Store.Repeats collection (s.indexes collection)
        ((s.documents collection).map fun d => if takes filter d then overwrite encoded d else d))
      ((writeSet filter (Keyed.erase encoded storedIdField)).run (Store.answer collection) s) := by
  unfold writeSet
  split
  · rename_i hempty
    have hsame : ∀ d, (if takes filter d then overwrite encoded d else d) = d := by
      intro d
      rw [overwrite, List.isEmpty_iff.mp hempty]
      exact ite_self d
    refine .of_ok ⟨?_, fun _ _ => rfl⟩
    simp only [hsame, List.map_id']
    rfl
  · refine allOrNothing_write (s.update_allOrNothing collection filter _) ?_ ?_
    · intro e hfailed
      -- The filter has led to verdicts before, so that only a key can be repeated.
      exact hfailed.resolve_left (not_undecided hdecides)
    · rintro a after ⟨hack, _, hafter⟩
      exact ⟨(), run_ensure_of_acknowledged hack "update" after, hafter⟩

/-!
# The documents read back
-/

theorem get?_overwrite_storedIdField {encoded : Document}
    (hdistinct : (Keyed.keys encoded).Nodup) (d : Document) :
    Keyed.get? (overwrite encoded d) storedIdField = Keyed.get? d storedIdField :=
  (overwritten_overwrite hdistinct d).kept storedIdField (Or.inl rfl)

theorem filter_isAmong_map {change : Document → Document}
    (hchange : ∀ d, Keyed.get? (change d) storedIdField = Keyed.get? d storedIdField)
    (ids : List Value) (documents : List Document) :
    (documents.map change).filter (isAmong ids) = (documents.filter (isAmong ids)).map change := by
  rw [List.filter_map]
  refine congrArg (List.map change) (List.filter_congr ?_)
  intro d _
  exact isAmong_congr (hchange d)

/-- What is read back after the write is what the filter took before it. -/
theorem filter_isAmong_overwritten {filter encoded : Document}
    (hfields : (Keyed.keys encoded).Nodup) {documents : List Document}
    (hids : ∀ d ∈ documents, ∃ id, Keyed.get? d storedIdField = some (.objectId id))
    (hdistinct : (documents.map fun d => Keyed.get? d storedIdField).Nodup) :
    (documents.map fun d => if takes filter d then overwrite encoded d else d).filter
        (isAmong (Uniqueness.idsOf (taken filter documents))) =
      (taken filter documents).map (overwrite encoded) := by
  have hid : ∀ d, Keyed.get? (if takes filter d then overwrite encoded d else d) storedIdField =
      Keyed.get? d storedIdField := by
    intro d
    split
    · exact get?_overwrite_storedIdField hfields d
    · rfl
  rw [filter_isAmong_map hid, taken, filter_isAmong_idsOf (takes filter) hids hdistinct]
  refine List.map_congr_left ?_
  intro d hd
  exact if_pos (List.mem_filter.mp hd).2

/-- Of a collection whose identifiers are object identifiers, no two of them the same, an update
gives back the documents that the filter took before, as they are after it.  These have been
written over, and the others are what and where they were.  Otherwise it is refused for a reason,
and no collection has changed. -/
theorem updated_or_unchanged (c : Collection) (condition : Option Condition) (values : Document)
    (s : Store)
    (hids : ∀ d ∈ s.documents c.identity, ∃ id, Keyed.get? d storedIdField = some (.objectId id))
    (hdistinct : ((s.documents c.identity).map fun d => Keyed.get? d storedIdField).Nodup) :
    s.AllOrNothing
      (fun rows after => ∃ filter encoded, Updated c condition values filter encoded s rows after)
      (UpdateRefused c condition values s)
      ((c.update condition values).run (Store.answer c.identity) s) := by
  refine allOrNothing_ofExcept (fun _ => UpdateRefused.uncompiled) ?_
  intro filter hfilter
  refine allOrNothing_ofExcept (fun _ => UpdateRefused.unencoded hfilter) ?_
  intro encoded hencoded
  have hfields : (Keyed.keys encoded).Nodup := (Schema.storedFields_encode hencoded).distinct
  refine allOrNothing_captureIds (fun _ => UpdateRefused.undecided hfilter hencoded) ?_
  intro found hselect
  rcases Selector.select_eq_ok_iff.mp hselect with ⟨hdecides, rfl⟩
  split
  · rename_i hempty
    -- Without identifiers nothing was taken, and nothing is written.
    have hnone : taken filter (s.documents c.identity) = [] := by
      refine eq_nil_of_idsOf_eq_nil ?_ (List.isEmpty_iff.mp hempty)
      intro d hd
      rcases hids d (List.mem_of_mem_filter hd) with ⟨id, hid⟩
      rw [Keyed.contains, hid]
      rfl
    refine .of_ok
      ⟨filter, encoded, hfilter, hencoded, hdecides, overwritten_overwrite hfields, ?_, ?_⟩
    · rw [Selector.map_of_taken_eq_nil hnone]
      exact ⟨rfl, fun _ _ => rfl⟩
    · rw [hnone]
      rfl
  · refine allOrNothing_write (writeSet_allOrNothing s c.identity filter encoded hdecides)
      (fun _ => UpdateRefused.repeated hfilter hencoded) ?_
    intro _ after hafter
    refine ⟨_, run_readBack _ after, filter, encoded, hfilter, hencoded, hdecides,
      overwritten_overwrite hfields, hafter, ?_⟩
    rw [hafter.documents, filter_isAmong_overwritten hfields hids hdistinct, List.map_map]
    rfl

/-- Three pets with references to their owners, two of them of one name. -/
def shelter : Collection :=
  ⟨"pets", ⟨[("owner", { kind := .objectId })]⟩, {}⟩

def pets : Store :=
  ⟨[("pets", { documents :=
      [[(storedIdField, .objectId (ObjectId.ofSerial 1)), ("name", .string "Rex")],
        [(storedIdField, .objectId (ObjectId.ofSerial 2)), ("name", .string "Tom")],
        [("name", .string "Rex"), (storedIdField, .objectId (ObjectId.ofSerial 3))]] })], 4⟩

def namedRex : Option Condition :=
  some (.test "name" .equal (.string "Rex"))

def adopted : Document :=
  [("name", .string "Max"), (idField, .string "0123456789abcdef01234567"),
    ("owner", .string "000000000000000000000007")]

/-- With another name the pets match no longer, and they keep their identifiers. -/
theorem updated_or_unchanged_pets :
    (∀ d ∈ pets.documents shelter.identity,
        ∃ id, Keyed.get? d storedIdField = some (.objectId id)) ∧
      ((pets.documents shelter.identity).map fun d => Keyed.get? d storedIdField).Nodup ∧
        ∃ filter encoded after,
          Updated shelter namedRex adopted filter encoded pets
            [[(idField, .string "000000000000000000000001"), ("name", .string "Max"),
                ("owner", .string "000000000000000000000007")],
              [("name", .string "Max"), (idField, .string "000000000000000000000003"),
                ("owner", .string "000000000000000000000007")]] after := by
  have hids : ∀ d ∈ pets.documents shelter.identity,
      ∃ id, Keyed.get? d storedIdField = some (.objectId id) := by
    have hdocuments : pets.documents shelter.identity =
        [[(storedIdField, .objectId (ObjectId.ofSerial 1)), ("name", .string "Rex")],
          [(storedIdField, .objectId (ObjectId.ofSerial 2)), ("name", .string "Tom")],
          [("name", .string "Rex"), (storedIdField, .objectId (ObjectId.ofSerial 3))]] :=
      rfl
    rw [hdocuments]
    simp only [List.forall_mem_cons]
    exact ⟨⟨_, rfl⟩, ⟨_, rfl⟩, ⟨_, rfl⟩, fun _ h => absurd h List.not_mem_nil⟩
  have hdistinct :
      ((pets.documents shelter.identity).map fun d => Keyed.get? d storedIdField).Nodup := by
    decide +kernel
  have hrun : ((shelter.update namedRex adopted).run (Store.answer shelter.identity)
      pets).1.toOption =
        some [[(idField, .string "000000000000000000000001"), ("name", .string "Max"),
            ("owner", .string "000000000000000000000007")],
          [("name", .string "Max"), (idField, .string "000000000000000000000003"),
            ("owner", .string "000000000000000000000007")]] := by
    decide +kernel
  have hupdated := updated_or_unchanged shelter namedRex adopted pets hids hdistinct
  rcases hupdated.ok (Outcome.toOption_eq_some.mp hrun) with ⟨filter, encoded, h⟩
  exact ⟨hids, hdistinct, filter, encoded, _, h⟩

end Collection
end DocQuery
