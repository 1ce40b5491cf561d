import DocQuery.Proofs.Collection.StoredForm
import DocQuery.Proofs.Collection.Update
import DocQuery.Proofs.Store.Uniqueness
import DocQuery.Proofs.Value.Identifiers

/-!
# Documents under an identifier

Which documents are found under the text of an identifier.  No two documents of
a collection have the same identifier, so that one at most has the identifier
itself.  A list of identifiers that stands for one, however, is told apart from
its items when it is stored, and is found under each of them.
-/

namespace DocQuery

open Outcome

/-!
# The question
-/

/-- An identifier is the one of a document, or is an item of the list that stands for one. -/
def ObjectId.names (id : ObjectId) (d : Document) : Bool :=
  match Keyed.get? d storedIdField with
  | some (.objectId other) => other = id
  | some (.array items) => items.contains (.objectId id)
  | _ => false

namespace Selector

theorem same_objectId (v : Value) (id : ObjectId) :
    v.canonical.same (Value.objectId id).canonical = decide (v = .objectId id) := by
  cases v <;> simp [Value.canonical, Canonical.same]

theorem equals_names (id : ObjectId) (d : Document) :
    equals (Keyed.get? d storedIdField) (.objectId id) = id.names d := by
  unfold equals ObjectId.names
  cases Keyed.get? d storedIdField with
  | none =>
      rfl
  | some v =>
      cases v with
      | array items =>
          simp only [same_objectId, isList, Bool.false_eq_true, if_false]
          rw [List.contains_eq_any_beq]
          refine congrArg items.any (funext fun v => ?_)
          rw [Bool.eq_iff_iff, decide_eq_true_eq, beq_iff_eq]
          exact eq_comm
      | _ =>
          simp [same_objectId]

end Selector

namespace Collection

open Program

def under (text : String) : Criteria :=
  { condition := some (.test idField .equal (.string text)) }

theorem compile_under (c : Compiler) {text : String} {id : ObjectId}
    (h : ObjectId.ofHex? text = some id) :
    c.compile (under text) =
      .ok { filter := [(storedIdField, .document [("$eq", .objectId id)])]
            options := {}
            pipeline := none } := by
  have hidentifier : c.schema.isIdentifier idField = true := rfl
  have hfolds : c.foldsCase idField = false := by
    simp [Compiler.foldsCase, hidentifier]
  have hoperand : c.operand idField (.string text) = .ok (.objectId id) := by
    simp [Compiler.operand, hidentifier, Value.parseIdentifier, h]
  have hfilter : c.filter? (under text).condition =
      .ok [(storedIdField, .document [("$eq", .objectId id)])] := by
    simp only [under, Compiler.filter?, Compiler.filter, Compiler.operators, hfolds,
      Compiler.operandTest, hoperand]
    rfl
  rw [Compiler.compile, hfilter]
  rfl

theorem matches?_objectId (id : ObjectId) (d : Document) :
    Selector.matches? [(storedIdField, .document [("$eq", .objectId id)])] d =
      .ok (id.names d) := by
  rw [Selector.matches?, Selector.entries_field (by decide),
    Selector.condition_single (by decide) (by decide) (by decide), lookup?_storedIdField,
    ← Selector.equals_names]
  rfl

theorem run_find_under (c : Collection) (s : Store) {text : String} {id : ObjectId}
    (h : ObjectId.ofHex? text = some id) :
    (c.find (under text)).run (Store.answer c.identity) s =
      (.ok (((s.documents c.identity).filter id.names).map c.schema.decode), s) := by
  have htakes : Selector.takes [(storedIdField, .document [("$eq", .objectId id)])] = id.names :=
    funext fun d => Selector.takes_of_matches? (matches?_objectId id d)
  have hselect : Selector.select [(storedIdField, .document [("$eq", .objectId id)])]
      (s.documents c.identity) = .ok ((s.documents c.identity).filter id.names) := by
    refine Selector.select_eq_ok_iff.mpr ⟨?_, ?_⟩
    · intro d _
      rw [matches?_objectId, htakes]
    · rw [Selector.taken, htakes]
  have hquery := Store.query_plain s c.identity [(storedIdField, .document [("$eq", .objectId id)])]
  rw [hselect] at hquery
  rw [find, run_ofExcept_seq, compile_under c.compiler h]
  refine (run_call_seq _ _ s).trans ?_
  simp only [Store.answer, hquery]
  rfl

end Collection

/-!
# Identifiers that differ

A request sent to a collection makes a change to it, and changes keep the
identifiers apart, whatever indexes there are.
-/

namespace Store

/-- The documents of a collection have identifiers, no two of them the same. -/
def Identified (collection : String) (s : Store) : Prop :=
  Contents.Unique { s.contents collection with indexes := [] }

theorem identified_of_empty {collection : String} {s : Store}
    (h : s.documents collection = []) : s.Identified collection := by
  have hnone : ({ s.contents collection with indexes := [] } : Contents) = {} :=
    congrArg (fun documents => (⟨documents, []⟩ : Contents)) h
  rw [Identified, hnone]
  exact Contents.unique_empty

theorem identified_answer {collection : String} (s : Store) (r : Request)
    (h : s.Identified collection) : (answer collection s r).2.Identified collection :=
  Contents.Unique.change h (change_answer s collection r).unindexed

theorem Identified.length_filter_le {collection : String} {s : Store}
    (h : s.Identified collection) (id : Value) :
    ((s.documents collection).filter fun d =>
      Keyed.get? d storedIdField = some id).length ≤ 1 := by
  have hids : (s.documents collection).Pairwise fun a b =>
      Uniqueness.idKey a ≠ Uniqueness.idKey b := h.ids
  match hfound : (s.documents collection).filter fun d => Keyed.get? d storedIdField = some id with
  | [] =>
      exact Nat.zero_le 1
  | [d] =>
      exact Nat.le_refl 1
  | d :: e :: rest =>
      have hpairs := hids.filter fun d => decide (Keyed.get? d storedIdField = some id)
      rw [hfound, List.pairwise_cons] at hpairs
      have hmem : ∀ other ∈ d :: e :: rest, Keyed.get? other storedIdField = some id := by
        intro other hother
        rw [← hfound, List.mem_filter, decide_eq_true_eq] at hother
        exact hother.2
      refine absurd ?_ (hpairs.1 e List.mem_cons_self)
      rw [Uniqueness.idKey, Uniqueness.idKey, hmem d List.mem_cons_self,
        hmem e (List.mem_cons_of_mem _ List.mem_cons_self)]

end Store

/-!
# Single identifiers

Where no list is written for an identifier none is stored for one.
-/

namespace Schema

/-- Values that give no list for the identifier of their document. -/
def GivesNoList (values : Document) : Prop :=
  ∀ entry ∈ values, entry.1 = idField ∨ entry.1 = storedIdField →
    ∀ items, entry.2 ≠ .array items

/-- A document whose identifier, if it has one, is an object identifier. -/
def HasNoList (d : Document) : Prop :=
  ∀ v, Keyed.get? d storedIdField = some v → ∃ id, v = .objectId id

theorem hasNoList_encodeFields {s : Schema} {encoded values d : Document}
    (hvalues : GivesNoList values) (hencoded : HasNoList encoded)
    (h : s.encodeFields encoded values = .ok d) : HasNoList d := by
  induction values generalizing encoded with
  | nil =>
      cases h
      exact hencoded
  | cons entry rest ih =>
      rcases entry with ⟨field, v⟩
      rcases List.forall_mem_cons.mp hvalues with ⟨hfirst, hrest⟩
      simp only [encodeFields] at h
      split at h
      · rename_i hfield
        split at h
        · exact ih hrest hencoded h
        · rename_i hnull
          simp only [bind_eq_ok, mapError_eq_ok] at h
          rcases h with ⟨id, hid, h⟩
          refine ih hrest ?_ h
          intro w hw
          rw [Keyed.get?_insert_self] at hw
          cases hw
          -- A list is read only from a list.
          rcases Value.isStoredId_of_parseIdentifier hnull hid with hsingle | ⟨items, rfl, _⟩
          · exact hsingle
          · cases v with
            | array others =>
                exact absurd rfl (hfirst hfield others)
            | string text =>
                simp only [Value.parseIdentifier] at hid
                split at hid <;> cases hid
            | _ =>
                cases hid
      · rename_i hfield
        simp only [bind_eq_ok] at h
        rcases h with ⟨w, _, h⟩
        refine ih hrest ?_ h
        intro u hu
        rw [Keyed.get?_insert_of_ne encoded w fun heq => hfield (Or.inr heq)] at hu
        exact hencoded u hu

theorem hasNoList_encode {s : Schema} {values d : Document} (hvalues : GivesNoList values)
    (h : s.encode values = .ok d) : HasNoList d :=
  hasNoList_encodeFields hvalues (fun _ hv => by cases hv) h

theorem hasNoList_withId {d : Document} (h : HasNoList d) (serial : Nat) :
    HasNoList (Store.withId serial d) := by
  unfold Store.withId
  split
  · exact h
  · intro v hv
    rw [Keyed.get?, if_pos rfl] at hv
    cases hv
    exact ⟨_, rfl⟩

end Schema

namespace Collection

open Program

/-- A call that gives no list for the identifier of a document; an update gives none at all. -/
def Write.GivesNoList : Write → Prop
  | .insert values => Schema.GivesNoList values
  | .insertMany batch => ∀ values ∈ batch, Schema.GivesNoList values
  | .update _ _ => True
  | .destroy _ => True

theorem hasNoList_encodeAll {schema : Schema} {batch encoded : List Document}
    (hbatch : ∀ values ∈ batch, Schema.GivesNoList values)
    (h : encodeAll schema batch = .ok encoded) : ∀ d ∈ encoded, Schema.HasNoList d := by
  induction batch generalizing encoded with
  | nil =>
      cases h
      exact fun _ hd => absurd hd List.not_mem_nil
  | cons values rest ih =>
      rw [List.forall_mem_cons] at hbatch
      simp only [encodeAll, bind_eq_ok, pure_eq_ok] at h
      rcases h with ⟨first, hfirst, others, hothers, rfl⟩
      rw [List.forall_mem_cons]
      exact ⟨Schema.hasNoList_encode hbatch.1 hfirst, ih hbatch.2 hothers⟩

theorem hasNoList_answer {c : Collection} {w : Write} (hw : w.GivesNoList) (s : Store)
    (r : Request) (h : ∀ d ∈ s.documents c.identity, Schema.HasNoList d) (hr : w.Requests c r) :
    ∀ d ∈ (Store.answer c.identity s r).2.documents c.identity, Schema.HasNoList d := by
  have hinsert : ∀ {batch encoded : List Document},
      (∀ values ∈ batch, Schema.GivesNoList values) → encodeAll c.schema batch = .ok encoded →
        ∀ d ∈ (s.insert c.identity encoded).2.documents c.identity, Schema.HasNoList d := by
    intro batch encoded hbatch hencoded
    refine Store.forall_documents_insert h ?_
    exact Store.forall_mem_withIds (fun serial _ hd => Schema.hasNoList_withId hd serial)
      (hasNoList_encodeAll hbatch hencoded) s.serial
  cases hr with
  | query filter options =>
      exact h
  | insert hencoded =>
      exact hinsert (fun values hvalues => List.mem_singleton.mp hvalues ▸ hw) hencoded
  | insertMany hencoded =>
      exact hinsert hw hencoded
  | update condition filter hencoded =>
      -- The identifier has been taken out of what is set.
      refine Store.forall_documents_update h filter ?_
      intro d hd v hv
      rw [← overwrite, get?_overwrite_storedIdField
        (Schema.storedFields_encode hencoded).distinct] at hv
      exact hd v hv
  | destroy condition filter =>
      exact Store.forall_documents_delete h filter

/-!
# Runs
-/

theorem identified_runAll (c : Collection) {s : Store} (hempty : s.documents c.identity = [])
    (writes : List Write) : (c.runAll s writes).Identified c.identity :=
  runAll_invariant (Store.Identified c.identity)
    (fun _ _ _ hs =>
      after_invariant_of_requests (fun s r h _ => Store.identified_answer s r h) hs)
    (Store.identified_of_empty hempty)

theorem hasNoList_runAll (c : Collection) {s : Store} (hempty : s.documents c.identity = [])
    {writes : List Write} (hwrites : ∀ w ∈ writes, w.GivesNoList) :
    ∀ d ∈ (c.runAll s writes).documents c.identity, Schema.HasNoList d := by
  have hstart : ∀ d ∈ s.documents c.identity, Schema.HasNoList d := by
    rw [hempty]
    exact fun _ hd => absurd hd List.not_mem_nil
  exact runAll_invariant (fun s => ∀ d ∈ s.documents c.identity, Schema.HasNoList d)
    (fun w hw _ hs => after_invariant_of_requests (hasNoList_answer (hwrites w hw)) hs) hstart

/-- What is found under the text of an identifier, whatever has been written to a collection that
was empty: documents that have this identifier, one at most, and documents that have a list with
it.  Where no list was ever given for an identifier, there is one document at most. -/
theorem found_under (c : Collection) (s : Store) (hempty : s.documents c.identity = [])
    (writes : List Write) (text : String) (htext : ObjectId.IsHex text) :
    ∃ id found, ObjectId.ofHex? text = some id ∧
      found = ((c.runAll s writes).documents c.identity).filter id.names ∧
        (c.find (under text)).run (Store.answer c.identity) (c.runAll s writes) =
            (.ok (found.map c.schema.decode), c.runAll s writes) ∧
          (found.filter fun d =>
              Keyed.get? d storedIdField = some (.objectId id)).length ≤ 1 ∧
            ((∀ w ∈ writes, w.GivesNoList) → found.length ≤ 1) := by
  rcases ObjectId.exists_ofHex? htext with ⟨id, hid⟩
  have hone := (identified_runAll c hempty writes).length_filter_le (.objectId id)
  refine ⟨id, _, hid, rfl, run_find_under c _ hid, ?_, ?_⟩
  · rw [List.filter_comm]
    exact Nat.le_trans (List.length_filter_le _ _) hone
  · intro hwrites
    have hsingle := hasNoList_runAll c hempty hwrites
    have hnames : ∀ d ∈ (c.runAll s writes).documents c.identity,
        id.names d = decide (Keyed.get? d storedIdField = some (.objectId id)) := by
      intro d hd
      unfold ObjectId.names
      cases hget : Keyed.get? d storedIdField with
      | none =>
          rfl
      | some v =>
          rcases hsingle d hd v hget with ⟨other, rfl⟩
          simp
    rw [List.filter_congr hnames]
    exact hone

def register : Collection :=
  ⟨"pets", ⟨[]⟩, {}⟩

def chip : String :=
  "64B7F0A2C3D4E5F601234567"

/-- The second pet cannot have the chip of the first, and the third gets a number. -/
def chipped : List Write :=
  [.insert [(idField, .string chip), ("name", .string "Rex")],
    .insert [(idField, .string chip), ("name", .string "Max")],
    .insertMany [[("name", .string "Tom"), (idField, .null)]]]

theorem found_under_chip :
    Store.empty.documents register.identity = [] ∧ ObjectId.IsHex chip ∧
      (∀ w ∈ chipped, w.GivesNoList) ∧
        ∃ rows, (register.find (under chip)).run (Store.answer register.identity)
            (register.runAll .empty chipped) = (.ok rows, register.runAll .empty chipped) ∧
          rows.length ≤ 1 ∧
            rows = [[(idField, .string "64b7f0a2c3d4e5f601234567"), ("name", .string "Rex")]] := by
  have hchip : ObjectId.IsHex chip := by
    decide
  have hlists : ∀ w ∈ chipped, w.GivesNoList := by
    simp only [chipped, Write.GivesNoList, Schema.GivesNoList, List.forall_mem_cons,
      List.not_mem_nil, false_implies, implies_true, reduceCtorEq, ne_eq,
      not_false_eq_true, and_self]
  have hrows : ((register.find (under chip)).run (Store.answer register.identity)
      (register.runAll .empty chipped)).1.toOption =
        some [[(idField, .string "64b7f0a2c3d4e5f601234567"), ("name", .string "Rex")]] := by
    decide +kernel
  rcases found_under register .empty rfl chipped chip hchip with
    ⟨id, found, _, _, hrun, _, hone⟩
  refine ⟨rfl, hchip, hlists, _, hrun, ?_, ?_⟩
  · rw [List.length_map]
    exact hone hlists
  · rw [hrun] at hrows
    exact Option.some.inj hrows

/-- A list with the chip is stored beside the chip, and is found in its place. -/
theorem found_twice_under_chip :
    ¬ ∀ (c : Collection) (s : Store), s.documents c.identity = [] → ∀ (writes : List Write)
      (text : String), ObjectId.IsHex text → ∀ rows,
        ((c.find (under text)).run (Store.answer c.identity) (c.runAll s writes)).1 = .ok rows →
          rows.length ≤ 1 := by
  intro h
  have hrows : ((register.find (under chip)).run (Store.answer register.identity)
      (register.runAll .empty [.insert [(idField, .string chip)],
        .insert [(idField, .array [.string chip])]])).1.toOption =
          some [[(idField, .string "64b7f0a2c3d4e5f601234567")],
            [(idField, .array [.string "64b7f0a2c3d4e5f601234567"])]] := by
    decide +kernel
  have hone := h register .empty rfl _ chip (by decide) _ (toOption_eq_some.mp hrows)
  exact absurd hone (by decide)

end Collection
end DocQuery
