import DocQuery.Proofs.Keyed
import DocQuery.Proofs.Outcome
import DocQuery.Proofs.Value.Identifiers
import DocQuery.Schema.Conversion

/-!
# Stored forms

What values and documents look like in the store.  Whatever encoding accepts it
brings into this form, and no field of a document in this form is lost when the
document is decoded.
-/

namespace DocQuery

open Outcome

namespace Value

/-- Built from identifiers, nulls and lists of these only. -/
inductive IsReference : Value → Prop where
  | objectId (id : ObjectId) : IsReference (.objectId id)
  | null : IsReference .null
  | array (items : List Value) (h : ∀ v ∈ items, IsReference v) : IsReference (.array items)

/-- The identifier of a document is one object identifier, or a list that can be read as
identifiers. -/
def IsStoredId (v : Value) : Prop :=
  (∃ id, v = .objectId id) ∨ ∃ items, v = .array items ∧ v.parseIdentifier = .ok v

end Value

/-- The values that the store holds for an attribute of a kind. -/
def AttributeKind.Holds : AttributeKind → Value → Prop
  | objectId, v => v.IsReference
  | date, v => v = .null ∨ ∃ millis, v = .instant millis
  | datetime, v => v = .null ∨ ∃ millis, v = .instant millis
  | uuid, v => v = .null ∨ ∃ subtype bytes, v = .binary subtype bytes
  | _, _ => True

namespace Schema

/-- A field of a stored document.  The stored identifier is one whatever the schema says
of an attribute of that name. -/
structure StoredEntry (s : Schema) (field : String) (v : Value) : Prop where
  name : field ≠ idField
  identifier : field = storedIdField → v.IsStoredId
  typed : field ≠ storedIdField → ∀ kind, s.kind? field = some kind → kind.Holds v

/-- The fields of a document are in their stored form, each name standing once. -/
structure StoredFields (s : Schema) (d : Document) : Prop where
  distinct : (Keyed.keys d).Nodup
  entries : ∀ entry ∈ d, s.StoredEntry entry.1 entry.2

end Schema

/-!
# Identifiers
-/

namespace Value

mutual

theorem isReference_of_parseIdentifier :
    ∀ {v w : Value}, v.parseIdentifier = .ok w → w.IsReference
  | .objectId id, w, h => by
      cases h
      exact IsReference.objectId id
  | .null, w, h => by
      cases h
      exact IsReference.null
  | .string text, w, h => by
      simp only [parseIdentifier] at h
      split at h
      · cases h
        exact IsReference.objectId _
      · cases h
  | .array items, w, h => by
      simp only [parseIdentifier, map_eq_ok] at h
      rcases h with ⟨ids, hids, rfl⟩
      exact IsReference.array ids (isReference_of_parseIdentifiers hids)
  | .undefined, w, h | .minKey, w, h | .maxKey, w, h | .boolean _, w, h | .int32 _, w, h
  | .int64 _, w, h | .double _, w, h | .document _, w, h | .instant _, w, h
  | .binary _ _, w, h | .regex _ _, w, h | .timestamp _ _, w, h | .code _, w, h
  | .scopedCode _ _, w, h | .symbol _, w, h | .decimal _, w, h => by
      cases h

theorem isReference_of_parseIdentifiers :
    ∀ {items ids : List Value}, parseIdentifiers items = .ok ids → ∀ w ∈ ids, w.IsReference
  | [], ids, h => by
      cases h
      exact fun _ hw => absurd hw List.not_mem_nil
  | v :: rest, ids, h => by
      simp only [parseIdentifiers, bind_eq_ok, pure_eq_ok] at h
      rcases h with ⟨id, hid, others, hothers, rfl⟩
      rw [List.forall_mem_cons]
      exact ⟨isReference_of_parseIdentifier hid, isReference_of_parseIdentifiers hothers⟩

end

theorem parseIdentifier_of_isReference {v : Value} (h : v.IsReference) :
    v.parseIdentifier = .ok v := by
  induction h with
  | objectId id =>
      rfl
  | null =>
      rfl
  | array items _ ih =>
      have hitems : parseIdentifiers items = .ok items := by
        clear * - ih
        induction items with
        | nil =>
            rfl
        | cons v rest ihrest =>
            rw [List.forall_mem_cons] at ih
            simp [parseIdentifiers, ih.1, ihrest ih.2, bind, Except.bind, pure, Except.pure]
      simp [parseIdentifier, hitems, Except.map]

theorem isStoredId_of_parseIdentifier {v w : Value} (hv : v ≠ .null)
    (h : v.parseIdentifier = .ok w) : w.IsStoredId := by
  have hw : w.IsReference := isReference_of_parseIdentifier h
  cases hw with
  | objectId id =>
      exact Or.inl ⟨id, rfl⟩
  | null =>
      cases v with
      | null =>
          exact absurd rfl hv
      | string text =>
          simp only [parseIdentifier] at h
          split at h <;> cases h
      | array items =>
          simp only [parseIdentifier, map_eq_ok] at h
          rcases h with ⟨ids, _, hids⟩
          cases hids
      | _ =>
          cases h
  | array items hitems =>
      exact Or.inr ⟨items, rfl, parseIdentifier_of_isReference (IsReference.array items hitems)⟩

/-- Built from what is read as an identifier, from nulls and from lists of these. -/
inductive IsIdentifierTree : Value → Prop where
  | objectId (id : ObjectId) : IsIdentifierTree (.objectId id)
  | null : IsIdentifierTree .null
  | text {text : String} (h : ObjectId.IsHex text) : IsIdentifierTree (.string text)
  | array {items : List Value} (h : ∀ v ∈ items, IsIdentifierTree v) :
      IsIdentifierTree (.array items)

theorem isIdentifierTree_string {text : String} :
    IsIdentifierTree (.string text) ↔ ObjectId.IsHex text :=
  ⟨fun h => by cases h; assumption, .text⟩

theorem isIdentifierTree_array {items : List Value} :
    IsIdentifierTree (.array items) ↔ ∀ v ∈ items, v.IsIdentifierTree :=
  ⟨fun h => by cases h; assumption, .array⟩

theorem succeeds_parseIdentifier_string {text : String} :
    Succeeds (parseIdentifier (.string text)) ↔ ObjectId.IsHex text := by
  rw [parseIdentifier]
  cases htext : ObjectId.ofHex? text with
  | none =>
      refine iff_of_false (not_succeeds_error _) fun h => ?_
      rcases ObjectId.exists_ofHex? h with ⟨id, hid⟩
      cases htext.symm.trans hid
  | some id =>
      exact iff_of_true (succeeds_ok _) (ObjectId.isHex_of_ofHex? htext)

mutual

theorem succeeds_parseIdentifier :
    ∀ {v : Value}, Succeeds v.parseIdentifier ↔ v.IsIdentifierTree
  | .objectId id =>
      iff_of_true (succeeds_ok _) (.objectId id)
  | .null =>
      iff_of_true (succeeds_ok _) .null
  | .string text =>
      succeeds_parseIdentifier_string.trans isIdentifierTree_string.symm
  | .array items => by
      rw [parseIdentifier, succeeds_map, isIdentifierTree_array]
      exact succeeds_parseIdentifiers
  | .undefined | .minKey | .maxKey | .boolean _ | .int32 _ | .int64 _ | .double _
  | .document _ | .instant _ | .binary _ _ | .regex _ _ | .timestamp _ _ | .code _
  | .scopedCode _ _ | .symbol _ | .decimal _ =>
      iff_of_false (not_succeeds_error _) fun h => by cases h

theorem succeeds_parseIdentifiers :
    ∀ {items : List Value},
      Succeeds (parseIdentifiers items) ↔ ∀ v ∈ items, v.IsIdentifierTree
  | [] =>
      iff_of_true (succeeds_ok _) fun _ hmem => absurd hmem List.not_mem_nil
  | v :: rest => by
      rw [parseIdentifiers, succeeds_bind_iff fun _ _ => succeeds_bind_pure,
        succeeds_parseIdentifier, succeeds_parseIdentifiers, List.forall_mem_cons]

end

end Value

/-!
# Encoded values
-/

namespace AttributeKind

theorem isInstant_of_encodeInstant {v w : Value} (h : v.encodeInstant = .ok w) :
    w = .null ∨ ∃ millis, w = .instant millis := by
  cases v with
  | string text =>
      rw [Value.encodeInstant_string] at h
      split at h
      · cases h
        exact Or.inr ⟨_, rfl⟩
      · cases h
  | int64 millis | instant millis =>
      cases h
      exact Or.inr ⟨millis, rfl⟩
  | null =>
      cases h
      exact Or.inl rfl
  | _ =>
      cases h

theorem isBinary_of_encodeUuid {v w : Value} (h : v.encodeUuid = .ok w) :
    w = .null ∨ ∃ subtype bytes, w = .binary subtype bytes := by
  unfold Value.encodeUuid at h
  split at h
  · split at h
    · cases h
      exact Or.inr ⟨_, _, rfl⟩
    · cases h
  · cases h
    exact Or.inr ⟨_, _, rfl⟩
  · cases h
    exact Or.inl rfl
  · cases h

theorem holds_of_encoder {kind : AttributeKind} {encoder : Value → Except ValueFault Value}
    (hkind : kind.encoder? = some encoder) {v w : Value} (h : encoder v = .ok w) :
    kind.Holds w := by
  cases kind with
  | date | datetime =>
      cases hkind
      exact isInstant_of_encodeInstant h
  | uuid =>
      cases hkind
      exact isBinary_of_encodeUuid h
  | _ =>
      cases hkind

theorem holds_of_encode {kind : AttributeKind} {v w : Value} (h : kind.encode v = .ok w) :
    kind.Holds w := by
  cases kind with
  | objectId =>
      simp only [encode, if_true, mapError_eq_ok] at h
      exact Value.isReference_of_parseIdentifier h
  | date | datetime | uuid =>
      simp only [encode, encoder?, reduceCtorEq, if_false, mapError_eq_ok] at h
      exact holds_of_encoder rfl h
  | _ =>
      trivial

end AttributeKind

/-!
# Encoded documents
-/

namespace Schema

theorem StoredFields.empty (s : Schema) : s.StoredFields [] where
  distinct := List.nodup_nil
  entries := fun _ h => absurd h List.not_mem_nil

theorem StoredFields.insert {s : Schema} {d : Document} (h : s.StoredFields d)
    {field : String} {v : Value} (hentry : s.StoredEntry field v) :
    s.StoredFields (Keyed.insert d field v) where
  distinct := Keyed.nodup_keys_insert h.distinct field v
  entries entry hmem := by
    rcases Keyed.mem_of_mem_insert hmem with rfl | hmem
    · exact hentry
    · exact h.entries entry hmem

theorem StoredFields.insertAll {s : Schema} {d set : Document} (h : s.StoredFields d)
    (hset : ∀ entry ∈ set, s.StoredEntry entry.1 entry.2) :
    s.StoredFields (Keyed.insertAll d set) where
  distinct := Keyed.nodup_keys_insertAll h.distinct set
  entries entry hmem := by
    rcases Keyed.mem_of_mem_insertAll hmem with hmem | hmem
    · exact hset entry hmem
    · exact h.entries entry hmem

theorem StoredFields.erase {s : Schema} {d : Document} (h : s.StoredFields d)
    (field : String) : s.StoredFields (Keyed.erase d field) where
  distinct := Keyed.nodup_keys_erase h.distinct field
  entries entry hmem := h.entries entry (List.mem_of_mem_filter hmem)

theorem storedEntry_id {s : Schema} {v : Value} (h : v.IsStoredId) :
    s.StoredEntry storedIdField v where
  name := by decide
  identifier _ := h
  typed hne := absurd rfl hne

theorem storedEntry_of_encodeField {s : Schema} {field : String} {v w : Value}
    (hfield : ¬ (field = idField ∨ field = storedIdField))
    (h : s.encodeField field v = .ok w) : s.StoredEntry field w where
  name e := hfield (Or.inl e)
  identifier e := absurd (Or.inr e) hfield
  typed _ kind hkind := by
    simp only [encodeField, hkind] at h
    exact AttributeKind.holds_of_encode h

theorem storedFields_encodeFields {s : Schema} {encoded values d : Document}
    (hencoded : s.StoredFields encoded) (h : s.encodeFields encoded values = .ok d) :
    s.StoredFields d := by
  induction values generalizing encoded with
  | nil =>
      cases h
      exact hencoded
  | cons entry rest ih =>
      rcases entry with ⟨field, v⟩
      simp only [encodeFields] at h
      split at h
      · split at h
        · exact ih hencoded h
        · rename_i hnull
          simp only [bind_eq_ok, mapError_eq_ok] at h
          rcases h with ⟨id, hid, hrest⟩
          exact ih
            (hencoded.insert (storedEntry_id (Value.isStoredId_of_parseIdentifier hnull hid)))
            hrest
      · rename_i hfield
        simp only [bind_eq_ok] at h
        rcases h with ⟨w, hw, hrest⟩
        exact ih (hencoded.insert (storedEntry_of_encodeField hfield hw)) hrest

theorem storedFields_encode {s : Schema} {values d : Document} (h : s.encode values = .ok d) :
    s.StoredFields d :=
  storedFields_encodeFields (StoredFields.empty s) h

/-!
# Decoded names
-/

def logicalName (field : String) : String :=
  if field = storedIdField then idField else field

theorem decodedEntry_fst (s : Schema) (entry : String × Value) :
    (s.decodedEntry entry).1 = logicalName entry.1 := by
  unfold decodedEntry logicalName
  split <;> rfl

theorem keys_map_decodedEntry (s : Schema) (d : Document) :
    Keyed.keys (d.map s.decodedEntry) = (Keyed.keys d).map logicalName := by
  simp only [Keyed.keys, List.map_map]
  refine List.map_congr_left ?_
  intro entry _
  exact decodedEntry_fst s entry

theorem nodup_map_logicalName {fields : List String} (hdistinct : fields.Nodup)
    (hid : idField ∉ fields) : (fields.map logicalName).Nodup := by
  refine hdistinct.map_on ?_
  intro a ha b hb h
  unfold logicalName at h
  split at h <;> split at h
  · simp_all
  · exact absurd (h ▸ hb) hid
  · exact absurd (h ▸ ha) hid
  · exact h

theorem decode_eq_map {s : Schema} {d : Document} (h : s.StoredFields d) :
    s.decode d = d.map s.decodedEntry := by
  refine Keyed.ofList_of_nodup ?_
  rw [keys_map_decodedEntry]
  refine nodup_map_logicalName h.distinct ?_
  intro hid
  rcases List.mem_map.mp hid with ⟨entry, hentry, hname⟩
  exact (h.entries entry hentry).name hname

end Schema
end DocQuery
