import DocQuery.Proofs.Calendar.ReadBack
import DocQuery.Proofs.Keyed
import DocQuery.Proofs.Outcome
import DocQuery.Proofs.Value.Identifiers
import DocQuery.Schema.Conversion

/-!
# Documents come back from the store

A logical document whose texts are spelled as decoding spells them is encoded,
and decoding gives it back with its fields in the same order.  Each value is
converted there and back on its own; the document follows by induction on its
fields.
-/

namespace DocQuery

open Outcome

/-!
# Canonical documents
-/

namespace Value

/-- Null, the text of an object identifier, or a list of such values to any depth. -/
inductive IsReferenceText : Value → Prop where
  | null : IsReferenceText .null
  | text (text : String) (h : ObjectId.IsText text) : IsReferenceText (.string text)
  | array (items : List Value) (h : ∀ v ∈ items, IsReferenceText v) :
      IsReferenceText (.array items)

def IsNullOr (form : String → Prop) (v : Value) : Prop :=
  v = .null ∨ ∃ text, form text ∧ v = .string text

end Value

/-- The logical values of a kind that are spelled in the one way in which they are decoded. -/
def AttributeKind.IsCanonical : AttributeKind → Value → Prop
  | objectId, v => v.IsReferenceText
  | datetime, v => v.IsNullOr Calendar.IsInstantText
  | date, v => v.IsNullOr Calendar.IsDateText
  | uuid, v => v.IsNullOr Uuid.IsText
  | _, _ => True

namespace Schema

/-- A field of a logical document.  The identifier is not null, since a null one is left
out when it is encoded. -/
structure CanonicalEntry (s : Schema) (field : String) (v : Value) : Prop where
  name : field ≠ storedIdField
  identifier : field = idField → ∃ text, ObjectId.IsText text ∧ v = .string text
  typed : field ≠ idField → ∀ kind, s.kind? field = some kind → kind.IsCanonical v

/-- The fields of a logical document are canonical, each name standing once. -/
structure CanonicalFields (s : Schema) (d : Document) : Prop where
  distinct : (Keyed.keys d).Nodup
  entries : ∀ entry ∈ d, s.CanonicalEntry entry.1 entry.2

end Schema

/-!
# Values there and back
-/

namespace Value

theorem parseIdentifier_of_isText {text : String} (h : ObjectId.IsText text) :
    ∃ id, parseIdentifier (.string text) = .ok (.objectId id) ∧ id.toHex = text := by
  rcases ObjectId.ofHex?_of_isText h with ⟨id, hread, hwritten⟩
  exact ⟨id, by simp [parseIdentifier, hread], hwritten⟩

theorem parseIdentifiers_of_forall {items : List Value}
    (h : ∀ v ∈ items, ∃ w, v.parseIdentifier = .ok w ∧ w.renderIdentifier = v) :
    ∃ ids, parseIdentifiers items = .ok ids ∧ renderIdentifiers ids = items := by
  induction items with
  | nil =>
      exact ⟨[], rfl, rfl⟩
  | cons v rest ih =>
      rw [List.forall_mem_cons] at h
      rcases h with ⟨⟨w, hparse, hrender⟩, hrest⟩
      rcases ih hrest with ⟨ids, hparses, hrenders⟩
      refine ⟨w :: ids, ?_, ?_⟩
      · simp only [parseIdentifiers, bind_eq_ok, pure_eq_ok]
        exact ⟨w, hparse, ids, hparses, rfl⟩
      · rw [renderIdentifiers, hrender, hrenders]

theorem parseIdentifier_of_isReferenceText {v : Value} (h : v.IsReferenceText) :
    ∃ w, v.parseIdentifier = .ok w ∧ w.renderIdentifier = v := by
  induction h with
  | null =>
      exact ⟨.null, rfl, rfl⟩
  | text text h =>
      rcases parseIdentifier_of_isText h with ⟨id, hparse, hwritten⟩
      exact ⟨.objectId id, hparse, by rw [renderIdentifier, hwritten]⟩
  | array items _ ih =>
      rcases parseIdentifiers_of_forall ih with ⟨ids, hparse, hrender⟩
      exact ⟨.array ids, by simp [parseIdentifier, hparse, Except.map],
        by rw [renderIdentifier, hrender]⟩

theorem toInt_ofInt_of_bounds {millis : Int} (hfrom : -62167219200000 ≤ millis)
    (hto : millis < 253402300800000) : (Int64.ofInt millis).toInt = millis :=
  Int64.toInt_ofInt_of_le (by omega) (by omega)

theorem encodeInstant_of_isInstantText {text : String} (h : Calendar.IsInstantText text) :
    ∃ millis : Int64, encodeInstant (.string text) = .ok (.instant millis) ∧
      Calendar.instantText millis.toInt = text := by
  rcases h with ⟨d, t, hd, ht, rfl⟩
  have hbounds := Calendar.midnight_add_bounds hd (Calendar.toMillis_lt ht)
  refine ⟨Int64.ofInt (Calendar.midnight d + t.toMillis), ?_, ?_⟩
  · rw [encodeInstant_string, instantOf?, Calendar.instantOfText?_textOf hd ht]
    rfl
  · rw [toInt_ofInt_of_bounds hbounds.1 hbounds.2, Calendar.instantText_midnight_add hd ht]

theorem encodeInstant_of_isDateText {text : String} (h : Calendar.IsDateText text) :
    ∃ millis : Int64, encodeInstant (.string text) = .ok (.instant millis) ∧
      Calendar.dateText millis.toInt = text := by
  rcases h with ⟨d, hd, rfl⟩
  have hbounds := Calendar.midnight_add_bounds hd (show 0 < 86400000 by decide)
  have hstart : Calendar.midnight d + (0 : Nat) = Calendar.midnight d := Int.add_zero _
  have hdate := Calendar.dateText_midnight_add hd (show 0 < 86400000 by decide)
  rw [hstart] at hbounds hdate
  refine ⟨Int64.ofInt (Calendar.midnight d), ?_, ?_⟩
  · rw [encodeInstant_string, instantOf?, Calendar.instantOfText?_toText hd,
      Calendar.ofText?_toText hd]
    rfl
  · rw [toInt_ofInt_of_bounds hbounds.1 hbounds.2, hdate]

theorem encodeUuid_of_isText {text : String} (h : Uuid.IsText text) :
    ∃ bytes, encodeUuid (.string text) = .ok (.binary uuidSubtype bytes) ∧
      decodeUuid uuidSubtype bytes = .string text := by
  rcases Uuid.ofText?_of_isText h with ⟨u, hread, hwritten⟩
  refine ⟨u.bytes, by simp [encodeUuid, hread], ?_⟩
  have hbytes : Uuid.ofBytes? u.bytes = some u := by
    simp [Uuid.ofBytes?, u.length_bytes]
  simp [decodeUuid, hbytes, hwritten]

end Value

theorem AttributeKind.encode_of_isCanonical {kind : AttributeKind} {v : Value} (h : kind.IsCanonical v) :
    ∃ w, kind.encode v = .ok w ∧ kind.decode w = v := by
  cases kind with
  | objectId =>
      rcases Value.parseIdentifier_of_isReferenceText h with ⟨w, hparse, hrender⟩
      exact ⟨w, by simp [encode, hparse], hrender⟩
  | datetime =>
      rcases h with rfl | ⟨text, htext, rfl⟩
      · exact ⟨.null, rfl, rfl⟩
      · rcases Value.encodeInstant_of_isInstantText htext with ⟨millis, hencode, hwritten⟩
        refine ⟨.instant millis, ?_, by rw [decode, hwritten]⟩
        simp [encode, encoder?, hencode]
  | date =>
      rcases h with rfl | ⟨text, htext, rfl⟩
      · exact ⟨.null, rfl, rfl⟩
      · rcases Value.encodeInstant_of_isDateText htext with ⟨millis, hencode, hwritten⟩
        refine ⟨.instant millis, ?_, by rw [decode, hwritten]⟩
        simp [encode, encoder?, hencode]
  | uuid =>
      rcases h with rfl | ⟨text, htext, rfl⟩
      · exact ⟨.null, rfl, rfl⟩
      · rcases Value.encodeUuid_of_isText htext with ⟨bytes, hencode, hwritten⟩
        refine ⟨.binary Value.uuidSubtype bytes, ?_, hwritten⟩
        simp [encode, encoder?, hencode]
  | _ =>
      exact ⟨v, rfl, rfl⟩

/-!
# Fields there and back
-/

namespace Schema

theorem encodeField_of_isCanonical {s : Schema} {field : String} {v : Value}
    (h : ∀ kind, s.kind? field = some kind → kind.IsCanonical v) :
    ∃ w, s.encodeField field v = .ok w ∧ s.decodeField field w = v := by
  cases hkind : s.kind? field with
  | none =>
      exact ⟨v, by rw [encodeField, hkind], by rw [decodeField, hkind]⟩
  | some kind =>
      rcases AttributeKind.encode_of_isCanonical (h kind hkind) with ⟨w, hencode, hdecode⟩
      refine ⟨w, ?_, ?_⟩
      · rw [encodeField, hkind]
        exact hencode
      · rw [decodeField, hkind]
        exact hdecode

theorem encodeFields_cons {s : Schema} {field : String} {v : Value}
    (h : s.CanonicalEntry field v) (encoded rest : Document) :
    ∃ w, s.encodeFields encoded ((field, v) :: rest) =
        s.encodeFields (Keyed.insert encoded (storedName field) w) rest ∧
      s.decodedEntry (storedName field, w) = (field, v) := by
  by_cases hid : field = idField
  · subst hid
    rcases h.identifier rfl with ⟨text, htext, rfl⟩
    rcases Value.parseIdentifier_of_isText htext with ⟨id, hparse, hwritten⟩
    refine ⟨.objectId id, ?_, ?_⟩
    · simp [encodeFields, storedName, hparse, bind, Except.bind]
    · simp [decodedEntry, storedName, Value.renderIdentifier, hwritten]
  · rcases encodeField_of_isCanonical (h.typed hid) with ⟨w, hencode, hdecode⟩
    have hfield : ¬ (field = idField ∨ field = storedIdField) := by
      rintro (e | e)
      · exact hid e
      · exact h.name e
    rw [storedName_of_ne hid]
    refine ⟨w, ?_, ?_⟩
    · simp [encodeFields, hfield, hencode, bind, Except.bind]
    · simp [decodedEntry, h.name, hdecode]

theorem storedName_inj {a b : String} (ha : a ≠ storedIdField) (hb : b ≠ storedIdField)
    (h : storedName a = storedName b) : a = b := by
  unfold storedName at h
  split at h <;> split at h
  · simp_all
  · exact absurd h.symm hb
  · exact absurd h ha
  · exact h

/-- The entries that are added for the fields of a document decode to these fields.  No stored
name is among those written before, so that each entry comes behind the others. -/
theorem encodeFields_eq_append {s : Schema} {encoded values : Document}
    (h : s.CanonicalFields values)
    (hnew : ∀ field ∈ Keyed.keys values, storedName field ∉ Keyed.keys encoded) :
    ∃ added, s.encodeFields encoded values = .ok (encoded ++ added) ∧
      added.map s.decodedEntry = values := by
  induction values generalizing encoded with
  | nil =>
      exact ⟨[], by simp [encodeFields], rfl⟩
  | cons entry rest ih =>
      rcases entry with ⟨field, v⟩
      rcases h with ⟨hdistinct, hentries⟩
      simp only [Keyed.keys, List.map_cons, List.nodup_cons] at hdistinct
      simp only [Keyed.keys, List.map_cons, List.forall_mem_cons] at hnew
      simp only [List.forall_mem_cons] at hentries
      rcases encodeFields_cons hentries.1 encoded rest with ⟨w, hencode, hdecode⟩
      rw [Keyed.insert_of_not_mem hnew.1] at hencode
      have hnew' : ∀ other ∈ Keyed.keys rest,
          storedName other ∉ Keyed.keys (encoded ++ [(storedName field, w)]) := by
        intro other hother hmem
        simp only [Keyed.keys, List.map_append, List.map_cons, List.map_nil, List.mem_append,
          List.mem_singleton] at hmem
        rcases hmem with hmem | hsame
        · exact hnew.2 other hother hmem
        · rcases List.mem_map.mp hother with ⟨entry, hentry, rfl⟩
          have hname := (hentries.2 entry hentry).name
          exact hdistinct.1 (storedName_inj hname hentries.1.name hsame ▸ hother)
      rcases ih ⟨hdistinct.2, hentries.2⟩ hnew' with ⟨added, hrest, hadded⟩
      refine ⟨(storedName field, w) :: added, ?_, ?_⟩
      · rw [hencode, hrest, List.append_assoc]
        rfl
      · rw [List.map_cons, hdecode, hadded]

/-!
# The round trip
-/

/-- A canonical document is encoded, and what is stored for it is decoded to it again. -/
theorem decode_encode {s : Schema} {d : Document} (h : s.CanonicalFields d) :
    ∃ stored, s.encode d = .ok stored ∧ s.decode stored = d := by
  have hempty : ∀ field ∈ Keyed.keys d, storedName field ∉ Keyed.keys ([] : Document) :=
    fun _ _ => List.not_mem_nil
  rcases encodeFields_eq_append h hempty with ⟨stored, hencode, hdecode⟩
  refine ⟨stored, hencode, ?_⟩
  rw [decode, hdecode]
  exact Keyed.ofList_of_nodup h.distinct

/-- A visit with references to owners, a leap day and a fraction of a second. -/
def visits : Schema :=
  .ofAttributes
    [("owners", { foreignKey := true }), ("at", { kind := .datetime }), ("day", { kind := .date }),
      ("token", { kind := .uuid })]

def visit : Document :=
  [("note", .int32 1), ("id", .string "000000000000000000000a1f"),
    ("owners", .array [.string "0123456789abcdef01234567", .array [.null]]),
    ("at", .string "2024-02-29T23:59:59.070Z"), ("day", .string "0000-02-29"),
    ("token", .string "00112233-4455-6677-8899-aabbccddeeff")]

theorem canonicalEntry_of_kind {s : Schema} {field : String} {v : Value} (kind : AttributeKind)
    (hfield : field ≠ storedIdField ∧ field ≠ idField) (hkind : s.kind? field = some kind)
    (h : kind.IsCanonical v) : s.CanonicalEntry field v where
  name := hfield.1
  identifier e := absurd e hfield.2
  typed _ other hother := by
    rw [hkind] at hother
    cases hother
    exact h

theorem canonicalFields_visit : visits.CanonicalFields visit where
  distinct := by decide
  entries := by
    have howners : Value.IsReferenceText
        (.array [.string "0123456789abcdef01234567", .array [.null]]) := by
      refine Value.IsReferenceText.array _ ?_
      simp only [List.forall_mem_cons]
      refine ⟨Value.IsReferenceText.text _ (by decide), ?_, fun _ h => absurd h List.not_mem_nil⟩
      exact Value.IsReferenceText.array _ fun v hv =>
        List.mem_singleton.mp hv ▸ Value.IsReferenceText.null
    have hat : Calendar.IsInstantText "2024-02-29T23:59:59.070Z" :=
      ⟨⟨2024, 2, 29⟩, ⟨23, 59, 59, 70⟩, ⟨by decide, by decide, by decide⟩,
        ⟨by decide, by decide, by decide, by decide⟩, by decide⟩
    have hday : Calendar.IsDateText "0000-02-29" :=
      ⟨⟨0, 2, 29⟩, ⟨by decide, by decide, by decide⟩, by decide⟩
    have htoken : Uuid.IsText "00112233-4455-6677-8899-aabbccddeeff" :=
      ⟨"00112233".toList, "4455".toList, "6677".toList, "8899".toList, "aabbccddeeff".toList,
        by decide, by decide, by decide, by decide, by decide, by decide⟩
    simp only [visit, List.forall_mem_cons]
    refine ⟨⟨by decide, fun h => absurd h (by decide), fun _ kind hkind => ?_⟩,
      ⟨by decide, fun _ => ⟨_, by decide, rfl⟩, fun h => absurd rfl h⟩,
      canonicalEntry_of_kind .objectId (by decide) (by decide) howners,
      canonicalEntry_of_kind .datetime (by decide) (by decide) (Or.inr ⟨_, hat, rfl⟩),
      canonicalEntry_of_kind .date (by decide) (by decide) (Or.inr ⟨_, hday, rfl⟩),
      canonicalEntry_of_kind .uuid (by decide) (by decide) (Or.inr ⟨_, htoken, rfl⟩),
      fun _ h => absurd h List.not_mem_nil⟩
    have hundeclared : visits.kind? "note" = none := by
      decide
    rw [hundeclared] at hkind
    cases hkind

theorem decode_encode_visit :
    visits.CanonicalFields visit ∧
      ∃ stored, visits.encode visit = .ok stored ∧ visits.decode stored = visit :=
  ⟨canonicalFields_visit, decode_encode canonicalFields_visit⟩

end Schema
end DocQuery
