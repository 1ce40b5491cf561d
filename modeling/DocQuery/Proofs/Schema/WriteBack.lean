import DocQuery.Proofs.Calendar.Years
import DocQuery.Proofs.Query.Stored
import DocQuery.Proofs.Schema.RoundTrip

/-!
# What is read can be written back

A stored document that is decoded is encoded again, and comes to what it was
with the times of day gone from its dates.  Instants have to lie in the years
0000 to 9999, since other years are written but not read with a time of day.
-/

namespace DocQuery

open Outcome

/-!
# Values back and there
-/

namespace Value

theorem parseIdentifier_renderIdentifier {v : Value} (h : v.IsReference) :
    v.renderIdentifier.parseIdentifier = .ok v := by
  induction h with
  | objectId id =>
      rw [renderIdentifier, parseIdentifier, ObjectId.ofHex?_toHex]
  | null =>
      rfl
  | array items _ ih =>
      have hitems : parseIdentifiers (renderIdentifiers items) = .ok items := by
        clear * - ih
        induction items with
        | nil =>
            rfl
        | cons v rest ihrest =>
            rw [List.forall_mem_cons] at ih
            rw [renderIdentifiers, parseIdentifiers, ih.1, ihrest ih.2]
            rfl
      rw [renderIdentifier, parseIdentifier, hitems]
      rfl

theorem encodeUuid_decodeUuid (subtype : UInt8) (bytes : List UInt8) :
    encodeUuid (decodeUuid subtype bytes) = .ok (.binary subtype bytes) := by
  unfold decodeUuid
  split
  · rename_i hsubtype
    split
    · rename_i uuid huuid
      rw [Uuid.ofBytes?, Option.dite_none_right_eq_some] at huuid
      rcases huuid with ⟨_, huuid⟩
      cases huuid
      rw [encodeUuid, Uuid.ofText?_toText, hsubtype]
    · rfl
  · rfl

/-- An instant of the years that are read with a time of day. -/
def IsReadable (millis : Int64) : Prop :=
  Calendar.midnight ⟨0, 1, 1⟩ ≤ millis.toInt ∧ millis.toInt < Calendar.midnight ⟨10000, 1, 1⟩

theorem encodeInstant_instantText {millis : Int64} (h : IsReadable millis) :
    encodeInstant (.string (Calendar.instantText millis.toInt)) = .ok (.instant millis) := by
  rcases Calendar.exists_midnight_add h.1 h.2 with ⟨d, t, hd, ht, hmillis⟩
  have hread : instantOf? (Calendar.instantText millis.toInt) = some millis.toInt := by
    rw [hmillis, Calendar.instantText_midnight_add hd ht, instantOf?,
      Calendar.instantOfText?_textOf hd ht]
    rfl
  simp only [encodeInstant_string, hread, Int64.ofInt_toInt]

def dayStart (millis : Int64) : Int64 :=
  Int64.ofInt (Calendar.midnight (Calendar.shownDate millis.toInt))

theorem encodeInstant_dateText (millis : Int64) :
    encodeInstant (.string (Calendar.dateText millis.toInt)) = .ok (.instant (dayStart millis)) := by
  have hwritten := Calendar.isWritten_shownDate millis.toInt
  have hread : instantOf? (Calendar.dateText millis.toInt) =
      some (Calendar.midnight (Calendar.shownDate millis.toInt)) := by
    rw [Calendar.dateText_eq, instantOf?, Calendar.instantOfText?_toText_of_isWritten hwritten,
      Calendar.ofText?_toText_of_isWritten hwritten]
    rfl
  simp only [encodeInstant_string, hread, dayStart]

theorem dayStart_eq_iff (millis : Int64) :
    dayStart millis = millis ↔ Calendar.IsDayStart millis.toInt := by
  have hbounds := Calendar.toDays_bounds_of_isWritten (Calendar.isWritten_shownDate millis.toInt)
  rw [Calendar.toDays_firstDate, Calendar.toDays_lastDate] at hbounds
  have hfits : (dayStart millis).toInt = Calendar.midnight (Calendar.shownDate millis.toInt) := by
    refine Int64.toInt_ofInt_of_le ?_ ?_ <;>
      simp only [Calendar.midnight, Calendar.millisPerDay] <;> omega
  rw [← Int64.toInt_inj, hfits]
  exact Calendar.midnight_shownDate_eq_iff millis.toInt

end Value

/-- What is stored after a value has been read and written again. -/
def AttributeKind.rewritten : AttributeKind → Value → Value
  | date, .instant millis => .instant (Value.dayStart millis)
  | _, v => v

theorem AttributeKind.encode_of_encoder? {kind : AttributeKind}
    {encoder : Value → Except ValueFault Value} (h : kind.encoder? = some encoder)
    {v stored : Value} (hv : encoder v = .ok stored) : kind.encode v = .ok stored := by
  have hkind : kind ≠ .objectId := by
    rintro rfl
    cases h
  rw [encode, if_neg hkind, h, mapError_eq_ok]
  exact hv

theorem AttributeKind.encode_decode {kind : AttributeKind} {v : Value} (h : kind.Holds v)
    (hreadable : kind = .datetime → ∀ millis, v = .instant millis → Value.IsReadable millis) :
    kind.encode (kind.decode v) = .ok (kind.rewritten v) := by
  cases kind with
  | objectId =>
      rw [encode, if_pos rfl, mapError_eq_ok]
      exact Value.parseIdentifier_renderIdentifier h
  | date =>
      rcases h with rfl | ⟨millis, rfl⟩
      · rfl
      · exact encode_of_encoder? rfl (Value.encodeInstant_dateText millis)
  | datetime =>
      rcases h with rfl | ⟨millis, rfl⟩
      · rfl
      · exact encode_of_encoder? rfl (Value.encodeInstant_instantText (hreadable rfl millis rfl))
  | uuid =>
      rcases h with rfl | ⟨subtype, bytes, rfl⟩
      · rfl
      · exact encode_of_encoder? rfl (Value.encodeUuid_decodeUuid subtype bytes)
  | _ =>
      rfl

/-!
# Fields back and there
-/

namespace Schema

/-- A field is stored as an entry. -/
structure Stores (s : Schema) (entry stored : String × Value) : Prop where
  kept : ¬ (entry.2 = .null ∧ (entry.1 = idField ∨ entry.1 = storedIdField))
  name : stored.1 = storedName entry.1
  value : s.storedValue entry.1 entry.2 = .ok stored.2

theorem Stores.encodeFields_cons {s : Schema} {entry stored : String × Value}
    (h : s.Stores entry stored) (encoded rest : Document) :
    s.encodeFields encoded (entry :: rest) =
      s.encodeFields (Keyed.insert encoded stored.1 stored.2) rest := by
  rcases entry with ⟨field, v⟩
  rcases h with ⟨hkept, hname, hvalue⟩
  simp only at hkept hname hvalue
  rw [encodeFields, hname]
  unfold storedValue at hvalue
  by_cases hid : field = idField ∨ field = storedIdField
  · have hnull : v ≠ .null := fun hnull => hkept ⟨hnull, hid⟩
    have hstored : storedName field = storedIdField := by
      rcases hid with rfl | rfl <;> decide
    rw [if_pos hid] at hvalue ⊢
    rw [if_neg hnull, hvalue, hstored]
    rfl
  · have hstored : storedName field = field := storedName_of_ne fun h => hid (Or.inl h)
    rw [if_neg hid] at hvalue ⊢
    rw [hvalue, hstored]
    rfl

theorem encodeFields_of_stores {s : Schema} {encoded fields added : Document}
    (h : List.Forall₂ s.Stores fields added) :
    s.encodeFields encoded fields = .ok (Keyed.insertAll encoded added) := by
  induction h generalizing encoded with
  | nil =>
      rfl
  | cons hentry _ ih =>
      rw [hentry.encodeFields_cons, ih]
      rfl

/-- What is stored after a field has been read and written again. -/
def rewrittenEntry (s : Schema) (entry : String × Value) : String × Value :=
  (entry.1, match s.kind? entry.1 with
    | some kind => kind.rewritten entry.2
    | none => entry.2)

/-- The instants of a document have to be readable where they are read with a time of day. -/
def IsReadable (s : Schema) (d : Document) : Prop :=
  ∀ field millis, (field, Value.instant millis) ∈ d → s.kind? field = some .datetime →
    Value.IsReadable millis

/-- The dates of a document are kept without a time of day. -/
def HasDayStarts (s : Schema) (d : Document) : Prop :=
  ∀ field millis, (field, Value.instant millis) ∈ d → s.kind? field = some .date →
    Calendar.IsDayStart millis.toInt

theorem rewrittenEntry_of_ne_instant (s : Schema) (field : String) {v : Value}
    (h : ∀ millis, v ≠ .instant millis) : s.rewrittenEntry (field, v) = (field, v) := by
  unfold rewrittenEntry
  cases s.kind? field with
  | none =>
      rfl
  | some kind =>
      cases kind <;> cases v <;> first | rfl | exact absurd rfl (h _)

/-- Identifiers come back as they are, whatever the schema says of an attribute of that name. -/
theorem stores_identifier (s : Schema) {v : Value} (h : v.IsStoredId) :
    s.Stores (s.decodedEntry (storedIdField, v)) (s.rewrittenEntry (storedIdField, v)) := by
  have hdecoded : s.decodedEntry (storedIdField, v) = (idField, v.renderIdentifier) := if_pos rfl
  have hreference : v.IsReference := by
    rcases h with ⟨id, rfl⟩ | ⟨items, rfl, hparse⟩
    · exact Value.IsReference.objectId id
    · exact Value.isReference_of_parseIdentifier hparse
  have hrewritten : s.rewrittenEntry (storedIdField, v) = (storedIdField, v) := by
    rcases h with ⟨id, rfl⟩ | ⟨items, rfl, _⟩ <;>
      exact rewrittenEntry_of_ne_instant s _ fun _ => Value.noConfusion
  rw [hdecoded, hrewritten]
  refine ⟨?_, rfl, ?_⟩
  · rintro ⟨hnull, _⟩
    rcases h with ⟨id, rfl⟩ | ⟨items, rfl, _⟩ <;> cases hnull
  · rw [storedValue, if_pos (Or.inl rfl), mapError_eq_ok]
    exact Value.parseIdentifier_renderIdentifier hreference

theorem stores_decodedEntry {s : Schema} {field : String} {v : Value}
    (h : s.StoredEntry field v)
    (hreadable : s.kind? field = some .datetime → ∀ millis, v = .instant millis →
      Value.IsReadable millis) :
    s.Stores (s.decodedEntry (field, v)) (s.rewrittenEntry (field, v)) := by
  by_cases hid : field = storedIdField
  · subst hid
    exact stores_identifier s (h.identifier rfl)
  · have hdecoded : s.decodedEntry (field, v) = (field, s.decodeField field v) := if_neg hid
    have hother : ¬ (field = idField ∨ field = storedIdField) := by
      rintro (hname | hname)
      · exact h.name hname
      · exact hid hname
    rw [hdecoded]
    refine ⟨fun hnull => hother hnull.2, (storedName_of_ne h.name).symm, ?_⟩
    rw [storedValue, if_neg hother, encodeField, decodeField, rewrittenEntry]
    cases hkind : s.kind? field with
    | none =>
        rfl
    | some kind =>
        refine AttributeKind.encode_decode (h.typed hid kind hkind) ?_
        rintro rfl
        exact hreadable hkind

theorem encode_decode_of_storedFields {s : Schema} {d : Document} (h : s.StoredFields d)
    (hreadable : s.IsReadable d) :
    s.encode (s.decode d) = .ok (d.map s.rewrittenEntry) := by
  have hstores : List.Forall₂ s.Stores (d.map s.decodedEntry) (d.map s.rewrittenEntry) := by
    rw [List.forall₂_map_left_iff, List.forall₂_map_right_iff, List.forall₂_same]
    rintro ⟨field, v⟩ hentry
    refine stores_decodedEntry (h.entries _ hentry) ?_
    rintro hkind millis rfl
    exact hreadable field millis hentry hkind
  have hdistinct : (Keyed.keys (d.map s.rewrittenEntry)).Nodup := by
    rw [Keyed.keys, List.map_map]
    exact h.distinct
  rw [decode_eq_map h, encode, encodeFields_of_stores hstores]
  exact congrArg Except.ok (Keyed.ofList_of_nodup hdistinct)

theorem rewrittenEntry_instant_eq_iff (s : Schema) (field : String) (millis : Int64) :
    s.rewrittenEntry (field, .instant millis) = (field, .instant millis) ↔
      (s.kind? field = some .date → Calendar.IsDayStart millis.toInt) := by
  unfold rewrittenEntry
  cases s.kind? field with
  | none =>
      simp
  | some kind =>
      cases kind <;> simp [AttributeKind.rewritten, Value.dayStart_eq_iff]

theorem map_rewrittenEntry_eq_iff {s : Schema} {d : Document} :
    d.map s.rewrittenEntry = d ↔ s.HasDayStarts d := by
  have hentries : d.map s.rewrittenEntry = d ↔ ∀ entry ∈ d, s.rewrittenEntry entry = entry := by
    conv => lhs; rhs; rw [← List.map_id d]
    exact List.map_inj_left
  rw [hentries]
  constructor
  · intro h field millis hentry
    exact (rewrittenEntry_instant_eq_iff s field millis).mp (h _ hentry)
  · rintro h ⟨field, v⟩ hentry
    by_cases hinstant : ∃ millis, v = .instant millis
    · rcases hinstant with ⟨millis, rfl⟩
      exact (rewrittenEntry_instant_eq_iff s field millis).mpr (h field millis hentry)
    · exact rewrittenEntry_of_ne_instant s field fun millis hv => hinstant ⟨millis, hv⟩

/-- Whatever is encoded can be read and written again, if its instants lie in the years 0000 to
9999, and it is then the same up to the times of day of dates. -/
theorem encode_decode_encode {s : Schema} {values stored : Document}
    (h : s.encode values = .ok stored) (hreadable : s.IsReadable stored) :
    s.encode (s.decode stored) = .ok (stored.map s.rewrittenEntry) ∧
      (s.encode (s.decode stored) = .ok stored ↔ s.HasDayStarts stored) := by
  have hwritten := encode_decode_of_storedFields (storedFields_encode h) hreadable
  refine ⟨hwritten, ?_⟩
  rw [hwritten, Except.ok.injEq]
  exact map_rewrittenEntry_eq_iff

/-- Spelled in other ways than those that are read, and with a time of day under a date. -/
def hastyVisit : Document :=
  [("id", .string "000000000000000000000A1F"), ("at", .string "2024-02-29 23:59:60.0709+01:00"),
    ("day", .string "2024-02-29T10:30:00Z"),
    ("token", .string "urn:uuid:00112233-4455-6677-8899-AABBCCDDEEFF")]

def storedVisit : Document :=
  [("_id", .objectId (ObjectId.ofSerial 0xa1f)), ("at", .instant 1709247600070),
    ("day", .instant 1709202600000),
    ("token", .binary 4
      [0x00, 0x11, 0x22, 0x33, 0x44, 0x55, 0x66, 0x77, 0x88, 0x99, 0xaa, 0xbb, 0xcc, 0xdd, 0xee,
        0xff])]

theorem encode_decode_encode_hastyVisit :
    visits.encode hastyVisit = .ok storedVisit ∧ visits.IsReadable storedVisit ∧
      visits.encode (visits.decode storedVisit) = .ok (storedVisit.map visits.rewrittenEntry) := by
  have hencode : visits.encode hastyVisit = .ok storedVisit :=
    toOption_eq_some.mp (by decide +kernel)
  have hreadable : visits.IsReadable storedVisit := by
    intro field millis hmem hkind
    simp [storedVisit] at hmem
    rcases hmem with ⟨rfl, rfl⟩ | ⟨rfl, rfl⟩
    · exact ⟨by decide, by decide⟩
    · exact absurd hkind (by decide)
  exact ⟨hencode, hreadable, (encode_decode_encode hencode hreadable).1⟩

/-- The time of day of a date is lost when it is read, and the first instant of the year 10000
is read as a text that is not written again. -/
theorem encode_decode_changes_times :
    (visits.encode [("day", .string "2024-02-29T10:30:00Z")] =
        .ok [("day", .instant 1709202600000)] ∧
      visits.encode (visits.decode [("day", .instant 1709202600000)]) =
        .ok [("day", .instant 1709164800000)]) ∧
    visits.encode [("at", .int64 253402300800000)] = .ok [("at", .instant 253402300800000)] ∧
      visits.encode (visits.decode [("at", .instant 253402300800000)]) =
        .error (.document (.dateText "+10000-01-01T00:00:00Z")) := by
  refine ⟨⟨toOption_eq_some.mp (by decide +kernel), toOption_eq_some.mp (by decide +kernel)⟩,
    toOption_eq_some.mp (by decide +kernel), ?_⟩
  rfl

end Schema
end DocQuery
