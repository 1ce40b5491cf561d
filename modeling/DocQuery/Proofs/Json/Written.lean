import DocQuery.Connection.Basic
import DocQuery.Proofs.Json.Shape
import DocQuery.Schema.Written

/-!
# Written definitions and settings

Definitions of collections, settings and connections are read back from their texts,
with the attributes of a definition in the order in which they were declared.
-/

namespace DocQuery

open Shape

theorem Shape.ofText_print {read : Reader α} {j : Json} {a : α} (h : Reads read j a) :
    Shape.ofText read j.print = .ok a := by
  rw [Shape.ofText, Json.read?_print h.isWritten]
  simp only [h.eq, Outcome.mapError_ok]

theorem Connection.reads_orNull {read : Reader α} {write : α → Json}
    (h : ∀ a, Reads read (write a) a) (hnull : ∀ a, write a ≠ .null) (value : Option α) :
    Reads (Shape.optional read) (orNull write value) value := by
  cases value with
  | none =>
      exact reads_optional_null read
  | some a =>
      exact (h a).optional (hnull a)

/-!
# Attributes
-/

namespace Attribute

theorem reads_kind (k : AttributeKind) : Reads readKind (.text k.name) k :=
  reads_oneOf k.ofName?_name _

theorem reads_toJson (a : Attribute) : Reads record.read a.toJson a := by
  apply reads_record (by decide)
  -- Each entry fills the next member, and with the last one the record is `a`.
  exact .cons ((reads_kind a.kind).map _) <|
    .cons ((reads_boolean a.primaryKey).map _) <|
    .cons ((reads_boolean a.foreignKey).map _) <|
    .cons ((reads_boolean a.unique).map _) <|
    .cons ((reads_boolean a.indexed).map _) <|
    .cons ((reads_boolean a.autoIncrement).map _) <| .nil _

end Attribute

/-!
# Definitions and settings
-/

namespace Definition

theorem reads_toJson {d : Definition} (h : (Keyed.keys d.attributes).Nodup) :
    Reads record.read d.toJson d := by
  apply reads_record (by decide)
  exact .cons ((reads_text d.identity).map _) <|
    .cons ((Connection.reads_orNull reads_text nofun d.tableName).map _) <|
    .cons ((reads_map h fun entry _ => entry.2.reads_toJson).map _) <| .nil _

end Definition

theorem Settings.reads_toJson (s : Settings) : Reads record.read s.toJson s := by
  apply reads_record (by decide)
  exact .cons ((reads_boolean s.caseSensitive).map _) <|
    .cons ((reads_boolean s.installIndexes).map _) <| .nil _

/-!
# Connections
-/

namespace Connection

theorem reads_ofNat {toNat : α → Nat} {ofNat : Nat → α} {bound : Nat} (expected : String)
    (hofNat : ∀ a, ofNat (toNat a) = a) (hlt : ∀ a, toNat a < bound)
    (hbound : bound ≤ Number.maxWord + 1) (a : α) :
    Reads (fun j => (Shape.word expected bound j).map ofNat) (.whole (toNat a)) a := by
  have hread := (reads_word expected (hlt a) hbound).map ofNat
  rwa [hofNat] at hread

theorem reads_port (port : UInt16) : Reads port16 (.whole port.toNat) port :=
  reads_ofNat "u16" (fun _ => UInt16.ofNat_toNat) UInt16.toNat_lt (by decide) port

theorem reads_size (size : UInt32) : Reads size32 (.whole size.toNat) size :=
  reads_ofNat "u32" (fun _ => UInt32.ofNat_toNat) UInt32.toNat_lt (by decide) size

theorem reads_time (time : UInt64) : Reads time64 (.whole time.toNat) time :=
  reads_ofNat "u64" (fun _ => UInt64.ofNat_toNat) UInt64.toNat_lt (by decide) time

theorem reads_toJson (c : Connection) : Reads record.read c.toJson c := by
  apply reads_record (by decide)
  exact .cons ((reads_text c.host).map _) <|
    .cons ((reads_port c.port).map _) <|
    .cons ((reads_orNull reads_text nofun c.user).map _) <|
    .cons ((reads_orNull reads_text nofun c.password).map _) <|
    .cons ((reads_orNull reads_text nofun c.database).map _) <|
    .cons ((reads_orNull reads_text nofun c.url).map _) <|
    .cons ((reads_orNull reads_text nofun c.appName).map _) <|
    .cons ((reads_orNull reads_text nofun c.replicaSet).map _) <|
    .cons ((reads_orNull reads_boolean nofun c.directConnection).map _) <|
    .cons ((reads_orNull reads_size nofun c.minPoolSize).map _) <|
    .cons ((reads_orNull reads_size nofun c.maxPoolSize).map _) <|
    .cons ((reads_orNull reads_time nofun c.connectTimeout).map _) <|
    .cons ((reads_orNull reads_time nofun c.selectionTimeout).map _) <|
    .cons ((reads_orNull reads_boolean nofun c.retryReads).map _) <|
    .cons ((reads_orNull reads_boolean nofun c.retryWrites).map _) <| .nil _

end Connection

/-!
# Texts
-/

theorem Definition.ofText_toText {d : Definition} (h : (Keyed.keys d.attributes).Nodup) :
    ofText d.toText = .ok d := by
  rw [ofText, toText, Shape.ofText_print (reads_toJson h), Outcome.mapError_ok]

theorem Settings.ofText_toText (s : Settings) : ofText s.toText = .ok s := by
  rw [ofText, toText, Shape.ofText_print s.reads_toJson, Outcome.mapError_ok]

theorem Connection.ofText_toText (c : Connection) : ofText c.toText = .ok c := by
  rw [ofText, toText, Shape.ofText_print c.reads_toJson, Outcome.mapError_ok]

/-- Whatever texts, numbers, kinds and flags they hold, definitions and settings survive
being written and read, as long as the attributes of a definition have distinct names. -/
theorem survive_written :
    (∀ d : Definition, (Keyed.keys d.attributes).Nodup → Definition.ofText d.toText = .ok d) ∧
    (∀ s : Settings, Settings.ofText s.toText = .ok s) ∧
    ∀ c : Connection, Connection.ofText c.toText = .ok c :=
  ⟨fun _ h => Definition.ofText_toText h, Settings.ofText_toText, Connection.ofText_toText⟩

theorem survive_written_visits :
    let d : Definition :=
      { identity := "Visit \"\\\n\x01é😀",
        tableName := some "",
        attributes :=
          [("type", { kind := .objectId, foreignKey := true }), ("", { indexed := true }),
            ("\t", { kind := .datetime, unique := true })] }
    (Keyed.keys d.attributes).Nodup ∧ Definition.ofText d.toText = .ok d := by
  intro d
  have hdistinct : (Keyed.keys d.attributes).Nodup := by decide
  exact ⟨hdistinct, survive_written.1 d hdistinct⟩

end DocQuery
