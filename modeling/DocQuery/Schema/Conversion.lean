import DocQuery.Calendar.Instant
import DocQuery.Error
import DocQuery.Schema.Basic
import DocQuery.Value.Identifier

/-!
# Logical and stored documents

Callers see identifiers, instants and universally unique identifiers as text.
The store keeps them in kinds of their own, and keeps the identifier of a
document under a name of its own.
-/

namespace DocQuery

/-!
# Identifiers

Lists of identifiers are converted item by item, and null stays null, so that a
reference can be cleared.
-/

namespace Value

mutual

def parseIdentifier : Value → Except IdentifierFault Value
  | .objectId id => .ok (.objectId id)
  | .null => .ok .null
  | .string text =>
      match ObjectId.ofHex? text with
      | some id => .ok (.objectId id)
      | none => .error (.text text)
  | .array items => (parseIdentifiers items).map .array
  | got => .error (.value got)

def parseIdentifiers : List Value → Except IdentifierFault (List Value)
  | [] => .ok []
  | v :: rest => do
      let id ← parseIdentifier v
      let ids ← parseIdentifiers rest
      return id :: ids

end

mutual

def renderIdentifier : Value → Value
  | .objectId id => .string id.toHex
  | .array items => .array (renderIdentifiers items)
  | other => other

def renderIdentifiers : List Value → List Value
  | [] => []
  | v :: rest => renderIdentifier v :: renderIdentifiers rest

end

/-!
# Instants and universally unique identifiers
-/

/-- The instant that a text names, or the start of the day that it names. -/
def instantOf? (text : String) : Option Int :=
  (Calendar.instantOfText? text.toList).orElse fun _ =>
    (Calendar.Date.ofText? text.toList).map Calendar.midnight

def encodeInstant : Value → Except ValueFault Value
  | .string text =>
      match instantOf? text with
      | some millis => .ok (.instant (Int64.ofInt millis))
      | none => .error (.dateText text)
  | .int64 millis => .ok (.instant millis)
  | .instant millis => .ok (.instant millis)
  | .null => .ok .null
  | got => .error (.date got)

theorem encodeInstant_string (text : String) :
    encodeInstant (.string text) =
      match instantOf? text with
      | some millis => .ok (.instant (Int64.ofInt millis))
      | none => .error (.dateText text) :=
  rfl

/-- The kind of binary data that universally unique identifiers are. -/
def uuidSubtype : UInt8 :=
  4

def encodeUuid : Value → Except ValueFault Value
  | .string text =>
      match Uuid.ofText? text with
      | some uuid => .ok (.binary uuidSubtype uuid.bytes)
      | none => .error (.uuidText text)
  | .binary subtype bytes => .ok (.binary subtype bytes)
  | .null => .ok .null
  | got => .error (.uuid got)

/-- Binary data of another kind or length is no such identifier and stays as it is. -/
def decodeUuid (subtype : UInt8) (bytes : List UInt8) : Value :=
  if subtype = uuidSubtype then
    match Uuid.ofBytes? bytes with
    | some uuid => .string uuid.toText
    | none => .binary subtype bytes
  else
    .binary subtype bytes

end Value

/-!
# Attribute values
-/

namespace AttributeKind

/-- The conversion of a kind whose stored form differs from its logical one, identifiers apart. -/
def encoder? : AttributeKind → Option (Value → Except ValueFault Value)
  | date | datetime => some Value.encodeInstant
  | uuid => some Value.encodeUuid
  | _ => none

def encode (kind : AttributeKind) (value : Value) : Except Error Value :=
  if kind = .objectId then
    (Value.parseIdentifier value).mapError .identifier
  else
    match kind.encoder? with
    | some encoder => (encoder value).mapError .document
    | none => .ok value

def decode : AttributeKind → Value → Value
  | objectId, value => value.renderIdentifier
  | datetime, .instant millis => .string (Calendar.instantText millis.toInt)
  | date, .instant millis => .string (Calendar.dateText millis.toInt)
  | uuid, .binary subtype bytes => Value.decodeUuid subtype bytes
  | _, value => value

end AttributeKind

/-!
# Documents

A null identifier is left out, so that the store assigns one.  Fields that the
schema does not know pass unchanged.
-/

namespace Schema

def encodeField (s : Schema) (field : String) (value : Value) : Except Error Value :=
  match s.kind? field with
  | some kind => kind.encode value
  | none => .ok value

def encodeFields (s : Schema) : Document → Document → Except Error Document
  | encoded, [] => .ok encoded
  | encoded, (field, value) :: rest =>
      if field = idField ∨ field = storedIdField then
        if value = .null then encodeFields s encoded rest
        else do
          let id ← (value.parseIdentifier).mapError .identifier
          encodeFields s (Keyed.insert encoded storedIdField id) rest
      else do
        let value ← s.encodeField field value
        encodeFields s (Keyed.insert encoded field value) rest

def encode (s : Schema) (values : Document) : Except Error Document :=
  s.encodeFields [] values

def decodeField (s : Schema) (field : String) (value : Value) : Value :=
  match s.kind? field with
  | some kind => kind.decode value
  | none => value

def decodedEntry (s : Schema) (entry : String × Value) : String × Value :=
  if entry.1 = storedIdField then (idField, entry.2.renderIdentifier)
  else (entry.1, s.decodeField entry.1 entry.2)

def decode (s : Schema) (stored : Document) : Document :=
  Keyed.ofList (stored.map s.decodedEntry)

end Schema
end DocQuery
