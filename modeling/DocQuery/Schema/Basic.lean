import DocQuery.Keyed
import DocQuery.Text.Case.Lower

/-!
# Definitions and schemas
-/

namespace DocQuery

/-!
# Collection definitions

A definition names a collection and its attributes, each with a type and the
part that it plays: a key, a reference, a unique or an indexed field.
-/

inductive AttributeKind where
  | string
  | text
  | integer
  | float
  | number
  | boolean
  | date
  | datetime
  | binary
  | array
  | json
  | objectId
  | uuid
  deriving DecidableEq, Repr

namespace AttributeKind

def all : List AttributeKind :=
  [string, text, integer, float, number, boolean, date, datetime, binary, array, json, objectId,
    uuid]

def name : AttributeKind → String
  | string => "string"
  | text => "text"
  | integer => "integer"
  | float => "float"
  | number => "number"
  | boolean => "boolean"
  | date => "date"
  | datetime => "datetime"
  | binary => "binary"
  | array => "array"
  | json => "json"
  | objectId => "objectid"
  | uuid => "uuid"

/-- All names that are read, in the order in which messages list them. -/
def names : List (String × AttributeKind) :=
  [("string", string), ("text", text), ("integer", integer), ("float", float),
    ("number", number), ("boolean", boolean), ("date", date), ("datetime", datetime),
    ("binary", binary), ("array", array), ("json", json), ("objectId", objectId),
    ("objectid", objectId), ("uuid", uuid)]

def ofName? (name : String) : Option AttributeKind :=
  Keyed.get? names name

theorem ofName?_name (k : AttributeKind) : ofName? k.name = some k := by
  cases k <;> decide

end AttributeKind

structure Attribute where
  kind : AttributeKind := .string
  primaryKey : Bool := false
  foreignKey : Bool := false
  unique : Bool := false
  indexed : Bool := false
  autoIncrement : Bool := false
  deriving DecidableEq, Repr

structure Definition where
  identity : String
  tableName : Option String := none
  attributes : Keyed Attribute := []
  deriving DecidableEq, Repr

namespace Definition

def withAttribute (d : Definition) (name : String) (a : Attribute) : Definition :=
  { d with attributes := Keyed.insert d.attributes name a }

/-- The name under which the collection is stored: the table name as it stands, if there is one. -/
def storageName (d : Definition) : String :=
  d.tableName.getD (Text.lower d.identity)

end Definition

/-!
# Schemas

A schema is a definition made ready for a document store.  Whole-number primary
keys and all references become identifiers, and counting up is left to the
store.
-/

/-- The field that callers know as the identifier. -/
def idField : String :=
  "id"

/-- The field that holds the identifier in the store. -/
def storedIdField : String :=
  "_id"

def storedName (field : String) : String :=
  if field = idField then storedIdField else field

def Attribute.normalized (a : Attribute) : Attribute :=
  let identifies := a.foreignKey || (a.primaryKey && a.kind = .integer)
  { a with
    kind := if identifies then .objectId else a.kind
    autoIncrement := false }

structure Schema where
  attributes : Keyed Attribute
  deriving DecidableEq, Repr

namespace Schema

def ofAttributes (attributes : Keyed Attribute) : Schema :=
  ⟨attributes.map fun entry => (entry.1, entry.2.normalized)⟩

def attribute? (s : Schema) (field : String) : Option Attribute :=
  Keyed.get? s.attributes field

def kind? (s : Schema) (field : String) : Option AttributeKind :=
  (s.attribute? field).map Attribute.kind

/-- The first primary key that is declared. -/
def primaryKey (s : Schema) : String :=
  match s.attributes.find? (fun entry => entry.2.primaryKey) with
  | some (name, _) => name
  | none => idField

/-- Whether the values of a field are stored as identifiers. -/
def isIdentifier (s : Schema) (field : String) : Bool :=
  field = idField || field = storedIdField || s.kind? field = some .objectId

end Schema

/-!
# Stored names
-/

theorem storedName_ne_idField (field : String) : storedName field ≠ idField := by
  unfold storedName
  split
  · decide
  · assumption

theorem storedName_of_ne {field : String} (h : field ≠ idField) : storedName field = field := by
  simp [storedName, h]

end DocQuery
