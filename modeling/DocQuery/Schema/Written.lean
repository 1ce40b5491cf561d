import DocQuery.Error
import DocQuery.Schema.Basic

/-!
# Written definitions and settings

Definitions and settings are kept as JSON records.  All members are written, and
most may be left out when reading.
-/

namespace DocQuery

namespace Attribute

def toJson (a : Attribute) : Json :=
  .record
    [("type", .text a.kind.name), ("primaryKey", .boolean a.primaryKey),
      ("foreignKey", .boolean a.foreignKey), ("unique", .boolean a.unique),
      ("indexed", .boolean a.indexed), ("autoIncrement", .boolean a.autoIncrement)]

def readKind : Shape.Reader AttributeKind :=
  Shape.oneOf AttributeKind.names (AttributeKind.names.map Prod.fst)

def record : Shape.Record Attribute where
  title := "struct AttributeDescriptor"
  start := {}
  members :=
    [.of "type" readKind fun a kind => { a with kind },
      .of "primaryKey" Shape.boolean fun a primaryKey => { a with primaryKey },
      .of "foreignKey" Shape.boolean fun a foreignKey => { a with foreignKey },
      .of "unique" Shape.boolean fun a unique => { a with unique },
      { Shape.Member.of "indexed" Shape.boolean fun a indexed => { a with indexed } with
        otherName := some "index" },
      .of "autoIncrement" Shape.boolean fun a autoIncrement => { a with autoIncrement }]

end Attribute

namespace Definition

def toJson (d : Definition) : Json :=
  .record
    [("identity", .text d.identity),
      ("tableName", (d.tableName.map Json.text).getD .null),
      ("attributes", .record (d.attributes.map fun entry => (entry.1, entry.2.toJson)))]

def record : Shape.Record Definition where
  title := "struct CollectionDefinition"
  start := { identity := "" }
  members :=
    [{ Shape.Member.of "identity" Shape.text fun d identity => { d with identity } with
        required := true },
      .of "tableName" (Shape.optional Shape.text) fun d tableName => { d with tableName },
      { Shape.Member.of "attributes" (Shape.map Attribute.record.read)
          fun d attributes => { d with attributes } with
        otherName := some "definition" }]

def toText (d : Definition) : String :=
  d.toJson.print

end Definition

def Shape.ofText (read : Shape.Reader α) (text : String) : Except TextFault α :=
  match Json.read? text with
  | none => .error .notJson
  | some j => (read j).mapError .shape

def Definition.ofText (text : String) : Except Error Definition :=
  (Shape.ofText Definition.record.read text).mapError fun fault => .definition (.text fault)

/-!
# Settings

What applies to all collections alike: whether text is compared with regard to
case, and whether indexes are installed when a collection is registered.
-/

structure Settings where
  caseSensitive : Bool := true
  installIndexes : Bool := true
  deriving DecidableEq, Repr

namespace Settings

def toJson (s : Settings) : Json :=
  .record
    [("caseSensitive", .boolean s.caseSensitive), ("installIndexes", .boolean s.installIndexes)]

def record : Shape.Record Settings where
  title := "struct AdapterConfig"
  start := {}
  members :=
    [.of "caseSensitive" Shape.boolean fun s caseSensitive => { s with caseSensitive },
      .of "installIndexes" Shape.boolean fun s installIndexes => { s with installIndexes }]

def toText (s : Settings) : String :=
  s.toJson.print

def ofText (text : String) : Except Error Settings :=
  (Shape.ofText record.read text).mapError .settings

end Settings
end DocQuery
