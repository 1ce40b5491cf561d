import DocQuery.Collection.Program
import DocQuery.Query.Compile

/-!
# Collections

A collection binds a schema to a store.  Its operations take and give logical
documents.  A store does not tell which documents a write has touched, so that
updating and destroying look up the identifiers of the matching documents
before they write.
-/

namespace DocQuery

structure Collection where
  identity : String
  schema : Schema
  settings : Settings

namespace Collection

def ofDefinition (d : Definition) (settings : Settings) : Collection :=
  ⟨d.storageName, Schema.ofAttributes d.attributes, settings⟩

def indexes (c : Collection) : List Index :=
  c.schema.indexes

def compiler (c : Collection) : Compiler :=
  ⟨c.schema, c.settings⟩

/-!
# Finding
-/

/-- Moves the key of a group out of the identifier and in front of the summaries. -/
def flattenGroup (row : Document) : Document :=
  let summaries := Keyed.erase row storedIdField
  match Keyed.get? row storedIdField with
  | some (.document key) => Keyed.insertAll key summaries
  | _ => summaries

def find (c : Collection) (criteria : Criteria) : Program (List Document) := do
  let q ← Program.ofExcept (c.compiler.compile criteria)
  match q.pipeline with
  | some pipeline =>
      let rows ← Program.call (.aggregate pipeline)
      return rows.map flattenGroup
  | none =>
      let documents ← Program.call (.query q.filter q.options)
      return documents.map c.schema.decode

/-- Streams whole documents; a choice of fields and a grouping are passed over. -/
def stream (c : Collection) (criteria : Criteria) : Program Feed := do
  let q ← Program.ofExcept (c.compiler.compile criteria.withoutChoice.withoutGrouping)
  let feed ← Program.call (.stream q.filter q.options)
  return { feed with documents := feed.documents.map c.schema.decode }

def count (c : Collection) (condition : Option Condition) : Program Nat := do
  let filter ← Program.ofExcept (c.compiler.filter? condition)
  Program.call (.count filter)

/-!
# Inserting
-/

def byIdentifiers (ids : List Value) : Document :=
  [(storedIdField, .document [("$in", .array ids)])]

/-- Stored documents under the texts of their identifiers. -/
def byText (documents : List Document) : Keyed Document :=
  Keyed.ofList (documents.filterMap fun d =>
    (Keyed.get? d storedIdField).map fun id => (id.shown, d))

/-- The documents of a list of identifiers, each given out once. -/
def pick : Keyed Document → List Value → List Document
  | _, [] => []
  | stored, id :: rest =>
      match Keyed.get? stored id.shown with
      | some d => d :: pick (Keyed.erase stored id.shown) rest
      | none => pick stored rest

def encodeAll (schema : Schema) : List Document → Except Error (List Document)
  | [] => .ok []
  | d :: rest => do
      let encoded ← schema.encode d
      let others ← encodeAll schema rest
      return encoded :: others

/-- Inserts documents in one write, and gives them back as they were stored. -/
def insertMany (c : Collection) (batch : List Document) : Program (List Document) :=
  if batch.isEmpty then pure []
  else do
    let encoded ← Program.ofExcept (encodeAll c.schema batch)
    let ids ← Program.call (.insert encoded)
    let stored ← Program.call (.query (byIdentifiers ids) {})
    return (pick (byText stored) ids).map c.schema.decode

def insert (c : Collection) (values : Document) : Program Document := do
  let inserted ← c.insertMany [values]
  match inserted.getLast? with
  | some d => return d
  | none => Program.fail (.storage .notReadBack)

/-!
# Updating and destroying
-/

def captureIds (filter : Document) : Program (List Value) := do
  let found ← Program.call (.query filter .identifiersOnly)
  return found.filterMap fun d => Keyed.get? d storedIdField

def ensure (operation : String) (a : Acknowledgement) : Program Unit :=
  if a.acknowledged then pure () else Program.fail (.storage (.unacknowledged operation))

def writeSet (filter set : Document) : Program Unit :=
  if set.isEmpty then pure ()
  else do
    let a ← Program.call (.update filter set)
    ensure "update" a

/-- Sets values on all matching documents and gives them back; the identifier cannot be set. -/
def update (c : Collection) (condition : Option Condition) (values : Document) :
    Program (List Document) := do
  let filter ← Program.ofExcept (c.compiler.filter? condition)
  let encoded ← Program.ofExcept (c.schema.encode values)
  let set := Keyed.erase encoded storedIdField
  let ids ← captureIds filter
  if ids.isEmpty then
    return []
  else
    writeSet filter set
    let documents ← Program.call (.query (byIdentifiers ids) {})
    return documents.map c.schema.decode

def identifierRow (id : Value) : Document :=
  [(storedIdField, id)]

/-- Deletes all matching documents and gives back their identifiers. -/
def destroy (c : Collection) (condition : Option Condition) : Program (List Document) := do
  let filter ← Program.ofExcept (c.compiler.filter? condition)
  let ids ← captureIds filter
  if ids.isEmpty then
    return []
  else
    let a ← Program.call (.delete filter)
    ensure "destroy" a
    return ids.map fun id => c.schema.decode (identifierRow id)

def installAll : List Index → Program Unit
  | [] => pure ()
  | index :: rest => do
      Program.call (.createIndex index)
      installAll rest

def installIndexes (c : Collection) : Program Unit :=
  installAll c.indexes

end Collection

/-!
# Sinks

A sink takes documents one by one and may refuse one.  At the end it is told
once how the stream has gone.
-/

structure Sink (σ : Type) where
  write : σ → Document → Except Error Unit × σ
  finish : σ → Except Error Unit → σ

namespace Sink

def writeAll (sink : Sink σ) : σ → List Document → Except Error Unit × σ
  | s, [] => (.ok (), s)
  | s, d :: rest =>
      match sink.write s d with
      | (.error e, s) => (.error e, s)
      | (.ok (), s) => sink.writeAll s rest

/-- Writes a feed; its own error comes after its documents. -/
def writeFeed (sink : Sink σ) (s : σ) (feed : Feed) : Except Error Unit × σ :=
  match sink.writeAll s feed.documents, feed.error? with
  | (.ok (), s), some e => (.error e, s)
  | outcome, _ => outcome

/-!
# Sinks that keep what they take
-/

structure Kept where
  documents : List Document := []
  endings : List (Except Error Unit) := []

/-- Keeps documents, and refuses more than a given number of them. -/
def keeping (limit : Option Nat) : Sink Kept where
  write kept d :=
    if limit.any (· ≤ kept.documents.length) then
      (.error (.storage (.reported "sink is full")), kept)
    else (.ok (), { kept with documents := kept.documents ++ [d] })
  finish kept outcome := { kept with endings := kept.endings ++ [outcome] }

end Sink

/-!
# Streaming into a sink
-/

namespace Collection

def pump (c : Collection) (criteria : Criteria) (sink : Sink σ) (s : σ) :
    Program (Except Error Unit × σ) := do
  match ← (c.stream criteria).attempt with
  | .error e => return (.error e, s)
  | .ok feed => return sink.writeFeed s feed

/-- Streams into a sink, and gives the outcome with the sink after it. -/
def streamInto (c : Collection) (criteria : Criteria) (sink : Sink σ) (s : σ) :
    Program (Except Error Unit × σ) := do
  let (outcome, s) ← c.pump criteria sink s
  return (outcome, sink.finish s outcome)

end Collection
end DocQuery
