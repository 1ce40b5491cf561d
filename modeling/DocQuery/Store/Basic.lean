import DocQuery.Query.Native
import DocQuery.Store.Aggregation
import DocQuery.Store.Index

/-!
# The store

A store keeps documents in memory, by collection and in the order in which they
came.  Every operation looks at all documents of one collection.  An operation
that fails leaves the documents and indexes as they were.
-/

namespace DocQuery

structure Contents where
  documents : List Document := []
  indexes : List Index := []
  deriving DecidableEq

structure Store where
  collections : Keyed Contents
  /-- The number of the next identifier. -/
  serial : Nat

structure Acknowledgement where
  acknowledged : Bool
  count : Nat
  deriving DecidableEq, Repr

namespace Store

/-- Identifiers are numbered from here on, far from those that are written by hand. -/
def firstSerial : Nat :=
  0x6b3f9c81d24e7a50b6000001

def empty : Store :=
  ⟨[], firstSerial⟩

def contents? (s : Store) (collection : String) : Option Contents :=
  Keyed.get? s.collections collection

def contents (s : Store) (collection : String) : Contents :=
  (s.contents? collection).getD {}

def documents (s : Store) (collection : String) : List Document :=
  (s.contents collection).documents

def indexes (s : Store) (collection : String) : List Index :=
  (s.contents collection).indexes

def put (s : Store) (collection : String) (c : Contents) : Store :=
  { s with collections := Keyed.insert s.collections collection c }

def names (s : Store) : List String :=
  Sorting.sorted (fun a b => a < b) (Keyed.keys s.collections)

def drop (s : Store) (collection : String) : Store :=
  { s with collections := Keyed.erase s.collections collection }

/-!
# Reading
-/

/-- The part of a list that is left after skipping and cutting off. -/
def page (o : FetchOptions) (documents : List Document) : List Document :=
  let rest := documents.drop (o.skip.getD 0)
  match o.limit with
  | some n => rest.take n
  | none => rest

def arrange (o : FetchOptions) (documents : List Document) : List Document :=
  match o.sortDocument? with
  | some keys => Sorting.byKeys keys documents
  | none => documents

def query (s : Store) (collection : String) (filter : Document) (o : FetchOptions) :
    Except Error (List Document) := do
  let found ← (Selector.select filter (s.documents collection)).mapError .criteria
  return (page o (arrange o found)).map (Projection.apply o.projection)

def aggregate (s : Store) (collection : String) (pipeline : List Document) :
    Except Error (List Document) :=
  (Aggregation.run (s.documents collection) pipeline).mapError .criteria

def count (s : Store) (collection : String) (filter : Document) : Except Error Nat := do
  let found ← (Selector.select filter (s.documents collection)).mapError .criteria
  return found.length

/-!
# Writing

A write answers with its outcome and the store after it.  All documents that
would result are checked before any is written.
-/

abbrev Write (α : Type) := Except Error α × Store

/-- Puts a new identifier in front of a document that has none. -/
def withId (serial : Nat) (d : Document) : Document :=
  if Keyed.contains d storedIdField then d
  else (storedIdField, .objectId (ObjectId.ofSerial serial)) :: d

def withIds : Nat → List Document → List Document
  | _, [] => []
  | serial, d :: rest => withId serial d :: withIds (serial + 1) rest

def insert (s : Store) (collection : String) (added : List Document) : Write (List Value) :=
  let c := s.contents collection
  let added' := withIds s.serial added
  let s := { s with serial := s.serial + added.length }
  let documents := c.documents ++ added'
  match Uniqueness.check collection c.indexes documents with
  | .error fault => (.error (.storage fault), s.put collection c)
  | .ok () => (.ok (Uniqueness.idsOf added'), s.put collection { c with documents })

/-- Sets fields on the documents that match, and counts them. -/
def updateAll (filter set : Document) : List Document → Except CriteriaFault (List Document × Nat)
  | [] => .ok ([], 0)
  | d :: rest => do
      let matched ← Selector.matches? filter d
      let (others, n) ← updateAll filter set rest
      return if matched then (Keyed.insertAll d set :: others, n + 1) else (d :: others, n)

def update (s : Store) (collection : String) (filter set : Document) : Write Acknowledgement :=
  match s.contents? collection with
  | none => (.ok ⟨true, 0⟩, s)
  | some c =>
      match updateAll filter set c.documents with
      | .error fault => (.error (.criteria fault), s)
      | .ok (documents, n) =>
          match Uniqueness.check collection c.indexes documents with
          | .error fault => (.error (.storage fault), s)
          | .ok () => (.ok ⟨true, n⟩, s.put collection { c with documents })

/-- The documents that do not match, and the number of those that do. -/
def removeAll (filter : Document) : List Document → Except CriteriaFault (List Document × Nat)
  | [] => .ok ([], 0)
  | d :: rest => do
      let matched ← Selector.matches? filter d
      let (kept, n) ← removeAll filter rest
      return if matched then (kept, n + 1) else (d :: kept, n)

def delete (s : Store) (collection : String) (filter : Document) : Write Acknowledgement :=
  match s.contents? collection with
  | none => (.ok ⟨true, 0⟩, s)
  | some c =>
      match removeAll filter c.documents with
      | .error fault => (.error (.criteria fault), s)
      | .ok (documents, n) => (.ok ⟨true, n⟩, s.put collection { c with documents })

/-- Installs an index, unless there is one of its name. -/
def createIndex (s : Store) (collection : String) (index : Index) : Write Unit :=
  let c := s.contents collection
  if c.indexes.any (fun installed => installed.name = index.name) then
    (.ok (), s.put collection c)
  else
    match Uniqueness.check collection [index] c.documents with
    | .error fault => (.error (.storage fault), s.put collection c)
    | .ok () => (.ok (), s.put collection { c with indexes := c.indexes ++ [index] })

end Store
end DocQuery
