import DocQuery.Criteria.Basic
import DocQuery.Error
import DocQuery.Number.Text
import DocQuery.Schema.Basic
import DocQuery.Value.Canonical

/-!
# Indexes

An index is a list of fields with directions.  A unique index lets no two
documents agree in all of them, and a sparse one leaves out documents that have
none of them.
-/

namespace DocQuery

structure Index where
  keys : Keyed Direction
  unique : Bool
  sparse : Bool
  deriving DecidableEq, Repr

namespace Index

def single (field : String) (unique sparse : Bool) : Index :=
  ⟨[(field, .ascending)], unique, sparse⟩

def keyText (key : String × Direction) : String :=
  key.1 ++ "_" ++ Number.intText key.2.sign.toInt

/-- The name of an index, under which it is installed once. -/
def name (index : Index) : String :=
  "_".intercalate (index.keys.map keyText)

/-- The index that an attribute asks for; uniqueness outweighs a plain index. -/
def ofAttribute? (name : String) (a : Attribute) : Option Index :=
  if name = idField then none
  else if a.unique then some (single name true true)
  else if a.indexed then some (single name false true)
  else none

end Index

namespace Schema

def indexes (s : Schema) : List Index :=
  s.attributes.filterMap fun entry => Index.ofAttribute? entry.1 entry.2

end Schema

/-!
# Uniqueness

No two documents of a collection have the same identifier, and no two have the
same values in all fields of a unique index.
-/

namespace Uniqueness

/-- The first element whose key an earlier one has, or one of the keys seen before. -/
def firstRepeated [DecidableEq κ] (key : α → κ) (seen : List κ) : List α → Option α
  | [] => none
  | a :: rest =>
      if key a ∈ seen then some a else firstRepeated key (key a :: seen) rest

def idsOf (documents : List Document) : List Value :=
  documents.filterMap fun d => Keyed.get? d storedIdField

def indexed (index : Index) (d : Document) : List (Option Value) :=
  index.keys.map fun key => d.lookup? key.1

/-- A sparse index passes over documents that have none of its fields. -/
def isPassedOver (index : Index) (d : Document) : Bool :=
  index.sparse && (indexed index d).all Option.isNone

def keyOf (index : Index) (d : Document) : List Value.IndexKey :=
  (indexed index d).map Value.indexKey

def repeatsKey (index : Index) (documents : List Document) : Bool :=
  let covered := documents.filter fun d => !isPassedOver index d
  (firstRepeated (keyOf index) [] covered).isSome

def checkIds (collection : String) (documents : List Document) : Except StorageFault Unit :=
  match firstRepeated (fun id => Value.indexKey (some id)) [] (idsOf documents) with
  | some id => .error (.duplicateId collection id)
  | none => .ok ()

def checkIndexes (collection : String) (documents : List Document) :
    List Index → Except StorageFault Unit
  | [] => .ok ()
  | index :: rest =>
      if index.unique && repeatsKey index documents then
        .error (.duplicateKey collection index.name)
      else checkIndexes collection documents rest

def check (collection : String) (indexes : List Index) (documents : List Document) :
    Except StorageFault Unit := do
  checkIds collection documents
  checkIndexes collection documents indexes

end Uniqueness
end DocQuery
