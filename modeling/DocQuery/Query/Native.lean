import DocQuery.Criteria.Basic
import DocQuery.Schema.Basic
import DocQuery.Value.Canonical

/-!
# Native queries

What a store is asked for: a filter document, the order, part and fields of the
results, and a pipeline when they are to be summarized.  The order and the fields
are documents in turn, and what these mean is said here too.
-/

namespace DocQuery

structure FetchOptions where
  sort : List SortKey := []
  skip : Option Nat := none
  limit : Option Nat := none
  projection : Option Document := none
  deriving DecidableEq

namespace FetchOptions

/-- Options that ask for nothing but the stored identifier. -/
def identifiersOnly : FetchOptions :=
  { projection := some [(storedIdField, .int32 1)] }

/-- The sort keys as a document, in which a field stands once. -/
def sortDocument? (o : FetchOptions) : Option Document :=
  if o.sort.isEmpty then none
  else some (Keyed.ofList (o.sort.map fun key => (key.field, .int32 key.direction.sign)))

end FetchOptions

structure NativeQuery where
  filter : Document
  options : FetchOptions
  pipeline : Option (List Document)
  deriving DecidableEq

def NativeQuery.isGrouped (q : NativeQuery) : Bool :=
  q.pipeline.isSome

/-!
# Sorting

Documents are ordered by the values on several paths, the first path in which
they differ deciding.  Documents that do not differ keep their order.
-/

namespace Sorting

def isDescending : Value → Bool
  | .int32 n => n.toInt < 0
  | .int64 n => n.toInt < 0
  | _ => false

def directed (direction : Value) (o : Ordering) : Ordering :=
  if isDescending direction then o.swap else o

def order (a b : Document) : List (String × Value) → Ordering
  | [] => .eq
  | (path, direction) :: rest =>
      match directed direction (Value.order (a.lookup? path) (b.lookup? path)) with
      | .eq => order a b rest
      | o => o

/-!
# Insertion

The elements sorted so far are kept last one first.  The next element passes
those that it comes before.
-/

def place (before : α → α → Bool) (a : α) : List α → List α
  | [] => [a]
  | b :: rest => if before a b then b :: place before a rest else a :: b :: rest

def sorted (before : α → α → Bool) (items : List α) : List α :=
  (items.foldl (fun done a => place before a done) []).reverse

def byKeys (keys : Document) (documents : List Document) : List Document :=
  sorted (fun a b => order a b keys == .lt) documents

end Sorting

/-!
# Projections

A projection flags fields.  With any flag set it keeps the flagged fields and
the identifier; otherwise it leaves out the fields it names.
-/

namespace Projection

def isSet : Value → Bool
  | .int32 n => n ≠ 0
  | .int64 n => n ≠ 0
  | .double x => !Number.equal x 0
  | .boolean b => b
  | _ => true

/-- Whether a field is set, and what holds of fields that are not named. -/
def flag (projection : Document) (field : String) (unnamed : Bool) : Bool :=
  match Keyed.get? projection field with
  | some value => isSet value
  | none => unnamed

def includes (projection : Document) : Bool :=
  projection.any fun entry => isSet entry.2

def keeps (projection : Document) (field : String) : Bool :=
  if includes projection then flag projection field (field = storedIdField)
  else flag projection field true

def apply (projection : Option Document) (d : Document) : Document :=
  match projection with
  | none => d
  | some projection =>
      if projection.isEmpty then d else d.filter fun entry => keeps projection entry.1

end Projection
end DocQuery
