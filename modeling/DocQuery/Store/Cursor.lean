import DocQuery.Store.Basic

/-!
# Cursors

A cursor walks a collection one matching document at a time, and looks at the
store anew for each.  Sorted results are gathered when the stream is opened.
A stream that has ended, or has failed, gives nothing any more.
-/

namespace DocQuery

structure Cursor where
  collection : String
  filter : Document
  projection : Option Document
  position : Nat
  skip : Nat
  remaining : Option Nat

/-- The documents that a stream gave, and the error that ended it, if one did. -/
structure Feed where
  documents : List Document
  error? : Option Error

inductive Stream where
  | gathered (rest : List Document)
  | walking (cursor : Cursor)
  | ended

namespace Cursor

/-- What a walk finds: the document, how many were passed, and how many are still to be skipped. -/
structure Found where
  document : Document
  passed : Nat
  skip : Nat

def find? (filter : Document) : Nat → Nat → List Document → Except CriteriaFault (Option Found)
  | _, _, [] => .ok none
  | passed, skip, d :: rest => do
      if ← Selector.matches? filter d then
        match skip with
        | 0 => return some ⟨d, passed, 0⟩
        | skip + 1 => find? filter (passed + 1) skip rest
      else find? filter (passed + 1) skip rest

def advance (c : Cursor) (s : Store) : Except CriteriaFault (Option (Document × Cursor)) :=
  if c.remaining = some 0 then .ok none
  else do
    match ← find? c.filter 0 c.skip ((s.documents c.collection).drop c.position) with
    | none => return none
    | some found =>
        return some
          (Projection.apply c.projection found.document,
            { c with
              position := c.position + found.passed + 1
              skip := found.skip
              remaining := c.remaining.map (· - 1) })

end Cursor

namespace Stream

/-- The next item of a stream, none at its end, and the stream after it. -/
def next (s : Store) : Stream → Option (Except Error Document) × Stream
  | ended => (none, ended)
  | gathered [] => (none, ended)
  | gathered (d :: rest) => (some (.ok d), gathered rest)
  | walking c =>
      match c.advance s with
      | .error fault => (some (.error (.criteria fault)), ended)
      | .ok none => (none, ended)
      | .ok (some (d, c)) => (some (.ok d), walking c)

/-- Reads a stream to its end, at most so many items. -/
def drain (s : Store) : Nat → Stream → Feed
  | 0, _ => ⟨[], none⟩
  | fuel + 1, stream =>
      match stream.next s with
      | (none, _) => ⟨[], none⟩
      | (some (.error e), _) => ⟨[], some e⟩
      | (some (.ok d), stream) =>
          let feed := drain s fuel stream
          { feed with documents := d :: feed.documents }

/-- A stream has no more items than this. -/
def bound (s : Store) : Stream → Nat
  | ended => 0
  | gathered rest => rest.length
  | walking c => (s.documents c.collection).length + 1

def feed (s : Store) (stream : Stream) : Feed :=
  drain s (stream.bound s) stream

end Stream

def Store.openStream (s : Store) (collection : String) (filter : Document) (o : FetchOptions) :
    Except Error Stream :=
  if o.sort.isEmpty then
    .ok (.walking ⟨collection, filter, o.projection, 0, o.skip.getD 0, o.limit⟩)
  else
    (s.query collection filter o).map .gathered

end DocQuery
