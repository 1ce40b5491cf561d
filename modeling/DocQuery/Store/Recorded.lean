import DocQuery.Registry

/-!
# Recorded stores

A store that notes the requests it is sent and can be made to fail.  A fault is
set on a kind of request and holds until it is lifted.
-/

namespace DocQuery

def Request.name : Request → String
  | query _ _ => "query"
  | stream _ _ => "stream"
  | aggregate _ => "aggregate"
  | insert _ => "insert"
  | update _ _ => "update"
  | delete _ => "delete"
  | count _ => "count"
  | createIndex _ => "create_index"

inductive Disturbance where
  | failure (text : String)
  /-- Updates and deletions do nothing, and say so. -/
  | unacknowledged
  /-- Queries find nothing. -/
  | empty
  deriving DecidableEq, Repr

structure Recorded where
  store : Store := .empty
  faults : Keyed Disturbance := []
  /-- The requests noted so far, the last one first. -/
  noted : List Request := []

namespace Recorded

def setFault (s : Recorded) (name : String) (fault : Option Disturbance) : Recorded :=
  match fault with
  | some d => { s with faults := Keyed.insert s.faults name d }
  | none => { s with faults := Keyed.erase s.faults name }

def requests (s : Recorded) : List Request :=
  s.noted.reverse

def forget (s : Recorded) : Recorded :=
  { s with noted := [] }

/-- The answer that a disturbance puts in the place of the store's own. -/
def disturbed? : Disturbance → (r : Request) → Option r.Answer
  | .failure text, _ => some (.error (.storage (.reported text)))
  | .unacknowledged, .update _ _ => some (.ok ⟨false, 0⟩)
  | .unacknowledged, .delete _ => some (.ok ⟨false, 0⟩)
  | .empty, .query _ _ => some (.ok [])
  | _, _ => none

def answer (collection : String) : Program.Answering Recorded
  | s, r =>
      let s := { s with noted := r :: s.noted }
      match (Keyed.get? s.faults r.name).bind fun d => disturbed? d r with
      | some given => (given, s)
      | none =>
          let (given, store) := s.store.answer collection r
          (given, { s with store })

def drop (collection : String) (s : Recorded) : Except Error Unit × Recorded :=
  match Keyed.get? s.faults "drop" with
  | some (.failure text) => (.error (.storage (.reported text)), s)
  | _ => (.ok (), { s with store := s.store.drop collection })

def backend : Backend Recorded where
  answer := answer
  drop := drop

end Recorded
end DocQuery
