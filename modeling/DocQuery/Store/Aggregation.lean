import DocQuery.Query.Native
import DocQuery.Store.Selector

/-!
# Pipelines

A pipeline takes documents through stages: filtering, grouping, sorting,
skipping and cutting off.  Groups come in the order of their first documents.
-/

namespace DocQuery
namespace Aggregation

/-- The value of an expression: a reference is looked up, all else stands for itself. -/
def resolve? (d : Document) : Value → Option Value
  | .string text =>
      match text.toList with
      | '$' :: path => d.lookup? (String.ofList path)
      | _ => some (.string text)
  | literal => some literal

def resolve (d : Document) (expression : Value) : Value :=
  (resolve? d expression).getD .null

/-!
# Tallies

A tally gathers the values of one group.  Whole numbers are added exactly as
long as the sum fits; what does not fit is added as a real number.
-/

inductive Tally where
  | sum (whole : Int64) (real : Float) (isReal : Bool)
  | average (total : Float) (count : Nat)
  | least (found : Option Value)
  | greatest (found : Option Value)

namespace Tally

def start? (operator : String) : Option Tally :=
  match operator with
  | "$sum" => some (.sum 0 0 false)
  | "$avg" => some (.average 0 0)
  | "$min" => some (.least none)
  | "$max" => some (.greatest none)
  | _ => none

def wholeOf? : Value → Option Int64
  | .int32 n => some n.toInt64
  | .int64 n => some n
  | _ => none

def realOf? : Value → Option Float
  | .int32 n => some (Number.ofInt n.toInt)
  | .int64 n => some (Number.ofInt n.toInt)
  | .double x => some x
  | _ => none

def addWhole? (a b : Int64) : Option Int64 :=
  let s := a.toInt + b.toInt
  if Int64.minValue.toInt ≤ s ∧ s ≤ Int64.maxValue.toInt then some (Int64.ofInt s) else none

def addSum (whole : Int64) (real : Float) (isReal : Bool) (v : Value) : Tally :=
  match v with
  | .double x => .sum whole (real + x) true
  | v =>
      match wholeOf? v with
      | none => .sum whole real isReal
      | some n =>
          match addWhole? whole n with
          | some s => .sum s real isReal
          | none => .sum whole (real + Number.ofInt n.toInt) true

/-- The value that comes first, or last, of those found so far and a new one. -/
def better (wanted : Ordering) (found : Option Value) (v : Value) : Option Value :=
  match v, found with
  | .null, found => found
  | v, none => some v
  | v, some best => if Value.order (some v) (some best) = wanted then some v else some best

def add (t : Tally) (value : Option Value) : Tally :=
  match value with
  | none => t
  | some v =>
      match t with
      | .sum whole real isReal => addSum whole real isReal v
      | .average total count =>
          match realOf? v with
          | some x => .average (total + x) (count + 1)
          | none => .average total count
      | .least found => .least (better .lt found v)
      | .greatest found => .greatest (better .gt found v)

/-- A whole number in the smallest kind that holds it. -/
def wholeValue (n : Int64) : Value :=
  if Int32.minValue.toInt ≤ n.toInt ∧ n.toInt ≤ Int32.maxValue.toInt then .int32 n.toInt32
  else .int64 n

def result : Tally → Value
  | .sum whole real true => .double (Number.ofInt whole.toInt + real)
  | .sum whole _ false => wholeValue whole
  | .average total count =>
      if count = 0 then .null else .double (total / Number.ofWord count)
  | .least found => found.getD .null
  | .greatest found => found.getD .null

end Tally

/-!
# Groups
-/

structure Output where
  name : String
  operator : String
  expression : Value

structure Group where
  key : Value
  tallies : List Tally

def readOutputs : List (String × Value) → Except CriteriaFault (List Output)
  | [] => .ok []
  | (name, .document [(operator, expression)]) :: rest => do
      let outputs ← readOutputs rest
      return ⟨name, operator, expression⟩ :: outputs
  | (name, got) :: _ => .error (.accumulatorShape name got)

def keyOf (d : Document) : Value → Value
  | .document fields =>
      .document (Keyed.ofList (fields.map fun entry => (entry.1, resolve d entry.2)))
  | expression => resolve d expression

def sameKey (a b : Value) : Bool :=
  a.canonical.same b.canonical

def startTallies : List Output → Except CriteriaFault (List Tally)
  | [] => .ok []
  | output :: rest =>
      match Tally.start? output.operator with
      | none => .error (.accumulator output.operator)
      | some t => do
          let tallies ← startTallies rest
          return t :: tallies

def addAll (d : Document) : List Output → List Tally → List Tally
  | output :: outputs, t :: tallies =>
      t.add (resolve? d output.expression) :: addAll d outputs tallies
  | _, tallies => tallies

/-- Adds a document to its group, which it opens when there is none. -/
def addToGroups (outputs : List Output) (key : Value) (d : Document) :
    List Group → Except CriteriaFault (List Group)
  | [] => do
      let tallies ← startTallies outputs
      return [⟨key, addAll d outputs tallies⟩]
  | g :: rest =>
      if sameKey g.key key then
        .ok ({ g with tallies := addAll d outputs g.tallies } :: rest)
      else do
        let others ← addToGroups outputs key d rest
        return g :: others

def groups (outputs : List Output) (expression : Value) :
    List Group → List Document → Except CriteriaFault (List Group)
  | done, [] => .ok done
  | done, d :: rest => do
      let done ← addToGroups outputs (keyOf d expression) d done
      groups outputs expression done rest

def row (outputs : List Output) (g : Group) : Document :=
  Keyed.insertAll [("_id", g.key)]
    (List.zipWith (fun output t => (output.name, Tally.result t)) outputs g.tallies)

def group (spec : Document) (documents : List Document) :
    Except CriteriaFault (List Document) :=
  match Keyed.get? spec "_id" with
  | none => .error .groupWithoutKey
  | some expression => do
      let outputs ← readOutputs (Keyed.erase spec "_id")
      let gs ← groups outputs expression [] documents
      return gs.map (row outputs)

/-!
# Stages
-/

def stageAmount : Value → Except CriteriaFault Nat
  | .int32 n =>
      if 0 ≤ n.toInt then .ok n.toInt.toNat else .error (.stageAmount (.int32 n))
  | .int64 n =>
      if 0 ≤ n.toInt then .ok n.toInt.toNat else .error (.stageAmount (.int64 n))
  | got => .error (.stageAmount got)

def runStage (documents : List Document) (name : String) (spec : Value) :
    Except CriteriaFault (List Document) :=
  match name, spec with
  | "$match", .document filter => Selector.select filter documents
  | "$group", .document spec => group spec documents
  | "$sort", .document keys => .ok (Sorting.byKeys keys documents)
  | "$skip", amount => (stageAmount amount).map documents.drop
  | "$limit", amount => (stageAmount amount).map documents.take
  | name, _ => .error (.stage name)

def run (documents : List Document) : List Document → Except CriteriaFault (List Document)
  | [] => .ok documents
  | [(name, spec)] :: rest => do
      let documents ← runStage documents name spec
      run documents rest
  | stage :: _ => .error (.stageShape stage)

end Aggregation
end DocQuery
