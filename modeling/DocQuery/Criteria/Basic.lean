import DocQuery.Criteria.Comparison
import DocQuery.Value.Basic

/-!
# Criteria

What a caller asks for: a condition, an order, a part of the results, some of
their fields, or a summary by groups.
-/

namespace DocQuery

/-!
# Conditions

A condition compares fields with operands, and combines such tests.
-/

inductive Condition where
  | all (conditions : List Condition)
  | any (conditions : List Condition)
  | negation (condition : Condition)
  | test (field : String) (comparison : Comparison) (operand : Value)

namespace Condition

/-- Both conditions; one that already asks for all of a list takes the other into it. -/
def both : Condition → Condition → Condition
  | all conditions, other => all (conditions ++ [other])
  | c, other => all [c, other]

/-- One of two conditions; one that already asks for any of a list takes the other into it. -/
def either : Condition → Condition → Condition
  | any conditions, other => any (conditions ++ [other])
  | c, other => any [c, other]

/-- What a list of conditions asks for when all of them must hold. -/
def combine? : List Condition → Option Condition
  | [] => none
  | [c] => some c
  | conditions => some (all conditions)

end Condition

/-!
# Sort keys

A sort key is a field and the direction in which its values run.
-/

inductive Direction where
  | ascending
  | descending
  deriving DecidableEq, Repr

namespace Direction

def sign : Direction → Int32
  | ascending => 1
  | descending => -1

def ofSign? (n : Int) : Option Direction :=
  if n = 1 then some ascending else if n = -1 then some descending else none

end Direction

structure SortKey where
  field : String
  direction : Direction
  deriving DecidableEq, Repr

/-!
# Fields, summaries and groups
-/

inductive FieldChoice where
  | everything
  | only (fields : List String)
  | without (fields : List String)
  deriving DecidableEq, Repr

inductive Summary where
  | count
  | sum (field : String)
  | average (field : String)
  | least (field : String)
  | greatest (field : String)
  deriving DecidableEq, Repr

/-- The field of a result row that holds a summary. -/
def Summary.output : Summary → String
  | count => "count"
  | sum field => field
  | average field => field
  | least field => field
  | greatest field => field

structure Grouping where
  fields : List String := []
  summaries : List Summary := []
  deriving DecidableEq, Repr

structure Criteria where
  condition : Option Condition := none
  sort : List SortKey := []
  skip : Option Nat := none
  limit : Option Nat := none
  choice : FieldChoice := .everything
  grouping : Option Grouping := none

namespace Criteria

def isGrouped (c : Criteria) : Bool :=
  c.grouping.isSome

def withoutChoice (c : Criteria) : Criteria :=
  { c with choice := .everything }

def withoutGrouping (c : Criteria) : Criteria :=
  { c with grouping := none }

/-!
# Building criteria

Sort keys, grouping fields and summaries add up; everything else replaces what
was there.
-/

def filter (c : Criteria) (condition : Condition) : Criteria :=
  { c with condition := some condition }

def sortBy (c : Criteria) (field : String) (direction : Direction) : Criteria :=
  { c with sort := c.sort ++ [⟨field, direction⟩] }

def skipping (c : Criteria) (n : Nat) : Criteria :=
  { c with skip := some n }

def limitTo (c : Criteria) (n : Nat) : Criteria :=
  { c with limit := some n }

def select (c : Criteria) (fields : List String) : Criteria :=
  { c with choice := .only fields }

def leaveOut (c : Criteria) (fields : List String) : Criteria :=
  { c with choice := .without fields }

def groupBy (c : Criteria) (fields : List String) : Criteria :=
  let g := c.grouping.getD {}
  { c with grouping := some { g with fields := g.fields ++ fields } }

def summarize (c : Criteria) (summary : Summary) : Criteria :=
  let g := c.grouping.getD {}
  { c with grouping := some { g with summaries := g.summaries ++ [summary] } }

end Criteria
end DocQuery
