import DocQuery.Proofs.Outcome
import DocQuery.Store.Basic

/-!
# Queries as pipelines

A query that does not choose fields can be written as a pipeline: its filter, its
order, what it skips and its limit become a stage each.  Both ways of asking give
the same documents in the same order, or fail for the same reason.
-/

namespace DocQuery
namespace Aggregation

/-!
# Stages
-/

/-- The stages of a sort order; without sort keys there is none. -/
def sortStages (sort : List SortKey) : List Document :=
  match ({ sort := sort } : FetchOptions).sortDocument? with
  | some keys => [[("$sort", .document keys)]]
  | none => []

/-- The stages of an amount, which is a whole number of either width; a missing one has none. -/
inductive AmountStages (name : String) : Option Nat → List Document → Prop where
  | absent : AmountStages name none []
  | int32 {n : Nat} {k : Int32} (h : k.toInt = n) :
      AmountStages name (some n) [[(name, .int32 k)]]
  | int64 {n : Nat} {k : Int64} (h : k.toInt = n) :
      AmountStages name (some n) [[(name, .int64 k)]]

/-- A pipeline that asks for what a query with these options asks for. -/
inductive AsksFor (filter : Document) (sort : List SortKey) (skip limit : Option Nat) :
    List Document → Prop where
  | stages {skipping cutting : List Document} (hskip : AmountStages "$skip" skip skipping)
      (hlimit : AmountStages "$limit" limit cutting) :
      AsksFor filter sort skip limit
        ([("$match", .document filter)] :: (sortStages sort ++ skipping ++ cutting))

theorem exists_amountStages (name : String) {amount : Option Nat}
    (h : ∀ n ∈ amount, (n : Int) ≤ Int64.maxValue.toInt) :
    ∃ stages, AmountStages name amount stages := by
  cases amount with
  | none =>
      exact ⟨_, AmountStages.absent⟩
  | some n =>
      have hto : (n : Int) < 2 ^ 63 := Int.lt_of_le_of_lt (h n rfl) (by decide)
      exact ⟨_, AmountStages.int64 (Int64.toInt_ofNat_of_lt (by omega))⟩

/-!
# Running stages
-/

theorem run_append (documents : List Document) (stages others : List Document) :
    run documents (stages ++ others) =
      run documents stages >>= fun found => run found others := by
  fun_induction run documents stages with
  | case1 documents =>
      rfl
  | case2 documents name spec rest ih =>
      rw [List.cons_append, run]
      cases runStage documents name spec with
      | error fault =>
          rfl
      | ok found =>
          exact ih found
  | case3 documents stage rest hshape =>
      rw [List.cons_append, run]
      · rfl
      · exact hshape

theorem run_single (documents : List Document) (name : String) (spec : Value) :
    run documents [[(name, spec)]] = runStage documents name spec := by
  rw [run]
  cases runStage documents name spec <;> rfl

theorem run_sortStages (documents : List Document) (o : FetchOptions) :
    run documents (sortStages o.sort) = .ok (Store.arrange o documents) := by
  have hkeys : ({ sort := o.sort } : FetchOptions).sortDocument? = o.sortDocument? := rfl
  rw [sortStages, Store.arrange, hkeys]
  cases o.sortDocument? with
  | none =>
      rfl
  | some keys =>
      exact run_single documents "$sort" (.document keys)

theorem stageAmount_int32 {n : Nat} {k : Int32} (h : k.toInt = n) :
    stageAmount (.int32 k) = .ok n := by
  simp [stageAmount, h]

theorem stageAmount_int64 {n : Nat} {k : Int64} (h : k.toInt = n) :
    stageAmount (.int64 k) = .ok n := by
  simp [stageAmount, h]

theorem run_amountStages {name : String} {keep : Nat → List Document → List Document}
    (hkeep : ∀ documents v,
      runStage documents name v = (stageAmount v).map fun n => keep n documents)
    {amount : Option Nat} {stages : List Document} (h : AmountStages name amount stages)
    (documents : List Document) :
    run documents stages = .ok (amount.elim documents fun n => keep n documents) := by
  cases h with
  | absent =>
      rfl
  | int32 h =>
      rw [run_single, hkeep, stageAmount_int32 h]
      rfl
  | int64 h =>
      rw [run_single, hkeep, stageAmount_int64 h]
      rfl

theorem runStage_skip (documents : List Document) (v : Value) :
    runStage documents "$skip" v = (stageAmount v).map fun n => documents.drop n := by
  cases v <;> rfl

theorem runStage_limit (documents : List Document) (v : Value) :
    runStage documents "$limit" v = (stageAmount v).map fun n => documents.take n := by
  cases v <;> rfl

theorem page_eq_elim (o : FetchOptions) (documents : List Document) :
    Store.page o documents =
      o.limit.elim (o.skip.elim documents documents.drop)
        fun n => (o.skip.elim documents documents.drop).take n := by
  unfold Store.page
  cases o.skip <;> cases o.limit <;> rfl

end Aggregation

namespace Store

open Aggregation (AsksFor run_append run_single run_sortStages run_amountStages)

/-- The pipeline of a query takes the documents that the filter takes, and of these, in order,
the page. -/
theorem run_of_asksFor {filter : Document} {o : FetchOptions} {stages : List Document}
    (h : AsksFor filter o.sort o.skip o.limit stages) (documents : List Document) :
    Aggregation.run documents stages =
      Selector.select filter documents >>= fun found => .ok (page o (arrange o found)) := by
  cases h with
  | @stages skipping cutting hskip hlimit =>
      rw [← List.singleton_append, run_append, run_single]
      change Selector.select filter documents >>= _ = _
      congr 1
      funext found
      rw [List.append_assoc, run_append, run_sortStages]
      change Aggregation.run (arrange o found) (skipping ++ cutting) = _
      rw [run_append, run_amountStages Aggregation.runStage_skip hskip]
      change Aggregation.run _ cutting = _
      rw [run_amountStages Aggregation.runStage_limit hlimit, Aggregation.page_eq_elim]

/-- Whatever a collection holds, and also if there is none, a query and its pipeline give the
same documents in the same order or the same error. -/
theorem query_eq_aggregate (s : Store) (collection : String) (filter : Document)
    (sort : List SortKey) {skip limit : Option Nat}
    (hskip : ∀ n ∈ skip, (n : Int) ≤ Int64.maxValue.toInt)
    (hlimit : ∀ n ∈ limit, (n : Int) ≤ Int64.maxValue.toInt) :
    (∃ stages, AsksFor filter sort skip limit stages) ∧
      ∀ stages, AsksFor filter sort skip limit stages →
        s.query collection filter { sort, skip, limit } = s.aggregate collection stages := by
  constructor
  · rcases Aggregation.exists_amountStages "$skip" hskip with ⟨_, hskipping⟩
    rcases Aggregation.exists_amountStages "$limit" hlimit with ⟨_, hcutting⟩
    exact ⟨_, AsksFor.stages hskipping hcutting⟩
  · intro stages h
    have hwhole : Projection.apply none = id := rfl
    rw [query, aggregate, run_of_asksFor (o := { sort, skip, limit }) h]
    cases Selector.select filter (s.documents collection) with
    | error fault =>
        rfl
    | ok found =>
        simp only [hwhole, List.map_id]
        rfl

/-- Of the pets with an age, oldest first, the two after the first one, level ones as they came. -/
theorem query_eq_aggregate_pets :
    let s : Store := ⟨[("pets", { documents := [
      [(storedIdField, .int32 1), ("age", .int32 3)],
      [(storedIdField, .int32 2), ("age", .double 7)],
      [(storedIdField, .int32 3)],
      [(storedIdField, .int32 4), ("age", .int64 3)],
      [(storedIdField, .int32 5), ("age", .int32 1)]] })], 0⟩
    let filter : Document := [("age", .document [("$gt", .int32 0)])]
    let sort : List SortKey := [⟨"age", .descending⟩]
    let stages : List Document := [[("$match", .document filter)],
      [("$sort", .document [("age", .int32 (-1))])], [("$skip", .int32 1)], [("$limit", .int64 2)]]
    (∀ n ∈ some (1 : Nat), (n : Int) ≤ Int64.maxValue.toInt) ∧
      (∀ n ∈ some (2 : Nat), (n : Int) ≤ Int64.maxValue.toInt) ∧
      s.query "pets" filter { sort, skip := some 1, limit := some 2 } =
        s.aggregate "pets" stages ∧
      (s.aggregate "pets" stages).toOption =
        some [[(storedIdField, .int32 1), ("age", .int32 3)],
          [(storedIdField, .int32 4), ("age", .int64 3)]] := by
  intro s filter sort stages
  have hskip : ∀ n ∈ some (1 : Nat), (n : Int) ≤ Int64.maxValue.toInt := by
    decide
  have hlimit : ∀ n ∈ some (2 : Nat), (n : Int) ≤ Int64.maxValue.toInt := by
    decide
  have hasks : AsksFor filter sort (some 1) (some 2) stages :=
    AsksFor.stages (.int32 (by decide)) (.int64 (by decide))
  refine ⟨hskip, hlimit, ?_, by decide +kernel⟩
  exact (query_eq_aggregate s "pets" filter sort hskip hlimit).2 stages hasks

end Store
end DocQuery
