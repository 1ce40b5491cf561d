import DocQuery.Proofs.Collection.Destroy
import DocQuery.Proofs.Query.Compile
import DocQuery.Proofs.Store.Grouping
import DocQuery.Proofs.Store.Pipelines

/-!
# Finding groups

A grouped query is answered from the documents that its condition takes.  Every
such document goes into one row, whose fields are those of its first document
and whose summaries are gathered from all of them.
-/

namespace DocQuery

open Outcome
open Aggregation (members sameKey Output Tally Group Partition)

/-!
# What is asked for
-/

namespace Summary

def start : Summary → Tally
  | count | sum _ => .sum 0 0 false
  | average _ => .average 0 0
  | least _ => .least none
  | greatest _ => .greatest none

/-- What a document adds to a summary: one, or the value of a field. -/
def valueIn (d : Document) : Summary → Option Value
  | count => some (.int32 1)
  | sum field | average field | least field | greatest field => d.lookup? (storedName field)

/-- The summary of documents, which are added one after the other. -/
def resultOver (s : Summary) (documents : List Document) : Value :=
  (documents.foldl (fun (t : Tally) d => t.add (s.valueIn d)) s.start).result

def compiled : Summary → Output
  | count => ⟨"count", "$sum", .int32 1⟩
  | sum field => ⟨field, "$sum", Compiler.reference field⟩
  | average field => ⟨field, "$avg", Compiler.reference field⟩
  | least field => ⟨field, "$min", Compiler.reference field⟩
  | greatest field => ⟨field, "$max", Compiler.reference field⟩

end Summary

namespace Grouping

/-- The values that a document is grouped by, under the names of their fields. -/
def valuesIn (g : Grouping) (d : Document) : Document :=
  Keyed.ofList (g.fields.map fun field => (field, (d.lookup? (storedName field)).getD .null))

/-- The key of a document's group; without fields to group by there is one group. -/
def keyIn (g : Grouping) (d : Document) : Value :=
  if g.fields.isEmpty then .null else .document (g.valuesIn d)

def rowOf (g : Grouping) (first : Document) (rest : List Document) : Document :=
  g.valuesIn first ++ g.summaries.map fun s => (s.output, s.resultOver (first :: rest))

/-- Documents that have been partitioned into rows. -/
structure Rows (g : Grouping) (documents : List Document) (placed : List (Document × Nat))
    (rows : List Document) : Prop where
  /-- Each document is placed in one row. -/
  complete : placed.map Prod.fst = documents
  /-- Rows come in the order of their first documents. -/
  ordered : (placed.map Prod.snd).eraseDups = List.range rows.length
  row : ∀ i row, rows[i]? = some row →
    ∃ first rest, members placed i = first :: rest ∧ row = g.rowOf first rest
  apart : ∀ i j first other, i ≠ j → (members placed i).head? = some first →
    (members placed j).head? = some other → sameKey (g.keyIn first) (g.keyIn other) = false
  together : ∀ p ∈ placed, ∀ q ∈ placed, (g.keyIn p.1).hasNaN = false →
    (g.keyIn q.1).hasNaN = false →
    (p.2 = q.2 ↔ sameKey (g.keyIn p.1) (g.keyIn q.1) = true)

end Grouping

/-!
# What is compiled
-/

namespace Compiler

theorem resolve?_reference (d : Document) (field : String) :
    Aggregation.resolve? d (reference field) = d.lookup? (storedName field) := by
  have htext : ("$" ++ storedName field).toList = '$' :: (storedName field).toList := by
    rw [String.toList_append]
    rfl
  rw [reference, Aggregation.resolve?, htext]
  exact congrArg d.lookup? String.ofList_toList

theorem accumulator_eq (s : Summary) :
    accumulator s = [(s.compiled.operator, s.compiled.expression)] := by
  cases s <;> rfl

theorem resolve?_compiled (d : Document) (s : Summary) :
    Aggregation.resolve? d s.compiled.expression = s.valueIn d := by
  cases s with
  | count =>
      rfl
  | _ field =>
      exact resolve?_reference d field

theorem result_tally (s : Summary) (documents : List Document) :
    (s.compiled.tally s.start documents).result = s.resultOver documents := by
  simp only [Output.tally, Summary.resultOver, resolve?_compiled]

theorem resolve_reference (d : Document) (field : String) :
    Aggregation.resolve d (reference field) = (d.lookup? (storedName field)).getD .null := by
  rw [Aggregation.resolve, resolve?_reference]

theorem keyOf_groupKey (g : Grouping) (d : Document) :
    Aggregation.keyOf d (groupKey g.fields) = g.keyIn d := by
  unfold groupKey Grouping.keyIn
  split
  · rfl
  · rw [Aggregation.keyOf, Keyed.map_ofList, Keyed.ofList_of_nodup (Keyed.nodup_keys_ofList _),
      List.map_map, Grouping.valuesIn]
    congr 3
    funext field
    exact congrArg (Prod.mk field) (resolve_reference d field)

/-!
# The grouping stage
-/

theorem Staged.key {g : Grouping} {stage : Document} (h : Staged g stage) :
    Keyed.get? stage storedIdField = some (groupKey g.fields) := by
  rw [h.fields, Keyed.get?, if_pos rfl]

theorem Staged.erase {g : Grouping} {stage : Document} (h : Staged g stage) :
    Keyed.erase stage storedIdField =
      g.summaries.map fun s => (s.output, .document (accumulator s)) := by
  rw [h.fields, Keyed.erase_cons_of_not_mem]
  rw [keys_outputs]
  exact (List.nodup_cons.mp h.distinct).1

theorem readOutputs_map (summaries : List Summary) :
    Aggregation.readOutputs (summaries.map fun s => (s.output, .document (accumulator s))) =
      .ok (summaries.map Summary.compiled) := by
  induction summaries with
  | nil =>
      rfl
  | cons s rest ih =>
      rw [List.map_cons, accumulator_eq, Aggregation.readOutputs, ih]
      cases s <;> rfl

theorem startTallies_map (summaries : List Summary) :
    Aggregation.startTallies (summaries.map Summary.compiled) =
      .ok (summaries.map Summary.start) := by
  induction summaries with
  | nil =>
      rfl
  | cons s rest ih =>
      have hstart : Tally.start? s.compiled.operator = some s.start := by
        cases s <;> rfl
      rw [List.map_cons, Aggregation.startTallies, hstart, ih]
      rfl

theorem tallied_map (summaries : List Summary) (documents : List Document) :
    Aggregation.tallied (summaries.map Summary.compiled) (summaries.map Summary.start) documents =
      summaries.map fun s => s.compiled.tally s.start documents := by
  induction summaries with
  | nil =>
      exact Aggregation.tallied_nil documents
  | cons s rest ih =>
      rw [List.map_cons, List.map_cons, Aggregation.tallied_cons, ih, List.map_cons]

theorem Staged.run {g : Grouping} {stage : Document} (h : Staged g stage)
    (documents : List Document) :
    ∃ placed gs,
      Aggregation.group stage documents =
        .ok (gs.map (Aggregation.row (g.summaries.map Summary.compiled))) ∧
      placed.map Prod.fst = documents ∧
      Partition (g.summaries.map Summary.compiled) (groupKey g.fields)
        (g.summaries.map Summary.start) placed gs := by
  rcases Aggregation.exists_partition (groupKey g.fields) (startTallies_map g.summaries) documents
    with ⟨placed, gs, hgs, hplaced, hpartition⟩
  refine ⟨placed, gs, ?_, hplaced, hpartition⟩
  have hkey := h.key
  have herase := h.erase
  rw [storedIdField] at hkey herase
  simp only [Aggregation.group, hkey, herase, readOutputs_map]
  change (Aggregation.groups _ _ [] documents >>= _) = _
  rw [hgs]
  rfl

/-!
# Rows
-/

theorem zipWith_results (summaries : List Summary) (documents : List Document) :
    List.zipWith (fun output t => (output.name, Tally.result t))
        (summaries.map Summary.compiled)
        (summaries.map fun s => s.compiled.tally s.start documents) =
      summaries.map fun s => (s.output, s.resultOver documents) := by
  rw [List.zipWith_map, List.zipWith_self]
  refine List.map_congr_left ?_
  intro s _
  rw [result_tally]
  cases s <;> rfl

theorem keys_valuesIn (g : Grouping) (d : Document) {name : String}
    (h : name ∈ Keyed.keys (g.valuesIn d)) : name ∈ g.fields := by
  rcases List.mem_map.mp h with ⟨entry, hentry, rfl⟩
  rcases Keyed.mem_of_mem_insertAll hentry with hentry | hentry
  · rcases List.mem_map.mp hentry with ⟨field, hfield, rfl⟩
    exact hfield
  · exact absurd hentry List.not_mem_nil

theorem Staged.rowOf_eq_insertAll {g : Grouping} {stage : Document} (h : Staged g stage)
    (first : Document) (rest : List Document) :
    g.rowOf first rest = Keyed.insertAll (g.valuesIn first)
      (g.summaries.map fun s => (s.output, s.resultOver (first :: rest))) := by
  refine (Keyed.insertAll_of_disjoint ?_ ?_).symm
  · rw [keys_outputs]
    exact (List.nodup_cons.mp h.distinct).2
  · intro name hname hfield
    rw [keys_outputs] at hname
    rcases List.mem_map.mp hname with ⟨s, hs, rfl⟩
    exact h.fresh s hs (keys_valuesIn g first hfield)

theorem Staged.flattenGroup_row {g : Grouping} {stage : Document} (h : Staged g stage)
    {first : Document} {rest : List Document} {group : Group} (hkey : group.key = g.keyIn first)
    (htallies : group.tallies =
      g.summaries.map fun s => s.compiled.tally s.start (first :: rest)) :
    Collection.flattenGroup (Aggregation.row (g.summaries.map Summary.compiled) group) =
      g.rowOf first rest := by
  have hdistinct := List.nodup_cons.mp h.distinct
  have hrow : Aggregation.row (g.summaries.map Summary.compiled) group =
      (storedIdField, group.key) :: g.summaries.map fun s => (s.output, s.resultOver (first :: rest)) := by
    rw [Aggregation.row, htallies, zipWith_results]
    apply Keyed.insertAll_of_disjoint
    · rw [keys_outputs]
      exact hdistinct.2
    · intro name hname hid
      rw [keys_outputs] at hname
      rw [List.mem_singleton.mp hid] at hname
      exact hdistinct.1 hname
  have herase : Keyed.erase (Aggregation.row (g.summaries.map Summary.compiled) group)
      storedIdField = g.summaries.map fun s => (s.output, s.resultOver (first :: rest)) := by
    rw [hrow, Keyed.erase_cons_of_not_mem]
    rw [keys_outputs]
    exact hdistinct.1
  have hget : Keyed.get? (Aggregation.row (g.summaries.map Summary.compiled) group)
      storedIdField = some (g.keyIn first) := by
    rw [hrow, hkey, Keyed.get?, if_pos rfl]
  rw [h.rowOf_eq_insertAll, Collection.flattenGroup, hget, herase]
  -- A key that is no document has no fields to put before the outputs.
  by_cases hempty : g.fields.isEmpty = true
  · rw [Grouping.keyIn, if_pos hempty, ← h.rowOf_eq_insertAll, Grouping.rowOf, Grouping.valuesIn,
      List.isEmpty_iff.mp hempty]
    rfl
  · rw [Grouping.keyIn, if_neg hempty]

end Compiler

/-!
# Keys
-/

namespace Grouping

theorem hasDistinctNames_keyIn (g : Grouping) {d : Document}
    (h : (Value.document d).hasDistinctNames = true) : (g.keyIn d).hasDistinctNames = true := by
  rw [Value.hasDistinctNames, Bool.and_eq_true] at h
  unfold keyIn
  split
  · rfl
  · rw [Value.hasDistinctNames, Bool.and_eq_true, decide_eq_true_iff]
    refine ⟨Keyed.nodup_keys_ofList _, Value.fieldsHaveDistinctNames_iff.mpr ?_⟩
    intro entry hentry
    rcases Keyed.mem_of_mem_insertAll hentry with hentry | hentry
    · rcases List.mem_map.mp hentry with ⟨field, _, rfl⟩
      cases hvalue : d.lookup? (storedName field) with
      | none =>
          rfl
      | some v =>
          exact Value.hasDistinctNames_follow? h.2 hvalue
    · exact absurd hentry List.not_mem_nil

theorem hasDistinctNames_keyOf (g : Grouping) {documents : List Document}
    (h : ∀ d ∈ documents, (Value.document d).hasDistinctNames = true) :
    ∀ d ∈ documents,
      (Aggregation.keyOf d (Compiler.groupKey g.fields)).hasDistinctNames = true := by
  intro d hd
  rw [Compiler.keyOf_groupKey]
  exact hasDistinctNames_keyIn g (h d hd)

theorem row_of_partition {g : Grouping} {stage : Document} (hstage : Compiler.Staged g stage)
    {placed : List (Document × Nat)} {gs : List Group}
    (h : Partition (g.summaries.map Summary.compiled) (Compiler.groupKey g.fields)
      (g.summaries.map Summary.start) placed gs)
    {i : Nat} {row : Document}
    (hrow : ((gs.map (Aggregation.row (g.summaries.map Summary.compiled))).map
      Collection.flattenGroup)[i]? = some row) :
    ∃ group first rest, gs[i]? = some group ∧ group.key = g.keyIn first ∧
      members placed i = first :: rest ∧ row = g.rowOf first rest := by
  rw [List.getElem?_map, List.getElem?_map] at hrow
  cases hgroup : gs[i]? with
  | none =>
      rw [hgroup] at hrow
      cases hrow
  | some group =>
      rcases h.gathered i group hgroup with ⟨first, rest, hmembers, hkey, htallies⟩
      rw [Compiler.keyOf_groupKey] at hkey
      rw [Compiler.tallied_map] at htallies
      refine ⟨group, first, rest, rfl, hkey, hmembers, ?_⟩
      rw [← hstage.flattenGroup_row hkey htallies]
      rw [hgroup] at hrow
      exact (Option.some_inj.mp hrow).symm

theorem rows_of_partition {g : Grouping} {stage : Document} (hstage : Compiler.Staged g stage)
    {placed : List (Document × Nat)} {gs : List Group}
    (h : Partition (g.summaries.map Summary.compiled) (Compiler.groupKey g.fields)
      (g.summaries.map Summary.start) placed gs)
    (hnames : ∀ d ∈ placed.map Prod.fst, (Value.document d).hasDistinctNames = true) :
    Rows g (placed.map Prod.fst) placed
      ((gs.map (Aggregation.row (g.summaries.map Summary.compiled))).map
        Collection.flattenGroup) where
  complete := rfl
  ordered := by
    rw [List.length_map, List.length_map, h.ordered]
  row := by
    intro i row hrow
    rcases row_of_partition hstage h hrow with ⟨_, first, rest, _, _, hmembers, hrowOf⟩
    exact ⟨first, rest, hmembers, hrowOf⟩
  apart := by
    intro i j first other hij hfirst hother
    rcases h.group_of_head hfirst with ⟨group, hgroup, hkey⟩
    rcases h.group_of_head hother with ⟨group', hgroup', hkey'⟩
    have hapart := h.keys_apart (hasDistinctNames_keyOf g hnames) hgroup hgroup' hij
    rw [hkey, hkey', Compiler.keyOf_groupKey, Compiler.keyOf_groupKey] at hapart
    exact hapart
  together := by
    intro p hp q hq hpnan hqnan
    rw [← Compiler.keyOf_groupKey] at hpnan hqnan ⊢
    rw [← Compiler.keyOf_groupKey]
    exact h.same_row_iff (hasDistinctNames_keyOf g hnames) hp hq hpnan hqnan

/-!
# Counts
-/

def Counts (row : Document) (n : Nat) : Prop :=
  ∃ v k, Keyed.get? row Summary.count.output = some v ∧ Tally.wholeOf? v = some k ∧ k.toInt = n

theorem counts_rowOf {g : Grouping} {stage : Document} (hstage : Compiler.Staged g stage)
    (hcount : .count ∈ g.summaries) {first : Document} {rest : List Document}
    (hfits : (first :: rest).length < 2 ^ 63) :
    Counts (g.rowOf first rest) (first :: rest).length := by
  have hdistinct : (Keyed.keys (g.rowOf first rest)).Nodup := by
    rw [hstage.rowOf_eq_insertAll]
    exact Keyed.nodup_keys_insertAll (Keyed.nodup_keys_ofList _) _
  have hmem : (Summary.count.output, Summary.count.resultOver (first :: rest)) ∈ g.rowOf first rest :=
    List.mem_append_right _ (List.mem_map.mpr ⟨_, hcount, rfl⟩)
  have hmax : Int64.maxValue.toInt = 2 ^ 63 - 1 := Int64.toInt_maxValue
  have hzero : (0 : Int64).toInt = 0 := Int64.toInt_zero
  have hsum : (0 : Int64).toInt + (first :: rest).length ≤ Int64.maxValue.toInt := by omega
  rcases Tally.foldl_add_one 0 hsum with ⟨total, htotal, hfold⟩
  rcases Tally.wholeOf?_wholeValue total with ⟨k, hk, hvalue⟩
  have hover : Summary.count.resultOver (first :: rest) = Tally.wholeValue total :=
    congrArg Tally.result hfold
  exact ⟨_, k, Keyed.get?_of_mem hdistinct hmem, hover ▸ hk, by omega⟩

theorem Rows.row_lt {g : Grouping} {documents rows : List Document}
    {placed : List (Document × Nat)} (h : Rows g documents placed rows) {p : Document × Nat}
    (hp : p ∈ placed) : p.2 < rows.length := by
  rw [← List.mem_range, ← h.ordered, List.mem_eraseDups]
  exact List.mem_map_of_mem hp

theorem Rows.counts {g : Grouping} {stage : Document} (hstage : Compiler.Staged g stage)
    {documents rows : List Document} {placed : List (Document × Nat)}
    (h : Rows g documents placed rows) (hcount : .count ∈ g.summaries)
    (hfits : documents.length < 2 ^ 63) :
    ∃ counts, List.Forall₂ Counts rows counts ∧ counts.sum = documents.length := by
  have hlength : placed.length = documents.length := by
    rw [← h.complete, List.length_map]
  refine ⟨(List.range rows.length).map fun row => (members placed row).length, ?_, ?_⟩
  · refine List.forall₂_of_length_eq_of_get (by simp) ?_
    intro i hrow _
    rcases h.row i rows[i] (List.getElem?_eq_getElem hrow) with ⟨first, rest, hmembers, hrowOf⟩
    have hle : (members placed i).length ≤ placed.length := by
      rw [members, List.length_map]
      exact List.length_filter_le _ _
    rw [hmembers] at hle
    have hgroup : (first :: rest).length < 2 ^ 63 := by omega
    have hcounts := counts_rowOf hstage hcount hgroup
    simpa [hrowOf, hmembers] using hcounts
  · rw [Aggregation.sum_length_members, ← hlength, List.filter_eq_self.mpr]
    intro p hp
    exact decide_eq_true (h.row_lt hp)

end Grouping

namespace Collection

open Program
open Selector (Decides taken)

/-- What is found when the documents that a filter takes have been put into groups. -/
structure FoundGroups (c : Collection) (criteria : Criteria) (g : Grouping) (filter : Document)
    (s : Store) (rows : List Document) : Prop where
  compiled : c.compiler.filter? criteria.condition = .ok filter
  decided : Decides filter (s.documents c.identity)
  partitioned : ∃ placed, g.Rows (taken filter (s.documents c.identity)) placed rows
  counted : .count ∈ g.summaries → (s.documents c.identity).length < 2 ^ 63 →
    ∃ counts, List.Forall₂ Grouping.Counts rows counts ∧
      (c.count criteria.condition).run (Store.answer c.identity) s = (.ok counts.sum, s)

theorem compile_grouped {c : Compiler} {criteria : Criteria} {g : Grouping} {q : NativeQuery}
    (hgrouping : criteria.grouping = some g) (h : c.compile criteria = .ok q) :
    ∃ stage, c.filter? criteria.condition = .ok q.filter ∧ Compiler.Staged g stage ∧
      q.pipeline = some [[("$match", .document q.filter)], [("$group", .document stage)]] := by
  rcases Compiler.compile_eq_ok h with ⟨hfilter, _, hpipeline⟩
  simp only [hgrouping, Compiler.pipeline?, bind_eq_ok, pure_eq_ok] at hpipeline
  rcases hpipeline with ⟨stage, hstage, hstages⟩
  exact ⟨stage, hfilter, Compiler.staged_of_groupStage hstage, hstages.symm⟩

theorem run_matchGroup (documents : List Document) (filter stage : Document) :
    Aggregation.run documents
        [[("$match", .document filter)], [("$group", .document stage)]] =
      Selector.select filter documents >>= Aggregation.group stage := by
  rw [← List.singleton_append, Aggregation.run_append, Aggregation.run_single]
  exact bind_congr fun found => Aggregation.run_single found "$group" (.document stage)

theorem run_find_of_pipeline {c : Collection} {criteria : Criteria} {q : NativeQuery}
    {pipeline : List Document} (hcompile : c.compiler.compile criteria = .ok q)
    (hpipeline : q.pipeline = some pipeline) (s : Store) :
    (c.find criteria).run (Store.answer c.identity) s =
      ((s.aggregate c.identity pipeline).map (List.map flattenGroup), s) := by
  rw [find, run_ofExcept_seq, hcompile]
  simp only [hpipeline]
  rw [run_call_seq]
  simp only [Store.answer]
  cases s.aggregate c.identity pipeline <;> rfl

/-- Finding groups puts the documents that the condition takes, in their order, into rows, and the
counts of the rows add up to what is counted.  A collection that is kept in memory has fewer than
`2 ^ 63` documents.  Otherwise the filter is at fault. -/
theorem find_grouped (c : Collection) {criteria : Criteria} {g : Grouping} {q : NativeQuery}
    (hgrouping : criteria.grouping = some g) (hcompile : c.compiler.compile criteria = .ok q)
    (s : Store)
    (hnames : ∀ d ∈ s.documents c.identity, (Value.document d).hasDistinctNames = true) :
    s.AllOrNothing (fun rows after => after = s ∧ c.FoundGroups criteria g q.filter s rows)
      (s.Undecided c.identity q.filter)
      ((c.find criteria).run (Store.answer c.identity) s) := by
  rcases compile_grouped hgrouping hcompile with ⟨stage, hfilter, hstage, hpipeline⟩
  rw [run_find_of_pipeline hcompile hpipeline, Store.aggregate, run_matchGroup]
  cases hselect : Selector.select q.filter (s.documents c.identity) with
  | error fault =>
      exact .of_error (fun _ => rfl) ⟨fault, hselect, rfl⟩
  | ok found =>
      rcases Selector.select_eq_ok_iff.mp hselect with ⟨hdecides, rfl⟩
      rcases hstage.run (taken q.filter (s.documents c.identity)) with
        ⟨placed, gs, hgroup, hplaced, hpartition⟩
      have htaken : ∀ d ∈ placed.map Prod.fst, (Value.document d).hasDistinctNames = true := by
        rw [hplaced]
        exact fun d hd => hnames d (List.mem_of_mem_filter hd)
      have hrows := Grouping.rows_of_partition hstage hpartition htaken
      rw [hplaced] at hrows
      change s.AllOrNothing _ _ (((Aggregation.group stage _).mapError _).map _, s)
      rw [hgroup]
      refine .of_ok ⟨rfl, hfilter, hdecides, ⟨placed, hrows⟩, ?_⟩
      intro hcount hfits
      have hle : (taken q.filter (s.documents c.identity)).length ≤
          (s.documents c.identity).length := List.length_filter_le _ _
      rcases hrows.counts hstage hcount (by omega) with ⟨counts, hcounts, hsum⟩
      refine ⟨counts, hcounts, ?_⟩
      rw [hsum]
      exact run_count hfilter hdecides

theorem find_grouped_by_age :
    FoundGroups ⟨"pets", ⟨[]⟩, {}⟩
      { condition := some (.test "age" .atLeast (.int32 1)), grouping := some ⟨["age"], [.count]⟩ }
      ⟨["age"], [.count]⟩ [("age", .document [("$gte", .int32 1)])]
      ⟨[("pets", ⟨[[("_id", .int32 1), ("age", .int32 3)], [("_id", .int32 2), ("age", .int32 5)],
        [("_id", .int32 3), ("age", .int32 0)], [("_id", .int32 4), ("age", .double 3)]], []⟩)], 0⟩
      [[("age", .int32 3), ("count", .int32 2)], [("age", .int32 5), ("count", .int32 1)]] := by
  have hfound := @find_grouped ⟨"pets", ⟨[]⟩, {}⟩
    { condition := some (.test "age" .atLeast (.int32 1)), grouping := some ⟨["age"], [.count]⟩ }
    _ _ rfl rfl
    ⟨[("pets", ⟨[[("_id", .int32 1), ("age", .int32 3)], [("_id", .int32 2), ("age", .int32 5)],
      [("_id", .int32 3), ("age", .int32 0)], [("_id", .int32 4), ("age", .double 3)]], []⟩)], 0⟩
    (by decide)
  exact (hfound.ok (toOption_eq_some.mp (by decide +kernel))).2

end Collection
end DocQuery
