import DocQuery.Proofs.Collection.Grouping
import DocQuery.Proofs.Query.Outputs

/-!
# Columns of grouped results

A grouped query is refused when its outputs would collide.  Otherwise every row
that is found has a column for each field that is grouped by and behind them one
for each output, and none of them has taken the place of another.
-/

namespace DocQuery

open Outcome
open Aggregation (members sameKey Group Partition)

namespace Grouping

/-- The columns of the row of a group, which is given by its documents. -/
structure Columns (g : Grouping) (first : Document) (rest : List Document) (row : Document) :
    Prop where
  names : Keyed.keys row = g.fields.eraseDups ++ g.summaries.map Summary.output
  distinct : (Keyed.keys row).Nodup
  field : ∀ field ∈ g.fields,
    Keyed.get? row field = some ((first.lookup? (storedName field)).getD .null)
  output : ∀ s ∈ g.summaries, Keyed.get? row s.output = some (s.resultOver (first :: rest))

/-- Rows of columns, one for each group that documents have been placed in. -/
structure Table (g : Grouping) (documents : List Document) (placed : List (Document × Nat))
    (rows : List Document) : Prop where
  complete : placed.map Prod.fst = documents
  ordered : (placed.map Prod.snd).eraseDups = List.range rows.length
  columns : ∀ i row, rows[i]? = some row →
    ∃ first rest, members placed i = first :: rest ∧ g.Columns first rest row ∧
      ∀ d ∈ rest, g.keyIn first = g.keyIn d ∨ sameKey (g.keyIn first) (g.keyIn d) = true

theorem keys_valuesIn_eq (g : Grouping) (d : Document) :
    Keyed.keys (g.valuesIn d) = g.fields.eraseDups := by
  rw [valuesIn, Keyed.keys_ofList, Keyed.keys, List.map_map]
  exact congrArg List.eraseDups (List.map_id g.fields)

theorem get?_valuesIn {g : Grouping} {field : String} (h : field ∈ g.fields) (d : Document) :
    Keyed.get? (g.valuesIn d) field = some ((d.lookup? (storedName field)).getD .null) :=
  Keyed.get?_ofList_map h fun field => (d.lookup? (storedName field)).getD .null

theorem columns_rowOf {g : Grouping} {stage : Document} (hstage : Compiler.Staged g stage)
    (first : Document) (rest : List Document) : g.Columns first rest (g.rowOf first rest) := by
  have hdistinct : (Keyed.keys (g.rowOf first rest)).Nodup := by
    rw [hstage.rowOf_eq_insertAll]
    exact Keyed.nodup_keys_insertAll (Keyed.nodup_keys_ofList _) _
  constructor
  case names =>
    rw [rowOf, Keyed.keys, List.map_append]
    exact congrArg₂ (· ++ ·) (keys_valuesIn_eq g first) (Compiler.keys_outputs _ _)
  case distinct =>
    exact hdistinct
  case field =>
    intro field hfield
    rw [rowOf, Keyed.get?_append, get?_valuesIn hfield, Option.some_or]
  case output =>
    intro s hs
    exact Keyed.get?_of_mem hdistinct (List.mem_append_right _ (List.mem_map.mpr ⟨s, hs, rfl⟩))

theorem table_of_partition {g : Grouping} {stage : Document} (hstage : Compiler.Staged g stage)
    {placed : List (Document × Nat)} {gs : List Group}
    (h : Partition (g.summaries.map Summary.compiled) (Compiler.groupKey g.fields)
      (g.summaries.map Summary.start) placed gs) :
    Table g (placed.map Prod.fst) placed
      ((gs.map (Aggregation.row (g.summaries.map Summary.compiled))).map
        Collection.flattenGroup) where
  complete := rfl
  ordered := by
    rw [List.length_map, List.length_map, h.ordered]
  columns := by
    intro i row hrow
    rcases row_of_partition hstage h hrow with ⟨group, first, rest, hgroup, hkey, hmembers, rfl⟩
    refine ⟨first, rest, hmembers, columns_rowOf hstage first rest, ?_⟩
    intro d hd
    have hplaced : (d, i) ∈ placed := by
      refine Aggregation.mem_of_mem_members ?_
      rw [hmembers]
      exact List.mem_cons_of_mem _ hd
    have hjoined := h.joined (d, i) hplaced group hgroup
    rwa [hkey, Compiler.keyOf_groupKey] at hjoined

end Grouping

namespace Collection

open Selector (taken)

/-- A grouped query whose filter compiles is refused exactly when its outputs collide.  Otherwise
what is found is a table of the documents that the filter takes, unless the filter is at fault. -/
theorem find_columns (c : Collection) {criteria : Criteria} {g : Grouping} {filter : Document}
    (hgrouping : criteria.grouping = some g)
    (hfilter : c.compiler.filter? criteria.condition = .ok filter) :
    (Succeeds (c.compiler.compile criteria) ↔ ¬ g.Collides) ∧
      (∀ e, c.compiler.compile criteria = .error e → e.kind = .invalidCriteria) ∧
        (¬ g.Collides → ∀ s : Store, s.AllOrNothing
          (fun rows after => after = s ∧
            ∃ placed, g.Table (taken filter (s.documents c.identity)) placed rows)
          (s.Undecided c.identity filter)
          ((c.find criteria).run (Store.answer c.identity) s)) := by
  have hcompile : Succeeds (c.compiler.compile criteria) ↔ ¬ g.Collides := by
    rw [Compiler.succeeds_compile, hfilter, hgrouping, and_iff_right (succeeds_ok filter)]
    exact ⟨fun h => h g rfl, fun h _ heq => Option.some_inj.mp heq ▸ h⟩
  refine ⟨hcompile, ?_, ?_⟩
  · intro e he
    rcases Compiler.compile_eq_error he with hfault | ⟨output, rfl⟩
    · rw [hfilter] at hfault
      cases hfault
    · rfl
  · intro hdistinct s
    rcases hcompile.mpr hdistinct with ⟨q, hq⟩
    rcases compile_grouped hgrouping hq with ⟨stage, hqfilter, hstage, hpipeline⟩
    rw [hfilter, Except.ok.injEq] at hqfilter
    rw [run_find_of_pipeline hq hpipeline, Store.aggregate, run_matchGroup, ← hqfilter]
    cases hselect : Selector.select filter (s.documents c.identity) with
    | error fault =>
        exact .of_error (fun _ => rfl) ⟨fault, hselect, rfl⟩
    | ok found =>
        rcases Selector.select_eq_ok_iff.mp hselect with ⟨_, rfl⟩
        rcases hstage.run (taken filter (s.documents c.identity)) with
          ⟨placed, gs, hgroup, hplaced, hpartition⟩
        have htable := Grouping.table_of_partition hstage hpartition
        rw [hplaced] at htable
        change s.AllOrNothing _ _ (((Aggregation.group stage _).mapError _).map _, s)
        rw [hgroup]
        exact .of_ok ⟨rfl, placed, htable⟩

/-- Pets by age and identifier, with the age named twice and one pet that has none. -/
theorem find_columns_by_age :
    ∃ placed, Grouping.Table ⟨["age", "id", "age"], [.count, .sum "weight"]⟩
      [[("_id", .int32 1), ("age", .int32 5), ("weight", .int32 3)], [("_id", .int32 2)]] placed
      [[("age", .int32 5), ("id", .int32 1), ("count", .int32 1), ("weight", .int32 3)],
        [("age", .null), ("id", .int32 2), ("count", .int32 1), ("weight", .int32 0)]] := by
  have hcolumns := @find_columns ⟨"pets", ⟨[]⟩, {}⟩
    { grouping := some ⟨["age", "id", "age"], [.count, .sum "weight"]⟩ } _ [] rfl rfl
  have hfound := hcolumns.2.2 (Grouping.not_collides_iff.mpr (by decide))
    ⟨[("pets", ⟨[[("_id", .int32 1), ("age", .int32 5), ("weight", .int32 3)],
      [("_id", .int32 2)]], []⟩)], 0⟩
  exact (hfound.ok (toOption_eq_some.mp (by decide +kernel))).2

end Collection
end DocQuery
