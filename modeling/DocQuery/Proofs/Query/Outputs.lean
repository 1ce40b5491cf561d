import DocQuery.Proofs.Query.Compile

/-!
# Outputs of a grouping

The outputs of a grouping stand in one row with each other and with the fields
that are grouped by.  A grouping is compiled exactly when none of them would
stand in the place of another, and nothing else about it is refused.
-/

namespace DocQuery

open Outcome

namespace Grouping

/-- Two outputs have one name, or an output has that of the key of a group or of a field that is
grouped by. -/
inductive Collides (g : Grouping) : Prop where
  | twice (h : ¬ (g.summaries.map Summary.output).Nodup)
  | key {s : Summary} (hs : s ∈ g.summaries) (h : s.output = storedIdField)
  | field {s : Summary} (hs : s ∈ g.summaries) (h : s.output ∈ g.fields)

theorem not_collides_iff {g : Grouping} :
    ¬ g.Collides ↔ (storedIdField :: g.summaries.map Summary.output).Nodup ∧
      ∀ s ∈ g.summaries, s.output ∉ g.fields := by
  rw [List.nodup_cons]
  constructor
  · intro h
    refine ⟨⟨?_, ?_⟩, fun s hs hfield => h (.field hs hfield)⟩
    · intro hmem
      rcases List.mem_map.mp hmem with ⟨s, hs, hkey⟩
      exact h (.key hs hkey)
    · by_contra htwice
      exact h (.twice htwice)
  · rintro ⟨⟨hkey, hdistinct⟩, hfields⟩ h
    cases h with
    | twice h => exact h hdistinct
    | key hs h => exact hkey (h ▸ List.mem_map_of_mem hs)
    | field hs h => exact hfields _ hs h

end Grouping

namespace Compiler

/-!
# The grouping stage

Outputs are added one by one, each under a name that is not there yet.
-/

theorem succeeds_addOutputs {fields : List String} {stage : Document} {summaries : List Summary}
    (hdistinct : (Keyed.keys stage ++ summaries.map Summary.output).Nodup)
    (hfresh : ∀ s ∈ summaries, s.output ∉ fields) :
    Succeeds (addOutputs fields stage summaries) := by
  induction summaries generalizing stage with
  | nil =>
      exact succeeds_ok stage
  | cons s rest ih =>
      rw [List.forall_mem_cons] at hfresh
      have hnew : s.output ∉ Keyed.keys stage := by
        intro hmem
        rw [List.nodup_append] at hdistinct
        exact hdistinct.2.2 _ hmem _ List.mem_cons_self rfl
      have hrefused : ¬ (Keyed.contains stage s.output || fields.contains s.output) = true := by
        rw [Bool.or_eq_true, Keyed.contains_iff_mem_keys, List.contains_iff_mem]
        exact not_or.mpr ⟨hnew, hfresh.1⟩
      rw [addOutputs, if_neg hrefused]
      refine ih ?_ hfresh.2
      rwa [Keyed.keys_insert, if_neg hnew, List.append_assoc]

theorem exists_outputTwice_of_addOutputs {fields : List String} {stage : Document}
    {summaries : List Summary} {e : Error} (h : addOutputs fields stage summaries = .error e) :
    ∃ output, e = .criteria (.outputTwice output) := by
  induction summaries generalizing stage with
  | nil =>
      cases h
  | cons s rest ih =>
      rw [addOutputs] at h
      split at h
      · cases h
        exact ⟨s.output, rfl⟩
      · exact ih h

theorem succeeds_groupStage {g : Grouping} : Succeeds (groupStage g) ↔ ¬ g.Collides := by
  rw [Grouping.not_collides_iff]
  constructor
  · rintro ⟨stage, hstage⟩
    have hstaged := staged_of_groupStage hstage
    exact ⟨hstaged.distinct, hstaged.fresh⟩
  · rintro ⟨hdistinct, hfresh⟩
    exact succeeds_addOutputs hdistinct hfresh

/-!
# Compiled criteria

Beside the filter, only colliding outputs can be at fault.
-/

theorem succeeds_pipeline? {filter : Document} {grouping : Option Grouping} :
    Succeeds (pipeline? filter grouping) ↔ ∀ g, grouping = some g → ¬ g.Collides := by
  cases grouping with
  | none =>
      exact iff_of_true (succeeds_ok _) fun _ h => nomatch h
  | some g =>
      rw [pipeline?, succeeds_bind_pure, succeeds_groupStage]
      exact ⟨fun h _ heq => Option.some_inj.mp heq ▸ h, fun h => h g rfl⟩

theorem succeeds_compile {c : Compiler} {criteria : Criteria} :
    Succeeds (c.compile criteria) ↔
      Succeeds (c.filter? criteria.condition) ∧
        ∀ g, criteria.grouping = some g → ¬ g.Collides := by
  refine succeeds_bind_iff fun filter _ => ?_
  rw [succeeds_bind_pure, succeeds_pipeline?]

theorem compile_eq_error {c : Compiler} {criteria : Criteria} {e : Error}
    (h : c.compile criteria = .error e) :
    c.filter? criteria.condition = .error e ∨ ∃ output, e = .criteria (.outputTwice output) := by
  rcases bind_eq_error.mp h with hfilter | ⟨filter, _, hrest⟩
  · exact Or.inl hfilter
  have hpipeline := bind_pure_eq_error.mp hrest
  cases hgrouping : criteria.grouping with
  | none =>
      rw [hgrouping] at hpipeline
      cases hpipeline
  | some g =>
      rw [hgrouping, pipeline?] at hpipeline
      exact Or.inr (exists_outputTwice_of_addOutputs (bind_pure_eq_error.mp hpipeline))

end Compiler
end DocQuery
