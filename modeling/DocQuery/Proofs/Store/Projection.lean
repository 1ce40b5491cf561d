import DocQuery.Proofs.Query.SortKeys
import DocQuery.Query.Native

/-!
# Chosen fields

A choice of fields keeps or drops whole fields of a document by their names, while the
fields that it lists may be paths into documents, as in conditions and sort keys.  So a
path is shown, or hidden, just when its first step is listed as a field.
-/

namespace DocQuery

/-!
# Paths
-/

theorem pathSteps_singleton {name : String} (h : '.' ∉ name.toList) : pathSteps name = [name] := by
  have hparts : Text.splitAt '.' name.toList = [name.toList] :=
    Text.splitAt_eq_iff.mpr ⟨List.cons_ne_nil _ _, List.forall_mem_singleton.mpr h, by simp⟩
  rw [pathSteps, hparts, List.map_singleton, String.ofList_toList]

/-- The field of the document itself in which a path begins. -/
def firstStep (path : String) : String :=
  (pathSteps path).head (pathSteps_ne_nil path)

/-- A path leads to the end of another one or, within it, further. -/
def Under (path other : String) : Prop :=
  pathSteps other <+: pathSteps path

theorem exists_pathSteps_eq (path : String) : ∃ rest, pathSteps path = firstStep path :: rest :=
  ⟨(pathSteps path).tail, (List.cons_head_tail (pathSteps_ne_nil path)).symm⟩

theorem under_firstStep (path : String) : Under path (firstStep path) := by
  have hmem : firstStep path ∈ pathSteps path :=
    List.head_mem (pathSteps_ne_nil path)
  rcases List.mem_map.mp hmem with ⟨part, hpart, hstep⟩
  have hpoint : '.' ∉ (firstStep path).toList := by
    rw [← hstep, String.toList_ofList]
    exact Text.not_mem_of_mem_splitAt part hpart
  rcases exists_pathSteps_eq path with ⟨rest, hsteps⟩
  rw [Under, pathSteps_singleton hpoint, hsteps]
  exact ⟨rest, rfl⟩

theorem Document.lookup?_filter (keep : String → Bool) (d : Document) (path : String) :
    Document.lookup? (d.filter fun entry => keep entry.1) path =
      if keep (firstStep path) then d.lookup? path else none := by
  rcases exists_pathSteps_eq path with ⟨rest, hsteps⟩
  rw [Document.lookup?, Document.lookup?, hsteps]
  cases hkeep : keep (firstStep path) with
  | true =>
      cases rest <;> simp [Document.follow?, Keyed.get?_filter hkeep]
  | false =>
      cases rest <;> simp [Document.follow?, Keyed.get?_filter_of_not hkeep]

namespace Projection

/-!
# Compiled choices
-/

section Compiled

variable {fields : List String} {name : String}

theorem projection_eq (fields : List String) (flag : Int32) :
    Compiler.projection fields flag =
      Keyed.ofList ((fields.map storedName).map fun name => (name, .int32 flag)) := by
  rw [Compiler.projection, List.map_map]
  rfl

theorem get?_projection (flag : Int32) :
    Keyed.get? (Compiler.projection fields flag) name =
      if name ∈ fields.map storedName then some (.int32 flag) else none := by
  rw [projection_eq]
  split
  · rename_i hname
    exact Keyed.get?_ofList_map hname fun _ => Value.int32 flag
  · rename_i hname
    rw [Keyed.get?_eq_none_iff, Keyed.keys_ofList, List.mem_eraseDups, Keyed.keys, List.map_map]
    simpa using hname

theorem includes_projection (hfields : fields ≠ []) (flag : Int32) :
    includes (Compiler.projection fields flag) = isSet (.int32 flag) := by
  have hflags : ∀ entry ∈ Compiler.projection fields flag, entry.2 = .int32 flag := by
    intro entry hentry
    rw [projection_eq] at hentry
    rcases Keyed.mem_of_mem_insertAll hentry with hadded | hnone
    · rcases List.mem_map.mp hadded with ⟨_, _, rfl⟩
      rfl
    · cases hnone
  rcases List.exists_mem_of_ne_nil fields hfields with ⟨field, hfield⟩
  have hentry : (storedName field, .int32 flag) ∈ Compiler.projection fields flag := by
    apply Keyed.mem_of_get?
    rw [get?_projection, if_pos (List.mem_map_of_mem hfield)]
  rw [includes, Bool.eq_iff_iff, List.any_eq_true]
  constructor
  · rintro ⟨entry, hmem, hset⟩
    rwa [hflags entry hmem] at hset
  · intro hset
    exact ⟨_, hentry, hset⟩

theorem keeps_only (hfields : fields ≠ []) :
    keeps (Compiler.projection fields 1) name =
      decide (name ∈ storedIdField :: fields.map storedName) := by
  have hincludes : includes (Compiler.projection fields 1) = true :=
    includes_projection hfields 1
  rw [keeps, if_pos hincludes, flag, get?_projection]
  by_cases hname : name ∈ fields.map storedName
  · rw [if_pos hname, decide_eq_true (List.mem_cons_of_mem _ hname)]
    rfl
  · rw [if_neg hname]
    simp [hname]

theorem keeps_without (hfields : fields ≠ []) :
    keeps (Compiler.projection fields 0) name = decide (name ∉ fields.map storedName) := by
  have hexcludes : ¬ includes (Compiler.projection fields 0) = true := by
    rw [includes_projection hfields 0]
    exact Bool.false_ne_true
  rw [keeps, if_neg hexcludes, flag, get?_projection]
  by_cases hname : name ∈ fields.map storedName
  · rw [if_pos hname, decide_eq_false (not_not.mpr hname)]
    rfl
  · rw [if_neg hname, decide_eq_true hname]

theorem apply_projection (hfields : fields ≠ []) (flag : Int32) (d : Document) :
    apply (some (Compiler.projection fields flag)) d =
      d.filter fun entry => keeps (Compiler.projection fields flag) entry.1 := by
  rw [apply, if_neg]
  rcases List.exists_mem_of_ne_nil fields hfields with ⟨field, hfield⟩
  intro hempty
  have hread : Keyed.get? (Compiler.projection fields flag) (storedName field) =
      some (.int32 flag) := by
    rw [get?_projection, if_pos (List.mem_map_of_mem hfield)]
  rw [List.isEmpty_iff.mp hempty] at hread
  cases hread

theorem apply_only (hfields : fields ≠ []) (d : Document) :
    apply (Compiler.projection? (.only fields)) d =
      d.filter fun entry => decide (entry.1 ∈ storedIdField :: fields.map storedName) := by
  rw [Compiler.projection?, apply_projection hfields]
  simp only [keeps_only hfields]

theorem apply_without (hfields : fields ≠ []) (d : Document) :
    apply (Compiler.projection? (.without fields)) d =
      d.filter fun entry => decide (entry.1 ∉ fields.map storedName) := by
  rw [Compiler.projection?, apply_projection hfields]
  simp only [keeps_without hfields]

end Compiled

/-!
# Chosen paths
-/

/-- What a document shows of another one when it is to show some paths only. -/
structure Shows (d shown : Document) (paths : List String) : Prop where
  order : shown.Sublist d
  fields : ∀ entry ∈ shown, entry.1 ∈ paths
  /-- Nothing is found outside the paths, and nothing else than before. -/
  inside : ∀ path, shown.lookup? path ≠ none →
    (∃ other ∈ paths, Under path other) ∧ shown.lookup? path = d.lookup? path
  /-- A path leads where it led before if it led nowhere, or if its first step is listed. -/
  paths : ∀ path ∈ paths, shown.lookup? path = d.lookup? path ↔
    d.lookup? path = none ∨ firstStep path ∈ paths

/-- What a document shows of another one when it is to hide some paths. -/
structure Hides (d shown : Document) (paths : List String) : Prop where
  order : shown.Sublist d
  /-- Beside the hidden paths everything is found as before. -/
  beside : ∀ path, (∀ other ∈ paths, ¬ Under path other ∧ ¬ Under other path) →
    shown.lookup? path = d.lookup? path
  /-- A path is hidden if it led nowhere before, or if its first step is listed. -/
  paths : ∀ path ∈ paths, shown.lookup? path = none ↔
    d.lookup? path = none ∨ firstStep path ∈ paths

theorem shows_filter (d : Document) (paths : List String) :
    Shows d (d.filter fun entry => decide (entry.1 ∈ paths)) paths where
  order := List.filter_sublist
  fields := fun _ hentry => of_decide_eq_true (List.mem_filter.mp hentry).2
  inside := by
    intro path
    rw [Document.lookup?_filter fun name => decide (name ∈ paths)]
    split
    · rename_i hlisted
      intro _
      exact ⟨⟨firstStep path, of_decide_eq_true hlisted, under_firstStep path⟩, rfl⟩
    · exact fun hfound => absurd rfl hfound
  paths := by
    intro path _
    rw [Document.lookup?_filter fun name => decide (name ∈ paths)]
    by_cases hlisted : firstStep path ∈ paths
    · simp [hlisted]
    · simp [hlisted, eq_comm]

theorem hides_filter (d : Document) (paths : List String) :
    Hides d (d.filter fun entry => decide (entry.1 ∉ paths)) paths where
  order := List.filter_sublist
  beside := by
    intro path hbeside
    have hunlisted : firstStep path ∉ paths :=
      fun hlisted => (hbeside _ hlisted).1 (under_firstStep path)
    rw [Document.lookup?_filter fun name => decide (name ∉ paths),
      if_pos (decide_eq_true hunlisted)]
  paths := by
    intro path _
    rw [Document.lookup?_filter fun name => decide (name ∉ paths)]
    by_cases hlisted : firstStep path ∈ paths
    · simp [hlisted]
    · simp [hlisted]

/-- A choice of fields shows, or hides, whole fields of a document in their order; of the paths
that it lists it reaches just those whose first step it lists too. -/
theorem shows_and_hides (d : Document) {fields : List String} (hfields : fields ≠ []) :
    Shows d (apply (Compiler.projection? (.only fields)) d)
        (storedIdField :: fields.map storedName) ∧
      Hides d (apply (Compiler.projection? (.without fields)) d) (fields.map storedName) := by
  rw [apply_only hfields, apply_without hfields]
  exact ⟨shows_filter d _, hides_filter d _⟩

/-- A town that is asked for is not shown, and one that is to be hidden is, while a name and an
identifier are shown and hidden as they should be. -/
theorem shows_and_hides_towns :
    let d : Document := [("_id", .int32 1), ("name", .string "Rex"),
      ("home", .document [("town", .string "Paris")])]
    let fields := ["id", "home.town", "name"]
    fields ≠ [] ∧
      (apply (Compiler.projection? (.only fields)) d).lookup? "home.town" ≠
        d.lookup? "home.town" ∧
      (apply (Compiler.projection? (.only fields)) d).lookup? "name" = d.lookup? "name" ∧
      (apply (Compiler.projection? (.without fields)) d).lookup? "home.town" ≠ none ∧
      (apply (Compiler.projection? (.without fields)) d).lookup? "name" = none := by
  intro d fields
  have hfields : fields ≠ [] :=
    List.cons_ne_nil _ _
  rcases shows_and_hides d hfields with ⟨hshows, hhides⟩
  have htown : ¬ (d.lookup? "home.town" = none ∨
      firstStep "home.town" ∈ storedIdField :: fields.map storedName) := by
    decide +kernel
  have hname : firstStep "name" ∈ fields.map storedName := by
    decide +kernel
  refine ⟨hfields, ?_, ?_, ?_, ?_⟩
  · exact fun heq => htown ((hshows.paths "home.town" (by decide +kernel)).mp heq)
  · exact (hshows.paths "name" (by decide +kernel)).mpr
      (Or.inr (List.mem_cons_of_mem _ hname))
  · intro hnone
    rcases (hhides.paths "home.town" (by decide +kernel)).mp hnone with habsent | hlisted
    · exact htown (Or.inl habsent)
    · exact htown (Or.inr (List.mem_cons_of_mem _ hlisted))
  · exact (hhides.paths "name" (by decide +kernel)).mpr (Or.inr hname)

/-- Listed paths are not always shown by the one choice and hidden by the other. -/
theorem listed_path_missed :
    ¬ ∀ (d : Document) (fields : List String), fields ≠ [] →
      (∀ path ∈ storedIdField :: fields.map storedName,
        (apply (Compiler.projection? (.only fields)) d).lookup? path = d.lookup? path) ∧
      ∀ path ∈ fields.map storedName,
        (apply (Compiler.projection? (.without fields)) d).lookup? path = none := by
  intro h
  rcases h [("home", .document [("town", .string "Paris")])] ["home.town"]
    (List.cons_ne_nil _ _) with ⟨_, hhidden⟩
  exact absurd (hhidden "home.town" (by decide)) (by decide +kernel)

end Projection
end DocQuery
