import DocQuery.Proofs.Collection.History
import DocQuery.Proofs.Collection.Runs
import DocQuery.Proofs.Since
import DocQuery.Proofs.Store.Uniqueness
import DocQuery.Registry

/-!
# Installed indexes

An index stays as it was installed first until its collection is dropped.  A
later definition installs what it declares beside the indexes that are there,
and an attribute that has one already keeps it.
-/

namespace DocQuery

open Uniqueness (idKey Differ)

/-!
# Names of indexes

The indexes that are declared have one field each, and are told apart by it.
-/

namespace Index

/-- An index on one field, which passes over documents that do not have it. -/
def OnField (index : Index) : Prop :=
  ∃ field unique, index = single field unique true

theorem name_single (field : String) (unique sparse : Bool) :
    (single field unique sparse).name = field ++ "_1" := by
  have hsign : Number.intText Direction.ascending.sign.toInt = "1" := by
    decide +kernel
  rw [name, single, List.map_cons, List.map_nil, keyText, hsign]
  rw [String.append_assoc]
  rfl

theorem keys_eq_of_name_eq {a b : Index} (ha : a.OnField) (hb : b.OnField)
    (h : a.name = b.name) : a.keys = b.keys := by
  rcases ha with ⟨f, u, rfl⟩
  rcases hb with ⟨g, v, rfl⟩
  rw [name_single, name_single, String.append_left_inj] at h
  rw [single, single, h]

theorem eq_of_keys_eq {a b : Index} (ha : a.OnField) (hb : b.OnField) (hkeys : a.keys = b.keys)
    (hunique : a.unique = b.unique) : a = b := by
  rcases ha with ⟨f, u, rfl⟩
  rcases hb with ⟨g, v, rfl⟩
  cases hkeys
  cases hunique
  rfl

theorem eq_single_of_ofAttribute? {name : String} {a : Attribute} {index : Index}
    (h : ofAttribute? name a = some index) : ∃ unique, index = single name unique true := by
  unfold ofAttribute? at h
  split at h
  · cases h
  · split at h
    · cases h
      exact ⟨true, rfl⟩
    · split at h
      · cases h
        exact ⟨false, rfl⟩
      · cases h

theorem onField_of_mem_indexes {s : Schema} {index : Index} (h : index ∈ s.indexes) :
    index.OnField := by
  rcases List.mem_filterMap.mp h with ⟨entry, _, hentry⟩
  exact ⟨entry.1, eq_single_of_ofAttribute? hentry⟩

end Index

theorem Contents.Unique.eq_of_keys_eq {c : Contents} (h : c.Unique) {a b : Index}
    (ha : a ∈ c.indexes) (hb : b ∈ c.indexes) (hkeys : a.keys = b.keys) : a = b := by
  have hnames : (c.indexes.map Index.name).Nodup := by
    rw [List.Nodup, List.pairwise_map]
    exact h.names
  apply List.inj_on_of_nodup_map hnames ha hb
  rw [Index.name, Index.name, hkeys]

/-!
# What becomes of indexes

Whatever is done to a collection short of dropping it, its indexes stay, and
those that are added have been asked for.
-/

namespace Store

/-- A collection still has its indexes, and others only of a given sort. -/
structure Extends (collection : String) (p : Index → Prop) (s after : Store) : Prop where
  kept : s.indexes collection ⊆ after.indexes collection
  added : ∀ index ∈ after.indexes collection, index ∈ s.indexes collection ∨ p index
  unique : (s.contents collection).Unique → (after.contents collection).Unique

theorem Extends.refl (collection : String) (p : Index → Prop) (s : Store) :
    s.Extends collection p s where
  kept := List.Subset.refl _
  added _ hindex := Or.inl hindex
  unique h := h

theorem Extends.mono {collection : String} {p q : Index → Prop} {s after : Store}
    (h : s.Extends collection p after) (hpq : ∀ index, p index → q index) :
    s.Extends collection q after where
  kept := h.kept
  added index hindex := (h.added index hindex).imp_right (hpq index)
  unique := h.unique

theorem Extends.trans {collection : String} {p : Index → Prop} {s t u : Store}
    (hst : s.Extends collection p t) (htu : t.Extends collection p u) :
    s.Extends collection p u where
  kept := List.Subset.trans hst.kept htu.kept
  added index hindex := by
    rcases htu.added index hindex with hindex | hp
    · exact hst.added index hindex
    · exact Or.inr hp
  unique h := htu.unique (hst.unique h)

theorem extends_of_contents_eq {collection : String} (p : Index → Prop) {s after : Store}
    (h : after.contents collection = s.contents collection) : s.Extends collection p after where
  kept := by
    rw [indexes, indexes, h]
    exact List.Subset.refl _
  added index hindex := by
    rw [indexes, h] at hindex
    exact Or.inl hindex
  unique hunique := by
    rw [h]
    exact hunique

theorem indexes_answer (s : Store) (collection : String) (r : Request) :
    (answer collection s r).2.indexes collection = s.indexes collection ∨
      ∃ index, r = .createIndex index ∧
        (answer collection s r).2.indexes collection = s.indexes collection ++ [index] := by
  cases r with
  | insert documents =>
      apply Or.inl
      rcases contents_insert s collection documents with h | ⟨_, h⟩ <;>
      · have hindexes := congrArg Contents.indexes h
        exact hindexes
  | update filter set =>
      apply Or.inl
      rcases contents_update s collection filter set with h | ⟨_, _, _, _, h⟩ <;>
      · have hindexes := congrArg Contents.indexes h
        exact hindexes
  | delete filter =>
      apply Or.inl
      rcases contents_delete s collection filter with h | ⟨_, _, _, h⟩ <;>
      · have hindexes := congrArg Contents.indexes h
        exact hindexes
  | createIndex index =>
      rcases contents_createIndex s collection index with h | ⟨_, _, h⟩
      · exact Or.inl (congrArg Contents.indexes h)
      · exact Or.inr ⟨index, rfl, congrArg Contents.indexes h⟩
  | query filter options | stream filter options | aggregate pipeline | count filter =>
      exact Or.inl rfl

theorem extends_answer (s : Store) (collection : String) {r : Request} {p : Index → Prop}
    (hp : ∀ index, r = .createIndex index → p index) :
    s.Extends collection p (answer collection s r).2 where
  kept := by
    rcases indexes_answer s collection r with h | ⟨index, _, h⟩
    · rw [h]
      exact List.Subset.refl _
    · rw [h]
      exact List.subset_append_left _ _
  added := by
    rcases indexes_answer s collection r with h | ⟨index, hr, h⟩
    · rw [h]
      exact fun _ => Or.inl
    · rw [h, List.forall_mem_append, List.forall_mem_singleton]
      exact ⟨fun _ => Or.inl, Or.inr (hp index hr)⟩
  unique h := h.change (change_answer s collection r)

theorem extends_answer_of_ne (s : Store) {collection other : String} (h : collection ≠ other)
    (r : Request) (p : Index → Prop) : s.Extends other p (answer collection s r).2 :=
  extends_of_contents_eq p (contents_answer_of_ne s h r)

theorem exists_name_of_createIndex_eq_ok {s : Store} {collection : String} {index : Index}
    (h : (s.createIndex collection index).1 = .ok ()) :
    ∃ installed ∈ (s.createIndex collection index).2.indexes collection,
      installed.name = index.name := by
  unfold createIndex at h ⊢
  simp only at h ⊢
  split
  · rename_i hany
    rcases List.any_eq_true.mp hany with ⟨installed, hinstalled, hname⟩
    refine ⟨installed, ?_, of_decide_eq_true hname⟩
    rw [indexes, contents_put_self]
    exact hinstalled
  · rename_i hnew
    rw [if_neg hnew] at h
    split
    · rename_i hcheck
      rw [hcheck] at h
      cases h
    · refine ⟨index, ?_, rfl⟩
      rw [indexes, contents_put_self]
      exact List.mem_append_right _ (List.mem_singleton.mpr rfl)

end Store

/-!
# Calls on collections
-/

namespace Collection

open Program

/-- A call adds only the indexes that its collection declares, and only if it installs them. -/
theorem extends_perform (c : Collection) (s : Store) (operation : Operation)
    {p : Index → Prop} (hp : operation = .installIndexes → ∀ index ∈ c.indexes, p index) :
    s.Extends c.identity p (c.perform s operation) := by
  refine perform_invariant_of_requests (s.Extends c.identity p) ?_ (Store.Extends.refl _ _ s)
  intro t r hst hr
  refine hst.trans (Store.extends_answer t c.identity ?_)
  rintro index rfl
  cases hr with
  | reads operation h =>
      cases h
  | installs h =>
      exact hp rfl index h
  | writes h =>
      cases h

theorem extends_perform_of_ne (c : Collection) (s : Store) (operation : Operation)
    {other : String} (h : c.identity ≠ other) (p : Index → Prop) :
    s.Extends other p (c.perform s operation) := by
  refine perform_invariant_of_requests (s.Extends other p) ?_ (Store.Extends.refl _ _ s)
  intro t r hst _
  exact hst.trans (Store.extends_answer_of_ne t h r p)

theorem extends_installAll (collection : String) (indexes : List Index) (s : Store) :
    s.Extends collection (· ∈ indexes)
      (run (Store.answer collection) (installAll indexes) s).2 := by
  refine run_invariant ?_ (sends_installAll indexes) (Store.Extends.refl _ _ s)
  rintro t r hst ⟨index, hindex, rfl⟩
  refine hst.trans (Store.extends_answer t collection ?_)
  rintro other ⟨⟩
  exact hindex

theorem extends_installAll_of_ne {collection other : String} (h : collection ≠ other)
    (indexes : List Index) (s : Store) (p : Index → Prop) :
    s.Extends other p (run (Store.answer collection) (installAll indexes) s).2 := by
  refine run_invariant ?_ (sends_installAll indexes) (Store.Extends.refl _ _ s)
  intro t r hst _
  exact hst.trans (Store.extends_answer_of_ne t h r p)

theorem exists_name_of_run_installAll {collection : String} {indexes : List Index}
    {s after : Store}
    (h : run (Store.answer collection) (installAll indexes) s = (.ok (), after)) :
    ∀ index ∈ indexes, ∃ installed ∈ after.indexes collection, installed.name = index.name := by
  induction indexes generalizing s with
  | nil =>
      intro index hindex
      cases hindex
  | cons first rest ih =>
      rw [installAll, run_call_seq] at h
      split at h
      · rename_i t hfirst
        rw [List.forall_mem_cons]
        refine ⟨?_, ih h⟩
        have hcreated : (s.createIndex collection first).1 = .ok () :=
          congrArg Prod.fst hfirst
        rcases Store.exists_name_of_createIndex_eq_ok hcreated with ⟨installed, hmem, hname⟩
        have hstore : (s.createIndex collection first).2 = t :=
          congrArg Prod.snd hfirst
        have hkept := (extends_installAll collection rest t).kept
        rw [hstore] at hmem
        rw [h] at hkept
        exact ⟨installed, hkept hmem, hname⟩
      · cases h

end Collection

/-!
# Registration
-/

def Definition.indexes (d : Definition) : List Index :=
  (Schema.ofAttributes d.attributes).indexes

theorem Definition.eq_of_keys_eq {d : Definition} (hdistinct : (Keyed.keys d.attributes).Nodup)
    {a b : Index} (ha : a ∈ d.indexes) (hb : b ∈ d.indexes) (h : a.keys = b.keys) : a = b := by
  have hnames : (Keyed.keys (Schema.ofAttributes d.attributes).attributes).Nodup := by
    rw [Schema.ofAttributes, Keyed.keys, List.map_map]
    exact hdistinct
  rcases List.mem_filterMap.mp ha with ⟨⟨f, u⟩, hf, ha⟩
  rcases List.mem_filterMap.mp hb with ⟨⟨g, v⟩, hg, hb⟩
  have hfield : f = g := by
    rcases Index.eq_single_of_ofAttribute? ha with ⟨_, rfl⟩
    rcases Index.eq_single_of_ofAttribute? hb with ⟨_, rfl⟩
    cases h
    rfl
  subst hfield
  have hattribute : some u = some v :=
    (Keyed.get?_of_mem hnames hf).symm.trans (Keyed.get?_of_mem hnames hg)
  cases hattribute
  exact Option.some.inj (ha.symm.trans hb)

namespace Registry

/-- What is done with a registry and its store. -/
inductive Step : Type 1 where
  | register (d : Definition)
  | drop (identity : String)
  | call (c : Collection) (operation : Collection.Operation)

def after (state : Registry × Store) : Step → Registry × Store
  | .register d => (register Store.backend state.1 d state.2).2
  | .drop identity => (drop Store.backend state.1 identity state.2).2
  | .call c operation => (state.1, c.perform state.2 operation)

def runAll (state : Registry × Store) (steps : List Step) : Registry × Store :=
  steps.foldl after state

/-- A step asks for an index of a collection. -/
inductive Step.Declares (identity : String) (index : Index) : Step → Prop where
  | register {d : Definition} (hname : d.storageName = identity) (h : index ∈ d.indexes) :
      Declares identity index (.register d)
  | installIndexes {c : Collection} (hname : c.identity = identity) (h : index ∈ c.indexes) :
      Declares identity index (.call c .installIndexes)

theorem register_store (r : Registry) (d : Definition) (s : Store) :
    (register Store.backend r d s).2.2 = s ∨
      (register Store.backend r d s).2.2 =
        ((Collection.installAll d.indexes).run (Store.answer d.storageName) s).2 := by
  have hinstall : ((r.install (Collection.ofDefinition d r.settings)).run
        (Store.answer d.storageName) s).2 = s ∨
      ((r.install (Collection.ofDefinition d r.settings)).run (Store.answer d.storageName) s).2 =
        ((Collection.installAll d.indexes).run (Store.answer d.storageName) s).2 := by
    unfold install
    split
    · exact Or.inr rfl
    · exact Or.inl rfl
  unfold register
  simp only
  split
  · exact Or.inl rfl
  · split <;>
    · rename_i hrun
      have hstore := congrArg Prod.snd hrun
      rw [← hstore]
      exact hinstall

theorem exists_name_of_register_eq_ok {r : Registry} (hinstall : r.settings.installIndexes = true)
    {d : Definition} {s : Store} {c : Collection}
    (h : (register Store.backend r d s).1 = .ok c) :
    ∀ index ∈ d.indexes, ∃ installed ∈
      (register Store.backend r d s).2.2.indexes d.storageName, installed.name = index.name := by
  unfold register at h ⊢
  simp only at h ⊢
  split
  · rename_i hempty
    rw [if_pos hempty] at h
    cases h
  · rename_i hnonempty
    rw [if_neg hnonempty] at h
    split
    · rename_i hrun
      rw [hrun] at h
      cases h
    · rename_i hrun
      rw [install, if_pos hinstall] at hrun
      exact Collection.exists_name_of_run_installAll hrun

theorem settings_after (state : Registry × Store) (step : Step) :
    (after state step).1.settings = state.1.settings := by
  cases step with
  | register d =>
      simp only [after, register]
      split
      · rfl
      · split <;> rfl
  | drop identity =>
      rfl
  | call c operation =>
      rfl

theorem settings_runAll (state : Registry × Store) (steps : List Step) :
    (runAll state steps).1.settings = state.1.settings := by
  induction steps generalizing state with
  | nil =>
      rfl
  | cons step rest ih =>
      exact (ih (after state step)).trans (settings_after state step)

/-!
# Steps
-/

theorem extends_register (state : Registry × Store) (d : Definition) :
    state.2.Extends d.storageName (· ∈ d.indexes) (after state (.register d)).2 := by
  change state.2.Extends d.storageName _ (register Store.backend state.1 d state.2).2.2
  rcases register_store state.1 d state.2 with hstore | hstore
  · rw [hstore]
    exact Store.Extends.refl _ _ _
  · rw [hstore]
    exact Collection.extends_installAll d.storageName d.indexes state.2

theorem extends_register_of_ne (state : Registry × Store) {d : Definition} {other : String}
    (h : d.storageName ≠ other) (p : Index → Prop) :
    state.2.Extends other p (after state (.register d)).2 := by
  change state.2.Extends other p (register Store.backend state.1 d state.2).2.2
  rcases register_store state.1 d state.2 with hstore | hstore
  · rw [hstore]
    exact Store.Extends.refl _ _ _
  · rw [hstore]
    exact Collection.extends_installAll_of_ne h d.indexes state.2 p

/-- Short of dropping the collection, a step keeps its indexes and adds what it declares. -/
theorem extends_after (state : Registry × Store) {step : Step} {identity : String}
    (hdrop : step ≠ .drop identity) :
    state.2.Extends identity (fun index => step.Declares identity index)
      (after state step).2 := by
  cases step with
  | register d =>
      by_cases hname : d.storageName = identity
      · subst hname
        exact (extends_register state d).mono fun _ => Step.Declares.register rfl
      · exact extends_register_of_ne state hname _
  | drop other =>
      have hname : other ≠ identity := by
        rintro rfl
        exact hdrop rfl
      exact Store.extends_of_contents_eq _ (Store.contents_drop_of_ne state.2 hname)
  | call c operation =>
      by_cases hname : c.identity = identity
      · subst hname
        refine Collection.extends_perform c state.2 operation ?_
        rintro rfl index hindex
        exact Step.Declares.installIndexes rfl hindex
      · exact Collection.extends_perform_of_ne c state.2 operation hname _

theorem extends_runAll (state : Registry × Store) {steps : List Step} {identity : String}
    (hdrop : ∀ step ∈ steps, step ≠ .drop identity) :
    state.2.Extends identity (fun _ => True) (runAll state steps).2 := by
  induction steps generalizing state with
  | nil =>
      exact Store.Extends.refl _ _ _
  | cons step rest ih =>
      rw [List.forall_mem_cons] at hdrop
      have hstep := (extends_after state hdrop.1).mono fun _ _ => trivial
      exact hstep.trans (ih (after state step) hdrop.2)

/-- All indexes of a collection have been declared since it was last dropped, and its documents
differ as the unique ones ask. -/
structure Installed (identity : String) (past : List Step) (s : Store) : Prop where
  declared : ∀ index ∈ s.indexes identity,
    Since (· = .drop identity) (Step.Declares identity index) past
  unique : (s.contents identity).Unique

theorem installed_empty (identity : String) (serial : Nat) : Installed identity [] ⟨[], serial⟩ where
  declared _ hindex := absurd hindex List.not_mem_nil
  unique := Contents.unique_empty

theorem Installed.step {identity : String} {past : List Step} (state : Registry × Store)
    (h : Installed identity past state.2) (step : Step) :
    Installed identity (past ++ [step]) (after state step).2 := by
  by_cases hdrop : step = .drop identity
  · subst hdrop
    have hcontents : (after state (.drop identity)).2.contents identity = {} :=
      Store.contents_drop_self state.2 identity
    constructor
    · intro index hindex
      rw [Store.indexes, hcontents] at hindex
      cases hindex
    · rw [hcontents]
      exact Contents.unique_empty
  · have hextends := extends_after state hdrop
    constructor
    · intro index hindex
      rw [since_concat_iff]
      rcases hextends.added index hindex with hindex | hdeclares
      · exact Or.inr ⟨h.declared index hindex, hdrop⟩
      · exact Or.inl hdeclares
    · exact hextends.unique h.unique

theorem Installed.steps {identity : String} {past : List Step} (state : Registry × Store)
    (h : Installed identity past state.2) (steps : List Step) :
    Installed identity (past ++ steps) (runAll state steps).2 := by
  induction steps generalizing state past with
  | nil =>
      rw [List.append_nil]
      exact h
  | cons step rest ih =>
      have hrest := ih (after state step) (h.step state step)
      rw [List.append_assoc, List.singleton_append] at hrest
      exact hrest

theorem installed_runAll (identity : String) (settings : Settings) (serial : Nat)
    (steps : List Step) :
    Installed identity steps (runAll (⟨settings, []⟩, ⟨[], serial⟩) steps).2 := by
  have hsteps := Installed.steps (⟨settings, []⟩, ⟨[], serial⟩)
    (installed_empty identity serial) steps
  exact hsteps

theorem onField_of_declares {identity : String} {index : Index} {step : Step}
    (h : step.Declares identity index) : index.OnField := by
  cases h with
  | register hname h =>
      exact Index.onField_of_mem_indexes h
  | installIndexes hname h =>
      exact Index.onField_of_mem_indexes h

theorem Installed.onField {identity : String} {past : List Step} {s : Store}
    (h : Installed identity past s) {index : Index} (hindex : index ∈ s.indexes identity) :
    index.OnField := by
  rcases h.declared index hindex with ⟨_, step, _, _, hdeclares, _⟩
  exact onField_of_declares hdeclares

/-!
# Registered collections
-/

/-- A registration that succeeds installs what the definition declares, where the indexes that are
there do not differ from it in uniqueness. -/
theorem mem_indexes_after_register {past : List Step} {state : Registry × Store} {d : Definition}
    (h : Installed d.storageName past state.2)
    (hinstall : state.1.settings.installIndexes = true)
    (hdistinct : (Keyed.keys d.attributes).Nodup) {c : Collection}
    (hok : (register Store.backend state.1 d state.2).1 = .ok c) {index : Index}
    (hindex : index ∈ d.indexes)
    (hagrees : ∀ installed ∈ state.2.indexes d.storageName, installed.keys = index.keys →
      installed.unique = index.unique) :
    index ∈ (after state (.register d)).2.indexes d.storageName := by
  have hfield : index.OnField := Index.onField_of_mem_indexes hindex
  rcases exists_name_of_register_eq_ok hinstall hok index hindex with
    ⟨installed, hinstalled, hname⟩
  have hkeys : installed.keys = index.keys :=
    Index.keys_eq_of_name_eq ((h.step state (.register d)).onField hinstalled) hfield hname
  have heq : installed = index := by
    rcases (extends_register state d).added installed hinstalled with hold | hnew
    · exact Index.eq_of_keys_eq (h.onField hold) hfield hkeys (hagrees installed hold hkeys)
    · exact Definition.eq_of_keys_eq hdistinct hnew hindex hkeys
  rw [← heq]
  exact hinstalled

/-- What a registration that succeeds declares is installed, unless the attribute has an index
already that differs in uniqueness; such an index was declared since the collection was last
dropped, and is kept.  Until the next drop no two documents agree in a unique attribute. -/
theorem indexes_of_register (settings : Settings) (hinstall : settings.installIndexes = true)
    (serial : Nat) (steps : List Step) (d : Definition)
    (hdistinct : (Keyed.keys d.attributes).Nodup) (c : Collection) :
    let before := runAll (⟨settings, []⟩, ⟨[], serial⟩) steps
    (register Store.backend before.1 d before.2).1 = .ok c →
      ∀ later : List Step, (∀ step ∈ later, step ≠ .drop d.storageName) →
        let s := (runAll before (.register d :: later)).2
        (∀ installed ∈ before.2.indexes d.storageName,
          Since (· = .drop d.storageName) (Step.Declares d.storageName installed) steps ∧
            installed ∈ s.indexes d.storageName) ∧
        (∀ index ∈ d.indexes,
          (index ∈ s.indexes d.storageName ↔
            ∀ installed ∈ before.2.indexes d.storageName, installed.keys = index.keys →
              installed.unique = index.unique) ∧
          (index ∈ s.indexes d.storageName → index.unique = true →
            (s.documents d.storageName).Pairwise (Differ index))) ∧
        (s.documents d.storageName).Pairwise fun a b => idKey a ≠ idKey b := by
  intro before hok later hlater s
  have hbefore : Installed d.storageName steps before.2 :=
    installed_runAll d.storageName settings serial steps
  have hs : Installed d.storageName (steps ++ .register d :: later) s :=
    hbefore.steps before (.register d :: later)
  have hlasting : (after before (.register d)).2.indexes d.storageName ⊆
      s.indexes d.storageName :=
    (extends_runAll (after before (.register d)) hlater).kept
  have hkept : before.2.indexes d.storageName ⊆ s.indexes d.storageName :=
    List.Subset.trans (extends_register before d).kept hlasting
  refine ⟨?_, ?_, hs.unique.ids⟩
  · intro installed hinstalled
    exact ⟨hbefore.declared installed hinstalled, hkept hinstalled⟩
  · intro index hindex
    refine ⟨⟨?_, ?_⟩, hs.unique.indexed index⟩
    · intro hmem installed hinstalled hkeys
      rw [hs.unique.eq_of_keys_eq (hkept hinstalled) hmem hkeys]
    · intro hagrees
      have hsettings : before.1.settings.installIndexes = true := by
        rw [settings_runAll]
        exact hinstall
      exact hlasting
        (mem_indexes_after_register hbefore hsettings hdistinct hok hindex hagrees)

def namedPets : Definition :=
  ⟨"Pet", some "pets", [("name", { indexed := true })]⟩

def uniquePets : Definition :=
  ⟨"Pet", some "pets", [("name", { unique := true })]⟩

/-- Once the pets are dropped, their names may become unique. -/
theorem indexes_of_register_uniquePets :
    let before := runAll (⟨{}, []⟩, ⟨[], 0⟩) [.register namedPets, .drop "pets"]
    let pets := Collection.ofDefinition uniquePets {}
    let s := (runAll before [.register uniquePets, .call pets .installIndexes]).2
    (register Store.backend before.1 uniquePets before.2).1 = .ok pets ∧
      Index.single "name" true true ∈ s.indexes "pets" := by
  intro before pets s
  have hok : (register Store.backend before.1 uniquePets before.2).1 = .ok pets := by
    rfl
  have hnone : before.2.indexes "pets" = [] := by
    decide +kernel
  refine ⟨hok, ?_⟩
  have hlater : ∀ step ∈ [Step.call pets .installIndexes],
      step ≠ .drop uniquePets.storageName := by
    rw [List.forall_mem_singleton]
    nofun
  have hindex := (indexes_of_register {} rfl 0 [.register namedPets, .drop "pets"] uniquePets
    (List.nodup_singleton _) pets hok _ hlater).2.1 (.single "name" true true)
      (List.mem_singleton.mpr rfl)
  refine hindex.1.mpr ?_
  intro installed hinstalled
  have hmem : installed ∈ before.2.indexes "pets" := hinstalled
  rw [hnone] at hmem
  cases hmem

/-- Otherwise their names keep the index that they have. -/
theorem namedPets_kept :
    ¬ ∀ (serial : Nat) (steps : List Step) (d : Definition) (c : Collection),
      (register Store.backend (runAll (⟨{}, []⟩, ⟨[], serial⟩) steps).1 d
          (runAll (⟨{}, []⟩, ⟨[], serial⟩) steps).2).1 = .ok c →
        ∀ index ∈ d.indexes,
          index ∈ (runAll (⟨{}, []⟩, ⟨[], serial⟩) (steps ++ [.register d])).2.indexes
            d.storageName := by
  intro h
  have hindex := h 0 [.register namedPets] uniquePets (Collection.ofDefinition uniquePets {}) rfl
    (.single "name" true true) (List.mem_singleton.mpr rfl)
  have hkept : (runAll (⟨{}, []⟩, ⟨[], 0⟩)
      [.register namedPets, .register uniquePets]).2.indexes uniquePets.storageName =
        [.single "name" false true] := by
    decide +kernel
  have hmem : Index.single "name" true true ∈ [Index.single "name" false true] := by
    rw [← hkept]
    exact hindex
  revert hmem
  decide

end Registry
end DocQuery
