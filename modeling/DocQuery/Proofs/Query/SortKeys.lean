import DocQuery.Proofs.Store.Sorting
import DocQuery.Proofs.Text.Words
import DocQuery.Query.Compile

/-!
# The order of sort keys

Sort keys reach the store as a document, in which a field stands once: at the place of
its first key, with the direction of its last.  Where the keys of a field agree this is
the order of the list, in which the first key whose values differ decides.  Where two do
not, some documents come out the other way round.
-/

namespace DocQuery

/-!
# Paths

A document can hold a number in such a way that it differs from another one of this kind
on one path only.
-/

theorem pathSteps_injective {path other : String} (h : pathSteps path = pathSteps other) :
    path = other := by
  have hparts : Text.splitAt '.' path.toList = Text.splitAt '.' other.toList :=
    List.map_injective_iff.mpr (fun _ _ => String.ofList_inj.mp) h
  rcases Text.splitAt_eq_iff.mp hparts with ⟨_, _, hpath⟩
  rcases Text.splitAt_eq_iff.mp (Eq.refl (Text.splitAt '.' other.toList)) with ⟨_, _, hother⟩
  exact String.toList_inj.mp (hpath.symm.trans hother)

theorem pathSteps_ne_nil (path : String) : pathSteps path ≠ [] :=
  List.cons_ne_nil _ _

namespace Document

/-- A document with nothing but a number at the end of a path. -/
def holding (n : Int32) : List String → Document
  | [] => []
  | [last] => [(last, .int32 n)]
  | step :: rest => [(step, .document (holding n rest))]

theorem follow?_holding (n : Int32) {steps : List String} (hsteps : steps ≠ []) :
    follow? (holding n steps) steps = some (.int32 n) := by
  induction steps with
  | nil =>
      exact absurd rfl hsteps
  | cons step rest ih =>
      cases rest with
      | nil =>
          simp [holding, follow?, Keyed.get?]
      | cons next rest =>
          simp [holding, follow?, Keyed.get?, ih]

theorem follow?_singleton_of_ne {step other : String} (hne : step ≠ other) (v : Value)
    (rest : List String) : follow? [(step, v)] (other :: rest) = none := by
  cases rest <;> simp [follow?, Keyed.get?, hne]

/-- Before the end of its path there are documents, which are level, and beside it is nothing. -/
theorem order_follow?_holding (m n : Int32) {steps others : List String} (hne : others ≠ steps) :
    Value.order (follow? (holding m steps) others) (follow? (holding n steps) others) = .eq := by
  cases others with
  | nil =>
      rfl
  | cons other others =>
      induction steps generalizing other others with
      | nil =>
          cases others <;> rfl
      | cons step rest ih =>
          by_cases hstep : step = other
          · subst hstep
            cases rest with
            | nil =>
                cases others with
                | nil =>
                    exact absurd rfl hne
                | cons _ _ =>
                    simp [holding, follow?, Keyed.get?, Value.order_self]
            | cons next rest =>
                cases others with
                | nil =>
                    simp only [holding, follow?, Keyed.get?, if_true]
                    rfl
                | cons after others =>
                    have hrest : after :: others ≠ next :: rest :=
                      fun h => hne (congrArg (step :: ·) h)
                    simpa [holding, follow?, Keyed.get?] using ih after others hrest
          · have hnone (k : Int32) :
                follow? (holding k (step :: rest)) (other :: others) = none := by
              cases rest <;> exact follow?_singleton_of_ne hstep _ others
            rw [hnone, hnone]
            rfl

end Document

/-!
# Deciding fields
-/

namespace Sorting

def differs (a b : Document) (path : String) : Bool :=
  Value.order (a.lookup? path) (b.lookup? path) ≠ .eq

theorem order_eq_find? (a b keys : Document) :
    order a b keys = ((Keyed.keys keys).find? (differs a b)).elim .eq fun path =>
      keyOrder a b (path, (Keyed.get? keys path).getD .null) := by
  induction keys with
  | nil =>
      rfl
  | cons key rest ih =>
      rcases key with ⟨path, direction⟩
      have hkeys : Keyed.keys ((path, direction) :: rest) = path :: Keyed.keys rest := rfl
      rw [order_cons, hkeys, List.find?_cons]
      cases hdiffers : differs a b path with
      | true =>
          have hne : keyOrder a b (path, direction) ≠ .eq :=
            fun heq => of_decide_eq_true hdiffers (directed_eq_eq.mp heq)
          simp only [Option.elim_some, Keyed.get?, if_true, Option.getD_some]
          cases hkey : keyOrder a b (path, direction) with
          | eq =>
              exact absurd hkey hne
          | _ =>
              rfl
      | false =>
          have hlevel : keyOrder a b (path, direction) = .eq :=
            directed_eq_eq.mpr (Decidable.not_not.mp (of_decide_eq_false hdiffers))
          rw [hlevel, Ordering.eq_then, ih]
          cases hfound : (Keyed.keys rest).find? (differs a b) with
          | none =>
              rfl
          | some other =>
              have hne : path ≠ other := by
                rintro rfl
                exact absurd (List.find?_some hfound) (Bool.eq_false_iff.mp hdiffers)
              simp [Keyed.get?, hne]

theorem order_congr {keys others : Document} (a b : Document)
    (hpaths : ∀ p, (Keyed.keys keys).find? p = (Keyed.keys others).find? p)
    (hdirections : ∀ path ∈ Keyed.keys others, Keyed.get? keys path = Keyed.get? others path) :
    order a b keys = order a b others := by
  rw [order_eq_find?, order_eq_find?, hpaths]
  cases hfound : (Keyed.keys others).find? (differs a b) with
  | none =>
      rfl
  | some path =>
      rw [Option.elim_some, Option.elim_some, hdirections path (List.mem_of_find?_eq_some hfound)]

end Sorting

/-!
# Sort keys
-/

def Direction.directed : Direction → Ordering → Ordering
  | ascending, o => o
  | descending, o => o.swap

theorem Direction.directed_sign (d : Direction) (o : Ordering) :
    Sorting.directed (.int32 d.sign) o = d.directed o := by
  cases d <;> rfl

namespace SortKey

def order (a b : Document) (key : SortKey) : Ordering :=
  key.direction.directed
    (Value.order (a.lookup? (storedName key.field)) (b.lookup? (storedName key.field)))

/-- The first key whose values differ decides, with its own direction. -/
def lexicographic (a b : Document) : List SortKey → Ordering
  | [] => .eq
  | key :: rest => (order a b key).then (lexicographic a b rest)

/-- The direction of the first key that has a stored field. -/
def direction? (keys : List SortKey) (name : String) : Option Direction :=
  (keys.find? fun key => storedName key.field = name).map SortKey.direction

/-- A key with the direction of the last key that has its stored field. -/
def settled (keys : List SortKey) (key : SortKey) : SortKey :=
  { key with direction := (direction? keys.reverse (storedName key.field)).getD key.direction }

def entry (key : SortKey) : String × Value :=
  (storedName key.field, .int32 key.direction.sign)

theorem lexicographic_eq (a b : Document) (keys : List SortKey) :
    lexicographic a b keys = Sorting.order a b (keys.map entry) := by
  induction keys with
  | nil =>
      rfl
  | cons key rest ih =>
      rw [lexicographic, List.map_cons, Sorting.order_cons, ih, order, ← Direction.directed_sign]
      rfl

theorem keys_map_entry (keys : List SortKey) :
    Keyed.keys (keys.map entry) = keys.map fun key => storedName key.field :=
  List.map_map

theorem get?_map_entry (keys : List SortKey) (name : String) :
    Keyed.get? (keys.map entry) name = (direction? keys name).map fun d => .int32 d.sign := by
  induction keys with
  | nil =>
      rfl
  | cons key rest ih =>
      by_cases hname : storedName key.field = name
      · simp [direction?, entry, Keyed.get?, hname]
      · simpa [direction?, entry, Keyed.get?, hname] using ih

theorem getD_sortDocument?_options (criteria : Criteria) :
    (Compiler.options criteria).sortDocument?.getD [] = Keyed.ofList (criteria.sort.map entry) := by
  unfold FetchOptions.sortDocument? Compiler.options
  cases criteria.sort with
  | nil =>
      rfl
  | cons key rest =>
      rw [List.map_cons, List.isEmpty_cons, if_neg Bool.false_ne_true, Option.getD_some,
        ← List.map_cons, List.map_map]
      rfl

theorem isSome_direction?_reverse (keys : List SortKey) (name : String) :
    (direction? keys.reverse name).isSome = (direction? keys name).isSome := by
  rw [direction?, direction?, Option.isSome_map, Option.isSome_map, Bool.eq_iff_iff,
    List.find?_isSome, List.find?_isSome]
  simp only [List.mem_reverse]

theorem direction?_settled (keys : List SortKey) (name : String) :
    direction? (keys.map (settled keys)) name = direction? keys.reverse name := by
  have hsome := isSome_direction?_reverse keys name
  have hsame : ((fun key => decide (storedName key.field = name)) ∘ settled keys) =
      fun key => decide (storedName key.field = name) := rfl
  have hread : direction? keys name =
      (keys.find? fun key => storedName key.field = name).map SortKey.direction := rfl
  cases hfound : keys.find? fun key => storedName key.field = name with
  | none =>
      rw [hread, hfound] at hsome
      rw [direction?, List.find?_map, hsame, hfound]
      exact (Option.isNone_iff_eq_none.mp (Option.isSome_eq_false_iff.mp hsome)).symm
  | some key =>
      have hkey : storedName key.field = name := by
        simpa using List.find?_some hfound
      rw [hread, hfound] at hsome
      rcases Option.isSome_iff_exists.mp hsome with ⟨d, hd⟩
      rw [direction?, List.find?_map, hsame, hfound, hd]
      simp [settled, hkey, hd]

/-- The sort document compares as the list does once the keys of a field agree with the last. -/
theorem order_ofList_map_entry (a b : Document) (keys : List SortKey) :
    Sorting.order a b (Keyed.ofList (keys.map entry)) =
      lexicographic a b (keys.map (settled keys)) := by
  rw [lexicographic_eq]
  have hpaths : Keyed.keys ((keys.map (settled keys)).map entry) = Keyed.keys (keys.map entry) := by
    rw [keys_map_entry, keys_map_entry, List.map_map]
    rfl
  apply Sorting.order_congr
  · intro p
    rw [Keyed.find?_keys_ofList, hpaths]
  · intro path _
    rw [Keyed.get?_ofList, ← List.map_reverse, get?_map_entry, get?_map_entry, direction?_settled]

/-!
# Fields that turn

Documents that differ on one path only show which direction is written for it.
-/

theorem differs_holding {path name : String} :
    Sorting.differs (Document.holding 1 (pathSteps name)) (Document.holding 2 (pathSteps name))
      path = decide (path = name) := by
  by_cases hpath : path = name
  · subst hpath
    have hone := Document.follow?_holding 1 (pathSteps_ne_nil path)
    have htwo := Document.follow?_holding 2 (pathSteps_ne_nil path)
    rw [Sorting.differs, Document.lookup?, Document.lookup?, hone, htwo]
    simp only [decide_true]
    decide
  · have hsteps : pathSteps path ≠ pathSteps name := fun h => hpath (pathSteps_injective h)
    have hlevel := Document.order_follow?_holding 1 2 hsteps
    rw [Sorting.differs, Document.lookup?, Document.lookup?, hlevel, decide_eq_false hpath]
    rfl

theorem order_holding {keys : Document} {name : String} {direction : Value}
    (h : Keyed.get? keys name = some direction) :
    Sorting.order (Document.holding 1 (pathSteps name)) (Document.holding 2 (pathSteps name)) keys =
      Sorting.directed direction .lt := by
  have hone := Document.follow?_holding 1 (pathSteps_ne_nil name)
  have htwo := Document.follow?_holding 2 (pathSteps_ne_nil name)
  have hless : Value.order (some (.int32 1)) (some (.int32 2)) = .lt := by
    decide
  rw [Sorting.order_eq_find?]
  cases hfound : (Keyed.keys keys).find? (Sorting.differs (Document.holding 1 (pathSteps name))
      (Document.holding 2 (pathSteps name))) with
  | none =>
      have hname : name ∈ Keyed.keys keys :=
        List.mem_map_of_mem (Keyed.mem_of_get? h)
      have hlevel := List.find?_eq_none.mp hfound name hname
      simp [differs_holding] at hlevel
  | some path =>
      have hpath := List.find?_some hfound
      rw [differs_holding, decide_eq_true_eq] at hpath
      subst hpath
      rw [Option.elim_some, h, Sorting.keyOrder, Document.lookup?, Document.lookup?, hone, htwo,
        hless, Option.getD_some]

theorem direction?_eq_of_order {keys : List SortKey}
    (h : ∀ a b, Sorting.order a b (Keyed.ofList (keys.map entry)) = lexicographic a b keys)
    (name : String) : direction? keys name = direction? keys.reverse name := by
  have hsome := isSome_direction?_reverse keys name
  cases hfirst : direction? keys name with
  | none =>
      rw [hfirst] at hsome
      exact (Option.isNone_iff_eq_none.mp (Option.isSome_eq_false_iff.mp hsome)).symm
  | some first =>
      rw [hfirst] at hsome
      rcases Option.isSome_iff_exists.mp hsome with ⟨last, hlast⟩
      have hread := get?_map_entry keys name
      have hwritten := get?_map_entry keys.reverse name
      rw [hfirst] at hread
      rw [hlast, List.map_reverse, ← Keyed.get?_ofList] at hwritten
      have heq := h (Document.holding 1 (pathSteps name)) (Document.holding 2 (pathSteps name))
      rw [lexicographic_eq, order_holding hread, order_holding hwritten, Direction.directed_sign,
        Direction.directed_sign] at heq
      rw [hlast]
      cases first <;> cases last <;> first | rfl | cases heq

/-- Documents are compared by the sort document as by the list of keys in which the keys of each
stored field have the direction of the last of them.  It is the list itself that decides,
key by key, exactly when for every field the first and the last direction are one. -/
theorem order_options (criteria : Criteria) :
    (∀ a b, Sorting.order a b ((Compiler.options criteria).sortDocument?.getD []) =
      lexicographic a b (criteria.sort.map (settled criteria.sort))) ∧
    ((∀ a b, Sorting.order a b ((Compiler.options criteria).sortDocument?.getD []) =
        lexicographic a b criteria.sort) ↔
      ∀ name, direction? criteria.sort name = direction? criteria.sort.reverse name) := by
  rw [getD_sortDocument?_options]
  refine ⟨fun a b => order_ofList_map_entry a b criteria.sort, direction?_eq_of_order, ?_⟩
  intro hname a b
  rw [lexicographic_eq]
  apply Sorting.order_congr
  · exact Keyed.find?_keys_ofList _
  · intro path _
    rw [Keyed.get?_ofList, ← List.map_reverse, get?_map_entry, get?_map_entry, hname]

/-- A field that is to run up and then down runs down. -/
theorem order_options_turned :
    ¬ ∀ (criteria : Criteria) (a b : Document),
      Sorting.order a b ((Compiler.options criteria).sortDocument?.getD []) =
        lexicographic a b criteria.sort := by
  intro h
  have hturned := h { sort := [⟨"k", .ascending⟩, ⟨"k", .descending⟩] } [("k", .int32 1)]
    [("k", .int32 2)]
  revert hturned
  decide +kernel

end SortKey
end DocQuery
