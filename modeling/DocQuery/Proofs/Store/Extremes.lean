import DocQuery.Proofs.Value.Order
import DocQuery.Store.Aggregation
import Mathlib.Data.List.ReduceOption

/-!
# Least and greatest values

A tally of least values keeps one candidate, which only a value strictly below it
takes the place of.  The order is no preorder, as what is not a number is level
with every number.  Still the candidate bounds all values that came before it,
because a strict step carries over what is not a number too.
-/

namespace DocQuery
namespace Aggregation
namespace Tally

/-- The values that are neither missing nor null. -/
def given (values : List (Option Value)) : List Value :=
  values.reduceOption.filter (· ≠ .null)

/-- A result for some values: null when there are none, and otherwise one of them that lies
beyond none of them. -/
structure IsExtreme (beyond : Ordering) (values : List Value) (m : Value) : Prop where
  absent : values = [] → m = .null
  mem : values ≠ [] → m ∈ values
  bound : ∀ v ∈ values, Value.order (some m) (some v) ≠ beyond

/-!
# Candidates
-/

/-- A candidate is one of the values seen, and none of them comes strictly before it, in the
order from the wanted end. -/
def Candidate (wanted : Ordering) (seen : List Value) : Option Value → Prop
  | none => seen = []
  | some m => m ∈ seen ∧ ∀ v ∈ seen, Value.order (some m) (some v) ≠ wanted.swap

/-- What comes strictly before a value comes before all that this one is not behind of, also
when this one is not a number. -/
theorem order_ne_swap_trans {wanted : Ordering} (hwanted : wanted ≠ .eq) {a b c : Option Value}
    (hab : Value.order a b = wanted) (hbc : Value.order b c ≠ wanted.swap) :
    Value.order a c ≠ wanted.swap := by
  cases wanted with
  | eq =>
      exact absurd rfl hwanted
  | lt =>
      have hle : (Value.order a b).isLE = true := by
        rw [hab]
        rfl
      exact Ordering.isLE_iff_ne_gt.mp
        (Value.isLE_order_trans_of_lt hle (Ordering.isLE_iff_ne_gt.mpr hbc) (Or.inl hab))
  | gt =>
      -- Read from the other end: `c` is at most `b`, which is strictly below `a`.
      rw [Value.order_swap b a, Ordering.swap_eq_gt] at hab
      rw [Value.order_swap c b] at hbc
      rw [Value.order_swap c a]
      have hle : (Value.order b a).isLE = true := by
        rw [hab]
        rfl
      have hcb : (Value.order c b).isLE = true := by
        cases h : Value.order c b <;> simp_all
      have hca := Value.isLE_order_trans_of_lt hcb hle (Or.inr hab)
      cases h : Value.order c a <;> simp_all

theorem better_none {v : Value} (h : v ≠ .null) (wanted : Ordering) :
    better wanted none v = some v := by
  cases v <;> first | rfl | exact absurd rfl h

theorem better_some {v : Value} (h : v ≠ .null) (wanted : Ordering) (best : Value) :
    better wanted (some best) v =
      if Value.order (some v) (some best) = wanted then some v else some best := by
  cases v <;> first | rfl | exact absurd rfl h

theorem candidate_better {wanted : Ordering} (hwanted : wanted ≠ .eq) {seen : List Value}
    {found : Option Value} (h : Candidate wanted seen found) {v : Value} (hv : v ≠ .null) :
    Candidate wanted (seen ++ [v]) (better wanted found v) := by
  have hself : Value.order (some v) (some v) ≠ wanted.swap := by
    rw [Value.order_self]
    cases wanted <;> simp_all
  cases found with
  | none =>
      cases h
      rw [better_none hv]
      exact ⟨List.mem_singleton_self v, List.forall_mem_singleton.mpr hself⟩
  | some best =>
      rcases h with ⟨hmem, hbound⟩
      rw [better_some hv]
      split
      · rename_i hbefore
        refine ⟨List.mem_append_right _ (List.mem_singleton_self v), ?_⟩
        rw [List.forall_mem_append, List.forall_mem_singleton]
        exact ⟨fun w hw => order_ne_swap_trans hwanted hbefore (hbound w hw), hself⟩
      · rename_i hbehind
        refine ⟨List.mem_append_left _ hmem, ?_⟩
        rw [List.forall_mem_append, List.forall_mem_singleton]
        refine ⟨hbound, ?_⟩
        rw [Value.order_swap (some v) (some best)]
        exact fun hswap => hbehind (Ordering.swap_inj.mp hswap)

theorem candidate_foldl {wanted : Ordering} (hwanted : wanted ≠ .eq) {seen values : List Value}
    {found : Option Value} (h : Candidate wanted seen found)
    (hvalues : ∀ v ∈ values, v ≠ .null) :
    Candidate wanted (seen ++ values) (values.foldl (better wanted) found) := by
  induction values generalizing seen found with
  | nil =>
      rwa [List.append_nil]
  | cons v values ih =>
      rw [List.forall_mem_cons] at hvalues
      have hrest := ih (candidate_better hwanted h hvalues.1) hvalues.2
      rwa [List.append_assoc] at hrest

theorem isExtreme_of_candidate {wanted : Ordering} {values : List Value} {found : Option Value}
    (h : Candidate wanted values found) : IsExtreme wanted.swap values (found.getD .null) := by
  cases found with
  | none =>
      cases h
      exact ⟨fun _ => rfl, fun hne => absurd rfl hne, fun _ hv => absurd hv List.not_mem_nil⟩
  | some m =>
      rcases h with ⟨hmem, hbound⟩
      exact ⟨fun hnil => absurd (hnil ▸ hmem) List.not_mem_nil, fun _ => hmem, hbound⟩

/-!
# Tallies
-/

theorem mem_given_ne_null {values : List (Option Value)} :
    ∀ v ∈ given values, v ≠ .null := by
  intro v hv
  exact of_decide_eq_true (List.mem_filter.mp hv).2

theorem given_some_cons {v : Value} (h : v ≠ .null) (values : List (Option Value)) :
    given (some v :: values) = v :: given values := by
  have hkept : decide (v ≠ .null) = true := decide_eq_true h
  rw [given, List.reduceOption_cons_of_some, List.filter_cons, if_pos hkept]
  rfl

/-- A tally that keeps a candidate keeps the one of the values given; what is missing and nulls
change nothing. -/
theorem foldl_add {wanted : Ordering} (tally : Option Value → Tally)
    (hadd : ∀ found v, (tally found).add (some v) = tally (better wanted found v))
    (values : List (Option Value)) (found : Option Value) :
    values.foldl add (tally found) = tally ((given values).foldl (better wanted) found) := by
  induction values generalizing found with
  | nil =>
      rfl
  | cons value values ih =>
      rw [List.foldl_cons]
      cases value with
      | none =>
          exact ih found
      | some v =>
          rw [hadd, ih]
          by_cases hv : v = .null
          · subst hv
            rfl
          · rw [given_some_cons hv, List.foldl_cons]

theorem isExtreme_foldl_better {wanted : Ordering} (hwanted : wanted ≠ .eq)
    (values : List (Option Value)) :
    IsExtreme wanted.swap (given values)
      (((given values).foldl (better wanted) none).getD .null) := by
  have hstart : Candidate wanted [] none :=
    rfl
  exact isExtreme_of_candidate (candidate_foldl hwanted hstart mem_given_ne_null)

/-- Whatever values a tally is given, in whatever order, its least value is not above any of
them, and its greatest value not below any. -/
theorem isExtreme_result (values : List (Option Value)) :
    (∃ t, start? "$min" = some t ∧ IsExtreme .gt (given values) (values.foldl add t).result) ∧
      ∃ t, start? "$max" = some t ∧
        IsExtreme .lt (given values) (values.foldl add t).result := by
  constructor
  · have hlt : Ordering.lt ≠ .eq := by
      decide
    refine ⟨.least none, rfl, ?_⟩
    rw [foldl_add .least fun _ _ => rfl]
    exact isExtreme_foldl_better hlt values
  · have hgt : Ordering.gt ≠ .eq := by
      decide
    refine ⟨.greatest none, rfl, ?_⟩
    rw [foldl_add .greatest fun _ _ => rfl]
    exact isExtreme_foldl_better hgt values

-- What is not a number neither hides the lesser value after it nor takes its place.
example : ([some (.int32 1), some (.double (0 / 0)), none, some (.int32 0)].foldl add
    (.least none)).result = .int32 0 := by
  decide

end Tally
end Aggregation
end DocQuery
