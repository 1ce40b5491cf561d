import DocQuery.Proofs.Number.Whole
import DocQuery.Value.Canonical
import Mathlib.Order.Compare

/-!
# The order of values

Values are ordered within their kind where there is an order, and by the rank of
their kinds everywhere else.  This is a total preorder of all values but what is
not a number: that one comes out level with every number, and so with a greater
and with a lesser one at once.
-/

namespace DocQuery

/-!
# Numbers
-/

namespace Number

theorem compare?_swap (x y : Float) : compare? y x = (compare? x y).map Ordering.swap := by
  unfold compare?
  cases place? x with
  | none =>
      cases place? y <;> rfl
  | some i =>
      cases place? y with
      | none =>
          rfl
      | some j =>
          exact congrArg some Std.OrientedCmp.eq_swap

theorem isSome_compare?_iff {x y : Float} :
    (compare? x y).isSome = true ↔ isNaN x = false ∧ isNaN y = false := by
  unfold compare? isNaN
  cases place? x <;> cases place? y <;> simp

theorem isLE_compare?_trans {x y z : Float} {o o' : Ordering} (hxy : compare? x y = some o)
    (hyz : compare? y z = some o') (ho : o.isLE = true) (ho' : o'.isLE = true) :
    ∃ o'', compare? x z = some o'' ∧ o''.isLE = true := by
  unfold compare? at *
  cases hx : place? x with
  | none =>
      rw [hx] at hxy
      cases hxy
  | some i =>
      cases hy : place? y with
      | none =>
          rw [hx, hy] at hxy
          cases hxy
      | some j =>
          cases hz : place? z with
          | none =>
              rw [hy, hz] at hyz
              cases hyz
          | some k =>
              rw [hx, hy] at hxy
              rw [hy, hz] at hyz
              cases hxy
              cases hyz
              exact ⟨compare i k, rfl, Std.TransCmp.isLE_trans ho ho'⟩

theorem equal_iff_compare? {x y : Float} : equal x y = true ↔ compare? x y = some .eq := by
  unfold equal compare?
  cases place? x <;> cases place? y <;> simp

end Number

instance : Std.TransOrd ObjectId where
  eq_swap {a b} := Std.OrientedCmp.eq_swap (a := a.bytes) (b := b.bytes)
  isLE_trans {a b c} := Std.TransCmp.isLE_trans (a := a.bytes) (b := b.bytes) (c := c.bytes)

instance : Std.LawfulEqOrd ObjectId where
  eq_of_compare {a b} h := by
    have hbytes : a.bytes = b.bytes :=
      Std.compare_eq_iff_eq.mp (show compare a.bytes b.bytes = .eq from h)
    rcases a with ⟨_, _⟩
    rcases b with ⟨_, _⟩
    cases hbytes
    rfl

/-!
# Comparable forms
-/

namespace Canonical

def isNaN : Canonical → Bool
  | .number x => Number.isNaN x
  | _ => false

/-- Whether a form is ordered with others of its kind. -/
def isOrdered : Canonical → Bool
  | .null | .map _ | .array _ => false
  | a => !a.isNaN

theorem rank_of_isNaN {a : Canonical} (h : a.isNaN = true) : a.rank = 1 := by
  cases a with
  | number x =>
      rfl
  | _ =>
      cases h

def order (a b : Canonical) : Ordering :=
  (a.compare? b).getD (compare a.rank b.rank)

theorem isOrdered_of_isNaN {a : Canonical} (h : a.isNaN = true) : a.isOrdered = false := by
  cases a with
  | number x =>
      simp [isOrdered, h]
  | _ =>
      cases h

theorem isSome_compare?_iff {a b : Canonical} :
    (a.compare? b).isSome = true ↔
      a.rank = b.rank ∧ a.isOrdered = true ∧ b.isOrdered = true := by
  cases a with
  | number x =>
      cases b with
      | number y =>
          simp [compare?, rank, isOrdered, isNaN, Number.isSome_compare?_iff]
      | _ =>
          simp [compare?, rank]
  | _ =>
      cases b <;> simp [compare?, rank, isOrdered, isNaN]

theorem same_iff_compare? {a b : Canonical} (hb : b.isOrdered = true) :
    a.same b = true ↔ a.compare? b = some .eq := by
  cases b with
  | number y =>
      cases a with
      | number x =>
          exact Number.equal_iff_compare?
      | _ =>
          simp [same, compare?]
  | null | map _ | array _ =>
      cases hb
  | _ =>
      cases a <;> simp [same, compare?, Int64.toInt_inj]

theorem compare?_swap (a b : Canonical) : b.compare? a = (a.compare? b).map Ordering.swap := by
  cases a with
  | number x =>
      cases b with
      | number y =>
          exact Number.compare?_swap x y
      | _ =>
          rfl
  | _ =>
      cases b <;> first | rfl | exact congrArg some Std.OrientedCmp.eq_swap

theorem isLE_compare?_trans {a b c : Canonical} {o o' : Ordering} (hab : a.compare? b = some o)
    (hbc : b.compare? c = some o') (ho : o.isLE = true) (ho' : o'.isLE = true) :
    ∃ o'', a.compare? c = some o'' ∧ o''.isLE = true := by
  cases b with
  | number y =>
      cases a with
      | number x =>
          cases c with
          | number z =>
              exact Number.isLE_compare?_trans hab hbc ho ho'
          | _ =>
              cases hbc
      | _ =>
          cases hab
  | null | map _ | array _ =>
      cases a <;> cases hab
  | _ =>
      cases a <;> cases hab
      cases c <;> cases hbc
      exact ⟨_, rfl, Std.TransCmp.isLE_trans ho ho'⟩

theorem order_of_compare? {a b : Canonical} {o : Ordering} (h : a.compare? b = some o) :
    a.order b = o := by
  rw [order, h, Option.getD_some]

theorem order_of_not_isSome {a b : Canonical} (h : ¬ (a.compare? b).isSome = true) :
    a.order b = compare a.rank b.rank := by
  rw [order, Option.not_isSome_iff_eq_none.mp h, Option.getD_none]

theorem order_self (a : Canonical) : a.order a = .eq := by
  have hswap := compare?_swap a a
  cases h : a.compare? a with
  | none =>
      rw [order, h]
      exact Nat.compare_eq_eq.mpr rfl
  | some o =>
      rw [order_of_compare? h]
      rw [h] at hswap
      cases o with
      | eq =>
          rfl
      | _ =>
          cases hswap

theorem order_swap (a b : Canonical) : b.order a = (a.order b).swap := by
  rw [order, order, compare?_swap a b]
  cases a.compare? b with
  | none =>
      exact (Nat.compare_swap a.rank b.rank).symm
  | some o =>
      rfl

theorem rank_le_of_isLE_order {a b : Canonical} (h : (a.order b).isLE = true) :
    a.rank ≤ b.rank := by
  by_cases hkind : (a.compare? b).isSome = true
  · exact Nat.le_of_eq (isSome_compare?_iff.mp hkind).1
  · rw [order_of_not_isSome hkind] at h
    exact Nat.isLE_compare.mp h

theorem isLE_order_of_rank_lt {a b : Canonical} (h : a.rank < b.rank) :
    (a.order b).isLE = true := by
  have hkind : ¬ (a.compare? b).isSome = true :=
    fun hsome => Nat.ne_of_lt h (isSome_compare?_iff.mp hsome).1
  rw [order_of_not_isSome hkind]
  exact Nat.isLE_compare.mpr (Nat.le_of_lt h)

/-- Within a rank only what is not a number is unlike the others. -/
theorem isOrdered_of_rank_eq {a b : Canonical} (hrank : a.rank = b.rank)
    (ha : a.isOrdered = true) (hb : b.isNaN = false) : b.isOrdered = true := by
  cases a <;> cases b <;> simp_all [rank, isOrdered, isNaN]

/-- The order carries over a form between two others, unless that form is not a number. -/
theorem isLE_order_trans {a b c : Canonical} (hb : b.isNaN = false)
    (hab : (a.order b).isLE = true) (hbc : (b.order c).isLE = true) :
    (a.order c).isLE = true := by
  have hrankab := rank_le_of_isLE_order hab
  have hrankbc := rank_le_of_isLE_order hbc
  by_cases hlt : a.rank < c.rank
  · exact isLE_order_of_rank_lt hlt
  · have hac : a.rank = c.rank := by
      omega
    by_cases hkind : (a.compare? c).isSome = true
    · -- All three are of one kind then, and in order by it.
      rcases isSome_compare?_iff.mp hkind with ⟨_, ha, hc⟩
      have hrank : a.rank = b.rank := by
        omega
      have hordered := isOrdered_of_rank_eq hrank ha hb
      rcases Option.isSome_iff_exists.mp (isSome_compare?_iff.mpr ⟨hrank, ha, hordered⟩)
        with ⟨o, ho⟩
      rcases Option.isSome_iff_exists.mp
        (isSome_compare?_iff.mpr ⟨hrank.symm.trans hac, hordered, hc⟩) with ⟨o', ho'⟩
      rw [order_of_compare? ho] at hab
      rw [order_of_compare? ho'] at hbc
      rcases isLE_compare?_trans ho ho' hab hbc with ⟨o'', ho'', hle⟩
      rwa [order_of_compare? ho'']
    · rw [order_of_not_isSome hkind, hac]
      exact Nat.isLE_compare.mpr (Nat.le_refl _)

theorem order_of_isNaN {a b : Canonical} (h : a.isNaN = true ∨ b.isNaN = true) :
    a.order b = compare a.rank b.rank := by
  apply order_of_not_isSome
  rw [isSome_compare?_iff]
  rintro ⟨_, ha, hb⟩
  rcases h with hnan | hnan
  · cases ha.symm.trans (isOrdered_of_isNaN hnan)
  · cases hb.symm.trans (isOrdered_of_isNaN hnan)

/-- The order also carries over what is not a number, if that is strictly above the one form or
strictly below the other. -/
theorem isLE_order_trans_of_lt {a b c : Canonical} (hab : (a.order b).isLE = true)
    (hbc : (b.order c).isLE = true) (hlt : a.order b = .lt ∨ b.order c = .lt) :
    (a.order c).isLE = true := by
  cases hb : b.isNaN with
  | false =>
      exact isLE_order_trans hb hab hbc
  | true =>
      apply isLE_order_of_rank_lt
      rcases hlt with hlt | hlt
      · rw [order_of_isNaN (Or.inr hb), Nat.compare_eq_lt] at hlt
        exact Nat.lt_of_lt_of_le hlt (rank_le_of_isLE_order hbc)
      · rw [order_of_isNaN (Or.inl hb), Nat.compare_eq_lt] at hlt
        exact Nat.lt_of_le_of_lt (rank_le_of_isLE_order hab) hlt

end Canonical

/-!
# Values
-/

namespace Value

/-- Whether a value is a double that is not a number; others may have such a one inside. -/
def isNaN : Value → Bool
  | .double x => Number.isNaN x
  | _ => false

theorem isNaN_canonical (v : Value) : v.canonical.isNaN = v.isNaN := by
  cases v <;> simp [canonical, Canonical.isNaN, isNaN, Number.isNaN_ofInt]

def isNaN? (value : Option Value) : Bool :=
  value.any isNaN

theorem isNaN_canonical? (value : Option Value) : (canonical? value).isNaN = isNaN? value := by
  cases value with
  | none =>
      rfl
  | some v =>
      exact isNaN_canonical v

theorem order_eq (a b : Option Value) : order a b = (canonical? a).order (canonical? b) :=
  rfl

theorem order_self (a : Option Value) : order a a = .eq :=
  Canonical.order_self _

theorem order_swap (a b : Option Value) : order b a = (order a b).swap :=
  Canonical.order_swap _ _

theorem isLE_order_trans {a b c : Option Value} (hb : isNaN? b = false)
    (hab : (order a b).isLE = true) (hbc : (order b c).isLE = true) :
    (order a c).isLE = true := by
  rw [← isNaN_canonical?] at hb
  exact Canonical.isLE_order_trans hb hab hbc

theorem isLE_order_trans_of_lt {a b c : Option Value} (hab : (order a b).isLE = true)
    (hbc : (order b c).isLE = true) (hlt : order a b = .lt ∨ order b c = .lt) :
    (order a c).isLE = true :=
  Canonical.isLE_order_trans_of_lt hab hbc hlt

theorem order_of_isNaN? {a b : Option Value} (ha : (canonical? a).rank = (canonical? b).rank)
    (hb : isNaN? b = true) : order a b = .eq ∧ order b a = .eq := by
  have heq : order a b = .eq := by
    rw [← isNaN_canonical?] at hb
    rw [order_eq, Canonical.order_of_not_isSome]
    · exact Nat.compare_eq_eq.mpr ha
    · rw [Canonical.isSome_compare?_iff, Canonical.isOrdered_of_isNaN hb]
      simp
  refine ⟨heq, ?_⟩
  rw [order_swap, heq]
  rfl

/-- A value is level with itself, it is above what is below it and below what is above it, and
the order carries over it between others exactly when it is not a double that is no number. -/
theorem order_laws (b : Option Value) :
    order b b = .eq ∧ (∀ a : Option Value, order b a = (order a b).swap) ∧
      ((∀ a c : Option Value, order a b ≠ .gt → order b c ≠ .gt → order a c ≠ .gt) ↔
        isNaN? b = false) := by
  refine ⟨order_self b, fun a => order_swap a b, ?_⟩
  constructor
  · intro htrans
    apply Bool.eq_false_iff.mpr
    intro hb
    have hrank (n : Int32) :
        (canonical? (some (.int32 n))).rank = (canonical? b).rank :=
      (Canonical.rank_of_isNaN ((isNaN_canonical? b).trans hb)).symm
    have hgreater : order (some (.int32 1)) (some (.int32 0)) = .gt := by
      decide
    have hone := (order_of_isNaN? (hrank 1) hb).1
    have hzero := (order_of_isNaN? (hrank 0) hb).2
    refine htrans (some (.int32 1)) (some (.int32 0)) ?_ ?_ hgreater
    · rw [hone]
      exact Ordering.noConfusion
    · rw [hzero]
      exact Ordering.noConfusion
  · intro hb a c hab hbc
    apply Ordering.isLE_iff_ne_gt.mp
    exact isLE_order_trans hb (Ordering.isLE_iff_ne_gt.mpr hab) (Ordering.isLE_iff_ne_gt.mpr hbc)

/-- One is not above what is not a number, nor is that above zero, but one is above zero. -/
theorem order_not_transitive :
    ¬ ∀ a b c : Option Value, order a a = .eq ∧ order b a = (order a b).swap ∧
      (order a b ≠ .gt → order b c ≠ .gt → order a c ≠ .gt) := by
  intro h
  rcases h (some (.double 1)) (some (.double (0 / 0))) (some (.double 0)) with ⟨_, _, htrans⟩
  exact htrans (by decide) (by decide) (by decide)

end Value
end DocQuery
