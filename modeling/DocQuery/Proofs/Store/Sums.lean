import DocQuery.Proofs.Since
import DocQuery.Store.Aggregation
import Mathlib.Algebra.BigOperators.Group.List.Basic
import Mathlib.Algebra.Ring.Int.Defs
import Mathlib.Data.List.Infix

/-!
# Sums

A sum keeps a whole number in a word of 64 bits, and beside it a real number for
what the word cannot take.  Here it is said in whole numbers of any size what has
gone where: no addition wraps, and nothing that was added is lost.
-/

namespace DocQuery
namespace Aggregation
namespace Tally

/-!
# Addends
-/

/-- What a value adds to a sum. -/
inductive Addend where
  | whole (n : Int)
  | real (x : Float)

namespace Addend

def of? : Value → Option Addend
  | .int32 n => some (.whole n.toInt)
  | .int64 n => some (.whole n.toInt)
  | .double x => some (.real x)
  | _ => none

def whole? : Addend → Option Int
  | .whole n => some n
  | .real _ => none

end Addend

def addends (values : List (Option Value)) : List Addend :=
  values.filterMap fun value => value.bind Addend.of?

def wholes (items : List Addend) : List Int :=
  items.filterMap Addend.whole?

def Fits (n : Int) : Prop :=
  Int64.minValue.toInt ≤ n ∧ n ≤ Int64.maxValue.toInt

instance (n : Int) : Decidable (Fits n) :=
  inferInstanceAs (Decidable (_ ∧ _))

/-!
# Where addends go

A whole number is kept as long as the sum of those that are kept fits.  One with
which it would not fit any more is set aside as a real number, and those after it
may be kept again.
-/

structure Parts where
  kept : List Int := []
  reals : List Float := []

namespace Parts

def add (p : Parts) : Addend → Parts
  | .real x => { p with reals := p.reals ++ [x] }
  | .whole n =>
      if Fits (p.kept.sum + n) then { p with kept := p.kept ++ [n] }
      else { p with reals := p.reals ++ [Number.ofInt n] }

theorem add_whole_of_fits {p : Parts} {n : Int} (h : Fits (p.kept.sum + n)) :
    p.add (.whole n) = { p with kept := p.kept ++ [n] } :=
  if_pos h

theorem add_whole_of_not_fits {p : Parts} {n : Int} (h : ¬ Fits (p.kept.sum + n)) :
    p.add (.whole n) = { p with reals := p.reals ++ [Number.ofInt n] } :=
  if_neg h

def tally (p : Parts) : Tally :=
  .sum (Int64.ofInt p.kept.sum) (p.reals.foldl (· + ·) 0) (!p.reals.isEmpty)

end Parts

def parts (items : List Addend) : Parts :=
  items.foldl Parts.add {}

/-- After some addends there is no room for another, which is a whole number. -/
def NoRoom (before : List Addend) : Addend → Prop
  | .whole n => ¬ Fits ((parts before).kept.sum + n)
  | .real _ => False

def Overflows (items : List Addend) : Prop :=
  ∃ before item after, items = before ++ item :: after ∧ NoRoom before item

/-- A whole number in its own kind: in 32 bits if it fits there, and else in 64. -/
inductive IsWhole (n : Int) : Value → Prop where
  | int32 {k : Int32} (h : k.toInt = n) : IsWhole n (.int32 k)
  | int64 {k : Int64} (h : k.toInt = n)
      (hlarge : ¬ (Int32.minValue.toInt ≤ n ∧ n ≤ Int32.maxValue.toInt)) : IsWhole n (.int64 k)

/-!
# Words
-/

theorem fits_zero : Fits 0 := by
  decide

theorem toInt_ofInt_of_fits {n : Int} (h : Fits n) : (Int64.ofInt n).toInt = n :=
  Int64.toInt_ofInt_of_le h.1 (Int.lt_of_le_of_lt h.2 (by decide))

theorem addWhole?_of_fits {a b : Int64} (h : Fits (a.toInt + b.toInt)) :
    addWhole? a b = some (Int64.ofInt (a.toInt + b.toInt)) :=
  if_pos h

theorem addWhole?_of_not_fits {a b : Int64} (h : ¬ Fits (a.toInt + b.toInt)) :
    addWhole? a b = none :=
  if_neg h

theorem isWhole_wholeValue (k : Int64) : IsWhole k.toInt (wholeValue k) := by
  unfold wholeValue
  split
  · rename_i hsmall
    apply IsWhole.int32
    have hto : k.toInt < 2 ^ 31 := Int.lt_of_le_of_lt hsmall.2 (by decide)
    rw [Int64.toInt_toInt32, Int.bmod_eq_of_le hsmall.1 hto]
  · rename_i hlarge
    exact IsWhole.int64 rfl hlarge

/-!
# Steps

What a value does to a tally is what its addend does to the parts.
-/

theorem addSum_of_none {v : Value} (h : Addend.of? v = none) (whole : Int64) (real : Float)
    (isReal : Bool) : addSum whole real isReal v = .sum whole real isReal := by
  cases v <;> first | rfl | cases h

theorem addSum_of_whole {v : Value} {n : Int} (h : Addend.of? v = some (.whole n))
    (whole : Int64) (real : Float) (isReal : Bool) :
    addSum whole real isReal v =
      if Fits (whole.toInt + n) then .sum (Int64.ofInt (whole.toInt + n)) real isReal
      else .sum whole (real + Number.ofInt n) true := by
  cases v with
  | int32 k =>
      cases h
      rw [← Int32.toInt_toInt64]
      by_cases hfits : Fits (whole.toInt + k.toInt64.toInt)
      · simp only [addSum, wholeOf?, addWhole?_of_fits hfits, if_pos hfits]
      · simp only [addSum, wholeOf?, addWhole?_of_not_fits hfits, if_neg hfits]
  | int64 k =>
      cases h
      by_cases hfits : Fits (whole.toInt + k.toInt)
      · simp only [addSum, wholeOf?, addWhole?_of_fits hfits, if_pos hfits]
      · simp only [addSum, wholeOf?, addWhole?_of_not_fits hfits, if_neg hfits]
  | _ =>
      cases h

theorem addSum_of_real {v : Value} {x : Float} (h : Addend.of? v = some (.real x))
    (whole : Int64) (real : Float) (isReal : Bool) :
    addSum whole real isReal v = .sum whole (real + x) true := by
  cases v with
  | double y =>
      cases h
      rfl
  | _ =>
      cases h

theorem Parts.tally_append_real (p : Parts) (x : Float) :
    Parts.tally { p with reals := p.reals ++ [x] } =
      .sum (Int64.ofInt p.kept.sum) (p.reals.foldl (· + ·) 0 + x) true := by
  simp [Parts.tally]

theorem Parts.fits_add {p : Parts} (h : Fits p.kept.sum) (item : Addend) :
    Fits (p.add item).kept.sum := by
  cases item with
  | real x =>
      exact h
  | whole n =>
      by_cases hfits : Fits (p.kept.sum + n)
      · rw [Parts.add_whole_of_fits hfits, List.sum_append, List.sum_singleton]
        exact hfits
      · rw [Parts.add_whole_of_not_fits hfits]
        exact h

theorem add_tally {p : Parts} (h : Fits p.kept.sum) (value : Option Value) :
    p.tally.add value = ((value.bind Addend.of?).elim p p.add).tally := by
  cases value with
  | none =>
      rfl
  | some v =>
      change addSum _ _ _ v = _
      rw [Option.bind_some]
      cases hitem : Addend.of? v with
      | none =>
          exact addSum_of_none hitem _ _ _
      | some item =>
          cases item with
          | real x =>
              rw [addSum_of_real hitem]
              exact (p.tally_append_real x).symm
          | whole n =>
              rw [addSum_of_whole hitem, toInt_ofInt_of_fits h, Option.elim_some]
              by_cases hfits : Fits (p.kept.sum + n)
              · rw [if_pos hfits, Parts.add_whole_of_fits hfits, Parts.tally, List.sum_append,
                  List.sum_singleton]
              · rw [if_neg hfits, Parts.add_whole_of_not_fits hfits, Parts.tally_append_real]

/-!
# Runs
-/

theorem foldl_add_tally {p : Parts} (h : Fits p.kept.sum) (values : List (Option Value)) :
    values.foldl add p.tally = ((addends values).foldl Parts.add p).tally := by
  induction values generalizing p with
  | nil =>
      rfl
  | cons value values ih =>
      rw [List.foldl_cons, add_tally h, addends, List.filterMap_cons]
      cases value.bind Addend.of? with
      | none =>
          exact ih h
      | some item =>
          exact ih (Parts.fits_add h item)

theorem parts_append (items others : List Addend) :
    parts (items ++ others) = others.foldl Parts.add (parts items) :=
  List.foldl_append

theorem parts_concat (items : List Addend) (item : Addend) :
    parts (items ++ [item]) = (parts items).add item :=
  parts_append items [item]

theorem fits_parts (items : List Addend) : Fits (parts items).kept.sum := by
  induction items using List.reverseRecOn with
  | nil =>
      exact fits_zero
  | append_singleton items item ih =>
      rw [parts_concat]
      exact Parts.fits_add ih item

/-!
# Exact sums

Nothing is set aside exactly when all addends are whole and no sum of the first
of them leaves the word.
-/

theorem Parts.reals_add_eq_nil_iff {p : Parts} {item : Addend} :
    (p.add item).reals = [] ↔
      p.reals = [] ∧ ∃ n, item = .whole n ∧ Fits (p.kept.sum + n) := by
  cases item with
  | real x =>
      simp [Parts.add]
  | whole n =>
      by_cases hfits : Fits (p.kept.sum + n)
      · simp [Parts.add_whole_of_fits hfits, hfits]
      · simp [Parts.add_whole_of_not_fits hfits, hfits]

theorem wholes_concat (items : List Addend) (item : Addend) :
    wholes (items ++ [item]) = wholes items ++ item.whole?.toList := by
  rw [wholes, List.filterMap_append]
  cases item <;> rfl

theorem kept_parts_of_reals_eq_nil {items : List Addend} (h : (parts items).reals = []) :
    (parts items).kept = wholes items := by
  induction items using List.reverseRecOn with
  | nil =>
      rfl
  | append_singleton items item ih =>
      rw [parts_concat] at h ⊢
      rcases Parts.reals_add_eq_nil_iff.mp h with ⟨hreals, n, rfl, hfits⟩
      rw [Parts.add_whole_of_fits hfits, ih hreals, wholes_concat]
      rfl

theorem forall_prefix_concat {l : List Int} {n : Int} :
    (∀ p, p <+: l ++ [n] → Fits p.sum) ↔ (∀ p, p <+: l → Fits p.sum) ∧ Fits (l.sum + n) := by
  simp only [List.prefix_concat_iff, forall_eq_or_imp, List.sum_append, List.sum_singleton]
  exact and_comm

theorem reals_parts_eq_nil_iff {items : List Addend} :
    (parts items).reals = [] ↔
      (∀ x, .real x ∉ items) ∧ ∀ p, p <+: wholes items → Fits p.sum := by
  induction items using List.reverseRecOn with
  | nil =>
      simp [parts, wholes, fits_zero]
  | append_singleton items item ih =>
      rw [parts_concat, Parts.reals_add_eq_nil_iff, wholes_concat]
      cases item with
      | real x =>
          have hmem : .real x ∈ items ++ [.real x] :=
            List.mem_append_right _ (List.mem_singleton_self _)
          exact iff_of_false (fun h => nomatch h.2) (fun h => h.1 x hmem)
      | whole n =>
          have hroom : ((parts items).reals = [] ∧ Fits ((parts items).kept.sum + n)) ↔
              (parts items).reals = [] ∧ Fits ((wholes items).sum + n) :=
            and_congr_right fun hreals => by rw [kept_parts_of_reals_eq_nil hreals]
          have hreal : (∀ x, .real x ∉ items ++ [.whole n]) ↔ ∀ x, .real x ∉ items := by
            simp
          change (_ ∧ _) ↔ _ ∧ ∀ p, p <+: wholes items ++ [n] → Fits p.sum
          rw [forall_prefix_concat, hreal, ← and_assoc, ← ih, ← hroom]
          simp

/-!
# Overflows
-/

theorem overflows_concat_iff {items : List Addend} {item : Addend} :
    Overflows (items ++ [item]) ↔ Overflows items ∨ NoRoom items item :=
  split_concat_iff.trans or_comm

theorem reals_parts_ne_nil_iff {items : List Addend} :
    (parts items).reals ≠ [] ↔ (∃ x, .real x ∈ items) ∨ Overflows items := by
  induction items using List.reverseRecOn with
  | nil =>
      simp [parts, Overflows]
  | append_singleton items item ih =>
      rw [parts_concat, Ne, Parts.reals_add_eq_nil_iff, not_and_or, ← Ne, ih, overflows_concat_iff]
      cases item with
      | real x =>
          simp
      | whole n =>
          simp [NoRoom, or_assoc]

/-!
# Results
-/

def isNumber (value : Option Value) : Bool :=
  (value.bind Addend.of?).isSome

theorem addends_filter_isNumber (values : List (Option Value)) :
    addends (values.filter isNumber) = addends values := by
  rw [addends, addends, List.filterMap_filter]
  apply List.filterMap_congr
  intro value _
  unfold isNumber
  cases value.bind Addend.of? <;> rfl

theorem real_mem_addends_iff {values : List (Option Value)} {x : Float} :
    .real x ∈ addends values ↔ some (.double x) ∈ values := by
  rw [addends, List.mem_filterMap]
  constructor
  · rintro ⟨value, hmem, hvalue⟩
    rcases Option.bind_eq_some_iff.mp hvalue with ⟨v, rfl, hv⟩
    cases v <;> cases hv
    exact hmem
  · exact fun hmem => ⟨_, hmem, rfl⟩

theorem foldl_add_start (values : List (Option Value)) :
    values.foldl add (.sum 0 0 false) = (parts (addends values)).tally := by
  have hstart : Fits (Parts.kept {}).sum := fits_zero
  exact foldl_add_tally hstart values

theorem tally_of_reals_ne_nil {p : Parts} (h : p.reals ≠ []) :
    p.tally = .sum (Int64.ofInt p.kept.sum) (p.reals.foldl (· + ·) 0) true := by
  rw [Parts.tally, List.isEmpty_eq_false_iff.mpr h]
  rfl

/-- Only numbers count for a sum.  Without doubles it is exact as long as no sum of the first
numbers leaves 64 bits.  Otherwise, and only then, it is a double, in which the whole numbers
that had room were added up exactly and all others as doubles. -/
theorem result_sum (values : List (Option Value)) :
    ∃ t, start? "$sum" = some t ∧
      values.foldl add t = (values.filter isNumber).foldl add t ∧
      ((∀ x, some (.double x) ∉ values) →
        (∀ p, p <+: wholes (addends values) → Fits p.sum) →
          IsWhole (wholes (addends values)).sum (values.foldl add t).result) ∧
      ((∃ x, some (.double x) ∈ values) ∨ Overflows (addends values) →
        ∃ whole real, values.foldl add t = .sum whole real true ∧
          whole.toInt = (parts (addends values)).kept.sum ∧
          real = (parts (addends values)).reals.foldl (· + ·) 0 ∧
          (values.foldl add t).result = .double (Number.ofInt whole.toInt + real)) ∧
      (((∃ x, some (.double x) ∈ values) ∨ Overflows (addends values)) ↔
        ¬ ((∀ x, some (.double x) ∉ values) ∧
          ∀ p, p <+: wholes (addends values) → Fits p.sum)) := by
  simp only [← real_mem_addends_iff, ← reals_parts_ne_nil_iff]
  have hsum := toInt_ofInt_of_fits (fits_parts (addends values))
  refine ⟨.sum 0 0 false, rfl, ?_, ?_, ?_, ?_⟩
  · rw [foldl_add_start, foldl_add_start, addends_filter_isNumber]
  · intro hwhole hprefix
    have hreals := reals_parts_eq_nil_iff.mpr ⟨hwhole, hprefix⟩
    have hkept := kept_parts_of_reals_eq_nil hreals
    have hresult : (parts (addends values)).tally.result =
        wholeValue (Int64.ofInt (wholes (addends values)).sum) := by
      rw [Parts.tally, hreals, hkept]
      rfl
    rw [hkept] at hsum
    have hkind := isWhole_wholeValue (Int64.ofInt (wholes (addends values)).sum)
    rwa [hsum, ← hresult, ← foldl_add_start] at hkind
  · intro hreals
    rw [foldl_add_start, tally_of_reals_ne_nil hreals]
    exact ⟨_, _, rfl, hsum, rfl, rfl⟩
  · rw [← reals_parts_eq_nil_iff]

-- What comes after the number that had no room is added exactly again.
example : ([some (.int64 Int64.maxValue), none, some (.int32 1), some (.int32 (-1))].foldl add
    (.sum 0 0 false)).result = .double (Number.ofInt (Int64.maxValue.toInt - 1) + 1) := by
  decide

end Tally
end Aggregation
end DocQuery
