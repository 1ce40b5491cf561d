import DocQuery.Number.Binary
import Mathlib.Algebra.Order.Field.Basic
import Mathlib.Data.Rat.Cast.Order

/-!
# Exact values

The number that a finite double stands for, and when it is a whole one.
-/

namespace DocQuery
namespace Number

namespace Dyadic

def size (d : Dyadic) : ℚ :=
  d.mantissa * 2 ^ d.exponent

def value (d : Dyadic) : ℚ :=
  if d.negative then -d.size else d.size

theorem value_of_negative {d : Dyadic} (h : d.negative = true) : d.value = -d.size :=
  if_pos h

theorem value_of_nonnegative {d : Dyadic} (h : d.negative = false) : d.value = d.size :=
  if_neg (by simp [h])

theorem size_pos {d : Dyadic} (h : d.mantissa ≠ 0) : 0 < d.size := by
  have hmantissa : (0 : ℚ) < d.mantissa := Nat.cast_pos.mpr (Nat.pos_of_ne_zero h)
  exact mul_pos hmantissa (zpow_pos two_pos _)

theorem size_of_mantissa_eq_zero {d : Dyadic} (h : d.mantissa = 0) : d.size = 0 := by
  rw [size, h, Nat.cast_zero, zero_mul]

theorem size_of_exponent_nonneg {d : Dyadic} (h : 0 ≤ d.exponent) :
    d.size = (d.mantissa * twoTo d.exponent.toNat : Nat) := by
  rw [size, Nat.cast_mul]
  congr 1
  calc (2 : ℚ) ^ d.exponent = 2 ^ (d.exponent.toNat : Int) := by rw [Int.toNat_of_nonneg h]
    _ = (twoTo d.exponent.toNat : Nat) := by
      rw [zpow_natCast]
      exact (Nat.cast_pow 2 _).symm

theorem size_of_exponent_neg {d : Dyadic} (h : ¬ 0 ≤ d.exponent) :
    d.size = d.mantissa / (twoTo (-d.exponent).toNat : Nat) := by
  have hexponent : d.exponent = -((-d.exponent).toNat : Int) := by omega
  rw [size, div_eq_mul_inv]
  congr 1
  calc (2 : ℚ) ^ d.exponent = 2 ^ (-((-d.exponent).toNat : Int)) := by rw [← hexponent]
    _ = ((twoTo (-d.exponent).toNat : Nat) : ℚ)⁻¹ := by
      rw [zpow_neg, zpow_natCast]
      exact congrArg Inv.inv (Nat.cast_pow 2 _).symm

end Dyadic

theorem twoTo_pos (n : Nat) : 0 < twoTo n :=
  Nat.two_pow_pos n

theorem div_eq_natCast_iff {m scale n : Nat} (h : 0 < scale) :
    (m : ℚ) / (scale : ℚ) = n ↔ m % scale = 0 ∧ m / scale = n := by
  rw [div_eq_iff (Nat.cast_ne_zero.mpr h.ne'), ← Nat.cast_mul, Nat.cast_inj]
  constructor
  · rintro rfl
    exact ⟨Nat.mul_mod_left n scale, Nat.mul_div_cancel n h⟩
  · rintro ⟨hmod, rfl⟩
    exact (Nat.div_mul_cancel (Nat.dvd_of_mod_eq_zero hmod)).symm

theorem whole?_eq_some_iff {x : Float} {n : Nat} :
    whole? x = some n ↔ ∃ d, dyadic? x = some d ∧ d.value = n := by
  unfold whole?
  cases hx : dyadic? x with
  | none =>
      simp
  | some d =>
      simp only [Option.some.injEq, exists_eq_left']
      by_cases hzero : d.mantissa = 0
      · have hvalue : d.value = 0 := by
          simp [Dyadic.value, Dyadic.size_of_mantissa_eq_zero hzero]
        rw [if_pos hzero, hvalue, Option.some.injEq]
        exact ⟨fun h => by simp [← h], fun h => by exact_mod_cast h⟩
      · rw [if_neg hzero]
        cases hsign : d.negative with
        | true =>
            have hbelow : d.value < n := by
              rw [Dyadic.value_of_negative hsign]
              exact (neg_lt_zero.mpr (Dyadic.size_pos hzero)).trans_le (Nat.cast_nonneg n)
            rw [if_pos rfl]
            exact iff_of_false (fun h => nomatch h) hbelow.ne
        | false =>
            rw [Dyadic.value_of_nonnegative hsign, if_neg Bool.false_ne_true]
            by_cases hexponent : 0 ≤ d.exponent
            · rw [if_pos hexponent, Dyadic.size_of_exponent_nonneg hexponent, Nat.cast_inj,
                Option.some.injEq]
            · rw [if_neg hexponent, Dyadic.size_of_exponent_neg hexponent,
                div_eq_natCast_iff (twoTo_pos _)]
              split
              · rename_i hmod
                rw [Option.some.injEq, and_iff_right hmod]
              · rename_i hmod
                exact iff_of_false (fun h => nomatch h) fun h => hmod h.1

end Number
end DocQuery
