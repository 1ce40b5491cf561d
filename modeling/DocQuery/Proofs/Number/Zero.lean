import DocQuery.Proofs.Number.Whole
import Mathlib.Algebra.Ring.Nat

/-!
# The two zeros

Equality of numbers tells all doubles apart but the two zeros.  A whole number
does not become the negative one, because rounding leaves a number that is not
zero above the least double.
-/

namespace DocQuery
namespace Number

open Float.Model (UnpackedFloat Format totalExponent)
open Float.Model.UnpackedFloat (unpackExponent unpackMantissa Accuracy ExtendedMantissa)

def isNegativeZero (x : Float) : Bool :=
  isNegative x && magnitude x == 0

/-!
# Equal numbers

A double is its sign and its magnitude, and so is its place, unless the
magnitude is zero.
-/

theorem toNat_toBits (x : Float) :
    x.toBits.toNat = magnitude x + if isNegative x then twoTo 63 else 0 := by
  have hbound : x.toBits.toNat < 2 ^ 64 := x.toBits.toNat_lt
  by_cases hsign : isNegative x = true
  · have hlarge : 2 ^ 63 ≤ x.toBits.toNat := of_decide_eq_true hsign
    rw [if_pos hsign]
    change x.toBits.toNat = x.toBits.toNat % 2 ^ 63 + 2 ^ 63
    omega
  · have hsmall : ¬ 2 ^ 63 ≤ x.toBits.toNat := of_decide_eq_false (Bool.eq_false_iff.mpr hsign)
    rw [if_neg hsign]
    change x.toBits.toNat = x.toBits.toNat % 2 ^ 63 + 0
    omega

theorem eq_of_toBits {x y : Float} (h : x.toBits = y.toBits) : x = y := by
  rcases x with ⟨⟨_, _⟩⟩
  rcases y with ⟨⟨_, _⟩⟩
  cases h
  rfl

theorem eq_of_sign_of_magnitude {x y : Float} (hsign : isNegative x = isNegative y)
    (hmagnitude : magnitude x = magnitude y) : x = y := by
  apply eq_of_toBits
  apply UInt64.toNat_inj.mp
  rw [toNat_toBits x, toNat_toBits y, hsign, hmagnitude]

theorem place?_eq_some {x : Float} {i : Int} (h : place? x = some i) :
    i = if isNegative x then -(magnitude x : Int) else magnitude x := by
  unfold place? at h
  split at h
  · cases h
  · split at h <;> cases h <;> simp_all

theorem magnitude_ne_zero_of_isNegative {x : Float} (h : isNegativeZero x = false)
    (hsign : isNegative x = true) : magnitude x ≠ 0 := by
  rw [isNegativeZero, hsign, Bool.true_and] at h
  exact beq_eq_false_iff_ne.mp h

theorem eq_of_equal {x y : Float} (h : equal x y = true) (hx : isNegativeZero x = false)
    (hy : isNegativeZero y = false) : x = y := by
  unfold equal at h
  split at h
  next i j hi hj =>
    have hplaces := place?_eq_some hi
    rw [beq_iff_eq.mp h, place?_eq_some hj] at hplaces
    have hnegx := magnitude_ne_zero_of_isNegative hx
    have hnegy := magnitude_ne_zero_of_isNegative hy
    -- Of two places with different signs the one below zero is not zero.
    cases hsignx : isNegative x <;> cases hsigny : isNegative y <;>
      simp only [hsignx, hsigny, if_true, Bool.false_eq_true, if_false] at hplaces
    case false.false | true.true =>
      apply eq_of_sign_of_magnitude (hsignx.trans hsigny.symm)
      omega
    case false.true =>
      have := hnegy hsigny
      omega
    case true.false =>
      have := hnegx hsignx
      omega
  next =>
    cases h

/-!
# Bits that are not those of zero
-/

def HasNonzeroBits (bits : BitVec Format.binary64.numBits) : Prop :=
  unpackExponent bits = 0#_ → unpackMantissa bits ≠ 0#_

/-- A number that is packed into bits of its own, and not into those of zero. -/
def IsNonzero : UnpackedFloat → Prop
  | .zero _ => False
  | .finite _ mantissa exponent _ => mantissa < 2 ^ 53 ∧ -1074 ≤ exponent
  | .infinity _ | .notANumber => True

theorem isNonzero_neg {u : UnpackedFloat} (h : IsNonzero u) : IsNonzero u.neg := by
  cases u <;> exact h

theorem hasNonzeroBits_packedInfinity (s : UnpackedFloat.Sign) :
    HasNonzeroBits (UnpackedFloat.packedInfinity Format.binary64 s) := by
  intro hzero
  rw [UnpackedFloat.packedInfinity, Float.Model.UnpackedFloat.unpackExponent_packComponents]
    at hzero
  exact absurd hzero (by decide)

theorem hasNonzeroBits_pack {u : UnpackedFloat} (h : IsNonzero u) :
    HasNonzeroBits (u.pack Format.binary64) := by
  fun_cases UnpackedFloat.pack Format.binary64 u with
  | case1 =>
      unfold HasNonzeroBits
      decide
  | case2 s =>
      exact hasNonzeroBits_packedInfinity s
  | case3 s =>
      exact h.elim
  | case4 s m e hm exponent hbig =>
      exact hasNonzeroBits_packedInfinity s
  | case5 s m e hm bits exponent hsmall hnormal =>
      intro hzero
      rw [Float.Model.UnpackedFloat.unpackExponent_packComponents] at hzero
      have hexponent : exponent % 2 ^ 11 = 0 := congrArg BitVec.toNat hzero
      have hvalue : exponent = (e + 1075).toNat := by
        change (e + 1023 + 52).toNat = (e + 1075).toNat
        omega
      have hbound : ¬ 2 ^ 11 ≤ exponent + 1 := hsmall
      have hleast : -1074 ≤ e := h.2
      omega
  | case6 s m e hm bits exponent hsmall hsubnormal =>
      intro _ hzero
      rw [Float.Model.UnpackedFloat.unpackMantissa_packComponents] at hzero
      have hmantissa : m % 2 ^ 52 = 0 := congrArg BitVec.toNat hzero
      have hlog : m.log2 < 53 := (Nat.log2_lt (Nat.ne_of_gt hm)).mpr h.1
      have hshort : ¬ m.log2 + 1 = 53 := hsubnormal
      have hbound : m < 2 ^ 52 := (Nat.log2_lt (Nat.ne_of_gt hm)).mp (by omega)
      omega

theorem isNonzero_unpack {bits : BitVec Format.binary64.numBits} (h : HasNonzeroBits bits) :
    IsNonzero (UnpackedFloat.unpack Format.binary64 bits) := by
  have hmantissa : (unpackMantissa bits).toNat < 2 ^ 52 := (unpackMantissa bits).isLt
  unfold UnpackedFloat.unpack
  by_cases hfull : unpackExponent bits = -1#_
  · rw [if_pos hfull]
    split <;> trivial
  · rw [if_neg hfull]
    by_cases hsubnormal : unpackExponent bits = 0#_
    · rw [if_pos hsubnormal, dif_neg (h hsubnormal)]
      refine ⟨by omega, ?_⟩
      rw [hsubnormal]
      decide
    · have hexponent : (unpackExponent bits).toNat ≠ 0 := by
        intro hzero
        exact hsubnormal (BitVec.eq_of_toNat_eq hzero)
      rw [if_neg hsubnormal]
      refine ⟨(1#1 ++ unpackMantissa bits).isLt, ?_⟩
      change (-1074 : Int) ≤ (unpackExponent bits).toNat - (1023 + 52)
      omega

theorem magnitude_ne_zero {x : Float} (h : HasNonzeroBits x.toBits.toBitVec) :
    magnitude x ≠ 0 := by
  intro hmagnitude
  change x.toBits.toBitVec.toNat % 2 ^ 63 = 0 at hmagnitude
  have hexponent : @unpackExponent Format.binary64 x.toBits.toBitVec = 0#11 := by
    apply BitVec.eq_of_toNat_eq
    rw [toNat_unpackExponent]
    change x.toBits.toBitVec.toNat / 2 ^ 52 % 2 ^ 11 = 0
    omega
  apply h hexponent
  apply BitVec.eq_of_toNat_eq
  rw [toNat_unpackMantissa]
  change x.toBits.toBitVec.toNat % 2 ^ 52 = 0
  omega

/-!
# Rounding
-/

theorem mantissa_shiftRight (em : ExtendedMantissa) (k : Nat) :
    (em >>> k).mantissa = em.mantissa / 2 ^ k := by
  induction k with
  | zero =>
      simp [HShiftRight.hShiftRight, Nat.repeat]
  | succ k ih =>
      change (em >>> k).mantissa / 2 = _
      rw [ih, Nat.div_div_eq_div_mul, Nat.pow_succ]

theorem le_roundedMantissa (em : ExtendedMantissa) : em.mantissa ≤ em.roundedMantissa := by
  unfold ExtendedMantissa.roundedMantissa
  cases em.accuracy with
  | exact =>
      exact Nat.le_refl _
  | inexact order =>
      cases order <;> simp [Accuracy.roundToNearestEven]

theorem targetExponent_binary64 (mantissa : Nat) (exponent : Int) :
    Format.binary64.targetExponent (totalExponent mantissa exponent) =
      max (mantissa.log2 + 1 + exponent - 53) (-1074) :=
  rfl

theorem shiftToTargetExponent_bounds {mantissa : Nat} {exponent : Int} (hpos : 0 < mantissa)
    (hleast : -1074 ≤ exponent) :
    let shifted := UnpackedFloat.shiftToTargetExponent Format.binary64 mantissa exponent .exact
    0 < shifted.1.mantissa ∧ shifted.1.mantissa < 2 ^ 53 ∧ -1074 ≤ shifted.2 := by
  have hlower : 2 ^ mantissa.log2 ≤ mantissa := Nat.log2_self_le (Nat.ne_of_gt hpos)
  have hupper : mantissa < 2 ^ (mantissa.log2 + 1) := Nat.lt_log2_self
  unfold UnpackedFloat.shiftToTargetExponent UnpackedFloat.shiftToExponent
  simp only [mantissa_shiftRight, targetExponent_binary64]
  generalize hshift : (max ((mantissa.log2 : Int) + 1 + exponent - 53) (-1074) - exponent).toNat =
    shift
  change 0 < mantissa / 2 ^ shift ∧ mantissa / 2 ^ shift < 2 ^ 53 ∧ _
  refine ⟨?_, ?_, by omega⟩
  -- No more digits are taken away than there are beyond 53.
  · apply Nat.div_pos _ (Nat.two_pow_pos _)
    exact Nat.le_trans (Nat.pow_le_pow_right (by decide) (by omega)) hlower
  · rw [Nat.div_lt_iff_lt_mul (Nat.two_pow_pos _), ← Nat.pow_add]
    exact Nat.lt_of_lt_of_le hupper (Nat.pow_le_pow_right (by decide) (by omega))

theorem isNonzero_roundWithAccuracy (s : UnpackedFloat.Sign) {mantissa : Nat} {exponent : Int}
    (hpos : 0 < mantissa) (hleast : -1074 ≤ exponent) :
    IsNonzero
      (UnpackedFloat.roundWithAccuracy Format.binary64 s mantissa exponent .exact) := by
  have hfirst := shiftToTargetExponent_bounds hpos hleast
  unfold UnpackedFloat.roundWithAccuracy
  generalize UnpackedFloat.shiftToTargetExponent Format.binary64 mantissa exponent .exact = first
    at hfirst
  have hrounded : 0 < first.1.roundedMantissa :=
    Nat.lt_of_lt_of_le hfirst.1 (le_roundedMantissa _)
  -- Rounding up may leave one digit too many, so that the number is shifted again.
  have hsecond := shiftToTargetExponent_bounds hrounded hfirst.2.2
  dsimp only at hsecond ⊢
  rw [dif_neg (Nat.ne_of_gt hsecond.1)]
  exact hsecond.2

theorem isNonzero_round (s : UnpackedFloat.Sign) {mantissa : Nat} (hpos : 0 < mantissa) :
    IsNonzero (UnpackedFloat.round Format.binary64 s mantissa 0) := by
  unfold UnpackedFloat.round UnpackedFloat.decreaseExponent
  apply isNonzero_roundWithAccuracy
  · rw [Nat.shiftLeft_eq]
    exact Nat.mul_pos hpos (Nat.two_pow_pos _)
  · rw [targetExponent_binary64]
    omega

/-!
# Conversion
-/

theorem isNonzero_ofInt {n : Int} (h : n ≠ 0) :
    IsNonzero (UnpackedFloat.ofInt Format.binary64 n) := by
  unfold UnpackedFloat.ofInt UnpackedFloat.normalize
  split
  next hneg =>
    have := Int.compare_eq_lt.mp hneg
    exact isNonzero_round _ (by omega)
  next hzero =>
    exact absurd (Int.compare_eq_eq.mp hzero) h
  next hpos =>
    have := Int.compare_eq_gt.mp hpos
    exact isNonzero_round _ (by omega)

theorem hasNonzeroBits_ofWord {n : Nat} (hpos : 0 < n) (hword : n ≤ maxWord) :
    HasNonzeroBits (ofWord n).toBits.toBitVec := by
  apply hasNonzeroBits_pack
  apply isNonzero_ofInt
  have hbound : n < 2 ^ 64 := Nat.lt_of_le_pred (Nat.two_pow_pos _) hword
  have htoNat : n.toUInt64.toNat = n := Nat.mod_eq_of_lt hbound
  omega

theorem isNegativeZero_ofInt {n : Int} (hword : n.natAbs ≤ maxWord) :
    isNegativeZero (ofInt n) = false := by
  by_cases hzero : n = 0
  · rw [hzero]
    decide
  · have hbits := hasNonzeroBits_ofWord (Int.natAbs_pos.mpr hzero) hword
    have hmagnitude : magnitude (ofInt n) ≠ 0 := by
      apply magnitude_ne_zero
      unfold ofInt
      split
      · exact hasNonzeroBits_pack (isNonzero_neg (isNonzero_unpack hbits))
      · exact hbits
    rw [isNegativeZero, beq_eq_false_iff_ne.mpr hmagnitude, Bool.and_false]

end Number
end DocQuery
