import DocQuery.Number.Binary

/-!
# Whole numbers as doubles

No whole number becomes what is not a number.  The bits of a double are those
that its unpacked form is packed into, and only the form of what is not a number
is packed into a full exponent with a mantissa that is not zero.
-/

namespace DocQuery
namespace Number

open Float.Model (UnpackedFloat Format)
open Float.Model.UnpackedFloat (unpackExponent unpackMantissa)

/-!
# Bits of numbers
-/

/-- Where the exponent is full, the mantissa is zero. -/
def HasNumberBits (bits : BitVec Format.binary64.numBits) : Prop :=
  unpackExponent bits = -1#_ → unpackMantissa bits = 0#_

theorem hasNumberBits_pack {u : UnpackedFloat} (h : u ≠ .notANumber) :
    HasNumberBits (u.pack Format.binary64) := by
  unfold HasNumberBits
  fun_cases UnpackedFloat.pack Format.binary64 u with
  | case1 =>
      exact absurd rfl h
  | case2 s =>
      simp [UnpackedFloat.packedInfinity]
  | case3 s =>
      simp [UnpackedFloat.packedZero]
  | case4 s m e hm exponent hbig =>
      simp [UnpackedFloat.packedInfinity]
  | case5 s m e hm bits exponent hsmall hnormal =>
      intro hfull
      rw [Float.Model.UnpackedFloat.unpackExponent_packComponents] at hfull
      have hexponent : exponent % 2 ^ 11 = 2047 := congrArg BitVec.toNat hfull
      have hbound : ¬ 2 ^ 11 ≤ exponent + 1 := hsmall
      omega
  | case6 s m e hm bits exponent hsmall hsubnormal =>
      simp

theorem zeroOrFinite_ne_notANumber {p : Prop} [Decidable p] (s : UnpackedFloat.Sign)
    {m : Nat} (e : Int) (hpos : ¬ p → 0 < m) :
    (if h : p then UnpackedFloat.zero s else .finite s m e (hpos h)) ≠ .notANumber := by
  by_cases h : p
  · rw [dif_pos h]
    intro hnan
    cases hnan
  · rw [dif_neg h]
    intro hnan
    cases hnan

theorem unpack_ne_notANumber {bits : BitVec Format.binary64.numBits} (h : HasNumberBits bits) :
    UnpackedFloat.unpack Format.binary64 bits ≠ .notANumber := by
  unfold UnpackedFloat.unpack
  by_cases hfull : unpackExponent bits = -1#_
  · rw [if_pos hfull, if_pos (h hfull)]
    intro hnan
    cases hnan
  · rw [if_neg hfull]
    by_cases hsubnormal : unpackExponent bits = 0#_
    · rw [if_pos hsubnormal]
      exact zeroOrFinite_ne_notANumber _ _ _
    · rw [if_neg hsubnormal]
      intro hnan
      cases hnan

theorem toNat_unpackExponent (bits : BitVec 64) :
    (@unpackExponent Format.binary64 bits).toNat =
      bits.toNat / twoTo 52 % twoTo 11 := by
  change bits.toNat >>> 52 % twoTo 11 = _
  rw [Nat.shiftRight_eq_div_pow]
  rfl

theorem toNat_unpackMantissa (bits : BitVec 64) :
    (@unpackMantissa Format.binary64 bits).toNat = bits.toNat % twoTo 52 :=
  rfl

theorem isNaN_eq_false_of_hasNumberBits {x : Float} (h : HasNumberBits x.toBits.toBitVec) :
    isNaN x = false := by
  have hmagnitude : ¬ infiniteMagnitude < magnitude x := by
    intro hbeyond
    change 2047 * 2 ^ 52 < x.toBits.toBitVec.toNat % 2 ^ 63 at hbeyond
    have hfull : @unpackExponent Format.binary64 x.toBits.toBitVec = -1#11 := by
      apply BitVec.eq_of_toNat_eq
      rw [toNat_unpackExponent]
      change x.toBits.toBitVec.toNat / 2 ^ 52 % 2 ^ 11 = 2047
      omega
    have hzero := congrArg BitVec.toNat (h hfull)
    rw [toNat_unpackMantissa] at hzero
    change x.toBits.toBitVec.toNat % 2 ^ 52 = 0 at hzero
    omega
  unfold isNaN place?
  rw [if_neg hmagnitude]
  split <;> rfl

/-!
# Conversion
-/

theorem round_ne_notANumber (s : UnpackedFloat.Sign) (mantissa : Nat) (exponent : Int) :
    UnpackedFloat.round Format.binary64 s mantissa exponent ≠ .notANumber := by
  unfold UnpackedFloat.round UnpackedFloat.roundWithAccuracy
  exact zeroOrFinite_ne_notANumber _ _ _

theorem ofInt_ne_notANumber (n : Int) :
    UnpackedFloat.ofInt Format.binary64 n ≠ .notANumber := by
  unfold UnpackedFloat.ofInt UnpackedFloat.normalize
  split
  · exact round_ne_notANumber _ _ _
  · intro hnan
    cases hnan
  · exact round_ne_notANumber _ _ _

theorem neg_ne_notANumber {u : UnpackedFloat} (h : u ≠ .notANumber) : u.neg ≠ .notANumber := by
  cases u with
  | notANumber =>
      exact absurd rfl h
  | _ =>
      intro hnan
      cases hnan

theorem hasNumberBits_ofWord (n : Nat) : HasNumberBits (ofWord n).toBits.toBitVec :=
  hasNumberBits_pack (ofInt_ne_notANumber _)

theorem isNaN_ofInt (n : Int) : isNaN (ofInt n) = false := by
  apply isNaN_eq_false_of_hasNumberBits
  unfold ofInt
  split
  · exact hasNumberBits_pack (neg_ne_notANumber (unpack_ne_notANumber (hasNumberBits_ofWord _)))
  · exact hasNumberBits_ofWord _

theorem equal_self {x : Float} (h : isNaN x = false) : equal x x = true := by
  unfold isNaN at h
  unfold equal
  cases hplace : place? x with
  | none =>
      rw [hplace] at h
      cases h
  | some i =>
      exact beq_self_eq_true i

end Number
end DocQuery
