import DocQuery.Calendar.Instant
import Mathlib.Algebra.Ring.Nat

/-!
# Digits of a fixed width

A padded number has exactly as many digits as its width, as long as it fits.
Reading that many digits gives the number back and leaves what follows it.
-/

namespace DocQuery
namespace Calendar

/-- The last `width` decimal digits of a number, high digit first. -/
def fixedDigits : Nat → Nat → List Char
  | 0, _ => []
  | width + 1, n => fixedDigits width (n / 10) ++ [Nat.digitChar (n % 10)]

theorem length_fixedDigits (width n : Nat) : (fixedDigits width n).length = width := by
  induction width generalizing n with
  | zero =>
      rfl
  | succ width ih =>
      simp [fixedDigits, ih]

theorem fixedDigits_zero (width : Nat) : fixedDigits width 0 = List.replicate width '0' := by
  induction width with
  | zero =>
      rfl
  | succ width ih =>
      simp [fixedDigits, ih, List.replicate_succ']

/-!
# Padded numbers
-/

theorem toList_padded {width n : Nat} (hwidth : 0 < width) (hn : n < 10 ^ width) :
    (padded width n).toList = fixedDigits width n := by
  induction width generalizing n with
  | zero =>
      exact absurd hwidth (Nat.lt_irrefl 0)
  | succ width ih =>
      by_cases hsmall : n < 10
      · have hquotient : n / 10 = 0 := by omega
        have hremainder : n % 10 = n := by omega
        simp [padded, fixedDigits, Nat.toDigits_of_lt_base hsmall, hquotient, hremainder,
          fixedDigits_zero]
      · have hwidth' : 0 < width := by
          cases width with
          | zero =>
              exact absurd hn hsmall
          | succ width =>
              exact Nat.succ_pos width
        have hquotient : n / 10 < 10 ^ width := by
          rw [Nat.pow_succ] at hn
          omega
        have htail := ih hwidth' hquotient
        simp only [padded, String.toList_ofList] at htail ⊢
        rw [Nat.toDigits_of_base_le (by decide) (Nat.le_of_not_lt hsmall), fixedDigits, ← htail]
        simp

/-!
# Reading digits
-/

theorem digitValue?_digitChar {d : Nat} (h : d < 10) : digitValue? (Nat.digitChar d) = some d := by
  have hall : ∀ d : Fin 10, digitValue? (Nat.digitChar d.val) = some d.val := by
    decide
  exact hall ⟨d, h⟩

theorem isSome_digitValue?_of_mem_fixedDigits {width n : Nat} {c : Char}
    (h : c ∈ fixedDigits width n) : (digitValue? c).isSome = true := by
  induction width generalizing n with
  | zero =>
      exact absurd h List.not_mem_nil
  | succ width ih =>
      rw [fixedDigits, List.mem_append, List.mem_singleton] at h
      rcases h with h | rfl
      · exact ih h
      · rw [digitValue?_digitChar (Nat.mod_lt n (by decide))]
        rfl

theorem readDigits_fixedDigits {width n : Nat} (hn : n < 10 ^ width) (limit value : Nat)
    (rest : List Char) :
    readDigits (width + limit) value (fixedDigits width n ++ rest) =
      readDigits limit (value * 10 ^ width + n) rest := by
  induction width generalizing n limit rest with
  | zero =>
      have hn0 : n = 0 := by omega
      simp [fixedDigits, hn0]
  | succ width ih =>
      rw [Nat.pow_succ] at hn
      have hhigh : n / 10 < 10 ^ width := by omega
      have hlow : n % 10 < 10 := Nat.mod_lt n (by decide)
      have hlimit : width + 1 + limit = width + (limit + 1) := by omega
      have hvalue : 10 * (value * 10 ^ width + n / 10) + n % 10 =
          value * 10 ^ (width + 1) + n := by
        have hshift : value * 10 ^ (width + 1) = 10 * (value * 10 ^ width) := by
          rw [Nat.pow_succ, ← Nat.mul_assoc, Nat.mul_comm]
        omega
      rw [fixedDigits, List.append_assoc, hlimit, ih hhigh]
      simp only [List.singleton_append, readDigits, digitValue?_digitChar hlow, hvalue]

theorem readNumber?_padded {least width n : Nat} (hleast : least ≤ width) (hwidth : 0 < width)
    (hn : n < 10 ^ width) (rest : List Char) :
    readNumber? least width ((padded width n).toList ++ rest) = some (n, rest) := by
  have hread : readDigits width 0 (fixedDigits width n ++ rest) = (n, rest) := by
    have h := readDigits_fixedDigits hn 0 0 rest
    simpa [readDigits] using h
  have hlength : least ≤ (fixedDigits width n ++ rest).length - rest.length := by
    simpa [length_fixedDigits] using hleast
  rw [toList_padded hwidth hn]
  simp only [readNumber?, hread, hlength, if_true]

theorem exists_digitChar_padded {width n : Nat} (hn : n < 10 ^ (width + 1)) :
    ∃ d tail, d < 10 ∧ (padded (width + 1) n).toList = Nat.digitChar d :: tail := by
  rw [toList_padded (Nat.succ_pos width) hn]
  clear hn
  induction width generalizing n with
  | zero =>
      exact ⟨n % 10, [], Nat.mod_lt n (by decide), rfl⟩
  | succ width ih =>
      rcases ih (n := n / 10) with ⟨d, tail, hd, htail⟩
      exact ⟨d, tail ++ [Nat.digitChar (n % 10)], hd, by rw [fixedDigits, htail]; rfl⟩

/-!
# Fractions
-/

theorem readFraction?_padded {milli : Nat} (hmilli : milli < 1000) {c : Char}
    (hc : digitValue? c = none) (rest : List Char) :
    readFraction? ('.' :: (padded 3 milli).toList ++ c :: rest) = some (milli, c :: rest) := by
  have hdigits : (fixedDigits 3 milli ++ c :: rest).takeWhile
      (fun c => (digitValue? c).isSome) = fixedDigits 3 milli := by
    rw [List.takeWhile_append_of_pos fun a ha => isSome_digitValue?_of_mem_fixedDigits ha]
    simp [hc]
  have hread : readDigits 3 0 (fixedDigits 3 milli) = (milli, []) := by
    have hwidth : milli < 10 ^ 3 := hmilli
    have h := readDigits_fixedDigits hwidth 0 0 []
    simpa [readDigits] using h
  have hlength := length_fixedDigits 3 milli
  have hsome : (fixedDigits 3 milli).isEmpty = false := by
    rw [List.isEmpty_eq_false_iff_exists_mem]
    exact ⟨_, List.mem_append_right _ (List.mem_singleton_self _)⟩
  have hdrop : (fixedDigits 3 milli ++ c :: rest).drop 3 = c :: rest :=
    List.drop_left' hlength
  rw [toList_padded (by decide) hmilli]
  simp only [readFraction?, List.cons_append, hdigits, hsome, hlength,
    List.take_of_length_le (Nat.le_of_eq hlength), Nat.sub_self, List.replicate_zero,
    List.append_nil, hread, hdrop, Bool.false_eq_true, if_false]

end Calendar
end DocQuery
