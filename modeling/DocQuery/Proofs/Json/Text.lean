import DocQuery.Json.Text
import Mathlib.Tactic.SplitIfs

/-!
# Escaped texts

A text that was escaped is read up to the quote behind it, and what was read stands
for the text again.  Each character is escaped in one of three ways.
-/

namespace DocQuery
namespace Json

/-!
# Ways to write a character
-/

/-- The ways in which a character may be written. -/
inductive WrittenAs (c : Char) : List Char → Prop where
  | letter {l : Char} (h : plainEscape? l = some c) : WrittenAs c ['\\', l]
  | unit {high low : Char} (hunit : unit? '0' '0' high low = some c.toNat)
      (hcontrol : c.toNat < 32) : WrittenAs c ['\\', 'u', '0', '0', high, low]
  | plain (hquote : c ≠ '"') (hbackslash : c ≠ '\\') (hcontrol : ¬ c < ' ') : WrittenAs c [c]

theorem unit?_digits {n : Nat} (h : n < 32) :
    unit? '0' '0' (Hex.digit (n / 16)) (Hex.digit (n % 16)) = some n := by
  have hzero : Hex.value? '0' = some 0 := by decide
  have hhigh : Hex.value? (Hex.digit (n / 16)) = some (n / 16) :=
    Hex.value?_digit_of_lt (by omega)
  have hlow : Hex.value? (Hex.digit (n % 16)) = some (n % 16) :=
    Hex.value?_digit_of_lt (by omega)
  have hsum : ((0 * 16 + 0) * 16 + n / 16) * 16 + n % 16 = n := by omega
  simp only [unit?, hzero, hhigh, hlow, Option.bind_eq_bind, Option.bind_some, hsum]

theorem writtenAs_escapedChar (c : Char) : WrittenAs c (escapedChar c) := by
  unfold escapedChar
  split_ifs with hquote hbackslash _ _ _ _ _ hcontrol
  iterate 7
    · subst c
      exact .letter rfl
  · exact .unit (unit?_digits hcontrol) hcontrol
  · exact .plain hquote hbackslash hcontrol

/-!
# Reading
-/

theorem letter_ne_u {c l : Char} (h : plainEscape? l = some c) : l ≠ 'u' := by
  rintro rfl
  cases h

theorem WrittenAs.readWritten? {c : Char} {written : List Char} (h : WrittenAs c written)
    (rest : List Char) :
    Json.readWritten? (written ++ rest) = prependRead written (Json.readWritten? rest) := by
  cases h with
  | letter h =>
      have hne := letter_ne_u h
      simp [Json.readWritten?, hne, h]
  | unit hunit hcontrol =>
      simp [Json.readWritten?, hunit]
  | plain hquote hbackslash hcontrol =>
      simp [Json.readWritten?, hbackslash, hcontrol]

theorem WrittenAs.decode {c : Char} {written : List Char} (h : WrittenAs c written)
    (rest : List Char) :
    Json.decode (written ++ rest) = (Json.decode rest).map (c :: ·) := by
  cases h with
  | letter h =>
      have hne := letter_ne_u h
      simp [Json.decode, hne, h]
  | unit hunit hcontrol =>
      have hlow : isLowUnit c.toNat = false := by
        simp [isLowUnit]
        omega
      have hhigh : isHighUnit c.toNat = false := by
        simp [isHighUnit]
        omega
      simp only [List.cons_append, List.nil_append]
      rw [Json.decode.eq_def]
      simp [hunit, hlow, hhigh]
  | plain hquote hbackslash hcontrol =>
      simp [Json.decode, hbackslash]

theorem readWritten?_escaped (text : String) (rest : List Char) :
    readWritten? (escaped text ++ '"' :: rest) = some (escaped text, rest) := by
  unfold escaped
  induction text.toList with
  | nil =>
      rfl
  | cons c chars ih =>
      rw [List.flatMap_cons, List.append_assoc, (writtenAs_escapedChar c).readWritten?, ih]
      rfl

theorem decode_escaped (text : String) : decode (escaped text) = .ok text.toList := by
  unfold escaped
  induction text.toList with
  | nil =>
      rfl
  | cons c chars ih =>
      rw [List.flatMap_cons, (writtenAs_escapedChar c).decode, ih]
      rfl

theorem decodeText_escaped (text : String) : decodeText (escaped text) = .ok text := by
  rw [decodeText, decode_escaped]
  exact congrArg _ String.ofList_toList

end Json
end DocQuery
