import DocQuery.Proofs.Calendar.ReadBack

/-!
# Years of all sizes

Every count of days is that of a date, since dates repeat after four centuries.
Dates with years before 0 or after 9999 are written with a sign, and are read
back like the others.
-/

namespace DocQuery
namespace Calendar

open Outcome

/-!
# Every day has a date
-/

theorem toDays_add_eras (d : Date) (eras : Int) :
    Date.toDays ⟨d.year + 400 * eras, d.month, d.day⟩ = d.toDays + 146097 * eras := by
  simp only [Date.toDays]
  split <;> omega

theorem isLeap_add_eras (year eras : Int) : isLeap (year + 400 * eras) = isLeap year := by
  rw [Bool.eq_iff_iff, isLeap_iff, isLeap_iff]
  omega

theorem isValid_add_eras (d : Date) (eras : Int) :
    Date.isValid ⟨d.year + 400 * eras, d.month, d.day⟩ = d.isValid := by
  have hlength : daysInMonth (d.year + 400 * eras) d.month = daysInMonth d.year d.month := by
    rw [daysInMonth, daysInMonth, isLeap_add_eras]
  rw [Bool.eq_iff_iff, isValid_iff, isValid_iff, hlength]

theorem isValid_ofDays (days : Int) :
    (Date.ofDays days).isValid = true ∧ (Date.ofDays days).toDays = days := by
  rcases exists_valid_toDays ((days + 719528) % 146097).toNat with ⟨d, hvalid, hcount⟩
  have hshifted := isValid_add_eras d ((days + 719528) / 146097)
  have hdays := toDays_add_eras d ((days + 719528) / 146097)
  rw [hvalid] at hshifted
  have hcounted : d.toDays + 146097 * ((days + 719528) / 146097) = days := by omega
  rw [hcounted] at hdays
  have hof := ofDays_toDays hshifted
  rw [hdays] at hof
  rw [hof]
  exact ⟨hshifted, hdays⟩

/-- A date of the calendar in the years that can be written. -/
structure Date.IsWritten (d : Date) : Prop where
  valid : d.isValid = true
  from_first : firstDate.year ≤ d.year
  to_last : d.year ≤ lastDate.year

theorem toDays_firstDate : firstDate.toDays = -96465292 := by decide

theorem toDays_lastDate : lastDate.toDays = 95026236 := by decide

theorem toDays_bounds_of_isWritten {d : Date} (h : d.IsWritten) :
    firstDate.toDays ≤ d.toDays ∧ d.toDays ≤ lastDate.toDays := by
  rcases h with ⟨hvalid, hfrom, hto⟩
  rcases day_le_of_isValid hvalid with ⟨hday31, _, _⟩
  rcases (isValid_iff d).mp hvalid with ⟨hmonth, hmonth12, hday, _⟩
  simp only [firstDate, lastDate] at hfrom hto
  rw [toDays_firstDate, toDays_lastDate]
  simp only [Date.toDays]
  split <;> omega

theorem isWritten_ofDays {days : Int} (hfrom : firstDate.toDays ≤ days)
    (hto : days ≤ lastDate.toDays) : (Date.ofDays days).IsWritten := by
  rcases isValid_ofDays days with ⟨hvalid, hdays⟩
  rw [← hdays] at hfrom hto
  rw [toDays_firstDate] at hfrom
  rw [toDays_lastDate] at hto
  generalize Date.ofDays days = d at *
  rcases day_le_of_isValid hvalid with ⟨hday31, _, _⟩
  rcases (isValid_iff d).mp hvalid with ⟨hmonth, hmonth12, hday, _⟩
  refine ⟨hvalid, ?_, ?_⟩
  -- Days tell the year next to a bound from it, and all years beyond are far off.
  · by_contra hbefore
    have hnear : d.year ≤ -262145 ∨ d.year = -262144 := by
      simp only [firstDate] at hbefore
      omega
    simp only [Date.toDays] at hfrom
    split at hfrom <;> omega
  · by_contra hafter
    have hnear : 262144 ≤ d.year ∨ d.year = 262143 := by
      simp only [lastDate] at hafter
      omega
    simp only [Date.toDays] at hto
    split at hto <;> omega

/-!
# Signed years

A number that fills its width has as many digits as it needs, which are read up
to the hyphen behind them.
-/

theorem toDigits_eq_fixedDigits (n : Nat) :
    ∃ width, 0 < width ∧ n < 10 ^ width ∧ Nat.toDigits 10 n = fixedDigits width n := by
  induction n using Nat.strongRecOn with
  | ind n ih =>
      by_cases hsmall : n < 10
      · refine ⟨1, Nat.one_pos, hsmall, ?_⟩
        rw [Nat.toDigits_of_lt_base hsmall, fixedDigits, fixedDigits, Nat.mod_eq_of_lt hsmall]
        rfl
      · rcases ih (n / 10) (by omega) with ⟨width, _, hquotient, hdigits⟩
        refine ⟨width + 1, Nat.succ_pos width, by rw [Nat.pow_succ]; omega, ?_⟩
        rw [Nat.toDigits_of_base_le (by decide) (Nat.le_of_not_lt hsmall), hdigits, fixedDigits]

theorem padded_eq_fixedDigits (n : Nat) :
    ∃ width, 0 < width ∧ n < 10 ^ width ∧ (padded 4 n).toList = fixedDigits width n := by
  by_cases hsmall : n < 10 ^ 4
  · exact ⟨4, by decide, hsmall, toList_padded (by decide) hsmall⟩
  · rcases toDigits_eq_fixedDigits n with ⟨width, hwidth, hn, hdigits⟩
    have hwide : 4 ≤ width := by
      by_contra hnarrow
      have hle : 10 ^ width ≤ 10 ^ 4 := Nat.pow_le_pow_right (by decide) (by omega)
      omega
    have hzeros : 4 - width = 0 := by omega
    refine ⟨width, hwidth, hn, ?_⟩
    simp [padded, hdigits, length_fixedDigits, hzeros]

theorem readDigits_of_not_digit (limit value : Nat) {c : Char} (hc : digitValue? c = none)
    (rest : List Char) : readDigits limit value (c :: rest) = (value, c :: rest) := by
  cases limit with
  | zero =>
      rfl
  | succ limit =>
      rw [readDigits, hc]

theorem readNumber?_of_not_digit {least : Nat} (hleast : 0 < least) (most : Nat) {c : Char}
    (hc : digitValue? c = none) (rest : List Char) : readNumber? least most (c :: rest) = none := by
  have hnone : ¬ least ≤ 0 := by omega
  simp only [readNumber?, readDigits_of_not_digit _ _ hc, Nat.sub_self, hnone, if_false]

theorem readNumber?_fixedDigits {width n limit : Nat} (hwidth : 0 < width) (hn : n < 10 ^ width)
    (hlimit : width ≤ limit) {c : Char} (hc : digitValue? c = none) (rest : List Char) :
    readNumber? 1 limit (fixedDigits width n ++ c :: rest) = some (n, c :: rest) := by
  have hread : readDigits limit 0 (fixedDigits width n ++ c :: rest) = (n, c :: rest) := by
    have h := readDigits_fixedDigits hn (limit - width) 0 (c :: rest)
    rw [Nat.add_sub_cancel' hlimit, readDigits_of_not_digit _ _ hc] at h
    simpa using h
  have hlength : 1 ≤ (fixedDigits width n ++ c :: rest).length - (c :: rest).length := by
    rw [List.length_append, length_fixedDigits, Nat.add_sub_cancel]
    exact hwidth
  simp only [readNumber?, hread, hlength, if_true]

theorem readNumber?_signed (n : Nat) (rest : List Char) :
    readNumber? 1 ((padded 4 n).toList ++ '-' :: rest).length
      ((padded 4 n).toList ++ '-' :: rest) = some (n, '-' :: rest) := by
  rcases padded_eq_fixedDigits n with ⟨width, hwidth, hn, hdigits⟩
  rw [hdigits]
  refine readNumber?_fixedDigits hwidth hn ?_ (by decide) rest
  rw [List.length_append, length_fixedDigits]
  exact Nat.le_add_right _ _

theorem yearText_signed {year : Int} (h : ¬ (0 ≤ year ∧ year ≤ 9999)) :
    ∃ sign, (sign = '-' ∧ year = -(year.natAbs : Int) ∨ sign = '+' ∧ year = year.natAbs) ∧
      (yearText year).toList = sign :: (padded 4 year.natAbs).toList := by
  unfold yearText
  rw [if_neg h]
  by_cases hneg : year < 0
  · refine ⟨'-', Or.inl ⟨rfl, by omega⟩, ?_⟩
    simp [hneg]
  · refine ⟨'+', Or.inr ⟨rfl, by omega⟩, ?_⟩
    simp [hneg]

theorem readYear?_minus (rest : List Char) :
    readYear? ('-' :: rest) =
      (readNumber? 1 rest.length rest).map fun (n, rest) => (-(n : Int), rest) :=
  rfl

theorem readYear?_plus (rest : List Char) :
    readYear? ('+' :: rest) =
      (readNumber? 1 rest.length rest).map fun (n, rest) => ((n : Int), rest) :=
  rfl

theorem trimStart_of_not_isBlank {c : Char} (h : Text.isBlank c = false) (rest : List Char) :
    Text.trimStart (c :: rest) = c :: rest := by
  simp [Text.trimStart, h]

theorem readYear?_yearText (year : Int) (rest : List Char) :
    readYear? (Text.trimStart ((yearText year).toList ++ '-' :: rest)) =
      some (year, '-' :: rest) := by
  by_cases hplain : 0 ≤ year ∧ year ≤ 9999
  · have hfits : year.toNat < 10 ^ 4 := by omega
    rw [yearText, if_pos hplain, trimStart_padded (by decide) hfits, readYear?_padded hfits,
      Int.toNat_of_nonneg hplain.1]
  · rcases yearText_signed hplain with ⟨sign, hsign, htext⟩
    rw [htext, List.cons_append]
    rcases hsign with ⟨rfl, hyear⟩ | ⟨rfl, hyear⟩
    · rw [trimStart_of_not_isBlank (by decide), readYear?_minus, readNumber?_signed]
      exact congrArg (fun y => some (y, '-' :: rest)) hyear.symm
    · rw [trimStart_of_not_isBlank (by decide), readYear?_plus, readNumber?_signed]
      exact congrArg (fun y => some (y, '-' :: rest)) hyear.symm

/-!
# Written dates are read back
-/

theorem Date.IsWritten.fits {d : Date} (h : d.IsWritten) : d.month < 10 ^ 2 ∧ d.day < 10 ^ 2 := by
  have hmonth := ((isValid_iff d).mp h.valid).2.1
  have hday := (day_le_of_isValid h.valid).1
  omega

theorem toList_toText (d : Date) :
    d.toText.toList = (yearText d.year).toList ++ '-' ::
      ((padded 2 d.month).toList ++ '-' :: (padded 2 d.day).toList) := by
  simp [Date.toText]

theorem ofText?_toText_of_isWritten {d : Date} (h : d.IsWritten) :
    Date.ofText? d.toText.toList = some d := by
  rcases h.fits with ⟨hmonth, hday⟩
  have hmonth' := readNumber?_padded (show 1 ≤ 2 by decide) (by decide) hmonth
  have hday' := readNumber?_padded (show 1 ≤ 2 by decide) (by decide) hday []
  have htrim := trimStart_padded (show 0 < 2 by decide) hday []
  rw [List.append_nil] at hday' htrim
  rw [toList_toText, Date.ofText?]
  refine bind_of_eq_some (readYear?_yearText d.year _) ?_
  refine bind_of_eq_some (readChar?_cons '-' _) ?_
  refine bind_of_eq_some (by rw [trimStart_padded (by decide) hmonth]; exact hmonth' _) ?_
  refine bind_of_eq_some (readChar?_cons '-' _) ?_
  refine bind_of_eq_some (by rw [htrim]; exact hday') ?_
  simp [h.valid, h.from_first, h.to_last]

theorem instantOfText?_toText_of_isWritten {d : Date} (h : d.IsWritten) :
    instantOfText? d.toText.toList = none := by
  by_cases hplain : 0 ≤ d.year ∧ d.year ≤ 9999
  · exact instantOfText?_toText ⟨h.valid, hplain.1, hplain.2⟩
  · rcases yearText_signed hplain with ⟨sign, hsign, htext⟩
    rw [toList_toText, htext, List.cons_append]
    have hdigit : digitValue? sign = none := by
      rcases hsign with ⟨rfl, _⟩ | ⟨rfl, _⟩ <;> decide
    rw [instantOfText?, readNumber?_of_not_digit (by decide) 4 hdigit]
    rfl

/-!
# Days of instants
-/

/-- The date that is written for an instant: the first or the last one beyond all dates. -/
def shownDate (millis : Int) : Date :=
  if isBeforeDates millis then firstDate
  else if isAfterDates millis then lastDate
  else dateOf millis

theorem dateText_eq (millis : Int) : dateText millis = (shownDate millis).toText := by
  unfold dateText shownDate
  split
  · rfl
  · split <;> rfl

theorem isWritten_shownDate (millis : Int) : (shownDate millis).IsWritten := by
  unfold shownDate
  split
  · exact ⟨by decide, by decide, by decide⟩
  · rename_i hbefore
    split
    · exact ⟨by decide, by decide, by decide⟩
    · rename_i hafter
      rw [isBeforeDates, decide_eq_true_eq] at hbefore
      rw [isAfterDates, decide_eq_true_eq] at hafter
      simp only [midnight, millisPerDay] at hbefore hafter
      apply isWritten_ofDays <;> simp only [millisPerDay] <;> omega

/-- The start of a day that has a date. -/
def IsDayStart (millis : Int) : Prop :=
  ∃ d : Date, d.IsWritten ∧ millis = midnight d

theorem shownDate_midnight {d : Date} (h : d.IsWritten) : shownDate (midnight d) = d := by
  have hbounds := toDays_bounds_of_isWritten h
  have hbefore : isBeforeDates (midnight d) = false := by
    rw [isBeforeDates, decide_eq_false_iff_not]
    simp only [midnight, millisPerDay]
    omega
  have hafter : isAfterDates (midnight d) = false := by
    rw [isAfterDates, decide_eq_false_iff_not]
    simp only [midnight, millisPerDay]
    omega
  have hdate := dateOf_midnight_add d (show 0 < 86400000 by decide)
  have hstart : midnight d + (0 : Nat) = midnight d := Int.add_zero _
  rw [hstart, ofDays_toDays h.valid] at hdate
  simp only [shownDate, hbefore, hafter, Bool.false_eq_true, if_false, hdate]

theorem midnight_shownDate_eq_iff (millis : Int) :
    midnight (shownDate millis) = millis ↔ IsDayStart millis := by
  constructor
  · intro h
    exact ⟨shownDate millis, isWritten_shownDate millis, h.symm⟩
  · rintro ⟨d, hd, rfl⟩
    rw [shownDate_midnight hd]

end Calendar
end DocQuery
