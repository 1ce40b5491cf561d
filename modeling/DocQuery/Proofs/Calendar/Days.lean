import DocQuery.Calendar.Instant
import Mathlib.Tactic.IntervalCases

/-!
# Counted days

The count of days determines the date: what is counted from a valid date is
taken apart into the same date again.  Years are those that start in March.
-/

namespace DocQuery
namespace Calendar

/-!
# Years of an era

An era has four centuries, a century twenty-five cycles of four years.  The
quotients that find the year are off by at most one within a cycle, at its last
days, and the leap day at the end of the era belongs to its last year.
-/

theorem exists_centuries {y : Int} (hy : 0 ≤ y) (hy' : y < 400) :
    ∃ q s t : Int, y = 100 * q + 4 * s + t ∧ (0 ≤ q ∧ q ≤ 3) ∧ (0 ≤ s ∧ s ≤ 24) ∧
      (0 ≤ t ∧ t ≤ 3) ∧ y / 4 = 25 * q + s ∧ y / 100 = q :=
  ⟨y / 100, y % 100 / 4, y % 4, by omega, by omega, by omega, by omega, by omega, rfl⟩

theorem yearOfEra_eq {y doy : Int} (hy : 0 ≤ y) (hy' : y < 400) (hd : 0 ≤ doy) (hd' : doy ≤ 365)
    (hleap : doy = 365 → (y + 1) % 4 = 0 ∧ ((y + 1) % 100 ≠ 0 ∨ (y + 1) % 400 = 0)) {e : Int}
    (he : e = y * 365 + y / 4 - y / 100 + doy) :
    (e - e / 1460 + e / 36524 - e / 146096) / 365 = y := by
  rcases exists_centuries hy hy' with ⟨q, s, t, rfl, hq, hs, ht, hy4, hy100⟩
  have hsum : e = 36524 * q + 1461 * s + 365 * t + doy := by
    rw [he, hy4, hy100]
    omega
  clear he hy4 hy100
  by_cases hlast : doy = 365
  · have ht3 : t = 3 := by
      have := (hleap hlast).1
      omega
    subst ht3 hlast
    have hcycles : e / 1460 = 25 * q + s + 1 := by omega
    by_cases hs24 : s = 24
    · have hq3 : q = 3 := by
        have := (hleap rfl).2
        omega
      subst hs24 hq3 hsum
      rfl
    · have hcentury : e / 36524 = q := by omega
      have hera : e / 146096 = 0 := by omega
      rw [hcycles, hcentury, hera]
      omega
  · have hcentury : e / 36524 = q := by omega
    have hera : e / 146096 = 0 := by omega
    rw [hcentury, hera]
    by_cases hlate : 1460 ≤ 24 * q + s + 365 * t + doy
    · have hcycles : e / 1460 = 25 * q + s + 1 := by omega
      rw [hcycles]
      omega
    · have hcycles : e / 1460 = 25 * q + s := by omega
      rw [hcycles]
      omega

/-!
# Days of a year

Months have 153 days in every five of them, from March on.
-/

theorem monthOfYear_eq {m day : Int} (hday : 1 ≤ day)
    (hday' : (153 * m + 2) / 5 + day ≤ (153 * (m + 1) + 2) / 5) :
    (5 * ((153 * m + 2) / 5 + day - 1) + 2) / 153 = m := by
  omega

theorem ofDays_march (era : Int) {y m : Int} (day : Int) (hy : 0 ≤ y ∧ y < 400) (hm : 0 ≤ m ∧ m ≤ 11)
    (hday : 1 ≤ day) (hday' : (153 * m + 2) / 5 + day ≤ (153 * (m + 1) + 2) / 5)
    (hlast : (153 * m + 2) / 5 + day ≤ 366)
    (hleap : (153 * m + 2) / 5 + day = 366 →
      (y + 1) % 4 = 0 ∧ ((y + 1) % 100 ≠ 0 ∨ (y + 1) % 400 = 0)) :
    Date.ofDays (era * 146097 +
        (y * 365 + y / 4 - y / 100 + ((153 * m + 2) / 5 + day - 1)) - 719468) =
      if m < 10 then ⟨y + era * 400, (m + 3).toNat, day.toNat⟩
      else ⟨y + era * 400 + 1, (m - 9).toNat, day.toNat⟩ := by
  have hmonth := monthOfYear_eq hday hday'
  generalize hdoy : (153 * m + 2) / 5 + day - 1 = doy at *
  have hstart : 0 ≤ (153 * m + 2) / 5 := by omega
  have hfirst : 0 ≤ doy := by omega
  have hyear := yearOfEra_eq hy.1 hy.2 hfirst (by omega) (fun h => hleap (by omega)) rfl
  generalize he : y * 365 + y / 4 - y / 100 + doy = e at *
  have hera : 0 ≤ e ∧ e < 146097 := by
    have := hleap
    omega
  have hquotient : (era * 146097 + e) / 146097 = era := by omega
  have hremainder : (era * 146097 + e) % 146097 = e := by omega
  have hrest : e - (365 * y + y / 4 - y / 100) = doy := by omega
  simp only [Date.ofDays, Int.sub_add_cancel, hquotient, hremainder, hyear, hrest, hmonth]
  have hback : doy - (153 * m + 2) / 5 + 1 = day := by omega
  rw [hback]

theorem isValid_iff (d : Date) :
    d.isValid = true ↔
      1 ≤ d.month ∧ d.month ≤ 12 ∧ 1 ≤ d.day ∧ d.day ≤ daysInMonth d.year d.month := by
  simp [Date.isValid, and_assoc]

theorem isLeap_iff (year : Int) :
    isLeap year = true ↔ year % 4 = 0 ∧ (year % 100 ≠ 0 ∨ year % 400 = 0) := by
  simp [isLeap]

theorem day_le_of_isValid {d : Date} (h : d.isValid = true) :
    d.day ≤ 31 ∧ (d.month = 4 ∨ d.month = 6 ∨ d.month = 9 ∨ d.month = 11 → d.day ≤ 30) ∧
      (d.month = 2 → d.day ≤ 28 ∨ d.day = 29 ∧ isLeap d.year = true) := by
  have hlength := ((isValid_iff d).mp h).2.2.2
  unfold daysInMonth at hlength
  split at hlength
  · rename_i hmonth
    split at hlength
    · rename_i hleap
      refine ⟨by omega, by omega, fun _ => ?_⟩
      rcases Nat.lt_or_ge d.day 29 with hday | hday
      · exact Or.inl (by omega)
      · exact Or.inr ⟨by omega, hleap⟩
    · exact ⟨by omega, by omega, fun _ => Or.inl hlength⟩
  · split at hlength
    · exact ⟨by omega, fun _ => hlength, fun _ => by omega⟩
    · exact ⟨hlength, fun _ => by omega, fun _ => by omega⟩

/-- January and February belong to the year that started the March before. -/
theorem ofDays_toDays_of_early {d : Date} (h : d.isValid = true) (hearly : d.month ≤ 2) :
    Date.ofDays d.toDays = d := by
  rcases day_le_of_isValid h with ⟨hday31, _, hfebruary⟩
  rcases (isValid_iff d).mp h with ⟨hmonth, _, hday, _⟩
  have hlengths : d.month = 1 ∨ d.month = 2 ∧ d.day ≤ 28 ∨
      d.month = 2 ∧ d.day = 29 ∧ d.year % 4 = 0 ∧ (d.year % 100 ≠ 0 ∨ d.year % 400 = 0) := by
    rw [isLeap_iff] at hfebruary
    omega
  have hparts := ofDays_march ((d.year - 1) / 400) (y := (d.year - 1) % 400)
    (m := (d.month : Int) + 9) d.day (by omega) (by omega) (by omega) (by omega)
    (by omega) (by omega)
  have hlate : ¬ (d.month : Int) + 9 < 10 := by omega
  have hdays : d.toDays = (d.year - 1) / 400 * 146097 + ((d.year - 1) % 400 * 365 +
      (d.year - 1) % 400 / 4 - (d.year - 1) % 400 / 100 +
        ((153 * ((d.month : Int) + 9) + 2) / 5 + d.day - 1)) - 719468 := by
    simp [Date.toDays, hearly]
  rw [hdays, hparts, if_neg hlate]
  rcases d with ⟨year, month, day⟩
  simp only [Date.mk.injEq]
  omega

theorem day_le_nextMonth {month day : Nat} (hmonth : 3 ≤ month) (hmonth' : month ≤ 12)
    (hday : day ≤ 31)
    (hshort : month = 4 ∨ month = 6 ∨ month = 9 ∨ month = 11 → day ≤ 30) :
    (153 * ((month : Int) - 3) + 2) / 5 + day ≤ (153 * ((month : Int) - 3 + 1) + 2) / 5 := by
  interval_cases month <;> omega

theorem ofDays_toDays_of_late {d : Date} (h : d.isValid = true) (hlate : ¬ d.month ≤ 2) :
    Date.ofDays d.toDays = d := by
  rcases day_le_of_isValid h with ⟨hday31, hshort, _⟩
  rcases (isValid_iff d).mp h with ⟨_, hmonth, hday, _⟩
  have hparts := ofDays_march (d.year / 400) (y := d.year % 400)
    (m := (d.month : Int) - 3) d.day (by omega) (by omega) (by omega)
    (day_le_nextMonth (by omega) hmonth hday31 hshort) (by omega) (by omega)
  have hearly : (d.month : Int) - 3 < 10 := by omega
  have hdays : d.toDays = d.year / 400 * 146097 + (d.year % 400 * 365 +
      d.year % 400 / 4 - d.year % 400 / 100 +
        ((153 * ((d.month : Int) - 3) + 2) / 5 + d.day - 1)) - 719468 := by
    simp [Date.toDays, hlate]
  rw [hdays, hparts, if_pos hearly]
  rcases d with ⟨year, month, day⟩
  simp only [Date.mk.injEq]
  omega

theorem ofDays_toDays {d : Date} (h : d.isValid = true) : Date.ofDays d.toDays = d := by
  by_cases hearly : d.month ≤ 2
  · exact ofDays_toDays_of_early h hearly
  · exact ofDays_toDays_of_late h hearly

/-!
# Written years

The dates that are written with a year of four digits, and where their days lie.
-/

/-- A date of the calendar in the years that have four digits and no sign. -/
structure Date.IsPlain (d : Date) : Prop where
  valid : d.isValid = true
  from_zero : 0 ≤ d.year
  to_last : d.year ≤ 9999

theorem toDays_bounds {d : Date} (h : d.IsPlain) : -719528 ≤ d.toDays ∧ d.toDays ≤ 2932896 := by
  rcases h with ⟨hvalid, hfrom, hto⟩
  rcases day_le_of_isValid hvalid with ⟨hday31, _, _⟩
  rcases (isValid_iff d).mp hvalid with ⟨hmonth, hmonth12, hday, _⟩
  simp only [Date.toDays]
  split <;> omega

/-!
# Every day has a date

From a valid date the next one is one day later, so that walking on from the
first plain date meets every number of days.
-/

def Date.next (d : Date) : Date :=
  if d.day < daysInMonth d.year d.month then ⟨d.year, d.month, d.day + 1⟩
  else if d.month < 12 then ⟨d.year, d.month + 1, 1⟩
  else ⟨d.year + 1, 1, 1⟩

theorem one_le_daysInMonth (year : Int) (month : Nat) : 1 ≤ daysInMonth year month := by
  unfold daysInMonth
  split_ifs <;> decide

theorem isValid_next {d : Date} (h : d.isValid = true) : d.next.isValid = true := by
  rcases (isValid_iff d).mp h with ⟨hmonth, hmonth', _, _⟩
  rw [isValid_iff]
  unfold Date.next
  split_ifs with hday hyear
  · exact ⟨hmonth, hmonth', by simp, hday⟩
  · exact ⟨by simp, hyear, Nat.le_refl 1, one_le_daysInMonth _ _⟩
  · exact ⟨Nat.le_refl 1, by simp, Nat.le_refl 1, one_le_daysInMonth _ _⟩

theorem toDays_firstOfNext {year : Int} {month : Nat} (hmonth : 1 ≤ month) (hmonth' : month < 12) :
    Date.toDays ⟨year, month + 1, 1⟩ =
      Date.toDays ⟨year, month, daysInMonth year month⟩ + 1 := by
  by_cases hfebruary : month = 2
  · subst hfebruary
    have hlength : daysInMonth year 2 = 28 ∧ ¬ (year % 4 = 0 ∧ (year % 100 ≠ 0 ∨ year % 400 = 0)) ∨
        daysInMonth year 2 = 29 ∧ year % 4 = 0 ∧ (year % 100 ≠ 0 ∨ year % 400 = 0) := by
      rw [← isLeap_iff]
      cases h : isLeap year <;> simp [daysInMonth, h]
    generalize daysInMonth year 2 = length at *
    simp only [Date.toDays, Nat.reduceAdd, Nat.reduceLeDiff, if_true, if_false]
    omega
  · have hlength : daysInMonth year month =
        if month = 4 ∨ month = 6 ∨ month = 9 ∨ month = 11 then 30 else 31 := by
      simp [daysInMonth, hfebruary]
    rw [hlength]
    interval_cases month <;> simp [Date.toDays] at hfebruary ⊢ <;> omega

theorem toDays_next {d : Date} (h : d.isValid = true) : d.next.toDays = d.toDays + 1 := by
  rcases (isValid_iff d).mp h with ⟨hmonth, hmonth', _, hday⟩
  rcases d with ⟨year, month, day⟩
  simp only at hmonth hmonth' hday
  unfold Date.next
  split_ifs with hless hyear
  · simp only [Date.toDays]
    omega
  · have hlast : day = daysInMonth year month := by
      simp only at hless
      omega
    rw [hlast]
    exact toDays_firstOfNext hmonth hyear
  · have hlast : day = 31 := by
      have hdecember : month = 12 := by
        simp only at hyear
        omega
      subst hdecember
      simp [daysInMonth] at hless hday
      omega
    have hdecember : month = 12 := by
      simp only at hyear
      omega
    subst hlast hdecember
    simp [Date.toDays]
    omega

theorem exists_valid_toDays (n : Nat) : ∃ d : Date, d.isValid = true ∧ d.toDays = -719528 + n := by
  induction n with
  | zero =>
      exact ⟨⟨0, 1, 1⟩, by decide, by decide⟩
  | succ n ih =>
      rcases ih with ⟨d, hd, hdays⟩
      exact ⟨d.next, isValid_next hd, by rw [toDays_next hd, hdays]; omega⟩

theorem year_bounds_of_toDays {d : Date} (h : d.isValid = true) (hfrom : -719528 ≤ d.toDays)
    (hto : d.toDays ≤ 2932896) : 0 ≤ d.year ∧ d.year ≤ 9999 := by
  rcases day_le_of_isValid h with ⟨hday31, _, _⟩
  rcases (isValid_iff d).mp h with ⟨hmonth, hmonth12, hday, _⟩
  have hnear : d.year ≤ -2 ∨ d.year = -1 ∨ 0 ≤ d.year ∧ d.year ≤ 9999 ∨ d.year = 10000 ∨
      10001 ≤ d.year := by
    omega
  by_cases hearly : d.month ≤ 2
  · simp only [Date.toDays, hearly, if_true] at hfrom hto
    omega
  · simp only [Date.toDays, hearly, if_false] at hfrom hto
    omega

theorem isPlain_ofDays {days : Int} (hfrom : -719528 ≤ days) (hto : days ≤ 2932896) :
    (Date.ofDays days).IsPlain ∧ (Date.ofDays days).toDays = days := by
  rcases exists_valid_toDays (days + 719528).toNat with ⟨d, hvalid, hcount⟩
  have hdays : d.toDays = days := by omega
  have hyear := year_bounds_of_toDays hvalid (by omega) (by omega)
  have hof : Date.ofDays days = d := by
    rw [← hdays, ofDays_toDays hvalid]
  rw [hof]
  exact ⟨⟨hvalid, hyear.1, hyear.2⟩, hdays⟩

end Calendar
end DocQuery
