import DocQuery.Proofs.Calendar.Days
import DocQuery.Proofs.Calendar.Digits
import DocQuery.Proofs.Outcome

/-!
# Written dates and instants are read back

Dates and instants of the years with four digits.  Their texts are described by
the fields of the calendar and of the clock, which are written as padded numbers
and read one after the other.
-/

namespace DocQuery
namespace Calendar

open Outcome

/-!
# Times of day
-/

structure TimeOfDay.IsValid (t : TimeOfDay) : Prop where
  hour : t.hour < 24
  minute : t.minute < 60
  second : t.second < 60
  milli : t.milli < 1000

theorem toMillis_lt {t : TimeOfDay} (h : t.IsValid) : t.toMillis < 86400000 := by
  rcases h with ⟨hhour, hminute, hsecond, hmilli⟩
  unfold TimeOfDay.toMillis
  omega

theorem ofMillis_toMillis {t : TimeOfDay} (h : t.IsValid) :
    TimeOfDay.ofMillis t.toMillis = t := by
  rcases h with ⟨hhour, hminute, hsecond, hmilli⟩
  rcases t with ⟨hour, minute, second, milli⟩
  simp only [TimeOfDay.ofMillis, TimeOfDay.toMillis, TimeOfDay.mk.injEq]
  simp only at hhour hminute hsecond hmilli
  omega

theorem isValid_ofMillis {n : Nat} (h : n < 86400000) :
    (TimeOfDay.ofMillis n).IsValid ∧ (TimeOfDay.ofMillis n).toMillis = n := by
  refine ⟨⟨?_, ?_, ?_, ?_⟩, ?_⟩ <;> simp only [TimeOfDay.ofMillis, TimeOfDay.toMillis] <;> omega

/-!
# Instants of a day
-/

theorem dateOf_midnight_add (d : Date) {n : Nat} (h : n < 86400000) :
    dateOf (midnight d + n) = Date.ofDays d.toDays := by
  have hday : (midnight d + n) / millisPerDay = d.toDays := by
    simp only [midnight, millisPerDay]
    omega
  rw [dateOf, hday]

theorem timeOf_midnight_add (d : Date) {n : Nat} (h : n < 86400000) :
    timeOf (midnight d + n) = TimeOfDay.ofMillis n := by
  have hrest : ((midnight d + n) % millisPerDay).toNat = n := by
    simp only [midnight, millisPerDay]
    omega
  rw [timeOf, hrest]

theorem midnight_add_bounds {d : Date} (h : d.IsPlain) {n : Nat} (hn : n < 86400000) :
    -62167219200000 ≤ midnight d + n ∧ midnight d + n < 253402300800000 := by
  have hdays := toDays_bounds h
  simp only [midnight, millisPerDay]
  omega

theorem hasDate_of_bounds {millis : Int} (hfrom : -62167219200000 ≤ millis)
    (hto : millis < 253402300800000) :
    isBeforeDates millis = false ∧ isAfterDates millis = false := by
  have hfirst : midnight firstDate = -8334601228800000 := by
    decide
  have hlast : midnight lastDate = 8210266790400000 := by
    decide
  simp only [isBeforeDates, isAfterDates, hfirst, hlast, millisPerDay, decide_eq_false_iff_not]
  omega

theorem dateText_midnight_add {d : Date} (h : d.IsPlain) {n : Nat} (hn : n < 86400000) :
    dateText (midnight d + n) = d.toText := by
  have hbounds := midnight_add_bounds h hn
  rcases hasDate_of_bounds hbounds.1 hbounds.2 with ⟨hbefore, hafter⟩
  simp only [dateText, hbefore, hafter, Bool.false_eq_true, if_false]
  rw [dateOf_midnight_add d hn, ofDays_toDays h.valid]

def textOf (d : Date) (t : TimeOfDay) : String :=
  d.toText ++ "T" ++ t.toText ++ "Z"

theorem instantText_midnight_add {d : Date} (hd : d.IsPlain) {t : TimeOfDay} (ht : t.IsValid) :
    instantText (midnight d + t.toMillis) = textOf d t := by
  have hbounds := midnight_add_bounds hd (toMillis_lt ht)
  rcases hasDate_of_bounds hbounds.1 hbounds.2 with ⟨hbefore, hafter⟩
  simp only [instantText, hbefore, hafter, Bool.false_eq_true, if_false]
  rw [dateText_midnight_add hd (toMillis_lt ht), timeOf_midnight_add d (toMillis_lt ht),
    ofMillis_toMillis ht, textOf]

/-!
# Plain texts
-/

/-- A real date of the years 0000 to 9999, as `YYYY-MM-DD`. -/
def IsDateText (text : String) : Prop :=
  ∃ d : Date, d.IsPlain ∧ text = d.toText

/-- A date and time of those years, with milliseconds only when there are any. -/
def IsInstantText (text : String) : Prop :=
  ∃ (d : Date) (t : TimeOfDay), d.IsPlain ∧ t.IsValid ∧ text = textOf d t

theorem exists_midnight_add {millis : Int} (hfrom : midnight ⟨0, 1, 1⟩ ≤ millis)
    (hto : millis < midnight ⟨10000, 1, 1⟩) :
    ∃ (d : Date) (t : TimeOfDay), d.IsPlain ∧ t.IsValid ∧ millis = midnight d + t.toMillis := by
  have hstart : midnight ⟨0, 1, 1⟩ = -62167219200000 := by
    decide
  have hend : midnight ⟨10000, 1, 1⟩ = 253402300800000 := by
    decide
  rw [hstart] at hfrom
  rw [hend] at hto
  have hdays : -719528 ≤ millis / 86400000 ∧ millis / 86400000 ≤ 2932896 := by omega
  rcases isPlain_ofDays hdays.1 hdays.2 with ⟨hplain, hcount⟩
  rcases isValid_ofMillis (n := (millis % 86400000).toNat) (by omega) with ⟨hvalid, hmillis⟩
  refine ⟨_, _, hplain, hvalid, ?_⟩
  rw [hmillis, midnight, hcount, millisPerDay]
  omega

/-- The plain texts are just what is written for the instants of the years 0000 to 9999. -/
theorem isInstantText_iff {text : String} :
    IsInstantText text ↔ ∃ millis : Int,
      midnight ⟨0, 1, 1⟩ ≤ millis ∧ millis < midnight ⟨10000, 1, 1⟩ ∧ text = instantText millis := by
  constructor
  · rintro ⟨d, t, hd, ht, rfl⟩
    have hbounds := midnight_add_bounds hd (toMillis_lt ht)
    exact ⟨midnight d + t.toMillis, hbounds.1, hbounds.2, (instantText_midnight_add hd ht).symm⟩
  · rintro ⟨millis, hfrom, hto, rfl⟩
    rcases exists_midnight_add hfrom hto with ⟨d, t, hd, ht, rfl⟩
    exact ⟨d, t, hd, ht, instantText_midnight_add hd ht⟩

/-!
# Reading the fields
-/

theorem toText_of_isPlain {d : Date} (h : d.IsPlain) :
    d.toText = padded 4 d.year.toNat ++ "-" ++ padded 2 d.month ++ "-" ++ padded 2 d.day ∧
      d.year.toNat < 10 ^ 4 ∧ d.month < 10 ^ 2 ∧ d.day < 10 ^ 2 := by
  rcases h with ⟨hvalid, hfrom, hto⟩
  have hday := (day_le_of_isValid hvalid).1
  have hmonth := ((isValid_iff d).mp hvalid).2.1
  have hyear : yearText d.year = padded 4 d.year.toNat := by
    simp [yearText, hfrom, hto]
  rw [Date.toText, hyear]
  exact ⟨rfl, by omega, by omega, by omega⟩

theorem toList_toText_append {d : Date} (h : d.IsPlain) (rest : List Char) :
    d.toText.toList ++ rest =
      (padded 4 d.year.toNat).toList ++
        '-' :: ((padded 2 d.month).toList ++ '-' :: ((padded 2 d.day).toList ++ rest)) := by
  simp [(toText_of_isPlain h).1]

theorem toList_textOf (d : Date) (t : TimeOfDay) :
    (textOf d t).toList =
      d.toText.toList ++ 'T' :: ((padded 2 t.hour).toList ++
        ':' :: ((padded 2 t.minute).toList ++ ':' :: ((padded 2 t.second).toList ++
          ((if t.milli = 0 then "" else "." ++ padded 3 t.milli).toList ++ ['Z'])))) := by
  simp [textOf, TimeOfDay.toText]

theorem readChar?_cons (c : Char) (rest : List Char) : readChar? c (c :: rest) = some rest := by
  simp [readChar?]

theorem readSeparator?_cons (rest : List Char) : readSeparator? ('T' :: rest) = some rest := by
  simp [readSeparator?]

theorem readTwo?_padded {n : Nat} (h : n < 10 ^ 2) (rest : List Char) :
    readNumber? 2 2 ((padded 2 n).toList ++ rest) = some (n, rest) :=
  readNumber?_padded (Nat.le_refl 2) (by decide) h rest

theorem readFraction?_fraction {milli : Nat} (h : milli < 1000) :
    readFraction? ((if milli = 0 then "" else "." ++ padded 3 milli).toList ++ ['Z']) =
      some (milli, ['Z']) := by
  by_cases hzero : milli = 0
  · simp [hzero, readFraction?]
  · have hread := readFraction?_padded h (c := 'Z') (by decide) []
    simpa [hzero] using hread

theorem instantOfText?_textOf {d : Date} (hd : d.IsPlain) {t : TimeOfDay} (ht : t.IsValid) :
    instantOfText? (textOf d t).toList = some (midnight d + t.toMillis) := by
  rcases toText_of_isPlain hd with ⟨_, hyear, hmonth, hday⟩
  rcases ht with ⟨hhour, hminute, hsecond, hmilli⟩
  have hclock : t.hour ≤ 23 ∧ t.minute ≤ 59 ∧ t.second ≤ 60 := by
    omega
  rw [toList_textOf, toList_toText_append hd, instantOfText?]
  refine bind_of_eq_some (readNumber?_padded (Nat.le_refl 4) (by decide) hyear _) ?_
  refine bind_of_eq_some (readChar?_cons '-' _) ?_
  refine bind_of_eq_some (readTwo?_padded hmonth _) ?_
  refine bind_of_eq_some (readChar?_cons '-' _) ?_
  refine bind_of_eq_some (readTwo?_padded hday _) ?_
  refine bind_of_eq_some (readSeparator?_cons _) ?_
  refine bind_of_eq_some (readTwo?_padded (Nat.lt_trans hhour (by decide)) _) ?_
  refine bind_of_eq_some (readChar?_cons ':' _) ?_
  refine bind_of_eq_some (readTwo?_padded (Nat.lt_trans hminute (by decide)) _) ?_
  refine bind_of_eq_some (readChar?_cons ':' _) ?_
  refine bind_of_eq_some (readTwo?_padded (Nat.lt_trans hsecond (by decide)) _) ?_
  refine bind_of_eq_some (readFraction?_fraction hmilli) ?_
  refine bind_of_eq_some (a := (0, [])) rfl ?_
  simp only [Int.toNat_of_nonneg hd.from_zero, hd.valid, hclock]
  simp

theorem instantOfText?_toText {d : Date} (h : d.IsPlain) :
    instantOfText? d.toText.toList = none := by
  rcases toText_of_isPlain h with ⟨_, hyear, hmonth, hday⟩
  have htext := toList_toText_append h []
  rw [List.append_nil] at htext
  rw [htext, instantOfText?]
  refine bind_of_eq_some (readNumber?_padded (Nat.le_refl 4) (by decide) hyear _) ?_
  refine bind_of_eq_some (readChar?_cons '-' _) ?_
  refine bind_of_eq_some (readTwo?_padded hmonth _) ?_
  refine bind_of_eq_some (readChar?_cons '-' _) ?_
  refine bind_of_eq_some (readTwo?_padded hday _) ?_
  rfl

/-!
# Reading a date alone

Blank space may stand before each number, and there is none where a digit comes
next.
-/

theorem trimStart_digitChar {digit : Nat} (h : digit < 10) (rest : List Char) :
    Text.trimStart (Nat.digitChar digit :: rest) = Nat.digitChar digit :: rest := by
  have hall : ∀ digit : Fin 10, Text.isBlank (Nat.digitChar digit.val) = false := by
    decide
  simp [Text.trimStart, hall ⟨digit, h⟩]

theorem trimStart_padded {width n : Nat} (hwidth : 0 < width) (hn : n < 10 ^ width)
    (rest : List Char) :
    Text.trimStart ((padded width n).toList ++ rest) = (padded width n).toList ++ rest := by
  cases width with
  | zero =>
      exact absurd hwidth (Nat.lt_irrefl 0)
  | succ width =>
      rcases exists_digitChar_padded hn with ⟨digit, tail, hdigit, htext⟩
      rw [htext]
      exact trimStart_digitChar hdigit (tail ++ rest)

theorem readYear?_digitChar {digit : Nat} (h : digit < 10) (rest : List Char) :
    readYear? (Nat.digitChar digit :: rest) =
      (readNumber? 1 4 (Nat.digitChar digit :: rest)).map fun (n, rest) => ((n : Int), rest) := by
  interval_cases digit <;> rfl

theorem readYear?_padded {n : Nat} (hn : n < 10 ^ 4) (rest : List Char) :
    readYear? ((padded 4 n).toList ++ rest) = some ((n : Int), rest) := by
  have hnumber : readNumber? 1 4 ((padded 4 n).toList ++ rest) = some (n, rest) :=
    readNumber?_padded (by decide) (by decide) hn rest
  rcases exists_digitChar_padded hn with ⟨digit, tail, hdigit, htext⟩
  rw [htext, List.cons_append] at hnumber ⊢
  rw [readYear?_digitChar hdigit, hnumber]
  rfl

theorem ofText?_toText {d : Date} (h : d.IsPlain) : Date.ofText? d.toText.toList = some d := by
  rcases toText_of_isPlain h with ⟨_, hyear, hmonth, hday⟩
  have htext := toList_toText_append h []
  have hwritten : firstDate.year ≤ d.year ∧ d.year ≤ lastDate.year := by
    have hfrom := h.from_zero
    have hto := h.to_last
    simp only [firstDate, lastDate]
    omega
  have hmonth' := readNumber?_padded (show 1 ≤ 2 by decide) (by decide) hmonth
  have hday' := readNumber?_padded (show 1 ≤ 2 by decide) (by decide) hday
  rw [List.append_nil] at htext
  rw [htext, Date.ofText?, trimStart_padded (by decide) hyear]
  refine bind_of_eq_some (readYear?_padded hyear _) ?_
  refine bind_of_eq_some (readChar?_cons '-' _) ?_
  refine bind_of_eq_some (by rw [trimStart_padded (by decide) hmonth]; exact hmonth' _) ?_
  refine bind_of_eq_some (readChar?_cons '-' _) ?_
  refine bind_of_eq_some (by rw [trimStart_padded (by decide) hday]; exact hday' _) ?_
  simp only [Int.toNat_of_nonneg h.from_zero, h.valid, hwritten]
  simp

end Calendar
end DocQuery
