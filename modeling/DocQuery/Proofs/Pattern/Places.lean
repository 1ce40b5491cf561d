import DocQuery.Pattern.Places

/-!
# Going from place to place

An expression is matched by going through all places of a text at once.  A
single match goes from one place to another, and such ways are put together
along the text.  A place is given by the number of characters before it.
-/

namespace DocQuery
namespace Pattern

/-!
# Places of a test
-/

theorem placesWhere_cons_div_two (test : Option Char → Option Char → Bool)
    (previous : Option Char) (c : Char) (rest : List Char) :
    placesWhere test previous (c :: rest) / 2 = placesWhere test (some c) rest := by
  cases h : test previous (some c) with
  | true =>
      have hodd : placesWhere test previous (c :: rest) =
          2 * placesWhere test (some c) rest + 1 := by
        simp [placesWhere, h]
      rw [hodd]
      exact Nat.mul_add_div Nat.two_pos _ 1
  | false =>
      have heven : placesWhere test previous (c :: rest) =
          2 * placesWhere test (some c) rest := by
        simp [placesWhere, h]
      rw [heven]
      exact Nat.mul_div_cancel_left _ Nat.two_pos

theorem testBit_placesWhere (test : Option Char → Option Char → Bool) (previous : Option Char)
    (front rest : List Char) :
    (placesWhere test previous (front ++ rest)).testBit front.length =
      test (front.getLast?.or previous) rest.head? := by
  induction front generalizing previous with
  | nil =>
      cases rest with
      | nil =>
          cases h : test previous none <;> simp [placesWhere, h]
      | cons c rest =>
          cases h : test previous (some c) <;> simp [placesWhere, h]
  | cons c front ih =>
      have hlast : (c :: front).getLast?.or previous = front.getLast?.or (some c) := by
        cases front <;> simp [List.getLast?_cons]
      rw [hlast, ← ih (some c), List.length_cons, Nat.testBit_succ, List.cons_append,
        placesWhere_cons_div_two]

theorem testBit_placesWhere_of_length_lt (test : Option Char → Option Char → Bool)
    (previous : Option Char) {text : List Char} {i : Nat} (h : text.length < i) :
    (placesWhere test previous text).testBit i = false := by
  induction text generalizing previous i with
  | nil =>
      obtain ⟨i, rfl⟩ := Nat.exists_eq_add_of_lt h
      cases htest : test previous none <;>
        simp [placesWhere, htest, Nat.testBit_succ]
  | cons c rest ih =>
      cases i with
      | zero =>
          cases h
      | succ i =>
          rw [Nat.testBit_succ, placesWhere_cons_div_two]
          exact ih (some c) (Nat.lt_of_succ_lt_succ h)

theorem testBit_placesWhere_iff (test : Option Char → Option Char → Bool) (text : List Char)
    (i : Nat) :
    (placesWhere test none text).testBit i = true ↔
      i ≤ text.length ∧ test (text.take i).getLast? (text.drop i).head? = true := by
  by_cases hi : i ≤ text.length
  · have hbit := testBit_placesWhere test none (text.take i) (text.drop i)
    rw [List.take_append_drop, List.length_take_of_le hi, Option.or_none] at hbit
    simp [hi, hbit]
  · simp [hi, testBit_placesWhere_of_length_lt test none (Nat.lt_of_not_le hi)]

theorem testBit_two_mul_succ (n i : Nat) : (2 * n).testBit (i + 1) = n.testBit i := by
  rw [Nat.testBit_succ, Nat.mul_div_cancel_left n Nat.two_pos]

theorem testBit_two_mul (n j : Nat) :
    (2 * n).testBit j = true ↔ ∃ i, j = i + 1 ∧ n.testBit i = true := by
  cases j with
  | zero =>
      simp
  | succ j =>
      simp [testBit_two_mul_succ]

theorem ne_zero_of_testBit {places : Places} {i : Nat} (h : places.testBit i = true) :
    places ≠ 0 := by
  rintro rfl
  rw [Nat.zero_testBit] at h
  cases h

/-!
# Where matches end

What an expression makes of places that are all taken at once, told for each
place by itself.
-/

namespace Expr

/-- An expression once the text is known. -/
def located (e : Meaning) (text : List Char) : Expr (Thunk Places) (Thunk Places) :=
  e.map (fun s => Thunk.mk fun _ => placesBefore text s) fun a => Thunk.mk fun _ => placesOf text a

section Ends

variable {text : List Char} {count : Nat} {places : Places}

theorem testBit_ends_step {set : Text.CharSet} {j : Nat} :
    ((located (.step set) text).ends count places).testBit j = true ↔
      ∃ i c, j = i + 1 ∧ places.testBit i = true ∧ text[i]? = some c ∧
        set.contains c = true := by
  have hends : (located (.step set) text).ends count places =
      2 * (places &&& placesBefore text set) := by
    change (if places = 0 then 0 else 2 * (places &&& placesBefore text set)) = _
    split
    · rename_i hzero
      simp [hzero]
    · rfl
  have hset (i : Nat) : (placesBefore text set).testBit i = true ↔
      ∃ c, text[i]? = some c ∧ set.contains c = true := by
    rw [placesBefore, testBit_placesWhere_iff, List.head?_drop]
    constructor
    · rintro ⟨_, hc⟩
      cases hget : text[i]? with
      | none =>
          simp [hget, isIn] at hc
      | some c =>
          rw [hget] at hc
          exact ⟨c, rfl, hc⟩
    · rintro ⟨c, hget, hc⟩
      constructor
      · exact Nat.le_of_lt (List.getElem?_eq_some_iff.mp hget).1
      · rw [hget]
        exact hc
  rw [hends, testBit_two_mul]
  simp only [Nat.testBit_and, Bool.and_eq_true, hset]
  constructor
  · rintro ⟨i, hj, hi, c, hc⟩
    exact ⟨i, c, hj, hi, hc⟩
  · rintro ⟨i, c, hj, hi, hc⟩
    exact ⟨i, hj, hi, c, hc⟩

theorem testBit_ends_look {a : Assertion} {j : Nat} :
    ((located (.look a) text).ends count places).testBit j = true ↔
      places.testBit j = true ∧ j ≤ text.length ∧
        a.holds (text.take j).getLast? (text.drop j).head? = true := by
  have hends : (located (.look a) text).ends count places =
      places &&& placesOf text a := by
    change (if places = 0 then 0 else places &&& placesOf text a) = _
    split
    · rename_i hzero
      simp [hzero]
    · rfl
  rw [hends, Nat.testBit_and, Bool.and_eq_true, placesOf, testBit_placesWhere_iff]

theorem testBit_allPlaces {i : Nat} : (allPlaces text).testBit i = true ↔ i ≤ text.length := by
  rw [allPlaces, testBit_placesWhere_iff, and_iff_left rfl]

theorem testBit_ends_textStart {i : Nat} :
    ((located (.look .textStart) text).ends count places).testBit i = true ↔
      places.testBit i = true ∧ i = 0 := by
  rw [testBit_ends_look]
  simp only [Assertion.holds]
  constructor
  · rintro ⟨hi, hle, hfirst⟩
    rw [Option.isNone_iff_eq_none, List.getLast?_eq_none_iff, List.take_eq_nil_iff] at hfirst
    rcases hfirst with hzero | hempty
    · exact ⟨hi, hzero⟩
    · rw [hempty] at hle
      exact ⟨hi, Nat.le_zero.mp hle⟩
  · rintro ⟨hi, rfl⟩
    exact ⟨hi, Nat.zero_le _, rfl⟩

theorem testBit_ends_textEnd {j : Nat} :
    ((located (.look .textEnd) text).ends count places).testBit j = true ↔
      places.testBit j = true ∧ j = text.length := by
  rw [testBit_ends_look]
  simp only [Assertion.holds, Option.isNone_iff_eq_none, List.head?_eq_none_iff,
    List.drop_eq_nil_iff]
  constructor
  · rintro ⟨hj, hle, hend⟩
    exact ⟨hj, Nat.le_antisymm hle hend⟩
  · rintro ⟨hj, rfl⟩
    exact ⟨hj, Nat.le_refl _, Nat.le_refl _⟩

theorem cons_prefix_drop_iff {c : Char} {taken : List Char} {i : Nat} :
    c :: taken <+: text.drop i ↔ text[i]? = some c ∧ taken <+: text.drop (i + 1) := by
  cases hget : text[i]? with
  | none =>
      rw [List.drop_eq_nil_of_le (List.getElem?_eq_none_iff.mp hget)]
      simp
  | some d =>
      rcases List.getElem?_eq_some_iff.mp hget with ⟨hi, rfl⟩
      rw [List.drop_eq_getElem_cons hi, List.cons_prefix_cons, eq_comm]
      simp

theorem testBit_of_stable {set : Text.CharSet}
    (hstable : places ||| (located (.step set) text).ends count places = places) {i : Nat}
    {taken : List Char} (hi : places.testBit i = true) (htaken : taken <+: text.drop i)
    (hset : ∀ c ∈ taken, set.contains c = true) : places.testBit (i + taken.length) = true := by
  induction taken generalizing i with
  | nil =>
      exact hi
  | cons c taken ih =>
      rw [List.forall_mem_cons] at hset
      rcases cons_prefix_drop_iff.mp htaken with ⟨hc, hrest⟩
      have hnext : places.testBit (i + 1) = true := by
        rw [← hstable, Nat.testBit_or, Bool.or_eq_true]
        exact Or.inr (testBit_ends_step.mpr ⟨i, c, rfl, hi, hc, hset.1⟩)
      have hlast := ih hnext hrest hset.2
      rwa [List.length_cons, Nat.add_comm taken.length, ← Nat.add_assoc]

theorem testBit_spread_step {set : Text.CharSet} {n j : Nat} :
    (spread ((located (.step set) text).ends count) n places).testBit j = true ↔
      ∃ i taken, places.testBit i = true ∧ j = i + taken.length ∧ taken.length ≤ n ∧
        taken <+: text.drop i ∧ ∀ c ∈ taken, set.contains c = true := by
  induction n generalizing places with
  | zero =>
      constructor
      · intro hj
        exact ⟨j, [], hj, rfl, Nat.le_refl 0, List.nil_prefix, by simp⟩
      · rintro ⟨i, taken, hi, rfl, htaken, _⟩
        rw [List.eq_nil_of_length_eq_zero (Nat.le_zero.mp htaken)]
        exact hi
  | succ n ih =>
      rw [spread]
      split
      · rename_i hstable
        constructor
        · intro hj
          exact ⟨j, [], hj, rfl, Nat.zero_le _, List.nil_prefix, by simp⟩
        · rintro ⟨i, taken, hi, rfl, -, htaken, hset⟩
          exact testBit_of_stable hstable hi htaken hset
      · rw [ih]
        constructor
        · rintro ⟨i, taken, hi, rfl, hlength, htaken, hset⟩
          rw [Nat.testBit_or, Bool.or_eq_true, testBit_ends_step] at hi
          rcases hi with hi | ⟨i, c, rfl, hi, hc, hcset⟩
          · exact ⟨i, taken, hi, rfl, Nat.le_succ_of_le hlength, htaken, hset⟩
          · refine ⟨i, c :: taken, hi, ?_, Nat.succ_le_succ hlength, ?_, ?_⟩
            · rw [List.length_cons]
              omega
            · exact cons_prefix_drop_iff.mpr ⟨hc, htaken⟩
            · exact List.forall_mem_cons.mpr ⟨hcset, hset⟩
        · rintro ⟨i, taken, hi, rfl, hlength, htaken, hset⟩
          cases taken with
          | nil =>
              refine ⟨i, [], ?_, rfl, Nat.zero_le n, htaken, hset⟩
              rw [Nat.testBit_or, hi, Bool.true_or]
          | cons c taken =>
              rw [List.forall_mem_cons] at hset
              rcases cons_prefix_drop_iff.mp htaken with ⟨hc, hrest⟩
              refine ⟨i + 1, taken, ?_, ?_, Nat.le_of_succ_le_succ hlength, hrest, hset.2⟩
              · rw [Nat.testBit_or, Bool.or_eq_true, testBit_ends_step]
                exact Or.inr ⟨i, c, rfl, hi, hc, hset.1⟩
              · rw [List.length_cons]
                omega

theorem testBit_ends_repeat_step {set : Text.CharSet} {j : Nat} (hcount : text.length ≤ count) :
    ((located (.repeat (.step set) 0 none) text).ends count places).testBit j = true ↔
      ∃ i taken, places.testBit i = true ∧ j = i + taken.length ∧ taken <+: text.drop i ∧
        ∀ c ∈ taken, set.contains c = true := by
  change (spread ((located (.step set) text).ends count) count places).testBit j = true ↔ _
  rw [testBit_spread_step]
  constructor
  · rintro ⟨i, taken, hi, hj, _, htaken, hset⟩
    exact ⟨i, taken, hi, hj, htaken, hset⟩
  · rintro ⟨i, taken, hi, hj, htaken, hset⟩
    refine ⟨i, taken, hi, hj, ?_, htaken, hset⟩
    have hlength := htaken.length_le
    rw [List.length_drop] at hlength
    omega

theorem matchesText_iff {e : Meaning} {text : String} :
    e.matchesText text = true ↔
      ∃ j, ((e.located text.toList).ends (text.toList.length + 1)
        (allPlaces text.toList)).testBit j = true := by
  rw [matchesText, bne_iff_ne]
  constructor
  · exact Nat.exists_testBit_of_ne_zero
  · rintro ⟨j, hj⟩
    exact ne_zero_of_testBit hj

end Ends

/-!
# Ways through a text
-/

/-- A match that begins at one place may end at another. -/
def Leads (text : List Char) (e : Meaning) (i j : Nat) : Prop :=
  ∀ count places, places.testBit i = true →
    ((e.located text).ends count places).testBit j = true

variable {text : List Char} {first second e : Meaning} {i j k : Nat}

theorem Leads.next (hfirst : Leads text first i j) (hsecond : Leads text second j k) :
    Leads text (.next first second) i k := by
  intro count places hi
  exact hsecond count _ (hfirst count places hi)

theorem leads_step (front rest : List Char) {c : Char} {set : Text.CharSet}
    (h : set.contains c = true) :
    Leads (front ++ c :: rest) (.step set) front.length (front.length + 1) := by
  intro count places hi
  have hget : (front ++ c :: rest)[front.length]? = some c := by
    simp
  exact testBit_ends_step.mpr ⟨front.length, c, rfl, hi, hget, h⟩

theorem leads_look (front rest : List Char) {a : Assertion}
    (h : a.holds front.getLast? rest.head? = true) :
    Leads (front ++ rest) (.look a) front.length front.length := by
  intro count places hi
  rw [testBit_ends_look, List.take_left, List.drop_left]
  refine ⟨hi, ?_, h⟩
  simp

theorem matchesText_of_leads {text : String} (front rest : List Char)
    (htext : text.toList = front ++ rest) (h : Leads text.toList e front.length j) :
    e.matchesText text = true := by
  have hstart : (allPlaces text.toList).testBit front.length = true := by
    rw [htext, allPlaces, testBit_placesWhere]
  exact matchesText_iff.mpr ⟨j, h _ _ hstart⟩

end Expr
end Pattern
end DocQuery
