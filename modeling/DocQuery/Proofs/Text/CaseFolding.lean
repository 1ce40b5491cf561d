import DocQuery.Text.Case.Fold
import Mathlib.Data.List.Chain
import Mathlib.Data.List.Pairwise

/-!
# Characters that differ only in case

Simple case folding moves runs of characters that do not overlap, to characters that
are not moved again.  So the variants of a character are just those characters that
fold as it does, and there are few of them.
-/

namespace DocQuery
namespace Text
namespace Shift

/-- The code points from one to another are characters: no surrogate is among them. -/
def AreCodes (first last : Nat) : Prop :=
  last < 0xd800 ∨ 0xdfff < first ∧ last < 0x110000

/-- A run moves characters to characters. -/
def IsSound (s : Shift) : Prop :=
  0 ≤ s.first + s.distance ∧ AreCodes s.first s.last ∧ AreCodes (s.apply s.first) (s.apply s.last)

instance (s : Shift) : Decidable s.IsSound :=
  inferInstanceAs (Decidable (_ ∧ (_ ∨ _) ∧ (_ ∨ _)))

theorem toNat_ofNat_of_areCodes {first last n : Nat} (h : AreCodes first last) (hfirst : first ≤ n)
    (hlast : n ≤ last) : (Char.ofNat n).toNat = n := by
  have hvalid : n.isValidChar := by
    rcases h with hlow | ⟨hhigh, hend⟩
    · exact Or.inl (Nat.lt_of_le_of_lt hlast hlow)
    · exact Or.inr ⟨Nat.lt_of_lt_of_le hhigh hfirst, Nat.lt_of_le_of_lt hlast hend⟩
  rw [Char.ofNat, dif_pos hvalid]
  rfl

theorem covers_iff {s : Shift} {n : Nat} :
    s.covers n = true ↔ s.first ≤ n ∧ n ≤ s.last ∧ (n - s.first) % s.step = 0 := by
  simp [covers, and_assoc]

theorem coe_apply {s : Shift} (hs : s.IsSound) {n : Nat} (hn : s.first ≤ n) :
    (s.apply n : Int) = n + s.distance := by
  have horigin := hs.1
  unfold apply
  omega

theorem apply_le_apply (s : Shift) {m n : Nat} (h : m ≤ n) : s.apply m ≤ s.apply n := by
  unfold apply
  omega

theorem source?_eq_some_iff {s : Shift} (hs : s.IsSound) {n target : Nat} :
    s.source? target = some n ↔ s.covers n = true ∧ s.apply n = target := by
  unfold source?
  simp only [Option.ite_none_right_eq_some, Option.some.injEq]
  constructor
  · rintro ⟨⟨horigin, hcovers⟩, rfl⟩
    refine ⟨hcovers, ?_⟩
    have hmoved := coe_apply hs (covers_iff.mp hcovers).1
    omega
  · rintro ⟨hcovers, rfl⟩
    have hmoved := coe_apply hs (covers_iff.mp hcovers).1
    have horigin : (s.apply n : Int) - s.distance = n := by
      omega
    rw [horigin]
    exact ⟨⟨Int.natCast_nonneg n, hcovers⟩, rfl⟩

/-- One run ends before another one starts. -/
def Precedes (s t : Shift) : Prop :=
  s.first ≤ s.last ∧ s.last < t.first

instance : DecidableRel Precedes :=
  fun _ _ => inferInstanceAs (Decidable (_ ∧ _))

instance : Trans Precedes Precedes Precedes where
  trans hst htu := ⟨hst.1, Nat.lt_trans (Nat.lt_of_lt_of_le hst.2 htu.1) htu.2⟩

/-- What the first run moves is not moved again by the second. -/
def settles (s t : Shift) : Bool :=
  Nat.blt (s.apply s.last) t.first || Nat.blt t.last (s.apply s.first) ||
    (List.range' s.first (s.last + 1 - s.first)).all fun n => !s.covers n || !t.covers (s.apply n)

theorem not_covers_of_settles {s t : Shift} (h : s.settles t = true) {n : Nat}
    (hn : s.covers n = true) : t.covers (s.apply n) = false := by
  rcases covers_iff.mp hn with ⟨hfirst, hlast, _⟩
  apply Bool.eq_false_iff.mpr
  intro ht
  rcases covers_iff.mp ht with ⟨htfirst, htlast, _⟩
  have hleast := apply_le_apply s hfirst
  have hgreatest := apply_le_apply s hlast
  simp only [settles, Bool.or_eq_true, Nat.blt_eq, List.all_eq_true, List.mem_range'_1] at h
  rcases h with (hbelow | habove) | hpoint
  · omega
  · omega
  · have hmoved := hpoint n ⟨hfirst, by omega⟩
    simp [hn, ht] at hmoved

end Shift

/-!
# The table
-/

open Shift

theorem isSound_of_mem : ∀ s ∈ foldShifts.toList, s.IsSound := by
  decide +kernel

theorem pairwise_foldShifts : foldShifts.toList.Pairwise Precedes := by
  have hchain : foldShifts.toList.IsChain Precedes := by
    decide +kernel
  exact hchain.pairwise

theorem settles_of_mem : ∀ s ∈ foldShifts.toList, ∀ t ∈ foldShifts.toList, s.settles t = true := by
  have hall : (foldShifts.toList.all fun s => foldShifts.toList.all s.settles) = true := by
    decide +kernel
  simpa only [List.all_eq_true] using hall

theorem Shift.Precedes.not_covers {s t : Shift} (h : s.Precedes t) {n : Nat}
    (hs : s.covers n = true) (ht : t.covers n = true) : False :=
  Nat.lt_irrefl n (Nat.lt_of_le_of_lt (covers_iff.mp hs).2.1
    (Nat.lt_of_lt_of_le h.2 (covers_iff.mp ht).1))

theorem eq_of_covers {s t : Shift} (hs : s ∈ foldShifts.toList) (ht : t ∈ foldShifts.toList)
    {n : Nat} (hsn : s.covers n = true) (htn : t.covers n = true) : s = t := by
  have hapart := List.pairwise_iff_getElem.mp pairwise_foldShifts
  rcases List.mem_iff_getElem.mp hs with ⟨i, hi, rfl⟩
  rcases List.mem_iff_getElem.mp ht with ⟨j, hj, rfl⟩
  rcases Nat.lt_trichotomy i j with hij | rfl | hji
  · exact ((hapart i j hi hj hij).not_covers hsn htn).elim
  · rfl
  · exact ((hapart j i hj hi hji).not_covers htn hsn).elim

theorem shifted_of_covers {s : Shift} (hs : s ∈ foldShifts.toList) {n : Nat}
    (hn : s.covers n = true) : shifted foldShifts n = s.apply n := by
  unfold shifted
  rw [← Array.find?_toList]
  cases hfound : foldShifts.toList.find? fun s => s.covers n with
  | none =>
      exact absurd hn (List.find?_eq_none.mp hfound s hs)
  | some t =>
      have ht : t ∈ foldShifts.toList := List.mem_of_find?_eq_some hfound
      have htn : t.covers n = true := by
        simpa using List.find?_some hfound
      rw [eq_of_covers hs ht hn htn]

theorem shifted_of_not_covers {n : Nat} (h : ∀ s ∈ foldShifts.toList, s.covers n = false) :
    shifted foldShifts n = n := by
  unfold shifted
  rw [← Array.find?_toList]
  have hnone : (foldShifts.toList.find? fun s => s.covers n) = none :=
    List.find?_eq_none.mpr fun s hs => Bool.eq_false_iff.mp (h s hs)
  rw [hnone]

theorem shifted_cases (n : Nat) :
    (∃ s ∈ foldShifts.toList, s.covers n = true ∧ shifted foldShifts n = s.apply n) ∨
      (∀ s ∈ foldShifts.toList, s.covers n = false) ∧ shifted foldShifts n = n := by
  by_cases hcovered : ∃ s ∈ foldShifts.toList, s.covers n = true
  · rcases hcovered with ⟨s, hs, hn⟩
    exact Or.inl ⟨s, hs, hn, shifted_of_covers hs hn⟩
  · have hnone : ∀ s ∈ foldShifts.toList, s.covers n = false :=
      fun s hs => Bool.eq_false_iff.mpr fun hn => hcovered ⟨s, hs, hn⟩
    exact Or.inr ⟨hnone, shifted_of_not_covers hnone⟩

theorem shifted_shifted (n : Nat) :
    shifted foldShifts (shifted foldShifts n) = shifted foldShifts n := by
  rcases shifted_cases n with ⟨s, hs, hn, hshifted⟩ | ⟨_, hshifted⟩
  · rw [hshifted]
    apply shifted_of_not_covers
    exact fun t ht => not_covers_of_settles (settles_of_mem s hs t ht) hn
  · rw [hshifted, hshifted]

/-!
# Variants
-/

theorem toNat_ofNat_fold (c : Char) : (Char.ofNat (fold c)).toNat = fold c := by
  unfold fold
  rcases shifted_cases c.toNat with ⟨s, hs, hn, hshifted⟩ | ⟨_, hshifted⟩
  · rcases covers_iff.mp hn with ⟨hfirst, hlast, _⟩
    rw [hshifted]
    exact toNat_ofNat_of_areCodes (isSound_of_mem s hs).2.2 (apply_le_apply s hfirst)
      (apply_le_apply s hlast)
  · rw [hshifted, Char.ofNat_toNat]

theorem fold_ofNat_fold (c : Char) : fold (Char.ofNat (fold c)) = fold c := by
  rw [fold, toNat_ofNat_fold]
  exact shifted_shifted c.toNat

/-- The characters that runs move to a code point. -/
def origins (target : Nat) : List Char :=
  foldShifts.toList.filterMap fun s => (s.source? target).map Char.ofNat

theorem mem_origins_iff {d : Char} {target : Nat} :
    d ∈ origins target ↔
      ∃ s ∈ foldShifts.toList, s.covers d.toNat = true ∧ s.apply d.toNat = target := by
  simp only [origins, List.mem_filterMap, Option.map_eq_some_iff]
  constructor
  · rintro ⟨s, hs, n, hn, rfl⟩
    rcases (source?_eq_some_iff (isSound_of_mem s hs)).mp hn with ⟨hcovers, happly⟩
    rcases covers_iff.mp hcovers with ⟨hfirst, hlast, _⟩
    rw [toNat_ofNat_of_areCodes (isSound_of_mem s hs).2.1 hfirst hlast]
    exact ⟨s, hs, hcovers, happly⟩
  · rintro ⟨s, hs, hd⟩
    exact ⟨s, hs, d.toNat, (source?_eq_some_iff (isSound_of_mem s hs)).mpr hd, Char.ofNat_toNat d⟩

theorem foldl_origins {target : Nat} {step : List Char → Shift → List Char}
    (hstep : ∀ found s, step found s = ((s.source? target).map Char.ofNat).toList ++ found)
    (shifts : List Shift) (found : List Char) :
    shifts.foldl step found =
      (shifts.filterMap fun s => (s.source? target).map Char.ofNat).reverse ++ found := by
  induction shifts generalizing found with
  | nil =>
      rfl
  | cons s shifts ih =>
      rw [List.foldl_cons, ih, hstep]
      cases hsource : s.source? target <;> simp [hsource]

theorem variants_eq (c : Char) :
    variants c = (origins (fold c)).reverse ++ [c, Char.ofNat (fold c)] := by
  unfold variants origins
  rw [← Array.foldl_toList]
  apply foldl_origins
  intro found s
  cases s.source? (fold c) <;> rfl

theorem mem_variants_iff {c d : Char} : d ∈ variants c ↔ sameLetter c d = true := by
  rw [variants_eq, sameLetter, decide_eq_true_eq]
  simp only [List.mem_append, List.mem_reverse, mem_origins_iff, List.mem_cons, List.not_mem_nil,
    or_false]
  constructor
  · rintro (⟨s, hs, hd, happly⟩ | hself | htarget)
    · rw [← happly]
      exact (shifted_of_covers hs hd).symm
    · rw [hself]
    · rw [htarget, fold_ofNat_fold]
  · intro hsame
    rcases shifted_cases d.toNat with ⟨s, hs, hd, hshifted⟩ | ⟨_, hshifted⟩
    · exact Or.inl ⟨s, hs, hd, hshifted.symm.trans hsame.symm⟩
    · have hd : fold c = d.toNat := hsame.trans hshifted
      have hvariant : Char.ofNat (fold c) = d := by
        rw [hd, Char.ofNat_toNat]
      exact Or.inr (Or.inr hvariant.symm)

theorem variants_k : variants 'k' = ['\u212a', 'K', 'k', 'k'] := by
  have hfold : fold 'k' = 0x6b := by
    apply shifted_of_not_covers
    decide +kernel
  have horigins : origins 0x6b = ['K', '\u212a'] := by
    decide +kernel
  rw [variants_eq, hfold, horigins]
  rfl

/-!
# The number of variants
-/

def surrounds (n : Nat) (range : Nat × Nat) : Bool :=
  Nat.ble range.1 n && Nat.ble n range.2

theorem surrounds_iff {n : Nat} {range : Nat × Nat} :
    surrounds n range = true ↔ range.1 ≤ n ∧ n ≤ range.2 := by
  simp [surrounds]

/-- No point lies in more ranges than the start of one of them does.  The induction is on the
point: where no range starts, all ranges that it lies in come from the point before. -/
theorem countP_surrounds_le {ranges : List (Nat × Nat)} {k : Nat}
    (h : ∀ range ∈ ranges, ranges.countP (surrounds range.1) ≤ k) (n : Nat) :
    ranges.countP (surrounds n) ≤ k := by
  induction n with
  | zero =>
      by_cases hstart : ∃ range ∈ ranges, range.1 = 0
      · rcases hstart with ⟨range, hrange, hzero⟩
        rw [← hzero]
        exact h range hrange
      · have hnone : ranges.countP (surrounds 0) = 0 := by
          rw [List.countP_eq_zero]
          intro range hrange hsurrounds
          exact hstart ⟨range, hrange, Nat.le_zero.mp (surrounds_iff.mp hsurrounds).1⟩
        rw [hnone]
        exact Nat.zero_le k
  | succ n ih =>
      by_cases hstart : ∃ range ∈ ranges, range.1 = n + 1
      · rcases hstart with ⟨range, hrange, hpoint⟩
        rw [← hpoint]
        exact h range hrange
      · refine Nat.le_trans (List.countP_mono_left ?_) ih
        intro range hrange hsurrounds
        rcases surrounds_iff.mp hsurrounds with ⟨hfirst, hlast⟩
        have hne : range.1 ≠ n + 1 := fun heq => hstart ⟨range, hrange, heq⟩
        exact surrounds_iff.mpr ⟨by omega, by omega⟩

def images : List (Nat × Nat) :=
  foldShifts.toList.map fun s => (s.apply s.first, s.apply s.last)

theorem countP_images_le (n : Nat) : images.countP (surrounds n) ≤ 3 := by
  have hall : (images.all fun range => Nat.ble (images.countP (surrounds range.1)) 3) = true := by
    decide +kernel
  apply countP_surrounds_le
  intro range hrange
  exact Nat.ble_eq.mp (List.all_eq_true.mp hall range hrange)

theorem length_origins_le (target : Nat) : (origins target).length ≤ 3 := by
  refine Nat.le_trans ?_ (countP_images_le target)
  rw [origins, List.length_filterMap_eq_countP, images, List.countP_map]
  apply List.countP_mono_left
  intro s hs hsome
  rw [Option.isSome_map, Option.isSome_iff_exists] at hsome
  rcases hsome with ⟨n, hn⟩
  rcases (source?_eq_some_iff (isSound_of_mem s hs)).mp hn with ⟨hcovers, rfl⟩
  rcases covers_iff.mp hcovers with ⟨hfirst, hlast, _⟩
  exact surrounds_iff.mpr ⟨apply_le_apply s hfirst, apply_le_apply s hlast⟩

theorem length_variants_le (c : Char) : (variants c).length ≤ 5 := by
  rw [variants_eq, List.length_append, List.length_reverse]
  exact Nat.add_le_add_right (length_origins_le _) 2

end Text
end DocQuery
