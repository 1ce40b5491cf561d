import DocQuery.Proofs.Pattern.Size
import DocQuery.Proofs.Pattern.WholeText

/-!
# Wildcards

A pattern of `like` is read as a chain of parts between the two ends of a text, one
part for each of its characters.  Matching takes such a chain from place to
place, and so finds out whether the text is like the pattern.  The wildcards
stand for all characters but a line feed.
-/

namespace DocQuery
namespace Pattern

open Text (CharSet)

/-!
# Being like a pattern
-/

/-- A text is like a pattern: `%` stands for any run of the characters for which wildcards can
stand and `_` for one of them, and every other character stands for itself. -/
inductive Like (wild : Char → Prop) : List Char → List Char → Prop where
  | nil : Like wild [] []
  | run {pattern rest : List Char} (taken : List Char) (htaken : ∀ d ∈ taken, wild d)
      (h : Like wild pattern rest) : Like wild ('%' :: pattern) (taken ++ rest)
  | one {pattern rest : List Char} {d : Char} (hd : wild d) (h : Like wild pattern rest) :
      Like wild ('_' :: pattern) (d :: rest)
  | char {pattern rest : List Char} {c : Char} (hrun : c ≠ '%') (hone : c ≠ '_')
      (h : Like wild pattern rest) : Like wild (c :: pattern) (c :: rest)

theorem Like.literal {wild : Char → Prop} {pattern rest : List Char} (chars : List Char)
    (hrun : '%' ∉ chars) (hone : '_' ∉ chars) (h : Like wild pattern rest) :
    Like wild (chars ++ pattern) (chars ++ rest) := by
  induction chars with
  | nil =>
      exact h
  | cons c chars ih =>
      rw [List.mem_cons, not_or] at hrun hone
      exact Like.char (Ne.symm hrun.1) (Ne.symm hone.1) (ih hrun.2 hone.2)

theorem Like.mono {wild wild' : Char → Prop} {pattern text : List Char}
    (h : Like wild pattern text) (hwild : ∀ d ∈ text, wild d → wild' d) :
    Like wild' pattern text := by
  induction h with
  | nil =>
      exact Like.nil
  | run taken htaken _ ih =>
      rw [List.forall_mem_append] at hwild
      exact Like.run taken (fun d hd => hwild.1 d hd (htaken d hd)) (ih hwild.2)
  | one hd _ ih =>
      rw [List.forall_mem_cons] at hwild
      exact Like.one (hwild.1 hd) (ih hwild.2)
  | char hrun hone _ ih =>
      rw [List.forall_mem_cons] at hwild
      exact Like.char hrun hone (ih hwild.2)

/-- In a text without line feeds wildcards stand for all characters. -/
theorem like_iff_of_not_mem {pattern text : List Char} (h : '\n' ∉ text) :
    Like (· ≠ '\n') pattern text ↔ Like (fun _ => True) pattern text := by
  constructor
  · intro hlike
    exact hlike.mono fun _ _ _ => trivial
  · intro hlike
    refine hlike.mono ?_
    rintro d hd _ rfl
    exact h hd

/-- What a single character of a pattern stands for. -/
def Takes (wild : Char → Prop) (c : Char) (taken : List Char) : Prop :=
  if c = '%' then ∀ d ∈ taken, wild d
  else if c = '_' then ∃ d, taken = [d] ∧ wild d
  else taken = [c]

theorem like_nil_iff {wild : Char → Prop} {text : List Char} : Like wild [] text ↔ text = [] := by
  constructor
  · intro h
    cases h
    rfl
  · rintro rfl
    exact Like.nil

theorem like_cons_iff {wild : Char → Prop} {c : Char} {pattern text : List Char} :
    Like wild (c :: pattern) text ↔
      ∃ taken rest, text = taken ++ rest ∧ Takes wild c taken ∧ Like wild pattern rest := by
  constructor
  · intro h
    cases h with
    | run taken htaken h =>
        exact ⟨taken, _, rfl, htaken, h⟩
    | one hd h =>
        exact ⟨[_], _, rfl, ⟨_, rfl, hd⟩, h⟩
    | char hrun hone h =>
        refine ⟨[c], _, rfl, ?_, h⟩
        rw [Takes, if_neg hrun, if_neg hone]
  · rintro ⟨taken, rest, rfl, htaken, h⟩
    unfold Takes at htaken
    split at htaken
    · rename_i hrun
      subst hrun
      exact Like.run taken htaken h
    · rename_i hrun
      split at htaken
      · rename_i hone
        subst hone
        rcases htaken with ⟨d, rfl, hd⟩
        exact Like.one hd h
      · rename_i hone
        subst htaken
        exact Like.char hrun hone h

/-!
# Reading
-/

def likePart (c : Char) : Tree :=
  if c = '%' then .repeat .dot 0 none
  else if c = '_' then .dot
  else ofChar c

def likeTree (pattern : List Char) : Tree :=
  Tree.sequence (.mark .lineStart :: (pattern.map likePart ++ [.mark .lineEnd]))

def partCount (c : Char) : Nat :=
  if c = '%' then 2 else 1

def partsCount : List Char → Nat
  | [] => 0
  | c :: pattern => partCount c + partsCount pattern

theorem partCount_le_length_likeChar (c : Char) : partCount c ≤ (likeChar c).length := by
  unfold partCount likeChar escapeChar
  split
  · exact Nat.le_refl 2
  · split
    · exact Nat.le_refl 1
    · split
      · exact Nat.le_succ 1
      · exact Nat.le_refl 1

theorem partsCount_le_length (pattern : List Char) :
    partsCount pattern ≤ (pattern.flatMap likeChar).length := by
  induction pattern with
  | nil =>
      exact Nat.le_refl 0
  | cons c pattern ih =>
      rw [partsCount, List.flatMap_cons, List.length_append]
      exact Nat.add_le_add (partCount_le_length_likeChar c) ih

/-- Nothing that is written for a pattern makes the repetition before it lazy. -/
theorem head?_likeChars_ne (pattern : List Char) :
    (pattern.flatMap likeChar ++ ['$']).head? ≠ some '?' := by
  cases pattern with
  | nil =>
      decide
  | cons c pattern =>
      intro h
      simp only [List.flatMap_cons, List.append_assoc] at h
      unfold likeChar at h
      split at h
      · cases h
      · split at h
        · cases h
        · unfold escapeChar at h
          split at h
          · cases h
          · rename_i hspecial
            cases h
            exact hspecial rfl

theorem readParts?_likeChar {r : Reading} (hspaced : r.spaced = false) (fuel : Nat) (c : Char)
    {rest : List Char} (hrest : rest.head? ≠ some '?') :
    readParts? (fuel + partCount c) r (likeChar c ++ rest) =
      readParts? fuel (r.push (likePart c)) rest := by
  by_cases hrun : c = '%'
  · subst hrun
    have hdot : readPart? r '.' ('*' :: rest) = some (r.push .dot, '*' :: rest) :=
      rfl
    have hlazy : dropLazy rest = rest := by
      unfold dropLazy
      split
      · exact absurd rfl hrest
      · rfl
    have hstar : readPart? (r.push .dot) '*' rest =
        some (r.push (.repeat .dot 0 none), rest) := by
      change some (r.push (.repeat .dot 0 none), dropLazy rest) = _
      rw [hlazy]
    change readParts? (fuel + 1 + 1) r ('.' :: '*' :: rest) = _
    rw [readParts?_cons hspaced hdot]
    exact readParts?_cons (r := r.push .dot) hspaced hstar fuel
  · by_cases hone : c = '_'
    · subst hone
      exact readParts?_cons hspaced rfl fuel
    · simpa [likeChar, likePart, partCount, hrun, hone] using
        readParts?_escapeChar hspaced fuel c rest

theorem readParts?_likeChars {r : Reading} (hspaced : r.spaced = false) (fuel : Nat)
    (pattern : List Char) :
    readParts? (partsCount pattern + fuel) r (pattern.flatMap likeChar ++ ['$']) =
      readParts? fuel ((pattern.map likePart).foldl Reading.push r) ['$'] := by
  induction pattern generalizing r with
  | nil =>
      simp [partsCount]
  | cons c pattern ih =>
      have hfuel : partsCount (c :: pattern) + fuel =
          partsCount pattern + fuel + partCount c := by
        rw [partsCount]
        omega
      rw [hfuel, List.flatMap_cons, List.append_assoc,
        readParts?_likeChar hspaced _ c (head?_likeChars_ne pattern)]
      exact ih hspaced

theorem readTree?_ofLike (pattern : String) :
    readTree? (ofLike pattern).toList = some (likeTree pattern.toList) := by
  have hchars : (ofLike pattern).toList =
      '^' :: (pattern.toList.flatMap likeChar ++ ['$']) := by
    simp [ofLike]
  rw [hchars]
  exact readTree?_anchored (partsCount_le_length _) fun fuel r hspaced =>
    readParts?_likeChars hspaced fuel pattern.toList

/-!
# Depth
-/

theorem depth_sequence_le {parts : List Tree} {n : Nat} (h : ∀ t ∈ parts, t.depth ≤ n) :
    (Tree.sequence parts).depth ≤ n + 1 := by
  induction parts with
  | nil =>
      exact Nat.zero_le _
  | cons t rest ih =>
      rw [List.forall_mem_cons] at h
      cases rest with
      | nil =>
          exact Nat.le_succ_of_le h.1
      | cons u rest =>
          have hrest : (if (Tree.sequence (u :: rest)).isSequence
              then (Tree.sequence (u :: rest)).depth
              else (Tree.sequence (u :: rest)).depth + 1) ≤ n + 1 := by
            split
            · exact ih h.2
            · rename_i hsingle
              cases rest with
              | nil =>
                  exact Nat.succ_le_succ (h.2 u List.mem_cons_self)
              | cons v rest =>
                  exact absurd rfl hsingle
          exact Nat.max_le.mpr ⟨Nat.succ_le_succ h.1, hrest⟩

theorem depth_likePart (c : Char) : (likePart c).depth ≤ 1 := by
  unfold likePart ofChar
  split
  · exact Nat.le_refl 1
  · split <;> exact Nat.zero_le 1

theorem depth_likeTree (pattern : List Char) : (likeTree pattern).depth ≤ depthLimit := by
  have hparts : ∀ t ∈ Tree.mark .lineStart :: (pattern.map likePart ++ [.mark .lineEnd]),
      t.depth ≤ 1 := by
    simp only [List.forall_mem_cons, List.forall_mem_append, List.forall_mem_map]
    refine ⟨Nat.zero_le 1, fun c _ => depth_likePart c, Nat.zero_le 1, ?_⟩
    exact fun _ hmem => absurd hmem List.not_mem_nil
  exact Nat.le_trans (depth_sequence_le hparts) (by decide)

/-!
# Meaning
-/

def dotSet : CharSet :=
  .complement (.single '\n')

theorem contains_dotSet (d : Char) : dotSet.contains d = true ↔ d ≠ '\n' := by
  have hsingle : (CharSet.single '\n').contains Text.CharSet.beforeGap = false := by
    decide
  have hcontains : dotSet.contains d = !(CharSet.single '\n').contains d := by
    simp [dotSet, CharSet.contains, hsingle]
  rw [hcontains, Bool.not_eq_true', ← Bool.not_eq_true, contains_single_iff]

def likeStep (c : Char) : Meaning :=
  if c = '%' then .repeat (.step dotSet) 0 none
  else if c = '_' then .step dotSet
  else .step (.single c)

/-- What follows the start of the text, up to its end. -/
def likeSteps : List Char → Meaning
  | [] => .look .textEnd
  | c :: pattern => .next (likeStep c) (likeSteps pattern)

def likeMeaning (pattern : List Char) : Meaning :=
  .next (.look .textStart) (likeSteps pattern)

theorem meaning?_likePart (c : Char) : (likePart c).meaning? {} = some (likeStep c, {}) := by
  unfold likePart likeStep
  split
  · rfl
  · split <;> rfl

theorem meaning?_likeParts (pattern : List Char) :
    (Tree.sequence (pattern.map likePart ++ [.mark .lineEnd])).meaning? {} =
      some (likeSteps pattern, {}) := by
  induction pattern with
  | nil =>
      rfl
  | cons c pattern ih =>
      have hsequence : Tree.sequence ((c :: pattern).map likePart ++ [.mark .lineEnd]) =
          .next (likePart c) (Tree.sequence (pattern.map likePart ++ [.mark .lineEnd])) := by
        cases pattern <;> rfl
      rw [hsequence]
      simp [Tree.meaning?, meaning?_likePart, ih, likeSteps]

theorem meaning?_likeTree (pattern : List Char) :
    (likeTree pattern).meaning? {} = some (likeMeaning pattern, {}) := by
  have hsequence : likeTree pattern =
      .next (.mark .lineStart) (Tree.sequence (pattern.map likePart ++ [.mark .lineEnd])) := by
    cases pattern <;> rfl
  rw [hsequence]
  simp [Tree.meaning?, meaning?_likeParts, likeMeaning, Mark.assertion]

theorem read?_ofLike (pattern : String) :
    read? {} (ofLike pattern) =
      if (likeMeaning pattern.toList).fits then some (likeMeaning pattern.toList) else none := by
  simp [read?, readTree?_ofLike, meaning?_likeTree,
    Nat.not_lt.mpr (depth_likeTree pattern.toList)]

/-!
# Matching
-/

open DocQuery.Pattern.Expr

section Ends

variable {text : List Char} {count : Nat} {places : Places}

theorem testBit_ends_step_taken {set : CharSet} {j : Nat} :
    ((located (.step set) text).ends count places).testBit j = true ↔
      ∃ i d, places.testBit i = true ∧ j = i + [d].length ∧ [d] <+: text.drop i ∧
        set.contains d = true := by
  rw [testBit_ends_step]
  simp only [cons_prefix_drop_iff, List.nil_prefix, and_true, List.length_singleton]
  constructor
  · rintro ⟨i, d, hj, hi, hd, hset⟩
    exact ⟨i, d, hi, hj, hd, hset⟩
  · rintro ⟨i, d, hi, hj, hd, hset⟩
    exact ⟨i, d, hj, hi, hd, hset⟩

theorem testBit_ends_likeStep {c : Char} {j : Nat} (hcount : text.length ≤ count) :
    ((located (likeStep c) text).ends count places).testBit j = true ↔
      ∃ i taken, places.testBit i = true ∧ j = i + taken.length ∧ taken <+: text.drop i ∧
        Takes (· ≠ '\n') c taken := by
  unfold likeStep Takes
  split
  · rw [testBit_ends_repeat_step hcount]
    simp only [contains_dotSet]
  · split
    · rw [testBit_ends_step_taken]
      simp only [contains_dotSet]
      constructor
      · rintro ⟨i, d, hi, hj, hd, hwild⟩
        exact ⟨i, [d], hi, hj, hd, d, rfl, hwild⟩
      · rintro ⟨i, _, hi, hj, hd, d, rfl, hwild⟩
        exact ⟨i, d, hi, hj, hd, hwild⟩
    · rw [testBit_ends_step_taken]
      simp only [contains_single_iff]
      constructor
      · rintro ⟨i, d, hi, hj, hd, rfl⟩
        exact ⟨i, [d], hi, hj, hd, rfl⟩
      · rintro ⟨i, _, hi, hj, hd, rfl⟩
        exact ⟨i, c, hi, hj, hd, rfl⟩

/-- From some of the places the rest of the text is like the pattern.  The induction follows the
pattern and is about all places at once, as the run of a wildcard may stop at any of them. -/
theorem exists_testBit_ends_likeSteps {pattern : List Char} (hcount : text.length ≤ count) :
    (∃ j, ((located (likeSteps pattern) text).ends count places).testBit j = true) ↔
      ∃ i, i ≤ text.length ∧ places.testBit i = true ∧
        Like (· ≠ '\n') pattern (text.drop i) := by
  induction pattern generalizing places with
  | nil =>
      simp only [likeSteps, testBit_ends_textEnd, like_nil_iff, List.drop_eq_nil_iff]
      constructor
      · rintro ⟨_, hj, rfl⟩
        exact ⟨text.length, Nat.le_refl _, hj, Nat.le_refl _⟩
      · rintro ⟨i, hle, hi, hend⟩
        exact ⟨i, hi, Nat.le_antisymm hle hend⟩
  | cons c pattern ih =>
      have hnext : (located (likeSteps (c :: pattern)) text).ends count places =
          (located (likeSteps pattern) text).ends count
            ((located (likeStep c) text).ends count places) :=
        rfl
      rw [hnext, ih]
      constructor
      · rintro ⟨j, hle, hj, hlike⟩
        rcases (testBit_ends_likeStep hcount).mp hj with ⟨i, taken, hi, rfl, ⟨rest, hrest⟩, htakes⟩
        refine ⟨i, Nat.le_trans (Nat.le_add_right _ _) hle, hi, ?_⟩
        refine like_cons_iff.mpr ⟨taken, rest, hrest.symm, htakes, ?_⟩
        rwa [← List.drop_drop, ← hrest, List.drop_left] at hlike
      · rintro ⟨i, hle, hi, hlike⟩
        rcases like_cons_iff.mp hlike with ⟨taken, rest, hrest, htakes, hlike⟩
        refine ⟨i + taken.length, ?_, ?_, ?_⟩
        · have hlength := congrArg List.length hrest
          rw [List.length_drop, List.length_append] at hlength
          omega
        · exact (testBit_ends_likeStep hcount).mpr
            ⟨i, taken, hi, rfl, ⟨rest, hrest.symm⟩, htakes⟩
        · rwa [← List.drop_drop, hrest, List.drop_left]

end Ends

theorem matchesText_likeMeaning (pattern : List Char) (text : String) :
    (likeMeaning pattern).matchesText text = true ↔ Like (· ≠ '\n') pattern text.toList := by
  have hnext : (located (likeMeaning pattern) text.toList).ends (text.toList.length + 1)
      (allPlaces text.toList) =
        (located (likeSteps pattern) text.toList).ends (text.toList.length + 1)
          ((located (.look .textStart) text.toList).ends (text.toList.length + 1)
            (allPlaces text.toList)) :=
    rfl
  rw [matchesText_iff, hnext, exists_testBit_ends_likeSteps (Nat.le_succ _)]
  simp only [testBit_ends_textStart, testBit_allPlaces]
  constructor
  · rintro ⟨i, _, ⟨_, rfl⟩, hlike⟩
    exact hlike
  · intro hlike
    exact ⟨0, Nat.zero_le _, ⟨Nat.zero_le _, rfl⟩, hlike⟩

/-!
# Size
-/

theorem costs_dotSet (d : Direction) : Costs d (.step dotSet) 1000 := by
  refine ⟨_, rfl, ?_⟩
  cases d <;> decide +kernel

theorem costs_dots (d : Direction) : Costs d (.repeat (.step dotSet) 0 none) 1040 := by
  refine ⟨_, rfl, ?_⟩
  cases d <;> decide +kernel

theorem costs_likeStep (d : Direction) (c : Char) : Costs d (likeStep c) 1040 := by
  unfold likeStep
  split
  · exact costs_dots d
  · split
    · exact (costs_dotSet d).mono (by decide)
    · exact (costs_single d c).mono (by decide)

theorem costs_likeSteps (d : Direction) (pattern : List Char) :
    Costs d (likeSteps pattern) (1040 * pattern.length + 32) := by
  induction pattern with
  | nil =>
      exact costs_look d .textEnd
  | cons c pattern ih =>
      refine ((costs_likeStep d c).next ih).mono ?_
      rw [List.length_cons]
      omega

def likeLimit : Nat :=
  10000

theorem fits_likeMeaning {pattern : List Char} (h : pattern.length ≤ likeLimit) :
    (likeMeaning pattern).fits = true := by
  have hsize (d : Direction) : (likeMeaning pattern).size d ≤ sizeLimit := by
    have hcosts := ((costs_look d .textStart).next (costs_likeSteps d pattern)).size_le
    refine Nat.le_trans hcosts ?_
    unfold likeLimit at h
    unfold sizeLimit
    omega
  rw [Expr.fits, Bool.and_eq_true, decide_eq_true_eq, decide_eq_true_eq]
  exact ⟨hsize .forward, hsize .backward⟩

end Pattern
end DocQuery
