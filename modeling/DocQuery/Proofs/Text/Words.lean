import DocQuery.Text.Cut
import Mathlib.Data.List.Basic
import Mathlib.Data.List.TakeWhile

/-!
# Words and parts

What the cuts of a text give.  Words are the runs between blank space, and the
parts between signs are the only ones that the signs join to the text again.
-/

namespace DocQuery
namespace Text

/-!
# Blank space
-/

def Blank (chars : List Char) : Prop :=
  ∀ c ∈ chars, isBlank c = true

def IsWord (chars : List Char) : Prop :=
  chars ≠ [] ∧ ∀ c ∈ chars, isBlank c = false

/-- Where one word ends another cannot start at once. -/
def EndsWord (chars : List Char) : Prop :=
  ∀ c, chars.head? = some c → isBlank c = true

theorem blank_nil : Blank [] :=
  List.forall_mem_nil _

theorem blank_cons {c : Char} {chars : List Char} :
    Blank (c :: chars) ↔ isBlank c = true ∧ Blank chars :=
  List.forall_mem_cons

theorem endsWord_of_blank {chars : List Char} (h : Blank chars) : EndsWord chars :=
  fun c hc => h c (List.mem_of_mem_head? hc)

theorem endsWord_append {chars : List Char} (hsome : chars ≠ []) (h : Blank chars)
    (rest : List Char) : EndsWord (chars ++ rest) := by
  cases chars with
  | nil =>
      exact absurd rfl hsome
  | cons c chars =>
      rintro d hd
      cases hd
      exact (blank_cons.mp h).1

theorem trimStart_eq_nil_iff {chars : List Char} : trimStart chars = [] ↔ Blank chars :=
  List.dropWhile_eq_nil_iff

theorem trim_eq_nil_iff {chars : List Char} : trim chars = [] ↔ Blank chars := by
  rw [trim, List.reverse_eq_nil_iff, trimStart_eq_nil_iff]
  constructor
  · intro h
    rw [← trimStart_eq_nil_iff]
    -- The first character that is kept from the start is not blank.
    cases hstart : trimStart chars with
    | nil => rfl
    | cons c rest =>
        have hblank : isBlank c = true := h c (by simp [hstart])
        have hkept : isBlank c = false := by
          have := List.head?_dropWhile_not isBlank chars
          rw [show chars.dropWhile isBlank = c :: rest from hstart] at this
          simpa using this
        exact absurd (hblank.symm.trans hkept) (by decide)
  · intro h
    rw [trimStart_eq_nil_iff.mpr h]
    exact blank_nil

/-!
# Words
-/

/-- A text of words, with blank space between any two and perhaps around them. -/
inductive Spaced : List (List Char) → List Char → Prop where
  | blank {chars : List Char} (h : Blank chars) : Spaced [] chars
  | word {before w after : List Char} {ws : List (List Char)} (hbefore : Blank before)
      (hword : IsWord w) (hafter : EndsWord after) (h : Spaced ws after) :
      Spaced (w :: ws) (before ++ (w ++ after))

theorem words_nil : words [] = [] :=
  rfl

theorem words_cons_blank {c : Char} (hc : isBlank c = true) (rest : List Char) :
    words (c :: rest) = words rest := by
  simp [words, pieces, hc]

theorem words_blank_append {before : List Char} (h : Blank before) (rest : List Char) :
    words (before ++ rest) = words rest := by
  induction before with
  | nil =>
      rfl
  | cons c before ih =>
      rcases blank_cons.mp h with ⟨hc, hbefore⟩
      rw [List.cons_append, words_cons_blank hc, ih hbefore]

theorem pieces_word_append {w : List Char} (h : ∀ c ∈ w, isBlank c = false) (rest : List Char) :
    pieces isBlank (w ++ rest) = (w ++ (pieces isBlank rest).1, (pieces isBlank rest).2) := by
  induction w with
  | nil =>
      rfl
  | cons c w ih =>
      rcases List.forall_mem_cons.mp h with ⟨hc, hw⟩
      simp [pieces, hc, ih hw]

theorem words_word_append {w after : List Char} (hword : IsWord w) (hafter : EndsWord after) :
    words (w ++ after) = w :: words after := by
  have hfilled : w.isEmpty = false := by
    simpa using hword.1
  rw [words, pieces_word_append hword.2]
  cases after with
  | nil =>
      simp [words, pieces, hfilled]
  | cons c rest =>
      have hc : isBlank c = true := hafter c rfl
      simp [words, pieces, hc, hfilled]

theorem words_of_spaced {ws : List (List Char)} {chars : List Char} (h : Spaced ws chars) :
    words chars = ws := by
  induction h with
  | blank h =>
      simpa [words_nil] using words_blank_append h []
  | word hbefore hword hafter _ ih =>
      rw [words_blank_append hbefore, words_word_append hword hafter, ih]

theorem spaced_cons_blank {c : Char} (hc : isBlank c = true) {ws : List (List Char)}
    {rest : List Char} (h : Spaced ws rest) : Spaced ws (c :: rest) := by
  cases h with
  | blank h =>
      exact Spaced.blank (blank_cons.mpr ⟨hc, h⟩)
  | word hbefore hword hafter h =>
      exact Spaced.word (blank_cons.mpr ⟨hc, hbefore⟩) hword hafter h

/-- Every text is one of words: a character joins the word that starts right after it. -/
theorem exists_spaced (chars : List Char) : ∃ ws, Spaced ws chars := by
  induction chars with
  | nil =>
      exact ⟨[], Spaced.blank blank_nil⟩
  | cons c rest ih =>
      rcases ih with ⟨ws, h⟩
      cases hc : isBlank c with
      | true =>
          exact ⟨ws, spaced_cons_blank hc h⟩
      | false =>
          have hsingle : IsWord [c] := ⟨List.cons_ne_nil _ _, by simpa using hc⟩
          cases h with
          | blank h =>
              exact ⟨[[c]], Spaced.word blank_nil hsingle (endsWord_of_blank h) (Spaced.blank h)⟩
          | @word before w after ws hbefore hword hafter h =>
              cases before with
              | nil =>
                  refine ⟨(c :: w) :: ws, Spaced.word blank_nil ⟨List.cons_ne_nil _ _, ?_⟩ hafter h⟩
                  exact List.forall_mem_cons.mpr ⟨hc, hword.2⟩
              | cons d before =>
                  have hend := endsWord_append (List.cons_ne_nil d before) hbefore (w ++ after)
                  exact ⟨[c] :: w :: ws, Spaced.word blank_nil hsingle hend
                    (Spaced.word hbefore hword hafter h)⟩

theorem words_eq_iff {chars : List Char} {ws : List (List Char)} :
    words chars = ws ↔ Spaced ws chars := by
  constructor
  · rintro rfl
    rcases exists_spaced chars with ⟨ws, h⟩
    rwa [words_of_spaced h]
  · exact words_of_spaced

/-!
# Parts
-/

theorem splitAt_eq_splitOn (separator : Char) (chars : List Char) :
    splitAt separator chars = chars.splitOn separator := by
  induction chars with
  | nil =>
      rfl
  | cons c rest ih =>
      unfold splitAt at ih ⊢
      unfold List.splitOn at ih ⊢
      rw [List.splitOnP_cons_eq_if_modifyHead, ← ih, pieces]
      cases c == separator <;> rfl

theorem not_mem_of_mem_splitAt {separator : Char} {chars : List Char} :
    ∀ part ∈ splitAt separator chars, separator ∉ part := by
  induction chars with
  | nil =>
      simp [splitAt, pieces]
  | cons c rest ih =>
      rcases List.forall_mem_cons.mp ih with ⟨hfirst, hothers⟩
      unfold splitAt
      rw [pieces]
      cases hc : c == separator with
      | true =>
          refine List.forall_mem_cons.mpr ⟨List.not_mem_nil, ?_⟩
          exact List.forall_mem_cons.mpr ⟨hfirst, hothers⟩
      | false =>
          refine List.forall_mem_cons.mpr ⟨?_, hothers⟩
          have hne : separator ≠ c := fun heq => by simp [heq] at hc
          exact List.not_mem_cons_of_ne_of_not_mem hne hfirst

theorem splitAt_eq_iff {separator : Char} {chars : List Char} {parts : List (List Char)} :
    splitAt separator chars = parts ↔
      parts ≠ [] ∧ (∀ part ∈ parts, separator ∉ part) ∧
        [separator].intercalate parts = chars := by
  constructor
  · rintro rfl
    refine ⟨List.cons_ne_nil _ _, not_mem_of_mem_splitAt, ?_⟩
    rw [splitAt_eq_splitOn, List.intercalate_splitOn]
  · rintro ⟨hparts, hfree, rfl⟩
    rw [splitAt_eq_splitOn, List.splitOn_intercalate _ hfree hparts]

end Text
end DocQuery
