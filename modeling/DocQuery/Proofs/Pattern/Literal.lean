import DocQuery.Proofs.Pattern.SetSize
import DocQuery.Proofs.Pattern.Wildcards
import DocQuery.Proofs.Text.CaseFolding

/-!
# Literal patterns

An escaped text, alone or between marks for the ends of a text, is read as a chain of
its characters.  Such a chain matches just where the characters stand one after the
other, each for itself or, without regard to case, for those that fold alike.
-/

namespace DocQuery
namespace Pattern

open Text (CharSet)

/-!
# Reading
-/

/-- The ends of a text at which a part of it is to stand. -/
structure Anchors where
  start : Bool
  stop : Bool

def marked {α : Type} (isMarked : Bool) (mark : α) : List α :=
  if isMarked then [mark] else []

namespace Anchors

def pattern (a : Anchors) (text : List Char) : List Char :=
  marked a.start '^' ++ (escapeChars text ++ marked a.stop '$')

def parts (a : Anchors) (text : List Char) : List Tree :=
  marked a.start (.mark .lineStart) ++ (text.map ofChar ++ marked a.stop (.mark .lineEnd))

end Anchors

theorem readParts?_escaped {r : Reading} (hspaced : r.spaced = false) (stop : Bool)
    (text : List Char) :
    readParts? (escapeChars text ++ marked stop '$').length r
        (escapeChars text ++ marked stop '$') =
      some ((text.map ofChar ++ marked stop (Tree.mark .lineEnd)).foldl Reading.push r) := by
  rcases Nat.exists_eq_add_of_le (length_le_length_escapeChars text) with ⟨extra, hextra⟩
  have hpushed : ((text.map ofChar).foldl Reading.push r).spaced = false := by
    rw [foldl_push]
    exact hspaced
  rw [List.length_append, hextra, Nat.add_assoc, readParts?_escapeChars hspaced, List.foldl_append]
  cases stop with
  | true =>
      refine (readParts?_cons hpushed rfl extra).trans ?_
      exact readParts?_nil (r := ((text.map ofChar).foldl Reading.push r).push _) hpushed extra
  | false =>
      exact readParts?_nil hpushed extra

theorem readParts?_anchors (a : Anchors) (text : List Char) :
    readParts? (a.pattern text).length {} (a.pattern text) =
      some ((a.parts text).foldl Reading.push {}) := by
  rcases a with ⟨start, stop⟩
  cases start with
  | true =>
      have hstart (rest : List Char) : readPart? {} '^' rest =
          some (({} : Reading).push (.mark .lineStart), rest) :=
        rfl
      exact (readParts?_cons rfl (hstart _) _).trans (readParts?_escaped rfl stop text)
  | false =>
      exact readParts?_escaped rfl stop text

theorem readTree?_anchors (a : Anchors) (text : List Char) :
    readTree? (a.pattern text) = some (Tree.sequence (a.parts text)) := by
  rw [readTree?, readParts?_anchors, foldl_push]
  simp [OpenGroup.tree, OpenGroup.branch]

theorem depth_parts (a : Anchors) (text : List Char) :
    (Tree.sequence (a.parts text)).depth ≤ depthLimit := by
  have hmarked (isMarked : Bool) (m : Mark) :
      ∀ t ∈ marked isMarked (Tree.mark m), t.depth ≤ 0 := by
    cases isMarked <;> simp [marked, Tree.depth]
  have hparts : ∀ t ∈ a.parts text, t.depth ≤ 0 := by
    unfold Anchors.parts
    rw [List.forall_mem_append, List.forall_mem_append, List.forall_mem_map]
    exact ⟨hmarked _ _, fun _ _ => Nat.le_refl 0, hmarked _ _⟩
  exact Nat.le_trans (depth_sequence_le hparts) (by decide)

/-!
# Meaning
-/

def Expr.chain {Step Look : Type} : List (Expr Step Look) → Expr Step Look
  | [] => .empty
  | [e] => e
  | e :: rest => .next e (chain rest)

theorem meaning?_sequence {f : Flags} {parts : List Tree} {es : List Meaning}
    (h : List.Forall₂ (fun t e => t.meaning? f = some (e, f)) parts es) :
    (Tree.sequence parts).meaning? f = some (Expr.chain es, f) := by
  induction h with
  | nil =>
      rfl
  | cons hfirst hrest ih =>
      cases hrest with
      | nil =>
          exact hfirst
      | cons hsecond hothers =>
          change (Tree.next _ (Tree.sequence (_ :: _))).meaning? f = _
          simp [Tree.meaning?, hfirst, ih, Expr.chain]

def setsOf (f : Flags) (text : List Char) : List CharSet :=
  text.map (charSet f)

namespace Anchors

def steps (a : Anchors) (sets : List CharSet) : List Meaning :=
  marked a.start (.look .textStart) ++ (sets.map .step ++ marked a.stop (.look .textEnd))

def meaning (a : Anchors) (f : Flags) (text : List Char) : Meaning :=
  Expr.chain (a.steps (setsOf f text))

end Anchors

theorem meaning?_parts {f : Flags} (hlines : f.multiLine = false) (a : Anchors)
    (text : List Char) :
    (Tree.sequence (a.parts text)).meaning? f = some (a.meaning f text, f) := by
  have hmarked (isMarked : Bool) {m : Mark} {l : Assertion} (hmark : m.assertion f = l) :
      List.Forall₂ (fun (t : Tree) (e : Meaning) => t.meaning? f = some (e, f))
        (marked isMarked (.mark m)) (marked isMarked (.look l)) := by
    subst hmark
    cases isMarked with
    | true =>
        exact List.Forall₂.cons rfl List.Forall₂.nil
    | false =>
        exact List.Forall₂.nil
  have hchars : List.Forall₂ (fun (t : Tree) (e : Meaning) => t.meaning? f = some (e, f))
      (text.map ofChar) ((setsOf f text).map .step) := by
    rw [setsOf, List.map_map, List.forall₂_map_left_iff, List.forall₂_map_right_iff,
      List.forall₂_same]
    intro c _
    simp [ofChar, Tree.meaning?, Literal.set?]
  apply meaning?_sequence
  apply List.rel_append
  · exact hmarked a.start (by simp [Mark.assertion, hlines])
  · apply List.rel_append
    · exact hchars
    · exact hmarked a.stop (by simp [Mark.assertion, hlines])

theorem read?_anchors {f : Flags} (hlines : f.multiLine = false) (a : Anchors)
    (text : List Char) :
    read? f (String.ofList (a.pattern text)) =
      if (a.meaning f text).fits then some (a.meaning f text) else none := by
  simp [read?, readTree?_anchors, meaning?_parts hlines, Nat.not_lt.mpr (depth_parts a text)]

/-!
# Matching
-/

open DocQuery.Pattern.Expr

section Ends

variable {text : List Char} {count : Nat} {places : Places}

theorem ends_chain (es : List Meaning) :
    (located (chain es) text).ends count places =
      es.foldl (fun places e => (located e text).ends count places) places := by
  induction es generalizing places with
  | nil =>
      rfl
  | cons e es ih =>
      cases es with
      | nil =>
          rfl
      | cons second es =>
          exact ih

theorem testBit_foldl_steps {sets : List CharSet} {j : Nat} :
    ((sets.map Expr.step).foldl (fun places e => (located e text).ends count places)
        places).testBit j = true ↔
      ∃ i taken, places.testBit i = true ∧ j = i + taken.length ∧ taken <+: text.drop i ∧
        List.Forall₂ (fun set d => set.contains d = true) sets taken := by
  induction sets generalizing places with
  | nil =>
      constructor
      · intro hj
        exact ⟨j, [], hj, rfl, List.nil_prefix, List.Forall₂.nil⟩
      · rintro ⟨i, taken, hi, hj, _, hsets⟩
        cases hsets
        rw [hj]
        exact hi
  | cons set sets ih =>
      rw [List.map_cons, List.foldl_cons, ih]
      constructor
      · rintro ⟨_, taken, hstep, rfl, htaken, hsets⟩
        rcases testBit_ends_step.mp hstep with ⟨i, d, rfl, hi, hd, hset⟩
        refine ⟨i, d :: taken, hi, ?_, cons_prefix_drop_iff.mpr ⟨hd, htaken⟩,
          List.Forall₂.cons hset hsets⟩
        rw [List.length_cons]
        omega
      · rintro ⟨i, _, hi, rfl, htaken, hsets⟩
        cases hsets with
        | cons hset hsets =>
            rcases cons_prefix_drop_iff.mp htaken with ⟨hd, htaken⟩
            refine ⟨i + 1, _, testBit_ends_step.mpr ⟨i, _, rfl, hi, hd, hset⟩, ?_, htaken, hsets⟩
            rw [List.length_cons]
            omega

theorem testBit_foldl_starts {isMarked : Bool} {i : Nat} :
    ((marked isMarked (.look .textStart)).foldl
        (fun places e => (located e text).ends count places) (allPlaces text)).testBit i = true ↔
      i ≤ text.length ∧ (isMarked = true → i = 0) := by
  cases isMarked <;> simp [marked, testBit_ends_textStart, testBit_allPlaces]

theorem testBit_foldl_stops {isMarked : Bool} {j : Nat} :
    ((marked isMarked (.look .textEnd)).foldl
        (fun places e => (located e text).ends count places) places).testBit j = true ↔
      places.testBit j = true ∧ (isMarked = true → j = text.length) := by
  cases isMarked <;> simp [marked, testBit_ends_textEnd]

end Ends

/-- Part of a text stands where the anchors want it. -/
def Anchors.Hold (a : Anchors) (before after : List Char) : Prop :=
  (a.start = true → before = []) ∧ (a.stop = true → after = [])

theorem matchesText_chain_steps (a : Anchors) (sets : List CharSet) (text : String) :
    (Expr.chain (a.steps sets)).matchesText text = true ↔
      ∃ before part after, text.toList = before ++ (part ++ after) ∧ a.Hold before after ∧
        List.Forall₂ (fun set d => set.contains d = true) sets part := by
  rw [matchesText_iff]
  simp only [ends_chain, Anchors.steps, List.foldl_append, testBit_foldl_stops,
    testBit_foldl_steps, testBit_foldl_starts]
  constructor
  · rintro ⟨_, ⟨i, part, ⟨hle, hstart⟩, rfl, ⟨after, hafter⟩, hsets⟩, hstop⟩
    refine ⟨text.toList.take i, part, after, ?_, ⟨?_, ?_⟩, hsets⟩
    · rw [hafter, List.take_append_drop]
    · intro hmarked
      rw [hstart hmarked, List.take_zero]
    · intro hmarked
      have hlength := congrArg List.length hafter
      rw [List.length_append, List.length_drop] at hlength
      have hend := hstop hmarked
      exact List.eq_nil_of_length_eq_zero (by omega)
  · rintro ⟨before, part, after, htext, ⟨hstart, hstop⟩, hsets⟩
    have hdrop : text.toList.drop before.length = part ++ after := by
      rw [htext, List.drop_left]
    refine ⟨before.length + part.length, ⟨before.length, part, ⟨?_, ?_⟩, rfl, ?_, hsets⟩, ?_⟩
    · rw [htext, List.length_append]
      exact Nat.le_add_right _ _
    · intro hmarked
      rw [hstart hmarked, List.length_nil]
    · rw [hdrop]
      exact List.prefix_append _ _
    · intro hmarked
      rw [htext, hstop hmarked, List.append_nil, List.length_append]

/-!
# Characters
-/

theorem contains_charSet_iff {f : Flags} (hunicode : f.unicode = true) {c d : Char} :
    (charSet f c).contains d = true ↔
      if f.caseless then Text.sameLetter c d = true else c = d := by
  unfold charSet
  cases f.caseless with
  | true =>
      simp only [Bool.not_true, Bool.false_eq_true, if_false, hunicode, if_true]
      rw [CharSet.unions, contains_foldl_union, Bool.or_eq_true, List.any_map, List.any_eq_true]
      simp only [Function.comp, contains_single_iff]
      constructor
      · rintro (hempty | ⟨d', hd', rfl⟩)
        · cases hempty
        · exact Text.mem_variants_iff.mp hd'
      · intro hsame
        exact Or.inr ⟨d, Text.mem_variants_iff.mpr hsame, rfl⟩
  | false =>
      simp only [Bool.not_false, if_true, Bool.false_eq_true, if_false, contains_single_iff]
      exact eq_comm

/-- A literal pattern matches just the texts that have a part like it where it is anchored. -/
theorem matchesText_meaning {f : Flags} (hunicode : f.unicode = true) (a : Anchors)
    (chars : List Char) (text : String) :
    (a.meaning f chars).matchesText text = true ↔
      ∃ before part after, text.toList = before ++ (part ++ after) ∧ a.Hold before after ∧
        List.Forall₂ (fun c d => if f.caseless then Text.sameLetter c d = true else c = d)
          chars part := by
  rw [Anchors.meaning, matchesText_chain_steps]
  simp only [setsOf, List.forall₂_map_left_iff, contains_charSet_iff hunicode]

/-!
# Size
-/

theorem costs_charSet {f : Flags} (hunicode : f.unicode = true) (d : Direction) (c : Char) :
    Costs d (.step (charSet f c)) 832 := by
  unfold charSet
  cases f.caseless with
  | true =>
      simp only [Bool.not_true, Bool.false_eq_true, if_false, hunicode, if_true]
      exact costs_unions_single d (Text.length_variants_le c)
  | false =>
      exact (costs_single d c).mono (by decide)

theorem costs_chain {d : Direction} {n : Nat} {es : List Meaning}
    (h : ∀ e ∈ es, Costs d e n) : Costs d (Expr.chain es) (n * es.length + 32) := by
  induction es with
  | nil =>
      exact ⟨_, rfl, Nat.le_add_left _ _⟩
  | cons e es ih =>
      rw [List.forall_mem_cons] at h
      cases es with
      | nil =>
          exact h.1.mono (Nat.le_trans (Nat.le_of_eq (Nat.mul_one n).symm) (Nat.le_add_right _ _))
      | cons second es =>
          refine (h.1.next (ih h.2)).mono (Nat.le_of_eq ?_)
          rw [List.length_cons (a := e), Nat.mul_succ]
          omega

def literalLimit : Nat :=
  10000

theorem fits_chain {es : List Meaning} (hcosts : ∀ e ∈ es, ∀ d, Costs d e 1040)
    (hlength : es.length ≤ literalLimit + 2) : (Expr.chain es).fits = true := by
  have hsize (d : Direction) : (Expr.chain es).size d ≤ sizeLimit := by
    refine Nat.le_trans (costs_chain fun e he => hcosts e he d).size_le ?_
    unfold literalLimit at hlength
    unfold sizeLimit
    omega
  rw [Expr.fits, Bool.and_eq_true, decide_eq_true_eq, decide_eq_true_eq]
  exact ⟨hsize .forward, hsize .backward⟩

theorem costs_marked (isMarked : Bool) (l : Assertion) :
    ∀ e ∈ marked isMarked (Expr.look l : Meaning), ∀ d, Costs d e 1040 := by
  intro e he d
  cases isMarked with
  | true =>
      rw [List.mem_singleton.mp he]
      exact (costs_look d l).mono (by decide)
  | false =>
      cases he

theorem length_marked_le {α : Type} (isMarked : Bool) (mark : α) :
    (marked isMarked mark).length ≤ 1 := by
  cases isMarked with
  | true =>
      exact Nat.le_refl 1
  | false =>
      exact Nat.zero_le 1

theorem fits_meaning {f : Flags} (hunicode : f.unicode = true) (a : Anchors) {text : List Char}
    (h : text.length ≤ literalLimit) : (a.meaning f text).fits = true := by
  apply fits_chain
  · simp only [Anchors.steps, setsOf, List.forall_mem_append, List.forall_mem_map]
    exact ⟨costs_marked _ _, fun c _ d => (costs_charSet hunicode d c).mono (by decide),
      costs_marked _ _⟩
  · have hstart := length_marked_le a.start (Expr.look Assertion.textStart : Meaning)
    have hstop := length_marked_le a.stop (Expr.look Assertion.textEnd : Meaning)
    simp only [Anchors.steps, setsOf, List.length_append, List.length_map]
    omega

/-- The expression is a single part of at least some size, and not a text that would join with
another one. -/
def Weighs (d : Direction) (e : Meaning) (n : Nat) : Prop :=
  ∃ p b, e.parts d = [p] ∧ p.branches = [b] ∧ (∀ chars, b ≠ .text chars) ∧ n ≤ b.size d

theorem Weighs.next {d : Direction} {first second : Meaning} {m n : Nat}
    (hfirst : Weighs d first m) (hsecond : Weighs d second n) :
    Weighs d (.next first second) (m + n) := by
  rcases hfirst with ⟨p, a, hp, ha, hatext, hm⟩
  rcases hsecond with ⟨q, b, hq, hb, hbtext, hn⟩
  have hsize {r : Part} {c : Branch} (hc : r.branches = [c]) : r.size d = c.size d := by
    rw [Part.size, hc]
    rfl
  refine ⟨Part.next d p q, .other (a.size d + b.size d), ?_, ?_, ?_, Nat.add_le_add hm hn⟩
  · rw [Expr.parts, hp, hq]
    rfl
  · simp only [Part.next, ha, hb, hsize ha, hsize hb]
    cases a with
    | text chars =>
        exact absurd rfl (hatext chars)
    | _ =>
        cases b with
        | text chars =>
            exact absurd rfl (hbtext chars)
        | _ =>
            rfl
  · intro chars htext
    cases htext

theorem weighs_chain {d : Direction} {es : List Meaning} {sizes : List Nat} (hes : es ≠ [])
    (h : List.Forall₂ (Weighs d) es sizes) : Weighs d (Expr.chain es) sizes.sum := by
  induction h with
  | nil =>
      exact absurd rfl hes
  | cons hfirst hrest ih =>
      cases hrest with
      | nil =>
          exact hfirst
      | cons hsecond hothers =>
          exact hfirst.next (ih (List.cons_ne_nil _ _))

theorem Weighs.le_size {d : Direction} {e : Meaning} {n : Nat} (h : Weighs d e n) :
    n ≤ e.size d := by
  rcases h with ⟨p, b, hp, hb, _, hn⟩
  rw [Expr.size, hp]
  refine Nat.le_trans hn (Nat.le_trans (Nat.le_of_eq ?_) (Nat.le_add_right _ _))
  change _ = p.size d
  rw [Part.size, hb]
  rfl

/-- The letter has three variants, each of which is written with a state or two of its own. -/
theorem parts_letter :
    (Expr.step (charSet { caseless := true } 'k') : Meaning).parts .forward =
      [Part.ofSet [(0x4b, 0x4b), (0x6b, 0x6b), (0x212a, 0x212a)]] := by
  have hranges : (charSet { caseless := true } 'k').ranges =
      [(0x4b, 0x4b), (0x6b, 0x6b), (0x212a, 0x212a)] := by
    change (CharSet.unions ((Text.variants 'k').map .single)).ranges = _
    rw [Text.variants_k]
    decide +kernel
  rw [Expr.parts, hranges]

/-- Without regard to case a long text of one letter makes too large a pattern. -/
theorem not_fits_letters (a : Anchors) {n : Nat} (h : 100000 ≤ n) :
    (a.meaning { caseless := true } (List.replicate n 'k')).fits = false := by
  let text := List.replicate n 'k'
  have hset : setSize .forward [(0x4b, 0x4b), (0x6b, 0x6b), (0x212a, 0x212a)] = 168 := by
    decide +kernel
  have hletter : Weighs .forward (.step (charSet { caseless := true } 'k')) 168 :=
    ⟨_, _, parts_letter, rfl, nofun, Nat.le_of_eq hset.symm⟩
  have hletters : List.Forall₂ (Weighs .forward)
      ((setsOf { caseless := true } text).map .step) (text.map fun _ => 168) := by
    rw [setsOf, List.map_map, List.forall₂_map_left_iff, List.forall₂_map_right_iff,
      List.forall₂_same]
    intro c hc
    rw [List.eq_of_mem_replicate hc]
    exact hletter
  have hmarked (isMarked : Bool) (l : Assertion) : List.Forall₂ (Weighs .forward)
      (marked isMarked (.look l)) (marked isMarked 0) := by
    cases isMarked with
    | true =>
        exact .cons ⟨_, _, rfl, rfl, nofun, Nat.zero_le _⟩ .nil
    | false =>
        exact .nil
  have hsteps := List.rel_append (hmarked a.start .textStart)
    (List.rel_append hletters (hmarked a.stop .textEnd))
  have hsome : a.steps (setsOf { caseless := true } text) ≠ [] := by
    have hlength : 0 < text.length := by
      rw [List.length_replicate]
      omega
    simp [Anchors.steps, setsOf, List.ne_nil_of_length_pos hlength]
  have hsum (isMarked : Bool) : (marked isMarked 0).sum = 0 := by
    cases isMarked <;> rfl
  have hsize := (weighs_chain hsome hsteps).le_size
  rw [List.sum_append, List.sum_append, hsum, hsum, List.map_const', List.sum_replicate,
    List.length_replicate, Nat.zero_add, Nat.add_zero] at hsize
  have hlarge : ¬ (a.meaning { caseless := true } text).size .forward ≤ sizeLimit := by
    apply Nat.not_le_of_lt
    refine Nat.lt_of_lt_of_le ?_ hsize
    unfold sizeLimit
    rw [Nat.nsmul_eq_mul]
    omega
  rw [Expr.fits, decide_eq_false hlarge, Bool.false_and]

theorem not_fits_replicate {n : Nat} (h : 100000 ≤ n) :
    ((Anchors.mk false false).meaning { caseless := true } (List.replicate n 'k')).fits =
      false :=
  not_fits_letters ⟨false, false⟩ h

end Pattern
end DocQuery
