import DocQuery.Proofs.Pattern.Literal
import Mathlib.Logic.Function.Iterate

/-!
# Patterns that match more

Where the sets of an expression grow, it matches all that it matched before.  So it is
with patterns of single characters and points when they are read without regard to
case, and those are too large then only if they are long.
-/

namespace DocQuery
namespace Pattern

open Text (CharSet)

/-!
# Larger sets of places
-/

def Within (p q : Places) : Prop :=
  ∀ i, p.testBit i = true → q.testBit i = true

theorem Within.or {p p' q q' : Places} (h : Within p q) (h' : Within p' q') :
    Within (p ||| p') (q ||| q') := by
  intro i hi
  rw [Nat.testBit_or, Bool.or_eq_true] at hi ⊢
  exact hi.imp (h i) (h' i)

/-- Stopping early makes no difference, as nothing changes any more. -/
theorem advance_eq_iterate (step : Places → Places) (n : Nat) (p : Places) :
    advance step n p = step^[n] p := by
  induction n generalizing p with
  | zero =>
      rfl
  | succ n ih =>
      rw [advance]
      split
      · rename_i hfixed
        exact (Function.iterate_fixed hfixed _).symm
      · exact ih _

theorem spread_eq_iterate (step : Places → Places) (n : Nat) (p : Places) :
    spread step n p = (fun q => q ||| step q)^[n] p := by
  induction n generalizing p with
  | zero =>
      rfl
  | succ n ih =>
      rw [spread]
      split
      · rename_i hfixed
        exact (Function.iterate_fixed (f := fun q => q ||| step q) hfixed _).symm
      · exact ih _

theorem Within.iterate {f g : Places → Places} (hstep : ∀ p q, Within p q → Within (f p) (g q))
    (n : Nat) {p q : Places} (h : Within p q) : Within (f^[n] p) (g^[n] q) := by
  induction n generalizing p q with
  | zero =>
      exact h
  | succ n ih =>
      exact ih (hstep p q h)

/-!
# Larger sets of characters
-/

namespace Expr

/-- The expressions are built alike, and every set of the one is within that of the other. -/
inductive Widens : Meaning → Meaning → Prop where
  | empty : Widens .empty .empty
  | step {s s' : CharSet} (h : ∀ c, s.contains c = true → s'.contains c = true) :
      Widens (.step s) (.step s')
  | look (a : Assertion) : Widens (.look a) (.look a)
  | group (captures : Bool) {e e' : Meaning} (h : Widens e e') :
      Widens (.group captures e) (.group captures e')
  | next {e e' r r' : Meaning} (h : Widens e e') (hr : Widens r r') :
      Widens (.next e r) (.next e' r')
  | or {e e' r r' : Meaning} (h : Widens e e') (hr : Widens r r') : Widens (.or e r) (.or e' r')
  | repeat {e e' : Meaning} (h : Widens e e') (least : Nat) (most : Option Nat) :
      Widens (.repeat e least most) (.repeat e' least most)

theorem Widens.within_ends {e e' : Meaning} (h : Widens e e') (text : List Char) (count : Nat)
    {p q : Places} (hpq : Within p q) :
    Within ((e.located text).ends count p) ((e'.located text).ends count q) := by
  induction h generalizing p q with
  | empty =>
      exact hpq
  | step hsets =>
      intro j hj
      rcases testBit_ends_step.mp hj with ⟨i, c, rfl, hi, hc, hset⟩
      exact testBit_ends_step.mpr ⟨i, c, rfl, hpq i hi, hc, hsets c hset⟩
  | look a =>
      intro j hj
      rcases testBit_ends_look.mp hj with ⟨hp, hle, hholds⟩
      exact testBit_ends_look.mpr ⟨hpq j hp, hle, hholds⟩
  | group captures _ ih =>
      exact ih hpq
  | next _ _ ih ihr =>
      exact ihr (ih hpq)
  | or _ _ ih ihr =>
      exact (ih hpq).or (ihr hpq)
  | «repeat» _ least most ih =>
      change Within (spread _ _ (advance _ _ _)) (spread _ _ (advance _ _ _))
      rw [spread_eq_iterate, spread_eq_iterate, advance_eq_iterate, advance_eq_iterate]
      apply Within.iterate
      · intro p q hpq
        exact hpq.or (ih hpq)
      · exact Within.iterate (fun _ _ => ih) least hpq

theorem Widens.matchesText {e e' : Meaning} (h : Widens e e') {text : String}
    (hmatches : e.matchesText text = true) : e'.matchesText text = true := by
  rcases matchesText_iff.mp hmatches with ⟨j, hj⟩
  exact matchesText_iff.mpr ⟨j, h.within_ends _ _ (fun _ hi => hi) j hj⟩

theorem Widens.chain {es es' : List Meaning} (h : List.Forall₂ Widens es es') :
    Widens (chain es) (chain es') := by
  induction h with
  | nil =>
      exact Widens.empty
  | cons hfirst hrest ih =>
      cases hrest with
      | nil =>
          exact hfirst
      | cons =>
          exact Widens.next hfirst ih

end Expr

open DocQuery.Pattern.Expr (Widens)

/-!
# Plain patterns
-/

/-- Parts of which patterns for texts and wildcards are made. -/
inductive IsPlain : Tree → Prop where
  | char (c : Char) : IsPlain (ofChar c)
  | dot : IsPlain .dot
  | dots : IsPlain (.repeat .dot 0 none)
  | mark (m : Mark) : IsPlain (.mark m)

theorem isPlain_likePart (c : Char) : IsPlain (likePart c) := by
  unfold likePart
  split
  · exact IsPlain.dots
  · split
    · exact IsPlain.dot
    · exact IsPlain.char c

def caselessFlags : Flags :=
  { caseless := true }

theorem exists_meaning?_of_isPlain {t : Tree} (h : IsPlain t) :
    ∃ e e', t.meaning? {} = some (e, {}) ∧
      t.meaning? caselessFlags = some (e', caselessFlags) ∧
      Widens e e' ∧ ∀ d, Costs d e' 1040 := by
  cases h with
  | char c =>
      refine ⟨.step (charSet {} c), .step (charSet caselessFlags c), rfl, rfl, ?_, ?_⟩
      · apply Widens.step
        intro d hd
        rw [contains_single_iff.mp hd]
        exact contains_charSet caselessFlags c
      · intro d
        exact (costs_charSet rfl d c).mono (by decide)
  | dot =>
      exact ⟨.step dotSet, .step dotSet, rfl, rfl, Widens.step fun _ hc => hc,
        fun d => (costs_dotSet d).mono (by decide)⟩
  | dots =>
      exact ⟨.repeat (.step dotSet) 0 none, .repeat (.step dotSet) 0 none, rfl, rfl,
        Widens.repeat (Widens.step fun _ hc => hc) 0 none, costs_dots⟩
  | mark m =>
      refine ⟨.look (m.assertion {}), .look (m.assertion {}), rfl, ?_, Widens.look _, ?_⟩
      · cases m <;> rfl
      · intro d
        exact (costs_look d _).mono (by decide)

theorem exists_meanings?_of_isPlain {parts : List Tree} (h : ∀ t ∈ parts, IsPlain t) :
    ∃ es es',
      List.Forall₂ (fun (t : Tree) (e : Meaning) => t.meaning? {} = some (e, {})) parts es ∧
      List.Forall₂ (fun (t : Tree) (e : Meaning) =>
        t.meaning? caselessFlags = some (e, caselessFlags)) parts es' ∧
      List.Forall₂ Widens es es' ∧ ∀ e ∈ es', ∀ d, Costs d e 1040 := by
  induction parts with
  | nil =>
      exact ⟨[], [], .nil, .nil, .nil, fun _ he => absurd he List.not_mem_nil⟩
  | cons t parts ih =>
      rw [List.forall_mem_cons] at h
      rcases exists_meaning?_of_isPlain h.1 with ⟨e, e', he, he', hwidens, hcosts⟩
      rcases ih h.2 with ⟨es, es', hes, hes', hrest, hothers⟩
      exact ⟨e :: es, e' :: es', .cons he hes, .cons he' hes', .cons hwidens hrest,
        List.forall_mem_cons.mpr ⟨hcosts, hothers⟩⟩

/-- A pattern that is read as plain parts, two at most besides the characters of a text. -/
inductive ReadsPlain (pattern : String) (text : List Char) : Prop where
  | intro (parts : List Tree) (hread : readTree? pattern.toList = some (Tree.sequence parts))
      (hdepth : (Tree.sequence parts).depth ≤ depthLimit) (hplain : ∀ t ∈ parts, IsPlain t)
      (hlength : parts.length ≤ text.length + 2)

/-- Read without regard to case, a plain pattern matches at least what it matched before. Only
a long one may be refused then. -/
theorem read?_caseless {pattern : String} {text : List Char} (h : ReadsPlain pattern text) :
    (∃ e', read? caselessFlags pattern = some e' ∧
      ∀ e, read? {} pattern = some e → Widens e e') ∨
    read? caselessFlags pattern = none ∧ literalLimit < text.length := by
  rcases h with ⟨parts, hread, hdepth, hplain, hlength⟩
  rcases exists_meanings?_of_isPlain hplain with ⟨es, es', hes, hes', hwidens, hcosts⟩
  have hchain {f : Flags} {es : List Meaning}
      (hes : List.Forall₂ (fun t e => t.meaning? f = some (e, f)) parts es) :
      read? f pattern = if (Expr.chain es).fits then some (Expr.chain es) else none := by
    simp [read?, hread, meaning?_sequence hes, Nat.not_lt.mpr hdepth]
  by_cases hfits : (Expr.chain es').fits = true
  · apply Or.inl
    refine ⟨Expr.chain es', by rw [hchain hes', if_pos hfits], ?_⟩
    intro e he
    rw [hchain hes] at he
    split at he
    · cases he
      exact Widens.chain hwidens
    · cases he
  · apply Or.inr
    refine ⟨by rw [hchain hes', if_neg hfits], ?_⟩
    apply Nat.lt_of_not_le
    intro hshort
    have hcount := hes'.length_eq
    exact hfits (fits_chain hcosts (by omega))

/-!
# Patterns for texts
-/

theorem readsPlain_ofLike (text : String) : ReadsPlain (ofLike text) text.toList := by
  refine ⟨_, readTree?_ofLike text, depth_likeTree _, ?_, ?_⟩
  · simp only [List.forall_mem_cons, List.forall_mem_append, List.forall_mem_map]
    exact ⟨.mark _, fun c _ => isPlain_likePart c, .mark _,
      fun _ ht => absurd ht List.not_mem_nil⟩
  · simp

theorem readsPlain_anchors (a : Anchors) (text : List Char) :
    ReadsPlain (String.ofList (a.pattern text)) text := by
  have hmarked (isMarked : Bool) (m : Mark) :
      ∀ t ∈ marked isMarked (Tree.mark m), IsPlain t := by
    intro t ht
    cases isMarked with
    | true =>
        rw [List.mem_singleton.mp ht]
        exact IsPlain.mark m
    | false =>
        cases ht
  refine ⟨a.parts text, ?_, depth_parts a text, ?_, ?_⟩
  · rw [String.toList_ofList, readTree?_anchors]
  · simp only [Anchors.parts, List.forall_mem_append, List.forall_mem_map]
    exact ⟨hmarked _ _, fun c _ => IsPlain.char c, hmarked _ _⟩
  · have hstart := length_marked_le a.start (Tree.mark .lineStart)
    have hstop := length_marked_le a.stop (Tree.mark .lineEnd)
    simp only [Anchors.parts, List.length_append, List.length_map]
    omega

end Pattern
end DocQuery
