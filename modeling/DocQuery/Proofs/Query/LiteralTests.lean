import DocQuery.Proofs.Pattern.Literal
import DocQuery.Proofs.Query.TextTests

/-!
# Tests for literal texts

Tests for a part of a text, and without regard to case those for a whole text, take
what they are given letter by letter, whatever it means in patterns of other kinds.
-/

namespace DocQuery

open Outcome
open Selector (Tells)

namespace Compiler

open Pattern (Anchors literalLimit)

def SameLetter (c : Compiler) (a b : Char) : Prop :=
  if c.settings.caseSensitive then a = b else Text.sameLetter a b = true

/-- Comparisons with a text that are compiled to a pattern of its characters. -/
def IsLiteral (c : Compiler) (field : String) : Comparison → Prop
  | .contains | .startsWith | .endsWith => True
  | .equal => c.foldsCase field = true
  | _ => False

/-- How a part stands in a text that has it, begins or ends with it, or is nothing else. -/
def Stands : Comparison → List Char → List Char → Prop
  | .contains, part, text => part <:+: text
  | .startsWith, part, text => part <+: text
  | .endsWith, part, text => part <:+ text
  | _, part, text => part = text

def anchors : Comparison → Anchors
  | .contains => ⟨false, false⟩
  | .startsWith => ⟨true, false⟩
  | .endsWith => ⟨false, true⟩
  | _ => ⟨true, true⟩

theorem stands_iff {comparison : Comparison} {part text : List Char} :
    Stands comparison part text ↔
      ∃ before after, text = before ++ (part ++ after) ∧
        (anchors comparison).Hold before after := by
  cases comparison with
  | contains =>
      constructor
      · rintro ⟨before, after, rfl⟩
        exact ⟨before, after, List.append_assoc _ _ _, nofun, nofun⟩
      · rintro ⟨before, after, rfl, _⟩
        exact ⟨before, after, List.append_assoc _ _ _⟩
  | startsWith =>
      constructor
      · rintro ⟨after, rfl⟩
        exact ⟨[], after, rfl, fun _ => rfl, nofun⟩
      · rintro ⟨before, after, rfl, hstart, _⟩
        rw [hstart rfl]
        exact ⟨after, rfl⟩
  | endsWith =>
      constructor
      · rintro ⟨before, rfl⟩
        exact ⟨before, [], by rw [List.append_nil], nofun, fun _ => rfl⟩
      · rintro ⟨before, after, rfl, _, hstop⟩
        rw [hstop rfl, List.append_nil]
        exact ⟨before, rfl⟩
  | _ =>
      constructor
      · rintro rfl
        exact ⟨[], [], (List.append_nil part).symm, fun _ => rfl, fun _ => rfl⟩
      · rintro ⟨before, after, rfl, hstart, hstop⟩
        rw [hstart rfl, hstop rfl, List.append_nil]
        rfl

def literalPattern (comparison : Comparison) (text : String) : String :=
  String.ofList ((anchors comparison).pattern text.toList)

theorem literalPattern_equal (text : String) : literalPattern .equal text = wholeText text := by
  rw [literalPattern, ← String.ofList_toList (s := wholeText text), Pattern.toList_wholeText]
  rfl

theorem operators_literal {c : Compiler} {field : String} {comparison : Comparison}
    (h : c.IsLiteral field comparison) (text : String) :
    c.operators field comparison (.string text) =
      .ok (c.patternTest (literalPattern comparison text)) := by
  have hpattern {pattern : String}
      (hchars : pattern.toList = (anchors comparison).pattern text.toList) :
      pattern = literalPattern comparison text := by
    rw [literalPattern, ← hchars, String.ofList_toList]
  cases comparison with
  | contains | startsWith | endsWith =>
      refine congrArg (fun pattern => Except.ok (c.patternTest pattern)) (hpattern ?_)
      simp [anchors, Anchors.pattern, Pattern.marked, Pattern.escape]
  | equal =>
      have hfolds : c.foldsCase field = true := h
      simp only [operators, hfolds, literalPattern_equal]
  | _ =>
      cases h

theorem fits_literal {c : Compiler} {comparison : Comparison} {text : String}
    (hread : (Pattern.read? c.flags (literalPattern comparison text)).isSome = true)
    (value : Option Value) :
    Value.Fits c.flags value (literalPattern comparison text) ↔
      ∃ stored part, .string stored ∈ Value.elements value ∧
        Stands comparison part stored.toList ∧ List.Forall₂ c.SameLetter text.toList part := by
  have hmultiLine : c.flags.multiLine = false := rfl
  have hunicode : c.flags.unicode = true := rfl
  have hletter (a b : Char) : c.SameLetter a b ↔
      if c.flags.caseless then Text.sameLetter a b = true else a = b := by
    unfold SameLetter flags
    cases c.settings.caseSensitive <;> rfl
  rw [literalPattern, Pattern.read?_anchors hmultiLine] at hread
  split at hread
  · rename_i hfits
    simp only [Value.Fits, literalPattern, Pattern.read?_anchors hmultiLine, hfits, if_true,
      Option.some.injEq, exists_eq_left', Pattern.matchesText_meaning hunicode, ← hletter]
    constructor
    · rintro ⟨stored, hstored, before, part, after, htext, hhold, hsame⟩
      exact ⟨stored, part, hstored, stands_iff.mpr ⟨before, after, htext, hhold⟩, hsame⟩
    · rintro ⟨stored, part, hstored, hstands, hsame⟩
      rcases stands_iff.mp hstands with ⟨before, after, htext, hhold⟩
      exact ⟨stored, hstored, before, part, after, htext, hhold, hsame⟩
  · cases hread

theorem head?_storedName {field : String} (h : field.toList.head? ≠ some '$') :
    (storedName field).toList.head? ≠ some '$' := by
  unfold storedName
  split
  · decide
  · exact h

theorem filter?_literal {c : Compiler} {field : String} {comparison : Comparison}
    (h : c.IsLiteral field comparison) (text : String) :
    c.filter? (some (.test field comparison (.string text))) =
      .ok [(storedName field, .document (c.patternTest (literalPattern comparison text)))] := by
  simp only [filter?, filter, operators_literal h]
  rfl

theorem matches?_field {field : String} (hfield : field.toList.head? ≠ some '$') (test : Value)
    (d : Document) :
    Selector.matches? [(storedName field, test)] d =
      Selector.condition (d.lookup? (storedName field)) test := by
  rw [Selector.matches?, Selector.entries_field (head?_storedName hfield)]

/-- A test for a literal text takes a document just when a text on the path of its field, or in
a list there, has a part like the literal one that stands as the test says.  Only texts of
a great length may be refused instead, on every document. -/
theorem matches?_literal (c : Compiler) {field : String} (hfield : field.toList.head? ≠ some '$')
    {comparison : Comparison} (hliteral : c.IsLiteral field comparison) (text : String) :
    ∃ filter, c.filter? (some (.test field comparison (.string text))) = .ok filter ∧
      ((∀ d, Tells (Selector.matches? filter d)
          (∃ stored part, .string stored ∈ Value.elements (d.lookup? (storedName field)) ∧
            Stands comparison part stored.toList ∧ List.Forall₂ c.SameLetter text.toList part)) ∨
        literalLimit < text.toList.length ∧ ∀ d,
          Selector.matches? filter d = .error (.pattern (literalPattern comparison text))) := by
  have hmultiLine : c.flags.multiLine = false := rfl
  have hunicode : c.flags.unicode = true := rfl
  refine ⟨_, filter?_literal hliteral text, ?_⟩
  cases hread : Pattern.read? c.flags (literalPattern comparison text) with
  | some e =>
      apply Or.inl
      intro d
      have hsome := Option.isSome_of_eq_some hread
      rw [matches?_field hfield]
      exact (condition_patternTest_tells hsome _).congr (fits_literal hsome _)
  | none =>
      apply Or.inr
      constructor
      · apply Nat.lt_of_not_le
        intro hshort
        rw [literalPattern, Pattern.read?_anchors hmultiLine,
          if_pos (Pattern.fits_meaning hunicode _ hshort)] at hread
        cases hread
      · intro d
        rw [matches?_field hfield]
        exact condition_patternTest_error hread _

/-- Without regard to case a list of texts is found by the start of one of them, brackets
and points included. -/
theorem matches?_literal_kelvin :
    let c : Compiler := ⟨⟨[]⟩, { caseSensitive := false }⟩
    let d : Document := [("units", .array [.int32 1, .string "(\u212a.) kelvin"])]
    "units".toList.head? ≠ some '$' ∧ c.IsLiteral "units" .startsWith ∧
      ∃ filter, c.filter? (some (.test "units" .startsWith (.string "(k."))) = .ok filter ∧
        Selector.matches? filter d = .ok true := by
  intro c d
  have hfield : "units".toList.head? ≠ some '$' := by
    decide
  have hliteral : c.IsLiteral "units" .startsWith :=
    trivial
  have hstored : Value.string "(\u212a.) kelvin" ∈
      Value.elements (d.lookup? (storedName "units")) := by
    decide +kernel
  have hself (a : Char) : c.SameLetter a a :=
    decide_eq_true rfl
  have hkelvin : c.SameLetter 'k' '\u212a' := by
    apply Text.mem_variants_iff.mp
    rw [Text.variants_k]
    exact List.mem_cons_self
  have hsame : List.Forall₂ c.SameLetter "(k.".toList "(\u212a.".toList :=
    List.Forall₂.cons (hself _) (List.Forall₂.cons hkelvin
      (List.Forall₂.cons (hself _) List.Forall₂.nil))
  refine ⟨hfield, hliteral, ?_⟩
  rcases matches?_literal c hfield hliteral "(k." with ⟨filter, hfilter, hverdict⟩
  refine ⟨filter, hfilter, ?_⟩
  rcases hverdict with htells | ⟨hlong, _⟩
  · rcases htells d with ⟨b, hb, htrue⟩
    rw [hb, htrue.mpr ⟨_, _, hstored, ⟨") kelvin".toList, rfl⟩, hsame⟩]
  · exact absurd hlong (by decide)

/-- Too long a text is refused, where others would be looked for. -/
theorem long_literal_refused :
    ¬ ∀ (c : Compiler) (field : String), field.toList.head? ≠ some '$' →
      ∀ comparison, c.IsLiteral field comparison → ∀ (text : String) (d filter : Document),
        c.filter? (some (.test field comparison (.string text))) = .ok filter →
          Tells (Selector.matches? filter d)
            (∃ stored part, .string stored ∈ Value.elements (d.lookup? (storedName field)) ∧
              Stands comparison part stored.toList ∧
              List.Forall₂ c.SameLetter text.toList part) := by
  intro h
  let c : Compiler := ⟨⟨[]⟩, { caseSensitive := false }⟩
  let text := String.ofList (List.replicate 100000 'k')
  have hfield : "name".toList.head? ≠ some '$' := by
    decide
  have hliteral : c.IsLiteral "name" .contains :=
    trivial
  have hread : Pattern.read? c.flags (literalPattern .contains text) = none := by
    have hlarge := Pattern.not_fits_replicate (Nat.le_refl 100000)
    rw [literalPattern, String.toList_ofList, Pattern.read?_anchors rfl, if_neg]
    exact Bool.eq_false_iff.mp hlarge
  rcases h c "name" hfield .contains hliteral text [("name", .string "Ada")] _
    (filter?_literal hliteral text) with ⟨b, hb, _⟩
  rw [matches?_field hfield, condition_patternTest_error hread] at hb
  cases hb

end Compiler
end DocQuery
