import DocQuery.Proofs.Pattern.Wildcards
import DocQuery.Proofs.Query.Compile

/-!
# Tests of texts

What the tests come to that are compiled to patterns, said of the texts that are
stored and without the patterns.
-/

namespace DocQuery

open Outcome
open Selector (Tells)

theorem Value.fits_string_iff {f : Pattern.Flags} {text pattern : String} :
    Value.Fits f (some (.string text)) pattern ↔
      ∃ e, Pattern.read? f pattern = some e ∧ e.matchesText text = true := by
  simp [Value.Fits, Value.elements]

namespace Compiler

open Pattern (Like likeLimit)

theorem flags_of_caseSensitive {c : Compiler} (h : c.settings.caseSensitive = true) :
    c.flags = {} := by
  simp [flags, h]

theorem condition_like {c : Compiler} (hcase : c.settings.caseSensitive = true)
    (pattern text : String) :
    let test := Value.document (c.patternTest (Pattern.ofLike pattern))
    Tells (Selector.condition (some (.string text)) test)
        (Like (· ≠ '\n') pattern.toList text.toList) ∨
      likeLimit < pattern.toList.length ∧
        Selector.condition (some (.string text)) test =
          .error (.pattern (Pattern.ofLike pattern)) := by
  have hread := Pattern.read?_ofLike pattern
  rw [← flags_of_caseSensitive hcase] at hread
  split at hread
  · apply Or.inl
    refine (condition_patternTest_tells (Option.isSome_of_eq_some hread) _).congr ?_
    rw [Value.fits_string_iff, hread]
    simp [Pattern.matchesText_likeMeaning]
  · rename_i hlarge
    apply Or.inr
    constructor
    · exact Nat.lt_of_not_le fun hle => hlarge (Pattern.fits_likeMeaning hle)
    · exact condition_patternTest_error hread _

/-- With regard to case, a stored text matches a pattern of `like` when it is like it, and no
wildcard has to stand for a line feed; only patterns of a great length may be refused. -/
theorem matches?_like (c : Compiler) (hcase : c.settings.caseSensitive = true) {field : String}
    (hfield : (storedName field).toList.head? ≠ some '$') (pattern : String) :
    ∃ filter, c.filter? (some (.test field .like (.string pattern))) = .ok filter ∧
      ∀ (d : Document) (text : String), d.lookup? (storedName field) = some (.string text) →
        (Tells (Selector.matches? filter d) (Like (· ≠ '\n') pattern.toList text.toList) ∧
            ('\n' ∉ text.toList →
              Tells (Selector.matches? filter d)
                (Like (fun _ => True) pattern.toList text.toList))) ∨
          likeLimit < pattern.toList.length ∧
            Selector.matches? filter d = .error (.pattern (Pattern.ofLike pattern)) := by
  refine ⟨[(storedName field, .document (c.patternTest (Pattern.ofLike pattern)))], rfl, ?_⟩
  intro d text hvalue
  rw [Selector.matches?, Selector.entries_field hfield, hvalue]
  rcases condition_like hcase pattern text with htells | hrefused
  · apply Or.inl
    refine ⟨htells, ?_⟩
    intro hlines
    exact htells.congr (Pattern.like_iff_of_not_mem hlines)
  · exact Or.inr hrefused

/-- The characters of a pattern stand for themselves, also those that mean something else in
patterns of other kinds. -/
theorem matches?_like_receipt :
    let c : Compiler := ⟨⟨[]⟩, {}⟩
    let d : Document := [("note", .document [("title", .string "(a.b)*: 5% off")])]
    c.settings.caseSensitive = true ∧ (storedName "note.title").toList.head? ≠ some '$' ∧
      d.lookup? (storedName "note.title") = some (.string "(a.b)*: 5% off") ∧
        ∃ filter, c.filter? (some (.test "note.title" .like (.string "(a.b)*%_ff"))) = .ok filter ∧
          Selector.matches? filter d = .ok true := by
  intro c d
  have hfield : (storedName "note.title").toList.head? ≠ some '$' := by
    decide
  have hvalue : d.lookup? (storedName "note.title") = some (.string "(a.b)*: 5% off") := by
    decide +kernel
  have hend : Like (· ≠ '\n') "ff".toList "ff".toList :=
    Like.literal "ff".toList (by decide) (by decide) Like.nil
  have hlines : '\n' ∉ ": 5% ".toList := by
    decide
  have hrun : Like (· ≠ '\n') "%_ff".toList ": 5% off".toList := by
    apply Like.run ": 5% ".toList
    · rintro d hd rfl
      exact hlines hd
    · exact Like.one (by decide) hend
  have hlike : Like (· ≠ '\n') "(a.b)*%_ff".toList "(a.b)*: 5% off".toList :=
    Like.literal "(a.b)*".toList (by decide) (by decide) hrun
  refine ⟨rfl, hfield, hvalue, ?_⟩
  rcases matches?_like c rfl hfield "(a.b)*%_ff" with ⟨filter, hfilter, hverdict⟩
  refine ⟨filter, hfilter, ?_⟩
  rcases hverdict d _ hvalue with ⟨⟨b, hb, htrue⟩, _⟩ | ⟨hlong, _⟩
  · rw [hb, htrue.mpr hlike]
  · exact absurd hlong (by decide)

/-- No wildcard stands for a line feed. -/
theorem line_feed_unlike :
    ¬ ∀ (c : Compiler), c.settings.caseSensitive = true → ∀ field : String,
      (storedName field).toList.head? ≠ some '$' → ∀ (pattern text : String) (d filter : Document),
        c.filter? (some (.test field .like (.string pattern))) = .ok filter →
          d.lookup? (storedName field) = some (.string text) →
            Tells (Selector.matches? filter d)
              (Like (fun _ => True) pattern.toList text.toList) := by
  intro h
  rcases h ⟨⟨[]⟩, {}⟩ rfl "note" (by decide) "a%" "a\nb" [("note", .string "a\nb")] _ rfl
    (by decide) with ⟨b, hb, htrue⟩
  have hlike : Like (fun _ => True) "a%".toList "a\nb".toList :=
    Like.literal "a".toList (by decide) (by decide)
      (Like.run "\nb".toList (fun _ _ => trivial) Like.nil)
  have hunmatched : Selector.matches? [("note", .document [("$regex", .string "^a.*$")])]
      [("note", .string "a\nb")] = .ok false := by
    decide +kernel
  rw [htrue.mpr hlike] at hb
  cases hunmatched.symm.trans hb

end Compiler
end DocQuery
