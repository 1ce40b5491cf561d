import DocQuery.Proofs.Pattern.Widening
import DocQuery.Proofs.Query.LiteralTests
import DocQuery.Proofs.Query.Membership

/-!
# Conditions without regard to case

When case is no longer regarded, more texts are alike.  A condition that negates
nothing is compiled as before, and its filter takes all the documents it took, unless
the pattern of a long text is too large now that it folds case.
-/

namespace DocQuery

open Outcome

/-- Comparisons that more texts pass when more texts are alike.  A pattern that is given as such
may leave characters out, and then leaves out what is like them. -/
def Comparison.isPositive : Comparison → Bool
  | .notEqual | .noneOf | .pattern => false
  | _ => true

/-- Conditions that are made of positive comparisons and negate none. -/
inductive Condition.IsPositive : Condition → Prop where
  | all {conditions : List Condition} (h : ∀ e ∈ conditions, IsPositive e) :
      IsPositive (.all conditions)
  | any {conditions : List Condition} (h : ∀ e ∈ conditions, IsPositive e) :
      IsPositive (.any conditions)
  | test {field : String} {comparison : Comparison} {operand : Value}
      (h : comparison.isPositive = true) : IsPositive (.test field comparison operand)

theorem Condition.tests_subset_testsOf {e : Condition} {conditions : List Condition} (h : e ∈ conditions) :
    e.tests ⊆ testsOf conditions := by
  induction conditions with
  | nil =>
      cases h
  | cons first rest ih =>
      rw [testsOf]
      cases h with
      | head =>
          exact List.subset_append_left _ _
      | tail _ h =>
          exact List.Subset.trans (ih h) (List.subset_append_right _ _)

/-!
# Verdicts

The store looks at branches from left to right and stops early, so that of two filters
it may look at different branches.  That the second of two verdicts is reached
is therefore said apart from what it is.
-/

namespace Selector

section Widened

variable {refused : String → Prop}

/-- The second verdict is reached unless a pattern is refused, and it is positive where the first
one is. -/
structure Widened (refused : String → Prop) (v v' : Verdict) : Prop where
  settled : (∃ b, v' = .ok b) ∨ ∃ pattern, refused pattern ∧ v' = .error (.pattern pattern)
  wider : v = .ok true → v' ≠ .ok false

theorem Widened.of_tells {v v' : Verdict} {p : Prop} (h' : Tells v' p) (h : v = .ok true → p) :
    Widened refused v v' := by
  refine ⟨?_, ?_⟩
  · rcases h' with ⟨b, hb, _⟩
    exact Or.inl ⟨b, hb⟩
  · intro htrue hfalse
    cases hfalse.symm.trans (h'.eq_true_iff.mpr (h htrue))

theorem Widened.refl {v : Verdict} {p : Prop} (h : Tells v p) : Widened refused v v :=
  .of_tells h h.eq_true_iff.mp

theorem Widened.of_refused {v : Verdict} {pattern : String} (h : refused pattern) :
    Widened refused v (.error (.pattern pattern)) :=
  ⟨Or.inr ⟨pattern, h, rfl⟩, fun _ h => nomatch h⟩

theorem Widened.eq_of_eq_true {v v' : Verdict} (h : Widened refused v v') (hv : v = .ok true) :
    v' = .ok true ∨ ∃ pattern, refused pattern ∧ v' = .error (.pattern pattern) := by
  rcases h.settled with ⟨b, rfl⟩ | hrefused
  · cases b with
    | true => exact Or.inl rfl
    | false => exact absurd rfl (h.wider hv)
  · exact Or.inr hrefused

theorem Widened.and {x x' y y' : Verdict} (hx : Widened refused x x')
    (hy : Widened refused y y') :
    Widened refused (do if ← x then y else return false)
      (do if ← x' then y' else return false) := by
  rcases hx.settled with ⟨b, rfl⟩ | ⟨pattern, hpattern, rfl⟩
  · cases b with
    | true =>
        refine ⟨hy.settled, ?_⟩
        intro htrue
        rcases bind_eq_ok.mp htrue with ⟨_ | _, _, hrest⟩
        · cases hrest
        · exact hy.wider hrest
    | false =>
        refine ⟨Or.inl ⟨false, rfl⟩, ?_⟩
        intro htrue
        rcases bind_eq_ok.mp htrue with ⟨_ | _, hfirst, hrest⟩
        · cases hrest
        · exact absurd rfl (hx.wider hfirst)
  · exact .of_refused hpattern

theorem Widened.or {x x' y y' : Verdict} (hx : Widened refused x x')
    (hy : Widened refused y y') :
    Widened refused (do if ← x then return true else y)
      (do if ← x' then return true else y') := by
  rcases hx.settled with ⟨b, rfl⟩ | ⟨pattern, hpattern, rfl⟩
  · cases b with
    | true =>
        exact ⟨Or.inl ⟨true, rfl⟩, fun _ h => nomatch h⟩
    | false =>
        refine ⟨hy.settled, ?_⟩
        intro htrue
        rcases bind_eq_ok.mp htrue with ⟨_ | _, hfirst, hrest⟩
        · exact hy.wider hrest
        · exact absurd rfl (hx.wider hfirst)
  · exact .of_refused hpattern

end Widened

def WidensFilter (refused : String → Prop) (filter filter' : Document) : Prop :=
  ∀ d, Widened refused (entries d filter) (entries d filter')

def WidensBranches (refused : String → Prop) (branches branches' : List Value) : Prop :=
  ∀ d, Widened refused (allOf d branches) (allOf d branches') ∧
    Widened refused (anyOf d branches) (anyOf d branches')

theorem widensBranches_nil (refused : String → Prop) : WidensBranches refused [] [] :=
  fun _ => ⟨.refl (tells_ok true), .refl (tells_ok false)⟩

theorem widensBranches_cons {refused : String → Prop} {branch branch' : Document}
    {rest rest' : List Value} (hfirst : WidensFilter refused branch branch')
    (hrest : WidensBranches refused rest rest') :
    WidensBranches refused (.document branch :: rest) (.document branch' :: rest') := by
  intro d
  simp only [allOf, anyOf]
  exact ⟨(hfirst d).and (hrest d).1, (hfirst d).or (hrest d).2⟩

def WidensTest (refused : String → Prop) (test test' : Document) : Prop :=
  ∀ value, Widened refused (condition value (.document test)) (condition value (.document test'))

theorem WidensTest.filter {refused : String → Prop} {test test' : Document}
    (h : WidensTest refused test test') {field : String} (hfield : field.toList.head? ≠ some '$') :
    WidensFilter refused [(field, .document test)] [(field, .document test')] := by
  intro d
  rw [entries_field hfield, entries_field hfield]
  exact h _

end Selector

namespace Compiler

open Pattern (ReadsPlain literalLimit)
open Selector (Widened WidensFilter WidensBranches WidensTest)

def ignoringCase (c : Compiler) : Compiler :=
  ⟨c.schema, { c.settings with caseSensitive := false }⟩

/-- One of the tests compares with a long text, and the pattern that it is compiled to cannot be
read. -/
def Refuses (c : Compiler) (ts : List Test) (pattern : String) : Prop :=
  ∃ t ∈ ts, ∃ text, t.operand = .string text ∧ literalLimit < text.toList.length ∧
    c.operators t.field t.comparison t.operand = .ok (c.patternTest pattern) ∧
      Pattern.read? c.flags pattern = none

/-!
# Tests

Only tests of texts are compiled anew.  Equality with a text becomes a pattern, and a
pattern for a text is read under other flags.
-/

/-- Without regard to case the test is at fault where it was so with it, and the values that passed
it still pass, unless one of some tests is refused. -/
def Loosens (c : Compiler) (ts : List Test) (t : Test) : Prop :=
  Related (WidensTest (c.ignoringCase.Refuses ts))
    (c.regardingCase.operators t.field t.comparison t.operand)
    (c.ignoringCase.operators t.field t.comparison t.operand)

section Tests

variable {c : Compiler} {ts : List Test} {t : Test} {text pattern : String}

theorem loosens_of_eq
    (h : c.regardingCase.operators t.field t.comparison t.operand =
      c.ignoringCase.operators t.field t.comparison t.operand)
    (hpattern : c.ignoringCase.pattern? t = none) : c.Loosens ts t := by
  rw [Loosens, h]
  cases htest : c.ignoringCase.operators t.field t.comparison t.operand with
  | error fault =>
      exact .error fault
  | ok test =>
      refine .ok fun value => .refl (condition_operators_tells htest ?_ value)
      intro pattern hsome
      cases hpattern.symm.trans hsome

/-- A pattern test widens a verdict when the pattern, as far as it can be read, matches a
text on the path wherever the verdict is positive. -/
theorem widened_patternTest (ht : t ∈ ts) (htext : t.operand = .string text)
    (hplain : ReadsPlain pattern text.toList)
    (hcompiled : c.ignoringCase.operators t.field t.comparison t.operand =
      .ok (c.ignoringCase.patternTest pattern))
    {v : Selector.Verdict} {value : Option Value}
    (hwider : ∀ e', Pattern.read? c.ignoringCase.flags pattern = some e' →
      (∀ e, Pattern.read? c.regardingCase.flags pattern = some e → Pattern.Expr.Widens e e') →
        v = .ok true →
          ∃ stored, .string stored ∈ Value.elements value ∧ e'.matchesText stored = true) :
    Widened (c.ignoringCase.Refuses ts) v
      (Selector.condition value (.document (c.ignoringCase.patternTest pattern))) := by
  rcases Pattern.read?_caseless hplain with ⟨e', he', hwidens⟩ | ⟨hnone, hlong⟩
  · refine .of_tells (condition_patternTest_tells (c := c.ignoringCase)
      (Option.isSome_of_eq_some he') value) ?_
    intro htrue
    exact ⟨e', he', hwider e' he' hwidens htrue⟩
  · rw [condition_patternTest_error (c := c.ignoringCase) hnone]
    exact .of_refused ⟨t, ht, text, htext, hlong, hcompiled, hnone⟩

theorem loosens_of_patternTest (ht : t ∈ ts) (htext : t.operand = .string text)
    (hplain : ReadsPlain pattern text.toList)
    (hregarding : c.regardingCase.operators t.field t.comparison t.operand =
      .ok (c.regardingCase.patternTest pattern))
    (hignoring : c.ignoringCase.operators t.field t.comparison t.operand =
      .ok (c.ignoringCase.patternTest pattern)) : c.Loosens ts t := by
  rw [Loosens, hregarding, hignoring]
  refine .ok fun value => ?_
  apply widened_patternTest ht htext hplain hignoring
  intro e' _ hwidens hmatched
  cases hread : Pattern.read? c.regardingCase.flags pattern with
  | none =>
      cases hmatched.symm.trans (condition_patternTest_error hread value)
  | some e =>
      have htells := condition_patternTest_tells (Option.isSome_of_eq_some hread) value
      rcases htells.eq_true_iff.mp hmatched with ⟨e, he, stored, hstored, hmatches⟩
      exact ⟨stored, hstored, (hwidens e he).matchesText hmatches⟩

theorem readsPlain_literalPattern (comparison : Comparison) (text : String) :
    ReadsPlain (literalPattern comparison text) text.toList :=
  Pattern.readsPlain_anchors _ _

theorem eq_string_of_same {v : Value} (h : v.Same (.string text)) : v = .string text := by
  cases v <;> simp_all [Value.Same, Value.canonical, Canonical.same]

theorem loosens_equal {field : String} (ht : ⟨field, .equal, .string text⟩ ∈ ts)
    (hfolds : c.ignoringCase.foldsCase field = true) :
    c.Loosens ts ⟨field, .equal, .string text⟩ := by
  have hregarding : c.regardingCase.operators field .equal (.string text) =
      .ok [("$eq", .string text)] :=
    operandTest_eq_ok.mpr ⟨_, operand_of_foldsCase hfolds _, rfl⟩
  have hliteral : c.ignoringCase.IsLiteral field .equal :=
    hfolds
  have hignoring := operators_literal hliteral text
  rw [Loosens, hregarding, hignoring]
  refine .ok fun value => ?_
  apply widened_patternTest ht rfl (readsPlain_literalPattern _ text) hignoring
  intro e' he' _ hequal
  rw [Selector.condition_single (by decide) (by decide) (by decide)] at hequal
  have hequals : Selector.equals value (.string text) = true := Except.ok.inj hequal
  rcases (Selector.equals_iff value _).mp hequals with ⟨_, hnull⟩ | ⟨v, hv, hsame⟩
  · cases hnull
  · rw [eq_string_of_same hsame] at hv
    rw [literalPattern_equal] at he'
    exact ⟨text, hv, Pattern.matchesText_of_read?_wholeText he'⟩

theorem loosens_of_isPositive (ht : t ∈ ts) (h : t.comparison.isPositive = true) :
    c.Loosens ts t := by
  rcases t with ⟨field, comparison, operand⟩
  cases comparison with
  | equal =>
      cases operand with
      | string text =>
          cases hfolds : c.ignoringCase.foldsCase field with
          | true =>
              exact loosens_equal ht hfolds
          | false =>
              apply loosens_of_eq
              · simp only [operators, hfolds]
                rfl
              · simp [pattern?, hfolds]
      | _ =>
          exact loosens_of_eq rfl rfl
  | greater | atLeast | less | atMost | anyOf =>
      exact loosens_of_eq rfl rfl
  | like =>
      cases operand with
      | string text =>
          exact loosens_of_patternTest ht rfl (Pattern.readsPlain_ofLike text) rfl rfl
      | _ =>
          exact loosens_of_eq rfl rfl
  | contains | startsWith | endsWith =>
      cases operand with
      | string text =>
          apply loosens_of_patternTest ht rfl (readsPlain_literalPattern _ text)
          · exact operators_literal (by trivial) text
          · exact operators_literal (by trivial) text
      | _ =>
          exact loosens_of_eq rfl rfl
  | notEqual | noneOf | pattern =>
      cases h

end Tests

/-!
# Conditions

What holds of the filters of some conditions holds of their combination, as both
compilations put it together in the same way.
-/

section Conditions

variable {c c' : Compiler} {refused : String → Prop} {conditions : List Condition}

theorem related_filters
    (h : ∀ e ∈ conditions, Related (WidensFilter refused) (c.filter e) (c'.filter e)) :
    Related (WidensBranches refused) (c.filters conditions) (c'.filters conditions) := by
  induction conditions with
  | nil =>
      exact .ok (Selector.widensBranches_nil refused)
  | cons e rest ih =>
      rw [List.forall_mem_cons] at h
      rw [Compiler.filters, Compiler.filters]
      refine h.1.bind fun first first' hfirst => ?_
      refine (ih h.2).bind fun others others' hothers => ?_
      exact .ok (Selector.widensBranches_cons hfirst hothers)

theorem related_filter_all
    (h : Related (WidensBranches refused) (c.filters conditions) (c'.filters conditions)) :
    Related (WidensFilter refused) (c.filter (.all conditions)) (c'.filter (.all conditions)) := by
  rw [Compiler.filter, Compiler.filter]
  split
  · exact .error _
  · refine h.bind fun branches branches' hbranches => .ok fun d => ?_
    rw [entries_combinator_all, entries_combinator_all]
    exact (hbranches d).1

theorem related_filter_any
    (h : Related (WidensBranches refused) (c.filters conditions) (c'.filters conditions)) :
    Related (WidensFilter refused) (c.filter (.any conditions)) (c'.filter (.any conditions)) := by
  rw [Compiler.filter, Compiler.filter]
  split
  · exact .error _
  · refine h.bind fun branches branches' hbranches => .ok fun d => ?_
    rw [entries_combinator_any, entries_combinator_any]
    exact (hbranches d).2

end Conditions

/-- The filter of a positive condition takes at least the documents that it took, and is at fault
only if it was so. -/
theorem related_filter {c : Compiler} {e : Condition} {ts : List Test} (he : e.IsPositive)
    (hfields : ∀ t ∈ ts, (storedName t.field).toList.head? ≠ some '$') (hsub : e.tests ⊆ ts) :
    Related (WidensFilter (c.ignoringCase.Refuses ts)) (c.regardingCase.filter e)
      (c.ignoringCase.filter e) := by
  induction he with
  | all _ ih =>
      exact related_filter_all (related_filters fun e he =>
        ih e he (List.Subset.trans (Condition.tests_subset_testsOf he) hsub))
  | any _ ih =>
      exact related_filter_any (related_filters fun e he =>
        ih e he (List.Subset.trans (Condition.tests_subset_testsOf he) hsub))
  | @test field comparison operand hpositive =>
      have ht : ⟨field, comparison, operand⟩ ∈ ts := hsub List.mem_cons_self
      have hfield := hfields ⟨field, comparison, operand⟩ ht
      rw [Compiler.filter, Compiler.filter]
      refine (loosens_of_isPositive ht hpositive).bind fun test test' htest => ?_
      exact .ok (htest.filter hfield)

/-- A positive condition is compiled without regard to case just if it is compiled with it.  The
documents that the filter took with regard to case it takes without it, unless the pattern
for a long text is refused. -/
theorem matches?_ignoringCase (c : Compiler) {e : Condition} (he : e.IsPositive)
    (hfields : ∀ t ∈ e.tests, (storedName t.field).toList.head? ≠ some '$') :
    (Succeeds (c.regardingCase.filter? (some e)) ↔ Succeeds (c.ignoringCase.filter? (some e))) ∧
      ∀ filter filter', c.regardingCase.filter? (some e) = .ok filter →
        c.ignoringCase.filter? (some e) = .ok filter' → ∀ d,
          Selector.matches? filter d = .ok true →
            Selector.matches? filter' d = .ok true ∨
              ∃ pattern, c.ignoringCase.Refuses e.tests pattern ∧
                Selector.matches? filter' d = .error (.pattern pattern) := by
  have hrelated : Related (WidensFilter (c.ignoringCase.Refuses e.tests))
      (c.regardingCase.filter? (some e)) (c.ignoringCase.filter? (some e)) :=
    related_filter he hfields (List.Subset.refl _)
  refine ⟨hrelated.succeeds_iff, ?_⟩
  intro filter filter' hfilter hfilter' d hmatched
  rw [hfilter, hfilter'] at hrelated
  exact (hrelated.of_ok d).eq_of_eq_true hmatched

/-- In a list of names one that equals the operand is still found when equality folds case. -/
theorem matches?_ignoringCase_names :
    let c : Compiler := ⟨⟨[]⟩, {}⟩
    let e : Condition := .any
      [.all [.test "age" .greater (.int32 3), .test "name" .equal (.string "Rex")],
        .test "name" .like (.string "_da%")]
    let d : Document := [("name", .array [.null, .string "Rex"]), ("age", .int64 4)]
    e.IsPositive ∧ (∀ t ∈ e.tests, (storedName t.field).toList.head? ≠ some '$') ∧
      ∃ filter filter', c.regardingCase.filter? (some e) = .ok filter ∧
        c.ignoringCase.filter? (some e) = .ok filter' ∧
          Selector.matches? filter d = .ok true ∧ Selector.matches? filter' d = .ok true := by
  intro c e d
  have he : e.IsPositive := by
    apply Condition.IsPositive.any
    rw [List.forall_mem_cons, List.forall_mem_singleton]
    refine ⟨.all ?_, .test rfl⟩
    rw [List.forall_mem_cons, List.forall_mem_singleton]
    exact ⟨.test rfl, .test rfl⟩
  have htests : e.tests = [⟨"age", .greater, .int32 3⟩, ⟨"name", .equal, .string "Rex"⟩,
      ⟨"name", .like, .string "_da%"⟩] :=
    rfl
  have hfields : ∀ t ∈ e.tests, (storedName t.field).toList.head? ≠ some '$' := by
    rw [htests]
    decide
  have hshort : ∀ t ∈ e.tests, ∀ text, t.operand = .string text →
      text.toList.length ≤ literalLimit := by
    rw [htests, List.forall_mem_cons, List.forall_mem_cons, List.forall_mem_singleton]
    refine ⟨nofun, ?_, ?_⟩ <;>
    · rintro _ ⟨⟩
      decide
  let filter : Document := [("$or", .array
    [.document [("$and", .array [.document [("age", .document [("$gt", .int32 3)])],
        .document [("name", .document [("$eq", .string "Rex")])]])],
      .document [("name", .document [("$regex", .string "^.da.*$")])]])]
  have hfilter : c.regardingCase.filter? (some e) = .ok filter :=
    rfl
  have hmatched : Selector.matches? filter d = .ok true := by
    decide +kernel
  rcases matches?_ignoringCase c he hfields with ⟨hsucceeds, hwider⟩
  rcases hsucceeds.mp ⟨filter, hfilter⟩ with ⟨filter', hfilter'⟩
  refine ⟨he, hfields, filter, filter', hfilter, hfilter', hmatched, ?_⟩
  rcases hwider filter filter' hfilter hfilter' d hmatched with
    hmatched' | ⟨_, ⟨t, ht, text, htext, hlong, _⟩, _⟩
  · exact hmatched'
  · exact absurd hlong (Nat.not_lt.mpr (hshort t ht text htext))

/-- A text of great length is found by equality with itself, but not by a pattern that folds
case. -/
theorem long_text_unmatched :
    ¬ ∀ (c : Compiler) (e : Condition), e.IsPositive →
      (∀ t ∈ e.tests, (storedName t.field).toList.head? ≠ some '$') →
        ∀ filter filter', c.regardingCase.filter? (some e) = .ok filter →
          c.ignoringCase.filter? (some e) = .ok filter' → ∀ d,
            Selector.matches? filter d = .ok true → Selector.matches? filter' d = .ok true := by
  intro h
  let c : Compiler := ⟨⟨[]⟩, {}⟩
  let text := String.ofList (List.replicate 100000 'k')
  have hfields : ∀ t ∈ (Condition.test "name" .equal (.string text)).tests,
      (storedName t.field).toList.head? ≠ some '$' := by
    intro t ht
    rw [List.mem_singleton.mp ht]
    decide
  have hfolds : c.ignoringCase.IsLiteral "name" .equal :=
    rfl
  have hmatched (text : String) : Selector.matches? [("name", .document [("$eq", .string text)])]
      [("name", .string text)] = .ok true := by
    have hsteps : pathSteps "name" = ["name"] := by
      decide
    have hvalue : Document.lookup? [("name", .string text)] "name" = some (.string text) := by
      rw [Document.lookup?, hsteps]
      rfl
    have hequals : Selector.equals (some (.string text)) (.string text) = true :=
      decide_eq_true rfl
    rw [Selector.matches?, Selector.entries_field (by decide), hvalue,
      Selector.condition_single (by decide) (by decide) (by decide)]
    exact congrArg Except.ok hequals
  have hread : Pattern.read? c.ignoringCase.flags (literalPattern .equal text) = none := by
    have hlarge := Pattern.not_fits_letters ⟨true, true⟩ (Nat.le_refl 100000)
    rw [literalPattern, String.toList_ofList, Pattern.read?_anchors rfl, if_neg]
    exact Bool.eq_false_iff.mp hlarge
  have hmatched' := h c _ (.test rfl) hfields _ _ rfl (filter?_literal hfolds text)
    [("name", .string text)] (hmatched text)
  rw [matches?_field (by decide), condition_patternTest_error hread] at hmatched'
  cases hmatched'

end Compiler
end DocQuery
