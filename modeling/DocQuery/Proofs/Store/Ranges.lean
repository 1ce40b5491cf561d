import DocQuery.Proofs.Outcome
import DocQuery.Proofs.Query.Verdict
import DocQuery.Proofs.Value.Order

/-!
# Ranges

The ordering operators and equality are computed apart from each other.  For the
kinds of values that have an order both come to one comparison, so that a range
with its bound is the range without it together with the bound itself.
-/

namespace DocQuery

/-!
# Kinds
-/

/-- The kinds of values that have an order. -/
inductive Kind where
  | number
  | text
  | bytes
  | identifier
  | truth
  | instant
  deriving DecidableEq

namespace Value

/-- The kind of a value, if that has an order.  Numbers of all widths are of one kind; a decimal
is no number here, as it has no comparable form. -/
def kind? : Value → Option Kind
  | .int32 _ | .int64 _ | .double _ => some .number
  | .string _ => some .text
  | .binary _ _ => some .bytes
  | .objectId _ => some .identifier
  | .boolean _ => some .truth
  | .instant _ => some .instant
  | _ => none

end Value

def Kind.rank : Kind → Nat
  | number => 1
  | text => 2
  | bytes => 5
  | identifier => 6
  | truth => 7
  | instant => 8

namespace Value

theorem kind?_eq_some_iff {v : Value} (hnan : v.isNaN = false) {k : Kind} :
    v.kind? = some k ↔ v.canonical.isOrdered = true ∧ v.canonical.rank = k.rank := by
  have hform : v.canonical.isNaN = false := v.isNaN_canonical.trans hnan
  cases v <;> cases k <;>
    simp_all [kind?, canonical, Canonical.isOrdered, Canonical.rank, Kind.rank, Canonical.isNaN]

theorem isOrdered_canonical {v : Value} {k : Kind} (hkind : v.kind? = some k)
    (hnan : v.isNaN = false) : v.canonical.isOrdered = true :=
  ((kind?_eq_some_iff hnan).mp hkind).1

theorem isSome_compare?_canonical_iff {v w : Value} {k : Kind} (hkind : v.kind? = some k)
    (hnan : v.isNaN = false) :
    (w.canonical.compare? v.canonical).isSome = true ↔ w.kind? = some k ∧ w.isNaN = false := by
  rcases (kind?_eq_some_iff hnan).mp hkind with ⟨hordered, hrank⟩
  rw [Canonical.isSome_compare?_iff, hrank]
  cases hw : w.isNaN with
  | false =>
      rw [kind?_eq_some_iff hw]
      simp [hordered, and_comm]
  | true =>
      simp [Canonical.isOrdered_of_isNaN (w.isNaN_canonical.trans hw)]

theorem isList_of_kind? {v : Value} {k : Kind} (hkind : v.kind? = some k) :
    Selector.isList v = false := by
  cases v <;> first | rfl | cases hkind

theorem equals_iff_ordered {v : Value} {k : Kind} (hkind : v.kind? = some k)
    (hnan : v.isNaN = false) (value : Option Value) :
    Equals value v ↔ Ordered value (· = .eq) v := by
  have hordered := isOrdered_canonical hkind hnan
  have hnull : v.canonical ≠ .null := by
    intro h
    rw [h] at hordered
    cases hordered
  have hlist : ¬ Selector.isList v = true := by
    rw [isList_of_kind? hkind]
    exact Bool.false_ne_true
  rw [Equals, if_neg hlist]
  simp [hnull, Ordered, Same, Canonical.same_iff_compare? hordered]

theorem ordered_or_iff {value : Option Value} {p q : Ordering → Prop} {v : Value} :
    Ordered value (fun o => p o ∨ q o) v ↔ Ordered value p v ∨ Ordered value q v := by
  simp only [Ordered, and_or_left, exists_or]

end Value

/-!
# Operators
-/

namespace Selector

/-- The verdict on a document of the filter that has a single operator for a field. -/
def verdict (d : Document) (field : String) (v : Value) (name : String) : Verdict :=
  matches? [(field, .document [(name, v)])] d

theorem compares_or (value : Option Value) (v : Value) (p q : Ordering → Bool) :
    compares value v (fun o => p o || q o) = (compares value v p || compares value v q) := by
  rw [Bool.eq_iff_iff, Bool.or_eq_true, compares_iff, compares_iff, compares_iff,
    ← Value.ordered_or_iff]
  simp only [Bool.or_eq_true]

section Kinds

variable {v : Value} {k : Kind}

theorem equals_eq_compares (hkind : v.kind? = some k) (hnan : v.isNaN = false)
    (value : Option Value) : equals value v = compares value v (· == .eq) := by
  rw [Bool.eq_iff_iff, equals_iff, compares_iff, Value.equals_iff_ordered hkind hnan]
  simp only [beq_iff_eq]

variable {d : Document} {field : String}

/-- The orderings that an operator of a range accepts. -/
def accepts? : String → Option (Ordering → Bool)
  | "$lt" => some (· == .lt)
  | "$lte" => some (· != .gt)
  | "$eq" => some (· == .eq)
  | "$gt" => some (· == .gt)
  | "$gte" => some (· != .lt)
  | _ => none

/-- All five operators are one comparison, of which each accepts other outcomes. -/
theorem verdict_eq (hfield : field.toList.head? ≠ some '$') (hkind : v.kind? = some k)
    (hnan : v.isNaN = false) {name : String} {accept : Ordering → Bool}
    (haccept : accepts? name = some accept) :
    verdict d field v name = .ok (compares (d.lookup? field) v accept) := by
  have hsingle {name : String} (hname : isOperator name = true ∧ name ≠ "$not" ∧
      name ≠ "$options") :
      verdict d field v name = plainOperator (d.lookup? field) "" name v := by
    rw [verdict, matches?, entries_field hfield, condition_single hname.1 hname.2.1 hname.2.2]
  unfold accepts? at haccept
  split at haccept <;> cases haccept
  case h_3 =>
    rw [hsingle (by decide), ← equals_eq_compares hkind hnan]
    rfl
  all_goals exact hsingle (by decide)

/-- An operator that accepts equality and what a strict one accepts takes the matches of both. -/
theorem verdict_or_equal_tells (hfield : field.toList.head? ≠ some '$')
    (hkind : v.kind? = some k) (hnan : v.isNaN = false) {name strict : String}
    {p q : Ordering → Bool} (hname : accepts? name = some p) (hstrict : accepts? strict = some q)
    (hsplit : ∀ o, p o = (q o || o == .eq)) :
    Tells (verdict d field v name)
      (verdict d field v strict = .ok true ∨ verdict d field v "$eq" = .ok true) := by
  rw [verdict_eq hfield hkind hnan hname, verdict_eq hfield hkind hnan hstrict,
    verdict_eq hfield hkind hnan rfl, funext hsplit, compares_or]
  exact (tells_ok _).congr (by simp)

theorem compares_of_compare? {w : Value} (hw : isList w = false) {o : Ordering}
    (ho : w.canonical.compare? v.canonical = some o) (accept : Ordering → Bool) :
    compares (some w) v accept = accept o := by
  rw [compares_of_not_isList hw, ordered, ho]

theorem compares_of_not_isSome {w : Value} (hw : isList w = false)
    (hnone : ¬ (w.canonical.compare? v.canonical).isSome = true) (accept : Ordering → Bool) :
    compares (some w) v accept = false := by
  rw [compares_of_not_isList hw, ordered, Option.not_isSome_iff_eq_none.mp hnone]

end Kinds

/-- How the operators of ranges stand to equality, on a field and with an operand of a kind. -/
structure RangesAgree (d : Document) (field : String) (v : Value) (k : Kind) : Prop where
  /-- A value of the kind is below the operand, at it or above it, and just one of these. -/
  alike : ∀ w, d.lookup? field = some w → w.kind? = some k → w.isNaN = false →
    ∃ o : Ordering, verdict d field v "$lt" = .ok (o == .lt) ∧
      verdict d field v "$eq" = .ok (o == .eq) ∧ verdict d field v "$gt" = .ok (o == .gt)
  /-- Other values match none of the operators, unless they are lists. -/
  unlike : ∀ w, d.lookup? field = some w → isList w = false →
    w.kind? ≠ some k ∨ w.isNaN = true →
      ∀ name ∈ ["$lt", "$lte", "$eq", "$gt", "$gte"], verdict d field v name = .ok false
  /-- Whatever stands on the path, a range takes its bound besides what lies beyond it. -/
  atLeast : Tells (verdict d field v "$gte")
    (verdict d field v "$gt" = .ok true ∨ verdict d field v "$eq" = .ok true)
  atMost : Tells (verdict d field v "$lte")
    (verdict d field v "$lt" = .ok true ∨ verdict d field v "$eq" = .ok true)

/-- The operators of ranges are coherent with equality for every operand that has an order. -/
theorem rangesAgree {field : String} (hfield : field.toList.head? ≠ some '$') (d : Document)
    {v : Value} {k : Kind} (hkind : v.kind? = some k) (hnan : v.isNaN = false) :
    RangesAgree d field v k where
  alike := by
    intro w hw hwkind hwnan
    have hlist := Value.isList_of_kind? hwkind
    rcases Option.isSome_iff_exists.mp
      ((Value.isSome_compare?_canonical_iff hkind hnan).mpr ⟨hwkind, hwnan⟩) with ⟨o, ho⟩
    refine ⟨o, ?_, ?_, ?_⟩
    all_goals
      rw [verdict_eq hfield hkind hnan rfl, hw, compares_of_compare? hlist ho]
  unlike := by
    intro w hw hlist hother
    have hnone : ¬ (w.canonical.compare? v.canonical).isSome = true := by
      rw [Value.isSome_compare?_canonical_iff hkind hnan, not_and_or, Bool.not_eq_false]
      exact hother
    have hfalse {name : String} {accept : Ordering → Bool}
        (haccept : accepts? name = some accept) : verdict d field v name = .ok false := by
      rw [verdict_eq hfield hkind hnan haccept, hw, compares_of_not_isSome hlist hnone]
    simp only [List.forall_mem_cons]
    exact ⟨hfalse rfl, hfalse rfl, hfalse rfl, hfalse rfl, hfalse rfl, nofun⟩
  atLeast := verdict_or_equal_tells hfield hkind hnan rfl rfl (by decide)
  atMost := verdict_or_equal_tells hfield hkind hnan rfl rfl (by decide)

/-- A list of ages is at least an age that it has, whatever else it holds. -/
theorem rangesAgree_ages :
    let d : Document := [("ages", .array [.string "36", .double (0 / 0), .int64 36])]
    let v : Value := .double 36
    "ages".toList.head? ≠ some '$' ∧ v.kind? = some .number ∧ v.isNaN = false ∧
      RangesAgree d "ages" v .number ∧ verdict d "ages" v "$gte" = .ok true := by
  intro d v
  have hagree := rangesAgree (show "ages".toList.head? ≠ some '$' by decide) d
    (show v.kind? = some .number from rfl) (show v.isNaN = false by decide)
  refine ⟨by decide, rfl, by decide, hagree, ?_⟩
  have hequal : verdict d "ages" v "$eq" = .ok true :=
    Outcome.toOption_eq_some.mp (by decide +kernel)
  rcases hagree.atLeast with ⟨b, hb, hmatches⟩
  rw [hb, hmatches.mpr (Or.inr hequal)]

end Selector
end DocQuery
