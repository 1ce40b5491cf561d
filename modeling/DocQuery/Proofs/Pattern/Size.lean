import DocQuery.Pattern.Size

/-!
# Bounds of sizes

A chain of parts takes no more space than its parts do.  So a pattern that is made
part by part can be refused only if it is long.
-/

namespace DocQuery
namespace Pattern

open Text (CharSet)

/-- The expression is a single part, of at most some size. -/
def Costs (d : Direction) (e : Meaning) (n : Nat) : Prop :=
  ∃ p, e.parts d = [p] ∧ p.size d ≤ n

theorem Branch.size_text_append_le (d : Direction) (a b : List Nat) :
    (Branch.text (a ++ b)).size d ≤ (Branch.text a).size d + (Branch.text b).size d := by
  cases a with
  | nil =>
      exact Nat.le_add_left _ _
  | cons x a =>
      cases b with
      | nil =>
          rw [List.append_nil]
          exact Nat.le_add_right _ _
      | cons y b =>
          have hsize : (Branch.text (x :: a ++ y :: b)).size d =
              stateSize * ((x :: a ++ y :: b).flatMap Text.Utf8.encode).length :=
            rfl
          rw [hsize, List.flatMap_append, List.length_append, Nat.mul_add]
          exact Nat.le_refl _

theorem Part.size_next_le (d : Direction) (p q : Part) :
    (Part.next d p q).size d ≤ p.size d + q.size d := by
  unfold Part.next Part.size
  simp only
  split
  · rename_i a b hp hq
    rw [hp, hq]
    exact Branch.size_text_append_le d a b
  · exact Nat.le_add_left _ _
  · exact Nat.le_add_right _ _
  · exact Nat.le_refl _

theorem Costs.next {d : Direction} {first second : Meaning} {m n : Nat}
    (hfirst : Costs d first m) (hsecond : Costs d second n) :
    Costs d (.next first second) (m + n) := by
  rcases hfirst with ⟨p, hp, hm⟩
  rcases hsecond with ⟨q, hq, hn⟩
  refine ⟨Part.next d p q, ?_, ?_⟩
  · rw [Expr.parts, hp, hq]
    rfl
  · exact Nat.le_trans (Part.size_next_le d p q) (Nat.add_le_add hm hn)

theorem Costs.mono {d : Direction} {e : Meaning} {m n : Nat} (h : Costs d e m) (hle : m ≤ n) :
    Costs d e n := by
  rcases h with ⟨p, hp, hm⟩
  exact ⟨p, hp, Nat.le_trans hm hle⟩

theorem costs_look (d : Direction) (a : Assertion) : Costs d (.look a) 32 :=
  ⟨_, rfl, Nat.le_refl 32⟩

theorem length_encode_le (n : Nat) : (Text.Utf8.encode n).length ≤ 4 := by
  unfold Text.Utf8.encode
  split
  · exact Nat.le_add_left 1 3
  · split
    · exact Nat.le_add_left 2 2
    · split
      · exact Nat.le_succ 3
      · exact Nat.le_refl 4

theorem costs_single (d : Direction) (c : Char) : Costs d (.step (.single c)) 128 := by
  refine ⟨_, rfl, ?_⟩
  have hsize : (Part.ofSet (CharSet.single c).ranges).size d =
      32 * (Text.Utf8.encode c.toNat).length := by
    simp [Part.ofSet, CharSet.single, CharSet.ranges, Branch.ofRanges, Part.size, branchesSize,
      Branch.size, stateSize]
  rw [hsize]
  exact Nat.mul_le_mul_left 32 (length_encode_le c.toNat)

theorem Costs.size_le {d : Direction} {e : Meaning} {n : Nat} (h : Costs d e n) :
    e.size d ≤ n + 208 := by
  rcases h with ⟨p, hp, hn⟩
  rw [Expr.size, hp]
  change p.size d + _ ≤ _
  refine Nat.add_le_add hn ?_
  cases d <;> decide

end Pattern
end DocQuery
