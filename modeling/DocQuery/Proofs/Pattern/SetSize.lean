import DocQuery.Proofs.Pattern.Size
import Mathlib.Algebra.Order.BigOperators.Group.List
import Mathlib.Algebra.Order.Ring.Nat

/-!
# Sizes of sets

A set of few characters is small: its ranges come to no more lists of byte ranges than
it has characters, and every byte range of a list takes one state at most.
-/

namespace DocQuery
namespace Text

/-!
# Ranges put together

What is at most additive when ranges are joined is so for the union of sets.
-/

namespace Ranges

def weight (w : Nat × Nat → Nat) (r : Ranges) : Nat :=
  (r.map w).sum

/-- Two ranges weigh no less than the one that takes their place. -/
def IsJoining (w : Nat × Nat → Nat) : Prop :=
  ∀ first last a b, a ≤ last + 1 → w (first, max last b) ≤ w (first, last) + w (a, b)

section Joining

variable {w : Nat × Nat → Nat}

theorem weight_cons (w : Nat × Nat → Nat) (range : Nat × Nat) (r : Ranges) :
    weight w (range :: r) = w range + weight w r :=
  List.sum_cons

theorem weight_join_le (hw : IsJoining w) (first last : Nat) (r : Ranges) :
    weight w (join first last r) ≤ w (first, last) + weight w r := by
  induction r generalizing last with
  | nil =>
      exact Nat.le_refl _
  | cons range rest ih =>
      rcases range with ⟨a, b⟩
      rw [join]
      split
      · rename_i hnear
        have hjoin := hw first last a b hnear
        have hrest := ih (max last b)
        rw [weight_cons]
        omega
      · exact Nat.le_refl _

theorem weight_unite_le (hw : IsJoining w) (fuel : Nat) (r s : Ranges) :
    weight w (unite fuel r s) ≤ weight w r + weight w s := by
  induction fuel generalizing r s with
  | zero =>
      exact Nat.zero_le _
  | succ fuel ih =>
      cases r with
      | nil =>
          exact Nat.le_add_left _ _
      | cons range rest =>
          cases s with
          | nil =>
              exact Nat.le_add_right _ _
          | cons other others =>
              rcases range with ⟨a, b⟩
              rcases other with ⟨c, d⟩
              rw [unite]
              split
              · have hjoin := weight_join_le hw a b (unite fuel rest ((c, d) :: others))
                have hrest := ih rest ((c, d) :: others)
                rw [weight_cons w (a, b) rest]
                omega
              · have hjoin := weight_join_le hw c d (unite fuel ((a, b) :: rest) others)
                have hrest := ih ((a, b) :: rest) others
                rw [weight_cons w (c, d) others]
                omega

theorem weight_ranges_foldl_le (hw : IsJoining w) (set : CharSet) (sets : List CharSet) :
    weight w (sets.foldl CharSet.union set).ranges ≤
      weight w set.ranges + (sets.map fun s => weight w s.ranges).sum := by
  induction sets generalizing set with
  | nil =>
      exact Nat.le_refl _
  | cons s sets ih =>
      have hunion : weight w (set.union s).ranges ≤ weight w set.ranges + weight w s.ranges :=
        weight_unite_le hw _ set.ranges s.ranges
      have hrest := ih (set.union s)
      rw [List.foldl_cons, List.map_cons, List.sum_cons]
      omega

/-- What weighs one for every character weighs no more for a set than it has characters. -/
theorem weight_ranges_unions_le (hw : IsJoining w) (hone : ∀ n, w (n, n) = 1)
    (chars : List Char) :
    weight w (CharSet.unions (chars.map .single)).ranges ≤ chars.length := by
  have hsingle : ((fun s : CharSet => weight w s.ranges) ∘ CharSet.single) = fun _ => 1 := by
    funext c
    simp [CharSet.single, CharSet.ranges, weight, hone]
  have hfold := weight_ranges_foldl_le hw .empty (chars.map .single)
  rw [List.map_map, hsingle, List.map_const', List.sum_replicate_nat, Nat.mul_one] at hfold
  exact Nat.le_trans hfold (Nat.le_of_eq (Nat.zero_add _))

end Joining

theorem isJoining_one : IsJoining fun _ => 1 :=
  fun _ _ _ _ _ => Nat.le_succ 1

theorem isJoining_width : IsJoining fun range => range.2 + 1 - range.1 := by
  intro first last a b hnear
  dsimp only
  omega

end Ranges

/-!
# Byte ranges
-/

namespace Utf8

theorem le_and_lt_of_cutByBlock? {first last size middle : Nat} (hle : first ≤ last)
    (hsize : size = 64 ∨ size = 4096 ∨ size = 262144)
    (h : cutByBlock? first last size = some middle) : first ≤ middle ∧ middle < last := by
  unfold cutByBlock? at h
  rcases hsize with rfl | rfl | rfl
  all_goals
    split at h
    · cases h
    · split at h
      · cases h
        omega
      · split at h
        · cases h
          omega
        · cases h

theorem le_and_lt_of_cut? {first last middle : Nat} (hle : first ≤ last)
    (h : cut? first last = some middle) : first ≤ middle ∧ middle < last := by
  unfold cut? at h
  split at h
  · rename_i end_ hfound
    cases h
    have hend := List.find?_some hfound
    simpa using hend
  · split at h
    · cases h
    · rcases List.exists_of_findSome?_eq_some h with ⟨size, hsize, hcut⟩
      exact le_and_lt_of_cutByBlock? hle (by simpa using hsize) hcut

theorem length_parts_le (fuel first last : Nat) :
    (parts fuel first last).length ≤ last + 1 - first := by
  induction fuel generalizing first last with
  | zero =>
      exact Nat.zero_le _
  | succ fuel ih =>
      rw [parts]
      split
      · exact Nat.zero_le _
      · split
        · rename_i middle hcut
          have hbounds := le_and_lt_of_cut? (by omega) hcut
          have hfirst := ih first middle
          have hsecond := ih (middle + 1) last
          rw [List.length_append]
          omega
        · rw [List.length_singleton]
          omega

theorem length_byteRanges_le (first last : Nat) :
    (byteRanges first last).length ≤ last + 1 - first := by
  have hlow := length_parts_le 24 first (min last 0xd7ff)
  have hhigh := length_parts_le 24 (max first 0xe000) last
  rw [byteRanges, List.length_map, List.length_append]
  omega

end Utf8
end Text

namespace Pattern

open Text (CharSet Ranges)

/-!
# States
-/

def space (states : List State) : Nat :=
  (states.map fun s => stateSize + rangeSize * s.length).sum

def entries (lists : List Ranges) : Nat :=
  (lists.map List.length).sum

theorem total_eq_sum {α : Type} (size : α → Nat) (items : List α) :
    total size items = (items.map size).sum := by
  have hfold (sum : Nat) :
      items.foldl (fun sum item => sum + size item) sum = sum + (items.map size).sum := by
    induction items generalizing sum with
    | nil =>
        rfl
    | cons item items ih =>
        rw [List.foldl_cons, ih, List.map_cons, List.sum_cons, Nat.add_assoc]
  rw [total, hfold, Nat.zero_add]

/-- Every list gives the first of its ranges to a group, and the others to the lists in it. -/
theorem entries_gathered_le (lists : List Ranges) :
    ((gathered lists).map fun g => 1 + entries g.2).sum ≤ entries lists := by
  induction lists with
  | nil =>
      exact Nat.le_refl 0
  | cons list rest ih =>
      cases list with
      | nil =>
          simpa [gathered, entries] using ih
      | cons r tail =>
          rw [gathered]
          split
          · simp [entries]
            omega
          · rename_i s tails others hgathered
            rw [hgathered] at ih
            split
            · simp only [entries, List.map_cons, List.sum_cons, List.length_cons] at ih ⊢
              omega
            · simp only [entries, List.map_cons, List.sum_cons, List.length_cons, List.map_nil,
                List.sum_nil] at ih ⊢
              omega

theorem space_numberOf_le (s : State) (known : List State) :
    space (numberOf s known).2 ≤ space known + (stateSize + rangeSize * s.length) := by
  unfold numberOf
  split
  · exact Nat.le_add_right _ _
  · simp [space]

/-- Adds the states for the lists of a group, and the way to them. -/
def addGroup (fuel : Nat) (added : State × List State) (g : (Nat × Nat) × List Ranges) :
    State × List State :=
  let (n, known) := addStates fuel g.2 added.2
  (added.1 ++ [(g.1.1, g.1.2, n)], known)

theorem addStates_succ (fuel : Nat) (lists : List Ranges) (known : List State) :
    (addStates (fuel + 1) lists known).2 =
      if (gathered lists).isEmpty then known
      else
        let added := (gathered lists).foldl (addGroup fuel) ([], known)
        (numberOf added.1 added.2).2 := by
  rw [addStates]
  split <;> rfl

theorem foldl_addGroup {fuel : Nat}
    (h : ∀ lists known, space (addStates fuel lists known).2 ≤ space known + 40 * entries lists)
    (groups : List ((Nat × Nat) × List Ranges)) (added : State × List State) :
    (groups.foldl (addGroup fuel) added).1.length = added.1.length + groups.length ∧
      space (groups.foldl (addGroup fuel) added).2 ≤
        space added.2 + 40 * (groups.map fun g => entries g.2).sum := by
  induction groups generalizing added with
  | nil =>
      exact ⟨rfl, Nat.le_refl _⟩
  | cons g groups ih =>
      rcases ih (addGroup fuel added g) with ⟨hlength, hspace⟩
      have hfirst : (addGroup fuel added g).1.length = added.1.length + 1 :=
        List.length_append
      have hadded : space (addGroup fuel added g).2 ≤ space added.2 + 40 * entries g.2 :=
        h g.2 added.2
      rw [List.foldl_cons, List.map_cons, List.sum_cons, List.length_cons]
      constructor
      · omega
      · omega

/-- Each byte range costs one state and one way out of a state at most. -/
theorem space_addStates_le (fuel : Nat) (lists : List Ranges) (known : List State) :
    space (addStates fuel lists known).2 ≤ space known + 40 * entries lists := by
  induction fuel generalizing lists known with
  | zero =>
      exact Nat.le_add_right _ _
  | succ fuel ih =>
      rw [addStates_succ]
      split
      · exact Nat.le_add_right _ _
      · rename_i hfilled
        have hgroups : 1 ≤ (gathered lists).length := by
          rw [List.isEmpty_iff_length_eq_zero] at hfilled
          omega
        have hgathered := entries_gathered_le lists
        rcases foldl_addGroup ih (gathered lists) ([], known) with ⟨hlength, hspace⟩
        have hnumber := space_numberOf_le ((gathered lists).foldl (addGroup fuel) ([], known)).1
          ((gathered lists).foldl (addGroup fuel) ([], known)).2
        rw [hlength] at hnumber
        rw [List.sum_map_add, List.map_const', List.sum_replicate_nat, Nat.mul_one] at hgathered
        simp only [stateSize, rangeSize, List.length_nil] at hnumber
        dsimp only
        dsimp only at hspace
        omega

theorem forwardSize_le (lists : List Ranges) : forwardSize lists ≤ 32 + 40 * entries lists := by
  rw [forwardSize, total_eq_sum]
  exact Nat.add_le_add_left (Nat.le_trans (space_addStates_le 5 lists [])
    (Nat.le_of_eq (Nat.zero_add _))) 32

theorem newCount_le_length (r previous : Ranges) : newCount r previous ≤ r.length := by
  induction r generalizing previous with
  | nil =>
      cases previous <;> exact Nat.le_refl 0
  | cons range rest ih =>
      cases previous with
      | nil =>
          exact Nat.le_refl _
      | cons s others =>
          rw [newCount]
          split
          · exact Nat.le_succ_of_le (ih others)
          · exact Nat.le_refl _

theorem newCounts_le_entries (previous : Ranges) (lists : List Ranges) :
    newCounts previous lists ≤ entries lists := by
  induction lists generalizing previous with
  | nil =>
      exact Nat.le_refl 0
  | cons list rest ih =>
      exact Nat.add_le_add (newCount_le_length list previous) (ih list)

theorem backwardSize_le (lists : List Ranges) :
    backwardSize lists ≤ 64 + 4 * lists.length + 32 * entries lists :=
  Nat.add_le_add_left (Nat.mul_le_mul_left 32 (newCounts_le_entries [] lists)) _

/-!
# Sets of few characters
-/

theorem entries_byteRanges_le (r : Ranges) :
    let lists := r.flatMap fun range => Text.Utf8.byteRanges range.1 range.2
    lists.length ≤ r.weight (fun range => range.2 + 1 - range.1) ∧
      entries lists ≤ lists.length * 4 := by
  intro lists
  constructor
  · rw [List.length_flatMap]
    exact List.sum_le_sum fun range _ => Text.Utf8.length_byteRanges_le range.1 range.2
  · have hfour : ∀ list ∈ lists, list.length ≤ 4 := by
      intro list hlist
      rcases List.mem_flatMap.mp hlist with ⟨range, _, hlist⟩
      rcases List.mem_map.mp hlist with ⟨part, _, rfl⟩
      rw [List.length_zip]
      exact Nat.le_trans (Nat.min_le_left _ _) (length_encode_le part.1)
    have hsum := List.sum_le_card_nsmul (lists.map List.length) 4 (List.forall_mem_map.mpr hfour)
    rwa [List.length_map] at hsum

theorem setSize_le (d : Direction) {r : Ranges} (hlength : r.length ≤ 5)
    (hwidth : r.weight (fun range => range.2 + 1 - range.1) ≤ 5) : setSize d r ≤ 832 := by
  rcases entries_byteRanges_le r with ⟨hlists, hentries⟩
  unfold setSize
  split
  · unfold stateSize rangeSize
    omega
  · cases d with
    | forward =>
        refine Nat.le_trans (forwardSize_le _) ?_
        omega
    | backward =>
        refine Nat.le_trans (backwardSize_le _) ?_
        omega

theorem costs_step {d : Direction} {set : CharSet} {n : Nat} (hn : 128 ≤ n)
    (h : setSize d set.ranges ≤ n) : Costs d (.step set) n := by
  refine ⟨_, rfl, ?_⟩
  change (Branch.ofRanges set.ranges).size d ≤ n
  unfold Branch.ofRanges
  split
  · split
    · rename_i a b _ _
      have hsize : (Branch.text [a]).size d = 32 * (Text.Utf8.encode a).length := by
        simp [Branch.size, stateSize]
      rw [hsize]
      exact Nat.le_trans (Nat.mul_le_mul_left 32 (length_encode_le a)) hn
    · rename_i hranges _
      rwa [hranges] at h
  · exact h

theorem costs_unions_single (d : Direction) {chars : List Char} (h : chars.length ≤ 5) :
    Costs d (.step (CharSet.unions (chars.map .single))) 832 := by
  have hcount := Ranges.weight_ranges_unions_le Ranges.isJoining_one (fun _ => rfl) chars
  have hwidth := Ranges.weight_ranges_unions_le Ranges.isJoining_width
    (fun n => Nat.add_sub_cancel_left n 1) chars
  rw [Ranges.weight, List.map_const', List.sum_replicate_nat, Nat.mul_one] at hcount
  apply costs_step
  · decide
  · exact setSize_le d (Nat.le_trans hcount h) (Nat.le_trans hwidth h)

end Pattern
end DocQuery
