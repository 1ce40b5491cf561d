import DocQuery.Proofs.Outcome
import DocQuery.Proofs.Value.Equivalence
import DocQuery.Store.Aggregation
import Mathlib.Algebra.Ring.Nat
import Mathlib.Data.List.Nodup

/-!
# Groups as a partition

Documents are taken into groups one by one, each into the first group whose key
is the same as its own, or into a new one behind the others.  What has been
taken into which group is kept as a list of documents with the rows of their
groups, and the invariant says what the groups are in its terms.
-/

namespace DocQuery
namespace Aggregation

open Outcome

/-!
# Single documents
-/

/-- What adding a document comes to: it joins the first group of its key, or opens a group. -/
inductive Added (outputs : List Output) (key : Value) (d : Document) (gs : List Group) :
    List Group → Prop where
  | joined (i : Nat) (g : Group) (hg : gs[i]? = some g) (hsame : sameKey g.key key = true)
      (hbefore : ∀ j h, j < i → gs[j]? = some h → sameKey h.key key = false) :
      Added outputs key d gs (gs.set i { g with tallies := addAll d outputs g.tallies })
  | opened (tallies : List Tally) (htallies : startTallies outputs = .ok tallies)
      (hbefore : ∀ h ∈ gs, sameKey h.key key = false) :
      Added outputs key d gs (gs ++ [⟨key, addAll d outputs tallies⟩])

theorem added_of_addToGroups {outputs : List Output} {key : Value} {d : Document}
    {gs after : List Group} (h : addToGroups outputs key d gs = .ok after) :
    Added outputs key d gs after := by
  induction gs generalizing after with
  | nil =>
      simp only [addToGroups, bind_eq_ok, pure_eq_ok] at h
      rcases h with ⟨tallies, htallies, rfl⟩
      exact .opened tallies htallies fun _ hh => absurd hh List.not_mem_nil
  | cons g rest ih =>
      unfold addToGroups at h
      split at h
      · rename_i hsame
        cases h
        exact .joined 0 g rfl hsame fun _ _ hj => absurd hj (Nat.not_lt_zero _)
      · rename_i hother
        rw [Bool.not_eq_true] at hother
        simp only [bind_eq_ok, pure_eq_ok] at h
        rcases h with ⟨others, hothers, rfl⟩
        cases ih hothers with
        | joined i h hh hsame hbefore =>
            refine .joined (i + 1) h hh hsame ?_
            intro j k hj hk
            cases j with
            | zero =>
                cases hk
                exact hother
            | succ j =>
                exact hbefore j k (Nat.lt_of_succ_lt_succ hj) hk
        | opened tallies htallies hbefore =>
            refine .opened tallies htallies ?_
            rw [List.forall_mem_cons]
            exact ⟨hother, hbefore⟩

theorem addToGroups_ok {outputs : List Output} {tallies : List Tally}
    (htallies : startTallies outputs = .ok tallies) (key : Value) (d : Document)
    (gs : List Group) : ∃ after, addToGroups outputs key d gs = .ok after := by
  induction gs with
  | nil =>
      simp only [addToGroups, htallies]
      exact ⟨_, rfl⟩
  | cons g rest ih =>
      rcases ih with ⟨others, hothers⟩
      unfold addToGroups
      split
      · exact ⟨_, rfl⟩
      · rw [hothers]
        exact ⟨_, rfl⟩

/-!
# Partitions
-/

/-- The documents that have been taken into a row, in their order. -/
def members (placed : List (Document × Nat)) (row : Nat) : List Document :=
  (placed.filter fun p => p.2 == row).map Prod.fst

theorem members_append (placed : List (Document × Nat)) (d : Document) (i row : Nat) :
    members (placed ++ [(d, i)]) row = members placed row ++ if i = row then [d] else [] := by
  by_cases h : i = row <;> simp [members, h]

/-- The tallies of a group are those of its documents. -/
def tallied (outputs : List Output) (start : List Tally) (documents : List Document) :
    List Tally :=
  documents.foldl (fun tallies d => addAll d outputs tallies) start

/-- What groups are after documents have been taken into them. -/
structure Partition (outputs : List Output) (expression : Value) (start : List Tally)
    (placed : List (Document × Nat)) (gs : List Group) : Prop where
  /-- Rows come in the order of their first documents. -/
  ordered : (placed.map Prod.snd).eraseDups = List.range gs.length
  /-- A group has the key of its first document, and tallies of all of them. -/
  gathered : ∀ i g, gs[i]? = some g → ∃ first rest, members placed i = first :: rest ∧
    g.key = keyOf first expression ∧ g.tallies = tallied outputs start (first :: rest)
  /-- A document is in a group of its own key. -/
  joined : ∀ p ∈ placed, ∀ g, gs[p.2]? = some g →
    g.key = keyOf p.1 expression ∨ sameKey g.key (keyOf p.1 expression) = true
  /-- No group before it has the same key. -/
  unmatched : ∀ p ∈ placed, ∀ i g, i < p.2 → gs[i]? = some g →
    sameKey g.key (keyOf p.1 expression) = false

section Partition

variable {outputs : List Output} {expression : Value} {start : List Tally}
  {placed : List (Document × Nat)} {gs : List Group}

theorem partition_nil : Partition outputs expression start [] [] where
  ordered := rfl
  gathered := by simp
  joined := by simp
  unmatched := by simp

theorem Partition.mem_rows_iff (h : Partition outputs expression start placed gs) {row : Nat} :
    row ∈ placed.map Prod.snd ↔ row < gs.length := by
  rw [← List.mem_eraseDups, h.ordered, List.mem_range]

theorem Partition.row_lt (h : Partition outputs expression start placed gs)
    {p : Document × Nat} (hp : p ∈ placed) : p.2 < gs.length :=
  h.mem_rows_iff.mp (List.mem_map_of_mem hp)

theorem Partition.members_eq_nil (h : Partition outputs expression start placed gs) :
    members placed gs.length = [] := by
  rw [members, List.map_eq_nil_iff, List.filter_eq_nil_iff]
  intro p hp
  have hlt := h.row_lt hp
  rw [beq_iff_eq]
  omega

theorem eraseDups_append_singleton (rows : List Nat) (i : Nat) :
    (rows ++ [i]).eraseDups = rows.eraseDups ++ if i ∈ rows then [] else [i] := by
  by_cases h : i ∈ rows <;>
    simp [List.eraseDups_append, List.removeAll, List.eraseDups_cons, h]

theorem key_of_getElem?_set {i j : Nat} {g k : Group} (hg : gs[i]? = some g)
    {tallies : List Tally} (hk : (gs.set i { g with tallies })[j]? = some k) :
    ∃ old, gs[j]? = some old ∧ k.key = old.key := by
  rw [List.getElem?_set] at hk
  split at hk
  · rename_i hij
    subst hij
    split at hk
    · cases hk
      exact ⟨g, hg, rfl⟩
    · cases hk
  · exact ⟨k, hk, rfl⟩

theorem Partition.join (h : Partition outputs expression start placed gs) {d : Document}
    {i : Nat} {g : Group} (hg : gs[i]? = some g)
    (hsame : sameKey g.key (keyOf d expression) = true)
    (hbefore : ∀ j k, j < i → gs[j]? = some k → sameKey k.key (keyOf d expression) = false) :
    Partition outputs expression start (placed ++ [(d, i)])
      (gs.set i { g with tallies := addAll d outputs g.tallies }) where
  ordered := by
    have hrow : i ∈ placed.map Prod.snd :=
      h.mem_rows_iff.mpr (List.getElem?_eq_some_iff.mp hg).1
    rw [List.map_append, List.map_singleton, eraseDups_append_singleton, if_pos hrow,
      List.append_nil, List.length_set, h.ordered]
  gathered := by
    intro j k hk
    rw [members_append]
    by_cases hij : i = j
    · subst hij
      rcases h.gathered i g hg with ⟨first, rest, hmembers, hkey, htallies⟩
      rw [List.getElem?_set_self (List.getElem?_eq_some_iff.mp hg).1] at hk
      cases hk
      refine ⟨first, rest ++ [d], by simp [hmembers], hkey, ?_⟩
      rw [htallies, ← List.cons_append, tallied, tallied, List.foldl_append]
      rfl
    · rw [List.getElem?_set_ne hij] at hk
      rw [if_neg hij, List.append_nil]
      exact h.gathered j k hk
  joined := by
    intro p hp k hk
    rcases key_of_getElem?_set hg hk with ⟨old, hold, hkey⟩
    rw [hkey]
    rcases List.mem_append.mp hp with hp | hp
    · exact h.joined p hp old hold
    · cases List.mem_singleton.mp hp
      rw [hg, Option.some_inj] at hold
      exact Or.inr (hold ▸ hsame)
  unmatched := by
    intro p hp j k hj hk
    rcases key_of_getElem?_set hg hk with ⟨old, hold, hkey⟩
    rw [hkey]
    rcases List.mem_append.mp hp with hp | hp
    · exact h.unmatched p hp j old hj hold
    · cases List.mem_singleton.mp hp
      exact hbefore j old hj hold

theorem Partition.open (h : Partition outputs expression start placed gs) {d : Document}
    (hbefore : ∀ g ∈ gs, sameKey g.key (keyOf d expression) = false) :
    Partition outputs expression start (placed ++ [(d, gs.length)])
      (gs ++ [⟨keyOf d expression, addAll d outputs start⟩]) where
  ordered := by
    have hrow : gs.length ∉ placed.map Prod.snd :=
      fun hmem => Nat.lt_irrefl _ (h.mem_rows_iff.mp hmem)
    rw [List.map_append, List.map_singleton, eraseDups_append_singleton, if_neg hrow,
      List.length_append, List.length_singleton, List.range_succ, h.ordered]
  gathered := by
    intro j k hk
    have hj : j < gs.length + 1 := by
      simpa using (List.getElem?_eq_some_iff.mp hk).1
    rw [members_append]
    rcases Nat.lt_succ_iff_lt_or_eq.mp hj with hj | rfl
    · rw [List.getElem?_append_left hj] at hk
      rw [if_neg (Nat.ne_of_gt hj), List.append_nil]
      exact h.gathered j k hk
    · rw [List.getElem?_concat_length] at hk
      cases hk
      exact ⟨d, [], by simp [h.members_eq_nil], rfl, rfl⟩
  joined := by
    intro p hp k hk
    rcases List.mem_append.mp hp with hp | hp
    · rw [List.getElem?_append_left (h.row_lt hp)] at hk
      exact h.joined p hp k hk
    · cases List.mem_singleton.mp hp
      rw [List.getElem?_concat_length] at hk
      cases hk
      exact Or.inl rfl
  unmatched := by
    intro p hp j k hj hk
    rcases List.mem_append.mp hp with hp | hp
    · rw [List.getElem?_append_left (Nat.lt_trans hj (h.row_lt hp))] at hk
      exact h.unmatched p hp j k hj hk
    · cases List.mem_singleton.mp hp
      rw [List.getElem?_append_left hj] at hk
      exact hbefore k (List.mem_of_getElem? hk)

/-!
# All documents
-/

theorem Partition.add (h : Partition outputs expression start placed gs)
    (hstart : startTallies outputs = .ok start) {d : Document} {after : List Group}
    (hadd : addToGroups outputs (keyOf d expression) d gs = .ok after) :
    ∃ row, Partition outputs expression start (placed ++ [(d, row)]) after := by
  cases added_of_addToGroups hadd with
  | joined i g hg hsame hbefore =>
      exact ⟨i, h.join hg hsame hbefore⟩
  | opened tallies htallies hbefore =>
      rw [hstart] at htallies
      cases htallies
      exact ⟨gs.length, h.open hbefore⟩

theorem Partition.add_all (h : Partition outputs expression start placed gs)
    (hstart : startTallies outputs = .ok start) (documents : List Document) :
    ∃ added after, groups outputs expression gs documents = .ok after ∧
      added.map Prod.fst = documents ∧
      Partition outputs expression start (placed ++ added) after := by
  induction documents generalizing placed gs with
  | nil =>
      exact ⟨[], gs, rfl, rfl, by rwa [List.append_nil]⟩
  | cons d rest ih =>
      rcases addToGroups_ok hstart (keyOf d expression) d gs with ⟨next, hnext⟩
      rcases h.add hstart hnext with ⟨row, hrow⟩
      rcases ih hrow with ⟨added, after, hafter, hadded, hpartition⟩
      refine ⟨(d, row) :: added, after, ?_, ?_, ?_⟩
      · rw [groups, hnext]
        exact hafter
      · rw [List.map_cons, hadded]
      · rwa [List.append_assoc, List.singleton_append] at hpartition

theorem exists_partition (expression : Value) (hstart : startTallies outputs = .ok start)
    (documents : List Document) :
    ∃ placed gs, groups outputs expression [] documents = .ok gs ∧
      placed.map Prod.fst = documents ∧ Partition outputs expression start placed gs :=
  partition_nil.add_all hstart documents

/-!
# Keys of rows

Sameness is an equivalence on keys in which each name stands once and that hold
nothing that is not a number.
-/

theorem sameKey_symm {a b : Value} (ha : a.hasDistinctNames = true)
    (hb : b.hasDistinctNames = true) (h : sameKey a b = true) : sameKey b a = true :=
  Canonical.same_symm (Value.hasDistinctNames_canonical ha) (Value.hasDistinctNames_canonical hb) h

theorem sameKey_trans {a b c : Value} (hab : sameKey a b = true) (hbc : sameKey b c = true) :
    sameKey a c = true :=
  Canonical.same_trans hab hbc

theorem mem_of_mem_members {d : Document} {row : Nat} (h : d ∈ members placed row) :
    (d, row) ∈ placed := by
  rcases List.mem_map.mp h with ⟨p, hp, rfl⟩
  rcases List.mem_filter.mp hp with ⟨hmem, hrow⟩
  rw [← beq_iff_eq.mp hrow]
  exact hmem

theorem Partition.key (h : Partition outputs expression start placed gs) {i : Nat} {g : Group}
    (hg : gs[i]? = some g) : ∃ first, (first, i) ∈ placed ∧ g.key = keyOf first expression := by
  rcases h.gathered i g hg with ⟨first, rest, hmembers, hkey, _⟩
  refine ⟨first, mem_of_mem_members ?_, hkey⟩
  rw [hmembers]
  exact List.mem_cons_self

theorem Partition.group_of_head (h : Partition outputs expression start placed gs) {row : Nat}
    {first : Document} (hfirst : (members placed row).head? = some first) :
    ∃ g, gs[row]? = some g ∧ g.key = keyOf first expression := by
  have hrow := h.row_lt (mem_of_mem_members (List.mem_of_head? hfirst))
  have hget : gs[row]? = some _ := List.getElem?_eq_getElem hrow
  rcases h.gathered row _ hget with ⟨opener, rest, hmembers, hkey, _⟩
  rw [hmembers] at hfirst
  cases hfirst
  exact ⟨_, hget, hkey⟩

theorem Partition.key_names (h : Partition outputs expression start placed gs)
    (hnames : ∀ d ∈ placed.map Prod.fst, (keyOf d expression).hasDistinctNames = true) {i : Nat}
    {g : Group} (hg : gs[i]? = some g) : g.key.hasDistinctNames = true := by
  rcases h.key hg with ⟨first, hfirst, hkey⟩
  rw [hkey]
  exact hnames first (List.mem_map.mpr ⟨_, hfirst, rfl⟩)

theorem Partition.keys_ordered (h : Partition outputs expression start placed gs) {i j : Nat}
    {g k : Group} (hg : gs[i]? = some g) (hk : gs[j]? = some k) (hij : i < j) :
    sameKey g.key k.key = false := by
  rcases h.key hk with ⟨first, hfirst, hkey⟩
  rw [hkey]
  exact h.unmatched _ hfirst i g hij hg

theorem Partition.keys_apart (h : Partition outputs expression start placed gs)
    (hnames : ∀ d ∈ placed.map Prod.fst, (keyOf d expression).hasDistinctNames = true) {i j : Nat}
    {g k : Group} (hg : gs[i]? = some g) (hk : gs[j]? = some k) (hij : i ≠ j) :
    sameKey g.key k.key = false := by
  rcases Nat.lt_or_gt_of_ne hij with hlt | hgt
  · exact h.keys_ordered hg hk hlt
  -- Keys have been compared in the order of their rows only.
  · rw [← Bool.not_eq_true]
    intro hsame
    have hother := h.keys_ordered hk hg hgt
    rw [sameKey_symm (h.key_names hnames hg) (h.key_names hnames hk) hsame] at hother
    cases hother

theorem Partition.same_key (h : Partition outputs expression start placed gs)
    {p : Document × Nat} (hp : p ∈ placed)
    (hnames : (keyOf p.1 expression).hasDistinctNames = true)
    (hnan : (keyOf p.1 expression).hasNaN = false) :
    ∃ g, gs[p.2]? = some g ∧ sameKey g.key (keyOf p.1 expression) = true := by
  have hget : gs[p.2]? = some _ := List.getElem?_eq_getElem (h.row_lt hp)
  refine ⟨_, hget, ?_⟩
  rcases h.joined p hp _ hget with hkey | hsame
  · rw [hkey]
    exact Value.same_self hnan hnames
  · exact hsame

theorem Partition.not_row_lt_of_sameKey (h : Partition outputs expression start placed gs)
    {p q : Document × Nat} (hp : p ∈ placed) (hq : q ∈ placed)
    (hnames : (keyOf p.1 expression).hasDistinctNames = true)
    (hnan : (keyOf p.1 expression).hasNaN = false)
    (hsame : sameKey (keyOf p.1 expression) (keyOf q.1 expression) = true) : ¬ p.2 < q.2 := by
  intro hlt
  rcases h.same_key hp hnames hnan with ⟨g, hg, hgp⟩
  have hother := h.unmatched q hq p.2 g hlt hg
  rw [sameKey_trans hgp hsame] at hother
  cases hother

theorem Partition.same_row_iff (h : Partition outputs expression start placed gs)
    (hnames : ∀ d ∈ placed.map Prod.fst, (keyOf d expression).hasDistinctNames = true)
    {p q : Document × Nat} (hp : p ∈ placed) (hq : q ∈ placed)
    (hpnan : (keyOf p.1 expression).hasNaN = false)
    (hqnan : (keyOf q.1 expression).hasNaN = false) :
    p.2 = q.2 ↔ sameKey (keyOf p.1 expression) (keyOf q.1 expression) = true := by
  have hpnames := hnames p.1 (List.mem_map_of_mem hp)
  have hqnames := hnames q.1 (List.mem_map_of_mem hq)
  constructor
  · intro hrow
    rcases h.same_key hp hpnames hpnan with ⟨g, hg, hgp⟩
    rcases h.same_key hq hqnames hqnan with ⟨k, hk, hkq⟩
    rw [← hrow, hg, Option.some_inj] at hk
    subst hk
    exact sameKey_trans (sameKey_symm (h.key_names hnames hg) hpnames hgp) hkq
  · intro hsame
    have hpq := h.not_row_lt_of_sameKey hp hq hpnames hpnan hsame
    have hqp := h.not_row_lt_of_sameKey hq hp hqnames hqnan
      (sameKey_symm hpnames hqnames hsame)
    omega

end Partition

/-!
# Tallies

Every output has a tally of its own.
-/

/-- The tally of one output over documents in their order. -/
def Output.tally (output : Output) (start : Tally) (documents : List Document) : Tally :=
  documents.foldl (fun t d => t.add (resolve? d output.expression)) start

theorem tallied_nil (documents : List Document) : tallied [] [] documents = [] := by
  induction documents with
  | nil =>
      rfl
  | cons d rest ih =>
      exact ih

theorem tallied_cons (output : Output) (outputs : List Output) (t : Tally) (start : List Tally)
    (documents : List Document) :
    tallied (output :: outputs) (t :: start) documents =
      output.tally t documents :: tallied outputs start documents := by
  induction documents generalizing t start with
  | nil =>
      rfl
  | cons d rest ih =>
      exact ih (t.add (resolve? d output.expression)) (addAll d outputs start)

theorem Tally.add_one {whole : Int64} (real : Float)
    (hfits : whole.toInt + 1 ≤ Int64.maxValue.toInt) :
    ∃ next : Int64, next.toInt = whole.toInt + 1 ∧
      (Tally.sum whole real false).add (some (.int32 1)) = .sum next real false := by
  have hone : (1 : Int32).toInt64.toInt = 1 := by decide
  have hlower := whole.le_toInt
  have hmin : Int64.minValue.toInt = -2 ^ 63 := Int64.toInt_minValue
  have hmax : Int64.maxValue.toInt = 2 ^ 63 - 1 := Int64.toInt_maxValue
  have hadd : Tally.addWhole? whole (1 : Int32).toInt64 = some (Int64.ofInt (whole.toInt + 1)) := by
    rw [Tally.addWhole?, hone, if_pos ⟨by omega, hfits⟩]
  refine ⟨Int64.ofInt (whole.toInt + 1), Int64.toInt_ofInt_of_le (by omega) (by omega), ?_⟩
  simp only [Tally.add, Tally.addSum, Tally.wholeOf?, hadd]

theorem Tally.foldl_add_one {documents : List Document} {whole : Int64} (real : Float)
    (hfits : whole.toInt + documents.length ≤ Int64.maxValue.toInt) :
    ∃ total : Int64, total.toInt = whole.toInt + documents.length ∧
      documents.foldl (fun (t : Tally) _ => t.add (some (.int32 1))) (.sum whole real false) =
        .sum total real false := by
  induction documents generalizing whole with
  | nil =>
      exact ⟨whole, by simp, rfl⟩
  | cons d rest ih =>
      rw [List.length_cons] at hfits ⊢
      have hfirst : whole.toInt + 1 ≤ Int64.maxValue.toInt := by omega
      rcases Tally.add_one real hfirst with ⟨next, hnext, hadd⟩
      have hothers : next.toInt + rest.length ≤ Int64.maxValue.toInt := by omega
      rcases ih hothers with ⟨total, htotal, hrest⟩
      refine ⟨total, by omega, ?_⟩
      rw [List.foldl_cons, hadd, hrest]

theorem Tally.wholeOf?_wholeValue (n : Int64) :
    ∃ k, Tally.wholeOf? (Tally.wholeValue n) = some k ∧ k.toInt = n.toInt := by
  unfold Tally.wholeValue
  split
  · rename_i hsmall
    have hmin : Int32.minValue.toInt = -2 ^ 31 := Int32.toInt_minValue
    have hmax : Int32.maxValue.toInt = 2 ^ 31 - 1 := Int32.toInt_maxValue
    refine ⟨n.toInt32.toInt64, rfl, ?_⟩
    rw [Int32.toInt_toInt64, Int64.toInt_toInt32, Int.bmod_eq_of_le] <;> omega
  · exact ⟨n, rfl, rfl⟩

/-!
# Rows
-/

theorem length_members_succ (placed : List (Document × Nat)) (rows : Nat) :
    (placed.filter fun p => p.2 < rows + 1).length =
      (placed.filter fun p => p.2 < rows).length + (members placed rows).length := by
  rw [@List.length_eq_length_filter_add _ (placed.filter fun p => p.2 < rows + 1)
    fun p => p.2 < rows, List.filter_filter, List.filter_filter, members, List.length_map]
  congr 2
  · refine List.filter_congr fun p _ => ?_
    rw [Bool.eq_iff_iff]
    simp only [Bool.and_eq_true, decide_eq_true_eq]
    omega
  · refine List.filter_congr fun p _ => ?_
    rw [Bool.eq_iff_iff]
    simp only [Bool.and_eq_true, Bool.not_eq_true', decide_eq_true_eq, decide_eq_false_iff_not,
      beq_iff_eq]
    omega

theorem sum_length_members {placed : List (Document × Nat)} (rows : Nat) :
    ((List.range rows).map fun row => (members placed row).length).sum =
      (placed.filter fun p => p.2 < rows).length := by
  induction rows with
  | zero =>
      simp
  | succ rows ih =>
      rw [List.range_succ, List.map_append, List.sum_append, ih, length_members_succ]
      simp

end Aggregation
end DocQuery
