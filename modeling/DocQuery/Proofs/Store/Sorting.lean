import DocQuery.Proofs.Keyed
import DocQuery.Proofs.Store.Matching
import DocQuery.Proofs.Value.Order

/-!
# Sorted results

A query gives the documents that its filter takes, each as often as it is stored,
in an order in which no document comes before a lesser one, and level documents
as they were stored.  A page is a stretch of this list, and the pages of one size
make up the list again.
-/

namespace DocQuery
namespace Sorting

/-!
# Insertion

The elements that were sorted so far are kept greatest first.
-/

section Insertion

variable {α : Type} (before : α → α → Bool)

theorem place_perm (a : α) (done : List α) : (place before a done).Perm (a :: done) := by
  induction done with
  | nil =>
      exact List.Perm.refl [a]
  | cons b rest ih =>
      unfold place
      split
      · exact (ih.cons b).trans (List.Perm.swap a b rest)
      · exact List.Perm.refl _

theorem forall_mem_append_place {p : α → Prop} {a : α} {rest done : List α}
    (h : ∀ b ∈ a :: rest ++ done, p b) : ∀ b ∈ rest ++ place before a done, p b := by
  intro b hb
  have hperm := (place_perm before a done).append_left rest
  exact h b ((hperm.trans List.perm_middle).mem_iff.mp hb)

theorem foldl_place_perm (items done : List α) :
    (items.foldl (fun done a => place before a done) done).Perm (items ++ done) := by
  induction items generalizing done with
  | nil =>
      exact List.Perm.refl done
  | cons a rest ih =>
      refine (ih (place before a done)).trans ?_
      exact ((place_perm before a done).append_left rest).trans List.perm_middle

theorem sorted_perm (items : List α) : (sorted before items).Perm items := by
  have hfold := foldl_place_perm before items []
  rw [List.append_nil] at hfold
  exact (List.reverse_perm _).trans hfold

end Insertion

section Ordered

variable {α : Type} {before : α → α → Bool} {p : α → Prop}

/-- An order for elements of some sort, of which nothing is asked for others. -/
structure Orders (before : α → α → Bool) (p : α → Prop) : Prop where
  asymm : ∀ a b, before a b = true → before b a = false
  trans : ∀ a b c, p a → p b → p c → before a b = false → before b c = false →
    before a c = false

theorem Orders.pairwise_place (h : Orders before p) {a : α} {done : List α} (ha : p a)
    (hp : ∀ b ∈ done, p b) (hdone : done.Pairwise fun b c => before b c = false) :
    (place before a done).Pairwise fun b c => before b c = false := by
  induction done with
  | nil =>
      exact List.pairwise_singleton _ a
  | cons b rest ih =>
      rw [List.pairwise_cons] at hdone
      rw [List.forall_mem_cons] at hp
      unfold place
      split
      · rename_i hbefore
        refine List.pairwise_cons.mpr ⟨?_, ih hp.2 hdone.2⟩
        intro c hc
        rcases List.mem_cons.mp ((place_perm before a rest).mem_iff.mp hc) with rfl | hc
        · exact h.asymm _ _ hbefore
        · exact hdone.1 c hc
      · rename_i hbefore
        have hb : before a b = false := Bool.eq_false_iff.mpr hbefore
        refine List.pairwise_cons.mpr ⟨?_, List.pairwise_cons.mpr hdone⟩
        rw [List.forall_mem_cons]
        exact ⟨hb, fun c hc => h.trans a b c ha hp.1 (hp.2 c hc) hb (hdone.1 c hc)⟩

theorem Orders.pairwise_foldl_place (h : Orders before p) {items done : List α}
    (hp : ∀ a ∈ items ++ done, p a) (hdone : done.Pairwise fun b c => before b c = false) :
    (items.foldl (fun done a => place before a done) done).Pairwise
      fun b c => before b c = false := by
  induction items generalizing done with
  | nil =>
      exact hdone
  | cons a rest ih =>
      apply ih (forall_mem_append_place before hp)
      rw [List.cons_append, List.forall_mem_cons] at hp
      exact h.pairwise_place hp.1 (fun b hb => hp.2 b (List.mem_append_right rest hb)) hdone

theorem Orders.pairwise_sorted (h : Orders before p) {items : List α} (hp : ∀ a ∈ items, p a) :
    (sorted before items).Pairwise fun a b => before b a = false := by
  rw [sorted, List.pairwise_reverse]
  apply h.pairwise_foldl_place
  · rwa [List.append_nil]
  · exact List.Pairwise.nil

/-!
# Stability

Elements of which none comes before another are passed by others only.
-/

variable {level : α → Bool}

theorem filter_place (hlevel : ∀ a b, p a → p b → level a = true → level b = true →
    before a b = false) {a : α} {done : List α} (ha : p a) (hp : ∀ b ∈ done, p b) :
    (place before a done).filter level = (a :: done).filter level := by
  induction done with
  | nil =>
      rfl
  | cons b rest ih =>
      rw [List.forall_mem_cons] at hp
      unfold place
      split
      · rename_i hbefore
        rw [List.filter_cons, ih hp.2]
        cases hlevela : level a with
        | false =>
            simp [List.filter_cons, hlevela]
        | true =>
            cases hlevelb : level b with
            | false =>
                simp [hlevela, hlevelb]
            | true =>
                rw [hlevel a b ha hp.1 hlevela hlevelb] at hbefore
                cases hbefore
      · rfl

theorem filter_foldl_place (hlevel : ∀ a b, p a → p b → level a = true → level b = true →
    before a b = false) {items done : List α} (hp : ∀ a ∈ items ++ done, p a) :
    (items.foldl (fun done a => place before a done) done).filter level =
      (items.reverse ++ done).filter level := by
  induction items generalizing done with
  | nil =>
      rfl
  | cons a rest ih =>
      have hrest := ih (forall_mem_append_place before hp)
      rw [List.cons_append, List.forall_mem_cons] at hp
      have hdone := filter_place hlevel hp.1 fun b hb => hp.2 b (List.mem_append_right rest hb)
      rw [List.foldl_cons, hrest, List.filter_append, hdone, ← List.filter_append,
        List.reverse_cons, List.append_assoc]
      rfl

theorem filter_sorted (hlevel : ∀ a b, p a → p b → level a = true → level b = true →
    before a b = false) {items : List α} (hp : ∀ a ∈ items, p a) :
    (sorted before items).filter level = items.filter level := by
  rw [sorted, List.filter_reverse, filter_foldl_place hlevel, List.append_nil, List.filter_reverse,
    List.reverse_reverse]
  rwa [List.append_nil]

end Ordered

/-!
# Documents

The values under each key are compared in its direction.
-/

def keyOrder (a b : Document) (key : String × Value) : Ordering :=
  directed key.2 (Value.order (a.lookup? key.1) (b.lookup? key.1))

theorem order_cons (a b : Document) (key : String × Value) (rest : Document) :
    order a b (key :: rest) = (keyOrder a b key).then (order a b rest) := by
  rcases key with ⟨path, direction⟩
  rw [order, keyOrder]
  cases directed direction (Value.order (a.lookup? path) (b.lookup? path)) <;> rfl

theorem directed_swap (direction : Value) (o : Ordering) :
    directed direction o.swap = (directed direction o).swap := by
  unfold directed
  split <;> rfl

theorem directed_eq_eq {direction : Value} {o : Ordering} :
    directed direction o = .eq ↔ o = .eq := by
  unfold directed
  split
  · exact Ordering.swap_eq_eq
  · exact Iff.rfl

theorem keyOrder_swap (a b : Document) (key : String × Value) :
    keyOrder b a key = (keyOrder a b key).swap := by
  rw [keyOrder, keyOrder, Value.order_swap, directed_swap]

theorem order_self (a : Document) (keys : Document) : order a a keys = .eq := by
  induction keys with
  | nil =>
      rfl
  | cons key rest ih =>
      have hkey : keyOrder a a key = .eq := directed_eq_eq.mpr (Value.order_self _)
      rw [order_cons, hkey, ih]
      rfl

theorem order_swap (a b keys : Document) : order b a keys = (order a b keys).swap := by
  induction keys with
  | nil =>
      rfl
  | cons key rest ih =>
      rw [order_cons, order_cons, keyOrder_swap, ih, Ordering.swap_then]

/-- A document has no value under the keys that is not a number. -/
def IsSortable (keys d : Document) : Prop :=
  ∀ key ∈ keys, Value.isNaN? (d.lookup? key.1) = false

theorem isLE_keyOrder_trans {a b c : Document} {key : String × Value}
    (hb : Value.isNaN? (b.lookup? key.1) = false) (hab : (keyOrder a b key).isLE = true)
    (hbc : (keyOrder b c key).isLE = true) : (keyOrder a c key).isLE = true := by
  unfold keyOrder directed at *
  split at hab
  · rename_i hdescending
    rw [if_pos hdescending, ← Value.order_swap] at *
    exact Value.isLE_order_trans hb hbc hab
  · rename_i hascending
    rw [if_neg hascending] at *
    exact Value.isLE_order_trans hb hab hbc

theorem keyOrder_eq_of_eq {a b c : Document} {key : String × Value}
    (ha : Value.isNaN? (a.lookup? key.1) = false) (hc : Value.isNaN? (c.lookup? key.1) = false)
    (hab : (keyOrder a b key).isLE = true) (hbc : (keyOrder b c key).isLE = true)
    (hac : keyOrder a c key = .eq) : keyOrder a b key = .eq ∧ keyOrder b c key = .eq := by
  have hca : (keyOrder c a key).isLE = true := by
    rw [keyOrder_swap, hac]
    rfl
  have hba : (keyOrder b a key).isLE = true :=
    isLE_keyOrder_trans hc hbc hca
  have hcb : (keyOrder c b key).isLE = true :=
    isLE_keyOrder_trans ha hca hab
  rw [keyOrder_swap, Ordering.isLE_swap] at hba hcb
  exact ⟨Ordering.eq_eq_of_isLE_of_isGE hab hba, Ordering.eq_eq_of_isLE_of_isGE hbc hcb⟩

/-- The first key in which the outer documents differ is one in which the inner one differs from
one of them, and before it all three are level. -/
theorem isLE_order_trans {a b c keys : Document} (ha : IsSortable keys a)
    (hb : IsSortable keys b) (hc : IsSortable keys c) (hab : (order a b keys).isLE = true)
    (hbc : (order b c keys).isLE = true) : (order a c keys).isLE = true := by
  induction keys with
  | nil =>
      rfl
  | cons key rest ih =>
      rw [IsSortable, List.forall_mem_cons] at ha hb hc
      rw [order_cons, Ordering.isLE_then_iff_and] at *
      have hfirst : (keyOrder a c key).isLE = true :=
        isLE_keyOrder_trans hb.1 hab.1 hbc.1
      refine ⟨hfirst, ?_⟩
      by_cases hlt : keyOrder a c key = .lt
      · exact Or.inl hlt
      · have hac : keyOrder a c key = .eq :=
          (Ordering.isLE_iff_eq_lt_or_eq_eq.mp hfirst).resolve_left hlt
        have heq := keyOrder_eq_of_eq ha.1 hc.1 hab.1 hbc.1 hac
        rw [heq.1] at hab
        rw [heq.2] at hbc
        exact Or.inr (ih ha.2 hb.2 hc.2 (hab.2.resolve_left nofun) (hbc.2.resolve_left nofun))

theorem not_before_iff {a b keys : Document} :
    (order a b keys == .lt) = false ↔ (order b a keys).isLE = true := by
  rw [order_swap a b]
  cases order a b keys <;> decide

theorem orders (keys : Document) :
    Orders (fun a b => order a b keys == .lt) (IsSortable keys) where
  asymm a b h := by
    rw [not_before_iff, beq_iff_eq.mp h]
    rfl
  trans a b c ha hb hc hab hbc := by
    rw [not_before_iff] at *
    exact isLE_order_trans hc hb ha hbc hab

/-- The documents that were found stand in order, and those that are level as they were found. -/
structure Arranged (keys : Document) (found whole : List Document) : Prop where
  perm : whole.Perm found
  ordered : whole.Pairwise fun a b => order a b keys ≠ .gt
  stable : ∀ d ∈ found, whole.filter (fun e => order d e keys = .eq) =
    found.filter fun e => order d e keys = .eq

theorem arranged_nil (found : List Document) : Arranged [] found found where
  perm := List.Perm.refl found
  ordered := List.pairwise_of_forall fun _ _ => Ordering.noConfusion
  stable _ _ := rfl

theorem arranged_byKeys {keys : Document} {found : List Document}
    (h : ∀ d ∈ found, IsSortable keys d) : Arranged keys found (byKeys keys found) where
  perm := sorted_perm _ found
  ordered := by
    refine ((orders keys).pairwise_sorted h).imp ?_
    intro a b hab
    rwa [not_before_iff, Ordering.isLE_iff_ne_gt] at hab
  stable d hd := by
    refine filter_sorted ?_ h
    intro a b ha hb hlevela hlevelb
    rw [decide_eq_true_eq] at hlevela hlevelb
    have hda : (order b d keys).isLE = true := by
      rw [order_swap, hlevelb]
      rfl
    have hdb : (order d a keys).isLE = true := by
      rw [hlevela]
      rfl
    rw [not_before_iff]
    exact isLE_order_trans hb (h d hd) ha hda hdb

end Sorting

/-!
# Pages
-/

namespace Store

theorem page_eq (o : FetchOptions) (documents : List Document) :
    page o documents =
      (documents.drop (o.skip.getD 0)).take (o.limit.getD documents.length) := by
  unfold page
  cases o.limit with
  | none =>
      exact (List.take_of_length_le (List.drop_sublist _ _).length_le).symm
  | some n =>
      rfl

theorem flatMap_pages {α : Type} (whole : List α) (n count : Nat) :
    (List.range count).flatMap (fun i => (whole.drop (i * n)).take n) =
      whole.take (count * n) := by
  induction count with
  | zero =>
      rw [Nat.zero_mul]
      rfl
  | succ count ih =>
      rw [List.range_succ, List.flatMap_append, ih, List.flatMap_singleton, Nat.succ_mul,
        List.take_add]

theorem isSortable_sortDocument? {o : FetchOptions} {d : Document}
    (h : ∀ key ∈ o.sort, Value.isNaN? (d.lookup? key.field) = false) :
    Sorting.IsSortable (o.sortDocument?.getD []) d := by
  intro entry hentry
  unfold FetchOptions.sortDocument? at hentry
  split at hentry
  · cases hentry
  · rcases Keyed.mem_of_mem_insertAll hentry with hentry | hentry
    · rcases List.mem_map.mp hentry with ⟨key, hkey, rfl⟩
      exact h key hkey
    · cases hentry

theorem arranged_arrange {o : FetchOptions} {found : List Document}
    (h : ∀ d ∈ found, Sorting.IsSortable (o.sortDocument?.getD []) d) :
    Sorting.Arranged (o.sortDocument?.getD []) found (arrange o found) := by
  unfold arrange
  cases hkeys : o.sortDocument? with
  | none =>
      exact Sorting.arranged_nil found
  | some keys =>
      rw [hkeys] at h
      exact Sorting.arranged_byKeys h

/-- The list of which a query gives a stretch depends on its filter and its sort keys only. -/
def inOrder (s : Store) (collection : String) (filter : Document) (sort : List SortKey) :
    List Document :=
  arrange { sort := sort } (Selector.taken filter (s.documents collection))

theorem query_of_decides {s : Store} {collection : String} {filter : Document}
    (h : Selector.Decides filter (s.documents collection)) (sort : List SortKey)
    (skip limit : Option Nat) (projection : Option Document) :
    s.query collection filter ⟨sort, skip, limit, projection⟩ =
      .ok ((((s.inOrder collection filter sort).drop (skip.getD 0)).take
        (limit.getD (s.inOrder collection filter sort).length)).map
          (Projection.apply projection)) := by
  rw [query, Selector.select_eq_ok_iff.mpr ⟨h, rfl⟩, inOrder]
  exact congrArg (fun found => Except.ok (found.map (Projection.apply projection))) (page_eq _ _)

/-- A sorted query gives the documents that its filter takes, in order and level ones as they
were stored.  With an amount to skip, a limit and a projection it gives a stretch of the same
list, document by document, and its pages make up the list. -/
theorem query_sorted {s : Store} {collection : String} {filter : Document} {sort : List SortKey}
    (hfilter : Selector.Decides filter (s.documents collection))
    (hnumbers : ∀ d ∈ s.documents collection, ∀ key ∈ sort,
      Value.isNaN? (d.lookup? key.field) = false) :
    ∃ whole, s.query collection filter { sort := sort } = .ok whole ∧
      Sorting.Arranged (({ sort := sort } : FetchOptions).sortDocument?.getD [])
        (Selector.taken filter (s.documents collection)) whole ∧
      (∀ skip limit projection,
        s.query collection filter ⟨sort, skip, limit, projection⟩ =
          .ok (((whole.drop (skip.getD 0)).take (limit.getD whole.length)).map
            (Projection.apply projection))) ∧
      ∀ n projection, ∃ pages : Nat → List Document,
        (∀ i, s.query collection filter ⟨sort, some (i * n), some n, projection⟩ =
          .ok (pages i)) ∧
        ∀ count, whole.length ≤ count * n →
          (List.range count).flatMap pages = whole.map (Projection.apply projection) := by
  have hpage := query_of_decides hfilter sort
  refine ⟨s.inOrder collection filter sort, ?_, ?_, hpage, ?_⟩
  · have hall : Projection.apply none = id := rfl
    rw [hpage, hall, List.map_id]
    exact congrArg Except.ok (List.take_of_length_le (Nat.le_refl _))
  · apply arranged_arrange
    intro d hd
    exact isSortable_sortDocument? (hnumbers d (List.mem_of_mem_filter hd))
  · intro n projection
    refine ⟨_, fun i => hpage (some (i * n)) (some n) projection, ?_⟩
    intro count hcount
    simp only [Option.getD_some]
    rw [← List.map_flatMap, flatMap_pages, List.take_of_length_le hcount]

/-- Of five pets by age, oldest first, then by name, the second page of two holds the one whose age
is a double and the first of the two that are level with each other, and have no age. -/
theorem query_sorted_pets :
    let s : Store := ⟨[("pets", { documents := [
      [(storedIdField, .int32 1), ("name", .string "rex")],
      [(storedIdField, .int32 2), ("name", .string "rex")],
      [(storedIdField, .int32 3), ("name", .string "ada"), ("age", .string "old")],
      [(storedIdField, .int32 4), ("name", .string "tom"), ("age", .double 3)],
      [(storedIdField, .int32 5), ("name", .string "kit"), ("age", .int32 7)]] })], 0⟩
    let sort : List SortKey := [⟨"age", .descending⟩, ⟨"name", .ascending⟩]
    Selector.Decides [] (s.documents "pets") ∧
      (∀ d ∈ s.documents "pets", ∀ key ∈ sort, Value.isNaN? (d.lookup? key.field) = false) ∧
      ∃ whole, s.query "pets" [] { sort := sort } = .ok whole ∧
        s.query "pets" [] ⟨sort, some 2, some 2, some [("name", .int32 1)]⟩ =
          .ok (((whole.drop 2).take 2).map
            (Projection.apply (some [("name", .int32 1)]))) ∧
        (whole.drop 2).take 2 =
          [[(storedIdField, .int32 4), ("name", .string "tom"), ("age", .double 3)],
            [(storedIdField, .int32 1), ("name", .string "rex")]] := by
  intro s sort
  have hdecides : Selector.Decides [] (s.documents "pets") := fun _ _ => rfl
  have hnumbers : ∀ d ∈ s.documents "pets", ∀ key ∈ sort,
      Value.isNaN? (d.lookup? key.field) = false := by
    decide +kernel
  rcases query_sorted hdecides hnumbers with ⟨whole, hwhole, _, hstretch, _⟩
  refine ⟨hdecides, hnumbers, whole, hwhole, hstretch (some 2) (some 2) _, ?_⟩
  cases hwhole.symm.trans (query_of_decides hdecides sort none none none)
  decide +kernel

end Store
end DocQuery
