import DocQuery.Keyed
import Mathlib.Data.List.Nodup

/-!
# Keyed lists with distinct names

Writing keeps names distinct and adds no other entry than the one written.
Entries with distinct names are read back as they stand, and writing them one
after the other into an empty list gives just them.  What was written is found
again, and what was not written is found as it was.
-/

namespace DocQuery
namespace Keyed

variable {α : Type}

/-!
# Names
-/

theorem contains_iff_mem_keys {entries : Keyed α} {key : String} :
    contains entries key = true ↔ key ∈ keys entries := by
  induction entries with
  | nil =>
      simp [contains, get?, keys]
  | cons entry rest ih =>
      rcases entry with ⟨k, a⟩
      by_cases h : k = key
      · simp [contains, get?, keys, h]
      · have hk : ¬ key = k := fun e => h e.symm
        simpa [contains, get?, keys, h, hk] using ih

theorem mem_keys_insert {entries : Keyed α} {key other : String} {value : α} :
    other ∈ keys (insert entries key value) ↔ other ∈ keys entries ∨ other = key := by
  rw [keys_insert]
  split
  · constructor
    · exact Or.inl
    · rintro (h | rfl)
      · exact h
      · assumption
  · simp

theorem nodup_keys_insert {entries : Keyed α} (h : (keys entries).Nodup) (key : String)
    (value : α) : (keys (insert entries key value)).Nodup := by
  rw [keys_insert]
  split
  · exact h
  · rename_i hkey
    rw [List.nodup_append]
    refine ⟨h, List.nodup_singleton key, ?_⟩
    rintro k hk l hl rfl
    exact hkey (List.mem_singleton.mp hl ▸ hk)

theorem nodup_keys_insertAll {entries : Keyed α} (h : (keys entries).Nodup)
    (added : Keyed α) : (keys (insertAll entries added)).Nodup := by
  induction added generalizing entries with
  | nil =>
      exact h
  | cons entry rest ih =>
      exact ih (nodup_keys_insert h entry.1 entry.2)

theorem nodup_keys_ofList (added : List (String × α)) : (keys (ofList added)).Nodup := by
  have hempty : (keys ([] : Keyed α)).Nodup := List.nodup_nil
  exact nodup_keys_insertAll hempty added

theorem eraseDups_of_nodup {names : List String} (h : names.Nodup) : names.eraseDups = names := by
  induction names with
  | nil =>
      rfl
  | cons name rest ih =>
      rw [List.nodup_cons] at h
      rw [List.eraseDups_cons, List.filter_eq_self.mpr, ih h.2]
      intro other hother
      rw [Bool.not_eq_true', beq_eq_false_iff_ne]
      rintro rfl
      exact h.1 hother

theorem eraseDups_append_cons_of_mem {names : List String} {name : String} (h : name ∈ names)
    (others : List String) :
    (names ++ name :: others).eraseDups = (names ++ others).eraseDups := by
  have hremoved : (name :: others).removeAll names = others.removeAll names := by
    simp [List.removeAll, h]
  rw [List.eraseDups_append, List.eraseDups_append, hremoved]

theorem keys_insertAll {entries : Keyed α} (h : (keys entries).Nodup) (added : Keyed α) :
    keys (insertAll entries added) = (keys entries ++ keys added).eraseDups := by
  induction added generalizing entries with
  | nil =>
      have hnil : keys ([] : Keyed α) = [] := rfl
      rw [hnil, List.append_nil]
      exact (eraseDups_of_nodup h).symm
  | cons entry rest ih =>
      have hstep := ih (nodup_keys_insert h entry.1 entry.2)
      have hkeys : keys (entry :: rest) = entry.1 :: keys rest := rfl
      refine hstep.trans ?_
      rw [keys_insert, hkeys]
      split
      · rename_i hkey
        exact (eraseDups_append_cons_of_mem hkey _).symm
      · rw [List.append_assoc]
        rfl

theorem keys_ofList (added : List (String × α)) :
    keys (ofList added) = (keys added).eraseDups := by
  have hempty : (keys ([] : Keyed α)).Nodup := List.nodup_nil
  exact keys_insertAll hempty added

theorem keys_erase (entries : Keyed α) (key : String) :
    keys (erase entries key) = (keys entries).filter (· ≠ key) := by
  rw [keys, keys, List.filter_map]
  rfl

theorem nodup_keys_erase {entries : Keyed α} (h : (keys entries).Nodup) (key : String) :
    (keys (erase entries key)).Nodup :=
  h.sublist (List.filter_sublist.map Prod.fst)

theorem contains_insertAll {entries : Keyed α} {key : String}
    (h : contains entries key = true) (added : Keyed α) :
    contains (insertAll entries added) key = true := by
  induction added generalizing entries with
  | nil =>
      exact h
  | cons entry rest ih =>
      apply ih
      rw [contains_iff_mem_keys, mem_keys_insert]
      exact Or.inl (contains_iff_mem_keys.mp h)

/-!
# Entries
-/

theorem mem_of_mem_insert {entries : Keyed α} {key : String} {value : α}
    {entry : String × α} (h : entry ∈ insert entries key value) :
    entry = (key, value) ∨ entry ∈ entries := by
  induction entries with
  | nil =>
      exact Or.inl (List.mem_singleton.mp h)
  | cons first rest ih =>
      by_cases hk : first.1 = key
      · have hinsert : insert (first :: rest) key value = (first.1, value) :: rest := by
          simp [insert, hk]
        rw [hinsert, List.mem_cons, hk] at h
        rcases h with h | h
        · exact Or.inl h
        · exact Or.inr (List.mem_cons_of_mem _ h)
      · have hinsert : insert (first :: rest) key value = first :: insert rest key value := by
          simp [insert, hk]
        rw [hinsert, List.mem_cons] at h
        rcases h with rfl | h
        · exact Or.inr List.mem_cons_self
        · rcases ih h with h | h
          · exact Or.inl h
          · exact Or.inr (List.mem_cons_of_mem _ h)

theorem mem_of_mem_insertAll {entries added : Keyed α} {entry : String × α}
    (h : entry ∈ insertAll entries added) : entry ∈ added ∨ entry ∈ entries := by
  induction added generalizing entries with
  | nil =>
      exact Or.inr h
  | cons first rest ih =>
      rcases ih h with h | h
      · exact Or.inl (List.mem_cons_of_mem _ h)
      · rcases mem_of_mem_insert h with rfl | h
        · exact Or.inl List.mem_cons_self
        · exact Or.inr h

theorem insert_of_not_mem {entries : Keyed α} {key : String} (h : key ∉ keys entries)
    (value : α) : insert entries key value = entries ++ [(key, value)] := by
  induction entries with
  | nil =>
      rfl
  | cons entry rest ih =>
      rcases entry with ⟨k, a⟩
      simp only [keys, List.map_cons, List.mem_cons, not_or] at h
      have hk : ¬ k = key := fun e => h.1 e.symm
      simp [insert, hk, ih h.2]

theorem insertAll_of_disjoint {entries added : Keyed α} (hdistinct : (keys added).Nodup)
    (hnew : ∀ key ∈ keys added, key ∉ keys entries) :
    insertAll entries added = entries ++ added := by
  induction added generalizing entries with
  | nil =>
      simp [insertAll]
  | cons entry rest ih =>
      rcases entry with ⟨k, a⟩
      simp only [keys, List.map_cons, List.nodup_cons, List.forall_mem_cons] at hdistinct hnew
      have hstep : insertAll entries ((k, a) :: rest) =
          insertAll (entries ++ [(k, a)]) rest := by
        rw [← insert_of_not_mem hnew.1 a]
        rfl
      rw [hstep, ih hdistinct.2, List.append_assoc]
      · rfl
      · intro key hkey hmem
        simp only [keys, List.map_append, List.map_cons, List.map_nil, List.mem_append,
          List.mem_singleton] at hmem
        rcases hmem with hmem | rfl
        · exact hnew.2 key hkey hmem
        · exact hdistinct.1 hkey

theorem ofList_of_nodup {added : Keyed α} (h : (keys added).Nodup) : ofList added = added :=
  insertAll_of_disjoint h fun _ _ => List.not_mem_nil

/-!
# Reading
-/

theorem mem_of_get? {entries : Keyed α} {key : String} {value : α}
    (h : get? entries key = some value) : (key, value) ∈ entries := by
  induction entries with
  | nil =>
      cases h
  | cons entry rest ih =>
      rcases entry with ⟨k, a⟩
      by_cases hk : k = key
      · simp only [get?, hk, if_true, Option.some.injEq] at h
        exact List.mem_cons.mpr (Or.inl (by rw [hk, h]))
      · simp only [get?, hk, if_false] at h
        exact List.mem_cons_of_mem _ (ih h)

theorem get?_eq_none_iff {entries : Keyed α} {key : String} :
    get? entries key = none ↔ key ∉ keys entries := by
  rw [← contains_iff_mem_keys, contains, Bool.not_eq_true, Option.isSome_eq_false_iff,
    Option.isNone_iff_eq_none]

theorem get?_of_mem {entries : Keyed α} (hdistinct : (keys entries).Nodup) {key : String}
    {value : α} (h : (key, value) ∈ entries) : get? entries key = some value := by
  induction entries with
  | nil =>
      cases h
  | cons entry rest ih =>
      rcases entry with ⟨k, a⟩
      simp only [keys, List.map_cons, List.nodup_cons] at hdistinct
      rcases List.mem_cons.mp h with h | h
      · cases h
        simp [get?]
      · have hk : ¬ k = key := by
          rintro rfl
          exact hdistinct.1 (List.mem_map_of_mem h)
        simp only [get?, hk, if_false]
        exact ih hdistinct.2 h

theorem get?_filter {keep : String → Bool} {key : String} (h : keep key = true)
    (entries : Keyed α) :
    get? (entries.filter fun entry => keep entry.1) key = get? entries key := by
  induction entries with
  | nil =>
      rfl
  | cons entry rest ih =>
      rcases entry with ⟨k, a⟩
      by_cases hk : k = key
      · simp [get?, hk, h]
      · cases hkeep : keep k <;> simp [get?, hk, hkeep, ih]

theorem get?_filter_of_not {keep : String → Bool} {key : String} (h : keep key = false)
    (entries : Keyed α) : get? (entries.filter fun entry => keep entry.1) key = none := by
  rw [get?_eq_none_iff, keys, List.mem_map]
  rintro ⟨entry, hentry, rfl⟩
  have hkept := (List.mem_filter.mp hentry).2
  cases hkept.symm.trans h

theorem get?_insertAll {added : Keyed α} (hdistinct : (keys added).Nodup) (entries : Keyed α)
    (key : String) :
    get? (insertAll entries added) key = (get? added key).or (get? entries key) := by
  induction added generalizing entries with
  | nil =>
      rfl
  | cons entry rest ih =>
      rcases entry with ⟨k, a⟩
      simp only [keys, List.map_cons, List.nodup_cons] at hdistinct
      have hstep : insertAll entries ((k, a) :: rest) = insertAll (insert entries k a) rest :=
        rfl
      rw [hstep, ih hdistinct.2]
      by_cases hk : k = key
      · subst hk
        have hrest : get? rest k = none := get?_eq_none_iff.mpr hdistinct.1
        simp [get?, hrest, get?_insert_self]
      · simp [get?, hk, get?_insert_of_ne _ _ hk]

theorem keys_prefix_insertAll (entries added : Keyed α) :
    keys entries <+: keys (insertAll entries added) := by
  induction added generalizing entries with
  | nil =>
      exact List.prefix_rfl
  | cons entry rest ih =>
      refine List.IsPrefix.trans ?_ (ih (insert entries entry.1 entry.2))
      rw [keys_insert]
      split
      · exact List.prefix_rfl
      · exact List.prefix_append _ _

theorem erase_cons_of_not_mem {entries : Keyed α} {key : String} (h : key ∉ keys entries)
    (value : α) : erase ((key, value) :: entries) key = entries := by
  rw [erase, List.filter_cons_of_neg (by simp), List.filter_eq_self]
  intro entry hentry
  refine decide_eq_true ?_
  rintro rfl
  exact h (List.mem_map_of_mem hentry)

/-!
# Writing a list

A name keeps the place at which it first stood, and has the value that it was given last.
-/

theorem find?_keys_insertAll (entries added : Keyed α) (p : String → Bool) :
    (keys (insertAll entries added)).find? p = (keys entries ++ keys added).find? p := by
  induction added generalizing entries with
  | nil =>
      exact congrArg (List.find? p) (List.append_nil (keys entries)).symm
  | cons entry rest ih =>
      have hstep := ih (insert entries entry.1 entry.2)
      have hkeys : keys (entry :: rest) = entry.1 :: keys rest := rfl
      refine hstep.trans ?_
      rw [keys_insert, hkeys]
      split
      · rename_i hkey
        rw [List.find?_append, List.find?_append]
        cases hfound : (keys entries).find? p with
        | some _ =>
            rfl
        | none =>
            rw [List.find?_cons_of_neg]
            exact List.find?_eq_none.mp hfound _ hkey
      · rw [List.append_assoc]
        rfl

theorem get?_append (entries others : Keyed α) (key : String) :
    get? (entries ++ others) key = (get? entries key).or (get? others key) := by
  induction entries with
  | nil =>
      rfl
  | cons entry rest ih =>
      rcases entry with ⟨k, a⟩
      by_cases hk : k = key
      · simp [get?, hk]
      · simp [get?, hk, ih]

theorem get?_insertAll_reverse (entries added : Keyed α) (key : String) :
    get? (insertAll entries added) key = (get? added.reverse key).or (get? entries key) := by
  induction added generalizing entries with
  | nil =>
      rfl
  | cons entry rest ih =>
      rcases entry with ⟨k, a⟩
      have hstep := ih (insert entries k a)
      refine hstep.trans ?_
      rw [List.reverse_cons, get?_append, Option.or_assoc]
      by_cases hk : k = key
      · subst hk
        simp [get?, get?_insert_self]
      · simp [get?, hk, get?_insert_of_ne _ _ hk]

theorem find?_keys_ofList (added : List (String × α)) (p : String → Bool) :
    (keys (ofList added)).find? p = (keys added).find? p :=
  find?_keys_insertAll [] added p

theorem get?_ofList (added : List (String × α)) (key : String) :
    get? (ofList added) key = get? added.reverse key := by
  have hread := get?_insertAll_reverse [] added key
  rwa [get?, Option.or_none] at hread

theorem get?_map_of_mem {names : List String} {name : String} (h : name ∈ names)
    (value : String → α) : get? (names.map fun n => (n, value n)) name = some (value name) := by
  induction names with
  | nil =>
      cases h
  | cons first rest ih =>
      by_cases hfirst : first = name
      · simp [get?, hfirst]
      · have hrest : name ∈ rest := List.mem_of_ne_of_mem (fun e => hfirst e.symm) h
        simp [get?, hfirst, ih hrest]

theorem get?_ofList_map {names : List String} {name : String} (h : name ∈ names)
    (value : String → α) :
    get? (ofList (names.map fun n => (n, value n))) name = some (value name) := by
  rw [get?_ofList, ← List.map_reverse]
  exact get?_map_of_mem (List.mem_reverse.mpr h) value

/-!
# Changing values

Where an entry stands depends on its name only.
-/

theorem map_insert {β : Type} (f : α → β) (entries : Keyed α) (key : String) (value : α) :
    (insert entries key value).map (fun entry => (entry.1, f entry.2)) =
      insert (entries.map fun entry => (entry.1, f entry.2)) key (f value) := by
  induction entries with
  | nil =>
      rfl
  | cons entry rest ih =>
      by_cases hk : entry.1 = key
      · simp [insert, hk]
      · simp [insert, hk, ih]

theorem map_insertAll {β : Type} (f : α → β) (entries added : Keyed α) :
    (insertAll entries added).map (fun entry => (entry.1, f entry.2)) =
      insertAll (entries.map fun entry => (entry.1, f entry.2))
        (added.map fun entry => (entry.1, f entry.2)) := by
  induction added generalizing entries with
  | nil =>
      rfl
  | cons entry rest ih =>
      have hstep := ih (insert entries entry.1 entry.2)
      rw [map_insert] at hstep
      exact hstep

theorem map_ofList {β : Type} (f : α → β) (added : List (String × α)) :
    (ofList added).map (fun entry => (entry.1, f entry.2)) =
      ofList (added.map fun entry => (entry.1, f entry.2)) :=
  map_insertAll f [] added

end Keyed
end DocQuery
