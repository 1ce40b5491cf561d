/-!
# Keyed lists

Entries under text names, in the order in which the names first came.  Writing
to a name that is already there keeps its place.
-/

namespace DocQuery

abbrev Keyed (α : Type) := List (String × α)

namespace Keyed

def keys (entries : Keyed α) : List String :=
  entries.map Prod.fst

def get? : Keyed α → String → Option α
  | [], _ => none
  | (k, a) :: rest, key => if k = key then some a else get? rest key

def contains (entries : Keyed α) (key : String) : Bool :=
  (get? entries key).isSome

/-- Replaces the value in place, or adds an entry at the end. -/
def insert : Keyed α → String → α → Keyed α
  | [], key, value => [(key, value)]
  | (k, a) :: rest, key, value =>
      if k = key then (k, value) :: rest else (k, a) :: insert rest key value

def erase (entries : Keyed α) (key : String) : Keyed α :=
  entries.filter fun entry => entry.1 ≠ key

def insertAll (entries added : Keyed α) : Keyed α :=
  added.foldl (fun acc entry => insert acc entry.1 entry.2) entries

def ofList (added : List (String × α)) : Keyed α :=
  insertAll [] added

/-!
# Reading what was written
-/

theorem get?_insert_self (entries : Keyed α) (key : String) (value : α) :
    get? (insert entries key value) key = some value := by
  induction entries with
  | nil =>
      simp [insert, get?]
  | cons entry rest ih =>
      by_cases h : entry.1 = key
      · simp [insert, get?, h]
      · simp [insert, get?, h, ih]

theorem get?_insert_of_ne (entries : Keyed α) {key other : String} (value : α)
    (h : key ≠ other) : get? (insert entries key value) other = get? entries other := by
  induction entries with
  | nil =>
      simp [insert, get?, h]
  | cons entry rest ih =>
      by_cases hk : entry.1 = key
      · have ho : entry.1 ≠ other := hk ▸ h
        have hrest : insert (entry :: rest) key value = (entry.1, value) :: rest := by
          simp [insert, hk]
        simp [hrest, get?, ho]
      · simp [insert, get?, hk, ih]

theorem get?_erase_self (entries : Keyed α) (key : String) :
    get? (erase entries key) key = none := by
  induction entries with
  | nil =>
      rfl
  | cons entry rest ih =>
      by_cases h : entry.1 = key
      · simpa [erase, h] using ih
      · simpa [erase, get?, h] using ih

theorem get?_erase_of_ne (entries : Keyed α) {key other : String} (h : key ≠ other) :
    get? (erase entries key) other = get? entries other := by
  induction entries with
  | nil =>
      rfl
  | cons entry rest ih =>
      by_cases hk : entry.1 = key
      · have ho : entry.1 ≠ other := hk ▸ h
        have hfirst : get? (entry :: rest) other = get? rest other := by
          simp [get?, ho]
        rw [hfirst, ← ih]
        simp [erase, hk]
      · have hskip : erase (entry :: rest) key = entry :: erase rest key := by
          simp [erase, hk]
        rw [hskip]
        simp [get?, ih]

theorem keys_insert (entries : Keyed α) (key : String) (value : α) :
    keys (insert entries key value) =
      if key ∈ keys entries then keys entries else keys entries ++ [key] := by
  induction entries with
  | nil =>
      simp [insert, keys]
  | cons entry rest ih =>
      by_cases h : entry.1 = key
      · simp [insert, keys, h]
      · have hk : ¬ key = entry.1 := fun e => h e.symm
        have ihk : (insert rest key value).map Prod.fst =
            if key ∈ rest.map Prod.fst then rest.map Prod.fst
            else rest.map Prod.fst ++ [key] := ih
        simp only [insert, h, if_false, keys, List.map_cons, ihk, List.mem_cons, hk, false_or]
        split <;> simp

end Keyed
end DocQuery
