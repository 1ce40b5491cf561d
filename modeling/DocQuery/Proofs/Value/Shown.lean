import DocQuery.Proofs.Schema.StoredForm
import DocQuery.Value.Display
import Mathlib.Data.List.Basic

/-!
# Identifiers are told apart by their text

Shown values are for readers, and in general two of them may look alike.  The
text of a reference does tell it: identifiers are of one length, and lists close
what they open.  The induction leaves free what comes after the text.
-/

namespace DocQuery
namespace Value

/-!
# Texts of references
-/

theorem shownItems_eq_map (items : List Value) : shownItems items = items.map shown := by
  induction items with
  | nil =>
      rfl
  | cons v rest ih =>
      rw [shownItems, ih, List.map_cons]

def itemChars (items : List Value) : List Char :=
  [',', ' '].intercalate (items.map fun v => v.shown.toList)

def restChars : List Value → List Char
  | [] => []
  | v :: rest => ',' :: ' ' :: itemChars (v :: rest)

theorem itemChars_cons (v : Value) (rest : List Value) :
    itemChars (v :: rest) = v.shown.toList ++ restChars rest := by
  cases rest <;> simp [itemChars, restChars]

theorem toList_shown_null : (Value.null).shown.toList = ['n', 'u', 'l', 'l'] :=
  rfl

theorem toList_shown_objectId (id : ObjectId) :
    (Value.objectId id).shown.toList =
      "ObjectId(\"".toList ++ (id.toHex.toList ++ "\")".toList) := by
  have hshown : (Value.objectId id).shown = "ObjectId(" ++ shownText id.toHex ++ ")" := rfl
  simp [hshown, shownText]

theorem toList_shown_array (items : List Value) :
    (Value.array items).shown.toList = '[' :: (itemChars items ++ [']']) := by
  have hshown : (Value.array items).shown = "[" ++ ", ".intercalate (shownItems items) ++ "]" :=
    rfl
  simp [hshown, shownItems_eq_map, itemChars, List.map_map, Function.comp_def]

theorem toList_shown_cons {v : Value} (h : v.IsReference) :
    ∃ c rest, v.shown.toList = c :: rest ∧ c ≠ ']' := by
  cases h with
  | objectId id =>
      exact ⟨'O', _, toList_shown_objectId id, by decide⟩
  | null =>
      exact ⟨'n', _, toList_shown_null, by decide⟩
  | array items _ =>
      exact ⟨'[', _, toList_shown_array items, by decide⟩

theorem length_toHex (id : ObjectId) : id.toHex.toList.length = 24 := by
  simp [ObjectId.toHex, Hex.encode_length, id.length_bytes]

theorem toHex_inj {id other : ObjectId} (h : id.toHex = other.toHex) : id = other := by
  have hread : ObjectId.ofHex? id.toHex = ObjectId.ofHex? other.toHex := by rw [h]
  rw [ObjectId.ofHex?_toHex, ObjectId.ofHex?_toHex] at hread
  exact Option.some.inj hread

/-!
# Reading a text back
-/

theorem shown_objectId_append_inj {id other : ObjectId} {s t : List Char}
    (h : (Value.objectId id).shown.toList ++ s = (Value.objectId other).shown.toList ++ t) :
    id = other ∧ s = t := by
  simp only [toList_shown_objectId, List.append_assoc] at h
  have hhex := List.append_cancel_left h
  have hlength : id.toHex.toList.length = other.toHex.toList.length := by
    rw [length_toHex, length_toHex]
  rcases List.append_inj hhex hlength with ⟨hid, hrest⟩
  exact ⟨toHex_inj (String.toList_inj.mp hid), List.append_cancel_left hrest⟩

/-- A value is told by its text, whatever characters follow it. -/
def Told (v : Value) : Prop :=
  ∀ w : Value, w.IsReference → ∀ s t : List Char,
    v.shown.toList ++ s = w.shown.toList ++ t → v = w ∧ s = t

theorem itemChars_append_inj {items others : List Value} {s t : List Char}
    (htold : ∀ v ∈ items, v.Told) (hitems : ∀ v ∈ items, v.IsReference)
    (hothers : ∀ w ∈ others, w.IsReference)
    (h : itemChars items ++ ']' :: s = itemChars others ++ ']' :: t) :
    items = others ∧ s = t := by
  induction items generalizing others with
  | nil =>
      cases others with
      | nil =>
          simpa [itemChars] using h
      | cons w rest =>
          rcases toList_shown_cons (hothers w List.mem_cons_self) with ⟨c, chars, hc, hclose⟩
          rw [itemChars_cons, hc] at h
          exact absurd (List.head_eq_of_cons_eq h).symm hclose
  | cons v items ih =>
      cases others with
      | nil =>
          rcases toList_shown_cons (hitems v List.mem_cons_self) with ⟨c, chars, hc, hclose⟩
          rw [itemChars_cons, hc] at h
          exact absurd (List.head_eq_of_cons_eq h) hclose
      | cons w others =>
          simp only [List.forall_mem_cons] at htold hitems hothers
          rw [itemChars_cons, itemChars_cons, List.append_assoc, List.append_assoc] at h
          rcases htold.1 w hothers.1 _ _ h with ⟨rfl, hrest⟩
          cases items with
          | nil =>
              cases others with
              | nil =>
                  exact ⟨rfl, List.tail_eq_of_cons_eq hrest⟩
              | cons w' others =>
                  simp [restChars] at hrest
          | cons v' items =>
              cases others with
              | nil =>
                  simp [restChars] at hrest
              | cons w' others =>
                  simp only [restChars, List.cons_append, List.cons.injEq, true_and] at hrest
                  rcases ih htold.2 hitems.2 hothers.2 hrest with ⟨hsame, hst⟩
                  exact ⟨by rw [hsame], hst⟩

theorem told_of_isReference {v : Value} (h : v.IsReference) : v.Told := by
  -- Values of different kinds differ in their first characters.
  induction h with
  | objectId id =>
      intro w hw s t heq
      cases hw with
      | objectId other =>
          rcases shown_objectId_append_inj heq with ⟨rfl, hst⟩
          exact ⟨rfl, hst⟩
      | null =>
          simp [toList_shown_objectId, toList_shown_null] at heq
      | array others _ =>
          simp [toList_shown_objectId, toList_shown_array] at heq
  | null =>
      intro w hw s t heq
      cases hw with
      | objectId other =>
          simp [toList_shown_objectId, toList_shown_null] at heq
      | null =>
          exact ⟨rfl, List.append_cancel_left heq⟩
      | array others _ =>
          simp [toList_shown_null, toList_shown_array] at heq
  | array items hitems ih =>
      intro w hw s t heq
      cases hw with
      | objectId other =>
          simp [toList_shown_objectId, toList_shown_array] at heq
      | null =>
          simp [toList_shown_null, toList_shown_array] at heq
      | array others hothers =>
          simp only [toList_shown_array, List.cons_append, List.append_assoc, List.nil_append,
            List.cons.injEq, true_and] at heq
          rcases itemChars_append_inj ih hitems hothers heq with ⟨rfl, hst⟩
          exact ⟨rfl, hst⟩

theorem shown_inj {v w : Value} (hv : v.IsReference) (hw : w.IsReference)
    (h : v.shown = w.shown) : v = w :=
  (told_of_isReference hv w hw [] [] (by rw [h])).1

end Value
end DocQuery
