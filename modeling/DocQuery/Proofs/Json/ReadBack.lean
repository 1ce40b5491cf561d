import DocQuery.Json.Basic
import DocQuery.Proofs.Calendar.Digits
import DocQuery.Proofs.Json.Text
import Mathlib.Data.List.Basic

/-!
# Reading printed values

Values that are made of texts, whole numbers, words, lists and records are read back
from what is printed of them.
-/

namespace DocQuery

/-!
# Numerals
-/

namespace Numeral

theorem wholeOf_concat (digits : List Char) (c : Char) :
    wholeOf (digits ++ [c]) = 10 * wholeOf digits + digitOf c := by
  simp [wholeOf]

theorem digitOf_digitChar {d : Nat} (h : d < 10) : digitOf (Nat.digitChar d) = d := by
  rw [digitOf, Calendar.digitValue?_digitChar h, Option.getD_some]

theorem wholeOf_toDigits (n : Nat) : wholeOf (Nat.toDigits 10 n) = n := by
  induction n using Nat.strongRecOn with
  | ind n ih =>
      by_cases hsmall : n < 10
      · rw [Nat.toDigits_of_lt_base hsmall, ← List.nil_append [Nat.digitChar n], wholeOf_concat,
          digitOf_digitChar hsmall]
        exact Nat.zero_add n
      · rw [Nat.toDigits_of_base_le (by decide) (Nat.le_of_not_lt hsmall), wholeOf_concat,
          ih (n / 10) (by omega), digitOf_digitChar (Nat.mod_lt n (by decide))]
        omega

theorem chars_ofNat (n : Nat) : (ofNat n).chars = Nat.toDigits 10 n := by
  simp [chars, ofNat]

theorem value?_ofNat {n : Nat} (h : n ≤ Number.maxWord) : (ofNat n).value? = some (.whole n) := by
  simp [value?, ofNat, wholeOf_toDigits, h]

theorem isDigit_of_mem_toDigits {n : Nat} {c : Char} (h : c ∈ Nat.toDigits 10 n) :
    isDigit c = true :=
  Nat.isDigit_of_mem_toDigits (by decide) (by decide) h

theorem exists_toDigits (n : Nat) :
    ∃ d tail, Nat.toDigits 10 n = d :: tail ∧ isDigit d = true := by
  rcases List.exists_cons_of_ne_nil (Nat.toDigits_ne_nil (n := n) (b := 10)) with ⟨d, tail, h⟩
  exact ⟨d, tail, h, isDigit_of_mem_toDigits (h ▸ List.mem_cons_self)⟩

theorem head?_toDigits {n : Nat} (h : n ≠ 0) : (Nat.toDigits 10 n).head? ≠ some '0' := by
  induction n using Nat.strongRecOn with
  | ind n ih =>
      by_cases hsmall : n < 10
      · rw [Nat.toDigits_of_lt_base hsmall]
        have hall : ∀ d : Fin 10, d.val ≠ 0 → [Nat.digitChar d.val].head? ≠ some '0' := by
          decide
        exact hall ⟨n, hsmall⟩ h
      · rw [Nat.toDigits_of_base_le (by decide) (Nat.le_of_not_lt hsmall),
          List.head?_append_of_ne_nil _ Nat.toDigits_ne_nil]
        exact ih (n / 10) (by omega) (by omega)

theorem not_malformed_toDigits (n : Nat) :
    ¬ ((Nat.toDigits 10 n).isEmpty ∨
      (Nat.toDigits 10 n).head? = some '0' ∧ (Nat.toDigits 10 n).length ≠ 1) := by
  rintro (hempty | ⟨hhead, hlength⟩)
  · exact Nat.toDigits_ne_nil (List.isEmpty_iff.mp hempty)
  · by_cases hn : n = 0
    · subst hn
      exact hlength rfl
    · exact head?_toDigits hn hhead

end Numeral

namespace Json

/-- What may come behind a value: nothing, or a sign that ends an item. -/
def Follows (rest : List Char) : Prop :=
  ∀ c ∈ rest.head?, c ∈ [',', ']', '\x7d']

theorem follows_cons {c : Char} (h : c ∈ [',', ']', '\x7d']) (rest : List Char) :
    Follows (c :: rest) := by
  rintro _ ⟨⟩
  exact h

theorem Follows.stops {rest : List Char} (h : Follows rest) :
    rest.takeWhile Numeral.isDigit = [] ∧ rest.dropWhile Numeral.isDigit = rest ∧
      Numeral.readFraction? rest = some (none, rest) ∧
      Numeral.readExponent? rest = some (none, rest) := by
  cases rest with
  | nil =>
      exact ⟨rfl, rfl, rfl, rfl⟩
  | cons c tail =>
      have hc : c ∈ [',', ']', '\x7d'] := h c rfl
      simp only [List.mem_cons, List.not_mem_nil, or_false] at hc
      rcases hc with rfl | rfl | rfl <;> exact ⟨rfl, rfl, rfl, rfl⟩

theorem Follows.readUnsigned?_toDigits {rest : List Char} (h : Follows rest) (n : Nat) :
    Numeral.readUnsigned? false (Nat.toDigits 10 n ++ rest) = some (Numeral.ofNat n, rest) := by
  rcases h.stops with ⟨htake, hdrop, hfraction, hexponent⟩
  have hdigits : ∀ c ∈ Nat.toDigits 10 n, Numeral.isDigit c = true :=
    fun _ hc => Numeral.isDigit_of_mem_toDigits hc
  have htaken : (Nat.toDigits 10 n ++ rest).takeWhile Numeral.isDigit = Nat.toDigits 10 n := by
    rw [List.takeWhile_append_of_pos hdigits, htake, List.append_nil]
  have hdropped : (Nat.toDigits 10 n ++ rest).dropWhile Numeral.isDigit = rest := by
    rw [List.dropWhile_append_of_pos hdigits, hdrop]
  simp only [Numeral.readUnsigned?, htaken, hdropped, Numeral.not_malformed_toDigits n, if_false,
    hfraction, hexponent, Option.bind_eq_bind, Option.bind_some]
  rfl

theorem Follows.readNumeral? {rest : List Char} (h : Follows rest) (n : Nat) :
    Numeral.read? (Nat.toDigits 10 n ++ rest) = some (Numeral.ofNat n, rest) := by
  have hread := h.readUnsigned?_toDigits n
  rcases Numeral.exists_toDigits n with ⟨d, tail, hdigits, hd⟩
  have hminus : d ≠ '-' := by
    rintro rfl
    cases hd
  rw [hdigits] at hread ⊢
  rw [List.cons_append, Numeral.read?]
  · exact hread
  · rintro rest' ⟨⟩
    exact hminus rfl

/-!
# Values
-/

inductive IsWritten : Json → Prop where
  | null : IsWritten .null
  | boolean (b : Bool) : IsWritten (.boolean b)
  | whole (n : Nat) : IsWritten (.whole n)
  | text (s : String) : IsWritten (.text s)
  | array {items : List Json} (h : ∀ item ∈ items, IsWritten item) : IsWritten (.array items)
  | record {members : List (String × Json)} (h : ∀ m ∈ members, IsWritten m.2) :
      IsWritten (.record members)

/-- A value is read from what is printed of it, with fuel for each character. -/
def ReadsBack (j : Json) : Prop :=
  ∀ ⦃fuel : Nat⦄ ⦃rest : List Char⦄, (chars j).length ≤ fuel → Follows rest →
    readValue? (fuel + 1) (chars j ++ rest) = some (j, rest)

theorem skipBlank_cons {c : Char} (h : isBlank c = false) (rest : List Char) :
    skipBlank (c :: rest) = c :: rest := by
  simp [skipBlank, h]

theorem isBlank_of_isDigit {d : Char} (h : Numeral.isDigit d = true) : isBlank d = false := by
  simp only [isBlank, Bool.or_eq_false_iff, decide_eq_false_iff_not]
  refine ⟨⟨⟨?_, ?_⟩, ?_⟩, ?_⟩ <;> rintro rfl <;> cases h

theorem readValue?_of_isDigit {d : Char} (h : Numeral.isDigit d = true) (fuel : Nat)
    (rest : List Char) :
    readValue? (fuel + 1) (d :: rest) =
      (Numeral.read? (d :: rest)).map fun (n, rest) => (.number n, rest) := by
  rw [readValue?, skipBlank_cons (isBlank_of_isDigit h)]
  split
  -- A digit starts none of the values that have a first sign of their own.
  iterate 6
    · rename_i heq
      cases heq
      cases h
  · rfl

theorem readsBack_whole (n : Nat) : ReadsBack (.whole n) := by
  intro fuel rest _ hrest
  have hread := hrest.readNumeral? n
  rcases Numeral.exists_toDigits n with ⟨d, tail, hdigits, hd⟩
  have hchars : chars (.whole n) = d :: tail := by
    rw [whole, chars, Numeral.chars_ofNat, hdigits]
  rw [hdigits] at hread
  rw [hchars, List.cons_append, readValue?_of_isDigit hd, ← List.cons_append, hread]
  rfl

theorem readsBack_text (s : String) : ReadsBack (.text s) := by
  intro fuel rest _ _
  have hread := readWritten?_escaped s rest
  have hchars : chars (.text s) ++ rest = '"' :: (escaped s ++ '"' :: rest) := by
    simp [text, chars, stringChars]
  rw [hchars, readValue?, skipBlank_cons rfl]
  simp only [hread, Option.map_some]
  rfl

/-!
# Lists and records
-/

theorem exists_fuel {n fuel : Nat} (h : n + 1 ≤ fuel) : ∃ k, fuel = k + 1 ∧ n ≤ k := by
  cases fuel with
  | zero =>
      cases h
  | succ k =>
      exact ⟨k, rfl, Nat.le_of_succ_le_succ h⟩

theorem readName?_stringChars (name : String) (rest : List Char) :
    readName? (stringChars (escaped name) ++ ':' :: rest) = some (escaped name, rest) := by
  have hread := readWritten?_escaped name (':' :: rest)
  have hchars : stringChars (escaped name) ++ ':' :: rest =
      '"' :: (escaped name ++ '"' :: ':' :: rest) := by
    simp [stringChars]
  rw [hchars, readName?, skipBlank_cons rfl]
  simp only [hread]
  rw [skipBlank_cons rfl]
  rfl

theorem follows_itemChars (items : List Json) (rest : List Char) :
    Follows (itemChars items ++ rest) := by
  cases items with
  | nil =>
      exact follows_cons (by decide) _
  | cons item items =>
      exact follows_cons (by decide) _

theorem follows_memberChars (members : List (List Char × Json)) (rest : List Char) :
    Follows (memberChars members ++ rest) := by
  cases members with
  | nil =>
      exact follows_cons (by decide) _
  | cons m members =>
      rcases m with ⟨name, value⟩
      exact follows_cons (by decide) _

theorem readItems?_chars {item : Json} {items : List Json} (hitem : ReadsBack item)
    (hitems : ∀ other ∈ items, ReadsBack other) {fuel : Nat}
    (hfuel : (chars item).length + (itemChars items).length ≤ fuel) (rest : List Char) :
    readItems? (fuel + 1) (chars item ++ (itemChars items ++ rest)) =
      some (item :: items, rest) := by
  induction items generalizing item fuel with
  | nil =>
      rcases exists_fuel hfuel with ⟨k, rfl, hk⟩
      have hread := hitem hk (follows_itemChars [] rest)
      rw [readItems?, hread]
      rfl
  | cons next items ih =>
      rcases List.forall_mem_cons.mp hitems with ⟨hnext, hitems⟩
      simp only [itemChars, List.length_cons, List.length_append] at hfuel
      rcases exists_fuel hfuel with ⟨k, rfl, hk⟩
      have hread := hitem (show _ ≤ k by omega) (follows_itemChars (next :: items) rest)
      have hrest := ih hnext hitems (show _ ≤ k by omega)
      rw [readItems?, hread, itemChars, List.cons_append, List.append_assoc]
      simp only [skipBlank_cons (c := ',') rfl, hrest]
      rfl

def named (members : List (String × Json)) : List (List Char × Json) :=
  members.map fun m => (escaped m.1, m.2)

theorem readMembers?_chars (name : String) {value : Json} {members : List (String × Json)}
    (hvalue : ReadsBack value) (hmembers : ∀ m ∈ members, ReadsBack m.2) {fuel : Nat}
    (hfuel : (chars value).length + (memberChars (named members)).length ≤ fuel)
    (rest : List Char) :
    readMembers? (fuel + 1) (stringChars (escaped name) ++
        ':' :: (chars value ++ (memberChars (named members) ++ rest))) =
      some ((escaped name, value) :: named members, rest) := by
  induction members generalizing name value fuel with
  | nil =>
      rcases exists_fuel hfuel with ⟨k, rfl, hk⟩
      have hread := hvalue hk (follows_memberChars [] rest)
      rw [readMembers?, readName?_stringChars]
      simp only [named, List.map_nil, hread]
      rfl
  | cons m members ih =>
      rcases List.forall_mem_cons.mp hmembers with ⟨hm, hmembers⟩
      have hnamed : memberChars (named (m :: members)) = ',' :: (stringChars (escaped m.1) ++
          ':' :: (chars m.2 ++ memberChars (named members))) := rfl
      rw [hnamed] at hfuel ⊢
      simp only [List.length_cons, List.length_append] at hfuel
      rcases exists_fuel hfuel with ⟨k, rfl, hk⟩
      have hread := hvalue (show _ ≤ k by omega) (follows_memberChars (named (m :: members)) rest)
      have hrest := ih m.1 hm hmembers (show _ ≤ k by omega)
      rw [hnamed] at hread
      rw [readMembers?, readName?_stringChars]
      simp only [hread]
      rw [List.cons_append, skipBlank_cons rfl, List.append_assoc, List.cons_append,
        List.append_assoc]
      simp only [hrest]
      rfl

theorem IsWritten.exists_chars {j : Json} (h : IsWritten j) :
    ∃ c tail, chars j = c :: tail ∧ isBlank c = false ∧ c ≠ ']' := by
  cases h with
  | null =>
      exact ⟨'n', _, rfl, rfl, by decide⟩
  | boolean b =>
      cases b with
      | false =>
          exact ⟨'f', _, rfl, rfl, by decide⟩
      | true =>
          exact ⟨'t', _, rfl, rfl, by decide⟩
  | whole n =>
      rcases Numeral.exists_toDigits n with ⟨d, tail, hdigits, hd⟩
      refine ⟨d, tail, ?_, isBlank_of_isDigit hd, ?_⟩
      · rw [Json.whole, chars, Numeral.chars_ofNat, hdigits]
      · rintro rfl
        cases hd
  | text s =>
      exact ⟨'"', _, rfl, rfl, by decide⟩
  | array h =>
      rename_i items
      cases items with
      | nil =>
          exact ⟨'[', _, rfl, rfl, by decide⟩
      | cons item items =>
          exact ⟨'[', _, rfl, rfl, by decide⟩
  | record h =>
      rename_i members
      cases members with
      | nil =>
          exact ⟨'\x7b', _, rfl, rfl, by decide⟩
      | cons m members =>
          exact ⟨'\x7b', _, rfl, rfl, by decide⟩

theorem readsBack_array {items : List Json} (hwritten : ∀ item ∈ items, IsWritten item)
    (h : ∀ item ∈ items, ReadsBack item) : ReadsBack (.array items) := by
  intro fuel rest hfuel _
  cases items with
  | nil =>
      rfl
  | cons item items =>
      rcases List.forall_mem_cons.mp h with ⟨hitem, hitems⟩
      have hchars : chars (.array (item :: items)) = '[' :: (chars item ++ itemChars items) := rfl
      rw [hchars] at hfuel ⊢
      simp only [List.length_cons, List.length_append] at hfuel
      rcases exists_fuel hfuel with ⟨k, rfl, hk⟩
      have hread := readItems?_chars hitem hitems (show _ ≤ k by omega) rest
      rcases (hwritten item List.mem_cons_self).exists_chars with ⟨c, tail, hc, hblank, hend⟩
      rw [hc, List.cons_append] at hread
      rw [List.cons_append, List.append_assoc, readValue?, skipBlank_cons rfl, hc,
        List.cons_append]
      simp only [skipBlank_cons hblank]
      split
      · rename_i heq
        exact absurd (List.cons.inj heq).1 hend
      · rw [hread]
        rfl

theorem readsBack_record {members : List (String × Json)} (h : ∀ m ∈ members, ReadsBack m.2) :
    ReadsBack (.record members) := by
  intro fuel rest hfuel _
  cases members with
  | nil =>
      rfl
  | cons m members =>
      rcases List.forall_mem_cons.mp h with ⟨hm, hmembers⟩
      have hchars : chars (.record (m :: members)) = '\x7b' :: (stringChars (escaped m.1) ++
          ':' :: (chars m.2 ++ memberChars (named members))) := rfl
      rw [hchars] at hfuel ⊢
      simp only [List.length_cons, List.length_append] at hfuel
      rcases exists_fuel hfuel with ⟨k, rfl, hk⟩
      have hread := readMembers?_chars m.1 hm hmembers (show _ ≤ k by omega) rest
      have hstart (tail : List Char) :
          skipBlank (stringChars (escaped m.1) ++ tail) = stringChars (escaped m.1) ++ tail :=
        skipBlank_cons rfl _
      rw [List.cons_append, List.append_assoc, List.cons_append, List.append_assoc, readValue?,
        skipBlank_cons rfl]
      simp only [hstart]
      exact congrArg (Option.map fun read => (Json.object read.1, read.2)) hread

/-- Whatever the library prints is read back. -/
theorem IsWritten.readsBack {j : Json} (h : IsWritten j) : ReadsBack j := by
  induction h with
  | null =>
      intro fuel rest _ _
      rfl
  | boolean b =>
      intro fuel rest _ _
      cases b <;> rfl
  | whole n =>
      exact readsBack_whole n
  | text s =>
      exact readsBack_text s
  | array h ih =>
      exact readsBack_array h ih
  | record h ih =>
      exact readsBack_record ih

theorem read?_print {j : Json} (h : IsWritten j) : read? j.print = some j := by
  have hfuel : (chars j).length ≤ 2 * (chars j).length + 1 := by omega
  have hread : readValue? (2 * (chars j).length + 2) (chars j ++ []) = some (j, []) :=
    h.readsBack hfuel nofun
  rw [List.append_nil] at hread
  simp only [read?, print, String.toList_ofList, hread]
  rfl

end Json
end DocQuery
