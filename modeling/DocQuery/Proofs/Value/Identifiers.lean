import DocQuery.Proofs.Outcome
import DocQuery.Value.Identifier

/-!
# Written identifiers are read back

Identifiers of both kinds are hexadecimal text in lower case.  A text of the
right length is read as the bytes that are written like it.
-/

namespace DocQuery

open Outcome

/-!
# Lower-case digits
-/

namespace Hex

def lowerDigits : List Char :=
  "0123456789abcdef".toList

def IsLower (length : Nat) (chars : List Char) : Prop :=
  chars.length = length ∧ ∀ c ∈ chars, c ∈ lowerDigits

instance (length : Nat) (chars : List Char) : Decidable (IsLower length chars) :=
  @instDecidableAnd _ _ _ (List.decidableBAll (· ∈ lowerDigits) chars)

theorem value?_of_mem_lowerDigits {c : Char} (h : c ∈ lowerDigits) :
    ∃ n, n < 16 ∧ value? c = some n ∧ digit n = c := by
  have hall : lowerDigits.all
      (fun c => (value? c).any fun n => n < 16 && digit n == c) = true := by
    decide
  rcases (Option.any_eq_true _ _).mp (List.all_eq_true.mp hall c h) with ⟨n, hvalue, hn⟩
  rw [Bool.and_eq_true, decide_eq_true_eq, beq_iff_eq] at hn
  exact ⟨n, hn.1, hvalue, hn.2⟩

theorem decode?_lowerDigits {count : Nat} {chars : List Char} (h : IsLower (2 * count) chars) :
    ∃ bytes, decode? chars = some bytes ∧ encode bytes = chars := by
  induction count generalizing chars with
  | zero =>
      have hnil : chars = [] := List.length_eq_zero_iff.mp h.1
      subst hnil
      exact ⟨[], rfl, rfl⟩
  | succ count ih =>
      rcases h with ⟨hlength, hlower⟩
      match chars, hlength, hlower with
      | high :: low :: rest, hlength, hlower =>
          simp only [List.length_cons] at hlength
          simp only [List.forall_mem_cons] at hlower
          rcases hlower with ⟨hhigh, hlow, hrest⟩
          rcases value?_of_mem_lowerDigits hhigh with ⟨m, hm, hmvalue, hmdigit⟩
          rcases value?_of_mem_lowerDigits hlow with ⟨n, hn, hnvalue, hndigit⟩
          rcases ih ⟨by omega, hrest⟩ with ⟨bytes, hdecode, hencode⟩
          have hbyte : (UInt8.ofNat (16 * m + n)).toNat = 16 * m + n := by
            rw [UInt8.toNat_ofNat']
            omega
          have hquotient : (16 * m + n) / 16 = m := by omega
          have hremainder : (16 * m + n) % 16 = n := by omega
          refine ⟨UInt8.ofNat (16 * m + n) :: bytes, ?_, ?_⟩
          · simp only [decode?, hmvalue, hnvalue, hdecode]
          · simp only [encode, hbyte, hquotient, hremainder, hmdigit, hndigit, hencode]

theorem exists_decode? {count : Nat} {chars : List Char} (hlength : chars.length = 2 * count)
    (hdigits : ∀ c ∈ chars, (value? c).isSome = true) :
    ∃ bytes, decode? chars = some bytes ∧ bytes.length = count := by
  induction count generalizing chars with
  | zero =>
      rw [List.length_eq_zero_iff.mp hlength]
      exact ⟨[], rfl, rfl⟩
  | succ count ih =>
      match chars, hlength, hdigits with
      | high :: low :: rest, hlength, hdigits =>
          simp only [List.length_cons] at hlength
          simp only [List.forall_mem_cons] at hdigits
          rcases hdigits with ⟨hhigh, hlow, hrest⟩
          rcases Option.isSome_iff_exists.mp hhigh with ⟨m, hm⟩
          rcases Option.isSome_iff_exists.mp hlow with ⟨n, hn⟩
          rcases ih (by omega) hrest with ⟨bytes, hbytes, hcount⟩
          refine ⟨UInt8.ofNat (16 * m + n) :: bytes, ?_, ?_⟩
          · simp only [decode?, hm, hn, hbytes]
          · rw [List.length_cons, hcount]

theorem isSome_value?_of_decode? {chars : List Char} {bytes : List UInt8}
    (h : decode? chars = some bytes) : ∀ c ∈ chars, (value? c).isSome = true := by
  fun_induction decode? chars generalizing bytes with
  | case1 =>
      exact fun _ hmem => absurd hmem List.not_mem_nil
  | case2 =>
      cases h
  | case3 high low rest m n tail hrest hlow hhigh ih =>
      simp only [List.forall_mem_cons]
      exact ⟨Option.isSome_of_eq_some hhigh, Option.isSome_of_eq_some hlow, ih hrest⟩
  | case4 =>
      cases h

/-!
# Parts of a text
-/

theorem encode_drop (start : Nat) (bytes : List UInt8) :
    encode (bytes.drop start) = (encode bytes).drop (2 * start) := by
  induction start generalizing bytes with
  | zero =>
      rfl
  | succ start ih =>
      cases bytes with
      | nil =>
          rfl
      | cons b rest =>
          have hdouble : 2 * (start + 1) = 2 * start + 1 + 1 := by omega
          rw [List.drop_succ_cons, ih, encode, hdouble, List.drop_succ_cons, List.drop_succ_cons]

theorem encode_take (count : Nat) (bytes : List UInt8) :
    encode (bytes.take count) = (encode bytes).take (2 * count) := by
  induction count generalizing bytes with
  | zero =>
      rfl
  | succ count ih =>
      cases bytes with
      | nil =>
          rfl
      | cons b rest =>
          have hdouble : 2 * (count + 1) = 2 * count + 1 + 1 := by omega
          rw [List.take_succ_cons, encode, ih, encode, hdouble, List.take_succ_cons,
            List.take_succ_cons]

theorem encode_append (bytes others : List UInt8) :
    encode (bytes ++ others) = encode bytes ++ encode others := by
  induction bytes with
  | nil =>
      rfl
  | cons b rest ih =>
      rw [List.cons_append, encode, encode, ih, List.cons_append, List.cons_append]

end Hex

/-!
# Object identifiers
-/

/-- The text of an object identifier: twenty-four digits in lower case. -/
def ObjectId.IsText (text : String) : Prop :=
  Hex.IsLower 24 text.toList

instance (text : String) : Decidable (ObjectId.IsText text) :=
  inferInstanceAs (Decidable (Hex.IsLower 24 text.toList))

theorem ObjectId.ofHex?_of_isText {text : String} (h : IsText text) :
    ∃ id, ofHex? text = some id ∧ id.toHex = text := by
  have hlower : Hex.IsLower (2 * 12) text.toList := h
  rcases Hex.decode?_lowerDigits hlower with ⟨bytes, hdecode, hencode⟩
  have hlength : bytes.length = 12 := by
    have hdigits := Hex.decode?_length hdecode
    rw [h.1] at hdigits
    omega
  refine ⟨⟨bytes, hlength⟩, ?_, ?_⟩
  · simp [ofHex?, hdecode, hlength]
  · simp [toHex, hencode]

def ObjectId.IsHex (text : String) : Prop :=
  text.toList.length = 24 ∧ ∀ c ∈ text.toList, (Hex.value? c).isSome = true

instance (text : String) : Decidable (ObjectId.IsHex text) :=
  @instDecidableAnd _ _ _ (List.decidableBAll (fun c => (Hex.value? c).isSome = true) text.toList)

theorem ObjectId.exists_ofHex? {text : String} (h : IsHex text) : ∃ id, ofHex? text = some id := by
  rcases Hex.exists_decode? (show text.toList.length = 2 * 12 from h.1) h.2 with
    ⟨bytes, hdecode, hlength⟩
  exact ⟨⟨bytes, hlength⟩, by simp [ofHex?, hdecode, hlength]⟩

theorem ObjectId.isHex_of_ofHex? {text : String} {id : ObjectId} (h : ofHex? text = some id) :
    IsHex text := by
  unfold ofHex? at h
  split at h
  · rename_i bytes hdecode
    split at h
    · rename_i hlength
      have hdigits := Hex.decode?_length hdecode
      rw [hlength] at hdigits
      exact ⟨hdigits, Hex.isSome_value?_of_decode? hdecode⟩
    · cases h
  · cases h

/-!
# Universally unique identifiers
-/

namespace Uuid

/-- The text of a UUID: five groups of digits in lower case, with hyphens between them. -/
def IsText (text : String) : Prop :=
  ∃ a b c d e : List Char, Hex.IsLower 8 a ∧ Hex.IsLower 4 b ∧ Hex.IsLower 4 c ∧
    Hex.IsLower 4 d ∧ Hex.IsLower 12 e ∧
    text = String.ofList (a ++ '-' :: b ++ '-' :: c ++ '-' :: d ++ '-' :: e)

section Groups

variable {a b c d e : List Char} (ha : a.length = 8) (hb : b.length = 4) (hc : c.length = 4)
  (hd : d.length = 4) (he : e.length = 12)

include ha hb hc hd he

theorem unhyphenated?_groups :
    unhyphenated? (a ++ '-' :: b ++ '-' :: c ++ '-' :: d ++ '-' :: e) =
      some (a ++ b ++ c ++ d ++ e) := by
  simp [unhyphenated?, List.drop_append, List.drop_eq_nil_of_le,
    List.take_of_length_le, ha, hb, hc, hd, he]

theorem digits?_groups :
    digits? (a ++ '-' :: b ++ '-' :: c ++ '-' :: d ++ '-' :: e) =
      some (a ++ b ++ c ++ d ++ e) := by
  have hlength : (a ++ '-' :: b ++ '-' :: c ++ '-' :: d ++ '-' :: e).length = 36 := by
    simp [ha, hb, hc, hd, he]
  unfold digits?
  rw [hlength]
  exact unhyphenated?_groups ha hb hc hd he

theorem toText_groups {u : Uuid} (h : Hex.encode u.bytes = a ++ b ++ c ++ d ++ e) :
    u.toText = String.ofList (a ++ '-' :: b ++ '-' :: c ++ '-' :: d ++ '-' :: e) := by
  simp [toText, Hex.encode_take, Hex.encode_drop, h, List.drop_append,
    List.drop_eq_nil_of_le, List.take_of_length_le, ha, hb, hc, hd, he]

end Groups

theorem ofText?_of_isText {text : String} (h : IsText text) :
    ∃ u, ofText? text = some u ∧ u.toText = text := by
  rcases h with ⟨a, b, c, d, e, ha, hb, hc, hd, he, rfl⟩
  have hlower : Hex.IsLower (2 * 16) (a ++ b ++ c ++ d ++ e) := by
    constructor
    · simp [ha.1, hb.1, hc.1, hd.1, he.1]
    · simp only [List.forall_mem_append]
      exact ⟨⟨⟨⟨ha.2, hb.2⟩, hc.2⟩, hd.2⟩, he.2⟩
  rcases Hex.decode?_lowerDigits hlower with ⟨bytes, hdecode, hencode⟩
  have hlength : bytes.length = 16 := by
    have hdigits := Hex.decode?_length hdecode
    rw [hlower.1] at hdigits
    omega
  refine ⟨⟨bytes, hlength⟩, ?_, toText_groups ha.1 hb.1 hc.1 hd.1 he.1 hencode⟩
  have hread := digits?_groups ha.1 hb.1 hc.1 hd.1 he.1
  rw [ofText?, String.toList_ofList]
  refine bind_of_eq_some hread ?_
  refine bind_of_eq_some hdecode ?_
  simp [ofBytes?, hlength]

theorem take_drop_parts {bytes : List UInt8} (h : bytes.length = 16) :
    (bytes.drop 0).take 4 ++ (bytes.drop 4).take 2 ++ (bytes.drop 6).take 2 ++
      (bytes.drop 8).take 2 ++ (bytes.drop 10).take 6 = bytes := by
  rw [List.drop_zero, ← List.take_add, ← List.take_add, ← List.take_add, ← List.take_add]
  exact List.take_of_length_le (Nat.le_of_eq h)

theorem length_part (u : Uuid) {start count : Nat} (h : start + count ≤ 16) :
    (Hex.encode ((u.bytes.drop start).take count)).length = 2 * count := by
  rw [Hex.encode_length, List.length_take, List.length_drop, u.length_bytes]
  omega

theorem ofText?_toText (u : Uuid) : ofText? u.toText = some u := by
  have hdigits := digits?_groups (length_part u (show 0 + 4 ≤ 16 by decide))
    (length_part u (show 4 + 2 ≤ 16 by decide)) (length_part u (show 6 + 2 ≤ 16 by decide))
    (length_part u (show 8 + 2 ≤ 16 by decide)) (length_part u (show 10 + 6 ≤ 16 by decide))
  rw [← Hex.encode_append, ← Hex.encode_append, ← Hex.encode_append, ← Hex.encode_append,
    take_drop_parts u.length_bytes] at hdigits
  rw [ofText?, toText, String.toList_ofList]
  refine bind_of_eq_some hdigits ?_
  refine bind_of_eq_some (Hex.decode?_encode u.bytes) ?_
  rw [ofBytes?, dif_pos u.length_bytes]

end Uuid
end DocQuery
