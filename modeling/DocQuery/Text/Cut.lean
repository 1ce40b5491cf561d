import DocQuery.Text.CharSet.Basic

/-!
# Cutting text

A text is cut at every place where a sign stands, or only at the first or the
last one.  The sign itself is dropped and empty parts are kept.
-/

namespace DocQuery
namespace Text

/-- Cuts at the characters `cut` accepts; the first part is what stands before the first cut. -/
def pieces (cut : Char → Bool) : List Char → List Char × List (List Char)
  | [] => ([], [])
  | c :: rest =>
      let (first, others) := pieces cut rest
      if cut c then ([], first :: others) else (c :: first, others)

def splitAt (separator : Char) (chars : List Char) : List (List Char) :=
  let (first, others) := pieces (· == separator) chars
  first :: others

/-- What stands before and after the first place of a sign. -/
def cutAt? (sign : List Char) : List Char → Option (List Char × List Char)
  | [] => none
  | c :: rest =>
      if sign.isPrefixOf (c :: rest) then some ([], (c :: rest).drop sign.length)
      else (cutAt? sign rest).map fun (before, after) => (c :: before, after)

/-- What stands before and after the last place of a character. -/
def cutAtLast? (sign : Char) (chars : List Char) : Option (List Char × List Char) :=
  (cutAt? [sign] chars.reverse).map fun (after, before) => (before.reverse, after.reverse)

theorem cutAt?_parts {sign chars before after : List Char}
    (h : cutAt? sign chars = some (before, after)) : chars = before ++ (sign ++ after) := by
  induction chars generalizing before with
  | nil =>
      simp [cutAt?] at h
  | cons c rest ih =>
      unfold cutAt? at h
      split at h
      · rename_i hsign
        obtain ⟨tail, htail⟩ := List.isPrefixOf_iff_prefix.mp hsign
        simp [← htail] at h
        simp [← htail, ← h.1, ← h.2]
      · cases hrest : cutAt? sign rest with
        | none =>
            simp [hrest] at h
        | some parts =>
            obtain ⟨front, back⟩ := parts
            simp [hrest] at h
            obtain ⟨rfl, rfl⟩ := h
            simpa using ih hrest

theorem cutAtLast?_parts {sign : Char} {chars before after : List Char}
    (h : cutAtLast? sign chars = some (before, after)) : chars = before ++ sign :: after := by
  unfold cutAtLast? at h
  cases hcut : cutAt? [sign] chars.reverse with
  | none =>
      simp [hcut] at h
  | some parts =>
      obtain ⟨front, back⟩ := parts
      have hparts := congrArg List.reverse (cutAt?_parts hcut)
      simp [hcut] at h
      obtain ⟨rfl, rfl⟩ := h
      simpa using hparts

/-!
# Blank space

The characters with the white-space property, and the ways a text is cut at
them: trimming, and splitting into words.
-/

def blankRanges : Array (Nat × Nat) :=
  #[
    (0x9, 0xd), (0x20, 0x20), (0x85, 0x85), (0xa0, 0xa0), (0x1680, 0x1680), (0x2000, 0x200a),
    (0x2028, 0x2029), (0x202f, 0x202f), (0x205f, 0x205f), (0x3000, 0x3000)]

def isBlank (c : Char) : Bool :=
  inRanges blankRanges c.toNat

def trimStart (chars : List Char) : List Char :=
  chars.dropWhile isBlank

def trim (chars : List Char) : List Char :=
  (trimStart (trimStart chars).reverse).reverse

/-- The parts between runs of blank space; none of them is empty. -/
def words (chars : List Char) : List (List Char) :=
  let (first, others) := pieces isBlank chars
  (first :: others).filter (fun part => !part.isEmpty)

end Text
end DocQuery
