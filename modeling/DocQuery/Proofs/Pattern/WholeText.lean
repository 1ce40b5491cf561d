import DocQuery.Pattern.Basic
import DocQuery.Proofs.Pattern.Places
import DocQuery.Query.Compile

/-!
# Patterns of whole texts

The pattern that is made of a whole text matches that text, whatever the flags.
An escaped text is read as its characters, each of which stands for a set that
it belongs to.  Matching then goes from place to place through the text.
-/

namespace DocQuery
namespace Pattern

open Text (CharSet)

/-!
# Reading an escaped text
-/

def ofChar (c : Char) : Tree :=
  .literal { char := c }

theorem isEscapable_of_isSpecial {c : Char} (h : isSpecial c = true) : isEscapable c = true := by
  unfold isSpecial at h
  rw [List.contains_iff_mem] at h
  refine List.all_eq_true.mp ?_ c h
  decide

theorem readEscape?_of_isSpecial {c : Char} (h : isSpecial c = true) (spaced : Bool)
    (rest : List Char) : readEscape? spaced (c :: rest) = some (ofChar c, rest) := by
  simp [readEscape?, isEscapable_of_isSpecial h, ofChar]

theorem readPart?_of_not_isSpecial {c : Char} (h : isSpecial c = false) (r : Reading)
    (rest : List Char) : readPart? r c rest = some (r.push (ofChar c), rest) := by
  simp [isSpecial] at h
  unfold readPart?
  split <;> simp_all [ofChar]

theorem readParts?_cons {r r' : Reading} (hspaced : r.spaced = false) {c : Char}
    {rest rest' : List Char} (h : readPart? r c rest = some (r', rest')) (fuel : Nat) :
    readParts? (fuel + 1) r (c :: rest) = readParts? fuel r' rest' := by
  rw [readParts?.eq_def]
  simp [skipSpace, hspaced, h]

theorem readParts?_nil {r : Reading} (hspaced : r.spaced = false) (fuel : Nat) :
    readParts? fuel r [] = some r := by
  rw [readParts?.eq_def]
  simp [skipSpace, hspaced]

theorem readParts?_escapeChar {r : Reading} (hspaced : r.spaced = false) (fuel : Nat) (c : Char)
    (rest : List Char) :
    readParts? (fuel + 1) r (escapeChar c ++ rest) = readParts? fuel (r.push (ofChar c)) rest := by
  cases h : isSpecial c with
  | true =>
      have hpart : readPart? r '\\' (c :: rest) = some (r.push (ofChar c), rest) := by
        simp [readPart?, readEscape?_of_isSpecial h]
      simpa [escapeChar, h] using readParts?_cons hspaced hpart fuel
  | false =>
      simpa [escapeChar, h] using
        readParts?_cons hspaced (readPart?_of_not_isSpecial h r rest) fuel

theorem readParts?_escapeChars {r : Reading} (hspaced : r.spaced = false) (fuel : Nat)
    (text rest : List Char) :
    readParts? (text.length + fuel) r (escapeChars text ++ rest) =
      readParts? fuel ((text.map ofChar).foldl Reading.push r) rest := by
  induction text generalizing r with
  | nil =>
      simp [escapeChars]
  | cons c text ih =>
      have hfuel : (c :: text).length + fuel = text.length + fuel + 1 := by
        rw [List.length_cons]
        omega
      have hchars : escapeChars (c :: text) ++ rest =
          escapeChar c ++ (escapeChars text ++ rest) := by
        simp [escapeChars]
      rw [hfuel, hchars, readParts?_escapeChar hspaced]
      exact ih hspaced

theorem foldl_push (r : Reading) (parts : List Tree) :
    parts.foldl Reading.push r =
      { r with current := { r.current with parts := parts.reverse ++ r.current.parts } } := by
  induction parts generalizing r with
  | nil =>
      rfl
  | cons t parts ih =>
      rw [List.foldl_cons, ih]
      simp [Reading.push, OpenGroup.push]

theorem length_le_length_escapeChars (text : List Char) :
    text.length ≤ (escapeChars text).length := by
  induction text with
  | nil =>
      exact Nat.le_refl 0
  | cons c text ih =>
      have hchar : 1 ≤ (escapeChar c).length := by
        unfold escapeChar
        split
        · exact Nat.le_add_left 1 1
        · exact Nat.le_refl 1
      have hchars : escapeChars (c :: text) = escapeChar c ++ escapeChars text := by
        simp [escapeChars]
      rw [hchars, List.length_append, List.length_cons]
      omega

/-- The characters of a text between the marks for its two ends. -/
def wholeTree (text : List Char) : Tree :=
  Tree.sequence (.mark .lineStart :: (text.map ofChar ++ [.mark .lineEnd]))

theorem toList_wholeText (text : String) :
    (Compiler.wholeText text).toList = '^' :: (escapeChars text.toList ++ ['$']) := by
  simp [Compiler.wholeText, escape]

theorem readTree?_anchored {chars : List Char} {parts : List Tree} {count : Nat}
    (hcount : count ≤ chars.length)
    (h : ∀ fuel r, r.spaced = false → readParts? (count + fuel) r (chars ++ ['$']) =
      readParts? fuel (parts.foldl Reading.push r) ['$']) :
    readTree? ('^' :: (chars ++ ['$'])) =
      some (Tree.sequence (.mark .lineStart :: (parts ++ [.mark .lineEnd]))) := by
  rcases Nat.exists_eq_add_of_le hcount with ⟨extra, hextra⟩
  have hlength : ('^' :: (chars ++ ['$'])).length = count + (extra + 1) + 1 := by
    simp only [List.length_cons, List.length_append, List.length_nil, hextra]
    omega
  have hstart : readPart? {} '^' (chars ++ ['$']) =
      some (({} : Reading).push (.mark .lineStart), chars ++ ['$']) :=
    rfl
  rw [readTree?, hlength, readParts?_cons rfl hstart, h _ _ rfl, foldl_push]
  rw [readParts?_cons rfl rfl, readParts?_nil rfl]
  simp [Reading.push, OpenGroup.push, OpenGroup.tree, OpenGroup.branch]

theorem readTree?_wholeText (text : String) :
    readTree? (Compiler.wholeText text).toList = some (wholeTree text.toList) := by
  rw [toList_wholeText]
  exact readTree?_anchored (length_le_length_escapeChars _) fun fuel r hspaced =>
    readParts?_escapeChars hspaced fuel text.toList ['$']

/-!
# The set that a character stands for
-/

theorem contains_foldl_union (set : CharSet) (sets : List CharSet) (c : Char) :
    (sets.foldl CharSet.union set).contains c =
      (set.contains c || sets.any fun s => s.contains c) := by
  induction sets generalizing set with
  | nil =>
      simp
  | cons s sets ih =>
      rw [List.foldl_cons, ih]
      simp [CharSet.contains, Bool.or_assoc]

theorem contains_single_iff {c d : Char} : (CharSet.single c).contains d = true ↔ d = c := by
  simp only [CharSet.single, CharSet.contains, Bool.and_eq_true, decide_eq_true_eq]
  constructor
  · rintro ⟨hle, hge⟩
    exact Char.toNat_inj.mp (Nat.le_antisymm hge hle)
  · rintro rfl
    exact ⟨Nat.le_refl _, Nat.le_refl _⟩

theorem contains_single (c : Char) : (CharSet.single c).contains c = true :=
  contains_single_iff.mpr rfl

theorem mem_variants (c : Char) : c ∈ Text.variants c := by
  unfold Text.variants
  rw [← Array.foldl_toList]
  apply List.foldlRecOn
  · exact List.mem_cons_self
  · intro found hfound s _
    split
    · exact List.mem_cons_of_mem _ hfound
    · exact hfound

theorem contains_charSet (f : Flags) (c : Char) : (charSet f c).contains c = true := by
  unfold charSet
  split
  · exact contains_single c
  · split
    · rw [CharSet.unions, contains_foldl_union, Bool.or_eq_true, List.any_map]
      exact Or.inr (List.any_eq_true.mpr ⟨c, mem_variants c, contains_single c⟩)
    · simp [CharSet.contains, contains_single]

/-!
# Matching
-/

open DocQuery.Pattern.Expr (Leads leads_step leads_look matchesText_of_leads)

theorem holds_lineStart (f : Flags) (following : Option Char) :
    (Mark.lineStart.assertion f).holds none following = true := by
  simp only [Mark.assertion]
  split
  · rfl
  · split <;> rfl

theorem holds_lineEnd (f : Flags) (previous : Option Char) :
    (Mark.lineEnd.assertion f).holds previous none = true := by
  simp only [Mark.assertion]
  split
  · rfl
  · split <;> rfl

theorem leads_sequence_ofChar (f : Flags) (front rest : List Char) :
    ∃ e, (Tree.sequence (rest.map ofChar ++ [.mark .lineEnd])).meaning? f = some (e, f) ∧
      Leads (front ++ rest) e front.length (front ++ rest).length := by
  induction rest generalizing front with
  | nil =>
      refine ⟨.look (Mark.lineEnd.assertion f), rfl, ?_⟩
      have hlook := leads_look front [] (holds_lineEnd f front.getLast?)
      simpa using hlook
  | cons c rest ih =>
      rcases ih (front ++ [c]) with ⟨e, hmeaning, hleads⟩
      refine ⟨.next (.step (charSet f c)) e, ?_, ?_⟩
      · have hsequence : Tree.sequence ((c :: rest).map ofChar ++ [.mark .lineEnd]) =
            .next (ofChar c) (Tree.sequence (rest.map ofChar ++ [.mark .lineEnd])) := by
          cases rest <;> rfl
        rw [hsequence]
        simp [Tree.meaning?, ofChar, Literal.set?, hmeaning]
      · have hstep := leads_step front rest (contains_charSet f c)
        have htext : front ++ [c] ++ rest = front ++ c :: rest := by
          simp
        rw [htext, List.length_append, List.length_singleton] at hleads
        exact hstep.next hleads

theorem leads_wholeTree (f : Flags) (text : List Char) :
    ∃ e, (wholeTree text).meaning? f = some (e, f) ∧ Leads text e 0 text.length := by
  rcases leads_sequence_ofChar f [] text with ⟨e, hmeaning, hleads⟩
  refine ⟨.next (.look (Mark.lineStart.assertion f)) e, ?_, ?_⟩
  · have hsequence : wholeTree text =
        .next (.mark .lineStart) (Tree.sequence (text.map ofChar ++ [.mark .lineEnd])) := by
      cases text <;> rfl
    rw [hsequence]
    simp [Tree.meaning?, hmeaning]
  · have hlook := leads_look [] text (holds_lineStart f text.head?)
    exact Leads.next hlook hleads

theorem matchesText_of_read?_wholeText {f : Flags} {text : String} {e : Meaning}
    (h : read? f (Compiler.wholeText text) = some e) : e.matchesText text = true := by
  rcases leads_wholeTree f text.toList with ⟨e', hmeaning, hleads⟩
  simp [read?, readTree?_wholeText, hmeaning] at h
  rcases h with ⟨_, _, rfl⟩
  exact matchesText_of_leads [] text.toList rfl hleads

end Pattern
end DocQuery
