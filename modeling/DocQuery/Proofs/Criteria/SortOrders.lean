import DocQuery.Criteria.Reader
import DocQuery.Proofs.Keyed
import DocQuery.Proofs.Outcome
import DocQuery.Proofs.Text.Words

/-!
# Ways to write a sort order

A list of sort keys is written as one text, as a list of texts or of documents
with a key each, and, if no field comes twice, as one document.  However it is
written, it is read as that list.
-/

namespace DocQuery

/-!
# Directions
-/

namespace Direction

def word : Direction → String
  | ascending => "asc"
  | descending => "desc"

def real : Direction → Float
  | ascending => 1
  | descending => -1

/-- Letters that are small or capital as one likes. -/
abbrev AnyCase (chars letters : List Char) : Prop :=
  List.Forall₂ (fun c letter => c = letter ∨ c = letter.toUpper) chars letters

def IsWord (d : Direction) (chars : List Char) : Prop :=
  AnyCase chars d.word.toList

/-- What a direction is written as: its sign, as a number of any kind, or its word. -/
inductive Written (d : Direction) : Value → Prop where
  | int32 : Written d (.int32 d.sign)
  | int64 : Written d (.int64 d.sign.toInt64)
  | double : Written d (.double d.real)
  | word {text : String} (h : d.IsWord text.toList) : Written d (.string text)

theorem map_toLower_of_anyCase {chars letters : List Char} (h : AnyCase chars letters)
    (hletters : letters.Forall fun letter =>
      letter.toLower = letter ∧ letter.toUpper.toLower = letter) :
    chars.map Char.toLower = letters := by
  induction h with
  | nil =>
      rfl
  | cons hc _ ih =>
      rcases (List.forall_cons _ _ _).mp hletters with ⟨⟨hsmall, hcapital⟩, hrest⟩
      rw [List.map_cons, ih hrest]
      rcases hc with rfl | rfl
      · rw [hsmall]
      · rw [hcapital]

theorem forall_mem_of_anyCase {p : Char → Prop} {chars letters : List Char}
    (h : AnyCase chars letters) (hp : letters.Forall fun letter => p letter ∧ p letter.toUpper) :
    ∀ c ∈ chars, p c := by
  induction h with
  | nil =>
      exact List.forall_mem_nil _
  | cons hc _ ih =>
      rcases (List.forall_cons _ _ _).mp hp with ⟨hletter, hrest⟩
      refine List.forall_mem_cons.mpr ⟨?_, ih hrest⟩
      rcases hc with rfl | rfl
      · exact hletter.1
      · exact hletter.2

theorem isWord_of_isWord {d : Direction} {chars : List Char} (h : d.IsWord chars) :
    Text.IsWord chars := by
  constructor
  · rintro rfl
    cases d <;> cases h
  · exact forall_mem_of_anyCase h (by cases d <;> decide)

theorem comma_not_mem_of_isWord {d : Direction} {chars : List Char} (h : d.IsWord chars) :
    ',' ∉ chars := by
  have hother : ∀ c ∈ chars, c ≠ ',' := forall_mem_of_anyCase h (by cases d <;> decide)
  exact fun hmem => hother ',' hmem rfl

end Direction

namespace Criteria

theorem directionOfText?_of_isWord {d : Direction} {chars : List Char} (h : d.IsWord chars) :
    directionOfText? (String.ofList chars) = some d := by
  have hlower : lowerAscii (String.ofList chars) = d.word := by
    rw [lowerAscii, String.toList_ofList, Direction.map_toLower_of_anyCase h, String.ofList_toList]
    cases d <;> decide
  rw [directionOfText?, hlower]
  cases d <;> rfl

theorem direction?_of_written {d : Direction} {v : Value} (h : d.Written v) :
    direction? v = some d := by
  cases h with
  | int32 =>
      cases d <;> rfl
  | int64 =>
      cases d <;> rfl
  | double =>
      cases d <;> decide +kernel
  | word h =>
      have hread := directionOfText?_of_isWord h
      rwa [String.ofList_toList] at hread

theorem readDirection_of_written {d : Direction} {v : Value} (h : d.Written v) (field : String) :
    readDirection field v = .ok d := by
  rw [readDirection, direction?_of_written h]

end Criteria

/-!
# Texts

Between commas stand the keys, and parts without one.  A key is its field and,
after blank space, its direction, which need not be there if it is ascending.
-/

namespace SortKey

/-- Fields that can stand in a text are words without a comma. -/
structure IsNamed (key : SortKey) : Prop where
  word : Text.IsWord key.field.toList
  comma : ',' ∉ key.field.toList

inductive InPart (key : SortKey) : List Char → Prop where
  | bare {before after : List Char} (hascending : key.direction = .ascending)
      (hbefore : Text.Blank before) (hafter : Text.Blank after) :
      InPart key (before ++ (key.field.toList ++ after))
  | directed {before between direction after : List Char} (hbefore : Text.Blank before)
      (hspace : between ≠ []) (hbetween : Text.Blank between)
      (hdirection : key.direction.IsWord direction) (hafter : Text.Blank after) :
      InPart key (before ++ (key.field.toList ++ (between ++ (direction ++ after))))

inductive InParts : List SortKey → List (List Char) → Prop where
  | nil : InParts [] []
  | blank {keys : List SortKey} {part : List Char} {parts : List (List Char)}
      (h : Text.Blank part) (hrest : InParts keys parts) : InParts keys (part :: parts)
  | key {key : SortKey} {keys : List SortKey} {part : List Char} {parts : List (List Char)}
      (h : InPart key part) (hrest : InParts keys parts) : InParts (key :: keys) (part :: parts)

def InText (keys : List SortKey) (text : String) : Prop :=
  ∃ parts, InParts keys parts ∧ [','].intercalate parts = text.toList

inductive Written (keys : List SortKey) : Value → Prop where
  | text {text : String} (h : InText keys text) : Written keys (.string text)
  | texts {items : List Value}
      (h : List.Forall₂ (fun key item => ∃ text, InText [key] text ∧ item = .string text)
        keys items) : Written keys (.array items)
  | documents {items : List Value}
      (h : List.Forall₂ (fun key item => ∃ direction, key.direction.Written direction ∧
        item = .document [(key.field, direction)]) keys items) : Written keys (.array items)
  | document {entries : List (String × Value)} (hdistinct : (keys.map SortKey.field).Nodup)
      (h : List.Forall₂ (fun key entry => entry.1 = key.field ∧ key.direction.Written entry.2)
        keys entries) : Written keys (.document (Keyed.ofList entries))

end SortKey

namespace Text

theorem comma_not_mem_of_blank {chars : List Char} (h : Blank chars) : ',' ∉ chars := by
  intro hmem
  have hblank : isBlank ',' = true := h ',' hmem
  revert hblank
  decide

end Text

namespace SortKey

open Text (Spaced)

theorem spaced_of_inPart {key : SortKey} {part : List Char} (hname : key.IsNamed)
    (h : InPart key part) :
    (key.direction = .ascending ∧ Spaced [key.field.toList] part) ∨
      ∃ direction, key.direction.IsWord direction ∧
        Spaced [key.field.toList, direction] part := by
  cases h with
  | bare hascending hbefore hafter =>
      have hend := Text.endsWord_of_blank hafter
      exact Or.inl ⟨hascending, Spaced.word hbefore hname.word hend (Spaced.blank hafter)⟩
  | directed hbefore hspace hbetween hdirection hafter =>
      have hword := Direction.isWord_of_isWord hdirection
      have hend := Text.endsWord_of_blank hafter
      have hrest := Spaced.word hbetween hword hend (Spaced.blank hafter)
      refine Or.inr ⟨_, hdirection, Spaced.word hbefore hname.word ?_ hrest⟩
      exact Text.endsWord_append hspace hbetween _

theorem comma_not_mem_of_inPart {key : SortKey} {part : List Char} (hname : key.IsNamed)
    (h : InPart key part) : ',' ∉ part := by
  cases h with
  | bare _ hbefore hafter =>
      simp [Text.comma_not_mem_of_blank hbefore, Text.comma_not_mem_of_blank hafter, hname.comma]
  | directed hbefore _ hbetween hdirection hafter =>
      simp [Text.comma_not_mem_of_blank hbefore, Text.comma_not_mem_of_blank hbetween,
        Text.comma_not_mem_of_blank hafter, hname.comma,
        Direction.comma_not_mem_of_isWord hdirection]

theorem comma_not_mem_of_inParts {keys : List SortKey} {parts : List (List Char)}
    (hnames : ∀ key ∈ keys, key.IsNamed) (h : InParts keys parts) :
    ∀ part ∈ parts, ',' ∉ part := by
  induction h with
  | nil =>
      exact List.forall_mem_nil _
  | blank h _ ih =>
      exact List.forall_mem_cons.mpr ⟨Text.comma_not_mem_of_blank h, ih hnames⟩
  | key h _ ih =>
      rcases List.forall_mem_cons.mp hnames with ⟨hname, hrest⟩
      exact List.forall_mem_cons.mpr ⟨comma_not_mem_of_inPart hname h, ih hrest⟩

end SortKey

/-!
# Reading
-/

namespace Criteria

open SortKey (InPart InParts InText)

theorem readPart_of_inPart {key : SortKey} {part : List Char} (hname : key.IsNamed)
    (h : InPart key part) : readPart part = .ok key := by
  rcases SortKey.spaced_of_inPart hname h with ⟨hascending, hspaced⟩ | ⟨direction, hword, hspaced⟩
  · rw [readPart, Text.words_of_spaced hspaced, List.map_singleton, String.ofList_toList,
      ← hascending]
  · have hdirection : key.direction.Written (.string (String.ofList direction)) :=
      .word (by rwa [String.toList_ofList])
    rw [readPart, Text.words_of_spaced hspaced, List.map_cons, List.map_singleton,
      String.ofList_toList]
    simp only [readDirection_of_written hdirection]
    rfl

theorem trim_of_inPart {key : SortKey} {part : List Char} (hname : key.IsNamed)
    (h : InPart key part) : ¬ (Text.trim part).isEmpty = true := by
  rw [List.isEmpty_iff, Text.trim_eq_nil_iff]
  intro hblank
  have hnone : Text.words part = [] := Text.words_of_spaced (.blank hblank)
  rcases SortKey.spaced_of_inPart hname h with ⟨_, hspaced⟩ | ⟨_, _, hspaced⟩ <;>
    cases hnone.symm.trans (Text.words_of_spaced hspaced)

theorem readParts_of_inParts {keys : List SortKey} {parts : List (List Char)}
    (hnames : ∀ key ∈ keys, key.IsNamed) (h : InParts keys parts) :
    readParts parts = .ok keys := by
  induction h with
  | nil =>
      rfl
  | blank h _ ih =>
      rw [readParts, if_pos (List.isEmpty_iff.mpr (Text.trim_eq_nil_iff.mpr h)), ih hnames]
  | key h _ ih =>
      rcases List.forall_mem_cons.mp hnames with ⟨hname, hrest⟩
      rw [readParts, if_neg (trim_of_inPart hname h), readPart_of_inPart hname h, ih hrest]
      rfl

theorem readSort_of_inText {keys : List SortKey} {text : String}
    (hnames : ∀ key ∈ keys, key.IsNamed) (h : InText keys text) :
    readSort (.string text) = .ok keys := by
  rcases h with ⟨parts, hparts, htext⟩
  rw [readSort, ← htext]
  cases parts with
  | nil =>
      cases hparts
      rfl
  | cons part parts =>
      have hfree := SortKey.comma_not_mem_of_inParts hnames hparts
      rw [Text.splitAt_eq_iff.mpr ⟨List.cons_ne_nil _ _, hfree, rfl⟩]
      exact readParts_of_inParts hnames hparts

theorem readSorts_of_forall₂ {R : SortKey → Value → Prop} {keys : List SortKey}
    {items : List Value} (hread : ∀ key ∈ keys, ∀ item, R key item → readSort item = .ok [key])
    (h : List.Forall₂ R keys items) : readSorts items = .ok keys := by
  induction h with
  | nil =>
      rfl
  | cons hitem _ ih =>
      rcases List.forall_mem_cons.mp hread with ⟨hfirst, hrest⟩
      rw [readSorts, hfirst _ hitem, ih hrest]
      rfl

theorem readSortFields_of_forall₂ {keys : List SortKey} {entries : List (String × Value)}
    (h : List.Forall₂ (fun key entry => entry.1 = key.field ∧ key.direction.Written entry.2)
      keys entries) : readSortFields entries = .ok keys := by
  induction h with
  | nil =>
      rfl
  | cons hentry _ ih =>
      rcases hentry with ⟨hfield, hdirection⟩
      rw [readSortFields, readDirection_of_written hdirection, ih, hfield]
      rfl

theorem keys_of_forall₂ {keys : List SortKey} {entries : List (String × Value)}
    (h : List.Forall₂ (fun key entry => entry.1 = key.field ∧ key.direction.Written entry.2)
      keys entries) : keys.map SortKey.field = Keyed.keys entries := by
  induction h with
  | nil =>
      rfl
  | cons hentry _ ih =>
      rw [List.map_cons, ih, ← hentry.1]
      rfl

theorem readSort_of_written {keys : List SortKey} {v : Value}
    (hnames : ∀ key ∈ keys, key.IsNamed) (h : SortKey.Written keys v) :
    readSort v = .ok keys := by
  cases h with
  | text h =>
      exact readSort_of_inText hnames h
  | texts h =>
      rw [readSort]
      refine readSorts_of_forall₂ ?_ h
      rintro key hkey item ⟨text, htext, rfl⟩
      exact readSort_of_inText (List.forall_mem_singleton.mpr (hnames key hkey)) htext
  | documents h =>
      rw [readSort]
      refine readSorts_of_forall₂ ?_ h
      rintro key hkey item ⟨direction, hdirection, rfl⟩
      rw [readSort]
      exact readSortFields_of_forall₂ (.cons ⟨rfl, hdirection⟩ .nil)
  | document hdistinct h =>
      rw [Keyed.ofList_of_nodup (keys_of_forall₂ h ▸ hdistinct), readSort]
      exact readSortFields_of_forall₂ h

/-!
# Whole criteria
-/

theorem shorthand_erase {key : String} (h : key ∈ reservedKeys) (d : Document) :
    shorthand (Keyed.erase d key) = shorthand d := by
  unfold shorthand Keyed.erase
  rw [List.filter_filter]
  apply List.filter_congr
  intro entry _
  by_cases hkey : entry.1 = key
  · have hreserved : reservedKeys.contains entry.1 = true :=
      List.contains_iff_mem.mpr (hkey ▸ h)
    rw [hreserved]
    rfl
  · rw [decide_eq_true hkey, Bool.and_true]

theorem readAll_of_readSort {d : Document} {keys : List SortKey} {v : Value}
    (hsort : Keyed.get? d "sort" = some v) (h : readSort v = .ok keys) :
    readAll d =
      (readAll (Keyed.erase d "sort")).map fun criteria => { criteria with sort := keys } := by
  have horder : readOrder d = .ok keys := by
    rw [readOrder, hsort]
    exact h
  have hnone : readOrder (Keyed.erase d "sort") = .ok [] := by
    rw [readOrder, Keyed.get?_erase_self]
  have hother : ∀ key, "sort" ≠ key → Keyed.get? (Keyed.erase d "sort") key = Keyed.get? d key :=
    fun _ hne => Keyed.get?_erase_of_ne d hne
  have hcondition : readCondition (Keyed.erase d "sort") = readCondition d := by
    rw [readCondition, readCondition, hother "where" (by decide), shorthand_erase (by decide)]
  have hchoice : readChoice (Keyed.erase d "sort") = readChoice d := by
    rw [readChoice, readChoice, hother "select" (by decide), hother "omit" (by decide)]
  have hamount : ∀ key, "sort" ≠ key →
      readAmount key (Keyed.erase d "sort") = readAmount key d := by
    intro key hne
    rw [readAmount, readAmount, hother key hne]
  have hfields : ∀ key, "sort" ≠ key →
      readFields key (Keyed.erase d "sort") = readFields key d := by
    intro key hne
    rw [readFields, readFields, hother key hne]
  have hgrouping : readGrouping (Keyed.erase d "sort") = readGrouping d := by
    rw [readGrouping, readGrouping, hfields "groupBy" (by decide), hfields "sum" (by decide),
      hfields "average" (by decide), hfields "min" (by decide), hfields "max" (by decide),
      readCount, readCount, hother "count" (by decide)]
  rw [readAll, readAll, horder, hnone, hcondition, hchoice, hamount "skip" (by decide),
    hamount "limit" (by decide), hgrouping]
  simp only [Outcome.map_bind]
  rfl

/-- In all of its shapes a sort order is read as the list that was written.  It is so alone, and
beside anything else, which is read as if the sort order were not there. -/
theorem read_of_sort_written {keys : List SortKey} {v : Value}
    (hnames : ∀ key ∈ keys, key.IsNamed) (h : SortKey.Written keys v) :
    read [("sort", v)] = .ok { sort := keys } ∧
      ∀ d, Keyed.get? d "sort" = some v →
        read d =
          (read (Keyed.erase d "sort")).map fun criteria => { criteria with sort := keys } := by
  have hread := readSort_of_written hnames h
  have hbeside : ∀ d, Keyed.get? d "sort" = some v → read d =
      (read (Keyed.erase d "sort")).map fun criteria => { criteria with sort := keys } := by
    intro d hsort
    rw [read, read, readAll_of_readSort hsort hread, Outcome.mapError_map]
  refine ⟨?_, hbeside⟩
  rw [hbeside _ rfl]
  rfl

/-- By age, oldest first, and then by name: as a text with a tab and an empty part, and as a
document of a double and a word. -/
theorem read_of_sort_written_ages :
    let keys : List SortKey := [⟨"age", .descending⟩, ⟨"name", .ascending⟩]
    let text : Value := .string "age\tDeSC ,, name"
    let document : Value := .document (Keyed.ofList
      [("age", .double (-1)), ("name", .string "Asc")])
    (∀ key ∈ keys, key.IsNamed) ∧ SortKey.Written keys text ∧ SortKey.Written keys document ∧
      read [("sort", text)] = .ok { sort := keys } ∧
      read [("sort", document), ("limit", .int32 3)] = .ok { sort := keys, limit := some 3 } := by
  intro keys text document
  have hnames : ∀ key ∈ keys, key.IsNamed :=
    List.forall_mem_cons.mpr ⟨⟨⟨by decide, List.forall_iff_forall_mem.mp (by decide)⟩, by decide⟩,
      List.forall_mem_singleton.mpr ⟨⟨by decide, List.forall_iff_forall_mem.mp (by decide)⟩,
        by decide⟩⟩
  have htab : Text.Blank ['\t'] := List.forall_mem_singleton.mpr (by decide)
  have hspace : Text.Blank [' '] := List.forall_mem_singleton.mpr (by decide)
  have hword : Direction.descending.IsWord ['D', 'e', 'S', 'C'] := by
    unfold Direction.IsWord
    decide
  have htext : SortKey.Written keys text :=
    .text ⟨_, .key (.directed Text.blank_nil (List.cons_ne_nil _ _) htab hword hspace)
      (.blank Text.blank_nil (.key (.bare rfl hspace Text.blank_nil) .nil)), by decide⟩
  have hdocument : SortKey.Written keys document :=
    .document (by decide) (.cons ⟨rfl, .double⟩ (.cons ⟨rfl, .word (by
      unfold Direction.IsWord
      decide)⟩ .nil))
  refine ⟨hnames, htext, hdocument, (read_of_sort_written hnames htext).1, ?_⟩
  rw [(read_of_sort_written hnames hdocument).2 _ rfl]
  rfl

/-- A decimal is no direction, even if it is one. -/
theorem decimal_direction_refused :
    read [("sort", .document [("age", .decimal "1")])] ≠
      .ok { sort := [⟨"age", .ascending⟩] } := by
  intro h
  cases h

end Criteria
end DocQuery
