import DocQuery.Json.Shape
import DocQuery.Proofs.Json.ReadBack
import DocQuery.Proofs.Keyed
import DocQuery.Proofs.Outcome

/-!
# Reading shapes

What a reader gives for a written value is put together from its parts: an optional
value from the value, a map from its entries and a record from its members.
-/

namespace DocQuery
namespace Shape

/-- A reader takes a written value for `a`. -/
structure Reads (read : Reader α) (j : Json) (a : α) : Prop where
  isWritten : j.IsWritten
  eq : read j = .ok a

/-!
# Single values
-/

theorem decoded_escaped (s : String) : decoded (Json.escaped s) = .ok s := by
  rw [decoded, Json.decodeText_escaped, Outcome.mapError_ok]

theorem Reads.map {read : Reader α} {j : Json} {a : α} (h : Reads read j a) (f : α → β) :
    Reads (fun j => (read j).map f) j (f a) :=
  ⟨h.isWritten, by rw [h.eq]; rfl⟩

theorem reads_text (s : String) : Reads text (.text s) s :=
  ⟨.text s, decoded_escaped s⟩

theorem reads_boolean (b : Bool) : Reads boolean (.boolean b) b :=
  ⟨.boolean b, rfl⟩

theorem reads_word {n bound : Nat} (expected : String) (hn : n < bound)
    (hbound : bound ≤ Number.maxWord + 1) : Reads (word expected bound) (.whole n) n := by
  refine ⟨.whole n, ?_⟩
  have hvalue : (Numeral.ofNat n).value? = some (.whole n) := Numeral.value?_ofNat (by omega)
  have hvalued : valued (Numeral.ofNat n) = .ok (.whole n) := by
    rw [valued, hvalue]
  rw [Json.whole, word, hvalued]
  exact if_pos hn

theorem Reads.optional {read : Reader α} {j : Json} {a : α} (h : Reads read j a)
    (hnull : j ≠ .null) : Reads (Shape.optional read) j (some a) := by
  refine ⟨h.isWritten, ?_⟩
  rw [Shape.optional, h.eq]
  · rfl
  · exact hnull

theorem reads_optional_null (read : Reader α) : Reads (Shape.optional read) .null none :=
  ⟨.null, rfl⟩

theorem reads_oneOf {names : List (String × α)} {name : String} {a : α}
    (h : Keyed.get? names name = some a) (expected : List String) :
    Reads (oneOf names expected) (.text name) a := by
  refine ⟨.text name, ?_⟩
  rw [Json.text, oneOf, decoded_escaped]
  change lookName names expected name = _
  rw [lookName, h]

/-!
# Maps
-/

section Maps

variable {read : Reader α} {write : α → Json}

theorem mapMembers_named {entries : Keyed α}
    (h : ∀ entry ∈ entries, Reads read (write entry.2) entry.2) (start : Keyed α) :
    mapMembers read start (Json.named (entries.map fun entry => (entry.1, write entry.2))) =
      .ok (Keyed.insertAll start entries) := by
  induction entries generalizing start with
  | nil =>
      rfl
  | cons entry entries ih =>
      rcases List.forall_mem_cons.mp h with ⟨hentry, hentries⟩
      have hrest := ih hentries (Keyed.insert start entry.1 entry.2)
      simp only [List.map_cons, Json.named, mapMembers, decoded_escaped, hentry.eq]
      exact hrest

theorem reads_map {entries : Keyed α} (hdistinct : (Keyed.keys entries).Nodup)
    (h : ∀ entry ∈ entries, Reads read (write entry.2) entry.2) :
    Reads (map read) (.record (entries.map fun entry => (entry.1, write entry.2))) entries := by
  constructor
  · apply Json.IsWritten.record
    intro m hm
    rcases List.mem_map.mp hm with ⟨entry, hentry, rfl⟩
    exact (h entry hentry).isWritten
  · have hread := mapMembers_named h []
    rw [← Keyed.ofList, Keyed.ofList_of_nodup hdistinct] at hread
    exact hread

end Maps

/-!
# Records

A record is written with one entry for each member, in the order of the members.
-/

/-- Putting the values of entries into the members, one after the other, leads from one
record to another. -/
inductive Fills : List (Member σ) → σ → List (String × Json) → σ → Prop where
  | nil (s : σ) : Fills [] s [] s
  | cons {m : Member σ} {members : List (Member σ)} {s s' s'' : σ} {j : Json}
      {entries : List (String × Json)} (hput : Reads (m.put s) j s')
      (hrest : Fills members s' entries s'') :
      Fills (m :: members) s ((m.name, j) :: entries) s''

/-- No member answers to the name of a later one. -/
def Distinct (members : List (Member σ)) : Prop :=
  members.Pairwise fun m other => m.answersTo other.name = false

instance (members : List (Member σ)) : Decidable (Distinct members) :=
  inferInstanceAs (Decidable (List.Pairwise _ _))

variable {members : List (Member σ)}

theorem Member.answersTo_name (m : Member σ) : m.answersTo m.name = true := by
  simp [answersTo]

theorem Distinct.find? (h : Distinct members) {m : Member σ} (hm : m ∈ members) :
    members.find? (fun other => other.answersTo m.name) = some m := by
  induction members with
  | nil =>
      cases hm
  | cons first members ih =>
      rcases List.pairwise_cons.mp h with ⟨hfirst, hrest⟩
      rcases List.mem_cons.mp hm with rfl | hm
      · exact List.find?_cons_of_pos m.answersTo_name
      · rw [List.find?_cons_of_neg (by simp [hfirst m hm])]
        exact ih hrest hm

theorem Distinct.nodup (h : Distinct members) : (members.map Member.name).Nodup := by
  apply List.pairwise_map.mpr
  refine h.imp ?_
  intro m other hanswers heq
  rw [← heq, m.answersTo_name] at hanswers
  cases hanswers

theorem Fills.isWritten {s s' : σ} {entries : List (String × Json)}
    (h : Fills members s entries s') : ∀ entry ∈ entries, entry.2.IsWritten := by
  induction h with
  | nil s =>
      exact List.forall_mem_nil _
  | cons hput hrest ih =>
      exact List.forall_mem_cons.mpr ⟨hput.isWritten, ih⟩

theorem readMembers_named {m : Member σ} {name : String} {seen : List String} {s s' : σ}
    {j : Json} (hm : members.find? (fun other => other.answersTo name) = some m)
    (hnew : m.name ∉ seen) (hput : m.put s j = .ok s') (rest : List (List Char × Json)) :
    Record.readMembers members seen s ((Json.escaped name, j) :: rest) =
      Record.readMembers members (m.name :: seen) s' rest := by
  simp [Record.readMembers, decoded_escaped, hm, hnew, hput, bind, Except.bind]

theorem Fills.readMembers {all : List (Member σ)} {s s' : σ} {entries : List (String × Json)}
    (h : Fills members s entries s')
    (hfind : ∀ m ∈ members, all.find? (fun other => other.answersTo m.name) = some m)
    (hdistinct : (members.map Member.name).Nodup) (seen : List String)
    (hseen : ∀ m ∈ members, m.name ∉ seen) :
    Record.readMembers all seen s (Json.named entries) =
      .ok (s', (members.map Member.name).reverse ++ seen) := by
  induction h generalizing seen with
  | nil s =>
      rfl
  | cons hput hrest ih =>
      rename_i m members s s' s'' j entries
      rcases List.forall_mem_cons.mp hfind with ⟨hm, hmembers⟩
      rcases List.forall_mem_cons.mp hseen with ⟨hnew, hothers⟩
      rcases List.nodup_cons.mp hdistinct with ⟨hname, hnames⟩
      have hseen' : ∀ other ∈ members, other.name ∉ m.name :: seen := by
        intro other hother hmem
        rcases List.mem_cons.mp hmem with heq | hmem
        · exact hname (heq ▸ List.mem_map_of_mem hother)
        · exact hothers other hother hmem
      have hread := ih hmembers hnames (m.name :: seen) hseen'
      have hstep := readMembers_named hm hnew hput.eq (Json.named entries)
      rw [List.map_cons, List.reverse_cons, List.append_assoc, List.singleton_append, ← hread,
        ← hstep]
      rfl

theorem requireMembers_of_mem {seen : List String} (h : ∀ m ∈ members, m.name ∈ seen) :
    Record.requireMembers seen members = .ok () := by
  induction members with
  | nil =>
      rfl
  | cons m members ih =>
      rcases List.forall_mem_cons.mp h with ⟨hm, hmembers⟩
      simp [Record.requireMembers, hm, ih hmembers]

theorem reads_record {r : Record σ} (hdistinct : Distinct r.members) {s : σ}
    {entries : List (String × Json)} (h : Fills r.members r.start entries s) :
    Reads r.read (.record entries) s := by
  refine ⟨.record h.isWritten, ?_⟩
  have hread := h.readMembers (fun _ hm => hdistinct.find? hm) hdistinct.nodup []
    fun _ _ => List.not_mem_nil
  have hrequire : Record.requireMembers ((r.members.map Member.name).reverse ++ [])
      r.members = .ok () := by
    apply requireMembers_of_mem
    intro m hm
    simpa using ⟨m, hm, rfl⟩
  exact Outcome.bind_eq_ok.mpr ⟨_, hread, Outcome.bind_eq_ok.mpr ⟨(), hrequire, rfl⟩⟩

end Shape
end DocQuery
