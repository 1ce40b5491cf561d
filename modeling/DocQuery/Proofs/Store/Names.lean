import DocQuery.Proofs.Keyed
import DocQuery.Proofs.Since
import DocQuery.Proofs.Store.Atomicity
import DocQuery.Proofs.Store.Sorting
import DocQuery.Proofs.Store.Uniqueness

/-!
# Names of collections

Which collections a store lists follows from what it was asked since each was
last removed.  Documents and indexes that are sent to a collection bring it
into being, and documents do so even if they are then refused.
-/

namespace DocQuery

namespace Store

theorem mem_names {s : Store} {name : String} :
    name ∈ s.names ↔ name ∈ Keyed.keys s.collections :=
  (Sorting.sorted_perm _ _).mem_iff

theorem pairwise_names {s : Store} (h : (Keyed.keys s.collections).Nodup) :
    s.names.Pairwise (· < ·) := by
  have horders : Sorting.Orders (fun a b : String => a < b) fun _ => True := by
    constructor
    · intro a b hab
      exact decide_eq_false (String.lt_asymm (of_decide_eq_true hab))
    · intro a b c _ _ _ hab hbc
      have hba := String.not_lt.mp (of_decide_eq_false hab)
      have hcb := String.not_lt.mp (of_decide_eq_false hbc)
      exact decide_eq_false (String.not_lt.mpr (String.le_trans hcb hba))
  have hsorted : s.names.Pairwise fun a b => decide (b < a) = false :=
    horders.pairwise_sorted fun _ _ => trivial
  refine hsorted.imp₂ ?_ ((Sorting.sorted_perm _ _).nodup_iff.mpr h)
  intro a b hba hne
  apply String.not_le.mp
  intro hle
  exact hne (String.le_antisymm (String.not_lt.mp (of_decide_eq_false hba)) hle)

/-!
# Known collections

A write that finds no collection either makes one or does nothing.
-/

theorem keys_put_congr (s : Store) (collection : String) (c c' : Contents) :
    Keyed.keys (s.put collection c).collections =
      Keyed.keys (s.put collection c').collections := by
  simp [put, Keyed.keys_insert]

theorem keys_put_of_mem {s : Store} {collection : String}
    (h : collection ∈ Keyed.keys s.collections) (c : Contents) :
    Keyed.keys (s.put collection c).collections = Keyed.keys s.collections := by
  simp [put, Keyed.keys_insert, h]

theorem mem_keys_of_contents? {s : Store} {collection : String} {c : Contents}
    (h : s.contents? collection = some c) : collection ∈ Keyed.keys s.collections :=
  Keyed.contains_iff_mem_keys.mp (Option.isSome_of_eq_some h)

theorem keys_insert (s : Store) (collection : String) (added : List Document) :
    Keyed.keys (s.insert collection added).2.collections =
      Keyed.keys (s.put collection {}).collections := by
  simp only [insert]
  split <;> exact keys_put_congr s collection _ _

theorem keys_createIndex (s : Store) (collection : String) (index : Index) :
    Keyed.keys (s.createIndex collection index).2.collections =
      Keyed.keys (s.put collection {}).collections := by
  simp only [createIndex]
  split
  · exact keys_put_congr s collection _ _
  · split <;> exact keys_put_congr s collection _ _

theorem keys_update (s : Store) (collection : String) (filter set : Document) :
    Keyed.keys (s.update collection filter set).2.collections = Keyed.keys s.collections := by
  simp only [update]
  split
  · rfl
  · rename_i c hc
    split
    · rfl
    · split
      · rfl
      · exact keys_put_of_mem (mem_keys_of_contents? hc) _

theorem keys_delete (s : Store) (collection : String) (filter : Document) :
    Keyed.keys (s.delete collection filter).2.collections = Keyed.keys s.collections := by
  simp only [delete]
  split
  · rfl
  · rename_i c hc
    split
    · rfl
    · exact keys_put_of_mem (mem_keys_of_contents? hc) _

theorem mem_keys_drop {s : Store} {collection name : String} :
    name ∈ Keyed.keys (s.drop collection).collections ↔
      name ∈ Keyed.keys s.collections ∧ name ≠ collection := by
  rw [drop, Keyed.keys_erase, List.mem_filter, decide_eq_true_iff]

theorem mem_keys_of_createIndex_eq_error {s : Store} {collection : String} {index : Index}
    {e : Error} (h : (s.createIndex collection index).1 = .error e) :
    collection ∈ Keyed.keys s.collections := by
  by_contra hnew
  rcases (createIndex_allOrNothing s collection index).refused h with ⟨fault, hcheck, _⟩
  have hcontents : s.contents? collection = none := Keyed.get?_eq_none_iff.mpr hnew
  have hdocuments : s.documents collection = [] := by
    simp [documents, contents, hcontents]
  have hkeys : Uniqueness.repeatsKey index [] = false :=
    Uniqueness.repeatsKey_eq_false_iff.mpr List.Pairwise.nil
  have hpasses : Uniqueness.check collection [index] [] = .ok () := by
    simp [Uniqueness.check, Uniqueness.checkIds, Uniqueness.idsOf, Uniqueness.firstRepeated,
      Uniqueness.checkIndexes, hkeys]
    rfl
  rw [hdocuments, hpasses] at hcheck
  cases hcheck

/-!
# Calls

The operations of a store are the requests on its collections and the removal
of a collection.
-/

inductive Call where
  | ask (collection : String) (r : Request)
  | drop (collection : String)

/-- A call sends documents or an index to a collection. -/
inductive Call.SendsTo (name : String) : Call → Prop where
  | insert (documents : List Document) : SendsTo name (.ask name (.insert documents))
  | createIndex (index : Index) : SendsTo name (.ask name (.createIndex index))

def perform (s : Store) : Call → Store
  | .ask collection r => (answer collection s r).2
  | .drop collection => s.drop collection

def fails (s : Store) : Call → Bool
  | .ask collection r => r.fails (answer collection s r).1
  | .drop _ => false

def performAll (s : Store) (calls : List Call) : Store :=
  calls.foldl perform s

/-- Apart from removals, a call leaves the known collections alone or adds the one that it sends
something to. -/
theorem keys_perform_ask (s : Store) (collection : String) (r : Request) :
    (¬ Call.SendsTo collection (.ask collection r) ∧
        Keyed.keys (s.perform (.ask collection r)).collections = Keyed.keys s.collections) ∨
      Call.SendsTo collection (.ask collection r) ∧
        Keyed.keys (s.perform (.ask collection r)).collections =
          Keyed.keys (s.put collection {}).collections := by
  cases r with
  | insert documents =>
      exact Or.inr ⟨.insert documents, keys_insert s collection documents⟩
  | createIndex index =>
      exact Or.inr ⟨.createIndex index, keys_createIndex s collection index⟩
  | update filter set =>
      exact Or.inl ⟨nofun, keys_update s collection filter set⟩
  | delete filter =>
      exact Or.inl ⟨nofun, keys_delete s collection filter⟩
  | query filter options | stream filter options | aggregate pipeline | count filter =>
      exact Or.inl ⟨nofun, rfl⟩

theorem nodup_keys_perform {s : Store} (h : (Keyed.keys s.collections).Nodup) (call : Call) :
    (Keyed.keys (s.perform call).collections).Nodup := by
  cases call with
  | ask collection r =>
      rcases keys_perform_ask s collection r with ⟨_, hkeys⟩ | ⟨_, hkeys⟩
      · rw [hkeys]
        exact h
      · rw [hkeys]
        exact Keyed.nodup_keys_insert h collection {}
  | drop collection =>
      exact Keyed.nodup_keys_erase h collection

theorem mem_keys_perform {s : Store} {call : Call} {name : String} :
    name ∈ Keyed.keys (s.perform call).collections ↔
      call.SendsTo name ∨ name ∈ Keyed.keys s.collections ∧ call ≠ .drop name := by
  cases call with
  | ask collection r =>
      have hname (hsends : Call.SendsTo name (.ask collection r)) : name = collection := by
        cases hsends <;> rfl
      rcases keys_perform_ask s collection r with ⟨hnot, hkeys⟩ | ⟨hsends, hkeys⟩
      · rw [hkeys]
        constructor
        · intro hmem
          exact Or.inr ⟨hmem, nofun⟩
        · rintro (hsends | ⟨hmem, _⟩)
          · cases hname hsends
            exact absurd hsends hnot
          · exact hmem
      · rw [hkeys, put, Keyed.mem_keys_insert]
        constructor
        · rintro (hmem | rfl)
          · exact Or.inr ⟨hmem, nofun⟩
          · exact Or.inl hsends
        · rintro (hsends | ⟨hmem, _⟩)
          · exact Or.inr (hname hsends)
          · exact Or.inl hmem
  | drop collection =>
      have hdropped : name ∈ Keyed.keys (s.perform (.drop collection)).collections ↔
          name ∈ Keyed.keys s.collections ∧ name ≠ collection :=
        mem_keys_drop
      rw [hdropped]
      constructor
      · rintro ⟨hmem, hne⟩
        refine Or.inr ⟨hmem, ?_⟩
        rintro ⟨⟩
        exact hne rfl
      · rintro (hsends | ⟨hmem, hne⟩)
        · cases hsends
        · refine ⟨hmem, ?_⟩
          rintro rfl
          exact hne rfl

/-!
# History
-/

/-- A call together with whether it failed. -/
structure Event where
  call : Call
  failed : Bool

def history (s : Store) : List Call → List Event
  | [] => []
  | call :: rest => ⟨call, s.fails call⟩ :: history (s.perform call) rest

def Event.Drops (name : String) (e : Event) : Prop :=
  e.call = .drop name

/-- Documents or an index were sent to a collection and taken. -/
def Event.Creates (name : String) (e : Event) : Prop :=
  e.call.SendsTo name ∧ e.failed = false

/-- Documents were sent to a collection and refused. -/
def Event.Refuses (name : String) (e : Event) : Prop :=
  (∃ documents, e.call = .ask name (.insert documents)) ∧ e.failed = true

/-- A collection that an index was sent to and that did not take it has been there before. -/
theorem creates_or_refuses_or_mem {s : Store} {call : Call} {name : String}
    (h : call.SendsTo name) :
    Event.Creates name ⟨call, s.fails call⟩ ∨ Event.Refuses name ⟨call, s.fails call⟩ ∨
      name ∈ Keyed.keys s.collections := by
  cases hfails : s.fails call with
  | false =>
      exact Or.inl ⟨h, rfl⟩
  | true =>
      apply Or.inr
      cases h with
      | insert documents =>
          exact Or.inl ⟨⟨documents, rfl⟩, rfl⟩
      | createIndex index =>
          apply Or.inr
          rw [fails] at hfails
          cases hreply : (answer name s (.createIndex index)).1 with
          | ok reply =>
              rw [hreply] at hfails
              cases hfails
          | error e =>
              exact mem_keys_of_createIndex_eq_error hreply

/-- The known collections are accounted for by what has happened. -/
structure Accounted (past : List Event) (s : Store) : Prop where
  distinct : (Keyed.keys s.collections).Nodup
  known : ∀ name, name ∈ Keyed.keys s.collections ↔
    Since (Event.Drops name) (Event.Creates name) past ∨
      Since (Event.Drops name) (Event.Refuses name) past

theorem accounted_empty (serial : Nat) : Accounted [] ⟨[], serial⟩ where
  distinct := List.nodup_nil
  known name := by
    simp [Keyed.keys, not_since_nil]

theorem Accounted.perform {past : List Event} {s : Store} (h : Accounted past s) (call : Call) :
    Accounted (past ++ [⟨call, s.fails call⟩]) (s.perform call) where
  distinct := nodup_keys_perform h.distinct call
  known name := by
    have hkept (hmem : name ∈ Keyed.keys s.collections) (hdrop : call ≠ .drop name) :
        Since (Event.Drops name) (Event.Creates name) (past ++ [⟨call, s.fails call⟩]) ∨
          Since (Event.Drops name) (Event.Refuses name) (past ++ [⟨call, s.fails call⟩]) := by
      rw [since_concat_iff, since_concat_iff]
      rcases (h.known name).mp hmem with hsince | hsince
      · exact Or.inl (Or.inr ⟨hsince, hdrop⟩)
      · exact Or.inr (Or.inr ⟨hsince, hdrop⟩)
    rw [mem_keys_perform]
    constructor
    · rintro (hsends | ⟨hmem, hdrop⟩)
      · have hdrop : call ≠ .drop name := by
          rintro rfl
          cases hsends
        rcases creates_or_refuses_or_mem (s := s) hsends with hcreates | hrefuses | hmem
        · exact Or.inl (since_concat_iff.mpr (Or.inl hcreates))
        · exact Or.inr (since_concat_iff.mpr (Or.inl hrefuses))
        · exact hkept hmem hdrop
      · exact hkept hmem hdrop
    · rw [since_concat_iff, since_concat_iff]
      rintro ((hcreates | ⟨hsince, hdrop⟩) | ⟨⟨documents, rfl⟩, _⟩ | ⟨hsince, hdrop⟩)
      · exact Or.inl hcreates.1
      · exact Or.inr ⟨(h.known name).mpr (Or.inl hsince), hdrop⟩
      · exact Or.inl (.insert documents)
      · exact Or.inr ⟨(h.known name).mpr (Or.inr hsince), hdrop⟩

theorem Accounted.performAll {past : List Event} {s : Store} (h : Accounted past s)
    (calls : List Call) : Accounted (past ++ history s calls) (s.performAll calls) := by
  induction calls generalizing s past with
  | nil =>
      rw [history, List.append_nil]
      exact h
  | cons call rest ih =>
      have hrest := ih (h.perform call)
      rw [List.append_assoc, List.singleton_append] at hrest
      exact hrest

/-!
# Listed names
-/

/-- A failing call leaves the listed names alone, unless it sends documents to a collection that is
not listed. -/
theorem names_perform_of_fails {s : Store} {call : Call} (h : s.fails call = true) :
    (s.perform call).names = s.names ∨
      ∃ collection documents, call = .ask collection (.insert documents) ∧
        collection ∉ s.names := by
  cases call with
  | ask collection r =>
      have hnames {t : Store} (hkeys : Keyed.keys t.collections = Keyed.keys s.collections) :
          t.names = s.names := by
        rw [names, names, hkeys]
      rcases keys_perform_ask s collection r with ⟨_, hkeys⟩ | ⟨hsends, hkeys⟩
      · exact Or.inl (hnames hkeys)
      · by_cases hmem : collection ∈ Keyed.keys s.collections
        · exact Or.inl (hnames (hkeys.trans (keys_put_of_mem hmem {})))
        · apply Or.inr
          rcases creates_or_refuses_or_mem (s := s) hsends with ⟨_, hok⟩ | hrefuses | hknown
          · cases h.symm.trans hok
          · rcases hrefuses.1 with ⟨documents, hcall⟩
            exact ⟨collection, documents, hcall, fun hlisted => hmem (mem_names.mp hlisted)⟩
          · exact absurd hknown hmem
  | drop collection =>
      cases h

/-- The collections that are listed, each once and in order, are those that have taken documents
or an index since they were last removed, and those that have refused documents since.  Other
calls that fail change nothing about them. -/
theorem names_performAll (serial : Nat) (calls : List Call) :
    let s := performAll ⟨[], serial⟩ calls
    let past := history ⟨[], serial⟩ calls
    s.names.Pairwise (· < ·) ∧
      (∀ name, name ∈ s.names ↔
        Since (Event.Drops name) (Event.Creates name) past ∨
          Since (Event.Drops name) (Event.Refuses name) past) ∧
      ∀ call, s.fails call = true →
        (s.perform call).names = s.names ∨
          ∃ collection documents, call = .ask collection (.insert documents) ∧
            collection ∉ s.names := by
  intro s past
  have haccounted : Accounted past s := (accounted_empty serial).performAll calls
  refine ⟨pairwise_names haccounted.distinct, ?_, fun _ => names_perform_of_fails⟩
  intro name
  rw [mem_names]
  exact haccounted.known name

/-- A document sent twice is refused the second time, and its collection is listed all along. -/
theorem names_performAll_twice :
    let send : Call := .ask "pets" (.insert [[(storedIdField, .string "rex")]])
    let s := performAll empty [send]
    s.fails send = true ∧ (s.perform send).names = s.names ∧ "pets" ∈ s.names := by
  intro send s
  have hfails : s.fails send = true := by
    decide +kernel
  have hlisted : "pets" ∈ s.names := by
    decide +kernel
  refine ⟨hfails, ?_, hlisted⟩
  rcases (names_performAll firstSerial [send]).2.2 send hfails with hnames | hother
  · exact hnames
  · rcases hother with ⟨collection, documents, hcall, hnew⟩
    rw [← (Call.ask.inj hcall).1] at hnew
    exact absurd hlisted hnew

/-- Documents that are refused leave an empty collection behind. -/
theorem refused_listed :
    ¬ ∀ (serial : Nat) (calls : List Call),
      (∀ name, name ∈ (performAll ⟨[], serial⟩ calls).names ↔
        Since (Event.Drops name) (Event.Creates name) (history ⟨[], serial⟩ calls)) ∧
      ∀ call, (performAll ⟨[], serial⟩ calls).fails call = true →
        ((performAll ⟨[], serial⟩ calls).perform call).names =
          (performAll ⟨[], serial⟩ calls).names := by
  intro h
  let send : Call := .ask "c" (.insert [[(storedIdField, .int32 1)], [(storedIdField, .int32 1)]])
  have hfails : (performAll ⟨[], 0⟩ []).fails send = true := by
    decide +kernel
  have hnames : ((performAll ⟨[], 0⟩ []).perform send).names = ["c"] := by
    decide +kernel
  cases hnames.symm.trans ((h 0 []).2 send hfails)

end Store
end DocQuery
