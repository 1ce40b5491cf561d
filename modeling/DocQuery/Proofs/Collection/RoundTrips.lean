import DocQuery.Collection.Basic
import DocQuery.Proofs.Collection.Conversation
import DocQuery.Store.Index

/-!
# Round trips

What each operation of a collection asks a store for, and what it makes of the
answers, whatever these are.  From this it follows for all operations that they
write at most once, that they do not write on account of documents that were
not looked up, and that nothing is asked after a failure, which is reported as
it is.
-/

namespace DocQuery

open Program (Conversation)
open Uniqueness (idsOf)

/-!
# Discipline
-/

namespace Request

def isWrite : Request → Bool
  | insert _ | update _ _ | delete _ => true
  | _ => false

/-- The filter of a request that changes the documents that are there. -/
def changed? : Request → Option Document
  | update filter _ | delete filter => some filter
  | _ => none

end Request

/-- What is wrong with an answer; a write that the store has not acknowledged is wrong as well. -/
def Exchange.fault? : Exchange → Option Error
  | ⟨_, .error e⟩ => some e
  | ⟨.update _ _, .ok a⟩ =>
      if a.acknowledged then none else some (.storage (.unacknowledged "update"))
  | ⟨.delete _, .ok a⟩ =>
      if a.acknowledged then none else some (.storage (.unacknowledged "destroy"))
  | ⟨_, .ok _⟩ => none

/-- There is one write at most, and a fault comes last and is the result. -/
structure Orderly (talk : List Exchange) (result : Except Error α) : Prop where
  oneWrite : (talk.filter fun x => x.request.isWrite).length ≤ 1
  stops : talk.Pairwise fun earlier _ => earlier.fault? = none
  reported : ∀ x ∈ talk, ∀ e, x.fault? = some e → result = .error e

/-- Documents are changed only after some of them were looked up by the same filter. -/
structure Disciplined (talk : List Exchange) (result : Except Error α) : Prop
    extends Orderly talk result where
  lookedUp : ∀ x ∈ talk, ∀ filter, x.request.changed? = some filter →
    ∃ documents, talk.head? = some ⟨.query filter .identifiersOnly, .ok documents⟩ ∧
      idsOf documents ≠ []

/-- Exchanges and results that an operation may come to. -/
abbrev Course (α : Type) :=
  List Exchange → Except Error α → Prop

/-- Whoever answers, a program keeps to a course, and its exchanges are disciplined. -/
def Program.Keeps (p : Program α) (course : Course α) : Prop :=
  ∀ {σ : Type} (answering : Program.Answering σ) (s : σ),
    course (p.exchanges answering s) (p.run answering s).1 ∧
      Disciplined (p.exchanges answering s) (p.run answering s).1

theorem Program.keeps_of_conversation {p : Program α} {course : Course α}
    (hcourse : ∀ talk result, Conversation p talk result → course talk result)
    (hdisciplined : ∀ talk result, course talk result → Disciplined talk result) :
    p.Keeps course := by
  intro σ answering s
  have h := hcourse _ _ (Program.conversation_run answering p s)
  exact ⟨h, hdisciplined _ _ h⟩

/-!
# Courses

The courses of the operations are put together from a few steps.
-/

/-- Something is made ready first; nothing is asked if that is refused. -/
inductive Prepared (plan : Except Error α) (follow : α → Course β) : Course β where
  | refused {e : Error} (h : plan = .error e) : Prepared plan follow [] (.error e)
  | ready {a : α} {talk : List Exchange} {result : Except Error β} (h : plan = .ok a)
      (hfollow : follow a talk result) : Prepared plan follow talk result

/-- A request for reading, and what is made of the reply. -/
structure Reading (α : Type) where
  request : Request
  give : request.Reply → α
  isRead : request.isWrite = false

inductive Reading.Course (r : Reading α) : DocQuery.Course α where
  | failed {e : Error} : Course r [⟨r.request, .error e⟩] (.error e)
  | answered {reply : r.request.Reply} : Course r [⟨r.request, .ok reply⟩] (.ok (r.give reply))

/-- The identifiers of the documents that a filter takes are looked up; nothing more is asked
if there are none. -/
inductive LookedUp (filter : Document) (follow : List Value → Course (List Document)) :
    Course (List Document) where
  | failed {e : Error} :
      LookedUp filter follow [⟨.query filter .identifiersOnly, .error e⟩] (.error e)
  | nothing {documents : List Document} (h : idsOf documents = []) :
      LookedUp filter follow [⟨.query filter .identifiersOnly, .ok documents⟩] (.ok [])
  | found {documents : List Document} {talk : List Exchange} {result : Except Error (List Document)}
      (h : idsOf documents ≠ []) (hfollow : follow (idsOf documents) talk result) :
      LookedUp filter follow (⟨.query filter .identifiersOnly, .ok documents⟩ :: talk) result

namespace Collection

variable (c : Collection)

def finding (q : NativeQuery) : Reading (List Document) :=
  match q.pipeline with
  | some pipeline => ⟨.aggregate pipeline, List.map flattenGroup, rfl⟩
  | none => ⟨.query q.filter q.options, List.map c.schema.decode, rfl⟩

def streaming (q : NativeQuery) : Reading Feed :=
  ⟨.stream q.filter q.options,
    fun feed => { feed with documents := feed.documents.map c.schema.decode }, rfl⟩

def counting (filter : Document) : Reading Nat :=
  ⟨.count filter, id, rfl⟩

def rereading (ids : List Value) (give : List Document → List Document) :
    Reading (List Document) :=
  ⟨.query (byIdentifiers ids) {}, fun documents => (give documents).map c.schema.decode, rfl⟩

/-- Encoded documents are inserted, and read again under the identifiers that they were given. -/
inductive Inserting (encoded : List Document) : Course (List Document) where
  | failed {e : Error} : Inserting encoded [⟨.insert encoded, .error e⟩] (.error e)
  | inserted {ids : List Value} {talk : List Exchange} {result : Except Error (List Document)}
      (hread : (c.rereading ids fun stored => pick (byText stored) ids).Course talk result) :
      Inserting encoded (⟨.insert encoded, .ok ids⟩ :: talk) result

inductive Writing (filter set : Document) : Course Unit where
  | nothing (h : set = []) : Writing filter set [] (.ok ())
  | failed {e : Error} (h : set ≠ []) :
      Writing filter set [⟨.update filter set, .error e⟩] (.error e)
  | unacknowledged {a : Acknowledgement} (h : set ≠ []) (ha : a.acknowledged = false) :
      Writing filter set [⟨.update filter set, .ok a⟩]
        (.error (.storage (.unacknowledged "update")))
  | written {a : Acknowledgement} (h : set ≠ []) (ha : a.acknowledged = true) :
      Writing filter set [⟨.update filter set, .ok a⟩] (.ok ())

/-- Fields are written and the documents read again, which are known by their identifiers. -/
inductive Rewriting (filter set : Document) (ids : List Value) : Course (List Document) where
  | failed {talk : List Exchange} {e : Error} (h : Writing filter set talk (.error e)) :
      Rewriting filter set ids talk (.error e)
  | rewritten {first talk : List Exchange} {result : Except Error (List Document)}
      (h : Writing filter set first (.ok ())) (hread : (c.rereading ids id).Course talk result) :
      Rewriting filter set ids (first ++ talk) result

/-- Documents are deleted, of which the identifiers are then given back. -/
inductive Deleting (filter : Document) (ids : List Value) : Course (List Document) where
  | failed {e : Error} : Deleting filter ids [⟨.delete filter, .error e⟩] (.error e)
  | unacknowledged {a : Acknowledgement} (ha : a.acknowledged = false) :
      Deleting filter ids [⟨.delete filter, .ok a⟩]
        (.error (.storage (.unacknowledged "destroy")))
  | deleted {a : Acknowledgement} (ha : a.acknowledged = true) :
      Deleting filter ids [⟨.delete filter, .ok a⟩]
        (.ok (ids.map fun id => c.schema.decode (identifierRow id)))

/-- Nothing is asked to insert no documents. -/
inductive InsertingAll (batch : List Document) : Course (List Document) where
  | nothing (h : batch = []) : InsertingAll batch [] (.ok [])
  | some {talk : List Exchange} {result : Except Error (List Document)} (h : batch ≠ [])
      (hinsert : Prepared (encodeAll c.schema batch) c.Inserting talk result) :
      InsertingAll batch talk result

/-- A document is inserted as a batch of its own, of which the last document is given. -/
inductive InsertingOne (values : Document) : Course Document where
  | failed {talk : List Exchange} {e : Error} (h : c.InsertingAll [values] talk (.error e)) :
      InsertingOne values talk (.error e)
  | inserted {talk : List Exchange} {stored : List Document} {d : Document}
      (h : c.InsertingAll [values] talk (.ok stored)) (hd : stored.getLast? = some d) :
      InsertingOne values talk (.ok d)
  | notReadBack {talk : List Exchange} (h : c.InsertingAll [values] talk (.ok [])) :
      InsertingOne values talk (.error (.storage .notReadBack))

/-- The filter and the fields of an update, without the identifier. -/
def rewrite (condition : Option Condition) (values : Document) :
    Except Error (Document × Document) := do
  let filter ← c.compiler.filter? condition
  let encoded ← c.schema.encode values
  return (filter, Keyed.erase encoded storedIdField)

/-!
# Taking the courses
-/

end Collection

theorem Prepared.of_conversation {plan : Except Error α} {f : α → Program β}
    {follow : α → Course β} {talk : List Exchange} {result : Except Error β}
    (hf : ∀ a talk result, Conversation (f a) talk result → follow a talk result)
    (h : Conversation (Program.ofExcept plan >>= f) talk result) :
    Prepared plan follow talk result := by
  rcases h.of_ofExcept_seq with ⟨e, hplan, rfl, rfl⟩ | ⟨a, hplan, h⟩
  · exact Prepared.refused hplan
  · exact Prepared.ready hplan (hf a talk result h)

theorem Reading.course_of_conversation (r : Reading α) {talk : List Exchange}
    {result : Except Error α}
    (h : Conversation (Program.call r.request >>= fun reply => pure (r.give reply)) talk result) :
    r.Course talk result := by
  rcases h.of_call_seq with ⟨e, rfl, rfl⟩ | ⟨reply, rest, rfl, hrest⟩
  · exact Reading.Course.failed
  · obtain ⟨rfl, rfl⟩ := hrest.of_pure
    exact Reading.Course.answered

namespace Collection

variable (c : Collection)

theorem lookedUp_of_conversation {filter : Document} {f : List Value → Program (List Document)}
    {follow : List Value → Course (List Document)} {talk : List Exchange}
    {result : Except Error (List Document)}
    (hf : ∀ ids talk result, Conversation (f ids) talk result → follow ids talk result)
    (h : Conversation
      (captureIds filter >>= fun ids => if ids.isEmpty then return [] else f ids) talk result) :
    LookedUp filter follow talk result := by
  rcases Conversation.of_seq h with ⟨e, hids, rfl⟩ | ⟨ids, first, rest, hids, h, rfl⟩
  · rcases Conversation.of_call_seq hids with ⟨e, rfl, he⟩ | ⟨documents, rest, rfl, hrest⟩
    · cases he
      exact LookedUp.failed
    · cases hrest
  · rcases Conversation.of_call_seq hids with ⟨e, rfl, he⟩ | ⟨documents, talk, rfl, hrest⟩
    · cases he
    · cases hrest
      change Conversation (if (idsOf documents).isEmpty then pure [] else f (idsOf documents)) rest
        result at h
      cases hids : idsOf documents with
      | nil =>
          rw [hids] at h
          obtain ⟨rfl, rfl⟩ := Conversation.of_pure h
          exact LookedUp.nothing hids
      | cons id ids =>
          rw [hids] at h
          have hf := hf _ _ _ h
          rw [← hids] at hf
          exact LookedUp.found (hids ▸ List.cons_ne_nil id ids) hf

theorem find_course {criteria : Criteria} {talk : List Exchange}
    {result : Except Error (List Document)} (h : Conversation (c.find criteria) talk result) :
    Prepared (c.compiler.compile criteria) (fun q => (c.finding q).Course) talk result := by
  apply Prepared.of_conversation _ h
  intro q talk result h
  apply Reading.course_of_conversation
  rcases q with ⟨filter, options, _ | pipeline⟩
  · exact h
  · exact h

theorem stream_course {criteria : Criteria} {talk : List Exchange} {result : Except Error Feed}
    (h : Conversation (c.stream criteria) talk result) :
    Prepared (c.compiler.compile criteria.withoutChoice.withoutGrouping)
      (fun q => (c.streaming q).Course) talk result :=
  Prepared.of_conversation (fun q _ _ => (c.streaming q).course_of_conversation) h

theorem count_course {condition : Option Condition} {talk : List Exchange}
    {result : Except Error Nat} (h : Conversation (c.count condition) talk result) :
    Prepared (c.compiler.filter? condition) (fun filter => (counting filter).Course)
      talk result := by
  apply Prepared.of_conversation _ h
  intro filter talk result h
  have htalk : talk = [⟨.count filter, result⟩] := h.of_call
  rw [htalk]
  cases result with
  | error e =>
      exact @Reading.Course.failed _ (counting filter) e
  | ok n =>
      exact @Reading.Course.answered _ (counting filter) n

theorem insertMany_course {batch : List Document} {talk : List Exchange}
    {result : Except Error (List Document)} (h : Conversation (c.insertMany batch) talk result) :
    c.InsertingAll batch talk result := by
  cases batch with
  | nil =>
      obtain ⟨rfl, rfl⟩ := Conversation.of_pure h
      exact InsertingAll.nothing rfl
  | cons d batch =>
      apply InsertingAll.some (List.cons_ne_nil d batch)
      apply Prepared.of_conversation _ h
      intro encoded talk result h
      rcases h.of_call_seq with ⟨e, rfl, rfl⟩ | ⟨ids, rest, rfl, hrest⟩
      · exact Inserting.failed
      · exact Inserting.inserted (Reading.course_of_conversation _ hrest)

theorem insert_course {values : Document} {talk : List Exchange} {result : Except Error Document}
    (h : Conversation (c.insert values) talk result) : c.InsertingOne values talk result := by
  rcases Conversation.of_seq h with ⟨e, hall, rfl⟩ | ⟨stored, first, rest, hall, hlast, rfl⟩
  · exact InsertingOne.failed (c.insertMany_course hall)
  · have hall := c.insertMany_course hall
    cases hd : stored.getLast? with
    | some d =>
        simp only [hd] at hlast
        obtain ⟨rfl, rfl⟩ := Conversation.of_pure hlast
        rw [List.append_nil]
        exact InsertingOne.inserted hall hd
    | none =>
        simp only [hd] at hlast
        obtain ⟨rfl, rfl⟩ := Conversation.of_fail hlast
        rw [List.append_nil]
        obtain rfl := List.getLast?_eq_none_iff.mp hd
        exact InsertingOne.notReadBack hall

theorem of_ensure {operation : String} {a : Acknowledgement} {talk : List Exchange}
    {result : Except Error Unit} (h : Conversation (ensure operation a) talk result) :
    (a.acknowledged = false ∧ talk = [] ∧
        result = .error (.storage (.unacknowledged operation))) ∨
      a.acknowledged = true ∧ talk = [] ∧ result = .ok () := by
  unfold ensure at h
  cases ha : a.acknowledged with
  | true =>
      rw [ha] at h
      exact Or.inr ⟨rfl, Conversation.of_pure h⟩
  | false =>
      rw [ha] at h
      exact Or.inl ⟨rfl, Conversation.of_fail h⟩

theorem writeSet_course {filter set : Document} {talk : List Exchange} {result : Except Error Unit}
    (h : Conversation (writeSet filter set) talk result) : Writing filter set talk result := by
  cases set with
  | nil =>
      obtain ⟨rfl, rfl⟩ := Conversation.of_pure h
      exact Writing.nothing rfl
  | cons field set =>
      have hset : field :: set ≠ [] := List.cons_ne_nil field set
      rcases Conversation.of_call_seq h with ⟨e, rfl, rfl⟩ | ⟨a, rest, rfl, hrest⟩
      · exact Writing.failed hset
      · rcases of_ensure hrest with ⟨ha, rfl, rfl⟩ | ⟨ha, rfl, rfl⟩
        · exact Writing.unacknowledged hset ha
        · exact Writing.written hset ha

theorem rewriting_of_conversation {filter set : Document} {ids : List Value}
    {talk : List Exchange} {result : Except Error (List Document)}
    (h : Conversation (writeSet filter set >>= fun _ =>
      Program.call (.query (byIdentifiers ids) {}) >>= fun documents =>
        pure (documents.map c.schema.decode)) talk result) :
    c.Rewriting filter set ids talk result := by
  rcases h.of_seq with ⟨e, hwrite, rfl⟩ | ⟨_, first, rest, hwrite, hread, rfl⟩
  · exact Rewriting.failed (writeSet_course hwrite)
  · exact Rewriting.rewritten (writeSet_course hwrite) (Reading.course_of_conversation _ hread)

theorem update_course {condition : Option Condition} {values : Document} {talk : List Exchange}
    {result : Except Error (List Document)}
    (h : Conversation (c.update condition values) talk result) :
    Prepared (c.rewrite condition values)
      (fun w => LookedUp w.1 (c.Rewriting w.1 w.2)) talk result := by
  rcases h.of_ofExcept_seq with ⟨e, hfilter, rfl, rfl⟩ | ⟨filter, hfilter, h⟩
  · exact Prepared.refused (by rw [rewrite, hfilter]; rfl)
  rcases h.of_ofExcept_seq with ⟨e, hencode, rfl, rfl⟩ | ⟨encoded, hencode, h⟩
  · exact Prepared.refused (by rw [rewrite, hfilter, hencode]; rfl)
  have hplan : c.rewrite condition values = .ok (filter, Keyed.erase encoded storedIdField) := by
    rw [rewrite, hfilter, hencode]
    rfl
  apply Prepared.ready hplan
  exact lookedUp_of_conversation (fun ids _ _ => c.rewriting_of_conversation) h

theorem destroy_course {condition : Option Condition} {talk : List Exchange}
    {result : Except Error (List Document)} (h : Conversation (c.destroy condition) talk result) :
    Prepared (c.compiler.filter? condition) (fun filter => LookedUp filter (c.Deleting filter))
      talk result := by
  apply Prepared.of_conversation _ h
  intro filter talk result h
  apply lookedUp_of_conversation _ h
  intro ids talk result h
  rcases h.of_call_seq with ⟨e, rfl, rfl⟩ | ⟨a, rest, rfl, hrest⟩
  · exact Deleting.failed
  · rcases hrest.of_seq with ⟨e, hensure, rfl⟩ | ⟨_, first, rest, hensure, hpure, rfl⟩
    · rcases of_ensure hensure with ⟨ha, rfl, he⟩ | ⟨_, _, he⟩
      · cases he
        exact Deleting.unacknowledged ha
      · cases he
    · obtain ⟨rfl, rfl⟩ := hpure.of_pure
      rcases of_ensure hensure with ⟨_, _, he⟩ | ⟨ha, rfl, _⟩
      · cases he
      · exact Deleting.deleted ha

/-!
# The courses are disciplined
-/

end Collection

theorem Exchange.fault?_error {r : Request} {e : Error} :
    Exchange.fault? ⟨r, .error e⟩ = some e := by
  cases r <;> rfl

theorem Exchange.fault?_of_isWrite_eq_false {r : Request} {reply : r.Reply}
    (h : r.isWrite = false) : Exchange.fault? ⟨r, .ok reply⟩ = none := by
  cases r with
  | insert documents => cases h
  | update filter set => cases h
  | delete filter => cases h
  | _ => rfl

theorem Request.changed?_of_isWrite_eq_false {r : Request} (h : r.isWrite = false) :
    r.changed? = none := by
  cases r with
  | insert documents => cases h
  | update filter set => cases h
  | delete filter => cases h
  | _ => rfl

section Orderly

variable {talk : List Exchange} {result : Except Error α}

theorem Orderly.nil : Orderly [] result :=
  ⟨Nat.zero_le 1, List.Pairwise.nil, fun _ hx => nomatch hx⟩

theorem Orderly.cons {x : Exchange} (hfault : x.fault? = none)
    (hwrite : x.request.isWrite = false ∨ ∀ y ∈ talk, y.request.isWrite = false)
    (h : Orderly talk result) : Orderly (x :: talk) result := by
  constructor
  · rcases hwrite with hx | htalk
    · rw [List.filter_cons_of_neg (by simp [hx])]
      exact h.oneWrite
    · have hnone : talk.filter (fun y => y.request.isWrite) = [] := by
        rw [List.filter_eq_nil_iff]
        intro y hy
        simp [htalk y hy]
      rw [List.filter_cons, hnone]
      split <;> simp
  · exact List.Pairwise.cons (fun _ _ => hfault) h.stops
  · intro y hy e he
    rcases List.mem_cons.mp hy with rfl | hy
    · rw [hfault] at he
      cases he
    · exact h.reported y hy e he

theorem Orderly.single {x : Exchange} (h : ∀ e, x.fault? = some e → result = .error e) :
    Orderly [x] result := by
  refine ⟨List.length_filter_le _ _, List.pairwise_singleton _ _, ?_⟩
  intro y hy e he
  rw [List.mem_singleton.mp hy] at he
  exact h e he

theorem Orderly.failed {r : Request} {e : Error} :
    Orderly [⟨r, .error e⟩] (.error e : Except Error α) := by
  apply Orderly.single
  intro e' he
  rw [Exchange.fault?_error] at he
  cases he
  rfl

theorem Orderly.answered {x : Exchange} (h : x.fault? = none) : Orderly [x] result :=
  Orderly.cons h (Or.inr fun _ hy => nomatch hy) Orderly.nil

theorem Orderly.disciplined (h : Orderly talk result)
    (hchanged : ∀ x ∈ talk, x.request.changed? = none) : Disciplined talk result := by
  refine ⟨h, ?_⟩
  intro x hx filter hfilter
  rw [hchanged x hx] at hfilter
  cases hfilter

end Orderly

/-- A result may be made something else of, as long as an error stays what it is. -/
theorem Disciplined.of_error_imp {talk : List Exchange} {result : Except Error α}
    {result' : Except Error β} (h : Disciplined talk result)
    (herror : ∀ e, result = .error e → result' = .error e) : Disciplined talk result' :=
  ⟨⟨h.oneWrite, h.stops, fun x hx e he => herror e (h.reported x hx e he)⟩, h.lookedUp⟩

theorem Prepared.disciplined {plan : Except Error α} {follow : α → Course β}
    {talk : List Exchange} {result : Except Error β}
    (hfollow : ∀ a talk result, follow a talk result → Disciplined talk result)
    (h : Prepared plan follow talk result) : Disciplined talk result := by
  cases h with
  | refused hplan =>
      exact Orderly.nil.disciplined fun _ hx => nomatch hx
  | ready hplan h =>
      exact hfollow _ _ _ h

namespace Reading

variable {r : Reading α} {talk : List Exchange} {result : Except Error α}

theorem Course.isWrite_eq_false (h : r.Course talk result) :
    ∀ x ∈ talk, x.request.isWrite = false := by
  intro x hx
  cases h with
  | failed =>
      rw [List.mem_singleton.mp hx]
      exact r.isRead
  | answered =>
      rw [List.mem_singleton.mp hx]
      exact r.isRead

theorem Course.orderly (h : r.Course talk result) : Orderly talk result := by
  cases h with
  | failed =>
      exact Orderly.failed
  | answered =>
      exact Orderly.answered (Exchange.fault?_of_isWrite_eq_false r.isRead)

theorem Course.disciplined (h : r.Course talk result) : Disciplined talk result :=
  h.orderly.disciplined fun x hx =>
    Request.changed?_of_isWrite_eq_false (h.isWrite_eq_false x hx)

end Reading

theorem LookedUp.disciplined {filter : Document} {follow : List Value → Course (List Document)}
    {talk : List Exchange} {result : Except Error (List Document)}
    (horderly : ∀ ids talk result, follow ids talk result → Orderly talk result)
    (hchanged : ∀ ids talk result, follow ids talk result →
      ∀ x ∈ talk, ∀ filter', x.request.changed? = some filter' → filter' = filter)
    (h : LookedUp filter follow talk result) : Disciplined talk result := by
  cases h with
  | failed =>
      exact Orderly.failed.disciplined fun x hx => by rw [List.mem_singleton.mp hx]; rfl
  | nothing =>
      exact (Orderly.answered rfl).disciplined fun x hx => by rw [List.mem_singleton.mp hx]; rfl
  | found hids h =>
      refine ⟨Orderly.cons rfl (Or.inl rfl) (horderly _ _ _ h), ?_⟩
      intro x hx filter' hfilter
      rcases List.mem_cons.mp hx with rfl | hx
      · cases hfilter
      · rw [hchanged _ _ _ h x hx filter' hfilter]
        exact ⟨_, rfl, hids⟩

namespace Collection

variable {c : Collection} {talk : List Exchange} {result : Except Error (List Document)}

theorem Inserting.disciplined {encoded : List Document} (h : c.Inserting encoded talk result) :
    Disciplined talk result := by
  cases h with
  | failed =>
      exact Orderly.failed.disciplined fun x hx => by rw [List.mem_singleton.mp hx]; rfl
  | inserted hread =>
      have hreads := hread.isWrite_eq_false
      apply (Orderly.cons rfl (Or.inr hreads) hread.orderly).disciplined
      intro x hx
      rcases List.mem_cons.mp hx with rfl | hx
      · rfl
      · exact Request.changed?_of_isWrite_eq_false (hreads x hx)

theorem InsertingAll.disciplined {batch : List Document} (h : c.InsertingAll batch talk result) :
    Disciplined talk result := by
  cases h with
  | nothing =>
      exact Orderly.nil.disciplined fun _ hx => nomatch hx
  | some _ hinsert =>
      exact hinsert.disciplined fun _ _ _ => Inserting.disciplined

theorem InsertingOne.disciplined {values : Document} {result : Except Error Document}
    (h : c.InsertingOne values talk result) : Disciplined talk result := by
  cases h with
  | failed h =>
      apply h.disciplined.of_error_imp
      intro e he
      cases he
      rfl
  | inserted h =>
      exact h.disciplined.of_error_imp fun e he => nomatch he
  | notReadBack h =>
      exact h.disciplined.of_error_imp fun e he => nomatch he

section Writing

variable {filter set : Document} {ids : List Value}

theorem Writing.changed {result : Except Error Unit} (h : Writing filter set talk result) :
    ∀ x ∈ talk, ∀ filter', x.request.changed? = some filter' → filter' = filter := by
  intro x hx filter' hfilter
  cases h with
  | nothing =>
      cases hx
  | _ =>
      rw [List.mem_singleton.mp hx] at hfilter
      cases hfilter
      rfl

theorem Rewriting.changed (h : c.Rewriting filter set ids talk result) :
    ∀ x ∈ talk, ∀ filter', x.request.changed? = some filter' → filter' = filter := by
  cases h with
  | failed h =>
      exact h.changed
  | rewritten h hread =>
      intro x hx filter' hfilter
      rcases List.mem_append.mp hx with hx | hx
      · exact h.changed x hx filter' hfilter
      · rw [Request.changed?_of_isWrite_eq_false (hread.isWrite_eq_false x hx)] at hfilter
        cases hfilter

theorem Rewriting.orderly (h : c.Rewriting filter set ids talk result) :
    Orderly talk result := by
  cases h with
  | failed h =>
      cases h with
      | failed _ =>
          exact Orderly.failed
      | unacknowledged _ ha =>
          apply Orderly.single
          intro e he
          simpa [Exchange.fault?, ha] using he
  | rewritten h hread =>
      cases h with
      | nothing _ =>
          exact hread.orderly
      | written _ ha =>
          exact Orderly.cons (by simp [Exchange.fault?, ha]) (Or.inr hread.isWrite_eq_false)
            hread.orderly

theorem Deleting.changed (h : c.Deleting filter ids talk result) :
    ∀ x ∈ talk, ∀ filter', x.request.changed? = some filter' → filter' = filter := by
  intro x hx filter' hfilter
  cases h with
  | _ =>
      rw [List.mem_singleton.mp hx] at hfilter
      cases hfilter
      rfl

theorem Deleting.orderly (h : c.Deleting filter ids talk result) : Orderly talk result := by
  cases h with
  | failed =>
      exact Orderly.failed
  | unacknowledged ha =>
      apply Orderly.single
      intro e he
      simpa [Exchange.fault?, ha] using he
  | deleted ha =>
      exact Orderly.answered (by simp [Exchange.fault?, ha])

end Writing

/-- On any store and whatever it answers, each operation takes the course laid out for it. -/
theorem round_trips (c : Collection) :
    (∀ criteria, (c.find criteria).Keeps
      (Prepared (c.compiler.compile criteria) fun q => (c.finding q).Course)) ∧
    (∀ criteria, (c.stream criteria).Keeps
      (Prepared (c.compiler.compile criteria.withoutChoice.withoutGrouping)
        fun q => (c.streaming q).Course)) ∧
    (∀ condition, (c.count condition).Keeps
      (Prepared (c.compiler.filter? condition) fun filter => (counting filter).Course)) ∧
    (∀ batch, (c.insertMany batch).Keeps (c.InsertingAll batch)) ∧
    (∀ values, (c.insert values).Keeps (c.InsertingOne values)) ∧
    (∀ condition values, (c.update condition values).Keeps
      (Prepared (c.rewrite condition values) fun w => LookedUp w.1 (c.Rewriting w.1 w.2))) ∧
    ∀ condition, (c.destroy condition).Keeps
      (Prepared (c.compiler.filter? condition) fun filter =>
        LookedUp filter (c.Deleting filter)) := by
  refine ⟨?find, ?stream, ?count, ?insertMany, ?insert, ?update, ?destroy⟩
  case find =>
    intro criteria
    apply Program.keeps_of_conversation fun _ _ => c.find_course
    exact fun _ _ => Prepared.disciplined fun _ _ _ => Reading.Course.disciplined
  case stream =>
    intro criteria
    apply Program.keeps_of_conversation fun _ _ => c.stream_course
    exact fun _ _ => Prepared.disciplined fun _ _ _ => Reading.Course.disciplined
  case count =>
    intro condition
    apply Program.keeps_of_conversation fun _ _ => c.count_course
    exact fun _ _ => Prepared.disciplined fun _ _ _ => Reading.Course.disciplined
  case insertMany =>
    intro batch
    exact Program.keeps_of_conversation (fun _ _ => c.insertMany_course)
      fun _ _ => InsertingAll.disciplined
  case insert =>
    intro values
    exact Program.keeps_of_conversation (fun _ _ => c.insert_course)
      fun _ _ => InsertingOne.disciplined
  case update =>
    intro condition values
    apply Program.keeps_of_conversation fun _ _ => c.update_course
    exact fun _ _ => Prepared.disciplined fun _ _ _ =>
      LookedUp.disciplined (fun _ _ _ => Rewriting.orderly) fun _ _ _ => Rewriting.changed
  case destroy =>
    intro condition
    apply Program.keeps_of_conversation fun _ _ => c.destroy_course
    exact fun _ _ => Prepared.disciplined fun _ _ _ =>
      LookedUp.disciplined (fun _ _ _ => Deleting.orderly) fun _ _ _ => Deleting.changed

end Collection
end DocQuery
