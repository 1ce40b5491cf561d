import DocQuery.Collection.Basic
import DocQuery.Proofs.Collection.Runs

/-!
# Feeding a sink

Whatever a store answers, and whatever a sink refuses, the sink is given the
documents of the stream one by one up to the first failure, and then it is told
once how the stream has gone.  A sink with a log shows in which order it was called.
-/

namespace DocQuery
namespace Sink

/-!
# Calls
-/

inductive Call where
  | write (d : Document)
  | finish (outcome : Except Error Unit)

/-- The same sink, with a log of what it was asked to do. -/
def logged (sink : Sink σ) : Sink (σ × List Call) where
  write s d := ((sink.write s.1 d).1, (sink.write s.1 d).2, s.2 ++ [.write d])
  finish s outcome := (sink.finish s.1 outcome, s.2 ++ [.finish outcome])

def log (written : List Document) (outcome : Except Error Unit) : List Call :=
  written.map .write ++ [.finish outcome]

/-- The sink once it was given some documents, whether it has taken or refused them. -/
def after (sink : Sink σ) (s : σ) (documents : List Document) : σ :=
  documents.foldl (fun s d => (sink.write s d).2) s

def Takes (sink : Sink σ) : σ → List Document → Prop
  | _, [] => True
  | s, d :: rest => (sink.write s d).1 = .ok () ∧ Takes sink (sink.write s d).2 rest

/-- A sink takes documents up to one that it refuses. -/
structure Refuses (sink : Sink σ) (s : σ) (before : List Document) (d : Document) (e : Error) :
    Prop where
  takes : sink.Takes s before
  refuses : (sink.write (sink.after s before) d).1 = .error e

/-- Which documents of a feed are written, and with what outcome. -/
inductive Course (sink : Sink σ) (s : σ) (feed : Feed) :
    List Document → Except Error Unit → Prop where
  | exhausted (htakes : sink.Takes s feed.documents) (hend : feed.error? = none) :
      Course sink s feed feed.documents (.ok ())
  | cutShort {e : Error} (htakes : sink.Takes s feed.documents) (hend : feed.error? = some e) :
      Course sink s feed feed.documents (.error e)
  | refused {before rest : List Document} {d : Document} {e : Error}
      (hdocuments : feed.documents = before ++ d :: rest)
      (hrefuses : sink.Refuses s before d e) :
      Course sink s feed (before ++ [d]) (.error e)

/-!
# Writing
-/

section Writing

variable {sink : Sink σ} {s : σ}

theorem takes_append (documents others : List Document) :
    sink.Takes s (documents ++ others) ↔
      sink.Takes s documents ∧ sink.Takes (sink.after s documents) others := by
  induction documents generalizing s with
  | nil =>
      exact (and_iff_right trivial).symm
  | cons d rest ih =>
      exact (and_congr_right' ih).trans and_assoc.symm

theorem Refuses.not_takes {before rest : List Document} {d : Document} {e : Error}
    (h : sink.Refuses s before d e) : ¬ sink.Takes s (before ++ d :: rest) := by
  intro htakes
  rcases ((takes_append before (d :: rest)).mp htakes).2 with ⟨hok, -⟩
  rw [h.refuses] at hok
  cases hok

theorem writeAll_cons_of_ok {d : Document} (h : (sink.write s d).1 = .ok ())
    (rest : List Document) :
    sink.writeAll s (d :: rest) = sink.writeAll (sink.write s d).2 rest := by
  have hwrite : sink.write s d = (.ok (), (sink.write s d).2) := Prod.ext h rfl
  rw [writeAll, hwrite]

theorem writeAll_of_takes {documents : List Document} (h : sink.Takes s documents) :
    sink.writeAll s documents = (.ok (), sink.after s documents) := by
  induction documents generalizing s with
  | nil =>
      rfl
  | cons d rest ih =>
      rw [writeAll_cons_of_ok h.1]
      exact ih h.2

theorem writeAll_of_refuses {before : List Document} {d : Document} {e : Error}
    (h : sink.Refuses s before d e) (rest : List Document) :
    sink.writeAll s (before ++ d :: rest) = (.error e, sink.after s (before ++ [d])) := by
  induction before generalizing s with
  | nil =>
      have hwrite : sink.write s d = (.error e, (sink.write s d).2) := Prod.ext h.refuses rfl
      rw [List.nil_append, writeAll, hwrite]
      rfl
  | cons first before ih =>
      rw [List.cons_append, writeAll_cons_of_ok h.takes.1]
      exact ih ⟨h.takes.2, h.refuses⟩

theorem takes_or_refuses (sink : Sink σ) (s : σ) (documents : List Document) :
    sink.Takes s documents ∨
      ∃ before d rest e, documents = before ++ d :: rest ∧ sink.Refuses s before d e := by
  induction documents generalizing s with
  | nil =>
      exact .inl trivial
  | cons d rest ih =>
      cases hwrite : (sink.write s d).1 with
      | error e =>
          exact .inr ⟨[], d, rest, e, rfl, trivial, hwrite⟩
      | ok _ =>
          rcases ih (sink.write s d).2 with htakes | ⟨before, d', rest', e, hrest, hrefuses⟩
          · exact .inl ⟨hwrite, htakes⟩
          · refine .inr ⟨d :: before, d', rest', e, ?_, ⟨hwrite, hrefuses.takes⟩,
              hrefuses.refuses⟩
            rw [hrest, List.cons_append]

theorem exists_course (sink : Sink σ) (s : σ) (feed : Feed) :
    ∃ written outcome, sink.Course s feed written outcome := by
  rcases takes_or_refuses sink s feed.documents with
    htakes | ⟨before, d, rest, e, hdocuments, hrefuses⟩
  · cases hend : feed.error? with
    | none =>
        exact ⟨_, _, .exhausted htakes hend⟩
    | some e =>
        exact ⟨_, _, .cutShort htakes hend⟩
  · exact ⟨_, _, .refused hdocuments hrefuses⟩

theorem Course.writeFeed_eq {feed : Feed} {written : List Document} {outcome : Except Error Unit}
    (h : sink.Course s feed written outcome) :
    sink.writeFeed s feed = (outcome, sink.after s written) := by
  cases h with
  | exhausted htakes hend =>
      rw [writeFeed, writeAll_of_takes htakes, hend]
  | cutShort htakes hend =>
      rw [writeFeed, writeAll_of_takes htakes, hend]
  | refused hdocuments hrefuses =>
      rw [writeFeed, hdocuments, writeAll_of_refuses hrefuses]

theorem Course.outcome_eq_ok_iff {feed : Feed} {written : List Document}
    {outcome : Except Error Unit} (h : sink.Course s feed written outcome) :
    outcome = .ok () ↔ feed.error? = none ∧ sink.Takes s feed.documents := by
  cases h with
  | exhausted htakes hend =>
      exact iff_of_true rfl ⟨hend, htakes⟩
  | cutShort htakes hend =>
      refine iff_of_false nofun ?_
      rintro ⟨hnone, -⟩
      rw [hend] at hnone
      cases hnone
  | refused hdocuments hrefuses =>
      refine iff_of_false nofun ?_
      rintro ⟨-, htakes⟩
      rw [hdocuments] at htakes
      exact hrefuses.not_takes htakes

/-!
# The log

The log changes neither what a sink takes nor what becomes of it.
-/

theorem after_logged (log : List Call) (documents : List Document) :
    sink.logged.after (s, log) documents =
      (sink.after s documents, log ++ documents.map .write) := by
  induction documents generalizing s log with
  | nil =>
      exact congrArg (Prod.mk s) (List.append_nil log).symm
  | cons d rest ih =>
      rw [List.map_cons, List.append_cons]
      exact ih _

theorem takes_logged (log : List Call) (documents : List Document) :
    sink.logged.Takes (s, log) documents ↔ sink.Takes s documents := by
  induction documents generalizing s log with
  | nil =>
      exact Iff.rfl
  | cons d rest ih =>
      exact and_congr_right' (ih _)

theorem Refuses.logged {before : List Document} {d : Document} {e : Error}
    (h : sink.Refuses s before d e) (log : List Call) :
    sink.logged.Refuses (s, log) before d e := by
  refine ⟨(takes_logged log before).mpr h.takes, ?_⟩
  rw [after_logged]
  exact h.refuses

theorem Course.logged {feed : Feed} {written : List Document} {outcome : Except Error Unit}
    (h : sink.Course s feed written outcome) (log : List Call) :
    sink.logged.Course (s, log) feed written outcome := by
  cases h with
  | exhausted htakes hend =>
      exact .exhausted ((takes_logged log _).mpr htakes) hend
  | cutShort htakes hend =>
      exact .cutShort ((takes_logged log _).mpr htakes) hend
  | refused hdocuments hrefuses =>
      exact .refused hdocuments (hrefuses.logged log)

end Writing

end Sink

/-!
# Streaming

Nothing is written when the criteria cannot be compiled or the store does not
open a stream.  Otherwise the decoded documents take their course.
-/

theorem Program.run_attempt (answering : Answering σ) (p : Program α) (s : σ) :
    run answering p.attempt s = (.ok (run answering p s).1, (run answering p s).2) := by
  induction p generalizing s with
  | done result =>
      rfl
  | ask r next ih =>
      exact ih _ _

namespace Collection

open Program

def decoded (c : Collection) (feed : Feed) : Feed :=
  { feed with documents := feed.documents.map c.schema.decode }

/-- Which documents are written to a sink, with what outcome, and the store after it. -/
inductive Pumped (c : Collection) (criteria : Criteria) (answering : Answering τ) (t : τ)
    (sink : Sink σ) (s : σ) : List Document → Except Error Unit → τ → Prop where
  | uncompiled {e : Error}
      (hcompile : c.compiler.compile criteria.withoutChoice.withoutGrouping = .error e) :
      Pumped c criteria answering t sink s [] (.error e) t
  | unopened {q : NativeQuery} {e : Error} {t' : τ}
      (hcompile : c.compiler.compile criteria.withoutChoice.withoutGrouping = .ok q)
      (hopen : answering t (.stream q.filter q.options) = (.error e, t')) :
      Pumped c criteria answering t sink s [] (.error e) t'
  | opened {q : NativeQuery} {feed : Feed} {t' : τ} {written : List Document}
      {outcome : Except Error Unit}
      (hcompile : c.compiler.compile criteria.withoutChoice.withoutGrouping = .ok q)
      (hopen : answering t (.stream q.filter q.options) = (.ok feed, t'))
      (hcourse : sink.Course s (c.decoded feed) written outcome) :
      Pumped c criteria answering t sink s written outcome t'

section Pumped

variable {c : Collection} {criteria : Criteria} {answering : Answering τ} {t t' : τ}
  {sink : Sink σ} {s : σ} {written : List Document} {outcome : Except Error Unit}

theorem exists_pumped (c : Collection) (criteria : Criteria) (answering : Answering τ) (t : τ)
    (sink : Sink σ) (s : σ) :
    ∃ written outcome t', c.Pumped criteria answering t sink s written outcome t' := by
  cases hcompile : c.compiler.compile criteria.withoutChoice.withoutGrouping with
  | error e =>
      exact ⟨_, _, _, .uncompiled hcompile⟩
  | ok q =>
      rcases hopen : answering t (.stream q.filter q.options) with ⟨e | feed, t'⟩
      · exact ⟨_, _, _, .unopened hcompile hopen⟩
      · rcases Sink.exists_course sink s (c.decoded feed) with ⟨written, outcome, hcourse⟩
        exact ⟨_, _, _, .opened hcompile hopen hcourse⟩

theorem Pumped.logged (h : c.Pumped criteria answering t sink s written outcome t')
    (log : List Sink.Call) :
    c.Pumped criteria answering t sink.logged (s, log) written outcome t' := by
  cases h with
  | uncompiled hcompile =>
      exact .uncompiled hcompile
  | unopened hcompile hopen =>
      exact .unopened hcompile hopen
  | opened hcompile hopen hcourse =>
      exact .opened hcompile hopen (hcourse.logged log)

theorem Pumped.run_pump (h : c.Pumped criteria answering t sink s written outcome t') :
    (c.pump criteria sink s).run answering t = (.ok (outcome, sink.after s written), t') := by
  rw [pump, run_seq, run_attempt, stream, run_ofExcept_seq]
  cases h with
  | uncompiled hcompile =>
      rw [hcompile]
      rfl
  | unopened hcompile hopen =>
      simp only [hcompile]
      rw [run_call_seq, hopen]
      rfl
  | opened hcompile hopen hcourse =>
      simp only [hcompile]
      rw [run_call_seq, hopen]
      exact congrArg (fun result => (Except.ok result, t')) hcourse.writeFeed_eq

theorem Pumped.run_streamInto (h : c.Pumped criteria answering t sink s written outcome t') :
    (c.streamInto criteria sink s).run answering t =
      (.ok (outcome, sink.finish (sink.after s written) outcome), t') := by
  rw [streamInto, run_seq, h.run_pump]
  rfl

theorem Pumped.outcome_eq_ok_iff
    (h : c.Pumped criteria answering t sink s written outcome t') :
    outcome = .ok () ↔
      ∃ q feed, c.compiler.compile criteria.withoutChoice.withoutGrouping = .ok q ∧
        (answering t (.stream q.filter q.options)).1 = .ok feed ∧
        feed.error? = none ∧ sink.Takes s (c.decoded feed).documents := by
  cases h with
  | uncompiled hcompile =>
      refine iff_of_false nofun ?_
      rintro ⟨q, feed, hok, -⟩
      rw [hcompile] at hok
      cases hok
  | unopened hcompile hopen =>
      refine iff_of_false nofun ?_
      rintro ⟨q, feed, hok, hfeed, -⟩
      cases hcompile.symm.trans hok
      rw [hopen] at hfeed
      cases hfeed
  | opened hcompile hopen hcourse =>
      rw [hcourse.outcome_eq_ok_iff]
      constructor
      · rintro hcomplete
        exact ⟨_, _, hcompile, congrArg Prod.fst hopen, hcomplete⟩
      · rintro ⟨q, feed, hok, hfeed, hcomplete⟩
        cases hcompile.symm.trans hok
        rw [hopen] at hfeed
        cases hfeed
        exact hcomplete

end Pumped

/-- A sink is given the documents of a stream in order, up to the first failure, and is then
told once what the call gives back. -/
theorem streamInto_logged (c : Collection) (criteria : Criteria) (answering : Answering τ) (t : τ)
    (sink : Sink σ) (s : σ) :
    ∃ written outcome t',
      c.Pumped criteria answering t sink s written outcome t' ∧
      (c.streamInto criteria sink s).run answering t =
        (.ok (outcome, sink.finish (sink.after s written) outcome), t') ∧
      (c.streamInto criteria sink.logged (s, [])).run answering t =
        (.ok (outcome, sink.finish (sink.after s written) outcome, Sink.log written outcome),
          t') ∧
      (outcome = .ok () ↔
        ∃ q feed, c.compiler.compile criteria.withoutChoice.withoutGrouping = .ok q ∧
          (answering t (.stream q.filter q.options)).1 = .ok feed ∧
          feed.error? = none ∧ sink.Takes s (c.decoded feed).documents) := by
  rcases exists_pumped c criteria answering t sink s with ⟨written, outcome, t', hpumped⟩
  refine ⟨written, outcome, t', hpumped, hpumped.run_streamInto, ?_, hpumped.outcome_eq_ok_iff⟩
  rw [(hpumped.logged []).run_streamInto, Sink.after_logged]
  rfl

end Collection
end DocQuery
