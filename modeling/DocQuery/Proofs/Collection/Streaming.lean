import DocQuery.Proofs.Collection.Runs
import DocQuery.Proofs.Store.Cursor

/-!
# Streaming and finding

A collection streams whole documents.  What it streams is what it would find, if
nothing is written meanwhile.
-/

namespace DocQuery
namespace Collection

open Outcome
open Program

theorem pipeline_of_compile {c : Compiler} {criteria : Criteria} {q : NativeQuery}
    (h : c.compile criteria.withoutGrouping = .ok q) : q.pipeline = none := by
  simp only [Compiler.compile, bind_eq_ok, pure_eq_ok] at h
  rcases h with ⟨filter, _, pipeline, hpipeline, rfl⟩
  cases hpipeline
  rfl

theorem query_of_run_find {c : Collection} {criteria : Criteria} {s : Store}
    {documents : List Document}
    (h : ((c.find criteria.withoutGrouping).run (Store.answer c.identity) s).1 = .ok documents) :
    ∃ q stored, c.compiler.compile criteria.withoutGrouping = .ok q ∧
      s.query c.identity q.filter q.options = .ok stored ∧
        documents = stored.map c.schema.decode := by
  rw [find, run_ofExcept_seq] at h
  cases hcompile : c.compiler.compile criteria.withoutGrouping with
  | error e =>
      rw [hcompile] at h
      cases h
  | ok q =>
      simp only [hcompile, pipeline_of_compile hcompile] at h
      rw [run_call_seq] at h
      simp only [Store.answer] at h
      cases hquery : s.query c.identity q.filter q.options with
      | error e =>
          rw [hquery] at h
          cases h
      | ok stored =>
          rw [hquery] at h
          cases h
          exact ⟨q, stored, rfl, hquery, rfl⟩

/-- What is found without a choice of fields and a grouping is also streamed, in the same order and
without an error.  Polled one by one the stream of the store gives the stored form of these
documents, and then it is over for good. -/
theorem stream_eq_find (c : Collection) (criteria : Criteria) (s : Store)
    {documents : List Document}
    (h : ((c.find criteria.withoutChoice.withoutGrouping).run (Store.answer c.identity) s).1 =
      .ok documents) :
    (c.stream criteria).run (Store.answer c.identity) s = (.ok ⟨documents, none⟩, s) ∧
      ∃ q stream stored, c.compiler.compile criteria.withoutChoice.withoutGrouping = .ok q ∧
        s.openStream c.identity q.filter q.options = .ok stream ∧
          stream.Yields s stored ∧ documents = stored.map c.schema.decode := by
  rcases query_of_run_find h with ⟨q, stored, hcompile, hquery, rfl⟩
  rcases Store.exists_openStream hquery with ⟨stream, hopen, hyields, hfeed⟩
  refine ⟨?_, q, stream, stored, hcompile, hopen, hyields, rfl⟩
  rw [Collection.stream, run_ofExcept_seq, hcompile]
  simp only
  rw [run_call_seq]
  simp only [Store.answer, hopen, Except.map, hfeed]
  rfl

/-- Pets of two owners, in a collection without attributes. -/
def keepers : Collection :=
  ⟨"pets", ⟨[]⟩, {}⟩

def keptPets : Store :=
  ⟨[("pets", { documents :=
      [[(storedIdField, .int32 1), ("owner", .string "Ada")],
        [(storedIdField, .int32 2), ("owner", .string "Eve")],
        [(storedIdField, .int32 3), ("owner", .string "Ada")],
        [("owner", .string "Ada"), (storedIdField, .int32 4)]] })], 0⟩

/-- The second pet of an owner who has three. -/
def secondOfAda : Criteria :=
  { condition := some (.test "owner" .equal (.string "Ada"))
    skip := some 1
    limit := some 1
    choice := .only ["owner"] }

theorem stream_eq_find_secondOfAda :
    ((keepers.find secondOfAda.withoutChoice.withoutGrouping).run
        (Store.answer keepers.identity) keptPets).1 =
      .ok [[(idField, .int32 3), ("owner", .string "Ada")]] ∧
      (keepers.stream secondOfAda).run (Store.answer keepers.identity) keptPets =
        (.ok ⟨[[(idField, .int32 3), ("owner", .string "Ada")]], none⟩, keptPets) := by
  have hfind : ((keepers.find secondOfAda.withoutChoice.withoutGrouping).run
      (Store.answer keepers.identity) keptPets).1.toOption =
        some [[(idField, .int32 3), ("owner", .string "Ada")]] := by
    decide +kernel
  have hok := toOption_eq_some.mp hfind
  exact ⟨hok, (stream_eq_find keepers secondOfAda keptPets hok).1⟩

end Collection
end DocQuery
