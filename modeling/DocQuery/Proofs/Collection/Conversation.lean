import DocQuery.Collection.Basic
import DocQuery.Store.Index
import Mathlib.Data.List.Basic

/-!
# Conversations with a store

An operation of a collection asks the store for a few things, each of which may
be answered in any way.  Here is every course that a program can then take, and
how the course of a composed program is made of those of its parts.
-/

namespace DocQuery

structure Exchange where
  request : Request
  answer : request.Answer

namespace Program

def exchanges (answering : Answering σ) : Program α → σ → List Exchange
  | done _, _ => []
  | ask r next, s =>
      ⟨r, (answering s r).1⟩ :: exchanges answering (next (answering s r).1) (answering s r).2

/-- A course that a program can take, and the result to which it leads. -/
inductive Conversation : Program α → List Exchange → Except Error α → Prop where
  | done {result : Except Error α} : Conversation (done result) [] result
  | ask {r : Request} {next : r.Answer → Program α} {answer : r.Answer} {talk : List Exchange}
      {result : Except Error α} (h : Conversation (next answer) talk result) :
      Conversation (ask r next) (⟨r, answer⟩ :: talk) result

/-- Whoever answers, and whatever the answers are, a run is such a course. -/
theorem conversation_run (answering : Answering σ) (p : Program α) (s : σ) :
    Conversation p (exchanges answering p s) (run answering p s).1 := by
  induction p generalizing s with
  | done result =>
      exact Conversation.done
  | ask r next ih =>
      exact Conversation.ask (ih _ _)

/-!
# Courses of composed programs
-/

section Composed

variable {talk : List Exchange} {result : Except Error β}

theorem Conversation.of_pure {b : β} (h : Conversation (pure b : Program β) talk result) :
    talk = [] ∧ result = .ok b := by
  cases h
  exact ⟨rfl, rfl⟩

theorem Conversation.of_fail {e : Error} (h : Conversation (fail e : Program β) talk result) :
    talk = [] ∧ result = .error e := by
  cases h
  exact ⟨rfl, rfl⟩

theorem Conversation.of_call {r : Request} {result : r.Answer}
    (h : Conversation (call r) talk result) : talk = [⟨r, result⟩] := by
  cases h with
  | ask h =>
      cases h
      rfl

theorem Conversation.of_ofExcept_seq {x : Except Error α} {f : α → Program β}
    (h : Conversation (ofExcept x >>= f) talk result) :
    (∃ e, x = .error e ∧ talk = [] ∧ result = .error e) ∨
      ∃ a, x = .ok a ∧ Conversation (f a) talk result := by
  change Conversation (bind (Program.done x) f) talk result at h
  cases x with
  | error e =>
      cases h
      exact Or.inl ⟨e, rfl, rfl, rfl⟩
  | ok a =>
      exact Or.inr ⟨a, rfl, h⟩

theorem Conversation.of_call_seq {r : Request} {f : r.Reply → Program β}
    (h : Conversation (call r >>= f) talk result) :
    (∃ e, talk = [⟨r, .error e⟩] ∧ result = .error e) ∨
      ∃ reply rest, talk = ⟨r, .ok reply⟩ :: rest ∧ Conversation (f reply) rest result := by
  change Conversation (Program.ask r fun answer => bind (Program.done answer) f) talk result at h
  cases h with
  | @ask _ _ answer rest _ h =>
      cases answer with
      | error e =>
          cases h
          exact Or.inl ⟨e, rfl, rfl⟩
      | ok reply =>
          exact Or.inr ⟨reply, rest, rfl, h⟩

theorem Conversation.of_seq {p : Program α} {f : α → Program β}
    (h : Conversation (p >>= f) talk result) :
    (∃ e, Conversation p talk (.error e) ∧ result = .error e) ∨
      ∃ a first rest, Conversation p first (.ok a) ∧ Conversation (f a) rest result ∧
        talk = first ++ rest := by
  change Conversation (bind p f) talk result at h
  induction p generalizing talk with
  | done x =>
      cases x with
      | error e =>
          cases h
          exact Or.inl ⟨e, Conversation.done, rfl⟩
      | ok a =>
          exact Or.inr ⟨a, [], talk, Conversation.done, h, rfl⟩
  | ask r next ih =>
      cases h with
      | ask h =>
          rcases ih _ h with ⟨e, hp, he⟩ | ⟨a, first, rest, hp, hf, rfl⟩
          · exact Or.inl ⟨e, Conversation.ask hp, he⟩
          · exact Or.inr ⟨a, _, rest, Conversation.ask hp, hf, rfl⟩

end Composed

end Program
end DocQuery
