import DocQuery.Store.Cursor

/-!
# Requests and programs

The operations of a collection are programs that ask a store for one thing
after the other.  A program does not know how its requests are answered, so
that it can be run on any store, and its requests can be looked at.
-/

namespace DocQuery

inductive Request where
  | query (filter : Document) (options : FetchOptions)
  | stream (filter : Document) (options : FetchOptions)
  | aggregate (pipeline : List Document)
  | insert (documents : List Document)
  | update (filter set : Document)
  | delete (filter : Document)
  | count (filter : Document)
  | createIndex (index : Index)

namespace Request

/-- What a request is answered with when it succeeds. -/
abbrev Reply : Request → Type
  | query _ _ => List Document
  | stream _ _ => Feed
  | aggregate _ => List Document
  | insert _ => List Value
  | update _ _ => Acknowledgement
  | delete _ => Acknowledgement
  | count _ => Nat
  | createIndex _ => Unit

abbrev Answer (r : Request) : Type :=
  Except Error r.Reply

end Request

inductive Program (α : Type) where
  | done (result : Except Error α)
  | ask (request : Request) (next : request.Answer → Program α)

namespace Program

def bind : Program α → (α → Program β) → Program β
  | done (.ok a), f => f a
  | done (.error e), _ => done (.error e)
  | ask r next, f => ask r fun answer => bind (next answer) f

instance : Monad Program where
  pure a := done (.ok a)
  bind := bind

def fail (e : Error) : Program α :=
  done (.error e)

def ofExcept (result : Except Error α) : Program α :=
  done result

/-- A request whose error, if it has one, ends the program. -/
def call (r : Request) : Program r.Reply :=
  ask r done

/-- Turns the error that ends a program into a value. -/
def attempt : Program α → Program (Except Error α)
  | done result => done (.ok result)
  | ask r next => ask r fun answer => attempt (next answer)

/-!
# Running

Requests are answered by a function on a state.
-/

abbrev Answering (σ : Type) := σ → (r : Request) → r.Answer × σ

def run (answering : Answering σ) : Program α → σ → Except Error α × σ
  | done result, s => (result, s)
  | ask r next, s =>
      let (answer, s) := answering s r
      run answering (next answer) s

def requests (answering : Answering σ) : Program α → σ → List Request
  | done _, _ => []
  | ask r next, s =>
      let (answer, s) := answering s r
      r :: requests answering (next answer) s

theorem run_bind (answering : Answering σ) (p : Program α) (f : α → Program β) (s : σ) :
    run answering (p.bind f) s =
      match run answering p s with
      | (.ok a, s) => run answering (f a) s
      | (.error e, s) => (.error e, s) := by
  induction p generalizing s with
  | done result =>
      cases result <;> rfl
  | ask r next ih =>
      exact ih _ _

theorem run_call (answering : Answering σ) (r : Request) (s : σ) :
    run answering (call r) s = answering s r :=
  rfl

theorem requests_bind (answering : Answering σ) (p : Program α) (f : α → Program β) (s : σ) :
    requests answering (p.bind f) s =
      requests answering p s ++
        match run answering p s with
        | (.ok a, s) => requests answering (f a) s
        | (.error _, _) => [] := by
  induction p generalizing s with
  | done result =>
      cases result <;> rfl
  | ask r next ih =>
      simp only [bind, requests, run, List.cons_append]
      rw [ih]

end Program

/-!
# The store answers
-/

def Store.answer (collection : String) : Program.Answering Store
  | s, .query filter options => (s.query collection filter options, s)
  | s, .stream filter options =>
      ((s.openStream collection filter options).map fun stream => stream.feed s, s)
  | s, .aggregate pipeline => (s.aggregate collection pipeline, s)
  | s, .insert documents => s.insert collection documents
  | s, .update filter set => s.update collection filter set
  | s, .delete filter => s.delete collection filter
  | s, .count filter => (s.count collection filter, s)
  | s, .createIndex index => s.createIndex collection index

end DocQuery
