import DocQuery.Collection.Basic

/-!
# The registry

The registry keeps the collections that were defined on a backend, under the
names of their storage.  A later definition takes the place of an earlier one.
-/

namespace DocQuery

/-- A store as the registry sees it: it answers requests on collections and drops them. -/
structure Backend (σ : Type) where
  answer : String → Program.Answering σ
  drop : String → σ → Except Error Unit × σ

def Store.backend : Backend Store where
  answer := Store.answer
  drop collection s := (.ok (), s.drop collection)

structure Registry where
  settings : Settings
  collections : Keyed Collection := []

namespace Registry

def lookup (r : Registry) (identity : String) : Except Error Collection :=
  match Keyed.get? r.collections identity with
  | some c => .ok c
  | none => .error (.notRegistered identity)

def identities (r : Registry) : List String :=
  Sorting.sorted (fun a b => a < b) (Keyed.keys r.collections)

def install (r : Registry) (c : Collection) : Program Unit :=
  if r.settings.installIndexes then c.installIndexes else pure ()

/-- Registers a collection once its indexes are installed. -/
def register (b : Backend σ) (r : Registry) (d : Definition) (s : σ) :
    Except Error Collection × Registry × σ :=
  let c := Collection.ofDefinition d r.settings
  if c.identity.isEmpty then
    (.error (.definition .noIdentity), r, s)
  else
    match (r.install c).run (b.answer c.identity) s with
    | (.error e, s) => (.error e, r, s)
    | (.ok (), s) =>
        (.ok c, { r with collections := Keyed.insert r.collections c.identity c }, s)

def drop (b : Backend σ) (r : Registry) (identity : String) (s : σ) :
    Except Error Unit × Registry × σ :=
  match b.drop identity s with
  | (.error e, s) => (.error e, r, s)
  | (.ok (), s) => (.ok (), { r with collections := Keyed.erase r.collections identity }, s)

end Registry
end DocQuery
