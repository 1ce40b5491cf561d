import DocQuery.Collection.Basic
import DocQuery.Proofs.Outcome

/-!
# Requests of programs

Which requests a program may send, whatever it is answered.  A property of the
state that no such request breaks is kept by every run of the program, also by
one that ends with an error.
-/

namespace DocQuery
namespace Program

/-- Every request that the program can come to has a property. -/
def Sends (p : Request → Prop) : Program α → Prop
  | done _ => True
  | ask r next => p r ∧ ∀ answer, Sends p (next answer)

variable {p : Request → Prop}

theorem Sends.mono {q : Request → Prop} {x : Program α} (h : Sends p x)
    (hpq : ∀ r, p r → q r) : Sends q x := by
  induction x with
  | done result =>
      exact trivial
  | ask r next ih =>
      exact ⟨hpq r h.1, fun answer => ih answer (h.2 answer)⟩

theorem sends_pure (a : α) : Sends p (pure a : Program α) :=
  trivial

theorem sends_fail (e : Error) : Sends p (fail e : Program α) :=
  trivial

theorem sends_call {r : Request} (h : p r) : Sends p (call r) :=
  ⟨h, fun _ => trivial⟩

theorem sends_bind {x : Program α} {f : α → Program β} (hx : Sends p x)
    (hf : ∀ a, Sends p (f a)) : Sends p (x >>= f) := by
  change Sends p (bind x f)
  induction x with
  | done result =>
      cases result with
      | ok a =>
          exact hf a
      | error e =>
          exact trivial
  | ask r next ih =>
      exact ⟨hx.1, fun answer => ih answer (hx.2 answer)⟩

theorem sends_ofExcept_bind {result : Except Error α} {f : α → Program β}
    (hf : ∀ a, result = .ok a → Sends p (f a)) : Sends p (ofExcept result >>= f) := by
  change Sends p (bind (done result) f)
  cases result with
  | ok a =>
      exact hf a rfl
  | error e =>
      exact trivial

theorem run_invariant {σ : Type} {answering : Answering σ} {inv : σ → Prop}
    (hanswer : ∀ s r, inv s → p r → inv (answering s r).2) {program : Program α}
    (hsends : Sends p program) {s : σ} (hs : inv s) : inv (run answering program s).2 := by
  induction program generalizing s with
  | done result =>
      exact hs
  | ask r next ih =>
      exact ih _ (hsends.2 _) (hanswer s r hs hsends.1)

end Program
end DocQuery
