/-
# A program that runs alone

Where nobody else is at work, a program takes a shared state from one value to another and ends with
a result: `Runs`.  `Ensures` is the rule for proving that every such run ends well, and follows the
program text; `runs_of_ensures` is what it yields.  A run that crashes ends nowhere, and is a run of
`Pool` that simply stops.
-/
import Archon.Resumption.Program

namespace Resumption

namespace Program

variable {σ E : Type} {R : E → Type} {ε α β : Type}

/-! ## 1. Runs -/

/-- From one state to another, with a result. -/
inductive Runs (Env : σ → (e : E) → R e → σ → Prop) :
    σ → Program E R ε α → σ → Except ε α → Prop
  | done (s : σ) (x : Except ε α) : Runs Env s (.done x) s x
  | call {s s' s'' : σ} {e : E} {k : R e → Program E R ε α} {r : R e} {x : Except ε α}
      (henv : Env s e r s') (hrest : Runs Env s' (k r) s'' x) : Runs Env s (.call e k) s'' x

variable {Env : σ → (e : E) → R e → σ → Prop} {s s' : σ}

/-! ## 2. What every run ensures -/

/-- However the calls are answered, `Q` holds at the end. -/
def Ensures (Env : σ → (e : E) → R e → σ → Prop) (Q : σ → Except ε α → Prop) :
    σ → Program E R ε α → Prop
  | s, .done x => Q s x
  | s, .call e k => ∀ r s', Env s e r s' → Ensures Env Q s' (k r)

variable {Q Q' : σ → Except ε α → Prop}

@[simp] theorem ensures_done {x : Except ε α} : Ensures Env Q s (.done x) ↔ Q s x := Iff.rfl

@[simp] theorem ensures_call {e : E} {k : R e → Program E R ε α} :
    Ensures Env Q s (.call e k) ↔ ∀ r s', Env s e r s' → Ensures Env Q s' (k r) := Iff.rfl

/-- **Every run ends well.** -/
theorem runs_of_ensures {p : Program E R ε α} {x : Except ε α} (hp : Ensures Env Q s p)
    (hrun : Runs Env s p s' x) : Q s' x := by
  induction hrun with
  | done s x => exact hp
  | call henv _ ih => exact ih (hp _ _ henv)

end Program

end Resumption
