/-
# Objects with operations

A `Machine` is a state and, for every input, a next state and an answer: a store, a journal, a
table.  Its runs are lists of inputs.  What is wanted of a run is proved one step at a time
(`runFrom_invariant`): what every step preserves holds after every run, and a fact about an EARLIER
state is such a predicate too, so this is also the rule for "never again" and "from then on".
-/
import Mathlib.Data.List.Forall2

namespace Resumption

/-- A state with operations: `step s i` is the state after the input `i` and the answer to it. -/
structure Machine (σ ι ο : Type) where
  init : σ
  step : σ → ι → σ × ο

namespace Machine

variable {σ τ ι ο ο' : Type}

/-- The state a list of inputs leads to. -/
def runFrom (M : Machine σ ι ο) (s : σ) (is : List ι) : σ :=
  is.foldl (fun s i => (M.step s i).1) s

/-- The state a list of inputs leads to from the initial one. -/
def run (M : Machine σ ι ο) (is : List ι) : σ := M.runFrom M.init is

variable {M : Machine σ ι ο}

@[simp] theorem runFrom_nil (s : σ) : M.runFrom s [] = s := rfl

@[simp] theorem runFrom_cons (s : σ) (i : ι) (is : List ι) :
    M.runFrom s (i :: is) = M.runFrom (M.step s i).1 is := rfl

theorem runFrom_append (s : σ) (is js : List ι) :
    M.runFrom s (is ++ js) = M.runFrom (M.runFrom s is) js := by
  simp [runFrom]

theorem run_append (is js : List ι) : M.run (is ++ js) = M.runFrom (M.run is) js :=
  runFrom_append _ is js

/-- **The invariant rule.**  What every step preserves, every run preserves. -/
theorem runFrom_invariant {I : σ → Prop} (hstep : ∀ s i, I s → I (M.step s i).1) :
    ∀ (is : List ι) {s : σ}, I s → I (M.runFrom s is)
  | [], _, h => h
  | i :: is, s, h => runFrom_invariant hstep is (hstep s i h)

theorem run_invariant {I : σ → Prop} (hinit : I M.init)
    (hstep : ∀ s i, I s → I (M.step s i).1) (is : List ι) : I (M.run is) :=
  runFrom_invariant hstep is hinit

end Machine

end Resumption
