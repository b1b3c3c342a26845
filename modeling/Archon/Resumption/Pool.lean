/-
# Workers over shared state

Any number of programs, one for every index, and a state they share.  A step lets one worker make
the call it stands at: the environment answers and moves the shared state, as the relation `Env`
allows, and the worker goes on.  Between two calls of one worker the others may take any number of
steps, and a worker that is never scheduled again has crashed, so every interleaving and every
crash point is a run.

The invariant rule (`Pool.invariant`) is about the shared state and the workers' HISTORIES.  What
the program texts allow enters through the predicate each of them obeys: to know that a worker
makes a call is to know what it has done before.
-/
import Archon.Resumption.Program
import Mathlib.Logic.Function.Basic

namespace Resumption

/-- The state of a run: what is shared, and what every worker has done and has still to do. -/
structure Pool (ι σ : Type) (E : Type) (R : E → Type) (ε α : Type) where
  shared : σ
  history : ι → List (Event E R)
  program : ι → Program E R ε α

namespace Pool

variable {ι σ E : Type} {R : E → Type} {ε α : Type} [DecidableEq ι]

/-- No worker has done anything yet. -/
def start (s : σ) (p : ι → Program E R ε α) : Pool ι σ E R ε α := ⟨s, fun _ => [], p⟩

/-- The worker `i` makes the call `e`, is answered `r`, and goes on as `q`. -/
def after (P : Pool ι σ E R ε α) (i : ι) (e : E) (r : R e) (s : σ) (q : Program E R ε α) :
    Pool ι σ E R ε α where
  shared := s
  history := Function.update P.history i (P.history i ++ [⟨e, r⟩])
  program := Function.update P.program i q

/-- One step: some worker makes the call it stands at. -/
inductive Step (Env : σ → (e : E) → R e → σ → Prop) (P : Pool ι σ E R ε α) :
    Pool ι σ E R ε α → Prop
  | call {i : ι} {e : E} {k : R e → Program E R ε α} {r : R e} {s : σ}
      (hp : P.program i = .call e k) (henv : Env P.shared e r s) :
      Step Env P (P.after i e r s (k r))

/-- Any number of steps, each of which satisfies `Ok` of the state before it and the one after. -/
inductive Run (Env : σ → (e : E) → R e → σ → Prop)
    (Ok : Pool ι σ E R ε α → Pool ι σ E R ε α → Prop) (P : Pool ι σ E R ε α) :
    Pool ι σ E R ε α → Prop
  | refl : Run Env Ok P P
  | step {P' P'' : Pool ι σ E R ε α} (hrun : Run Env Ok P P') (hstep : Step Env P' P'')
      (hok : Ok P' P'') : Run Env Ok P P''

variable {Env : σ → (e : E) → R e → σ → Prop}
  {Ok : Pool ι σ E R ε α → Pool ι σ E R ε α → Prop}

/-- What the workers' texts allow stays true of what they have still to do. -/
theorem obeys_step {I : ι → List (Event E R) → E → Prop}
    {Q : ι → List (Event E R) → Except ε α → Prop} {P P' : Pool ι σ E R ε α}
    (h : ∀ i, (P.program i).Obeys (I i) (Q i) (P.history i)) (hstep : Step Env P P') :
    ∀ i, (P'.program i).Obeys (I i) (Q i) (P'.history i) := by
  cases hstep with
  | @call j e k r s hp henv =>
    intro i
    by_cases hij : i = j
    · subst hij
      have hi := h i
      rw [hp] at hi
      simpa [after] using hi.2 r
    · simpa [after, hij] using h i

/-- What the texts allow stays true along a run. -/
theorem Run.obeys {I : ι → List (Event E R) → E → Prop}
    {Q : ι → List (Event E R) → Except ε α → Prop} {P P' : Pool ι σ E R ε α} (hrun : Run Env Ok P P')
    (h : ∀ i, (P.program i).Obeys (I i) (Q i) (P.history i)) :
    ∀ i, (P'.program i).Obeys (I i) (Q i) (P'.history i) := by
  induction hrun with
  | refl => exact h
  | step _ hstep _ ih => exact obeys_step ih hstep

/-- **The invariant rule.**  `Inv` speaks of the shared state and the histories.  It is preserved
if it survives every call that the worker's text allows after its history and that the environment
answers. -/
theorem invariant {I : ι → List (Event E R) → E → Prop}
    {Q : ι → List (Event E R) → Except ε α → Prop} {Inv : σ → (ι → List (Event E R)) → Prop}
    {P P' : Pool ι σ E R ε α} (hrun : Run Env Ok P P')
    (hobeys : ∀ i, (P.program i).Obeys (I i) (Q i) (P.history i))
    (hinit : Inv P.shared P.history)
    (hstep : ∀ (P₁ : Pool ι σ E R ε α) i e k r s, Inv P₁.shared P₁.history →
      P₁.program i = .call e k → I i (P₁.history i) e → Env P₁.shared e r s →
      Ok P₁ (P₁.after i e r s (k r)) →
      Inv s (Function.update P₁.history i (P₁.history i ++ [⟨e, r⟩]))) :
    Inv P'.shared P'.history ∧
      ∀ i, (P'.program i).Obeys (I i) (Q i) (P'.history i) := by
  induction hrun with
  | refl => exact ⟨hinit, hobeys⟩
  | @step P₁ P₂ _ hst hok ih =>
    obtain ⟨hinv, hob⟩ := ih
    refine ⟨?_, obeys_step hob hst⟩
    cases hst with
    | @call i e k r s hp henv =>
      have hi := hob i
      rw [hp] at hi
      exact hstep P₁ i e k r s hinv hp hi.1 henv hok

/-! ## Schedules -/

/-- The calls of `h` are answered so on the way from one shared state to another. -/
inductive Moves (Env : σ → (e : E) → R e → σ → Prop) : σ → List (Event E R) → σ → Prop
  | nil (s : σ) : Moves Env s [] s
  | cons {s s' s'' : σ} {e : E} {r : R e} {h : List (Event E R)} (henv : Env s e r s')
      (hrest : Moves Env s' h s'') : Moves Env s (⟨e, r⟩ :: h) s''

/-- **One worker is scheduled alone**, and makes the calls of `h`. -/
theorem Run.alone {P₀ P : Pool ι σ E R ε α} {i : ι} {q : Program E R ε α} {h : List (Event E R)}
    {s : σ} (hrun : Run Env Ok P₀ P) (hr : (P.program i).Reaches h q) (hm : Moves Env P.shared h s)
    (hok : ∀ (P' : Pool ι σ E R ε α) e r s q, (⟨e, r⟩ : Event E R) ∈ h → Ok P' (P'.after i e r s q)) :
    ∃ P', Run Env Ok P₀ P' ∧ P'.shared = s ∧ P'.program = Function.update P.program i q ∧
      P'.history = Function.update P.history i (P.history i ++ h) := by
  generalize hp : P.program i = p at hr
  induction hr generalizing P with
  | refl p =>
    cases hm
    exact ⟨P, hrun, rfl, by rw [← hp, Function.update_eq_self], by
      rw [List.append_nil, Function.update_eq_self]⟩
  | @step e k r h q hrest ih =>
    cases hm with
    | cons henv hm =>
      have hrun' := hrun.step (.call hp henv) (hok P e r _ (k r) (List.mem_cons_self ..))
      obtain ⟨P', hrun', hs, hprog, hhist⟩ := ih hrun' hm
        (fun P' e r s q hev => hok P' e r s q (List.mem_cons_of_mem _ hev)) (by simp [after])
      refine ⟨P', hrun', hs, ?_, ?_⟩
      · rw [hprog, after, Function.update_idem]
      · rw [hhist]
        simp [after]

/-- The same, where what is asked of a step depends on what the worker has done by then. -/
theorem Run.alone_after {P₀ P : Pool ι σ E R ε α} {i : ι} {q : Program E R ε α} {h : List (Event E R)}
    {s : σ} (hrun : Run Env Ok P₀ P) (hr : (P.program i).Reaches h q) (hm : Moves Env P.shared h s)
    (hok : ∀ (P' : Pool ι σ E R ε α) h₁ e r h₂ s' q, h = h₁ ++ ⟨e, r⟩ :: h₂ →
      Moves Env P.shared h₁ P'.shared → P'.history i = P.history i ++ h₁ → Ok P' (P'.after i e r s' q)) :
    ∃ P', Run Env Ok P₀ P' ∧ P'.shared = s := by
  generalize hp : P.program i = p at hr
  induction hr generalizing P with
  | refl p =>
    cases hm
    exact ⟨P, hrun, rfl⟩
  | @step e k r h q hrest ih =>
    cases hm with
    | @cons _ s₁ _ _ _ _ henv hm =>
      have hrun' := hrun.step (.call hp henv) (hok P [] e r h s₁ (k r) rfl (.nil _) (by simp))
      refine ih hrun' hm (fun P' h₁ e' r' h₂ s' q hsplit hmoves hhistory => ?_) (by simp [after])
      refine hok P' (⟨e, r⟩ :: h₁) e' r' h₂ s' q (by rw [hsplit]; rfl) (.cons henv hmoves) ?_
      rw [hhistory]
      simp [after]

end Pool

end Resumption
