/-
# Programs that answer calls

A program may stand between another one and the world: every call of the other is answered by
running a program of its own.  `handle` is that substitution.  A history of the whole is longer
than one of the program inside, and the two are tied by a relation of the reader's choice:

* `obeys_handle`: if the program inside is obedient, and every answering program keeps the relation
  whenever its call was allowed, then the whole is obedient;
* `Answered.reaches`: a history of the program inside whose calls can be answered is a history of
  the whole.
-/
import Archon.Resumption.Program

namespace Resumption

namespace Program

variable {E E' : Type} {R : E → Type} {R' : E' → Type} {ε α β : Type}

/-- Every call is answered by the program that `f` makes of it. -/
def handle (f : (e : E) → Program E' R' ε (R e)) : Program E R ε α → Program E' R' ε α
  | .done r => .done r
  | .call e k => (f e).bind fun r => (k r).handle f

variable {f : (e : E) → Program E' R' ε (R e)}

@[simp] theorem handle_done (r : Except ε α) :
    (.done r : Program E R ε α).handle f = .done r := rfl

@[simp] theorem handle_call (e : E) (k : R e → Program E R ε α) :
    (.call e k : Program E R ε α).handle f = f e >>= fun r => (k r).handle f := rfl

/-- **The rule for answered calls.**  `S` ties a history of the program inside to one of the
whole. -/
theorem obeys_handle {I : List (Event E R) → E → Prop} {Q : List (Event E R) → Except ε α → Prop}
    {I' : List (Event E' R') → E' → Prop} {Q' : List (Event E' R') → Except ε α → Prop}
    {S : List (Event E R) → List (Event E' R') → Prop}
    (hcall : ∀ h H e, S h H → I h e →
      Obeys I' (fun H' r =>
        match r with
        | .ok a => S (h ++ [⟨e, a⟩]) H'
        | .error x => Q' H' (.error x)) H (f e))
    (hdone : ∀ h H r, S h H → Q h r → Q' H r) :
    ∀ {p : Program E R ε α} {h : List (Event E R)} {H : List (Event E' R')}, S h H →
      Obeys I Q h p → Obeys I' Q' H (p.handle f)
  | .done r, h, H, hS, hp => hdone h H r hS hp
  | .call e k, h, H, hS, hp => by
    rw [handle_call, obeys_bind]
    refine (hcall h H e hS hp.1).mono (fun _ _ hi => hi) fun H' r hr => ?_
    cases r with
    | error x => exact hr
    | ok a => exact obeys_handle hcall hdone hr (hp.2 a)

theorem Reaches.bind {p : Program E R ε α} {g : α → Program E R ε β} {a : α}
    {h h' : List (Event E R)} {q : Program E R ε β} (hp : Reaches p h (.done (.ok a)))
    (hg : Reaches (g a) h' q) : Reaches (p >>= g) (h ++ h') q := by
  generalize hr : (.done (.ok a) : Program E R ε α) = r at hp
  induction hp with
  | refl p => subst hr; exact hg
  | step _ ih => exact .step (ih hr)

/-- What reaches a point inside the first part of a sequence. -/
theorem Reaches.bind_left {p q : Program E R ε α} (g : α → Program E R ε β)
    {h : List (Event E R)} (hp : Reaches p h q) : Reaches (p >>= g) h (q >>= g) := by
  induction hp with
  | refl p => exact .refl _
  | step _ ih => exact .step ih

/-- The history `H` is one in which the calls of `h` were answered as `h` records. -/
inductive Answered (f : (e : E) → Program E' R' ε (R e)) :
    List (Event E R) → List (Event E' R') → Prop
  | nil : Answered f [] []
  | cons {e : E} {r : R e} {h : List (Event E R)} {H₁ H₂ : List (Event E' R')}
      (hcall : Reaches (f e) H₁ (.done (.ok r))) (hrest : Answered f h H₂) :
      Answered f (⟨e, r⟩ :: h) (H₁ ++ H₂)

/-- **A history whose calls can be answered is a history of the whole.** -/
theorem Answered.reaches {p q : Program E R ε α} {h : List (Event E R)} {H : List (Event E' R')}
    (hf : Answered f h H) (hp : Reaches p h q) : Reaches (p.handle f) H (q.handle f) := by
  induction hp generalizing H with
  | refl p => cases hf; exact .refl _
  | step _ ih =>
    cases hf with
    | cons hcall hrest => exact hcall.bind (ih hrest)

end Program

end Resumption
