/-
# Programs that call out

An asynchronous function is, to a proof, the calls it makes and what it does with each answer.
`Program` is that and nothing more: it is finished, with a value or an error, or it makes a call
and goes on with whatever the answer is.  Nothing is said about the answers, so a statement about
a program is a statement about every behaviour of its collaborators.

`Reaches p h q` says that `p`, answered as the history `h` records, stands at `q`.  `Obeys I Q`
is the rule for proving things about all such `h` without mentioning them: `I` holds at every call
of the history so far, `Q` at every end.  `obeys_bind` follows the program text, and
`Obeys.call_of_reaches` and `Obeys.done_of_reaches` are what a proof by it yields.
-/
import Mathlib.Tactic.TypeStar

namespace Resumption

/-- A program over the calls `E`, a call `e` being answered by an `R e`. -/
inductive Program (E : Type) (R : E → Type) (ε α : Type) where
  | done (result : Except ε α)
  | call (e : E) (k : R e → Program E R ε α)

/-- A call that was made, with its answer. -/
abbrev Event (E : Type) (R : E → Type) := (e : E) × R e

namespace Program

variable {E : Type} {R : E → Type} {ε α β : Type}

/-! ## 1. Sequencing -/

/-- Run the first, then the second on its value; an error ends both. -/
def bind : Program E R ε α → (α → Program E R ε β) → Program E R ε β
  | .done (.ok a), f => f a
  | .done (.error e), _ => .done (.error e)
  | .call e k, f => .call e fun r => (k r).bind f

instance : Monad (Program E R ε) where
  pure a := .done (.ok a)
  bind := bind

/-- A computation that makes no call. -/
def lift (r : Except ε α) : Program E R ε α := .done r

/-- A single call. -/
def perform (e : E) : Program E R ε (R e) := .call e fun r => .done (.ok r)

/-- Run the program and hand on how it ended: `try`, with both outcomes. -/
def attempt : Program E R ε α → Program E R ε (Except ε α)
  | .done r => .done (.ok r)
  | .call e k => .call e fun r => (k r).attempt

@[simp] theorem attempt_done (r : Except ε α) :
    (.done r : Program E R ε α).attempt = .done (.ok r) := rfl

@[simp] theorem attempt_call (e : E) (k : R e → Program E R ε α) :
    (Program.call e k).attempt = .call e fun r => (k r).attempt := rfl

@[simp] theorem done_ok_bind (a : α) (f : α → Program E R ε β) :
    ((.done (.ok a) : Program E R ε α) >>= f) = f a := rfl

@[simp] theorem done_error_bind (e : ε) (f : α → Program E R ε β) :
    ((.done (.error e) : Program E R ε α) >>= f) = .done (.error e) := rfl

@[simp] theorem call_bind (e : E) (k : R e → Program E R ε α) (f : α → Program E R ε β) :
    (.call e k >>= f) = .call e fun r => k r >>= f := rfl

@[simp] theorem perform_bind (e : E) (f : R e → Program E R ε β) :
    (perform e >>= f) = .call e f := rfl

@[simp] theorem lift_ok_bind (a : α) (f : α → Program E R ε β) :
    ((lift (.ok a) : Program E R ε α) >>= f) = f a := rfl

@[simp] theorem lift_error_bind (e : ε) (f : α → Program E R ε β) :
    ((lift (.error e) : Program E R ε α) >>= f) = .done (.error e) := rfl

@[simp] theorem pure_eq (a : α) : (pure a : Program E R ε α) = .done (.ok a) := rfl

/-! ## 2. Histories -/

/-- Answered as the history says, the first program stands at the second. -/
inductive Reaches : Program E R ε α → List (Event E R) → Program E R ε α → Prop
  | refl (p : Program E R ε α) : Reaches p [] p
  | step {e : E} {k : R e → Program E R ε α} {r : R e} {h : List (Event E R)}
      {q : Program E R ε α} : Reaches (k r) h q → Reaches (.call e k) (⟨e, r⟩ :: h) q

/-- At every call `I` holds of the history before it, and `Q` at the end. -/
def Obeys (I : List (Event E R) → E → Prop) (Q : List (Event E R) → Except ε α → Prop) :
    List (Event E R) → Program E R ε α → Prop
  | h, .done r => Q h r
  | h, .call e k => I h e ∧ ∀ r, Obeys I Q (h ++ [⟨e, r⟩]) (k r)

variable {I I' : List (Event E R) → E → Prop} {Q Q' : List (Event E R) → Except ε α → Prop}
  {h h' : List (Event E R)}

@[simp] theorem obeys_done {r : Except ε α} : Obeys I Q h (.done r) ↔ Q h r := Iff.rfl

@[simp] theorem obeys_call {e : E} {k : R e → Program E R ε α} :
    Obeys I Q h (.call e k) ↔ I h e ∧ ∀ r, Obeys I Q (h ++ [⟨e, r⟩]) (k r) := Iff.rfl

/-- **The rule for sequencing.** -/
theorem obeys_bind {Q : List (Event E R) → Except ε β → Prop} {f : α → Program E R ε β} :
    ∀ {p : Program E R ε α} {h : List (Event E R)},
      Obeys I Q h (p >>= f) ↔
        Obeys I (fun h' r =>
          match r with
          | .ok a => Obeys I Q h' (f a)
          | .error e => Q h' (.error e)) h p
  | .done (.ok _), _ => Iff.rfl
  | .done (.error _), _ => Iff.rfl
  | .call _ _, _ => and_congr_right fun _ => forall_congr' fun _ => obeys_bind

/-- The rule for a single call and what follows it. -/
theorem obeys_perform {Q : List (Event E R) → Except ε β → Prop} {e : E} {f : R e → Program E R ε β}
    (hI : I h e) (hf : ∀ r, Obeys I Q (h ++ [⟨e, r⟩]) (f r)) : Obeys I Q h (perform e >>= f) :=
  ⟨hI, hf⟩

/-- The rule for a computation that makes no call and what follows it. -/
theorem obeys_lift {Q : List (Event E R) → Except ε β → Prop} {r : Except ε α}
    {f : α → Program E R ε β} (hok : ∀ a, r = .ok a → Obeys I Q h (f a))
    (herr : ∀ e, Q h (.error e)) : Obeys I Q h (lift r >>= f) := by
  rcases r with e | a
  · exact herr e
  · exact hok a rfl

/-- **The rule for `try`.**  However the program ends, it ends well. -/
theorem obeys_attempt {Q : List (Event E R) → Except ε (Except ε α) → Prop} :
    ∀ {p : Program E R ε α} {h : List (Event E R)},
      Obeys I Q h p.attempt ↔ Obeys I (fun h' r => Q h' (.ok r)) h p
  | .done _, _ => Iff.rfl
  | .call _ _, _ => and_congr_right fun _ => forall_congr' fun _ => obeys_attempt

theorem Reaches.attempt {p q : Program E R ε α} {h : List (Event E R)} (hp : Reaches p h q) :
    Reaches p.attempt h q.attempt := by
  induction hp with
  | refl p => exact .refl _
  | step _ ih => exact .step ih

theorem reaches_perform {e : E} {f : R e → Program E R ε β} (r : R e) {q : Program E R ε β}
    (hf : Reaches (f r) h q) : Reaches (perform e >>= f) (⟨e, r⟩ :: h) q :=
  .step hf

theorem reaches_lift {r : Except ε α} {f : α → Program E R ε β} {a : α} {q : Program E R ε β}
    (hr : r = .ok a) (hf : Reaches (f a) h q) : Reaches (lift r >>= f) h q := by
  subst hr
  exact hf

theorem Obeys.mono (hI : ∀ h e, I h e → I' h e) (hQ : ∀ h r, Q h r → Q' h r) :
    ∀ {p : Program E R ε α} {h : List (Event E R)}, Obeys I Q h p → Obeys I' Q' h p
  | .done _, _, hp => hQ _ _ hp
  | .call _ _, _, hp => ⟨hI _ _ hp.1, fun r => (hp.2 r).mono hI hQ⟩

/-- A program adds to its history. -/
theorem Obeys.extends : ∀ {p : Program E R ε α} {h : List (Event E R)}, Obeys I Q h p →
    Obeys I (fun h' r => Q h' r ∧ h <+: h') h p
  | .done _, _, hp => ⟨hp, List.prefix_rfl⟩
  | .call _ _, h, hp => ⟨hp.1, fun r => ((hp.2 r).extends).mono (fun _ _ hi => hi) fun _ _ hq =>
      ⟨hq.1, (List.prefix_append h _).trans hq.2⟩⟩

/-- The rule for a part that has been proved, and what follows it. -/
theorem Obeys.followed {p : Program E R ε α} {f : α → Program E R ε β}
    {Q' : List (Event E R) → Except ε β → Prop} (hp : Obeys I Q h p)
    (hf : ∀ h' a, Q h' (.ok a) → h <+: h' → Obeys I Q' h' (f a))
    (herror : ∀ h' e, Q' h' (.error e)) : Obeys I Q' h (p >>= f) := by
  rw [obeys_bind]
  refine hp.extends.mono (fun _ _ hi => hi) fun h' r hr => ?_
  cases r with
  | error e => exact herror h' e
  | ok a => exact hf h' a hr.1 hr.2

/-- Nothing is asked of a program. -/
theorem obeys_true : ∀ (p : Program E R ε α) (h : List (Event E R)),
    Obeys (fun _ _ => True) (fun _ _ => True) h p
  | .done _, _ => trivial
  | .call _ k, _ => ⟨trivial, fun r => obeys_true (k r) _⟩

/-- The rule for a first part of which nothing is known. -/
theorem obeys_bind_any {Q : List (Event E R) → Except ε β → Prop} {p : Program E R ε α}
    {f : α → Program E R ε β} (hf : ∀ h a, Obeys (fun _ _ => True) Q h (f a))
    (herror : ∀ h e, Q h (.error e)) : Obeys (fun _ _ => True) Q h (p >>= f) := by
  rw [obeys_bind]
  refine (obeys_true p h).mono (fun _ _ h => h) fun h' r _ => ?_
  cases r with
  | error e => exact herror h' e
  | ok a => exact hf h' a

theorem Obeys.of_reaches {p q : Program E R ε α} (hr : Reaches p h' q) :
    ∀ {h : List (Event E R)}, Obeys I Q h p → Obeys I Q (h ++ h') q := by
  induction hr with
  | refl p =>
    intro h hp
    rwa [List.append_nil]
  | step _ ih =>
    intro h hp
    have hp' := ih (hp.2 _)
    rwa [List.append_assoc] at hp'

/-- A program has stood at every call of its history. -/
theorem Reaches.at_call {p q : Program E R ε α} {h₂ : List (Event E R)} {e : E} {r : R e} :
    ∀ {h₁ : List (Event E R)}, Reaches p (h₁ ++ ⟨e, r⟩ :: h₂) q → ∃ k, Reaches p h₁ (.call e k)
  | [], .step (k := k) _ => ⟨k, .refl _⟩
  | _ :: _, .step hr =>
    have ⟨k, hk⟩ := hr.at_call
    ⟨k, .step hk⟩

theorem Reaches.trans {p q r : Program E R ε α} {h h' : List (Event E R)} (hp : Reaches p h q)
    (hq : Reaches q h' r) : Reaches p (h ++ h') r := by
  induction hp with
  | refl p => exact hq
  | step _ ih => exact .step (ih hq)

/-- A history passes through its middle. -/
theorem Reaches.split {p q : Program E R ε α} {h₂ : List (Event E R)} :
    ∀ {h₁ : List (Event E R)}, Reaches p (h₁ ++ h₂) q → ∃ m, Reaches p h₁ m ∧ Reaches m h₂ q
  | [], hr => ⟨p, .refl p, hr⟩
  | _ :: _, .step hr =>
    have ⟨m, h₁, h₂⟩ := hr.split
    ⟨m, .step h₁, h₂⟩

/-- What an obedient program has done before a call satisfies `I`. -/
theorem Obeys.call_of_reaches {p : Program E R ε α} {e : E} {k : R e → Program E R ε α}
    (hp : Obeys I Q [] p) (hr : Reaches p h (.call e k)) : I h e :=
  (hp.of_reaches hr).1

/-- What it has done by its end satisfies `Q`. -/
theorem Obeys.done_of_reaches {p : Program E R ε α} {r : Except ε α} (hp : Obeys I Q [] p)
    (hr : Reaches p h (.done r)) : Q h r :=
  hp.of_reaches hr

end Program

end Resumption
