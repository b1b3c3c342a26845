/-
# Programs that rely on their answers

What a program does after an answer may depend on the answer being a proper one: an item that is read
must have been written by somebody who kept to the rules.  `Relies A I Q` is `Obeys I Q` under the
assumption that every answer satisfies `A`.  Where the environment gives such answers only, the two are
the same (`Relies.obeys`), so a program that relies on its answers can be run in a pool whose invariant
says what the answers are.
-/
import Archon.Resumption.Program

namespace Resumption.Program

variable {E : Type} {R : E → Type} {ε α β : Type} {A : (e : E) → R e → Prop}
  {I I' : List (Event E R) → E → Prop} {Q Q' : List (Event E R) → Except ε α → Prop}
  {h h' : List (Event E R)}

/-- At every call `I` holds of the history before it, and `Q` at the end, as long as the answers
satisfy `A`. -/
def Relies (A : (e : E) → R e → Prop) (I : List (Event E R) → E → Prop)
    (Q : List (Event E R) → Except ε α → Prop) : List (Event E R) → Program E R ε α → Prop
  | h, .done r => Q h r
  | h, .call e k => I h e ∧ ∀ r, A e r → Relies A I Q (h ++ [⟨e, r⟩]) (k r)

@[simp] theorem relies_done {r : Except ε α} : Relies A I Q h (.done r) ↔ Q h r := Iff.rfl

@[simp] theorem relies_call {e : E} {k : R e → Program E R ε α} : Relies A I Q h (.call e k) ↔
    I h e ∧ ∀ r, A e r → Relies A I Q (h ++ [⟨e, r⟩]) (k r) := Iff.rfl

theorem Relies.mono (hI : ∀ h e, I h e → I' h e) (hQ : ∀ h r, Q h r → Q' h r) :
    ∀ {p : Program E R ε α} {h : List (Event E R)}, Relies A I Q h p → Relies A I' Q' h p
  | .done _, _, hp => hQ _ _ hp
  | .call _ _, _, hp => ⟨hI _ _ hp.1, fun r hr => (hp.2 r hr).mono hI hQ⟩

/-- **The rule for sequencing.** -/
theorem relies_bind {Q : List (Event E R) → Except ε β → Prop} {f : α → Program E R ε β} :
    ∀ {p : Program E R ε α} {h : List (Event E R)},
      Relies A I Q h (p >>= f) ↔
        Relies A I (fun h' r =>
          match r with
          | .ok a => Relies A I Q h' (f a)
          | .error e => Q h' (.error e)) h p
  | .done (.ok _), _ => Iff.rfl
  | .done (.error _), _ => Iff.rfl
  | .call _ _, _ => and_congr_right fun _ => forall_congr' fun _ => imp_congr_right fun _ => relies_bind

/-- **The rule for `try`.** -/
theorem relies_attempt {Q : List (Event E R) → Except ε (Except ε α) → Prop} :
    ∀ {p : Program E R ε α} {h : List (Event E R)},
      Relies A I Q h p.attempt ↔ Relies A I (fun h' r => Q h' (.ok r)) h p
  | .done _, _ => Iff.rfl
  | .call _ _, _ => and_congr_right fun _ => forall_congr' fun _ => imp_congr_right fun _ => relies_attempt

/-- A program adds to its history. -/
theorem Relies.extends : ∀ {p : Program E R ε α} {h : List (Event E R)}, Relies A I Q h p →
    Relies A I (fun h' r => Q h' r ∧ h <+: h') h p
  | .done _, _, hp => ⟨hp, List.prefix_rfl⟩
  | .call _ _, h, hp => ⟨hp.1, fun r hr => ((hp.2 r hr).extends).mono (fun _ _ hi => hi) fun _ _ hq =>
      ⟨hq.1, (List.prefix_append h _).trans hq.2⟩⟩

/-- The rule for a part that has been proved, and what follows it; an error ends both. -/
theorem Relies.followed {p : Program E R ε α} {f : α → Program E R ε β}
    {Q' : List (Event E R) → Except ε β → Prop} (hp : Relies A I Q h p)
    (hf : ∀ h' a, h <+: h' → Q h' (.ok a) → Relies A I Q' h' (f a))
    (herror : ∀ h' e, Q' h' (.error e)) : Relies A I Q' h (p >>= f) := by
  rw [relies_bind]
  refine hp.extends.mono (fun _ _ hi => hi) fun h' r hr => ?_
  cases r with
  | error e => exact herror h' e
  | ok a => exact hf h' a hr.2 hr.1

/-- The rule for a single call and what follows it. -/
theorem relies_perform {Q : List (Event E R) → Except ε β → Prop} {e : E} {f : R e → Program E R ε β}
    (hI : I h e) (hf : ∀ r, A e r → Relies A I Q (h ++ [⟨e, r⟩]) (f r)) :
    Relies A I Q h (perform e >>= f) := ⟨hI, hf⟩

/-- The rule for a computation that makes no call and what follows it. -/
theorem relies_lift {Q : List (Event E R) → Except ε β → Prop} {r : Except ε α}
    {f : α → Program E R ε β} (hok : ∀ a, r = .ok a → Relies A I Q h (f a))
    (herror : ∀ e, Q h (.error e)) : Relies A I Q h (lift r >>= f) := by
  rcases r with e | a
  · exact herror e
  · exact hok a rfl

/-- The rule for a choice whose condition does not matter. -/
theorem relies_if {c : Prop} [Decidable c] {p q : Program E R ε α} (hp : Relies A I Q h p)
    (hq : Relies A I Q h q) : Relies A I Q h (if c then p else q) := by
  split
  · exact hp
  · exact hq

/-- Nothing is asked after an answer that is not a proper one. -/
theorem obeys_improper {ev : Event E R} (hev : ¬ A ev.1 ev.2) : ∀ {p : Program E R ε α}
    {h : List (Event E R)}, ev ∈ h → Obeys (fun h e => (∀ ev ∈ h, A ev.1 ev.2) → I h e)
      (fun h r => (∀ ev ∈ h, A ev.1 ev.2) → Q h r) h p
  | .done _, _, hmem => fun hproper => absurd (hproper ev hmem) hev
  | .call _ _, _, hmem => ⟨fun hproper => absurd (hproper ev hmem) hev, fun _ =>
      obeys_improper hev (List.mem_append_left _ hmem)⟩

/-- **What a program relies on is an assumption about its history.** -/
theorem Relies.obeys : ∀ {p : Program E R ε α} {h : List (Event E R)}, Relies A I Q h p →
    Obeys (fun h e => (∀ ev ∈ h, A ev.1 ev.2) → I h e)
      (fun h r => (∀ ev ∈ h, A ev.1 ev.2) → Q h r) h p
  | .done _, _, hp => fun _ => hp
  | .call e _, h, hp => by
    refine ⟨fun _ => hp.1, fun r => ?_⟩
    by_cases hr : A e r
    · exact (hp.2 r hr).obeys
    · exact obeys_improper hr (List.mem_append_right h (List.mem_singleton.mpr rfl))

end Resumption.Program
