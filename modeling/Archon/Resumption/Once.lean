/-
# What is taken once

A mark in the shared state that no step removes, and events that find it missing and leave it
behind: a conditional write that asks for an attribute not to be there, a transaction that creates
an item.  Whoever makes such a call, and whatever the others do, it is answered so at most once
(`Run.single`).

Often the event is a licence: what a worker does only after it has taken the mark itself, it has done
only then (`Run.obedient`).

Other events only tell of the mark, and leave or find it: whatever a worker has been told is so, and
stays so (`Run.told`).
-/
import Archon.Resumption.Pool

namespace Resumption.Pool

variable {ι σ E : Type} {R : E → Type} {ε α : Type} [DecidableEq ι]

/-! ## 1. Taking -/

/-- The events that `takes` picks out set a mark that was not there, and no step removes it. -/
structure Exclusive (Env : σ → (e : E) → R e → σ → Prop) (marked : σ → Prop)
    (takes : Event E R → Bool) : Prop where
  fresh : ∀ {s : σ} {e : E} {r : R e} {s' : σ}, Env s e r s' → takes ⟨e, r⟩ = true →
    ¬ marked s ∧ marked s'
  stays : ∀ {s : σ} {e : E} {r : R e} {s' : σ}, Env s e r s' → marked s → marked s'

/-- Whoever has taken has left the mark, nobody else has taken, and nobody twice. -/
structure Single (marked : σ → Prop) (takes : Event E R → Bool) (s : σ)
    (h : ι → List (Event E R)) : Prop where
  marked : ∀ i, 0 < (h i).countP takes → marked s
  alone : ∀ i i', 0 < (h i).countP takes → 0 < (h i').countP takes → i = i'
  once : ∀ i, (h i).countP takes ≤ 1

/-- One more event in one history. -/
theorem countP_update (p : Event E R → Bool) (h : ι → List (Event E R)) (i j : ι)
    (ev : Event E R) :
    (Function.update h i (h i ++ [ev]) j).countP p
      = (h j).countP p + if j = i ∧ p ev = true then 1 else 0 := by
  by_cases hij : j = i
  · subst hij
    rw [Function.update_self, List.countP_append, List.countP_singleton]
    simp
  · rw [Function.update_of_ne hij]
    simp [hij]

variable {Env : σ → (e : E) → R e → σ → Prop}
  {Ok : Pool ι σ E R ε α → Pool ι σ E R ε α → Prop} {marked : σ → Prop}
  {takes : Event E R → Bool}

omit [DecidableEq ι] in
theorem single_start (marked : σ → Prop) (takes : Event E R → Bool) (s : σ) :
    Single (ι := ι) marked takes s fun _ => [] :=
  ⟨fun _ h => absurd h (Nat.lt_irrefl 0), fun _ _ h => absurd h (Nat.lt_irrefl 0),
    fun _ => Nat.zero_le 1⟩

/-- **One step.** -/
theorem Single.step {s s' : σ} {h : ι → List (Event E R)} {i : ι} {e : E} {r : R e}
    (hs : Single marked takes s h) (hx : Exclusive Env marked takes) (henv : Env s e r s') :
    Single marked takes s' (Function.update h i (h i ++ [⟨e, r⟩])) := by
  by_cases ht : takes ⟨e, r⟩ = true
  · -- nobody has taken before, so `i` is the only one now
    obtain ⟨hfree, hmarked⟩ := hx.fresh henv ht
    have hnone : ∀ j, (h j).countP takes = 0 := fun j =>
      Nat.eq_zero_of_not_pos fun hj => hfree (hs.marked j hj)
    refine ⟨fun _ _ => hmarked, fun j j' hj hj' => ?_, fun j => ?_⟩
    · rw [countP_update, hnone] at hj hj'
      by_cases h₁ : j = i
      · by_cases h₂ : j' = i
        · exact h₁.trans h₂.symm
        · simp [h₂] at hj'
      · simp [h₁] at hj
    · rw [countP_update, hnone]
      split <;> omega
  · have hsame : ∀ j, (Function.update h i (h i ++ [⟨e, r⟩]) j).countP takes = (h j).countP takes := by
      intro j
      rw [countP_update, if_neg fun hand => ht hand.2, Nat.add_zero]
    refine ⟨fun j hj => ?_, fun j j' hj hj' => ?_, fun j => ?_⟩
    · rw [hsame] at hj
      exact hx.stays henv (hs.marked j hj)
    · rw [hsame] at hj hj'
      exact hs.alone j j' hj hj'
    · rw [hsame]
      exact hs.once j

/-- **In a run the mark is taken at most once.** -/
theorem Run.single {P P' : Pool ι σ E R ε α} (hrun : Run Env Ok P P')
    (hx : Exclusive Env marked takes) (h : Single marked takes P.shared P.history) :
    Single marked takes P'.shared P'.history := by
  induction hrun with
  | refl => exact h
  | step _ hstep _ ih =>
    cases hstep with
    | call hp henv => exact ih.step hx henv

/-- The mark stays along a run. -/
theorem Run.stays {P P' : Pool ι σ E R ε α} (hrun : Run Env Ok P P')
    (hx : ∀ {s : σ} {e : E} {r : R e} {s' : σ}, Env s e r s' → marked s → marked s')
    (h : marked P.shared) : marked P'.shared := by
  induction hrun with
  | refl => exact h
  | step _ hstep _ ih =>
    cases hstep with
    | call hp henv => exact hx henv ih

/-! ## 2. Acting on it -/

/-- A call that acts is made after the mark was taken, and for the first time. -/
def Licensed (takes : Event E R → Bool) (acts : E → Bool) (h : List (Event E R)) (e : E) : Prop :=
  acts e = true → 0 < h.countP takes ∧ h.countP (fun ev => acts ev.1) = 0

/-- What a licensed worker has done. -/
def Obedient (takes : Event E R → Bool) (acts : E → Bool) (h : List (Event E R)) : Prop :=
  (0 < h.countP (fun ev => acts ev.1) → 0 < h.countP takes) ∧ h.countP (fun ev => acts ev.1) ≤ 1

theorem Licensed.obedient {acts : E → Bool} {h : List (Event E R)} {e : E} {r : R e}
    (hl : Licensed takes acts h e) (ho : Obedient takes acts h) :
    Obedient takes acts (h ++ [⟨e, r⟩]) := by
  unfold Obedient
  rw [List.countP_append, List.countP_append, List.countP_singleton]
  by_cases ha : acts e = true
  · obtain ⟨htaken, hfirst⟩ := hl ha
    exact ⟨fun _ => by omega, by rw [hfirst]; split <;> omega⟩
  · rw [if_neg ha, Nat.add_zero]
    exact ⟨fun h => Nat.lt_of_lt_of_le (ho.1 h) (Nat.le_add_right _ _), ho.2⟩

/-- What the texts of the workers allow, they have kept to. -/
theorem Run.obedient {acts : E → Bool} {s : σ} {p : ι → Program E R ε α}
    {P : Pool ι σ E R ε α} (hrun : Run Env Ok (start s p) P) (serves : ι → Prop)
    (hobeys : ∀ i, (p i).Obeys (fun h e => serves i → Licensed takes acts h e) (fun _ _ => True) []) :
    ∀ i, serves i → Obedient takes acts (P.history i) := by
  let Inv : σ → (ι → List (Event E R)) → Prop := fun _ h => ∀ i, serves i → Obedient takes acts (h i)
  have hinit : Inv s fun _ => [] := fun _ _ => ⟨fun h => absurd h (Nat.lt_irrefl 0), Nat.zero_le 1⟩
  refine (invariant hrun hobeys hinit fun P₁ i e k r s' hinv _ hallowed _ _ j hj => ?_).1
  by_cases hji : j = i
  · subst hji
    rw [Function.update_self]
    exact (hallowed hj).obedient (hinv j hj)
  · rw [Function.update_of_ne hji]
    exact hinv j hj

/-! ## 3. Being told of it -/

/-- After an event that `tells` picks out there is the mark, and no step removes it. -/
structure Telling (Env : σ → (e : E) → R e → σ → Prop) (tells : Event E R → Prop)
    (marked : σ → Prop) : Prop where
  told : ∀ {s : σ} {e : E} {r : R e} {s' : σ}, Env s e r s' → tells ⟨e, r⟩ → marked s'
  stays : ∀ {s : σ} {e : E} {r : R e} {s' : σ}, Env s e r s' → marked s → marked s'

variable {tells : Event E R → Prop}

/-- One step. -/
theorem Telling.step (ht : Telling Env tells marked) {s s' : σ} {h : ι → List (Event E R)} {i : ι}
    {e : E} {r : R e} (henv : Env s e r s') (hs : ∀ j, (∃ ev ∈ h j, tells ev) → marked s) :
    ∀ j, (∃ ev ∈ Function.update h i (h i ++ [⟨e, r⟩]) j, tells ev) → marked s' := by
  rintro j ⟨ev, hev, htells⟩
  by_cases hji : j = i
  · subst hji
    rw [Function.update_self] at hev
    rcases List.mem_append.mp hev with hev | hev
    · exact ht.stays henv (hs j ⟨ev, hev, htells⟩)
    · obtain rfl := List.mem_singleton.mp hev
      exact ht.told henv htells
  · rw [Function.update_of_ne hji] at hev
    exact ht.stays henv (hs j ⟨ev, hev, htells⟩)

/-- **What a worker has been told is so.** -/
theorem Run.told {s : σ} {p : ι → Program E R ε α} {P : Pool ι σ E R ε α}
    (hrun : Run Env Ok (start s p) P) (ht : Telling Env tells marked) :
    ∀ i, (∃ ev ∈ P.history i, tells ev) → marked P.shared := by
  induction hrun with
  | refl =>
    rintro i ⟨ev, hev, -⟩
    exact absurd hev List.not_mem_nil
  | step _ hstep _ ih =>
    cases hstep with
    | call _ henv => exact ht.step henv ih

end Resumption.Pool

namespace Resumption.Program

variable {E : Type} {R : E → Type} {ε α : Type}

/-- A program that makes only calls of one kind has added only such calls. -/
theorem Obeys.adds {A : E → Prop} {Q : List (Event E R) → Except ε α → Prop} :
    ∀ {p : Program E R ε α} {h : List (Event E R)}, Obeys (fun _ e => A e) Q h p →
      Obeys (fun _ e => A e) (fun h' r => Q h' r ∧ ∃ t, h' = h ++ t ∧ ∀ ev ∈ t, A ev.1) h p
  | .done _, h, hp => ⟨hp, [], (List.append_nil h).symm, fun _ hev => nomatch hev⟩
  | .call e k, h, hp => by
    refine ⟨hp.1, fun r => (hp.2 r).adds.mono (fun _ _ hi => hi) ?_⟩
    rintro h' r' ⟨hQ, t, rfl, ht⟩
    refine ⟨hQ, ⟨e, r⟩ :: t, by rw [List.append_assoc]; rfl, fun ev hev => ?_⟩
    rcases List.mem_cons.mp hev with rfl | hev
    · exact hp.1
    · exact ht ev hev

end Resumption.Program
