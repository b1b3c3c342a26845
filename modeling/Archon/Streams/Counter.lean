/-
# A counter with a limit

A walk counts what it visits, and is given up once it has visited more than a limit.  A computation
of this kind has a cost: as much of it as is left below the limit, and the computation comes to its
value; less, and it fails.

* `Spends.bind`: the costs of two computations add up.
* `Spends.run'`: a computation that starts from nothing succeeds exactly where its cost is within
  the limit.
-/
import Mathlib.Tactic.Common

namespace Counter

variable {ε α β : Type} {limit : Nat} {full : ε}

/-! ## 1. Counting -/

/-- One more; past the limit it fails. -/
def tick (limit : Nat) (full : ε) : StateT Nat (Except ε) Unit := fun used =>
  if limit < used + 1 then .error full else .ok ((), used + 1)

/-- The computation costs so much and comes to a value of a kind, where so much is left. -/
structure Spends (limit : Nat) (full : ε) (m : StateT Nat (Except ε) α) (cost : Nat)
    (Comes : α → Prop) : Prop where
  enough : ∀ used, used + cost ≤ limit → ∃ a, m used = .ok (a, used + cost) ∧ Comes a
  short : ∀ used, used ≤ limit → limit < used + cost → m used = .error full

/-! ## 2. What computations cost -/

variable {m : StateT Nat (Except ε) α} {f : α → StateT Nat (Except ε) β} {cost cost' : Nat}
  {Comes : α → Prop} {Comes' : β → Prop}

theorem spends_pure {a : α} (h : Comes a) : Spends limit full (pure a) 0 Comes where
  enough _ _ := ⟨a, rfl, h⟩
  short _ hused hshort := absurd hused (by omega)

theorem spends_tick : Spends limit full (tick limit full) 1 fun _ => True where
  enough _ henough := ⟨(), if_neg (by omega), trivial⟩
  short _ _ hshort := if_pos hshort

theorem Spends.bind (hm : Spends limit full m cost Comes)
    (hf : ∀ a, Comes a → Spends limit full (f a) cost' Comes') :
    Spends limit full (m >>= f) (cost + cost') Comes' := by
  constructor
  · intro used henough
    obtain ⟨a, ha, hcomes⟩ := hm.enough used (by omega)
    obtain ⟨b, hb, hcomes'⟩ := (hf a hcomes).enough (used + cost) (by omega)
    refine ⟨b, ?_, hcomes'⟩
    change (m used >>= fun p => f p.1 p.2) = _
    rw [ha, ← Nat.add_assoc, ← hb]
    rfl
  · intro used hused hshort
    change (m used >>= fun p => f p.1 p.2) = _
    by_cases henough : used + cost ≤ limit
    · obtain ⟨a, ha, hcomes⟩ := hm.enough used henough
      rw [ha, ← (hf a hcomes).short (used + cost) henough (by omega)]
      rfl
    · rw [hm.short used hused (by omega)]
      rfl

/-- What is made of a value costs nothing. -/
theorem Spends.bind_pure {g : α → β} (hm : Spends limit full m cost Comes)
    (hg : ∀ a, Comes a → Comes' (g a)) :
    Spends limit full (m >>= fun a => pure (g a)) cost Comes' :=
  hm.bind fun a ha => spends_pure (hg a ha)

theorem Spends.imp {Comes' : α → Prop} (hm : Spends limit full m cost Comes)
    (h : ∀ a, Comes a → Comes' a) : Spends limit full m cost Comes' where
  enough used henough := by
    obtain ⟨a, ha, hcomes⟩ := hm.enough used henough
    exact ⟨a, ha, h a hcomes⟩
  short := hm.short

/-- **A computation from nothing** comes to a value exactly where its cost is within the limit. -/
theorem Spends.run' (hm : Spends limit full m cost Comes) :
    (cost ≤ limit → ∃ a, m.run' 0 = .ok a ∧ Comes a) ∧ (limit < cost → m.run' 0 = .error full) := by
  constructor
  · intro henough
    obtain ⟨a, ha, hcomes⟩ := hm.enough 0 (by omega)
    refine ⟨a, ?_, hcomes⟩
    rw [StateT.run', ha]
    rfl
  · intro hshort
    rw [StateT.run', hm.short 0 (Nat.zero_le _) (by omega)]
    rfl

end Counter
