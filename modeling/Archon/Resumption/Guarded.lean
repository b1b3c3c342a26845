/-
# Conditional writes

A table that is changed by conditional writes only: each is a condition on the table and what it
makes of a table that meets it.  The service applies a write at one moment or not at all.  What
the writer learns is less.  An answer `ok` means that the write was applied; an error may mean that
the condition failed, that the service was not reached, or that the write was applied and the
answer lost, and then repeated by the client library and refused the second time.
-/
import Archon.Resumption.Pool

namespace Resumption

/-- A write and the condition that guards it. -/
structure Guarded (σ : Type) where
  condition : σ → Bool
  result : σ → σ

namespace Guarded

variable {σ ε : Type}

/-- From one table to another by the write, with the writer's answer. -/
inductive Outcome (w : Guarded σ) (s : σ) : Except ε Unit → σ → Prop
  | applied (hcondition : w.condition s = true) (r : Except ε Unit) : Outcome w s r (w.result s)
  | refused (e : ε) : Outcome w s (.error e) s

/-- A table that a write has changed met its condition. -/
theorem Outcome.changed {w : Guarded σ} {s s' : σ} {r : Except ε Unit} (h : Outcome w s r s')
    (hne : s' ≠ s) : w.condition s = true ∧ s' = w.result s := by
  cases h with
  | applied hcondition => exact ⟨hcondition, rfl⟩
  | refused e => exact absurd rfl hne

end Guarded

end Resumption
