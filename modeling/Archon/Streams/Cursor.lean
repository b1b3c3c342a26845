/-
# Following a cursor

A store that is read page by page answers a cursor with some items and, while there is more, with
the cursor to go on from.  A reader starts somewhere and follows.  Nothing here says what an item is
or where a page ends.

* `follow` is the reader: what it has gathered after so many calls, if it came to an end.
* `Reached` are the cursors it asks for.
* `follow_of_pages` is the rule for a complete reading: where every page that is reached is a
  beginning of what remains there, and the next cursor lies further on, the reader gathers all.
* `follow_of_reached` goes the other way: a reading that ends has an end from everywhere in it.
-/
import Mathlib.Data.List.Basic

namespace Cursor

variable {α : Type}

/-- A page: its items, and where to go on, if there is more. -/
structure Leaf (α : Type) where
  items : List α
  next : Option Nat

variable (page : Nat → Option (Leaf α))

/-- What is gathered from a cursor on, in at most so many calls. -/
def follow : Nat → Nat → Option (List α)
  | 0, _ => none
  | calls + 1, c =>
    match page c with
    | none => none
    | some leaf => match leaf.next with
      | none => some leaf.items
      | some c' => (follow calls c').map (leaf.items ++ ·)

/-- The cursors a reader that starts at `c₀` asks for. -/
inductive Reached (c₀ : Nat) : Nat → Prop
  | start : Reached c₀ c₀
  | turn {c c' : Nat} {leaf : Leaf α} (h : Reached c₀ c) (hpage : page c = some leaf)
      (hnext : leaf.next = some c') : Reached c₀ c'

variable {page}

/-- What is reached from a cursor that is reached is reached. -/
theorem Reached.trans {c₀ c c' : Nat} (h : Reached page c₀ c) (h' : Reached page c c') :
    Reached page c₀ c' := by
  induction h' with
  | start => exact h
  | turn _ hpage hnext ih => exact .turn ih hpage hnext

/-- A reading that ends has an end from every cursor in it. -/
theorem follow_of_reached {c₀ c calls : Nat} {xs : List α}
    (hfollow : follow page calls c₀ = some xs) (h : Reached page c₀ c) :
    ∃ calls' ys, follow page calls' c = some ys := by
  induction h with
  | start => exact ⟨calls, xs, hfollow⟩
  | @turn c c' leaf _ hpage hnext ih =>
    obtain ⟨calls', ys, hys⟩ := ih
    cases calls' with
    | zero => cases hys
    | succ calls' =>
      rw [follow, hpage] at hys
      simp only [hnext, Option.map_eq_some_iff] at hys
      obtain ⟨zs, hzs, -⟩ := hys
      exact ⟨calls', zs, hzs⟩

/-- So there is a page at every cursor in it. -/
theorem page_of_reached {c₀ c calls : Nat} {xs : List α}
    (hfollow : follow page calls c₀ = some xs) (h : Reached page c₀ c) :
    ∃ leaf, page c = some leaf := by
  obtain ⟨calls', ys, hys⟩ := follow_of_reached hfollow h
  cases calls' with
  | zero => cases hys
  | succ calls' =>
    rw [follow] at hys
    cases hpage : page c with
    | none =>
      rw [hpage] at hys
      cases hys
    | some leaf => exact ⟨leaf, rfl⟩

/-- **The rule for a complete reading.**  `rest` is what remains at a cursor, and no cursor lies
beyond `last`. -/
theorem follow_of_pages (rest : Nat → List α) (last : Nat) {c₀ : Nat}
    (hpages : ∀ c, Reached page c₀ c → ∃ leaf, page c = some leaf ∧
      (leaf.next = none → leaf.items = rest c) ∧
      ∀ c', leaf.next = some c' → c < c' ∧ c' ≤ last ∧ leaf.items ++ rest c' = rest c) :
    ∃ calls, follow page calls c₀ = some (rest c₀) := by
  -- induction on how far the last cursor is
  induction hd : last - c₀ using Nat.strongRecOn generalizing c₀ with
  | ind d ih =>
    obtain ⟨leaf, hpage, hend, hmore⟩ := hpages c₀ .start
    cases hnext : leaf.next with
    | none =>
      refine ⟨1, ?_⟩
      simp [follow, hpage, hnext, hend hnext]
    | some c' =>
      obtain ⟨hlt, hle, hrest⟩ := hmore c' hnext
      have hreached : Reached page c₀ c' := .turn .start hpage hnext
      obtain ⟨calls, hcalls⟩ := ih (last - c') (by omega)
        (fun c hc => hpages c (hreached.trans hc)) rfl
      refine ⟨calls + 1, ?_⟩
      simp [follow, hpage, hnext, hcalls, hrest]

end Cursor
