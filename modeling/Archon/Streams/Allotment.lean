/-
# Filling a budget in order

Each of some parties offers forms of what it has to say, the best form first.  They are asked in
order, and each is given the first of its forms that fits in what is left of a capacity; a party
none of whose forms fits is left out.

* `allot_own`: whatever is kept of a party is one of its own forms.
* `kept_leftOut_perm`: every party is kept or left out, and only once.
-/
import Mathlib.Data.List.Perm.Basic
import Mathlib.Data.List.Forall2
import Mathlib.Algebra.BigOperators.Group.List.Basic

namespace Allotment

variable {α β κ : Type}

/-! ## 1. The allotment -/

/-- What each party is given, when so much of the capacity is used. -/
def allot (weight : β → Nat) (capacity : Nat) : Nat → List (List β) → List (Option β)
  | _, [] => []
  | used, forms :: offers =>
    match forms.find? fun b => used + weight b ≤ capacity with
    | some b => some b :: allot weight capacity (used + weight b) offers
    | none => none :: allot weight capacity used offers

/-- The parties that are given nothing. -/
def leftOut : List α → List (Option β) → List α
  | a :: as, none :: told => a :: leftOut as told
  | _ :: as, some _ :: told => leftOut as told
  | _, _ => []

/-- What is given, in order. -/
def kept (told : List (Option β)) : List β := told.filterMap id

@[simp] theorem kept_nil : kept ([] : List (Option β)) = [] := rfl

@[simp] theorem kept_some (b : β) (told : List (Option β)) :
    kept (some b :: told) = b :: kept told := rfl

@[simp] theorem kept_none (told : List (Option β)) : kept (none :: told) = kept told := rfl

/-! ## 2. What it keeps to -/

variable {weight : β → Nat} {capacity : Nat}

/-- **What is kept of a party is its own.** -/
theorem allot_own (used : Nat) (offers : List (List β)) :
    List.Forall₂ (fun forms told => ∀ b, told = some b → b ∈ forms) offers
      (allot weight capacity used offers) := by
  induction offers generalizing used with
  | nil => exact .nil
  | cons forms offers ih =>
    rw [allot]
    cases hfind : forms.find? fun b => used + weight b ≤ capacity with
    | none =>
      refine .cons ?_ (ih used)
      intro b hb
      cases hb
    | some c =>
      refine .cons ?_ (ih (used + weight c))
      intro b hb
      cases hb
      exact List.mem_of_find?_eq_some hfind

/-- **Every party is kept or left out, and only once.** -/
theorem kept_leftOut_perm {name : α → κ} {label : β → κ} {parties : List α}
    {told : List (Option β)}
    (h : List.Forall₂ (fun a t => ∀ b, t = some b → label b = name a) parties told) :
    ((kept told).map label ++ (leftOut parties told).map name).Perm (parties.map name) := by
  induction h with
  | nil => exact .refl _
  | @cons a t parties told hlabel _ ih =>
    cases t with
    | none =>
      rw [kept_none, leftOut, List.map_cons, List.map_cons]
      exact List.perm_middle.trans (ih.cons _)
    | some b =>
      rw [kept_some, leftOut, List.map_cons, List.map_cons, hlabel b rfl]
      exact ih.cons _

end Allotment
