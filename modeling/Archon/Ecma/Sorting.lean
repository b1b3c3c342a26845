/-
# Sorting with any comparator

The language sorts with whatever function it is given.  Where the function is consistent on the list
the result is the stable sort; where it is not, the result is the list in some order, and the order is
the implementation's (`Sorter`).  So what is to hold of every implementation has to hold of every order
of a list on which the comparator is not consistent (`exists_sorter`).

An implementation that looks for runs reverses a list that is one descending run (`runSorter`).

Beside it stand the elements of a list that are the first with their key (`firstsBy`).
-/
import Mathlib.Data.List.Pairwise
import Mathlib.Data.List.Sort

namespace Ecma

/-! ## 1. Consistent comparators -/

section Sorting

variable {α : Type} {compare : α → α → Ordering} {xs ys : List α}

/-- A comparator orders the elements of a list. -/
structure Consistent (compare : α → α → Ordering) (xs : List α) : Prop where
  swap : ∀ a ∈ xs, ∀ b ∈ xs, compare a b = (compare b a).swap
  trans : ∀ a ∈ xs, ∀ b ∈ xs, ∀ c ∈ xs, compare a b ≠ .gt → compare b c ≠ .gt → compare a c ≠ .gt

theorem Consistent.total (h : Consistent compare xs) {a b : α} (ha : a ∈ xs) (hb : b ∈ xs) :
    compare a b ≠ .gt ∨ compare b a ≠ .gt := by
  by_contra hgt
  rw [not_or, not_not, not_not] at hgt
  have hswap := h.swap a ha b hb
  rw [hgt.1, hgt.2] at hswap
  cases hswap

theorem Consistent.tail {a : α} (h : Consistent compare (a :: xs)) : Consistent compare xs where
  swap b hb c hc := h.swap b (.tail _ hb) c (.tail _ hc)
  trans b hb c hc d hd := h.trans b (.tail _ hb) c (.tail _ hc) d (.tail _ hd)

/-- The stable sort. -/
def stableSort (compare : α → α → Ordering) (xs : List α) : List α :=
  xs.insertionSort fun a b => compare a b ≠ .gt

theorem stableSort_perm (compare : α → α → Ordering) (xs : List α) : (stableSort compare xs).Perm xs :=
  List.perm_insertionSort _ xs

theorem pairwise_orderedInsert {a : α} (h : Consistent compare (a :: xs))
    (hxs : xs.Pairwise fun b c => compare b c ≠ .gt) :
    (xs.orderedInsert (fun b c => compare b c ≠ .gt) a).Pairwise fun b c => compare b c ≠ .gt := by
  induction xs with
  | nil => exact List.pairwise_singleton _ _
  | cons b xs ih =>
    obtain ⟨hb, hxs'⟩ := List.pairwise_cons.mp hxs
    rw [List.orderedInsert_cons]
    split
    case isTrue hle =>
      refine List.pairwise_cons.mpr ⟨fun c hc => ?_, hxs⟩
      rcases List.mem_cons.mp hc with rfl | hc
      · exact hle
      · exact h.trans a (.head _) b (.tail _ (.head _)) c (.tail _ (.tail _ hc)) hle (hb c hc)
    case isFalse hgt =>
      have h' : Consistent compare (a :: xs) :=
        { swap := fun c hc d hd => h.swap c (by simp at hc ⊢; tauto) d (by simp at hd ⊢; tauto)
          trans := fun c hc d hd e he => h.trans c (by simp at hc ⊢; tauto) d (by simp at hd ⊢; tauto)
            e (by simp at he ⊢; tauto) }
      refine List.pairwise_cons.mpr ⟨fun c hc => ?_, ih h' hxs'⟩
      rcases List.mem_orderedInsert _ |>.mp hc with rfl | hc
      · exact (h.total (.head _) (.tail _ (.head _))).resolve_left hgt
      · exact hb c hc

theorem stableSort_pairwise (h : Consistent compare xs) :
    (stableSort compare xs).Pairwise fun a b => compare a b ≠ .gt := by
  induction xs with
  | nil => exact List.Pairwise.nil
  | cons a xs ih =>
    have hmem : ∀ {b}, b ∈ a :: stableSort compare xs → b ∈ a :: xs := by
      intro b hb
      rw [List.mem_cons, (stableSort_perm compare xs).mem_iff] at hb
      exact List.mem_cons.mpr hb
    exact pairwise_orderedInsert
      { swap := fun b hb c hc => h.swap b (hmem hb) c (hmem hc)
        trans := fun b hb c hc d hd => h.trans b (hmem hb) c (hmem hc) d (hmem hd) } (ih h.tail)

/-! ## 2. Implementations -/

/-- `Array.prototype.sort`. -/
structure Sorter (α : Type) where
  sort : (α → α → Ordering) → List α → List α
  perm : ∀ compare xs, (sort compare xs).Perm xs
  stable : ∀ compare xs, Consistent compare xs → sort compare xs = stableSort compare xs

theorem Sorter.pairwise (S : Sorter α) (h : Consistent compare xs) :
    (S.sort compare xs).Pairwise fun a b => compare a b ≠ .gt := by
  rw [S.stable compare xs h]
  exact stableSort_pairwise h

open Classical in
/-- **What is promised of a list that cannot be ordered**: some order of it. -/
theorem exists_sorter (h : ¬Consistent compare xs) (hperm : ys.Perm xs) :
    ∃ S : Sorter α, S.sort compare xs = ys := by
  refine ⟨{ sort := fun c zs => if Consistent c zs then stableSort c zs else if zs = xs then ys else zs
            perm := ?_
            stable := fun c zs hc => if_pos hc }, ?_⟩
  · intro c zs
    split
    case isTrue => exact stableSort_perm c zs
    case isFalse =>
      split
      case isTrue heq => exact heq ▸ hperm
      case isFalse => exact List.Perm.refl zs
  · change (if Consistent compare xs then _ else if xs = xs then ys else xs) = ys
    rw [if_neg h, if_pos rfl]

/-- Each element goes before the one in front of it. -/
def Descends (compare : α → α → Ordering) (xs : List α) : Prop :=
  xs.IsChain fun a b => compare b a = .lt

instance : Decidable (Descends compare xs) :=
  inferInstanceAs (Decidable (xs.IsChain fun a b => compare b a = .lt))

theorem Descends.pairwise (hd : Descends compare xs) (h : Consistent compare xs) :
    xs.Pairwise fun a b => compare b a = .lt := by
  induction xs with
  | nil => exact List.Pairwise.nil
  | cons a xs ih =>
    cases xs with
    | nil => exact List.pairwise_singleton _ _
    | cons b xs =>
      obtain ⟨hba, hd⟩ := List.isChain_cons_cons.mp hd
      have htail := ih hd h.tail
      refine List.pairwise_cons.mpr ⟨fun c hc => ?_, htail⟩
      rcases List.mem_cons.mp hc with rfl | hc
      · exact hba
      · have hcb := (List.pairwise_cons.mp htail).1 c hc
        have ha : a ∈ a :: b :: xs := .head _
        have hb : b ∈ a :: b :: xs := .tail _ (.head _)
        have hc : c ∈ a :: b :: xs := .tail _ (.tail _ hc)
        -- were the first one not behind the last, the one between them would be before itself
        cases hca : compare c a with
        | lt => rfl
        | eq | gt =>
          have hac : compare a c ≠ .gt := by
            rw [h.swap a ha c hc, hca]
            decide
          have hab := h.trans a ha c hc b hb hac (by rw [hcb]; decide)
          rw [h.swap a ha b hb, hba] at hab
          exact absurd rfl hab

theorem reverse_of_descends (hd : Descends compare xs) (h : Consistent compare xs) :
    xs.reverse = stableSort compare xs := by
  have hpairwise := hd.pairwise h
  refine List.Perm.eq_of_pairwise ?_ (List.pairwise_reverse.mpr (hpairwise.imp fun hlt => ?_))
    (stableSort_pairwise h) (xs.reverse_perm.trans (stableSort_perm compare xs).symm)
  · intro a b ha hb hab hba
    rw [List.mem_reverse] at ha
    rw [(stableSort_perm compare xs).mem_iff] at hb
    by_contra hne
    have : Std.Symm fun a b => compare b a = .lt ∨ compare a b = .lt := ⟨fun _ _ => Or.symm⟩
    have hsymm : xs.Pairwise fun a b => compare b a = .lt ∨ compare a b = .lt :=
      hpairwise.imp fun hlt => .inl hlt
    rcases hsymm.forall ha hb hne with hlt | hlt
    · rw [h.swap a ha b hb, hlt] at hab
      exact hab rfl
    · rw [h.swap b hb a ha, hlt] at hba
      exact hba rfl
  · rw [hlt]
    decide

/-- An implementation that reverses a descending run. -/
def runSorter (α : Type) : Sorter α where
  sort compare xs := if Descends compare xs then xs.reverse else stableSort compare xs
  perm compare xs := by
    split
    case isTrue => exact xs.reverse_perm
    case isFalse => exact stableSort_perm compare xs
  stable compare xs h := by
    split
    case isTrue hd => exact reverse_of_descends hd h
    case isFalse => rfl

theorem runSorter_descends (h : Descends compare xs) : (runSorter α).sort compare xs = xs.reverse := by
  change (if Descends compare xs then xs.reverse else stableSort compare xs) = _
  rw [if_pos h]

end Sorting

/-! ## 3. First occurrences -/

section Firsts

variable {α κ : Type} [DecidableEq κ]

/-- The elements whose keys have not been seen, each key once. -/
def firstsBy (key : α → κ) (seen : List κ) : List α → List α
  | [] => []
  | x :: xs => if key x ∈ seen then firstsBy key seen xs else x :: firstsBy key (key x :: seen) xs

variable {key : α → κ} {x : α}

theorem firstsBy_sublist (seen : List κ) (xs : List α) : (firstsBy key seen xs).Sublist xs := by
  induction xs generalizing seen with
  | nil => exact List.Sublist.refl _
  | cons x xs ih =>
    rw [firstsBy]
    split
    case isTrue => exact (ih seen).cons x
    case isFalse => exact (ih _).cons_cons x

theorem key_not_seen {seen : List κ} {xs : List α} (hx : x ∈ firstsBy key seen xs) : key x ∉ seen := by
  induction xs generalizing seen with
  | nil => cases hx
  | cons y xs ih =>
    rw [firstsBy] at hx
    split at hx
    case isTrue => exact ih hx
    case isFalse hy =>
      rcases List.mem_cons.mp hx with rfl | hx
      · exact hy
      · exact fun hseen => ih hx (.tail _ hseen)

/-- No two of them have one key. -/
theorem firstsBy_nodup (seen : List κ) (xs : List α) : ((firstsBy key seen xs).map key).Nodup := by
  induction xs generalizing seen with
  | nil => exact List.nodup_nil
  | cons x xs ih =>
    rw [firstsBy]
    split
    case isTrue => exact ih seen
    case isFalse =>
      rw [List.map_cons, List.nodup_cons]
      refine ⟨fun hmem => ?_, ih _⟩
      obtain ⟨y, hy, heq⟩ := List.mem_map.mp hmem
      exact key_not_seen hy (heq ▸ .head _)

/-- Every key is there. -/
theorem exists_firstsBy (seen : List κ) {xs : List α} (hx : x ∈ xs) (hseen : key x ∉ seen) :
    ∃ y ∈ firstsBy key seen xs, key y = key x := by
  induction xs generalizing seen with
  | nil => cases hx
  | cons y xs ih =>
    rw [firstsBy]
    split
    case isTrue hy =>
      rcases List.mem_cons.mp hx with rfl | hx
      · exact absurd hy hseen
      · exact ih seen hx hseen
    case isFalse =>
      by_cases heq : key x = key y
      · exact ⟨y, .head _, heq.symm⟩
      · rcases List.mem_cons.mp hx with rfl | hx
        · exact absurd rfl heq
        · obtain ⟨z, hz, hkey⟩ := ih (key y :: seen) hx (by simp [heq, hseen])
          exact ⟨z, .tail _ hz, hkey⟩

/-- Where no key stands twice, all are first. -/
theorem firstsBy_eq_self {xs : List α} (h : (xs.map key).Nodup) : firstsBy key [] xs = xs := by
  have hall : ∀ (ys : List α) (seen : List κ), (ys.map key).Nodup → (∀ y ∈ ys, key y ∉ seen) →
      firstsBy key seen ys = ys := by
    intro ys
    induction ys with
    | nil => exact fun _ _ _ => rfl
    | cons y ys ih =>
      intro seen hnodup hseen
      obtain ⟨hy, hnodup⟩ := List.nodup_cons.mp hnodup
      rw [firstsBy, if_neg (hseen y (.head _)), ih _ hnodup]
      intro z hz hmem
      rcases List.mem_cons.mp hmem with heq | hmem
      · exact hy (heq ▸ List.mem_map_of_mem hz)
      · exact hseen z (.tail _ hz) hmem
  exact hall xs [] h fun _ _ => List.not_mem_nil

end Firsts

end Ecma
