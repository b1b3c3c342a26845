/-
# Two lists, element by element

Two runs of a program on inputs that differ in something are compared by walking their lists together.
What does not look at the difference treats both alike: grouping by keys that are the same
(`forall₂_groups`), sorting by them (`forall₂_insertionSort`), and dividing into sides that are made of
the same elements (`forall₂_cluster`).
-/
import Archon.Ecma.Groups
import Mathlib.Data.List.Forall2
import Mathlib.Data.List.Sort

namespace Ecma

open List

variable {α β : Type} {R T : α → β → Prop}

/-! ## 1. Pairs -/

/-- The two lists are those of a list of pairs. -/
theorem exists_pairs {l : List α} {l' : List β} (h : Forall₂ R l l') :
    ∃ z : List (α × β), z.map Prod.fst = l ∧ z.map Prod.snd = l' ∧ ∀ p ∈ z, R p.1 p.2 := by
  induction h with
  | nil => exact ⟨[], rfl, rfl, fun _ hp => by cases hp⟩
  | @cons a b l l' hab _ ih =>
    obtain ⟨z, rfl, rfl, hz⟩ := ih
    exact ⟨(a, b) :: z, rfl, rfl, List.forall_mem_cons.mpr ⟨hab, hz⟩⟩

theorem forall₂_of_pairs {z : List (α × β)} (h : ∀ p ∈ z, R p.1 p.2) :
    Forall₂ R (z.map Prod.fst) (z.map Prod.snd) :=
  forall₂_map_left_iff.mpr (forall₂_map_right_iff.mpr (forall₂_same.mpr h))

/-- The elements are in the lists. -/
theorem forall₂_mem {l : List α} {l' : List β} (h : Forall₂ R l l') :
    Forall₂ (fun a b => R a b ∧ a ∈ l ∧ b ∈ l') l l' := by
  obtain ⟨z, rfl, rfl, hz⟩ := exists_pairs h
  exact forall₂_of_pairs fun p hp =>
    ⟨hz p hp, List.mem_map_of_mem hp, List.mem_map_of_mem hp⟩

theorem forall₂_and {l : List α} {l' : List β} (h : Forall₂ R l l') (h' : Forall₂ T l l') :
    Forall₂ (fun a b => R a b ∧ T a b) l l' := by
  induction h with
  | nil => exact .nil
  | cons hab _ ih =>
    obtain ⟨hab', hrest⟩ := forall₂_cons.mp h'
    exact .cons ⟨hab, hab'⟩ (ih hrest)

theorem forall₂_head {l : List α} {l' : List β} (h : Forall₂ R l l') :
    Option.Rel R l.head? l'.head? := by
  cases h with
  | nil => exact .none
  | cons h _ => exact .some h

theorem rel_getD {o : Option α} {o' : Option β} (h : Option.Rel R o o') {a : α} {b : β} (hab : R a b) :
    R (o.getD a) (o'.getD b) := by
  cases h with
  | none => exact hab
  | some h => exact h

theorem map_eq_of_forall₂ {γ : Type} {f : α → γ} {g : β → γ} {l : List α} {l' : List β}
    (h : Forall₂ R l l') (hfg : ∀ a b, R a b → f a = g b) : l.map f = l'.map g := by
  induction h with
  | nil => rfl
  | cons hab _ ih => rw [List.map_cons, List.map_cons, hfg _ _ hab, ih]

theorem mapM_eq_of_forall₂ {γ ε : Type} {f : α → Except ε γ} {g : β → Except ε γ} {l : List α}
    {l' : List β} (h : Forall₂ R l l') (hfg : ∀ a b, R a b → f a = g b) : l.mapM f = l'.mapM g := by
  induction h with
  | nil => rfl
  | cons hab _ ih => rw [List.mapM_cons, List.mapM_cons, hfg _ _ hab, ih]

/-- Elements that belong together, and to one element of a third list. -/
theorem forall₂_common {γ : Type} {F : α → γ → Prop} {G : β → γ → Prop} {l : List α} {l' : List β}
    {m : List γ} (h : Forall₂ R l l') : Forall₂ F l m → Forall₂ G l' m →
    Forall₂ (fun a b => R a b ∧ ∃ c, F a c ∧ G b c) l l' := by
  induction h generalizing m with
  | nil => exact fun _ _ => .nil
  | cons hab _ ih =>
    rintro (_ | ⟨hf, hfs⟩) hgs
    obtain ⟨hg, hgs⟩ := forall₂_cons.mp hgs
    exact .cons ⟨hab, _, hf, hg⟩ (ih hfs hgs)

/-! ## 2. Groups -/

section Groups

variable {κ : Type} [DecidableEq κ]

/-- The same key, and elements that belong together. -/
def Keyed (R : α → β → Prop) (p : κ × α) (q : κ × β) : Prop := p.1 = q.1 ∧ R p.2 q.2

theorem forall₂_addTo {k : κ} {a : α} {b : β} (hab : R a b) {gs : List (κ × List α)}
    {gs' : List (κ × List β)} (h : Forall₂ (Keyed (Forall₂ R)) gs gs') :
    Forall₂ (Keyed (Forall₂ R)) (addTo k a gs) (addTo k b gs') := by
  induction h with
  | nil => exact .cons ⟨rfl, .cons hab .nil⟩ .nil
  | @cons g g' gs gs' hg hgs ih =>
    obtain ⟨hkey, hlist⟩ := hg
    rw [addTo, addTo, ← hkey]
    by_cases hk : g.1 = k
    · rw [if_pos hk, if_pos hk]
      exact .cons ⟨rfl, rel_append hlist (.cons hab .nil)⟩ hgs
    · rw [if_neg hk, if_neg hk]
      exact .cons ⟨hkey, hlist⟩ ih

/-- **Grouping treats both alike.** -/
theorem forall₂_groups {ps : List (κ × α)} {qs : List (κ × β)} (h : Forall₂ (Keyed R) ps qs) :
    Forall₂ (Keyed (Forall₂ R)) (groups ps) (groups qs) := by
  refine rel_foldl (P := Forall₂ (Keyed (Forall₂ R))) (R := Keyed R) ?_ .nil h
  intro gs gs' hgs p q hpq
  dsimp only
  rw [← hpq.1]
  exact forall₂_addTo hpq.2 hgs

end Groups

/-! ## 3. Sorting -/

section Sorting

variable {r : α → α → Prop} {s : β → β → Prop} [DecidableRel r] [DecidableRel s]

/-- A sort of pairs by what both sides agree on. -/
theorem insertionSort_pairs {z : List (α × β)}
    (hrs : ∀ p ∈ z, ∀ q ∈ z, r p.1 q.1 ↔ s p.2 q.2) :
    (z.insertionSort fun p q => r p.1 q.1).map Prod.fst = (z.map Prod.fst).insertionSort r
      ∧ (z.insertionSort fun p q => r p.1 q.1).map Prod.snd = (z.map Prod.snd).insertionSort s :=
  ⟨map_insertionSort _ r Prod.fst z fun _ _ _ _ => Iff.rfl, map_insertionSort _ s Prod.snd z hrs⟩

/-- **Sorting treats both alike**, and elements belong together afterwards if they did before. -/
theorem forall₂_insertionSort_iff {l : List α} {l' : List β} (h : Forall₂ R l l')
    (hrs : ∀ a b, R a b → ∀ c d, R c d → (r a c ↔ s b d)) :
    Forall₂ T (l.insertionSort r) (l'.insertionSort s) ↔ Forall₂ T l l' := by
  obtain ⟨z, rfl, rfl, hz⟩ := exists_pairs h
  obtain ⟨hfst, hsnd⟩ := insertionSort_pairs fun p hp q hq => hrs _ _ (hz p hp) _ _ (hz q hq)
  rw [← hfst, ← hsnd, forall₂_map_left_iff, forall₂_map_right_iff, forall₂_same, forall₂_map_left_iff,
    forall₂_map_right_iff, forall₂_same]
  exact forall_congr' fun p => by rw [List.mem_insertionSort]

theorem forall₂_insertionSort {l : List α} {l' : List β} (h : Forall₂ R l l')
    (hrs : ∀ a b, R a b → ∀ c d, R c d → (r a c ↔ s b d)) :
    Forall₂ R (l.insertionSort r) (l'.insertionSort s) :=
  (forall₂_insertionSort_iff h hrs).mpr h

end Sorting

/-! ## 4. Sides -/

section Sides

theorem cluster_map {γ : Type} {agree : α → α → Bool} (f : γ → α) (l : List γ) :
    cluster agree (l.map f)
      = (cluster (fun a b => agree (f a) (f b)) l).map fun d => (f d.1, d.2.map f) := by
  match l with
  | [] => rfl
  | a :: l =>
    rw [List.map_cons, cluster_cons, cluster_cons, List.map_cons, List.filter_map, List.filter_map,
      ← cluster_map f (l.filter _)]
    rfl
termination_by l.length
decreasing_by
  exact Nat.lt_succ_of_le (List.length_filter_le _ _)

/-- The elements of a side are elements. -/
theorem mem_of_cluster {agree : α → α → Bool} {l : List α} {d : α × List α} (h : d ∈ cluster agree l) {a : α}
    (ha : a ∈ d.2) : a ∈ l := by
  match l with
  | [] => cases h
  | b :: l =>
    rw [cluster_cons] at h
    rcases List.mem_cons.mp h with rfl | h
    · rcases List.mem_cons.mp ha with rfl | ha
      · exact List.mem_cons_self
      · exact List.mem_cons_of_mem _ (List.mem_of_mem_filter ha)
    · exact List.mem_cons_of_mem _ (List.mem_of_mem_filter (mem_of_cluster h ha))
termination_by l.length
decreasing_by
  exact Nat.lt_succ_of_le (List.length_filter_le _ _)

/-- Two lists are divided into sides of the same positions. -/
def SamePartition (agree : α → α → Bool) (l l' : List α) : Prop :=
  cluster (fun p q => agree p.1 q.1) (l.zip l') = cluster (fun p q => agree p.2 q.2) (l.zip l')

/-- Two sides that belong together. -/
def SideTwin (R : α → α → Prop) (d d' : α × List α) : Prop := R d.1 d'.1 ∧ Forall₂ R d.2 d'.2

/-- **The sides of the same positions belong together.** -/
theorem forall₂_cluster {R : α → α → Prop} {agree : α → α → Bool} {l l' : List α} (h : Forall₂ R l l')
    (hsame : SamePartition agree l l') :
    Forall₂ (SideTwin R) (cluster agree l) (cluster agree l') := by
  obtain ⟨z, rfl, rfl, hz⟩ := exists_pairs h
  have hzip : (z.map Prod.fst).zip (z.map Prod.snd) = z := (List.zip_of_prod rfl rfl).symm
  rw [SamePartition, hzip] at hsame
  rw [cluster_map Prod.fst z, cluster_map Prod.snd z, ← hsame, forall₂_map_left_iff,
    forall₂_map_right_iff, forall₂_same]
  intro d hd
  exact ⟨hz d.1 (fst_mem_of_cluster hd), forall₂_of_pairs fun p hp => hz p (mem_of_cluster hd hp)⟩

end Sides

end Ecma
