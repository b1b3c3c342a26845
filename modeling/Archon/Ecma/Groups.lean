/-
# Groups and sides

Two ways of dividing a list, as programs write them.  `groups` is a `Map` from keys to lists that is
filled in the order of the list.  `cluster` is greedy: each element goes to the first side whose
first element it agrees with, and founds a side where there is none.

A group does not depend on how the others came about (`mem_groups`).  A side does, unless agreement
is only between equals: then the sides are the classes of the values (`mem_cluster_iff`).
-/
import Mathlib.Data.List.Dedup
import Mathlib.Data.List.Induction
import Mathlib.Data.List.Perm.Basic
import Mathlib.Data.Set.Basic

namespace Ecma

/-! ## 1. Groups -/

section Groups

variable {κ α : Type} [DecidableEq κ]

/-- Append to the list under a key; a new key comes last. -/
def addTo (k : κ) (a : α) : List (κ × List α) → List (κ × List α)
  | [] => [(k, [a])]
  | g :: gs => if g.1 = k then (g.1, g.2 ++ [a]) :: gs else g :: addTo k a gs

/-- The values by their keys, which stand in the order of their first occurrence. -/
def groups (ps : List (κ × α)) : List (κ × List α) := ps.foldl (fun gs p => addTo p.1 p.2 gs) []

/-- The values under a key. -/
def under (k : κ) (ps : List (κ × α)) : List α := (ps.filter fun p => p.1 = k).map Prod.snd

theorem under_append (k : κ) (ps qs : List (κ × α)) : under k (ps ++ qs) = under k ps ++ under k qs := by
  simp [under]

theorem mem_under {k : κ} {ps : List (κ × α)} {a : α} : a ∈ under k ps ↔ (k, a) ∈ ps := by
  simp [under]

theorem under_perm {k : κ} {ps qs : List (κ × α)} (h : ps.Perm qs) : (under k ps).Perm (under k qs) :=
  (h.filter _).map _

theorem mem_keys_addTo {k k' : κ} {a : α} {gs : List (κ × List α)} :
    k' ∈ (addTo k a gs).map Prod.fst ↔ k' = k ∨ k' ∈ gs.map Prod.fst := by
  induction gs with
  | nil => simp [addTo]
  | cons g gs ih =>
    rw [addTo]
    split
    case isTrue h =>
      rw [List.map_cons, List.map_cons, List.mem_cons, h]
      simp
    case isFalse h =>
      rw [List.map_cons, List.map_cons, List.mem_cons, List.mem_cons, ih]
      exact or_left_comm

theorem nodup_addTo {k : κ} {a : α} {gs : List (κ × List α)} (h : (gs.map Prod.fst).Nodup) :
    ((addTo k a gs).map Prod.fst).Nodup := by
  induction gs with
  | nil => simp [addTo]
  | cons g gs ih =>
    obtain ⟨hg, hgs⟩ := List.nodup_cons.mp h
    rw [addTo]
    split
    case isTrue => exact h
    case isFalse hk =>
      refine List.nodup_cons.mpr ⟨fun hmem => ?_, ih hgs⟩
      rcases mem_keys_addTo.mp hmem with heq | hmem
      · exact hk heq
      · exact hg hmem

/-- The keys of the groups are different. -/
theorem nodup_groups (ps : List (κ × α)) : ((groups ps).map Prod.fst).Nodup := by
  induction ps using List.reverseRecOn with
  | nil => exact List.nodup_nil
  | append_singleton ps p ih =>
    rw [groups, List.foldl_append]
    exact nodup_addTo ih

theorem mem_addTo {k k' : κ} {a : α} {as : List α} {gs : List (κ × List α)}
    (h : (gs.map Prod.fst).Nodup) : (k', as) ∈ addTo k a gs ↔
      if k' = k then (∃ bs, (k, bs) ∈ gs ∧ as = bs ++ [a]) ∨ k ∉ gs.map Prod.fst ∧ as = [a]
      else (k', as) ∈ gs := by
  induction gs with
  | nil =>
    by_cases hk : k' = k <;> simp [addTo, hk]
  | cons g gs ih =>
    obtain ⟨hg, hgs⟩ := List.nodup_cons.mp h
    obtain ⟨kg, bs⟩ := g
    rw [addTo]
    by_cases hkg : kg = k
    · subst hkg
      have hnone : ∀ cs, (kg, cs) ∉ gs := fun cs hcs => hg (List.mem_map.mpr ⟨_, hcs, rfl⟩)
      rw [if_pos rfl, List.mem_cons, Prod.mk.injEq]
      by_cases hk : k' = kg
      · subst hk
        simp [hnone]
      · simp [hk]
    · rw [if_neg hkg, List.mem_cons, ih hgs]
      by_cases hk : k' = k
      · subst hk
        simp [Ne.symm hkg]
      · simp [hk]

/-- **The group under a key is what stands under it.** -/
theorem mem_groups {ps : List (κ × α)} {k : κ} {as : List α} :
    (k, as) ∈ groups ps ↔ as = under k ps ∧ as ≠ [] := by
  induction ps using List.reverseRecOn generalizing k as with
  | nil => simp [groups, under]
  | append_singleton ps p ih =>
    obtain ⟨kp, a⟩ := p
    have hstep : groups (ps ++ [(kp, a)]) = addTo kp a (groups ps) := by
      rw [groups, List.foldl_append]
      rfl
    rw [hstep, mem_addTo (nodup_groups ps), under_append]
    by_cases hk : k = kp
    · subst hk
      have hone : under k [(k, a)] = [a] := by simp [under]
      have hkeys : k ∈ (groups ps).map Prod.fst ↔ under k ps ≠ [] := by
        constructor
        · intro hmem
          obtain ⟨g, hg, rfl⟩ := List.mem_map.mp hmem
          obtain ⟨hg, hne⟩ := ih.mp hg
          rwa [← hg]
        · intro hne
          exact List.mem_map_of_mem (ih.mpr ⟨rfl, hne⟩)
      rw [if_pos rfl, hone, hkeys, not_not]
      constructor
      · rintro (⟨bs, hbs, rfl⟩ | ⟨hnil, rfl⟩)
        · rw [(ih.mp hbs).1]
          simp
        · rw [hnil]
          simp
      · rintro ⟨rfl, -⟩
        by_cases hnil : under k ps = []
        · exact Or.inr ⟨hnil, by rw [hnil]; rfl⟩
        · exact Or.inl ⟨_, ih.mpr ⟨rfl, hnil⟩, rfl⟩
    · have hnone : under k [(kp, a)] = [] := by simp [under, Ne.symm hk]
      rw [if_neg hk, hnone, List.append_nil, ih]

/-- A key that stands once has one value. -/
theorem under_eq_singleton {ps : List (κ × α)} {k : κ} {a : α} (h : (ps.map Prod.fst).Nodup)
    (hmem : (k, a) ∈ ps) : under k ps = [a] := by
  induction ps with
  | nil => cases hmem
  | cons p ps ih =>
    obtain ⟨hp, hps⟩ := List.nodup_cons.mp h
    rcases List.mem_cons.mp hmem with rfl | hmem
    · have hnil : under k ps = [] := by
        rw [List.eq_nil_iff_forall_not_mem]
        exact fun b hb => hp (List.mem_map.mpr ⟨_, mem_under.mp hb, rfl⟩)
      rw [under, List.filter_cons_of_pos (by simp), List.map_cons]
      exact congrArg _ hnil
    · have hne : p.1 ≠ k := fun heq => hp (heq ▸ List.mem_map.mpr ⟨_, hmem, rfl⟩)
      rw [under, List.filter_cons_of_neg (by simpa using hne)]
      exact ih hps hmem

end Groups

/-! ## 2. Sides -/

section Sides

variable {α : Type}

/-- To the first side whose first element agrees, or to a new one. -/
def place (agree : α → α → Bool) (c : α) : List (α × List α) → List (α × List α)
  | [] => [(c, [c])]
  | d :: ds => if agree d.1 c then (d.1, d.2 ++ [c]) :: ds else d :: place agree c ds

/-- The sides of a list, each with its first element. -/
def cluster (agree : α → α → Bool) (l : List α) : List (α × List α) :=
  l.foldl (fun ds c => place agree c ds) []

variable {agree : α → α → Bool}

theorem foldl_place (d : α × List α) (ds : List (α × List α)) (l : List α) :
    l.foldl (fun ds c => place agree c ds) (d :: ds)
      = (d.1, d.2 ++ l.filter (agree d.1))
        :: (l.filter fun c => !agree d.1 c).foldl (fun ds c => place agree c ds) ds := by
  induction l generalizing d ds with
  | nil => simp
  | cons c l ih =>
    rw [List.foldl_cons, place]
    by_cases h : agree d.1 c
    · rw [if_pos h, ih, List.filter_cons_of_pos h, List.filter_cons_of_neg (by simpa using h),
        List.append_assoc]
      rfl
    · rw [if_neg h, ih, List.filter_cons_of_neg h, List.filter_cons_of_pos (by simpa using h)]
      rfl

/-- **The first element takes all that agree with it**, and the others are divided without them. -/
theorem cluster_cons (a : α) (l : List α) : cluster agree (a :: l)
    = (a, a :: l.filter (agree a)) :: cluster agree (l.filter fun c => !agree a c) :=
  foldl_place (a, [a]) [] l

theorem length_cluster_lt_two {a : α} {l : List α} :
    (cluster agree (a :: l)).length < 2 ↔ ∀ c ∈ l, agree a c = true := by
  rw [cluster_cons, List.length_cons]
  constructor
  · intro h c hc
    by_contra hne
    have hmem : c ∈ l.filter fun c => !agree a c := List.mem_filter.mpr ⟨hc, by simpa using hne⟩
    cases hrest : l.filter fun c => !agree a c with
    | nil =>
      rw [hrest] at hmem
      cases hmem
    | cons b bs =>
      rw [hrest, cluster_cons, List.length_cons] at h
      omega
  · intro h
    have hrest : l.filter (fun c => !agree a c) = [] := by
      rw [List.filter_eq_nil_iff]
      intro c hc
      rw [h c hc]
      decide
    rw [hrest]
    exact Nat.one_lt_two

/-- The first elements are elements. -/
theorem fst_mem_of_cluster {l : List α} {d : α × List α} (h : d ∈ cluster agree l) : d.1 ∈ l := by
  match l with
  | [] => cases h
  | a :: l =>
    rw [cluster_cons] at h
    rcases List.mem_cons.mp h with rfl | h
    · exact List.mem_cons_self
    · exact List.mem_cons_of_mem _ (List.mem_of_mem_filter (fst_mem_of_cluster h))
termination_by l.length
decreasing_by
  exact Nat.lt_succ_of_le (List.length_filter_le _ _)

/-- A side holds its first element, and elements that this one agrees with. -/
theorem mem_side {l : List α} {d : α × List α} (h : d ∈ cluster agree l) : d.1 ∈ d.2
    ∧ ∀ c ∈ d.2, c ∈ l ∧ (c = d.1 ∨ agree d.1 c = true) := by
  match l with
  | [] => cases h
  | a :: l =>
    rw [cluster_cons] at h
    rcases List.mem_cons.mp h with rfl | h
    · refine ⟨List.mem_cons_self, fun c hc => ?_⟩
      rcases List.mem_cons.mp hc with rfl | hc
      · exact ⟨List.mem_cons_self, Or.inl rfl⟩
      · obtain ⟨hc, hagree⟩ := List.mem_filter.mp hc
        exact ⟨List.mem_cons_of_mem _ hc, Or.inr hagree⟩
    · obtain ⟨hfirst, hall⟩ := mem_side h
      refine ⟨hfirst, fun c hc => ?_⟩
      obtain ⟨hc, hagree⟩ := hall c hc
      exact ⟨List.mem_cons_of_mem _ (List.mem_of_mem_filter hc), hagree⟩
termination_by l.length
decreasing_by
  exact Nat.lt_succ_of_le (List.length_filter_le _ _)

/-- Every element stands on a side. -/
theorem exists_side {l : List α} {c : α} (h : c ∈ l) : ∃ d ∈ cluster agree l, c ∈ d.2 := by
  match l with
  | [] => cases h
  | a :: l =>
    rw [cluster_cons]
    rcases List.mem_cons.mp h with rfl | h
    · exact ⟨_, List.mem_cons_self, List.mem_cons_self⟩
    · cases hagree : agree a c with
      | true => exact ⟨_, List.mem_cons_self, List.mem_cons_of_mem _ (List.mem_filter.mpr ⟨h, hagree⟩)⟩
      | false =>
        obtain ⟨d, hd, hc⟩ := exists_side (l := l.filter fun c => !agree a c)
          (List.mem_filter.mpr ⟨h, by rw [hagree]; rfl⟩)
        exact ⟨d, List.mem_cons_of_mem _ hd, hc⟩
termination_by l.length
decreasing_by
  exact Nat.lt_succ_of_le (List.length_filter_le _ _)

theorem perm_of_not_pairwise {R : α → α → Prop} {l : List α} (h : ¬ l.Pairwise R) :
    ∃ a b l', l.Perm (a :: b :: l') ∧ ¬ R a b := by
  induction l with
  | nil => exact absurd List.Pairwise.nil h
  | cons c l ih =>
    by_cases hc : ∀ b ∈ l, R c b
    · obtain ⟨a, b, l', hperm, hab⟩ := ih fun hl => h (List.pairwise_cons.mpr ⟨hc, hl⟩)
      refine ⟨a, b, c :: l', (hperm.cons c).trans ?_, hab⟩
      exact ((List.Perm.swap a c (b :: l'))).trans ((List.Perm.swap b c l').cons a)
    · push Not at hc
      obtain ⟨b, hb, hcb⟩ := hc
      obtain ⟨l', hl'⟩ := List.mem_iff_append.mp hb
      obtain ⟨l'', rfl⟩ := hl'
      exact ⟨c, b, l' ++ l'', List.perm_middle.cons c, hcb⟩

end Sides

/-! ## 3. Agreement of values -/

section Values

variable {α β : Type} {value : α → β} {same : β → β → Bool}

/-- What is to be seen of a side: the value of its first element, and its elements. -/
def seen (value : α → β) (d : α × List α) : β × Set α := (value d.1, {a | a ∈ d.2})

/-- The side of an element, where values agree only if they are equal: all elements of its value, and
the element alone if the value does not even agree with itself. -/
def classOf (value : α → β) (same : β → β → Bool) (l : List α) (a : α) : Set α :=
  {b | b = a ∨ b ∈ l ∧ value b = value a ∧ same (value a) (value a) = true}

section First

variable {a : α} {l : List α}

theorem classOf_first (ha : ∀ c ∈ l, same (value a) (value c) = true → value a = value c) :
    {b | b ∈ a :: l.filter fun c => same (value a) (value c)} = classOf value same (a :: l) a := by
  ext b
  simp only [classOf, Set.mem_ofPred_eq, List.mem_cons, List.mem_filter]
  constructor
  · rintro (rfl | ⟨hb, hsame⟩)
    · exact Or.inl rfl
    · have heq := ha b hb hsame
      exact Or.inr ⟨Or.inr hb, heq.symm, by rwa [← heq] at hsame⟩
  · rintro (rfl | ⟨rfl | hb, heq, hsame⟩)
    · exact Or.inl rfl
    · exact Or.inl rfl
    · exact Or.inr ⟨hb, by rwa [heq]⟩

/-- The first element has no part in the class of one that it does not agree with. -/
theorem classOf_rest {b : α} (hb : same (value a) (value b) = false) :
    classOf value same (l.filter fun c => !same (value a) (value c)) b
      = classOf value same (a :: l) b := by
  ext c
  simp only [classOf, Set.mem_ofPred_eq, List.mem_cons, List.mem_filter]
  refine or_congr_right ⟨?_, ?_⟩
  · rintro ⟨⟨hc, -⟩, heq, hsame⟩
    exact ⟨Or.inr hc, heq, hsame⟩
  · rintro ⟨rfl | hc, heq, hsame⟩
    · rw [heq, hsame] at hb
      cases hb
    · exact ⟨⟨hc, by rw [heq, hb]; rfl⟩, heq, hsame⟩

/-- An element that the first one agrees with has its class. -/
theorem classOf_same {b : α} (hb : b ∈ l) (heq : value a = value b)
    (hsame : same (value a) (value b) = true) :
    classOf value same (a :: l) b = classOf value same (a :: l) a := by
  ext c
  simp only [classOf, Set.mem_ofPred_eq, List.mem_cons, ← heq]
  rw [← heq] at hsame
  constructor
  · rintro (rfl | hc)
    · exact Or.inr ⟨Or.inr hb, heq.symm, hsame⟩
    · exact Or.inr hc
  · rintro (rfl | hc)
    · exact Or.inr ⟨Or.inl rfl, rfl, hsame⟩
    · exact Or.inr hc

end First

/-- **The sides are the classes of the values**, where only equal values agree. -/
theorem mem_cluster_iff {l : List α}
    (h : l.Pairwise fun a b => same (value a) (value b) = true → value a = value b)
    {S : β × Set α} :
    (∃ d ∈ cluster (fun a b => same (value a) (value b)) l, seen value d = S)
      ↔ ∃ a ∈ l, S = (value a, classOf value same l a) := by
  match l with
  | [] => simp [cluster]
  | a :: l =>
    obtain ⟨ha, hl⟩ := List.pairwise_cons.mp h
    have hrest := mem_cluster_iff (S := S) (hl.filter fun c => !same (value a) (value c))
    have hfirst : seen value (a, a :: l.filter fun c => same (value a) (value c))
        = (value a, classOf value same (a :: l) a) := congrArg (Prod.mk _) (classOf_first ha)
    rw [cluster_cons]
    constructor
    · rintro ⟨d, hd, rfl⟩
      rcases List.mem_cons.mp hd with rfl | hd
      · exact ⟨a, List.mem_cons_self, hfirst⟩
      · obtain ⟨b, hb, hside⟩ := hrest.mp ⟨d, hd, rfl⟩
        obtain ⟨hbl, hne⟩ := List.mem_filter.mp hb
        refine ⟨b, List.mem_cons_of_mem _ hbl, hside.trans ?_⟩
        rw [classOf_rest (by simpa using hne)]
    · rintro ⟨b, hb, rfl⟩
      rcases List.mem_cons.mp hb with rfl | hb
      · exact ⟨_, List.mem_cons_self, hfirst⟩
      · cases hsame : same (value a) (value b) with
        | true =>
          have heq := ha b hb hsame
          exact ⟨_, List.mem_cons_self, by rw [hfirst, classOf_same hb heq hsame, heq]⟩
        | false =>
          have hmem : b ∈ l.filter fun c => !same (value a) (value c) :=
            List.mem_filter.mpr ⟨hb, by rw [hsame]; rfl⟩
          obtain ⟨d, hd, hside⟩ := hrest.mpr ⟨b, hmem, by rw [classOf_rest hsame]⟩
          exact ⟨d, List.mem_cons_of_mem _ hd, hside⟩
termination_by l.length
decreasing_by
  exact Nat.lt_succ_of_le (List.length_filter_le _ _)

end Values

end Ecma
