/-
# Distances, and the search that finds them

A walk of `n` steps along a relation, the distance between two points, and breadth-first search: a
queue of points with the length of the walk that reached each, and a map in which every point other
than the first is entered once, when it is first reached.

The search takes the points that follow from a function that may look at the length so far, so that
a limit on it is a function that answers nothing past the limit.  What a round preserves is
`Searched`: the queue is in the order of the lengths, nothing entered is more than one step further
than anything that waits, and what has been left has all its followers entered.  When nothing waits,
the entries are the points within the limit and their distances (`search_get_iff`), and a list of all
that can follow bounds the rounds (`search_isSome`).
-/
import Archon.Ecma.Maps
import Mathlib.Data.ENat.Basic
import Mathlib.Data.List.Perm.Subperm
import Mathlib.Order.WellFounded

namespace Graphs

open Ecma

variable {α : Type}

/-! ## 1. Walks and distances -/

section Walks

variable {E F : α → α → Prop} {a b c : α} {m n : ℕ}

/-- A walk of `n` steps. -/
inductive Walk (E : α → α → Prop) (a : α) : ℕ → α → Prop
  | here : Walk E a 0 a
  | step {n : ℕ} {b c : α} : Walk E a n b → E b c → Walk E a (n + 1) c

theorem Walk.one (h : E a b) : Walk E a 1 b := .step .here h

theorem Walk.append (h : Walk E a m b) (h' : Walk E b n c) : Walk E a (m + n) c := by
  induction h' with
  | here => exact h
  | step _ he ih => exact ih.step he

theorem Walk.mono (hEF : ∀ x y, E x y → F x y) (h : Walk E a n b) : Walk F a n b := by
  induction h with
  | here => exact .here
  | step _ he ih => exact ih.step (hEF _ _ he)

/-- A walk that is not empty has a first step. -/
theorem Walk.first (h : Walk E a (n + 1) c) : ∃ b, E a b ∧ Walk E b n c := by
  induction n generalizing c with
  | zero =>
    obtain _ | ⟨hwalk, he⟩ := h
    cases hwalk
    exact ⟨c, he, .here⟩
  | succ n ih =>
    obtain _ | ⟨hwalk, he⟩ := h
    obtain ⟨b, hab, hbc⟩ := ih hwalk
    exact ⟨b, hab, hbc.step he⟩

/-- A walk to another point has a last step. -/
theorem Walk.last (h : Walk E a n c) (hne : c ≠ a) : ∃ b, E b c := by
  cases h with
  | here => exact absurd rfl hne
  | step _ he => exact ⟨_, he⟩

/-- The length of a shortest walk. -/
def Distance (E : α → α → Prop) (a b : α) (n : ℕ) : Prop :=
  Walk E a n b ∧ ∀ m, Walk E a m b → n ≤ m

theorem Walk.exists_distance (h : Walk E a n b) : ∃ d ≤ n, Distance E a b d := by
  classical
  have hsome : ∃ d, Walk E a d b := ⟨n, h⟩
  exact ⟨Nat.find hsome, Nat.find_min' hsome h, Nat.find_spec hsome,
    fun m hm => Nat.find_min' hsome hm⟩

end Walks

/-! ## 2. Breadth-first search -/

section Search

variable [DecidableEq α]

/-- A point is reached: the queue, and the map of the lengths. -/
def visit (root : α) (hops : ℕ) (s : List (α × ℕ) × JsMap α ℕ) (v : α) : List (α × ℕ) × JsMap α ℕ :=
  if v = root ∨ s.2.has v then s else (s.1 ++ [(v, hops + 1)], s.2.set v (hops + 1))

/-- Take points from the queue until it is empty; `none` where the rounds do not suffice. -/
def search (next : ℕ → α → List α) (root : α) :
    ℕ → List (α × ℕ) → JsMap α ℕ → Option (JsMap α ℕ)
  | 0, _, _ => none
  | _ + 1, [], distances => some distances
  | rounds + 1, current :: queue, distances =>
    let s := (next current.2 current.1).foldl (visit root current.2) (queue, distances)
    search next root rounds s.1 s.2

variable {next : ℕ → α → List α} {root : α} {hops : ℕ} {queue : List (α × ℕ)} {d d' : JsMap α ℕ}

/-- Visiting a list of points enters some of them, at the end of both; afterwards all are there. -/
theorem foldl_visit (root : α) (hops : ℕ) (vs : List α) (queue : List (α × ℕ)) (d : JsMap α ℕ) :
    ∃ (new : List α) (d' : JsMap α ℕ),
      vs.foldl (visit root hops) (queue, d) = (queue ++ new.map (·, hops + 1), d')
        ∧ d'.entries = d.entries ++ new.map (·, hops + 1)
        ∧ (∀ v ∈ new, v ∈ vs ∧ v ≠ root)
        ∧ ∀ v ∈ vs, v = root ∨ d'.has v = true := by
  induction vs generalizing queue d with
  | nil => exact ⟨[], d, by simp⟩
  | cons v vs ih =>
    rw [List.foldl_cons, visit]
    split
    case isTrue hthere =>
      obtain ⟨new, d', hfold, hentries, hnew, hall⟩ := ih queue d
      refine ⟨new, d', hfold, hentries, fun w hw => ⟨.tail _ (hnew w hw).1, (hnew w hw).2⟩, ?_⟩
      intro w hw
      rcases List.mem_cons.mp hw with rfl | hw
      · rcases hthere with hroot | hhas
        · exact .inl hroot
        · obtain ⟨n, hn⟩ := JsMap.has_eq_true.mp hhas
          have hmem : (w, n) ∈ d'.entries := by
            rw [hentries]
            exact List.mem_append_left _ (JsMap.mem_iff_get.mpr hn)
          exact .inr (JsMap.has_eq_true.mpr ⟨n, JsMap.mem_iff_get.mp hmem⟩)
      · exact hall w hw
    case isFalse hnot =>
      obtain ⟨hroot, hhas⟩ := not_or.mp hnot
      have hset := JsMap.entries_set_of_not_has (a := hops + 1) (Bool.eq_false_iff.mpr hhas)
      obtain ⟨new, d', hfold, hentries, hnew, hall⟩ := ih (queue ++ [(v, hops + 1)]) (d.set v (hops + 1))
      rw [hset, List.append_assoc] at hentries
      refine ⟨v :: new, d', ?_, hentries, ?_, ?_⟩
      · rw [hfold, List.append_assoc]
        rfl
      · intro w hw
        rcases List.mem_cons.mp hw with rfl | hw
        · exact ⟨.head _, hroot⟩
        · exact ⟨.tail _ (hnew w hw).1, (hnew w hw).2⟩
      · intro w hw
        rcases List.mem_cons.mp hw with rfl | hw
        · have hmem : (w, hops + 1) ∈ d'.entries := by
            rw [hentries]
            simp
          exact .inr (JsMap.has_eq_true.mpr ⟨hops + 1, JsMap.mem_iff_get.mp hmem⟩)
        · exact hall w hw

/-- What a round preserves.  `left` is what has been taken from the queue. -/
structure Searched (E : α → α → Prop) (limit : ℕ∞) (root : α) (left queue : List (α × ℕ))
    (d : JsMap α ℕ) : Prop where
  entered : left ++ queue = (root, 0) :: d.entries
  other : ∀ e ∈ d.entries, e.1 ≠ root
  walk : ∀ e ∈ d.entries, Walk E root e.2 e.1 ∧ (e.2 : ℕ∞) ≤ limit
  order : ((root, 0) :: d.entries).Pairwise fun e e' => e.2 ≤ e'.2
  near : ∀ c ∈ queue, ∀ e ∈ d.entries, e.2 ≤ c.2 + 1
  closed : ∀ c ∈ left, (c.2 : ℕ∞) < limit → ∀ v, E c.1 v →
    v = root ∨ ∃ n, d.get v = some n ∧ n ≤ c.2 + 1

/-- At the start the first point waits. -/
theorem searched_start (E : α → α → Prop) (limit : ℕ∞) (root : α) :
    Searched E limit root [] [(root, 0)] JsMap.empty where
  entered := rfl
  other := nofun
  walk := nofun
  order := List.pairwise_singleton _ _
  near := nofun
  closed := nofun

variable {E : α → α → Prop} {limit : ℕ∞} {left : List (α × ℕ)} {current : α × ℕ}

theorem Searched.head_walk (h : Searched E limit root left (current :: queue) d) :
    Walk E root current.2 current.1 := by
  have hmem : current ∈ (root, 0) :: d.entries := by
    rw [← h.entered]
    simp
  rcases List.mem_cons.mp hmem with heq | hmem
  · rw [heq]
    exact .here
  · exact (h.walk _ hmem).1

/-- What waits is at least as far as what comes first. -/
theorem Searched.head_le (h : Searched E limit root left (current :: queue) d) :
    ∀ c ∈ queue, current.2 ≤ c.2 := by
  have horder := h.order
  rw [← h.entered, List.pairwise_append] at horder
  exact (List.pairwise_cons.mp horder.2.1).1

/-- One round. -/
theorem Searched.round (hnext : ∀ hops u v, v ∈ next hops u ↔ E u v ∧ (hops : ℕ∞) < limit)
    (h : Searched E limit root left (current :: queue) d) :
    ∃ queue' d', (next current.2 current.1).foldl (visit root current.2) (queue, d) = (queue', d')
      ∧ Searched E limit root (left ++ [current]) queue' d' := by
  obtain ⟨new, d', hfold, hentries, hnew, hall⟩ :=
    foldl_visit root current.2 (next current.2 current.1) queue d
  have hmap : ∀ e ∈ new.map (·, current.2 + 1), e.1 ∈ new ∧ e.2 = current.2 + 1 := by
    intro e he
    obtain ⟨v, hv, rfl⟩ := List.mem_map.mp he
    exact ⟨hv, rfl⟩
  have hnear := h.near current (.head _)
  refine ⟨_, d', hfold, ?_, ?_, ?_, ?_, ?_, ?_⟩
  · have hentered := congrArg (· ++ new.map (·, current.2 + 1)) h.entered
    simpa [hentries] using hentered
  · intro e he
    rw [hentries] at he
    rcases List.mem_append.mp he with he | he
    · exact h.other e he
    · exact (hnew _ (hmap e he).1).2
  · intro e he
    rw [hentries] at he
    rcases List.mem_append.mp he with he | he
    · exact h.walk e he
    · obtain ⟨hmem, hlen⟩ := hmap e he
      obtain ⟨hedge, hlimit⟩ := (hnext _ _ _).mp (hnew _ hmem).1
      rw [hlen]
      refine ⟨h.head_walk.step hedge, ?_⟩
      rw [Nat.cast_add, Nat.cast_one]
      exact Order.add_one_le_of_lt hlimit
  · rw [hentries, ← List.cons_append, List.pairwise_append]
    refine ⟨h.order, ?_, ?_⟩
    · rw [List.pairwise_map]
      exact List.pairwise_of_forall fun _ _ => le_rfl
    · intro e he e' he'
      rw [(hmap e' he').2]
      rcases List.mem_cons.mp he with rfl | he
      · exact Nat.zero_le _
      · exact hnear e he
  · intro c hc e he
    have hle : current.2 ≤ c.2 := by
      rcases List.mem_append.mp hc with hc | hc
      · exact h.head_le c hc
      · rw [(hmap c hc).2]
        exact Nat.le_succ _
    rw [hentries] at he
    rcases List.mem_append.mp he with he | he
    · exact (hnear e he).trans (Nat.succ_le_succ hle)
    · rw [(hmap e he).2]
      exact Nat.succ_le_succ hle
  · intro c hc hlimit v hedge
    have hkeep : ∀ {w n}, d.get w = some n → d'.get w = some n := by
      intro w n hn
      rw [← JsMap.mem_iff_get, hentries]
      exact List.mem_append_left _ (JsMap.mem_iff_get.mpr hn)
    rcases List.mem_append.mp hc with hc | hc
    · rcases h.closed c hc hlimit v hedge with hroot | ⟨n, hn, hle⟩
      · exact .inl hroot
      · exact .inr ⟨n, hkeep hn, hle⟩
    · rw [List.mem_singleton] at hc
      subst hc
      rcases hall v ((hnext _ _ _).mpr ⟨hedge, hlimit⟩) with hroot | hhas
      · exact .inl hroot
      · obtain ⟨n, hn⟩ := JsMap.has_eq_true.mp hhas
        refine .inr ⟨n, hn, ?_⟩
        have hmem := JsMap.mem_iff_get.mpr hn
        rw [hentries] at hmem
        rcases List.mem_append.mp hmem with hmem | hmem
        · exact hnear _ hmem
        · exact (hmap _ hmem).2.le

/-- A search that ends has left everything. -/
theorem Searched.run (hnext : ∀ hops u v, v ∈ next hops u ↔ E u v ∧ (hops : ℕ∞) < limit)
    {rounds : ℕ} (h : Searched E limit root left queue d)
    (hsearch : search next root rounds queue d = some d') : ∃ left', Searched E limit root left' [] d' := by
  induction rounds generalizing left queue d with
  | zero => cases hsearch
  | succ rounds ih =>
    cases queue with
    | nil =>
      obtain rfl := Option.some.inj hsearch
      exact ⟨left, h⟩
    | cons current queue =>
      obtain ⟨queue', d₁, hfold, hround⟩ := h.round hnext
      rw [search, hfold] at hsearch
      exact ih hround hsearch

/-- When nothing waits, what a walk reaches has been entered with no more than its length. -/
theorem Searched.complete (h : Searched E limit root left [] d) {n : ℕ} {v : α}
    (hwalk : Walk E root n v) (hlimit : (n : ℕ∞) ≤ limit) :
    v = root ∨ ∃ m, d.get v = some m ∧ m ≤ n := by
  induction hwalk with
  | here => exact .inl rfl
  | @step n b c _ hedge ih =>
    have hlt : (n : ℕ∞) < limit :=
      lt_of_lt_of_le (Nat.cast_lt.mpr (Nat.lt_succ_self n)) hlimit
    have hleft : left = (root, 0) :: d.entries := by
      rw [← h.entered, List.append_nil]
    have hfrom : ∃ m ≤ n, (b, m) ∈ left := by
      rcases ih hlt.le with rfl | ⟨m, hm, hle⟩
      · exact ⟨0, Nat.zero_le n, hleft ▸ .head _⟩
      · exact ⟨m, hle, hleft ▸ .tail _ (JsMap.mem_iff_get.mpr hm)⟩
    obtain ⟨m, hle, hmem⟩ := hfrom
    have hm : (m : ℕ∞) < limit := lt_of_le_of_lt (Nat.cast_le.mpr hle) hlt
    rcases h.closed _ hmem hm c hedge with hroot | ⟨k, hk, hkm⟩
    · exact .inl hroot
    · exact .inr ⟨k, hk, hkm.trans (Nat.succ_le_succ hle)⟩

/-- **The entries of a search that has ended are the points within the limit, with their
distances.** -/
theorem search_get_iff (hnext : ∀ hops u v, v ∈ next hops u ↔ E u v ∧ (hops : ℕ∞) < limit)
    {rounds : ℕ} (hsearch : search next root rounds [(root, 0)] JsMap.empty = some d) (v : α) (n : ℕ) :
    d.get v = some n ↔ v ≠ root ∧ Distance E root v n ∧ (n : ℕ∞) ≤ limit := by
  obtain ⟨left, h⟩ := (searched_start E limit root).run hnext hsearch
  constructor
  · intro hn
    have hmem := JsMap.mem_iff_get.mpr hn
    refine ⟨h.other _ hmem, ⟨(h.walk _ hmem).1, fun m hwalk => ?_⟩, (h.walk _ hmem).2⟩
    by_contra hlt
    have hmn : m ≤ n := (not_le.mp hlt).le
    rcases h.complete hwalk ((Nat.cast_le.mpr hmn).trans (h.walk _ hmem).2) with hroot | ⟨k, hk, hle⟩
    · exact h.other _ hmem hroot
    · rw [hn, Option.some_inj] at hk
      exact hlt (hk ▸ hle)
  · rintro ⟨hroot, hdistance, hlimit⟩
    obtain ⟨m, hm, hle⟩ := (h.complete hdistance.1 hlimit).resolve_left hroot
    have hwalk := (h.walk _ (JsMap.mem_iff_get.mpr hm)).1
    rw [hm, le_antisymm hle (hdistance.2 m hwalk)]

/-! ## 3. The rounds it takes -/

/-- With a round for everything that waits or can still be entered, and one more, a search ends. -/
theorem search_isSome_of {points : List α} (hnext : ∀ hops u v, v ∈ next hops u → v ∈ points)
    {rounds : ℕ} (hkeys : ∀ e ∈ d.entries, e.1 ∈ points)
    (hrounds : queue.length + (points.length - d.entries.length) < rounds) :
    (search next root rounds queue d).isSome = true := by
  induction rounds generalizing queue d with
  | zero => exact absurd hrounds (Nat.not_lt_zero _)
  | succ rounds ih =>
    cases queue with
    | nil => rfl
    | cons current queue =>
      obtain ⟨new, d', hfold, hentries, hnew, -⟩ :=
        foldl_visit root current.2 (next current.2 current.1) queue d
      have hkeys' : ∀ e ∈ d'.entries, e.1 ∈ points := by
        intro e he
        rw [hentries] at he
        rcases List.mem_append.mp he with he | he
        · exact hkeys e he
        · obtain ⟨v, hv, rfl⟩ := List.mem_map.mp he
          exact hnext _ _ _ (hnew v hv).1
      have hsub : d'.entries.length ≤ points.length := by
        rw [← List.length_map  Prod.fst]
        refine (d'.nodup.subperm fun v hv => ?_).length_le
        obtain ⟨e, he, rfl⟩ := List.mem_map.mp hv
        exact hkeys' e he
      have hlength := congrArg List.length hentries
      rw [List.length_append, List.length_map] at hlength
      rw [List.length_cons] at hrounds
      rw [search, hfold]
      refine ih hkeys' ?_
      simp only [List.length_append, List.length_map]
      omega

/-- **A search ends** where a list holds all that can follow. -/
theorem search_isSome {points : List α} (hnext : ∀ hops u v, v ∈ next hops u → v ∈ points)
    {rounds : ℕ} (hrounds : points.length + 2 ≤ rounds) :
    (search next root rounds [(root, 0)] JsMap.empty).isSome = true := by
  refine search_isSome_of hnext (fun _ h => nomatch h) ?_
  rw [List.length_singleton]
  have hempty : (JsMap.empty : JsMap α ℕ).entries.length = 0 := rfl
  omega

end Search

/-! ## 4. The least of what is offered -/

section Least

variable [DecidableEq α]

/-- A map holds the least length that is offered for each point. -/
def Least (S : α → ℕ → Prop) (d : JsMap α ℕ) : Prop :=
  ∀ v n, d.get v = some n ↔ S v n ∧ ∀ k, S v k → n ≤ k

variable {S : α → ℕ → Prop} {d : JsMap α ℕ} {v : α} {n : ℕ}

theorem least_self (d : JsMap α ℕ) : Least (fun v n => d.get v = some n) d := by
  intro v n
  refine ⟨fun h => ⟨h, fun k hk => ?_⟩, fun h => h.1⟩
  exact (Option.some.inj (h.symm.trans hk)).le

/-- For a point for which something is offered the map holds something, and no more. -/
theorem Least.exists_get (h : Least S d) (hS : S v n) : ∃ m ≤ n, d.get v = some m := by
  classical
  have hsome : ∃ k, S v k := ⟨n, hS⟩
  exact ⟨Nat.find hsome, Nat.find_min' hsome hS,
    (h v _).mpr ⟨Nat.find_spec hsome, fun k hk => Nat.find_min' hsome hk⟩⟩

theorem Least.congr {S' : α → ℕ → Prop} (h : Least S d) (hS : ∀ v n, S' v n ↔ S v n) : Least S' d := by
  intro v n
  rw [h v n, hS]
  simp only [hS]

/-- An offer that is less than what is held is held instead. -/
theorem Least.set (h : Least S d) (hless : ∀ m ∈ d.get v, n < m) :
    Least (fun w k => S w k ∨ w = v ∧ k = n) (d.set v n) := by
  intro w k
  rw [JsMap.get_set]
  split
  case isTrue hv =>
    subst hv
    rw [Option.some_inj]
    constructor
    · rintro rfl
      refine ⟨.inr ⟨rfl, rfl⟩, ?_⟩
      rintro m (hm | ⟨-, rfl⟩)
      · obtain ⟨l, hle, hl⟩ := h.exists_get hm
        exact (hless l hl).le.trans hle
      · exact le_rfl
    · rintro ⟨hk | ⟨-, rfl⟩, hmin⟩
      · obtain ⟨l, hle, hl⟩ := h.exists_get hk
        exact absurd (hmin n (.inr ⟨rfl, rfl⟩)) (not_le.mpr ((hless l hl).trans_le hle))
      · rfl
  case isFalse hv =>
    rw [h w k]
    simp [Ne.symm hv]

/-- One that is not changes nothing. -/
theorem Least.keep (h : Least S d) (hmore : ¬∀ m ∈ d.get v, n < m) :
    Least (fun w k => S w k ∨ w = v ∧ k = n) d := by
  obtain ⟨m, hm, hle⟩ : ∃ m, d.get v = some m ∧ m ≤ n := by
    push Not at hmore
    exact hmore
  intro w k
  rw [h w k]
  constructor
  · rintro ⟨hk, hmin⟩
    refine ⟨.inl hk, ?_⟩
    rintro l (hl | ⟨rfl, rfl⟩)
    · exact hmin l hl
    · exact (hmin m ((h w m).mp hm).1).trans hle
  · rintro ⟨hk | ⟨rfl, rfl⟩, hmin⟩
    · exact ⟨hk, fun l hl => hmin l (.inl hl)⟩
    · have hS := ((h w m).mp hm).1
      obtain rfl := le_antisymm hle (hmin m (.inl hS))
      exact ⟨hS, fun l hl => hmin l (.inl hl)⟩

end Least

end Graphs
