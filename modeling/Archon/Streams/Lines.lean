/-
# Lines that arrive in chunks

A stream is read chunk by chunk.  What has arrived is split at the ends of lines; every line is handed to
a step that may refuse it, and what is not a line yet waits for the next chunk, up to a limit.

How the stream was cut does not matter (`feed_chunks`), as long as the step refuses every line that is
longer than the limit: what waits is the beginning of the next line.
-/
import Mathlib.Data.List.Basic

namespace Streams

variable {α σ ε : Type} [DecidableEq α] {newline : α} {limit : Nat} {line : σ → List α → Except ε σ}
  {tooLong : ε}

/-! ## 1. Lines -/

/-- The lines of what has arrived, and what follows the last of them. -/
def splitLines (newline : α) : List α → List (List α) × List α
  | [] => ([], [])
  | b :: bs =>
    if b = newline then ([] :: (splitLines newline bs).1, (splitLines newline bs).2)
    else
      match (splitLines newline bs).1 with
      | [] => ([], b :: (splitLines newline bs).2)
      | l :: ls => ((b :: l) :: ls, (splitLines newline bs).2)

theorem splitLines_newline (bs : List α) : splitLines newline (newline :: bs)
    = ([] :: (splitLines newline bs).1, (splitLines newline bs).2) := if_pos rfl

/-- What follows the last line is no line. -/
theorem newline_not_mem_rest (bs : List α) : newline ∉ (splitLines newline bs).2 := by
  induction bs with
  | nil => exact List.not_mem_nil
  | cons b bs ih =>
    rw [splitLines]
    split
    · exact ih
    case isFalse hb =>
      split
      · intro hmem
        rcases List.mem_cons.mp hmem with heq | hmem
        · exact hb heq.symm
        · exact ih hmem
      · exact ih

/-- What waits is the beginning of the next line, or of what waits then. -/
theorem splitLines_append_of_not_mem {pending : List α} (h : newline ∉ pending) (bs : List α) :
    splitLines newline (pending ++ bs) = match (splitLines newline bs).1 with
      | [] => ([], pending ++ (splitLines newline bs).2)
      | l :: ls => ((pending ++ l) :: ls, (splitLines newline bs).2) := by
  induction pending with
  | nil =>
    rw [List.nil_append]
    split
    case h_1 hnone => exact Prod.ext hnone rfl
    case h_2 l ls hsome => exact Prod.ext hsome rfl
  | cons b pending ih =>
    have hb : b ≠ newline := fun heq => h (heq ▸ List.mem_cons_self)
    have hpending : newline ∉ pending := fun hmem => h (List.mem_cons_of_mem b hmem)
    rw [List.cons_append, splitLines, if_neg hb, ih hpending]
    cases (splitLines newline bs).1 with
    | nil => rfl
    | cons l ls => rfl

/-- **Lines are found in one part after the other.** -/
theorem splitLines_append (as bs : List α) : splitLines newline (as ++ bs)
    = ((splitLines newline as).1 ++ (splitLines newline ((splitLines newline as).2 ++ bs)).1,
      (splitLines newline ((splitLines newline as).2 ++ bs)).2) := by
  induction as with
  | nil => rfl
  | cons a as ih =>
    rw [List.cons_append]
    by_cases ha : a = newline
    · subst ha
      rw [splitLines_newline, splitLines_newline, ih]
      rfl
    · rw [splitLines, if_neg ha, splitLines, if_neg ha, ih]
      cases hlines : (splitLines newline as).1 with
      | nil =>
        rw [List.nil_append]
        have hrest : newline ∉ a :: (splitLines newline as).2 := by
          intro hmem
          rcases List.mem_cons.mp hmem with heq | hmem
          · exact ha heq.symm
          · exact newline_not_mem_rest as hmem
        dsimp only
        rw [splitLines_append_of_not_mem hrest, splitLines_append_of_not_mem (newline_not_mem_rest as)]
        cases (splitLines newline bs).1 with
        | nil => rfl
        | cons l ls => rfl
      | cons l ls => rfl

/-! ## 2. Reading -/

/-- What was made of the lines, and what is not a line yet. -/
structure Reading (σ α : Type) where
  state : σ
  pending : List α

/-- A chunk arrives. -/
def feed (newline : α) (limit : Nat) (line : σ → List α → Except ε σ) (tooLong : ε)
    (r : Reading σ α) (chunk : List α) : Except ε (Reading σ α) := do
  let state ← (splitLines newline (r.pending ++ chunk)).1.foldlM line r.state
  if limit < (splitLines newline (r.pending ++ chunk)).2.length then .error tooLong
  else return ⟨state, (splitLines newline (r.pending ++ chunk)).2⟩

theorem feed_eq_ok {r r' : Reading σ α} {chunk : List α} :
    feed newline limit line tooLong r chunk = .ok r' ↔
      (splitLines newline (r.pending ++ chunk)).1.foldlM line r.state = .ok r'.state
        ∧ r'.pending = (splitLines newline (r.pending ++ chunk)).2 ∧ r'.pending.length ≤ limit := by
  rw [feed]
  cases hstate : (splitLines newline (r.pending ++ chunk)).1.foldlM line r.state with
  | error e => simp [bind, Except.bind]
  | ok state =>
    change (if _ then Except.error tooLong else Except.ok _) = _ ↔ _
    obtain ⟨state', pending'⟩ := r'
    by_cases hlimit : limit < (splitLines newline (r.pending ++ chunk)).2.length
    · rw [if_pos hlimit]
      constructor
      · intro h
        cases h
      · rintro ⟨-, rfl, hle⟩
        exact absurd hle (Nat.not_le.mpr hlimit)
    · rw [if_neg hlimit]
      constructor
      · intro h
        cases h
        exact ⟨rfl, rfl, Nat.not_lt.mp hlimit⟩
      · rintro ⟨hstate', rfl, -⟩
        cases hstate'
        rfl

omit [DecidableEq α] in
/-- A line that is read is not too long. -/
theorem length_le_of_foldlM (hline : ∀ s l s', line s l = .ok s' → l.length ≤ limit)
    {ls : List (List α)} {s s' : σ} (h : ls.foldlM line s = .ok s') : ∀ l ∈ ls, l.length ≤ limit := by
  induction ls generalizing s with
  | nil => exact fun _ hl => absurd hl List.not_mem_nil
  | cons l ls ih =>
    rw [List.foldlM_cons] at h
    cases hl : line s l with
    | error e =>
      rw [hl] at h
      cases h
    | ok m =>
      rw [hl] at h
      exact List.forall_mem_cons.mpr ⟨hline s l m hl, ih h⟩

/-- **Two chunks are read as the one that they make up.** -/
theorem feed_append (hline : ∀ s l s', line s l = .ok s' → l.length ≤ limit) {r r' : Reading σ α}
    (as bs : List α) : feed newline limit line tooLong r (as ++ bs) = .ok r' ↔
      ∃ m, feed newline limit line tooLong r as = .ok m
        ∧ feed newline limit line tooLong m bs = .ok r' := by
  simp only [feed_eq_ok]
  rw [← List.append_assoc, splitLines_append (r.pending ++ as) bs]
  constructor
  · rintro ⟨hstate, hpending, hlimit⟩
    rw [List.foldlM_append] at hstate
    cases hfirst : (splitLines newline (r.pending ++ as)).1.foldlM line r.state with
    | error e =>
      rw [hfirst] at hstate
      cases hstate
    | ok s =>
      rw [hfirst] at hstate
      refine ⟨⟨s, (splitLines newline (r.pending ++ as)).2⟩, ⟨rfl, rfl, ?_⟩, hstate, hpending, hlimit⟩
      -- What waits is the beginning of a line that was read, or of what waits in the end.
      have hrest : newline ∉ (splitLines newline (r.pending ++ as)).2 :=
        newline_not_mem_rest (r.pending ++ as)
      have hsplit := splitLines_append_of_not_mem hrest bs
      have hlines := length_le_of_foldlM hline hstate
      cases hnext : (splitLines newline bs).1 with
      | nil =>
        rw [hnext] at hsplit
        rw [hsplit] at hpending
        rw [hpending, List.length_append] at hlimit
        exact Nat.le_trans (Nat.le_add_right _ _) hlimit
      | cons l ls =>
        rw [hnext] at hsplit
        rw [hsplit] at hlines
        have hlength := hlines _ List.mem_cons_self
        rw [List.length_append] at hlength
        exact Nat.le_trans (Nat.le_add_right _ _) hlength
  · rintro ⟨m, ⟨hfirst, hwaits, -⟩, hstate, hpending, hlimit⟩
    rw [hwaits] at hstate hpending
    refine ⟨?_, hpending, hlimit⟩
    rw [List.foldlM_append, hfirst]
    exact hstate

/-- **How the stream was cut does not matter.** -/
theorem feed_chunks (hline : ∀ s l s', line s l = .ok s' → l.length ≤ limit) {r r' : Reading σ α}
    (hpending : newline ∉ r.pending) (hlimit : r.pending.length ≤ limit) (chunks : List (List α)) :
    chunks.foldlM (feed newline limit line tooLong) r = .ok r' ↔
      feed newline limit line tooLong r chunks.flatten = .ok r' := by
  induction chunks generalizing r with
  | nil =>
    have hsplit := splitLines_append_of_not_mem hpending []
    rw [feed_eq_ok, List.flatten_nil, hsplit, List.foldlM_nil]
    obtain ⟨state, pending⟩ := r
    obtain ⟨state', pending'⟩ := r'
    constructor
    · intro h
      cases h
      exact ⟨rfl, (List.append_nil _).symm, hlimit⟩
    · rintro ⟨hstate, heq, -⟩
      cases hstate
      rw [splitLines, List.append_nil] at heq
      exact congrArg _ (congrArg _ heq.symm)
  | cons chunk chunks ih =>
    rw [List.foldlM_cons, List.flatten_cons, feed_append hline]
    constructor
    · intro h
      cases hfirst : feed newline limit line tooLong r chunk with
      | error e =>
        rw [hfirst] at h
        cases h
      | ok m =>
        rw [hfirst] at h
        obtain ⟨-, hwaits, hle⟩ := feed_eq_ok.mp hfirst
        exact ⟨m, rfl, (ih (hwaits ▸ newline_not_mem_rest _) hle).mp h⟩
    · rintro ⟨m, hfirst, h⟩
      obtain ⟨-, hwaits, hle⟩ := feed_eq_ok.mp hfirst
      rw [hfirst]
      exact (ih (hwaits ▸ newline_not_mem_rest _) hle).mpr h

end Streams
