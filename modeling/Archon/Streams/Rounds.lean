/-
# A loop of rounds

A loop asks a source in each round, and goes on while its state wants more.  The source is anything:
its answer may depend on the round and on what is asked, it may contradict an earlier one, and it may
be a failure.

* `run` is the loop under a bound on its rounds, with the number of calls that were made; `Ends` says
  what it comes to, whatever the bound from some bound on.
* `ends` is the rule: if each round that is taken keeps an invariant and lowers a measure, and none is
  asked for when the measure is down, the loop ends after at most as many calls as the measure
  allows, with a failure or with the invariant in a state that wants no more.
* `Gathered` are items that come page by page, each page asked for where those before it end.
-/
import Mathlib.Data.List.Basic

namespace Rounds

/-! ## 1. The loop -/

/-- A loop with states `σ`, requests `ρ`, answers `α` and errors `ε`. -/
structure Loop (σ ρ α ε : Type) where
  more : σ → Bool
  ask : σ → Except ε ρ
  take : σ → α → Except ε σ

section

variable {σ ρ α ε β : Type} (loop : Loop σ ρ α ε) (serve : ℕ → ρ → Except ε α)

/-- What the loop comes to from a state in which `calls` calls have been made, in less than so many
rounds. -/
def run : ℕ → ℕ → σ → Option (Except ε σ × ℕ)
  | 0, _, _ => none
  | fuel + 1, calls, s =>
    if loop.more s then
      match loop.ask s with
      | .error e => some (.error e, calls)
      | .ok request =>
        match serve calls request with
        | .error e => some (.error e, calls + 1)
        | .ok answer =>
          match loop.take s answer with
          | .error e => some (.error e, calls + 1)
          | .ok s' => run fuel (calls + 1) s'
    else some (.ok s, calls)

/-- A computation under a bound comes to a value. -/
def Ends (compute : ℕ → Option β) (b : β) : Prop := ∃ bound, ∀ fuel, bound ≤ fuel → compute fuel = some b

/-- A round that is taken. -/
def Taken (calls : ℕ) (s s' : σ) : Prop :=
  loop.more s = true ∧ ∃ request answer, loop.ask s = .ok request ∧ serve calls request = .ok answer
    ∧ loop.take s answer = .ok s'

variable {loop serve}

theorem Ends.map {γ : Type} {compute : ℕ → Option β} {b : β} (h : Ends compute b) (f : β → γ) :
    Ends (fun fuel => (compute fuel).map f) (f b) := by
  obtain ⟨bound, h⟩ := h
  exact ⟨bound, fun fuel hfuel => by simp only [h fuel hfuel, Option.map_some]⟩

/-- **The rule of the loop.** -/
theorem ends (Inv : ℕ → σ → Prop) (measure : σ → ℕ)
    (hkeep : ∀ calls s s', Inv calls s → Taken loop serve calls s s' → Inv (calls + 1) s')
    (hlower : ∀ calls s s', Inv calls s → Taken loop serve calls s s' → measure s' < measure s)
    (hwant : ∀ calls s request, Inv calls s → loop.more s = true → loop.ask s = .ok request →
      0 < measure s) (n : ℕ) : ∀ calls s, Inv calls s → measure s ≤ n → ∃ outcome total,
      (∀ fuel, n < fuel → run loop serve fuel calls s = some (outcome, total))
        ∧ total ≤ calls + n
        ∧ ∀ s', outcome = .ok s' → Inv total s' ∧ loop.more s' = false := by
  induction n using Nat.strongRecOn with
  | _ n ih =>
    intro calls s hinv hmeasure
    have hround : ∀ {outcome total}, (∀ fuel, run loop serve (fuel + 1) calls s = some (outcome, total)) →
        ∀ fuel, n < fuel → run loop serve fuel calls s = some (outcome, total) := by
      intro outcome total hrun fuel hfuel
      obtain ⟨fuel, rfl⟩ := Nat.exists_eq_succ_of_ne_zero (n := fuel) (by omega)
      exact hrun fuel
    cases hmore : loop.more s with
    | false =>
      refine ⟨.ok s, calls, hround fun fuel => by simp [run, hmore], by omega, ?_⟩
      intro s' heq
      obtain rfl := Except.ok.inj heq
      exact ⟨hinv, hmore⟩
    | true =>
      cases hask : loop.ask s with
      | error e =>
        exact ⟨.error e, calls, hround fun fuel => by simp [run, hmore, hask], by omega, nofun⟩
      | ok request =>
        have hpos : 0 < measure s := hwant calls s request hinv hmore hask
        cases hserve : serve calls request with
        | error e =>
          exact ⟨.error e, calls + 1, hround fun fuel => by simp [run, hmore, hask, hserve],
            by omega, nofun⟩
        | ok answer =>
          cases htake : loop.take s answer with
          | error e =>
            exact ⟨.error e, calls + 1, hround fun fuel => by simp [run, hmore, hask, hserve, htake],
              by omega, nofun⟩
          | ok s' =>
            have htaken : Taken loop serve calls s s' := ⟨hmore, request, answer, hask, hserve, htake⟩
            have hless := hlower calls s s' hinv htaken
            obtain ⟨outcome, total, hrun, htotal, hend⟩ :=
              ih (n - 1) (by omega) (calls + 1) s' (hkeep calls s s' hinv htaken) (by omega)
            refine ⟨outcome, total, fun fuel hfuel => ?_, by omega, hend⟩
            obtain ⟨fuel, rfl⟩ := Nat.exists_eq_succ_of_ne_zero (n := fuel) (by omega)
            rw [run, if_pos hmore, hask]
            simp only [hserve, htake]
            exact hrun fuel (by omega)

end

/-! ## 2. Pages -/

/-- Items gathered in so many calls: call `n` asked from the end of what was there, and its page was
added. -/
inductive Gathered {π β : Type} (turn : ℕ → ℕ → π → Prop) (items : π → List β) : ℕ → List β → Prop
  | start : Gathered turn items 0 []
  | turn {calls : ℕ} {xs : List β} {page : π} (h : Gathered turn items calls xs)
      (hpage : turn calls xs.length page) : Gathered turn items (calls + 1) (xs ++ items page)

end Rounds
