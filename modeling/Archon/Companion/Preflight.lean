/-
# One probe for many calls

Before a turn the companion makes sure that the Analytics Agent can reach its model
(`analytics_model_preflight`).  The probe is slow, so calls share what the last one found: a success for
300 seconds, a failure for 15.  A call asks the shared state, waits for the lock, asks again, and probes.
Between two awaits a call is not interrupted, so a step is what one call does up to its next await; the
calls go on in any order, a probe may end with anything, and any call may be cancelled.

The state holds what the last outcome left (`Sound`), and each event is one that the events before it
admit (`Lawful`).  What the calls may rely on is read off such a history (`preflights_kept`).  The age
that a receipt states is not among it: the clock is read again after the receipt was found fresh
(`stale_receipt`).
-/
import Archon.Ecma.Text
import Mathlib.Data.Rat.Floor
import Mathlib.Logic.Function.Basic
import Mathlib.Logic.Relation

namespace Companion

open Ecma

/-! ## 1. The probe state -/

/-- `MODEL_PROBE_SUCCESS_TTL_SECONDS`. -/
def MODEL_PROBE_SUCCESS_TTL_SECONDS : ℤ := 300

/-- `MODEL_PROBE_FAILURE_TTL_SECONDS`. -/
def MODEL_PROBE_FAILURE_TTL_SECONDS : ℤ := 15

/-- `_ModelProbeState`: a key with the time and the receipt of its probe, or with the end of a failure. -/
structure ModelProbeState (R : Type) where
  success : Option (Text × ℚ × R)
  failure : Option (Text × ℚ)

/-- A success for the key that is young enough. -/
def ModelProbeState.fresh? {R : Type} (s : ModelProbeState R) (key : Text) (now : ℚ) : Option (ℚ × R) :=
  match s.success with
  | some (k, verified, receipt) =>
    if k = key ∧ now - verified < MODEL_PROBE_SUCCESS_TTL_SECONDS then some (verified, receipt) else none
  | none => none

/-- A failure for the key that has not ended. -/
def ModelProbeState.failed {R : Type} (s : ModelProbeState R) (key : Text) (now : ℚ) : Bool :=
  match s.failure with
  | some (k, ends) => k = key ∧ now < ends
  | none => false

/-- What a call finds in the state. -/
inductive Known (R : Type) where
  | cached (verified : ℚ) (receipt : R)
  | unavailable
  | unknown

/-- The two tests, made before the call waits for the lock and again when it has it. -/
def ModelProbeState.check {R : Type} (s : ModelProbeState R) (key : Text) (now : ℚ) : Known R :=
  match s.fresh? key now with
  | some (verified, receipt) => .cached verified receipt
  | none => if s.failed key now then .unavailable else .unknown

/-- The `envelope` of `aged_model_receipt`. -/
structure Envelope (R : Type) where
  receipt : R
  cacheAgeSeconds : ℤ
  cacheTtlSeconds : ℤ

/-- What `aged_model_receipt` returns. -/
structure AgedReceipt (R : Type) extends Envelope R where
  digest : Text

/-- `int` of a number: the fraction is cut off. -/
def truncated (x : ℚ) : ℤ := if 0 ≤ x then x.floor else x.ceil

/-- `aged_model_receipt`, with the time that it reads. -/
def agedModelReceipt {R : Type} (digest : Envelope R → Text) (receipt : R) (verified readAt : ℚ) :
    AgedReceipt R :=
  let age := max 0 (truncated (readAt - verified))
  let envelope : Envelope R := ⟨receipt, age, MODEL_PROBE_SUCCESS_TTL_SECONDS⟩
  { envelope with digest := digest envelope }

/-! ## 2. The calls -/

/-- A call of `analytics_model_preflight`: not begun, waiting for the lock, waiting for its probe, or at
its end.  It keeps the identity of runtime and model that it has read at its beginning. -/
inductive Call (I : Type) where
  | idle
  | waiting (identity : I)
  | probing (identity : I)
  | ended

/-- Something that happened to a call, with the time that it read. -/
inductive Occasion (I R : Type) where
  | started (call : ℕ) (identity : I) (now : ℚ)
  | failed (call : ℕ) (identity : I) (now : ℚ)
  | verified (call : ℕ) (identity : I) (now : ℚ) (receipt : R)
  | returned (call : ℕ) (identity : I) (now : ℚ) (aged : AgedReceipt R)
  | refused (call : ℕ) (identity : I) (now : ℚ)
  /-- The probe of the call was cancelled; no time is read. -/
  | cancelled (call : ℕ) (identity : I)

/-- The calls with what they share, the last time that was read, and what has happened so far. -/
structure Preflights (I R : Type) where
  state : ModelProbeState R
  /-- `_model_probe_lock` is held. -/
  locked : Bool
  calls : ℕ → Call I
  clock : ℚ
  history : List (Occasion I R)

section Machine

variable {I R : Type} (key : I → Text) (digest : Envelope R → Text)

/-- Before the first call, at that time. -/
def Preflights.start (clock : ℚ) : Preflights I R where
  state := ⟨none, none⟩
  locked := false
  calls _ := .idle
  clock := clock
  history := []

/-- The call goes on to `next`, with these events. -/
def Preflights.goTo (s : Preflights I R) (call : ℕ) (next : Call I) (clock : ℚ)
    (events : List (Occasion I R)) : Preflights I R :=
  { s with
    calls := Function.update s.calls call next
    clock := clock
    history := s.history ++ events }

/-- The call returns or raises with what it finds in the state, if that is known. -/
def Preflights.answer (s : Preflights I R) (call : ℕ) (identity : I) (now readAt : ℚ) :
    Option (Preflights I R) :=
  match s.state.check (key identity) now with
  | .cached verified receipt =>
    some (s.goTo call .ended readAt
      [.returned call identity now (agedModelReceipt digest receipt verified readAt)])
  | .unavailable => some (s.goTo call .ended now [.refused call identity now])
  | .unknown => none

/-- From the beginning to the lock. -/
def Preflights.arrive (s : Preflights I R) (call : ℕ) (identity : I) (now readAt : ℚ) : Preflights I R :=
  (s.answer key digest call identity now readAt).getD (s.goTo call (.waiting identity) now [])

/-- From the lock to the probe. -/
def Preflights.enter (s : Preflights I R) (call : ℕ) (identity : I) (now readAt : ℚ) : Preflights I R :=
  (s.answer key digest call identity now readAt).getD
    { s.goTo call (.probing identity) now [.started call identity now] with locked := true }

/-- The probe has raised an `Exception`. -/
def Preflights.fail (s : Preflights I R) (call : ℕ) (identity : I) (now : ℚ) : Preflights I R :=
  { s.goTo call .ended now [.failed call identity now] with
    locked := false
    state := ⟨none, some (key identity, now + MODEL_PROBE_FAILURE_TTL_SECONDS)⟩ }

/-- The probe has returned a receipt. -/
def Preflights.verify (s : Preflights I R) (call : ℕ) (identity : I) (now readAt : ℚ) (receipt : R) :
    Preflights I R :=
  { s.goTo call .ended readAt [.verified call identity now receipt,
      .returned call identity now (agedModelReceipt digest receipt now readAt)] with
    locked := false
    state := ⟨some (key identity, now, receipt), none⟩ }

/-- The call is cancelled while it waits for the lock. -/
def Preflights.leave (s : Preflights I R) (call : ℕ) : Preflights I R :=
  s.goTo call .ended s.clock []

/-- The call is cancelled while it waits for its probe.  `CancelledError` is no `Exception`. -/
def Preflights.cancel (s : Preflights I R) (call : ℕ) (identity : I) : Preflights I R :=
  { s.goTo call .ended s.clock [.cancelled call identity] with locked := false }

/-- A step of one of the calls.  Whoever waits may get the lock when it is free. -/
inductive Step : Preflights I R → Preflights I R → Prop
  | arrive {s : Preflights I R} {call : ℕ} (identity : I) {now readAt : ℚ} (h : s.calls call = .idle)
    (hnow : s.clock ≤ now) (hread : now ≤ readAt) :
    Step s (s.arrive key digest call identity now readAt)
  | enter {s : Preflights I R} {call : ℕ} {identity : I} {now readAt : ℚ}
    (h : s.calls call = .waiting identity) (hfree : s.locked = false)
    (hnow : s.clock ≤ now) (hread : now ≤ readAt) :
    Step s (s.enter key digest call identity now readAt)
  | fail {s : Preflights I R} {call : ℕ} {identity : I} {now : ℚ} (h : s.calls call = .probing identity)
    (hnow : s.clock ≤ now) : Step s (s.fail key call identity now)
  | verify {s : Preflights I R} {call : ℕ} {identity : I} {now readAt : ℚ} (receipt : R)
    (h : s.calls call = .probing identity) (hnow : s.clock ≤ now) (hread : now ≤ readAt) :
    Step s (s.verify key digest call identity now readAt receipt)
  | leave {s : Preflights I R} {call : ℕ} {identity : I} (h : s.calls call = .waiting identity) :
    Step s (s.leave call)
  | cancel {s : Preflights I R} {call : ℕ} {identity : I} (h : s.calls call = .probing identity) :
    Step s (s.cancel call identity)

/-- A state of a run. -/
def Reached (s : Preflights I R) : Prop :=
  ∃ clock, Relation.ReflTransGen (Step key digest) (Preflights.start clock) s

end Machine

/-! ## 3. Histories -/

section Histories

variable {I R : Type}

/-- The time that was read. -/
def Occasion.now? : Occasion I R → Option ℚ
  | .started _ _ now | .failed _ _ now | .verified _ _ now _ | .returned _ _ now _
  | .refused _ _ now => some now
  | .cancelled _ _ => none

/-- A probe came to its outcome. -/
def Occasion.settles : Occasion I R → Bool
  | .failed .. | .verified .. => true
  | _ => false

/-- The probe in flight after the event. -/
def Occasion.flight : Option (ℕ × I) → Occasion I R → Option (ℕ × I)
  | _, .started call identity _ => some (call, identity)
  | _, .failed .. | _, .verified .. | _, .cancelled .. => none
  | probe, .returned .. | probe, .refused .. => probe

/-- The probe in flight after a history. -/
def inFlight (history : List (Occasion I R)) : Option (ℕ × I) :=
  history.foldl Occasion.flight none

@[simp] theorem inFlight_snoc (history : List (Occasion I R)) (e : Occasion I R) :
    inFlight (history ++ [e]) = e.flight (inFlight history) := by
  simp [inFlight]

/-- A probe that is in flight and was not before has started since. -/
theorem started_of_inFlight {before : List (Occasion I R)} (hnone : inFlight before = none) :
    ∀ (between : List (Occasion I R)) {call : ℕ} {identity : I},
      inFlight (before ++ between) = some (call, identity) →
      ∃ now, .started call identity now ∈ between := by
  intro between
  induction between using List.reverseRecOn with
  | nil =>
    intro call identity h
    rw [List.append_nil, hnone] at h
    cases h
  | append_singleton between e ih =>
    intro call identity h
    rw [← List.append_assoc, inFlight_snoc] at h
    cases e with
    | started c i now =>
      cases h
      exact ⟨now, by simp⟩
    | failed | verified | cancelled => cases h
    | returned | refused =>
      obtain ⟨now, hmem⟩ := ih h
      exact ⟨now, List.mem_append_left _ hmem⟩

variable (key : I → Text)

/-- The state after the event. -/
def Occasion.record (state : ModelProbeState R) : Occasion I R → ModelProbeState R
  | .failed _ identity now => ⟨none, some (key identity, now + MODEL_PROBE_FAILURE_TTL_SECONDS)⟩
  | .verified _ identity now receipt => ⟨some (key identity, now, receipt), none⟩
  | .started .. | .returned .. | .refused .. | .cancelled .. => state

/-- The state after a history. -/
def recorded (history : List (Occasion I R)) : ModelProbeState R :=
  history.foldl (Occasion.record key) ⟨none, none⟩

@[simp] theorem recorded_snoc (history : List (Occasion I R)) (e : Occasion I R) :
    recorded key (history ++ [e]) = e.record key (recorded key history) := by
  simp [recorded]

/-- What settles nothing leaves the state as it is. -/
theorem record_of_unsettled {state : ModelProbeState R} {e : Occasion I R} (h : e.settles = false) :
    e.record key state = state := by
  cases e <;> first | rfl | cases h

/-- Events that settle nothing leave the state as it is. -/
theorem recorded_append (before : List (Occasion I R)) :
    ∀ {between : List (Occasion I R)}, (∀ e ∈ between, e.settles = false) →
      recorded key (before ++ between) = recorded key before := by
  intro between
  induction between using List.reverseRecOn with
  | nil =>
    intro _
    rw [List.append_nil]
  | append_singleton between e ih =>
    intro h
    rw [← List.append_assoc, recorded_snoc, record_of_unsettled key (h e (by simp))]
    exact ih fun d hd => h d (List.mem_append_left _ hd)

/-- Either nothing was settled, or something was last. -/
theorem last_settled :
    ∀ history : List (Occasion I R), (∀ e ∈ history, e.settles = false) ∨
      ∃ before e after, history = before ++ e :: after ∧ e.settles = true ∧
        ∀ d ∈ after, d.settles = false := by
  intro history
  induction history using List.reverseRecOn with
  | nil => exact .inl fun e he => absurd he (List.not_mem_nil)
  | append_singleton history e ih =>
    cases he : e.settles with
    | true => exact .inr ⟨history, e, [], rfl, he, fun d hd => absurd hd List.not_mem_nil⟩
    | false =>
      rcases ih with hnone | ⟨before, e', after, rfl, he', hafter⟩
      · left
        intro d hd
        rcases List.mem_append.mp hd with hd | hd
        · exact hnone d hd
        · rwa [List.mem_singleton.mp hd]
      · right
        refine ⟨before, e', after ++ [e], by simp, he', ?_⟩
        intro d hd
        rcases List.mem_append.mp hd with hd | hd
        · exact hafter d hd
        · rwa [List.mem_singleton.mp hd]

variable (digest : Envelope R → Text)

/-- The event can come after the history. -/
def Admitted (history : List (Occasion I R)) : Occasion I R → Prop
  | .started _ identity now =>
    inFlight history = none ∧ (recorded key history).check (key identity) now = .unknown
  | .failed call identity _ | .verified call identity _ _ | .cancelled call identity =>
    inFlight history = some (call, identity)
  | .returned _ identity now aged =>
    ∃ verified receipt readAt, (recorded key history).check (key identity) now = .cached verified receipt ∧
      now ≤ readAt ∧ aged = agedModelReceipt digest receipt verified readAt
  | .refused _ identity now => (recorded key history).check (key identity) now = .unavailable

/-- The event's time is none before the history's. -/
def Later (history : List (Occasion I R)) (e : Occasion I R) : Prop :=
  ∀ d ∈ history, ∀ t ∈ d.now?, ∀ now ∈ e.now?, t ≤ now

/-- Each event can come after those before it. -/
inductive Lawful : List (Occasion I R) → Prop
  | nil : Lawful []
  | snoc {history : List (Occasion I R)} {e : Occasion I R} (h : Lawful history)
    (hadmitted : Admitted key digest history e) (hlater : Later history e) : Lawful (history ++ [e])

variable {key digest}

/-- The last event of a lawful history. -/
theorem Lawful.last {history : List (Occasion I R)} {e : Occasion I R}
    (h : Lawful key digest (history ++ [e])) :
    Lawful key digest history ∧ Admitted key digest history e ∧ Later history e := by
  generalize hwhole : history ++ [e] = whole at h
  cases h with
  | nil => simp at hwhole
  | snoc h hadmitted hlater =>
    obtain ⟨rfl, he⟩ := List.append_inj' hwhole rfl
    cases he
    exact ⟨h, hadmitted, hlater⟩

theorem Lawful.front {before : List (Occasion I R)} :
    ∀ {after : List (Occasion I R)}, Lawful key digest (before ++ after) → Lawful key digest before := by
  intro after
  induction after using List.reverseRecOn with
  | nil =>
    intro h
    rwa [List.append_nil] at h
  | append_singleton after e ih =>
    intro h
    rw [← List.append_assoc] at h
    exact ih h.last.1

/-- An event of a lawful history. -/
theorem Lawful.at {before after : List (Occasion I R)} {e : Occasion I R}
    (h : Lawful key digest (before ++ e :: after)) :
    Admitted key digest before e ∧ Later before e := by
  have h' : Lawful key digest (before ++ [e] ++ after) := by simpa using h
  exact h'.front.last.2

end Histories

/-! ## 4. What a call finds -/

section Checks

variable {R : Type} {s : ModelProbeState R} {key : Text} {now : ℚ}

theorem check_eq_cached {verified : ℚ} {receipt : R} :
    s.check key now = .cached verified receipt ↔
      s.success = some (key, verified, receipt) ∧ now - verified < MODEL_PROBE_SUCCESS_TTL_SECONDS := by
  rcases s with ⟨success, failure⟩
  rcases success with _ | ⟨k, v, r⟩
  · simp only [ModelProbeState.check, ModelProbeState.fresh?]
    split <;> simp
  · by_cases h : k = key ∧ now - v < MODEL_PROBE_SUCCESS_TTL_SECONDS
    · simp only [ModelProbeState.check, ModelProbeState.fresh?, if_pos h]
      constructor
      · rintro ⟨⟩
        exact ⟨by rw [h.1], h.2⟩
      · rintro ⟨hs, -⟩
        cases hs
        rfl
    · simp only [ModelProbeState.check, ModelProbeState.fresh?, if_neg h]
      constructor
      · intro hk
        split at hk <;> cases hk
      · rintro ⟨hs, hage⟩
        cases hs
        exact absurd ⟨rfl, hage⟩ h

/-- Where a call has to probe, a success for its key is too old. -/
theorem old_of_unknown {verified : ℚ} {receipt : R} (h : s.check key now = .unknown)
    (hs : s.success = some (key, verified, receipt)) :
    verified + MODEL_PROBE_SUCCESS_TTL_SECONDS ≤ now := by
  by_contra hnot
  have hcached : s.check key now = .cached verified receipt :=
    check_eq_cached.mpr ⟨hs, by linarith⟩
  rw [hcached] at h
  cases h

/-- Where a call has to probe, a failure for its key has ended. -/
theorem ended_of_unknown {ends : ℚ} (h : s.check key now = .unknown)
    (hf : s.failure = some (key, ends)) : ends ≤ now := by
  by_contra hnot
  have hfailed : s.failed key now = true := by
    simp only [ModelProbeState.failed, hf, decide_eq_true_eq]
    exact ⟨trivial, not_le.mp hnot⟩
  simp only [ModelProbeState.check, hfailed, if_true] at h
  split at h <;> cases h

end Checks

/-! ## 5. The state and its history -/

section Runs

variable {I R : Type} (key : I → Text) (digest : Envelope R → Text)

/-- How the state goes with what has happened. -/
structure Sound (s : Preflights I R) : Prop where
  state_eq : s.state = recorded key s.history
  locked_eq : s.locked = (inFlight s.history).isSome
  probing_iff : ∀ call identity, s.calls call = .probing identity ↔
    inFlight s.history = some (call, identity)
  past : ∀ e ∈ s.history, ∀ t ∈ e.now?, t ≤ s.clock
  lawful : Lawful key digest s.history

variable {key digest}

theorem sound_start (clock : ℚ) : Sound key digest (Preflights.start clock : Preflights I R) where
  state_eq := rfl
  locked_eq := rfl
  probing_iff := by
    intro call identity
    simp [Preflights.start, inFlight]
  past := by
    intro e he
    cases he
  lawful := .nil

/-- One more event. -/
theorem Sound.snoc {s : Preflights I R} (hs : Sound key digest s) {e : Occasion I R}
    {calls : ℕ → Call I} {clock : ℚ} (hclock : s.clock ≤ clock)
    (hnow : ∀ t ∈ e.now?, s.clock ≤ t ∧ t ≤ clock) (hadmitted : Admitted key digest s.history e)
    (hcalls : ∀ call identity, calls call = .probing identity ↔
      e.flight (inFlight s.history) = some (call, identity)) :
    Sound key digest
      ⟨e.record key s.state, (e.flight (inFlight s.history)).isSome, calls, clock,
        s.history ++ [e]⟩ where
  state_eq := by rw [hs.state_eq, recorded_snoc]
  locked_eq := by rw [inFlight_snoc]
  probing_iff := by
    intro call identity
    rw [hcalls, inFlight_snoc]
  past := by
    intro d hd t ht
    rcases List.mem_append.mp hd with hd | hd
    · exact (hs.past d hd t ht).trans hclock
    · rw [List.mem_singleton.mp hd] at ht
      exact (hnow t ht).2
  lawful := by
    refine .snoc hs.lawful hadmitted ?_
    intro d hd t ht now hnow'
    exact (hs.past d hd t ht).trans (hnow now hnow').1

/-- A call that is not probing goes on to where it is not. -/
theorem Sound.quiet {s : Preflights I R} (hs : Sound key digest s) {call : ℕ} (next : Call I)
    (h : ∀ identity, s.calls call ≠ .probing identity) (hnext : ∀ identity, next ≠ .probing identity) :
    ∀ c identity, Function.update s.calls call next c = .probing identity ↔
      inFlight s.history = some (c, identity) := by
  intro c identity
  rw [← hs.probing_iff]
  by_cases hc : c = call
  · subst hc
    rw [Function.update_self]
    exact ⟨fun h' => absurd h' (hnext identity), fun h' => absurd h' (h identity)⟩
  · rw [Function.update_of_ne hc]

/-- The call that probes goes on to its end. -/
theorem Sound.closed {s : Preflights I R} (hs : Sound key digest s) {call : ℕ} {identity : I}
    (h : s.calls call = .probing identity) :
    ∀ c i, Function.update s.calls call .ended c = .probing i ↔ none = some (c, i) := by
  intro c i
  refine ⟨?_, fun h' => by cases h'⟩
  intro h'
  by_cases hc : c = call
  · rw [hc, Function.update_self] at h'
    cases h'
  · rw [Function.update_of_ne hc, hs.probing_iff, (hs.probing_iff call identity).mp h] at h'
    cases h'
    exact absurd rfl hc

/-- A call that does not probe is answered, or finds nothing. -/
theorem sound_answer {s s' : Preflights I R} (hs : Sound key digest s) {call : ℕ} {identity : I}
    {now readAt : ℚ} (h : ∀ i, s.calls call ≠ .probing i) (hnow : s.clock ≤ now) (hread : now ≤ readAt)
    (hanswer : s.answer key digest call identity now readAt = some s') : Sound key digest s' := by
  have hquiet := hs.quiet .ended h fun i hi => by cases hi
  cases hknown : s.state.check (key identity) now with
  | cached verified receipt =>
    simp only [Preflights.answer, hknown, Option.some.injEq] at hanswer
    subst hanswer
    have hs' := hs.snoc (e := .returned call identity now (agedModelReceipt digest receipt verified readAt))
      (hnow.trans hread) (by rintro t ⟨⟩; exact ⟨hnow, hread⟩)
      ⟨verified, receipt, readAt, by rw [← hs.state_eq, hknown], hread, rfl⟩ hquiet
    rwa [Occasion.flight, ← hs.locked_eq] at hs'
  | unavailable =>
    simp only [Preflights.answer, hknown, Option.some.injEq] at hanswer
    subst hanswer
    have hs' := hs.snoc (e := .refused call identity now) hnow
      (by rintro t ⟨⟩; exact ⟨hnow, le_rfl⟩) (by rw [Admitted, ← hs.state_eq, hknown]) hquiet
    rwa [Occasion.flight, ← hs.locked_eq] at hs'
  | unknown =>
    simp only [Preflights.answer, hknown] at hanswer
    cases hanswer

/-- A call that finds nothing has to probe. -/
theorem unknown_of_answer {s : Preflights I R} {call : ℕ} {identity : I} {now readAt : ℚ}
    (h : s.answer key digest call identity now readAt = none) :
    s.state.check (key identity) now = .unknown := by
  cases hknown : s.state.check (key identity) now with
  | cached | unavailable =>
    simp only [Preflights.answer, hknown] at h
    cases h
  | unknown => rfl

theorem sound_arrive {s : Preflights I R} (hs : Sound key digest s) {call : ℕ} {identity : I}
    {now readAt : ℚ} (h : s.calls call = .idle) (hnow : s.clock ≤ now) (hread : now ≤ readAt) :
    Sound key digest (s.arrive key digest call identity now readAt) := by
  have hcall : ∀ i, s.calls call ≠ .probing i := by simp [h]
  unfold Preflights.arrive
  cases hanswer : s.answer key digest call identity now readAt with
  | some s' => exact sound_answer hs hcall hnow hread hanswer
  | none =>
    exact {
      state_eq := by simpa [Preflights.goTo] using hs.state_eq
      locked_eq := by simpa [Preflights.goTo] using hs.locked_eq
      probing_iff := by
        simpa [Preflights.goTo] using hs.quiet (.waiting identity) hcall fun i hi => by cases hi
      past := by
        intro e he t ht
        rw [Option.getD_none, Preflights.goTo, List.append_nil] at he
        exact (hs.past e he t ht).trans hnow
      lawful := by simpa [Preflights.goTo] using hs.lawful }

theorem sound_enter {s : Preflights I R} (hs : Sound key digest s) {call : ℕ} {identity : I}
    {now readAt : ℚ} (h : s.calls call = .waiting identity) (hfree : s.locked = false)
    (hnow : s.clock ≤ now) (hread : now ≤ readAt) :
    Sound key digest (s.enter key digest call identity now readAt) := by
  unfold Preflights.enter
  cases hanswer : s.answer key digest call identity now readAt with
  | some s' => exact sound_answer hs (by simp [h]) hnow hread hanswer
  | none =>
    have hnone : inFlight s.history = none := by
      rw [hs.locked_eq] at hfree
      simpa using hfree
    refine hs.snoc (e := .started call identity now) hnow (by rintro t ⟨⟩; exact ⟨hnow, le_rfl⟩)
      ⟨hnone, by rw [← hs.state_eq]; exact unknown_of_answer hanswer⟩ ?_
    intro c i
    by_cases hc : c = call
    · subst hc
      simp [Preflights.goTo, Occasion.flight]
    · have hcalls := hs.probing_iff c i
      rw [hnone] at hcalls
      simpa [Preflights.goTo, Function.update_of_ne hc, Occasion.flight, Ne.symm hc] using hcalls

/-- A probe that fails. -/
theorem sound_fail {s : Preflights I R} (hs : Sound key digest s) {call : ℕ} {identity : I} {now : ℚ}
    (h : s.calls call = .probing identity) (hnow : s.clock ≤ now) :
    Sound key digest (s.fail key call identity now) :=
  hs.snoc (e := .failed call identity now) hnow (by rintro t ⟨⟩; exact ⟨hnow, le_rfl⟩)
    ((hs.probing_iff call identity).mp h) (hs.closed h)

theorem sound_cancel {s : Preflights I R} (hs : Sound key digest s) {call : ℕ} {identity : I}
    (h : s.calls call = .probing identity) : Sound key digest (s.cancel call identity) :=
  hs.snoc (e := .cancelled call identity) le_rfl (by rintro t ⟨⟩)
    ((hs.probing_iff call identity).mp h) (hs.closed h)

theorem sound_leave {s : Preflights I R} (hs : Sound key digest s) {call : ℕ} {identity : I}
    (h : s.calls call = .waiting identity) : Sound key digest (s.leave call) where
  state_eq := by simpa [Preflights.leave, Preflights.goTo] using hs.state_eq
  locked_eq := by simpa [Preflights.leave, Preflights.goTo] using hs.locked_eq
  probing_iff := by
    simpa [Preflights.leave, Preflights.goTo] using
      hs.quiet .ended (by simp [h]) fun i hi => by cases hi
  past := by simpa [Preflights.leave, Preflights.goTo] using hs.past
  lawful := by simpa [Preflights.leave, Preflights.goTo] using hs.lawful

/-- A success is recorded, and found at once. -/
theorem sound_verify {s : Preflights I R} (hs : Sound key digest s) {call : ℕ} {identity : I}
    {now readAt : ℚ} (receipt : R) (h : s.calls call = .probing identity) (hnow : s.clock ≤ now)
    (hread : now ≤ readAt) : Sound key digest (s.verify key digest call identity now readAt receipt) := by
  have hverified := hs.snoc (e := .verified call identity now receipt) hnow
    (by rintro t ⟨⟩; exact ⟨hnow, le_rfl⟩) ((hs.probing_iff call identity).mp h) (hs.closed h)
  have hfound : (recorded key (s.history ++ [.verified call identity now receipt])).check
      (key identity) now = .cached now receipt := by
    rw [check_eq_cached, recorded_snoc]
    refine ⟨rfl, ?_⟩
    norm_num [ MODEL_PROBE_SUCCESS_TTL_SECONDS]
  have hs' := hverified.snoc
    (e := .returned call identity now (agedModelReceipt digest receipt now readAt)) hread
    (by rintro t ⟨⟩; exact ⟨le_rfl, hread⟩) ⟨now, receipt, readAt, hfound, hread, rfl⟩
    hverified.probing_iff
  simpa [Preflights.verify, Preflights.goTo, Occasion.record, Occasion.flight] using hs'

theorem sound_step {s s' : Preflights I R} (hs : Sound key digest s) (h : Step key digest s s') :
    Sound key digest s' := by
  cases h with
  | arrive identity h hnow hread => exact sound_arrive hs h hnow hread
  | enter h hfree hnow hread => exact sound_enter hs h hfree hnow hread
  | fail h hnow => exact sound_fail hs h hnow
  | verify receipt h hnow hread => exact sound_verify hs receipt h hnow hread
  | leave h => exact sound_leave hs h
  | cancel h => exact sound_cancel hs h

/-- Every state of every run goes with its history. -/
theorem sound_reached {s : Preflights I R} (h : Reached key digest s) : Sound key digest s := by
  obtain ⟨clock, h⟩ := h
  induction h with
  | refl => exact sound_start clock
  | tail _ hstep ih => exact sound_step ih hstep

end Runs

/-! ## 6. What the calls may rely on -/

section Laws

variable {I R : Type} {key : I → Text} {digest : Envelope R → Text}

/-- The identity that the call has read. -/
def Occasion.identity : Occasion I R → I
  | .started _ i _ | .failed _ i _ | .verified _ i _ _ | .returned _ i _ _ | .refused _ i _
  | .cancelled _ i => i

/-- What is settled was in flight. -/
theorem inFlight_of_settles {history : List (Occasion I R)} {e : Occasion I R}
    (h : Admitted key digest history e) (he : e.settles = true) :
    ∃ call, inFlight history = some (call, e.identity) := by
  cases e with
  | failed call | verified call => exact ⟨call, h⟩
  | started | returned | refused | cancelled => cases he

/-- Of what was settled last, the state tells all. -/
theorem recorded_settled {before after : List (Occasion I R)} {e : Occasion I R}
    (hafter : ∀ d ∈ after, d.settles = false) :
    recorded key (before ++ e :: after) = e.record key (recorded key before) := by
  have happend := recorded_append key (before ++ [e]) hafter
  rwa [recorded_snoc, List.append_assoc] at happend

/-- A call that has to probe, and whose key was settled last, has waited. -/
theorem waited {before after : List (Occasion I R)} {e : Occasion I R} {identity : I} {now : ℚ}
    (hafter : ∀ d ∈ after, d.settles = false) (he : e.settles = true)
    (hidentity : e.identity = identity)
    (h : (recorded key (before ++ e :: after)).check (key identity) now = .unknown) :
    ∃ t ∈ e.now?, t + MODEL_PROBE_FAILURE_TTL_SECONDS ≤ now := by
  rw [recorded_settled hafter] at h
  cases e with
  | failed call i t =>
    cases hidentity
    exact ⟨t, rfl, ended_of_unknown h rfl⟩
  | verified call i t receipt =>
    cases hidentity
    have hold := old_of_unknown h rfl
    refine ⟨t, rfl, ?_⟩
    norm_num [ MODEL_PROBE_SUCCESS_TTL_SECONDS, MODEL_PROBE_FAILURE_TTL_SECONDS] at hold ⊢
    linarith
  | started | returned | refused | cancelled => cases he

/-- A receipt is found only where its probe was settled last. -/
theorem verified_of_cached (hkey : Function.Injective key) {history : List (Occasion I R)} {identity : I}
    {now verified : ℚ} {receipt : R}
    (h : (recorded key history).check (key identity) now = .cached verified receipt) :
    ∃ earlier since prober,
      history = earlier ++ .verified prober identity verified receipt :: since ∧
      ∀ e ∈ since, e.settles = false := by
  have hsuccess := (check_eq_cached.mp h).1
  rcases last_settled history with hnone | ⟨earlier, e, since, rfl, he, hsince⟩
  · rw [← List.nil_append history, recorded_append key [] hnone] at hsuccess
    cases hsuccess
  · rw [recorded_settled hsince] at hsuccess
    cases e with
    | failed => cases hsuccess
    | verified prober i t r =>
      simp only [Occasion.record, Option.some.injEq, Prod.mk.injEq] at hsuccess
      obtain ⟨hi, rfl, rfl⟩ := hsuccess
      cases hkey hi
      exact ⟨earlier, since, prober, rfl, hsince⟩
    | started | returned | refused | cancelled => cases he

/-- What is not after the last of two places is before it. -/
theorem between_of_not_mem {α : Type} {a b c d : List α} {x y : α} (h : a ++ x :: b = c ++ y :: d)
    (hne : x ≠ y) (hd : x ∉ d) : ∃ e, b = e ++ y :: d := by
  rcases List.append_eq_append_iff.mp h with ⟨m, rfl, hm⟩ | ⟨m, rfl, hm⟩
  · rcases m with _ | ⟨z, m⟩
    · exact absurd (List.cons.inj hm).1 hne
    · exact ⟨m, (List.cons.inj hm).2⟩
  · rcases m with _ | ⟨z, m⟩
    · exact absurd (List.cons.inj hm).1.symm hne
    · exact absurd (by rw [(List.cons.inj hm).2]; simp) hd

variable (digest)

/-- What holds of a state and its history. -/
structure WellProbed (s : Preflights I R) : Prop where
  /-- At most one probe is in flight. -/
  alone : ∀ c d i j, s.calls c = .probing i → s.calls d = .probing j → c = d
  /-- A receipt is that of the last probe, which was for the same identity and is not too old. -/
  fresh : ∀ before after call identity (now : ℚ) aged,
    s.history = before ++ .returned call identity now aged :: after →
    ∃ earlier since prober receipt, ∃ verifiedAt readAt : ℚ,
      before = earlier ++ .verified prober identity verifiedAt receipt :: since ∧
      (∀ e ∈ since, e.settles = false) ∧ now - verifiedAt < MODEL_PROBE_SUCCESS_TTL_SECONDS ∧
      now ≤ readAt ∧ aged = agedModelReceipt digest receipt verifiedAt readAt
  /-- A receipt that is returned after a failure was obtained after it. -/
  forgotten : ∀ before between after failing i failedAt call identity now aged,
    s.history =
      before ++ .failed failing i failedAt :: (between ++ .returned call identity now aged :: after) →
    ∃ prober verifiedAt, .verified prober identity verifiedAt aged.receipt ∈ between
  /-- After a failure no probe starts for its identity before the failure has ended, unless one for
  another has started since. -/
  spared : ∀ before between after failing identity (failedAt : ℚ) call startedAt,
    s.history =
      before ++ .failed failing identity failedAt
        :: (between ++ .started call identity startedAt :: after) →
    failedAt + MODEL_PROBE_FAILURE_TTL_SECONDS ≤ startedAt ∨
      ∃ other i t, i ≠ identity ∧ .started other i t ∈ between

variable {digest}

theorem Sound.alone {s : Preflights I R} (hs : Sound key digest s) {c d : ℕ} {i j : I}
    (hc : s.calls c = .probing i) (hd : s.calls d = .probing j) : c = d := by
  rw [hs.probing_iff] at hc hd
  rw [hc] at hd
  cases hd
  rfl

theorem Lawful.fresh (hkey : Function.Injective key) {before after : List (Occasion I R)} {call : ℕ}
    {identity : I} {now : ℚ} {aged : AgedReceipt R}
    (h : Lawful key digest (before ++ .returned call identity now aged :: after)) :
    ∃ earlier since prober receipt, ∃ verifiedAt readAt : ℚ,
      before = earlier ++ .verified prober identity verifiedAt receipt :: since ∧
      (∀ e ∈ since, e.settles = false) ∧ now - verifiedAt < MODEL_PROBE_SUCCESS_TTL_SECONDS ∧
      now ≤ readAt ∧ aged = agedModelReceipt digest receipt verifiedAt readAt := by
  obtain ⟨⟨verified, receipt, readAt, hcheck, hread, haged⟩, -⟩ := h.at
  obtain ⟨earlier, since, prober, hbefore, hsince⟩ := verified_of_cached hkey hcheck
  exact ⟨earlier, since, prober, receipt, verified, readAt, hbefore, hsince,
    (check_eq_cached.mp hcheck).2, hread, haged⟩

theorem Lawful.spared {before between after : List (Occasion I R)} {failing call : ℕ} {identity : I}
    {failedAt startedAt : ℚ}
    (h : Lawful key digest (before ++ .failed failing identity failedAt
      :: (between ++ .started call identity startedAt :: after))) :
    failedAt + MODEL_PROBE_FAILURE_TTL_SECONDS ≤ startedAt ∨
      ∃ other i t, i ≠ identity ∧ .started other i t ∈ between := by
  have hstart : Lawful key digest ((before ++ .failed failing identity failedAt :: between)
      ++ .started call identity startedAt :: after) := by simpa using h
  obtain ⟨⟨-, hunknown⟩, -⟩ := hstart.at
  rcases last_settled between with hnone | ⟨b, e, since, rfl, he, hsince⟩
  · obtain ⟨t, ht, hle⟩ := waited hnone (by rfl) (by rfl) hunknown
    cases ht
    exact .inl hle
  · have hsettled : Lawful key digest ((before ++ .failed failing identity failedAt :: b)
        ++ e :: (since ++ .started call identity startedAt :: after)) := by simpa using h
    obtain ⟨hadmitted, hlater⟩ := hsettled.at
    by_cases hidentity : e.identity = identity
    · left
      rw [← List.cons_append, ← List.append_assoc] at hunknown
      obtain ⟨t, ht, hle⟩ := waited hsince he hidentity hunknown
      have hfailed : failedAt ≤ t := hlater (.failed failing identity failedAt) (by simp) _ rfl t ht
      linarith
    · right
      obtain ⟨prober, hflight⟩ := inFlight_of_settles hadmitted he
      have hfree : inFlight (before ++ [.failed failing identity failedAt]) = none := by
        rw [inFlight_snoc, Occasion.flight]
      rw [List.append_cons] at hflight
      obtain ⟨now, hmem⟩ := started_of_inFlight hfree b hflight
      exact ⟨prober, e.identity, now, hidentity, List.mem_append_left _ hmem⟩

/-- **The calls share their probes.**  Where keys tell identities apart, every state of every run is well
probed. -/
theorem preflights_kept (hkey : Function.Injective key) {s : Preflights I R} (h : Reached key digest s) :
    WellProbed digest s := by
  have hs := sound_reached h
  have hlawful := hs.lawful
  refine ⟨fun c d i j => hs.alone, ?_, ?_, ?_⟩
  · intro before after call identity now aged hsplit
    rw [hsplit] at hlawful
    exact hlawful.fresh hkey
  · intro before between after failing i failedAt call identity now aged hsplit
    rw [hsplit, ← List.cons_append, ← List.append_assoc] at hlawful
    obtain ⟨earlier, since, prober, receipt, verifiedAt, readAt, hbefore, hsince, -, -, rfl⟩ :=
      hlawful.fresh hkey
    obtain ⟨b, rfl⟩ := between_of_not_mem hbefore (by simp) fun hmem => by
      cases hsince _ hmem
    exact ⟨prober, verifiedAt, by simp [agedModelReceipt]⟩
  · intro before between after failing identity failedAt call startedAt hsplit
    rw [hsplit] at hlawful
    exact hlawful.spared

end Laws

/-! ## 7. The age that is stated -/

namespace Sample

/-- A key for each of two identities. -/
def keyOf (identity : Bool) : Text := js "sha256:" ++ List.replicate 64 (if identity then 0x61 else 0x62)

/-- The digests of the envelopes do not matter here. -/
def digestOf (_ : Envelope Unit) : Text := js "sha256:" ++ List.replicate 64 0x63

theorem keyOf_injective : Function.Injective keyOf := by
  intro a b h
  revert h
  cases a <;> cases b <;> decide

/-- A call is at its probe. -/
def probing : Preflights Bool Unit :=
  ((Preflights.start 0).arrive keyOf digestOf 0 true 0 0).enter keyOf digestOf 0 true 0 0

/-- Its probe has succeeded at 0. -/
def probed : Preflights Bool Unit := probing.verify keyOf digestOf 0 true 0 0 ()

/-- Another call finds the receipt at 299 and reads its age at 301. -/
def late : Preflights Bool Unit := probed.arrive keyOf digestOf 1 true 299 301

theorem reached_late : Reached keyOf digestOf late := by
  have hprobing : Relation.ReflTransGen (Step keyOf digestOf) (Preflights.start 0) probing :=
    .tail (.single (.arrive true rfl le_rfl le_rfl)) (.enter rfl rfl le_rfl le_rfl)
  have hprobed : Relation.ReflTransGen (Step keyOf digestOf) (Preflights.start 0) probed :=
    hprobing.tail (.verify () rfl le_rfl le_rfl)
  refine ⟨0, hprobed.tail (.arrive true rfl ?_ (by norm_num))⟩
  show (0 : ℚ) ≤ 299
  norm_num

theorem check_probed : probed.state.check (keyOf true) 299 = .cached 0 () := by
  refine check_eq_cached.mpr ⟨rfl, ?_⟩
  norm_num [ MODEL_PROBE_SUCCESS_TTL_SECONDS]

theorem late_history : late.history = probed.history ++
    [.returned 1 true 299 (agedModelReceipt digestOf () 0 301)] := by
  simp only [late, Preflights.arrive, Preflights.answer, check_probed]
  rfl

end Sample

/-- What the calls rely on, where one of them returns what another has probed. -/
theorem preflights_kept_late : WellProbed Sample.digestOf Sample.late :=
  preflights_kept Sample.keyOf_injective Sample.reached_late

/-- The age on a receipt is read after the receipt was found fresh, and can be more than its lifetime. -/
theorem stale_receipt : ¬ ∀ s : Preflights Bool Unit, Reached Sample.keyOf Sample.digestOf s →
    ∀ call identity now aged, .returned call identity now aged ∈ s.history →
      aged.cacheAgeSeconds ≤ aged.cacheTtlSeconds := by
  intro h
  have hage := h Sample.late Sample.reached_late 1 true 299 (agedModelReceipt Sample.digestOf () 0 301)
    (by rw [Sample.late_history]; simp)
  have htruncated : truncated (301 - 0) = 301 := by
    rw [sub_zero, truncated, if_pos (by norm_num)]
    rfl
  rw [agedModelReceipt, htruncated] at hage
  exact absurd hage (by decide)

end Companion
