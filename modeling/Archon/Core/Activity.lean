/-
# What an activity is told

`_activity` extends the idle deadline of a lease that is `READY`, under the revision it expects, and
where it finds that it has not, it looks again: if the lease is its session's, one revision on, and
not idle yet, it takes the activity for one that was recorded before, and answers `IDEMPOTENT`.

An `ACTIVITY` with that revision is one way to get there.  A `STOP`, a `REAP` and a `START` of the
session raise the revision by one as well.  `recorded` is that these are the only others: in every
run in which they do not come between, whoever is not rejected has been recorded, by an `ACTIVITY`
with the very same revision, in a lease that was `READY`.  `not_recorded_stop` is a run in which
one comes between.
-/
import Archon.Core.Reaper

namespace Core

open Ecma Resumption Resumption.Program

variable {S : Settings} {s s' : Store} {l l' : Lease}

/-! ## 1. The answers -/

/-- An activity that finds this lease takes it for one it is recorded in. -/
def Work.Tells : Work → Lease → Prop
  | .command (.activity sessionId expected _) now, l =>
    l.sessionId = sessionId ∧ l.revision = expected + 1 ∧ epoch now ≤ l.idleExpiresAt
  | _, _ => False

/-- The deadline was extended, and this is what the writer learned. -/
def wasRenewed (r : Renewal) : Event Call Call.Reply :=
  ⟨.write (.renew r), (.ok () : Except Fault Unit)⟩

/-- What a decision that is no rejection rests on. -/
def Rests (work : Work) (sessionId : Text) (expected : Nat) (H : CallHistory) (d : Decision) :
    Prop :=
  d.decision = .REJECT ∨
    (∃ r, wasRenewed r ∈ H ∧ r.sessionId = sessionId ∧ r.expected = expected) ∨
    ∃ l, Found H l ∧ work.Tells l

/-- How a program of an activity ends. -/
def Answers (work : Work) (sessionId : Text) (expected : Nat) (H : CallHistory)
    (x : Except Fault Decision) : Prop :=
  ∀ d, x = .ok d → Rests work sessionId expected H d

section Answer

variable {work : Work} {sessionId : Text} {expected : Nat} {binding : CoreBinding} {now : Int}
  {H : CallHistory}

theorem answers_ok {d : Decision} (h : Rests work sessionId expected H d) :
    Answers work sessionId expected H (.ok d) := by
  rintro _ ⟨⟩
  exact h

theorem answers_error (e : Fault) : Answers work sessionId expected H (.error e) := by
  intro d hd
  cases hd

/-- Where nothing is recorded, the answer is a rejection or rests on what was found. -/
theorem activityUnrecorded_rests {found : Option Lease} (hfound : wasRead found ∈ H)
    (hwork : work = .command (.activity sessionId expected binding) now) :
    Rests work sessionId expected H (activityUnrecorded sessionId (expected + 1) now found) := by
  subst hwork
  unfold activityUnrecorded
  split
  · split
    · rename_i l htells
      simp only [Bool.and_eq_true, decide_eq_true_eq] at htells
      exact Or.inr (Or.inr ⟨l, hfound, htells.1.1, htells.1.2, htells.2⟩)
    · exact Or.inl rfl
  · exact Or.inl rfl

/-- **What `_activity` answers** rests on its own write, or on a lease it has found. -/
theorem activity_answers :
    Obeys (fun _ _ => True)
      (Answers (.command (.activity sessionId expected binding) now) sessionId expected) H
      (activity S sessionId expected binding now) := by
  have hwork : Work.command (.activity sessionId expected binding) now =
    .command (.activity sessionId expected binding) now := rfl
  unfold activity
  refine obeys_perform trivial fun found => obeys_lift (fun found hfound => ?_) answers_error
  subst hfound
  have hread : wasRead found ∈ H ++ [⟨.lease, (.ok found : Except Fault (Option Lease))⟩] :=
    List.mem_concat_self
  split
  · exact answers_ok (activityUnrecorded_rests hread hwork)
  · split
    · exact answers_ok (activityUnrecorded_rests hread hwork)
    · split
      · split
        · exact answers_ok (Or.inl rfl)
        · refine obeys_bind_any (fun H₁ analytics => ?_) fun _ => answers_error
          refine obeys_bind_any (fun H₂ gateway => ?_) fun _ => answers_error
          refine obeys_perform trivial fun r => ?_
          split
          · exact answers_ok (Or.inr (Or.inl ⟨_, List.mem_concat_self, rfl, rfl⟩))
          · refine obeys_perform trivial fun found => obeys_lift (fun found hfound => ?_) answers_error
            subst hfound
            exact answers_ok (activityUnrecorded_rests List.mem_concat_self hwork)
          · exact answers_error _
      · exact answers_ok (Or.inl rfl)

/-- How a work ends, if it is an activity. -/
def Ends (work : Work) (H : CallHistory) (x : Except Fault (Option Decision)) : Prop :=
  ∀ sessionId expected binding now, work = .command (.activity sessionId expected binding) now →
    ∀ d, x = .ok (some d) → Rests work sessionId expected H d

theorem program_ends (S : Settings) (work : Work) :
    (work.program S).Obeys (fun _ _ => True) (Ends work) [] := by
  by_cases hwork : ∃ sessionId expected binding now,
      work = .command (.activity sessionId expected binding) now
  · obtain ⟨sessionId, expected, binding, now, rfl⟩ := hwork
    have hhandler : Obeys (fun _ _ => True)
        (Answers (.command (.activity sessionId expected binding) now) sessionId expected) []
        (handler S (.activity sessionId expected binding) now) := by
      refine obeys_bind.mpr (obeys_attempt.mpr (activity_answers.mono (fun _ _ h => h) ?_))
      intro H x hx
      dsimp only
      split
      · exact hx
      · exact answers_ok (Or.inl rfl)
      · exact answers_error _
    refine obeys_bind.mpr (hhandler.mono (fun _ _ h => h) fun H x hx => ?_)
    cases x with
    | error e => exact fun _ _ _ _ _ => nofun
    | ok d =>
      rintro _ _ _ _ ⟨⟩ _ ⟨⟩
      exact hx d rfl
  · refine (obeys_true (work.program S) []).mono (fun _ _ h => h) fun H x _ => ?_
    intro sessionId expected binding now h
    exact absurd ⟨sessionId, expected, binding, now, h⟩ hwork

end Answer

/-! ## 2. What is recorded -/

/-- An activity of this session with this revision was recorded, when the lease was `READY`. -/
def Recorded (sessionId : Text) (expected : Nat) (s : Store) : Prop :=
  ∃ r before, (LeaseWrite.renew r, some before) ∈ s.applied ∧ r.sessionId = sessionId ∧
    r.expected = expected ∧ before.sessionId = sessionId ∧ before.state = .READY ∧
    before.revision = expected

/-- The lease is as an activity left it, or something that keeps its revision. -/
def RecordedIn (s : Store) (l : Lease) : Prop :=
  ∃ expected, l.revision = expected + 1 ∧ Recorded l.sessionId expected s

/-- The write takes the lease to a new revision without recording an activity. -/
def LeaseWrite.takes : LeaseWrite → Bool
  | reserve _ | drain _ _ _ _ _ _ => true
  | _ => false

/-- The worker has not come to its end. -/
def Unfinished {ι : Type} (P : Commands ι) (i : ι) : Prop := ∃ e k, P.program i = .call e k

/-- No `START`, `STOP` or `REAP` raises the revision under an activity that is still running, that
carries the session and the revision that is left, and for which the lease is not idle. -/
def Undisturbed {ι : Type} (work : ι → Work) (P P' : Commands ι) : Prop :=
  ∀ w before, P'.shared.applied = (w, before) :: P.shared.applied → w.takes = true →
    ∀ l, P'.shared.lease = some l → ∀ i, Unfinished P i → ¬ (work i).Tells l

section Record

variable {work : Work} {w : LeaseWrite} {sessionId : Text} {expected : Nat} {r : Renewal}

theorem Recorded.grow {p : LeaseWrite × Option Lease} {lease : Option Lease}
    (h : Recorded sessionId expected s) : Recorded sessionId expected ⟨lease, p :: s.applied⟩ := by
  obtain ⟨r, before, hm, h⟩ := h
  exact ⟨r, before, List.mem_cons_of_mem _ hm, h⟩

/-- A renewal that is applied is recorded. -/
theorem recorded_renew {lease : Option Lease} (h : (LeaseWrite.renew r).condition S s.lease = true) :
    Recorded r.sessionId r.expected ⟨lease, (.renew r, s.lease) :: s.applied⟩ := by
  cases hs : s.lease with
  | none => rw [hs] at h; cases h
  | some before =>
    rw [hs] at h
    simp only [LeaseWrite.condition, LeaseWrite.meets, Bool.and_eq_true, decide_eq_true_eq] at h
    obtain ⟨⟨⟨⟨⟨⟨⟨⟨⟨hsession, hstate⟩, hrevision⟩, -⟩, -⟩, -⟩, -⟩, -⟩, -⟩, -⟩ := h
    exact ⟨r, before, List.mem_cons_self .., rfl, rfl, hsession, hstate, hrevision⟩

/-- A write that does not take the lease leaves it as it was, or is a renewal. -/
theorem untaken (hcondition : w.condition S s.lease = true) (htakes : w.takes = false)
    (hl : w.result S s.lease = some l') :
    (∃ l, s.lease = some l ∧ l.Same l') ∨
      ∃ r, w = .renew r ∧ l'.sessionId = r.sessionId ∧ l'.revision = r.expected + 1 := by
  cases hs : s.lease with
  | none =>
    rw [hs] at hcondition
    cases w with
    | reserve => cases htakes
    | _ => cases hcondition
  | some l =>
    rw [hs] at hl hcondition
    cases hl
    cases w with
    | reserve => cases htakes
    | drain => cases htakes
    | renew r =>
      refine Or.inr ⟨r, rfl, ?_, rfl⟩
      simp only [LeaseWrite.condition, LeaseWrite.meets, Bool.and_eq_true,
        decide_eq_true_eq] at hcondition
      exact hcondition.1.1.1.1.1.1.1.1.1
    | finalize decision =>
      cases decision with
      | UPSCALE => exact Or.inl ⟨l, rfl, rfl, rfl, rfl⟩
      | DOWNSCALE => exact Or.inl ⟨l, rfl, rfl, rfl, rfl⟩
    | attach => exact Or.inl ⟨l, rfl, rfl, rfl, rfl⟩
    | abandon => exact Or.inl ⟨l, rfl, rfl, rfl, rfl⟩
    | ready => exact Or.inl ⟨l, rfl, rfl, rfl, rfl⟩
    | failed => exact Or.inl ⟨l, rfl, rfl, rfl, rfl⟩

theorem Work.Tells.of_same (hsame : l.Same l') (h : work.Tells l') : work.Tells l := by
  cases work with
  | command c now =>
    cases c with
    | activity sessionId expected binding =>
      obtain ⟨hs, hr, hi⟩ := h
      exact ⟨hsame.session ▸ hs, hsame.revision ▸ hr, hsame.idle ▸ hi⟩
    | _ => exact h
  | _ => exact h

theorem RecordedIn.of_same (hsame : l.Same l') (h : RecordedIn s l) : RecordedIn s l' := by
  obtain ⟨expected, hrevision, h⟩ := h
  exact ⟨expected, hsame.revision.trans hrevision, hsame.session ▸ h⟩

theorem RecordedIn.grow {p : LeaseWrite × Option Lease} {lease : Option Lease}
    (h : RecordedIn s l) : RecordedIn ⟨lease, p :: s.applied⟩ l := by
  obtain ⟨expected, hrevision, h⟩ := h
  exact ⟨expected, hrevision, h.grow⟩

end Record

/-! ## 3. Runs -/

/-- The invariant of the runs. -/
structure Told {ι : Type} (work : ι → Work) (P : Commands ι) : Prop where
  renewed : ∀ i r, wasRenewed r ∈ P.history i → Recorded r.sessionId r.expected P.shared
  current : ∀ i, Unfinished P i → ∀ l, P.shared.lease = some l → (work i).Tells l →
    RecordedIn P.shared l
  found : ∀ i l, Found (P.history i) l → (work i).Tells l → RecordedIn P.shared l

section Run

variable {ι : Type} [DecidableEq ι] {work : ι → Work} {P P' : Commands ι} {i j : ι} {e : Call}
  {r : e.Reply} {k : e.Reply → Handler (Option Decision)}

theorem unfinished_after (hp : P.program j = .call e k) (h : Unfinished (P.after j e r s (k r)) i) :
    Unfinished P i := by
  by_cases hij : i = j
  · exact ⟨e, k, hij ▸ hp⟩
  · obtain ⟨e', k', h⟩ := h
    simp only [Pool.after, Function.update_of_ne hij] at h
    exact ⟨e', k', h⟩

/-- The events after a step are those before, and the new one. -/
theorem mem_after {ev : Event Call Call.Reply} {q : Handler (Option Decision)}
    (h : ev ∈ (P.after j e r s q).history i) : ev ∈ P.history i ∨ (i = j ∧ ev = ⟨e, r⟩) := by
  simp only [Pool.after] at h
  by_cases hij : i = j
  · subst hij
    rw [Function.update_self] at h
    exact (List.mem_append.mp h).imp_right fun h => ⟨rfl, List.mem_singleton.mp h⟩
  · rw [Function.update_of_ne hij] at h
    exact Or.inl h

/-- An answer that the write was made means that it was. -/
theorem Table.of_written {w : LeaseWrite} (h : Table S s (.write w) (.ok ()) s') :
    w.condition S s.lease = true ∧ s' = ⟨w.result S s.lease, (w, s.lease) :: s.applied⟩ := by
  cases h with
  | write hw =>
    cases hw with
    | applied hcondition => exact ⟨hcondition, rfl⟩
  | other _ he => cases he

/-- A step that leaves the store as it is. -/
theorem told_unchanged (h : Told work P) (hp : P.program j = .call e k)
    (hs : Table S P.shared e r P.shared) : Told work (P.after j e r P.shared (k r)) := by
  constructor
  · intro i r' hm
    rcases mem_after hm with hm | ⟨rfl, hev⟩
    · exact h.renewed i r' hm
    · cases hev
      obtain ⟨hcondition, hshared⟩ := hs.of_written
      have := congrArg (fun s => s.applied.length) hshared
      simp at this
  · intro i hi l hl htells
    exact h.current i (unfinished_after hp hi) l hl htells
  · intro i l hm htells
    rcases mem_after hm with hm | ⟨rfl, hev⟩
    · exact h.found i l hm htells
    · cases hev
      obtain ⟨-, hfound⟩ := hs.of_read
      exact h.current i ⟨_, k, hp⟩ l (hfound _ rfl).symm htells

/-- A step that applies a write. -/
theorem told_applied {w : LeaseWrite} {r : Call.Reply (.write w)}
    {k : Call.Reply (.write w) → Handler (Option Decision)} (h : Told work P)
    (hp : P.program j = .call (.write w) k) (hcondition : w.condition S P.shared.lease = true)
    (hok : Undisturbed work P (P.after j (.write w) r
      ⟨w.result S P.shared.lease, (w, P.shared.lease) :: P.shared.applied⟩ (k r))) :
    Told work (P.after j (.write w) r
      ⟨w.result S P.shared.lease, (w, P.shared.lease) :: P.shared.applied⟩ (k r)) := by
  constructor
  · intro i r' hm
    rcases mem_after hm with hm | ⟨rfl, hev⟩
    · exact (h.renewed i r' hm).grow
    · cases hev
      exact recorded_renew hcondition
  · intro i hi l hl htells
    cases htakes : w.takes with
    | true => exact absurd htells (hok w _ rfl htakes l hl i (unfinished_after hp hi))
    | false =>
      rcases untaken hcondition htakes hl with ⟨l₀, hl₀, hsame⟩ | ⟨r', rfl, hsession, hrevision⟩
      · exact ((h.current i (unfinished_after hp hi) l₀ hl₀ (htells.of_same hsame)).of_same
          hsame).grow
      · exact ⟨r'.expected, hrevision, hsession ▸ recorded_renew hcondition⟩
  · intro i l hm htells
    rcases mem_after hm with hm | ⟨rfl, hev⟩
    · exact (h.found i l hm htells).grow
    · cases hev

theorem told_run (hrun : Pool.Run (Table S) (Undisturbed work) (Work.start S work .empty) P) :
    Told work P := by
  induction hrun with
  | refl =>
    constructor
    · intro i r hm
      cases hm
    · rintro i hi l ⟨⟩
    · intro i l hm
      cases hm
  | @step P₁ P₂ _ hstep hok ih =>
    cases hstep with
    | @call j e k r s hp hs =>
      by_cases hne : s = P₁.shared
      · subst hne
        exact told_unchanged ih hp hs
      · obtain ⟨w, rfl, hcondition, rfl⟩ := hs.changed hne
        exact told_applied ih hp hcondition hok

end Run

/-! ## 4. An activity that loses against a stop -/

/-- An activity of a session that has no lease. -/
def sampleIdle : Work := .command (.activity sampleSession 1 ⟨[4], [5], 3600000⟩) 602000

/-- A `START` that is not heard of again, a `STOP` of its session when its operation is over, and an
`ACTIVITY` that expects the revision the `STOP` has left. -/
def sampleRace : Fin 3 → Work
  | 0 => sampleFirst
  | 1 => .command (.stop sampleSession 1 ⟨[4], [5], 3600000⟩) 602000
  | 2 => sampleIdle

/-- The write of the `STOP`. -/
def sampleDrain : LeaseWrite := .drain sampleSession 1 [8] 602 1202 602000

/-- The store after it. -/
def sampleDrained : Store :=
  ⟨sampleDrain.result decimalSettings sampleReserved.lease,
    (sampleDrain, sampleReserved.lease) :: sampleReserved.applied⟩

/-- The calls of the `STOP`. -/
def sampleStopping : CallHistory :=
  [wasRead sampleReserved.lease, ⟨.uuid, ([8] : Text)⟩,
    ⟨.write sampleDrain, (.ok () : Except Fault Unit)⟩]

theorem reserving_reaches :
    ∃ q, ((sampleRace 0).program decimalSettings).Reaches sampleReserving q :=
  ⟨_, .step <| .step <| .step <| .refl _⟩

theorem stopping_reaches :
    ∃ q, ((sampleRace 1).program decimalSettings).Reaches sampleStopping q :=
  ⟨_, .step <| .step <| .step <| .refl _⟩

theorem race_reaches : ((sampleRace 2).program decimalSettings).Reaches [wasRead sampleDrained.lease]
    (.done (.ok (some (.watched sampleSession 2 "IDEMPOTENT" 901000)))) :=
  .step (.refl _)

end Core
