/-
# One owner, and no stale command

The lease has one owner, and nobody takes it from a session that has it: a session gets the lease
only where there is none, or where the last one is over, at the revision that it says it is.

What a command may do to the lease is said by `Permitted`, with the values that the lease has at the
moment of the change.  `onlyCurrent` is that every change in every run is permitted, whatever the
commands, and that the lease only ever becomes a later one.

Two things the lease does not do.  Recording endpoints, giving up a start, finishing an operation,
and what the host reports leave the revision as it is: they are told apart by the operation and the
state.  And a `START` that is sent again finds its own reservation, which is one revision on, and
goes on with it, or gives it up.  `sameRevision_stale` is a run of each.
-/
import Archon.Core.Table

namespace Core

open Ecma Resumption Resumption.Program

/-! ## 1. What a command may change -/

/-- The lease is there for the taking, at this revision. -/
def Free (expected : Nat) (before : Option Lease) : Prop :=
  ∀ l, before = some l →
    (l.state = .STOPPED ∨ l.state = .EXPIRED ∨ l.state = .FAILED) ∧ l.revision = expected ∧
      l.operationId = none

/-- The lease carries the generation and the capabilities that are deployed. -/
def Lease.Deployed (S : Settings) (l : Lease) : Prop :=
  l.generation = S.generation ∧ l.capabilityDigest = S.capabilityDigest

/-- The changes of the lease, and the work that makes them. -/
inductive Permitted (S : Settings) : Work → Option Lease → Lease → Prop
  | won {sessionId : Text} {expected : Nat} {binding : CoreBinding} {now : Int}
      {before : Option Lease} {l' : Lease} (hfree : Free expected before)
      (hbinding : l'.binding = (sessionId, S.generation, S.capabilityDigest, binding.resolution,
        binding.boundAt, epoch binding.leaseExpiresAt))
      (hrevision : l'.revision = expected + 1) (hstate : l'.state = .STARTING) :
      Permitted S (.command (.start sessionId expected binding) now) before l'
  | started {sessionId : Text} {expected : Nat} {binding : CoreBinding} {now : Int} {l l' : Lease}
      (hsession : l.sessionId = sessionId) (hrevision : l.revision = expected + 1)
      (hstate : l.state = .STARTING) (hoperation : l.operationId ≠ none) (hdeployed : l.Deployed S)
      (hsame : l.Same l') (hstate' : l'.state = .STARTING ∨ l'.state = .FAILED) :
      Permitted S (.command (.start sessionId expected binding) now) (some l) l'
  | active {sessionId : Text} {expected : Nat} {binding : CoreBinding} {now : Int} {l l' : Lease}
      (hsession : l.sessionId = sessionId) (hrevision : l.revision = expected)
      (hstate : l.state = .READY) (hoperation : l.operationId = none) (hdeployed : l.Deployed S)
      (hhard : l.hardExpiresAt = epoch binding.leaseExpiresAt) (hnow : epoch now < l.hardExpiresAt)
      (hraised : l.Raised l') (hstate' : l'.state = .READY) :
      Permitted S (.command (.activity sessionId expected binding) now) (some l) l'
  | stopped {sessionId : Text} {expected : Nat} {binding : CoreBinding} {now : Int} {l l' : Lease}
      (hsession : l.sessionId = sessionId) (hrevision : l.revision = expected)
      (hdeployed : l.Deployed S) (hraised : l.Raised l') (hstate' : l'.state = .DRAINING) :
      Permitted S (.command (.stop sessionId expected binding) now) (some l) l'
  | reaped {watchdog : Option Watchdog} {now : Int} {l l' : Lease}
      (hwatchdog : ∀ w ∈ watchdog, l.sessionId = w.expectedSessionId ∧
        l.revision = w.expectedRevision ∧ l.idleExpiresAt = w.deadlineEpoch ∧
        w.deadlineEpoch ≤ epoch now)
      (hraised : l.Raised l') (hstate' : l'.state = .DRAINING) :
      Permitted S (.command (.reap watchdog) now) (some l) l'
  | finalized {decision : FinalizeDecision} {operationId sessionId : Text} {expected : Nat}
      {now : Int} {l l' : Lease} (hsession : l.sessionId = sessionId)
      (hrevision : l.revision = expected) (hoperation : l.operationId = some operationId)
      (hsame : l.Same l') (hstate' : l'.state = decision.finalState)
      (hoperation' : l'.operationId = none) :
      Permitted S (.command (.finalize decision operationId sessionId expected) now) (some l) l'
  | ready {sessionId : Text} {now : Int} {l l' : Lease} (hsession : l.sessionId = sessionId)
      (hstate : l.state = .STARTING) (hoperation : l.operationId = none) (hdeployed : l.Deployed S)
      (hsame : l.Same l') (hstate' : l'.state = .READY) :
      Permitted S (.ready sessionId now) (some l) l'
  | failed {sessionId : Text} {now : Int} {l l' : Lease} (hsession : l.sessionId = sessionId)
      (hstate : l.state = .STARTING) (hsame : l.Same l') (hstate' : l'.state = .FAILED) :
      Permitted S (.failed sessionId now) (some l) l'

/-- The session has the lease. -/
def Owns (sessionId : Text) (lease : Option Lease) : Prop :=
  ∃ l, lease = some l ∧ l.sessionId = sessionId ∧
    (l.state = .STARTING ∨ l.state = .READY ∨ l.state = .DRAINING)

section Change

variable {S : Settings} {work : Work} {H : CallHistory} {l l' : Lease} {lease : Option Lease}

/-- What the lease has become is what was found, or later. -/
def Known (H : CallHistory) (lease : Option Lease) : Prop :=
  ∀ l, Found H l → ∃ l', lease = some l' ∧ l.Later l'

theorem staleWatchdog_eq_false {w : Watchdog} {now : Int} (h : staleWatchdog w now l = false) :
    l.sessionId = w.expectedSessionId ∧ l.revision = w.expectedRevision ∧
      l.idleExpiresAt = w.deadlineEpoch ∧ w.deadlineEpoch ≤ epoch now := by
  simp only [staleWatchdog, Bool.or_eq_false_iff, decide_eq_false_iff_not, not_not, ne_eq,
    not_lt] at h
  exact ⟨h.1.1.1, h.1.1.2, h.2, h.1.2⟩

/-- A scale-down is of a lease that the command has found. -/
theorem permitted_drain {sessionId operationId : Text} {expected : Nat} {now x y : Int}
    (hknown : Known H (some l))
    (hcarries : Carries S work H (.drain sessionId expected operationId now x y))
    (hmeets : (LeaseWrite.drain sessionId expected operationId now x y).meets S l = true) :
    Permitted S work (some l)
      ((LeaseWrite.drain sessionId expected operationId now x y).update S l) := by
  simp only [LeaseWrite.meets, Bool.and_eq_true, decide_eq_true_eq] at hmeets
  obtain ⟨⟨⟨hsession, hrevision⟩, -⟩, -⟩ := hmeets
  have hraised : l.Raised ((LeaseWrite.drain sessionId expected operationId now x y).update S l) :=
    ⟨by simp [LeaseWrite.update, hrevision], rfl⟩
  rcases hcarries with ⟨binding, t, f, rfl, hfound, hf, hgeneration, hdigest, hfr⟩ |
    ⟨watchdog, t, f, rfl, hfound, hf, hfr, hwatchdog, -⟩
  · obtain ⟨_, hl, hlater⟩ := hknown f hfound
    obtain rfl := Option.some.inj hl
    have hsame := hlater.same (hrevision.trans hfr.symm)
    exact .stopped hsession hrevision
      ⟨hsame.generation.trans hgeneration, hsame.digest.trans hdigest⟩ hraised rfl
  · obtain ⟨_, hl, hlater⟩ := hknown f hfound
    obtain rfl := Option.some.inj hl
    have hsame := hlater.same (hrevision.trans hfr.symm)
    refine .reaped (fun w hw => ?_) hraised rfl
    obtain ⟨hs, hr, hi, ht⟩ := staleWatchdog_eq_false (hwatchdog w hw)
    exact ⟨hsame.session.trans hs, hsame.revision.trans hr, hsame.idle.trans hi, ht⟩

/-- **A write that its command carries makes a permitted change.** -/
theorem permitted_write {w : LeaseWrite} (hknown : Known H lease) (hcarries : Carries S work H w)
    (hcondition : w.condition S lease = true) :
    ∃ l', w.result S lease = some l' ∧ Permitted S work lease l' := by
  cases lease with
  | none =>
    cases w with
    | reserve r =>
      obtain ⟨binding, now, rfl, hresolution, hbound, hhard⟩ := hcarries
      refine ⟨_, rfl, .won (fun l hl => nomatch hl) ?_ rfl rfl⟩
      simp [Lease.binding, LeaseWrite.reserved, hresolution, hbound, hhard]
    | _ => cases hcondition
  | some l =>
    refine ⟨_, rfl, ?_⟩
    have hmeets : w.meets S l = true := hcondition
    cases w with
    | reserve r =>
      obtain ⟨binding, now, rfl, hresolution, hbound, hhard⟩ := hcarries
      refine .won ?_ ?_ rfl rfl
      · rintro _ ⟨⟩
        simp only [LeaseWrite.meets, Bool.and_eq_true, Bool.or_eq_true, decide_eq_true_eq,
          Option.isNone_iff_eq_none] at hmeets
        exact ⟨or_assoc.mp hmeets.1.1, hmeets.1.2, hmeets.2⟩
      · simp [Lease.binding, LeaseWrite.update, LeaseWrite.reserved, hresolution, hbound, hhard]
    | attach sessionId revision operationId provision updatedAt =>
      obtain ⟨expected, binding, now, rfl, rfl⟩ := hcarries
      simp only [LeaseWrite.meets, Bool.and_eq_true, decide_eq_true_eq] at hmeets
      obtain ⟨⟨⟨⟨⟨hsession, hstate⟩, hrevision⟩, hoperation⟩, hgeneration⟩, hdigest⟩ := hmeets
      exact .started hsession hrevision hstate (by simp [hoperation]) ⟨hgeneration, hdigest⟩
        ⟨rfl, rfl, rfl⟩ (Or.inl hstate)
    | abandon sessionId revision operationId updatedAt =>
      obtain ⟨expected, binding, now, rfl, rfl⟩ := hcarries
      simp only [LeaseWrite.meets, Bool.and_eq_true, decide_eq_true_eq] at hmeets
      obtain ⟨⟨⟨⟨⟨hsession, hstate⟩, hrevision⟩, hoperation⟩, hgeneration⟩, hdigest⟩ := hmeets
      exact .started hsession hrevision hstate (by simp [hoperation]) ⟨hgeneration, hdigest⟩
        ⟨rfl, rfl, rfl⟩ (Or.inr rfl)
    | renew r =>
      obtain ⟨binding, now, rfl, hhard, hnow⟩ := hcarries
      simp only [LeaseWrite.meets, Bool.and_eq_true, decide_eq_true_eq,
        Option.isNone_iff_eq_none] at hmeets
      obtain ⟨⟨⟨⟨⟨⟨⟨⟨⟨hsession, hstate⟩, hrevision⟩, hgeneration⟩, hdigest⟩, hh⟩, hn⟩, -⟩, -⟩,
        hoperation⟩ := hmeets
      exact .active hsession hrevision hstate hoperation ⟨hgeneration, hdigest⟩ (hh.trans hhard)
        (hnow ▸ hn) ⟨by simp [LeaseWrite.update, hrevision], rfl⟩ hstate
    | drain sessionId expected operationId now x y => exact permitted_drain hknown hcarries hmeets
    | finalize decision sessionId revision operationId updatedAt =>
      obtain ⟨now, rfl⟩ := hcarries
      simp only [LeaseWrite.meets, Bool.and_eq_true, decide_eq_true_eq] at hmeets
      obtain ⟨⟨hsession, hrevision⟩, hoperation⟩ := hmeets
      cases decision with
      | UPSCALE => exact .finalized hsession hrevision hoperation ⟨rfl, rfl, rfl⟩ rfl rfl
      | DOWNSCALE => exact .finalized hsession hrevision hoperation ⟨rfl, rfl, rfl⟩ rfl rfl
    | ready sessionId now =>
      obtain rfl := hcarries
      simp only [LeaseWrite.meets, Bool.and_eq_true, decide_eq_true_eq,
        Option.isNone_iff_eq_none] at hmeets
      obtain ⟨⟨⟨⟨hsession, hstate⟩, hgeneration⟩, hdigest⟩, hoperation⟩ := hmeets
      exact .ready hsession hstate hoperation ⟨hgeneration, hdigest⟩ ⟨rfl, rfl, rfl⟩ rfl
    | failed sessionId now =>
      obtain rfl := hcarries
      simp only [LeaseWrite.meets, Bool.and_eq_true, decide_eq_true_eq] at hmeets
      exact .failed hmeets.1 hmeets.2 ⟨rfl, rfl, rfl⟩ rfl

end Change

/-! ## 2. Runs -/

/-- A run of commands. -/
abbrev Commands (ι : Type) := Pool ι Store Call Call.Reply Fault (Option Decision)

/-- The commands at their start. -/
abbrev Work.start {ι : Type} (S : Settings) (work : ι → Work) (s : Store) : Commands ι :=
  Pool.start s fun i => (work i).program S

section Runs

variable {ι : Type} [DecidableEq ι] {S : Settings} {work : ι → Work} {s₀ s s' : Store}

/-- The invariant of the runs: the lease is later than the first one, and than any that was
found. -/
structure OnlyLater (s₀ s : Store) (hist : ι → CallHistory) : Prop where
  first : ∀ l, s₀.lease = some l → ∃ l', s.lease = some l' ∧ l.Later l'
  found : ∀ i, Known (hist i) s.lease

/-- What was known of the lease is known after a step. -/
theorem Known.step {H : CallHistory} {e : Call} {r : e.Reply} (h : Known H s.lease)
    (hs : Table S s e r s') : Known H s'.lease := by
  intro l hl
  obtain ⟨l₁, h₁, hlater⟩ := h l hl
  obtain ⟨l₂, h₂, hlater'⟩ := hs.later h₁
  exact ⟨l₂, h₂, hlater.trans hlater'⟩

/-- What a read tells is known. -/
theorem Known.answered {H : CallHistory} {e : Call} {r : e.Reply} (h : Known H s.lease)
    (hs : Table S s e r s') : Known (H ++ [⟨e, r⟩]) s'.lease := by
  intro l hl
  rcases List.mem_append.mp hl with hl | hl
  · exact h.step hs l hl
  · cases List.mem_singleton.mp hl
    obtain ⟨rfl, hfound⟩ := hs.of_read
    exact ⟨l, (hfound _ rfl).symm, .refl l⟩

theorem onlyLater_step {hist : ι → CallHistory} {i : ι} {e : Call} {r : e.Reply}
    (h : OnlyLater s₀ s hist) (hs : Table S s e r s') :
    OnlyLater s₀ s' (Function.update hist i (hist i ++ [⟨e, r⟩])) := by
  constructor
  · intro l hl
    obtain ⟨l₁, h₁, hlater⟩ := h.first l hl
    obtain ⟨l₂, h₂, hlater'⟩ := hs.later h₁
    exact ⟨l₂, h₂, hlater.trans hlater'⟩
  · intro j
    by_cases hj : j = i
    · subst hj
      rw [Function.update_self]
      exact (h.found j).answered hs
    · rw [Function.update_of_ne hj]
      exact (h.found j).step hs

theorem onlyLater_run {P : Commands ι}
    (hrun : Pool.Run (Table S) (fun _ _ => True) (Work.start S work s₀) P) :
    OnlyLater s₀ P.shared P.history ∧ ∀ i, Follows S (work i) (P.history i) (P.program i) := by
  refine Pool.invariant hrun (fun i => program_follows S (work i)) ⟨?_, ?_⟩ ?_
  · intro l hl
    exact ⟨l, hl, .refl l⟩
  · intro i l hl
    cases hl
  · intro P₁ i e k r s hinv hp hallowed hs _
    exact onlyLater_step hinv hs

/-- A work that runs alone comes to where its history leads it. -/
theorem comes_to (S : Settings) (work : Work) (H : CallHistory) {q : Handler (Option Decision)}
    (hr : (work.program S).Reaches H q) (hm : Pool.Moves (Table S) s H s') :
    ∃ P, Pool.Run (Table S) (fun _ _ => True) (Work.start S (fun _ : Unit => work) s) P ∧
      P.shared = s' ∧ P.program () = q := by
  have hstart : Pool.Run (Table S) (fun _ _ => True) (Work.start S (fun _ : Unit => work) s)
      (Work.start S (fun _ : Unit => work) s) := .refl
  obtain ⟨P, hrun, hs, hp, -⟩ := hstart.alone (i := ()) hr hm fun _ _ _ _ _ _ => trivial
  exact ⟨P, hrun, hs, by rw [hp, Function.update_self]⟩

/-- **The lease has one owner, is never lost, only becomes a later one, and is changed by nothing
but a command that is about the lease as it is.** -/
theorem onlyCurrent {P : Commands ι}
    (hrun : Pool.Run (Table S) (fun _ _ => True) (Work.start S work s₀) P) :
    (∀ a b, Owns a P.shared.lease → Owns b P.shared.lease → a = b) ∧
    (∀ l, s₀.lease = some l → ∃ l', P.shared.lease = some l' ∧ l.Later l') ∧
    ∀ i e k r s', P.program i = .call e k → Table S P.shared e r s' →
      s'.lease ≠ P.shared.lease →
        ∃ l', s'.lease = some l' ∧ Permitted S (work i) P.shared.lease l' := by
  obtain ⟨hinv, hfollows⟩ := onlyLater_run hrun
  refine ⟨?_, hinv.first, ?_⟩
  · rintro a b ⟨l, hl, rfl, -⟩ ⟨l', hl', rfl, -⟩
    rw [Option.some.inj (hl.symm.trans hl')]
  · intro i e k r s' hp hs hne
    obtain ⟨w, rfl, hcondition, rfl⟩ := hs.changed fun h => hne (by rw [h])
    have hcalls := hfollows i
    rw [hp] at hcalls
    exact permitted_write (hinv.found i) (hcalls.1 w rfl) hcondition

end Runs

/-! ## 3. Two runs -/

/-- Settings to run with. -/
def sampleSettings : Settings := ⟨[1], [2], 900, 600, true⟩

/-- What a `START` at revision 0 has reserved, and is still provisioning. -/
def sampleLease : Lease where
  sessionId := [3]
  state := .STARTING
  revision := 1
  generation := [1]
  capabilityDigest := [2]
  resolution := [4]
  boundAt := [5]
  idleExpiresAt := 900
  hardExpiresAt := 3600
  updatedAt := 0
  stoppedAt := none
  readyAt := none
  operationId := some [6]
  operationExpiresAt := some 600
  expiresAt := 90000
  inferenceEndpointId := none
  kmsEndpointId := none
  stsEndpointId := none
  analyticsCredentials := none
  gatewayCredentials := none

/-- The end of its operation. -/
def sampleFinalize : Work := .command (.finalize .UPSCALE [6] [3] 1) 1000

/-- The `START` once more. -/
def sampleStart : Work := .command (.start [3] 0 ⟨[4], [5], 3600000⟩) 1000

theorem finalize_comes : ∃ P k, Pool.Run (Table sampleSettings) (fun _ _ => True)
      (Work.start sampleSettings (fun _ : Unit => sampleFinalize) ⟨some sampleLease, []⟩) P ∧
    P.shared = ⟨some sampleLease, []⟩ ∧
    P.program () = .call (.write (.finalize .UPSCALE [3] 1 [6] 1000)) k := by
  have hmoves : Pool.Moves (Table sampleSettings) ⟨some sampleLease, []⟩
      [wasRead (some sampleLease)] ⟨some sampleLease, []⟩ := .cons (.read _) (.nil _)
  obtain ⟨P, hrun, hs, hp⟩ := comes_to sampleSettings sampleFinalize [wasRead (some sampleLease)]
    (.step (.refl _)) hmoves
  exact ⟨P, _, hrun, hs, hp⟩

/-- The reservation is refused, the lease is its own, and the first endpoint cannot be made. -/
def sampleRetry : CallHistory :=
  [⟨.verifyAmi, (.ok () : Except Fault Unit)⟩, ⟨.uuid, ([7] : Text)⟩,
    ⟨.write (.reserve ⟨[3], 0, [4], [5], 901, 3600, 1000, [7], 601⟩),
      (.error .conditional : Except Fault Unit)⟩,
    wasRead (some sampleLease),
    ⟨.ensureEndpoint "kms" [3] 600, (.error .other : Except Fault Text)⟩, ⟨.clock, (2000 : Int)⟩]

theorem start_comes : ∃ P k, Pool.Run (Table sampleSettings) (fun _ _ => True)
      (Work.start sampleSettings (fun _ : Unit => sampleStart) ⟨some sampleLease, []⟩) P ∧
    P.shared = ⟨some sampleLease, []⟩ ∧
    P.program () = .call (.write (.abandon [3] 1 [6] 2000)) k := by
  have hmoves : Pool.Moves (Table sampleSettings) ⟨some sampleLease, []⟩ sampleRetry
      ⟨some sampleLease, []⟩ :=
    .cons (.other _ _ rfl) <| .cons (.other _ _ rfl) <| .cons (.write (.refused _)) <|
      .cons (.read _) <| .cons (.other _ _ rfl) <| .cons (.other _ _ rfl) <| .nil _
  obtain ⟨P, hrun, hs, hp⟩ := comes_to sampleSettings sampleStart sampleRetry
    (.step <| .step <| .step <| .step <| .step <| .step <| .refl _) hmoves
  exact ⟨P, _, hrun, hs, hp⟩

/-- The change that `onlyCurrent` permits there. -/
theorem onlyCurrent_sample : ∃ P : Commands Unit,
    P.shared.lease = some sampleLease ∧ ∃ s' l', s'.lease = some l' ∧
      Table sampleSettings P.shared (.write (.finalize .UPSCALE [3] 1 [6] 1000)) (.ok ()) s' ∧
      Permitted sampleSettings sampleFinalize P.shared.lease l' := by
  obtain ⟨P, k, hrun, hs, hp⟩ := finalize_comes
  have htable : Table sampleSettings P.shared (.write (.finalize .UPSCALE [3] 1 [6] 1000)) (.ok ())
      ⟨_, _⟩ := .write (.applied (by rw [hs]; decide) _)
  obtain ⟨l', hl', hpermitted⟩ := (onlyCurrent hrun).2.2 () _ _ _ _ hp htable (by rw [hs]; decide)
  exact ⟨P, by rw [hs], _, l', hl', htable, hpermitted⟩

/-- Finishing an operation changes the lease and not its revision; and a `START` that expects
revision 0 gives up the reservation, which is at revision 1. -/
theorem sameRevision_stale :
    (∃ (P : Commands Unit) (k : _) (s' : Store),
      Pool.Run (Table sampleSettings) (fun _ _ => True)
        (Work.start sampleSettings (fun _ : Unit => sampleFinalize) ⟨some sampleLease, []⟩) P ∧
      P.program () = .call (.write (.finalize .UPSCALE [3] 1 [6] 1000)) k ∧
      Table sampleSettings P.shared (.write (.finalize .UPSCALE [3] 1 [6] 1000)) (.ok ()) s' ∧
      s'.lease ≠ P.shared.lease ∧
      s'.lease.map Lease.revision = P.shared.lease.map Lease.revision) ∧
    ∃ (P : Commands Unit) (k : _) (s' : Store),
      Pool.Run (Table sampleSettings) (fun _ _ => True)
        (Work.start sampleSettings (fun _ : Unit => sampleStart) ⟨some sampleLease, []⟩) P ∧
      P.program () = .call (.write (.abandon [3] 1 [6] 2000)) k ∧
      Table sampleSettings P.shared (.write (.abandon [3] 1 [6] 2000)) (.ok ()) s' ∧
      P.shared.lease.map Lease.revision = some 1 ∧ s'.lease ≠ P.shared.lease := by
  constructor
  · obtain ⟨P, k, hrun, hs, hp⟩ := finalize_comes
    refine ⟨P, k, ⟨_, _⟩, hrun, hp, .write (.applied ?_ _), ?_, ?_⟩ <;> rw [hs] <;> decide
  · obtain ⟨P, k, hrun, hs, hp⟩ := start_comes
    refine ⟨P, k, ⟨_, _⟩, hrun, hp, .write (.applied ?_ _), ?_, ?_⟩ <;> rw [hs] <;> decide

end Core
