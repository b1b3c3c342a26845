/-
# What the reaper can end

A lease whose deadlines have passed is the reaper's to end: `REAP` reads it, and begins a
scale-down.  Two guards keep it from that.  It takes a revision that is no `int` for a broken one,
and boto3 hands numbers on as `Decimal`; and `_begin_down` takes no lease that is `DRAINING`, so a
scale-down whose `FINALIZE` never comes stays where it is.

`reaped_iff` is that nothing else does: of the leases that commands can leave behind, a `REAP` that
comes when every deadline is over finds exactly the others terminal or begins their scale-down, and
one that is refused is refused by every later `REAP` too.
-/
import Archon.Core.Exclusive
import Archon.Resumption.Alone

namespace Core

open Ecma Resumption Resumption.Program

/-! ## 1. What is left behind -/

/-- What `_validate_command` has seen to. -/
def Work.Valid : Work → Prop
  | .command (.start sessionId _ _) _ => Runtime.isSessionId sessionId = true
  | _ => True

/-- A lease as the commands leave it. -/
structure Lease.Regular (l : Lease) : Prop where
  session : Runtime.isSessionId l.sessionId = true
  operation : l.operationId ≠ none → l.operationExpiresAt ≠ none

/-- The invariant of the runs. -/
def Regular (lease : Option Lease) : Prop := ∀ l, lease = some l → l.Regular

variable {S : Settings} {work : Work} {H : CallHistory} {l : Lease} {w : LeaseWrite} {s s' : Store}

/-- A write keeps the lease regular. -/
theorem regular_update (hl : l.Regular) (hvalid : work.Valid) (hcarries : Carries S work H w) :
    (w.update S l).Regular := by
  cases w with
  | reserve r =>
    obtain ⟨binding, now, rfl, -⟩ := hcarries
    exact ⟨hvalid, fun _ h => nomatch h⟩
  | attach => exact ⟨hl.session, hl.operation⟩
  | abandon => exact ⟨hl.session, fun h => absurd rfl h⟩
  | renew => exact ⟨hl.session, hl.operation⟩
  | drain => exact ⟨hl.session, fun _ h => nomatch h⟩
  | finalize decision =>
    cases decision with
    | UPSCALE => exact ⟨hl.session, fun h => absurd rfl h⟩
    | DOWNSCALE => exact ⟨hl.session, fun h => absurd rfl h⟩
  | ready => exact ⟨hl.session, hl.operation⟩
  | failed => exact ⟨hl.session, hl.operation⟩

theorem regular_write (hl : Regular s.lease) (hvalid : work.Valid) (hcarries : Carries S work H w)
    (hcondition : w.condition S s.lease = true) : Regular (w.result S s.lease) := by
  intro l' hl'
  cases hs : s.lease with
  | some l =>
    rw [hs] at hl'
    cases hl'
    exact regular_update (hl l hs) hvalid hcarries
  | none =>
    rw [hs] at hl' hcondition
    cases w with
    | reserve r =>
      obtain ⟨binding, now, rfl, -⟩ := hcarries
      cases hl'
      exact ⟨hvalid, fun _ h => nomatch h⟩
    | _ => cases hcondition

/-- What a run keeps. -/
def KeepsRegular {ι : Type} (s : Store) (_ : ι → CallHistory) : Prop := Regular s.lease

theorem regular_run {ι : Type} [DecidableEq ι] {work : ι → Work}
    {P : Commands ι} (hvalid : ∀ i, (work i).Valid)
    (hrun : Pool.Run (Table S) (fun _ _ => True) (Work.start S work .empty) P) :
    Regular P.shared.lease := by
  have hwhole : KeepsRegular P.shared P.history ∧
      ∀ i, Follows S (work i) (P.history i) (P.program i) := by
    refine Pool.invariant hrun (fun i => program_follows S (work i)) ?_ ?_
    · rintro l ⟨⟩
    · intro P₁ i e k r s hinv hp hallowed hs _
      by_cases hne : s = P₁.shared
      · exact hne ▸ hinv
      · obtain ⟨w, rfl, hcondition, rfl⟩ := hs.changed hne
        exact regular_write hinv (hvalid i) (hallowed w rfl) hcondition
  exact hwhole.1

/-! ## 2. One reap -/

/-- The table serves a command that runs alone: nothing fails that need not. -/
inductive Serves (S : Settings) : Store → (e : Call) → e.Reply → Store → Prop
  | read (s : Store) : Serves S s .lease (.ok s.lease) s
  | write {s : Store} {w : LeaseWrite} (h : w.condition S s.lease = true) :
      Serves S s (.write w) (.ok ()) ⟨w.result S s.lease, (w, s.lease) :: s.applied⟩
  | refused {s : Store} {w : LeaseWrite} (h : w.condition S s.lease = false) :
      Serves S s (.write w) (.error .conditional) s
  | other (s : Store) {e : Call} (r : e.Reply) (he : e.elsewhere = true) : Serves S s e r s

/-- Every deadline of the lease is over. -/
structure Lease.Overdue (now : Int) (l : Lease) : Prop where
  hard : l.hardExpiresAt ≤ epoch now
  idle : l.idleExpiresAt ≤ epoch now
  operation : ∀ t, l.operationExpiresAt = some t → t ≤ epoch now

/-- A reap begins a scale-down. -/
def ScalesDown (S : Settings) (s : Store) (now : Int) : Prop :=
  ∃ s' d, Runs (Serves S) s (reap S none now) s' (.ok d) ∧ d.decision = .DOWNSCALE ∧
    s'.lease.map Lease.state = some .DRAINING

/-- However a reap ends, it has begun no scale-down and left the lease as it was. -/
def Refuses (S : Settings) (s : Store) (watchdog : Option Watchdog) (now : Int) : Prop :=
  ∀ s' x, Runs (Serves S) s (reap S watchdog now) s' x →
    s'.lease = s.lease ∧ ∀ d, x = .ok d → d.decision ≠ .DOWNSCALE

/-- What keeps the reaper from a lease. -/
def Lease.Stuck (S : Settings) (l : Lease) : Prop := S.intNumbers = false ∨ l.state = .DRAINING

/-- What follows a read goes on with the lease. -/
theorem ensures_readLease {β : Type} {Q : Store → Except Fault β → Prop}
    {f : Option Lease → Handler β} (hf : Ensures (Serves S) Q s (f s.lease)) : Ensures (Serves S) Q s (readLease >>= f) := by
  intro r s₁ h
  cases h with
  | read => exact hf
  | other _ he => cases he

/-- A call to another service leaves the store as it is. -/
theorem Serves.of_other {e : Call} {r : e.Reply} (he : e.elsewhere = true)
    (h : Serves S s e r s') : s' = s := by
  cases h with
  | other => rfl
  | _ => cases he

/-- The end of a command that has begun no scale-down, of a store with this lease. -/
def NotBegun (lease : Option Lease) (s' : Store) (x : Except Fault Decision) : Prop :=
  s'.lease = lease ∧ ∀ d, x = .ok d → d.decision ≠ .DOWNSCALE

theorem notBegun_plain {value : DecisionKind} {code : String} (hvalue : value ≠ .DOWNSCALE) :
    NotBegun s.lease s (.ok (.plain value code)) := by
  refine ⟨rfl, ?_⟩
  rintro d ⟨⟩
  exact hvalue

/-- A scale-down of a lease that is `DRAINING` already is refused. -/
theorem beginDown_draining {now : Int} {expected : Nat} {code : String} (hs : s.lease = some l)
    (hstate : l.state = .DRAINING) :
    Ensures (Serves S) (NotBegun s.lease) s (beginDown S l now expected code) := by
  unfold beginDown
  split
  · exact notBegun_plain (by decide)
  · intro operationId s₁ h₁
    obtain rfl := h₁.of_other rfl
    intro r s₂ h₂
    cases h₂ with
    | write h => simp [LeaseWrite.condition, LeaseWrite.meets, hs, hstate] at h
    | refused h => exact notBegun_plain (by decide)
    | other _ he => cases he

/-- **A stuck lease is refused**, by every `REAP` and at any time. -/
theorem reap_stuck (watchdog : Option Watchdog) (now : Int) (hs : s.lease = some l)
    (hterminal : l.state.terminal = false) (hstuck : l.Stuck S) : Refuses S s watchdog now := by
  suffices h : Ensures (Serves S) (NotBegun s.lease) s (reap S watchdog now) from
    fun s' x hrun => runs_of_ensures h hrun
  have hfilter : s.lease.filter (fun l => !l.state.terminal) = some l := by
    simp [hs, Option.filter, hterminal]
  unfold reap
  refine ensures_readLease ?_
  rw [hfilter]
  show Ensures (Serves S) (NotBegun s.lease) s (reapActive S watchdog now l)
  unfold reapActive
  split
  · exact notBegun_plain (by decide)
  · split
    · exact notBegun_plain (by decide)
    · rename_i hint
      split
      · exact notBegun_plain (by decide)
      · exact beginDown_draining hs (hstuck.resolve_left (by simpa using hint))

/-- The condition of a scale-down holds of a lease whose operation, if it has one, is over. -/
theorem drain_meets {now : Int} (hl : l.Regular) (hover : l.Overdue now)
    (hterminal : l.state.terminal = false) (hstate : l.state ≠ .DRAINING) (operationId : Text)
    (x y : Int) :
    (LeaseWrite.drain l.sessionId l.revision operationId (epoch now) x y).meets S l = true := by
  have hactive : (l.state = .STARTING ∨ l.state = .READY) ∨ l.state = .FAILED := by
    cases h : l.state with
    | STARTING => simp
    | READY => simp
    | FAILED => simp
    | DRAINING => exact absurd h hstate
    | STOPPED => simp [h, LeaseState.terminal] at hterminal
    | EXPIRED => simp [h, LeaseState.terminal] at hterminal
  have hoperation : l.operationId = none ∨ l.operationExpiresAt.any (· ≤ epoch now) = true := by
    by_cases ho : l.operationId = none
    · exact Or.inl ho
    · obtain ⟨t, ht⟩ := Option.ne_none_iff_exists'.mp (hl.operation ho)
      exact Or.inr (by simp [ht, hover.operation t ht])
  simp only [LeaseWrite.meets, Bool.and_eq_true, Bool.or_eq_true, decide_eq_true_eq,
    Option.isNone_iff_eq_none, and_self, true_and]
  exact ⟨hactive, hoperation⟩

/-- The write of a scale-down, with the operation id it was given. -/
def drainOf (S : Settings) (l : Lease) (now : Int) (operationId : Text) : LeaseWrite :=
  .drain l.sessionId l.revision operationId (epoch now) (epoch now + S.operationSeconds) now

theorem beginDown_runs {now : Int} {code : String} (hsession : Runtime.isSessionId l.sessionId = true)
    (operationId : Text) (hcondition : (drainOf S l now operationId).condition S s.lease = true) :
    Runs (Serves S) s (beginDown S l now l.revision code)
      ⟨(drainOf S l now operationId).result S s.lease,
        (drainOf S l now operationId, s.lease) :: s.applied⟩
      (.ok (.operation .DOWNSCALE operationId l.sessionId (l.revision + 1) code)) := by
  unfold beginDown
  rw [if_neg (by simp [hsession])]
  exact .call (.other s (e := .uuid) operationId rfl) (.call (.write hcondition) (.done _ _))

theorem reap_runs {now : Int} {s' : Store} {x : Except Fault Decision} (hs : s.lease = some l)
    (hterminal : l.state.terminal = false)
    (hrun : Runs (Serves S) s (reapActive S none now l) s' x) :
    Runs (Serves S) s (reap S none now) s' x := by
  have hfilter : s.lease.filter (fun l => !l.state.terminal) = some l := by
    simp [hs, Option.filter, hterminal]
  refine .call (.read s) ?_
  dsimp only [Program.bind, Program.lift]
  rw [hfilter]
  exact hrun

/-- **Any other is scaled down** once its deadlines are over. -/
theorem reap_overdue {now : Int} (hs : s.lease = some l) (hterminal : l.state.terminal = false)
    (hl : l.Regular) (hover : l.Overdue now) (hfree : ¬ l.Stuck S) : ScalesDown S s now := by
  obtain ⟨hint, hstate⟩ := not_or.mp hfree
  have hcondition : (drainOf S l now [0]).condition S s.lease = true := by
    rw [hs]
    exact drain_meets (S := S) hl hover hterminal hstate [0] (epoch now + S.operationSeconds) now
  have hactive : reapActive S none now l = beginDown S l now l.revision "LEASE_EXPIRED" := by
    unfold reapActive
    rw [if_neg (by simp), if_neg (by simpa using hint), if_neg (by simp [leaseExpired, hover.hard])]
  refine ⟨_, _, reap_runs hs hterminal (hactive ▸ beginDown_runs hl.session [0] hcondition), rfl, ?_⟩
  simp [hs, drainOf, LeaseWrite.result, LeaseWrite.update]

/-! ## 3. Which leases are ended -/

/-- What the reaper is for: it finds the lease over, or begins to end it. -/
def Reaped (S : Settings) (s : Store) (now : Int) : Prop :=
  (∀ l, s.lease = some l → l.state.terminal = true) ∨ ScalesDown S s now

/-- **What the reaper can end.**  Of the leases that are left behind, a `REAP` that comes when every
deadline is over ends those that are not stuck; those that are stuck, no `REAP` ever ends. -/
theorem reaped_iff {ι : Type} [DecidableEq ι] {S : Settings} {work : ι → Work}
    {P : Commands ι} {now : Int} (hvalid : ∀ i, (work i).Valid)
    (hrun : Pool.Run (Table S) (fun _ _ => True) (Work.start S work .empty) P)
    (hover : ∀ l, P.shared.lease = some l → l.Overdue now) :
    (Reaped S P.shared now ↔
      ∀ l, P.shared.lease = some l → l.state.terminal = true ∨ ¬ l.Stuck S) ∧
    ((∃ l, P.shared.lease = some l ∧ l.state.terminal = false ∧ l.Stuck S) →
      ∀ watchdog later, Refuses S P.shared watchdog later) := by
  have hregular := regular_run hvalid hrun
  constructor
  · constructor
    · rintro hreaped l hl
      rw [or_iff_not_imp_left]
      intro hterminal hstuck
      rcases hreaped with hover | ⟨s', d, hreap, hdown, -⟩
      · exact hterminal (hover l hl)
      · have hrefuses := reap_stuck (S := S) none now hl (by simpa using hterminal) hstuck
        exact (hrefuses s' (.ok d) hreap).2 d rfl hdown
    · intro h
      rw [Reaped, or_iff_not_imp_left]
      intro hactive
      obtain ⟨l, hactive⟩ := not_forall.mp hactive
      obtain ⟨hl, hterminal⟩ := Classical.not_imp.mp hactive
      exact reap_overdue hl (by simpa using hterminal) (hregular l hl) (hover l hl)
        ((h l hl).resolve_left hterminal)
  · rintro ⟨l, hl, hterminal, hstuck⟩ watchdog later
    exact reap_stuck watchdog later hl hterminal hstuck

/-! ## 4. A start that is never heard of again -/

/-- Settings with the client library that there is. -/
def decimalSettings : Settings := ⟨[1], [2], 900, 600, false⟩

/-- A session id. -/
def sampleSession : Text := [0x72, 0x73, 0x5F] ++ List.replicate 43 0x41

/-- A `START` of a session. -/
def sampleFirst : Work := .command (.start sampleSession 0 ⟨[4], [5], 3600000⟩) 1000

/-- Its reservation. -/
def sampleReservation : LeaseWrite :=
  .reserve ⟨sampleSession, 0, [4], [5], 901, 3600, 1000, [7], 601⟩

/-- The store with it. -/
def sampleReserved : Store :=
  ⟨sampleReservation.result decimalSettings none, [(sampleReservation, none)]⟩

/-- Its calls, up to the reservation. -/
def sampleReserving : CallHistory :=
  [⟨.verifyAmi, (.ok () : Except Fault Unit)⟩, ⟨.uuid, ([7] : Text)⟩,
    ⟨.write sampleReservation, (.ok () : Except Fault Unit)⟩]

theorem reserved_comes : ∃ P, Pool.Run (Table decimalSettings) (fun _ _ => True)
      (Work.start decimalSettings (fun _ : Unit => sampleFirst) .empty) P ∧
    P.shared = sampleReserved := by
  have hmoves : Pool.Moves (Table decimalSettings) .empty sampleReserving sampleReserved :=
    .cons (.other _ _ rfl) <| .cons (.other _ _ rfl) <| .cons (.write (.applied rfl _)) <| .nil _
  obtain ⟨P, hrun, hs, -⟩ := comes_to decimalSettings sampleFirst sampleReserving
    (.step <| .step <| .step <| .refl _) hmoves
  exact ⟨P, hrun, hs⟩

theorem sampleReserved_overdue {l : Lease} (hl : sampleReserved.lease = some l) :
    l.Overdue 3600000 := by
  cases hl
  refine ⟨by decide, by decide, ?_⟩
  rintro t ⟨⟩
  decide

/-- What `reaped_iff` says of it. -/
theorem reaped_iff_reserved : ∃ P : Commands Unit,
    P.shared = sampleReserved ∧ ¬ Reaped decimalSettings P.shared 3600000 := by
  obtain ⟨P, hrun, hs⟩ := reserved_comes
  refine ⟨P, hs, fun hreaped => ?_⟩
  have hvalid : Unit → sampleFirst.Valid := fun _ =>
    show Runtime.isSessionId sampleSession = true by decide +kernel
  have hover : ∀ l, P.shared.lease = some l → l.Overdue 3600000 :=
    fun l hl => sampleReserved_overdue (hs ▸ hl)
  have h := (reaped_iff hvalid hrun hover).1.mp hreaped
  rcases h _ (by rw [hs]; rfl) with hterminal | hfree
  · cases hterminal
  · exact hfree (Or.inl rfl)

/-- A `START` reserves the lease and is never heard of again: all deadlines pass, and every `REAP`
refuses the lease. -/
theorem not_reaped_reserved : ∃ (P : Commands Unit) (l : Lease),
    Pool.Run (Table decimalSettings) (fun _ _ => True)
      (Work.start decimalSettings (fun _ : Unit => sampleFirst) .empty) P ∧
    P.shared.lease = some l ∧ l.state = .STARTING ∧ l.Overdue 3600000 ∧
    ¬ Reaped decimalSettings P.shared 3600000 ∧
    ∀ watchdog later, Refuses decimalSettings P.shared watchdog later := by
  obtain ⟨P, hrun, hs⟩ := reserved_comes
  have hstuck : ∀ watchdog later, Refuses decimalSettings sampleReserved watchdog later :=
    fun watchdog later => reap_stuck watchdog later rfl rfl (Or.inl rfl)
  refine ⟨P, _, hrun, by rw [hs]; rfl, rfl, sampleReserved_overdue rfl, ?_, by rwa [hs]⟩
  rw [hs]
  rintro (hterminal | ⟨s', d, hreap, hdown, -⟩)
  · cases hterminal _ rfl
  · exact (hstuck none 3600000 s' (.ok d) hreap).2 d rfl hdown

end Core
