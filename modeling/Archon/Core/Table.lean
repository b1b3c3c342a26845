/-
# The commands at one table

Any number of commands over the one lease.  `Store` is the item with the list of the writes that
were applied to it, which nothing reads: it is there to say who has changed the lease.  `Table` is
how the calls are answered: a read tells the lease as it is or fails, a write is applied or not as
a conditional write is, and the calls to other services may answer anything.

Two facts carry what is proved of the runs.  A handler makes no write but those that belong to its
command (`Carries`, `program_follows`), and a lease only ever becomes a `Later` one, which has a
higher revision or the same binding and idle deadline (`Table.later`).
-/
import Archon.Core.Commands

namespace Core

open Ecma Resumption Resumption.Program

/-! ## 1. The table -/

/-- The lease, and the writes that made it with what each was applied to, the last one first. -/
structure Store where
  lease : Option Lease
  applied : List (LeaseWrite × Option Lease)

/-- Nothing has happened yet. -/
def Store.empty : Store := ⟨none, []⟩

/-- A write that is applied, with the condition it was applied under. -/
def LeaseWrite.guarded (S : Settings) (w : LeaseWrite) : Guarded Store where
  condition s := w.condition S s.lease
  result s := ⟨w.result S s.lease, (w, s.lease) :: s.applied⟩

/-- Calls to other services than the table. -/
def Call.elsewhere : Call → Bool
  | lease | write _ => false
  | _ => true

/-- What a call is answered, and what becomes of the store. -/
inductive Table (S : Settings) : Store → (e : Call) → e.Reply → Store → Prop
  | read (s : Store) : Table S s .lease (.ok s.lease) s
  | unread (s : Store) (e : Fault) : Table S s .lease (.error e) s
  | write {s s' : Store} {w : LeaseWrite} {r : Except Fault Unit}
      (h : (w.guarded S).Outcome s r s') : Table S s (.write w) r s'
  | other (s : Store) {e : Call} (r : e.Reply) (he : e.elsewhere = true) : Table S s e r s

/-- The lease was read, and this is what was found. -/
def wasRead (found : Option Lease) : Event Call Call.Reply :=
  ⟨.lease, (.ok found : Except Fault (Option Lease))⟩

variable {S : Settings} {s s' : Store} {l l' : Lease} {w : LeaseWrite} {e : Call} {r : e.Reply}

/-- A step that changes the store has applied a write. -/
theorem Table.changed (h : Table S s e r s') (hne : s' ≠ s) :
    ∃ w, e = .write w ∧ w.condition S s.lease = true ∧
      s' = ⟨w.result S s.lease, (w, s.lease) :: s.applied⟩ := by
  cases h with
  | read => exact absurd rfl hne
  | unread => exact absurd rfl hne
  | other => exact absurd rfl hne
  | @write _ w _ hw =>
    obtain ⟨hc, hs⟩ := hw.changed hne
    exact ⟨w, rfl, hc, hs⟩

/-- What a read tells is the lease. -/
theorem Table.of_read {r : Except Fault (Option Lease)} (h : Table S s .lease r s') :
    s' = s ∧ ∀ found, r = .ok found → found = s.lease := by
  cases h with
  | read => exact ⟨rfl, fun found hf => (Except.ok.inj hf).symm⟩
  | unread e => exact ⟨rfl, fun found hf => nomatch hf⟩
  | other _ he => cases he

/-! ## 2. Later leases -/

/-- What a session is given with the lease and keeps with it. -/
def Lease.binding (l : Lease) : Text × Text × Text × Text × Text × Int :=
  (l.sessionId, l.generation, l.capabilityDigest, l.resolution, l.boundAt, l.hardExpiresAt)

/-- The same lease of the same session, whatever its state and its operation. -/
structure Lease.Same (l l' : Lease) : Prop where
  revision : l'.revision = l.revision
  binding : l'.binding = l.binding
  idle : l'.idleExpiresAt = l.idleExpiresAt

/-- The same session's lease, one revision on. -/
structure Lease.Raised (l l' : Lease) : Prop where
  revision : l'.revision = l.revision + 1
  binding : l'.binding = l.binding

/-- What one lease may have become. -/
def Lease.Later (l l' : Lease) : Prop := l.revision < l'.revision ∨ l.Same l'

namespace Lease

theorem Same.refl (l : Lease) : l.Same l := ⟨rfl, rfl, rfl⟩

theorem Same.session (h : l.Same l') : l'.sessionId = l.sessionId := congrArg Prod.fst h.binding

theorem Same.generation (h : l.Same l') : l'.generation = l.generation :=
  congrArg (fun b => b.2.1) h.binding

theorem Same.digest (h : l.Same l') : l'.capabilityDigest = l.capabilityDigest :=
  congrArg (fun b => b.2.2.1) h.binding

theorem Later.refl (l : Lease) : l.Later l := Or.inr (.refl l)

theorem Later.trans {l'' : Lease} (h : l.Later l') (h' : l'.Later l'') : l.Later l'' := by
  rcases h with h | h
  · rcases h' with h' | h'
    · exact Or.inl (h.trans h')
    · exact Or.inl (h'.revision ▸ h)
  · rcases h' with h' | h'
    · exact Or.inl (h.revision ▸ h')
    · exact Or.inr ⟨h'.revision.trans h.revision, h'.binding.trans h.binding, h'.idle.trans h.idle⟩

/-- The revision tells one binding from another. -/
theorem Later.same (h : l.Later l') (hrevision : l'.revision = l.revision) : l.Same l' := by
  rcases h with h | h
  · omega
  · exact h

end Lease

/-- What a write makes of a lease that meets its condition is a later one. -/
theorem LeaseWrite.later (h : w.meets S l = true) : l.Later (w.update S l) := by
  cases w with
  | reserve r =>
    have hrevision : l.revision = r.expected := by simp [meets] at h; exact h.1.2
    exact Or.inl (by simp [update, reserved, hrevision])
  | renew r =>
    have hrevision : l.revision = r.expected := by simp [meets] at h; grind
    exact Or.inl (by simp [update, hrevision])
  | drain sessionId expected =>
    have hrevision : l.revision = expected := by simp [meets] at h; grind
    exact Or.inl (by simp [update, hrevision])
  | attach => exact Or.inr ⟨rfl, rfl, rfl⟩
  | abandon => exact Or.inr ⟨rfl, rfl, rfl⟩
  | finalize decision =>
    cases decision with
    | UPSCALE => exact Or.inr ⟨rfl, rfl, rfl⟩
    | DOWNSCALE => exact Or.inr ⟨rfl, rfl, rfl⟩
  | ready => exact Or.inr ⟨rfl, rfl, rfl⟩
  | failed => exact Or.inr ⟨rfl, rfl, rfl⟩

/-- **A lease is never lost**, and only becomes a later one. -/
theorem Table.later (h : Table S s e r s') (hl : s.lease = some l) :
    ∃ l', s'.lease = some l' ∧ l.Later l' := by
  cases h with
  | read => exact ⟨l, hl, .refl l⟩
  | unread => exact ⟨l, hl, .refl l⟩
  | other => exact ⟨l, hl, .refl l⟩
  | write hw =>
    cases hw with
    | refused => exact ⟨l, hl, .refl l⟩
    | applied hc _ =>
      simp only [LeaseWrite.guarded, hl, LeaseWrite.condition] at hc ⊢
      exact ⟨_, rfl, LeaseWrite.later hc⟩

/-! ## 3. The writes of a command -/

/-- The calls made so far tell that the lease was this one. -/
def Found (H : CallHistory) (l : Lease) : Prop := wasRead (some l) ∈ H

/-- The write is one that the work may make after its calls. -/
def Carries (S : Settings) (work : Work) (H : CallHistory) : LeaseWrite → Prop
  | .reserve r => ∃ binding now, work = .command (.start r.sessionId r.expected binding) now ∧
      r.resolution = binding.resolution ∧ r.boundAt = binding.boundAt ∧
      r.hard = epoch binding.leaseExpiresAt
  | .attach sessionId revision _ _ _ | .abandon sessionId revision _ _ => ∃ expected binding now,
      work = .command (.start sessionId expected binding) now ∧ revision = expected + 1
  | .renew r => ∃ binding now, work = .command (.activity r.sessionId r.expected binding) now ∧
      r.hard = epoch binding.leaseExpiresAt ∧ r.now = epoch now
  | .drain sessionId expected _ now _ _ =>
    (∃ binding t l, work = .command (.stop sessionId expected binding) t ∧ Found H l ∧
      l.sessionId = sessionId ∧ l.generation = S.generation ∧
      l.capabilityDigest = S.capabilityDigest ∧ l.revision = expected) ∨
    ∃ watchdog t l, work = .command (.reap watchdog) t ∧ Found H l ∧ l.sessionId = sessionId ∧
      l.revision = expected ∧ (∀ w ∈ watchdog, staleWatchdog w t l = false) ∧ now = epoch t
  | .finalize decision sessionId revision operationId _ => ∃ now,
      work = .command (.finalize decision operationId sessionId revision) now
  | .ready sessionId now => work = .ready sessionId now
  | .failed sessionId now => work = .failed sessionId now

/-- The calls a work may make: of the writes, its own. -/
def Allowed (S : Settings) (work : Work) (H : CallHistory) (e : Call) : Prop :=
  ∀ w, e = .write w → Carries S work H w

/-- Is the call a write? -/
def isWrite : Call → Bool
  | .write _ => true
  | _ => false

/-- Every call of the program is allowed. -/
abbrev Follows (S : Settings) (work : Work) (H : CallHistory) {α : Type} (p : Handler α) : Prop :=
  Obeys (Allowed S work) (fun _ _ => True) H p

section Follow

variable {work : Work} {H : CallHistory} {α β : Type}

theorem allowed_write {w : LeaseWrite} (h : Carries S work H w) : Allowed S work H (.write w) := by
  intro w' hw
  cases hw
  exact h

theorem allowed_other {e : Call} (h : isWrite e = false) : Allowed S work H e := by
  intro w hw
  subst hw
  cases h

theorem Follows.bind {p : Handler α} {f : α → Handler β} (hp : Follows S work H p)
    (hf : ∀ H' a, Follows S work H' (f a)) : Follows S work H (p >>= f) := by
  rw [Follows, obeys_bind]
  refine hp.mono (fun _ _ h => h) fun H' r _ => ?_
  cases r with
  | error e => trivial
  | ok a => exact hf H' a

theorem Follows.send {e : Call} {f : e.Reply → Handler β} (he : Allowed S work H e)
    (hf : ∀ r, Follows S work (H ++ [⟨e, r⟩]) (f r)) : Follows S work H (send e >>= f) :=
  obeys_perform he hf

theorem Follows.lift {r : Except Fault α} {f : α → Handler β}
    (hf : ∀ a, r = .ok a → Follows S work H (f a)) : Follows S work H (lift r >>= f) :=
  obeys_lift hf fun _ => trivial

theorem Follows.single {e : Call} (he : Allowed S work H e) : Follows S work H (Core.send e) :=
  ⟨he, fun _ => trivial⟩

theorem Follows.attempt {p : Handler α} (hp : Follows S work H p) : Follows S work H p.attempt :=
  obeys_attempt.mpr hp

/-- What follows a read knows what was found. -/
theorem Follows.read {f : Option Lease → Handler β}
    (hf : ∀ found, Follows S work (H ++ [wasRead found]) (f found)) :
    Follows S work H (readLease >>= f) := by
  refine ⟨allowed_other rfl, fun r => ?_⟩
  cases r with
  | error e => trivial
  | ok found => exact hf found

/-! ### Starting -/

variable {sessionId operationId : Text} {expected : Nat} {binding : CoreBinding} {now : Int}

/-- The work is a `START` of this session at this revision. -/
def Starts (work : Work) (sessionId : Text) (expected : Nat) : Prop :=
  ∃ binding now, work = .command (.start sessionId expected binding) now

theorem abandonAttempts_follows (hwork : Starts work sessionId expected) :
    ∀ n H, Follows S work H (abandonAttempts sessionId (expected + 1) operationId n) := by
  obtain ⟨binding, now, hwork⟩ := hwork
  intro n
  induction n with
  | zero => intro H; trivial
  | succ n ih =>
    intro H
    unfold abandonAttempts
    refine .send (allowed_other rfl) fun t => .send (allowed_write ⟨expected, binding, now, hwork, rfl⟩) fun r => ?_
    split
    · trivial
    · trivial
    · exact ih _
    · trivial

theorem abandonStart_follows (hwork : Starts work sessionId expected) (endpointIds : List Text) :
    Follows S work H (abandonStart sessionId (expected + 1) operationId endpointIds) :=
  (abandonAttempts_follows hwork 3 H).bind fun _ _ => .send (allowed_other rfl) fun _ => trivial

theorem abandonAndRaise_follows (hwork : Starts work sessionId expected) (endpointIds : List Text)
    (e : Fault) :
    Follows S work H (abandonAndRaise sessionId (expected + 1) operationId endpointIds e) :=
  (abandonStart_follows hwork endpointIds).bind fun _ _ => trivial

theorem attachProvision_follows (hwork : Starts work sessionId expected) (p : Provision) :
    Follows S work H (attachProvision sessionId (expected + 1) operationId p now) := by
  unfold attachProvision
  obtain ⟨binding, t, h⟩ := id hwork
  refine .send (allowed_write ⟨expected, binding, t, h, rfl⟩) fun r => ?_
  split
  · trivial
  · refine .read fun found => ?_
    split
    · trivial
    · exact (abandonStart_follows hwork _).bind fun _ _ => trivial
  · trivial

theorem provision_follows (hwork : Starts work sessionId expected) (operationExpiresAt : Int) :
    Follows S work H (provision sessionId (expected + 1) operationId operationExpiresAt now) := by
  unfold provision
  refine .send (allowed_other rfl) fun r => ?_
  split
  · exact abandonAndRaise_follows hwork _ _
  refine .send (allowed_other rfl) fun r => ?_
  split
  · exact abandonAndRaise_follows hwork _ _
  refine .send (allowed_other rfl) fun r => ?_
  split
  · exact abandonAndRaise_follows hwork _ _
  refine .send (allowed_other rfl) fun r => ?_
  split
  · exact abandonAndRaise_follows hwork _ _
  refine .send (allowed_other rfl) fun r => ?_
  split
  · exact abandonAndRaise_follows hwork _ _
  refine (attachProvision_follows hwork _).attempt.bind fun H' r => ?_
  split
  · trivial
  · exact abandonAndRaise_follows hwork _ _

theorem start_follows :
    Follows S (.command (.start sessionId expected binding) now) H
      (start S sessionId expected binding now) := by
  have hwork : Starts (.command (.start sessionId expected binding) now) sessionId expected :=
    ⟨binding, now, rfl⟩
  unfold start
  refine .send (allowed_other rfl) fun r => .lift fun _ _ => .send (allowed_other rfl) fun operationId => ?_
  refine .send (allowed_write ⟨binding, now, rfl, rfl, rfl, rfl⟩) fun r => ?_
  split
  · exact provision_follows hwork _
  · refine .read fun found => ?_
    split
    · trivial
    · split
      · exact provision_follows hwork _
      · split
        · trivial
        · trivial
  · trivial

/-! ### The others -/

theorem rotate_follows {mint : Handler (Except Fault Credential)}
    (hmint : ∀ H, Follows S work H mint) (previous : Credential) :
    Follows S work H (rotate previous now mint) := by
  unfold rotate
  split
  · exact (hmint H).bind fun _ _ => .lift fun _ _ => trivial
  · trivial

theorem activity_follows :
    Follows S (.command (.activity sessionId expected binding) now) H
      (activity S sessionId expected binding now) := by
  unfold activity
  refine .read fun found => ?_
  split
  · trivial
  · split
    · trivial
    · split
      · split
        · trivial
        · refine .bind (rotate_follows (fun H => .single ?_) _) fun _ analytics => ?_
          · exact allowed_other rfl
          refine .bind (rotate_follows (fun H => .single ?_) _) fun _ gateway => ?_
          · exact allowed_other rfl
          refine .send (allowed_write ⟨binding, now, rfl, rfl, rfl⟩) fun r => ?_
          split
          · trivial
          · exact .read fun found => trivial
          · trivial
      · trivial

theorem beginDown_follows {current : Lease} {code : String} (hfound : Found H current)
    (hcarry : ∀ H' operationId x y, Found H' current →
      Carries S work H' (.drain current.sessionId expected operationId (epoch now) x y)) :
    Follows S work H (beginDown S current now expected code) := by
  unfold beginDown
  split
  · trivial
  · refine .send (allowed_other rfl) fun operationId => ?_
    refine .send (allowed_write (hcarry _ _ _ _ (List.mem_append_left _ hfound))) fun r => ?_
    split <;> trivial

theorem stop_follows :
    Follows S (.command (.stop sessionId expected binding) now) H (stop S sessionId expected now) := by
  unfold stop
  refine .read fun found => ?_
  split
  · trivial
  · rename_i current
    split
    · trivial
    · rename_i hbinding
      split
      · trivial
      · split
        · trivial
        · rename_i hrevision
          simp only [ne_eq, Bool.or_eq_true, decide_eq_true_eq, not_or, not_not] at hbinding hrevision
          obtain ⟨⟨rfl, hgeneration⟩, hdigest⟩ := hbinding
          exact beginDown_follows List.mem_concat_self
            fun H' operationId x y hfound =>
              Or.inl ⟨binding, now, current, rfl, hfound, rfl, hgeneration, hdigest, hrevision⟩

theorem reapActive_follows {watchdog : Option Watchdog} {current : Lease}
    (hfound : Found H current) :
    Follows S (.command (.reap watchdog) now) H (reapActive S watchdog now current) := by
  unfold reapActive
  split
  · trivial
  · rename_i hwatchdog
    split
    · trivial
    · split
      · trivial
      · refine beginDown_follows hfound fun H' operationId x y hfound' =>
          Or.inr ⟨watchdog, now, current, rfl, hfound', rfl, rfl, fun w hw => ?_, rfl⟩
        simpa [Option.mem_def.mp hw] using hwatchdog

theorem reap_follows {watchdog : Option Watchdog} :
    Follows S (.command (.reap watchdog) now) H (reap S watchdog now) := by
  unfold reap
  refine .read fun found => ?_
  split
  · exact .send (allowed_other rfl) fun _ => .lift fun _ _ => trivial
  · rename_i current hcurrent
    obtain ⟨rfl, -⟩ := Option.filter_eq_some_iff.mp hcurrent
    exact reapActive_follows List.mem_concat_self

theorem deleteEndpoints_follows : ∀ ids H, Follows S work H (deleteEndpoints ids) := by
  intro ids
  induction ids with
  | nil => intro H; trivial
  | cons id ids ih =>
    intro H
    exact .send (allowed_other rfl) fun _ => .lift fun _ _ => ih _

theorem finalize_follows {decision : FinalizeDecision} :
    Follows S (.command (.finalize decision operationId sessionId expected) now) H
      (finalize decision operationId sessionId expected now) := by
  unfold finalize
  refine .read fun before => ?_
  refine .send (allowed_write ⟨now, rfl⟩) fun r => ?_
  split
  · exact .read fun found => trivial
  · trivial
  · cases decision with
    | UPSCALE =>
      refine .read fun found => ?_
      split <;> trivial
    | DOWNSCALE =>
      refine (deleteEndpoints_follows _ _).bind fun _ _ => ?_
      refine .send (allowed_other rfl) fun _ => .lift fun _ _ => ?_
      exact .send (allowed_other rfl) fun _ => .lift fun _ _ => trivial

/-- **A handler makes no write but its own.** -/
theorem program_follows (S : Settings) (work : Work) : Follows S work [] (work.program S) := by
  cases work with
  | command c now =>
    refine Follows.bind ?_ fun _ _ => trivial
    have hdispatch : Follows S (.command c now) [] (dispatch S c now) := by
      cases c with
      | start => exact start_follows
      | activity => exact activity_follows
      | stop => exact stop_follows
      | reap => exact reap_follows
      | finalize => exact finalize_follows
    refine hdispatch.attempt.bind fun H' r => ?_
    split <;> trivial
  | ready sessionId now => exact .send (allowed_write rfl) fun _ => .lift fun _ _ => trivial
  | failed sessionId now => exact .send (allowed_write rfl) fun _ => .lift fun _ _ => trivial

end Follow

end Core
