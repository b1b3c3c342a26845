/-
# The execution journal

`InMemoryExecutionJournal` is two maps: the record of an execution under its idempotency key, and
the key an approval was spent on.  A record carries a fencing token and a lease; a worker whose
lease ran out loses the record to the next claim, which takes the following token.

The clock is a parameter: nothing below depends on readings that go forward, or that are ordered
at all.  Each operation is first described by what it can do to ONE record and to the approvals
(`claim_cases`, `resume_cases`, `complete_cases`), and every invariant is read off those three.
Two invariants carry the rest: `Linked` ties the two maps together, and `Sealed` says that a
record has a receipt exactly when its status is `COMPLETED`.
-/
import Archon.Remediation.Integrity
import Archon.Resumption.Machine
import Mathlib.Logic.Function.Basic

namespace Remediation

open Ecma Ecma.Value

/-! ## 1. The contract -/

/-- `ExecutionClaim`. -/
inductive ExecutionClaim where
  | CLAIMED (fencingToken : Nat)
  | RECONCILE (fencingToken : Nat)
  | COMPLETED (receipt : Value)
  | IN_PROGRESS
  | APPROVAL_ALREADY_USED

/-- The argument of `claim`. -/
structure ClaimInput where
  approvalId : Text
  approvalDecisionDigest : Text
  idempotencyKey : Text
deriving DecidableEq

/-- `ExecutionJournalLease`. -/
structure Lease where
  idempotencyKey : Text
  fencingToken : Nat
deriving DecidableEq

/-- A call on a journal, with the clock reading it is made at. -/
inductive JournalCall (τ : Type) where
  | claim (now : τ) (input : ClaimInput)
  | resume (now : τ) (lease : Lease)
  | complete (now : τ) (lease : Lease) (receipt : Value)

/-- What the call answers. -/
inductive JournalAnswer where
  | claim (result : ExecutionClaim)
  | resume (result : Bool)
  | complete (result : Run Unit)

/-! ## 2. The in-memory journal -/

/-- The status of a record. -/
inductive ExecutionStatus where
  | IN_PROGRESS
  | RECONCILING
  | COMPLETED
deriving DecidableEq

/-- A record of `byIdempotencyKey`.  Its receipt is `undefined` until the execution completes. -/
structure ExecutionRecord (τ : Type) where
  approvalId : Text
  approvalDecisionDigest : Text
  fencingToken : Nat
  leaseExpiresAt : τ
  status : ExecutionStatus
  receipt : Value

/-- The two maps. -/
structure InMemoryExecutionJournal (τ : Type) where
  byIdempotencyKey : Text → Option (ExecutionRecord τ)
  approvalToIdempotencyKey : Text → Option Text

namespace InMemoryExecutionJournal

variable {τ : Type} [Add τ] [LT τ] [DecidableLT τ]

/-- A new journal. -/
def empty : InMemoryExecutionJournal τ := ⟨fun _ => none, fun _ => none⟩

/-- `byIdempotencyKey` with the record of one key replaced. -/
def withRecord (J : InMemoryExecutionJournal τ) (key : Text) (e : ExecutionRecord τ) :
    InMemoryExecutionJournal τ :=
  { J with byIdempotencyKey := Function.update J.byIdempotencyKey key (some e) }

/-- `claim`. -/
def claim (leaseMilliseconds : τ) (J : InMemoryExecutionJournal τ) (now : τ) (input : ClaimInput) :
    InMemoryExecutionJournal τ × ExecutionClaim :=
  match J.byIdempotencyKey input.idempotencyKey with
  | some existing =>
    if existing.approvalId ≠ input.approvalId ∨
        existing.approvalDecisionDigest ≠ input.approvalDecisionDigest then
      (J, .APPROVAL_ALREADY_USED)
    else if existing.receipt.truthy then (J, .COMPLETED existing.receipt)
    else if now < existing.leaseExpiresAt then (J, .IN_PROGRESS)
    else
      (J.withRecord input.idempotencyKey
        { existing with
          fencingToken := existing.fencingToken + 1
          leaseExpiresAt := now + leaseMilliseconds
          status := .RECONCILING },
        .RECONCILE (existing.fencingToken + 1))
  | none =>
    match J.approvalToIdempotencyKey input.approvalId with
    | some _ => (J, .APPROVAL_ALREADY_USED)
    | none =>
      ({ J.withRecord input.idempotencyKey
          { approvalId := input.approvalId
            approvalDecisionDigest := input.approvalDecisionDigest
            fencingToken := 1
            leaseExpiresAt := now + leaseMilliseconds
            status := .IN_PROGRESS
            receipt := .undefined } with
          approvalToIdempotencyKey :=
            Function.update J.approvalToIdempotencyKey input.approvalId
              (some input.idempotencyKey) },
        .CLAIMED 1)

/-- `complete`. -/
def complete (J : InMemoryExecutionJournal τ) (lease : Lease) (receipt : Value) :
    InMemoryExecutionJournal τ × Run Unit :=
  match J.byIdempotencyKey lease.idempotencyKey with
  | none => (J, reject .EXECUTION_IN_PROGRESS "A newer worker owns this execution lease.")
  | some existing =>
    if existing.fencingToken ≠ lease.fencingToken then
      (J, reject .EXECUTION_IN_PROGRESS "A newer worker owns this execution lease.")
    else if receipt.isNullish then (J, .error .typeError)
    else if (receipt.get (js "idempotencyKey")).isText lease.idempotencyKey = false ∨
        (receipt.get (js "approvalDecisionDigest")).isText existing.approvalDecisionDigest = false then
      (J, reject .JOURNAL_STATE_ERROR "Receipt binding does not match the claimed execution.")
    else if existing.receipt.truthy then
      if (existing.receipt.get (js "digest")).strictEq (receipt.get (js "digest")) then (J, .ok ())
      else (J, reject .JOURNAL_STATE_ERROR "A completed execution cannot be replaced.")
    else if existing.status ≠ .IN_PROGRESS ∧ existing.status ≠ .RECONCILING then
      (J, reject .JOURNAL_STATE_ERROR "Cannot complete an execution outside an active lease.")
    else
      (J.withRecord lease.idempotencyKey { existing with receipt := receipt, status := .COMPLETED },
        .ok ())

/-- `resume`. -/
def resume (leaseMilliseconds : τ) (J : InMemoryExecutionJournal τ) (now : τ) (lease : Lease) :
    InMemoryExecutionJournal τ × Bool :=
  match J.byIdempotencyKey lease.idempotencyKey with
  | none => (J, false)
  | some existing =>
    if existing.receipt.truthy ∨ existing.status ≠ .RECONCILING ∨
        existing.fencingToken ≠ lease.fencingToken ∨ existing.leaseExpiresAt < now then
      (J, false)
    else
      (J.withRecord lease.idempotencyKey
        { existing with status := .IN_PROGRESS, leaseExpiresAt := now + leaseMilliseconds }, true)

/-- The journal as an object: its state, and a step for every call. -/
def machine (leaseMilliseconds : τ) :
    Resumption.Machine (InMemoryExecutionJournal τ) (JournalCall τ) JournalAnswer where
  init := empty
  step J call :=
    match call with
    | .claim now input =>
      ((claim leaseMilliseconds J now input).1, .claim (claim leaseMilliseconds J now input).2)
    | .resume now lease =>
      ((resume leaseMilliseconds J now lease).1, .resume (resume leaseMilliseconds J now lease).2)
    | .complete _ lease receipt =>
      ((complete J lease receipt).1, .complete (complete J lease receipt).2)

/-! ## 3. What a call can do -/

variable {L : τ} {J : InMemoryExecutionJournal τ}

/-- `claim` creates a record, takes one over, or changes nothing. -/
theorem claim_cases (now : τ) (input : ClaimInput) :
    (J.byIdempotencyKey input.idempotencyKey = none ∧
      J.approvalToIdempotencyKey input.approvalId = none ∧
      claim L J now input =
        (⟨Function.update J.byIdempotencyKey input.idempotencyKey
            (some ⟨input.approvalId, input.approvalDecisionDigest, 1, now + L, .IN_PROGRESS,
              .undefined⟩),
          Function.update J.approvalToIdempotencyKey input.approvalId
            (some input.idempotencyKey)⟩, .CLAIMED 1)) ∨
    (∃ e, J.byIdempotencyKey input.idempotencyKey = some e ∧ e.approvalId = input.approvalId ∧
      e.approvalDecisionDigest = input.approvalDecisionDigest ∧ e.receipt.truthy = false ∧
      ¬ now < e.leaseExpiresAt ∧
      claim L J now input =
        (J.withRecord input.idempotencyKey
          { e with
            fencingToken := e.fencingToken + 1
            leaseExpiresAt := now + L
            status := .RECONCILING }, .RECONCILE (e.fencingToken + 1))) ∨
    ((claim L J now input).1 = J ∧ (∀ t, (claim L J now input).2 ≠ .CLAIMED t) ∧
      ∀ t, (claim L J now input).2 ≠ .RECONCILE t) := by
  cases hrec : J.byIdempotencyKey input.idempotencyKey with
  | some e =>
    simp only [claim, hrec]
    split
    · exact Or.inr (Or.inr ⟨rfl, by simp, by simp⟩)
    · rename_i hbind
      simp only [not_or, not_not] at hbind
      split
      · exact Or.inr (Or.inr ⟨rfl, by simp, by simp⟩)
      · rename_i hopen
        split
        · exact Or.inr (Or.inr ⟨rfl, by simp, by simp⟩)
        · rename_i hstale
          refine Or.inr (Or.inl ⟨e, rfl, hbind.1, hbind.2, ?_, hstale, rfl⟩)
          simpa using hopen
  | none =>
    simp only [claim, hrec]
    cases hkey : J.approvalToIdempotencyKey input.approvalId with
    | some _ => exact Or.inr (Or.inr ⟨rfl, by simp, by simp⟩)
    | none => exact Or.inl ⟨trivial, rfl, rfl⟩

/-- `resume` reopens a record that is being reconciled under this token, or changes nothing. -/
theorem resume_cases (now : τ) (lease : Lease) :
    (∃ e, J.byIdempotencyKey lease.idempotencyKey = some e ∧ e.receipt.truthy = false ∧
      e.status = .RECONCILING ∧ e.fencingToken = lease.fencingToken ∧
      ¬ e.leaseExpiresAt < now ∧
      resume L J now lease =
        (J.withRecord lease.idempotencyKey
          { e with status := .IN_PROGRESS, leaseExpiresAt := now + L }, true)) ∨
    resume L J now lease = (J, false) := by
  unfold resume
  cases hrec : J.byIdempotencyKey lease.idempotencyKey with
  | none => exact Or.inr rfl
  | some e =>
    simp only
    split
    · exact Or.inr rfl
    · rename_i h
      simp only [not_or, not_not, Bool.not_eq_true] at h
      obtain ⟨h1, h2, h3, h4⟩ := h
      exact Or.inl ⟨e, rfl, h1, h2, h3, h4, rfl⟩

omit [Add τ] [LT τ] [DecidableLT τ] in
/-- `complete` stores the receipt in an open record that carries this token, or changes nothing. -/
theorem complete_cases (lease : Lease) (receipt : Value) :
    (∃ e, J.byIdempotencyKey lease.idempotencyKey = some e ∧
      e.fencingToken = lease.fencingToken ∧ e.receipt.truthy = false ∧
      receipt.get (js "idempotencyKey") = .str lease.idempotencyKey ∧
      receipt.get (js "approvalDecisionDigest") = .str e.approvalDecisionDigest ∧
      e.status ≠ .COMPLETED ∧
      complete J lease receipt =
        (J.withRecord lease.idempotencyKey { e with receipt := receipt, status := .COMPLETED },
          .ok ())) ∨
    (complete J lease receipt).1 = J := by
  unfold complete
  cases hrec : J.byIdempotencyKey lease.idempotencyKey with
  | none => exact Or.inr rfl
  | some e =>
    simp only
    split
    · exact Or.inr rfl
    · rename_i htok
      split
      · exact Or.inr rfl
      · split
        · exact Or.inr rfl
        · rename_i hbind
          simp only [not_or, Bool.not_eq_false, isText_iff] at hbind
          split
          · split
            · exact Or.inr rfl
            · exact Or.inr rfl
          · rename_i hopen
            split
            · exact Or.inr rfl
            · rename_i hst
              refine Or.inl ⟨e, rfl, not_not.mp htok, by simpa using hopen, hbind.1, hbind.2, ?_, rfl⟩
              intro hc
              exact hst (by simp [hc])

/-! ## 4. What happens to a record -/

/-- A later version of a record: bound as before, with no smaller token, and with the receipt it
had, if it had one. -/
structure Later (e e' : ExecutionRecord τ) : Prop where
  approvalId : e'.approvalId = e.approvalId
  approvalDecisionDigest : e'.approvalDecisionDigest = e.approvalDecisionDigest
  fencingToken : e.fencingToken ≤ e'.fencingToken
  receipt : e.receipt.truthy = true → e'.receipt = e.receipt

omit [Add τ] [LT τ] [DecidableLT τ] in
theorem Later.refl (e : ExecutionRecord τ) : Later e e := ⟨rfl, rfl, le_rfl, fun _ => rfl⟩

omit [Add τ] [LT τ] [DecidableLT τ] in
theorem Later.trans {e e' e'' : ExecutionRecord τ} (h : Later e e') (h' : Later e' e'') :
    Later e e'' where
  approvalId := h'.approvalId.trans h.approvalId
  approvalDecisionDigest := h'.approvalDecisionDigest.trans h.approvalDecisionDigest
  fencingToken := le_trans h.fencingToken h'.fencingToken
  receipt ht := by
    have he := h.receipt ht
    rw [← he] at ht ⊢
    exact h'.receipt ht

omit [Add τ] [LT τ] [DecidableLT τ] in
@[simp] theorem withRecord_self (key : Text) (e : ExecutionRecord τ) :
    (J.withRecord key e).byIdempotencyKey key = some e := by
  simp [withRecord]

omit [Add τ] [LT τ] [DecidableLT τ] in
theorem withRecord_of_ne {key k : Text} (e : ExecutionRecord τ) (h : k ≠ key) :
    (J.withRecord key e).byIdempotencyKey k = J.byIdempotencyKey k := by
  simp [withRecord, h]

omit [Add τ] [LT τ] [DecidableLT τ] in
/-- Replacing one record by a later version keeps every record in a later version. -/
theorem withRecord_later {key k : Text} {e e' f : ExecutionRecord τ}
    (hkey : J.byIdempotencyKey key = some e) (hl : Later e e')
    (hk : J.byIdempotencyKey k = some f) :
    ∃ f', (J.withRecord key e').byIdempotencyKey k = some f' ∧ Later f f' := by
  by_cases h : k = key
  · subst h
    obtain rfl := Option.some.inj (hkey.symm.trans hk)
    exact ⟨e', withRecord_self k e', hl⟩
  · exact ⟨f, by rw [withRecord_of_ne e' h, hk], Later.refl f⟩

/-- **One call.**  Every record survives it in a later version. -/
theorem step_later {call : JournalCall τ} {k : Text} {e : ExecutionRecord τ}
    (hk : J.byIdempotencyKey k = some e) :
    ∃ e', ((machine L).step J call).1.byIdempotencyKey k = some e' ∧ Later e e' := by
  have same : ∃ e', J.byIdempotencyKey k = some e' ∧ Later e e' := ⟨e, hk, Later.refl e⟩
  cases call with
  | claim now input =>
    show ∃ e', (claim L J now input).1.byIdempotencyKey k = some e' ∧ Later e e'
    rcases claim_cases (L := L) (J := J) now input with
      ⟨hnone, -, h⟩ | ⟨f, hf, -, -, hopen, -, h⟩ | ⟨h, -, -⟩
    · rw [h]
      refine ⟨e, ?_, Later.refl e⟩
      have hne : k ≠ input.idempotencyKey := by
        rintro rfl
        exact absurd (hk.symm.trans hnone) (by simp)
      simp [hne, hk]
    · rw [h]
      refine withRecord_later hf ⟨rfl, rfl, Nat.le_succ _, fun ht => ?_⟩ hk
      exact absurd ht (by simp [hopen])
    · rw [h]; exact same
  | resume now lease =>
    show ∃ e', (resume L J now lease).1.byIdempotencyKey k = some e' ∧ Later e e'
    rcases resume_cases (L := L) (J := J) now lease with ⟨f, hf, -, -, -, -, h⟩ | h
    · rw [h]
      exact withRecord_later hf ⟨rfl, rfl, le_rfl, fun _ => rfl⟩ hk
    · rw [h]; exact same
  | complete now lease receipt =>
    show ∃ e', (complete J lease receipt).1.byIdempotencyKey k = some e' ∧ Later e e'
    rcases complete_cases (J := J) lease receipt with ⟨f, hf, -, hopen, -, -, -, h⟩ | h
    · rw [h]
      refine withRecord_later hf ⟨rfl, rfl, le_rfl, fun ht => ?_⟩ hk
      exact absurd ht (by simp [hopen])
    · rw [h]; exact same

/-- **A run.**  Every record survives it in a later version. -/
theorem run_later {k : Text} {e : ExecutionRecord τ} (hk : J.byIdempotencyKey k = some e)
    (calls : List (JournalCall τ)) :
    ∃ e', ((machine L).runFrom J calls).byIdempotencyKey k = some e' ∧ Later e e' := by
  refine Resumption.Machine.runFrom_invariant
    (I := fun J' : InMemoryExecutionJournal τ => ∃ e', J'.byIdempotencyKey k = some e' ∧ Later e e') ?_ calls
    ⟨e, hk, Later.refl e⟩
  rintro J' call ⟨e', hk', hl⟩
  obtain ⟨e'', hk'', hl'⟩ := step_later (L := L)  hk'
  exact ⟨e'', hk'', hl.trans hl'⟩

/-! ## 5. Approvals -/

/-- A call does not rebind an approval. -/
theorem step_bound {call : JournalCall τ} {a k : Text}
    (h : J.approvalToIdempotencyKey a = some k) :
    ((machine L).step J call).1.approvalToIdempotencyKey a = some k := by
  cases call with
  | claim now input =>
    show (claim L J now input).1.approvalToIdempotencyKey a = some k
    rcases claim_cases (L := L) (J := J) now input with
      ⟨-, hnone, he⟩ | ⟨f, -, -, -, -, -, he⟩ | ⟨he, -, -⟩
    · rw [he]
      have hne : a ≠ input.approvalId := by
        rintro rfl
        exact absurd (h.symm.trans hnone) (by simp)
      simp [hne, h]
    · rw [he]; exact h
    · rw [he]; exact h
  | resume now lease =>
    show (resume L J now lease).1.approvalToIdempotencyKey a = some k
    rcases resume_cases (L := L) (J := J) now lease with ⟨f, -, -, -, -, -, he⟩ | he
    · rw [he]; exact h
    · rw [he]; exact h
  | complete now lease receipt =>
    show (complete J lease receipt).1.approvalToIdempotencyKey a = some k
    rcases complete_cases (J := J) lease receipt with ⟨f, -, -, -, -, -, -, he⟩ | he
    · rw [he]; exact h
    · rw [he]; exact h

theorem run_bound {a k : Text} (h : J.approvalToIdempotencyKey a = some k)
    (calls : List (JournalCall τ)) :
    ((machine L).runFrom J calls).approvalToIdempotencyKey a = some k :=
  Resumption.Machine.runFrom_invariant
    (I := fun J' : InMemoryExecutionJournal τ => J'.approvalToIdempotencyKey a = some k) (fun _ _ h => step_bound h) calls h

/-- The two maps agree: the approval of every record was spent on that record's key, and every
spent approval has its record. -/
structure Linked (J : InMemoryExecutionJournal τ) : Prop where
  spent : ∀ k e, J.byIdempotencyKey k = some e → J.approvalToIdempotencyKey e.approvalId = some k
  recorded : ∀ a k, J.approvalToIdempotencyKey a = some k →
    ∃ e, J.byIdempotencyKey k = some e ∧ e.approvalId = a

omit [Add τ] [LT τ] [DecidableLT τ] in
theorem linked_empty : Linked (empty : InMemoryExecutionJournal τ) :=
  ⟨by simp [empty], by simp [empty]⟩

omit [Add τ] [LT τ] [DecidableLT τ] in
/-- Replacing a record by one with the same approval keeps the maps in agreement. -/
theorem Linked.withRecord {key : Text} {e e' : ExecutionRecord τ} (h : Linked J)
    (hkey : J.byIdempotencyKey key = some e) (ha : e'.approvalId = e.approvalId) :
    Linked (J.withRecord key e') := by
  refine ⟨fun k f hf => ?_, fun a k hk => ?_⟩
  · by_cases hne : k = key
    · subst hne
      rw [withRecord_self] at hf
      obtain rfl := Option.some.inj hf
      rw [ha]
      exact h.spent k e hkey
    · rw [withRecord_of_ne e' hne] at hf
      exact h.spent k f hf
  · obtain ⟨f, hf, hfa⟩ := h.recorded a k hk
    by_cases hne : k = key
    · subst hne
      obtain rfl := Option.some.inj (hkey.symm.trans hf)
      exact ⟨e', withRecord_self k e', ha.trans hfa⟩
    · exact ⟨f, by rw [withRecord_of_ne e' hne, hf], hfa⟩

theorem step_linked {call : JournalCall τ} (h : Linked J) :
    Linked ((machine L).step J call).1 := by
  cases call with
  | claim now input =>
    show Linked (claim L J now input).1
    rcases claim_cases (L := L) (J := J) now input with
      ⟨hnone, hfree, he⟩ | ⟨f, hf, -, -, -, -, he⟩ | ⟨he, -, -⟩
    · rw [he]
      refine ⟨fun k e hk => ?_, fun a k hk => ?_⟩
      · by_cases hne : k = input.idempotencyKey
        · subst hne
          simp only [Function.update_self, Option.some.injEq] at hk
          subst hk
          simp
        · simp only [Function.update_of_ne hne] at hk
          have hs := h.spent k e hk
          have hne' : e.approvalId ≠ input.approvalId := by
            intro ha
            rw [ha] at hs
            exact absurd (hs.symm.trans hfree) (by simp)
          simp [hne', hs]
      · by_cases hne : a = input.approvalId
        · subst hne
          simp only [Function.update_self, Option.some.injEq] at hk
          subst hk
          exact ⟨_, Function.update_self .., rfl⟩
        · simp only [Function.update_of_ne hne] at hk
          obtain ⟨e, hke, ha⟩ := h.recorded a k hk
          have hne' : k ≠ input.idempotencyKey := by
            rintro rfl
            exact absurd (hke.symm.trans hnone) (by simp)
          exact ⟨e, by simp [hne', hke], ha⟩
    · rw [he]
      exact h.withRecord hf rfl
    · rw [he]; exact h
  | resume now lease =>
    show Linked (resume L J now lease).1
    rcases resume_cases (L := L) (J := J) now lease with ⟨f, hf, -, -, -, -, he⟩ | he
    · rw [he]; exact h.withRecord hf rfl
    · rw [he]; exact h
  | complete now lease receipt =>
    show Linked (complete J lease receipt).1
    rcases complete_cases (J := J) lease receipt with ⟨f, hf, -, -, -, -, -, he⟩ | he
    · rw [he]; exact h.withRecord hf rfl
    · rw [he]; exact h

theorem run_linked (calls : List (JournalCall τ)) : Linked ((machine L).run calls) :=
  Resumption.Machine.run_invariant linked_empty (fun _ _ h => step_linked h) calls

/-! ## 6. Receipts -/

/-- The records of a journal that is in use: a receipt is there exactly when the status says so. -/
def Sealed (J : InMemoryExecutionJournal τ) : Prop :=
  ∀ k e, J.byIdempotencyKey k = some e → (e.receipt.truthy = true ↔ e.status = .COMPLETED)

omit [Add τ] [LT τ] [DecidableLT τ] in
theorem Sealed.withRecord {key : Text} {e : ExecutionRecord τ} (h : Sealed J)
    (he : e.receipt.truthy = true ↔ e.status = .COMPLETED) : Sealed (J.withRecord key e) := by
  intro k f hf
  by_cases hne : k = key
  · subst hne
    rw [withRecord_self] at hf
    obtain rfl := Option.some.inj hf
    exact he
  · rw [withRecord_of_ne e hne] at hf
    exact h k f hf

theorem step_sealed {call : JournalCall τ} (h : Sealed J) :
    Sealed ((machine L).step J call).1 := by
  cases call with
  | claim now input =>
    show Sealed (claim L J now input).1
    rcases claim_cases (L := L) (J := J) now input with
      ⟨-, -, he⟩ | ⟨f, -, -, -, hopen, -, he⟩ | ⟨he, -, -⟩
    · rw [he]
      exact h.withRecord (iff_of_false (by simp [truthy]) (by simp))
    · rw [he]
      exact h.withRecord (iff_of_false (by simp [hopen]) (by simp))
    · rw [he]; exact h
  | resume now lease =>
    show Sealed (resume L J now lease).1
    rcases resume_cases (L := L) (J := J) now lease with ⟨f, -, hopen, -, -, -, he⟩ | he
    · rw [he]
      exact h.withRecord (iff_of_false (by simp [hopen]) (by simp))
    · rw [he]; exact h
  | complete now lease receipt =>
    show Sealed (complete J lease receipt).1
    rcases complete_cases (J := J) lease receipt with ⟨f, -, -, -, hkey, -, -, he⟩ | he
    · rw [he]
      have ht : receipt.truthy = true :=
        truthy_of_get (js "idempotencyKey") (by rw [hkey]; simp) (by decide) (by decide)
      exact h.withRecord (iff_of_true ht rfl)
    · rw [he]; exact h

theorem run_sealed (calls : List (JournalCall τ)) : Sealed ((machine L).run calls) :=
  Resumption.Machine.run_invariant (by intro k e h; cases h) (fun _ _ h => step_sealed h) calls

theorem claim_completed {now : τ} {input : ClaimInput} {e : ExecutionRecord τ}
    (hk : J.byIdempotencyKey input.idempotencyKey = some e) (ha : e.approvalId = input.approvalId)
    (hd : e.approvalDecisionDigest = input.approvalDecisionDigest)
    (hr : e.receipt.truthy = true) : (claim L J now input).2 = .COMPLETED e.receipt := by
  simp [claim, hk, ha, hd, hr]

/-- A claim that is not the record's own, on its key or on its approval, is refused. -/
theorem claim_refused {now : τ} {input : ClaimInput} {k : Text} {e : ExecutionRecord τ}
    (hlink : Linked J) (hk : J.byIdempotencyKey k = some e)
    (hon : input.idempotencyKey = k ∨ input.approvalId = e.approvalId)
    (hother : ¬ (input.idempotencyKey = k ∧ input.approvalId = e.approvalId ∧
      input.approvalDecisionDigest = e.approvalDecisionDigest)) :
    (claim L J now input).2 = .APPROVAL_ALREADY_USED := by
  by_cases hkey : input.idempotencyKey = k
  · subst hkey
    have hbind : e.approvalId ≠ input.approvalId ∨
        e.approvalDecisionDigest ≠ input.approvalDecisionDigest := by
      by_contra hc
      simp only [not_or, not_not] at hc
      exact hother ⟨rfl, hc.1.symm, hc.2.symm⟩
    simp only [claim, hk, if_pos hbind]
  · have ha := hon.resolve_left hkey
    have hspent := hlink.spent k e hk
    cases hrec : J.byIdempotencyKey input.idempotencyKey with
    | some f =>
      have hne : f.approvalId ≠ input.approvalId := by
        intro hf
        have hspent' := hlink.spent _ f hrec
        rw [hf, ha, hspent] at hspent'
        exact hkey (Option.some.inj hspent').symm
      simp only [claim, hrec, if_pos (Or.inl hne)]
    | none => simp only [claim, hrec, ha, hspent]

/-! ## 7. The journal over its runs -/

/-- What the journal keeps over every run from the empty journal, at any clock readings. -/
structure Guarantees (L : τ) : Prop where
  /-- A spent approval stays with its key. -/
  bound : ∀ pre post a k,
    ((machine L).run pre).approvalToIdempotencyKey a = some k →
    ((machine L).run (pre ++ post)).approvalToIdempotencyKey a = some k
  /-- An approval is recorded under no key but the one it was spent on. -/
  oneKey : ∀ calls k k' e e', ((machine L).run calls).byIdempotencyKey k = some e →
    ((machine L).run calls).byIdempotencyKey k' = some e' → e.approvalId = e'.approvalId →
    k = k'
  /-- Two calls that are answered `CLAIMED` have neither approval nor key in common. -/
  claimedOnce : ∀ pre mid now now' input input' t t',
    (claim L ((machine L).run pre) now input).2 = .CLAIMED t →
    (claim L ((machine L).run (pre ++ .claim now input :: mid)) now' input').2
      = .CLAIMED t' →
    input'.approvalId ≠ input.approvalId ∧ input'.idempotencyKey ≠ input.idempotencyKey
  /-- Tokens do not go down. -/
  token : ∀ pre post k e, ((machine L).run pre).byIdempotencyKey k = some e →
    ∃ e', ((machine L).run (pre ++ post)).byIdempotencyKey k = some e' ∧
      e.fencingToken ≤ e'.fencingToken
  /-- A takeover raises the token, to the one it hands out. -/
  reconcile : ∀ pre now input t,
    (claim L ((machine L).run pre) now input).2 = .RECONCILE t →
    ∃ e e', ((machine L).run pre).byIdempotencyKey input.idempotencyKey = some e ∧
      ((machine L).run (pre ++ [.claim now input])).byIdempotencyKey input.idempotencyKey
        = some e' ∧
      e.fencingToken < e'.fencingToken ∧ e'.fencingToken = t
  /-- With a token that is not the record's, `resume` changes nothing. -/
  staleResume : ∀ pre now lease,
    (∀ e, ((machine L).run pre).byIdempotencyKey lease.idempotencyKey = some e →
      e.fencingToken ≠ lease.fencingToken) →
    (machine L).run (pre ++ [.resume now lease]) = (machine L).run pre
  /-- Neither does `complete`. -/
  staleComplete : ∀ pre now lease receipt,
    (∀ e, ((machine L).run pre).byIdempotencyKey lease.idempotencyKey = some e →
      e.fencingToken ≠ lease.fencingToken) →
    (machine L).run (pre ++ [.complete now lease receipt]) = (machine L).run pre
  /-- A record is completed exactly when it has a receipt. -/
  completed : ∀ calls k e, ((machine L).run calls).byIdempotencyKey k = some e →
    (e.receipt.truthy = true ↔ e.status = .COMPLETED)
  /-- A receipt is not replaced. -/
  receipt : ∀ pre post k e, ((machine L).run pre).byIdempotencyKey k = some e →
    e.receipt.truthy = true →
    ∃ e', ((machine L).run (pre ++ post)).byIdempotencyKey k = some e' ∧
      e'.receipt = e.receipt
  /-- From then on the same claim is answered with that receipt. -/
  replay : ∀ pre post k e now input, ((machine L).run pre).byIdempotencyKey k = some e →
    e.receipt.truthy = true →
    input.idempotencyKey = k ∧ input.approvalId = e.approvalId ∧
      input.approvalDecisionDigest = e.approvalDecisionDigest →
    (claim L ((machine L).run (pre ++ post)) now input).2 = .COMPLETED e.receipt
  /-- Any other claim on the key or on the approval is refused. -/
  refused : ∀ pre post k e now input, ((machine L).run pre).byIdempotencyKey k = some e →
    e.receipt.truthy = true →
    input.idempotencyKey = k ∨ input.approvalId = e.approvalId →
    ¬ (input.idempotencyKey = k ∧ input.approvalId = e.approvalId ∧
      input.approvalDecisionDigest = e.approvalDecisionDigest) →
    (claim L ((machine L).run (pre ++ post)) now input).2 = .APPROVAL_ALREADY_USED

/-- A call answered `CLAIMED` finds its key and its approval free, and binds them. -/
theorem claimed_binds {now : τ} {input : ClaimInput} {t : Nat}
    (h : (claim L J now input).2 = .CLAIMED t) :
    J.byIdempotencyKey input.idempotencyKey = none ∧
      J.approvalToIdempotencyKey input.approvalId = none ∧
      (claim L J now input).1.approvalToIdempotencyKey input.approvalId
        = some input.idempotencyKey ∧
      ∃ e, (claim L J now input).1.byIdempotencyKey input.idempotencyKey = some e := by
  rcases claim_cases (L := L) (J := J) now input with
    ⟨hnone, hfree, he⟩ | ⟨f, -, -, -, -, -, he⟩ | ⟨-, hne, -⟩
  · rw [he]
    exact ⟨hnone, hfree, by simp, by simp⟩
  · rw [he] at h
    exact absurd h (by simp)
  · exact absurd h (hne t)

theorem claimed_once {pre mid : List (JournalCall τ)} {now now' : τ} {input input' : ClaimInput}
    {t t' : Nat} (h : (claim L ((machine L).run pre) now input).2 = .CLAIMED t)
    (h' : (claim L ((machine L).run (pre ++ .claim now input :: mid)) now' input').2
      = .CLAIMED t') :
    input'.approvalId ≠ input.approvalId ∧ input'.idempotencyKey ≠ input.idempotencyKey := by
  obtain ⟨-, -, hbound, e, he⟩ := claimed_binds h
  obtain ⟨hnone', hfree', -⟩ := claimed_binds h'
  rw [Resumption.Machine.run_append, Resumption.Machine.runFrom_cons] at hnone' hfree'
  have hbound' := run_bound (L := L) hbound mid
  obtain ⟨e', he', -⟩ := run_later (L := L) he mid
  constructor
  · intro ha
    rw [ha] at hfree'
    exact absurd (hbound'.symm.trans hfree') (by simp)
  · intro hk
    rw [hk] at hnone'
    exact absurd (he'.symm.trans hnone') (by simp)

theorem reconcile_raises {now : τ} {input : ClaimInput} {t : Nat}
    (h : (claim L J now input).2 = .RECONCILE t) :
    ∃ e e', J.byIdempotencyKey input.idempotencyKey = some e ∧
      (claim L J now input).1.byIdempotencyKey input.idempotencyKey = some e' ∧
      e.fencingToken < e'.fencingToken ∧ e'.fencingToken = t := by
  rcases claim_cases (L := L) (J := J) now input with
    ⟨-, -, he⟩ | ⟨f, hf, -, -, -, -, he⟩ | ⟨-, -, hne⟩
  · rw [he] at h
    exact absurd h (by simp)
  · rw [he] at h ⊢
    exact ⟨f, _, hf, withRecord_self _ _, Nat.lt_succ_self _, ExecutionClaim.RECONCILE.inj h⟩
  · exact absurd h (hne t)

theorem resume_stale {now : τ} {lease : Lease}
    (h : ∀ e, J.byIdempotencyKey lease.idempotencyKey = some e →
      e.fencingToken ≠ lease.fencingToken) : (resume L J now lease).1 = J := by
  rcases resume_cases (L := L) (J := J) now lease with ⟨f, hf, -, -, htok, -, -⟩ | he
  · exact absurd htok (h f hf)
  · rw [he]

omit [Add τ] [LT τ] [DecidableLT τ] in
theorem complete_stale {lease : Lease} {receipt : Value}
    (h : ∀ e, J.byIdempotencyKey lease.idempotencyKey = some e →
      e.fencingToken ≠ lease.fencingToken) : (complete J lease receipt).1 = J := by
  rcases complete_cases (J := J) lease receipt with ⟨f, hf, htok, -⟩ | he
  · exact absurd htok (h f hf)
  · exact he

/-- **The journal keeps its guarantees over every run.** -/
theorem guarantees (L : τ) : Guarantees L where
  bound pre post a k h := by
    rw [Resumption.Machine.run_append]
    exact run_bound h post
  oneKey calls k k' e e' hk hk' ha := by
    have h := (run_linked (L := L) calls).spent k e hk
    rw [ha, (run_linked (L := L) calls).spent k' e' hk'] at h
    exact (Option.some.inj h).symm
  claimedOnce pre mid now now' input input' t t' h h' := claimed_once h h'
  token pre post k e hk := by
    obtain ⟨e', hk', hl⟩ := run_later (L := L) hk post
    rw [Resumption.Machine.run_append]
    exact ⟨e', hk', hl.fencingToken⟩
  reconcile pre now input t h := by
    rw [Resumption.Machine.run_append]
    exact reconcile_raises h
  staleResume pre now lease h := by
    rw [Resumption.Machine.run_append]
    exact resume_stale h
  staleComplete pre now lease receipt h := by
    rw [Resumption.Machine.run_append]
    exact complete_stale h
  completed calls k e hk := run_sealed calls k e hk
  receipt pre post k e hk hr := by
    obtain ⟨e', hk', hl⟩ := run_later (L := L) hk post
    rw [Resumption.Machine.run_append]
    exact ⟨e', hk', hl.receipt hr⟩
  replay pre post k e now input hk hr hown := by
    obtain ⟨rfl, ha, hd⟩ := hown
    obtain ⟨e', hk', hl⟩ := run_later (L := L) hk post
    rw [Resumption.Machine.run_append, ← hl.receipt hr]
    refine claim_completed hk' (hl.approvalId.trans ha.symm)
      (hl.approvalDecisionDigest.trans hd.symm) ?_
    rw [hl.receipt hr]
    exact hr
  refused pre post k e now input hk hr hon hother := by
    obtain ⟨e', hk', hl⟩ := run_later (L := L) hk post
    have hlink := run_linked (L := L) (pre ++ post)
    rw [Resumption.Machine.run_append] at hlink ⊢
    refine claim_refused hlink hk' ?_ ?_
    · rw [hl.approvalId]; exact hon
    · rw [hl.approvalId, hl.approvalDecisionDigest]; exact hother

end InMemoryExecutionJournal

end Remediation
