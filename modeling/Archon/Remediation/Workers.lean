/-
# Workers that share a journal

Any number of workers run the control loop over one in-memory journal.  A step lets one of them make
the call it stands at.  The journal's operations are run in one step, at whatever its clock shows;
the readers, the ports and the workers' clocks answer anything; a worker that takes no more steps
has crashed.

Two things are proved of every such run.  A worker writes under a token that the record still
carries, as long as no lease is taken over from a worker on its way to the write
(`writesUnderOwnToken`; without that condition it may not, `not_writesUnderOwnToken_slowRead`).  And
a rejected approval is never written for, and is recorded as `REJECTED`, or as `INDETERMINATE` by a
worker that recovered it (`rejected_recorded`; `not_onlyRejected_recovery` shows the second).
-/
import Archon.Remediation.Writes
import Archon.Remediation.Terminal
import Archon.Resumption.Pool

namespace Remediation

open Ecma Ecma.Value Resumption Resumption.Program

/-! ## 1. The shared journal -/

section World

variable {τ : Type} [Add τ] [LT τ] [DecidableLT τ]

/-- What a call is answered, and what becomes of the journal. -/
inductive World (L : τ) : InMemoryExecutionJournal τ → (e : Effect) → e.Reply →
    InMemoryExecutionJournal τ → Prop
  | clock (J : InMemoryExecutionJournal τ) (now : Text) : World L J .clock now J
  | claim (J : InMemoryExecutionJournal τ) (now : τ) (input : ClaimInput) :
    World L J (.claim input) (.ok (J.claim L now input).2) (J.claim L now input).1
  | resume (J : InMemoryExecutionJournal τ) (now : τ) (lease : Lease) :
    World L J (.resume lease) (.ok (J.resume L now lease).2) (J.resume L now lease).1
  | complete (J : InMemoryExecutionJournal τ) (lease : Lease) (receipt : Value) :
    World L J (.complete lease receipt) (J.complete lease receipt).2 (J.complete lease receipt).1
  | read (J : InMemoryExecutionJournal τ) (target : Value) (answer : Run Value) :
    World L J (.readTagProjection target) answer J
  | write (J : InMemoryExecutionJournal τ) (request : Value) (answer : Run Value) :
    World L J (.addTags request) answer J

end World

variable {τ : Type} [Add τ] [LT τ] [DecidableLT τ] {L : τ} {J J' : InMemoryExecutionJournal τ}
  {P : Platform}

/-- A record survives every call in a later version. -/
theorem World.later {e : Effect} {r : e.Reply} (h : World L J e r J') {k : Text}
    {f : ExecutionRecord τ} (hk : J.byIdempotencyKey k = some f) :
    ∃ f', J'.byIdempotencyKey k = some f' ∧ InMemoryExecutionJournal.Later f f' := by
  cases h with
  | clock now => exact ⟨f, hk, .refl f⟩
  | claim now input =>
    exact @InMemoryExecutionJournal.step_later _ _ _ _ L J (.claim now input) k f hk
  | resume now lease =>
    exact @InMemoryExecutionJournal.step_later _ _ _ _ L J (.resume now lease) k f hk
  | complete lease receipt =>
    rcases InMemoryExecutionJournal.complete_cases (J := J) lease receipt with
      ⟨g, hg, -, hopen, -, -, -, he⟩ | he
    · rw [he]
      refine InMemoryExecutionJournal.withRecord_later hg ⟨rfl, rfl, le_rfl, fun ht => ?_⟩ hk
      exact absurd ht (by simp [hopen])
    · rw [he]; exact ⟨f, hk, .refl f⟩
  | read target answer => exact ⟨f, hk, .refl f⟩
  | write request answer => exact ⟨f, hk, .refl f⟩

/-- Only a takeover moves the token of a record. -/
theorem World.token {e : Effect} {r : e.Reply} (h : World L J e r J') {k : Text}
    {f : ExecutionRecord τ} (hk : J.byIdempotencyKey k = some f) :
    (∃ f', J'.byIdempotencyKey k = some f' ∧ f'.fencingToken = f.fencingToken) ∨
      ∃ c t, (⟨e, r⟩ : Event Effect Effect.Reply) = claimed c (.ok (.RECONCILE t)) ∧
        c.idempotencyKey = k := by
  have same : ∃ f', J.byIdempotencyKey k = some f' ∧ f'.fencingToken = f.fencingToken := ⟨f, hk, rfl⟩
  have replaced : ∀ {key : Text} {g g' : ExecutionRecord τ}, J.byIdempotencyKey key = some g →
      g'.fencingToken = g.fencingToken →
        ∃ f', (J.withRecord key g').byIdempotencyKey k = some f' ∧ f'.fencingToken = f.fencingToken := by
    intro key g g' hg htoken
    by_cases hne : k = key
    · subst hne
      obtain rfl := Option.some.inj (hg.symm.trans hk)
      exact ⟨g', InMemoryExecutionJournal.withRecord_self k g', htoken⟩
    · exact ⟨f, by rw [InMemoryExecutionJournal.withRecord_of_ne g' hne, hk], rfl⟩
  cases h with
  | clock now => exact Or.inl same
  | claim now input =>
    rcases InMemoryExecutionJournal.claim_cases (L := L) (J := J) now input with
      ⟨hnone, -, he⟩ | ⟨g, hg, -, -, -, -, he⟩ | ⟨he, -, -⟩
    · rw [he]
      have hne : k ≠ input.idempotencyKey := by
        rintro rfl
        exact absurd (hk.symm.trans hnone) (by simp)
      exact Or.inl ⟨f, by simp [hne, hk], rfl⟩
    · rw [he]
      by_cases hne : k = input.idempotencyKey
      · exact Or.inr ⟨input, g.fencingToken + 1, rfl, hne.symm⟩
      · exact Or.inl ⟨f, by rw [InMemoryExecutionJournal.withRecord_of_ne _ hne, hk], rfl⟩
    · rw [he]; exact Or.inl same
  | resume now lease =>
    rcases InMemoryExecutionJournal.resume_cases (L := L) (J := J) now lease with
      ⟨g, hg, -, -, -, -, he⟩ | he
    · rw [he]; exact Or.inl (replaced hg rfl)
    · rw [he]; exact Or.inl same
  | complete lease receipt =>
    rcases InMemoryExecutionJournal.complete_cases (J := J) lease receipt with
      ⟨g, hg, -, -, -, -, -, he⟩ | he
    · rw [he]; exact Or.inl (replaced hg rfl)
    · rw [he]; exact Or.inl same
  | read target answer => exact Or.inl same
  | write request answer => exact Or.inl same

theorem World.of_claim {c : ClaimInput} {r : Run ExecutionClaim} (h : World L J (.claim c) r J') :
    ∃ now, r = .ok (J.claim L now c).2 ∧ J' = (J.claim L now c).1 := by
  cases h with
  | claim now => exact ⟨now, rfl, rfl⟩

theorem World.of_resume {lease : Lease} {r : Run Bool} (h : World L J (.resume lease) r J') :
    ∃ now, r = .ok (J.resume L now lease).2 ∧ J' = (J.resume L now lease).1 := by
  cases h with
  | resume now => exact ⟨now, rfl, rfl⟩

/-! ## 2. Tokens -/

/-- The worker was given this token. -/
def HoldsToken (h : History) (t : Nat) : Prop :=
  ∃ c, claimed c (.ok (.CLAIMED t)) ∈ h ∨ claimed c (.ok (.RECONCILE t)) ∈ h

/-- The worker is on its way to the write: it may go on, and has not called `addTags`. -/
def OnTheWay (P : Platform) (input : ExecuteApprovedRemediationInput) (h : History) (t : Nat) : Prop :=
  ∃ b, b.fencingToken = t ∧ (Due P input h b ∨ ∃ current, Ready P input h b current)

section Way

variable {input : ExecuteApprovedRemediationInput} {h : History} {b : ReceiptBinding} {t : Nat}

theorem claimInput_key {c : ClaimInput} (h : claimInput input = .ok c) :
    c.idempotencyKey = input.idempotencyKey := by
  obtain ⟨_, -, h⟩ := bind_eq_ok.mp h
  obtain ⟨_, -, h⟩ := bind_eq_ok.mp h
  exact (Except.ok.inj h) ▸ rfl

theorem Recovering.holds (hr : Recovering P input h b) : HoldsToken h b.fencingToken := by
  cases hr with
  | @mk startedAt c token begun =>
    exact ⟨c, Or.inr (List.mem_cons_of_mem _ (List.mem_singleton.mpr rfl))⟩

theorem Granted.holds (hg : Granted P input h b) : HoldsToken h b.fencingToken := by
  cases hg with
  | @claimed startedAt c token begun =>
    exact ⟨c, Or.inl (List.mem_cons_of_mem _ (List.mem_singleton.mpr rfl))⟩
  | resumed hr _ =>
    obtain ⟨c, hc⟩ := hr.holds
    exact ⟨c, hc.imp (List.mem_append_left _) (List.mem_append_left _)⟩

theorem Ready.holds {current : Value} (hr : Ready P input h b current) :
    HoldsToken h b.fencingToken := by
  cases hr with
  | mk due unchanged =>
    obtain ⟨c, hc⟩ := due.granted.holds
    exact ⟨c, hc.imp (List.mem_append_left _) (List.mem_append_left _)⟩

theorem Recovering.key (hr : Recovering P input h b) : b.idempotencyKey = input.idempotencyKey := by
  cases hr; rfl

/-- How a worker comes to hold its lease: its claim was granted, or its lease resumed. -/
theorem granted_last {ev : Event Effect Effect.Reply} (hg : Granted P input (h ++ [ev]) b) :
    (∃ c, ev = claimed c (.ok (.CLAIMED b.fencingToken)) ∧
        c.idempotencyKey = input.idempotencyKey) ∨
      ∃ lease, ev = resumed lease (.ok true) ∧ lease.fencingToken = b.fencingToken ∧
        lease.idempotencyKey = input.idempotencyKey := by
  generalize he : h ++ [ev] = h' at hg
  have hlast := congrArg List.getLast? he
  rw [List.getLast?_concat] at hlast
  cases hg with
  | @claimed startedAt c token begun =>
    exact Or.inl ⟨c, Option.some.inj hlast, claimInput_key begun.claim⟩
  | @resumed h₀ _ observed recovering unchanged =>
    rw [List.getLast?_append_of_ne_nil _ (by simp)] at hlast
    exact Or.inr ⟨b.lease, Option.some.inj hlast, rfl, recovering.key⟩

/-- How a worker comes to be on its way; from then on it only reads. -/
theorem OnTheWay.of_snoc {ev : Event Effect Effect.Reply} (hw : OnTheWay P input (h ++ [ev]) t) :
    (∃ c, ev = claimed c (.ok (.CLAIMED t)) ∧ c.idempotencyKey = input.idempotencyKey) ∨
      (∃ lease, ev = resumed lease (.ok true) ∧ lease.fencingToken = t ∧
        lease.idempotencyKey = input.idempotencyKey) ∨
      (OnTheWay P input h t ∧ ∃ target answer, ev = wasRead target answer) := by
  obtain ⟨b, rfl, hdue | ⟨current, hready⟩⟩ := hw
  · rcases granted_last hdue.granted with hc | hr
    · exact Or.inl hc
    · exact Or.inr (Or.inl hr)
  · generalize he : h ++ [ev] = h' at hready
    cases hready with
    | @mk h₀ _ _ due unchanged =>
      obtain ⟨rfl, hev⟩ := List.append_inj' he rfl
      exact Or.inr (Or.inr ⟨⟨b, rfl, Or.inl due⟩, _, _, List.singleton_inj.mp hev⟩)

end Way

section Fenced

variable {ι : Type} [DecidableEq ι] {input : ι → ExecuteApprovedRemediationInput}

/-- The workers of a run. -/
abbrev Workers (ι τ : Type) :=
  Pool ι (InMemoryExecutionJournal τ) Effect Effect.Reply (Exn Failure) Value

/-- All of them at their start. -/
def Workers.start (P : Platform) (input : ι → ExecuteApprovedRemediationInput)
    (J : InMemoryExecutionJournal τ) : Workers ι τ :=
  Pool.start J fun i => executeApprovedRemediation P (input i)

/-- The step takes no lease over from a worker that is on its way to the write. -/
def NoTakeover (P : Platform) (input : ι → ExecuteApprovedRemediationInput) (S S' : Workers ι τ) :
    Prop :=
  ∀ j c t, S'.history j = S.history j ++ [claimed c (.ok (.RECONCILE t))] →
    ∀ i u, (input i).idempotencyKey = c.idempotencyKey → ¬ OnTheWay P (input i) (S.history i) u

/-- The records that workers on their way rely on carry their tokens. -/
def Fenced (P : Platform) (input : ι → ExecuteApprovedRemediationInput)
    (J : InMemoryExecutionJournal τ) (hist : ι → History) : Prop :=
  ∀ i t, OnTheWay P (input i) (hist i) t →
    ∃ f, J.byIdempotencyKey (input i).idempotencyKey = some f ∧ f.fencingToken = t

/-- A worker that stands before `addTags` was given the token that its record carries. -/
def WritesUnderOwnToken (input : ι → ExecuteApprovedRemediationInput) (S : Workers ι τ) : Prop :=
  ∀ i request k, S.program i = .call (.addTags request) k →
    ∃ t f, HoldsToken (S.history i) t ∧
      S.shared.byIdempotencyKey (input i).idempotencyKey = some f ∧ f.fencingToken = t

theorem not_onTheWay_nil {input : ExecuteApprovedRemediationInput} {t : Nat} :
    ¬ OnTheWay P input [] t := by
  rintro ⟨b, -, hdue | ⟨current, hready⟩⟩
  · obtain ⟨c, hc | hc⟩ := hdue.granted.holds <;> cases hc
  · generalize he : ([] : History) = h at hready
    cases hready with
    | mk due unchanged => exact absurd he (by simp)

/-- What the worker's own call does to its way. -/
theorem World.onTheWay {input : ExecuteApprovedRemediationInput} {e : Effect} {r : e.Reply}
    {h : History} {t : Nat} (hworld : World L J e r J')
    (hw : OnTheWay P input (h ++ [⟨e, r⟩]) t) :
    (∃ f, J'.byIdempotencyKey input.idempotencyKey = some f ∧ f.fencingToken = t) ∨
      (OnTheWay P input h t ∧ J' = J) := by
  rcases hw.of_snoc with ⟨c, hev, hkey⟩ | ⟨lease, hev, htoken, hkey⟩ | ⟨hway, target, answer, hev⟩
  · cases hev
    obtain ⟨now, hr, rfl⟩ := hworld.of_claim
    rw [← hkey]
    rcases InMemoryExecutionJournal.claim_cases (L := L) (J := J) now c with
      ⟨-, -, he⟩ | ⟨f, -, -, -, -, -, he⟩ | ⟨-, hne, -⟩
    · rw [he] at hr ⊢
      obtain rfl := ExecutionClaim.CLAIMED.inj (Except.ok.inj hr)
      exact Or.inl ⟨_, Function.update_self .., rfl⟩
    · rw [he] at hr
      cases hr
    · exact absurd (Except.ok.inj hr).symm (hne t)
  · cases hev
    obtain ⟨now, hr, rfl⟩ := hworld.of_resume
    rw [← hkey]
    rcases InMemoryExecutionJournal.resume_cases (L := L) (J := J) now lease with
      ⟨f, -, -, -, hf, -, he⟩ | he
    · rw [he]
      exact Or.inl ⟨_, InMemoryExecutionJournal.withRecord_self _ _, hf.trans htoken⟩
    · rw [he] at hr
      cases hr
  · cases hev
    cases hworld with
    | read => exact Or.inr ⟨hway, rfl⟩

/-- **One step** keeps the records of the workers on their way. -/
theorem fenced_step {S : Workers ι τ} {i : ι} {e : Effect} {k : e.Reply → Remediating Value}
    {r : e.Reply} (hinv : Fenced P input S.shared S.history) (hworld : World L S.shared e r J')
    (hok : NoTakeover P input S (S.after i e r J' (k r))) :
    Fenced P input J' (Function.update S.history i (S.history i ++ [⟨e, r⟩])) := by
  intro j t hway
  have kept : OnTheWay P (input j) (S.history j) t →
      ∃ f, J'.byIdempotencyKey (input j).idempotencyKey = some f ∧ f.fencingToken = t := by
    intro hj
    obtain ⟨f, hf, rfl⟩ := hinv j t hj
    rcases hworld.token hf with hsame | ⟨c, u, hev, hkey⟩
    · exact hsame
    · have htakeover := hok i c u (by simp [Pool.after, hev]) j f.fencingToken hkey.symm
      exact absurd hj htakeover
  by_cases hij : j = i
  · subst hij
    rw [Function.update_self] at hway
    rcases hworld.onTheWay hway with hf | ⟨hj, -⟩
    · exact hf
    · exact kept hj
  · rw [Function.update_of_ne hij] at hway
    exact kept hway

/-- **No worker writes after its lease was taken over**, in every run in which no lease is taken over
from a worker on its way to the write. -/
theorem writesUnderOwnToken {S : Workers ι τ}
    (hrun : Pool.Run (World L) (NoTakeover P input) (Workers.start P input J) S) :
    WritesUnderOwnToken input S := by
  have hwhole : Fenced P input S.shared S.history ∧
      ∀ i, (S.program i).Obeys (Allowed P (input i)) (Ends P (input i)) (S.history i) :=
    Pool.invariant hrun (fun i => executeApprovedRemediation_obeys P (input i))
      (fun i t hway => absurd hway not_onTheWay_nil)
      (fun S₁ i e k r J' hinv hp hallowed hworld hok => fenced_step hinv hworld hok)
  obtain ⟨hinv, hobeys⟩ := hwhole
  intro i request k hp
  have hi := hobeys i
  rw [hp] at hi
  obtain ⟨b, current, hready, -⟩ := hi.1
  obtain ⟨f, hf, htoken⟩ := hinv i b.fencingToken ⟨b, rfl, Or.inr ⟨current, hready⟩⟩
  exact ⟨b.fencingToken, f, hready.holds, hf, htoken⟩

end Fenced

/-! ### A worker that reads slowly -/

/-- Accepted artifacts, a key and no rejection: the loop can be brought before its write. -/
theorem reaches_standing {input : ExecuteApprovedRemediationInput}
    (hacc : approvalArtifactsValid P input.artifacts = .ok true)
    (hkey : nonBlank input.idempotencyKey = true)
    (hdec : (input.artifacts.decision.getPath ["decision"]).isText (js "REJECT") = false)
    {request : Value} (hreq : mutationRequest input.artifacts.plan = .ok request) :
    ∃ now c v k, Reaches (executeApprovedRemediation P input)
      ([clocked now] ++ claimed c (.ok (.CLAIMED 1)) :: [wasRead (readTarget input) (.ok v)])
      (.call (.addTags request) k) := by
  obtain ⟨a⟩ := approvalArtifactsValid_facts hacc
  have hwrite : ∃ k, Reaches (write P (bindingOf input 1 a.decidedAt) a.plan.before.value) []
      (.call (.addTags request) k) := by
    have hr : mutationRequest (bindingOf input 1 a.decidedAt).artifacts.plan = .ok request := hreq
    unfold write
    rw [hr]
    exact ⟨_, Reaches.refl _⟩
  obtain ⟨k, hwrite⟩ := hwrite
  obtain ⟨c, hreach⟩ := reaches_toWrite a hacc hkey hdec hwrite
  exact ⟨_, c, _, k, hreach⟩

/-- The claim a worker makes carries its own key. -/
theorem claim_key {input : ExecuteApprovedRemediationInput} {now : Text} {c : ClaimInput}
    {k : Run ExecutionClaim → Remediating Value}
    (hr : Reaches (executeApprovedRemediation P input) [clocked now] (.call (.claim c) k)) :
    c.idempotencyKey = input.idempotencyKey := by
  obtain ⟨startedAt, begun, -⟩ := (executeApprovedRemediation_obeys P input).call_of_reaches hr
  exact claimInput_key begun.claim

/-- The journal after a first claim. -/
def claimedOnce (c : ClaimInput) : InMemoryExecutionJournal Nat :=
  (InMemoryExecutionJournal.empty.claim 1 0 c).1

theorem claimedOnce_moves (now : Text) (c : ClaimInput) :
    Pool.Moves (World 1) InMemoryExecutionJournal.empty [clocked now, claimed c (.ok (.CLAIMED 1))]
      (claimedOnce c) :=
  .cons (.clock _ now) (.cons (.claim _ 0 c) (.nil _))

/-- The same claim, when the lease has run out. -/
theorem claim_again (c : ClaimInput) :
    ((claimedOnce c).claim 1 5 c).2 = .RECONCILE 2 ∧
      ∃ f, ((claimedOnce c).claim 1 5 c).1.byIdempotencyKey c.idempotencyKey = some f ∧
        f.fencingToken = 2 ∧ f.approvalId = c.approvalId ∧
        f.approvalDecisionDigest = c.approvalDecisionDigest ∧ f.receipt = .undefined ∧
        f.status = .RECONCILING := by
  have hrecord : (claimedOnce c).byIdempotencyKey c.idempotencyKey
      = some ⟨c.approvalId, c.approvalDecisionDigest, 1, 0 + 1, .IN_PROGRESS, .undefined⟩ :=
    Function.update_self ..
  have hclaim : (claimedOnce c).claim 1 5 c = ((claimedOnce c).withRecord c.idempotencyKey
      ⟨c.approvalId, c.approvalDecisionDigest, 1 + 1, 5 + 1, .RECONCILING, .undefined⟩,
        .RECONCILE (1 + 1)) := by
    simp [InMemoryExecutionJournal.claim, hrecord, truthy]
  rw [hclaim]
  exact ⟨rfl, _, InMemoryExecutionJournal.withRecord_self _ _, rfl, rfl, rfl, rfl, rfl⟩

theorem claim_again_moves (now : Text) (c : ClaimInput) :
    Pool.Moves (World 1) (claimedOnce c) [clocked now, claimed c (.ok (.RECONCILE 2))]
      ((claimedOnce c).claim 1 5 c).1 := by
  rw [← (claim_again c).1]
  exact .cons (.clock _ now) (.cons (.claim _ 5 c) (.nil _))

theorem holdsToken_standing {now : Text} {c : ClaimInput} {target : Value} {answer : Run Value} {t u : Nat}
    (h : HoldsToken ([clocked now] ++ claimed c (.ok (.CLAIMED u)) :: [wasRead target answer]) t) :
    t = u := by
  obtain ⟨c', h | h⟩ := h
  · simp only [List.singleton_append, List.mem_cons, List.not_mem_nil, or_false] at h
    rcases h with h | h | h
    · cases h
    · cases h
      rfl
    · cases h
  · simp only [List.singleton_append, List.mem_cons, List.not_mem_nil, or_false] at h
    rcases h with h | h | h <;> cases h

/-- The artifacts of the sample, for any number of workers. -/
def sampleInput (decision : String) (ι : Type) : ι → ExecuteApprovedRemediationInput :=
  fun _ => inputOf (.sample [] (js decision))

/-- A worker of the sample comes to the write, alone. -/
theorem writesUnderOwnToken_sample :
    ∃ (S : Workers Unit Nat) (request : Value) (k : Run Value → Remediating Value),
      S.program () = .call (.addTags request) k ∧ WritesUnderOwnToken (sampleInput "APPROVE" Unit) S := by
  obtain ⟨now, c, v, k, hr⟩ := reaches_standing (accepted_inputOf (.sample [] (js "APPROVE")))
    (by decide) (by decide +kernel) (mutationRequest_arrays (argumentArrays_inputOf _))
  have hmoves : Pool.Moves (World 1) InMemoryExecutionJournal.empty ([clocked now] ++
      claimed c (.ok (.CLAIMED 1)) :: [wasRead (readTarget (inputOf (.sample [] (js "APPROVE")))) (.ok v)])
      (claimedOnce c) :=
    .cons (.clock _ now) (.cons (.claim _ 0 c) (.cons (.read _ _ _) (.nil _)))
  have hstart : Pool.Run (World 1) (NoTakeover .node (sampleInput "APPROVE" Unit))
      (Workers.start .node (sampleInput "APPROVE" Unit) InMemoryExecutionJournal.empty)
      (Workers.start .node (sampleInput "APPROVE" Unit) InMemoryExecutionJournal.empty) := .refl
  obtain ⟨S, hrun, -, hprog, -⟩ := hstart.alone (i := ()) hr hmoves (by
    intro S e r s q hm j c' t hhist
    have hev : (⟨e, r⟩ : Event Effect Effect.Reply) = claimed c' (.ok (.RECONCILE t)) := by
      simpa [Pool.after] using hhist
    rw [hev] at hm
    simp only [List.singleton_append, List.mem_cons, List.not_mem_nil, or_false] at hm
    rcases hm with hm | hm | hm <;> cases hm)
  have hstanding := congrFun hprog ()
  rw [Function.update_self] at hstanding
  exact ⟨S, _, k, hstanding, writesUnderOwnToken hrun⟩

/-- The first worker reads slowly; its lease runs out and the second takes it over; the read returns
the approved state, and the first writes. -/
theorem not_writesUnderOwnToken_slowRead :
    ∃ S : Workers Bool Nat, Pool.Run (World 1) (fun _ _ => True)
      (Workers.start .node (sampleInput "APPROVE" Bool) InMemoryExecutionJournal.empty) S ∧
      ¬ WritesUnderOwnToken (sampleInput "APPROVE" Bool) S := by
  obtain ⟨now, c, v, k, hr⟩ := reaches_standing (accepted_inputOf (.sample [] (js "APPROVE")))
    (by decide) (by decide +kernel) (mutationRequest_arrays (argumentArrays_inputOf _))
  obtain ⟨k₁, hclaim⟩ := hr.at_call
  have hkey := claim_key hclaim
  rw [List.append_cons] at hr
  obtain ⟨m, hfirst, hlast⟩ := hr.split
  have hstart : Pool.Run (World 1) (fun _ _ => True)
      (Workers.start .node (sampleInput "APPROVE" Bool) InMemoryExecutionJournal.empty)
      (Workers.start .node (sampleInput "APPROVE" Bool) InMemoryExecutionJournal.empty) := .refl
  -- the first worker claims
  obtain ⟨S₁, hrun₁, hs₁, hp₁, hh₁⟩ := hstart.alone (i := false) hfirst (claimedOnce_moves now c)
    fun _ _ _ _ _ _ => trivial
  -- the second takes the lease over
  have hsecond : Reaches (S₁.program true) [clocked now, claimed c (.ok (.RECONCILE 2))]
      (k₁ (.ok (.RECONCILE 2))) := by
    rw [hp₁, Function.update_of_ne (by decide)]
    exact hclaim.trans (.step (.refl _))
  obtain ⟨S₂, hrun₂, hs₂, hp₂, hh₂⟩ := hrun₁.alone hsecond
    (s := ((claimedOnce c).claim 1 5 c).1) (by rw [hs₁]; exact claim_again_moves now c)
    fun _ _ _ _ _ _ => trivial
  -- the first reads
  have hthird : Reaches (S₂.program false) [wasRead (readTarget (inputOf (.sample [] (js "APPROVE"))))
      (.ok v)] (.call (.addTags _) k) := by
    rw [hp₂, Function.update_of_ne (by decide), hp₁, Function.update_self]
    exact hlast
  obtain ⟨S₃, hrun₃, hs₃, hp₃, hh₃⟩ := hrun₂.alone hthird
    (.cons (.read _ _ _) (.nil _)) fun _ _ _ _ _ _ => trivial
  refine ⟨S₃, hrun₃, fun hw => ?_⟩
  obtain ⟨t, f, htoken, hf, rfl⟩ := hw false _ k (by rw [hp₃, Function.update_self])
  rw [hh₃, Function.update_self, hh₂, Function.update_of_ne (by decide), hh₁, Function.update_self] at htoken
  have hone := holdsToken_standing htoken
  obtain ⟨-, f', hf', htwo, -⟩ := claim_again c
  rw [hs₃, hs₂] at hf
  rw [hkey] at hf'
  have hsame : f' = f := Option.some.inj (hf'.symm.trans hf)
  rw [hsame] at htwo
  omega

/-! ## 3. Rejected approvals -/

/-- The worker executes this approval. -/
def IsAbout (input : ExecuteApprovedRemediationInput) (approvalId : Text) : Prop :=
  ∃ c, claimInput input = .ok c ∧ c.approvalId = approvalId

/-- The worker was granted this claim, or recovered it. -/
def WasGranted (h : History) (c : ClaimInput) : Prop :=
  ∃ t, claimed c (.ok (.CLAIMED t)) ∈ h ∨ claimed c (.ok (.RECONCILE t)) ∈ h

/-- The reasons of a recovery that goes no further. -/
def recoveryReasons : List BlockedReason := [.UNREADABLE_RECOVERY, .POST_STATE_EXISTS, .DIVERGED_RECOVERY]

/-- A receipt of a recovery that went no further. -/
def FromRecovery (receipt : Value) : Prop :=
  receipt.getPath ["outcome"] = ExecutionOutcome.INDETERMINATE.name ∧
    ∃ reason ∈ recoveryReasons, receipt.getPath ["rollback"] = blocked reason

/-- What is known of a rejected approval: nothing was written for it, and a receipt recorded for it
is `REJECTED`, or that of a recovery, and then some worker did take a stale lease over. -/
structure OnlyRejected {ι : Type} (input : ι → ExecuteApprovedRemediationInput) (approvalId : Text)
    (J : InMemoryExecutionJournal τ) (hist : ι → History) : Prop where
  unwritten : ∀ i, IsAbout (input i) approvalId → ∀ request answer, written request answer ∉ hist i
  recorded : ∀ k f, J.byIdempotencyKey k = some f → f.approvalId = approvalId →
    f.receipt.truthy = true →
      f.receipt.getPath ["outcome"] = ExecutionOutcome.REJECTED.name ∨
        FromRecovery f.receipt ∧ ∃ i c t, IsAbout (input i) approvalId ∧
          claimed c (.ok (.RECONCILE t)) ∈ hist i

section Rejected

variable {input : ExecuteApprovedRemediationInput} {h : History} {b : ReceiptBinding} {t : TerminalInput}

theorem WasGranted.append {c : ClaimInput} (hc : WasGranted h c) (h' : History) : WasGranted (h ++ h') c := by
  obtain ⟨u, hu | hu⟩ := hc
  · exact ⟨u, Or.inl (List.mem_append_left _ hu)⟩
  · exact ⟨u, Or.inr (List.mem_append_left _ hu)⟩

/-- The claim a worker goes on with is its own. -/
def GoesOn (input : ExecuteApprovedRemediationInput) (h : History) (b : ReceiptBinding) : Prop :=
  ∃ c, claimInput input = .ok c ∧ WasGranted h c ∧ b.idempotencyKey = c.idempotencyKey

theorem GoesOn.append (hg : GoesOn input h b) (h' : History) : GoesOn input (h ++ h') b := by
  obtain ⟨c, hc, hw, hk⟩ := hg
  exact ⟨c, hc, hw.append h', hk⟩

theorem goesOn_recovering (hr : Recovering P input h b) : GoesOn input h b := by
  cases hr with
  | @mk startedAt c token begun =>
    exact ⟨c, begun.claim, ⟨token, Or.inr (List.mem_cons_of_mem _ (List.mem_singleton.mpr rfl))⟩,
      (claimInput_key begun.claim).symm⟩

theorem goesOn_granted (hg : Granted P input h b) : GoesOn input h b := by
  cases hg with
  | @claimed startedAt c token begun =>
    exact ⟨c, begun.claim, ⟨token, Or.inl (List.mem_cons_of_mem _ (List.mem_singleton.mpr rfl))⟩,
      (claimInput_key begun.claim).symm⟩
  | resumed hr _ => exact (goesOn_recovering hr).append _

theorem goesOn_ready {current : Value} (hr : Ready P input h b current) : GoesOn input h b := by
  cases hr with
  | mk due _ => exact (goesOn_granted due.granted).append _

theorem goesOn_exit (he : Exit P input h b t) : GoesOn input h b := by
  cases he with
  | unreadableRecovery hr => exact (goesOn_recovering hr).append _
  | diverged hr _ _ _ => exact (goesOn_recovering hr).append _
  | rejected hg _ => exact (goesOn_granted hg).append _
  | expired hg _ _ => exact (goesOn_granted hg).append _
  | unreadable hd => exact (goesOn_granted hd.granted).append _
  | changed hd _ _ => exact (goesOn_granted hd.granted).append _
  | failed hf _ =>
    cases hf with
    | request hr _ => exact (goesOn_ready hr).append _
    | call hr _ => exact ((goesOn_ready hr).append _).append _
  | unreadableAfter hk =>
    cases hk with
    | mk hr _ => exact ((goesOn_ready hr).append _).append _
  | judged hk _ =>
    cases hk with
    | mk hr _ => exact ((goesOn_ready hr).append _).append _

theorem Ready.approved {current : Value} (hr : Ready P input h b current) :
    (input.artifacts.decision.getPath ["decision"]).isText (js "REJECT") = false := by
  cases hr with
  | mk due _ => exact due.approved

theorem recovering_claimed (hr : Recovering P input h b) :
    ∃ c u, claimed c (.ok (.RECONCILE u)) ∈ h := by
  cases hr with
  | @mk startedAt c token begun =>
    exact ⟨c, token, List.mem_cons_of_mem _ (List.mem_singleton.mpr rfl)⟩

/-- **The exits of a rejected decision**: the rejection itself, and two of the recovery. -/
theorem exit_rejected {receipt : Value} (he : Exit P input h b t)
    (hreject : (input.artifacts.decision.getPath ["decision"]).isText (js "REJECT") = true)
    (hr : receiptFor P b t = .ok receipt) :
    receipt.getPath ["outcome"] = ExecutionOutcome.REJECTED.name ∨
      FromRecovery receipt ∧ ∃ c u, claimed c (.ok (.RECONCILE u)) ∈ h := by
  obtain ⟨id, events, hm⟩ := receiptFor_members hr
  have happroved : ∀ {q : Prop},
      (input.artifacts.decision.getPath ["decision"]).isText (js "REJECT") = false → q := by
    intro q hf
    rw [hreject] at hf
    cases hf
  cases he with
  | unreadableRecovery hrec =>
    obtain ⟨c, u, hc⟩ := recovering_claimed hrec
    exact Or.inr ⟨⟨hm.outcome, _, by simp [recoveryReasons], hm.rollback⟩, c, u, List.mem_append_left _ hc⟩
  | @diverged _ _ _ _ reached _ hrec =>
    obtain ⟨c, u, hc⟩ := recovering_claimed hrec
    exact Or.inr ⟨⟨hm.outcome, _, by cases reached <;> simp [recoveryReasons], hm.rollback⟩, c, u,
      List.mem_append_left _ hc⟩
  | rejected => exact Or.inl hm.outcome
  | expired _ hf _ => exact happroved hf
  | unreadable hd => exact happroved hd.approved
  | changed hd _ _ => exact happroved hd.approved
  | failed hf _ =>
    cases hf with
    | request hready _ => exact happroved hready.approved
    | call hready _ => exact happroved hready.approved
  | unreadableAfter hk =>
    cases hk with
    | mk hready _ => exact happroved hready.approved
  | judged hk _ =>
    cases hk with
    | mk hready _ => exact happroved hready.approved

end Rejected

section Recorded

variable {ι : Type} [DecidableEq ι] {input : ι → ExecuteApprovedRemediationInput} {a : Text}
  {hist : ι → History}

/-- Where a stored receipt comes from: it was there, or this call stored it. -/
theorem World.receipt {e : Effect} {r : e.Reply} (h : World L J e r J') {k : Text}
    {f : ExecutionRecord τ} (hk : J'.byIdempotencyKey k = some f) (hf : f.receipt.truthy = true) :
    J.byIdempotencyKey k = some f ∨ ∃ lease receipt g, e = .complete lease receipt ∧
      k = lease.idempotencyKey ∧ J.byIdempotencyKey k = some g ∧ g.approvalId = f.approvalId ∧
      f.receipt = receipt := by
  have replaced : ∀ {key : Text} {g : ExecutionRecord τ},
      (J.withRecord key g).byIdempotencyKey k = some f → g.receipt.truthy = false →
        J.byIdempotencyKey k = some f := by
    intro key g hk hg
    by_cases hne : k = key
    · subst hne
      rw [InMemoryExecutionJournal.withRecord_self] at hk
      obtain rfl := Option.some.inj hk
      exact absurd hf (by simp [hg])
    · rwa [InMemoryExecutionJournal.withRecord_of_ne g hne] at hk
  cases h with
  | clock now => exact Or.inl hk
  | claim now c =>
    rcases InMemoryExecutionJournal.claim_cases (L := L) (J := J) now c with
      ⟨-, -, he⟩ | ⟨g, -, -, -, hopen, -, he⟩ | ⟨he, -, -⟩
    · rw [he] at hk
      exact Or.inl (replaced hk (by simp [truthy]))
    · rw [he] at hk
      exact Or.inl (replaced hk hopen)
    · rw [he] at hk
      exact Or.inl hk
  | resume now lease =>
    rcases InMemoryExecutionJournal.resume_cases (L := L) (J := J) now lease with
      ⟨g, -, hopen, -, -, -, he⟩ | he
    · rw [he] at hk
      exact Or.inl (replaced hk hopen)
    · rw [he] at hk
      exact Or.inl hk
  | complete lease receipt =>
    rcases InMemoryExecutionJournal.complete_cases (J := J) lease receipt with
      ⟨g, hg, -, -, -, -, -, he⟩ | he
    · rw [he] at hk
      by_cases hne : k = lease.idempotencyKey
      · subst hne
        rw [InMemoryExecutionJournal.withRecord_self] at hk
        obtain rfl := Option.some.inj hk
        exact Or.inr ⟨lease, receipt, g, rfl, rfl, hg, rfl, rfl⟩
      · rw [InMemoryExecutionJournal.withRecord_of_ne _ hne] at hk
        exact Or.inl hk
    · rw [he] at hk
      exact Or.inl hk
  | read target answer => exact Or.inl hk
  | write request answer => exact Or.inl hk

/-- The record under a granted claim belongs to its approval. -/
def Bound (J : InMemoryExecutionJournal τ) (hist : ι → History) : Prop :=
  ∀ i c, WasGranted (hist i) c →
    ∃ f, J.byIdempotencyKey c.idempotencyKey = some f ∧ f.approvalId = c.approvalId

/-- A claim that is granted leaves its record. -/
theorem claim_bound {now : τ} {c : ClaimInput} {u : Nat}
    (h : (J.claim L now c).2 = .CLAIMED u ∨ (J.claim L now c).2 = .RECONCILE u) :
    ∃ f, (J.claim L now c).1.byIdempotencyKey c.idempotencyKey = some f ∧
      f.approvalId = c.approvalId := by
  rcases InMemoryExecutionJournal.claim_cases (L := L) (J := J) now c with
    ⟨-, -, he⟩ | ⟨f, -, happroval, -, -, -, he⟩ | ⟨-, hclaimed, hreconcile⟩
  · rw [he]
    exact ⟨_, Function.update_self .., rfl⟩
  · rw [he]
    exact ⟨_, InMemoryExecutionJournal.withRecord_self _ _, happroval⟩
  · rcases h with h | h
    · exact absurd h (hclaimed u)
    · exact absurd h (hreconcile u)

theorem bound_step {i : ι} {e : Effect} {r : e.Reply} (hbound : Bound J hist)
    (hworld : World L J e r J') : Bound J' (Function.update hist i (hist i ++ [⟨e, r⟩])) := by
  intro j c hc
  have kept : WasGranted (hist j) c → ∃ f, J'.byIdempotencyKey c.idempotencyKey = some f ∧
      f.approvalId = c.approvalId := by
    intro hj
    obtain ⟨f, hf, happroval⟩ := hbound j c hj
    obtain ⟨f', hf', hlater⟩ := hworld.later hf
    exact ⟨f', hf', hlater.approvalId.trans happroval⟩
  by_cases hij : j = i
  · subst hij
    rw [Function.update_self] at hc
    obtain ⟨u, hm | hm⟩ := hc
    · rcases List.mem_append.mp hm with hm | hm
      · exact kept ⟨u, Or.inl hm⟩
      · cases List.mem_singleton.mp hm
        obtain ⟨now, hr, rfl⟩ := hworld.of_claim
        exact claim_bound (Or.inl (Except.ok.inj hr).symm)
    · rcases List.mem_append.mp hm with hm | hm
      · exact kept ⟨u, Or.inr hm⟩
      · cases List.mem_singleton.mp hm
        obtain ⟨now, hr, rfl⟩ := hworld.of_claim
        exact claim_bound (Or.inr (Except.ok.inj hr).symm)
  · rw [Function.update_of_ne hij] at hc
    exact kept hc

theorem mem_update {i j : ι} {ev x : Event Effect Effect.Reply} (hx : x ∈ hist j) :
    x ∈ Function.update hist i (hist i ++ [ev]) j := by
  by_cases hij : j = i
  · subst hij
    rw [Function.update_self]
    exact List.mem_append_left _ hx
  · rwa [Function.update_of_ne hij]

/-- **One step** keeps what is known of a rejected approval. -/
theorem onlyRejected_step {i : ι} {e : Effect} {r : e.Reply} (hbound : Bound J hist)
    (hreject : ∀ i, IsAbout (input i) a →
      ((input i).artifacts.decision.getPath ["decision"]).isText (js "REJECT") = true)
    (hinv : OnlyRejected input a J hist) (hallowed : Allowed P (input i) (hist i) e)
    (hworld : World L J e r J') :
    OnlyRejected input a J' (Function.update hist i (hist i ++ [⟨e, r⟩])) := by
  constructor
  · intro j habout request answer hm
    by_cases hij : j = i
    · subst hij
      rw [Function.update_self] at hm
      rcases List.mem_append.mp hm with hm | hm
      · exact hinv.unwritten j habout request answer hm
      · cases List.mem_singleton.mp hm
        obtain ⟨b, current, hready, -⟩ := hallowed
        exact absurd hready.approved (by simp [hreject j habout])
    · rw [Function.update_of_ne hij] at hm
      exact hinv.unwritten j habout request answer hm
  · intro k f hk happroval hf
    rcases hworld.receipt hk hf with hold | ⟨lease, receipt, g, rfl, rfl, hg, hsame, rfl⟩
    · rcases hinv.recorded k f hold happroval hf with hout | ⟨hrec, j, c, u, habout, hm⟩
      · exact Or.inl hout
      · exact Or.inr ⟨hrec, j, c, u, habout, mem_update hm⟩
    · obtain ⟨b, t, hexit, hreceipt, rfl⟩ := hallowed
      obtain ⟨c, hclaim, hgranted, hkey⟩ := goesOn_exit hexit
      obtain ⟨g', hg', hbelongs⟩ := hbound i c hgranted
      have hgg : g' = g := by
        have : b.lease.idempotencyKey = c.idempotencyKey := hkey
        rw [← this, hg] at hg'
        exact (Option.some.inj hg').symm
      have habout : IsAbout (input i) a := ⟨c, hclaim, by rw [← hbelongs, hgg, hsame, happroval]⟩
      rcases exit_rejected hexit (hreject i habout) hreceipt with hout | ⟨hrec, c', u, hm⟩
      · exact Or.inl hout
      · exact Or.inr ⟨hrec, i, c', u, habout, mem_update hm⟩

/-- The terminal input of a recovery whose read fails. -/
def unreadableTerminal (completedAt : Text) : TerminalInput where
  outcome := .INDETERMINATE
  completedAt := completedAt
  rollback := blocked .UNREADABLE_RECOVERY

/-- It can be recorded, whatever was decided. -/
theorem unreadable_recordable {input : ExecuteApprovedRemediationInput}
    (x : Accepted P input.artifacts) (hkey : input.idempotencyKey ≠ []) (token : Nat)
    (startedAt completedAt : Text) :
    ∃ receipt, receiptFor P (bindingOf input token startedAt) (unreadableTerminal completedAt)
      = .ok receipt :=
  (receiptFor_iff x (b := bindingOf input token startedAt) rfl hkey rfl (by simp [unreadableTerminal])
    (by simp [unreadableTerminal, blocked])).mpr
    ⟨by simp [unreadableTerminal, projectionOk, truthy], by simp [unreadableTerminal, projectionOk, truthy],
      by simp [unreadableTerminal, truthy], by simp [unreadableTerminal, truthy],
      by simp [unreadableTerminal, truthy]⟩

/-- The journal takes a terminal receipt under the record's token. -/
theorem complete_recorded {J : InMemoryExecutionJournal Nat} {b : ReceiptBinding} {t : TerminalInput}
    {f : ExecutionRecord Nat} {receipt : Value} (hf : J.byIdempotencyKey b.idempotencyKey = some f)
    (htoken : f.fencingToken = b.fencingToken) (hopen : f.receipt = .undefined)
    (hstatus : f.status = .RECONCILING) (hdigest : (b.artifacts.decision.getPath ["digest"]).truthy = true)
    (hbound : b.artifacts.decision.getPath ["digest"] = .str f.approvalDecisionDigest)
    (hr : receiptFor P b t = .ok receipt) :
    J.complete b.lease receipt = (J.withRecord b.idempotencyKey
      { f with receipt := receipt, status := .COMPLETED }, .ok ()) := by
  obtain ⟨id, events, hm⟩ := receiptFor_members hr
  have hkey : receipt.get (js "idempotencyKey") = .str b.idempotencyKey := hm.idempotencyKey
  have hdecision : receipt.get (js "approvalDecisionDigest") = .str f.approvalDecisionDigest :=
    (hm.approvalDecisionDigest.trans (ifTruthy_of_truthy hdigest)).trans hbound
  have hn : receipt.isNullish = false :=
    isNullish_of_getPath (k := "idempotencyKey") (by rw [hm.idempotencyKey]; simp)
  have hkey' : b.lease.idempotencyKey = b.idempotencyKey := rfl
  simp [InMemoryExecutionJournal.complete, hkey', hf, htoken, ReceiptBinding.lease, hn, hkey, hdecision, hopen,
    hstatus, truthy]

/-- The invariant of the runs. -/
def RejectedKept (input : ι → ExecuteApprovedRemediationInput) (a : Text)
    (J : InMemoryExecutionJournal τ) (hist : ι → History) : Prop :=
  Bound J hist ∧ OnlyRejected input a J hist

/-- A run of the rejected sample: the first worker claims and crashes, the second takes the lease over,
cannot read the catalog, and records that. -/
theorem recovered_run : ∃ (S : Workers Bool Nat) (f : ExecutionRecord Nat),
    Pool.Run (World 1) (fun _ _ => True)
      (Workers.start .node (sampleInput "REJECT" Bool) InMemoryExecutionJournal.empty) S ∧
    (∃ k, S.shared.byIdempotencyKey k = some f) ∧ IsAbout (sampleInput "REJECT" Bool true) f.approvalId ∧
    f.receipt.truthy = true ∧ f.receipt.getPath ["outcome"] = ExecutionOutcome.INDETERMINATE.name := by
  have hacc := accepted_inputOf (.sample [] (js "REJECT"))
  obtain ⟨x⟩ := approvalArtifactsValid_facts hacc
  have hkey : nonBlank (inputOf (.sample [] (js "REJECT"))).idempotencyKey = true := by decide
  obtain ⟨receipt, hreceipt⟩ := unreadable_recordable x (nonBlank_ne_nil hkey) 2 x.decidedAt x.decidedAt
  have hreconcile : Reaches (onClaim .node (inputOf (.sample [] (js "REJECT"))) x.decidedAt (.RECONCILE 2))
      [wasRead (readTarget (inputOf (.sample [] (js "REJECT")))) (.error .typeError), clocked x.decidedAt,
        completed (bindingOf (inputOf (.sample [] (js "REJECT"))) 2 x.decidedAt).lease receipt (.ok ())]
      (.done (.ok receipt)) :=
    reaches_read (.error .typeError) <| reaches_clock x.decidedAt <| reaches_pureRun hreceipt <|
      reaches_complete (.ok ()) (.refl _)
  have hfirst := reaches_onClaim x hacc hkey
    (.refl (onClaim .node (inputOf (.sample [] (js "REJECT"))) x.decidedAt (.CLAIMED 1)))
  have hsecond := reaches_onClaim x hacc hkey hreconcile
  obtain ⟨hagain, f, hf, htoken, happroval, hdigest, hopen, hstatus⟩ := claim_again (claimOf x)
  have hclaim : World 1 (claimedOnce (claimOf x)) (.claim (claimOf x)) (.ok (.RECONCILE 2))
      ((claimedOnce (claimOf x)).claim 1 5 (claimOf x)).1 := by
    rw [← hagain]
    exact .claim _ 5 _
  have hstored := complete_recorded (b := bindingOf (inputOf (.sample [] (js "REJECT"))) 2 x.decidedAt)
    hf htoken hopen hstatus (decision_digest_truthy x) (x.decision_digest.trans (by rw [hdigest]; rfl)) hreceipt
  have hcomplete : World 1 ((claimedOnce (claimOf x)).claim 1 5 (claimOf x)).1
      (.complete (bindingOf (inputOf (.sample [] (js "REJECT"))) 2 x.decidedAt).lease receipt) (.ok ())
      (((claimedOnce (claimOf x)).claim 1 5 (claimOf x)).1.complete
        (bindingOf (inputOf (.sample [] (js "REJECT"))) 2 x.decidedAt).lease receipt).1 := by
    have h := World.complete (L := 1) ((claimedOnce (claimOf x)).claim 1 5 (claimOf x)).1
      (bindingOf (inputOf (.sample [] (js "REJECT"))) 2 x.decidedAt).lease receipt
    rwa [show (((claimedOnce (claimOf x)).claim 1 5 (claimOf x)).1.complete
      (bindingOf (inputOf (.sample [] (js "REJECT"))) 2 x.decidedAt).lease receipt).2 = .ok () from
        congrArg Prod.snd hstored] at h
  have hstart : Pool.Run (World 1) (fun _ _ => True)
      (Workers.start .node (sampleInput "REJECT" Bool) InMemoryExecutionJournal.empty)
      (Workers.start .node (sampleInput "REJECT" Bool) InMemoryExecutionJournal.empty) := .refl
  -- the first worker claims, and takes no more steps
  obtain ⟨S₁, hrun₁, hs₁, hp₁, -⟩ := hstart.alone (i := false) hfirst
    (claimedOnce_moves x.decidedAt (claimOf x)) fun _ _ _ _ _ _ => trivial
  -- the second recovers the execution
  have hthere : S₁.program true = executeApprovedRemediation .node (inputOf (.sample [] (js "REJECT"))) := by
    rw [hp₁, Function.update_of_ne (by decide)]
    rfl
  rw [← hthere] at hsecond
  have hmoves : Pool.Moves (World 1) (claimedOnce (claimOf x))
      [clocked x.decidedAt, claimed (claimOf x) (.ok (.RECONCILE 2)),
        wasRead (readTarget (inputOf (.sample [] (js "REJECT")))) (.error .typeError), clocked x.decidedAt,
        completed (bindingOf (inputOf (.sample [] (js "REJECT"))) 2 x.decidedAt).lease receipt (.ok ())]
      (((claimedOnce (claimOf x)).claim 1 5 (claimOf x)).1.complete
        (bindingOf (inputOf (.sample [] (js "REJECT"))) 2 x.decidedAt).lease receipt).1 :=
    .cons (.clock _ _) (.cons hclaim (.cons (.read _ _ _) (.cons (.clock _ _) (.cons hcomplete (.nil _)))))
  rw [← hs₁] at hmoves
  obtain ⟨S₂, hrun₂, hs₂, -, -⟩ := hrun₁.alone hsecond hmoves fun _ _ _ _ _ _ => trivial
  obtain ⟨id, events, hm⟩ := receiptFor_members hreceipt
  refine ⟨S₂, { f with receipt := receipt, status := .COMPLETED }, hrun₂,
    ⟨_, by rw [hs₂, hs₁, hstored]; exact InMemoryExecutionJournal.withRecord_self _ _⟩,
    ⟨claimOf x, claimInput_eq x, happroval.symm⟩, ?_, hm.outcome⟩
  exact truthy_of_get (js "idempotencyKey") (by
    rw [show receipt.get (js "idempotencyKey") = _ from hm.idempotencyKey]; simp) (by decide) (by decide)

/-- **A rejected approval is not written for**, and it is recorded as `REJECTED`, or by a worker
that took a stale lease over and could not read the approved state. -/
theorem rejected_recorded {S : Workers ι τ}
    (hreject : ∀ i, IsAbout (input i) a →
      ((input i).artifacts.decision.getPath ["decision"]).isText (js "REJECT") = true)
    (hrun : Pool.Run (World L) (fun _ _ => True)
      (Workers.start P input InMemoryExecutionJournal.empty) S) :
    OnlyRejected input a S.shared S.history := by
  have hwhole : RejectedKept input a S.shared S.history ∧
      ∀ i, (S.program i).Obeys (Allowed P (input i)) (Ends P (input i)) (S.history i) := by
    refine Pool.invariant hrun (fun i => executeApprovedRemediation_obeys P (input i)) ⟨?_, ?_, ?_⟩ ?_
    · rintro i c ⟨u, hm | hm⟩ <;> cases hm
    · intro i _ request answer hm
      cases hm
    · intro k f hk
      cases hk
    · intro S₁ i e k r J' hinv hp hallowed hworld _
      exact ⟨bound_step hinv.1 hworld, onlyRejected_step hinv.1 hreject hinv.2 hallowed hworld⟩
  exact hwhole.1.2

/-- What `rejected_recorded` says of it. -/
theorem rejected_recorded_recovery : ∃ (S : Workers Bool Nat) (a : Text),
    IsAbout (sampleInput "REJECT" Bool true) a ∧
      OnlyRejected (sampleInput "REJECT" Bool) a S.shared S.history := by
  obtain ⟨S, f, hrun, -, habout, -⟩ := recovered_run
  have hreject : ((inputOf (P := .node) (.sample [] (js "REJECT"))).artifacts.decision.getPath
      ["decision"]).isText (js "REJECT") = true := by decide +kernel
  exact ⟨S, f.approvalId, habout, rejected_recorded (fun _ _ => hreject) hrun⟩

/-- The approval was rejected, and `INDETERMINATE` is what is recorded. -/
theorem not_onlyRejected_recovery : ∃ (S : Workers Bool Nat) (k : Text) (f : ExecutionRecord Nat),
    Pool.Run (World 1) (fun _ _ => True)
      (Workers.start .node (sampleInput "REJECT" Bool) InMemoryExecutionJournal.empty) S ∧
    S.shared.byIdempotencyKey k = some f ∧ IsAbout (sampleInput "REJECT" Bool true) f.approvalId ∧
    f.receipt.truthy = true ∧ f.receipt.getPath ["outcome"] ≠ ExecutionOutcome.REJECTED.name := by
  obtain ⟨S, f, hrun, ⟨k, hk⟩, habout, ht, hout⟩ := recovered_run
  refine ⟨S, k, f, hrun, hk, habout, ht, fun hrejected => ?_⟩
  exact absurd (ExecutionOutcome.name_inj.mp (hout.symm.trans hrejected)) (by decide)

end Recorded

end Remediation
