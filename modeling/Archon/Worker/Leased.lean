/-
# A lease that is lost before the write

The mutation port that the worker hands to the loop renews the execution lease and then calls
DataHub.  The loop does not know of the lease.  It takes every error of the port for a write whose
fate is unknown, reads the field once more, and completes the journal's record with an
`INDETERMINATE` receipt; so a renewal that fails uses the approval up, though nothing was written
(`not_leavesRetryable_renewal`).  A request that cannot be formed is taken the same way.  Where
every renewal succeeds and the request can be formed, such a receipt means that DataHub was called
(`leavesRetryable`).
-/
import Archon.Worker.Trust
import Archon.Remediation.Terminal

namespace Worker

open Ecma Ecma.Value Remediation Resumption Resumption.Program

/-! ## 1. Receipts of the mutation step -/

/-- The receipt leaves the outcome open, because of the write or of the read after it. -/
def FromMutationStep (receipt : Value) : Prop :=
  receipt.getPath ["outcome"] = ExecutionOutcome.INDETERMINATE.name ∧
    (receipt.getPath ["rollback", "reason"] = lit BlockedReason.UNPROVEN_MUTATION.text ∨
      receipt.getPath ["rollback", "reason"] = lit BlockedReason.UNREADABLE_AFTER.text)

/-- What the lease is for: such a receipt is recorded only when the DataHub port was called, and
none at all once a renewal has failed. -/
structure LeavesRetryable (H : WorkerHistory) : Prop where
  recorded : ∀ lease receipt answer, controlled (.complete lease receipt) answer ∈ H →
    FromMutationStep receipt → ∃ request reply, controlled (.addTags request) reply ∈ H
  retryable : ∀ error, renewed (.error error) ∈ H → ∀ lease receipt answer,
    controlled (.complete lease receipt) answer ∉ H

theorem BlockedReason.text_inj {r s : BlockedReason} : lit r.text = lit s.text ↔ r = s := by
  constructor
  · intro h
    have ht : r.text = s.text := js_inj.mp (Value.str.inj h)
    cases r <;> cases s <;> first | rfl | exact absurd ht (by decide)
  · rintro rfl
    rfl

theorem blocked_reason (r : BlockedReason) : (blocked r).get (js "reason") = lit r.text := by
  simp [blocked, List.lookup]

section Places

variable {P : Platform} {input : ExecuteApprovedRemediationInput} {h : History} {b : ReceiptBinding}
  {t : TerminalInput} {receipt : Value}

/-- A terminal receipt of the mutation step was built with one of its two reasons. -/
theorem FromMutationStep.rollback {r : BlockedReason} (hf : FromMutationStep receipt)
    (hr : receiptFor P b t = .ok receipt) (ht : t.rollback = blocked r) :
    r = .UNPROVEN_MUTATION ∨ r = .UNREADABLE_AFTER := by
  obtain ⟨id, events, hm⟩ := receiptFor_members hr
  have hreason : receipt.getPath ["rollback", "reason"] = lit r.text := by
    rw [getPath_pair, hm.rollback, receiptInput, ht, blocked_reason]
  obtain ⟨-, h | h⟩ := hf
  · exact Or.inl (BlockedReason.text_inj.mp (hreason.symm.trans h))
  · exact Or.inr (BlockedReason.text_inj.mp (hreason.symm.trans h))

theorem FromMutationStep.outcome (hf : FromMutationStep receipt)
    (hr : receiptFor P b t = .ok receipt) : t.outcome = .INDETERMINATE := by
  obtain ⟨id, events, hm⟩ := receiptFor_members hr
  exact ExecutionOutcome.name_inj.mp (hm.outcome.symm.trans hf.1)

/-- **Where such receipts come from**: the request could not be formed, or the loop saw its write
answered. -/
theorem Exit.of_mutationStep (he : Exit P input h b t) (hr : receiptFor P b t = .ok receipt)
    (hf : FromMutationStep receipt) :
    (∃ error, mutationRequest input.artifacts.plan = .error error) ∨
      ∃ request answer, written request answer ∈ h := by
  have hroll := fun r => @FromMutationStep.rollback P b t receipt r hf hr
  have hout := hf.outcome hr
  cases he with
  | unreadableRecovery => exact absurd (hroll _ rfl) (by simp)
  | @diverged _ _ _ _ reached => exact absurd (hroll _ rfl) (by cases reached <;> simp)
  | rejected => cases hout
  | expired => cases hout
  | unreadable => cases hout
  | changed => cases hout
  | failed hfailed =>
    cases hfailed with
    | request _ malformed => exact Or.inl ⟨_, malformed⟩
    | call => exact Or.inr ⟨_, _, by simp; exact Or.inr (Or.inl rfl)⟩
  | unreadableAfter hack =>
    cases hack with
    | mk => exact Or.inr ⟨_, _, by simp; exact Or.inr (Or.inl rfl)⟩
  | @judged _ _ _ _ _ _ _ verified => cases verified <;> cases hout

end Places

/-! ## 2. Runs that record one -/

section Runs

/-- A call of the loop that the worker passes on. -/
def IsPassedOn : Event Effect Effect.Reply → Prop
  | ⟨.addTags _, _⟩ => False
  | _ => True

/-- The same call, made by the worker. -/
def passedOn (ev : Event Effect Effect.Reply) : Event WorkerEffect WorkerEffect.Reply :=
  controlled ev.1 ev.2

theorem answered_passedOn (leased : Bool) {h' : History} {H' : WorkerHistory}
    (hrest : Answered (answerLoop leased) h' H') : ∀ {h : History}, (∀ ev ∈ h, IsPassedOn ev) →
      Answered (answerLoop leased) (h ++ h') (h.map passedOn ++ H')
  | [], _ => hrest
  | ⟨e, r⟩ :: h, hall => by
    obtain ⟨hev, hall⟩ := List.forall_mem_cons.mp hall
    have hcall : Reaches (answerLoop leased e) [controlled e r] (.done (.ok r)) := by
      cases e with
      | addTags request => exact absurd hev id
      | _ => exact .step (.refl _)
    have hcons := Answered.cons hcall (answered_passedOn leased hrest hall)
    exact hcons

theorem fetched_not_passedOn {digest : Text} {answer : Run Value} {h : History} :
    fetched digest answer ∉ h.map passedOn := by
  simp [fetched, passedOn, controlled]

theorem renewed_not_passedOn {answer : Run Unit} {h : History} : renewed answer ∉ h.map passedOn := by
  simp [renewed, passedOn, controlled]

theorem addTags_not_passedOn {request : Value} {reply : Run Value} {h : History}
    (hall : ∀ ev ∈ h, IsPassedOn ev) : controlled (.addTags request) reply ∉ h.map passedOn := by
  intro hm
  obtain ⟨⟨e, r⟩, hev, heq⟩ := List.mem_map.mp hm
  cases heq
  exact hall _ hev

/-- The history of a worker whose loop has come past its write. -/
theorem mem_around {x : Event WorkerEffect WorkerEffect.Reply} {digest : Text} {answer : Run Value}
    {h h' : History} {H₁ : WorkerHistory} :
    x ∈ fetched digest answer :: (h.map passedOn ++ (H₁ ++ h'.map passedOn)) ↔
      x = fetched digest answer ∨ x ∈ H₁ ∨ x ∈ (h ++ h').map passedOn := by
  simp only [List.mem_cons, List.mem_append, List.map_append]
  tauto

variable {P : Platform} {message : RemediationQueueMessage} {evidence : Value}

/-- The terminal input of a write that may have been made, the state after it being unreadable. -/
def unprovenTerminal (completedAt : Text) (current : Value) : TerminalInput where
  outcome := .INDETERMINATE
  completedAt := completedAt
  before := current
  rollback := blocked .UNPROVEN_MUTATION

/-- What the loop does after such a write. -/
def unprovenHistory (b : ReceiptBinding) (readError : Exn Failure) (receipt : Value)
    (completedAt : Text) : History :=
  [wasRead (b.artifacts.dossier.getPath ["target"]) (.error readError), clocked completedAt,
    completed b.lease receipt (.ok ())]

theorem unprovenHistory_passedOn {b : ReceiptBinding} {readError : Exn Failure} {receipt : Value}
    {completedAt : Text} : ∀ ev ∈ unprovenHistory b readError receipt completedAt, IsPassedOn ev := by
  simp [unprovenHistory, wasRead, clocked, completed, IsPassedOn]

theorem reaches_unproven {b : ReceiptBinding} {current receipt request : Value} {completedAt : Text}
    (error readError : Exn Failure) (hd : isDefinitive error = false)
    (hreceipt : receiptFor P b (unprovenTerminal completedAt current) = .ok receipt)
    (hreq : mutationRequest b.artifacts.plan = .ok request) :
    Reaches (write P b current)
      (written request (.error error) :: unprovenHistory b readError receipt completedAt)
      (.done (.ok receipt)) := by
  unfold write
  rw [hreq]
  refine reaches_addTags (.error error) ?_
  unfold mutationFailed
  refine reaches_read (.error readError) (reaches_clock completedAt (reaches_pureRun rfl ?_))
  rw [hd]
  exact reaches_pureRun hreceipt (reaches_complete (.ok ()) (.refl _))

/-- **A write that throws uses the approval up**, whether DataHub threw or the renewal before it:
the loop goes on alike, and records a receipt of the mutation step. -/
theorem reaches_recorded (hw : Writable P message evidence) {request : Value}
    (hreq : mutationRequest (storedPlan evidence) = .ok request)
    (hcan : Canonicalizable ((storedPlan evidence).getPath ["expectedBefore"]))
    {error : Exn Failure} (hd : isDefinitive error = false) {H₁ : WorkerHistory}
    (hcall : Reaches (answerLoop true (.addTags request)) H₁ (.done (.ok (.error error)))) :
    ∃ (h h' : History) (q : Working Value) (lease : Lease) (receipt : Value),
      (∀ ev ∈ h ++ h', IsPassedOn ev) ∧
      Reaches (remediate P true message)
        (fetched message.evidenceDigest (.ok evidence) ::
          (h.map passedOn ++ (H₁ ++ h'.map passedOn))) q ∧
      completed lease receipt (.ok ()) ∈ h' ∧ FromMutationStep receipt := by
  have hb := boundToEvidence_bound hw.bound
  have hprep := prepare_eq_ok.mpr ⟨hw.bound, hw.steward, hw.window, rfl⟩
  have hacc := (prepared_accepted_iff hb hw.steward hw.window).mpr hw.policy
  have hdec : ((preparedInput P message evidence).artifacts.decision.getPath ["decision"]).isText
      (js "REJECT") = false := by
    show ((preparedDecision P message evidence).getPath ["decision"]).isText (js "REJECT") = false
    rw [preparedDecision_isText, hw.approved]
    decide
  obtain ⟨a⟩ := approvalArtifactsValid_facts hacc
  have hkey : nonBlank (preparedInput P message evidence).idempotencyKey = true := nonBlank_digestOf P _
  have hbefore : Canonicalizable a.plan.before.value := a.plan.before_eq ▸ hcan
  have hrecordable : Recordable P (unprovenTerminal a.decidedAt a.plan.before.value) :=
    ⟨by simp [unprovenTerminal, projectionOk], by simp [unprovenTerminal, projectionOk, truthy],
      fun _ => hbefore, by simp [unprovenTerminal, truthy], by simp [unprovenTerminal, truthy]⟩
  obtain ⟨receipt, hreceipt⟩ := (receiptFor_iff a
    (b := bindingOf (preparedInput P message evidence) 1 a.decidedAt) rfl (nonBlank_ne_nil hkey) rfl
    (by simp [unprovenTerminal]) (by simp [unprovenTerminal, blocked])).mpr hrecordable
  have hwrite := reaches_unproven error .typeError hd hreceipt hreq
  obtain ⟨claim, hreach⟩ := reaches_toWrite a hacc hkey hdec hwrite
  have hlast := answered_passedOn true Answered.nil
    (h := unprovenHistory (bindingOf (preparedInput P message evidence) 1 a.decidedAt) .typeError receipt
      a.decidedAt) unprovenHistory_passedOn
  have hfirst := answered_passedOn true (Answered.cons hcall hlast)
    (h := [clocked a.decidedAt, claimed claim (.ok (.CLAIMED 1)),
      wasRead (readTarget (preparedInput P message evidence)) (.ok a.plan.before.value)])
    (by simp [wasRead, clocked, claimed, IsPassedOn])
  rw [List.append_nil, List.append_nil] at hfirst
  have hwhole := (hfirst.reaches hreach).bind_left fun receipt =>
    storeOutcome P message evidence (preparedInput P message evidence).artifacts.decision receipt
  obtain ⟨id, events, hm⟩ := receiptFor_members hreceipt
  refine ⟨_, _, _, _, receipt, ?_, reaches_getAuditEvidence (reaches_lift hprep hwhole),
    List.mem_cons_of_mem _ (List.mem_cons_of_mem _ (List.mem_singleton.mpr rfl)), hm.outcome, Or.inl ?_⟩
  · rw [List.forall_mem_append]
    exact ⟨by simp [wasRead, clocked, claimed, IsPassedOn], unprovenHistory_passedOn⟩
  · rw [getPath_pair, hm.rollback]
    exact blocked_reason _

/-- The message about an issue that adds the policy's tag. -/
def messageAboutPii : RemediationQueueMessage :=
  messageAbout (taggedIssue (js "urn:li:tag:PII") (by decide)) .APPROVE

/-- The request its plan approves. -/
def requestPii : Value :=
  requestWith [.str (js "urn:li:tag:PII")] [lit "urn:li:dataset:crm.contacts"] [lit "email"]

theorem reaches_recorded_pii {error : Exn Failure} (hd : isDefinitive error = false)
    {H₁ : WorkerHistory}
    (hcall : Reaches (answerLoop true (.addTags requestPii)) H₁ (.done (.ok (.error error)))) :
    ∃ (h h' : History) (q : Working Value) (lease : Lease) (receipt : Value),
      (∀ ev ∈ h ++ h', IsPassedOn ev) ∧
      Reaches (remediate .node true messageAboutPii)
        (fetched messageAboutPii.evidenceDigest
          (.ok (storedEvidence (taggedIssue (js "urn:li:tag:PII") (by decide)))) ::
          (h.map passedOn ++ (H₁ ++ h'.map passedOn))) q ∧
      completed lease receipt (.ok ()) ∈ h' ∧ FromMutationStep receipt := by
  have hbefore : (taggedIssue (js "urn:li:tag:PII") (by decide)).plan.getPath ["expectedBefore"]
      = (taggedIssue (js "urn:li:tag:PII") (by decide)).before.value := by
    simp [getPath, Issue.plan, Issue.planFields, identified, List.lookup]
  refine reaches_recorded (writable_about _)
    (mutationRequest_arrays (argumentArrays_tagged (js "urn:li:tag:PII") (by decide))) ?_ hd hcall
  rw [storedPlan_about, hbefore]
  exact (taggedIssue (js "urn:li:tag:PII") (by decide)).before_canonical

end Runs

/-! ## 3. While the lease holds -/

section Holds

variable {P : Platform} {leased : Bool} {message : RemediationQueueMessage} {H : WorkerHistory}
  {q : Working Value}

/-- Before a completion the loop was running, and had come to the exit the receipt is for. -/
theorem completed_exit {lease : Lease} {receipt : Value} {answer : Run Unit}
    (hr : Reaches (remediate P leased message) H q)
    (hc : controlled (.complete lease receipt) answer ∈ H) :
    ∃ H₁ evidence input h b t, (∀ x ∈ H₁, x ∈ H) ∧ Running P message evidence input h H₁ ∧
      Exit P input h b t ∧ receiptFor P b t = .ok receipt := by
  obtain ⟨H₁, H₂, rfl⟩ := List.append_of_mem hc
  obtain ⟨k, hk⟩ := hr.at_call
  obtain ⟨evidence, input, h, running, b, t, he, hreceipt, -⟩ :=
    (remediate_obeys P leased message).call_of_reaches hk
  exact ⟨H₁, evidence, input, h, b, t, fun x hx => List.mem_append_left _ hx, running, he, hreceipt⟩

/-- **While the lease holds.**  In every run whose renewals all succeed, over evidence whose plan
can be turned into a request, a receipt of the mutation step means that DataHub was called. -/
theorem leavesRetryable (hr : Reaches (remediate P leased message) H q)
    (hrenewed : ∀ error, renewed (.error error) ∉ H)
    (hformed : ∀ evidence, fetched message.evidenceDigest (.ok evidence) ∈ H →
      ∃ request, mutationRequest (storedPlan evidence) = .ok request) : LeavesRetryable H := by
  constructor
  · intro lease receipt answer hc hf
    obtain ⟨H₁, evidence, input, h, b, t, hsub, running, he, hreceipt⟩ := completed_exit hr hc
    have hfetched : fetched message.evidenceDigest (.ok evidence) ∈ H := by
      obtain ⟨H', rfl⟩ := running.fetched
      exact hsub _ (List.mem_cons_self ..)
    rcases Exit.of_mutationStep he hreceipt hf with ⟨error, hmalformed⟩ | ⟨request, reply, hw⟩
    · obtain ⟨request, hrequest⟩ := hformed evidence hfetched
      obtain ⟨-, -, -, rfl⟩ := prepare_eq_ok.mp running.prepared
      cases hrequest.symm.trans hmalformed
    · rcases running.tied request reply hw with hport | ⟨error, -, hrenew⟩
      · exact ⟨request, reply, hsub _ hport⟩
      · exact absurd (hsub _ hrenew) (hrenewed error)
  · intro error he
    exact absurd he (hrenewed error)

end Holds

/-- A run of the sample in which the lease is renewed and DataHub throws. -/
theorem leavesRetryable_thrown :
    ∃ H q lease receipt, Reaches (remediate .node true messageAboutPii) H q ∧
      controlled (.complete lease receipt) (.ok ()) ∈ H ∧ FromMutationStep receipt ∧
      LeavesRetryable H := by
  have hcall : Reaches (answerLoop true (.addTags requestPii))
      [renewed (.ok ()), controlled (.addTags requestPii) (.error .typeError)]
      (.done (.ok (.error .typeError))) := by
    rw [show answerLoop true (.addTags requestPii) = leasedAddTags true requestPii from rfl,
      leasedAddTags_true]
    exact .step (.step (.refl _))
  obtain ⟨h, h', q, lease, receipt, hpass, hr, hc, hf⟩ := reaches_recorded_pii rfl hcall
  refine ⟨_, q, lease, receipt, hr, mem_around.mpr (Or.inr (Or.inr (List.mem_map_of_mem
    (List.mem_append_right _ hc)))), hf, leavesRetryable hr ?_ ?_⟩
  · intro error hm
    rcases mem_around.mp hm with he | hm | hm
    · cases he
    · simp [renewed, controlled] at hm
    · exact renewed_not_passedOn hm
  · intro evidence hm
    rcases mem_around.mp hm with he | hm | hm
    · cases he
      exact ⟨_, mutationRequest_arrays (argumentArrays_tagged _ _)⟩
    · simp [fetched, renewed, controlled] at hm
    · exact absurd hm fetched_not_passedOn

/-- The renewal fails: DataHub is never called, and the approval is used up. -/
theorem not_leavesRetryable_renewal :
    ∃ H q, Reaches (remediate .node true messageAboutPii) H q ∧
      (∀ request reply, controlled (.addTags request) reply ∉ H) ∧
      renewed (.error (.user (.workerLease false))) ∈ H ∧ ¬ LeavesRetryable H := by
  have hcall : Reaches (answerLoop true (.addTags requestPii))
      [renewed (.error (.user (.workerLease false)))]
      (.done (.ok (.error (.user (.workerLease false))))) := by
    rw [show answerLoop true (.addTags requestPii) = leasedAddTags true requestPii from rfl,
      leasedAddTags_true]
    exact .step (.refl _)
  obtain ⟨h, h', q, lease, receipt, hpass, hr, hc, hf⟩ := reaches_recorded_pii rfl hcall
  have hport : ∀ request reply, controlled (.addTags request) reply ∉
      fetched messageAboutPii.evidenceDigest
          (.ok (storedEvidence (taggedIssue (js "urn:li:tag:PII") (by decide)))) ::
        (h.map passedOn ++ ([renewed (.error (.user (.workerLease false)))] ++ h'.map passedOn)) := by
    intro request reply hm
    rcases mem_around.mp hm with he | hm | hm
    · cases he
    · simp [renewed, controlled] at hm
    · exact addTags_not_passedOn hpass hm
  refine ⟨_, q, hr, hport, mem_around.mpr (Or.inr (Or.inl (List.mem_singleton.mpr rfl))), fun hl => ?_⟩
  obtain ⟨request, reply, hw⟩ := hl.recorded lease receipt (.ok ()) (mem_around.mpr (Or.inr (Or.inr
    (List.mem_map_of_mem (List.mem_append_right _ hc))))) hf
  exact hport request reply hw

end Worker
