/-
# The remediation worker

A message names stored audit evidence by its digest.  The worker reads the evidence, checks that it
is whole and that the message is bound to it, signs the human's decision, and runs the control loop
on the artifacts inside.  The mutation port it hands to the loop renews the execution lease first
(`leasedAddTags`), so a failing renewal reaches the loop as a failing write.

The worker is a `Program` over its own calls; the loop is a program inside it, whose calls are
answered by `answerLoop`.
-/
import Archon.Remediation.Trace
import Archon.Remediation.ReceiptFacts
import Archon.Resumption.Handler
import Archon.Worker.Contracts

namespace Worker

open Ecma Ecma.Value Remediation Resumption Resumption.Program

/-! ## 1. Stored evidence -/

/-- `evidencePayload` and `executionEvidencePayload`. -/
def evidencePayload (evidence : Value) : Run Value := withoutDigest evidence

/-- The artifacts of actionable evidence verify, and are bound to each other. -/
def actionableValid (P : Platform) (remediation : Value) : Run Bool :=
  eqText (remediation.path ["disposition"]) (js "ACTIONABLE") <&&>
  (do verifyEvidenceDossier P (← remediation.path ["dossier"])) <&&>
  (do verifyRemediationPlan P (← remediation.path ["plan"])) <&&>
  (do verifyApprovalRequest P (← remediation.path ["approvalRequest"])) <&&>
  eqValue (remediation.path ["plan", "dossierDigest"]) (remediation.path ["dossier", "digest"]) <&&>
  eqValue (remediation.path ["approvalRequest", "dossierDigest"])
    (remediation.path ["dossier", "digest"]) <&&>
  eqValue (remediation.path ["approvalRequest", "planDigest"]) (remediation.path ["plan", "digest"]) <&&>
  eqValue (remediation.path ["approvalRequest", "actionCatalogDigest"])
    (remediation.path ["plan", "actionCatalogDigest"]) <&&>
  eqValue (remediation.path ["approvalRequest", "expectedBeforeDigest"])
    (remediation.path ["plan", "expectedBefore", "digest"])

/-- The reasons of evidence without a plan. -/
def MANUAL_ONLY_REASONS : List String :=
  ["READ_ONLY_REQUEST", "NO_ACTIONABLE_G6_FINDING", "REMEDIATION_PRESTATE_UNAVAILABLE",
    "POLICY_REJECTED_PROPOSAL"]

/-- The checks on the envelope, inside the `try`. -/
def envelopeValid (P : Platform) (evidence : Value) : Run Bool :=
  (do verifyDigest P (← evidencePayload evidence) (← evidence.path ["digest"])) <&&>
  (do eqText (evidence.path ["reportDigest"]) (← digest P (← evidence.path ["report"]))) <&&>
  (do return (← evidence.path ["request"]).truthy) <&&>
  eqText (evidence.path ["request", "schemaVersion"]) (js "archon.audit-request/v1") <&&>
  (do return isAuditReport (← evidence.path ["report"]))

/-- What the evidence says about a remediation. -/
def dispositionValid (P : Platform) (evidence : Value) : Run Bool := do
  let remediation ← evidence.path ["remediation"]
  if ← eqText (remediation.path ["disposition"]) (js "MANUAL_ONLY") then
    return isOneOf (← remediation.path ["reason"]) MANUAL_ONLY_REASONS
  else actionableValid P remediation

/-- `verifyAuditEvidence`, for an expected digest. -/
def verifyAuditEvidence (P : Platform) (evidence : Value) (expectedDigest : Text) : Bool :=
  isRecord evidence && (evidence.getPath ["schemaVersion"]).isText (js "archon.audit-evidence/v1") &&
    (evidence.getPath ["digest"]).isStr && (evidence.getPath ["digest"]).isText expectedDigest &&
    orFalse (envelopeValid P evidence <&&> dispositionValid P evidence)

/-- `MAX_EVIDENCE_BYTES`. -/
def MAX_EVIDENCE_BYTES : Nat := 5 * 1024 * 1024

/-- `contentAddressedExecutionEvidence`. -/
def contentAddressedExecutionEvidence (P : Platform) (fields : List (String × Value)) : Run Value := do
  let bytes := utf8Length ((stringify (object fields)).getD [])
  if MAX_EVIDENCE_BYTES < bytes then
    refuse "INVALID_EVIDENCE" "Execution evidence exceeds the worker limit."
  sign P fields

/-! ## 2. Calls -/

/-- The calls of the worker: those of the control loop among them, `addTags` being the DataHub
port's own. -/
inductive WorkerEffect where
  | getAuditEvidence (digest : Text)
  | assertActive
  | control (e : Effect)
  | put (document : Value)

/-- What each is answered. -/
abbrev WorkerEffect.Reply : WorkerEffect → Type
  | getAuditEvidence _ => Run Value
  | assertActive => Run Unit
  | control e => e.Reply
  | put _ => Run Unit

/-- The asynchronous functions of the worker. -/
abbrev Working := Program WorkerEffect WorkerEffect.Reply (Exn Failure)

/-- The worker's calls so far, with their replies. -/
abbrev WorkerHistory := List (Event WorkerEffect WorkerEffect.Reply)

/-- A computation that awaits nothing. -/
def compute {α : Type} (r : Run α) : Working α := Program.lift r

/-- A call whose rejection is thrown on. -/
def getAuditEvidence (digest : Text) : Working Value := do
  let answer ← Program.perform (WorkerEffect.getAuditEvidence digest)
  compute answer

/-- `await evidence.put(document)`. -/
def put (document : Value) : Working Unit := do
  let answer ← Program.perform (WorkerEffect.put document)
  compute answer

/-- `await lease.assertActive()`, with its rejection. -/
def assertActive : Working (Run Unit) := Program.perform WorkerEffect.assertActive

/-- The mutation port handed to the loop. -/
def leasedAddTags (leased : Bool) (request : Value) : Working (Run Value) :=
  if leased then do
    match ← assertActive with
    | .error error => return .error error
    | .ok () => Program.perform (WorkerEffect.control (.addTags request))
  else Program.perform (WorkerEffect.control (.addTags request))

/-- How the worker answers the loop. -/
def answerLoop (leased : Bool) : (e : Effect) → Working e.Reply
  | .addTags request => leasedAddTags leased request
  | .clock => Program.perform (WorkerEffect.control .clock)
  | .claim input => Program.perform (WorkerEffect.control (.claim input))
  | .resume lease => Program.perform (WorkerEffect.control (.resume lease))
  | .complete lease receipt => Program.perform (WorkerEffect.control (.complete lease receipt))
  | .readTagProjection target => Program.perform (WorkerEffect.control (.readTagProjection target))

/-! ## 3. The worker -/

/-- The evidence is whole, and the message is bound to it. -/
def boundToEvidence (P : Platform) (message : RemediationQueueMessage) (evidence : Value) : Bool :=
  verifyAuditEvidence P evidence message.evidenceDigest &&
    (evidence.getPath ["executionId"]).isText message.executionId &&
    (evidence.getPath ["remediation", "disposition"]).isText (js "ACTIONABLE") &&
    (evidence.getPath ["remediation", "plan", "digest"]).isText message.planDigest &&
    (evidence.getPath ["remediation", "approvalRequest", "approvalId"]).isText message.approvalId

/-- The argument of `createApprovalDecision`. -/
def decisionInput (message : RemediationQueueMessage) (evidence : Value) :
    CreateApprovalDecisionInput where
  request := evidence.getPath ["remediation", "approvalRequest"]
  plan := evidence.getPath ["remediation", "plan"]
  decision := message.approvalResult.decision
  approver := message.approvalResult.approver
  decidedAt := message.approvalResult.decidedAt

/-- The members from which the idempotency key is made. -/
def executionKey (message : RemediationQueueMessage) (decision : Value) : Value :=
  object [("schemaVersion", lit "archon.worker-execution-key/v1"),
    ("executionId", .str message.executionId), ("approvalId", .str message.approvalId),
    ("decisionDigest", decision.getPath ["digest"])]

/-- What the worker does with the evidence before the loop starts: the loop's argument. -/
def prepare (P : Platform) (message : RemediationQueueMessage) (evidence : Value) :
    Run ExecuteApprovedRemediationInput := do
  if !boundToEvidence P message evidence then
    refuse "INVALID_EVIDENCE" "Remediation message is not bound to immutable audit evidence."
  let decision ← createApprovalDecision P (decisionInput message evidence)
  let idempotencyKey ← digest P (executionKey message decision)
  return ⟨⟨evidence.getPath ["remediation", "dossier"], evidence.getPath ["remediation", "plan"],
    evidence.getPath ["remediation", "approvalRequest"], decision⟩, idempotencyKey⟩

/-- The members of the execution evidence without its digest. -/
def executionEvidenceFields (message : RemediationQueueMessage) (evidence decision receipt : Value) :
    List (String × Value) :=
  [("schemaVersion", lit "archon.execution-evidence/v1"), ("executionId", .str message.executionId),
    ("approvalId", .str message.approvalId), ("auditEvidenceDigest", evidence.getPath ["digest"]),
    ("decision", decision), ("receipt", receipt), ("createdAt", receipt.getPath ["completedAt"])]

/-- The execution evidence for a receipt the loop has returned. -/
def executionEvidence (P : Platform) (message : RemediationQueueMessage)
    (evidence decision receipt : Value) : Run Value := do
  if !receiptValid P receipt then
    refuse "INVALID_EVIDENCE" "The remediation receipt failed local integrity verification."
  let document ← contentAddressedExecutionEvidence P
    (executionEvidenceFields message evidence decision receipt)
  if !(← verifyDigest P (← evidencePayload document) (← document.path ["digest"])) then
    refuse "INVALID_EVIDENCE" "Execution evidence could not be content-addressed."
  return document

/-- `RemediationCallbackOutputV1`. -/
def remediationOutput (message : RemediationQueueMessage) (evidence receipt document : Value) : Value :=
  object [("schemaVersion", lit "archon.remediation-result/v1"), ("approvalId", .str message.approvalId),
    ("planDigest", evidence.getPath ["remediation", "plan", "digest"]),
    ("evidenceDigest", evidence.getPath ["digest"]), ("receiptDigest", receipt.getPath ["digest"]),
    ("executionEvidenceDigest", document.getPath ["digest"]), ("outcome", receipt.getPath ["outcome"])]

/-- What the worker does with the receipt of the loop. -/
def storeOutcome (P : Platform) (message : RemediationQueueMessage) (evidence decision receipt : Value) :
    Working Value := do
  let document ← compute (executionEvidence P message evidence decision receipt)
  put document
  return remediationOutput message evidence receipt document

/-- `RemediationWorkerService.remediate`, with or without a lease. -/
def remediate (P : Platform) (leased : Bool) (message : RemediationQueueMessage) : Working Value := do
  let evidence ← getAuditEvidence message.evidenceDigest
  let input ← compute (prepare P message evidence)
  let receipt ← (executeApprovedRemediation P input).handle (answerLoop leased)
  storeOutcome P message evidence input.artifacts.decision receipt

/-! ## 4. What it has done before each call -/

/-- The evidence was read. -/
def fetched (digest : Text) (answer : Run Value) : Event WorkerEffect WorkerEffect.Reply :=
  ⟨.getAuditEvidence digest, answer⟩

/-- The lease was renewed, or not. -/
def renewed (answer : Run Unit) : Event WorkerEffect WorkerEffect.Reply := ⟨.assertActive, answer⟩

/-- A call of the loop was answered by the world. -/
def controlled (e : Effect) (r : e.Reply) : Event WorkerEffect WorkerEffect.Reply := ⟨.control e, r⟩

/-- What the loop believes about its writes: each that it saw answered was made on the DataHub port,
or thrown by a renewal that failed. -/
def Tied (h : History) (H : WorkerHistory) : Prop :=
  ∀ request answer, written request answer ∈ h →
    controlled (.addTags request) answer ∈ H ∨
      ∃ error, answer = .error error ∧ renewed (.error error) ∈ H

/-- The loop is running on what the evidence holds, and has come to `h`. -/
structure Running (P : Platform) (message : RemediationQueueMessage) (evidence : Value)
    (input : ExecuteApprovedRemediationInput) (h : History) (H : WorkerHistory) : Prop where
  fetched : ∃ H', H = fetched message.evidenceDigest (.ok evidence) :: H'
  prepared : prepare P message evidence = .ok input
  tied : Tied h H

/-- The calls the worker's text allows. -/
def WorkerAllowed (P : Platform) (message : RemediationQueueMessage) (H : WorkerHistory) :
    WorkerEffect → Prop
  | .getAuditEvidence digest => H = [] ∧ digest = message.evidenceDigest
  | .assertActive => ∃ evidence input h request, Running P message evidence input h H ∧
      Allowed P input h (.addTags request)
  | .control e => ∃ evidence input h, Running P message evidence input h H ∧ Allowed P input h e
  | .put _ => True

section Follow

variable {P : Platform} {message : RemediationQueueMessage} {evidence : Value}
  {input : ExecuteApprovedRemediationInput} {h : History} {H : WorkerHistory}

theorem Tied.weaken (ht : Tied h H) (x : Event WorkerEffect WorkerEffect.Reply) : Tied h (H ++ [x]) := by
  intro request answer hm
  rcases ht request answer hm with hc | ⟨error, he, hr⟩
  · exact Or.inl (List.mem_append_left _ hc)
  · exact Or.inr ⟨error, he, List.mem_append_left _ hr⟩

/-- One more answer to the loop, which is no write, or one that is accounted for. -/
theorem Tied.snoc (ht : Tied h H) {ev : Event Effect Effect.Reply}
    {x : Event WorkerEffect WorkerEffect.Reply}
    (hev : ∀ request answer, ev = written request answer →
      x = controlled (.addTags request) answer ∨
        ∃ error, answer = .error error ∧ x = renewed (.error error)) :
    Tied (h ++ [ev]) (H ++ [x]) := by
  intro request answer hm
  rcases List.mem_append.mp hm with hm | hm
  · exact ht.weaken x request answer hm
  · rcases hev request answer (List.mem_singleton.mp hm).symm with rfl | ⟨error, rfl, rfl⟩
    · exact Or.inl (by simp)
    · exact Or.inr ⟨error, rfl, by simp⟩

theorem Running.extend (hr : Running P message evidence input h H)
    {x : Event WorkerEffect WorkerEffect.Reply} {h' : History} (ht : Tied h' (H ++ [x])) :
    Running P message evidence input h' (H ++ [x]) := by
  obtain ⟨H', rfl⟩ := hr.fetched
  exact ⟨⟨H' ++ [x], rfl⟩, hr.prepared, ht⟩

/-- What a program that answers the loop has to end with. -/
abbrev Answers (P : Platform) (message : RemediationQueueMessage) (evidence : Value)
    (input : ExecuteApprovedRemediationInput) (h : History) (e : Effect) :
    WorkerHistory → Except (Exn Failure) e.Reply → Prop :=
  fun H' r =>
    match r with
    | .ok a => Running P message evidence input (h ++ [⟨e, a⟩]) H'
    | .error _ => True

/-- A call that is passed on. -/
theorem passOn_obeys {e : Effect} (hr : Running P message evidence input h H)
    (ha : Allowed P input h e) :
    Obeys (WorkerAllowed P message) (Answers P message evidence input h e) H
      (Program.perform (WorkerEffect.control e)) := by
  refine ⟨⟨evidence, input, h, hr, ha⟩, fun r => hr.extend (hr.tied.snoc fun request answer he => ?_)⟩
  refine Or.inl ?_
  cases he
  rfl

theorem leasedAddTags_obeys {request : Value} (leased : Bool)
    (hr : Running P message evidence input h H) (ha : Allowed P input h (.addTags request)) :
    Obeys (WorkerAllowed P message) (Answers P message evidence input h (.addTags request)) H
      (leasedAddTags leased request) := by
  cases leased with
  | false => exact passOn_obeys hr ha
  | true =>
    refine ⟨⟨evidence, input, h, request, hr, ha⟩, fun renewal => ?_⟩
    cases renewal with
    | error error =>
      refine hr.extend (hr.tied.snoc fun request' answer he => Or.inr ⟨error, ?_, rfl⟩)
      cases he
      rfl
    | ok _ => exact passOn_obeys (hr.extend (hr.tied.weaken _)) ha

theorem answerLoop_obeys (leased : Bool) {e : Effect} (hr : Running P message evidence input h H)
    (ha : Allowed P input h e) :
    Obeys (WorkerAllowed P message) (Answers P message evidence input h e) H (answerLoop leased e) := by
  cases e with
  | addTags request => exact leasedAddTags_obeys leased hr ha
  | _ => exact passOn_obeys hr ha

theorem storeOutcome_obeys {decision receipt : Value} :
    Obeys (WorkerAllowed P message) (fun _ _ => True) H
      (storeOutcome P message evidence decision receipt) := by
  refine obeys_lift (fun document _ => ?_) fun _ => trivial
  exact ⟨trivial, fun answer => obeys_lift (fun _ _ => trivial) fun _ => trivial⟩

/-- **The worker makes no call that its text does not allow.** -/
theorem remediate_obeys (P : Platform) (leased : Bool) (message : RemediationQueueMessage) :
    Obeys (WorkerAllowed P message) (fun _ _ => True) [] (remediate P leased message) := by
  refine ⟨⟨rfl, rfl⟩, fun answer => ?_⟩
  refine obeys_lift (fun evidence he => ?_) fun _ => trivial
  subst he
  refine obeys_lift (fun input hinput => ?_) fun _ => trivial
  refine obeys_bind.mpr ?_
  refine obeys_handle (S := Running P message evidence input) ?_ ?_ ?_
    (executeApprovedRemediation_obeys P input)
  · intro h H e hr ha
    refine (answerLoop_obeys leased hr ha).mono (fun _ _ hi => hi) fun H' r hr' => ?_
    cases r with
    | error e => trivial
    | ok a => exact hr'
  · intro h H r hr hq
    cases r with
    | error e => trivial
    | ok receipt => exact storeOutcome_obeys
  · exact ⟨⟨[], rfl⟩, hinput, by simp [Tied]⟩

end Follow

end Worker
