/-
# The control loop

`executeApprovedRemediation` is asynchronous: it awaits the journal, the reader and the mutation
port, and reads the clock.  Here it is a `Program` over those calls (`Effect`), cut where the
source's branches meet again: `reconcile` after a stale lease was taken over, `granted` once the
worker may go on, `write` around the one call that changes DataHub, and what follows it.

A reply is whatever its type allows.  A reader may return any value and may throw, a journal may
answer anything, a write may be acknowledged with any value.
-/
import Archon.Remediation.Approval
import Archon.Remediation.Journal
import Archon.Resumption.Program

namespace Remediation

open Ecma Ecma.Value Resumption

/-! ## 1. Calls -/

/-- The calls the loop makes. -/
inductive Effect where
  | clock
  | claim (input : ClaimInput)
  | resume (lease : Lease)
  | complete (lease : Lease) (receipt : Value)
  | readTagProjection (target : Value)
  | addTags (request : Value)

/-- What each is answered. -/
abbrev Effect.Reply : Effect → Type
  | clock => Text
  | claim _ => Run ExecutionClaim
  | resume _ => Run Bool
  | complete _ _ => Run Unit
  | readTagProjection _ => Run Value
  | addTags _ => Run Value

/-- The asynchronous functions of the control loop. -/
abbrev Remediating := Program Effect Effect.Reply (Exn Failure)

/-- The calls made so far, with their replies. -/
abbrev History := List (Event Effect Effect.Reply)

/-- A computation that awaits nothing. -/
def pureRun {α : Type} (r : Run α) : Remediating α := Program.lift r

/-- `clock()`. -/
def clock : Remediating Text := Program.perform Effect.clock

/-- `await input.reader.readTagProjection(target)`, with its rejection. -/
def readTagProjection (target : Value) : Remediating (Run Value) :=
  Program.perform (Effect.readTagProjection target)

/-- `await input.mutation.addTags(request)`, with its rejection. -/
def addTags (request : Value) : Remediating (Run Value) := Program.perform (Effect.addTags request)

/-- `await input.journal.claim(input)`, with its rejection. -/
def claim (input : ClaimInput) : Remediating (Run ExecutionClaim) := Program.perform (Effect.claim input)

/-- `await input.journal.resume(lease)`, with its rejection. -/
def resume (lease : Lease) : Remediating (Run Bool) := Program.perform (Effect.resume lease)

/-- `await input.journal.complete(lease, receipt)`, with its rejection. -/
def complete (lease : Lease) (receipt : Value) : Remediating (Run Unit) :=
  Program.perform (Effect.complete lease receipt)

/-! ## 2. Terminal receipts -/

/-- The texts of `rollback.reason`. -/
inductive BlockedReason where
  | UNREADABLE_RECOVERY
  | POST_STATE_EXISTS
  | DIVERGED_RECOVERY
  | UNREADABLE
  | PRE_STATE_CHANGED
  | REJECTED_MUTATION
  | UNPROVEN_MUTATION
  | UNREADABLE_AFTER
  | UNPROVEN_TRANSITION

/-- The text itself. -/
def BlockedReason.text : BlockedReason → String
  | UNREADABLE_RECOVERY =>
    "A stale execution lease was recovered, but current DataHub state could not be read."
  | POST_STATE_EXISTS =>
    "The approved post-state exists, but the interrupted mutation response is unavailable."
  | DIVERGED_RECOVERY => "Current DataHub state diverged while recovering a stale execution lease."
  | UNREADABLE => "Current DataHub state could not be read."
  | PRE_STATE_CHANGED => "The approved pre-state changed before execution."
  | REJECTED_MUTATION => "DataHub definitively rejected the mutation."
  | UNPROVEN_MUTATION => "Mutation outcome could not be proven."
  | UNREADABLE_AFTER => "Read-after-write failed; the mutation outcome is unknown."
  | UNPROVEN_TRANSITION => "Postconditions did not prove the exact approved state transition."

/-- `{ availability: "BLOCKED", reason }`. -/
def blocked (reason : BlockedReason) : Value :=
  object [("availability", lit "BLOCKED"), ("reason", lit reason.text)]

/-- `{ availability: "NOT_APPLICABLE" }`. -/
def notApplicable : Value := object [("availability", lit "NOT_APPLICABLE")]

/-- `receiptBinding`: what every terminal receipt of one execution shares. -/
structure ReceiptBinding where
  artifacts : Artifacts
  idempotencyKey : Text
  fencingToken : Nat
  startedAt : Text

/-- The lease a binding holds. -/
def ReceiptBinding.lease (b : ReceiptBinding) : Lease := ⟨b.idempotencyKey, b.fencingToken⟩

/-- The other members of the argument of `terminalReceipt`. -/
structure TerminalInput where
  outcome : ExecutionOutcome
  completedAt : Text
  before : Value := .undefined
  after : Value := .undefined
  mutation : Value := .undefined
  checks : Value := .arr []
  rollback : Value := notApplicable

/-- `executionId`. -/
def executionId (P : Platform) (decision : Value) (idempotencyKey : Text) : Run Text := do
  let value ← digest P (object [("decisionDigest", decision.getPath ["digest"]),
    ("idempotencyKey", .str idempotencyKey)])
  return shortId "execution-" value

/-- The argument of `createExecutionReceipt`. -/
def receiptInput (b : ReceiptBinding) (t : TerminalInput) (executionId : Text) :
    CreateExecutionReceiptInput where
  executionId := executionId
  outcome := t.outcome
  dossierDigest := b.artifacts.dossier.getPath ["digest"]
  planDigest := b.artifacts.plan.getPath ["digest"]
  approvalDecisionDigest := b.artifacts.decision.getPath ["digest"]
  action := b.artifacts.plan.getPath ["action"]
  idempotencyKey := b.idempotencyKey
  before := t.before
  after := t.after
  mutation := t.mutation
  checks := t.checks
  rollback := t.rollback
  startedAt := b.startedAt
  completedAt := t.completedAt

/-- The receipt of an execution that ends so. -/
def receiptFor (P : Platform) (b : ReceiptBinding) (t : TerminalInput) : Run Value := do
  createExecutionReceipt P
    (receiptInput b t (← executionId P b.artifacts.decision b.idempotencyKey))

theorem receiptFor_eq_ok {P : Platform} {b : ReceiptBinding} {t : TerminalInput} {receipt : Value}
    (h : receiptFor P b t = .ok receipt) :
    ∃ id, executionId P b.artifacts.decision b.idempotencyKey = .ok id ∧
      Created P (receiptInput b t id) receipt := by
  obtain ⟨id, hid, h⟩ := bind_eq_ok.mp h
  exact ⟨id, hid, createExecutionReceipt_eq_ok.mp h⟩

/-- The members of a receipt are those of the execution it ends. -/
theorem receiptFor_members {P : Platform} {b : ReceiptBinding} {t : TerminalInput} {receipt : Value}
    (h : receiptFor P b t = .ok receipt) : ∃ id events, Members (receiptInput b t id) events receipt := by
  obtain ⟨id, -, c⟩ := receiptFor_eq_ok h
  obtain ⟨payloads, events, -, -, -, rfl⟩ := c.built
  exact ⟨id, events, signedReceipt_members P _ events⟩

/-- `terminalReceipt`. -/
def terminalReceipt (P : Platform) (b : ReceiptBinding) (t : TerminalInput) : Remediating Value := do
  let receipt ← pureRun (receiptFor P b t)
  let completed ← complete b.lease receipt
  pureRun completed
  return receipt

/-! ## 3. The branches -/

/-- `v.digest === w.digest` for a projection and a member of the plan. -/
def digestIs (v : Value) (plan : Value) (member : String) : Run Bool :=
  eqValue (v.path ["digest"]) (plan.path [member, "digest"])

/-- `verifyTagProjection(v) ? v : undefined`. -/
def ifVerified (P : Platform) (v : Value) : Run Value := do
  return if ← verifyTagProjection P v then v else .undefined

/-- Is the error a `DefinitiveMutationError`? -/
def isDefinitive : Exn Failure → Bool
  | .user (.definitiveMutation _) => true
  | _ => false

/-- After the write has thrown, or its request could not be formed. -/
def mutationFailed (P : Platform) (b : ReceiptBinding) (current : Value) (error : Exn Failure) :
    Remediating Value := do
  let observed ← readTagProjection (b.artifacts.dossier.getPath ["target"])
  let completedAt ← clock
  let after ← pureRun <|
    match observed with
    | .ok observed => if observed.truthy then ifVerified P observed else .ok .undefined
    | .error _ => .ok .undefined
  terminalReceipt P b {
    outcome := if isDefinitive error then .MUTATION_FAILED else .INDETERMINATE
    completedAt := completedAt
    before := current
    after := after
    rollback := blocked (if isDefinitive error then .REJECTED_MUTATION else .UNPROVEN_MUTATION) }

/-- The checks on the state after an acknowledged write, and the rollback anchor they lead to. -/
def judge (P : Platform) (plan current after mutation : Value) : Run (Bool × Value × Value) := do
  let checks ← verifyPostcondition P plan true after mutation
  let verified := checks.all fun check => check.passed
  let rollback ←
    (if verified then do
      let inverse ← digest P (← plan.path ["action", "inverse"])
      return object [("availability", lit "ELIGIBLE"), ("inverseActionDigest", .str inverse),
        ("restoreStateDigest", current.getPath ["digest"])]
    else .ok (blocked .UNPROVEN_TRANSITION))
  return (verified, .arr (checks.map VerificationCheck.value), rollback)

/-- After the write has been acknowledged. -/
def mutationAcknowledged (P : Platform) (b : ReceiptBinding) (current mutation : Value) :
    Remediating Value := do
  match ← readTagProjection (b.artifacts.dossier.getPath ["target"]) with
  | .error _ =>
    let completedAt ← clock
    terminalReceipt P b {
      outcome := .INDETERMINATE
      completedAt := completedAt
      before := current
      mutation := mutation
      rollback := blocked .UNREADABLE_AFTER }
  | .ok after =>
    let (verified, checks, rollback) ← pureRun (judge P b.artifacts.plan current after mutation)
    let completedAt ← clock
    terminalReceipt P b {
      outcome := if verified then .VERIFIED else .VERIFICATION_FAILED
      completedAt := completedAt
      before := current
      after := after
      mutation := mutation
      checks := checks
      rollback := rollback }

/-- The write.  Forming the request stands inside the `try`, so its errors are caught with those
of the call. -/
def write (P : Platform) (b : ReceiptBinding) (current : Value) : Remediating Value := do
  match mutationRequest b.artifacts.plan with
  | .error error => mutationFailed P b current error
  | .ok request =>
    match ← addTags request with
    | .error error => mutationFailed P b current error
    | .ok mutation => mutationAcknowledged P b current mutation

/-- `verifyTagProjection(v) && v.digest === input.plan.expectedBefore.digest`. -/
def isExpectedBefore (P : Platform) (b : ReceiptBinding) (v : Value) : Run Bool :=
  verifyTagProjection P v <&&> digestIs v b.artifacts.plan "expectedBefore"

/-- The state before the write is read, and compared with the approved one. -/
def checkAndWrite (P : Platform) (b : ReceiptBinding) : Remediating Value := do
  match ← readTagProjection (b.artifacts.dossier.getPath ["target"]) with
  | .error _ =>
    let completedAt ← clock
    terminalReceipt P b {
      outcome := .STALE
      completedAt := completedAt
      rollback := blocked .UNREADABLE }
  | .ok current =>
    if ← pureRun (isExpectedBefore P b current) then write P b current
    else
      let completedAt ← clock
      let before ← pureRun (ifVerified P current)
      terminalReceipt P b {
        outcome := .STALE
        completedAt := completedAt
        before := before
        rollback := blocked .PRE_STATE_CHANGED }

/-- `instant(startedAt, "startedAt") > instant(input.request.expiresAt, "expiresAt")`. -/
def isExpired (P : Platform) (b : ReceiptBinding) : Run Bool := do
  let startedAt ← instant P (.str b.startedAt) "startedAt"
  let expiresAt ← instant P (b.artifacts.request.getPath ["expiresAt"]) "expiresAt"
  return decide (expiresAt < startedAt)

/-- Once the worker holds the lease and the state needs no recovery. -/
def granted (P : Platform) (b : ReceiptBinding) : Remediating Value := do
  if (b.artifacts.decision.getPath ["decision"]).isText (js "REJECT") then
    let completedAt ← clock
    terminalReceipt P b { outcome := .REJECTED, completedAt := completedAt }
  else if ← pureRun (isExpired P b) then
    let completedAt ← clock
    terminalReceipt P b { outcome := .EXPIRED, completedAt := completedAt }
  else checkAndWrite P b

/-- After a stale lease was taken over. -/
def reconcile (P : Platform) (b : ReceiptBinding) : Remediating Value := do
  match ← readTagProjection (b.artifacts.dossier.getPath ["target"]) with
  | .error _ =>
    let completedAt ← clock
    terminalReceipt P b {
      outcome := .INDETERMINATE
      completedAt := completedAt
      rollback := blocked .UNREADABLE_RECOVERY }
  | .ok observed =>
    if ← pureRun (isExpectedBefore P b observed) then
      let resumed ← resume b.lease
      if ← pureRun resumed then granted P b
      else
        pureRun (reject .EXECUTION_IN_PROGRESS
          "Another worker acquired the recovered execution lease.")
    else
      let completedAt ← clock
      let after ← pureRun (ifVerified P observed)
      let exists' ← pureRun (digestIs observed b.artifacts.plan "expectedAfter")
      terminalReceipt P b {
        outcome := .INDETERMINATE
        completedAt := completedAt
        after := after
        rollback := blocked (if exists' then .POST_STATE_EXISTS else .DIVERGED_RECOVERY) }

/-! ## 4. The loop -/

/-- `ExecuteApprovedRemediationInput`, without its collaborators. -/
structure ExecuteApprovedRemediationInput where
  artifacts : Artifacts
  idempotencyKey : Text

/-- The string a field holds; the fields it is used on have been compared with strings. -/
def stringOf : Value → Run Text
  | .str s => .ok s
  | _ => .error .typeError

/-- The checks before the clock is read. -/
def checkArtifacts (P : Platform) (input : ExecuteApprovedRemediationInput) : Run Unit := do
  let valid ← approvalArtifactsValid P input.artifacts
  rejectIf (!valid) .APPROVAL_BINDING_MISMATCH
    "Execution artifacts do not share one immutable approval binding."
  rejectIf (!nonBlank input.idempotencyKey) .INVALID_ARTIFACT "An idempotency key is required."

/-- The checks on the time of the start. -/
def checkStart (P : Platform) (input : ExecuteApprovedRemediationInput) (startedAt : Text) :
    Run Unit := do
  let started ← instant P (.str startedAt) "startedAt"
  let decided ← instant P (input.artifacts.decision.getPath ["decidedAt"]) "decidedAt"
  rejectIf (decide (started < decided)) .INVALID_ARTIFACT
    "Execution cannot begin before the bound approval decision."

/-- The argument of `claim`. -/
def claimInput (input : ExecuteApprovedRemediationInput) : Run ClaimInput := do
  let approvalId ← stringOf (input.artifacts.request.getPath ["approvalId"])
  let decisionDigest ← stringOf (input.artifacts.decision.getPath ["digest"])
  return ⟨approvalId, decisionDigest, input.idempotencyKey⟩

/-- What the worker does with the answer to its claim. -/
def onClaim (P : Platform) (input : ExecuteApprovedRemediationInput) (startedAt : Text) :
    ExecutionClaim → Remediating Value
  | .COMPLETED receipt => return receipt
  | .IN_PROGRESS =>
    pureRun (reject .EXECUTION_IN_PROGRESS "This execution is already in progress.")
  | .APPROVAL_ALREADY_USED =>
    pureRun (reject .APPROVAL_REPLAY "This approval has already been consumed.")
  | .RECONCILE fencingToken =>
    reconcile P ⟨input.artifacts, input.idempotencyKey, fencingToken, startedAt⟩
  | .CLAIMED fencingToken =>
    granted P ⟨input.artifacts, input.idempotencyKey, fencingToken, startedAt⟩

/-- `executeApprovedRemediation`. -/
def executeApprovedRemediation (P : Platform) (input : ExecuteApprovedRemediationInput) :
    Remediating Value := do
  pureRun (checkArtifacts P input)
  let startedAt ← clock
  pureRun (checkStart P input startedAt)
  let binding ← pureRun (claimInput input)
  let answer ← claim binding
  onClaim P input startedAt (← pureRun answer)

end Remediation
