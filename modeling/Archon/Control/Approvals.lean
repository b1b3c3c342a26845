/-
# Decisions and mutation jobs

A governed run waits for a person.  `decide` stores what was decided, once for each run.  The stream
of the table hands it to `processApprovalEnvelope`, any number of times and in any order: the plan is
computed again from the receipts of the run, an authorization is signed, and the mutation is stored
as a job, once.

Any number of these requests run at a time, and each can stop at any call.  What the tables hold is
written once and on a condition, and a write can fail after it was applied.  Whatever the requests do,
a run has one decision and one job at most, and a job only where the decision is the approval of the
plan of the run; its authorization ends with the approval, the lease and five minutes
(`mutation_authorized`).

A read can fail, and this covers the checks that the model leaves out: those of the companion's
results, and of the form of what is stored.
-/
import Archon.Cloud.Checkpoint
import Archon.Control.Mutation

namespace Control

open Ecma Ecma.Value Remediation Resumption Resumption.Program

/-! ## 1. What is stored -/

/-- `decision.decision`. -/
inductive Verdict where
  | APPROVE
  | REJECT
deriving DecidableEq

/-- Its text. -/
def Verdict.text : Verdict → Text
  | .APPROVE => js "APPROVE"
  | .REJECT => js "REJECT"

/-- The item of a run, with its owner. -/
structure RunItem where
  principalHash : Text
  /-- `mode === "GOVERNED"`. -/
  governed : Bool
  run : Run

/-- The item of a session, with its owner. -/
structure SessionItem where
  principalHash : Text
  sessionId : Text
  binding : Binding
  /-- `state === "ACTIVE"`. -/
  active : Bool
  idleExpiresAt : Text
  hardExpiresAt : Text

/-- A job, with its receipt where it has succeeded. -/
inductive JobState (ρ : Type) where
  | QUEUED
  | RUNNING
  | FAILED
  | SUCCEEDED (receipt : ρ)

/-- The receipt, if there is one. -/
def JobState.receipt {ρ : Type} : JobState ρ → Option ρ
  | .SUCCEEDED receipt => some receipt
  | _ => none

/-- The receipts that a plan is made of. -/
structure Receipts where
  analysis : AnalysisReceipt
  read : ReadReceipt
  improve : ImproveReceipt

/-- What `decide` stores, an envelope: the owner and the time stand in it twice. -/
structure Envelope where
  auditId : Text
  runtimeEvidence : Value
  plan : Value
  approvalRequest : Value
  verdict : Verdict
  decision : Decision
  /-- `decision.approvalId`. -/
  approvalId : Text
  /-- `decision.requestDigest`. -/
  requestDigest : Text
  /-- `decision.planDigest`. -/
  planDigest : Text
  /-- `decision.commentDigest`. -/
  commentDigest : Text
  /-- `decision.digest`. -/
  decisionDigest : Text
  digest : Text

/-- The item of a mutation, without what the worker writes to it. -/
structure MutationJob where
  profileId : Text
  sessionId : Text
  jobId : Text
  auditId : Text
  runtimeEvidenceDigest : Text
  generation : Text
  capabilityDigest : Text
  request : Value
  submittedAt : Text

/-- The key of the item. -/
def MutationJob.key (job : MutationJob) : Text × Text := (job.sessionId, job.jobId)

/-! ## 2. Plans again -/

/-- What the functions take from their environment. -/
structure Config where
  P : Platform
  inputs : Inputs
  signer : Signer

/-- What `planFor` returns, with the plan and the request for an approval. -/
structure Planned where
  prepared : Prepared
  plan : Value
  approvalRequest : Value
  /-- `approvalRequest.digest`. -/
  requestDigest : Text

/-- `{ ...payload, digest }`. -/
def sealed (payload : Value) (digest : Text) : Value :=
  .obj (payload.entries ++ [(js "digest", .str digest)])

/-- What is kept of `run.runtimeEvidence`. -/
def evidenceValue (run : Run) : Value :=
  object [("auditId", .str run.auditId), ("runtimeSessionId", .str run.runtimeSessionId),
    ("runtimeBinding", run.binding.value), ("digest", .str run.evidenceDigest)]

/-- `requestPayload` of `planFor`. -/
def approvalPayload (run : Run) (improve : ImproveReceipt) (prepared : Prepared) : Value :=
  object [("schemaVersion", lit "archon.runtime-approval-request/v2"),
    ("approvalId", .str prepared.approvalId), ("auditId", .str run.auditId),
    ("runtimeEvidenceDigest", .str run.evidenceDigest), ("planDigest", .str prepared.planDigest),
    ("requestedAt", .str improve.completedAt), ("expiresAt", .str prepared.expiresAt)]

section Plans

variable (P : Platform)

/-- `planFor`, all of it. -/
def plannedFor (run : Run) (receipts : Receipts) : Option Planned := do
  let prepared ← planFor P run receipts.analysis receipts.read receipts.improve
  let payload := planPayload run receipts.analysis receipts.read receipts.improve
    prepared.auditEvidenceDigest prepared.policyDigest prepared.before prepared.expectedAfter
  let approval := approvalPayload run receipts.improve prepared
  let requestDigest ← digest P approval
  return ⟨prepared, sealed payload prepared.planDigest, sealed approval requestDigest, requestDigest⟩

/-- `decisionPayload`. -/
def decisionPayload (e : Envelope) : Value :=
  object [("schemaVersion", lit "archon.runtime-approval-decision/v2"),
    ("approvalId", .str e.approvalId), ("auditId", .str e.auditId),
    ("requestDigest", .str e.requestDigest), ("planDigest", .str e.planDigest),
    ("decision", .str e.verdict.text), ("approverDigest", .str e.decision.ownerDigest),
    ("decidedAt", .str (e.decision.decidedText P)), ("commentDigest", .str e.commentDigest)]

/-- `envelopePayload`. -/
def envelopePayload (e : Envelope) : Value :=
  object [("schemaVersion", lit "archon.runtime-approved-action/v2"), ("auditId", .str e.auditId),
    ("ownerDigest", .str e.decision.ownerDigest), ("runtimeEvidence", e.runtimeEvidence),
    ("plan", e.plan), ("approvalRequest", e.approvalRequest),
    ("decision", sealed (decisionPayload P e) e.decisionDigest),
    ("mutationJobId", .str e.decision.mutationJobId),
    ("createdAt", .str (e.decision.decidedText P))]

/-- The envelope that `decide` makes. -/
def envelopeOf (run : Run) (planned : Planned) (decision : Decision) (verdict : Verdict)
    (commentDigest : Text) : Option Envelope := do
  let unsealed : Envelope :=
    { auditId := run.auditId
      runtimeEvidence := evidenceValue run
      plan := planned.plan
      approvalRequest := planned.approvalRequest
      verdict
      decision
      approvalId := planned.prepared.approvalId
      requestDigest := planned.requestDigest
      planDigest := planned.prepared.planDigest
      commentDigest
      decisionDigest := []
      digest := [] }
  let decisionDigest ← digest P (decisionPayload P unsealed)
  let decided := { unsealed with decisionDigest }
  let digest ← Control.digest P (envelopePayload P decided)
  return { decided with digest }

/-- `verifyApprovalEnvelope`, of any envelope. -/
def verifyEnvelope (run : Run) (planned : Planned) (ownerDigest : Text) (e : Envelope) : Bool :=
  e.auditId = run.auditId && e.decision.ownerDigest = ownerDigest
    && same e.runtimeEvidence (evidenceValue run) && same e.plan planned.plan
    && same e.approvalRequest planned.approvalRequest && Jobs.isJobId e.decision.mutationJobId
    && instant P (e.decision.decidedText P) && e.approvalId = planned.prepared.approvalId
    && e.requestDigest = planned.requestDigest && e.planDigest = planned.prepared.planDigest
    && Jobs.isDigest e.commentDigest && digest P (decisionPayload P e) = some e.decisionDigest
    && digest P (envelopePayload P e) = some e.digest

/-- `jobId("mutation", auditId)`. -/
def mutationJobId (auditId : Text) : Text :=
  let bytes := (Cloud.fromHex (P.sha256 (js "mutation:" ++ auditId))).take 16
  js "job_" ++ ((Cloud.base64 bytes).filter fun u => u ≠ 0x3D).map fun u =>
    if u = 0x2B then 0x2D else if u = 0x2F then 0x5F else u

/-- The job that `processApprovalEnvelope` stores. -/
def mutationJobOf (run : Run) (session : SessionItem) (decision : Decision) (request : Value)
    (issuedAt : Int) : MutationJob where
  profileId := session.binding.profileId
  sessionId := session.sessionId
  jobId := decision.mutationJobId
  auditId := run.auditId
  runtimeEvidenceDigest := run.evidenceDigest
  generation := session.binding.generation
  capabilityDigest := session.binding.capabilityDigest
  request := request
  submittedAt := P.toISOString issuedAt

/-- Is an instant past? -/
def past (t : Text) (now : Int) : Bool := (P.dateParse t).any fun ms => ms ≤ now

/-- Can the session be used? -/
def SessionItem.usable (session : SessionItem) (now : Int) : Bool :=
  session.active && !past P session.idleExpiresAt now && !past P session.hardExpiresAt now

end Plans

/-- `verifyExistingMutationJob`. -/
def verifyExistingMutationJob (C : Config) (run : Run) (session : SessionItem) (prepared : Prepared)
    (decision : Decision) (job : MutationJob) : Bool :=
  job.profileId = session.binding.profileId && job.sessionId = session.sessionId
    && job.jobId = decision.mutationJobId && job.auditId = run.auditId
    && job.runtimeEvidenceDigest = run.evidenceDigest
    && job.generation = session.binding.generation
    && job.capabilityDigest = session.binding.capabilityDigest
    && (verifyMutationRequest C.P run prepared C.signer decision job.request).any fun a =>
      job.submittedAt = a.times.issuedAt

/-! ## 3. The programs -/

/-- The calls of the functions. -/
inductive ControlCall where
  /-- `GetItem` of a run. -/
  | getRun (auditId : Text)
  /-- `GetItem` of a session. -/
  | getSession (sessionId : Text)
  /-- `readJob` of the analysis of a run. -/
  | readAnalysis (auditId : Text)
  /-- `readJob` of the read of the tags. -/
  | readTags (auditId : Text)
  /-- `readImproveMarker`. -/
  | readImproveMarker (auditId : Text)
  /-- `readJob` of the improvement that the marker names. -/
  | readImprove (auditId : Text)
  /-- `readApproval`. -/
  | readApproval (auditId : Text)
  /-- `GetItem` of a mutation. -/
  | getMutation (sessionId jobId : Text)
  /-- `new Date()`. -/
  | now
  /-- `SignCommand`, and the signature in base 64. -/
  | sign
  /-- `PutItem` of a decision, where there is none. -/
  | putApproval (envelope : Envelope)
  /-- `PutItem` of a mutation, where there is none. -/
  | putMutation (job : MutationJob)
  /-- The decisions among the records of an event. -/
  | receive
  /-- Anything that the other requests and the workers do. -/
  | elsewhere

/-- What a conditional write is answered. -/
inductive Put where
  | stored
  /-- `ConditionalCheckFailedException`. -/
  | refused
  | failed

/-- What a call returns; nothing where it throws. -/
def ControlAnswer : ControlCall → Type
  | .getRun _ => Option RunItem
  | .getSession _ => Option SessionItem
  | .readAnalysis _ => Option (JobState AnalysisReceipt)
  | .readTags _ => Option (JobState ReadReceipt)
  | .readImproveMarker _ => Option Bool
  | .readImprove _ => Option (JobState ImproveReceipt)
  | .readApproval _ => Option (Option Envelope)
  | .getMutation _ _ => Option (Option MutationJob)
  | .now => Int
  | .sign => Option Text
  | .putApproval _ => Put
  | .putMutation _ => Put
  | .receive => List Envelope
  | .elsewhere => Unit

/-- How a function stops. -/
inductive Stop where
  | response (statusCode : Nat) (error : String)
  | thrown (message : String)

/-- A program of the control function. -/
abbrev ControlProgram := Program ControlCall ControlAnswer Stop

/-- Stop. -/
def stop {α : Type} (s : Stop) : ControlProgram α := .done (.error s)

section Programs

variable (C : Config)

/-- `readRun`, of a session that is used at a time if one is given. -/
def readRun (auditId ownerDigest : Text) (observedAt : Option Int) :
    ControlProgram (RunItem × SessionItem) :=
  .call (.getRun auditId) fun
    | none => stop (.response 404 "runtime_bound_run_not_found")
    | some item =>
      if item.principalHash ≠ ownerDigest then
        stop (.response 403 "runtime_run_owner_mismatch")
      else if item.run.auditId = auditId ∧ verifyAuditRecord C.P C.inputs item.run = true then
        .call (.getSession item.run.runtimeSessionId) fun
          | none => stop (.response 404 "runtime_session_not_found")
          | some session =>
            if session.principalHash ≠ ownerDigest then
              stop (.response 403 "runtime_session_owner_mismatch")
            else if observedAt.any fun now => !session.usable C.P now then
              stop (.response 409 "runtime_session_not_active")
            else if same session.binding.value item.run.binding.value then
              .done (.ok (item, session))
            else stop (.thrown "runtime binding changed after run start")
      else stop (.thrown "runtime run integrity verification failed")

/-- The receipts of a run, or why there is no plan. -/
def readReceipts (item : RunItem) (incomplete unmarked improving : Stop) : ControlProgram Receipts :=
  .call (.readAnalysis item.run.auditId) fun analysis =>
    .call (.readTags item.run.auditId) fun read =>
      match analysis.bind JobState.receipt, read.bind JobState.receipt with
      | some analysis, some read =>
        if item.governed then
          .call (.readImproveMarker item.run.auditId) fun (marked : Option Bool) =>
            if marked = some true then
              .call (.readImprove item.run.auditId) fun improve =>
                match improve.bind JobState.receipt with
                | some improve => .done (.ok ⟨analysis, read, improve⟩)
                | none => stop improving
            else stop unmarked
        else stop incomplete
      | _, _ => stop incomplete

/-- `decide`, of a person whose identity was verified and a body that was parsed. -/
def decide (auditId ownerDigest : Text) (verdict : Verdict) (commentDigest : Text) :
    ControlProgram Nat := .call .now fun (observedAt : Int) => do
  let found ← readRun C auditId ownerDigest (some observedAt)
  let receipts ← readReceipts found.1 (.response 409 "approval_not_ready")
    (.response 409 "improve_context_required") (.response 409 "improve_context_not_ready")
  match plannedFor C.P found.1.run receipts with
  | none => stop (.thrown "the plan cannot be made")
  | some planned =>
    .call .now fun now =>
      if past C.P planned.prepared.expiresAt now then stop (.response 409 "approval_expired")
      else .call (.readApproval auditId) fun
        | none => stop (.thrown "approval item is malformed")
        | some (some existing) =>
          if verifyEnvelope C.P found.1.run planned ownerDigest existing then
            if existing.verdict = verdict then .done (.ok 200)
            else stop (.response 409 "approval_already_decided")
          else stop (.thrown "approval envelope integrity verification failed")
        | some none =>
          .call .now fun decidedAt =>
            match envelopeOf C.P found.1.run planned
                ⟨ownerDigest, mutationJobId C.P auditId, decidedAt⟩ verdict commentDigest with
            | none => stop (.thrown "the decision cannot be digested")
            | some envelope =>
              .call (.putApproval envelope) fun
                | .stored => .done (.ok 202)
                | .refused => stop (.thrown "ConditionalCheckFailedException")
                | .failed => stop (.thrown "the decision was not stored")

/-- The end of `processApprovalEnvelope`, where no job was found. -/
def dispatch (item : RunItem) (session : SessionItem) (planned : Planned) (e : Envelope) :
    ControlProgram Unit :=
  .call .now fun issuedAt =>
    if session.usable C.P issuedAt && !past C.P planned.prepared.expiresAt issuedAt then
      .call .sign fun
        | none => stop (.thrown "KMS returned an invalid governed mutation signature")
        | some signature =>
          match mutationRequest C.P item.run planned.prepared C.signer e.decision issuedAt
              signature with
          | none => stop (.thrown "governed mutation authorization cannot be issued")
          | some request =>
            .call (.putMutation (mutationJobOf C.P item.run session e.decision request issuedAt)) fun
              | .stored => .done (.ok ())
              | .failed => stop (.thrown "the mutation was not stored")
              | .refused =>
                .call (.getMutation session.sessionId e.decision.mutationJobId) fun
                  | some (some raced) =>
                    if verifyExistingMutationJob C item.run session planned.prepared e.decision
                        raced then .done (.ok ())
                    else stop (.thrown "existing governed mutation job binding verification failed")
                  | _ => stop (.thrown "ConditionalCheckFailedException")
    else stop (.thrown "approval source runtime session is not active")

/-- `processApprovalEnvelope`. -/
def processApprovalEnvelope (e : Envelope) : ControlProgram Unit :=
  if Jobs.isAudit e.auditId && Jobs.isDigest e.decision.ownerDigest then do
    let found ← readRun C e.auditId e.decision.ownerDigest none
    let receipts ← readReceipts found.1 (.thrown "approval source receipts are incomplete")
      (.thrown "approval lacks an improve-context dispatch")
      (.thrown "approval improve-context receipt is incomplete")
    match plannedFor C.P found.1.run receipts with
    | none => stop (.thrown "the plan cannot be made")
    | some planned =>
      if verifyEnvelope C.P found.1.run planned e.decision.ownerDigest e then
        if e.verdict = .APPROVE then
          .call (.getMutation found.2.sessionId e.decision.mutationJobId) fun
            | none => stop (.thrown "the mutation cannot be read")
            | some (some existing) =>
              if verifyExistingMutationJob C found.1.run found.2 planned.prepared e.decision
                  existing then .done (.ok ())
              else stop (.thrown "existing governed mutation job binding verification failed")
            | some none => dispatch C found.1 found.2 planned e
        else .done (.ok ())
      else stop (.thrown "approval stream integrity verification failed")
  else stop (.thrown "invalid approval stream envelope")

/-- The decisions of an event, one after another. -/
def processAll : List Envelope → ControlProgram Unit
  | [] => .done (.ok ())
  | e :: es => do
    processApprovalEnvelope C e
    processAll es

/-- `remediationStream`, of the decisions among its records. -/
def remediationStream : ControlProgram Unit :=
  .call .receive fun (records : List Envelope) => processAll C records

end Programs

/-- Any number of calls of others. -/
def others : Nat → ControlProgram Unit
  | 0 => .done (.ok ())
  | n + 1 => .call .elsewhere fun _ => others n

/-- What a worker is given to do. -/
inductive Request where
  | decide (auditId ownerDigest : Text) (verdict : Verdict) (commentDigest : Text)
  | remediationStream
  | others (calls : Nat)

/-- Its program. -/
def Request.program (C : Config) : Request → ControlProgram Unit
  | .decide auditId ownerDigest verdict commentDigest => do
    let _ ← Control.decide C auditId ownerDigest verdict commentDigest
    return ()
  | .remediationStream => Control.remediationStream C
  | .others calls => Control.others calls

end Control
