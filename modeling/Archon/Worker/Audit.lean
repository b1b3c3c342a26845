/-
# The audit worker

An audit reads the catalog, plans a remediation for the first finding that allows one, stores the
evidence under its digest, and returns what Step Functions goes on with.  A message can be delivered
any number of times, and the catalog changes, so two runs of one audit need not find the same.  What
makes them agree is a checkpoint: the first result that is written for an execution is the result, and
whoever comes later reads it.

The worker is a `Program`.  The harvest, the reader of tags, the clock and the nonce answer anything;
the bucket and the table are called as `S3ImmutableEvidenceStore` and `DynamoAuditResultCheckpoint`
call them.
-/
import Archon.Remediation.Durable
import Archon.Remediation.Planning
import Archon.Worker.Trust

namespace Worker

open Ecma Ecma.Value Remediation Resumption Resumption.Program

/-! ## 1. Results -/

/-- `AuditCallbackOutputV2`, without its schema. -/
inductive AuditOutput where
  /-- `requiresApproval` is `true`. -/
  | approval (reportDigest evidenceDigest approvalId planDigest approvalRequestDigest
      approvalRequestedAt approvalExpiresAt : Text)
  /-- `requiresApproval` is `false`. -/
  | manual (reportDigest evidenceDigest manualOnlyReason : Text)
deriving DecidableEq

namespace AuditOutput

/-- The members. -/
def fields : AuditOutput → List (String × Value)
  | approval reportDigest evidenceDigest approvalId planDigest approvalRequestDigest
      approvalRequestedAt approvalExpiresAt =>
    [("schemaVersion", lit "archon.audit-result/v2"), ("requiresApproval", .bool true),
      ("reportDigest", .str reportDigest), ("evidenceDigest", .str evidenceDigest),
      ("approvalId", .str approvalId), ("planDigest", .str planDigest),
      ("approvalRequestDigest", .str approvalRequestDigest),
      ("approvalRequestedAt", .str approvalRequestedAt),
      ("approvalExpiresAt", .str approvalExpiresAt)]
  | manual reportDigest evidenceDigest manualOnlyReason =>
    [("schemaVersion", lit "archon.audit-result/v2"), ("requiresApproval", .bool false),
      ("reportDigest", .str reportDigest), ("evidenceDigest", .str evidenceDigest),
      ("manualOnlyReason", .str manualOnlyReason)]

/-- The result as a value. -/
def value (o : AuditOutput) : Value := object o.fields

/-- `evidenceDigest`. -/
def evidenceDigest : AuditOutput → Text
  | approval _ d _ _ _ _ _ => d
  | manual _ d _ => d

end AuditOutput

/-! ## 2. Results that are read back -/

/-- A text that passes a check. -/
def textThat (check : Text → Bool) : Value → Option Text
  | .str t => if check t then some t else none
  | _ => none

/-- `isReplayDigest`. -/
def isReplayDigest : Value → Option Text := textThat isDigestText

/-- `isReplayApprovalId`. -/
def isReplayApprovalId : Value → Option Text :=
  textThat fun t => 8 ≤ t.length && t.length ≤ 160 && t.all (alphanumericOr "._:-")

/-- Two digits of a text, between two bounds. -/
def twoDigits (t : Text) (start least most : Nat) : Bool :=
  (Instant.readNat (slice t start (start + 2))).any fun n => least ≤ n && n ≤ most

/-- `REPLAY_INSTANT_PATTERN`. -/
def isReplayInstant (t : Text) : Bool :=
  t.length = 24 && (slice t 0 4).all isDigit && slice t 4 5 = js "-" && twoDigits t 5 1 12
    && slice t 7 8 = js "-" && twoDigits t 8 1 31 && slice t 10 11 = js "T" && twoDigits t 11 0 23
    && slice t 13 14 = js ":" && twoDigits t 14 0 59 && slice t 16 17 = js ":" && twoDigits t 17 0 59
    && slice t 19 20 = js "." && (slice t 20 23).all isDigit && slice t 23 24 = js "Z"

/-- `isCanonicalReplayInstant`, with the moment. -/
def isCanonicalReplayInstant (P : Platform) : Value → Option (Text × Int)
  | .str t =>
    if isReplayInstant t then
      (P.dateParse t).bind fun epoch => if P.toISOString epoch = t then some (t, epoch) else none
    else none
  | _ => none

/-- `isReplayManualReason`. -/
def isReplayManualReason : Value → Option Text :=
  textThat fun t => MANUAL_ONLY_REASONS.any fun reason => t = js reason

/-- `exactKeys`. -/
def keysAre (fields : List (Text × Value)) (expected : List String) : Bool :=
  fields.length = expected.length && fields.all fun f => expected.any fun key => f.1 = js key

/-- `baseKeys`. -/
def baseKeys : List String := ["schemaVersion", "requiresApproval", "reportDigest", "evidenceDigest"]

/-- `auditOutput`, of an object. -/
def outputOf (P : Platform) (fields : List (Text × Value)) : Option AuditOutput := do
  let v := Value.obj fields
  guard ((v.get (js "schemaVersion")).isText (js "archon.audit-result/v2"))
  let reportDigest ← isReplayDigest (v.get (js "reportDigest"))
  let evidenceDigest ← isReplayDigest (v.get (js "evidenceDigest"))
  match v.get (js "requiresApproval") with
  | .bool true => do
    guard (keysAre fields (baseKeys ++ ["approvalId", "planDigest", "approvalRequestDigest",
      "approvalRequestedAt", "approvalExpiresAt"]))
    let approvalId ← isReplayApprovalId (v.get (js "approvalId"))
    let planDigest ← isReplayDigest (v.get (js "planDigest"))
    let approvalRequestDigest ← isReplayDigest (v.get (js "approvalRequestDigest"))
    let (requestedAt, requested) ← isCanonicalReplayInstant P (v.get (js "approvalRequestedAt"))
    let (expiresAt, expires) ← isCanonicalReplayInstant P (v.get (js "approvalExpiresAt"))
    guard (requested < expires)
    return .approval reportDigest evidenceDigest approvalId planDigest approvalRequestDigest
      requestedAt expiresAt
  | .bool false => do
    guard (keysAre fields (baseKeys ++ ["manualOnlyReason"]))
    let reason ← isReplayManualReason (v.get (js "manualOnlyReason"))
    return .manual reportDigest evidenceDigest reason
  | _ => none

/-- `auditOutput`. -/
def auditOutput (P : Platform) (text : Option Text) : Option AuditOutput := do
  match parse (← text) with
  | some (.obj fields) => outputOf P fields
  | _ => none

/-! ## 3. Calls -/

/-- The item of a result, as far as it is read. -/
structure ResultItem where
  requestDigest : Option Text
  output : Option Text

/-- The calls of the audit worker. -/
inductive AuditEffect where
  /-- A consistent read of the result of an execution. -/
  | getResult (executionId : Text)
  /-- The result, if there is none yet. -/
  | putResult (executionId requestDigest output : Text)
  /-- `AuditPipeline.run`. -/
  | runPipeline (query : Option Text)
  | clock
  | readTagProjection (target : Value)
  | nonce
  /-- An object, if there is none under its key yet. -/
  | putObject (key body : Text)
  /-- `readText`. -/
  | readText (key : Text)

/-- What each is answered. -/
abbrev AuditEffect.Reply : AuditEffect → Type
  | getResult _ => Except AwsError (Option ResultItem)
  | putResult _ _ _ => Except AwsError Unit
  | runPipeline _ => Run Value
  | clock => Text
  | readTagProjection _ => Run Value
  | nonce => Text
  | putObject _ _ => Except AwsError Unit
  | readText _ => Run Text

/-- The asynchronous functions of the audit worker. -/
abbrev Auditing := Program AuditEffect AuditEffect.Reply (Exn Failure)

/-- A call. -/
def invoke (e : AuditEffect) : Auditing e.Reply := perform e

/-! ## 4. The checkpoint and the bucket -/

/-- What `get` makes of an item. -/
def checkedOutput (P : Platform) (requestDigest : Text) (item : ResultItem) : Run AuditOutput :=
  if item.requestDigest ≠ some requestDigest then
    refuse "INVALID_EVIDENCE" "Audit execution id is already bound to a different request."
  else
    match auditOutput P item.output with
    | none => refuse "INVALID_EVIDENCE" "Durable audit result is malformed."
    | some output => .ok output

/-- `DynamoAuditResultCheckpoint.get`. -/
def getCheckpoint (P : Platform) (executionId requestDigest : Text) :
    Auditing (Option AuditOutput) := do
  match ← invoke (.getResult executionId) with
  | .error e => .done (.error e.thrown)
  | .ok none => return none
  | .ok (some item) =>
    let output ← lift (checkedOutput P requestDigest item)
    return some output

/-- `DynamoAuditResultCheckpoint.put`. -/
def putCheckpoint (P : Platform) (executionId requestDigest : Text) (output : AuditOutput) :
    Auditing AuditOutput := do
  let text ← lift (canonicalize output.value)
  match ← invoke (.putResult executionId requestDigest text) with
  | .ok () => return output
  | .error e =>
    if !isConditionalFailure e then .done (.error e.thrown)
    else
      match ← getCheckpoint P executionId requestDigest with
      | some existing => return existing
      | none => lift (refuse "INVALID_EVIDENCE"
          "Audit checkpoint conflict did not resolve to a durable result.")

/-- `evidenceKey`, of an audit. -/
def evidenceKey (d : Text) : Text := js "v1/audit/sha256/" ++ d.drop 7 ++ js ".json"

/-- `S3ImmutableEvidenceStore.put`, of the evidence of an audit with this digest. -/
def putEvidence (d : Text) (document : Value) : Auditing Unit := do
  let body ← lift (canonicalize document)
  match ← invoke (.putObject (evidenceKey d) body) with
  | .ok () => return ()
  | .error e =>
    if !isConditionalFailure e then .done (.error e.thrown)
    else
      let existing ← lift (← invoke (.readText (evidenceKey d)))
      if existing = body then return ()
      else lift (refuse "INVALID_EVIDENCE"
        "A content-addressed evidence key already contains different bytes.")

/-! ## 5. The candidate -/

/-- `asG6Candidate`: the finding and the column. -/
def asG6Candidate (P : Platform) (finding : Value) : Run (Option (Value × Text)) := do
  if !(← eqText (finding.path ["type"]) (js "governance_violation")) then return none
  if !(← eqText (finding.path ["detail", "ruleId"]) (js "G6")) then return none
  match ← finding.path ["detail", "unclassifiedFields"] with
  | .arr fields =>
    if fields.isEmpty || !fields.all isNonEmptyString then return none
    let sorted ← uniqueSorted P (.arr fields)
    return some (finding, ← stringOf (sorted.nth 0))
  | _ => return none

/-- `report.findings.map(asG6Candidate).find((value) => value !== null)`. -/
def candidateOf (P : Platform) (report : Value) : Run (Option (Value × Text)) := do
  match ← report.path ["findings"] with
  | .arr findings =>
    let candidates ← findings.mapM (asG6Candidate P)
    return candidates.findSome? id
  | _ => .error .typeError

/-- `entry.urn`, of an object that has one. -/
def urnOf : Value → Option Text
  | .obj fields =>
    match (Value.obj fields).get (js "urn") with
    | .str urn => some urn
    | _ => none
  | _ => none

/-- `blastRadius`. -/
def blastRadius (P : Platform) (finding : Value) : BlastRadius :=
  let raw := finding.getPath ["detail", "blastRadius"]
  let downstream := match raw.get (js "downstream") with
    | .arr entries => entries.filterMap urnOf
    | _ => []
  { downstreamUrns := P.sortTexts (distinct downstream)
    truncated := (raw.get (js "truncated")).strictEq (.bool true)
      || !(raw.get (js "maxHops")).strictEq (.num (.ofNat 3)) }

/-- The argument of `planG6Remediation`. -/
def planInput (P : Platform) (report finding : Value) (columnPath createdAt : Text) (before : Value) :
    Run PlanG6RemediationInput := do
  let scanId ← stringOf (report.get (js "scanId"))
  let subject ← stringOf (finding.get (js "subject"))
  let policy ← trustedPolicy P
  let valueDigest ← stringOf (← before.path ["digest"])
  return {
    scanId := scanId
    finding := object [("type", lit "governance_violation"),
      ("severity", finding.get (js "severity")), ("subject", .str subject), ("ruleId", lit "G6"),
      ("unclassifiedFields", finding.getPath ["detail", "unclassifiedFields"])]
    columnPath := columnPath
    before := before
    policy := policy
    observedAt := createdAt
    provenance := [⟨js "current_view", subject, none, none, none, createdAt, valueDigest⟩]
    blastRadius := blastRadius P finding }

/-! ## 6. The worker -/

/-- `AuditEvidenceV1["remediation"]`. -/
inductive Disposition where
  | MANUAL_ONLY (reason : String)
  | ACTIONABLE (dossier plan approvalRequest : Value)

/-- As a value. -/
def Disposition.value : Disposition → Value
  | MANUAL_ONLY reason => object [("disposition", lit "MANUAL_ONLY"), ("reason", lit reason)]
  | ACTIONABLE dossier plan approvalRequest =>
    object [("disposition", lit "ACTIONABLE"), ("dossier", dossier), ("plan", plan),
      ("approvalRequest", approvalRequest)]

/-- `APPROVAL_WINDOW_MS`. -/
def APPROVAL_WINDOW_MS : Int := 6 * 24 * 60 * 60 * 1000

/-- `new Date(Date.parse(createdAt) + APPROVAL_WINDOW_MS).toISOString()`; a `RangeError` is caught like
any other. -/
def approvalExpiry (P : Platform) (createdAt : Text) : Run Text :=
  match P.dateParse createdAt with
  | some ms => .ok (P.toISOString (ms + APPROVAL_WINDOW_MS))
  | none => .error .typeError

/-- The `try` of `audit`. -/
def planned (P : Platform) (report finding : Value) (columnPath createdAt : Text) :
    Auditing Disposition := do
  let before ← lift (← invoke (.readTagProjection
    (object [("entityUrn", finding.get (js "subject")), ("columnPath", .str columnPath)])))
  let input ← lift (planInput P report finding columnPath createdAt before)
  match ← lift (planG6Remediation P input) with
  | .MANUAL_ONLY _ => return .MANUAL_ONLY "POLICY_REJECTED_PROPOSAL"
  | .ACTIONABLE dossier plan =>
    let expiresAt ← lift (approvalExpiry P createdAt)
    let nonce : Text ← invoke .nonce
    let approvalRequest ← lift (createApprovalRequest P ⟨dossier, plan, createdAt, expiresAt, nonce⟩)
    return .ACTIONABLE dossier plan approvalRequest

/-- The remediation of an audit. -/
def dispositionOf (P : Platform) (mode : Option AuditMode) (report : Value) (createdAt : Text)
    (candidate : Option (Value × Text)) : Auditing Disposition :=
  if mode = some .READ_ONLY then return .MANUAL_ONLY "READ_ONLY_REQUEST"
  else
    match candidate with
    | none => return .MANUAL_ONLY "NO_ACTIONABLE_G6_FINDING"
    | some (finding, columnPath) => do
      match ← (planned P report finding columnPath createdAt).attempt with
      | .ok disposition => return disposition
      | .error _ => return .MANUAL_ONLY "REMEDIATION_PRESTATE_UNAVAILABLE"

/-- What an audit is run with. -/
structure AuditJob where
  message : AuditQueueMessage
  releaseSha : Text

/-- The members of the evidence without its digest. -/
def auditEvidenceFields (job : AuditJob) (report : Value) (reportDigest : Text)
    (disposition : Disposition) (createdAt : Text) : List (String × Value) :=
  [("schemaVersion", lit "archon.audit-evidence/v1"), ("executionId", .str job.message.executionId),
    ("request", job.message.request.value), ("releaseSha", .str job.releaseSha), ("report", report),
    ("reportDigest", .str reportDigest), ("remediation", disposition.value),
    ("createdAt", .str createdAt)]

/-- `contentAddressedAuditEvidence`: the digest and the document. -/
def contentAddressedAuditEvidence (P : Platform) (fields : List (String × Value)) :
    Run (Text × Value) := do
  let bytes := utf8Length ((stringify (object fields)).getD [])
  if MAX_EVIDENCE_BYTES < bytes then
    refuse "INVALID_EVIDENCE" "Audit evidence exceeds the worker limit."
  else
    let d ← digest P (object fields)
    return (d, object (fields ++ [("digest", .str d)]))

/-- What the audit returns. -/
def auditResult (reportDigest evidenceDigest : Text) : Disposition → Run AuditOutput
  | .MANUAL_ONLY reason => .ok (.manual reportDigest evidenceDigest (js reason))
  | .ACTIONABLE _ plan approvalRequest => do
    let approvalId ← stringOf (approvalRequest.getPath ["approvalId"])
    let planDigest ← stringOf (plan.getPath ["digest"])
    let approvalRequestDigest ← stringOf (approvalRequest.getPath ["digest"])
    let requestedAt ← stringOf (approvalRequest.getPath ["requestedAt"])
    let expiresAt ← stringOf (approvalRequest.getPath ["expiresAt"])
    return .approval reportDigest evidenceDigest approvalId planDigest approvalRequestDigest
      requestedAt expiresAt

/-- An audit whose remediation is known: the evidence is stored, and then the result. -/
def concluded (P : Platform) (job : AuditJob) (requestDigest : Text) (report : Value)
    (createdAt : Text) (disposition : Disposition) : Auditing AuditOutput := do
  let reportDigest ← lift (digest P report)
  let evidence ← lift (contentAddressedAuditEvidence P
    (auditEvidenceFields job report reportDigest disposition createdAt))
  putEvidence evidence.1 evidence.2
  let output ← lift (auditResult reportDigest evidence.1 disposition)
  putCheckpoint P job.message.executionId requestDigest output

/-- An audit that has no result yet. -/
def auditAnew (P : Platform) (job : AuditJob) (requestDigest : Text) : Auditing AuditOutput := do
  let report ← lift (← invoke (.runPipeline job.message.request.query))
  let createdAt : Text ← invoke .clock
  let candidate ← lift (if job.message.request.mode = some .READ_ONLY then .ok none
    else candidateOf P report)
  let disposition ← dispositionOf P job.message.request.mode report createdAt candidate
  concluded P job requestDigest report createdAt disposition

/-- `AuditWorkerService.audit`, with a checkpoint. -/
def audit (P : Platform) (job : AuditJob) : Auditing AuditOutput := do
  let requestDigest ← lift (digest P job.message.request.value)
  match ← getCheckpoint P job.message.executionId requestDigest with
  | some checkpoint => return checkpoint
  | none => auditAnew P job requestDigest

end Worker
