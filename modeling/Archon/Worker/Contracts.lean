/-
# Queue messages

What a worker takes from its queue is a text.  `parseQueueMessage` bounds it, reads it as JSON and
checks every member before anything is done with it: a message of the wrong kind, with a member too
many or too few, or with a malformed member, is refused with a `WorkerContractError`.

The three messages are structures here, whose members have the types the parser has checked.  An
issuer is read as a URL by the platform.
-/
import Archon.Remediation.Producers
import Archon.Worker.Report

namespace Worker

open Ecma Ecma.Value Remediation

/-! ## 1. The platform -/

/-- What `new URL(t)` yields, as far as the parser looks at it. -/
structure Url where
  protocol : Text
  username : Text
  password : Text
  hash : Text
  /-- `toString()`. -/
  href : Text
deriving DecidableEq

/-- The platform of a worker. -/
structure WorkerPlatform extends Platform where
  /-- `new URL(t)`; `none` where it throws. -/
  parseUrl : Text → Option Url

/-- Node, its URLs cut down to `https:` and a host. -/
def WorkerPlatform.node : WorkerPlatform where
  toPlatform := Platform.node
  parseUrl t :=
    if (js "https://").isPrefixOf t && (t.drop 8).all (fun u => isLower u || isDigit u || u == 0x2E) &&
      !(t.drop 8).isEmpty then
      some ⟨js "https:", [], [], [], t ++ js "/"⟩
    else none

/-! ## 2. Members -/

/-- `throw new WorkerContractError(code, message)`. -/
def refuse {α : Type} (code message : String) : Run α := .error (.user (.workerContract code message))

/-- `fail(message)`. -/
def invalidMessage {α : Type} (message : String) : Run α := refuse "INVALID_MESSAGE" message

/-- `if (condition) fail(message)`. -/
def invalidIf (condition : Bool) (message : String) : Run Unit :=
  if condition then invalidMessage message else .ok ()

@[simp] theorem invalidIf_eq_ok {condition : Bool} {message : String} {u : Unit} :
    invalidIf condition message = .ok u ↔ condition = false := by
  cases condition <;> simp [invalidIf, invalidMessage, refuse]

/-- `record`. -/
def record (v : Value) (label : String) : Run Value := do
  invalidIf (!isRecord v) (label ++ " must be an object.")
  return v

/-- `exactKeys`. -/
def exactKeys (v : Value) (allowed required : List String) (label : String) : Run Unit := do
  invalidIf (!(ownKeys v).all fun key => (allowed.map js).contains key)
    (label ++ " contains an unexpected field.")
  invalidIf (!required.all fun key => (ownKeys v).contains (js key))
    (label ++ " is missing a required field.")

theorem exactKeys_object {fields : List (String × Value)} {allowed required : List String}
    (label : String) (hallowed : ∀ k ∈ fields.map Prod.fst, k ∈ allowed)
    (hrequired : ∀ k ∈ required, k ∈ fields.map Prod.fst) :
    exactKeys (object fields) allowed required label = .ok () := by
  have hkeys : ownKeys (object fields) = (fields.map Prod.fst).map js := by
    simp [ownKeys, object, entries, Function.comp_def]
  have hcontains : ∀ (names : List String) (k : String), (names.map js).contains (js k) = names.contains k := by
    intro names k
    rw [Bool.eq_iff_iff, List.contains_iff_mem, List.contains_iff_mem]
    simp
  have h1 : ((fields.map Prod.fst).map js).all (fun key => (allowed.map js).contains key) = true := by
    rw [List.all_eq_true]
    intro t ht
    obtain ⟨k, hk, rfl⟩ := List.mem_map.mp ht
    rw [hcontains, List.contains_iff_mem]
    exact hallowed k hk
  have h2 : required.all (fun key => ((fields.map Prod.fst).map js).contains (js key)) = true := by
    rw [List.all_eq_true]
    intro k hk
    rw [hcontains, List.contains_iff_mem]
    exact hrequired k hk
  rw [exactKeys, hkeys, h1, h2]
  rfl

/-- `stringValue`. -/
def stringValue (v : Value) (label : String) (minLength maxLength : Nat) : Run Text :=
  match v with
  | .str t =>
    if decide (t.length < minLength) || decide (maxLength < t.length) ||
        t.any (fun u => u ≤ 0x1F || u == 0x7F) then
      invalidMessage (label ++ " is invalid.")
    else .ok t
  | _ => invalidMessage (label ++ " is invalid.")

/-- `instant`, of the parser. -/
def instantText (P : Platform) (v : Value) (label : String) : Run Text := do
  let t ← stringValue v label 20 40
  invalidIf (P.dateParse t).isNone (label ++ " must be an ISO-8601 timestamp.")
  return t

/-- `taskToken`. -/
def taskTokenOf (v : Value) : Run Text := stringValue v "taskToken" 16 1024

/-- `EXECUTION_ARN_PATTERN.test(t)`: the pattern splits the text at its colons. -/
def isExecutionArn (t : Text) : Bool :=
  match t.splitOn 0x3A with
  | [arn, part, states, region, account, execution, machine, name] =>
    decide (arn = js "arn") && ["aws", "aws-us-gov", "aws-cn"].any (fun p => decide (part = js p)) &&
      decide (states = js "states") &&
      !region.isEmpty && region.all (fun u => isLower u || isDigit u || u == 0x2D) &&
      decide (account.length = 12) && account.all isDigit && decide (execution = js "execution") &&
      !machine.isEmpty && machine.all (alphanumericOr "-_") && !name.isEmpty && name.all (alphanumericOr "-_")
  | _ => false

/-- `executionId`, of the parser. -/
def executionIdOf (v : Value) : Run Text := do
  let t ← stringValue v "executionId" 32 2048
  invalidIf (!isExecutionArn t) "executionId must be a Step Functions execution ARN."
  return t

/-- `identifier`. -/
def identifier (v : Value) (label : String) : Run Text := do
  let t ← stringValue v label 8 160
  invalidIf (!t.all (alphanumericOr "._:-")) (label ++ " has an invalid format.")
  return t

/-- `sha256`, of the parser. -/
def digestText (v : Value) (label : String) : Run Text := do
  let t ← stringValue v label 71 71
  invalidIf (!isDigestText t) (label ++ " must be a SHA-256 digest.")
  return t

/-! ## 3. Messages -/

/-- The modes of an audit request. -/
inductive AuditMode where
  | READ_ONLY
  | GOVERNED
deriving DecidableEq

/-- The text of a mode. -/
def AuditMode.name : AuditMode → Value
  | READ_ONLY => lit "READ_ONLY"
  | GOVERNED => lit "GOVERNED"

/-- `AuditRequestV1`. -/
structure AuditRequest where
  requestId : Text
  requestedAt : Text
  query : Option Text
  mode : Option AuditMode

/-- The request as a value. -/
def AuditRequest.value (r : AuditRequest) : Value :=
  object ([("schemaVersion", lit "archon.audit-request/v1"), ("requestId", .str r.requestId),
    ("requestedAt", .str r.requestedAt)] ++
    (r.query.map fun q => ("query", Value.str q)).toList ++
    (r.mode.map fun m => ("mode", m.name)).toList)

/-- `AuditQueueMessageV1`. -/
structure AuditQueueMessage where
  taskToken : Text
  executionId : Text
  request : AuditRequest

/-- `ApprovalQueueMessageV1`. -/
structure ApprovalQueueMessage where
  taskToken : Text
  executionId : Text
  approvalId : Text
  planDigest : Text
  evidenceDigest : Text
  approvalRequestDigest : Text
  requestedAt : Text
  expiresAt : Text

/-- `ApprovalCallbackV1`, whose approver is always an authenticated data steward. -/
structure ApprovalCallback where
  approvalId : Text
  decision : Decision
  subject : Text
  issuer : Text
  decidedAt : Text

/-- Its approver. -/
def ApprovalCallback.approver (c : ApprovalCallback) : AuthenticatedApprover :=
  ⟨c.subject, c.issuer, [js "DataSteward"], true⟩

/-- `RemediationQueueMessageV1`. -/
structure RemediationQueueMessage where
  taskToken : Text
  executionId : Text
  approvalId : Text
  planDigest : Text
  evidenceDigest : Text
  approvalResult : ApprovalCallback

/-- `WorkerQueueMessage`. -/
inductive WorkerQueueMessage where
  | audit (message : AuditQueueMessage)
  | approval (message : ApprovalQueueMessage)
  | remediation (message : RemediationQueueMessage)

/-- `AsyncMessageKind`. -/
inductive AsyncMessageKind where
  | audit
  | approval
  | remediation
deriving DecidableEq

/-- The mode of a request, which may be absent. -/
def modeOf (v : Value) : Run (Option AuditMode) :=
  if v.strictEq .undefined then .ok none
  else if v.isText (js "READ_ONLY") then .ok (some .READ_ONLY)
  else if v.isText (js "GOVERNED") then .ok (some .GOVERNED)
  else invalidMessage "request.mode must be READ_ONLY or GOVERNED."

/-- The query of a request, which may be absent. -/
def queryOf (v : Value) : Run (Option Text) :=
  if v.strictEq .undefined then .ok none else do return some (← stringValue v "request.query" 1 512)

/-- `parseAuditRequest`. -/
def parseAuditRequest (P : Platform) (v : Value) : Run AuditRequest := do
  let input ← record v "request"
  exactKeys input ["schemaVersion", "requestId", "requestedAt", "query", "mode"]
    ["schemaVersion", "requestId", "requestedAt"] "request"
  invalidIf (!(input.getPath ["schemaVersion"]).isText (js "archon.audit-request/v1"))
    "request.schemaVersion is unsupported."
  let query ← queryOf (input.getPath ["query"])
  let mode ← modeOf (input.getPath ["mode"])
  let requestId ← identifier (input.getPath ["requestId"]) "request.requestId"
  let requestedAt ← instantText P (input.getPath ["requestedAt"]) "request.requestedAt"
  return ⟨requestId, requestedAt, query, mode⟩

/-- `t.replace(/\/$/u, "")`. -/
def withoutTrailingSlash (t : Text) : Text := if t.getLast? = some 0x2F then t.dropLast else t

/-- The decision of `approvalResult`, once it is known to be one of the two. -/
def decisionOf (v : Value) : Run Decision :=
  if v.isText (js "APPROVE") then .ok .APPROVE
  else if v.isText (js "REJECT") then .ok .REJECT
  else invalidMessage "approvalResult.decision.decision is invalid."

/-- `approver["roles"]` is `["DataSteward"]`, and the approver is authenticated. -/
def holdsDataSteward (approver : Value) : Bool :=
  (approver.getPath ["authenticated"]).strictEq (.bool true) &&
    match approver.getPath ["roles"] with
    | .arr [role] => role.isText (js "DataSteward")
    | _ => false

/-- `parseApprovalCallback`. -/
def parseApprovalCallback (P : WorkerPlatform) (v : Value) : Run ApprovalCallback := do
  let callback ← record v "approvalResult"
  exactKeys callback ["approvalId", "decision"] ["approvalId", "decision"] "approvalResult"
  let decision ← record (callback.getPath ["decision"]) "approvalResult.decision"
  exactKeys decision ["decision", "approver", "decidedAt"] ["decision", "approver", "decidedAt"]
    "approvalResult.decision"
  let answer ← decisionOf (decision.getPath ["decision"])
  let approver ← record (decision.getPath ["approver"]) "approvalResult.decision.approver"
  exactKeys approver ["subject", "issuer", "roles", "authenticated"]
    ["subject", "issuer", "roles", "authenticated"] "approvalResult.decision.approver"
  invalidIf (!holdsDataSteward approver)
    "approvalResult does not contain an authenticated DataSteward."
  let issuer ← stringValue (approver.getPath ["issuer"]) "approvalResult.decision.approver.issuer" 8 2048
  match P.parseUrl issuer with
  | none => invalidMessage "approvalResult.decision.approver.issuer is not a URL."
  | some url =>
    invalidIf (!(decide (url.protocol = js "https:") && url.username.isEmpty && url.password.isEmpty &&
      url.hash.isEmpty)) "approvalResult.decision.approver.issuer is not an HTTPS identity issuer."
    let approvalId ← identifier (callback.getPath ["approvalId"]) "approvalResult.approvalId"
    let subject ← stringValue (approver.getPath ["subject"]) "approvalResult.decision.approver.subject" 1 256
    let decidedAt ← instantText P.toPlatform (decision.getPath ["decidedAt"])
      "approvalResult.decision.decidedAt"
    return ⟨approvalId, answer, subject, withoutTrailingSlash url.href, decidedAt⟩

/-- `parseAuditMessage`. -/
def parseAuditMessage (P : Platform) (input : Value) : Run AuditQueueMessage := do
  exactKeys input ["type", "taskToken", "executionId", "request"]
    ["type", "taskToken", "executionId", "request"] "AUDIT_REQUESTED"
  let taskToken ← taskTokenOf (input.getPath ["taskToken"])
  let executionId ← executionIdOf (input.getPath ["executionId"])
  let request ← parseAuditRequest P (input.getPath ["request"])
  return ⟨taskToken, executionId, request⟩

/-- `parseApprovalMessage`. -/
def parseApprovalMessage (P : Platform) (input : Value) : Run ApprovalQueueMessage := do
  let keys := ["type", "taskToken", "executionId", "approvalId", "planDigest", "evidenceDigest",
    "approvalRequestDigest", "requestedAt", "expiresAt"]
  exactKeys input keys keys "APPROVAL_REQUESTED"
  let requestedAt ← instantText P (input.getPath ["requestedAt"]) "requestedAt"
  let expiresAt ← instantText P (input.getPath ["expiresAt"]) "expiresAt"
  invalidIf (!laterThan (P.dateParse expiresAt) (P.dateParse requestedAt))
    "expiresAt must be later than requestedAt."
  let taskToken ← taskTokenOf (input.getPath ["taskToken"])
  let executionId ← executionIdOf (input.getPath ["executionId"])
  let approvalId ← identifier (input.getPath ["approvalId"]) "approvalId"
  let planDigest ← digestText (input.getPath ["planDigest"]) "planDigest"
  let evidenceDigest ← digestText (input.getPath ["evidenceDigest"]) "evidenceDigest"
  let approvalRequestDigest ← digestText (input.getPath ["approvalRequestDigest"]) "approvalRequestDigest"
  return ⟨taskToken, executionId, approvalId, planDigest, evidenceDigest, approvalRequestDigest,
    requestedAt, expiresAt⟩

/-- `parseRemediationMessage`. -/
def parseRemediationMessage (P : WorkerPlatform) (input : Value) : Run RemediationQueueMessage := do
  let keys := ["type", "taskToken", "executionId", "approvalId", "planDigest", "evidenceDigest",
    "approvalResult"]
  exactKeys input keys keys "REMEDIATION_REQUESTED"
  let approvalResult ← parseApprovalCallback P (input.getPath ["approvalResult"])
  let approvalId ← identifier (input.getPath ["approvalId"]) "approvalId"
  invalidIf (!decide (approvalResult.approvalId = approvalId)) "approvalResult is not bound to approvalId."
  let taskToken ← taskTokenOf (input.getPath ["taskToken"])
  let executionId ← executionIdOf (input.getPath ["executionId"])
  let planDigest ← digestText (input.getPath ["planDigest"]) "planDigest"
  let evidenceDigest ← digestText (input.getPath ["evidenceDigest"]) "evidenceDigest"
  return ⟨taskToken, executionId, approvalId, planDigest, evidenceDigest, approvalResult⟩

/-- `MAX_SQS_BODY_BYTES`. -/
def MAX_SQS_BODY_BYTES : Nat := 128 * 1024

/-- The message inside the JSON of a body. -/
def parseMessageValue (P : WorkerPlatform) (kind : AsyncMessageKind) (v : Value) :
    Run WorkerQueueMessage := do
  let input ← record v "message"
  match kind with
  | .approval =>
    invalidIf (!(input.getPath ["type"]).isText (js "APPROVAL_REQUESTED"))
      "The approval queue accepts only APPROVAL_REQUESTED."
    return .approval (← parseApprovalMessage P.toPlatform input)
  | .audit =>
    invalidIf (!(input.getPath ["type"]).isText (js "AUDIT_REQUESTED"))
      "The audit queue accepts only AUDIT_REQUESTED."
    return .audit (← parseAuditMessage P.toPlatform input)
  | .remediation =>
    invalidIf (!(input.getPath ["type"]).isText (js "REMEDIATION_REQUESTED"))
      "The remediation queue accepts only REMEDIATION_REQUESTED."
    return .remediation (← parseRemediationMessage P input)

/-- `parseQueueMessage`. -/
def parseQueueMessage (P : WorkerPlatform) (kind : AsyncMessageKind) (body : Text) :
    Run WorkerQueueMessage := do
  if MAX_SQS_BODY_BYTES < utf8Length body then
    refuse "BODY_TOO_LARGE" "SQS message body exceeds the worker limit."
  match Ecma.parse body with
  | none => refuse "INVALID_JSON" "SQS message body is not valid JSON."
  | some v => parseMessageValue P kind v

end Worker
