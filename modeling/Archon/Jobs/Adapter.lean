/-
# The adapter

`core_job_adapter.py` looks for jobs in the two partitions of its session, page by page.  A job that
it can not take is failed; one that runs is left alone until its attempt has run out of time; one
that is queued is claimed, executed and completed.

Whatever is raised on the way of one job ends in `_reject_invalid` for it.
-/
import Archon.Jobs.Table

namespace Jobs

open Ecma Remediation Resumption Resumption.Program

/-! ## 1. Receipts -/

/-- `ATTEMPT_SECONDS`. -/
def ATTEMPT_SECONDS : Int := 240

/-- `MAX_ATTEMPTS`. -/
def MAX_ATTEMPTS : Int := 3

/-- `MAX_RECEIPT_BYTES`. -/
def MAX_RECEIPT_BYTES : Nat := 340 * 1024

/-- `MAX_QUERY_PAGES`. -/
def MAX_QUERY_PAGES : Nat := 8

/-- The operations of the adapter. -/
def OPERATIONS : List String :=
  ["ANALYZE", "IMPROVE_CONTEXT", "READ_TAGS", "POST_ANALYZE", "POST_READ_TAGS",
    "GOVERNED_TAG_MUTATION"]

/-- A member, where its value has the form. -/
def formMember (name : String) (v : Py) (form : Text → Bool) : List (String × Py) :=
  if v.isForm form then [(name, v)] else []

/-- `_receipt_context`. -/
def receiptContext (j : Job) : List (String × Py) :=
  (if OPERATIONS.any (fun o => j.operation = js o) then [("operation", Py.str j.operation)] else [])
    ++ if j.request.isDict then
        formMember "auditId" (j.request.get "auditId") isAudit
          ++ formMember "runtimeEvidenceDigest" (j.request.get "runtimeEvidenceDigest") isDigest
          ++ formMember "sourceMutationAuditId" (j.request.get "sourceMutationAuditId") isAudit
          ++ formMember "sourceMutationReceiptDigest" (j.request.get "sourceMutationReceiptDigest")
            isDigest
      else []

/-- An error, as a receipt carries it. -/
def receiptError (code : String) (retryable : Bool) : Py :=
  .object [("code", .lit code), ("retryable", .bool retryable)]

/-- The name of a state. -/
def JobState.text : JobState → Text
  | .QUEUED => js "QUEUED"
  | .RUNNING => js "RUNNING"
  | .SUCCEEDED => js "SUCCEEDED"
  | .FAILED => js "FAILED"

/-- A receipt, without its digest. -/
def receiptFields (S : Settings) (j : Job) (jobId : Text) (state : JobState) (completedAt : Text)
    (attempt rest : List (String × Py)) : List (String × Py) :=
  [("schema", .lit "archon.runtime-bound-job-receipt/v2"), ("profileId", .lit "core"),
    ("jobId", .str jobId), ("sessionId", .str S.sessionId), ("generation", .str S.generation),
    ("capabilityDigest", .str S.capabilityDigest), ("state", .str state.text),
    ("completedAt", .str completedAt)] ++ attempt ++ receiptContext j ++ rest

/-- `_seal_receipt`. -/
def sealReceipt (S : Settings) (fields : List (String × Py)) : Except Fault Py := do
  let d ← digestOf S (.object fields)
  return .object (fields ++ [("receiptDigest", .str d)])

/-- What a job is completed with: its state, and the rest of its receipt. -/
inductive Outcome where
  | result (v : Py)
  | error (code : String) (retryable : Bool)

/-- Its state. -/
def Outcome.state : Outcome → JobState
  | result _ => .SUCCEEDED
  | error _ _ => .FAILED

/-- Its member of the receipt. -/
def Outcome.member : Outcome → List (String × Py)
  | result v => [("result", v)]
  | error code retryable => [("error", receiptError code retryable)]

/-! ## 2. Rejection and completion -/

section Adapter

variable (S : Settings)

/-- What `_reject_invalid` lets pass. -/
def rejectable (key : Key) (j : Job) : Bool :=
  j.bound S && (key.1 = sessionPartition S.sessionId || key.1 = mutationPartition S.sessionId)
    && (js "JOB#").isPrefixOf key.2 && isJobId (key.2.drop 4) && j.open

/-- `_reject_invalid`. -/
def rejectInvalid (key : Key) (j : Job) : Handler Unit := do
  if rejectable S key j then
    let completedAt ← send .iso
    let jobId := if isJobId j.jobId then j.jobId else key.2.drop 4
    let receipt ← lift (sealReceipt S (receiptFields S j jobId .FAILED completedAt []
      [("error", receiptError "INVALID_CORE_JOB" false)]))
    match ← send (.write (.reject key completedAt receipt)) with
    | .ok () | .error .conditional => return ()
    | .error e => lift (.error (.service e))
  else return ()

/-- The receipt of `_complete`, with the state it tells: one that is too large, or that can not be
encoded, is replaced. -/
def completion (j : Job) (attemptId completedAt : Text) (outcome : Outcome) :
    Except Fault (JobState × Py) :=
  let fields o := receiptFields S j j.jobId (Outcome.state o) completedAt
    [("attemptId", .str attemptId)] o.member
  let sealed o := do return (o.state, ← sealReceipt S (fields o))
  match sealReceipt S (fields outcome) with
  | .ok receipt =>
    if (dumps receipt).any fun t => utf8Length t ≤ MAX_RECEIPT_BYTES then .ok (outcome.state, receipt)
    else sealed (.error "CORE_JOB_RECEIPT_TOO_LARGE" false)
  | .error _ => sealed (.error "CORE_JOB_RECEIPT_INVALID" false)

/-- `_complete`. -/
def complete (key : Key) (j : Job) (attemptId : Text) (outcome : Outcome) : Handler Bool := do
  let completedAt ← send .iso
  let (state, receipt) ← lift (completion S j attemptId completedAt outcome)
  match ← send (.write (.complete key attemptId state completedAt receipt)) with
  | .ok () => return true
  | .error .conditional => return false
  | .error e => lift (.error (.service e))

/-! ## 3. Claims and recoveries -/

/-- `_valid`. -/
def valid (pk : Text) (key : Key) (j : Job) : Bool :=
  pk = (if j.operation = MUTATION_OPERATION then mutationPartition S.sessionId
      else sessionPartition S.sessionId)
    && key.1 = pk && isJobId j.jobId && key.2 = jobKey j.jobId && j.bound S && j.open
    && requestValid S.P j.operation j.request

/-- `_claim`. -/
def claim (key : Key) (j : Job) : Handler (Option Text) := do
  if j.state ≠ .QUEUED then return none
  else
    let attemptId ← send .uuid
    let started ← send .iso
    let now ← send .time
    match ← send (.write (.claim key attemptId started (now + ATTEMPT_SECONDS))) with
    | .ok () => return some attemptId
    | .error .conditional => return none
    | .error e => lift (.error (.service e))

/-- `^[0-9a-f]{32}$`. -/
def isAttemptId (t : Text) : Bool := t.length = 32 && t.all isHexDigit

/-- A number of the item that is an `int`, as the table resource returns it. -/
def intAttribute (n : Option Int) : Option Int := if S.decimals then none else n

/-- `_recover_expired`. -/
def recoverExpired (key : Key) (j : Job) : Handler Unit := do
  match intAttribute S j.attemptDeadlineEpoch, j.attemptId, intAttribute S j.attemptCount with
  | some deadline, some attemptId, some attempts =>
    if !isAttemptId attemptId then rejectInvalid S key j
    else
      let now ← send .time
      if now < deadline then return ()
      else if MAX_ATTEMPTS ≤ attempts then
        let _ ← complete S key j attemptId (.error "CORE_JOB_ATTEMPTS_EXHAUSTED" false)
        return ()
      else
        let recovered ← send .iso
        match ← send (.write (.requeue key attemptId deadline recovered)) with
        | .ok () | .error .conditional => return ()
        | .error e => lift (.error (.service e))
  | _, _, _ => rejectInvalid S key j

/-! ## 4. Execution -/

/-- `raise RuntimeError(message)`, unless the condition holds. -/
def demand (condition : Bool) (message : String) : Except Fault Unit :=
  if condition then .ok () else .error (.runtime message)

/-- `_companion`. -/
def companion (path : String) (body : Py) : Handler Py := do
  let result ← lift (raised (← send (.companion path body)))
  lift (demand (result.isDict && jsonValue result 0) "companion response was not a bounded object")
  return result

/-- `_read_tags`, of the state and of its result. -/
def readTags (entity column : Text) : Handler Py := do
  let raw ← lift (raised (← send (.mcp "get_entities" (.object [("urns", .list [.str entity])]))))
  lift (demand (jsonValue raw 0) "read MCP result exceeded policy")
  let (found, tags) := walk column raw false
  lift (demand found "bound DataHub column was not found")
  let state ← lift (tagState S entity column tags)
  return .object ([("schemaVersion", .lit "archon.core-tag-read-result/v1")]
    ++ ["entityUrn", "columnPath", "tagUrns", "stateDigest"].map fun k => (k, state.get k))

/-- The text of a member that the request was validated for. -/
def textOf (v : Py) : Text := v.text?.getD []

/-- `_post_mutation`. -/
def postMutation (analyze : Bool) (request : Py) : Handler Py := do
  lift (demand (validPostRequest S.P analyze request) "post-mutation request is invalid")
  let expected := request.get "postMutationExpectedTagState"
  let live ← readTags S (textOf (expected.get "entityUrn")) (textOf (expected.get "columnPath"))
  lift (demand ((live.get "stateDigest").text?.any (expected.get "stateDigest").isText)
    "post-mutation live tag state drifted")
  let postResult ← if analyze then companion "/v2/analyze" (request.get "originalRequest")
    else pure live
  let d ← lift (digestOf S postResult)
  return .object [("schemaVersion", .lit (if analyze
      then "archon.datahub-post-mutation-analysis-result/v1"
      else "archon.core-post-mutation-tag-read-result/v1")),
    ("sourceMutationAuditId", request.get "sourceMutationAuditId"),
    ("sourceMutationReceiptDigest", request.get "sourceMutationReceiptDigest"),
    ("postMutationExpectedTagState", expected), ("postMutationResult", postResult),
    ("postMutationResultDigest", .str d)]

/-- The members of a result of the gateway. -/
def GATEWAY_KEYS : List String :=
  ["schemaVersion", "success", "action", "requestDigest", "policyDigest", "approvalDigest",
    "beforeDigest", "afterDigest", "changed", "verified", "mutationExecutor", "officialMcpMutation",
    "authorizationEvidence", "receiptDigest"]

/-- Two values are the same string. -/
def sameString (v w : Py) : Bool := v.text?.any w.isText

/-- `nested_evidence_valid`, as far as it comes before the last condition. -/
def nestedEvidence (request gatewayResult : Py) : Bool :=
  let official := gatewayResult.get "officialMcpMutation"
  let evidence := gatewayResult.get "authorizationEvidence"
  let signature := (request.get "authorization").get "signature"
  official.exact ["tool", "policyDigest", "approvalDigest", "requestDigest", "responseDigest"]
    && (official.get "tool").isText
      (if (request.get "action").isText (js "ADD_TAGS") then js "add_tags" else js "remove_tags")
    && sameString (request.get "policyDigest") (official.get "policyDigest")
    && sameString ((request.get "approval").get "digest") (official.get "approvalDigest")
    && sameString (request.get "requestDigest") (official.get "requestDigest")
    && (official.get "responseDigest").isForm isDigest
    && evidence.exact ["keyArn", "algorithm", "canonicalization", "envelopeDigest",
      "signatureDigest", "consumedAt"]
    && sameString (signature.get "keyArn") (evidence.get "keyArn")
    && (evidence.get "algorithm").isText (js "ECDSA_SHA_256")
    && (evidence.get "canonicalization").isText (js "archon.sorted-json-utf8/v1")
    && sameString (signature.get "envelopeDigest") (evidence.get "envelopeDigest")
    && (evidence.get "signatureDigest").isForm isDigest
    && (evidence.get "consumedAt").text?.isSome

/-- `nested_evidence_valid`.  Its last condition is `ISO_RE.fullmatch(..) is not None`, and the
module has no `ISO_RE`. -/
def nestedEvidenceValid (request gatewayResult : Py) : Except Fault Bool :=
  if nestedEvidence request gatewayResult then .error (.name "ISO_RE") else .ok false

/-- The result of the gateway is of the request, and sealed. -/
def gatewayResultValid (request gatewayResult : Py) : Bool :=
  (gatewayResult.get "schemaVersion").isText (js "archon.core-governed-gateway-result/v2")
    && (match gatewayResult.get "success", gatewayResult.get "verified" with
      | .bool true, .bool true => true
      | _, _ => false)
    && (gatewayResult.get "mutationExecutor").isText (js "official-datahub-mcp")
    && sameString (request.get "action") (gatewayResult.get "action")
    && sameString (request.get "requestDigest") (gatewayResult.get "requestDigest")
    && sameString (request.get "policyDigest") (gatewayResult.get "policyDigest")
    && sameString ((request.get "approval").get "digest") (gatewayResult.get "approvalDigest")
    && sameString (request.get "expectedBeforeDigest") (gatewayResult.get "beforeDigest")
    && sameString (request.get "expectedAfterDigest") (gatewayResult.get "afterDigest")
    && (match gatewayResult.get "changed" with
      | .bool _ => true
      | _ => false)

/-- `_governed_mutation`, of what the gateway answers. -/
def governedResult (request gatewayResult : Py) : Except Fault Py := do
  demand (gatewayResult.exact GATEWAY_KEYS) "governed gateway result schema drift"
  let nested ← nestedEvidenceValid request gatewayResult
  demand (gatewayResultValid request gatewayResult && nested)
    "governed gateway receipt verification failed"
  let isSealed ← hasDigest S (gatewayResult.without "receiptDigest")
    (gatewayResult.get "receiptDigest")
  demand isSealed "governed gateway receipt verification failed"
  let result := [("schemaVersion", Py.lit "archon.core-governed-tag-result/v1"),
    ("requestDigest", request.get "requestDigest"), ("policyDigest", request.get "policyDigest"),
    ("beforeDigest", gatewayResult.get "beforeDigest"),
    ("afterDigest", gatewayResult.get "afterDigest"), ("verified", .bool true),
    ("mutationExecutor", .lit "official-datahub-mcp"),
    ("officialMcpMutation", gatewayResult.get "officialMcpMutation"),
    ("authorizationEvidence", gatewayResult.get "authorizationEvidence")]
  let d ← digestOf S (.object result)
  return .object (result ++ [("responseDigest", .str d)])

/-- `_governed_mutation`. -/
def governedMutation (j : Job) : Handler Py := do
  lift (demand (validGovernedRequest S.P j.request) "governed mutation envelope is invalid")
  let gatewayResult ← lift (raised (← send (.mcp "execute_governed_mutation"
    (.object [("job_id", .str j.jobId), ("request", j.request)]))))
  lift (governedResult S j.request gatewayResult)

/-- The result of an operation. -/
def perform (j : Job) : Handler Py :=
  if j.operation = js "ANALYZE" then companion "/v2/analyze" j.request
  else if j.operation = js "IMPROVE_CONTEXT" then companion "/v2/improve-context" j.request
  else if j.operation = js "READ_TAGS" then
    readTags S (textOf (j.request.get "entityUrn")) (textOf (j.request.get "columnPath"))
  else if j.operation = js "POST_ANALYZE" then postMutation S true j.request
  else if j.operation = js "POST_READ_TAGS" then postMutation S false j.request
  else if j.operation = MUTATION_OPERATION then governedMutation S j
  else lift (.error (.runtime "operation is not allowlisted"))

/-- `_execute`. -/
def executeJob (key : Key) (j : Job) (attemptId : Text) : Handler Unit := do
  let attempted : Handler Unit := do
    let result ← perform S j
    let _ ← complete S key j attemptId (.result result)
    return ()
  match ← attempted.attempt with
  | .ok () => return ()
  | .error _ =>
    let _ ← complete S key j attemptId (.error "CORE_JOB_FAILED" true)
    return ()

/-! ## 5. Scans -/

/-- A job of a page, up to what is raised. -/
def tryJob (pk : Text) (key : Key) (j : Job) : Handler Nat := do
  if j.profileId ≠ js "core" ∨ j.schema ≠ JOB_SCHEMA then return 0
  else if !valid S pk key j then
    rejectInvalid S key j
    return 0
  else if j.state = .RUNNING then
    recoverExpired S key j
    return 0
  else
    match ← claim key j with
    | some attemptId =>
      executeJob S key j attemptId
      return 1
    | none => return 0

/-- A job of a page.  Whatever is raised, the job is rejected. -/
def processJob (pk : Text) (key : Key) (j : Job) : Handler Nat := do
  match ← (tryJob S pk key j).attempt with
  | .ok processed => return processed
  | .error _ =>
    rejectInvalid S key j
    return 0

/-- The jobs of a page. -/
def processItems (pk : Text) : List (Key × Job) → Handler Nat
  | [] => return 0
  | (key, j) :: rest => do
    let processed ← processJob S pk key j
    let others ← processItems pk rest
    return processed + others

/-- The pages of a partition, as many as are left: how many jobs were processed, and where the next
scan goes on. -/
def processPages (pk : Text) : Nat → Option Key → Handler (Nat × Option Key)
  | 0, cursor => return (0, cursor)
  | pages + 1, cursor => do
    let page ← lift (raised (← send (.query pk cursor)))
    let processed ← processItems S pk page.items
    match page.lastEvaluatedKey with
    | none => return (processed, none)
    | some next =>
      let (others, cursor') ← processPages pk pages (some next)
      return (processed + others, cursor')

/-- `process_once`, with the cursors of the two partitions. -/
def processOnce (cursors : Option Key × Option Key) : Handler Nat := do
  let (reads, _) ← processPages S (sessionPartition S.sessionId) MAX_QUERY_PAGES cursors.1
  let (mutations, _) ← processPages S (mutationPartition S.sessionId) MAX_QUERY_PAGES cursors.2
  return reads + mutations

end Adapter

end Jobs
