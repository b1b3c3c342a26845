/-
# The jobs of a governed run

For a governed run `runtime-v2.js` stores jobs for the Core host, one after another: the tags of the
column are read (`READ_TAGS`); what a person has approved is carried out
(`GOVERNED_TAG_MUTATION`); and then the catalog is analyzed and the column read again, both against
the state that the plan expects (`POST_ANALYZE`, `POST_READ_TAGS`).  Here is what it stores, and what
it makes of the second read.

A function of the source that throws returns `none` here.  Of a run, and of the receipts of the
companion, the model keeps the members that go into a request: the others are checked, and digested,
but no request carries them.
-/
import Archon.Control.Canonical
import Archon.Runtime.Session

namespace Control

open Ecma Ecma.Value Remediation

/-! ## 1. Forms of strings -/

/-- `boundedString`. -/
def boundedString (t : Text) (maximum : Nat) : Bool :=
  1 ≤ t.length && t.length ≤ maximum && t.all fun u => 0x20 ≤ u && u ≠ 0x7F

/-- `DATASET_URN`.  Other than in Python, the dot does not match any end of a line. -/
def isDatasetUrn (t : Text) : Bool :=
  Jobs.isDataset t && t.all fun u => u ≠ 0x0D && u ≠ 0x2028 && u ≠ 0x2029

/-- A text of a shape, in which `d` stands for a digit. -/
def hasShape (t : Text) (shape : String) : Bool :=
  t.length = shape.toList.length && (t.zip shape.toList).all fun p =>
    if p.2 = 'd' then isDigit p.1 else p.1.toNat = p.2.toNat

/-- A number within bounds. -/
def numbers (t : Text) (least most : Nat) : Bool :=
  (Instant.readNat t).any fun n => least ≤ n && n ≤ most

/-- The fraction of a second, with its dot. -/
def isFraction (t : Text) : Bool :=
  t.head? = some 0x2E && 2 ≤ t.length && t.length ≤ 10 && t.tail.all isDigit

/-- `RFC3339`. -/
def isRfc3339 (t : Text) : Bool :=
  let fraction := (t.drop 19).dropLast
  hasShape (t.take 19) "dddd-dd-ddTdd:dd:dd" && numbers (slice t 5 7) 1 12
    && numbers (slice t 8 10) 1 31 && numbers (slice t 11 13) 0 23 && numbers (slice t 14 16) 0 59
    && numbers (slice t 17 19) 0 59 && (t.drop 19).getLast? = some 0x5A
    && (fraction.isEmpty || isFraction fraction)

/-- `STAGE`. -/
def isStage (t : Text) : Bool :=
  match t with
  | u :: rest => (0x61 ≤ u && u ≤ 0x7A) && rest.length ≤ 31
      && rest.all fun v => (0x61 ≤ v && v ≤ 0x7A) || isDigit v || v == 0x2D
  | [] => false

/-- `strictBase64`, up to decoding. -/
def isBase64 (t : Text) : Bool :=
  let digits := t.takeWhile fun u => Runtime.isAlphanumeric u || u == 0x2B || u == 0x2F
  8 ≤ t.length && t.length ≤ 512 && 1 ≤ digits.length && (t.drop digits.length).length ≤ 2
    && (t.drop digits.length).all (· == 0x3D) && t.length % 4 = 0

section Forms

variable (P : Platform)

/-- `instant`. -/
def instant (t : Text) : Bool := t.length ≤ 64 && isRfc3339 t && (P.dateParse t).isSome

end Forms

/-! ## 2. Runs -/

/-- What `configuredInputs` returns.  The environment is decoded from UTF-8. -/
structure Inputs where
  datasetUrn : Text
  question : Text
  columnPath : Text
  datasetUrn_form : isDatasetUrn datasetUrn = true
  question_bounded : boundedString question 512 = true
  columnPath_bounded : boundedString columnPath 512 = true
  datasetUrn_encodable : Jobs.encodable datasetUrn = true
  question_encodable : Jobs.encodable question = true
  columnPath_encodable : Jobs.encodable columnPath = true

/-- `runtimeBinding`. -/
structure Binding where
  schemaVersion : Text
  profileId : Text
  generation : Text
  capabilityDigest : Text
  resolution : Text
  boundAt : Text
  leaseExpiresAt : Text

/-- The binding as a value. -/
def Binding.value (b : Binding) : Value :=
  object [("schemaVersion", .str b.schemaVersion), ("profileId", .str b.profileId),
    ("generation", .str b.generation), ("capabilityDigest", .str b.capabilityDigest),
    ("resolution", .str b.resolution), ("boundAt", .str b.boundAt),
    ("leaseExpiresAt", .str b.leaseExpiresAt)]

/-- `run`, with what it carries of `runtimeEvidence`. -/
structure Run where
  auditId : Text
  query : Text
  question : Text
  datasetUrn : Text
  governedColumnPath : Text
  /-- `runtimeEvidence.runtimeSessionId`. -/
  runtimeSessionId : Text
  /-- `runtimeEvidence.digest`. -/
  evidenceDigest : Text
  /-- `runtimeEvidence.runtimeBinding`. -/
  binding : Binding

section Runs

variable (P : Platform)

/-- `validateBinding`. -/
def validateBinding (b : Binding) : Bool :=
  b.schemaVersion = js "archon.runtime-binding/v1"
    && (b.profileId = js "cloud" || b.profileId = js "core")
    && Runtime.isGeneration b.generation && Jobs.isDigest b.capabilityDigest
    && (b.resolution = js "auto" || b.resolution = js "explicit")
    && instant P b.boundAt && instant P b.leaseExpiresAt
    && match P.dateParse b.boundAt, P.dateParse b.leaseExpiresAt with
      | some bound, some lease => bound < lease && lease - bound ≤ 2 * 60 * 60 * 1000
      | _, _ => false

/-- `verifyRuntimeEvidence`. -/
def verifyRuntimeEvidence (run : Run) : Bool :=
  Runtime.isSessionId run.runtimeSessionId && Jobs.isDigest run.evidenceDigest
    && validateBinding P run.binding

/-- `verifyAuditRecord`, of a run whose id is that of an audit. -/
def verifyAuditRecord (inputs : Inputs) (run : Run) : Bool :=
  Jobs.isAudit run.auditId && boundedString run.query 256 && boundedString run.question 512
    && isDatasetUrn run.datasetUrn && boundedString run.governedColumnPath 512
    && verifyRuntimeEvidence P run
    && run.query = inputs.datasetUrn && run.datasetUrn = inputs.datasetUrn
    && run.question = inputs.question && run.governedColumnPath = inputs.columnPath

end Runs

/-- The request of the job `READ_TAGS`. -/
def readTagsRequest (run : Run) : Value :=
  object [("schemaVersion", lit "archon.core-tag-read/v1"), ("auditId", .str run.auditId),
    ("runtimeEvidenceDigest", .str run.evidenceDigest), ("entityUrn", .str run.datasetUrn),
    ("columnPath", .str run.governedColumnPath)]

/-! ## 3. Plans -/

/-- `PII_TAG`. -/
def PII_TAG : Text := js "urn:li:tag:PII"

/-- A state of the tags of a column. -/
structure TagState where
  entityUrn : Text
  columnPath : Text
  tagUrns : List Text
  stateDigest : Text

/-- A list of strings. -/
def texts (ts : List Text) : Value := .arr (ts.map .str)

/-- What a state is digested as. -/
def stateFields (entityUrn columnPath : Text) (tagUrns : List Text) : List (String × Value) :=
  [("entityUrn", .str entityUrn), ("columnPath", .str columnPath), ("tagUrns", texts tagUrns)]

/-- The state as a value. -/
def TagState.value (s : TagState) : Value :=
  object (stateFields s.entityUrn s.columnPath s.tagUrns ++ [("stateDigest", .str s.stateDigest)])

/-- `[...new Set(tags)].sort()`. -/
def sortedSet (tags : List Text) : List Text :=
  tags.dedup.insertionSort fun s t => codeUnitLe s t = true

section Plans

variable (P : Platform)

/-- The conditions of `tagState` on the tags. -/
def tagsValid (tags : List Text) : Bool :=
  tags.length ≤ 256 && tags.all (fun t => boundedString t 256 && (js "urn:li:tag:").isPrefixOf t)
    && same (texts tags) (texts (sortedSet tags))

/-- `tagState`. -/
def tagState (result : Value) (run : Run) : Option TagState :=
  match result.getPath ["tagUrns"], result.getPath ["stateDigest"] with
  | .arr items, .str stateDigest =>
    match asTexts items with
    | some tags =>
      if result.exactKeys ["schemaVersion", "entityUrn", "columnPath", "tagUrns", "stateDigest"]
          && (result.getPath ["schemaVersion"]).isText (js "archon.core-tag-read-result/v1")
          && (result.getPath ["entityUrn"]).isText run.datasetUrn
          && (result.getPath ["columnPath"]).isText run.governedColumnPath && tagsValid tags
          && digest P (object (stateFields run.datasetUrn run.governedColumnPath tags))
            = some stateDigest then
        some ⟨run.datasetUrn, run.governedColumnPath, tags, stateDigest⟩
      else none
    | none => none
  | _, _ => none

/-- What a plan takes of the receipt of the analysis: `result.digest`, `receiptDigest`. -/
structure AnalysisReceipt where
  resultDigest : Text
  receiptDigest : Text

/-- The receipt of the read. -/
structure ReadReceipt where
  result : Value
  receiptDigest : Text

/-- What a plan takes of the receipt of the improvement: `resultDigest` of what
`improveContextProjection` returns, `receiptDigest`, `completedAt`. -/
structure ImproveReceipt where
  resultDigest : Text
  receiptDigest : Text
  completedAt : Text

/-- What `planFor` returns, as far as it is used again. -/
structure Prepared where
  /-- `plan.expectedBefore`. -/
  before : TagState
  /-- `plan.expectedAfter`. -/
  expectedAfter : TagState
  auditEvidenceDigest : Text
  policyDigest : Text
  /-- `plan.digest`. -/
  planDigest : Text
  /-- `approvalRequest.approvalId`. -/
  approvalId : Text
  /-- `approvalRequest.expiresAt`. -/
  expiresAt : Text

/-- `plan.arguments`. -/
def planArguments (run : Run) : Value :=
  object [("tagUrns", texts [PII_TAG]), ("entityUrns", texts [run.datasetUrn]),
    ("columnPaths", texts [run.governedColumnPath])]

/-- What `policyDigest` digests. -/
def policyOf (run : Run) : Value :=
  object [("schemaVersion", lit "archon.governed-mcp-mutation-policy/v1"),
    ("action", lit "ADD_TAGS"), ("tool", lit "add_tags"), ("tagUrns", texts [PII_TAG]),
    ("entityUrn", .str run.datasetUrn), ("columnPath", .str run.governedColumnPath),
    ("writeAuthority", lit "archon-remediation-worker")]

/-- What `auditEvidenceDigest` digests. -/
def evidenceOf (analysis : AnalysisReceipt) (read : ReadReceipt) (improve : ImproveReceipt) : Value :=
  object [("agentStackResultDigest", .str analysis.resultDigest),
    ("analysisReceiptDigest", .str analysis.receiptDigest),
    ("readReceiptDigest", .str read.receiptDigest),
    ("improveContextResultDigest", .str improve.resultDigest),
    ("improveReceiptDigest", .str improve.receiptDigest)]

/-- `planPayload`. -/
def planPayload (run : Run) (analysis : AnalysisReceipt) (read : ReadReceipt)
    (improve : ImproveReceipt) (auditEvidenceDigest policyDigest : Text)
    (before expectedAfter : TagState) : Value :=
  object [("schemaVersion", lit "archon.runtime-remediation-plan/v2"), ("auditId", .str run.auditId),
    ("runtimeEvidenceDigest", .str run.evidenceDigest),
    ("auditEvidenceDigest", .str auditEvidenceDigest), ("policyDigest", .str policyDigest),
    ("agentStackResultDigest", .str analysis.resultDigest),
    ("analysisReceiptDigest", .str analysis.receiptDigest),
    ("readReceiptDigest", .str read.receiptDigest),
    ("improveContextResultDigest", .str improve.resultDigest),
    ("improveReceiptDigest", .str improve.receiptDigest), ("action", lit "ADD_TAGS"),
    ("arguments", planArguments run), ("expectedBefore", before.value),
    ("expectedBeforeDigest", .str before.stateDigest), ("expectedAfter", expectedAfter.value),
    ("expectedAfterDigest", .str expectedAfter.stateDigest), ("requiresHumanApproval", .bool true),
    ("createdAt", .str improve.completedAt)]

/-- `planFor`. -/
def planFor (run : Run) (analysis : AnalysisReceipt) (read : ReadReceipt) (improve : ImproveReceipt) :
    Option Prepared := do
  let before ← tagState P read.result run
  let afterTags := sortedSet (before.tagUrns ++ [PII_TAG])
  let expectedAfterDigest ← digest P (object (stateFields before.entityUrn before.columnPath afterTags))
  let expectedAfter : TagState := ⟨before.entityUrn, before.columnPath, afterTags, expectedAfterDigest⟩
  let policyDigest ← digest P (policyOf run)
  let auditEvidenceDigest ← digest P (evidenceOf analysis read improve)
  let planDigest ← digest P
    (planPayload run analysis read improve auditEvidenceDigest policyDigest before expectedAfter)
  let completed ← P.dateParse improve.completedAt
  let lease ← P.dateParse run.binding.leaseExpiresAt
  return {
    before, expectedAfter, auditEvidenceDigest, policyDigest, planDigest
    approvalId := js "approval-" ++ slice planDigest 7 31
    expiresAt := P.toISOString (min (completed + 30 * 60 * 1000) lease) }

/-! ## 4. The mutation -/

/-- What `decide` stores of an approval: who decided, the job that it names, and when. -/
structure Decision where
  ownerDigest : Text
  mutationJobId : Text
  /-- `Date.now()`. -/
  decidedAt : Int

/-- `decision.decidedAt`. -/
def Decision.decidedText (decision : Decision) : Text := P.toISOString decision.decidedAt

/-- `verifyApprovalEnvelope`, of an approval that `decide` stored. -/
def verifyApprovalEnvelope (decision : Decision) : Bool :=
  Jobs.isDigest decision.ownerDigest && Jobs.isJobId decision.mutationJobId
    && instant P (decision.decidedText P)

/-- What `mutationApproval` digests. -/
def approvalFields (prepared : Prepared) (decision : Decision) : List (String × Value) :=
  [("approvalId", .str prepared.approvalId), ("decision", lit "APPROVE"),
    ("approverDigest", .str decision.ownerDigest), ("decidedAt", .str (decision.decidedText P))]

/-- What `configuredMutationSigner` returns.  The service takes no key of a longer name. -/
structure Signer where
  stage : Text
  keyArn : Text
  stage_form : isStage stage = true
  keyArn_ascii : isAscii keyArn = true
  keyArn_length : keyArn.length ≤ 2048

/-- `Number.isSafeInteger`. -/
def isSafeInteger : Number → Bool
  | .finite x =>
    let scale := 2 ^ (-x.exp).toNat
    let n := x.man * 2 ^ x.exp.toNat
    n % scale = 0 && n / scale < 2 ^ 53
  | _ => false

mutual

/-- `validate` of `canonicalMutationEnvelope`: printable ASCII, to a depth of twelve. -/
def printable : Value → (depth : Nat) → Bool
  | v, depth =>
    depth ≤ 12 &&
      match v with
      | .undefined => false
      | .null | .bool _ => true
      | .num x => isSafeInteger x
      | .str s => isAscii s
      | .arr items => printableItems items (depth + 1)
      | .obj fields => printableFields fields (depth + 1)

/-- The elements of an array. -/
def printableItems : List Value → (depth : Nat) → Bool
  | [], _ => true
  | v :: vs, depth => printable v depth && printableItems vs depth

/-- The members of an object. -/
def printableFields : List (Text × Value) → (depth : Nat) → Bool
  | [], _ => true
  | (k, v) :: fs, depth =>
    !k.isEmpty && isAscii k && printable v depth && printableFields fs depth

end

/-- `canonicalMutationEnvelope`. -/
def canonicalMutationEnvelope (v : Value) : Option Text :=
  if printable v 0 then canonicalize v else none

/-- The times of an authorization, as texts. -/
structure Times where
  issuedAt : Text
  expiresAt : Text

/-- `issuedAt`, and the end that `createMutationAuthorization` gives it. -/
def authorizationTimes (run : Run) (prepared : Prepared) (issuedAt : Int) : Option Times := do
  let issuedText := P.toISOString issuedAt
  let issued ← P.dateParse issuedText
  let approvalExpiry ← P.dateParse prepared.expiresAt
  let lease ← P.dateParse run.binding.leaseExpiresAt
  let expiresText := P.toISOString (min (min (issued + 5 * 60 * 1000) approvalExpiry) lease)
  let expires ← P.dateParse expiresText
  if expires ≤ issued then none else some ⟨issuedText, expiresText⟩

/-- `authorizationEnvelope`. -/
def authorizationEnvelope (run : Run) (prepared : Prepared) (signer : Signer) (decision : Decision)
    (times : Times) : Value :=
  object [("schemaVersion", lit "archon.core-mutation-authorization/v1"),
    ("stage", .str signer.stage), ("sessionId", .str run.runtimeSessionId),
    ("generation", .str run.binding.generation),
    ("capabilityDigest", .str run.binding.capabilityDigest),
    ("jobId", .str decision.mutationJobId), ("approvalId", .str prepared.approvalId),
    ("planDigest", .str prepared.planDigest), ("policyDigest", .str prepared.policyDigest),
    ("target", object [("entityUrn", .str run.datasetUrn),
      ("columnPath", .str run.governedColumnPath)]),
    ("tool", lit "add_tags"),
    ("arguments", object [("tag_urns", texts [PII_TAG]), ("entity_urns", texts [run.datasetUrn]),
      ("column_paths", texts [run.governedColumnPath])]),
    ("issuedAt", .str times.issuedAt), ("expiresAt", .str times.expiresAt)]

/-- What `createMutationAuthorization` returns. -/
def authorizationOf (envelope : Value) (signer : Signer) (envelopeDigest signatureBase64 : Text) :
    Value :=
  object [("envelope", envelope),
    ("signature", object [("keyArn", .str signer.keyArn), ("algorithm", lit "ECDSA_SHA_256"),
      ("canonicalization", lit "archon.sorted-json-utf8/v1"),
      ("envelopeDigest", .str envelopeDigest), ("signatureBase64", .str signatureBase64)])]

/-- `createMutationAuthorization`, with the signature that the service returned. -/
def createMutationAuthorization (run : Run) (prepared : Prepared) (signer : Signer)
    (decision : Decision) (times : Times) (signatureBase64 : Text) : Option Value := do
  let envelope := authorizationEnvelope run prepared signer decision times
  let t ← canonicalMutationEnvelope envelope
  return authorizationOf envelope signer (js "sha256:" ++ P.sha256 t) signatureBase64

/-- What `verifyMutationRequestAuthorization` asks beyond that the request is made of the run, the
plan and the approval. -/
def verifyMutationRequestAuthorization (decision : Decision) (times : Times)
    (signatureBase64 : Text) : Bool :=
  instant P times.issuedAt && instant P times.expiresAt && isBase64 signatureBase64
    && match P.dateParse (decision.decidedText P), P.dateParse times.issuedAt with
      | some decided, some issued => decided ≤ issued
      | _, _ => false

/-- `requestPayload` of `processApprovalEnvelope`. -/
def mutationFields (run : Run) (prepared : Prepared) (decision : Decision) (approvalDigest : Text)
    (authorization : Value) : List (String × Value) :=
  [("schemaVersion", lit "archon.core-governed-tag-mutation/v1"), ("auditId", .str run.auditId),
    ("runtimeEvidenceDigest", .str run.evidenceDigest),
    ("auditEvidenceDigest", .str prepared.auditEvidenceDigest),
    ("planDigest", .str prepared.planDigest), ("policyDigest", .str prepared.policyDigest),
    ("approval", object (approvalFields P prepared decision ++ [("digest", .str approvalDigest)])),
    ("action", lit "ADD_TAGS"), ("arguments", planArguments run),
    ("expectedBeforeDigest", .str prepared.before.stateDigest),
    ("expectedAfterDigest", .str prepared.expectedAfter.stateDigest),
    ("authorization", authorization)]

/-- The request that `processApprovalEnvelope` stores. -/
def mutationRequest (run : Run) (prepared : Prepared) (signer : Signer) (decision : Decision)
    (issuedAt : Int) (signatureBase64 : Text) : Option Value := do
  let times ← authorizationTimes P run prepared issuedAt
  let approvalDigest ← digest P (object (approvalFields P prepared decision))
  let authorization ← createMutationAuthorization P run prepared signer decision times signatureBase64
  let fields := mutationFields P run prepared decision approvalDigest authorization
  let requestDigest ← digest P (object fields)
  if verifyMutationRequestAuthorization P decision times signatureBase64 then
    some (object (fields ++ [("requestDigest", .str requestDigest)]))
  else none

end Plans

/-! ## 5. After the mutation -/

/-- What the two requests have in common. -/
def postFields (run : Run) (prepared : Prepared) (receiptDigest : Text) : List (String × Value) :=
  [("sourceMutationAuditId", .str run.auditId),
    ("sourceMutationReceiptDigest", .str receiptDigest),
    ("postMutationExpectedTagState", prepared.expectedAfter.value)]

/-- `analysisRequest` of `postVerificationDispatch`. -/
def analysisRequest (run : Run) (prepared : Prepared) (receiptDigest : Text) : Value :=
  object ([("schemaVersion", lit "archon.datahub-post-mutation-analysis/v1"),
    ("originalRequest", object [("schemaVersion", lit "archon.datahub-companion-request/v2"),
      ("query", .str run.query), ("question", .str run.question),
      ("runtimeBinding", run.binding.value)])] ++ postFields run prepared receiptDigest)

/-- `readRequest` of `postVerificationDispatch`. -/
def readRequest (run : Run) (prepared : Prepared) (receiptDigest : Text) : Value :=
  object ([("schemaVersion", lit "archon.core-post-mutation-tag-read/v1"),
    ("originalRequest", readTagsRequest run)] ++ postFields run prepared receiptDigest)

section Results

variable (P : Platform)

/-- `postMutationResult`, against the marker of the run. -/
def postMutationResult (wrapper : Value) (schemaVersion : String) (run : Run) (prepared : Prepared)
    (receiptDigest : Text) : Option Value :=
  let result := wrapper.getPath ["postMutationResult"]
  if wrapper.exactKeys ["schemaVersion", "sourceMutationAuditId", "sourceMutationReceiptDigest",
        "postMutationExpectedTagState", "postMutationResult", "postMutationResultDigest"]
      && (wrapper.getPath ["schemaVersion"]).isText (js schemaVersion)
      && (wrapper.getPath ["sourceMutationAuditId"]).isText run.auditId
      && (wrapper.getPath ["sourceMutationReceiptDigest"]).isText receiptDigest
      && same (wrapper.getPath ["postMutationExpectedTagState"]) prepared.expectedAfter.value
      && result.isRecord
      && (digest P result).any (wrapper.getPath ["postMutationResultDigest"]).isText then
    some result
  else none

/-- The comparison of the tags in `verifiedContextDelta`. -/
def governedStateVerified (run : Run) (prepared : Prepared) (receiptDigest : Text)
    (postRead : Value) : Bool :=
  match postMutationResult P postRead "archon.core-post-mutation-tag-read-result/v1" run prepared
      receiptDigest with
  | some raw =>
    match tagState P raw run with
    | some state =>
      same state.value prepared.expectedAfter.value && state.tagUrns.contains PII_TAG
    | none => false
  | none => false

end Results

end Control
