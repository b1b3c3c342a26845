/-
# The gateway

`governed_datahub_gateway.py` stands before the official writer of DataHub.  `_execute` takes the id
of a job and a request that carries a signed authorization: it validates both at one reading of the
clock, marks the authorization as consumed on the job, reads the tags, calls the official tool, and
reads them again.

The calls of one gateway are made under a lock; here they are not, so that more may happen.
-/
import Archon.Jobs.Table

namespace Jobs

open Ecma Remediation Resumption Resumption.Program

/-! ## 1. What is fixed -/

/-- `DATASET_URN`. -/
def DATASET_URN : Text :=
  js "urn:li:dataset:(urn:li:dataPlatform:sqlite,archon_demo.customers,PROD)"

/-- `COLUMN_PATH`. -/
def COLUMN_PATH : Text := js "customer_email"

/-- `ENVELOPE_KEYS`. -/
def ENVELOPE_KEYS : List String :=
  ["schemaVersion", "stage", "sessionId", "generation", "capabilityDigest", "jobId", "approvalId",
    "planDigest", "policyDigest", "target", "tool", "arguments", "issuedAt", "expiresAt"]

/-- `SIGNATURE_KEYS`. -/
def SIGNATURE_KEYS : List String :=
  ["keyArn", "algorithm", "canonicalization", "envelopeDigest", "signatureBase64"]

/-- `raise PermissionError(message)`, unless the condition holds. -/
def permit (condition : Bool) (message : String) : Except Fault Unit :=
  if condition then .ok () else .error (.permission message)

@[simp] theorem permit_eq_ok {condition : Bool} {message : String} {u : Unit} :
    permit condition message = .ok u ↔ condition = true := by
  cases condition <;> simp [permit]

/-! ## 2. Validation -/

/-- Printable ASCII, and not empty. -/
def isPrintable (t : Text) : Bool := !t.isEmpty && t.all fun u => 0x20 ≤ u && u ≤ 0x7E

mutual

/-- `_validate_signed_json`. -/
def signedJson : Py → Bool
  | .none | .bool _ => true
  | .int n => -((2 : Int) ^ 53 - 1) ≤ n && n ≤ 2 ^ 53 - 1
  | .str t => isPrintable t
  | .list items => signedItems items
  | .dict fields => signedFields fields
  | .float _ _ | .decimal _ => false

/-- `_validate_signed_json` of the elements of a list. -/
def signedItems : List Py → Bool
  | [] => true
  | v :: vs => signedJson v && signedItems vs

/-- `_validate_signed_json` of the members of a dict. -/
def signedFields : List (Text × Py) → Bool
  | [] => true
  | (k, v) :: fs => isPrintable k && signedJson v && signedFields fs

end

/-- `_parse_instant`, in milliseconds. -/
def parseInstant (v : Py) : Except Fault Int :=
  match v with
  | .str t =>
    if isIso t && slice t 0 4 ≠ js "0000" then
      match Instant.parseIso t with
      | some ms => .ok ms
      | none => .error .value
    else .error (.permission "authorization instant is invalid")
  | _ => .error (.permission "authorization instant is invalid")

/-- The tool of an action. -/
def toolOf (request : Py) : Text :=
  if (request.get "action").isText (js "ADD_TAGS") then js "add_tags" else js "remove_tags"

/-- The request itself is within policy. -/
def withinPolicy (request : Py) : Bool :=
  let approval := request.get "approval"
  let arguments := request.get "arguments"
  (request.get "schemaVersion").isText (js "archon.core-governed-tag-mutation/v1")
    && (request.get "auditId").isForm isAudit
    && ((request.get "action").isText (js "ADD_TAGS")
      || (request.get "action").isText (js "REMOVE_TAGS"))
    && approval.exact ["approvalId", "decision", "approverDigest", "decidedAt", "digest"]
    && (approval.get "decision").isText (js "APPROVE")
    && arguments.exact ["tagUrns", "entityUrns", "columnPaths"]
    && (arguments.get "tagUrns").isTexts [PII_TAG]
    && (arguments.get "entityUrns").isTexts [DATASET_URN]
    && (arguments.get "columnPaths").isTexts [COLUMN_PATH]
    && (request.get "authorization").exact ["envelope", "signature"]

/-- Two values are the same string. -/
def sameText (v w : Py) : Bool := v.text?.any w.isText

/-- The envelope is of this job, this request and this host. -/
def bindsEnvelope (S : Settings) (jobId : Text) (request envelope : Py) : Bool :=
  (envelope.get "schemaVersion").isText (js "archon.core-mutation-authorization/v1")
    && (envelope.get "stage").isText S.stage
    && (envelope.get "sessionId").isText S.sessionId
    && (envelope.get "generation").isText S.generation
    && (envelope.get "capabilityDigest").isText S.capabilityDigest
    && (envelope.get "jobId").isText jobId
    && sameText ((request.get "approval").get "approvalId") (envelope.get "approvalId")
    && sameText (request.get "planDigest") (envelope.get "planDigest")
    && sameText (request.get "policyDigest") (envelope.get "policyDigest")
    && (envelope.get "target").exact ["entityUrn", "columnPath"]
    && ((envelope.get "target").get "entityUrn").isText DATASET_URN
    && ((envelope.get "target").get "columnPath").isText COLUMN_PATH
    && (envelope.get "tool").isText (toolOf request)
    && (envelope.get "arguments").exact ["tag_urns", "entity_urns", "column_paths"]
    && ((envelope.get "arguments").get "tag_urns").isTexts [PII_TAG]
    && ((envelope.get "arguments").get "entity_urns").isTexts [DATASET_URN]
    && ((envelope.get "arguments").get "column_paths").isTexts [COLUMN_PATH]

/-- What the signature says of itself. -/
def describesSignature (S : Settings) (signature : Py) (envelopeDigest : Text) : Bool :=
  (signature.get "keyArn").isText S.keyArn
    && (signature.get "algorithm").isText (js "ECDSA_SHA_256")
    && (signature.get "canonicalization").isText (js "archon.sorted-json-utf8/v1")
    && (signature.get "envelopeDigest").isText envelopeDigest
    && (signature.get "signatureBase64").isForm fun t => len t ≤ 256

/-- `signed authorization is expired or overlong`, in microseconds. -/
def inWindow (issuedAt expiresAt now : Int) : Bool :=
  issuedAt * 1000 ≤ now + 30000000 && now < expiresAt * 1000 && issuedAt < expiresAt
    && expiresAt - issuedAt ≤ 5 * 60000

/-- A request that was validated, as far as it can be without a call. -/
structure Validated where
  tool : Text
  envelopeDigest : Text
  signatureBytes : List UInt8
  expiresAt : Int

/-- `_validate_request`, up to the verification of the signature. -/
def validate (S : Settings) (jobId : Text) (request : Py) (now : Int) :
    Except Fault Validated := do
  permit (isJobId jobId && request.exact GOVERNED_KEYS) "governed mutation envelope is invalid"
  permit (withinPolicy request) "governed mutation request is outside policy"
  permit ((governedDigests request).all (·.isForm isDigest)) "governed mutation digest is invalid"
  permit (((request.get "approval").get "approvalId").isForm isApprovalId
    && ((request.get "approval").get "decidedAt").isForm isIso) "approval binding is invalid"
  let same ← hasDigest S (request.without "requestDigest") (request.get "requestDigest")
  permit same "governed request digest mismatch"
  let envelope := (request.get "authorization").get "envelope"
  let signature := (request.get "authorization").get "signature"
  permit (signedJson envelope) "signed value is outside the canonical subset"
  permit (envelope.exact ENVELOPE_KEYS && signature.exact SIGNATURE_KEYS)
    "signed authorization schema is invalid"
  permit (bindsEnvelope S jobId request envelope) "signed authorization binding mismatch"
  let issuedAt ← parseInstant (envelope.get "issuedAt")
  let expiresAt ← parseInstant (envelope.get "expiresAt")
  permit (inWindow issuedAt expiresAt now) "signed authorization is expired or overlong"
  let envelopeDigest ← digestOf S envelope
  permit (describesSignature S signature envelopeDigest) "mutation signature metadata is invalid"
  match (signature.get "signatureBase64").text?.bind S.b64decode with
  | none => .error (.permission "mutation signature encoding is invalid")
  | some bytes =>
    permit (64 ≤ bytes.length && bytes.length ≤ 80) "mutation signature length is invalid"
    return ⟨toolOf request, envelopeDigest, bytes, expiresAt⟩

/-- The lease is the one that the envelope was issued under, and outlasts it. -/
def activeLease (S : Settings) (lease : Option Core.Lease) (expiresAt : Int) : Bool :=
  lease.any fun l => l.sessionId = S.sessionId && l.generation = S.generation
    && l.capabilityDigest = S.capabilityDigest && l.state = .READY
    && expiresAt / 1000 ≤ l.hardExpiresAt

/-- `_validate_request`. -/
def validateRequest (S : Settings) (jobId : Text) (request : Py) (now : Int) :
    Handler Validated := do
  let v ← lift (validate S jobId request now)
  lift (raised (← send .publicKey))
  lift (permit (S.verify v.envelopeDigest v.signatureBytes) "mutation signature verification failed")
  let lease ← lift (raised (← send .lease))
  lift (permit (activeLease S lease v.expiresAt) "mutation authorization is outside the active lease")
  return v

/-! ## 3. Execution -/

/-- `consumedAt`: the reading of the clock, cut to milliseconds. -/
def consumedAtOf (S : Settings) (now : Int) : Text := S.P.toISOString (now / 1000)

/-- The write of `_consume`. -/
def consumption (S : Settings) (jobId envelopeDigest : Text) (now : Int) : JobWrite :=
  .consume (mutationPartition S.sessionId, jobKey jobId) jobId S.sessionId S.generation
    S.capabilityDigest envelopeDigest (consumedAtOf S now)

/-- `_consume`. -/
def consume (S : Settings) (jobId envelopeDigest : Text) (now : Int) : Handler Unit := do
  match ← send (.write (consumption S jobId envelopeDigest now)) with
  | .ok () => return ()
  | .error .conditional =>
    lift (.error (.permission "mutation authorization was already consumed"))
  | .error e => lift (.error (.service e))

/-- `_read_state`. -/
def readState (S : Settings) : Handler Py := do
  let raw ← lift (raised (← send (.official (js "get_entities")
    (.object [("urns", .list [.str DATASET_URN])]))))
  let (found, tags) := walk COLUMN_PATH raw false
  if found then lift (tagState S DATASET_URN COLUMN_PATH tags)
  else lift (.error (.runtime "canonical DataHub column was not found"))

/-- The arguments that the official tool is called with. -/
def OFFICIAL_ARGUMENTS : Py :=
  .object [("tag_urns", .list [.str PII_TAG]), ("entity_urns", .list [.str DATASET_URN]),
    ("column_paths", .list [.str COLUMN_PATH])]

/-- The first code points of a text. -/
def takePoints : Nat → Text → Text
  | 0, _ => []
  | _ + 1, [] => []
  | n + 1, [u] => u :: takePoints n []
  | n + 1, u :: v :: t =>
    if isHigh u && isLow v then u :: v :: takePoints n t else u :: takePoints n (v :: t)

/-- What is kept of the response of the official tool. -/
def sanitized (S : Settings) (official : Py) : Py :=
  let message := match official.get? "message" with
    | none => []
    | some (.str t) => t
    | some v => S.strOf v
  .object [("success", .bool true), ("message", .str (takePoints 512 message))]

/-- The evidence of the official call. -/
def officialEvidence (request : Py) (v : Validated) (responseDigest : Text) : Py :=
  .object [("tool", .str v.tool), ("policyDigest", request.get "policyDigest"),
    ("approvalDigest", (request.get "approval").get "digest"),
    ("requestDigest", request.get "requestDigest"), ("responseDigest", .str responseDigest)]

/-- The evidence of the authorization. -/
def authorizationEvidence (S : Settings) (request : Py) (v : Validated) (now : Int) : Py :=
  let signature := (request.get "authorization").get "signature"
  .object [("keyArn", signature.get "keyArn"), ("algorithm", signature.get "algorithm"),
    ("canonicalization", signature.get "canonicalization"),
    ("envelopeDigest", signature.get "envelopeDigest"),
    ("signatureDigest", .str (js "sha256:" ++ S.bytesDigest v.signatureBytes)),
    ("consumedAt", .str (consumedAtOf S now))]

/-- The members of a result, without its digest. -/
def resultFields (S : Settings) (request before after : Py) (v : Validated) (now : Int)
    (responseDigest : Text) : List (String × Py) :=
  [("schemaVersion", .lit "archon.core-governed-gateway-result/v2"), ("success", .bool true),
    ("action", request.get "action"), ("requestDigest", request.get "requestDigest"),
    ("policyDigest", request.get "policyDigest"),
    ("approvalDigest", (request.get "approval").get "digest"),
    ("beforeDigest", before.get "stateDigest"), ("afterDigest", after.get "stateDigest"),
    ("changed", .bool (!sameText (before.get "stateDigest") (after.get "stateDigest"))),
    ("verified", .bool true), ("mutationExecutor", .lit "official-datahub-mcp"),
    ("officialMcpMutation", officialEvidence request v responseDigest),
    ("authorizationEvidence", authorizationEvidence S request v now)]

/-- `if not hmac.compare_digest(..): raise RuntimeError(message)`. -/
def insist (condition : Bool) (message : String) : Except Fault Unit :=
  if condition then .ok () else .error (.runtime message)

@[simp] theorem insist_eq_ok {condition : Bool} {message : String} {u : Unit} :
    insist condition message = .ok u ↔ condition = true := by
  cases condition <;> simp [insist]

/-- The success of the official tool. -/
def confirms (official : Py) : Bool :=
  match official.get "success" with
  | .bool true => true
  | _ => false

/-- `_execute`. -/
def execute (S : Settings) (jobId : Text) (request : Py) : Handler Py := do
  let now ← send .now
  let v ← validateRequest S jobId request now
  consume S jobId v.envelopeDigest now
  let before ← readState S
  lift (insist (sameText (request.get "expectedBeforeDigest") (before.get "stateDigest"))
    "governed mutation before-state drift")
  let official ← lift (raised (← send (.official v.tool OFFICIAL_ARGUMENTS)))
  lift (insist (confirms official) "official DataHub MCP mutation was not confirmed")
  let after ← readState S
  lift (insist (sameText (request.get "expectedAfterDigest") (after.get "stateDigest"))
    "governed mutation after-state drift")
  let responseDigest ← lift (digestOf S (sanitized S official))
  let result := resultFields S request before after v now responseDigest
  let receiptDigest ← lift (digestOf S (.object result))
  return .object (result ++ [("receiptDigest", .str receiptDigest)])

end Jobs
