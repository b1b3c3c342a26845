/-
# The mutations of the Cloud worker

`mutation_runtime.py` verifies the request of a mutation before it touches the catalog
(`verifyMutationRequest`), consumes its authorization once, and returns a result (`executeMutation`).
The calls to the table and to the catalog are those of a program; each can raise.

A file in the image is verified first, and the signature with the public key of the configured name:
both are parameters of the `Writer`.  An id of an approval is a string, as the control function writes
it.
-/
import Archon.Cloud.Base64
import Archon.Cloud.Posts
import Archon.Resumption.Alone

namespace Cloud

open Ecma Remediation Resumption Resumption.Program
open Jobs (Py isDigest)

/-! ## 1. The request -/

/-- What the functions take from their environment. -/
structure Writer where
  H : Host
  /-- `ARCHON_STAGE`. -/
  stage : Text
  /-- `MUTATION_SIGNING_KEY_ARN`. -/
  keyArn : Text
  /-- `verify_golden_contract`. -/
  golden : Except Rejection Unit
  /-- `digest_bytes`. -/
  digestBytes : List UInt8 → Text
  digestBytes_form : ∀ bytes, isDigest (digestBytes bytes) = true
  /-- `_verify_signature`, with the key of a name, of a text and a signature. -/
  verifySignature : (keyArn canonical : Text) → (signature : List UInt8) → Except Rejection Unit

/-- `required_env`. -/
def requiredEnv (value : Text) (maximum : Nat) : Except Rejection Text := do
  demand (!value.isEmpty && Jobs.len value ≤ maximum && value.all fun u => 0x20 ≤ u && u ≠ 0x7F)
    "runtime_configuration_invalid"
  return value

/-- A letter of lower case, a digit or `-`. -/
def isRegionUnit (u : UInt16) : Bool := (0x61 ≤ u && u ≤ 0x7A) || isDigit u || u == 0x2D

/-- `^arn:(?:aws|aws-us-gov|aws-cn):kms:[a-z0-9-]+:\d{12}:key/[0-9a-f-]{36}$`. -/
def isKmsArn (t : Text) : Bool :=
  match t.splitOn 0x3A with
  | [arn, part, kms, region, account, key] =>
    arn = js "arn" && [js "aws", js "aws-us-gov", js "aws-cn"].contains part && kms = js "kms"
      && !region.isEmpty && region.all isRegionUnit
      && (Jobs.codePoints account).length = 12 && (Jobs.codePoints account).all Jobs.isDecimal
      && (js "key/").isPrefixOf key && key.length = 40
      && (key.drop 4).all fun u => isHexDigit u || u == 0x2D
  | _ => false

/-- `OUTER_KEYS`. -/
def OUTER_KEYS : List String :=
  ["schemaVersion", "auditId", "runtimeEvidenceDigest", "auditEvidenceDigest", "planDigest",
    "policyDigest", "approval", "action", "arguments", "expectedBeforeDigest",
    "expectedAfterDigest", "authorization", "requestDigest"]

/-- `AUTHORIZATION_KEYS`. -/
def AUTHORIZATION_KEYS : List String :=
  ["schemaVersion", "stage", "sessionId", "generation", "capabilityDigest", "jobId", "approvalId",
    "planDigest", "policyDigest", "target", "tool", "arguments", "issuedAt", "expiresAt"]

/-- What `_policy_digest` digests. -/
def policyOf : Py :=
  .object [("schemaVersion", .lit "archon.governed-mcp-mutation-policy/v1"),
    ("action", .lit "ADD_TAGS"), ("tool", .lit "add_tags"), ("tagUrns", .list [.str PII_TAG]),
    ("entityUrn", .str DATASET_URN), ("columnPath", .str COLUMN_PATH),
    ("writeAuthority", .lit "archon-remediation-worker")]

/-- Are these the arguments of `_canonical_arguments`, under these names? -/
def isArguments (v : Py) (tags entities columns : String) : Bool :=
  v.exact [tags, entities, columns] && (v.get tags).isTexts [PII_TAG]
    && (v.get entities).isTexts [DATASET_URN] && (v.get columns).isTexts [COLUMN_PATH]

mutual

/-- `validate_mutation_canonical_value`. -/
def validateCanonicalValue : Py → (depth : Nat) → Except Rejection Unit
  | v, depth => do
    demand (depth ≤ 12) "mutation_authorization_too_deep"
    match v with
    | .none | .bool _ => return ()
    | .str t => demand (t.all fun u => 0x20 ≤ u && u ≤ 0x7E) "mutation_authorization_non_ascii"
    | .int n =>
      demand (-(2 ^ 53 - 1) ≤ n && n ≤ 2 ^ 53 - 1) "mutation_authorization_number_invalid"
    | .list items => validateCanonicalItems items (depth + 1)
    | .dict fields => validateCanonicalFields fields (depth + 1)
    | .float _ _ | .decimal _ => .error (.contract "mutation_authorization_non_json")

/-- The elements of a list. -/
def validateCanonicalItems : List Py → (depth : Nat) → Except Rejection Unit
  | [], _ => .ok ()
  | v :: vs, depth => do
    validateCanonicalValue v depth
    validateCanonicalItems vs depth

/-- The members of a dict. -/
def validateCanonicalFields : List (Text × Py) → (depth : Nat) → Except Rejection Unit
  | [], _ => .ok ()
  | (k, v) :: fs, depth => do
    demand (!k.isEmpty && k.all fun u => 0x20 ≤ u && u ≤ 0x7E) "mutation_authorization_key_invalid"
    validateCanonicalValue v depth
    validateCanonicalFields fs depth

end

/-- `canonical_mutation_json`. -/
def canonicalMutationJson (v : Py) : Except Rejection Text := do
  validateCanonicalValue v 0
  match Jobs.dumps v with
  | some t => return t
  | none => .error (.contract "canonical_json_invalid")

/-- `strict_base64`, of a signature. -/
def strictBase64 (v : Py) : Except Rejection (List UInt8) :=
  match v with
  | .str t =>
    match if Control.isBase64 t then decode64 t else none with
    | some bytes => do
      demand (8 ≤ bytes.length && bytes.length ≤ 256) "signature_malformed"
      return bytes
    | none => .error (.contract "signature_malformed")
  | _ => .error (.contract "signature_malformed")

/-- What `verify_mutation_request` returns, of the configured key. -/
structure MutationAuthorization where
  keyArn : Text
  envelopeDigest : Text
  signatureDigest : Text
  issuedAt : Text
  expiresAt : Text
  approvalDigest : Text

/-- The conditions on the envelope and on what is said of its signature. -/
def authorizationBinds (stage keyArn : Text) (job : RuntimeJob) (envelope signature : Py) : Bool :=
  let request := job.request
  envelope.exact AUTHORIZATION_KEYS
    && (envelope.get "schemaVersion").isText (js "archon.core-mutation-authorization/v1")
    && (envelope.get "stage").isText stage && (envelope.get "sessionId").isText job.sessionId
    && (envelope.get "generation").isText job.generation
    && (envelope.get "capabilityDigest").isText job.capabilityDigest
    && (envelope.get "jobId").isText job.jobId
    && Jobs.sameText (envelope.get "approvalId") ((request.get "approval").get "approvalId")
    && Jobs.sameText (envelope.get "planDigest") (request.get "planDigest")
    && Jobs.sameText (envelope.get "policyDigest") (request.get "policyDigest")
    && (envelope.get "target").exact ["entityUrn", "columnPath"]
    && ((envelope.get "target").get "entityUrn").isText DATASET_URN
    && ((envelope.get "target").get "columnPath").isText COLUMN_PATH
    && (envelope.get "tool").isText (js "add_tags")
    && isArguments (envelope.get "arguments") "tag_urns" "entity_urns" "column_paths"
    && signature.exact ["keyArn", "algorithm", "canonicalization", "envelopeDigest",
      "signatureBase64"]
    && (signature.get "keyArn").isText keyArn
    && (signature.get "algorithm").isText (js "ECDSA_SHA_256")
    && (signature.get "canonicalization").isText (js "archon.sorted-json-utf8/v1")

/-- The conditions on the request, up to its digest. -/
def requestBinds (policyDigest : Text) (job : RuntimeJob) : Bool :=
  let request := job.request
  request.exact OUTER_KEYS
    && (request.get "schemaVersion").isText (js "archon.core-governed-tag-mutation/v1")
    && (request.get "auditId").isText job.auditId
    && (request.get "runtimeEvidenceDigest").isText job.runtimeEvidenceDigest
    && (request.get "auditEvidenceDigest").isForm isDigest
    && (request.get "planDigest").isForm isDigest
    && (request.get "policyDigest").isText policyDigest
    && (request.get "action").isText (js "ADD_TAGS")
    && isArguments (request.get "arguments") "tagUrns" "entityUrns" "columnPaths"
    && (request.get "expectedBeforeDigest").isForm isDigest
    && (request.get "expectedAfterDigest").isForm isDigest
    && !Jobs.sameText (request.get "expectedBeforeDigest") (request.get "expectedAfterDigest")

section Verification

variable (W : Writer)

/-- `verify_mutation_request`, up to the configuration: of the request and its approval. -/
def verifyRequest (job : RuntimeJob) : Except Rejection Unit := do
  let request := job.request
  let approval := request.get "approval"
  let policyDigest ← digest W.H policyOf
  demand (requestBinds policyDigest job) "governed_mutation_request_invalid"
  let requestDigest ← digest W.H (request.without "requestDigest")
  demand ((request.get "requestDigest").isText requestDigest
    && approval.exact ["approvalId", "decision", "approverDigest", "decidedAt", "digest"]
    && (approval.get "decision").isText (js "APPROVE")
    && (approval.get "approverDigest").isForm isDigest
    && (approval.get "digest").isForm isDigest) "governed_mutation_request_invalid"
  let approvalDigest ← digest W.H (approval.without "digest")
  demand ((approval.get "digest").isText approvalDigest
    && (request.get "authorization").exact ["envelope", "signature"])
    "governed_mutation_request_invalid"

/-- `verify_mutation_request`, of the times: the end of the lease comes from the session, and the
present in microseconds. -/
def verifyTimes (issuedAt expiresAt decidedAt lease : Py) (observed : Int) :
    Except Rejection Unit := do
  let issued ← parseInstant W.H issuedAt
  let expires ← parseInstant W.H expiresAt
  let decided ← parseInstant W.H decidedAt
  let leaseExpires ← parseInstant W.H lease
  demand (decided ≤ issued && issued < expires) "mutation_authorization_invalid"
  demand (expires - issued ≤ 300 * 1000000 && expires ≤ leaseExpires && issued ≤ observed
    && observed ≤ expires) "mutation_authorization_expired"

/-- `verify_mutation_request`. -/
def verifyMutationRequest (job : RuntimeJob) (lease : Py) (observed : Int) :
    Except Rejection MutationAuthorization := do
  W.golden
  verifyRequest W job
  let approval := job.request.get "approval"
  let envelope := (job.request.get "authorization").get "envelope"
  let signature := (job.request.get "authorization").get "signature"
  let stage ← requiredEnv W.stage 32
  let keyArn ← requiredEnv W.keyArn 2048
  demand (isKmsArn keyArn) "mutation_signing_key_invalid"
  demand (authorizationBinds stage keyArn job envelope signature) "mutation_authorization_invalid"
  let canonical ← canonicalMutationJson envelope
  let envelopeDigest := js "sha256:" ++ W.H.P.sha256 canonical
  demand ((signature.get "envelopeDigest").isText envelopeDigest) "mutation_authorization_invalid"
  verifyTimes W (envelope.get "issuedAt") (envelope.get "expiresAt") (approval.get "decidedAt") lease
    observed
  let bytes ← strictBase64 (signature.get "signatureBase64")
  W.verifySignature keyArn canonical bytes
  match envelope.get "issuedAt", envelope.get "expiresAt", approval.get "digest" with
  | .str issuedAt, .str expiresAt, .str approvalDigest =>
    return ⟨keyArn, envelopeDigest, W.digestBytes bytes, issuedAt, expiresAt, approvalDigest⟩
  | _, _, _ => .error .language

end Verification

/-! ## 2. The execution -/

/-- `mutationPhase`. -/
inductive Phase where
  | AUTHORIZED
  | PROVIDER_ACKNOWLEDGED
  | VERIFIED
deriving DecidableEq

/-- What the store returns of an execution. -/
structure Ledger where
  phase : Phase
  envelopeDigest : Text
  consumedAt : Text
  responseDigest : Option Text
  /-- `replayed is True`. -/
  replayed : Bool

/-- What is read of the tags, without its proof. -/
structure TagRead where
  tagUrns : List Text
  stateDigest : Text

/-- The calls of an execution. -/
inductive MutationCall where
  /-- `store.mutation_execution`. -/
  | mutationExecution
  /-- `read_column_tags`. -/
  | readColumnTags
  /-- `instant`. -/
  | instant
  /-- `store.begin_mutation_once`. -/
  | beginMutationOnce (envelopeDigest consumedAt : Text)
  /-- `mutate_tags`, of which the digest of the response is used. -/
  | mutateTags
  /-- `store.acknowledge_mutation`. -/
  | acknowledgeMutation (envelopeDigest responseDigest : Text)
  /-- `store.verify_mutation`. -/
  | verifyMutation (envelopeDigest beforeDigest afterDigest : Text)

/-- What a call returns. -/
def MutationReply : MutationCall → Type
  | .mutationExecution => Option Ledger
  | .readColumnTags => TagRead
  | .instant => Text
  | .beginMutationOnce _ _ => Ledger
  | .mutateTags => Text
  | .acknowledgeMutation _ _ => Unit
  | .verifyMutation _ _ _ => Unit

/-- What a call returns, or raises. -/
abbrev MutationAnswer (e : MutationCall) : Type := Except Rejection (MutationReply e)

/-- A program of the worker. -/
abbrev MutationProgram := Program MutationCall MutationAnswer Rejection

/-- A call, of which what it raises is raised. -/
def ask (e : MutationCall) : MutationProgram (MutationReply e) := .call e .done

section Execution

variable (W : Writer)

/-- `digest` of what `_expected_after` returns. -/
def expectedAfterDigest (before : TagRead) : Except Rejection Text :=
  digest W.H (.object [("entityUrn", .str DATASET_URN), ("columnPath", .str COLUMN_PATH),
    ("tagUrns", .list ((Jobs.sortedTags (PII_TAG :: before.tagUrns)).map .str))])

/-- What `_result` digests. -/
def resultFields (job : RuntimeJob) (a : MutationAuthorization)
    (responseDigest beforeDigest afterDigest consumedAt : Py) : List (String × Py) :=
  let request := job.request
  [("schemaVersion", .lit "archon.core-governed-tag-result/v1"),
    ("requestDigest", request.get "requestDigest"), ("policyDigest", request.get "policyDigest"),
    ("beforeDigest", beforeDigest), ("afterDigest", afterDigest), ("verified", .bool true),
    ("mutationExecutor", .lit "official-datahub-mcp"),
    ("officialMcpMutation", .object [("tool", .lit "add_tags"),
      ("policyDigest", request.get "policyDigest"), ("approvalDigest", .str a.approvalDigest),
      ("requestDigest", request.get "requestDigest"), ("responseDigest", responseDigest)]),
    ("authorizationEvidence", .object [("keyArn", .str a.keyArn),
      ("algorithm", .lit "ECDSA_SHA_256"), ("canonicalization", .lit "archon.sorted-json-utf8/v1"),
      ("envelopeDigest", .str a.envelopeDigest), ("signatureDigest", .str a.signatureDigest),
      ("consumedAt", consumedAt)])]

/-- `_result`. -/
def result (job : RuntimeJob) (a : MutationAuthorization)
    (responseDigest beforeDigest afterDigest consumedAt : Py) : Except Rejection Py := do
  let fields := resultFields job a responseDigest beforeDigest afterDigest consumedAt
  let d ← digest W.H (.object fields)
  return .object (fields ++ [("responseDigest", .str d)])

/-- `_validate_ledger`. -/
def validateLedger (ledger : Ledger) (a : MutationAuthorization) : Except Rejection Unit := do
  demand (ledger.envelopeDigest = a.envelopeDigest) "mutation_replay_binding_mismatch"
  let consumed ← parseInstant W.H (.str ledger.consumedAt)
  let issued ← parseInstant W.H (.str a.issuedAt)
  demand (issued ≤ consumed) "mutation_replay_binding_mismatch"
  let expires ← parseInstant W.H (.str a.expiresAt)
  demand (consumed ≤ expires) "mutation_replay_binding_mismatch"

/-- `_recover_mutation`. -/
def recoverMutation (job : RuntimeJob) (a : MutationAuthorization) (ledger : Ledger) :
    MutationProgram Py := do
  lift (validateLedger W ledger a)
  let observed : TagRead ← ask .readColumnTags
  let before := job.request.get "expectedBeforeDigest"
  match ledger.phase, ledger.responseDigest with
  | .AUTHORIZED, _ => .done (.error (.contract "mutation_outcome_indeterminate"))
  | phase, some responseDigest =>
    lift (demand ((job.request.get "expectedAfterDigest").isText observed.stateDigest
      && isDigest responseDigest) "mutation_recovery_state_mismatch")
    if phase = .PROVIDER_ACKNOWLEDGED then
      let _ ← ask (.verifyMutation a.envelopeDigest (before.text?.getD []) observed.stateDigest)
    lift (result W job a (.str responseDigest) before (.str observed.stateDigest)
      (.str ledger.consumedAt))
  | _, none => .done (.error (.contract "mutation_recovery_state_mismatch"))

/-- `execute_mutation`. -/
def executeMutation (job : RuntimeJob) (lease : Py) (observed : Int) : MutationProgram Py := do
  let a ← lift (verifyMutationRequest W job lease observed)
  let existing : Option Ledger ← ask .mutationExecution
  match existing with
  | some ledger => recoverMutation W job a ledger
  | none =>
    let before : TagRead ← ask .readColumnTags
    lift (demand ((job.request.get "expectedBeforeDigest").isText before.stateDigest)
      "mutation_compare_and_swap_failed")
    let afterDigest ← lift (expectedAfterDigest W before)
    lift (demand ((job.request.get "expectedAfterDigest").isText afterDigest
      && !before.tagUrns.contains PII_TAG) "mutation_expected_state_invalid")
    let consumedAt : Text ← ask .instant
    let ledger : Ledger ← ask (.beginMutationOnce a.envelopeDigest consumedAt)
    if ledger.replayed then recoverMutation W job a ledger
    else
      lift (validateLedger W ledger a)
      let responseDigest : Text ← ask .mutateTags
      let _ ← ask (.acknowledgeMutation a.envelopeDigest responseDigest)
      let after : TagRead ← ask .readColumnTags
      lift (demand ((job.request.get "expectedAfterDigest").isText after.stateDigest)
        "mutation_postcondition_failed")
      let _ ← ask (.verifyMutation a.envelopeDigest before.stateDigest after.stateDigest)
      lift (result W job a (.str responseDigest) (.str before.stateDigest) (.str after.stateDigest)
        (.str ledger.consumedAt))

end Execution

end Cloud
