/-
# The requests that the adapter takes

`_request_valid` of the adapter: what the request of a job must be, for each operation.  A check of
the source that raises, on a value that can not be hashed or encoded, is one that fails here: the
adapter treats both the same way.
-/
import Archon.Jobs.Python

namespace Jobs

open Ecma Remediation

/-! ## 1. Bounds -/

/-- `MAX_REQUEST_BYTES`. -/
def MAX_REQUEST_BYTES : Nat := 32 * 1024

/-- `MAX_JSON_DEPTH`. -/
def MAX_JSON_DEPTH : Nat := 12

/-- `PII_TAG`. -/
def PII_TAG : Text := js "urn:li:tag:PII"

mutual

/-- `_json_value`.  A `Decimal` is neither an `int` nor a `float`. -/
def jsonValue : Py → (depth : Nat) → Bool
  | v, depth =>
    depth ≤ MAX_JSON_DEPTH &&
      match v with
      | .none | .bool _ | .str _ => true
      | .int n => -(2 : Int) ^ 53 < n && n < 2 ^ 53
      | .float _ isFinite => isFinite
      | .decimal _ => false
      | .list items => items.length ≤ 256 && jsonItems items (depth + 1)
      | .dict fields => fields.length ≤ 256 && jsonFields fields (depth + 1)

/-- `_json_value` of the elements of a list. -/
def jsonItems : List Py → (depth : Nat) → Bool
  | [], _ => true
  | v :: vs, depth => jsonValue v depth && jsonItems vs depth

/-- `_json_value` of the members of a dict. -/
def jsonFields : List (Text × Py) → (depth : Nat) → Bool
  | [], _ => true
  | (k, v) :: fs, depth => len k ≤ 256 && jsonValue v depth && jsonFields fs depth

end

/-- `_bounded_request`. -/
def boundedRequest (v : Py) : Bool :=
  v.isDict && jsonValue v 0 && (dumps v).any fun t => utf8Length t ≤ MAX_REQUEST_BYTES

/-- `_valid_column`. -/
def validColumn (t : Text) : Bool :=
  1 ≤ len t && len t ≤ 512 && t.all fun u => 32 ≤ u && u ≠ 127

/-! ## 2. The operations -/

/-- `_valid_read_request`. -/
def validReadRequest (request : Py) : Bool :=
  request.exact ["schemaVersion", "auditId", "runtimeEvidenceDigest", "entityUrn", "columnPath"]
    && (request.get "schemaVersion").isText (js "archon.core-tag-read/v1")
    && (request.get "auditId").isForm isAudit
    && (request.get "runtimeEvidenceDigest").isForm isDigest
    && (request.get "entityUrn").isForm isDataset
    && (request.get "columnPath").isForm validColumn

/-- The tags that a post-mutation state may have. -/
def postTags (v : Py) : Bool := v.isTexts [] || v.isTexts [PII_TAG]

/-- The digest that a tag state is to have. -/
def tagStateDigest (P : Platform) (state : Py) : Option Text :=
  digest P (.object [("entityUrn", state.get "entityUrn"), ("columnPath", state.get "columnPath"),
    ("tagUrns", state.get "tagUrns")])

/-- `_valid_post_request`. -/
def validPostRequest (P : Platform) (analyze : Bool) (request : Py) : Bool :=
  let state := request.get "postMutationExpectedTagState"
  request.exact ["schemaVersion", "originalRequest", "sourceMutationAuditId",
      "sourceMutationReceiptDigest", "postMutationExpectedTagState"]
    && (request.get "schemaVersion").isText (js (if analyze
      then "archon.datahub-post-mutation-analysis/v1"
      else "archon.core-post-mutation-tag-read/v1"))
    && (request.get "sourceMutationAuditId").isForm isAudit
    && (request.get "sourceMutationReceiptDigest").isForm isDigest
    && state.exact ["entityUrn", "columnPath", "tagUrns", "stateDigest"]
    && (state.get "entityUrn").isForm isDataset
    && (state.get "columnPath").isForm validColumn
    && postTags (state.get "tagUrns")
    && (tagStateDigest P state).any (state.get "stateDigest").isText
    && if analyze then boundedRequest (request.get "originalRequest")
      else validReadRequest (request.get "originalRequest")

/-- The members of a governed request. -/
def GOVERNED_KEYS : List String :=
  ["schemaVersion", "auditId", "runtimeEvidenceDigest", "auditEvidenceDigest", "planDigest",
    "policyDigest", "approval", "action", "arguments", "expectedBeforeDigest", "expectedAfterDigest",
    "authorization", "requestDigest"]

/-- `value` without a key. -/
def Py.without (v : Py) (key : String) : Py :=
  match v with
  | .dict fields => .dict (fields.filter fun f => f.1 ≠ js key)
  | _ => v

@[simp] theorem Py.without_object (fields : List (String × Py)) (key : String) :
    (Py.object fields).without key = .object (fields.filter fun f => f.1 ≠ key) := by
  simp only [without, object, List.filter_map, Function.comp_def, ne_eq, js_inj]

/-- The digests of a governed request. -/
def governedDigests (request : Py) : List Py :=
  ["runtimeEvidenceDigest", "auditEvidenceDigest", "planDigest", "policyDigest",
    "expectedBeforeDigest", "expectedAfterDigest", "requestDigest"].map request.get
    ++ ["approverDigest", "digest"].map (request.get "approval").get

/-- `v == [t]`, where `form(t)`. -/
def isSingleton (v : Py) (form : Text → Bool) : Bool :=
  match v with
  | .list [.str t] => form t
  | _ => false

/-- `_valid_governed_request`. -/
def validGovernedRequest (P : Platform) (request : Py) : Bool :=
  let approval := request.get "approval"
  let arguments := request.get "arguments"
  request.exact GOVERNED_KEYS
    && approval.exact ["approvalId", "decision", "approverDigest", "decidedAt", "digest"]
    && arguments.exact ["tagUrns", "entityUrns", "columnPaths"]
    && (request.get "authorization").exact ["envelope", "signature"]
    && (governedDigests request).all (·.isForm isDigest)
    && (request.get "schemaVersion").isText (js "archon.core-governed-tag-mutation/v1")
    && (request.get "auditId").isForm isAudit
    && ((request.get "action").isText (js "ADD_TAGS")
      || (request.get "action").isText (js "REMOVE_TAGS"))
    && (approval.get "decision").isText (js "APPROVE")
    && (approval.get "approvalId").isForm isApprovalId
    && (approval.get "decidedAt").isForm isIso
    && (arguments.get "tagUrns").isTexts [PII_TAG]
    && isSingleton (arguments.get "entityUrns") isDataset
    && isSingleton (arguments.get "columnPaths") validColumn
    && (digest P (request.without "requestDigest")).any (request.get "requestDigest").isText

/-- `MUTATION_OPERATION`. -/
def MUTATION_OPERATION : Text := js "GOVERNED_TAG_MUTATION"

/-- `_request_valid`. -/
def requestValid (P : Platform) (operation : Text) (request : Py) : Bool :=
  boundedRequest request &&
    if operation = js "ANALYZE" ∨ operation = js "IMPROVE_CONTEXT" then true
    else if operation = js "READ_TAGS" then validReadRequest request
    else if operation = js "POST_ANALYZE" then validPostRequest P true request
    else if operation = js "POST_READ_TAGS" then validPostRequest P false request
    else if operation = MUTATION_OPERATION then validGovernedRequest P request
    else false

end Jobs
