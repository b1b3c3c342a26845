/-
# The tag state that is expected

After the mutation the control function enqueues two jobs, an analysis and a read of the tags, and
gives both the state that the plan expects.  The Cloud worker refuses them before it asks the
catalog: `tagState` of `runtime-v2.js` takes the name of the schema off a state, and both checks of
the worker ask for it (`analysis_refused`, `read_refused`).  The Core adapter takes the state as it
is (`Archon.Control.Accepted`).
-/
import Archon.Cloud.Contracts
import Archon.Control.Results

namespace Cloud

open Ecma Ecma.Value Remediation
open Jobs (Py isDigest)

/-! ## 1. Tags -/

/-- Can the values be members of a set, and be sorted?  Here they are not all strings. -/
def sortable (items : List Py) : Bool :=
  (items.all fun v => match v with
    | .none => true
    | _ => false)
  || items.all fun v => match v with
    | .bool _ | .int _ | .float _ _ | .decimal _ => true
    | _ => false

/-- The tags, which must be sorted, each of them once. -/
def tagUrns (items : List Py) (code : String) : Except Rejection (List Text) :=
  match items.mapM Py.text? with
  | some ts => do
    demand (ts = Jobs.sortedTags ts && ts.all isTag) code
    return ts
  | none => .error (if sortable items then .contract code else .language)

/-- The keys that both checks ask for. -/
def STATE_KEYS : List String :=
  ["schemaVersion", "entityUrn", "columnPath", "tagUrns", "stateDigest"]

/-- A state that was read. -/
structure State where
  value : Py
  tagUrns : List Text
  stateDigest : Text

section Reads

variable (H : Host)

/-- What the two checks of a state have in common. -/
def stateOf (value : Py) (least : Nat) (requirePii : Bool) (code : String) :
    Except Rejection State := do
  demand (value.exact STATE_KEYS
    && (value.get "schemaVersion").isText (js "archon.core-tag-read-result/v1")
    && (value.get "entityUrn").isText DATASET_URN && (value.get "columnPath").isText COLUMN_PATH) code
  match value.get "tagUrns", value.get "stateDigest" with
  | .list items, stateDigest =>
    demand (least ≤ items.length && items.length ≤ 256) code
    let tags ← tagUrns items code
    demand (!requirePii || tags.contains PII_TAG) code
    let d ← digest H (.object [("entityUrn", .str DATASET_URN), ("columnPath", .str COLUMN_PATH),
      ("tagUrns", .list items)])
    demand (stateDigest.isText d) code
    return ⟨value, tags, d⟩
  | _, _ => .error (.contract code)

/-- `_tag_state`. -/
def tagState (value : Py) (requirePii : Bool) : Except Rejection State :=
  stateOf H value 0 requirePii "post_mutation_expected_state_invalid"

/-- `_read_request`. -/
def readTagsRequest (job : RuntimeJob) : Except Rejection Py := do
  let request := job.request
  demand (request.exact ["schemaVersion", "auditId", "runtimeEvidenceDigest", "entityUrn",
        "columnPath"]
      && (request.get "schemaVersion").isText (js "archon.core-tag-read/v1")
      && (request.get "auditId").isText job.auditId
      && (request.get "runtimeEvidenceDigest").isText job.runtimeEvidenceDigest
      && (request.get "entityUrn").isText DATASET_URN
      && (request.get "columnPath").isText COLUMN_PATH) "tag_read_request_invalid"
  return request

/-- `_post_read_request`. -/
def postReadRequest (job : RuntimeJob) : Except Rejection (Py × State) := do
  let request := job.request
  demand (request.exact ["schemaVersion", "originalRequest", "sourceMutationAuditId",
        "sourceMutationReceiptDigest", "postMutationExpectedTagState"]
      && (request.get "schemaVersion").isText (js "archon.core-post-mutation-tag-read/v1")
      && (request.get "sourceMutationAuditId").isText job.auditId
      && (request.get "sourceMutationReceiptDigest").isForm isDigest
      && (request.get "originalRequest").isDict) "post_tag_read_request_invalid"
  let _ ← readTagsRequest { job with
    operation := js "READ_TAGS", request := request.get "originalRequest" }
  let expected ← tagState H (request.get "postMutationExpectedTagState") true
  return (request, expected)

/-- `validate_post_analysis`. -/
def validatePostAnalysis (value : Py) (job : RuntimeJob) : Except Rejection (Py × State) := do
  demand (value.exact ["schemaVersion", "originalRequest", "sourceMutationAuditId",
        "sourceMutationReceiptDigest", "postMutationExpectedTagState"]
      && (value.get "schemaVersion").isText (js "archon.datahub-post-mutation-analysis/v1")
      && (value.get "originalRequest").isDict
      && (value.get "sourceMutationAuditId").isText job.auditId
      && (value.get "sourceMutationReceiptDigest").isForm isDigest) "post_analysis_request_invalid"
  let expected ← stateOf H (value.get "postMutationExpectedTagState") 1 true
    "post_analysis_request_invalid"
  return (value.get "originalRequest", expected)

/-- `_clean_tag_result`. -/
def cleanTagResult (value : Py) : Except Rejection (Py × Py) := do
  let proof := value.get "_proof"
  demand (proof.isDict && (proof.get "digest").isForm isDigest) "tag_read_proof_invalid"
  match value with
  | .dict fields => return (.dict (fields.filter fun f => f.1 ≠ js "_proof"), proof)
  | _ => .error .language

/-- `result == {"schemaVersion": "archon.core-tag-read-result/v1", **expected}`. -/
def isState (result : Py) (expected : State) : Bool :=
  result.exact STATE_KEYS && (result.get "schemaVersion").isText (js "archon.core-tag-read-result/v1")
    && (result.get "entityUrn").isText DATASET_URN && (result.get "columnPath").isText COLUMN_PATH
    && (result.get "tagUrns").isTexts expected.tagUrns
    && (result.get "stateDigest").isText expected.stateDigest

/-- `_read_executor` of the two reads of the tags, where `readColumnTags` is what `read_column_tags`
returns or raises. -/
def readExecutor (job : RuntimeJob) (readColumnTags : Except Rejection Py) :
    Except Rejection (Py × Py) :=
  if job.operation = js "READ_TAGS" then do
    let _ ← readTagsRequest job
    cleanTagResult (← readColumnTags)
  else if job.operation = js "POST_READ_TAGS" then do
    let (request, expected) ← postReadRequest H job
    let (result, proof) ← cleanTagResult (← readColumnTags)
    demand (isState result expected) "post_mutation_tag_state_mismatch"
    let d ← digest H result
    return (.object [("schemaVersion", .lit "archon.core-post-mutation-tag-read-result/v1"),
      ("sourceMutationAuditId", request.get "sourceMutationAuditId"),
      ("sourceMutationReceiptDigest", request.get "sourceMutationReceiptDigest"),
      ("postMutationExpectedTagState", request.get "postMutationExpectedTagState"),
      ("postMutationResult", result), ("postMutationResultDigest", .str d)], proof)
  else .error (.contract "read_operation_invalid")

end Reads

/-! ## 2. What the control function sends -/

section Sent

variable {H : Host} {run : Control.Run} {prepared : Control.Prepared} {receiptDigest : Text}

/-- The state of a plan has no name of a schema. -/
theorem stateOf_stored (s : Control.TagState) (least : Nat) (requirePii : Bool) (code : String) :
    stateOf H (Control.stored s.value) least requirePii code = .error (.contract code) := by
  have hexact : (Control.stored s.value).exact STATE_KEYS = false := by
    rw [Control.stored_state, Py.exact_object]
    rfl
  rw [stateOf, hexact]
  rfl

/-- A job of a run for the dataset and the column of the worker. -/
structure JobOf (run : Control.Run) (job : RuntimeJob) : Prop where
  auditId : job.auditId = run.auditId
  evidence : job.runtimeEvidenceDigest = run.evidenceDigest
  dataset : run.datasetUrn = DATASET_URN
  column : run.governedColumnPath = COLUMN_PATH

theorem analysis_refused {job : RuntimeJob} (h : JobOf run job) (hd : isDigest receiptDigest = true) :
    validatePostAnalysis H (Control.stored (Control.analysisRequest run prepared receiptDigest)) job
      = .error (.contract "post_analysis_request_invalid") := by
  have hstored : Control.stored (Control.analysisRequest run prepared receiptDigest) = _ :=
    Control.stored_post _ (Control.companionRequest run) run prepared receiptDigest
  have horiginal : (Control.stored (Control.companionRequest run)).isDict = true := by
    rw [Control.companionRequest, Control.stored_object]
    rfl
  rw [validatePostAnalysis, hstored]
  simp only [Py.get_object, List.lookup, String.reduceBEq, Option.getD_some, stateOf_stored]
  rw [Py.exact_object]
  simp [List.lookup, Py.lit, Py.isText, Py.isForm, h.auditId, hd, horiginal]
  rfl

theorem read_refused {job : RuntimeJob} (h : JobOf run job) (hd : isDigest receiptDigest = true)
    (hrequest : job.request = Control.stored (Control.readRequest run prepared receiptDigest)) :
    postReadRequest H job = .error (.contract "post_mutation_expected_state_invalid") := by
  have hstored : Control.stored (Control.readRequest run prepared receiptDigest) = _ :=
    Control.stored_post _ (Control.readTagsRequest run) run prepared receiptDigest
  have horiginal : readTagsRequest { job with
      operation := js "READ_TAGS", request := Control.stored (Control.readTagsRequest run) }
      = .ok (Control.stored (Control.readTagsRequest run)) := by
    rw [readTagsRequest, Control.stored_readTags]
    simp [List.lookup, Py.lit, Py.isText, h.auditId, h.evidence, h.dataset, h.column]
  have hdict : (Control.stored (Control.readTagsRequest run)).isDict = true := by
    rw [Control.stored_readTags]
    rfl
  rw [postReadRequest, hrequest, hstored]
  simp only [Py.get_object, List.lookup, String.reduceBEq, Option.getD_some, tagState,
    stateOf_stored, horiginal]
  simp [List.lookup, Py.lit, Py.isText, Py.isForm, h.auditId, hd, hdict]
  rfl

theorem executor_refused {job : RuntimeJob} (h : JobOf run job) (hd : isDigest receiptDigest = true)
    (hoperation : job.operation = js "POST_READ_TAGS")
    (hrequest : job.request = Control.stored (Control.readRequest run prepared receiptDigest))
    (readColumnTags : Except Rejection Py) : readExecutor H job readColumnTags
      = .error (.contract "post_mutation_expected_state_invalid") := by
  have hother : ¬ js "POST_READ_TAGS" = js "READ_TAGS" := by decide
  rw [readExecutor, hoperation, if_neg hother, if_pos rfl, read_refused h hd hrequest]
  rfl

/-- **Both jobs after a mutation are refused**, whatever the plan expects and the catalog shows. -/
theorem posts_refused {job : RuntimeJob} (h : JobOf run job) (hd : isDigest receiptDigest = true) :
    (job.request = Control.stored (Control.analysisRequest run prepared receiptDigest) →
      validatePostAnalysis H job.request job = .error (.contract "post_analysis_request_invalid"))
    ∧ (job.operation = js "POST_READ_TAGS" →
      job.request = Control.stored (Control.readRequest run prepared receiptDigest) →
      postReadRequest H job = .error (.contract "post_mutation_expected_state_invalid")
      ∧ ∀ readColumnTags : Except Rejection Py, readExecutor H job readColumnTags
        = .error (.contract "post_mutation_expected_state_invalid")) := by
  constructor
  · intro hrequest
    rw [hrequest]
    exact analysis_refused h hd
  · intro hoperation hrequest
    exact ⟨read_refused h hd hrequest, executor_refused h hd hoperation hrequest⟩

end Sent

/-! ## 3. A run -/

/-- A run for the dataset and the column of the worker. -/
def cloudRun : Control.Run :=
  { Control.sampleRun with
    query := DATASET_URN
    datasetUrn := DATASET_URN
    governedColumnPath := COLUMN_PATH
    binding := { Control.sampleRun.binding with profileId := js "cloud" } }

/-- Its inputs. -/
def cloudInputs : Control.Inputs where
  datasetUrn := cloudRun.datasetUrn
  question := cloudRun.question
  columnPath := cloudRun.governedColumnPath
  datasetUrn_form := by decide
  question_bounded := by decide
  columnPath_bounded := by decide
  datasetUrn_encodable := by decide
  question_encodable := by decide
  columnPath_encodable := by decide

/-- A job of it. -/
def cloudJob (operation : String) (request : Value) : RuntimeJob where
  jobId := js "job_aaaaaaaaaaaaaaaaaaaaaa"
  auditId := cloudRun.auditId
  runtimeEvidenceDigest := cloudRun.evidenceDigest
  sessionId := cloudRun.runtimeSessionId
  generation := cloudRun.binding.generation
  capabilityDigest := cloudRun.binding.capabilityDigest
  operation := js operation
  request := Control.stored request

theorem cloudJob_of (operation : String) (request : Value) : JobOf cloudRun (cloudJob operation request) :=
  ⟨rfl, rfl, rfl, rfl⟩

theorem cloudJob_request (operation : String) (request : Value) :
    (cloudJob operation request).request = Control.stored request := rfl

theorem cloudRun_verified : Control.verifyAuditRecord Platform.node cloudInputs cloudRun = true := by
  simp only [Control.verifyAuditRecord, cloudInputs, cloudRun, Control.sampleRun, Control.sampleLease,
    DATASET_URN, COLUMN_PATH]
  repeat rw [js_ofList]
  decide +kernel

/-- Whatever the column carried, the control function has a plan for it. -/
theorem cloudRun_planned (tags : List Text) (h : Control.tagsValid tags = true) : ∃ read prepared,
    read.tags = tags ∧ Control.planFor Platform.node cloudRun Control.sampleAnalysis read
      Control.sampleImprove = some prepared := by
  obtain ⟨read, prepared, htags, hplanned, -⟩ := Control.planned_of_tags Control.tells_node cloudRun rfl h
  exact ⟨read, prepared, htags, hplanned⟩

theorem posts_refused_sample : ∃ prepared : Control.Prepared,
    validatePostAnalysis Host.sample
      (Control.stored (Control.analysisRequest cloudRun prepared Control.sampleDigest))
      (cloudJob "POST_ANALYZE" (Control.analysisRequest cloudRun prepared Control.sampleDigest))
      = .error (.contract "post_analysis_request_invalid")
    ∧ postReadRequest Host.sample
      (cloudJob "POST_READ_TAGS" (Control.readRequest cloudRun prepared Control.sampleDigest))
      = .error (.contract "post_mutation_expected_state_invalid") := by
  obtain ⟨-, prepared, -, -⟩ := cloudRun_planned [] (by decide)
  have hd : isDigest Control.sampleDigest = true := by decide
  have hanalysis := cloudJob_request "POST_ANALYZE"
    (Control.analysisRequest cloudRun prepared Control.sampleDigest)
  have hread := cloudJob_request "POST_READ_TAGS"
    (Control.readRequest cloudRun prepared Control.sampleDigest)
  have hrefused := (posts_refused (H := Host.sample) (cloudJob_of _ _) hd).1 hanalysis
  rw [hanalysis] at hrefused
  exact ⟨prepared, hrefused,
    ((posts_refused (H := Host.sample) (cloudJob_of _ _) hd).2 rfl hread).1⟩

/-- The column of a run for which all receipts are accepted carried no tag: its plan is not verified. -/
theorem untagged_refused : ∃ read prepared,
    Control.verifyAuditRecord Platform.node cloudInputs cloudRun = true
    ∧ Control.planFor Platform.node cloudRun Control.sampleAnalysis read Control.sampleImprove
      = some prepared
    ∧ read.tags = []
    ∧ validatePostAnalysis Host.sample
      (Control.stored (Control.analysisRequest cloudRun prepared Control.sampleDigest))
      (cloudJob "POST_ANALYZE" (Control.analysisRequest cloudRun prepared Control.sampleDigest))
      = .error (.contract "post_analysis_request_invalid")
    ∧ ∀ readColumnTags : Except Rejection Py, readExecutor Host.sample
      (cloudJob "POST_READ_TAGS" (Control.readRequest cloudRun prepared Control.sampleDigest))
      readColumnTags = .error (.contract "post_mutation_expected_state_invalid") := by
  obtain ⟨read, prepared, htags, hplanned⟩ := cloudRun_planned [] (by decide)
  have hd : isDigest Control.sampleDigest = true := by decide
  exact ⟨read, prepared, cloudRun_verified, hplanned, htags,
    analysis_refused (cloudJob_of "POST_ANALYZE" _) hd,
    executor_refused (cloudJob_of "POST_READ_TAGS" _) hd rfl (cloudJob_request _ _)⟩

end Cloud
