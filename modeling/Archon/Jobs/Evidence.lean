/-
# What the gateway answers, and what the adapter makes of it

The adapter checks the result of the gateway again, member by member, before it reports it.  All the
members of every result are in order, and `nestedEvidence_given` is that the adapter finds nothing
to object to, up to the last condition.

That one is written with `ISO_RE`, which the adapter does not have.  So the check raises for exactly
the results that are in order (`unreported`), and a mutation that was made and verified is completed
as a failed job.
-/
import Archon.Jobs.Runs
import Archon.Resumption.Handler

namespace Jobs

open Ecma Remediation Resumption Resumption.Program

variable {S : Settings} {jobId : Text} {request : Py}

/-! ## 1. The request -/

theorem isDigest_sha256 (P : Platform) (t : Text) : isDigest (js "sha256:" ++ P.sha256 t) = true := by
  have hstart : (js "sha256:").length = 7 := by decide
  simp only [isDigest, Bool.and_eq_true, List.isPrefixOf_iff_prefix, decide_eq_true_eq]
  refine ⟨⟨List.prefix_append _ _, ?_⟩, ?_⟩
  · rw [List.length_append, hstart, P.sha256_length]
  · rw [← hstart, List.drop_left]
    exact P.sha256_hex t

theorem isDigest_digestOf {v : Py} {d : Text} (h : digestOf S v = .ok d) : isDigest d = true := by
  unfold digestOf at h
  split at h
  · rename_i hd
    obtain rfl := Except.ok.inj h
    obtain ⟨t, -, rfl⟩ := Option.map_eq_some_iff.mp hd
    exact isDigest_sha256 S.P t
  · cases h

/-- **What the gateway authorizes, the adapter takes.** -/
theorem validGoverned_of_authorized {now : Int} {v : Validated}
    (h : Authorized S jobId request now v) : validGovernedRequest S.P request = true := by
  have hpolicy := h.policy
  simp only [withinPolicy, Bool.and_eq_true] at hpolicy
  obtain ⟨⟨⟨⟨⟨⟨⟨⟨⟨hschema, haudit⟩, haction⟩, happroval⟩, hdecision⟩, harguments⟩, htags⟩, hentities⟩,
    hcolumns⟩, hauthorization⟩ := hpolicy
  have hdigest : (digest S.P (request.without "requestDigest")).any
      (request.get "requestDigest").isText = true := by
    have hbound := h.bound
    unfold hasDigest at hbound
    split at hbound
    · rename_i d hd
      rw [hd, Option.any_some]
      exact Except.ok.inj hbound
    · cases hbound
  rw [Py.isTexts_iff] at hentities hcolumns
  have hdataset : isSingleton ((request.get "arguments").get "entityUrns") isDataset = true := by
    rw [hentities]
    decide
  have hcolumn : isSingleton ((request.get "arguments").get "columnPaths") validColumn = true := by
    rw [hcolumns]
    decide
  simp only [validGovernedRequest, Bool.and_eq_true]
  exact ⟨⟨⟨⟨⟨⟨⟨⟨⟨⟨⟨⟨⟨⟨h.keys.2, happroval⟩, harguments⟩, hauthorization⟩,
    List.all_eq_true.mpr h.digests⟩, hschema⟩, haudit⟩, haction⟩, hdecision⟩, h.approval.1⟩,
    h.approval.2⟩, htags⟩, hdataset⟩, hcolumn⟩, hdigest⟩

/-! ## 2. The result -/

theorem isDigest_of_mem {now : Int} {v : Validated} (h : Authorized S jobId request now v) {d : Py}
    (hd : d ∈ governedDigests request) : ∃ t, d = .str t := by
  obtain ⟨t, ht, -⟩ := Py.isForm_iff.mp (h.digests d hd)
  exact ⟨t, ht⟩

/-- **The evidence of every result is in order.**  A digest of the library is a digest. -/
theorem nestedEvidence_given (hashed : ∀ bytes, isDigest (js "sha256:" ++ S.bytesDigest bytes) = true)
    {result : Py} (h : Given S jobId request result) : nestedEvidence request result = true := by
  obtain @⟨now, v, before, after, response, responseDigest, receiptDigest, hauthorized, -, -,
    hresponse, -⟩ := h
  obtain ⟨policyDigest, hpolicy⟩ := isDigest_of_mem hauthorized (d := request.get "policyDigest")
    (by simp [governedDigests])
  obtain ⟨requestDigest, hrequest⟩ := isDigest_of_mem hauthorized (d := request.get "requestDigest")
    (by simp [governedDigests])
  obtain ⟨approvalDigest, happroval⟩ := isDigest_of_mem hauthorized
    (d := (request.get "approval").get "digest") (by simp [governedDigests])
  have hdescribes := hauthorized.describes
  simp only [describesSignature, Bool.and_eq_true, Py.isText_iff] at hdescribes
  obtain ⟨⟨⟨⟨harn, halgorithm⟩, hcanonicalization⟩, hdigest⟩, -⟩ := hdescribes
  have hresponse := isDigest_digestOf hresponse
  have hsignature := hashed v.signatureBytes
  have htool := hauthorized.tool
  unfold nestedEvidence resultFields officialEvidence authorizationEvidence
  simp [List.lookup, harn, halgorithm, hcanonicalization, hdigest, hpolicy, hrequest, happroval,
    hresponse, hsignature, htool, toolOf, sameString]

theorem exact_given {result : Py} (h : Given S jobId request result) :
    result.exact GATEWAY_KEYS = true := by
  obtain ⟨⟩ := h
  unfold resultFields GATEWAY_KEYS
  simp [List.lookup]

/-- **The last condition raises.** -/
theorem governedResult_given
    (hashed : ∀ bytes, isDigest (js "sha256:" ++ S.bytesDigest bytes) = true) {result : Py}
    (h : Given S jobId request result) :
    governedResult S request result = .error (.name "ISO_RE") := by
  have hkeys := exact_given h
  have hnested := nestedEvidence_given hashed h
  unfold governedResult nestedEvidenceValid
  rw [hkeys, hnested]
  rfl

/-! ## 3. The job -/

/-- The answer of the gateway, as the adapter receives it. -/
def wasAnswered (j : Job) (result : Py) : Event Call Call.Reply :=
  ⟨.mcp "execute_governed_mutation" (.object [("job_id", .str j.jobId), ("request", j.request)]),
    (.ok result : Except ServiceFault Py)⟩

/-- The adapter reports a result for the job, and it is accepted. -/
def Reported (S : Settings) (accepts : Py → Prop) (j : Job) (result : Py) : Prop :=
  ∃ r, Reaches (governedMutation S j) [wasAnswered j result] (.done (.ok r)) ∧ accepts r

/-- A completion with an error fails the job. -/
theorem completion_error {j : Job} {a t : Text} {code : String} {retryable : Bool}
    {state : JobState} {receipt : Py}
    (h : completion S j a t (.error code retryable) = .ok (state, receipt)) : state = .FAILED := by
  have hsealed : ∀ {code : String} {retryable : Bool} {x : JobState × Py},
      (do return ((Outcome.error code retryable).state,
        ← sealReceipt S (receiptFields S j j.jobId (Outcome.error code retryable).state t
          [("attemptId", .str a)] (Outcome.error code retryable).member)) : Except Fault _) = .ok x →
      x.1 = .FAILED := by
    intro code retryable x hx
    obtain ⟨receipt, -, hx⟩ := bind_eq_ok.mp hx
    obtain rfl := Except.ok.inj hx
    rfl
  unfold completion at h
  dsimp only at h
  split at h
  · split at h
    · exact (congrArg Prod.fst (Except.ok.inj h)).symm
    · exact hsealed h
  · exact hsealed h

theorem governedMutation_eq {j : Job} (h : validGovernedRequest S.P j.request = true) :
    governedMutation S j = .call (.mcp "execute_governed_mutation"
      (.object [("job_id", .str j.jobId), ("request", j.request)])) fun r =>
        lift (raised r) >>= fun gatewayResult => lift (governedResult S j.request gatewayResult) := by
  unfold governedMutation
  rw [h]
  rfl

theorem perform_mutation {j : Job} (h : j.operation = MUTATION_OPERATION) :
    Jobs.perform S j = governedMutation S j := by
  unfold Jobs.perform
  rw [h]
  rfl

/-- The last completion of an attempt fails the job, and nothing else is written. -/
theorem complete_fails {key : Key} {j : Job} {a : Text} {H : CallHistory} :
    Obeys (fun _ e => ∀ w, e = .write w → ∃ t receipt, w = .complete key a .FAILED t receipt)
      (fun _ _ => True) H (complete S key j a (.error "CORE_JOB_FAILED" true)) := by
  refine obeys_perform nofun fun t => obeys_lift (fun x hx => ?_) fun _ => trivial
  obtain ⟨state, receipt⟩ := x
  refine obeys_perform (fun w hw => ?_) fun r => ?_
  · obtain rfl := Call.write.inj hw
    obtain rfl := completion_error hx
    exact ⟨t, receipt, rfl⟩
  · split <;> trivial

/-- The adapter takes the job, asks the gateway, and raises. -/
theorem mutation_raises {S : Settings}
    (hashed : ∀ bytes, isDigest (js "sha256:" ++ S.bytesDigest bytes) = true) {j : Job}
    {h : CallHistory} {result : Py}
    (hrun : Reaches (execute S j.jobId j.request) h (.done (.ok result))) :
    (governedMutation S j = .call (.mcp "execute_governed_mutation"
      (.object [("job_id", .str j.jobId), ("request", j.request)])) fun r =>
        lift (raised r) >>= fun gatewayResult => lift (governedResult S j.request gatewayResult)) ∧
      governedResult S j.request result = .error (.name "ISO_RE") := by
  have hgiven := execute_obeys.done_of_reaches hrun result rfl
  have hraises := governedResult_given hashed hgiven
  obtain @⟨now, v, _, _, _, _, _, hauthorized⟩ := hgiven
  exact ⟨governedMutation_eq (validGoverned_of_authorized hauthorized), hraises⟩

theorem reaches_raises {S : Settings}
    (hashed : ∀ bytes, isDigest (js "sha256:" ++ S.bytesDigest bytes) = true) {j : Job}
    {h : CallHistory} {result : Py}
    (hrun : Reaches (execute S j.jobId j.request) h (.done (.ok result))) :
    Reaches (governedMutation S j) [wasAnswered j result] (.done (.error (.name "ISO_RE"))) := by
  obtain ⟨hcall, hraises⟩ := mutation_raises hashed hrun
  rw [hcall]
  apply Reaches.step
  change Reaches (lift (governedResult S j.request result)) [] _
  rw [hraises]
  exact .refl _

theorem not_reported {S : Settings}
    (hashed : ∀ bytes, isDigest (js "sha256:" ++ S.bytesDigest bytes) = true) {j : Job}
    {h : CallHistory} {result : Py}
    (hrun : Reaches (execute S j.jobId j.request) h (.done (.ok result))) (accepts : Py → Prop) :
    ¬ Reported S accepts j result := by
  obtain ⟨hcall, hraises⟩ := mutation_raises hashed hrun
  rintro ⟨r, hr, -⟩
  rw [hcall] at hr
  obtain _ | hr := hr
  change Reaches (lift (governedResult S j.request result)) [] _ at hr
  rw [hraises] at hr
  exact nomatch hr

/-- **Whatever the gateway returns raises in the adapter, and the job is failed.**  No result is
ever reported, and whatever the adapter writes after the answer fails the job. -/
theorem unreported {S : Settings}
    (hashed : ∀ bytes, isDigest (js "sha256:" ++ S.bytesDigest bytes) = true) {j : Job}
    {h : CallHistory} {result : Py}
    (hrun : Reaches (execute S j.jobId j.request) h (.done (.ok result))) :
    Reaches (governedMutation S j) [wasAnswered j result] (.done (.error (.name "ISO_RE"))) ∧
      (∀ accepts, ¬ Reported S accepts j result) ∧
      ∀ {key : Key} {attemptId : Text} {h' : CallHistory} {w : JobWrite} {k},
        j.operation = MUTATION_OPERATION →
        Reaches (executeJob S key j attemptId) (wasAnswered j result :: h') (.call (.write w) k) →
        ∃ t receipt, w = .complete key attemptId .FAILED t receipt := by
  obtain ⟨hcall, hraises⟩ := mutation_raises hashed hrun
  refine ⟨reaches_raises hashed hrun, not_reported hashed hrun, ?_⟩
  intro key attemptId h' w k hoperation hr
  unfold executeJob at hr
  rw [perform_mutation hoperation, hcall] at hr
  obtain _ | hr := hr
  have hrest : Obeys (fun _ e => ∀ w, e = .write w →
      ∃ t receipt, w = .complete key attemptId .FAILED t receipt) (fun _ _ => True) []
      (complete S key j attemptId (.error "CORE_JOB_FAILED" true) >>= fun _ =>
        (.done (.ok ()) : Handler Unit)) :=
    obeys_bind.mpr (complete_fails.mono (fun _ _ h => h) fun _ r _ => by cases r <;> trivial)
  change Reaches (((lift (governedResult S j.request result) : Handler Py) >>= fun result =>
    complete S key j attemptId (.result result) >>= fun _ =>
      (.done (.ok ()) : Handler Unit)).attempt >>= _) h' (.call (.write w) k) at hr
  rw [hraises] at hr
  exact hrest.call_of_reaches hr w rfl

/-! ## 4. A mutation that is made, verified and failed -/

/-- A digest. -/
def sampleDigest : Text :=
  js "sha256:aaaaaaaaaaaaaaaaaaaaaaaaaaaaaaaaaaaaaaaaaaaaaaaaaaaaaaaaaaaaaaaa"

/-- The id of a job. -/
def sampleJobId : Text := js "job_aaaaaaaaaaaaaaaaaaaaaa"

/-- The bytes of a signature. -/
def sampleBytes : List UInt8 := List.replicate 72 0

/-- Their base64. -/
def sampleBase64 : Text := List.replicate 96 0x41

/-- A host: its libraries, as they behave on the request below. -/
def sampleSettings : Settings where
  P := Platform.node
  stage := js "prod"
  sessionId := js "rs_aaaaaaaaaaaaaaaaaaaaaaaaaaaaaaaaaaaaaaaaaaa"
  generation := js "g1"
  capabilityDigest := sampleDigest
  keyArn := js "arn:aws:kms:eu-west-1:000000000000:key/1"
  decimals := true
  b64decode t := if t = sampleBase64 then some sampleBytes else none
  verify _ bytes := bytes = sampleBytes
  bytesDigest bytes := Platform.node.sha256 (bytes.map UInt8.toUInt16)
  strOf _ := []

/-- The digest of a dict literal. -/
def digestText (fields : List (String × Py)) : Text :=
  (digest Platform.node (.object fields)).getD []

/-- The tag state of the column. -/
def sampleStateFields (tags : List Text) : List (String × Py) :=
  [("entityUrn", .str DATASET_URN), ("columnPath", .str COLUMN_PATH),
    ("tagUrns", .list (tags.map .str))]

/-- An envelope. -/
def sampleEnvelopeFields : List (String × Py) :=
  [("schemaVersion", .lit "archon.core-mutation-authorization/v1"), ("stage", .lit "prod"),
    ("sessionId", .str sampleSettings.sessionId), ("generation", .str sampleSettings.generation),
    ("capabilityDigest", .str sampleDigest), ("jobId", .str sampleJobId),
    ("approvalId", .lit "approval-1"), ("planDigest", .str sampleDigest),
    ("policyDigest", .str sampleDigest),
    ("target", .object [("entityUrn", .str DATASET_URN), ("columnPath", .str COLUMN_PATH)]),
    ("tool", .lit "add_tags"), ("arguments", OFFICIAL_ARGUMENTS),
    ("issuedAt", .lit "2026-07-14T10:00:00.000Z"), ("expiresAt", .lit "2026-07-14T10:04:00.000Z")]

/-- The approval of the request. -/
def sampleApproval : Py :=
  .object [("approvalId", .lit "approval-1"), ("decision", .lit "APPROVE"),
    ("approverDigest", .str sampleDigest), ("decidedAt", .lit "2026-07-14T09:59:00.000Z"),
    ("digest", .str sampleDigest)]

/-- The signature of the envelope. -/
def sampleSignature : Py :=
  .object [("keyArn", .str sampleSettings.keyArn), ("algorithm", .lit "ECDSA_SHA_256"),
    ("canonicalization", .lit "archon.sorted-json-utf8/v1"),
    ("envelopeDigest", .str (digestText sampleEnvelopeFields)),
    ("signatureBase64", .str sampleBase64)]

/-- A request to tag the column, without its digest. -/
def sampleRequestFields : List (String × Py) :=
  [("schemaVersion", .lit "archon.core-governed-tag-mutation/v1"),
    ("auditId", .str (sampleDigest.drop 7)), ("runtimeEvidenceDigest", .str sampleDigest),
    ("auditEvidenceDigest", .str sampleDigest), ("planDigest", .str sampleDigest),
    ("policyDigest", .str sampleDigest), ("approval", sampleApproval), ("action", .lit "ADD_TAGS"),
    ("arguments", .object [("tagUrns", .list [.str PII_TAG]), ("entityUrns", .list [.str DATASET_URN]),
      ("columnPaths", .list [.str COLUMN_PATH])]),
    ("expectedBeforeDigest", .str (digestText (sampleStateFields []))),
    ("expectedAfterDigest", .str (digestText (sampleStateFields [PII_TAG]))),
    ("authorization", .object [("envelope", .object sampleEnvelopeFields),
      ("signature", sampleSignature)])]

/-- The request. -/
def sampleRequest : Py :=
  .object (sampleRequestFields ++ [("requestDigest", .str (digestText sampleRequestFields))])

/-- A reading of the gateway's clock: 2026-07-14T10:01:00Z. -/
def sampleNow : Int := 1784023260000000

/-- What the request is validated as. -/
def sampleValidated : Validated where
  tool := js "add_tags"
  envelopeDigest := digestText sampleEnvelopeFields
  signatureBytes := sampleBytes
  expiresAt := 1784023440000

theorem digest_digestText {fields : List (String × Py)}
    (h : (fields.all fun f => (dumps f.2).isSome) = true) :
    digest Platform.node (.object fields) = some (digestText fields) := by
  rw [← dumps_object_isSome] at h
  obtain ⟨t, ht⟩ := Option.isSome_iff_exists.mp h
  unfold digestText digest
  rw [ht]
  rfl

theorem digestOf_digestText {fields : List (String × Py)}
    (h : (fields.all fun f => (dumps f.2).isSome) = true) :
    digestOf sampleSettings (.object fields) = .ok (digestText fields) := by
  unfold digestOf
  rw [show sampleSettings.P = Platform.node from rfl, digest_digestText h]

theorem isDigest_digestText {fields : List (String × Py)}
    (h : (fields.all fun f => (dumps f.2).isSome) = true) : isDigest (digestText fields) = true :=
  isDigest_digestOf (digestOf_digestText h)

theorem sampleState_dumps (tags : List Text) (h : (tags.all encodable) = true) :
    ((sampleStateFields tags).all fun f => (dumps f.2).isSome) = true := by
  simp [sampleStateFields, DATASET_URN, COLUMN_PATH, List.all_map, Function.comp_def]
  simpa using h

@[simp] theorem encodable_sampleDigest : encodable sampleDigest = true := encodable_js _

@[simp] theorem encodable_sampleBase64 : encodable sampleBase64 = true := by
  have hunits : sampleBase64.all (fun u => decide (u < 0xD800)) = true := by decide
  exact encodable_of_units fun u hu => of_decide_eq_true (List.all_eq_true.mp hunits u hu)

theorem sampleEnvelope_dumps :
    (sampleEnvelopeFields.all fun f => (dumps f.2).isSome) = true := by
  simp [sampleEnvelopeFields, OFFICIAL_ARGUMENTS, Py.lit, DATASET_URN, COLUMN_PATH, PII_TAG,
    sampleJobId, sampleSettings]

theorem isDigest_sampleEnvelope : isDigest (digestText sampleEnvelopeFields) = true :=
  isDigest_digestText sampleEnvelope_dumps

theorem isDigest_sampleState {t : List Text} (h : (t.all encodable) = true) :
    isDigest (digestText (sampleStateFields t)) = true :=
  isDigest_digestText (sampleState_dumps t h)

theorem sampleRequest_dumps :
    (sampleRequestFields.all fun f => (dumps f.2).isSome) = true := by
  have hbefore := encodable_of_isDigest (isDigest_sampleState (t := []) rfl)
  have hafter := encodable_of_isDigest (isDigest_sampleState (t := [PII_TAG]) (by simp [PII_TAG]))
  have henvelope := encodable_of_isDigest isDigest_sampleEnvelope
  have haudit : encodable (sampleDigest.drop 7) = true := encodable_of_isHex (by decide)
  have hfields : ∀ name v, (name, v) ∈ sampleEnvelopeFields → (dumps v).isSome = true := by
    simpa using sampleEnvelope_dumps
  simpa [sampleRequestFields, sampleApproval, sampleSignature, Py.lit, DATASET_URN, COLUMN_PATH,
    PII_TAG, hbefore, henvelope, haudit, sampleSettings] using And.intro hafter hfields

theorem isDigest_sampleRequest : isDigest (digestText sampleRequestFields) = true :=
  isDigest_digestText sampleRequest_dumps

theorem isDigest_sampleDigest : isDigest sampleDigest = true := by decide

/-- The request is validated. -/
theorem sample_validated :
    validate sampleSettings sampleJobId sampleRequest sampleNow = .ok sampleValidated := by
  have hdigest := isDigest_sampleDigest
  have hbefore := isDigest_sampleState (t := []) rfl
  have hafter := isDigest_sampleState (t := [PII_TAG]) (by simp [PII_TAG])
  have hrequest := isDigest_sampleRequest
  unfold validate
  refine bind_eq_ok.mpr ⟨(), permit_eq_ok.mpr ?_, ?_⟩
  · rw [show isJobId sampleJobId = true by decide]
    simp [sampleRequest, sampleRequestFields, GOVERNED_KEYS, List.lookup]
  refine bind_eq_ok.mpr ⟨(), permit_eq_ok.mpr ?_, ?_⟩
  · have haudit : isAudit (sampleDigest.drop 7) = true := by decide
    simp [withinPolicy, sampleRequest, sampleRequestFields, sampleApproval, List.lookup, Py.lit,
      haudit, Py.isTexts_iff]
  refine bind_eq_ok.mpr ⟨(), permit_eq_ok.mpr ?_, ?_⟩
  · simpa [governedDigests, sampleRequest, sampleRequestFields, sampleApproval, List.lookup, hdigest,
      hbefore, hafter] using hrequest
  refine bind_eq_ok.mpr ⟨(), permit_eq_ok.mpr ?_, ?_⟩
  · have happrovalId : isApprovalId (js "approval-1") = true := by decide
    have hdecidedAt : isIso (js "2026-07-14T09:59:00.000Z") = true := by decide
    simp [sampleRequest, sampleRequestFields, sampleApproval, List.lookup, Py.lit, happrovalId,
      hdecidedAt]
  refine bind_eq_ok.mpr ⟨true, ?_, ?_⟩
  · have hwithout : sampleRequest.without "requestDigest" = .object sampleRequestFields := by
      simp [sampleRequest, sampleRequestFields]
    rw [hwithout]
    unfold hasDigest
    rw [show sampleSettings.P = Platform.node from rfl, digest_digestText sampleRequest_dumps]
    simp [sampleRequest, sampleRequestFields, List.lookup]
  refine bind_eq_ok.mpr ⟨(), permit_eq_ok.mpr rfl, ?_⟩
  have henvelope : (sampleRequest.get "authorization").get "envelope"
      = .object sampleEnvelopeFields := by
    simp [sampleRequest, sampleRequestFields, List.lookup]
  have hsignature : (sampleRequest.get "authorization").get "signature" = sampleSignature := by
    simp [sampleRequest, sampleRequestFields, List.lookup]
  rw [henvelope, hsignature]
  refine bind_eq_ok.mpr ⟨(), permit_eq_ok.mpr ?_, ?_⟩
  · decide +kernel
  refine bind_eq_ok.mpr ⟨(), permit_eq_ok.mpr ?_, ?_⟩
  · simp [sampleEnvelopeFields, sampleSignature, ENVELOPE_KEYS, SIGNATURE_KEYS, List.lookup]
  refine bind_eq_ok.mpr ⟨(), permit_eq_ok.mpr ?_, ?_⟩
  · simp [bindsEnvelope, sampleRequest, sampleRequestFields, sampleEnvelopeFields, sampleApproval,
      OFFICIAL_ARGUMENTS, List.lookup, Py.lit, sameText, toolOf, sampleSettings, Py.isTexts_iff]
  refine bind_eq_ok.mpr ⟨1784023200000, ?_, ?_⟩
  · have hissued : (Py.object sampleEnvelopeFields).get "issuedAt"
        = .lit "2026-07-14T10:00:00.000Z" := by
      simp [sampleEnvelopeFields, List.lookup]
    rw [hissued]
    rfl
  refine bind_eq_ok.mpr ⟨1784023440000, ?_, ?_⟩
  · have hexpires : (Py.object sampleEnvelopeFields).get "expiresAt"
        = .lit "2026-07-14T10:04:00.000Z" := by
      simp [sampleEnvelopeFields, List.lookup]
    rw [hexpires]
    rfl
  refine bind_eq_ok.mpr ⟨(), permit_eq_ok.mpr (by decide), ?_⟩
  refine bind_eq_ok.mpr ⟨_, digestOf_digestText sampleEnvelope_dumps, ?_⟩
  refine bind_eq_ok.mpr ⟨(), permit_eq_ok.mpr ?_, ?_⟩
  · simp [describesSignature, sampleSignature, List.lookup, Py.lit]
    decide
  have hbytes : (sampleSignature.get "signatureBase64").text?.bind sampleSettings.b64decode
      = some sampleBytes := by
    simp [sampleSignature, List.lookup, sampleSettings]
  rw [hbytes]
  have htool : toolOf sampleRequest = js "add_tags" := by
    simp [toolOf, sampleRequest, sampleRequestFields, List.lookup, Py.lit]
  refine bind_eq_ok.mpr ⟨(), permit_eq_ok.mpr (by decide), ?_⟩
  rw [htool]
  rfl

/-- What the catalog tells of the column. -/
def sampleEntities (tags : List Text) : Py :=
  .object [("fieldPath", .str COLUMN_PATH),
    ("tags", .list (tags.map fun t => .object [("tag", .str t)]))]

/-- The state of the column, as the gateway reads it. -/
def sampleState (tags : List Text) : Py :=
  .object (sampleStateFields tags ++ [("stateDigest", .str (digestText (sampleStateFields tags)))])

/-- The answer of the official tool. -/
def sampleOfficial : Py := .object [("success", .bool true)]

/-- What is kept of it. -/
def sampleResponseFields : List (String × Py) := [("success", .bool true), ("message", .str [])]

/-- The result of the gateway, without its digest. -/
def sampleResultFields : List (String × Py) :=
  resultFields sampleSettings sampleRequest (sampleState []) (sampleState [PII_TAG]) sampleValidated
    sampleNow (digestText sampleResponseFields)

/-- The result. -/
def sampleResult : Py :=
  .object (sampleResultFields ++ [("receiptDigest", .str (digestText sampleResultFields))])

/-- The lease of the host. -/
def sampleLease : Core.Lease where
  sessionId := sampleSettings.sessionId
  state := .READY
  revision := 1
  generation := sampleSettings.generation
  capabilityDigest := sampleSettings.capabilityDigest
  resolution := []
  boundAt := []
  idleExpiresAt := 1784024000
  hardExpiresAt := 1784025000
  updatedAt := 0
  stoppedAt := none
  readyAt := none
  operationId := none
  operationExpiresAt := none
  expiresAt := 1784026000
  inferenceEndpointId := none
  kmsEndpointId := none
  stsEndpointId := none
  analyticsCredentials := none
  gatewayCredentials := none

/-- The job of the request. -/
def sampleJob : Job where
  schema := JOB_SCHEMA
  profileId := js "core"
  jobId := sampleJobId
  operation := MUTATION_OPERATION
  sessionId := sampleSettings.sessionId
  generation := sampleSettings.generation
  capabilityDigest := sampleSettings.capabilityDigest
  state := .RUNNING
  request := sampleRequest
  startedAt := none
  recoveredAt := none
  completedAt := none
  attemptId := none
  attemptDeadlineEpoch := none
  attemptCount := none
  receipt := none
  authorizationConsumedAt := none
  authorizationEnvelopeDigest := none

/-- The entities are read, as these. -/
def readEntities (tags : List Text) : Event Call Call.Reply :=
  ⟨.official (js "get_entities") (.object [("urns", .list [.str DATASET_URN])]),
    (.ok (sampleEntities tags) : Except ServiceFault Py)⟩

/-- The calls of the gateway. -/
def sampleCalls : CallHistory :=
  [⟨.now, sampleNow⟩, ⟨.publicKey, (.ok () : Except ServiceFault Unit)⟩,
    ⟨.lease, (.ok (some sampleLease) : Except ServiceFault (Option Core.Lease))⟩,
    wasWritten (consumption sampleSettings sampleJobId sampleValidated.envelopeDigest sampleNow)
      (.ok ()),
    readEntities [],
    ⟨.official (js "add_tags") OFFICIAL_ARGUMENTS,
      (.ok sampleOfficial : Except ServiceFault Py)⟩,
    readEntities [PII_TAG]]

theorem sample_tagState {tags : List Text} (h : (tags.all encodable) = true)
    (hsorted : sortedTags tags = tags) :
    tagState sampleSettings DATASET_URN COLUMN_PATH tags = .ok (sampleState tags) := by
  unfold tagState
  rw [hsorted]
  exact bind_eq_ok.mpr ⟨_, digestOf_digestText (sampleState_dumps tags h), rfl⟩

theorem sample_readState {t : List Text} (h : (t.all encodable) = true)
    (hsorted : sortedTags t = t)
    (hwalk : walk COLUMN_PATH (sampleEntities t) false = (true, t)) :
    Reaches (readState sampleSettings) [readEntities t] (.done (.ok (sampleState t))) := by
  unfold readState
  apply Reaches.step
  refine reaches_lift (a := sampleEntities t) rfl ?_
  rw [hwalk]
  change Reaches (lift (tagState sampleSettings DATASET_URN COLUMN_PATH t)) [] _
  rw [sample_tagState h hsorted]
  exact .refl _

theorem sample_hashed (bytes : List UInt8) :
    isDigest (js "sha256:" ++ sampleSettings.bytesDigest bytes) = true :=
  isDigest_sha256 Platform.node (bytes.map UInt8.toUInt16)

theorem sampleResponse_dumps :
    (sampleResponseFields.all fun f => (dumps f.2).isSome) = true := by
  simp only [sampleResponseFields, List.all_cons, dumps_bool_isSome, dumps_str_isSome]
  rfl

theorem sampleResult_dumps : (sampleResultFields.all fun f => (dumps f.2).isSome) = true := by
  have hbefore := encodable_of_isDigest (isDigest_sampleState (t := []) rfl)
  have hafter := encodable_of_isDigest (isDigest_sampleState (t := [PII_TAG]) (by simp [PII_TAG]))
  have hrequest := encodable_of_isDigest isDigest_sampleRequest
  have henvelope := encodable_of_isDigest isDigest_sampleEnvelope
  have hresponse := encodable_of_isDigest (isDigest_digestText sampleResponse_dumps)
  have hsignature : encodable (js "sha256:" ++ sampleSettings.bytesDigest sampleBytes) = true :=
    encodable_of_isDigest (sample_hashed sampleBytes)
  have hconsumed : encodable (consumedAtOf sampleSettings sampleNow) = true := by decide +kernel
  have haction : sampleRequest.get "action" = .lit "ADD_TAGS" := by
    simp [sampleRequest, sampleRequestFields, List.lookup]
  have hpolicy : sampleRequest.get "policyDigest" = .str sampleDigest := by
    simp [sampleRequest, sampleRequestFields, List.lookup]
  have hrequestDigest : sampleRequest.get "requestDigest" = .str (digestText sampleRequestFields) := by
    simp [sampleRequest, sampleRequestFields, List.lookup]
  have happroval : (sampleRequest.get "approval").get "digest" = .str sampleDigest := by
    simp [sampleRequest, sampleRequestFields, sampleApproval, List.lookup]
  have hauthorization : (sampleRequest.get "authorization").get "signature" = sampleSignature := by
    simp [sampleRequest, sampleRequestFields, List.lookup]
  have hstate : ∀ tags, (sampleState tags).get "stateDigest"
      = .str (digestText (sampleStateFields tags)) := by
    intro tags
    simp [sampleState, sampleStateFields, List.lookup]
  have hkeyArn : encodable sampleSettings.keyArn = true := encodable_js _
  unfold sampleResultFields resultFields officialEvidence authorizationEvidence
  rw [haction, hpolicy, hrequestDigest, happroval, hauthorization, hstate, hstate]
  simp [hbefore, hafter, hrequest, henvelope, hresponse, hsignature, hconsumed, hkeyArn,
    sampleSignature, sampleValidated, List.lookup, Py.lit]

/-- The gateway gives the result. -/
theorem sample_executed :
    Reaches (execute sampleSettings sampleJob.jobId sampleJob.request) sampleCalls
      (.done (.ok sampleResult)) := by
  have hvalidated : Reaches (validateRequest sampleSettings sampleJobId sampleRequest sampleNow)
      [⟨.publicKey, (.ok () : Except ServiceFault Unit)⟩,
        ⟨.lease, (.ok (some sampleLease) : Except ServiceFault (Option Core.Lease))⟩]
      (.done (.ok sampleValidated)) := by
    unfold validateRequest
    refine reaches_lift sample_validated ?_
    apply Reaches.step
    refine reaches_lift (a := ()) rfl (reaches_lift (a := ()) (by rfl) ?_)
    apply Reaches.step
    refine reaches_lift (a := some sampleLease) rfl (reaches_lift (a := ()) (by rfl) ?_)
    exact .refl _
  have hconsumed : Reaches (consume sampleSettings sampleJobId sampleValidated.envelopeDigest
      sampleNow) [wasWritten (consumption sampleSettings sampleJobId sampleValidated.envelopeDigest
        sampleNow) (.ok ())] (.done (.ok ())) := by
    unfold consume
    apply Reaches.step
    exact .refl _
  have hbefore := sample_readState (t := []) rfl (by simp [sortedTags]) (by decide +kernel)
  have hafter := sample_readState (t := [PII_TAG]) (by simp [PII_TAG]) (by simp [sortedTags])
    (by decide +kernel)
  unfold execute
  apply Reaches.step
  refine hvalidated.bind ?_
  refine hconsumed.bind ?_
  refine hbefore.bind ?_
  refine reaches_lift (a := ()) (insist_eq_ok.mpr ?_) ?_
  · simp [sampleJob, sampleRequest, sampleRequestFields, sampleState, sampleStateFields, List.lookup,
      sameText]
  apply Reaches.step
  refine reaches_lift (a := sampleOfficial) rfl ?_
  refine reaches_lift (a := ()) (insist_eq_ok.mpr ?_) ?_
  · simp [confirms, sampleOfficial, List.lookup]
  refine hafter.bind ?_
  refine reaches_lift (a := ()) (insist_eq_ok.mpr ?_) ?_
  · simp [sampleJob, sampleRequest, sampleRequestFields, sampleState, sampleStateFields, List.lookup,
      sameText]
  refine reaches_lift (digestOf_digestText sampleResponse_dumps) ?_
  refine reaches_lift (digestOf_digestText sampleResult_dumps) ?_
  exact .refl _

/-- A mutation that was made and verified, and is not reported. -/
theorem unreported_sample :
    Reaches (governedMutation sampleSettings sampleJob) [wasAnswered sampleJob sampleResult]
        (.done (.error (.name "ISO_RE"))) ∧
      ¬ Reported sampleSettings (fun _ => True) sampleJob sampleResult :=
  have h := unreported sample_hashed sample_executed
  ⟨h.1, h.2.1 _⟩

/-- **Not every mutation that is made and verified is reported.** -/
theorem not_every_mutation_reported :
    ¬ ∀ (S : Settings) (j : Job) (h : CallHistory) (result : Py),
      (∀ bytes, isDigest (js "sha256:" ++ S.bytesDigest bytes) = true) →
        Reaches (execute S j.jobId j.request) h (.done (.ok result)) →
          Reported S (fun _ => True) j result := by
  intro h
  exact not_reported sample_hashed sample_executed _ (h _ _ _ _ sample_hashed sample_executed)

end Jobs
