/-
# Which of its own requests the adapter takes

The control function makes the requests, and the adapter of the Core host checks them, each with
records, bounds and digests of its own.  They agree on the first read and on the mutation.  They
agree on the two jobs after the mutation if and only if the column carried no tag but the one that
is added: a plan keeps the tags that were there (`planFor`), and the adapter refuses to verify any
other state than no tag or that one (`postTags`).  The catalog has been changed by then.

`accepted_iff` is that.  Where the requests are taken, the results of the adapter pass the
comparison of the tags too.
-/
import Archon.Control.Facts
import Archon.Resumption.Handler
import Archon.Jobs.Adapter

namespace Control

open Ecma Ecma.Value Remediation Resumption Resumption.Program

/-! ## 1. The first read -/

/-- **The adapter takes the request**, as the table returns it. -/
def Accepts (P : Platform) (operation : String) (request : Value) : Prop :=
  storable request 0 = true ∧ Jobs.requestValid P (js operation) (stored request) = true

section Requests

variable {P : Platform} {run : Run}

theorem stored_readTags (run : Run) : stored (readTagsRequest run)
    = .object [("schemaVersion", .lit "archon.core-tag-read/v1"), ("auditId", .str run.auditId),
      ("runtimeEvidenceDigest", .str run.evidenceDigest), ("entityUrn", .str run.datasetUrn),
      ("columnPath", .str run.governedColumnPath)] := by
  simp [readTagsRequest]

theorem readTags_storable (h : RunFits run) {level : Nat} (hlevel : level ≤ 13) :
    storable (readTagsRequest run) level = true := by
  simp [readTagsRequest, h.dataset_fits.encodable, h.column_fits.encodable,
    (fits_isAudit h.audit).encodable, (fits_isDigest h.evidence).encodable, hlevel,
    le_trans hlevel (show 13 ≤ 14 by decide), show level < 14 by omega]

theorem readTags_modest (h : RunFits run) {depth : Nat} (hdepth : depth ≤ 11) :
    Modest (stored (readTagsRequest run)) depth 8000 := by
  have hdepth' : depth + 1 ≤ 12 := Nat.succ_le_succ hdepth
  have hschema : Fits (js "archon.core-tag-read/v1") 64 := fits_lit (by decide)
  rw [stored_readTags]
  refine (modest_object (.cons (modest_str hschema hdepth')
    (.cons (modest_str (fits_isAudit h.audit) hdepth')
    (.cons (modest_str (fits_isDigest h.evidence) hdepth')
    (.cons (modest_str h.dataset_fits hdepth')
    (.cons (modest_str h.column_fits hdepth') .nil)))))
    ?_ (by simp) (Nat.le_of_succ_le hdepth')).mono (by decide)
  simp only [List.map_cons, List.map_nil]
  decide

theorem readTags_valid (h : RunFits run) :
    Jobs.validReadRequest (stored (readTagsRequest run)) = true := by
  rw [stored_readTags]
  simp [Jobs.validReadRequest, List.lookup, Jobs.Py.lit, h.audit, h.evidence, h.dataset, h.column]

theorem bounded_stored {v : Value} {fields : List (String × Jobs.Py)} {n : Nat}
    (hstored : stored v = .object fields) (h : Modest (stored v) 0 n) (hn : n ≤ 32768) :
    Jobs.boundedRequest (stored v) = true := by
  rw [hstored] at h ⊢
  exact boundedRequest_of_modest (h.mono hn)

/-- **The first read is taken.** -/
theorem readTags_accepted (h : RunFits run) : Accepts P "READ_TAGS" (readTagsRequest run) := by
  refine ⟨readTags_storable h (by decide), ?_⟩
  have hbounded := bounded_stored (stored_readTags run) (readTags_modest h (by decide)) (by decide)
  have hoperation : js "READ_TAGS" ≠ js "ANALYZE" ∧ js "READ_TAGS" ≠ js "IMPROVE_CONTEXT" := by decide
  simp [Jobs.requestValid, hbounded, readTags_valid h]

/-! ## 2. After the mutation -/

theorem mem_sortedSet {t : Text} {tags : List Text} : t ∈ sortedSet tags ↔ t ∈ tags := by
  rw [sortedSet, List.mem_insertionSort, List.mem_dedup]

/-- The set of some tags and one more is that one if and only if there was no other. -/
theorem sortedSet_eq_singleton {tags : List Text} {t : Text} :
    sortedSet (tags ++ [t]) = [t] ↔ ∀ u ∈ tags, u = t := by
  constructor
  · intro h u hu
    have hmem : u ∈ sortedSet (tags ++ [t]) := mem_sortedSet.mpr (List.mem_append_left _ hu)
    rw [h] at hmem
    exact List.mem_singleton.mp hmem
  · intro h
    have hall : ∀ u ∈ sortedSet (tags ++ [t]), u = t := by
      intro u hu
      rcases List.mem_append.mp (mem_sortedSet.mp hu) with hu | hu
      · exact h u hu
      · exact List.mem_singleton.mp hu
    have hmem : t ∈ sortedSet (tags ++ [t]) :=
      mem_sortedSet.mpr (List.mem_append_right _ List.mem_cons_self)
    have hnodup : (sortedSet (tags ++ [t])).Nodup :=
      (List.perm_insertionSort _ _).nodup_iff.mpr (List.nodup_dedup _)
    have hpos := List.length_pos_of_mem hmem
    rw [List.eq_replicate_of_mem hall] at hnodup ⊢
    have hle := List.nodup_replicate.mp hnodup
    rw [show (sortedSet (tags ++ [t])).length = 1 by omega]
    rfl

theorem stored_state (s : TagState) : stored s.value
    = .object [("entityUrn", .str s.entityUrn), ("columnPath", .str s.columnPath),
      ("tagUrns", .list (s.tagUrns.map .str)), ("stateDigest", .str s.stateDigest)] := by
  simp [TagState.value, stateFields]

/-- One of the two requests. -/
def postRequest (schemaVersion : String) (original : Value) (run : Run) (prepared : Prepared)
    (receiptDigest : Text) : Value :=
  object ([("schemaVersion", lit schemaVersion), ("originalRequest", original)]
    ++ postFields run prepared receiptDigest)

theorem stored_post (schemaVersion : String) (original : Value) (run : Run) (prepared : Prepared)
    (receiptDigest : Text) : stored (postRequest schemaVersion original run prepared receiptDigest)
    = .object [("schemaVersion", .lit schemaVersion), ("originalRequest", stored original),
      ("sourceMutationAuditId", .str run.auditId),
      ("sourceMutationReceiptDigest", .str receiptDigest),
      ("postMutationExpectedTagState", stored prepared.expectedAfter.value)] := by
  simp [postRequest, postFields]

variable {prepared : Prepared} {receiptDigest : Text}

/-- Python reads the digest of the state that the plan expects. -/
theorem tagStateDigest_after (h : RunFits run) (hp : PlanFits P run prepared)
    (htags : ∀ t ∈ prepared.expectedAfter.tagUrns, Jobs.encodable t = true) :
    Jobs.tagStateDigest P (stored prepared.expectedAfter.value)
      = some prepared.expectedAfter.stateDigest := by
  have hplain : Plain (object (stateFields run.datasetUrn run.governedColumnPath
      prepared.expectedAfter.tagUrns)) := by
    refine plain_object (by simp only [stateFields, List.map_cons, List.map_nil]; decide) ?_
    simpa [stateFields, h.dataset_fits.encodable, h.column_fits.encodable] using htags
  have hdigest := digest_stored P hplain
  rw [hp.after_digest] at hdigest
  rw [← hdigest, Jobs.tagStateDigest, stored_state, hp.entityUrn, hp.columnPath]
  simp [stateFields, List.lookup]

/-- **The adapter takes a state with no tag but the one that is added, and no other.** -/
theorem validPost_iff {analyze : Bool} {schemaVersion : String} {original : Value}
    (hschema : js schemaVersion = js (if analyze then "archon.datahub-post-mutation-analysis/v1"
      else "archon.core-post-mutation-tag-read/v1"))
    (horiginal : (if analyze then Jobs.boundedRequest (stored original)
      else Jobs.validReadRequest (stored original)) = true)
    (h : RunFits run) (hp : PlanFits P run prepared) (hreceipt : Jobs.isDigest receiptDigest = true) :
    Jobs.validPostRequest P analyze
      (stored (postRequest schemaVersion original run prepared receiptDigest)) = true ↔
        ∀ t ∈ prepared.before.tagUrns, t = PII_TAG := by
  rw [← sortedSet_eq_singleton, ← hp.tagUrns]
  have htags : (stored prepared.expectedAfter.value).get "tagUrns"
      = .list (prepared.expectedAfter.tagUrns.map .str) := by
    rw [stored_state]
    simp [List.lookup]
  have hmem : PII_TAG ∈ prepared.expectedAfter.tagUrns := by
    rw [hp.tagUrns]
    exact mem_sortedSet.mpr (List.mem_append_right _ List.mem_cons_self)
  constructor
  · intro hvalid
    rw [stored_post] at hvalid
    simp only [Jobs.validPostRequest, Bool.and_eq_true] at hvalid
    have hpost : Jobs.postTags ((stored prepared.expectedAfter.value).get "tagUrns") = true := by
      simpa [List.lookup] using hvalid.1.1.2
    rw [htags, Jobs.postTags, Bool.or_eq_true, Jobs.Py.isTexts_iff, Jobs.Py.isTexts_iff,
      Jobs.Py.list.injEq, Jobs.Py.list.injEq] at hpost
    have hinj : Function.Injective Jobs.Py.str := fun _ _ h => Jobs.Py.str.inj h
    rcases hpost with hempty | hsingle
    · rw [hinj.list_map hempty] at hmem
      exact absurd hmem List.not_mem_nil
    · exact hinj.list_map hsingle
  · intro hafter
    have hencodable : ∀ t ∈ prepared.expectedAfter.tagUrns, Jobs.encodable t = true := by
      intro t ht
      rw [hafter] at ht
      obtain rfl := List.mem_singleton.mp ht
      exact Jobs.encodable_js _
    have hdigest := tagStateDigest_after h hp hencodable
    have hpost : Jobs.postTags ((stored prepared.expectedAfter.value).get "tagUrns") = true := by
      rw [htags, hafter, Jobs.postTags, Bool.or_eq_true]
      exact Or.inr (Jobs.Py.isTexts_iff.mpr rfl)
    have hstate : (stored prepared.expectedAfter.value).exact
        ["entityUrn", "columnPath", "tagUrns", "stateDigest"] = true := by
      rw [stored_state]
      simp [List.lookup]
    have hentity : (stored prepared.expectedAfter.value).get "entityUrn" = .str run.datasetUrn := by
      rw [stored_state, hp.entityUrn]
      simp [List.lookup]
    have hcolumn : (stored prepared.expectedAfter.value).get "columnPath"
        = .str run.governedColumnPath := by
      rw [stored_state, hp.columnPath]
      simp [List.lookup]
    have hstateDigest : (stored prepared.expectedAfter.value).get "stateDigest"
        = .str prepared.expectedAfter.stateDigest := by
      rw [stored_state]
      simp [List.lookup]
    rw [stored_post]
    simp [Jobs.validPostRequest, List.lookup, Jobs.Py.lit, hschema, horiginal, h.audit, hreceipt,
      hstate, hentity, hcolumn, hpost, hdigest, hstateDigest, h.dataset, h.column]

theorem state_modest (h : RunFits run) (hp : PlanFits P run prepared)
    (hafter : prepared.expectedAfter.tagUrns = [PII_TAG]) :
    Modest (stored prepared.expectedAfter.value) 1 5200 := by
  have hentity : Fits prepared.expectedAfter.entityUrn 768 := hp.entityUrn ▸ h.dataset_fits
  have hcolumn : Fits prepared.expectedAfter.columnPath 1536 := hp.columnPath ▸ h.column_fits
  have htag : Fits PII_TAG 64 := fits_lit (by decide)
  have hdigest := fits_isDigest (isDigest_digest hp.after_digest)
  rw [stored_state, hafter]
  refine (modest_object (.cons (modest_str hentity (by decide))
    (.cons (modest_str hcolumn (by decide))
    (.cons (modest_singleton (modest_str htag (by decide)) (by decide))
    (.cons (modest_str hdigest (by decide)) .nil)))) ?_ (by simp) (by decide)).mono (by decide)
  simp only [List.map_cons, List.map_nil]
  decide

theorem post_modest {schemaVersion : String} {original : Value}
    (hschema : Fits (js schemaVersion) 64) (horiginal : Modest (stored original) 1 8000)
    (h : RunFits run) (hp : PlanFits P run prepared) (hreceipt : Jobs.isDigest receiptDigest = true)
    (hafter : prepared.expectedAfter.tagUrns = [PII_TAG]) :
    Modest (stored (postRequest schemaVersion original run prepared receiptDigest)) 0 20000 := by
  rw [stored_post]
  refine (modest_object (.cons (modest_str hschema (by decide)) (.cons horiginal
    (.cons (modest_str (fits_isAudit h.audit) (by decide))
    (.cons (modest_str (fits_isDigest hreceipt) (by decide))
    (.cons (state_modest h hp hafter) .nil))))) ?_ (by simp) (by decide)).mono (by decide)
  simp only [List.map_cons, List.map_nil]
  decide

theorem post_storable {schemaVersion : String} {original : Value}
    (horiginal : storable original 1 = true) (h : RunFits run) (hp : PlanFits P run prepared)
    (hreceipt : Jobs.isDigest receiptDigest = true)
    (hafter : prepared.expectedAfter.tagUrns = [PII_TAG]) :
    storable (postRequest schemaVersion original run prepared receiptDigest) 0 = true := by
  have htag : Jobs.encodable PII_TAG = true := Jobs.encodable_js _
  simp [postRequest, postFields, TagState.value, stateFields, horiginal, hafter, htag,
    hp.entityUrn, hp.columnPath, h.dataset_fits.encodable, h.column_fits.encodable,
    (fits_isAudit h.audit).encodable, (fits_isDigest hreceipt).encodable,
    (fits_isDigest (isDigest_digest hp.after_digest)).encodable]

/-- **One of the two jobs after the mutation.** -/
theorem post_accepted_iff {operation schemaVersion : String} {analyze : Bool} {original : Value}
    (hoperation : ∀ request, Jobs.requestValid P (js operation) request
      = (Jobs.boundedRequest request && Jobs.validPostRequest P analyze request))
    (hschema : js schemaVersion = js (if analyze then "archon.datahub-post-mutation-analysis/v1"
      else "archon.core-post-mutation-tag-read/v1"))
    (hfits : Fits (js schemaVersion) 64)
    (horiginal : (if analyze then Jobs.boundedRequest (stored original)
      else Jobs.validReadRequest (stored original)) = true)
    (hmodest : Modest (stored original) 1 8000) (hstorable : storable original 1 = true)
    (h : RunFits run) (hp : PlanFits P run prepared) (hreceipt : Jobs.isDigest receiptDigest = true) :
    Accepts P operation (postRequest schemaVersion original run prepared receiptDigest) ↔
      ∀ t ∈ prepared.before.tagUrns, t = PII_TAG := by
  have hvalid := validPost_iff hschema horiginal h hp hreceipt
  rw [Accepts, hoperation, Bool.and_eq_true, hvalid]
  constructor
  · rintro ⟨-, -, htags⟩
    exact htags
  · intro htags
    have hafter : prepared.expectedAfter.tagUrns = [PII_TAG] := by
      rw [hp.tagUrns]
      exact sortedSet_eq_singleton.mpr htags
    refine ⟨post_storable hstorable h hp hreceipt hafter, ?_, htags⟩
    exact bounded_stored (stored_post schemaVersion original run prepared receiptDigest)
      (post_modest hfits hmodest h hp hreceipt hafter) (by decide)

theorem readRequest_accepted_iff (h : RunFits run) (hp : PlanFits P run prepared)
    (hreceipt : Jobs.isDigest receiptDigest = true) :
    Accepts P "POST_READ_TAGS" (readRequest run prepared receiptDigest) ↔
      ∀ t ∈ prepared.before.tagUrns, t = PII_TAG := by
  have hoperation : ∀ request, Jobs.requestValid P (js "POST_READ_TAGS") request
      = (Jobs.boundedRequest request && Jobs.validPostRequest P false request) := by
    intro request
    simp [Jobs.requestValid]
  exact post_accepted_iff hoperation rfl (fits_lit (by decide)) (readTags_valid h)
    (readTags_modest h (by decide)) (readTags_storable h (by decide)) h hp hreceipt

/-- `originalRequest` of the analysis. -/
def companionRequest (run : Run) : Value :=
  object [("schemaVersion", lit "archon.datahub-companion-request/v2"), ("query", .str run.query),
    ("question", .str run.question), ("runtimeBinding", run.binding.value)]

theorem binding_modest (h : RunFits run) {depth : Nat} (hdepth : depth ≤ 11) :
    Modest (stored run.binding.value) depth 1600 := by
  have hmember : depth + 1 ≤ 12 := by omega
  have hstored : stored run.binding.value
      = .object [("schemaVersion", .str run.binding.schemaVersion),
        ("profileId", .str run.binding.profileId), ("generation", .str run.binding.generation),
        ("capabilityDigest", .str run.binding.capabilityDigest),
        ("resolution", .str run.binding.resolution), ("boundAt", .str run.binding.boundAt),
        ("leaseExpiresAt", .str run.binding.leaseExpiresAt)] := by
    simp [Binding.value]
  rw [hstored]
  refine (modest_object (.cons (modest_str h.schema_fits hmember)
    (.cons (modest_str h.profile_fits hmember) (.cons (modest_str h.generation_fits hmember)
    (.cons (modest_str (fits_isDigest h.capabilities) hmember)
    (.cons (modest_str h.resolution_fits hmember) (.cons (modest_str h.bound_fits hmember)
    (.cons (modest_str h.lease_fits hmember) .nil)))))))
    ?_ (by simp) (by omega)).mono (by decide)
  simp only [List.map_cons, List.map_nil]
  decide

theorem companion_modest (h : RunFits run) {depth : Nat} (hdepth : depth ≤ 10) :
    Modest (stored (companionRequest run)) depth 8000 := by
  have hmember : depth + 1 ≤ 12 := by omega
  have hschema : Fits (js "archon.datahub-companion-request/v2") 64 := fits_lit (by decide)
  have hbinding := binding_modest h (show depth + 1 ≤ 11 by omega)
  have hstored : stored (companionRequest run)
      = .object [("schemaVersion", .lit "archon.datahub-companion-request/v2"),
        ("query", .str run.query), ("question", .str run.question),
        ("runtimeBinding", stored run.binding.value)] := by
    simp [companionRequest]
  rw [hstored]
  refine (modest_object (.cons (modest_str hschema hmember) (.cons (modest_str h.query_fits hmember)
    (.cons (modest_str h.question_fits hmember) (.cons hbinding .nil))))
    ?_ (by simp) (by omega)).mono (by decide)
  simp only [List.map_cons, List.map_nil]
  decide

theorem companion_storable (h : RunFits run) {level : Nat} (hlevel : level ≤ 12) :
    storable (companionRequest run) level = true := by
  have hmember : level ≤ 14 ∧ level + 1 ≤ 14 ∧ level + 1 + 1 ≤ 14 := by omega
  simp [companionRequest, Binding.value, hmember, h.query_fits.encodable, h.question_fits.encodable,
    h.schema_fits.encodable, h.profile_fits.encodable, h.generation_fits.encodable,
    (fits_isDigest h.capabilities).encodable, h.resolution_fits.encodable, h.bound_fits.encodable,
    h.lease_fits.encodable]

theorem analysisRequest_accepted_iff (h : RunFits run) (hp : PlanFits P run prepared)
    (hreceipt : Jobs.isDigest receiptDigest = true) :
    Accepts P "POST_ANALYZE" (analysisRequest run prepared receiptDigest) ↔
      ∀ t ∈ prepared.before.tagUrns, t = PII_TAG := by
  have hoperation : ∀ request, Jobs.requestValid P (js "POST_ANALYZE") request
      = (Jobs.boundedRequest request && Jobs.validPostRequest P true request) := by
    intro request
    simp [Jobs.requestValid]
  have hstored : stored (companionRequest run) = .object _ := stored_object _
  have hbounded := bounded_stored hstored (companion_modest h (by decide)) (by decide)
  exact post_accepted_iff hoperation rfl (fits_lit (by decide)) hbounded
    (companion_modest h (by decide)) (companion_storable h (by decide)) h hp hreceipt

/-! ## 3. The mutation -/

/-- What is known of a mutation that is requested. -/
structure Requested (P : Platform) (run : Run) (prepared : Prepared) (signer : Signer)
    (decision : Decision) (request : Value) where
  times : Times
  approvalDigest : Text
  envelopeDigest : Text
  signatureBase64 : Text
  requestDigest : Text
  printable : printable (authorizationEnvelope run prepared signer decision times) 0 = true
  approval : Jobs.isDigest approvalDigest = true
  envelope : Jobs.isDigest envelopeDigest = true
  signature : isBase64 signatureBase64 = true
  issued : instant P times.issuedAt = true
  expires : instant P times.expiresAt = true
  digest_eq : digest P (object (mutationFields P run prepared decision approvalDigest
    (authorizationOf (authorizationEnvelope run prepared signer decision times) signer envelopeDigest
      signatureBase64))) = some requestDigest
  request_eq : request = object (mutationFields P run prepared decision approvalDigest
    (authorizationOf (authorizationEnvelope run prepared signer decision times) signer envelopeDigest
      signatureBase64) ++ [("requestDigest", .str requestDigest)])

theorem mutationRequest_requested {signer : Signer} {decision : Decision} {issuedAt : Int}
    {signatureBase64 : Text} {request : Value}
    (h : mutationRequest P run prepared signer decision issuedAt signatureBase64 = some request) :
    Nonempty (Requested P run prepared signer decision request) := by
  simp only [mutationRequest, Option.bind_eq_bind, Option.bind_eq_some_iff] at h
  obtain ⟨times, -, approvalDigest, happroval, authorization, hauthorization, requestDigest, hdigest,
    h⟩ := h
  simp only [createMutationAuthorization, Option.bind_eq_bind, Option.bind_eq_some_iff] at hauthorization
  obtain ⟨t, ht, hauthorization⟩ := hauthorization
  obtain rfl := Option.some.inj hauthorization
  unfold canonicalMutationEnvelope at ht
  split at ht
  · rename_i hprintable
    split at h
    · rename_i hverified
      simp only [verifyMutationRequestAuthorization, Bool.and_eq_true] at hverified
      obtain ⟨⟨⟨hissued, hexpires⟩, hsignature⟩, -⟩ := hverified
      exact ⟨{
        times, approvalDigest, signatureBase64, requestDigest
        envelopeDigest := js "sha256:" ++ P.sha256 t
        printable := hprintable
        approval := isDigest_digest happroval
        envelope := isDigest_sha256 P t
        signature := hsignature
        issued := hissued
        expires := hexpires
        digest_eq := hdigest
        request_eq := (Option.some.inj h).symm }⟩
    · cases h
  · cases ht

/-- What is known of an approval. -/
structure DecisionFits (P : Platform) (decision : Decision) : Prop where
  owner : Jobs.isDigest decision.ownerDigest = true
  job : Jobs.isJobId decision.mutationJobId = true
  decided : instant P (decision.decidedText P) = true

theorem decision_fits {decision : Decision} (h : verifyApprovalEnvelope P decision = true) :
    DecisionFits P decision := by
  simp only [verifyApprovalEnvelope, Bool.and_eq_true] at h
  exact ⟨h.1.1, h.1.2, h.2⟩

section Mutation

variable {signer : Signer} {decision : Decision} {request : Value}

/-- The texts of the envelope. -/
structure EnvelopeFits (signer : Signer) (decision : Decision) (prepared : Prepared) (times : Times) :
    Prop where
  stage : Fits signer.stage 32
  job : Fits decision.mutationJobId 26
  approvalId : Fits prepared.approvalId 33
  issued : Fits times.issuedAt 64
  expires : Fits times.expiresAt 64

theorem envelope_fits (hp : PlanFits P run prepared) (hd : DecisionFits P decision)
    (r : Requested P run prepared signer decision request) :
    EnvelopeFits signer decision prepared r.times := by
  have hfields := printable_object r.printable
  have hstage : isAscii signer.stage = true :=
    printable_str (hfields ("stage", .str signer.stage) (by simp))
  have hjob : isAscii decision.mutationJobId = true :=
    printable_str (hfields ("jobId", .str decision.mutationJobId) (by simp))
  have hstageLength : signer.stage.length ≤ 32 := by
    have hform := signer.stage_form
    cases hs : signer.stage with
    | nil => simp
    | cons u t =>
      rw [hs] at hform
      simp only [isStage, Bool.and_eq_true, decide_eq_true_eq] at hform
      rw [List.length_cons]
      omega
  have hjobLength : decision.mutationJobId.length ≤ 26 := by
    have hform := hd.job
    simp only [Jobs.isJobId, Bool.and_eq_true, decide_eq_true_eq] at hform
    omega
  obtain ⟨-, happroval, hlength⟩ := approvalId_form hp.plan
  rw [← hp.approvalId] at happroval hlength
  exact ⟨fits_ascii hstage hstageLength, fits_ascii hjob hjobLength,
    fits_ascii happroval (le_of_eq hlength), fits_instant r.issued, fits_instant r.expires⟩

theorem arguments_modest (h : RunFits run) {a b c : String}
    (hnames : [a, b, c].all isName = true) {depth : Nat} (hdepth : depth ≤ 10) :
    Modest (.object [(a, .list [.str PII_TAG]), (b, .list [.str run.datasetUrn]),
      (c, .list [.str run.governedColumnPath])]) depth 5000 := by
  have hlist : depth + 1 ≤ 12 := by omega
  have hitem : depth + 1 + 1 ≤ 12 := by omega
  have htag : Fits PII_TAG 64 := fits_lit (by decide)
  have hmembers := @modest_object [(a, _), (b, _), (c, _)] _ depth
    (.cons (modest_singleton (modest_str htag hitem) hlist)
    (.cons (modest_singleton (modest_str h.dataset_fits hitem) hlist)
    (.cons (modest_singleton (modest_str h.column_fits hitem) hlist) .nil)))
    hnames (by simp) (by omega)
  exact hmembers.mono (by decide)

theorem envelope_modest (h : RunFits run) (hp : PlanFits P run prepared)
    (r : Requested P run prepared signer decision request)
    (he : EnvelopeFits signer decision prepared r.times) :
    Modest (stored (authorizationEnvelope run prepared signer decision r.times)) 2 13000 := by
  have hschema : Fits (js "archon.core-mutation-authorization/v1") 64 := fits_lit (by decide)
  have htool : Fits (js "add_tags") 64 := fits_lit (by decide)
  have htarget : Modest (.object [("entityUrn", .str run.datasetUrn),
      ("columnPath", .str run.governedColumnPath)]) 3 5000 := by
    refine (modest_object (.cons (modest_str h.dataset_fits (by decide))
      (.cons (modest_str h.column_fits (by decide)) .nil)) ?_ (by simp) (by decide)).mono (by decide)
    simp only [List.map_cons, List.map_nil]
    decide
  have harguments := arguments_modest h
    (show ["tag_urns", "entity_urns", "column_paths"].all isName = true by decide)
    (show 3 ≤ 10 by decide)
  have hstored : stored (authorizationEnvelope run prepared signer decision r.times)
      = .object [("schemaVersion", .lit "archon.core-mutation-authorization/v1"),
        ("stage", .str signer.stage), ("sessionId", .str run.runtimeSessionId),
        ("generation", .str run.binding.generation),
        ("capabilityDigest", .str run.binding.capabilityDigest),
        ("jobId", .str decision.mutationJobId), ("approvalId", .str prepared.approvalId),
        ("planDigest", .str prepared.planDigest), ("policyDigest", .str prepared.policyDigest),
        ("target", .object [("entityUrn", .str run.datasetUrn),
          ("columnPath", .str run.governedColumnPath)]),
        ("tool", .lit "add_tags"),
        ("arguments", .object [("tag_urns", .list [.str PII_TAG]),
          ("entity_urns", .list [.str run.datasetUrn]),
          ("column_paths", .list [.str run.governedColumnPath])]),
        ("issuedAt", .str r.times.issuedAt), ("expiresAt", .str r.times.expiresAt)] := by
    simp [authorizationEnvelope]
  rw [hstored]
  refine (modest_object (.cons (modest_str hschema (by decide))
    (.cons (modest_str he.stage (by decide)) (.cons (modest_str h.session_fits (by decide))
    (.cons (modest_str h.generation_fits (by decide))
    (.cons (modest_str (fits_isDigest h.capabilities) (by decide))
    (.cons (modest_str he.job (by decide)) (.cons (modest_str he.approvalId (by decide))
    (.cons (modest_str (fits_isDigest hp.plan) (by decide))
    (.cons (modest_str (fits_isDigest hp.policy) (by decide)) (.cons htarget
    (.cons (modest_str htool (by decide)) (.cons harguments
    (.cons (modest_str he.issued (by decide))
    (.cons (modest_str he.expires (by decide)) .nil))))))))))))))
    ?_ (by simp) (by decide)).mono (by decide)
  simp only [List.map_cons, List.map_nil]
  decide

theorem authorization_modest (h : RunFits run) (hp : PlanFits P run prepared)
    (r : Requested P run prepared signer decision request)
    (he : EnvelopeFits signer decision prepared r.times) :
    Modest (stored (authorizationOf (authorizationEnvelope run prepared signer decision r.times)
      signer r.envelopeDigest r.signatureBase64)) 1 20000 := by
  have halgorithm : Fits (js "ECDSA_SHA_256") 64 := fits_lit (by decide)
  have hcanonical : Fits (js "archon.sorted-json-utf8/v1") 64 := fits_lit (by decide)
  have hkey : Fits signer.keyArn 2048 := fits_ascii signer.keyArn_ascii signer.keyArn_length
  have hsignature : Modest (.object [("keyArn", .str signer.keyArn),
      ("algorithm", .lit "ECDSA_SHA_256"), ("canonicalization", .lit "archon.sorted-json-utf8/v1"),
      ("envelopeDigest", .str r.envelopeDigest),
      ("signatureBase64", .str r.signatureBase64)]) 2 6000 := by
    refine (modest_object (.cons (modest_str hkey (by decide))
      (.cons (modest_str halgorithm (by decide)) (.cons (modest_str hcanonical (by decide))
      (.cons (modest_str (fits_isDigest r.envelope) (by decide))
      (.cons (modest_str (fits_isBase64 r.signature) (by decide)) .nil)))))
      ?_ (by simp) (by decide)).mono (by decide)
    simp only [List.map_cons, List.map_nil]
    decide
  have hstored : stored (authorizationOf
      (authorizationEnvelope run prepared signer decision r.times) signer r.envelopeDigest
      r.signatureBase64)
      = .object [("envelope", stored (authorizationEnvelope run prepared signer decision r.times)),
        ("signature", .object [("keyArn", .str signer.keyArn), ("algorithm", .lit "ECDSA_SHA_256"),
          ("canonicalization", .lit "archon.sorted-json-utf8/v1"),
          ("envelopeDigest", .str r.envelopeDigest),
          ("signatureBase64", .str r.signatureBase64)])] := by
    simp [authorizationOf]
  rw [hstored]
  refine (modest_object (.cons (envelope_modest h hp r he) (.cons hsignature .nil))
    ?_ (by simp) (by decide)).mono (by decide)
  simp only [List.map_cons, List.map_nil]
  decide

/-- The request, as the table returns it. -/
theorem stored_mutation (r : Requested P run prepared signer decision request) : stored request
    = .object [("schemaVersion", .lit "archon.core-governed-tag-mutation/v1"),
      ("auditId", .str run.auditId), ("runtimeEvidenceDigest", .str run.evidenceDigest),
      ("auditEvidenceDigest", .str prepared.auditEvidenceDigest),
      ("planDigest", .str prepared.planDigest), ("policyDigest", .str prepared.policyDigest),
      ("approval", .object [("approvalId", .str prepared.approvalId), ("decision", .lit "APPROVE"),
        ("approverDigest", .str decision.ownerDigest),
        ("decidedAt", .str (decision.decidedText P)), ("digest", .str r.approvalDigest)]),
      ("action", .lit "ADD_TAGS"),
      ("arguments", .object [("tagUrns", .list [.str PII_TAG]),
        ("entityUrns", .list [.str run.datasetUrn]),
        ("columnPaths", .list [.str run.governedColumnPath])]),
      ("expectedBeforeDigest", .str prepared.before.stateDigest),
      ("expectedAfterDigest", .str prepared.expectedAfter.stateDigest),
      ("authorization", stored (authorizationOf
        (authorizationEnvelope run prepared signer decision r.times) signer r.envelopeDigest
        r.signatureBase64)),
      ("requestDigest", .str r.requestDigest)] := by
  refine (congrArg stored r.request_eq).trans ?_
  simp [mutationFields, approvalFields, planArguments]

theorem mutation_modest (h : RunFits run) (hp : PlanFits P run prepared)
    (hd : DecisionFits P decision) (r : Requested P run prepared signer decision request) :
    Modest (stored request) 0 32768 := by
  have he := envelope_fits hp hd r
  have hschema : Fits (js "archon.core-governed-tag-mutation/v1") 64 := fits_lit (by decide)
  have haction : Fits (js "ADD_TAGS") 64 := fits_lit (by decide)
  have hdecision : Fits (js "APPROVE") 64 := fits_lit (by decide)
  have hafter := isDigest_digest hp.after_digest
  have hrequest := isDigest_digest r.digest_eq
  have happroval : Modest (.object [("approvalId", .str prepared.approvalId),
      ("decision", .lit "APPROVE"), ("approverDigest", .str decision.ownerDigest),
      ("decidedAt", .str (decision.decidedText P)), ("digest", .str r.approvalDigest)]) 1 1000 := by
    refine (modest_object (.cons (modest_str he.approvalId (by decide))
      (.cons (modest_str hdecision (by decide)) (.cons (modest_str (fits_isDigest hd.owner) (by decide))
      (.cons (modest_str (fits_instant hd.decided) (by decide))
      (.cons (modest_str (fits_isDigest r.approval) (by decide)) .nil)))))
      ?_ (by simp) (by decide)).mono (by decide)
    simp only [List.map_cons, List.map_nil]
    decide
  have harguments := arguments_modest h
    (show ["tagUrns", "entityUrns", "columnPaths"].all isName = true by decide)
    (show 1 ≤ 10 by decide)
  rw [stored_mutation r]
  refine (modest_object (.cons (modest_str hschema (by decide))
    (.cons (modest_str (fits_isAudit h.audit) (by decide))
    (.cons (modest_str (fits_isDigest h.evidence) (by decide))
    (.cons (modest_str (fits_isDigest hp.evidence) (by decide))
    (.cons (modest_str (fits_isDigest hp.plan) (by decide))
    (.cons (modest_str (fits_isDigest hp.policy) (by decide)) (.cons happroval
    (.cons (modest_str haction (by decide)) (.cons harguments
    (.cons (modest_str (fits_isDigest hp.before_digest) (by decide))
    (.cons (modest_str (fits_isDigest hafter) (by decide))
    (.cons (authorization_modest h hp r he)
    (.cons (modest_str (fits_isDigest hrequest) (by decide)) .nil)))))))))))))
    ?_ (by simp) (by decide)).mono (by decide)
  simp only [List.map_cons, List.map_nil]
  decide

/-- The format of `toISOString`: twenty-four characters, or a year of six digits after a sign. -/
def WritesInstants (P : Platform) : Prop :=
  ∀ ms, Jobs.isIso (P.toISOString ms) = true ∨ (P.toISOString ms).head? = some 0x2B
    ∨ (P.toISOString ms).head? = some 0x2D

theorem writesInstants_node : WritesInstants Platform.node := fun ms => Or.inl (isIso_isoText ms)

/-- A sign is refused before the approval is stored. -/
theorem isIso_decidedText (hP : WritesInstants P) (hd : DecisionFits P decision) :
    Jobs.isIso (decision.decidedText P) = true := by
  obtain ⟨u, rest, ht, hu⟩ := head_of_instant hd.decided
  rcases hP decision.decidedAt with hiso | hsign | hsign
  · exact hiso
  · rw [← Decision.decidedText, ht] at hsign
    obtain rfl := Option.some.inj hsign
    exact absurd hu (by decide)
  · rw [← Decision.decidedText, ht] at hsign
    obtain rfl := Option.some.inj hsign
    exact absurd hu (by decide)

theorem planArguments_plain (h : RunFits run) : Plain (planArguments run) := by
  have htag : Jobs.encodable PII_TAG = true := Jobs.encodable_js _
  refine plain_object (by simp only [List.map_cons, List.map_nil]; decide) ?_
  simp [htag, h.dataset_fits.encodable, h.column_fits.encodable]

theorem envelope_plain (h : RunFits run) (hp : PlanFits P run prepared)
    (r : Requested P run prepared signer decision request)
    (he : EnvelopeFits signer decision prepared r.times) :
    Plain (authorizationEnvelope run prepared signer decision r.times) := by
  have htag : Jobs.encodable PII_TAG = true := Jobs.encodable_js _
  have htarget : Plain (object [("entityUrn", .str run.datasetUrn),
      ("columnPath", .str run.governedColumnPath)]) := by
    refine plain_object (by simp only [List.map_cons, List.map_nil]; decide) ?_
    simp [h.dataset_fits.encodable, h.column_fits.encodable]
  have harguments : Plain (object [("tag_urns", texts [PII_TAG]),
      ("entity_urns", texts [run.datasetUrn]),
      ("column_paths", texts [run.governedColumnPath])]) := by
    refine plain_object (by simp only [List.map_cons, List.map_nil]; decide) ?_
    simp [htag, h.dataset_fits.encodable, h.column_fits.encodable]
  refine plain_object (by simp only [List.map_cons, List.map_nil]; decide) ?_
  simp [htarget, harguments, he.stage.encodable, he.job.encodable, he.approvalId.encodable,
    he.issued.encodable, he.expires.encodable, h.session_fits.encodable,
    h.generation_fits.encodable, (fits_isDigest h.capabilities).encodable,
    (fits_isDigest hp.plan).encodable, (fits_isDigest hp.policy).encodable]

theorem authorization_plain (h : RunFits run) (hp : PlanFits P run prepared)
    (r : Requested P run prepared signer decision request)
    (he : EnvelopeFits signer decision prepared r.times) :
    Plain (authorizationOf (authorizationEnvelope run prepared signer decision r.times) signer
      r.envelopeDigest r.signatureBase64) := by
  have hsignature : Plain (object [("keyArn", .str signer.keyArn),
      ("algorithm", lit "ECDSA_SHA_256"), ("canonicalization", lit "archon.sorted-json-utf8/v1"),
      ("envelopeDigest", .str r.envelopeDigest), ("signatureBase64", .str r.signatureBase64)]) := by
    refine plain_object (by simp only [List.map_cons, List.map_nil]; decide) ?_
    simp [(fits_ascii signer.keyArn_ascii signer.keyArn_length).encodable,
      (fits_isDigest r.envelope).encodable, (fits_isBase64 r.signature).encodable]
  refine plain_object (by simp only [List.map_cons, List.map_nil]; decide) ?_
  simp [hsignature, envelope_plain h hp r he]

/-- What the digest of the request is made of. -/
theorem mutationFields_plain (h : RunFits run) (hp : PlanFits P run prepared)
    (hd : DecisionFits P decision) (r : Requested P run prepared signer decision request) :
    Plain (object (mutationFields P run prepared decision r.approvalDigest
      (authorizationOf (authorizationEnvelope run prepared signer decision r.times) signer
        r.envelopeDigest r.signatureBase64))) := by
  have he := envelope_fits hp hd r
  have happroval : Plain (object (approvalFields P prepared decision
      ++ [("digest", .str r.approvalDigest)])) := by
    refine plain_object
      (by simp only [approvalFields, List.cons_append, List.nil_append, List.map_cons, List.map_nil]
          decide) ?_
    simp [approvalFields, he.approvalId.encodable, (fits_isDigest hd.owner).encodable,
      (fits_instant hd.decided).encodable, (fits_isDigest r.approval).encodable]
  refine plain_object (by simp only [mutationFields, List.map_cons, List.map_nil]; decide) ?_
  simp [mutationFields, happroval, planArguments_plain h, authorization_plain h hp r he,
    (fits_isAudit h.audit).encodable, (fits_isDigest h.evidence).encodable,
    (fits_isDigest hp.evidence).encodable, (fits_isDigest hp.plan).encodable,
    (fits_isDigest hp.policy).encodable, (fits_isDigest hp.before_digest).encodable,
    (fits_isDigest (isDigest_digest hp.after_digest)).encodable]

theorem mutation_storable (h : RunFits run) (hp : PlanFits P run prepared)
    (hd : DecisionFits P decision) (r : Requested P run prepared signer decision request) :
    storable request 0 = true := by
  have he := envelope_fits hp hd r
  have htag : Jobs.encodable PII_TAG = true := Jobs.encodable_js _
  refine (congrArg (storable · 0) r.request_eq).trans ?_
  simp [mutationFields, approvalFields, planArguments, authorizationOf, authorizationEnvelope, htag,
    h.dataset_fits.encodable, h.column_fits.encodable, he.stage.encodable, he.job.encodable,
    he.approvalId.encodable, he.issued.encodable, he.expires.encodable, h.session_fits.encodable,
    h.generation_fits.encodable, (fits_isDigest h.capabilities).encodable,
    (fits_isDigest hp.plan).encodable, (fits_isDigest hp.policy).encodable,
    (fits_ascii signer.keyArn_ascii signer.keyArn_length).encodable,
    (fits_isDigest r.envelope).encodable, (fits_isBase64 r.signature).encodable,
    (fits_isDigest hd.owner).encodable, (fits_instant hd.decided).encodable,
    (fits_isDigest r.approval).encodable, (fits_isAudit h.audit).encodable,
    (fits_isDigest h.evidence).encodable, (fits_isDigest hp.evidence).encodable,
    (fits_isDigest hp.before_digest).encodable,
    (fits_isDigest (isDigest_digest hp.after_digest)).encodable,
    (fits_isDigest (isDigest_digest r.digest_eq)).encodable]

theorem mutation_valid (hP : WritesInstants P) (h : RunFits run) (hp : PlanFits P run prepared)
    (hd : DecisionFits P decision) (r : Requested P run prepared signer decision request) :
    Jobs.validGovernedRequest P (stored request) = true := by
  have hafter := isDigest_digest hp.after_digest
  have hrequest := isDigest_digest r.digest_eq
  have hdecided := isIso_decidedText hP hd
  have happrovalId : Jobs.isApprovalId prepared.approvalId = true :=
    hp.approvalId ▸ (approvalId_form hp.plan).1
  have hwithout : (stored request).without "requestDigest" = stored (object (mutationFields P run
      prepared decision r.approvalDigest (authorizationOf
        (authorizationEnvelope run prepared signer decision r.times) signer r.envelopeDigest
        r.signatureBase64))) := by
    refine (congrArg (fun v => (stored v).without "requestDigest") r.request_eq).trans ?_
    simp [mutationFields]
  have hdigest : Jobs.digest P ((stored request).without "requestDigest")
      = some r.requestDigest := by
    rw [hwithout, digest_stored P (mutationFields_plain h hp hd r)]
    exact r.digest_eq
  have hauthorization : (stored (authorizationOf
      (authorizationEnvelope run prepared signer decision r.times) signer r.envelopeDigest
      r.signatureBase64)).exact ["envelope", "signature"] = true := by
    simp [authorizationOf]
  have htag : PII_TAG = Jobs.PII_TAG := rfl
  unfold Jobs.validGovernedRequest
  rw [hdigest, stored_mutation r]
  simp [htag, Jobs.GOVERNED_KEYS, Jobs.governedDigests, List.lookup, Jobs.Py.lit, Jobs.isSingleton,
    Jobs.Py.isTexts_iff, hauthorization, hafter, hrequest, hdecided, happrovalId, h.audit, h.evidence,
    h.dataset, h.column, hp.evidence, hp.plan, hp.policy, hp.before_digest, hd.owner, r.approval]

/-- **The mutation is taken**, whatever tags the column carries. -/
theorem mutation_accepted (hP : WritesInstants P) (h : RunFits run) (hp : PlanFits P run prepared)
    (hd : DecisionFits P decision) (r : Requested P run prepared signer decision request) :
    Accepts P "GOVERNED_TAG_MUTATION" request := by
  have hbounded := bounded_stored (stored_mutation r) (mutation_modest h hp hd r) (le_refl _)
  refine ⟨mutation_storable h hp hd r, ?_⟩
  have hoperation : ∀ v, Jobs.requestValid P (js "GOVERNED_TAG_MUTATION") v
      = (Jobs.boundedRequest v && Jobs.validGovernedRequest P v) := by
    intro v
    simp [Jobs.requestValid, Jobs.MUTATION_OPERATION]
  rw [hoperation, hbounded, mutation_valid hP h hp hd r]
  rfl

end Mutation

end Requests

end Control
