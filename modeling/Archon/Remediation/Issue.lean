/-
# Artifacts that are accepted

A family of dossiers, plans, requests and decisions, signed as the planner and the approval
service sign them, and the proof that `approvalArtifactsValid` accepts every member of it
(`Issue.accepted`).  The family is wider than what the planner issues: the arrays of the action
may go on after their first element, with anything, and the plan may be about another field than
the dossier.  That the verifiers accept those too is what the results on the writes turn on.
-/
import Archon.Remediation.Approval

namespace Remediation

open Ecma Ecma.Value

/-! ## 1. Signing -/

/-- `{ ...unsigned, digest: digest(unsigned) }`. -/
def signed (P : Platform) (fields : List (String × Value)) : Value :=
  object (fields ++ [("digest", .str (digestOf P (object fields)))])

/-- `{ ...unsigned, id, digest: digest(unsigned) }`, the id being cut from the digest. -/
def identified (P : Platform) (kind key : String) (fields : List (String × Value)) : Value :=
  object (fields ++ [(key, .str (shortId kind (digestOf P (object fields)))),
    ("digest", .str (digestOf P (object fields)))])

section Signing

variable {P : Platform} {kind key : String} {fields : List (String × Value)}

theorem filter_keys_eq_self {keys : List String} (h : ∀ k ∈ keys, k ∉ fields.map Prod.fst) :
    (fields.filter fun f => !keys.contains f.1) = fields := by
  refine List.filter_eq_self.mpr fun f hf => ?_
  have : f.1 ∉ keys := fun hk => h _ hk (List.mem_map_of_mem hf)
  simpa using this

theorem rest_signed (h : "digest" ∉ fields.map Prod.fst) :
    (signed P fields).rest ["digest"] = object fields := by
  rw [signed, rest_object, List.filter_append, filter_keys_eq_self fun k hk => by
    rwa [List.mem_singleton.mp hk]]
  simp

theorem rest_identified (hk : key ∉ fields.map Prod.fst) (h : "digest" ∉ fields.map Prod.fst) :
    (identified P kind key fields).rest [key, "digest"] = object fields := by
  rw [identified, rest_object, List.filter_append, filter_keys_eq_self fun k hm => by
    rcases List.mem_pair.mp hm with rfl | rfl
    · exact hk
    · exact h]
  simp

end Signing

/-! ## 2. Projections -/

section Family

variable (P : Platform)

/-- The members of a projection without its digest. -/
def projectionFields (entityUrn columnPath : Text) (tags : List Text) : List (String × Value) :=
  [("entityUrn", .str entityUrn), ("columnPath", .str columnPath), ("tags", .arr (tags.map .str))]

/-- A signed projection of a field whose tags stand in their order. -/
def projection (entityUrn columnPath : Text) (tags : List Text) (he : nonBlank entityUrn = true)
    (hc : nonBlank columnPath = true) (ht : ∀ t ∈ tags, nonBlank t = true)
    (hs : uniqueSorted P (.arr (tags.map .str)) = .ok (.arr (tags.map .str))) : TagProjection P where
  value := signed P (projectionFields entityUrn columnPath tags)
  entityUrn := entityUrn
  columnPath := columnPath
  tags := tags
  entityUrn_eq := by simp [getPath, signed, projectionFields, List.lookup]
  entityUrn_nonBlank := he
  columnPath_eq := by simp [getPath, signed, projectionFields, List.lookup]
  columnPath_nonBlank := hc
  tags_eq := by simp [getPath, signed, projectionFields, List.lookup]
  tags_nonBlank := ht
  tags_sorted := hs
  unsigned := by
    rw [rest_signed (by simp [projectionFields])]
    simp [projectionFields]
  digest_eq := by
    rw [rest_signed (by simp [projectionFields])]
    simp [getPath, signed, projectionFields, List.lookup]

end Family

/-! ## 3. The four artifacts -/

/-- What a member of the family is made of. -/
structure Issue (P : Platform) where
  /-- The state in the dossier, whose field is the dossier's target. -/
  found : TagProjection P
  /-- The states in the plan. -/
  before : TagProjection P
  after : TagProjection P
  tag : Text
  /-- What the arrays of the action hold after their first elements. -/
  moreTags : List Text
  moreEntities : List Text
  moreColumns : List Text
  decision : Text
  requestedAt : Text
  decidedAt : Text
  expiresAt : Text
  requested : Int
  decided : Int
  expires : Int
  found_canonical : Canonicalizable found.value
  before_canonical : Canonicalizable before.value
  after_canonical : Canonicalizable after.value
  after_entityUrn : after.entityUrn = before.entityUrn
  after_columnPath : after.columnPath = before.columnPath
  after_tags : uniqueSorted P (.arr (before.tags.map .str ++ [.str tag]))
    = .ok (.arr (after.tags.map .str))
  requested_eq : P.dateParse requestedAt = some requested
  decided_eq : P.dateParse decidedAt = some decided
  expires_eq : P.dateParse expiresAt = some expires
  requested_le : requested ≤ decided
  decided_le : decided ≤ expires
  requested_lt : requested < expires

namespace Issue

variable {P : Platform} (i : Issue P)

/-- The finding. -/
def finding : Value :=
  object [("type", lit "governance_violation"), ("severity", lit "high"),
    ("subject", .str i.found.entityUrn), ("ruleId", lit "G6"),
    ("unclassifiedFields", .arr [.str i.found.columnPath])]

/-- The dossier without its id and digest. -/
def dossierFields : List (String × Value) :=
  [("schemaVersion", lit "archon.evidence-dossier/v1"), ("scanId", lit "scan-1"),
    ("findingDigest", .str (digestOf P i.finding)), ("finding", i.finding),
    ("target", object [("entityUrn", .str i.found.entityUrn), ("columnPath", .str i.found.columnPath)]),
    ("provenance", .arr []),
    ("blastRadius", object [("downstreamUrns", .arr []), ("maxHops", .num (.ofNat 3)),
      ("truncated", .bool false)]),
    ("before", i.found.value), ("policyDigest", .str (digestOf P (lit "policy"))),
    ("createdAt", .str i.requestedAt)]

/-- The dossier. -/
def dossier : Value := identified P "dossier-" "dossierId" i.dossierFields

/-- The arrays of the action. -/
def arguments : Value :=
  object [("tag_urns", .arr (.str i.tag :: i.moreTags.map .str)),
    ("entity_urns", .arr (.str i.before.entityUrn :: i.moreEntities.map .str)),
    ("column_paths", .arr (.str i.before.columnPath :: i.moreColumns.map .str))]

/-- The action without its digest. -/
def actionFields : List (String × Value) :=
  [("actionId", lit "datahub.add-classification-tag.v1"), ("tool", lit "add_tags"),
    ("arguments", i.arguments),
    ("inverse", object [("tool", lit "remove_tags"), ("arguments", i.arguments)])]

/-- The plan without its id and digest. -/
def planFields : List (String × Value) :=
  [("schemaVersion", lit "archon.remediation-plan/v1"),
    ("dossierDigest", .str (digestOf P (object i.dossierFields))),
    ("policyDigest", .str (digestOf P (lit "policy"))),
    ("actionCatalogDigest", .str (ACTION_CATALOG_DIGEST P)), ("action", signed P i.actionFields),
    ("expectedBefore", i.before.value), ("expectedAfter", i.after.value), ("risk", lit "low"),
    ("requiresHumanApproval", .bool true)]

/-- The plan. -/
def plan : Value := identified P "plan-" "planId" i.planFields

/-- The request without its id and digest. -/
def requestFields : List (String × Value) :=
  [("schemaVersion", lit "archon.approval-request/v1"),
    ("dossierDigest", .str (digestOf P (object i.dossierFields))),
    ("planDigest", .str (digestOf P (object i.planFields))),
    ("actionCatalogDigest", .str (ACTION_CATALOG_DIGEST P)),
    ("expectedBeforeDigest", .str i.before.digest), ("requestedAt", .str i.requestedAt),
    ("expiresAt", .str i.expiresAt), ("nonce", lit "nonce-0123456789")]

/-- The request. -/
def request : Value := identified P "approval-" "approvalId" i.requestFields

/-- The approver. -/
def approver : Value :=
  object [("subject", lit "steward"), ("issuer", lit "https://issuer.example"),
    ("roles", .arr [lit "DataSteward"]), ("authenticated", .bool true)]

/-- The decision without its digest. -/
def decisionFields : List (String × Value) :=
  [("schemaVersion", lit "archon.approval-decision/v1"),
    ("approvalId", .str (shortId "approval-" (digestOf P (object i.requestFields)))),
    ("requestDigest", .str (digestOf P (object i.requestFields))),
    ("planDigest", .str (digestOf P (object i.planFields))), ("decision", .str i.decision),
    ("approver", approver), ("decidedAt", .str i.decidedAt)]

/-- The decision. -/
def decisionArtifact : Value := signed P i.decisionFields

/-- The four. -/
def artifacts : Artifacts := ⟨i.dossier, i.plan, i.request, i.decisionArtifact⟩

/-! ## 4. Acceptance -/

theorem finding_canonical : Canonicalizable i.finding := by
  simp [finding]

theorem dossier_canonical : Canonicalizable (object i.dossierFields) := by
  simp [dossierFields, i.finding_canonical, i.found_canonical,
    canonicalizable_ofNat (by decide : 3 < 2 ^ 53)]

theorem action_canonical : Canonicalizable (object i.actionFields) := by
  simp [actionFields, arguments]

theorem signed_canonical {fields : List (String × Value)} (h : Canonicalizable (object fields)) :
    Canonicalizable (signed P fields) := by
  simpa [signed, or_imp, forall_and] using h

theorem plan_canonical : Canonicalizable (object i.planFields) := by
  simp [planFields, i.before_canonical, i.after_canonical, signed_canonical i.action_canonical]

theorem request_canonical : Canonicalizable (object i.requestFields) := by
  simp [requestFields]

theorem decision_canonical : Canonicalizable (object i.decisionFields) := by
  simp [decisionFields, approver]

theorem dossier_accepted : verifyEvidenceDossier P i.dossier = .ok true := by
  have hpayload : dossierPayload i.dossier = .ok (object i.dossierFields) := by
    rw [dossierPayload, without_eq_ok]
    exact ⟨rfl, rest_identified (by simp [dossierFields]) (by simp [dossierFields])⟩
  simp only [verifyEvidenceDossier, hpayload, ok_bind, digest_ok i.dossier_canonical]
  simp [path, dossier, identified, dossierFields, List.lookup, eqText, eqValue, lit, finding, digest_ok,
    includes]

theorem plan_accepted : verifyRemediationPlan P i.plan = .ok true := by
  have hpayload : planPayload i.plan = .ok (object i.planFields) := by
    rw [planPayload, without_eq_ok]
    exact ⟨rfl, rest_identified (by simp [planFields]) (by simp [planFields])⟩
  have haction : actionPayload (signed P i.actionFields) = .ok (object i.actionFields) := by
    rw [actionPayload, withoutDigest, without_eq_ok]
    exact ⟨rfl, rest_signed (by simp [actionFields])⟩
  have hdigest : verifyDigest P (object i.actionFields)
      (.str (digestOf P (object i.actionFields))) = .ok true :=
    verifyDigest_eq_true.mpr ⟨i.action_canonical, rfl⟩
  have hprop : ((signed P i.actionFields).prop "digest" : Run Value)
      = .ok (.str (digestOf P (object i.actionFields))) := by
    simp [signed, actionFields, List.lookup]
  simp only [verifyRemediationPlan, hpayload, ok_bind, digest_ok i.plan_canonical]
  simp [path, plan, identified, planFields, List.lookup, eqText, eqValue, lit, haction, hprop, hdigest]
  simp [signed, actionFields, List.lookup, arguments, i.after_tags, lit, i.after_entityUrn, i.after_columnPath]

theorem request_accepted : verifyApprovalRequest P i.request = .ok true := by
  have hpayload : approvalRequestPayload i.request = .ok (object i.requestFields) := by
    rw [approvalRequestPayload, without_eq_ok]
    exact ⟨rfl, rest_identified (by simp [requestFields]) (by simp [requestFields])⟩
  have hlength : ((lit "nonce-0123456789").prop "length" >>= fun v : Value => v.atLeast 8)
      = (.ok true : Run Bool) := by decide +kernel
  have hlater : laterThan (P.dateParse i.expiresAt) (P.dateParse i.requestedAt) = true := by
    rw [i.expires_eq, i.requested_eq]
    exact decide_eq_true i.requested_lt
  rw [i.requested_eq] at hlater
  simp only [verifyApprovalRequest, hpayload, ok_bind, digest_ok i.request_canonical]
  simp [path, request, identified, requestFields, List.lookup, eqText, hlength, hlater,
    i.requested_eq]

theorem decision_accepted : verifyApprovalDecision P i.decisionArtifact = .ok true := by
  have hpayload : approvalDecisionPayload i.decisionArtifact = .ok (object i.decisionFields) := by
    rw [approvalDecisionPayload, withoutDigest, without_eq_ok]
    exact ⟨rfl, rest_signed (by simp [decisionFields])⟩
  have hdigest : verifyDigest P (object i.decisionFields)
      (.str (digestOf P (object i.decisionFields))) = .ok true :=
    verifyDigest_eq_true.mpr ⟨i.decision_canonical, rfl⟩
  have hroles : uniqueSorted P (.arr [lit "DataSteward"]) = .ok (.arr [lit "DataSteward"]) := rfl
  have hsubject : ((lit "steward").prop "length" >>= fun v : Value => v.exceeds 0)
      = (.ok true : Run Bool) := by decide +kernel
  have hissuer : ((lit "https://issuer.example").prop "length" >>= fun v : Value => v.exceeds 0)
      = (.ok true : Run Bool) := by decide +kernel
  have happrover : (i.decisionArtifact.prop "approver" : Run Value) = .ok approver := by
    simp [decisionArtifact, signed, decisionFields, List.lookup]
  have hdecidedAt : (i.decisionArtifact.prop "decidedAt" : Run Value) = .ok (.str i.decidedAt) := by
    simp [decisionArtifact, signed, decisionFields, List.lookup]
  have hdigest' : (i.decisionArtifact.prop "digest" : Run Value)
      = .ok (.str (digestOf P (object i.decisionFields))) := by
    simp [decisionArtifact, signed, decisionFields, List.lookup]
  have hschema : (i.decisionArtifact.prop "schemaVersion" : Run Value)
      = .ok (lit "archon.approval-decision/v1") := by
    simp [decisionArtifact, signed, decisionFields, List.lookup]
  simp [verifyApprovalDecision, path, hschema, happrover, hdecidedAt, hdigest', hpayload, hdigest, eqText,
    approver, List.lookup, hsubject, hissuer, hroles, includes, i.decided_eq]

theorem dossier_digest : (i.dossier.path ["digest"] : Run Value)
    = .ok (.str (digestOf P (object i.dossierFields))) := by
  simp [path, dossier, identified, dossierFields, List.lookup]

theorem plan_digest : (i.plan.path ["digest"] : Run Value)
    = .ok (.str (digestOf P (object i.planFields))) := by
  simp [path, plan, identified, planFields, List.lookup]

theorem request_digest : (i.request.path ["digest"] : Run Value)
    = .ok (.str (digestOf P (object i.requestFields))) := by
  simp [path, request, identified, requestFields, List.lookup]

theorem request_approvalId : (i.request.path ["approvalId"] : Run Value)
    = .ok (.str (shortId "approval-" (digestOf P (object i.requestFields)))) := by
  simp [path, request, identified, requestFields, List.lookup]

theorem decision_decidedAt : (i.decisionArtifact.path ["decidedAt"] : Run Value)
    = .ok (.str i.decidedAt) := by
  simp [path, decisionArtifact, signed, decisionFields, List.lookup]

theorem notBefore_some {m n : Int} (h : n ≤ m) : notBefore (some m) (some n) = true :=
  decide_eq_true h

/-- **Every member of the family is accepted.** -/
theorem accepted : approvalArtifactsValid P i.artifacts = .ok true := by
  simp only [approvalArtifactsValid, andM_eq_true]
  refine ⟨i.dossier_accepted, i.plan_accepted, i.request_accepted, i.decision_accepted,
    eqValue_of_str ?_ i.dossier_digest, eqValue_of_str (s := digestOf P (lit "policy")) ?_ ?_,
    eqValue_of_str ?_ i.dossier_digest, eqValue_of_str ?_ i.plan_digest,
    eqValue_of_str (s := ACTION_CATALOG_DIGEST P) ?_ ?_, eqValue_of_str (s := i.before.digest) ?_ ?_,
    eqValue_of_str ?_ i.request_approvalId, eqValue_of_str ?_ i.request_digest,
    eqValue_of_str ?_ i.plan_digest, ?_, ?_⟩
  case refine_13 => 
    show (i.decisionArtifact.path ["decidedAt"] >>= _) = _
    rw [i.decision_decidedAt]
    simp [path, artifacts, request, identified, requestFields, List.lookup, i.decided_eq, i.requested_eq,
      notBefore_some i.requested_le]
  case refine_14 =>
    show (i.decisionArtifact.path ["decidedAt"] >>= _) = _
    rw [i.decision_decidedAt]
    simp [path, artifacts, request, identified, requestFields, List.lookup, i.decided_eq, i.expires_eq,
      notBefore_some i.decided_le]
  all_goals simp [path, artifacts, dossier, plan, request, decisionArtifact, identified, signed,
    dossierFields, planFields, requestFields, decisionFields, List.lookup]

/-! ## 5. Members on Node -/

/-- A field without tags. -/
def sampleBefore : TagProjection .node :=
  projection .node (js "urn:li:dataset:crm.contacts") (js "email") [] (by decide) (by decide) (by simp)
    rfl

/-- The same field with one tag. -/
def sampleAfter : TagProjection .node :=
  projection .node (js "urn:li:dataset:crm.contacts") (js "email") [js "urn:li:tag:Pii"] (by decide)
    (by decide) (by decide) rfl

theorem sampleBefore_tags : sampleBefore.tags = [] := rfl

theorem sampleAfter_tags : sampleAfter.tags = [js "urn:li:tag:Pii"] := rfl

/-- An issue that adds the tag to the field, with these further tags and this decision. -/
def sample (moreTags : List Text) (decision : Text) : Issue .node where
  found := sampleBefore
  before := sampleBefore
  after := sampleAfter
  tag := js "urn:li:tag:Pii"
  moreTags := moreTags
  moreEntities := []
  moreColumns := []
  decision := decision
  requestedAt := js "2026-07-14T10:00:00.000Z"
  decidedAt := js "2026-07-14T10:05:00.000Z"
  expiresAt := js "2026-07-14T11:00:00.000Z"
  requested := 1784023200000
  decided := 1784023500000
  expires := 1784026800000
  found_canonical := signed_canonical (by simp [projectionFields])
  before_canonical := signed_canonical (by simp [projectionFields])
  after_canonical := signed_canonical (by simp [projectionFields])
  after_entityUrn := rfl
  after_columnPath := rfl
  after_tags := rfl
  requested_eq := by decide +kernel
  decided_eq := by decide +kernel
  expires_eq := by decide +kernel
  requested_le := by decide
  decided_le := by decide
  requested_lt := by decide

end Issue

end Remediation
