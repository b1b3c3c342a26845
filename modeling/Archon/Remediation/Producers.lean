/-
# The producers of the four artifacts

`planG6Remediation` turns a finding, a policy and the state before into a dossier and a plan;
`createApprovalRequest` and `createApprovalDecision` bind a human's decision to them.  Each checks
what it is given with the verifiers of the other modules and signs what it returns.

A finding, a policy and a projection are checked at run time, so they are arbitrary values here.
The other inputs are not, and have the types the source gives them.
-/
import Archon.Ecma.Length
import Archon.Remediation.ControlLoop
import Archon.Remediation.Issue

namespace Remediation

open Ecma Ecma.Value

/-! ## 1. Signing -/

/-- `{ ...unsigned, digest: digest(unsigned) }`. -/
def sign (P : Platform) (fields : List (String × Value)) : Run Value := do
  let d ← digest P (object fields)
  return object (fields ++ [("digest", .str d)])

/-- `{ ...unsigned, key, digest }` with `key: kind + digest.slice(..)`. -/
def signWithId (P : Platform) (kind key : String) (fields : List (String × Value)) : Run Value := do
  let d ← digest P (object fields)
  return object (fields ++ [(key, .str (shortId kind d)), ("digest", .str d)])

theorem sign_eq_ok {P : Platform} {fields : List (String × Value)} {v : Value} :
    sign P fields = .ok v ↔ Canonicalizable (object fields) ∧ v = signed P fields := by
  unfold sign
  constructor
  · intro h
    obtain ⟨d, hd, h⟩ := bind_eq_ok.mp h
    obtain ⟨hc, rfl⟩ := digest_eq_ok.mp hd
    exact ⟨hc, (Except.ok.inj h).symm⟩
  · rintro ⟨hc, rfl⟩
    rw [digest_ok hc]
    rfl

theorem signWithId_eq_ok {P : Platform} {kind key : String} {fields : List (String × Value)}
    {v : Value} : signWithId P kind key fields = .ok v ↔
      Canonicalizable (object fields) ∧ v = identified P kind key fields := by
  unfold signWithId
  constructor
  · intro h
    obtain ⟨d, hd, h⟩ := bind_eq_ok.mp h
    obtain ⟨hc, rfl⟩ := digest_eq_ok.mp hd
    exact ⟨hc, (Except.ok.inj h).symm⟩
  · rintro ⟨hc, rfl⟩
    rw [digest_ok hc]
    rfl

/-! ## 2. Approvals -/

/-- `CreateApprovalRequest`'s argument. -/
structure CreateApprovalRequestInput where
  dossier : Value
  plan : Value
  requestedAt : Text
  expiresAt : Text
  nonce : Text

/-- The members of an approval request without its id and digest. -/
def approvalRequestFields (input : CreateApprovalRequestInput) : List (String × Value) :=
  [("schemaVersion", lit "archon.approval-request/v1"),
    ("dossierDigest", input.dossier.getPath ["digest"]),
    ("planDigest", input.plan.getPath ["digest"]),
    ("actionCatalogDigest", input.plan.getPath ["actionCatalogDigest"]),
    ("expectedBeforeDigest", input.plan.getPath ["expectedBefore", "digest"]),
    ("requestedAt", .str input.requestedAt), ("expiresAt", .str input.expiresAt),
    ("nonce", .str input.nonce)]

/-- `createApprovalRequest`. -/
def createApprovalRequest (P : Platform) (input : CreateApprovalRequestInput) : Run Value := do
  let bound ←
    verifyEvidenceDossier P input.dossier <&&>
    verifyRemediationPlan P input.plan <&&>
    eqValue (input.plan.path ["dossierDigest"]) (input.dossier.path ["digest"]) <&&>
    eqValue (input.plan.path ["policyDigest"]) (input.dossier.path ["policyDigest"])
  rejectIf (!bound) .INVALID_ARTIFACT "Dossier and plan binding is invalid."
  rejectIf (decide (input.nonce.length < 8)) .INVALID_ARTIFACT
    "Approval nonce must contain at least 8 characters."
  let expiresAt ← instant P (.str input.expiresAt) "expiresAt"
  let requestedAt ← instant P (.str input.requestedAt) "requestedAt"
  rejectIf (decide (expiresAt ≤ requestedAt)) .INVALID_ARTIFACT
    "Approval expiry must follow its request time."
  signWithId P "approval-" "approvalId" (approvalRequestFields input)

/-- `AuthenticatedApprover`. -/
structure AuthenticatedApprover where
  subject : Text
  issuer : Text
  roles : List Text
  authenticated : Bool

/-- A human's decision. -/
inductive Decision where
  | APPROVE
  | REJECT
deriving DecidableEq

/-- Its text. -/
def Decision.name : Decision → Value
  | APPROVE => lit "APPROVE"
  | REJECT => lit "REJECT"

/-- `createApprovalDecision`'s argument. -/
structure CreateApprovalDecisionInput where
  request : Value
  plan : Value
  decision : Decision
  approver : AuthenticatedApprover
  decidedAt : Text

/-- The approver as the decision records it. -/
def recordedApprover (approver : AuthenticatedApprover) (roles : Value) : Value :=
  object [("subject", .str approver.subject), ("issuer", .str approver.issuer), ("roles", roles),
    ("authenticated", .bool true)]

/-- The members of a decision without its digest. -/
def approvalDecisionFields (input : CreateApprovalDecisionInput) (roles : Value) :
    List (String × Value) :=
  [("schemaVersion", lit "archon.approval-decision/v1"),
    ("approvalId", input.request.getPath ["approvalId"]),
    ("requestDigest", input.request.getPath ["digest"]),
    ("planDigest", input.plan.getPath ["digest"]), ("decision", input.decision.name),
    ("approver", recordedApprover input.approver roles), ("decidedAt", .str input.decidedAt)]

/-- The request binds the plan. -/
def requestBindsPlan (P : Platform) (request plan : Value) : Run Bool :=
  verifyApprovalRequest P request <&&>
  verifyRemediationPlan P plan <&&>
  eqValue (request.path ["planDigest"]) (plan.path ["digest"]) <&&>
  eqValue (request.path ["actionCatalogDigest"]) (plan.path ["actionCatalogDigest"]) <&&>
  eqValue (request.path ["expectedBeforeDigest"]) (plan.path ["expectedBefore", "digest"])

/-- The approver is an authenticated data steward. -/
def isDataSteward (approver : AuthenticatedApprover) : Bool :=
  approver.authenticated && approver.roles.contains (js "DataSteward") && nonBlank approver.subject &&
    nonBlank approver.issuer

/-- `createApprovalDecision`. -/
def createApprovalDecision (P : Platform) (input : CreateApprovalDecisionInput) : Run Value := do
  let bound ← requestBindsPlan P input.request input.plan
  rejectIf (!bound) .APPROVAL_BINDING_MISMATCH "Approval request does not bind the supplied plan."
  rejectIf (!isDataSteward input.approver) .APPROVER_UNAUTHORIZED
    "An authenticated DataSteward is required."
  let decidedAt ← instant P (.str input.decidedAt) "decidedAt"
  let requestedAt ← instant P (input.request.getPath ["requestedAt"]) "requestedAt"
  rejectIf (decide (decidedAt < requestedAt)) .APPROVAL_EXPIRED
    "Approval was decided outside its validity window."
  let expiresAt ← instant P (input.request.getPath ["expiresAt"]) "expiresAt"
  rejectIf (decide (expiresAt < decidedAt)) .APPROVAL_EXPIRED
    "Approval was decided outside its validity window."
  let roles ← uniqueSorted P (.arr (input.approver.roles.map .str))
  sign P (approvalDecisionFields input roles)

/-- The facts about an accepted request that a decision relies on. -/
structure RequestFacts (P : Platform) (request : Value) where
  approvalId : Text
  digest : Text
  requested : Int
  expires : Int
  approvalId_eq : request.getPath ["approvalId"] = .str approvalId
  digest_eq : request.getPath ["digest"] = .str digest
  requested_eq : P.parseDate (request.getPath ["requestedAt"]) = .ok (some requested)
  expires_eq : P.parseDate (request.getPath ["expiresAt"]) = .ok (some expires)
  path_requested : (request.path ["requestedAt"] : Run Value) = .ok (request.getPath ["requestedAt"])
  path_expires : (request.path ["expiresAt"] : Run Value) = .ok (request.getPath ["expiresAt"])

theorem laterThan_eq_true {a b : Option Int} (h : laterThan a b = true) :
    ∃ m n, a = some m ∧ b = some n ∧ n < m := by
  cases a with
  | none => simp [laterThan] at h
  | some m =>
    cases b with
    | none => simp [laterThan] at h
    | some n => exact ⟨m, n, rfl, rfl, by simpa [laterThan] using h⟩

theorem path_getPath {v w : Value} {ks : List String} (h : (v.path ks : Run Value) = .ok w) :
    (v.path ks : Run Value) = .ok (v.getPath ks) := by
  rw [h, getPath_of_path h]

theorem verifyApprovalRequest_facts {P : Platform} {request : Value}
    (h : verifyApprovalRequest P request = .ok true) : Nonempty (RequestFacts P request) := by
  obtain ⟨payload, -, h⟩ := bind_eq_ok.mp h
  obtain ⟨expected, -, h⟩ := bind_eq_ok.mp h
  simp only [andM_eq_true] at h
  obtain ⟨-, hid, hdig, -, -, hlater⟩ := h
  obtain ⟨expiresAt, hexpires, hlater⟩ := bind_eq_ok.mp hlater
  obtain ⟨expires, hexpires', hlater⟩ := bind_eq_ok.mp hlater
  obtain ⟨requestedAt, hrequested, hlater⟩ := bind_eq_ok.mp hlater
  obtain ⟨requested, hrequested', hlater⟩ := bind_eq_ok.mp hlater
  obtain ⟨m, n, rfl, rfl, -⟩ := laterThan_eq_true (Except.ok.inj hlater)
  exact ⟨{
    approvalId := _, digest := expected, requested := n, expires := m
    approvalId_eq := getPath_of_path (eqText_eq_true.mp hid)
    digest_eq := getPath_of_path (eqText_eq_true.mp hdig)
    requested_eq := by rw [getPath_of_path hrequested]; exact hrequested'
    expires_eq := by rw [getPath_of_path hexpires]; exact hexpires'
    path_requested := path_getPath hrequested
    path_expires := path_getPath hexpires }⟩

theorem instant_eq_ok {P : Platform} {v : Value} {label : String} {n : Int} :
    instant P v label = .ok n ↔ P.parseDate v = .ok (some n) := by
  unfold instant
  rcases P.parseDate v with e | _ | m <;> simp [reject]

/-- A decision is made within the window of its request. -/
def InWindow (P : Platform) (request : Value) (decidedAt : Text) : Prop :=
  ∃ decided requested expires, P.dateParse decidedAt = some decided ∧
    P.parseDate (request.getPath ["requestedAt"]) = .ok (some requested) ∧
    P.parseDate (request.getPath ["expiresAt"]) = .ok (some expires) ∧
    requested ≤ decided ∧ decided ≤ expires

/-- **When a decision is signed.** -/
theorem createApprovalDecision_eq_ok {P : Platform} {i : CreateApprovalDecisionInput} {d : Value} :
    createApprovalDecision P i = .ok d ↔
      requestBindsPlan P i.request i.plan = .ok true ∧ isDataSteward i.approver = true ∧
      InWindow P i.request i.decidedAt ∧
      ∃ roles, uniqueSorted P (.arr (i.approver.roles.map .str)) = .ok roles ∧
        sign P (approvalDecisionFields i roles) = .ok d := by
  unfold createApprovalDecision InWindow
  constructor
  · intro h
    obtain ⟨bound, hbound, h⟩ := bind_eq_ok.mp h
    obtain ⟨_, hb, h⟩ := bind_eq_ok.mp h
    obtain ⟨_, hs, h⟩ := bind_eq_ok.mp h
    obtain ⟨decided, hd, h⟩ := bind_eq_ok.mp h
    obtain ⟨requested, hr, h⟩ := bind_eq_ok.mp h
    obtain ⟨_, hle, h⟩ := bind_eq_ok.mp h
    obtain ⟨expires, he, h⟩ := bind_eq_ok.mp h
    obtain ⟨_, hle', h⟩ := bind_eq_ok.mp h
    rw [rejectIf_eq_ok] at hb hs hle hle'
    rw [instant_eq_ok] at hd hr he
    have hbt : bound = true := by simpa using hb
    refine ⟨hbt ▸ hbound, by simpa using hs, ⟨decided, requested, expires, ?_, hr, he, ?_, ?_⟩,
      bind_eq_ok.mp h⟩
    · simpa using hd
    · simpa using hle
    · simpa using hle'
  · rintro ⟨hbound, hs, ⟨decided, requested, expires, hd, hr, he, hle, hle'⟩, roles, hroles, hsign⟩
    have hd' : instant P (.str i.decidedAt) "decidedAt" = .ok decided := by simp [instant_eq_ok, hd]
    have hr' := (@instant_eq_ok P _ "requestedAt" _).mpr hr
    have he' := (@instant_eq_ok P _ "expiresAt" _).mpr he
    have h1 : decide (decided < requested) = false := by simpa using hle
    have h2 : decide (expires < decided) = false := by simpa using hle'
    simp only [hbound, ok_bind, hs, Bool.not_true, hd', hr', he', h1, h2, rejectIf, hroles,
      Bool.false_eq_true, if_false]
    exact hsign

/-- The members of a decision have canonical texts, the request and the plan being verified. -/
theorem approvalDecisionFields_canonical {P : Platform} {i : CreateApprovalDecisionInput}
    {roles : List Text} (hbound : requestBindsPlan P i.request i.plan = .ok true) :
    Canonicalizable (object (approvalDecisionFields i (.arr (roles.map .str)))) := by
  simp only [requestBindsPlan, andM_eq_true] at hbound
  obtain ⟨hr, hp, -⟩ := hbound
  obtain ⟨r⟩ := verifyApprovalRequest_facts hr
  obtain ⟨p⟩ := verifyRemediationPlan_facts hp
  obtain ⟨d, hd⟩ := p.digest_eq
  have hname : Canonicalizable i.decision.name := by cases i.decision <;> simp [Decision.name, lit]
  simp [approvalDecisionFields, recordedApprover, r.approvalId_eq, r.digest_eq, hd, hname]

/-- **A signed decision verifies**, its roles standing in their order. -/
theorem signedDecision_verified {P : Platform} {i : CreateApprovalDecisionInput} {roles : List Text}
    (hbound : requestBindsPlan P i.request i.plan = .ok true) (hs : isDataSteward i.approver = true)
    (hrole : js "DataSteward" ∈ roles)
    (hroles : uniqueSorted P (.arr (roles.map .str)) = .ok (.arr (roles.map .str)))
    (hdecided : (P.dateParse i.decidedAt).isSome = true) :
    verifyApprovalDecision P (signed P (approvalDecisionFields i (.arr (roles.map .str)))) = .ok true := by
  have hc : Canonicalizable (object (approvalDecisionFields i (.arr (roles.map .str)))) :=
    approvalDecisionFields_canonical hbound
  simp only [isDataSteward, Bool.and_eq_true] at hs
  obtain ⟨⟨-, hsub⟩, hiss⟩ := hs
  have hlen : ∀ t : Text, nonBlank t = true →
      ((Value.str t).prop "length" >>= fun v : Value => v.exceeds 0) = (.ok true : Run Bool) := by
    intro t ht
    have h0 : 0 < t.length := List.length_pos_of_ne_nil (nonBlank_ne_nil ht)
    have hget : ((Value.str t).prop "length" : Run Value) = .ok (.num (.ofNat t.length)) := by
      rw [prop_of_not_nullish rfl]
      simp [Value.get]
    rw [hget, ok_bind]
    simp [Value.exceeds, toNumber, Number.exceeds_ofNat t.length (k := 0) (by norm_num), h0]
  have hpayload : approvalDecisionPayload (signed P (approvalDecisionFields i (.arr (roles.map .str))))
      = .ok (object (approvalDecisionFields i (.arr (roles.map .str)))) := by
    rw [approvalDecisionPayload, withoutDigest, without_eq_ok]
    exact ⟨rfl, rest_signed (by simp [approvalDecisionFields])⟩
  have hverify : verifyDigest P (object (approvalDecisionFields i (.arr (roles.map .str))))
      (.str (digestOf P (object (approvalDecisionFields i (.arr (roles.map .str)))))) = .ok true :=
    verifyDigest_eq_true.mpr ⟨hc, rfl⟩
  simp only [verifyApprovalDecision, andM_eq_true]
  refine ⟨?_, ?_, ?_, ?_, ?_, ?_, ?_, ?_⟩
  · simp [path, signed, approvalDecisionFields, List.lookup, eqText]
  · simp [path, signed, approvalDecisionFields, recordedApprover, List.lookup]
  · simpa [path, signed, approvalDecisionFields, recordedApprover, List.lookup] using hlen _ hsub
  · simpa [path, signed, approvalDecisionFields, recordedApprover, List.lookup] using hlen _ hiss
  · simp [path, signed, approvalDecisionFields, recordedApprover, List.lookup, lit, hrole]
  · simp [path, signed, approvalDecisionFields, recordedApprover, List.lookup, hroles]
  · simp [path, signed, approvalDecisionFields, List.lookup, hdecided]
  · rw [hpayload, ok_bind]
    have hdigest : ((signed P (approvalDecisionFields i (.arr (roles.map .str)))).path ["digest"]
        : Run Value) = .ok (.str (digestOf P (object (approvalDecisionFields i (.arr (roles.map .str)))))) := by
      simp [path, signed, approvalDecisionFields, List.lookup]
    rw [hdigest, ok_bind]
    exact hverify

/-! ## 3. Policies -/

/-- `/^urn:li:tag:[^,\s]+$/u.test(t)`. -/
def isTagUrn (t : Text) : Bool :=
  (js "urn:li:tag:").isPrefixOf t && !(t.drop 11).isEmpty &&
    (t.drop 11).all fun u => u != 0x2C && !isSpace u

/-- The argument of `createTrustedRemediationPolicy`. -/
structure TrustedPolicyInput where
  policyId : Text
  enabled : Bool
  classificationTagUrn : Text
  allowedEntityUrnPrefixes : List Text

/-- The members of a policy without its digest. -/
def policyFields (input : TrustedPolicyInput) (prefixes : Value) : List (String × Value) :=
  [("schemaVersion", lit "archon.remediation-policy/v1"), ("policyId", .str input.policyId),
    ("enabled", .bool input.enabled), ("classificationTagUrn", .str input.classificationTagUrn),
    ("allowedEntityUrnPrefixes", prefixes)]

/-- `createTrustedRemediationPolicy`. -/
def createTrustedRemediationPolicy (P : Platform) (input : TrustedPolicyInput) : Run Value := do
  failIf (!nonBlank input.policyId) "A trusted policy requires a policyId."
  failIf (!isTagUrn input.classificationTagUrn) "The classification tag must be a DataHub tag URN."
  let prefixes ← uniqueSorted P (.arr (input.allowedEntityUrnPrefixes.map .str))
  let nonEmpty ← prefixes.every fun p => return isNonEmptyString p
  failIf (!nonEmpty) "Entity allowlist prefixes must be non-empty."
  sign P (policyFields input prefixes)

/-- `verifyTrustedRemediationPolicy`. -/
def verifyTrustedRemediationPolicy (P : Platform) (policy : Value) : Run Bool :=
  eqText (policy.path ["schemaVersion"]) (js "archon.remediation-policy/v1") <&&>
  (do return isTagUrn (← (← policy.path ["classificationTagUrn"]).toText)) <&&>
  (do
    let prefixes ← policy.path ["allowedEntityUrnPrefixes"]
    return decide (stringify prefixes = stringify (← uniqueSorted P prefixes))) <&&>
  (do verifyDigest P (← withoutDigest policy) (← policy.path ["digest"]))

theorem uniqueSorted_single (P : Platform) (t : Text) :
    uniqueSorted P (.arr [.str t]) = .ok (.arr [.str t]) := by
  have hd : dedup [Value.str t] = [Value.str t] := rfl
  have hs := P.localeSort_str [t]
  simp only [List.map_cons, List.map_nil] at hs
  simp only [uniqueSorted, setOf, spread_arr, ok_bind, pure_eq_ok, hd, hs]
  rfl

/-! ## 4. Plans -/

/-- `isG6Finding`. -/
def isG6Finding (finding : Value) : Bool :=
  (match finding with
    | .obj _ => true
    | .arr _ => true
    | _ => false) &&
    (finding.getPath ["type"]).isText (js "governance_violation") &&
    (finding.getPath ["ruleId"]).isText (js "G6") && isNonEmptyString (finding.getPath ["subject"]) &&
    (["low", "medium", "high"].any fun s => (finding.getPath ["severity"]).isText (js s)) &&
    match finding.getPath ["unclassifiedFields"] with
    | .arr items => items.all isNonEmptyString
    | _ => false

/-- `sanitizeFinding`. -/
def sanitizeFinding (P : Platform) (finding : Value) : Run Value := do
  let fields ← uniqueSorted P (finding.getPath ["unclassifiedFields"])
  return object [("type", lit "governance_violation"), ("severity", finding.getPath ["severity"]),
    ("subject", finding.getPath ["subject"]), ("ruleId", lit "G6"), ("unclassifiedFields", fields)]

/-- `createTagProjection`. -/
def createTagProjection (P : Platform) (entityUrn columnPath : Value) (tags : List Value) :
    Run Value := do
  failIf (!isNonEmptyString entityUrn || !isNonEmptyString columnPath)
    "A tag projection requires a non-empty entity URN and column path."
  failIf (!tags.all isNonEmptyString) "A tag projection can contain only non-empty tag identifiers."
  let sorted ← uniqueSorted P (.arr tags)
  sign P [("entityUrn", entityUrn), ("columnPath", columnPath), ("tags", sorted)]

/-- `ProvenanceEvidence`. -/
structure ProvenanceEvidence where
  sourceKind : Text
  entityUrn : Text
  aspectVersion : Option Number
  pipelineName : Option Text
  runId : Option Text
  observedAt : Text
  valueDigest : Text

/-- One entry of the provenance, as the dossier records it. -/
def ProvenanceEvidence.value (e : ProvenanceEvidence) : Value :=
  object ([("sourceKind", .str e.sourceKind), ("entityUrn", .str e.entityUrn),
      ("aspect", lit "schemaMetadata")] ++
    (e.aspectVersion.map fun n => ("aspectVersion", Value.num n)).toList ++
    (e.pipelineName.map fun t => ("pipelineName", Value.str t)).toList ++
    (e.runId.map fun t => ("runId", Value.str t)).toList ++
    [("observedAt", .str e.observedAt), ("valueDigest", .str e.valueDigest)])

/-- The order of the provenance. -/
def compareProvenance (P : Platform) (a b : ProvenanceEvidence) : Ordering :=
  (P.localeCompare a.entityUrn b.entityUrn).then <|
    (P.localeCompare a.observedAt b.observedAt).then <|
      (P.localeCompare (a.pipelineName.getD []) (b.pipelineName.getD [])).then <|
        P.localeCompare (a.runId.getD []) (b.runId.getD [])

/-- `normalizedProvenance`. -/
def normalizedProvenance (P : Platform) (values : List ProvenanceEvidence) : Value :=
  .arr ((values.insertionSort fun a b => compareProvenance P a b ≠ .gt).map ProvenanceEvidence.value)

/-- `Partial<BlastRadius>`, what is absent being empty and `false`. -/
structure BlastRadius where
  downstreamUrns : List Text
  truncated : Bool

/-- `normalizedBlastRadius`. -/
def normalizedBlastRadius (P : Platform) (radius : BlastRadius) : Run Value := do
  let urns ← uniqueSorted P (.arr (radius.downstreamUrns.map .str))
  return object [("downstreamUrns", urns), ("maxHops", .num (.ofNat 3)),
    ("truncated", .bool radius.truncated)]

/-- `PlanG6RemediationInput`. -/
structure PlanG6RemediationInput where
  scanId : Text
  finding : Value
  columnPath : Text
  before : Value
  policy : Value
  observedAt : Text
  provenance : List ProvenanceEvidence
  blastRadius : BlastRadius

/-- Why there is no plan. -/
inductive ManualReason where
  | UNSUPPORTED_FINDING
  | POLICY_NOT_APPLICABLE
  | AMBIGUOUS_EVIDENCE
  | NO_TRUSTED_TARGET
  | TAG_ALREADY_PRESENT
deriving DecidableEq

/-- `PlanningResult`. -/
inductive PlanningResult where
  | MANUAL_ONLY (reason : ManualReason)
  | ACTIONABLE (dossier plan : Value)

/-- `!prefixes.some((prefix) => subject.startsWith(prefix))`, for a list that is not empty. -/
def outsidePolicy (policy : Value) (subject : Text) : Run Bool := do
  let prefixes ← policy.path ["allowedEntityUrnPrefixes"]
  if ← (← prefixes.path ["length"]).exceeds 0 then
    return !(← some' prefixes fun p => return (← p.toText).isPrefixOf subject)
  else return false

/-- The finding does not name the target, or the state before is not the target's. -/
def noTrustedTarget (input : PlanG6RemediationInput) (finding : Value) : Run Bool := do
  if !nonBlank input.scanId || !nonBlank input.observedAt || !nonBlank input.columnPath then return true
  if !(← eqValue (finding.path ["subject"]) (input.before.path ["entityUrn"])) then return true
  if !(← eqValue (.ok (.str input.columnPath)) (input.before.path ["columnPath"])) then return true
  return !(← (← finding.path ["unclassifiedFields"]).includes (.str input.columnPath))

/-- The members of the dossier without its id and digest. -/
def dossierFields (P : Platform) (input : PlanG6RemediationInput) (findingDigest : Text)
    (finding radius : Value) : List (String × Value) :=
  [("schemaVersion", lit "archon.evidence-dossier/v1"), ("scanId", .str input.scanId),
    ("findingDigest", .str findingDigest), ("finding", finding),
    ("target", object [("entityUrn", finding.getPath ["subject"]),
      ("columnPath", .str input.columnPath)]),
    ("provenance", normalizedProvenance P input.provenance), ("blastRadius", radius),
    ("before", input.before), ("policyDigest", input.policy.getPath ["digest"]),
    ("createdAt", .str input.observedAt)]

/-- The dossier. -/
def buildDossier (P : Platform) (input : PlanG6RemediationInput) (finding : Value) : Run Value := do
  let findingDigest ← digest P finding
  let radius ← normalizedBlastRadius P input.blastRadius
  signWithId P "dossier-" "dossierId" (dossierFields P input findingDigest finding radius)

/-- `arguments_`. -/
def actionArguments (tag subject columnPath : Value) : Value :=
  object [("tag_urns", .arr [tag]), ("entity_urns", .arr [subject]), ("column_paths", .arr [columnPath])]

/-- The members of the action without its digest. -/
def actionFields (arguments : Value) : List (String × Value) :=
  [("actionId", lit "datahub.add-classification-tag.v1"), ("tool", lit "add_tags"),
    ("arguments", arguments),
    ("inverse", object [("tool", lit "remove_tags"), ("arguments", arguments)])]

/-- The members of the plan without its id and digest. -/
def planFields (P : Platform) (input : PlanG6RemediationInput) (dossier action expectedAfter : Value) :
    List (String × Value) :=
  [("schemaVersion", lit "archon.remediation-plan/v1"), ("dossierDigest", dossier.getPath ["digest"]),
    ("policyDigest", input.policy.getPath ["digest"]),
    ("actionCatalogDigest", .str (ACTION_CATALOG_DIGEST P)), ("action", action),
    ("expectedBefore", input.before), ("expectedAfter", expectedAfter), ("risk", lit "low"),
    ("requiresHumanApproval", .bool true)]

/-- The plan for a dossier. -/
def buildPlan (P : Platform) (input : PlanG6RemediationInput) (finding dossier : Value) : Run Value := do
  let tag := input.policy.getPath ["classificationTagUrn"]
  let action ← sign P (actionFields (actionArguments tag (finding.getPath ["subject"])
    (.str input.columnPath)))
  let tags ← (← input.before.path ["tags"]).spread
  let expectedAfter ← createTagProjection P (input.before.getPath ["entityUrn"])
    (input.before.getPath ["columnPath"]) (tags ++ [tag])
  signWithId P "plan-" "planId" (planFields P input dossier action expectedAfter)

/-- `planG6Remediation`. -/
def planG6Remediation (P : Platform) (input : PlanG6RemediationInput) : Run PlanningResult := do
  if !isG6Finding input.finding then return .MANUAL_ONLY .UNSUPPORTED_FINDING
  let applicable ← verifyTrustedRemediationPolicy P input.policy <&&>
    (do return (← input.policy.path ["enabled"]).truthy)
  if !applicable then return .MANUAL_ONLY .POLICY_NOT_APPLICABLE
  if !(← verifyTagProjection P input.before) then return .MANUAL_ONLY .AMBIGUOUS_EVIDENCE
  let finding ← sanitizeFinding P input.finding
  if ← noTrustedTarget input finding then return .MANUAL_ONLY .NO_TRUSTED_TARGET
  let subject ← stringOf (finding.getPath ["subject"])
  if ← outsidePolicy input.policy subject then return .MANUAL_ONLY .POLICY_NOT_APPLICABLE
  if ← (← input.before.path ["tags"]).includes (input.policy.getPath ["classificationTagUrn"]) then
    return .MANUAL_ONLY .TAG_ALREADY_PRESENT
  let dossier ← buildDossier P input finding
  let plan ← buildPlan P input finding dossier
  return .ACTIONABLE dossier plan

end Remediation
