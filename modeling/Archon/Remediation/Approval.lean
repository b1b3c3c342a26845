/-
# Approvals and postconditions

The verifiers of an approval request and of a decision, the binding that ties the four artifacts
of an execution together (`approvalArtifactsValid`), and the five checks made on the state that
is read after a write (`verifyPostcondition`).

`Accepted` is what the executor may use once the artifacts are accepted.
-/
import Archon.Remediation.Receipt

namespace Remediation

open Ecma Ecma.Value

/-! ## 1. Requests and decisions -/

/-- `instant`. -/
def instant (P : Platform) (value : Value) (label : String) : Run Int := do
  match ← P.parseDate value with
  | some parsed => .ok parsed
  | none => reject .INVALID_ARTIFACT (label ++ " must be an ISO-8601 timestamp.")

/-- `a > b` on the results of `Date.parse`, of which NaN exceeds nothing. -/
def laterThan (a b : Option Int) : Bool :=
  match a, b with
  | some a, some b => decide (b < a)
  | _, _ => false

/-- `a >= b` on the results of `Date.parse`. -/
def notBefore (a b : Option Int) : Bool :=
  match a, b with
  | some a, some b => decide (b ≤ a)
  | _, _ => false

/-- `approvalRequestPayload`. -/
def approvalRequestPayload (request : Value) : Run Value := request.without ["approvalId", "digest"]

/-- `approvalDecisionPayload`. -/
def approvalDecisionPayload (decision : Value) : Run Value := withoutDigest decision

/-- `verifyApprovalRequest`. -/
def verifyApprovalRequest (P : Platform) (request : Value) : Run Bool := do
  let expected ← digest P (← approvalRequestPayload request)
  eqText (request.path ["schemaVersion"]) (js "archon.approval-request/v1") <&&>
    eqText (request.path ["approvalId"]) (shortId "approval-" expected) <&&>
    eqText (request.path ["digest"]) expected <&&>
    (do (← request.path ["nonce", "length"]).atLeast 8) <&&>
    (do return (← P.parseDate (← request.path ["requestedAt"])).isSome) <&&>
    (do
      let expiresAt ← P.parseDate (← request.path ["expiresAt"])
      return laterThan expiresAt (← P.parseDate (← request.path ["requestedAt"])))

/-- `verifyApprovalDecision`. -/
def verifyApprovalDecision (P : Platform) (decision : Value) : Run Bool :=
  eqText (decision.path ["schemaVersion"]) (js "archon.approval-decision/v1") <&&>
    (do return (← decision.path ["approver", "authenticated"]).strictEq (.bool true)) <&&>
    (do (← decision.path ["approver", "subject", "length"]).exceeds 0) <&&>
    (do (← decision.path ["approver", "issuer", "length"]).exceeds 0) <&&>
    (do (← decision.path ["approver", "roles"]).includes (lit "DataSteward")) <&&>
    (do
      let roles ← decision.path ["approver", "roles"]
      return decide (stringify roles = stringify (← uniqueSorted P roles))) <&&>
    (do return (← P.parseDate (← decision.path ["decidedAt"])).isSome) <&&>
    (do verifyDigest P (← approvalDecisionPayload decision) (← decision.path ["digest"]))

/-- The artifacts of an execution. -/
structure Artifacts where
  dossier : Value
  plan : Value
  request : Value
  decision : Value

/-- `approvalArtifactsValid`. -/
def approvalArtifactsValid (P : Platform) (a : Artifacts) : Run Bool :=
  verifyEvidenceDossier P a.dossier <&&>
  verifyRemediationPlan P a.plan <&&>
  verifyApprovalRequest P a.request <&&>
  verifyApprovalDecision P a.decision <&&>
  eqValue (a.plan.path ["dossierDigest"]) (a.dossier.path ["digest"]) <&&>
  eqValue (a.plan.path ["policyDigest"]) (a.dossier.path ["policyDigest"]) <&&>
  eqValue (a.request.path ["dossierDigest"]) (a.dossier.path ["digest"]) <&&>
  eqValue (a.request.path ["planDigest"]) (a.plan.path ["digest"]) <&&>
  eqValue (a.request.path ["actionCatalogDigest"]) (a.plan.path ["actionCatalogDigest"]) <&&>
  eqValue (a.request.path ["expectedBeforeDigest"]) (a.plan.path ["expectedBefore", "digest"]) <&&>
  eqValue (a.decision.path ["approvalId"]) (a.request.path ["approvalId"]) <&&>
  eqValue (a.decision.path ["requestDigest"]) (a.request.path ["digest"]) <&&>
  eqValue (a.decision.path ["planDigest"]) (a.plan.path ["digest"]) <&&>
  (do
    let decidedAt ← P.parseDate (← a.decision.path ["decidedAt"])
    return notBefore decidedAt (← P.parseDate (← a.request.path ["requestedAt"]))) <&&>
  (do
    let decidedAt ← P.parseDate (← a.decision.path ["decidedAt"])
    return notBefore (← P.parseDate (← a.request.path ["expiresAt"])) decidedAt)

/-- What the executor may use once the artifacts are accepted. -/
structure Accepted (P : Platform) (a : Artifacts) where
  dossier : DossierFacts P a.dossier
  plan : PlanFacts P a.plan
  approvalId : Text
  approvalId_eq : a.request.getPath ["approvalId"] = .str approvalId
  decision_unsigned : Canonicalizable (a.decision.rest ["digest"])
  decision_digest : a.decision.getPath ["digest"] = .str (digestOf P (a.decision.rest ["digest"]))
  decidedAt : Text
  decided : Int
  expires : Int
  decidedAt_eq : (a.decision.getPath ["decidedAt"]).toText = (.ok decidedAt : Run Text)
  decided_eq : P.dateParse decidedAt = some decided
  expires_eq : P.parseDate (a.request.getPath ["expiresAt"]) = .ok (some expires)
  decided_le : decided ≤ expires

theorem notBefore_eq_true {a b : Option Int} (h : notBefore a b = true) :
    ∃ m n, a = some m ∧ b = some n ∧ n ≤ m := by
  cases a with
  | none => simp [notBefore] at h
  | some m =>
    cases b with
    | none => simp [notBefore] at h
    | some n => exact ⟨m, n, rfl, rfl, by simpa [notBefore] using h⟩

theorem approvalArtifactsValid_facts {P : Platform} {a : Artifacts}
    (h : approvalArtifactsValid P a = .ok true) : Nonempty (Accepted P a) := by
  simp only [approvalArtifactsValid, andM_eq_true] at h
  obtain ⟨hdossier, hplan, hreq, hdec, -, -, -, -, -, -, -, -, -, -, hexp⟩ := h
  obtain ⟨dossier⟩ := verifyEvidenceDossier_facts hdossier
  obtain ⟨plan⟩ := verifyRemediationPlan_facts hplan
  obtain ⟨payload, -, hreq⟩ := bind_eq_ok.mp hreq
  obtain ⟨expected, -, hreq⟩ := bind_eq_ok.mp hreq
  simp only [andM_eq_true] at hreq
  simp only [verifyApprovalDecision, andM_eq_true] at hdec
  obtain ⟨-, hid, -⟩ := hreq
  obtain ⟨-, -, -, -, -, -, -, hdig⟩ := hdec
  obtain ⟨payload', hpay, hdig⟩ := bind_eq_ok.mp hdig
  obtain ⟨-, rfl⟩ := without_eq_ok.mp hpay
  obtain ⟨d, hd, hdig⟩ := bind_eq_ok.mp hdig
  obtain ⟨hcan, rfl⟩ := verifyDigest_eq_true.mp hdig
  obtain ⟨decidedAt, hdecidedAt, hexp⟩ := bind_eq_ok.mp hexp
  obtain ⟨decided, hdecided, hexp⟩ := bind_eq_ok.mp hexp
  obtain ⟨expiresAt, hexpiresAt, hexp⟩ := bind_eq_ok.mp hexp
  obtain ⟨expires, hexpires, hexp⟩ := bind_eq_ok.mp hexp
  obtain ⟨m, n, rfl, rfl, hle⟩ := notBefore_eq_true (Except.ok.inj hexp)
  obtain ⟨t, ht, hdecided⟩ := bind_eq_ok.mp hdecided
  exact ⟨{
    dossier, plan
    approvalId := shortId "approval-" expected
    approvalId_eq := getPath_of_path (eqText_eq_true.mp hid)
    decision_unsigned := hcan
    decision_digest := getPath_of_path hd
    decidedAt := t
    decided := n
    expires := m
    decidedAt_eq := by rw [getPath_of_path hdecidedAt]; exact ht
    decided_eq := Except.ok.inj hdecided
    expires_eq := by rw [getPath_of_path hexpiresAt]; exact hexpires
    decided_le := hle }⟩

/-! ## 2. Postconditions -/

/-- `projectionEquals`. -/
def projectionEquals (a b : Value) : Run Bool := eqValue (a.path ["digest"]) (b.path ["digest"])

/-- `mutationRequest`. -/
def mutationRequest (plan : Value) : Run Value := do
  requestOf (← plan.path ["action", "arguments"])

/-- `VerificationCheck`. -/
structure VerificationCheck where
  checkId : CheckId
  passed : Bool
  evidence : Text

/-- The check as it stands in a receipt. -/
def VerificationCheck.value (check : VerificationCheck) : Value :=
  object [("checkId", .str check.checkId.name), ("passed", .bool check.passed),
    ("evidence", .str check.evidence)]

/-- `formatCount`, with the default plural. -/
def formatCount (count : Nat) (singular : String) : Text :=
  (Number.ofNat count).text ++ js " " ++ (if count = 1 then js singular else js singular ++ js "s")

/-- The number of elements of an array. -/
def arrayLength : Value → Nat
  | .arr items => items.length
  | _ => 0

/-- The evidence of `TARGET_UNCHANGED`. -/
def targetEvidence (after : Value) : Run Text := do
  let entityUrn ← (← after.path ["entityUrn"]).toText
  let columnPath ← (← after.path ["columnPath"]).toText
  return js "Observed target \"" ++ entityUrn ++ js "#" ++ columnPath ++ js "\"."

/-- The evidence of `PREEXISTING_TAGS_PRESERVED`. -/
def preservedEvidence (count : Nat) : Text :=
  formatCount count "pre-existing tag" ++ js " " ++
    (if count = 1 then js "remains" else js "remain") ++ js " present."

/-- The evidence of `POLICY_TAG_PRESENT`. -/
def tagEvidence (tag : Value) (tagPresent : Bool) : Run Text := do
  return js "Policy tag " ++ (← tag.toText) ++ js " " ++
    (if tagPresent then js "is" else js "is not") ++ js " present."

/-- The evidence of `NO_UNEXPECTED_TAGS`. -/
def afterEvidence (plan after : Value) : Run Text := do
  let afterDigest ← (← after.path ["digest"]).toText
  let expectedDigest ← (← plan.path ["expectedAfter", "digest"]).toText
  return js "After-state digest " ++ afterDigest ++ js "; expected " ++ expectedDigest ++ js "."

/-- The evidence of `APPROVAL_BINDING_VALID`. -/
def requestEvidence (mutation : Value) : Run Text := do
  let requestDigest := mutation.getPath ["requestDigest"]
  let text ← (if requestDigest.isNullish then .ok (js "unavailable") else requestDigest.toText)
  return js "Mutation request digest " ++ text ++ js "."

/-- `verifyPostcondition`. -/
def verifyPostcondition (P : Platform) (plan : Value) (approvalValid : Bool) (after mutation : Value) :
    Run (List VerificationCheck) := do
  let before ← plan.path ["expectedBefore"]
  let tag ← (← plan.path ["action", "arguments", "tag_urns"]).index 0
  let expectedRequestDigest ← digest P (← mutationRequest plan)
  let targetUnchanged ← eqValue (after.path ["entityUrn"]) (before.path ["entityUrn"]) <&&>
    eqValue (after.path ["columnPath"]) (before.path ["columnPath"])
  let tags ← before.path ["tags"]
  let preserved ← tags.every fun existing => do (← after.path ["tags"]).includes existing
  let tagPresent ← (do (← after.path ["tags"]).includes tag)
  let exactAfter ← projectionEquals after (← plan.path ["expectedAfter"])
  let approvalAndRequestValid ← .ok approvalValid <&&>
    (match mutation with
      | .undefined => .ok false
      | mutation => eqText (mutation.prop "requestDigest") expectedRequestDigest)
  let target ← targetEvidence after
  let policyTag ← tagEvidence tag tagPresent
  let observed ← afterEvidence plan after
  let request ← requestEvidence mutation
  return [
    ⟨.TARGET_UNCHANGED, targetUnchanged, target⟩,
    ⟨.PREEXISTING_TAGS_PRESERVED, preserved, preservedEvidence (arrayLength tags)⟩,
    ⟨.POLICY_TAG_PRESENT, tagPresent, policyTag⟩,
    ⟨.NO_UNEXPECTED_TAGS, exactAfter, observed⟩,
    ⟨.APPROVAL_BINDING_VALID, approvalAndRequestValid, request⟩]

/-- What the five checks establish when they all pass. -/
structure Passed (P : Platform) (plan after mutation : Value) (request : Value) : Prop where
  approved : mutationRequest plan = .ok request
  entityUrn : after.getPath ["entityUrn"] = plan.getPath ["expectedBefore", "entityUrn"]
  columnPath : after.getPath ["columnPath"] = plan.getPath ["expectedBefore", "columnPath"]
  digest : eqValue (after.path ["digest"]) (plan.path ["expectedAfter", "digest"]) = (.ok true : Run Bool)
  acknowledged : mutation.getPath ["requestDigest"] = .str (digestOf P request)

theorem getPath_eq_of_strictEq {v w : Value} {ks ls : List String} {s : Text}
    (h : (eqValue (v.path ks) (w.path ls) : Run Bool) = .ok true) (hw : w.getPath ls = .str s) :
    v.getPath ks = w.getPath ls := by
  obtain ⟨a, b, ha, hb, hab⟩ := eqValue_eq_true.mp h
  rw [getPath_of_path ha]
  rw [getPath_of_path hb] at hw ⊢
  subst hw
  exact strictEq_str.mp hab

theorem path_append {v w : Value} (ks ls : List String) (h : (v.path ks : Run Value) = .ok w) :
    (v.path (ks ++ ls) : Run Value) = w.path ls := by
  induction ks generalizing v with
  | nil => rw [Except.ok.inj h]; rfl
  | cons k ks ih =>
    obtain ⟨u, hu, h⟩ := bind_eq_ok.mp h
    show (v.prop k >>= fun u => u.path (ks ++ ls)) = _
    rw [hu]
    exact ih h

theorem path_under {v w : Value} {k : String} {ks : List String} (h : v.getPath [k] = w)
    (hw : w ≠ .undefined) : (v.path (k :: ks) : Run Value) = w.path ks := by
  subst h
  exact path_append [k] ks (path_of_getPath hw)

theorem verifyPostcondition_passed {P : Platform} {plan after mutation : Value} {valid : Bool}
    {checks : List VerificationCheck} {e c : Text}
    (h : verifyPostcondition P plan valid after mutation = .ok checks)
    (hall : checks.all (fun check => check.passed) = true)
    (he : plan.getPath ["expectedBefore", "entityUrn"] = .str e)
    (hc : plan.getPath ["expectedBefore", "columnPath"] = .str c) :
    ∃ request, Passed P plan after mutation request := by
  obtain ⟨before, hbefore, h⟩ := bind_eq_ok.mp h
  obtain ⟨urns, -, h⟩ := bind_eq_ok.mp h
  obtain ⟨tag, -, h⟩ := bind_eq_ok.mp h
  obtain ⟨request, hrequest, h⟩ := bind_eq_ok.mp h
  obtain ⟨requestDigest, hdigest, h⟩ := bind_eq_ok.mp h
  obtain ⟨targetUnchanged, htarget, h⟩ := bind_eq_ok.mp h
  obtain ⟨tags, -, h⟩ := bind_eq_ok.mp h
  obtain ⟨preserved, -, h⟩ := bind_eq_ok.mp h
  obtain ⟨tagPresent, -, h⟩ := bind_eq_ok.mp h
  obtain ⟨expectedAfter, hafter, h⟩ := bind_eq_ok.mp h
  obtain ⟨exactAfter, hexact, h⟩ := bind_eq_ok.mp h
  obtain ⟨bound, hbound, h⟩ := bind_eq_ok.mp h
  obtain ⟨_, -, h⟩ := bind_eq_ok.mp h
  obtain ⟨_, -, h⟩ := bind_eq_ok.mp h
  obtain ⟨_, -, h⟩ := bind_eq_ok.mp h
  obtain ⟨_, -, h⟩ := bind_eq_ok.mp h
  obtain rfl := Except.ok.inj h
  simp only [List.all_cons, List.all_nil, Bool.and_true, Bool.and_eq_true] at hall
  obtain ⟨rfl, -, -, rfl, rfl⟩ := hall
  obtain ⟨hent, hcol⟩ := andM_eq_true.mp htarget
  obtain ⟨-, hack⟩ := andM_eq_true.mp hbound
  obtain ⟨-, rfl⟩ := digest_eq_ok.mp hdigest
  have hunder : ∀ k, (plan.path ["expectedBefore", k] : Run Value) = before.path [k] := fun k =>
    path_append ["expectedBefore"] [k] hbefore
  have hafter' : (plan.path ["expectedAfter", "digest"] : Run Value) = expectedAfter.path ["digest"] :=
    path_append ["expectedAfter"] ["digest"] hafter
  rw [← hunder] at hent hcol
  refine ⟨request, hrequest, getPath_eq_of_strictEq hent he, getPath_eq_of_strictEq hcol hc, ?_, ?_⟩
  · rw [hafter']
    exact hexact
  · have hack' : eqText (mutation.prop "requestDigest") (digestOf P request)
        = (.ok true : Run Bool) := by
      cases mutation with
      | undefined => exact absurd hack (by simp)
      | _ => exact hack
    exact (prop_eq_ok.mp (eqText_eq_true.mp hack')).2

end Remediation
