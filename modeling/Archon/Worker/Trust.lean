/-
# What the worker may write

The audit worker plans under a policy of its own: one tag, one prefix of dataset names
(`trustedPolicy`).  The plan is stored, and a message later makes the remediation worker execute it.
Between the two lies a store, and nothing on the second path looks at the policy again: the verifiers
compare a `policyDigest` with a `policyDigest`, both of them from the evidence.

So what can be written is what the evidence says (`writesWithinPolicy_iff`): for evidence and a
message the worker accepts, the writes stay within the policy exactly when nothing can be written at
all, or the stored plan itself keeps to the policy.
-/
import Mathlib.Data.List.TakeWhile
import Archon.Remediation.Writes
import Archon.Worker.Remediate

namespace Worker

open Ecma Ecma.Value Remediation Resumption Resumption.Program

/-! ## 1. The policy -/

/-- The argument in `trustedPolicy`. -/
def trustedPolicyInput : TrustedPolicyInput :=
  ⟨js "archon.g6.pii-classification.v1", true, js "urn:li:tag:PII", [js "urn:li:dataset:"]⟩

/-- `trustedPolicy`. -/
def trustedPolicy (P : Platform) : Run Value := createTrustedRemediationPolicy P trustedPolicyInput

theorem trustedPolicy_ok (P : Platform) :
    trustedPolicy P
      = .ok (signed P (policyFields trustedPolicyInput (.arr [lit "urn:li:dataset:"]))) := by
  have hs : uniqueSorted P (.arr (trustedPolicyInput.allowedEntityUrnPrefixes.map .str))
      = .ok (.arr [lit "urn:li:dataset:"]) := uniqueSorted_single P _
  have he : ((Value.arr [lit "urn:li:dataset:"]).every fun p => return isNonEmptyString p : Run Bool)
      = .ok true := rfl
  have hc : Canonicalizable (object (policyFields trustedPolicyInput (.arr [lit "urn:li:dataset:"]))) := by
    simp [policyFields, trustedPolicyInput]
  have h1 : failIf (!nonBlank trustedPolicyInput.policyId) "A trusted policy requires a policyId."
      = .ok () := rfl
  have h2 : failIf (!isTagUrn trustedPolicyInput.classificationTagUrn)
      "The classification tag must be a DataHub tag URN." = .ok () := rfl
  rw [trustedPolicy, createTrustedRemediationPolicy, h1, h2]
  simp only [ok_bind, hs, he]
  exact sign_eq_ok.mpr ⟨hc, rfl⟩

/-- A request that keeps to a policy: every tag is the policy's, and every entity has one of its
prefixes. -/
structure KeepsTo (policy : Value) (tags entities : List Value) : Prop where
  tags : ∀ tag ∈ tags, tag = policy.getPath ["classificationTagUrn"]
  entities : ∀ entity ∈ entities, ∃ urn prefixes start,
    entity = .str urn ∧ policy.getPath ["allowedEntityUrnPrefixes"] = .arr prefixes ∧
      .str start ∈ prefixes ∧ start.isPrefixOf urn = true

/-! ## 2. What binding establishes -/

/-- The artifacts in the evidence. -/
abbrev storedDossier (evidence : Value) : Value := evidence.getPath ["remediation", "dossier"]

abbrev storedPlan (evidence : Value) : Value := evidence.getPath ["remediation", "plan"]

abbrev storedRequest (evidence : Value) : Value := evidence.getPath ["remediation", "approvalRequest"]

section Binding

variable {P : Platform} {message : RemediationQueueMessage} {evidence : Value}

/-- The artifacts verify and are bound to each other. -/
structure Bound (P : Platform) (evidence : Value) : Prop where
  dossier : verifyEvidenceDossier P (storedDossier evidence) = .ok true
  plan : verifyRemediationPlan P (storedPlan evidence) = .ok true
  request : verifyApprovalRequest P (storedRequest evidence) = .ok true
  planDossier : eqValue ((storedPlan evidence).path ["dossierDigest"])
    ((storedDossier evidence).path ["digest"]) = (.ok true : Run Bool)
  requestDossier : eqValue ((storedRequest evidence).path ["dossierDigest"])
    ((storedDossier evidence).path ["digest"]) = (.ok true : Run Bool)
  requestPlan : eqValue ((storedRequest evidence).path ["planDigest"])
    ((storedPlan evidence).path ["digest"]) = (.ok true : Run Bool)
  requestCatalog : eqValue ((storedRequest evidence).path ["actionCatalogDigest"])
    ((storedPlan evidence).path ["actionCatalogDigest"]) = (.ok true : Run Bool)
  requestBefore : eqValue ((storedRequest evidence).path ["expectedBeforeDigest"])
    ((storedPlan evidence).path ["expectedBefore", "digest"]) = (.ok true : Run Bool)

theorem actionableValid_bound {remediation : Value} (hv : evidence.getPath ["remediation"] = remediation)
    (h : actionableValid P remediation = .ok true) : Bound P evidence := by
  subst hv
  simp only [actionableValid, andM_eq_true] at h
  obtain ⟨-, hd, hp, hr, h1, h2, h3, h4, h5⟩ := h
  obtain ⟨d, hd', hd⟩ := bind_eq_ok.mp hd
  obtain ⟨p, hp', hp⟩ := bind_eq_ok.mp hp
  obtain ⟨r, hr', hr⟩ := bind_eq_ok.mp hr
  have ed : storedDossier evidence = d := getPath_of_path (v := evidence.getPath ["remediation"]) hd'
  have ep : storedPlan evidence = p := getPath_of_path (v := evidence.getPath ["remediation"]) hp'
  have er : storedRequest evidence = r := getPath_of_path (v := evidence.getPath ["remediation"]) hr'
  have pd := fun ks => path_append (w := d) ["dossier"] ks hd'
  have pp := fun ks => path_append (w := p) ["plan"] ks hp'
  have pr := fun ks => path_append (w := r) ["approvalRequest"] ks hr'
  have dd := pd ["digest"]
  have pq := pp ["digest"]
  have p1 := pp ["dossierDigest"]
  have p2 := pp ["actionCatalogDigest"]
  have p3 := pp ["expectedBefore", "digest"]
  have r1 := pr ["dossierDigest"]
  have r2 := pr ["planDigest"]
  have r3 := pr ["actionCatalogDigest"]
  have r4 := pr ["expectedBeforeDigest"]
  simp only [List.cons_append, List.nil_append] at dd pq p1 p2 p3 r1 r2 r3 r4
  rw [dd] at h1 h2
  rw [p1] at h1
  rw [r1] at h2
  rw [r2, pq] at h3
  rw [r3, p2] at h4
  rw [r4, p3] at h5
  rw [← ed] at hd h1 h2
  rw [← ep] at hp h1 h3 h4 h5
  rw [← er] at hr h2 h3 h4 h5
  exact ⟨hd, hp, hr, h1, h2, h3, h4, h5⟩

/-- **What a worker knows of evidence its message is bound to.** -/
theorem boundToEvidence_bound (h : boundToEvidence P message evidence = true) : Bound P evidence := by
  simp only [boundToEvidence, verifyAuditEvidence, Bool.and_eq_true, orFalse_eq_true] at h
  obtain ⟨⟨⟨⟨⟨-, hv⟩, -⟩, hact⟩, -⟩, -⟩ := h
  obtain ⟨-, hdisp⟩ := andM_eq_true.mp hv
  obtain ⟨remediation, hrem, hdisp⟩ := bind_eq_ok.mp hdisp
  have hr := getPath_of_path hrem
  obtain ⟨manual, hmanual, hdisp⟩ := bind_eq_ok.mp hdisp
  have hact' : remediation.getPath ["disposition"] = lit "ACTIONABLE" := by
    rw [← hr]
    exact isText_iff.mp hact
  cases manual with
  | true =>
    have hm := getPath_of_path (eqText_eq_true.mp hmanual)
    rw [hact'] at hm
    exact absurd (js_inj.mp (Value.str.inj hm)) (by decide)
  | false => exact actionableValid_bound hr hdisp

theorem Bound.binds (h : Bound P evidence) :
    requestBindsPlan P (decisionInput message evidence).request (decisionInput message evidence).plan
      = .ok true := by
  simp only [requestBindsPlan, andM_eq_true]
  exact ⟨h.request, h.plan, h.requestPlan, h.requestCatalog, h.requestBefore⟩

/-! ## 3. What the loop is given -/

/-- The decision the worker signs. -/
def preparedDecision (P : Platform) (message : RemediationQueueMessage) (evidence : Value) : Value :=
  signed P (approvalDecisionFields (decisionInput message evidence) (.arr [lit "DataSteward"]))

/-- The argument of the loop. -/
def preparedInput (P : Platform) (message : RemediationQueueMessage) (evidence : Value) :
    ExecuteApprovedRemediationInput where
  artifacts := ⟨storedDossier evidence, storedPlan evidence, storedRequest evidence,
    preparedDecision P message evidence⟩
  idempotencyKey := digestOf P (executionKey message (preparedDecision P message evidence))

theorem preparedDecision_digest : (preparedDecision P message evidence).getPath ["digest"]
    = .str (digestOf P (object (approvalDecisionFields (decisionInput message evidence)
      (.arr [lit "DataSteward"])))) := by
  simp [preparedDecision, getPath, signed, approvalDecisionFields, List.lookup]

/-- **When the loop is started**, and with what. -/
theorem prepare_eq_ok {input : ExecuteApprovedRemediationInput} :
    prepare P message evidence = .ok input ↔
      boundToEvidence P message evidence = true ∧ isDataSteward message.approvalResult.approver = true ∧
      InWindow P (storedRequest evidence) message.approvalResult.decidedAt ∧
      input = preparedInput P message evidence := by
  have hroles : uniqueSorted P (.arr ((decisionInput message evidence).approver.roles.map .str))
      = .ok (.arr [lit "DataSteward"]) := uniqueSorted_single P _
  have hkey : Canonicalizable (executionKey message (preparedDecision P message evidence)) := by
    simp [executionKey, preparedDecision_digest]
  unfold prepare
  constructor
  · intro h
    cases hb : boundToEvidence P message evidence with
    | false => simp [hb, refuse] at h
    | true =>
      simp only [hb, Bool.not_true, Bool.false_eq_true, if_false, pure_eq_ok] at h
      obtain ⟨decision, hd, h⟩ := bind_eq_ok.mp h
      obtain ⟨key, hk, h⟩ := bind_eq_ok.mp h
      obtain ⟨-, hs, hw, roles, hr, hsign⟩ := createApprovalDecision_eq_ok.mp hd
      obtain rfl := Except.ok.inj (hroles.symm.trans hr)
      obtain ⟨-, rfl⟩ := sign_eq_ok.mp hsign
      obtain ⟨-, rfl⟩ := digest_eq_ok.mp hk
      exact ⟨rfl, hs, hw, (Except.ok.inj h).symm⟩
  · rintro ⟨hb, hs, hw, rfl⟩
    have hbinds : requestBindsPlan P (decisionInput message evidence).request
        (decisionInput message evidence).plan = .ok true := (boundToEvidence_bound hb).binds
    have hd : createApprovalDecision P (decisionInput message evidence)
        = .ok (preparedDecision P message evidence) :=
      createApprovalDecision_eq_ok.mpr ⟨hbinds, hs, hw, _, hroles, sign_eq_ok.mpr
        ⟨@approvalDecisionFields_canonical _ _ [js "DataSteward"] hbinds, rfl⟩⟩
    simp only [hb, Bool.not_true, Bool.false_eq_true, if_false, pure_eq_ok, ok_bind, hd,
      digest_ok hkey]
    rfl

theorem nonBlank_of_head {u : UInt16} {t : Text} (h : isSpace u = false) : nonBlank (u :: t) = true := by
  have hdrop : (u :: t).dropWhile isSpace = u :: t := List.dropWhile_cons_of_neg (by simp [h])
  have hne : (u :: t).reverse.dropWhile isSpace ≠ [] := by
    intro hnil
    have hall := List.dropWhile_eq_nil_iff.mp hnil u (by simp)
    rw [h] at hall
    exact absurd hall (by decide)
  rw [nonBlank, trim, hdrop, List.isEmpty_reverse, Bool.not_eq_true', List.isEmpty_eq_false_iff]
  exact hne

theorem nonBlank_digestOf (P : Platform) (v : Value) : nonBlank (digestOf P v) = true :=
  nonBlank_of_head (by decide)

theorem preparedDecision_path {key : String} (h : key ∈ ["approvalId", "requestDigest", "planDigest",
    "decision", "decidedAt"]) : ((preparedDecision P message evidence).path [key] : Run Value)
      = .ok (((approvalDecisionFields (decisionInput message evidence)
        (.arr [lit "DataSteward"])).lookup key).getD .undefined) := by
  simp only [List.mem_cons, List.not_mem_nil, or_false] at h
  rcases h with rfl | rfl | rfl | rfl | rfl <;>
    simp [path, preparedDecision, signed, approvalDecisionFields, List.lookup]

/-- The loop accepts what the worker gives it exactly when plan and dossier were made under one
policy: nothing else is left to check. -/
theorem prepared_accepted_iff (hb : Bound P evidence)
    (hs : isDataSteward message.approvalResult.approver = true)
    (hw : InWindow P (storedRequest evidence) message.approvalResult.decidedAt) :
    approvalArtifactsValid P (preparedInput P message evidence).artifacts = .ok true ↔
      eqValue ((storedPlan evidence).path ["policyDigest"])
        ((storedDossier evidence).path ["policyDigest"]) = (.ok true : Run Bool) := by
  obtain ⟨r⟩ := verifyApprovalRequest_facts hb.request
  obtain ⟨p⟩ := verifyRemediationPlan_facts hb.plan
  obtain ⟨d, hd⟩ := p.digest_eq
  obtain ⟨decided, requested, expires, hdecided, hrequested, hexpires, hle, hle'⟩ := hw
  have hpath := fun key h => @preparedDecision_path P message evidence key h
  have hid := hpath "approvalId" (by simp)
  have hrd := hpath "requestDigest" (by simp)
  have hpd := hpath "planDigest" (by simp)
  have hat := hpath "decidedAt" (by simp)
  simp only [approvalDecisionFields, decisionInput, List.lookup, beq_self_eq_true, Option.getD_some,
    String.reduceBEq] at hid hrd hpd hat
  have hid' : ((storedRequest evidence).path ["approvalId"] : Run Value) = .ok (.str r.approvalId) := by
    rw [path_of_getPath (by rw [r.approvalId_eq]; simp), r.approvalId_eq]
  have hrd' : ((storedRequest evidence).path ["digest"] : Run Value) = .ok (.str r.digest) := by
    rw [path_of_getPath (by rw [r.digest_eq]; simp), r.digest_eq]
  have hpd' : ((storedPlan evidence).path ["digest"] : Run Value) = .ok (.str d) := by
    rw [path_of_getPath (by rw [hd]; simp), hd]
  have hdecision : verifyApprovalDecision P (preparedDecision P message evidence) = .ok true :=
    @signedDecision_verified _ _ [js "DataSteward"] hb.binds hs (by simp)
      (uniqueSorted_single P _) (by
        show (P.dateParse message.approvalResult.decidedAt).isSome = true
        rw [hdecided]; rfl)
  simp only [approvalArtifactsValid, preparedInput, andM_eq_true]
  constructor
  · rintro ⟨-, -, -, -, -, hpolicy, -⟩
    exact hpolicy
  · intro hpolicy
    refine ⟨hb.dossier, hb.plan, hb.request, hdecision, hb.planDossier, hpolicy, hb.requestDossier,
      hb.requestPlan, hb.requestCatalog, hb.requestBefore, ?_, ?_, ?_, ?_, ?_⟩
    · rw [r.approvalId_eq] at hid
      exact eqValue_of_str hid hid'
    · rw [r.digest_eq] at hrd
      exact eqValue_of_str hrd hrd'
    · rw [hd] at hpd
      exact eqValue_of_str hpd hpd'
    · rw [hat, ok_bind, Platform.parseDate_str, ok_bind, r.path_requested, ok_bind, hrequested, ok_bind,
        hdecided]
      exact congrArg Except.ok (decide_eq_true hle)
    · rw [hat, ok_bind, Platform.parseDate_str, ok_bind, r.path_expires, ok_bind, hexpires, ok_bind,
        hdecided]
      exact congrArg Except.ok (decide_eq_true hle')

/-! ## 4. Reaching the write -/

/-- The loop comes to its write only if the evidence and the message let it. -/
structure Writable (P : Platform) (message : RemediationQueueMessage) (evidence : Value) : Prop where
  bound : boundToEvidence P message evidence = true
  steward : isDataSteward message.approvalResult.approver = true
  window : InWindow P (storedRequest evidence) message.approvalResult.decidedAt
  policy : eqValue ((storedPlan evidence).path ["policyDigest"])
    ((storedDossier evidence).path ["policyDigest"]) = (.ok true : Run Bool)
  approved : message.approvalResult.decision = .APPROVE

theorem preparedDecision_isText {t : Text} :
    ((preparedDecision P message evidence).getPath ["decision"]).isText t
      = message.approvalResult.decision.name.isText t := by
  simp [preparedDecision, getPath, signed, approvalDecisionFields, List.lookup, decisionInput]

theorem leasedAddTags_true (request : Value) : leasedAddTags true request =
    .call .assertActive fun answer =>
      match answer with
      | .error error => .done (.ok (.error error))
      | .ok () => .call (.control (.addTags request)) fun r => .done (.ok r) := by
  refine congrArg (Program.call WorkerEffect.assertActive) (funext fun answer => ?_)
  cases answer <;> rfl

/-- A lease that is renewed lets the port answer. -/
theorem reaches_leasedAddTags (leased : Bool) (request : Value) (r : Run Value) :
    ∃ H, Reaches (leasedAddTags leased request) H (.done (.ok r)) := by
  cases leased with
  | false => exact ⟨_, .step (.refl _)⟩
  | true =>
    rw [leasedAddTags_true]
    have hport : Reaches (.call (.control (.addTags request)) fun r => .done (.ok r) : Working (Run Value))
        [controlled (.addTags request) r] (.done (.ok r)) := .step (.refl _)
    exact ⟨renewed (.ok ()) :: [controlled (.addTags request) r], .step hport⟩

/-- Every history of the loop is answered by some history of the worker. -/
theorem exists_answered (leased : Bool) : ∀ h : History, ∃ H, Answered (answerLoop leased) h H
  | [] => ⟨[], .nil⟩
  | ⟨e, r⟩ :: h => by
    obtain ⟨H, hH⟩ := exists_answered leased h
    have hcall : ∃ H₁, Reaches (answerLoop leased e) H₁ (.done (.ok r)) := by
      cases e with
      | addTags request => exact reaches_leasedAddTags leased request r
      | _ => exact ⟨_, .step (.refl _)⟩
    obtain ⟨H₁, hH₁⟩ := hcall
    exact ⟨H₁ ++ H, .cons hH₁ hH⟩

theorem reaches_getAuditEvidence {α : Type} {digest : Text} {f : Value → Working α} {h : WorkerHistory}
    {q : Working α} (hf : Reaches (f evidence) h q) :
    Reaches (getAuditEvidence digest >>= f) (fetched digest (.ok evidence) :: h) q :=
  .step hf

/-- The write the worker comes to, its lease being renewed. -/
theorem reaches_port (leased : Bool) (hw : Writable P message evidence) {request : Value}
    (hreq : mutationRequest (storedPlan evidence) = .ok request) :
    ∃ H k, Reaches (remediate P leased message) (fetched message.evidenceDigest (.ok evidence) :: H)
      (.call (.control (.addTags request)) k) := by
  have hb := boundToEvidence_bound hw.bound
  have hprep := prepare_eq_ok.mpr ⟨hw.bound, hw.steward, hw.window, rfl⟩
  have hacc := (prepared_accepted_iff hb hw.steward hw.window).mpr hw.policy
  have hdec : ((preparedInput P message evidence).artifacts.decision.getPath ["decision"]).isText
      (js "REJECT") = false := by
    show ((preparedDecision P message evidence).getPath ["decision"]).isText (js "REJECT") = false
    rw [preparedDecision_isText, hw.approved]
    decide
  obtain ⟨h, k, hr⟩ := reaches_write hacc (nonBlank_digestOf P _) hdec hreq
  obtain ⟨H, hH⟩ := exists_answered leased h
  have hloop := hH.reaches hr
  have hport : ∃ H' k', Reaches ((.call (.addTags request) k : Remediating Value).handle
      (answerLoop leased)) H' (.call (.control (.addTags request)) k') := by
    rw [handle_call]
    cases leased with
    | false => exact ⟨[], _, .refl _⟩
    | true =>
      rw [show answerLoop true (.addTags request) = leasedAddTags true request from rfl,
        leasedAddTags_true]
      exact ⟨[renewed (.ok ())], _, .step (.refl _)⟩
  obtain ⟨H', k', hp⟩ := hport
  have hwhole := (hloop.trans hp).bind_left fun receipt =>
    storeOutcome P message evidence (preparedInput P message evidence).artifacts.decision receipt
  exact ⟨H ++ H', _, reaches_getAuditEvidence (reaches_lift hprep hwhole)⟩

/-- And what it has to have, once it is there. -/
theorem writable_of_reaches {leased : Bool} {H : WorkerHistory} {request : Value}
    {k : Run Value → Working Value}
    (hr : Reaches (remediate P leased message) (fetched message.evidenceDigest (.ok evidence) :: H)
      (.call (.control (.addTags request)) k)) :
    Writable P message evidence ∧ mutationRequest (storedPlan evidence) = .ok request := by
  obtain ⟨evidence', input, h, running, b, current, hready, hreq⟩ :=
    (remediate_obeys P leased message).call_of_reaches hr
  obtain ⟨H', hH'⟩ := running.fetched
  obtain ⟨hev, -⟩ := List.cons.inj hH'
  have he : evidence' = evidence := by
    have := Sigma.mk.inj hev
    exact (Except.ok.inj (eq_of_heq this.2)).symm
  subst he
  obtain ⟨hb, hs, hw, rfl⟩ := prepare_eq_ok.mp running.prepared
  have hbound := boundToEvidence_bound hb
  refine ⟨⟨hb, hs, hw, (prepared_accepted_iff hbound hs hw).mp ?_, ?_⟩, hreq⟩
  · cases hready with
    | mk due _ =>
      obtain ⟨startedAt, claim, begun⟩ := due.granted.begun
      exact begun.accepted
  · cases hready with
    | mk due _ =>
      have happ := due.approved
      have hdec : message.approvalResult.decision.name.isText (js "REJECT") = false := by
        rw [← @preparedDecision_isText P message evidence' _]
        exact happ
      cases hd : message.approvalResult.decision with
      | APPROVE => rfl
      | REJECT =>
        rw [hd] at hdec
        exact absurd hdec (by decide)

/-! ## 5. Keeping to the policy -/

/-- Every write the worker can make for this evidence keeps to its trusted policy. -/
def WritesWithinPolicy (P : Platform) (leased : Bool) (message : RemediationQueueMessage)
    (evidence : Value) : Prop :=
  ∀ H request k, Reaches (remediate P leased message)
      (fetched message.evidenceDigest (.ok evidence) :: H) (.call (.control (.addTags request)) k) →
    ∃ policy tags entities columns, trustedPolicy P = .ok policy ∧
      request = requestWith tags entities columns ∧ KeepsTo policy tags entities

theorem keepsTo_trusted_iff {tags entities : List Value} :
    KeepsTo (signed P (policyFields trustedPolicyInput (.arr [lit "urn:li:dataset:"]))) tags entities ↔
      (∀ tag ∈ tags, tag = lit "urn:li:tag:PII") ∧
      ∀ entity ∈ entities, ∃ urn, entity = .str urn ∧ (js "urn:li:dataset:").isPrefixOf urn = true := by
  have htag : (signed P (policyFields trustedPolicyInput (.arr [lit "urn:li:dataset:"]))).getPath
      ["classificationTagUrn"] = lit "urn:li:tag:PII" := by
    simp [getPath, signed, policyFields, List.lookup, trustedPolicyInput, lit]
  have hstart : (signed P (policyFields trustedPolicyInput (.arr [lit "urn:li:dataset:"]))).getPath
      ["allowedEntityUrnPrefixes"] = .arr [lit "urn:li:dataset:"] := by
    simp [getPath, signed, policyFields, List.lookup]
  constructor
  · rintro ⟨ht, he⟩
    rw [htag] at ht
    refine ⟨ht, fun entity hm => ?_⟩
    obtain ⟨urn, prefixes, start, rfl, hp, hmem, hpre⟩ := he entity hm
    rw [hstart] at hp
    obtain rfl := Value.arr.inj hp
    obtain rfl := Value.str.inj (List.mem_singleton.mp hmem)
    exact ⟨urn, rfl, hpre⟩
  · rintro ⟨ht, he⟩
    refine ⟨by rwa [htag], fun entity hm => ?_⟩
    obtain ⟨urn, rfl, hpre⟩ := he entity hm
    exact ⟨urn, _, _, rfl, hstart, List.mem_singleton.mpr rfl, hpre⟩

/-- **When writes keep to the policy.**  Exactly when nothing can be written, or every tag of the
stored plan is the policy's and every entity has its prefix. -/
theorem writesWithinPolicy_iff {leased : Bool} {tags entities columns : List Value}
    (hargs : ArgumentArrays (storedPlan evidence) tags entities columns) :
    WritesWithinPolicy P leased message evidence ↔
      ¬ Writable P message evidence ∨
      ((∀ tag ∈ tags, tag = lit "urn:li:tag:PII") ∧
        ∀ entity ∈ entities, ∃ urn, entity = .str urn ∧
          (js "urn:li:dataset:").isPrefixOf urn = true) := by
  have hreq := mutationRequest_arrays hargs
  constructor
  · intro hw
    by_cases hwritable : Writable P message evidence
    · obtain ⟨H, k, hr⟩ := reaches_port leased hwritable hreq
      obtain ⟨policy, ts, es, cs, hpolicy, he, hkeeps⟩ := hw H _ k hr
      obtain rfl := Except.ok.inj ((trustedPolicy_ok P).symm.trans hpolicy)
      obtain ⟨rfl, rfl, rfl⟩ := requestWith_inj.mp he
      exact Or.inr (keepsTo_trusted_iff.mp hkeeps)
    · exact Or.inl hwritable
  · intro hcond H request k hr
    obtain ⟨hwritable, hq⟩ := writable_of_reaches hr
    obtain rfl := Except.ok.inj (hreq.symm.trans hq)
    rcases hcond with hnot | hkeeps
    · exact absurd hwritable hnot
    · exact ⟨_, tags, entities, columns, trustedPolicy_ok P, rfl, keepsTo_trusted_iff.mpr hkeeps⟩

end Binding

/-! ## 6. Evidence of an issue -/

section Stored

variable {P : Platform} (i : Issue P)

/-- The audit request in the evidence. -/
def storedAuditRequest : Value :=
  object [("schemaVersion", lit "archon.audit-request/v1"), ("requestId", lit "request-0001"),
    ("requestedAt", lit "2026-07-14T09:59:00.000Z")]

/-- The execution an issue belongs to. -/
def storedExecutionId : Text :=
  js "arn:aws:states:eu-west-1:111111111111:execution:archon-control-loop:execution-0001"

/-- The members of the evidence without its digest. -/
def evidenceFields : List (String × Value) :=
  [("schemaVersion", lit "archon.audit-evidence/v1"), ("executionId", .str storedExecutionId),
    ("request", storedAuditRequest), ("releaseSha", lit "0123456"), ("report", emptyReport),
    ("reportDigest", .str (digestOf P emptyReport)),
    ("remediation", object [("disposition", lit "ACTIONABLE"), ("dossier", i.dossier), ("plan", i.plan),
      ("approvalRequest", i.request)]),
    ("createdAt", lit "2026-07-14T10:00:00.000Z")]

/-- The evidence. -/
def storedEvidence : Value := signed P (evidenceFields i)

/-- The approval of an issue. -/
def approvalIdOf : Text := shortId "approval-" (digestOf P (object i.requestFields))

/-- A message about it, with an answer. -/
def messageAbout (decision : Decision) : RemediationQueueMessage where
  taskToken := js "opaque-remediation-task-token-0001"
  executionId := storedExecutionId
  approvalId := approvalIdOf i
  planDigest := digestOf P (object i.planFields)
  evidenceDigest := digestOf P (object (evidenceFields i))
  approvalResult := ⟨approvalIdOf i, decision, js "steward", js "https://issuer.example", i.decidedAt⟩

theorem emptyReport_canonical : Canonicalizable emptyReport := by decide

theorem identified_canonical {kind key : String} {fields : List (String × Value)}
    (h : Canonicalizable (object fields)) : Canonicalizable (identified P kind key fields) := by
  simpa [identified, or_imp, forall_and] using h

theorem evidenceFields_canonical : Canonicalizable (object (evidenceFields i)) := by
  have hd : Canonicalizable i.dossier := identified_canonical i.dossier_canonical
  have hp : Canonicalizable i.plan := identified_canonical i.plan_canonical
  have hr : Canonicalizable i.request := identified_canonical i.request_canonical
  simp [evidenceFields, storedAuditRequest, emptyReport_canonical, hd, hp, hr]

theorem storedEvidence_getPath {key : String} (h : key ≠ "digest") :
    (storedEvidence i).getPath [key] = ((evidenceFields i).lookup key).getD .undefined := by
  have hd : (key == "digest") = false := by simpa using h
  have hlast : ∀ v : Value, List.lookup key [("digest", v)] = none := fun v => by simp [List.lookup, hd]
  simp [storedEvidence, getPath, signed, List.lookup_append, hlast]

theorem storedEvidence_remediation : (storedEvidence i).getPath ["remediation"]
    = object [("disposition", lit "ACTIONABLE"), ("dossier", i.dossier), ("plan", i.plan),
      ("approvalRequest", i.request)] := by
  rw [storedEvidence_getPath i (by decide)]
  rfl

theorem storedEvidence_envelope : envelopeValid P (storedEvidence i) = .ok true := by
  have hpath : ∀ key : String, ((storedEvidence i).path [key] : Run Value)
      = .ok ((storedEvidence i).getPath [key]) := fun key => by
    simp [path, getPath, storedEvidence, signed]
  have hpayload : evidencePayload (storedEvidence i) = .ok (object (evidenceFields i)) := by
    rw [evidencePayload, withoutDigest, without_eq_ok]
    exact ⟨rfl, rest_signed (by simp [evidenceFields])⟩
  have hdigest : (storedEvidence i).getPath ["digest"]
      = .str (digestOf P (object (evidenceFields i))) := by
    simp [storedEvidence, getPath, signed, evidenceFields, List.lookup]
  have hreport : (storedEvidence i).getPath ["report"] = emptyReport := by
    rw [storedEvidence_getPath i (by decide)]; rfl
  have hreportDigest : (storedEvidence i).getPath ["reportDigest"] = .str (digestOf P emptyReport) := by
    rw [storedEvidence_getPath i (by decide)]; rfl
  have hrequest : (storedEvidence i).getPath ["request"] = storedAuditRequest := by
    rw [storedEvidence_getPath i (by decide)]; rfl
  have hversion : ((storedEvidence i).path ["request", "schemaVersion"] : Run Value)
      = .ok (lit "archon.audit-request/v1") := by
    rw [path_under hrequest (by simp [storedAuditRequest])]
    simp [path, storedAuditRequest, List.lookup]
  simp only [envelopeValid, andM_eq_true]
  refine ⟨?_, ?_, ?_, ?_, ?_⟩
  · rw [hpayload, ok_bind, hpath, hdigest, ok_bind]
    exact verifyDigest_eq_true.mpr ⟨evidenceFields_canonical i, rfl⟩
  · rw [hpath, hreport, ok_bind, digest_ok emptyReport_canonical, ok_bind, hpath, hreportDigest]
    exact eqText_eq_true.mpr rfl
  · rw [hpath, hrequest]; rfl
  · rw [hversion]; exact eqText_eq_true.mpr rfl
  · rw [hpath, hreport, ok_bind, emptyReport_accepted]; rfl

theorem storedEvidence_disposition : dispositionValid P (storedEvidence i) = .ok true := by
  have hrem : ((storedEvidence i).path ["remediation"] : Run Value) = .ok (object
      [("disposition", lit "ACTIONABLE"), ("dossier", i.dossier), ("plan", i.plan),
        ("approvalRequest", i.request)]) := by
    rw [path_of_getPath (by rw [storedEvidence_remediation]; simp), storedEvidence_remediation]
  have hmanual : eqText ((object [("disposition", lit "ACTIONABLE"), ("dossier", i.dossier),
      ("plan", i.plan), ("approvalRequest", i.request)]).path ["disposition"]) (js "MANUAL_ONLY")
        = (.ok false : Run Bool) := by
    simp [path, List.lookup, eqText, isText, strictEq, lit]
  rw [dispositionValid, hrem, ok_bind, hmanual, ok_bind, if_neg (by decide)]
  have hdossier : ∀ ks, ((object [("disposition", lit "ACTIONABLE"), ("dossier", i.dossier),
      ("plan", i.plan), ("approvalRequest", i.request)]).path ("dossier" :: ks) : Run Value)
        = i.dossier.path ks := fun ks => by simp [path, List.lookup]
  have hplan : ∀ ks, ((object [("disposition", lit "ACTIONABLE"), ("dossier", i.dossier),
      ("plan", i.plan), ("approvalRequest", i.request)]).path ("plan" :: ks) : Run Value)
        = i.plan.path ks := fun ks => by simp [path, List.lookup]
  have hrequest : ∀ ks, ((object [("disposition", lit "ACTIONABLE"), ("dossier", i.dossier),
      ("plan", i.plan), ("approvalRequest", i.request)]).path ("approvalRequest" :: ks) : Run Value)
        = i.request.path ks := fun ks => by simp [path, List.lookup]
  simp only [actionableValid, hdossier, hplan, hrequest, andM_eq_true]
  refine ⟨?_, ?_, ?_, ?_, eqValue_of_str ?_ i.dossier_digest, eqValue_of_str ?_ i.dossier_digest,
    eqValue_of_str ?_ i.plan_digest, eqValue_of_str (s := ACTION_CATALOG_DIGEST P) ?_ ?_,
    eqValue_of_str (s := i.before.digest) ?_ ?_⟩
  · simp [path, List.lookup, eqText, lit]
  · rw [path, ok_bind, i.dossier_accepted]
  · rw [path, ok_bind, i.plan_accepted]
  · rw [path, ok_bind, i.request_accepted]
  all_goals simp [path, Issue.plan, Issue.request, identified, Issue.planFields, Issue.requestFields,
    List.lookup]

/-- **The evidence of an issue is accepted, and a message about it is bound to it.** -/
theorem messageAbout_bound (decision : Decision) :
    boundToEvidence P (messageAbout i decision) (storedEvidence i) = true := by
  have hdigest : (storedEvidence i).getPath ["digest"]
      = .str (digestOf P (object (evidenceFields i))) := by
    simp [storedEvidence, getPath, signed, evidenceFields, List.lookup]
  have hversion : (storedEvidence i).getPath ["schemaVersion"] = lit "archon.audit-evidence/v1" := by
    rw [storedEvidence_getPath i (by decide)]; rfl
  have hexec : (storedEvidence i).getPath ["executionId"] = .str storedExecutionId := by
    rw [storedEvidence_getPath i (by decide)]; rfl
  have hrem : ∀ ks, (storedEvidence i).getPath ("remediation" :: ks) = (object
      [("disposition", lit "ACTIONABLE"), ("dossier", i.dossier), ("plan", i.plan),
        ("approvalRequest", i.request)]).getPath ks := fun ks => by
    rw [getPath_head, storedEvidence_remediation]
  have hvalid : orFalse (envelopeValid P (storedEvidence i) <&&> dispositionValid P (storedEvidence i))
      = true :=
    orFalse_eq_true.mpr (andM_eq_true.mpr ⟨storedEvidence_envelope i, storedEvidence_disposition i⟩)
  have hrecord : isRecord (storedEvidence i) = true := rfl
  simp only [boundToEvidence, verifyAuditEvidence, hrecord, hversion, hdigest, hvalid, hexec, hrem,
    Bool.and_eq_true, isText_iff]
  refine ⟨⟨⟨⟨⟨⟨⟨⟨trivial, rfl⟩, rfl⟩, rfl⟩, trivial⟩, rfl⟩, ?_⟩, ?_⟩, ?_⟩
  · simp [getPath, List.lookup, lit]
  · simp [getPath, List.lookup, Issue.plan, identified, Issue.planFields, messageAbout]
  · simp [getPath, List.lookup, Issue.request, identified, Issue.requestFields, messageAbout, approvalIdOf]

theorem storedPlan_about : storedPlan (storedEvidence i) = i.plan := by
  rw [storedPlan, getPath_head, storedEvidence_remediation]
  simp [getPath, List.lookup]

theorem writable_about :
    Writable P (messageAbout i .APPROVE) (storedEvidence i) := by
  have hreq : storedRequest (storedEvidence i) = i.request := by
    rw [storedRequest, getPath_head, storedEvidence_remediation]
    simp [getPath, List.lookup]
  have hdossier : storedDossier (storedEvidence i) = i.dossier := by
    rw [storedDossier, getPath_head, storedEvidence_remediation]
    simp [getPath, List.lookup]
  have hrequestedAt : i.request.getPath ["requestedAt"] = .str i.requestedAt := by
    simp [getPath, Issue.request, identified, Issue.requestFields, List.lookup]
  have hexpiresAt : i.request.getPath ["expiresAt"] = .str i.expiresAt := by
    simp [getPath, Issue.request, identified, Issue.requestFields, List.lookup]
  refine ⟨messageAbout_bound i _, ?_, ⟨i.decided, i.requested, i.expires, i.decided_eq, ?_, ?_,
    i.requested_le, i.decided_le⟩, ?_, rfl⟩
  · show (true && [js "DataSteward"].contains (js "DataSteward") && nonBlank (js "steward") &&
      nonBlank (js "https://issuer.example")) = true
    decide
  · rw [hreq, hrequestedAt, Platform.parseDate_str, i.requested_eq]
  · rw [hreq, hexpiresAt, Platform.parseDate_str, i.expires_eq]
  · rw [storedPlan_about, hdossier]
    refine eqValue_of_str (s := digestOf P (lit "policy")) ?_ ?_ <;>
      simp [path, Issue.plan, Issue.dossier, identified, Issue.planFields, Issue.dossierFields, List.lookup]

end Stored

/-! ## 7. A plan for another tag -/

/-- An approved issue on the sample's field, for any tag. -/
def taggedIssue (tag : Text) (ht : nonBlank tag = true) : Issue .node where
  __ := Issue.sample [] (js "APPROVE")
  after := projection .node (js "urn:li:dataset:crm.contacts") (js "email") [tag]
    Issue.sampleBefore.entityUrn_nonBlank Issue.sampleBefore.columnPath_nonBlank (by simpa using ht) (uniqueSorted_single _ _)
  tag := tag
  after_canonical := Issue.signed_canonical (by simp [projectionFields])
  after_entityUrn := rfl
  after_columnPath := rfl
  after_tags := uniqueSorted_single _ _

theorem argumentArrays_tagged (tag : Text) (ht : nonBlank tag = true) :
    ArgumentArrays (storedPlan (storedEvidence (taggedIssue tag ht))) [.str tag]
      [lit "urn:li:dataset:crm.contacts"] [lit "email"] := by
  rw [storedPlan_about]
  exact argumentArrays_inputOf (taggedIssue tag ht)

/-- A plan for the policy's own tag stays within the policy. -/
theorem writesWithinPolicy_pii : WritesWithinPolicy .node true
    (messageAbout (taggedIssue (js "urn:li:tag:PII") (by decide)) .APPROVE)
    (storedEvidence (taggedIssue (js "urn:li:tag:PII") (by decide))) :=
  (writesWithinPolicy_iff (argumentArrays_tagged _ _)).mpr (Or.inr ⟨by simp [lit], by
    intro entity hm
    obtain rfl := List.mem_singleton.mp hm
    exact ⟨_, rfl, by decide⟩⟩)

/-! ### The queue delivers the message -/

theorem digestOf_units {P : Platform} {v : Value} {u : UInt16} (h : u ∈ digestOf P v) :
    u = 0x3A ∨ isAlphanumeric u = true := by
  have hp : digestPrefix = [0x73, 0x68, 0x61, 0x32, 0x35, 0x36, 0x3A] := by decide
  have hletters : ([0x73, 0x68, 0x61, 0x32, 0x35, 0x36, 0x3A] : Text).all
      (fun w => w == 0x3A || isAlphanumeric w) = true := by decide
  have halnum : ∀ w, isHexDigit w = true → isAlphanumeric w = true := by
    intro w hw
    simp only [isHexDigit, isAlphanumeric, isUpper, isLower, isDigit, Bool.or_eq_true, Bool.and_eq_true,
      decide_eq_true_eq] at hw ⊢
    rcases hw with hw | hw
    · exact Or.inr hw
    · exact Or.inl (Or.inr ⟨hw.1, UInt16.le_trans hw.2 (by decide)⟩)
  rw [digestOf, hp] at h
  rcases List.mem_append.mp h with h | h
  · simpa using List.all_eq_true.mp hletters u h
  · exact Or.inr (halnum u (List.all_eq_true.mp (P.sha256_hex _) u h))

theorem length_digestOf (P : Platform) (v : Value) : (digestOf P v).length = 71 := by
  have hp : digestPrefix.length = 7 := by decide
  rw [digestOf, List.length_append, P.sha256_length, hp]

theorem not_control_of_alphanumeric {u : UInt16} (h : u = 0x3A ∨ u = 0x2D ∨ isAlphanumeric u = true) :
    (decide (u ≤ 0x1F) || u == 0x7F) = false := by
  rcases h with rfl | rfl | h
  · decide
  · decide
  · simp only [isAlphanumeric, isUpper, isLower, isDigit, Bool.or_eq_true, Bool.and_eq_true,
      decide_eq_true_eq] at h
    have hle : ∀ {a b : UInt16}, a ≤ b ↔ a.toNat ≤ b.toNat := UInt16.le_iff_toNat_le
    simp only [hle] at h
    simp only [Bool.or_eq_false_iff, decide_eq_false_iff_not, hle, beq_eq_false_iff_ne, ne_eq]
    constructor
    · intro hc
      simp only [UInt16.reduceToNat] at h hc
      omega
    · rintro rfl
      simp at h

theorem digestText_digestOf (P : Platform) (v : Value) (label : String) :
    digestText (.str (digestOf P v)) label = .ok (digestOf P v) := by
  have hc : (digestOf P v).any (fun u => u ≤ 0x1F || u == 0x7F) = false := by
    rw [List.any_eq_false]
    intro u hu
    rw [Bool.not_eq_true]
    rcases digestOf_units hu with h | h
    · exact not_control_of_alphanumeric (Or.inl h)
    · exact not_control_of_alphanumeric (Or.inr (Or.inr h))
  simp [digestText, stringValue, length_digestOf, hc, isDigestText_digestOf, invalidIf]

theorem identifier_shortId (P : Platform) (v : Value) (label : String) :
    identifier (.str (shortId "approval-" (digestOf P v))) label
      = .ok (shortId "approval-" (digestOf P v)) := by
  have hlen : (shortId "approval-" (digestOf P v)).length = 33 := by
    have h1 : (js "approval-").length = 9 := by decide
    rw [shortId, slice, List.length_append, h1, List.length_drop, List.length_take, length_digestOf]
    rfl
  have hletters : (js "approval-").all (fun w => w == 0x2D || isAlphanumeric w) = true := by decide
  have hunits : ∀ u ∈ shortId "approval-" (digestOf P v),
      u = 0x3A ∨ u = 0x2D ∨ isAlphanumeric u = true := by
    intro u hu
    rcases List.mem_append.mp hu with hu | hu
    · exact Or.inr (by simpa using List.all_eq_true.mp hletters u hu)
    · rcases digestOf_units (List.mem_of_mem_take (List.mem_of_mem_drop hu)) with h | h
      · exact Or.inl h
      · exact Or.inr (Or.inr h)
  have hc : (shortId "approval-" (digestOf P v)).any (fun u => u ≤ 0x1F || u == 0x7F) = false := by
    rw [List.any_eq_false]
    intro u hu
    rw [Bool.not_eq_true]
    exact not_control_of_alphanumeric (hunits u hu)
  have hall : (shortId "approval-" (digestOf P v)).all (alphanumericOr "._:-") = true := by
    rw [List.all_eq_true]
    intro u hu
    rcases hunits u hu with rfl | rfl | h
    · decide
    · decide
    · simp [alphanumericOr, h]
  have hs : stringValue (.str (shortId "approval-" (digestOf P v))) label 8 160
      = .ok (shortId "approval-" (digestOf P v)) := by
    simp [stringValue, hlen, hc]
  rw [identifier, hs, ok_bind, hall]
  rfl

/-- The approver in the body of a message. -/
def approverInBody : Value :=
  object [("subject", lit "steward"), ("issuer", lit "https://issuer.example"),
    ("roles", .arr [lit "DataSteward"]), ("authenticated", .bool true)]

/-- The decision in the body. -/
def decisionInBody (decidedAt : Text) : Value :=
  object [("decision", lit "APPROVE"), ("approver", approverInBody), ("decidedAt", .str decidedAt)]

/-- The answer of the approval service. -/
def callbackInBody (approvalId decidedAt : Text) : Value :=
  object [("approvalId", .str approvalId), ("decision", decisionInBody decidedAt)]

/-- The body of the queue message about an issue. -/
def bodyAbout {P : Platform} (i : Issue P) : Value :=
  object [("type", lit "REMEDIATION_REQUESTED"), ("taskToken", lit "opaque-remediation-task-token-0001"),
    ("executionId", .str storedExecutionId), ("approvalId", .str (approvalIdOf i)),
    ("planDigest", .str (digestOf P (object i.planFields))),
    ("evidenceDigest", .str (digestOf P (object (evidenceFields i)))),
    ("approvalResult", callbackInBody (approvalIdOf i) i.decidedAt)]

theorem parse_callbackInBody {approvalId : Text}
    (hid : identifier (.str approvalId) "approvalResult.approvalId" = .ok approvalId) :
    parseApprovalCallback .node (callbackInBody approvalId (js "2026-07-14T10:05:00.000Z"))
      = .ok ⟨approvalId, .APPROVE, js "steward", js "https://issuer.example",
        js "2026-07-14T10:05:00.000Z"⟩ := by
  have hat : instantText WorkerPlatform.node.toPlatform (.str (js "2026-07-14T10:05:00.000Z"))
      "approvalResult.decision.decidedAt" = .ok (js "2026-07-14T10:05:00.000Z") := by decide +kernel
  have hissuer : stringValue (lit "https://issuer.example") "approvalResult.decision.approver.issuer" 8 2048
      = .ok (js "https://issuer.example") := by decide +kernel
  have hsubject : stringValue (lit "steward") "approvalResult.decision.approver.subject" 1 256
      = .ok (js "steward") := by decide +kernel
  have hurl : WorkerPlatform.node.parseUrl (js "https://issuer.example")
      = some ⟨js "https:", [], [], [], js "https://issuer.example/"⟩ := by decide +kernel
  have hslash : withoutTrailingSlash (js "https://issuer.example/") = js "https://issuer.example" := by
    decide
  have hk1 : exactKeys (callbackInBody approvalId (js "2026-07-14T10:05:00.000Z"))
      ["approvalId", "decision"] ["approvalId", "decision"] "approvalResult" = .ok () :=
    exactKeys_object _ (by simp) (by simp)
  have hk2 : exactKeys (decisionInBody (js "2026-07-14T10:05:00.000Z"))
      ["decision", "approver", "decidedAt"] ["decision", "approver", "decidedAt"]
      "approvalResult.decision" = .ok () := exactKeys_object _ (by simp) (by simp)
  have hk3 : exactKeys approverInBody ["subject", "issuer", "roles", "authenticated"]
      ["subject", "issuer", "roles", "authenticated"] "approvalResult.decision.approver" = .ok () :=
    exactKeys_object _ (by simp) (by simp)
  have hrecord : ∀ (fields : List (String × Value)) (label : String),
      record (object fields) label = .ok (object fields) := fun _ _ => rfl
  have hdecision : (callbackInBody approvalId (js "2026-07-14T10:05:00.000Z")).getPath ["decision"]
      = decisionInBody (js "2026-07-14T10:05:00.000Z") := by
    simp [callbackInBody, getPath, List.lookup]
  have happrover : (decisionInBody (js "2026-07-14T10:05:00.000Z")).getPath ["approver"]
      = approverInBody := by
    simp [decisionInBody, getPath, List.lookup]
  have hname : decisionOf ((decisionInBody (js "2026-07-14T10:05:00.000Z")).getPath ["decision"])
      = .ok .APPROVE := by
    simp [decisionInBody, getPath, List.lookup, decisionOf, lit]
  have hsteward : holdsDataSteward approverInBody = true := by
    simp [holdsDataSteward, approverInBody, getPath, List.lookup, lit]
  have hissuer' : approverInBody.getPath ["issuer"] = lit "https://issuer.example" := by
    simp [approverInBody, getPath, List.lookup]
  have hsubject' : approverInBody.getPath ["subject"] = lit "steward" := by
    simp [approverInBody, getPath, List.lookup]
  have hat' : (decisionInBody (js "2026-07-14T10:05:00.000Z")).getPath ["decidedAt"]
      = .str (js "2026-07-14T10:05:00.000Z") := by
    simp [decisionInBody, getPath, List.lookup]
  have hid' : (callbackInBody approvalId (js "2026-07-14T10:05:00.000Z")).getPath ["approvalId"]
      = .str approvalId := by
    simp [callbackInBody, getPath, List.lookup]
  have hr1 : record (callbackInBody approvalId (js "2026-07-14T10:05:00.000Z")) "approvalResult"
      = .ok (callbackInBody approvalId (js "2026-07-14T10:05:00.000Z")) := hrecord _ _
  have hr2 : record (decisionInBody (js "2026-07-14T10:05:00.000Z")) "approvalResult.decision"
      = .ok (decisionInBody (js "2026-07-14T10:05:00.000Z")) := hrecord _ _
  have hr3 : record approverInBody "approvalResult.decision.approver" = .ok approverInBody := hrecord _ _
  simp only [parseApprovalCallback, hr1, ok_bind, hk1, hdecision, hr2, hk2, hname, happrover, hr3, hk3,
    hsteward, hissuer', hissuer, hurl, hid', hid, hsubject', hsubject, hat', hat, hslash]
  rfl

/-- The parser of the remediation queue accepts it. -/
theorem parse_bodyAbout (tag : Text) (ht : nonBlank tag = true) :
    parseMessageValue .node .remediation (bodyAbout (taggedIssue tag ht))
      = .ok (.remediation (messageAbout (taggedIssue tag ht) .APPROVE)) := by
  have hid : ∀ label, identifier (.str (approvalIdOf (taggedIssue tag ht))) label
      = .ok (approvalIdOf (taggedIssue tag ht)) :=
    identifier_shortId Platform.node (object (taggedIssue tag ht).requestFields)
  have hplan := digestText_digestOf Platform.node (object (taggedIssue tag ht).planFields) "planDigest"
  have hevidence := digestText_digestOf Platform.node (object (evidenceFields (taggedIssue tag ht)))
    "evidenceDigest"
  have htoken : taskTokenOf (lit "opaque-remediation-task-token-0001")
      = .ok (js "opaque-remediation-task-token-0001") := by decide +kernel
  have hexec : executionIdOf (.str storedExecutionId) = .ok storedExecutionId := by decide +kernel
  have hcallback := parse_callbackInBody (hid "approvalResult.approvalId")
  have hkeys : exactKeys (bodyAbout (taggedIssue tag ht)) ["type", "taskToken", "executionId", "approvalId",
      "planDigest", "evidenceDigest", "approvalResult"] ["type", "taskToken", "executionId", "approvalId",
      "planDigest", "evidenceDigest", "approvalResult"] "REMEDIATION_REQUESTED" = .ok () :=
    exactKeys_object _ (by simp) (by simp)
  have hrecord : record (bodyAbout (taggedIssue tag ht)) "message"
      = .ok (bodyAbout (taggedIssue tag ht)) := rfl
  have hat : (taggedIssue tag ht).decidedAt = js "2026-07-14T10:05:00.000Z" := rfl
  have htype : invalidIf (!(lit "REMEDIATION_REQUESTED").isText (js "REMEDIATION_REQUESTED"))
      "The remediation queue accepts only REMEDIATION_REQUESTED." = .ok () := by decide
  have ht1 : (bodyAbout (taggedIssue tag ht)).getPath ["type"] = lit "REMEDIATION_REQUESTED" := by
    simp [bodyAbout, getPath, List.lookup]
  have ht2 : (bodyAbout (taggedIssue tag ht)).getPath ["taskToken"]
      = lit "opaque-remediation-task-token-0001" := by
    simp [bodyAbout, getPath, List.lookup]
  have ht3 : (bodyAbout (taggedIssue tag ht)).getPath ["executionId"] = .str storedExecutionId := by
    simp [bodyAbout, getPath, List.lookup]
  have ht4 : (bodyAbout (taggedIssue tag ht)).getPath ["approvalId"]
      = .str (approvalIdOf (taggedIssue tag ht)) := by
    simp [bodyAbout, getPath, List.lookup]
  have ht5 : (bodyAbout (taggedIssue tag ht)).getPath ["planDigest"]
      = .str (digestOf .node (object (taggedIssue tag ht).planFields)) := by
    simp [bodyAbout, getPath, List.lookup]
  have ht6 : (bodyAbout (taggedIssue tag ht)).getPath ["evidenceDigest"]
      = .str (digestOf .node (object (evidenceFields (taggedIssue tag ht)))) := by
    simp [bodyAbout, getPath, List.lookup]
  have ht7 : (bodyAbout (taggedIssue tag ht)).getPath ["approvalResult"]
      = callbackInBody (approvalIdOf (taggedIssue tag ht)) (taggedIssue tag ht).decidedAt := by
    simp [bodyAbout, getPath, List.lookup]
  rw [hat] at ht7
  have hsame : invalidIf (!decide (approvalIdOf (taggedIssue tag ht) = approvalIdOf (taggedIssue tag ht)))
      "approvalResult is not bound to approvalId." = .ok () := by
    rw [invalidIf_eq_ok, decide_eq_true rfl]
    rfl
  have hparsed : parseRemediationMessage .node (bodyAbout (taggedIssue tag ht))
      = .ok (messageAbout (taggedIssue tag ht) .APPROVE) := by
    rw [parseRemediationMessage, hkeys, ok_bind, ht7, hcallback, ok_bind, ht4, hid, ok_bind, hsame, ok_bind, ht2, htoken, ok_bind, ht3,
      hexec, ok_bind, ht5, hplan, ok_bind, ht6, hevidence, ok_bind]
    rfl
  rw [parseMessageValue, hrecord, ok_bind]
  dsimp only
  rw [ht1, htype, ok_bind, hparsed, ok_bind]
  rfl

/-- Evidence whose plan names another tag is accepted, and so is the message about it; the tag is
written. -/
theorem not_writesWithinPolicy_public :
    let i := taggedIssue (js "urn:li:tag:Public") (by decide)
    verifyAuditEvidence .node (storedEvidence i) (messageAbout i .APPROVE).evidenceDigest = true ∧
      parseMessageValue .node .remediation (bodyAbout i) = .ok (.remediation (messageAbout i .APPROVE)) ∧
      ¬ WritesWithinPolicy .node true (messageAbout i .APPROVE) (storedEvidence i) := by
  intro i
  have hbound : boundToEvidence .node (messageAbout i .APPROVE) (storedEvidence i) = true :=
    messageAbout_bound i .APPROVE
  have hargs := argumentArrays_tagged (js "urn:li:tag:Public") (by decide)
  refine ⟨?_, parse_bodyAbout _ _, fun hw => ?_⟩
  · simp only [boundToEvidence, Bool.and_eq_true] at hbound
    exact hbound.1.1.1.1
  · obtain ⟨H, k, hr⟩ := reaches_port true (writable_about i) (mutationRequest_arrays hargs)
    obtain ⟨policy, ts, es, cs, hpolicy, he, hkeeps⟩ := hw H _ k hr
    obtain rfl := Except.ok.inj ((trustedPolicy_ok .node).symm.trans hpolicy)
    obtain ⟨rfl, rfl, rfl⟩ := requestWith_inj.mp he
    have htag := (keepsTo_trusted_iff.mp hkeeps).1 _ (List.mem_singleton.mpr rfl)
    exact absurd (js_inj.mp (Value.str.inj htag)) (by decide)

end Worker
