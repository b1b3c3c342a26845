/-
# What is written

The verifiers compare the FIRST elements of the argument arrays, and the request sends the arrays
whole.  So, for every behaviour of the reader, the mutation port and the journal, a write is
confined to one tag on the dossier's field exactly when the arrays have length one and the plan's
state before is about that field (`writesOnlyTarget_iff`).
-/
import Archon.Remediation.Trace
import Archon.Remediation.Issue

namespace Remediation

open Ecma Ecma.Value Resumption Resumption.Program

variable {P : Platform} {input : ExecuteApprovedRemediationInput}

/-! ## 1. The request -/

/-- A member of the action's arguments. -/
def argument (plan : Value) (member : String) : Value :=
  plan.getPath ["action", "arguments", member]

/-- The three argument members are arrays, of whatever length. -/
structure ArgumentArrays (plan : Value) (tags entities columns : List Value) : Prop where
  tags : argument plan "tag_urns" = .arr tags
  entities : argument plan "entity_urns" = .arr entities
  columns : argument plan "column_paths" = .arr columns

/-- The request with these arrays. -/
def requestWith (tags entities columns : List Value) : Value :=
  object [("tagUrns", .arr tags), ("entityUrns", .arr entities), ("columnPaths", .arr columns)]

theorem requestWith_inj {ts es cs ts' es' cs' : List Value} :
    requestWith ts es cs = requestWith ts' es' cs' ↔ ts = ts' ∧ es = es' ∧ cs = cs' := by
  simp [requestWith, object]

theorem path_argument {plan : Value} {member : String} {items : List Value}
    (h : argument plan member = .arr items) :
    ∃ arguments, (plan.path ["action", "arguments"] : Run Value) = .ok arguments ∧
      (arguments.path [member] : Run Value) = .ok (.arr items) := by
  have hne : plan.getPath ["action", "arguments"] ≠ .undefined := by
    intro hu
    have : argument plan member = (plan.getPath ["action", "arguments"]).getPath [member] := rfl
    rw [this, hu, getPath_undefined] at h
    cases h
  refine ⟨_, path_of_getPath hne, ?_⟩
  have hm : (plan.getPath ["action", "arguments"]).getPath [member] = .arr items := h
  rw [path_of_getPath (by rw [hm]; simp), hm]

theorem mutationRequest_arrays {plan : Value} {ts es cs : List Value}
    (h : ArgumentArrays plan ts es cs) : mutationRequest plan = .ok (requestWith ts es cs) := by
  obtain ⟨args, hargs, ht⟩ := path_argument h.tags
  obtain ⟨args', hargs', he⟩ := path_argument h.entities
  obtain rfl := Except.ok.inj (hargs.symm.trans hargs')
  obtain ⟨args'', hargs'', hc⟩ := path_argument h.columns
  obtain rfl := Except.ok.inj (hargs.symm.trans hargs'')
  simp [mutationRequest, requestOf, hargs, ht, he, hc, requestWith]

/-! ## 2. Reaching the write -/

theorem isExpectedBefore_approved (a : Accepted P input.artifacts) {b : ReceiptBinding}
    (hb : b.artifacts = input.artifacts) :
    isExpectedBefore P b a.plan.before.value = .ok true := by
  have hv : verifyTagProjection P a.plan.before.value = .ok true :=
    verifyTagProjection_eq_true.mpr ⟨a.plan.before, rfl⟩
  have hd : input.artifacts.plan.getPath ["expectedBefore", "digest"]
      = .str (digestOf P (a.plan.before.value.rest ["digest"])) := by
    rw [← a.plan.before.digest_eq, ← a.plan.before_eq]; rfl
  have hp : (a.plan.before.value.path ["digest"] : Run Value)
      = .ok (.str (digestOf P (a.plan.before.value.rest ["digest"]))) := by
    rw [path_of_getPath (by rw [a.plan.before.digest_eq]; simp), a.plan.before.digest_eq]
  have hq : (b.artifacts.plan.path ["expectedBefore", "digest"] : Run Value)
      = .ok (.str (digestOf P (a.plan.before.value.rest ["digest"]))) := by
    rw [hb, path_of_getPath (by rw [hd]; simp), hd]
  exact andM_eq_true.mpr ⟨hv, eqValue_eq_true.mpr ⟨_, _, hp, hq, by simp [strictEq]⟩⟩

/-- The claim of accepted artifacts. -/
def claimOf (a : Accepted P input.artifacts) : ClaimInput :=
  ⟨a.approvalId, digestOf P (input.artifacts.decision.rest ["digest"]), input.idempotencyKey⟩

theorem claimInput_eq (a : Accepted P input.artifacts) : claimInput input = .ok (claimOf a) := by
  simp only [claimInput, a.approvalId_eq, a.decision_digest, stringOf]
  rfl

/-- Accepted artifacts and a key: there is a run that comes past its claim, whatever the claim is
answered.  The clock shows the instant of the decision. -/
theorem reaches_onClaim (a : Accepted P input.artifacts)
    (hacc : approvalArtifactsValid P input.artifacts = .ok true)
    (hkey : nonBlank input.idempotencyKey = true) {answer : ExecutionClaim} {h : History}
    {q : Remediating Value} (hrest : Reaches (onClaim P input a.decidedAt answer) h q) :
    Reaches (executeApprovedRemediation P input)
      (clocked a.decidedAt :: claimed (claimOf a) (.ok answer) :: h) q := by
  have hinstant : instant P (.str a.decidedAt) "startedAt" = .ok a.decided := by
    simp [instant, a.decided_eq]
  have hinstant' : instant P (input.artifacts.decision.getPath ["decidedAt"]) "decidedAt"
      = .ok a.decided := by
    simp [instant, Platform.parseDate, a.decidedAt_eq, a.decided_eq]
  have hartifacts : checkArtifacts P input = .ok () := by
    simp [checkArtifacts, hacc, hkey, rejectIf]
  have hstart : checkStart P input a.decidedAt = .ok () := by
    simp [checkStart, hinstant, hinstant', rejectIf]
  exact reaches_pureRun hartifacts <| reaches_clock a.decidedAt <| reaches_pureRun hstart <|
    reaches_pureRun (claimInput_eq a) <| reaches_claim (.ok answer) <| reaches_pureRun rfl hrest

/-- Accepted artifacts, a key and no rejection: there is a run that comes to the write.  The clock
shows the instant of the decision, the journal grants the claim, and the reader returns the
approved state. -/
theorem reaches_toWrite (a : Accepted P input.artifacts)
    (hacc : approvalArtifactsValid P input.artifacts = .ok true)
    (hkey : nonBlank input.idempotencyKey = true)
    (hdec : (input.artifacts.decision.getPath ["decision"]).isText (js "REJECT") = false)
    {h : History} {q : Remediating Value}
    (hwrite : Reaches (write P (bindingOf input 1 a.decidedAt) a.plan.before.value) h q) :
    ∃ claim, Reaches (executeApprovedRemediation P input)
      (clocked a.decidedAt :: claimed claim (.ok (.CLAIMED 1)) ::
        wasRead (readTarget input) (.ok a.plan.before.value) :: h) q := by
  have hinstant : instant P (.str a.decidedAt) "startedAt" = .ok a.decided := by
    simp [instant, a.decided_eq]
  have hexpires : instant P (input.artifacts.request.getPath ["expiresAt"]) "expiresAt"
      = .ok a.expires := by
    simp [instant, a.expires_eq]
  have htime : isExpired P (bindingOf input 1 a.decidedAt) = .ok false := by
    simp [isExpired, bindingOf, hinstant, hexpires, a.decided_le]
  have hsame := isExpectedBefore_approved a (b := bindingOf input 1 a.decidedAt) rfl
  have hgranted : Reaches (granted P (bindingOf input 1 a.decidedAt))
      (wasRead (readTarget input) (.ok a.plan.before.value) :: h) q := by
    unfold granted
    rw [if_neg (by simpa [bindingOf] using hdec)]
    exact reaches_pureRun htime (reaches_read _ (reaches_pureRun hsame hwrite))
  exact ⟨_, reaches_onClaim a hacc hkey hgranted⟩

/-- Such a run writes. -/
theorem reaches_write (hacc : approvalArtifactsValid P input.artifacts = .ok true)
    (hkey : nonBlank input.idempotencyKey = true)
    (hdec : (input.artifacts.decision.getPath ["decision"]).isText (js "REJECT") = false)
    {request : Value} (hreq : mutationRequest input.artifacts.plan = .ok request) :
    ∃ h k, Reaches (executeApprovedRemediation P input) h (.call (.addTags request) k) := by
  obtain ⟨a⟩ := approvalArtifactsValid_facts hacc
  have hwrite : ∃ k, Reaches (write P (bindingOf input 1 a.decidedAt) a.plan.before.value) []
      (.call (.addTags request) k) := by
    have hr : mutationRequest (bindingOf input 1 a.decidedAt).artifacts.plan = .ok request := hreq
    unfold write
    rw [hr]
    exact ⟨_, Reaches.refl _⟩
  obtain ⟨k, hwrite⟩ := hwrite
  obtain ⟨claim, hreach⟩ := reaches_toWrite a hacc hkey hdec hwrite
  exact ⟨_, k, hreach⟩

/-! ## 3. Confined writes -/

/-- Every write the loop can make names one tag, one entity and one column, the entity and the
column of the dossier's target. -/
def WritesOnlyTarget (P : Platform) (input : ExecuteApprovedRemediationInput) : Prop :=
  ∀ h request k, Reaches (executeApprovedRemediation P input) h (.call (.addTags request) k) →
    ∃ tag entity column, request = requestWith [tag] [entity] [column] ∧
      entity = input.artifacts.dossier.getPath ["target", "entityUrn"] ∧
      column = input.artifacts.dossier.getPath ["target", "columnPath"]

/-- The plan's state before is about the dossier's target. -/
def PlansTarget (a : Artifacts) : Prop :=
  a.plan.getPath ["expectedBefore", "entityUrn"] = a.dossier.getPath ["target", "entityUrn"] ∧
    a.plan.getPath ["expectedBefore", "columnPath"] = a.dossier.getPath ["target", "columnPath"]

/-- **When writes are confined.**  For accepted artifacts: exactly when no write can be made, or
the three argument arrays have length one and the plan is about the dossier's target. -/
theorem writesOnlyTarget_iff {ts es cs : List Value}
    (hacc : approvalArtifactsValid P input.artifacts = .ok true)
    (hargs : ArgumentArrays input.artifacts.plan ts es cs) :
    WritesOnlyTarget P input ↔
      nonBlank input.idempotencyKey = false ∨
      input.artifacts.decision.getPath ["decision"] = lit "REJECT" ∨
      (ts.length = 1 ∧ es.length = 1 ∧ cs.length = 1 ∧ PlansTarget input.artifacts) := by
  obtain ⟨a⟩ := approvalArtifactsValid_facts hacc
  have hreq := mutationRequest_arrays hargs
  have hentity : (Value.arr es).nth 0 = .str a.plan.before.entityUrn := by
    rw [← hargs.entities]; exact a.plan.entityUrn_eq
  have hcolumn : (Value.arr cs).nth 0 = .str a.plan.before.columnPath := by
    rw [← hargs.columns]; exact a.plan.columnPath_eq
  have hbe := a.plan.before_entityUrn
  have hbc := a.plan.before_columnPath
  constructor
  · intro hw
    by_cases hkey : nonBlank input.idempotencyKey = true
    · refine Or.inr ?_
      by_cases hdec : (input.artifacts.decision.getPath ["decision"]).isText (js "REJECT") = true
      · exact Or.inl (isText_iff.mp hdec)
      · refine Or.inr ?_
        obtain ⟨h, k, hr⟩ := reaches_write hacc hkey (by simpa using hdec) hreq
        obtain ⟨tag, entity, column, he, hent, hcol⟩ := hw h _ k hr
        obtain ⟨rfl, rfl, rfl⟩ := requestWith_inj.mp he
        refine ⟨rfl, rfl, rfl, ?_, ?_⟩
        · rw [hbe, ← hent, ← hentity]; rfl
        · rw [hbc, ← hcol, ← hcolumn]; rfl
    · exact Or.inl (by simpa using hkey)
  · intro hcond h request k hr
    obtain ⟨b, current, hready, hq⟩ :=
      (executeApprovedRemediation_obeys P input).call_of_reaches hr
    obtain rfl := Except.ok.inj (hreq.symm.trans hq)
    cases hready with
    | mk due unchanged =>
      rcases hcond with hkey | hdec | ⟨ht, he, hc, hpe, hpc⟩
      · obtain ⟨s, c, begun⟩ := due.granted.begun
        exact absurd begun.nonBlank_key (by simp [hkey])
      · exact absurd (isText_iff.mpr hdec) (by simp [due.approved])
      · obtain ⟨tag, rfl⟩ := List.length_eq_one_iff.mp ht
        obtain ⟨entity, rfl⟩ := List.length_eq_one_iff.mp he
        obtain ⟨column, rfl⟩ := List.length_eq_one_iff.mp hc
        refine ⟨tag, entity, column, rfl, ?_, ?_⟩
        · rw [← hpe, hbe, ← hentity]; rfl
        · rw [← hpc, hbc, ← hcolumn]; rfl

/-- The input with the artifacts of an issue. -/
def inputOf (i : Issue P) : ExecuteApprovedRemediationInput := ⟨i.artifacts, js "execution-key-1"⟩

theorem argumentArrays_inputOf (i : Issue P) : ArgumentArrays (inputOf i).artifacts.plan
    (.str i.tag :: i.moreTags.map .str) (.str i.before.entityUrn :: i.moreEntities.map .str)
    (.str i.before.columnPath :: i.moreColumns.map .str) := by
  constructor <;>
    simp [inputOf, argument, getPath, Issue.artifacts, Issue.plan, Issue.planFields, identified, signed,
      Issue.actionFields, Issue.arguments, List.lookup]

theorem accepted_inputOf (i : Issue P) :
    approvalArtifactsValid P (inputOf i).artifacts = .ok true :=
  i.accepted

theorem plansTarget_inputOf (i : Issue P) (he : i.before.entityUrn = i.found.entityUrn)
    (hc : i.before.columnPath = i.found.columnPath) : PlansTarget (inputOf i).artifacts := by
  have hent := i.before.entityUrn_eq
  have hcol := i.before.columnPath_eq
  constructor <;>
    simp_all [inputOf, getPath, Issue.artifacts, Issue.plan, Issue.planFields, Issue.dossier,
      Issue.dossierFields, identified, List.lookup]

/-- An approved issue for one tag is confined. -/
theorem writesOnlyTarget_sample : WritesOnlyTarget .node (inputOf (.sample [] (js "APPROVE"))) :=
  (writesOnlyTarget_iff (accepted_inputOf _) (argumentArrays_inputOf _)).mpr
    (Or.inr (Or.inr ⟨rfl, rfl, rfl, plansTarget_inputOf _ rfl rfl⟩))

/-- An issue whose arrays name a second tag is accepted, and both tags are written. -/
theorem not_writesOnlyTarget_twoTags :
    approvalArtifactsValid .node (inputOf (.sample [js "urn:li:tag:Public"] (js "APPROVE"))).artifacts
        = .ok true ∧
      ¬ WritesOnlyTarget .node (inputOf (.sample [js "urn:li:tag:Public"] (js "APPROVE"))) := by
  refine ⟨accepted_inputOf _, fun hw => ?_⟩
  have hargs := argumentArrays_inputOf (.sample [js "urn:li:tag:Public"] (js "APPROVE"))
  obtain ⟨h, k, hr⟩ := reaches_write (accepted_inputOf _) (by decide) (by decide +kernel)
    (mutationRequest_arrays hargs)
  obtain ⟨tag, entity, column, he, -, -⟩ := hw h _ k hr
  have hlength := congrArg List.length (requestWith_inj.mp he).1
  simp [Issue.sample] at hlength

end Remediation
