/-
# What a verified receipt of the loop says

When the loop itself issues a receipt with outcome `VERIFIED`, the write was granted, made once,
on the approved state, acknowledged for the approved request, and followed by a read of the same
field with the approved tag added (`verified_means`).  Each of the five checks and of the two
comparisons by digest is weak alone; `verifiedRun_of_passed` is where they are put together.

The first section computes the checks on a projection, in both directions, so that a run that ends
verified can also be exhibited.
-/
import Archon.Remediation.Terminal

namespace Remediation

open Ecma Ecma.Value Resumption Resumption.Program

variable {P : Platform} {input : ExecuteApprovedRemediationInput}

/-! ## 1. The checks on a projection -/

local instance : LawfulBEq Text := inferInstance

/-- The five checks, their evidence aside. -/
def checksOn {plan : Value} (p : PlanFacts P plan) (t : Text) (request : Value)
    (after : TagProjection P) (mutation : Value) (evidence : CheckId → Text) :
    List VerificationCheck :=
  [⟨.TARGET_UNCHANGED, decide (after.entityUrn = p.before.entityUrn) &&
      decide (after.columnPath = p.before.columnPath), evidence .TARGET_UNCHANGED⟩,
    ⟨.PREEXISTING_TAGS_PRESERVED, decide (∀ u ∈ p.before.tags, u ∈ after.tags),
      evidence .PREEXISTING_TAGS_PRESERVED⟩,
    ⟨.POLICY_TAG_PRESENT, decide (t ∈ after.tags), evidence .POLICY_TAG_PRESENT⟩,
    ⟨.NO_UNEXPECTED_TAGS, decide (after.digest = p.after.digest), evidence .NO_UNEXPECTED_TAGS⟩,
    ⟨.APPROVAL_BINDING_VALID, (mutation.getPath ["requestDigest"]).isText (digestOf P request),
      evidence .APPROVAL_BINDING_VALID⟩]

theorem PlanFacts.inverse_canonical {plan : Value} (p : PlanFacts P plan) :
    Canonicalizable (plan.getPath ["action", "inverse"]) := by
  have hne : plan.getPath ["action", "inverse"] ≠ .undefined := by
    intro hu
    have h := p.inverse_tool_eq
    rw [show plan.getPath ["action", "inverse", "tool"]
      = (plan.getPath ["action", "inverse"]).getPath ["tool"] from rfl, hu, getPath_undefined] at h
    cases h
  have haction := p.action_canonical
  have h : Canonicalizable ((plan.getPath ["action"]).getPath ["inverse"]) :=
    Everywhere.getPath haction hne (by decide) (by decide)
  exact h

/-- What has a first element is there to be indexed. -/
theorem index_of_nth {v : Value} {ks : List String} {i : Nat} {t : Text}
    (h : (v.getPath ks).nth i = .str t) :
    ((v.path ks : Run Value) >>= fun w : Value => w.index i) = .ok (.str t) := by
  have hn : (v.getPath ks).isNullish = false := by
    cases hv : v.getPath ks with
    | undefined => rw [hv] at h; cases h
    | null => rw [hv] at h; cases h
    | _ => rfl
  have hne : v.getPath ks ≠ .undefined := by
    intro hu
    rw [hu] at hn
    cases hn
  rw [path_of_getPath hne, ok_bind]
  exact index_eq_ok.mpr ⟨hn, h⟩

theorem verifyPostcondition_projection {plan request mutation : Value} (p : PlanFacts P plan)
    {t : Text} (ht : p.tag = .str t) (hreq : mutationRequest plan = .ok request)
    (after : TagProjection P) (hn : mutation ≠ .null) {e : Text}
    (he : requestEvidence mutation = .ok e) :
    ∃ evidence, verifyPostcondition P plan true after.value mutation
      = .ok (checksOn p t request after mutation evidence) := by
  have hcan := mutationRequest_canonical p hreq
  have hbefore : (plan.path ["expectedBefore"] : Run Value) = .ok p.before.value := by
    rw [path_of_getPath (by rw [p.before_eq]; exact p.before.value_ne_undefined), p.before_eq]
  have hafter : (plan.path ["expectedAfter"] : Run Value) = .ok p.after.value := by
    rw [path_of_getPath (by rw [p.after_eq]; exact p.after.value_ne_undefined), p.after_eq]
  have hafter' : (plan.path ["expectedAfter", "digest"] : Run Value) = .ok (.str p.after.digest) := by
    rw [path_under p.after_eq p.after.value_ne_undefined]
    simp
  have hnth : (plan.getPath ["action", "arguments", "tag_urns"]).nth 0 = .str t := p.tag_eq.trans ht
  obtain ⟨urns, htags, htag⟩ := bind_eq_ok.mp (index_of_nth hnth)
  have hexact : projectionEquals after.value p.after.value
      = .ok (decide (after.digest = p.after.digest)) := by
    simp [projectionEquals, eqValue]
  have hbound : ∀ v : Value, v.isNullish = false →
      (eqText (v.prop "requestDigest") (digestOf P request) : Run Bool)
        = .ok ((v.getPath ["requestDigest"]).isText (digestOf P request)) := by
    intro v hv
    rw [prop_one hv, eqText_ok]
  refine ⟨fun check => check.casesOn
    (js "Observed target \"" ++ after.entityUrn ++ js "#" ++ after.columnPath ++ js "\".")
    (preservedEvidence p.before.tags.length)
    (js "Policy tag " ++ t ++ js " " ++
      (if decide (t ∈ after.tags) then js "is" else js "is not") ++ js " present.")
    (js "After-state digest " ++ after.digest ++ js "; expected " ++ p.after.digest ++ js ".") e, ?_⟩
  simp only [verifyPostcondition, hbefore, ok_bind, htags, htag, hreq, digest_ok hcan, hafter, hexact, he]
  -- the check of the acknowledgement tells `undefined` from an object without the member
  cases mutation with
  | null => exact absurd rfl hn
  | undefined =>
    simp [checksOn, eqValue, targetEvidence, tagEvidence, afterEvidence, hafter', arrayLength,
      getPath_undefined, isText, strictEq]
  | _ =>
    dsimp only
    rw [hbound _ rfl]
    simp [checksOn, eqValue, targetEvidence, tagEvidence, afterEvidence, hafter', arrayLength]

/-! ## 2. The receipt of a judged exit -/

theorem checksDiffer_map : ∀ {cs : List VerificationCheck} {expected : List (CheckId × Bool)},
    cs.map VerificationCheck.checkId = expected.map Prod.fst →
    (checksDiffer (cs.map VerificationCheck.value) expected = .ok false ↔
      cs.map VerificationCheck.passed = expected.map Prod.snd)
  | [], [], _ => by simp [checksDiffer]
  | [], _ :: _, h => by simp at h
  | _ :: _, [], h => by simp at h
  | c :: cs, (id, e) :: es, h => by
    simp only [List.map_cons, List.cons.injEq] at h
    obtain ⟨rfl, h⟩ := h
    have hsame : (eqText (c.value.prop "checkId") c.checkId.name <&&>
        (do return (← c.value.prop "passed").strictEq (.bool e)) : Run Bool)
        = .ok (c.passed == e) := by
      simp [VerificationCheck.value, List.lookup, eqText]
    rw [List.map_cons, checksDiffer, hsame]
    by_cases hp : c.passed = e
    · subst hp
      simpa using checksDiffer_map h
    · simp [hp]

/-- The verifier has nothing against checks that are the expected ones. -/
theorem checkIssues_eq_nil {receipt : Value} {cs : List VerificationCheck}
    {expected : List (CheckId × Bool)} (hn : receipt.isNullish = false)
    (hchecks : receipt.getPath ["checks"] = .arr (cs.map VerificationCheck.value))
    (hexpected : expectedCheckPasses P receipt = .ok expected)
    (hids : cs.map VerificationCheck.checkId = expected.map Prod.fst) :
    checkIssues P receipt = .ok [] ↔ cs.map VerificationCheck.passed = expected.map Prod.snd := by
  have hlength : (cs.map VerificationCheck.value).length = expected.length := by
    have h := congrArg List.length hids
    simpa using h
  have hprop : ((Value.arr (cs.map VerificationCheck.value)).prop "length" : Run Value)
      = .ok (.num (.ofNat expected.length)) := by
    rw [prop_of_not_nullish rfl, get_length_arr, hlength]
  rw [← checksDiffer_map hids]
  simp only [checkIssues, hexpected, ok_bind, path_one hn, hchecks, hprop, ofNat_strictEq_ofNat, if_true]
  rcases checksDiffer (cs.map VerificationCheck.value) expected with e | differ
  · simp
  · cases differ <;> simp [issueIf]

theorem some_all_passed {cs : List VerificationCheck} (h : cs.all (fun c => c.passed) = true) :
    some' (.arr (cs.map VerificationCheck.value)) (fun check => do return !(← check.prop "passed").truthy)
      = .ok false := by
  simp only [some']
  induction cs with
  | nil => rfl
  | cons c cs ih =>
    simp only [List.all_cons, Bool.and_eq_true] at h
    rw [List.map_cons, List.foldr_cons, ih h.2]
    simp [VerificationCheck.value, List.lookup, truthy, h.1]

/-- What the verifier expects of the checks, on the receipt of two projections, the first of which
has the field and the tags of the plan's state before. -/
theorem expectedCheckPasses_eq {b : ReceiptBinding} {t : TerminalInput} {id : Text}
    {events : List Value} {request : Value} (a : Accepted P input.artifacts)
    (hb : b.artifacts = input.artifacts) {u : Text} (htag : a.plan.tag = .str u)
    (hreq : mutationRequest input.artifacts.plan = .ok request) {current after : TagProjection P}
    (hbefore : t.before = current.value) (hafter : t.after = after.value)
    (hent : current.entityUrn = a.plan.before.entityUrn)
    (hcol : current.columnPath = a.plan.before.columnPath) (htags : current.tags = a.plan.before.tags) :
    expectedCheckPasses P (signedReceipt P (receiptInput b t id) events) = .ok
      [(.TARGET_UNCHANGED, decide (after.entityUrn = a.plan.before.entityUrn) &&
          decide (after.columnPath = a.plan.before.columnPath)),
        (.PREEXISTING_TAGS_PRESERVED, decide (∀ v ∈ a.plan.before.tags, v ∈ after.tags)),
        (.POLICY_TAG_PRESENT, decide (u ∈ after.tags)),
        (.NO_UNEXPECTED_TAGS, decide (after.tags = a.plan.after.tags)),
        (.APPROVAL_BINDING_VALID, (t.mutation.getPath ["requestDigest"]).isText (digestOf P request))] := by
  have hm := signedReceipt_members P (receiptInput b t id) events
  have hn : (signedReceipt P (receiptInput b t id) events).isNullish = false := rfl
  have hcan := mutationRequest_canonical a.plan hreq
  have hpathb : ((signedReceipt P (receiptInput b t id) events).path ["before"] : Run Value)
      = .ok current.value := by
    rw [path_one hn, hm.before, receiptInput, hbefore, ifTruthy_of_truthy current.truthy_value]
  have hpatha : ((signedReceipt P (receiptInput b t id) events).path ["after"] : Run Value)
      = .ok after.value := by
    rw [path_one hn, hm.after, receiptInput, hafter, ifTruthy_of_truthy after.truthy_value]
  have hpathm : ((signedReceipt P (receiptInput b t id) events).path ["mutation"] : Run Value)
      = .ok (ifTruthy t.mutation) := by
    rw [path_one hn, hm.mutation, receiptInput]
  have hrd : (ifTruthy t.mutation).getPath ["requestDigest"] = t.mutation.getPath ["requestDigest"] :=
    getPath_ifTruthy t.mutation (by decide) (by decide)
  have hdecision : ((signedReceipt P (receiptInput b t id) events).path ["approvalDecisionDigest"]
      : Run Value) = .ok (input.artifacts.decision.getPath ["digest"]) := by
    rw [path_one hn, hm.approvalDecisionDigest, receiptInput, hb,
      ifTruthy_of_truthy (decision_digest_truthy a)]
  have hrequest := receipt_action hb hm hreq
  obtain ⟨arguments, hargs, hrequest⟩ := bind_eq_ok.mp hrequest
  have haction : (signedReceipt P (receiptInput b t id) events).getPath ["action"]
      = input.artifacts.plan.getPath ["action"] := by
    rw [hm.action, receiptInput, hb]
  have hurns : ((signedReceipt P (receiptInput b t id) events).path ["action", "arguments", "tag_urns"]
      >>= fun v : Value => (v.index 0 : Run Value)) = .ok (.str u) := by
    have h : (signedReceipt P (receiptInput b t id) events).getPath ["action", "arguments", "tag_urns"]
        = input.artifacts.plan.getPath ["action", "arguments", "tag_urns"] := by
      show ((signedReceipt P (receiptInput b t id) events).getPath ["action"]).getPath
        ["arguments", "tag_urns"] = _
      rw [haction]
      rfl
    have hnth : (input.artifacts.plan.getPath ["action", "arguments", "tag_urns"]).nth 0 = .str u :=
      a.plan.tag_eq.trans htag
    rw [← h] at hnth
    exact index_of_nth hnth
  obtain ⟨urns, hurns, htag'⟩ := bind_eq_ok.mp hurns
  have hsorted : uniqueSorted P (.arr (a.plan.before.tags.map .str ++ [.str u]))
      = .ok (.arr a.plan.sorted) := by
    rw [← htag]
    exact a.plan.sorted_eq
  have hexact : decide (stringify (.arr (after.tags.map .str)) = stringify (.arr a.plan.sorted))
      = decide (after.tags = a.plan.after.tags) := by
    rw [← a.plan.after_tags, decide_eq_decide]
    exact ⟨stringify_strings_inj, fun h => by rw [h]⟩
  simp only [expectedCheckPasses, hpathb, hpatha, hurns, htag', hargs, hrequest, ok_bind, digest_ok hcan,
    hpathm, hdecision, hrd, decision_digest_truthy a]
  simp [eqValue, hsorted, hexact, hent, hcol, htags, after.isNullish_eq,
    @eq_comm _ a.plan.before.entityUrn after.entityUrn, @eq_comm _ a.plan.before.columnPath after.columnPath]

theorem verifyPostcondition_ok {plan after mutation : Value} {valid : Bool}
    {cs : List VerificationCheck} (h : verifyPostcondition P plan valid after mutation = .ok cs)
    (hv : valid = true) : mutation ≠ .null ∧ ∃ e, requestEvidence mutation = .ok e := by
  obtain ⟨before, -, h⟩ := bind_eq_ok.mp h
  obtain ⟨urns, -, h⟩ := bind_eq_ok.mp h
  obtain ⟨tag, -, h⟩ := bind_eq_ok.mp h
  obtain ⟨request, -, h⟩ := bind_eq_ok.mp h
  obtain ⟨requestDigest, -, h⟩ := bind_eq_ok.mp h
  obtain ⟨targetUnchanged, -, h⟩ := bind_eq_ok.mp h
  obtain ⟨tags, -, h⟩ := bind_eq_ok.mp h
  obtain ⟨preserved, -, h⟩ := bind_eq_ok.mp h
  obtain ⟨tagPresent, -, h⟩ := bind_eq_ok.mp h
  obtain ⟨expectedAfter, -, h⟩ := bind_eq_ok.mp h
  obtain ⟨exactAfter, -, h⟩ := bind_eq_ok.mp h
  obtain ⟨bound, hbound, h⟩ := bind_eq_ok.mp h
  obtain ⟨_, -, h⟩ := bind_eq_ok.mp h
  obtain ⟨_, -, h⟩ := bind_eq_ok.mp h
  obtain ⟨_, -, h⟩ := bind_eq_ok.mp h
  obtain ⟨e, he, -⟩ := bind_eq_ok.mp h
  refine ⟨?_, e, he⟩
  rintro rfl
  rw [hv] at hbound
  cases hbound

/-- The rollback of a judged exit. -/
def judgedRollback (P : Platform) (plan current : Value) (verified : Bool) : Value :=
  if verified then
    object [("availability", lit "ELIGIBLE"),
      ("inverseActionDigest", .str (digestOf P (plan.getPath ["action", "inverse"]))),
      ("restoreStateDigest", current.getPath ["digest"])]
  else blocked .UNPROVEN_TRANSITION

/-- What the judgement of two projections comes to. -/
theorem judge_projection {plan request mutation : Value} (p : PlanFacts P plan) {u : Text}
    (hu : p.tag = .str u) (hreq : mutationRequest plan = .ok request) {current after : TagProjection P}
    {verified : Bool} {checks rollback : Value}
    (h : judge P plan current.value after.value mutation = .ok (verified, checks, rollback)) :
    ∃ evidence, verified = (checksOn p u request after mutation evidence).all (fun c => c.passed) ∧
      checks = .arr ((checksOn p u request after mutation evidence).map VerificationCheck.value) ∧
      rollback = judgedRollback P plan current.value verified := by
  obtain ⟨cs, hcs, h⟩ := bind_eq_ok.mp h
  obtain ⟨hn, e, he⟩ := verifyPostcondition_ok hcs rfl
  obtain ⟨evidence, hpost⟩ := verifyPostcondition_projection p hu hreq after hn he
  obtain rfl := Except.ok.inj (hpost.symm.trans hcs)
  obtain ⟨rollback', hroll, h⟩ := bind_eq_ok.mp h
  have hparts := Except.ok.inj h
  simp only [Prod.mk.injEq] at hparts
  obtain ⟨hverified, hchecks, hrollback⟩ := hparts
  refine ⟨evidence, hverified.symm, hchecks.symm, ?_⟩
  rw [← hrollback, ← hverified]
  unfold judgedRollback
  split at hroll
  · rename_i hv
    rw [if_pos hv]
    obtain ⟨inverse, hinverse, hroll⟩ := bind_eq_ok.mp hroll
    obtain ⟨d, hd, hroll⟩ := bind_eq_ok.mp hroll
    obtain ⟨-, rfl⟩ := digest_eq_ok.mp hd
    rw [← getPath_of_path hinverse] at hroll
    exact (Except.ok.inj hroll).symm
  · rename_i hv
    rw [if_neg hv]
    exact (Except.ok.inj hroll).symm

/-- The members of the receipt of a judged exit. -/
def judgedTerminal (verified : Bool) (completedAt : Text)
    (current after mutation checks rollback : Value) : TerminalInput :=
  { outcome := if verified then .VERIFIED else .VERIFICATION_FAILED, completedAt := completedAt,
    before := current, after := after, mutation := mutation, checks := checks, rollback := rollback }

/-- **With checks** a terminal receipt is valid when the acknowledgement names the request and the
two ways of comparing the state after, by digest in the loop and by tags in the verifier, agree. -/
theorem judged_valid_iff {b : ReceiptBinding} (a : Accepted P input.artifacts)
    (hb : b.artifacts = input.artifacts) {receipt request mutation checks rollback : Value} {u : Text}
    (hu : a.plan.tag = .str u) (hreq : mutationRequest input.artifacts.plan = .ok request)
    {current after : TagProjection P} (hent : current.entityUrn = a.plan.before.entityUrn)
    (hcol : current.columnPath = a.plan.before.columnPath) (htags : current.tags = a.plan.before.tags)
    {verified : Bool} {completedAt : Text}
    (hjudge : judge P input.artifacts.plan current.value after.value mutation
      = .ok (verified, checks, rollback))
    (h : receiptFor P b (judgedTerminal verified completedAt current.value after.value mutation checks
      rollback) = .ok receipt) :
    receiptValid P receipt = true ↔
      (after.digest = a.plan.after.digest ↔ after.tags = a.plan.after.tags) ∧
      (mutation.truthy = true → mutation.getPath ["requestDigest"] = .str (digestOf P request)) := by
  obtain ⟨evidence, hverified, rfl, hroll⟩ := judge_projection a.plan hu hreq hjudge
  obtain ⟨id, -, hc⟩ := receiptFor_eq_ok h
  obtain ⟨_, events, -, -, -, rfl⟩ := hc.built
  set cs := checksOn a.plan u request after mutation evidence with hcs
  set t := judgedTerminal verified completedAt current.value after.value mutation
    (.arr (cs.map VerificationCheck.value)) rollback with ht
  have hm := signedReceipt_members P (receiptInput b t id) events
  have hn : (signedReceipt P (receiptInput b t id) events).isNullish = false := rfl
  have hcan := mutationRequest_canonical a.plan hreq
  have hexpected : expectedCheckPasses P (signedReceipt P (receiptInput b t id) events) = _ :=
    expectedCheckPasses_eq a hb hu hreq rfl rfl hent hcol htags
  have hbound := requestBound_iff (P := P) mutation (receipt_action hb hm hreq) hcan
  have hchecks : (signedReceipt P (receiptInput b t id) events).getPath ["checks"]
      = .arr (cs.map VerificationCheck.value) := hm.checks
  have hlength : (cs.map VerificationCheck.value).length = 5 := rfl
  have hhas : hasChecks (signedReceipt P (receiptInput b t id) events) = .ok true := by
    rw [hasChecks_arr hchecks, hlength]
    exact exceeds_five
  -- the five expectations are the five checks, but for the way the state after is compared
  have hissues : checkIssues P (signedReceipt P (receiptInput b t id) events) = .ok [] ↔
      (after.digest = a.plan.after.digest ↔ after.tags = a.plan.after.tags) := by
    rw [checkIssues_eq_nil hn hchecks hexpected rfl, hcs]
    simp only [checksOn, List.map_cons, List.map_nil, List.cons.injEq, and_true, true_and, t,
      judgedTerminal, decide_eq_decide]
  have hrollback : (signedReceipt P (receiptInput b t id) events).getPath ["rollback"] = rollback :=
    hm.rollback
  have helig : eqText ((signedReceipt P (receiptInput b t id) events).path ["rollback", "availability"])
      (js "ELIGIBLE") = (.ok verified : Run Bool) := by
    have hne : judgedRollback P input.artifacts.plan current.value verified ≠ .undefined := by
      unfold judgedRollback blocked
      split <;> simp
    rw [rollback_path (hrollback.trans hroll) hne, judgedRollback]
    cases verified with
    | true => simp [path, List.lookup, eqText]
    | false => exact blocked_availability _
  rw [signedReceipt_valid_iff hc, hm.mutation]
  constructor
  · rintro ⟨hrequest, -, ⟨checked, hchecked, hnil⟩, -⟩
    obtain rfl := Except.ok.inj (hhas.symm.trans hchecked)
    exact ⟨hissues.mp (hnil rfl), hbound.mp hrequest⟩
  · rintro ⟨hsame, hmut⟩
    refine ⟨hbound.mpr hmut, fun hout => ?_, ⟨true, hhas, fun _ => hissues.mpr hsame⟩, verified, helig,
      fun hv => ?_⟩
    · have hverified' : verified = true := by
        have hname : t.outcome.name = ExecutionOutcome.VERIFIED.name := hm.outcome.symm.trans hout
        cases verified with
        | true => rfl
        | false => exact absurd (ExecutionOutcome.name_inj.mp hname) (by simp [t, judgedTerminal])
      have hall : cs.all (fun c => c.passed) = true := hverified.symm.trans hverified'
      have hack : (mutation.getPath ["requestDigest"]).isText (digestOf P request) = true := by
        have h := List.all_eq_true.mp hall ⟨.APPROVAL_BINDING_VALID,
          (mutation.getPath ["requestDigest"]).isText (digestOf P request), evidence .APPROVAL_BINDING_VALID⟩
          (by simp [hcs, checksOn])
        exact h
      have hmutation : mutation.truthy = true :=
        truthy_of_get (js "requestDigest") (by
          have h : mutation.get (js "requestDigest") = _ := isText_iff.mp hack
          rw [h]
          simp) (by decide) (by decide)
      have hfive : (signedReceipt P (receiptInput b t id) events).path ["checks"]
          = (.ok (.arr (cs.map VerificationCheck.value)) : Run Value) := by
        rw [path_one hn, hchecks]
      have hprop : ((Value.arr (cs.map VerificationCheck.value)).prop "length" : Run Value)
          = .ok (.num (.ofNat 5)) := by
        rw [prop_of_not_nullish rfl, get_length_arr, hlength]
      rw [verifiedIssues]
      simp only [path_one hn, hm.before, hm.after, hm.mutation, ok_bind, hchecks, hprop,
        ofNat_strictEq_ofNat, if_true, some_all_passed hall, helig, truthy_ifTruthy]
      simp [t, judgedTerminal, receiptInput, hmutation, hverified', issueIf]
    · subst hv
      have hinverse : (signedReceipt P (receiptInput b t id) events).path ["action", "inverse"]
          = (.ok (input.artifacts.plan.getPath ["action", "inverse"]) : Run Value) := by
        have haction : (signedReceipt P (receiptInput b t id) events).getPath ["action"]
            = input.artifacts.plan.getPath ["action"] := by
          rw [hm.action, receiptInput, hb]
        have hcanonical := a.plan.inverse_canonical
        have he : (signedReceipt P (receiptInput b t id) events).getPath ["action", "inverse"]
            = input.artifacts.plan.getPath ["action", "inverse"] := by
          show ((signedReceipt P (receiptInput b t id) events).getPath ["action"]).getPath ["inverse"] = _
          rw [haction]
          rfl
        rw [path_of_getPath, he]
        rw [he]
        intro hu
        rw [hu] at hcanonical
        exact absurd hcanonical (by decide)
      have hne : judgedRollback P input.artifacts.plan current.value true ≠ .undefined := by
        simp [judgedRollback]
      have hdigest : current.value.get (js "digest") = .str current.digest := current.digest_eq
      rw [rollbackBound]
      simp only [path_one hn, hm.before, hm.after, ok_bind, hinverse,
        digest_ok a.plan.inverse_canonical, rollback_path (hrollback.trans hroll) hne, truthy_ifTruthy]
      simp [t, judgedTerminal, receiptInput, judgedRollback, ifTruthy_of_truthy, path, List.lookup,
        eqValue, getPath_cons, getPath_nil, hdigest]

/-! ## 3. Newly issued verified receipts -/

/-- The requests written in a history. -/
def writesOf (h : History) : List Value :=
  h.filterMap fun event =>
    match event with
    | ⟨.addTags request, _⟩ => some request
    | _ => none

theorem writesOf_append (h h' : History) : writesOf (h ++ h') = writesOf h ++ writesOf h' :=
  List.filterMap_append

/-- The ways a worker comes to hold a token it may write with: its claim is granted, or it takes
over a stale lease, finds the approved state and resumes. -/
def GrantedWith (input : ExecuteApprovedRemediationInput) (startedAt : Text) (token : Nat)
    (h : History) : Prop :=
  (∃ claim, h = [clocked startedAt, claimed claim (.ok (.CLAIMED token))]) ∨
    ∃ claim observed, h = [clocked startedAt, claimed claim (.ok (.RECONCILE token)),
      wasRead (readTarget input) (.ok observed), resumed ⟨input.idempotencyKey, token⟩ (.ok true)]

theorem Granted.grantedWith {h : History} {b : ReceiptBinding} (hg : Granted P input h b) :
    b.idempotencyKey = input.idempotencyKey ∧
      GrantedWith input b.startedAt b.fencingToken h := by
  cases hg with
  | claimed begun => exact ⟨rfl, Or.inl ⟨_, rfl⟩⟩
  | resumed recovering unchanged =>
    cases recovering with
    | mk begun => exact ⟨rfl, Or.inr ⟨_, _, rfl⟩⟩

theorem GrantedWith.writesOf_eq {startedAt : Text} {token : Nat} {h : History}
    (hg : GrantedWith input startedAt token h) : writesOf h = [] := by
  rcases hg with ⟨_, rfl⟩ | ⟨_, _, rfl⟩ <;> rfl

/-- The two values are projections of one field with the same tags, and read the same to a digest. -/
structure SameProjection (v w : Value) : Prop where
  entityUrn : v.getPath ["entityUrn"] = w.getPath ["entityUrn"]
  columnPath : v.getPath ["columnPath"] = w.getPath ["columnPath"]
  tags : v.getPath ["tags"] = w.getPath ["tags"]
  digest : v.getPath ["digest"] = w.getPath ["digest"]

/-- What is known of the run that ends in a newly issued verified receipt: `current` was read
before the write, `mutation` acknowledged it, `after` was read after it. -/
structure VerifiedRun (P : Platform) (input : ExecuteApprovedRemediationInput)
    (tag entity column current mutation after : Value) : Prop where
  unchanged : SameProjection current (input.artifacts.plan.getPath ["expectedBefore"])
  acknowledged : mutation.getPath ["requestDigest"]
    = .str (digestOf P (requestWith [tag] [entity] [column]))
  entityUrn : after.getPath ["entityUrn"] = entity
  columnPath : after.getPath ["columnPath"] = column
  tags : ∃ (t : Text) (before now : List Text), tag = .str t ∧
    input.artifacts.plan.getPath ["expectedBefore", "tags"] = .arr (before.map .str) ∧
    after.getPath ["tags"] = .arr (now.map .str) ∧ ∀ u, u ∈ now ↔ u ∈ before ∨ u = t

/-- The plan's two states and a value read are told apart by their digests. -/
def SeparatesStates (P : Platform) (plan v : Value) : Prop :=
  P.Separates (canonicalText (v.rest ["digest"]))
      (canonicalText ((plan.getPath ["expectedBefore"]).rest ["digest"])) ∧
    P.Separates (canonicalText (v.rest ["digest"]))
      (canonicalText ((plan.getPath ["expectedAfter"]).rest ["digest"]))

theorem judge_verified {plan current after mutation checks rollback : Value}
    (h : judge P plan current after mutation = .ok (true, checks, rollback)) :
    ∃ cs, verifyPostcondition P plan true after mutation = .ok cs ∧
      cs.all (fun check => check.passed) = true := by
  obtain ⟨cs, hcs, h⟩ := bind_eq_ok.mp h
  obtain ⟨rollback', -, h⟩ := bind_eq_ok.mp h
  exact ⟨cs, hcs, (Prod.mk.inj (Except.ok.inj h)).1⟩

/-- A projection whose digest is that of an expected state is that state. -/
theorem sameProjection_of_digest {p q : TagProjection P} (hp : Keyed p.value) (hq : Keyed q.value)
    (hsep : P.Separates (canonicalText (p.value.rest ["digest"]))
      (canonicalText (q.value.rest ["digest"])))
    (h : (eqValue (p.value.path ["digest"]) (q.value.path ["digest"]) : Run Bool) = .ok true) :
    SameProjection p.value q.value ∧ p.tags = q.tags := by
  have hd := getPath_eq_of_strictEq h q.digest_eq
  have hdigest : p.digest = q.digest := by
    rw [p.digest_eq, q.digest_eq] at hd
    exact Value.str.inj hd
  obtain ⟨hent, hcol, htags⟩ := TagProjection.eq_of_digest hp hq hsep hdigest
  exact ⟨⟨by rw [p.entityUrn_eq, q.entityUrn_eq, hent],
    by rw [p.columnPath_eq, q.columnPath_eq, hcol], by rw [p.tags_eq, q.tags_eq, htags], hd⟩, htags⟩

/-- An expected state of the plan is read under its name. -/
theorem digestIs_eq {plan v : Value} {member : String} {q : TagProjection P}
    (h : plan.getPath [member] = q.value) : digestIs v plan member
      = eqValue (v.path ["digest"]) (q.value.path ["digest"]) := by
  rw [digestIs, path_under h q.value_ne_undefined]

theorem keyed_expected {plan : Value} {member : String} {q : TagProjection P} (hjson : IsJson plan)
    (h : plan.getPath [member] = q.value) (hidx : arrayIndex (js member) = none)
    (hlen : member ≠ "length") : Keyed q.value := by
  have hne := q.value_ne_undefined
  rw [← h] at hne ⊢
  exact IsJson.keyed (Everywhere.getPath hjson hne (by simpa using hidx) (by simpa using hlen))

/-- Only one of the nine exits issues a verified receipt. -/
theorem Exit.of_verified {h : History} {b : ReceiptBinding} {t : TerminalInput}
    (he : Exit P input h b t) (ho : t.outcome = .VERIFIED) :
    ∃ h' mutation checks rollback completedAt, Acknowledged P input h' b t.before mutation ∧
      judge P input.artifacts.plan t.before t.after mutation = .ok (true, checks, rollback) ∧
      h = h' ++ [wasRead (readTarget input) (.ok t.after), clocked completedAt] := by
  cases he with
  | judged acknowledged judgement =>
    rename_i h' current mutation after checks rollback verified completedAt
    cases verified with
    | true => exact ⟨h', mutation, checks, rollback, completedAt, acknowledged, judgement, rfl⟩
    | false => exact absurd ho (by simp)
  | failed => exact absurd ho (by simp only; split <;> simp)
  | _ => exact absurd ho (by simp)

/-- The two comparisons by digest and the five checks, put together. -/
theorem verifiedRun_of_passed {b : ReceiptBinding} {tag entity column current mutation : Value}
    {after : TagProjection P} (plan : PlanFacts P input.artifacts.plan)
    (hjson : IsJson input.artifacts.plan)
    (hargs : ArgumentArrays input.artifacts.plan [tag] [entity] [column])
    (hb : b.artifacts = input.artifacts)
    (hcurrent : Keyed current ∧ SeparatesStates P input.artifacts.plan current)
    (hafter : Keyed after.value ∧ SeparatesStates P input.artifacts.plan after.value)
    (unchanged : isExpectedBefore P b current = .ok true)
    (passed : Passed P input.artifacts.plan after.value mutation
      (requestWith [tag] [entity] [column])) :
    VerifiedRun P input tag entity column current mutation after.value := by
  -- the state before is the approved one
  obtain ⟨hcur, hsame⟩ := andM_eq_true.mp unchanged
  obtain ⟨current, rfl⟩ := verifyTagProjection_eq_true.mp hcur
  obtain ⟨hkeyed, hsep, -⟩ := hcurrent
  rw [hb, digestIs_eq plan.before_eq] at hsame
  rw [plan.before_eq] at hsep
  obtain ⟨hunchanged, -⟩ := sameProjection_of_digest hkeyed
    (keyed_expected hjson plan.before_eq (by decide) (by decide)) hsep hsame
  -- the state after is the expected one
  obtain ⟨hkeyed', -, hsep'⟩ := hafter
  have hdigest := passed.digest
  rw [path_under plan.after_eq plan.after.value_ne_undefined] at hdigest
  rw [plan.after_eq] at hsep'
  obtain ⟨-, htags⟩ := sameProjection_of_digest hkeyed'
    (keyed_expected hjson plan.after_eq (by decide) (by decide)) hsep' hdigest
  have hurns : (Value.arr [tag]).nth 0 = plan.tag := by
    rw [← hargs.tags]; exact plan.tag_eq
  have htag : IsJson plan.tag := by
    have harr : IsJson (argument input.artifacts.plan "tag_urns") :=
      Everywhere.getPath hjson (by rw [← argument, hargs.tags]; simp) (by decide) (by decide)
    rw [hargs.tags] at harr
    rw [← hurns]
    exact harr.item (List.mem_singleton_self _)
  obtain ⟨t, ht, hmem⟩ := plan.mem_after htag
  refine ⟨by rw [plan.before_eq]; exact hunchanged, passed.acknowledged, ?_, ?_, ?_⟩
  · rw [passed.entityUrn, plan.before_entityUrn, ← plan.entityUrn_eq, ← argument, hargs.entities]
    rfl
  · rw [passed.columnPath, plan.before_columnPath, ← plan.columnPath_eq, ← argument, hargs.columns]
    rfl
  · exact ⟨t, plan.before.tags, after.tags, hurns.trans ht, plan.before_tags, after.tags_eq,
      by rw [htags]; exact hmem⟩

/-! ## 4. A run that ends verified -/

/-- The acknowledgement of a request. -/
def acknowledgement (P : Platform) (request : Value) : Value :=
  object [("requestDigest", .str (digestOf P request)),
    ("responseDigest", .str (digestOf P (lit "acknowledged")))]

/-- The expected state, acknowledged, is judged verified. -/
theorem judge_expected {plan request : Value} (p : PlanFacts P plan) {t : Text} (ht : p.tag = .str t)
    (hmem : ∀ u, u ∈ p.after.tags ↔ u ∈ p.before.tags ∨ u = t)
    (hreq : mutationRequest plan = .ok request) :
    ∃ (cs : List VerificationCheck) (rollback : Value),
      judge P plan p.before.value p.after.value (acknowledgement P request)
        = .ok (true, .arr (cs.map VerificationCheck.value), rollback) ∧
      Canonicalizable rollback := by
  have hdigest : (acknowledgement P request).getPath ["requestDigest"] = .str (digestOf P request) := by
    simp [getPath_cons, getPath_nil, acknowledgement]
  have hevidence : requestEvidence (acknowledgement P request)
      = .ok (js "Mutation request digest " ++ digestOf P request ++ js ".") := by
    simp [requestEvidence, hdigest, isNullish]
  obtain ⟨evidence, hpost⟩ := verifyPostcondition_projection p ht hreq p.after
    (by simp [acknowledgement, object]) hevidence
  have hall : (checksOn p t request p.after (acknowledgement P request) evidence).all
      (fun check => check.passed) = true := by
    have hsub : ∀ u ∈ p.before.tags, u ∈ p.after.tags := fun u hu => (hmem u).mpr (Or.inl hu)
    have hin : t ∈ p.after.tags := (hmem t).mpr (Or.inr rfl)
    simpa [checksOn, p.after_entityUrn, p.after_columnPath, hin, hdigest] using hsub
  have hinverse := p.inverse_canonical
  have hpath : (plan.path ["action", "inverse"] : Run Value)
      = .ok (plan.getPath ["action", "inverse"]) :=
    path_of_getPath fun hu => by rw [hu] at hinverse; exact absurd hinverse (by decide)
  refine ⟨checksOn p t request p.after (acknowledgement P request) evidence,
    object [("availability", lit "ELIGIBLE"),
    ("inverseActionDigest", .str (digestOf P (plan.getPath ["action", "inverse"]))),
    ("restoreStateDigest", p.before.value.getPath ["digest"])], ?_, ?_⟩
  · simp only [judge, hpost, ok_bind, hall, if_true, hpath, digest_ok hinverse, pure_eq_ok]
  · simp [p.before.digest_eq]

/-- The expected state, acknowledged, has a receipt, and the receipt is valid. -/
theorem expected_receipt (a : Accepted P input.artifacts) {b : ReceiptBinding}
    (hb : b.artifacts = input.artifacts) (hkey : b.idempotencyKey ≠ []) {request : Value}
    (hreq : mutationRequest input.artifacts.plan = .ok request) (htag : IsJson a.plan.tag)
    (hbefore : Canonicalizable a.plan.before.value) (hafter : Canonicalizable a.plan.after.value)
    (completedAt : Text) :
    ∃ checks rollback receipt, judge P input.artifacts.plan a.plan.before.value a.plan.after.value
        (acknowledgement P request) = .ok (true, checks, rollback) ∧
      receiptFor P b (judgedTerminal true completedAt a.plan.before.value a.plan.after.value
        (acknowledgement P request) checks rollback) = .ok receipt ∧
      receiptValid P receipt = true := by
  obtain ⟨t, ht, hmem⟩ := a.plan.mem_after htag
  obtain ⟨cs, rollback, hjudge, hrollback⟩ := judge_expected a.plan ht hmem hreq
  have hchecks : Canonicalizable (.arr (cs.map VerificationCheck.value)) := by
    rw [canonicalizable_arr, List.forall_mem_map]
    intro c _
    simp [VerificationCheck.value]
  have hack : (acknowledgement P request).getPath ["requestDigest"] = .str (digestOf P request) := by
    simp [acknowledgement, getPath_cons, getPath_nil]
  have hrecordable : Recordable P (judgedTerminal true completedAt a.plan.before.value
      a.plan.after.value (acknowledgement P request) (.arr (cs.map VerificationCheck.value)) rollback) := by
    refine ⟨by simp [judgedTerminal, projectionOk], by simp [judgedTerminal, projectionOk],
      fun _ => hbefore, fun _ => hafter, fun _ => ?_⟩
    simp [judgedTerminal, acknowledgement, getPath_cons, getPath_nil, List.lookup]
  obtain ⟨receipt, hreceipt⟩ := (receiptFor_iff a hb hkey rfl hchecks hrollback).mpr hrecordable
  refine ⟨_, rollback, receipt, hjudge, hreceipt, ?_⟩
  exact (judged_valid_iff a hb ht hreq rfl rfl rfl hjudge hreceipt).mpr
    ⟨iff_of_true rfl rfl, fun _ => hack⟩

/-- **There is a run that ends verified**: the journal grants the claim, the reader returns the
approved state and then the expected one, and the write is acknowledged. -/
theorem reaches_verified (hacc : approvalArtifactsValid P input.artifacts = .ok true)
    (hkey : nonBlank input.idempotencyKey = true)
    (hdec : (input.artifacts.decision.getPath ["decision"]).isText (js "REJECT") = false)
    {request : Value} (hreq : mutationRequest input.artifacts.plan = .ok request)
    (htag : IsJson ((input.artifacts.plan.getPath ["action", "arguments", "tag_urns"]).nth 0))
    (hbefore : Canonicalizable (input.artifacts.plan.getPath ["expectedBefore"]))
    (hafter : Canonicalizable (input.artifacts.plan.getPath ["expectedAfter"])) :
    ∃ h receipt, Reaches (executeApprovedRemediation P input) h (.done (.ok receipt)) ∧
      receipt.getPath ["outcome"] = lit "VERIFIED" ∧
      (∀ claim, claimed claim (.ok (.COMPLETED receipt)) ∉ h) ∧
      ∀ v, wasRead (readTarget input) (.ok v) ∈ h →
        v = input.artifacts.plan.getPath ["expectedBefore"] ∨
          v = input.artifacts.plan.getPath ["expectedAfter"] := by
  obtain ⟨a⟩ := approvalArtifactsValid_facts hacc
  rw [a.plan.tag_eq] at htag
  rw [a.plan.before_eq] at hbefore
  rw [a.plan.after_eq] at hafter
  obtain ⟨checks, rollback, receipt, hjudge, hreceipt, -⟩ := expected_receipt a
    (b := bindingOf input 1 a.decidedAt) rfl (nonBlank_ne_nil hkey) hreq htag hbefore hafter a.decidedAt
  obtain ⟨_, _, hm⟩ := receiptFor_members hreceipt
  have hend : Reaches (terminalReceipt P (bindingOf input 1 a.decidedAt) (judgedTerminal true a.decidedAt
      a.plan.before.value a.plan.after.value (acknowledgement P request) checks rollback))
      [completed (bindingOf input 1 a.decidedAt).lease receipt (.ok ())] (.done (.ok receipt)) :=
    reaches_pureRun hreceipt (reaches_complete (.ok ()) (reaches_pureRun rfl (.refl _)))
  have hacked : Reaches (mutationAcknowledged P (bindingOf input 1 a.decidedAt) a.plan.before.value
      (acknowledgement P request))
      [wasRead (readTarget input) (.ok a.plan.after.value), clocked a.decidedAt,
        completed (bindingOf input 1 a.decidedAt).lease receipt (.ok ())] (.done (.ok receipt)) :=
    reaches_read (.ok a.plan.after.value) (reaches_pureRun hjudge (reaches_clock a.decidedAt hend))
  have hwrite : Reaches (write P (bindingOf input 1 a.decidedAt) a.plan.before.value)
      [written request (.ok (acknowledgement P request)),
        wasRead (readTarget input) (.ok a.plan.after.value), clocked a.decidedAt,
        completed (bindingOf input 1 a.decidedAt).lease receipt (.ok ())] (.done (.ok receipt)) := by
    have hr : mutationRequest (bindingOf input 1 a.decidedAt).artifacts.plan = .ok request := hreq
    unfold write
    rw [hr]
    exact reaches_addTags (.ok (acknowledgement P request)) hacked
  obtain ⟨claim, hreach⟩ := reaches_toWrite a hacc hkey hdec hwrite
  refine ⟨_, receipt, hreach, hm.outcome, ?_, ?_⟩
  · intro claim' hin
    simp [claimed, clocked, wasRead, written, completed] at hin
  · intro v hin
    rw [a.plan.before_eq, a.plan.after_eq]
    simpa [claimed, clocked, wasRead, written, completed] using hin

/-- SHA-256 tells the two states of the sample apart. -/
theorem sample_separates : Platform.node.Separates
    (canonicalText (Issue.sampleBefore.value.rest ["digest"]))
    (canonicalText (Issue.sampleAfter.value.rest ["digest"])) := by
  have hbefore : (Platform.node.sha256
      (canonicalText (Issue.sampleBefore.value.rest ["digest"]))).head? = some 0x39 := by
    decide +kernel
  have hafter : (Platform.node.sha256
      (canonicalText (Issue.sampleAfter.value.rest ["digest"]))).head? = some 0x32 := by
    decide +kernel
  exact fun h => absurd h (Platform.sha256_ne hbefore hafter (by decide))

/-! ## 5. What a newly issued verified receipt means -/

/-- **What a newly issued verified receipt means.**  The worker was granted the write, wrote once,
between two reads, and the states and the acknowledgement are the approved ones. -/
theorem verified_means {tag entity column : Value} {h : History} {receipt : Value}
    (hacc : approvalArtifactsValid P input.artifacts = .ok true)
    (hjson : IsJson input.artifacts.plan)
    (hargs : ArgumentArrays input.artifacts.plan [tag] [entity] [column])
    (hread : ∀ v, wasRead (readTarget input) (.ok v) ∈ h →
      Keyed v ∧ SeparatesStates P input.artifacts.plan v)
    (hr : Reaches (executeApprovedRemediation P input) h (.done (.ok receipt)))
    (hout : receipt.getPath ["outcome"] = lit "VERIFIED")
    (hnew : ∀ claim, claimed claim (.ok (.COMPLETED receipt)) ∉ h) :
    ∃ (pre : History) (startedAt completedAt : Text) (token : Nat) (current mutation after : Value),
      GrantedWith input startedAt token pre ∧
      h = pre ++ [wasRead (readTarget input) (.ok current),
        written (requestWith [tag] [entity] [column]) (.ok mutation),
        wasRead (readTarget input) (.ok after), clocked completedAt,
        completed ⟨input.idempotencyKey, token⟩ receipt (.ok ())] ∧
      writesOf h = [requestWith [tag] [entity] [column]] ∧
      VerifiedRun P input tag entity column current mutation after := by
  obtain ⟨a⟩ := approvalArtifactsValid_facts hacc
  rcases (executeApprovedRemediation_obeys P input).done_of_reaches hr with
    ⟨startedAt, claim, -, rfl⟩ | ⟨h', b, t, hexit, hreceipt, rfl⟩
  · exact absurd (List.mem_cons_of_mem _ (List.mem_singleton_self _)) (hnew claim)
  obtain ⟨id, -, hcreated⟩ := receiptFor_eq_ok hreceipt
  obtain ⟨_, _, hm⟩ := receiptFor_members hreceipt
  obtain ⟨h', mutation, checks, rollback, completedAt, ⟨ready, formed⟩, hjudge, rfl⟩ :=
    hexit.of_verified (ExecutionOutcome.name_inj.mp (hm.outcome.symm.trans hout))
  obtain ⟨due, unchanged⟩ := ready
  obtain ⟨hkey, hgranted⟩ := due.granted.grantedWith
  have hrequest := mutationRequest_arrays hargs
  obtain rfl := Except.ok.inj (formed.symm.trans hrequest)
  refine ⟨_, b.startedAt, completedAt, b.fencingToken, t.before, mutation, t.after, hgranted,
    by simp [← hkey, ReceiptBinding.lease], ?_, ?_⟩
  · simp only [writesOf_append, hgranted.writesOf_eq]
    rfl
  · obtain ⟨cs, hpost, hall⟩ := judge_verified hjudge
    obtain ⟨request, passed⟩ :=
      verifyPostcondition_passed hpost hall a.plan.before_entityUrn a.plan.before_columnPath
    obtain rfl := Except.ok.inj (passed.approved.symm.trans hrequest)
    have hafter : t.after.truthy = true :=
      truthy_of_get (js "entityUrn")
        (by
          have he := passed.entityUrn
          rw [a.plan.before_entityUrn, getPath_cons, getPath_nil] at he
          rw [he]
          simp)
        (by decide) (by decide)
    obtain ⟨after, hvalue⟩ := hcreated.after_verified hafter
    have hvalue' : after.value = t.after := hvalue
    have hread' := hread t.after (by simp)
    rw [← hvalue'] at passed hread' ⊢
    exact verifiedRun_of_passed a.plan hjson hargs due.granted.artifacts (hread t.before (by simp))
      hread' unchanged passed

/-- The sample's run that ends verified, and what is known of it. -/
theorem verified_means_sample : ∃ (h : History) (receipt current mutation after : Value),
    Reaches (executeApprovedRemediation .node (inputOf (.sample [] (js "APPROVE")))) h
      (.done (.ok receipt)) ∧
    receipt.getPath ["outcome"] = lit "VERIFIED" ∧
    VerifiedRun .node (inputOf (.sample [] (js "APPROVE"))) (lit "urn:li:tag:Pii")
      (lit "urn:li:dataset:crm.contacts") (lit "email") current mutation after := by
  have hacc := accepted_inputOf (.sample [] (js "APPROVE"))
  have hargs := argumentArrays_inputOf (.sample [] (js "APPROVE"))
  have hbefore : (inputOf (.sample [] (js "APPROVE"))).artifacts.plan.getPath ["expectedBefore"]
      = Issue.sampleBefore.value := by
    simp [inputOf, getPath, Issue.artifacts, Issue.plan, Issue.planFields, identified, List.lookup,
      Issue.sample]
  have hafter : (inputOf (.sample [] (js "APPROVE"))).artifacts.plan.getPath ["expectedAfter"]
      = Issue.sampleAfter.value := by
    simp [inputOf, getPath, Issue.artifacts, Issue.plan, Issue.planFields, identified, List.lookup,
      Issue.sample]
  have htag : IsJson (((inputOf (.sample [] (js "APPROVE"))).artifacts.plan.getPath
      ["action", "arguments", "tag_urns"]).nth 0) := by
    have h : (inputOf (.sample [] (js "APPROVE"))).artifacts.plan.getPath
        ["action", "arguments", "tag_urns"] = _ := hargs.tags
    rw [h]
    trivial
  obtain ⟨h, receipt, hreach, hout, hnew, hread⟩ := reaches_verified hacc (by decide) (by decide +kernel)
    (mutationRequest_arrays hargs) htag
    (by rw [hbefore]; exact (Issue.sample [] (js "APPROVE")).before_canonical)
    (by rw [hafter]; exact (Issue.sample [] (js "APPROVE")).after_canonical)
  obtain ⟨_, _, _, _, current, mutation, after, -, -, -, hrun⟩ :=
    verified_means hacc (by decide +kernel) hargs (fun v hv => by
      rw [SeparatesStates, hbefore, hafter]
      rcases hread v hv with rfl | rfl
      · rw [hbefore]
        exact ⟨IsJson.keyed (by decide +kernel), fun _ => rfl, sample_separates⟩
      · rw [hafter]
        exact ⟨IsJson.keyed (by decide +kernel), fun e => (sample_separates e.symm).symm, fun _ => rfl⟩)
      hreach hout hnew
  exact ⟨h, receipt, current, mutation, after, hreach, hout, hrun⟩

/-! ## 6. The sample's receipt -/

/-- The receipt of a judged exit. -/
def judgedReceipt (P : Platform) (b : ReceiptBinding) (completedAt : Text)
    (current after mutation : Value) : Run Value := do
  let (verified, checks, rollback) ← judge P b.artifacts.plan current after mutation
  receiptFor P b (judgedTerminal verified completedAt current after mutation checks rollback)

theorem judgedReceipt_eq_ok {b : ReceiptBinding} {completedAt : Text}
    {current after mutation checks rollback receipt : Value} {verified : Bool}
    (hjudge : judge P b.artifacts.plan current after mutation = .ok (verified, checks, rollback))
    (hreceipt : receiptFor P b (judgedTerminal verified completedAt current after mutation checks
      rollback) = .ok receipt) :
    judgedReceipt P b completedAt current after mutation = .ok receipt := by
  rw [judgedReceipt, hjudge]
  exact hreceipt

/-- The request that an issue's plan approves. -/
def Issue.approved (i : Issue P) : Value :=
  requestWith (.str i.tag :: i.moreTags.map .str) (.str i.before.entityUrn :: i.moreEntities.map .str)
    (.str i.before.columnPath :: i.moreColumns.map .str)

theorem mutationRequest_inputOf (i : Issue P) :
    mutationRequest (inputOf i).artifacts.plan = .ok i.approved :=
  mutationRequest_arrays (argumentArrays_inputOf i)

/-- The value that was computed. -/
def returned : Run Value → Value
  | .ok v => v
  | .error _ => .undefined

theorem returned_of_ok {r : Run Value} {v : Value} (h : r = .ok v) : returned r = v := by
  rw [h]
  rfl

/-- The receipt of the sample's run that ends verified. -/
@[irreducible] def sampleReceipt : Value := returned <|
  judgedReceipt .node
    (bindingOf (inputOf (.sample [] (js "APPROVE"))) 1 (js "2026-07-14T10:05:00.000Z"))
    (js "2026-07-14T10:05:01.000Z") Issue.sampleBefore.value Issue.sampleAfter.value
    (acknowledgement .node (Issue.sample [] (js "APPROVE")).approved)

/-- What is known of it. -/
structure SampleReceipt (receipt : Value) : Prop where
  valid : receiptValid .node receipt = true
  outcome : receipt.getPath ["outcome"] = lit "VERIFIED"
  before : receipt.getPath ["before"] = Issue.sampleBefore.value
  after : receipt.getPath ["after"] = Issue.sampleAfter.value
  action : receipt.getPath ["action"] = signed .node (Issue.sample [] (js "APPROVE")).actionFields
  availability : receipt.getPath ["rollback", "availability"] = lit "ELIGIBLE"
  object : receipt.isNullish = false

theorem sampleReceipt_facts : SampleReceipt sampleReceipt := by
  have hargs := argumentArrays_inputOf (.sample [] (js "APPROVE"))
  obtain ⟨a⟩ := approvalArtifactsValid_facts (accepted_inputOf (.sample [] (js "APPROVE")))
  have hbefore : a.plan.before.value = Issue.sampleBefore.value := by
    rw [← a.plan.before_eq]
    simp [inputOf, getPath, Issue.artifacts, Issue.plan, Issue.planFields, identified, List.lookup,
      Issue.sample]
  have hafter : a.plan.after.value = Issue.sampleAfter.value := by
    rw [← a.plan.after_eq]
    simp [inputOf, getPath, Issue.artifacts, Issue.plan, Issue.planFields, identified, List.lookup,
      Issue.sample]
  have htag : IsJson a.plan.tag := by
    rw [← a.plan.tag_eq]
    have h : (inputOf (.sample [] (js "APPROVE"))).artifacts.plan.getPath
        ["action", "arguments", "tag_urns"] = _ := hargs.tags
    rw [h]
    trivial
  obtain ⟨checks, rollback, receipt, hjudge, hreceipt, hvalid⟩ := expected_receipt a
    (b := bindingOf (inputOf (.sample [] (js "APPROVE"))) 1 (js "2026-07-14T10:05:00.000Z")) rfl (by decide)
    (mutationRequest_inputOf _) htag
    (by rw [hbefore]; exact (Issue.sample [] (js "APPROVE")).before_canonical)
    (by rw [hafter]; exact (Issue.sample [] (js "APPROVE")).after_canonical) (js "2026-07-14T10:05:01.000Z")
  obtain ⟨t, ht, -⟩ := a.plan.mem_after htag
  obtain ⟨_, -, -, hroll⟩ := judge_projection a.plan ht (mutationRequest_inputOf _) hjudge
  rw [hbefore, hafter] at hjudge hreceipt
  have hsample : sampleReceipt = receipt := by
    unfold sampleReceipt
    exact returned_of_ok (judgedReceipt_eq_ok hjudge hreceipt)
  obtain ⟨_, _, hm⟩ := receiptFor_members hreceipt
  obtain ⟨_, _, hc⟩ := receiptFor_eq_ok hreceipt
  obtain ⟨_, _, -, -, -, rfl⟩ := hc.built
  rw [hsample]
  refine ⟨hvalid, hm.outcome, ?_, ?_, ?_, ?_, rfl⟩
  · rw [hm.before]
    exact ifTruthy_of_truthy Issue.sampleBefore.truthy_value
  · rw [hm.after]
    exact ifTruthy_of_truthy Issue.sampleAfter.truthy_value
  · rw [hm.action]
    simp [receiptInput, bindingOf, inputOf, getPath, Issue.artifacts, Issue.plan, Issue.planFields,
      identified, List.lookup]
  · rw [getPath_pair, hm.rollback]
    simp [receiptInput, judgedTerminal, hroll, judgedRollback, List.lookup]

end Remediation
