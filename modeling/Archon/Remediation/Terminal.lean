/-
# Terminal receipts

Once the write has been made the loop must end in a receipt: the record of the journal waits for
it.  Two functions written apart decide whether it gets one, `createExecutionReceipt`, which can
throw, and `verifyExecutionReceipt`, which the journal of the worker runs on what it is handed.
Both are followed here from the three exits that come after a write (`Exit.failed`,
`Exit.unreadableAfter`, `Exit.judged`), for whatever the reader and the mutation port return.
-/
import Archon.Remediation.Writes
import Archon.Remediation.ReceiptFacts

namespace Remediation

open Ecma Ecma.Value Resumption Resumption.Program

variable {P : Platform} {input : ExecuteApprovedRemediationInput} {b : ReceiptBinding}
  {t : TerminalInput}

/-! ## 1. What can be recorded -/

/-- What the receipt needs of the members that come from outside. -/
structure Recordable (P : Platform) (t : TerminalInput) : Prop where
  before : projectionOk P t.before = .ok true
  after : projectionOk P t.after = .ok true
  before_canonical : t.before.truthy = true → Canonicalizable t.before
  after_canonical : t.after.truthy = true → Canonicalizable t.after
  mutation : t.mutation.truthy = true → Canonicalizable t.mutation ∧
    Canonicalizable (t.mutation.getPath ["requestDigest"]) ∧
    Canonicalizable (t.mutation.getPath ["responseDigest"])

theorem forall_mem_ite {α : Type} {c : Bool} {x : α} {q : α → Prop} :
    (∀ y ∈ (if c then [x] else []), q y) ↔ (c = true → q x) := by
  cases c <;> simp

theorem forall_mem_optional {key : String} {v : Value} {q : String × Value → Prop} :
    (∀ f ∈ optional key v, q f) ↔ (v.truthy = true → q (key, v)) :=
  forall_mem_ite

theorem canonicalizable_orNull {v : Value} (h : v ≠ .undefined → Canonicalizable v) :
    Canonicalizable (orNull v) := by
  unfold orNull
  cases hn : v.isNullish with
  | true => exact trivial
  | false => exact h (by rintro rfl; simp [isNullish] at hn)

/-- The digest of a projection that may be absent. -/
theorem canonicalizable_digest {v : Value} (h : v.truthy = true → Canonicalizable v) :
    Canonicalizable (orNull (v.getPath ["digest"])) := by
  refine canonicalizable_orNull fun hne => ?_
  have ht : v.truthy = true := truthy_of_get (js "digest") hne (by decide) (by decide)
  exact Everywhere.getPath (h ht) hne (by decide) (by decide)

theorem hasPostcondition_ok {c : ReceiptContent} {items : List Value} (h : c.checks = .arr items) :
    ∃ post, hasPostcondition c = .ok post := by
  unfold hasPostcondition
  cases c.after.truthy with
  | true => exact ⟨true, rfl⟩
  | false =>
    rw [h, prop_of_not_nullish rfl, get_length_arr]
    exact ⟨_, rfl⟩

/-- Of the payloads of the events only the acknowledgement's can lack a canonical text. -/
theorem payloads_canonical_iff {c : ReceiptContent} (post : Bool)
    (hdossier : Canonicalizable c.dossierDigest) (hplan : Canonicalizable c.planDigest)
    (hdecision : Canonicalizable c.approvalDecisionDigest)
    (hbefore : c.before.truthy = true → Canonicalizable c.before)
    (hafter : c.after.truthy = true → Canonicalizable c.after) (hchecks : Canonicalizable c.checks)
    (hrollback : Canonicalizable c.rollback) (hstart : Canonicalizable c.startedAt)
    (hend : Canonicalizable c.completedAt) :
    (∀ p ∈ payloadsWith c post, Canonicalizable p.payload ∧ Canonicalizable p.occurredAt) ↔
      (c.mutation.truthy = true → Canonicalizable (c.mutation.getPath ["requestDigest"]) ∧
        Canonicalizable (c.mutation.getPath ["responseDigest"])) := by
  simp only [payloadsWith, List.forall_mem_append, List.forall_mem_cons, forall_mem_ite,
    canonicalizable_object, List.not_mem_nil, false_imp_iff, implies_true, and_true, hdossier, hplan, hdecision,
    canonicalizable_digest hbefore, canonicalizable_digest hafter, hchecks, hrollback, hstart, hend,
    true_and]

theorem decision_digest_truthy (a : Accepted P input.artifacts) :
    (input.artifacts.decision.getPath ["digest"]).truthy = true := by
  rw [a.decision_digest]
  have h : digestPrefix ≠ [] := by decide
  simp [truthy, digestOf, h]

theorem executionId_ok (a : Accepted P input.artifacts) (key : Text) :
    ∃ id, executionId P input.artifacts.decision key = .ok id ∧ id ≠ [] := by
  refine ⟨shortId "execution-" (digestOf P (object [("decisionDigest",
    input.artifacts.decision.getPath ["digest"]), ("idempotencyKey", .str key)])), ?_, ?_⟩
  · rw [executionId, digest_ok (by simp [a.decision_digest])]
    rfl
  · intro h
    have : js "execution-" = [] := (List.append_eq_nil_iff.mp h).1
    exact absurd this (by decide)

theorem isNullish_of_getPath {v : Value} {k : String} (h : v.getPath [k] ≠ .undefined) :
    v.isNullish = false := by
  cases hn : v.isNullish with
  | false => rfl
  | true =>
    rw [getPath_cons, getPath_nil, get_of_isNullish hn] at h
    exact absurd rfl h

/-- The action of an accepted plan is one that a receipt can be issued for. -/
theorem PlanFacts.actionValid {plan : Value} (p : PlanFacts P plan) :
    actionValid P (plan.getPath ["action"]) = true := by
  have hid : (plan.getPath ["action"]).getPath ["actionId"]
      = lit "datahub.add-classification-tag.v1" := p.actionId_eq
  have htool : (plan.getPath ["action"]).getPath ["tool"] = lit "add_tags" := p.tool_eq
  have hinverse : (plan.getPath ["action"]).getPath ["inverse", "tool"] = lit "remove_tags" :=
    p.inverse_tool_eq
  have hdigest : (plan.getPath ["action"]).getPath ["digest"]
      = .str (digestOf P ((plan.getPath ["action"]).rest ["digest"])) := p.action_digest
  have hn : (plan.getPath ["action"]).isNullish = false :=
    isNullish_of_getPath (k := "actionId") (by rw [hid]; simp [lit])
  have hn' : ((plan.getPath ["action"]).getPath ["inverse"]).isNullish = false :=
    isNullish_of_getPath (k := "tool") (by
      rw [show ((plan.getPath ["action"]).getPath ["inverse"]).getPath ["tool"] = lit "remove_tags"
        from hinverse]
      simp [lit])
  have harguments : ((plan.getPath ["action"]).path ["inverse", "arguments"] : Run Value)
      = .ok ((plan.getPath ["action"]).getPath ["inverse", "arguments"]) := by
    rw [path, prop_one hn, ok_bind, path_one hn']
    rfl
  refine orFalse_eq_true.mpr ?_
  simp only [andM_eq_true, eqText_eq_true]
  refine ⟨?_, ?_, ?_, ?_, ?_⟩
  · rw [path_one hn, hid]; rfl
  · rw [path_one hn, htool]; rfl
  · rw [path_of_getPath (by rw [hinverse]; simp [lit]), hinverse]; rfl
  · rw [path_one hn, harguments]
    exact congrArg Except.ok (decide_eq_true p.inverse_eq)
  · rw [withoutDigest, without_eq_ok.mpr ⟨hn, rfl⟩, ok_bind, path_one hn, ok_bind, verifyDigest_eq_true]
    exact ⟨p.action_unsigned, hdigest⟩

theorem chain_canonical : ∀ {payloads : List ReceiptEventPayload} {index : Nat} (previousHash : Text),
    index + payloads.length < 2 ^ 53 → (∀ p ∈ payloads, Canonicalizable p.payload ∧
      Canonicalizable p.occurredAt) → Canonicalizable (.arr (chain P index (.str previousHash) payloads))
  | [], _, _, _, _ => by simp [chain]
  | p :: ps, index, previousHash, hlt, hall => by
    obtain ⟨⟨-, htime⟩, hall⟩ := List.forall_mem_cons.mp hall
    rw [List.length_cons] at hlt
    have hrest := chain_canonical (chainedHash P index (.str previousHash) p)
      (by omega : index + 1 + ps.length < 2 ^ 53) hall
    rw [canonicalizable_arr] at hrest ⊢
    rw [chain, List.forall_mem_cons]
    refine ⟨?_, hrest⟩
    simp [chainedEvent, unsignedEvent, htime, canonicalizable_ofNat (by omega : index < 2 ^ 53)]

theorem outcome_canonical (o : ExecutionOutcome) : Canonicalizable o.name := by
  cases o <;> trivial

/-- Of the members of a receipt only the optional ones can lack a canonical text. -/
theorem unsignedReceipt_canonical_iff {c : CreateExecutionReceiptInput} {events : List Value}
    (hdossier : Canonicalizable c.dossierDigest) (hplan : Canonicalizable c.planDigest)
    (hdecision : Canonicalizable c.approvalDecisionDigest) (haction : Canonicalizable c.action)
    (hchecks : Canonicalizable c.checks) (hrollback : Canonicalizable c.rollback)
    (hevents : Canonicalizable (.arr events)) :
    Canonicalizable (object (unsignedReceipt c events)) ↔
      (c.before.truthy = true → Canonicalizable c.before) ∧
        (c.after.truthy = true → Canonicalizable c.after) ∧
        (c.mutation.truthy = true → Canonicalizable c.mutation) := by
  rw [canonicalizable_object]
  simp only [unsignedReceipt, List.forall_mem_append, List.forall_mem_cons, forall_mem_optional,
    List.not_mem_nil, false_imp_iff, implies_true, and_true, true_and, canonicalizable_str,
    canonicalizable_lit, outcome_canonical, hevents, hdossier, hplan, hdecision, haction, hchecks,
    hrollback, and_assoc]

/-- **Which terminal receipts can be built.** -/
theorem receiptFor_iff (a : Accepted P input.artifacts) (hb : b.artifacts = input.artifacts)
    (hkey : b.idempotencyKey ≠ []) {items : List Value} (hitems : t.checks = .arr items)
    (hchecks : Canonicalizable t.checks) (hrollback : Canonicalizable t.rollback) :
    (∃ receipt, receiptFor P b t = .ok receipt) ↔ Recordable P t := by
  obtain ⟨id, hid, hne⟩ := executionId_ok a b.idempotencyKey
  obtain ⟨dossierDigest, hdossier⟩ := a.dossier.digest_eq
  obtain ⟨planDigest, hplan⟩ := a.plan.digest_eq
  obtain ⟨post, hpost⟩ := hasPostcondition_ok (c := (receiptInput b t id).content) hitems
  have hpayloads : eventPayloads (receiptInput b t id).content
      = .ok (payloadsWith (receiptInput b t id).content post) := by
    rw [eventPayloads, hpost]; rfl
  have hlt := eventPayloads_length_lt hpayloads
  have hdossier' : Canonicalizable (b.artifacts.dossier.getPath ["digest"]) := by
    rw [hb, hdossier]; exact canonicalizable_str _
  have hplan' : Canonicalizable (b.artifacts.plan.getPath ["digest"]) := by
    rw [hb, hplan]; exact canonicalizable_str _
  have hdecision : Canonicalizable (b.artifacts.decision.getPath ["digest"]) := by
    rw [hb, a.decision_digest]; exact canonicalizable_str _
  have haction : Canonicalizable (b.artifacts.plan.getPath ["action"]) := by
    rw [hb]; exact a.plan.action_canonical
  have hcontent := payloads_canonical_iff (c := (receiptInput b t id).content) post hdossier'
    hplan' hdecision
  constructor
  · rintro ⟨receipt, h⟩
    obtain ⟨id', hid', hc⟩ := receiptFor_eq_ok h
    rw [hb, hid] at hid'
    obtain rfl := Except.ok.inj hid'
    obtain ⟨payloads, events, hp, hevents, hcan, -⟩ := hc.built
    obtain rfl := Except.ok.inj (hpayloads.symm.trans hp)
    obtain ⟨hall, rfl⟩ := (buildEventsFrom_eq_ok _ hlt).mp hevents
    obtain ⟨hbefore, hafter, hmutation⟩ := (unsignedReceipt_canonical_iff hdossier' hplan' hdecision
      haction hchecks hrollback (chain_canonical _ hlt hall)).mp hcan
    have hack := (hcontent hbefore hafter hchecks hrollback (canonicalizable_str _)
      (canonicalizable_str _)).mp hall
    exact ⟨hc.before, hc.after, hbefore, hafter, fun hm => ⟨hmutation hm, hack hm⟩⟩
  · intro r
    have hall := (hcontent r.before_canonical r.after_canonical hchecks hrollback (canonicalizable_str _)
      (canonicalizable_str _)).mpr fun hm => (r.mutation hm).2
    have hevents := (buildEventsFrom_eq_ok (P := P) (GENESIS_HASH P) hlt).mpr ⟨hall, rfl⟩
    have hchain := chain_canonical (P := P) (GENESIS_HASH P) hlt hall
    have hcan := (unsignedReceipt_canonical_iff (c := receiptInput b t id) hdossier' hplan' hdecision
      haction hchecks hrollback hchain).mpr ⟨r.before_canonical, r.after_canonical, fun hm => (r.mutation hm).1⟩
    have haction' : actionValid P (receiptInput b t id).action = true := by
      rw [receiptInput, hb]
      exact a.plan.actionValid
    have hcreated : Created P (receiptInput b t id) (signedReceipt P (receiptInput b t id)
        (chain P 0 (.str (GENESIS_HASH P)) (payloadsWith (receiptInput b t id).content post))) :=
      ⟨haction', hne, hkey, r.before, r.after, _, _, hpayloads, hevents, hcan, rfl⟩
    have hfor : receiptFor P b t = createExecutionReceipt P (receiptInput b t id) := by
      rw [receiptFor, hb, hid]
      rfl
    exact ⟨_, hfor.trans (createExecutionReceipt_eq_ok.mpr hcreated)⟩

/-! ## 2. What is valid once built -/

theorem spread_canonical {v : Value} {items : List Value} (hv : Canonicalizable v)
    (h : (v.spread : Run (List Value)) = .ok items) : ∀ w ∈ items, Canonicalizable w := by
  cases v with
  | arr vs =>
    obtain rfl := Except.ok.inj h
    exact canonicalizable_arr.mp hv
  | str s =>
    obtain rfl := Except.ok.inj h
    exact List.forall_mem_map.mpr fun _ _ => canonicalizable_str _
  | _ => cases h

/-- A path from a value with a canonical text, if it leads to something, leads to one that has one. -/
theorem path_canonical {v w : Value} {k : String} (hv : Canonicalizable v) (hidx : arrayIndex (js k) = none)
    (hlen : k ≠ "length") (h : (v.path [k] : Run Value) = .ok w) (hw : w ≠ .undefined) :
    Canonicalizable w := by
  obtain rfl := getPath_of_path h
  exact Everywhere.getPath hv hw (by simpa using hidx) (by simpa using hlen)

theorem ne_undefined_of_spread {v : Value} {items : List Value}
    (h : (v.spread : Run (List Value)) = .ok items) : v ≠ .undefined := by
  rintro rfl
  cases h

theorem ne_undefined_of_path {v w : Value} {k : String} (h : (v.path [k] : Run Value) = .ok w) :
    v ≠ .undefined := by
  rintro rfl
  cases h

theorem requestOf_canonical {arguments request : Value} (hargs : Canonicalizable arguments)
    (h : requestOf arguments = .ok request) : Canonicalizable request := by
  obtain ⟨urns, hurns, h⟩ := bind_eq_ok.mp h
  obtain ⟨tags, htags, h⟩ := bind_eq_ok.mp h
  obtain ⟨urns', hurns', h⟩ := bind_eq_ok.mp h
  obtain ⟨entities, hentities, h⟩ := bind_eq_ok.mp h
  obtain ⟨paths, hpaths, h⟩ := bind_eq_ok.mp h
  obtain ⟨columns, hcolumns, h⟩ := bind_eq_ok.mp h
  obtain rfl := Except.ok.inj h
  have ht := spread_canonical
    (path_canonical hargs (by decide) (by decide) hurns (ne_undefined_of_spread htags)) htags
  have he := spread_canonical
    (path_canonical hargs (by decide) (by decide) hurns' (ne_undefined_of_spread hentities)) hentities
  have hc := spread_canonical
    (path_canonical hargs (by decide) (by decide) hpaths (ne_undefined_of_spread hcolumns)) hcolumns
  simpa using ⟨ht, he, hc⟩

theorem mutationRequest_canonical {plan request : Value} (p : PlanFacts P plan)
    (h : mutationRequest plan = .ok request) : Canonicalizable request := by
  obtain ⟨arguments, hargs, h⟩ := bind_eq_ok.mp h
  obtain rfl := getPath_of_path hargs
  have hne : plan.getPath ["action", "arguments"] ≠ .undefined := by
    intro hu
    rw [hu] at h
    cases h
  have hargs : Canonicalizable ((plan.getPath ["action"]).getPath ["arguments"]) :=
    Everywhere.getPath p.action_canonical hne (by decide) (by decide)
  exact requestOf_canonical hargs h

/-- The digest of the request, as the verifier computes it again from the receipt. -/
theorem requestBound_iff (mutation : Value) {request : Value} {arguments : Run Value}
    (hreq : (arguments >>= requestOf) = .ok request) (hcan : Canonicalizable request) :
    requestBound P (ifTruthy mutation) arguments = .ok true ↔
      (mutation.truthy = true → mutation.getPath ["requestDigest"] = .str (digestOf P request)) := by
  obtain ⟨args, rfl, hargs⟩ := bind_eq_ok.mp hreq
  cases ht : mutation.truthy with
  | false => simp [requestBound, ifTruthy_of_falsy ht, truthy]
  | true =>
    have hn : mutation.isNullish = false := by
      cases mutation <;> first | rfl | cases ht
    simp [requestBound, ifTruthy_of_truthy ht, ht, prop_one hn, hargs, digest_ok hcan,
      isText_iff]

/-- What is read from a terminal receipt. -/
theorem receipt_action (hb : b.artifacts = input.artifacts) {receipt : Value} {id : Text}
    {events : List Value} (hm : Members (receiptInput b t id) events receipt) {request : Value}
    (hreq : mutationRequest input.artifacts.plan = .ok request) :
    (receipt.path ["action", "arguments"] >>= requestOf) = .ok request := by
  obtain ⟨arguments, hargs, hreq⟩ := bind_eq_ok.mp hreq
  obtain ⟨action, haction, hargs⟩ := bind_eq_ok.mp hargs
  obtain ⟨hplan, rfl⟩ := prop_eq_ok.mp haction
  have hsame : receipt.getPath ["action"] = input.artifacts.plan.get (js "action") := by
    rw [hm.action, receiptInput, hb]
    rfl
  have hne : input.artifacts.plan.get (js "action") ≠ .undefined := ne_undefined_of_path hargs
  rw [path_under hsame hne, hargs]
  exact hreq

theorem blocked_availability (reason : BlockedReason) :
    (eqText ((blocked reason).path ["availability"]) (js "ELIGIBLE") : Run Bool) = .ok false := by
  simp [blocked, path, List.lookup, eqText]

theorem rollback_path {receipt : Value} {k : String} {rollback : Value}
    (h : receipt.getPath ["rollback"] = rollback) (hne : rollback ≠ .undefined) :
    (receipt.path ["rollback", k] : Run Value) = rollback.path [k] :=
  path_under h hne

theorem hasChecks_arr {receipt : Value} {items : List Value}
    (h : receipt.getPath ["checks"] = .arr items) :
    hasChecks receipt = (num (.ofNat items.length)).exceeds 0 := by
  rw [hasChecks, h, prop_of_not_nullish rfl, get_length_arr]
  rfl

theorem exceeds_five : ((num (.ofNat 5)).exceeds 0 : Run Bool) = .ok true := by
  decide +kernel

end Remediation
