/-
# A stored request of a mutation

Whoever meets the request of a mutation in the table checks all of it again, against the run, the
plan and the approval that are read at the time: `verifyMutationRequestAuthorization`.  Of a request
that `processApprovalEnvelope` has just made, only a few of these checks say anything
(`Control.verifyMutationRequestAuthorization`); here is the whole of them, for a request of any form.

`verifyMutationRequest_made` is the connection: what was made is verified, and
`mutationRequest_issued` says when what is signed can be used.
-/
import Archon.Control.Results

namespace Control

open Ecma Ecma.Value Remediation

/-! ## 1. The checks -/

/-- What `verifyMutationRequestAuthorization` returns, of the configured key. -/
structure Authorization where
  envelopeDigest : Text
  signatureBase64 : Text
  times : Times

section Checks

variable (P : Platform)

/-- `mutationApproval`. -/
def mutationApproval (prepared : Prepared) (decision : Decision) : Option Value :=
  (digest P (object (approvalFields P prepared decision))).map fun d =>
    object (approvalFields P prepared decision ++ [("digest", .str d)])

/-- Does the request belong to the run, the plan and the approval? -/
def requestBinds (run : Run) (prepared : Prepared) (decision : Decision) (request : Value) : Bool :=
  request.exactKeys ["schemaVersion", "auditId", "runtimeEvidenceDigest", "auditEvidenceDigest",
      "planDigest", "policyDigest", "approval", "action", "arguments", "expectedBeforeDigest",
      "expectedAfterDigest", "authorization", "requestDigest"]
    && (request.getPath ["schemaVersion"]).isText (js "archon.core-governed-tag-mutation/v1")
    && (request.getPath ["auditId"]).isText run.auditId
    && (request.getPath ["runtimeEvidenceDigest"]).isText run.evidenceDigest
    && (request.getPath ["auditEvidenceDigest"]).isText prepared.auditEvidenceDigest
    && (request.getPath ["planDigest"]).isText prepared.planDigest
    && (request.getPath ["policyDigest"]).isText prepared.policyDigest
    && (mutationApproval P prepared decision).any (same (request.getPath ["approval"]))
    && (request.getPath ["action"]).isText (js "ADD_TAGS")
    && same (request.getPath ["arguments"]) (planArguments run)
    && (request.getPath ["expectedBeforeDigest"]).isText prepared.before.stateDigest
    && (request.getPath ["expectedAfterDigest"]).isText prepared.expectedAfter.stateDigest
    && (digest P (request.rest ["requestDigest"])).any (request.getPath ["requestDigest"]).isText
    && (request.getPath ["authorization"]).exactKeys ["envelope", "signature"]

/-- Does the envelope? -/
def envelopeBinds (run : Run) (prepared : Prepared) (signer : Signer) (decision : Decision)
    (envelope : Value) : Bool :=
  envelope.exactKeys ["schemaVersion", "stage", "sessionId", "generation", "capabilityDigest",
      "jobId", "approvalId", "planDigest", "policyDigest", "target", "tool", "arguments", "issuedAt",
      "expiresAt"]
    && (envelope.getPath ["schemaVersion"]).isText (js "archon.core-mutation-authorization/v1")
    && (envelope.getPath ["stage"]).isText signer.stage
    && (envelope.getPath ["sessionId"]).isText run.runtimeSessionId
    && (envelope.getPath ["generation"]).isText run.binding.generation
    && (envelope.getPath ["capabilityDigest"]).isText run.binding.capabilityDigest
    && (envelope.getPath ["jobId"]).isText decision.mutationJobId
    && (envelope.getPath ["approvalId"]).isText prepared.approvalId
    && (envelope.getPath ["planDigest"]).isText prepared.planDigest
    && (envelope.getPath ["policyDigest"]).isText prepared.policyDigest
    && (envelope.getPath ["target"]).exactKeys ["entityUrn", "columnPath"]
    && (envelope.getPath ["target", "entityUrn"]).isText run.datasetUrn
    && (envelope.getPath ["target", "columnPath"]).isText run.governedColumnPath
    && (envelope.getPath ["tool"]).isText (js "add_tags")
    && same (envelope.getPath ["arguments"]) (object [("tag_urns", texts [PII_TAG]),
      ("entity_urns", texts [run.datasetUrn]), ("column_paths", texts [run.governedColumnPath])])

/-- Are these the times of an authorization that was issued after the decision, for five minutes at
most, and not beyond the lease? -/
def timesBind (run : Run) (decision : Decision) (times : Times) : Bool :=
  instant P times.issuedAt && instant P times.expiresAt
    && match P.dateParse (decision.decidedText P), P.dateParse times.issuedAt,
        P.dateParse times.expiresAt, P.dateParse run.binding.leaseExpiresAt with
      | some decided, some issued, some expires, some lease =>
        decided ≤ issued && issued < expires && expires - issued ≤ 5 * 60 * 1000 && expires ≤ lease
      | _, _, _, _ => false

/-- Is the signature one of the configured key, and of the envelope? -/
def signatureBinds (signer : Signer) (envelope signature : Value) : Bool :=
  signature.exactKeys ["keyArn", "algorithm", "canonicalization", "envelopeDigest",
      "signatureBase64"]
    && (signature.getPath ["keyArn"]).isText signer.keyArn
    && (signature.getPath ["algorithm"]).isText (js "ECDSA_SHA_256")
    && (signature.getPath ["canonicalization"]).isText (js "archon.sorted-json-utf8/v1")
    && (canonicalMutationEnvelope envelope).any fun t =>
      (signature.getPath ["envelopeDigest"]).isText (js "sha256:" ++ P.sha256 t)

/-- `verifyMutationRequestAuthorization`, of any request. -/
def verifyMutationRequest (run : Run) (prepared : Prepared) (signer : Signer) (decision : Decision)
    (request : Value) : Option Authorization :=
  let envelope := request.getPath ["authorization", "envelope"]
  let signature := request.getPath ["authorization", "signature"]
  match envelope.getPath ["issuedAt"], envelope.getPath ["expiresAt"],
      signature.getPath ["envelopeDigest"], signature.getPath ["signatureBase64"] with
  | .str issuedAt, .str expiresAt, .str envelopeDigest, .str signatureBase64 =>
    if requestBinds P run prepared decision request
        && envelopeBinds run prepared signer decision envelope
        && timesBind P run decision ⟨issuedAt, expiresAt⟩
        && signatureBinds P signer envelope signature && isBase64 signatureBase64 then
      some ⟨envelopeDigest, signatureBase64, ⟨issuedAt, expiresAt⟩⟩
    else none
  | _, _, _, _ => none

end Checks

/-! ## 2. What was made is verified -/

/-- An instant that was written reads back. -/
def ReadsBack (P : Platform) : Prop :=
  ∀ ms, instant P (P.toISOString ms) = true → P.dateParse (P.toISOString ms) = some ms

/-- The authorization starts after the decision, and ends with the approval, with the lease and after
five minutes. -/
def Window (P : Platform) (run : Run) (prepared : Prepared) (decision : Decision) (times : Times) :
    Prop :=
  ∃ decided issued expires approvalExpiry lease : Int,
    P.dateParse (decision.decidedText P) = some decided ∧ P.dateParse times.issuedAt = some issued
      ∧ P.dateParse times.expiresAt = some expires
      ∧ P.dateParse prepared.expiresAt = some approvalExpiry
      ∧ P.dateParse run.binding.leaseExpiresAt = some lease
      ∧ decided ≤ issued ∧ issued < expires ∧ expires ≤ issued + 5 * 60 * 1000
      ∧ expires ≤ approvalExpiry ∧ expires ≤ lease

section Made

variable {P : Platform} {run : Run} {prepared : Prepared} {signer : Signer} {decision : Decision}
  {issuedAt : Int} {signatureBase64 : Text} {request : Value}

theorem authorizationTimes_window (hP : ReadsBack P) {times : Times}
    (h : authorizationTimes P run prepared issuedAt = some times)
    (hverified : verifyMutationRequestAuthorization P decision times signatureBase64 = true) :
    Window P run prepared decision times := by
  simp only [authorizationTimes, Option.bind_eq_bind, Option.bind_eq_some_iff] at h
  obtain ⟨issued, hissued, approvalExpiry, happroval, lease, hlease, expires, hexpires, h⟩ := h
  simp only [verifyMutationRequestAuthorization, Bool.and_eq_true] at hverified
  obtain ⟨⟨⟨-, hinstant⟩, -⟩, hdecided⟩ := hverified
  split at h
  case isTrue => cases h
  case isFalse hlt =>
    obtain rfl := Option.some.inj h
    dsimp only at hinstant hdecided
    have hend := hP _ hinstant
    rw [hexpires, Option.some.injEq] at hend
    rw [hissued] at hdecided
    split at hdecided
    case h_2 => cases hdecided
    case h_1 decided issued' hparsed heq =>
      obtain rfl := Option.some.inj heq
      rw [decide_eq_true_eq] at hdecided
      refine ⟨decided, issued, expires, approvalExpiry, lease, hparsed, hissued, hexpires, happroval,
        hlease, hdecided, not_le.mp hlt, ?_, ?_, ?_⟩ <;> omega

/-- What is known of a request that was made: its digests, and its times. -/
theorem mutationRequest_issued (hP : ReadsBack P)
    (h : mutationRequest P run prepared signer decision issuedAt signatureBase64 = some request) :
    ∃ r : Requested P run prepared signer decision request,
      digest P (object (approvalFields P prepared decision)) = some r.approvalDigest
      ∧ (∃ t, canonicalize (authorizationEnvelope run prepared signer decision r.times) = some t
        ∧ r.envelopeDigest = js "sha256:" ++ P.sha256 t)
      ∧ r.signatureBase64 = signatureBase64
      ∧ r.times.issuedAt = P.toISOString issuedAt
      ∧ (∃ ms, r.times.expiresAt = P.toISOString ms)
      ∧ Window P run prepared decision r.times := by
  simp only [mutationRequest, Option.bind_eq_bind, Option.bind_eq_some_iff] at h
  obtain ⟨times, htimes, approvalDigest, happroval, authorization, hauthorization, requestDigest,
    hdigest, h⟩ := h
  simp only [createMutationAuthorization, Option.bind_eq_bind, Option.bind_eq_some_iff]
    at hauthorization
  obtain ⟨t, ht, hauthorization⟩ := hauthorization
  obtain rfl := Option.some.inj hauthorization
  unfold canonicalMutationEnvelope at ht
  split at ht
  case isFalse => cases ht
  case isTrue hprintable =>
    split at h
    case isFalse => cases h
    case isTrue hverified =>
      have hwindow := authorizationTimes_window hP htimes hverified
      have hwritten : times.issuedAt = P.toISOString issuedAt
          ∧ ∃ ms, times.expiresAt = P.toISOString ms := by
        simp only [authorizationTimes, Option.bind_eq_bind, Option.bind_eq_some_iff] at htimes
        obtain ⟨_, _, _, _, _, _, _, _, htimes⟩ := htimes
        split at htimes
        · cases htimes
        · rw [← Option.some.inj htimes]
          exact ⟨rfl, _, rfl⟩
      simp only [verifyMutationRequestAuthorization, Bool.and_eq_true] at hverified
      obtain ⟨⟨⟨hstart, hend⟩, hsignature⟩, -⟩ := hverified
      exact ⟨{
        times, approvalDigest, signatureBase64, requestDigest
        envelopeDigest := js "sha256:" ++ P.sha256 t
        printable := hprintable
        approval := isDigest_digest happroval
        envelope := isDigest_sha256 P t
        signature := hsignature
        issued := hstart
        expires := hend
        digest_eq := hdigest
        request_eq := (Option.some.inj h).symm }, happroval, ⟨t, ht, rfl⟩, rfl, hwritten.1,
        hwritten.2, hwindow⟩

/-- The times of the authorization stand in the request. -/
theorem Requested.times_eq (r : Requested P run prepared signer decision request) :
    request.getPath ["authorization", "envelope", "issuedAt"] = .str r.times.issuedAt
      ∧ request.getPath ["authorization", "envelope", "expiresAt"] = .str r.times.expiresAt := by
  constructor
  · refine (congrArg (fun v => v.getPath ["authorization", "envelope", "issuedAt"])
      r.request_eq).trans ?_
    simp [getPath_cons, getPath_nil, List.lookup, mutationFields, authorizationOf, authorizationEnvelope]
  · refine (congrArg (fun v => v.getPath ["authorization", "envelope", "expiresAt"])
      r.request_eq).trans ?_
    simp [getPath_cons, getPath_nil, List.lookup, mutationFields, authorizationOf, authorizationEnvelope]

theorem requestBinds_made {approvalDigest requestDigest : Text} {authorization : Value}
    (happroval : digest P (object (approvalFields P prepared decision)) = some approvalDigest)
    (hdigest : digest P (object (mutationFields P run prepared decision approvalDigest authorization))
      = some requestDigest)
    (hauthorization : authorization.exactKeys ["envelope", "signature"] = true) :
    requestBinds P run prepared decision (object (mutationFields P run prepared decision
      approvalDigest authorization ++ [("requestDigest", .str requestDigest)])) = true := by
  have hvalue : ∃ t, canonicalize (object (approvalFields P prepared decision
      ++ [("digest", .str approvalDigest)])) = some t :=
    Option.isSome_iff_exists.mp (canonicalize_object (by simp [approvalFields]))
  have harguments : ∃ t, canonicalize (planArguments run) = some t :=
    Option.isSome_iff_exists.mp (canonicalize_object (by simp))
  obtain ⟨_, hvalue⟩ := hvalue
  obtain ⟨_, harguments⟩ := harguments
  have hrest : (object (mutationFields P run prepared decision approvalDigest authorization
      ++ [("requestDigest", .str requestDigest)])).rest ["requestDigest"]
      = object (mutationFields P run prepared decision approvalDigest authorization) := by
    simp [rest_object, mutationFields]
  have hkeys : (object (mutationFields P run prepared decision approvalDigest authorization
      ++ [("requestDigest", .str requestDigest)])).exactKeys ["schemaVersion", "auditId",
      "runtimeEvidenceDigest", "auditEvidenceDigest", "planDigest", "policyDigest", "approval",
      "action", "arguments", "expectedBeforeDigest", "expectedAfterDigest", "authorization",
      "requestDigest"] = true :=
    exactKeys_object (by
      simp only [mutationFields, List.map_append, List.map_cons, List.map_nil]
      exact List.Perm.refl _)
  rw [requestBinds, hkeys, hrest, hdigest, mutationApproval, happroval]
  simp [mutationFields, getPath_cons, getPath_nil, List.lookup, hauthorization, same_self hvalue,
    same_self harguments]

theorem envelopeBinds_made (times : Times) : envelopeBinds run prepared signer decision
    (authorizationEnvelope run prepared signer decision times) = true := by
  have harguments : ∃ t, canonicalize (object [("tag_urns", texts [PII_TAG]),
      ("entity_urns", texts [run.datasetUrn]), ("column_paths", texts [run.governedColumnPath])])
      = some t := Option.isSome_iff_exists.mp (canonicalize_object (by simp))
  obtain ⟨_, harguments⟩ := harguments
  have hkeys : (authorizationEnvelope run prepared signer decision times).exactKeys
      ["schemaVersion", "stage", "sessionId", "generation", "capabilityDigest", "jobId", "approvalId",
        "planDigest", "policyDigest", "target", "tool", "arguments", "issuedAt", "expiresAt"] = true :=
    exactKeys_object (List.Perm.refl _)
  have htarget : (object [("entityUrn", .str run.datasetUrn),
      ("columnPath", .str run.governedColumnPath)]).exactKeys ["entityUrn", "columnPath"] = true :=
    exactKeys_object (List.Perm.refl _)
  rw [envelopeBinds, hkeys]
  simp [authorizationEnvelope, getPath_cons, getPath_nil, List.lookup, htarget,
    same_self harguments]

theorem timesBind_of_window {times : Times} (hissued : instant P times.issuedAt = true)
    (hexpires : instant P times.expiresAt = true) (h : Window P run prepared decision times) :
    timesBind P run decision times = true := by
  obtain ⟨decided, issued, expires, -, lease, hdecided, hstart, hend, -, hlease, hle, hlt, hlength, -,
    hbound⟩ := h
  rw [timesBind, hissued, hexpires, hdecided, hstart, hend, hlease]
  simp only [Bool.true_and, Bool.and_eq_true, decide_eq_true_eq]
  exact ⟨⟨⟨hle, hlt⟩, by omega⟩, hbound⟩

theorem signatureBinds_made {envelope : Value} {t signature : Text}
    (h : canonicalMutationEnvelope envelope = some t) :
    signatureBinds P signer envelope (object [("keyArn", .str signer.keyArn),
      ("algorithm", lit "ECDSA_SHA_256"), ("canonicalization", lit "archon.sorted-json-utf8/v1"),
      ("envelopeDigest", .str (js "sha256:" ++ P.sha256 t)), ("signatureBase64", .str signature)])
      = true := by
  have hkeys : (object [("keyArn", .str signer.keyArn), ("algorithm", lit "ECDSA_SHA_256"),
      ("canonicalization", lit "archon.sorted-json-utf8/v1"),
      ("envelopeDigest", .str (js "sha256:" ++ P.sha256 t)),
      ("signatureBase64", .str signature)]).exactKeys ["keyArn", "algorithm", "canonicalization",
      "envelopeDigest", "signatureBase64"] = true := exactKeys_object (List.Perm.refl _)
  rw [signatureBinds, hkeys, h]
  simp [getPath_cons, getPath_nil, List.lookup]

/-- **What was made is verified.** -/
theorem verifyMutationRequest_made (r : Requested P run prepared signer decision request)
    (happroval : digest P (object (approvalFields P prepared decision)) = some r.approvalDigest)
    (henvelope : ∃ t, canonicalize (authorizationEnvelope run prepared signer decision r.times) = some t
      ∧ r.envelopeDigest = js "sha256:" ++ P.sha256 t)
    (hwindow : Window P run prepared decision r.times) :
    verifyMutationRequest P run prepared signer decision request
      = some ⟨r.envelopeDigest, r.signatureBase64, r.times⟩ := by
  obtain ⟨t, ht, hdigest⟩ := henvelope
  have hcanonical : canonicalMutationEnvelope
      (authorizationEnvelope run prepared signer decision r.times) = some t := by
    rw [canonicalMutationEnvelope, if_pos r.printable, ht]
  have hauthorization : (authorizationOf (authorizationEnvelope run prepared signer decision r.times)
      signer r.envelopeDigest r.signatureBase64).exactKeys ["envelope", "signature"] = true :=
    exactKeys_object (List.Perm.refl _)
  have hbinds := requestBinds_made happroval r.digest_eq hauthorization
  have hsignature := @signatureBinds_made P signer _ t r.signatureBase64 hcanonical
  rw [← hdigest] at hsignature
  have htimes := timesBind_of_window r.issued r.expires hwindow
  have henvelope := @envelopeBinds_made run prepared signer decision r.times
  rw [← r.request_eq] at hbinds
  have hpath : request.getPath ["authorization", "envelope"]
      = authorizationEnvelope run prepared signer decision r.times := by
    refine (congrArg (fun v => v.getPath ["authorization", "envelope"]) r.request_eq).trans ?_
    simp [getPath_cons, getPath_nil, List.lookup, mutationFields, authorizationOf]
  have hpath' : request.getPath ["authorization", "signature"] = object [("keyArn", .str signer.keyArn),
      ("algorithm", lit "ECDSA_SHA_256"), ("canonicalization", lit "archon.sorted-json-utf8/v1"),
      ("envelopeDigest", .str r.envelopeDigest), ("signatureBase64", .str r.signatureBase64)] := by
    refine (congrArg (fun v => v.getPath ["authorization", "signature"]) r.request_eq).trans ?_
    simp [getPath_cons, getPath_nil, List.lookup, mutationFields, authorizationOf]
  have hissued : (authorizationEnvelope run prepared signer decision r.times).getPath ["issuedAt"]
      = .str r.times.issuedAt := by
    simp [authorizationEnvelope, getPath_cons, getPath_nil, List.lookup]
  have hexpires : (authorizationEnvelope run prepared signer decision r.times).getPath ["expiresAt"]
      = .str r.times.expiresAt := by
    simp [authorizationEnvelope, getPath_cons, getPath_nil, List.lookup]
  have hsigned : ∀ k v, [("keyArn", Value.str signer.keyArn), ("algorithm", lit "ECDSA_SHA_256"),
      ("canonicalization", lit "archon.sorted-json-utf8/v1"),
      ("envelopeDigest", .str r.envelopeDigest), ("signatureBase64", .str r.signatureBase64)].lookup k
      = some v → (object [("keyArn", .str signer.keyArn), ("algorithm", lit "ECDSA_SHA_256"),
      ("canonicalization", lit "archon.sorted-json-utf8/v1"),
      ("envelopeDigest", .str r.envelopeDigest), ("signatureBase64", .str r.signatureBase64)]).getPath
        [k] = v := by
    intro k v hk
    rw [getPath_cons, getPath_nil, get_object, hk, Option.getD_some]
  rw [verifyMutationRequest, hpath, hpath', hissued, hexpires,
    hsigned "envelopeDigest" (.str r.envelopeDigest) (by simp [List.lookup]),
    hsigned "signatureBase64" (.str r.signatureBase64) (by simp [List.lookup])]
  dsimp only
  rw [hbinds, henvelope, htimes, hsignature, r.signature]
  rfl

end Made

end Control
