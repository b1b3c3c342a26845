/-
# The result of a mutation

What the worker returns of a mutation is checked against the plan, the approval and the request once
more: `governedMutationResult`.  The result is made of texts, of which the request has most; what is
new are the response, the moment at which the authorization was consumed, and the digest of it all.

A result that is made of the request in this way is accepted (`governedMutationResult_made`).
-/
import Archon.Cloud.Base64
import Archon.Control.Mutation
import Archon.Remediation.Planner

namespace Control

open Ecma Ecma.Value Remediation

/-! ## 1. The check -/

/-- `strictBase64`. -/
def strictBase64 (t : Text) : Option (List UInt8) :=
  if isBase64 t then
    (Cloud.decode64 t).filter fun bytes =>
      8 ≤ bytes.length && bytes.length ≤ 256 && Cloud.base64 bytes = t
  else none

/-- `DIGEST.test(v || "")`, which converts its argument to a string. -/
def testDigest (v : Value) : Bool :=
  match (v.toText : Js String Text) with
  | .ok t => Jobs.isDigest t
  | .error _ => false

section Check

variable (P : Platform) (digestBytes : List UInt8 → Text)

/-- `result.officialMcpMutation`. -/
def officialBinds (prepared : Prepared) (approvalDigest : Text) (result : Value) : Bool :=
  let official := result.getPath ["officialMcpMutation"]
  official.exactKeys ["tool", "policyDigest", "approvalDigest", "requestDigest", "responseDigest"]
    && (official.getPath ["tool"]).isText (js "add_tags")
    && (official.getPath ["policyDigest"]).isText prepared.policyDigest
    && (official.getPath ["approvalDigest"]).isText approvalDigest
    && (official.getPath ["requestDigest"]).strictEq (result.getPath ["requestDigest"])
    && testDigest (official.getPath ["responseDigest"])

/-- `result.authorizationEvidence`, of an authorization whose signature has a digest. -/
def evidenceBinds (signer : Signer) (a : Authorization) (signatureDigest : Text) (evidence : Value) :
    Bool :=
  evidence.exactKeys ["keyArn", "algorithm", "canonicalization", "envelopeDigest", "signatureDigest",
      "consumedAt"]
    && (evidence.getPath ["keyArn"]).isText signer.keyArn
    && (evidence.getPath ["algorithm"]).isText (js "ECDSA_SHA_256")
    && (evidence.getPath ["canonicalization"]).isText (js "archon.sorted-json-utf8/v1")
    && (evidence.getPath ["envelopeDigest"]).isText a.envelopeDigest
    && (evidence.getPath ["signatureDigest"]).isText signatureDigest
    && match evidence.getPath ["consumedAt"] with
      | .str consumedAt => instant P consumedAt
        && match P.dateParse consumedAt, P.dateParse a.times.issuedAt, P.dateParse a.times.expiresAt with
          | some consumed, some issued, some expires => issued ≤ consumed && consumed ≤ expires
          | _, _, _ => false
      | _ => false

/-- `governedMutationResult`, of any result. -/
def governedMutationResult (run : Run) (prepared : Prepared) (signer : Signer) (decision : Decision)
    (request result : Value) : Bool :=
  match verifyMutationRequest P run prepared signer decision request,
      digest P (object (approvalFields P prepared decision)) with
  | some a, some approvalDigest =>
    match strictBase64 a.signatureBase64 with
    | some bytes =>
      result.exactKeys ["schemaVersion", "requestDigest", "policyDigest", "beforeDigest",
          "afterDigest", "verified", "mutationExecutor", "officialMcpMutation",
          "authorizationEvidence", "responseDigest"]
        && (result.getPath ["schemaVersion"]).isText (js "archon.core-governed-tag-result/v1")
        && (result.getPath ["requestDigest"]).strictEq (request.getPath ["requestDigest"])
        && (result.getPath ["policyDigest"]).isText prepared.policyDigest
        && (result.getPath ["beforeDigest"]).isText prepared.before.stateDigest
        && (result.getPath ["afterDigest"]).isText prepared.expectedAfter.stateDigest
        && (result.getPath ["verified"]).strictEq (.bool true)
        && (result.getPath ["mutationExecutor"]).isText (js "official-datahub-mcp")
        && officialBinds prepared approvalDigest result
        && evidenceBinds P signer a (digestBytes bytes) (result.getPath ["authorizationEvidence"])
        && testDigest (result.getPath ["responseDigest"])
        && (digest P (result.rest ["responseDigest"])).any (result.getPath ["responseDigest"]).isText
    | none => false
  | _, _ => false

end Check

/-! ## 2. Results that are made of the request -/

/-- What a result is digested as, of the request that was made and a response. -/
def resultMembers (prepared : Prepared) (signer : Signer) (requestDigest approvalDigest : Text)
    (envelopeDigest signatureDigest responseDigest consumedAt : Text) : List (String × Value) :=
  [("schemaVersion", lit "archon.core-governed-tag-result/v1"), ("requestDigest", .str requestDigest),
    ("policyDigest", .str prepared.policyDigest), ("beforeDigest", .str prepared.before.stateDigest),
    ("afterDigest", .str prepared.expectedAfter.stateDigest), ("verified", .bool true),
    ("mutationExecutor", lit "official-datahub-mcp"),
    ("officialMcpMutation", object [("tool", lit "add_tags"),
      ("policyDigest", .str prepared.policyDigest), ("approvalDigest", .str approvalDigest),
      ("requestDigest", .str requestDigest), ("responseDigest", .str responseDigest)]),
    ("authorizationEvidence", object [("keyArn", .str signer.keyArn),
      ("algorithm", lit "ECDSA_SHA_256"), ("canonicalization", lit "archon.sorted-json-utf8/v1"),
      ("envelopeDigest", .str envelopeDigest), ("signatureDigest", .str signatureDigest),
      ("consumedAt", .str consumedAt)])]

/-- The moment is within the times of the authorization. -/
def Within (P : Platform) (times : Times) (consumedAt : Text) : Prop :=
  instant P consumedAt = true ∧ ∃ consumed issued expires : Int,
    P.dateParse consumedAt = some consumed ∧ P.dateParse times.issuedAt = some issued
      ∧ P.dateParse times.expiresAt = some expires ∧ issued ≤ consumed ∧ consumed ≤ expires

section Made

variable {P : Platform} {run : Run} {prepared : Prepared} {signer : Signer} {decision : Decision}
  {request : Value}

theorem testDigest_str {t : Text} (h : Jobs.isDigest t = true) : testDigest (.str t) = true := by
  rw [testDigest, toText_str]
  exact h

theorem strictBase64_base64 {bytes : List UInt8} (h : isBase64 (Cloud.base64 bytes) = true)
    (hmin : 8 ≤ bytes.length) (hmax : bytes.length ≤ 256) :
    strictBase64 (Cloud.base64 bytes) = some bytes := by
  rw [strictBase64, if_pos h, Cloud.decode64_base64, Option.filter_some]
  simp [hmin, hmax]

theorem evidenceBinds_made {a : Authorization} {signatureDigest consumedAt : Text}
    (h : Within P a.times consumedAt) : evidenceBinds P signer a signatureDigest
      (object [("keyArn", .str signer.keyArn), ("algorithm", lit "ECDSA_SHA_256"),
        ("canonicalization", lit "archon.sorted-json-utf8/v1"),
        ("envelopeDigest", .str a.envelopeDigest), ("signatureDigest", .str signatureDigest),
        ("consumedAt", .str consumedAt)]) = true := by
  obtain ⟨hinstant, consumed, issued, expires, hconsumed, hissued, hexpires, hle, hle'⟩ := h
  have hkeys : (object [("keyArn", .str signer.keyArn), ("algorithm", lit "ECDSA_SHA_256"),
      ("canonicalization", lit "archon.sorted-json-utf8/v1"),
      ("envelopeDigest", .str a.envelopeDigest), ("signatureDigest", .str signatureDigest),
      ("consumedAt", .str consumedAt)]).exactKeys ["keyArn", "algorithm", "canonicalization",
      "envelopeDigest", "signatureDigest", "consumedAt"] = true := exactKeys_object (List.Perm.refl _)
  rw [evidenceBinds, hkeys]
  simp [getPath_cons, getPath_nil, List.lookup, hinstant, hconsumed, hissued, hexpires, hle, hle']

/-- **A result that is made of the request is accepted.** -/
theorem governedMutationResult_made (r : Requested P run prepared signer decision request)
    {bytes : List UInt8} {digestBytes : List UInt8 → Text} {responseDigest consumedAt d : Text}
    (happroval : digest P (object (approvalFields P prepared decision)) = some r.approvalDigest)
    (henvelope : ∃ t, canonicalize (authorizationEnvelope run prepared signer decision r.times) = some t
      ∧ r.envelopeDigest = js "sha256:" ++ P.sha256 t)
    (hwindow : Window P run prepared decision r.times)
    (hbytes : r.signatureBase64 = Cloud.base64 bytes) (hmin : 8 ≤ bytes.length)
    (hmax : bytes.length ≤ 256) (hresponse : Jobs.isDigest responseDigest = true)
    (hconsumed : Within P r.times consumedAt)
    (hdigest : digest P (object (resultMembers prepared signer r.requestDigest r.approvalDigest
      r.envelopeDigest (digestBytes bytes) responseDigest consumedAt)) = some d) :
    governedMutationResult P digestBytes run prepared signer decision request
      (object (resultMembers prepared signer r.requestDigest r.approvalDigest r.envelopeDigest
        (digestBytes bytes) responseDigest consumedAt ++ [("responseDigest", .str d)])) = true := by
  have hverified := verifyMutationRequest_made r happroval henvelope hwindow
  have hbase : isBase64 (Cloud.base64 bytes) = true := hbytes ▸ r.signature
  have hdecoded : strictBase64 r.signatureBase64 = some bytes := by
    rw [hbytes]
    exact strictBase64_base64 hbase hmin hmax
  have hrequestDigest : request.getPath ["requestDigest"] = .str r.requestDigest := by
    refine (congrArg (fun v => v.getPath ["requestDigest"]) r.request_eq).trans ?_
    simp [getPath_cons, getPath_nil, List.lookup, mutationFields]
  have hkeys : (object (resultMembers prepared signer r.requestDigest r.approvalDigest
      r.envelopeDigest (digestBytes bytes) responseDigest consumedAt
      ++ [("responseDigest", .str d)])).exactKeys ["schemaVersion", "requestDigest", "policyDigest",
      "beforeDigest", "afterDigest", "verified", "mutationExecutor", "officialMcpMutation",
      "authorizationEvidence", "responseDigest"] = true :=
    exactKeys_object (by
      simp only [resultMembers, List.map_append, List.map_cons, List.map_nil]
      exact List.Perm.refl _)
  have hofficial : (object [("tool", lit "add_tags"), ("policyDigest", .str prepared.policyDigest),
      ("approvalDigest", .str r.approvalDigest), ("requestDigest", .str r.requestDigest),
      ("responseDigest", .str responseDigest)]).exactKeys ["tool", "policyDigest", "approvalDigest",
      "requestDigest", "responseDigest"] = true := exactKeys_object (List.Perm.refl _)
  have hrest : (object (resultMembers prepared signer r.requestDigest r.approvalDigest
      r.envelopeDigest (digestBytes bytes) responseDigest consumedAt
      ++ [("responseDigest", .str d)])).rest ["responseDigest"]
      = object (resultMembers prepared signer r.requestDigest r.approvalDigest r.envelopeDigest
        (digestBytes bytes) responseDigest consumedAt) := by
    simp [rest_object, resultMembers]
  have hevidence := @evidenceBinds_made P signer ⟨r.envelopeDigest, r.signatureBase64, r.times⟩
    (digestBytes bytes) consumedAt hconsumed
  rw [governedMutationResult, hverified, happroval]
  dsimp only
  rw [hdecoded]
  dsimp only
  rw [hkeys, hrest, hdigest, hrequestDigest]
  simp [resultMembers, officialBinds, getPath_cons, getPath_nil, List.lookup, hofficial, hevidence,
    testDigest_str hresponse, testDigest_str (isDigest_digest hdigest)]

end Made

/-! ## 3. What a plan changes -/

theorem canonicalItems_strs (ts : List Text) : canonicalItems (ts.map .str) = some (ts.map quote) := by
  induction ts with
  | nil => rfl
  | cons t ts ih => simp [canonicalItems, canonicalize, ih]

theorem itemTexts_strs (ts : List Text) : itemTexts (ts.map .str) = ts.map quote := by
  induction ts with
  | nil => rfl
  | cons t ts ih => simp [itemTexts, stringify, ih]

/-- Lists of strings are printed and made canonical alike. -/
theorem canonicalize_texts_eq (ts : List Text) :
    canonicalize (texts ts) = stringify (.arr (ts.map .str)) := by
  rw [texts, canonicalize, stringify, canonicalItems_strs, itemTexts_strs, Option.map_some]

theorem sortKeys_state (a b c : Text) :
    sortKeys [(js "entityUrn", a), (js "columnPath", b), (js "tagUrns", c)]
      = [(js "columnPath", b), (js "entityUrn", a), (js "tagUrns", c)] := rfl

/-- The text of a state, around the text of its tags. -/
theorem canonicalize_stateFields (entity column : Text) {tags : List Text} {t : Text}
    (ht : canonicalize (texts tags) = some t) :
    canonicalize (object (stateFields entity column tags))
      = some (0x7B :: ((quote (js "columnPath") ++ 0x3A :: quote column) ++ 0x2C ::
        ((quote (js "entityUrn") ++ 0x3A :: quote entity) ++ 0x2C ::
          (quote (js "tagUrns") ++ 0x3A :: t)) ++ [0x7D])) := by
  have hfields : canonicalFields [(js "entityUrn", .str entity), (js "columnPath", .str column),
      (js "tagUrns", texts tags)] = some [(js "entityUrn", quote entity),
      (js "columnPath", quote column), (js "tagUrns", t)] := by
    simp [canonicalFields, canonicalize, ht]
  rw [stateFields, object, List.map_cons, List.map_cons, List.map_cons, List.map_nil, canonicalize,
    hfields, Option.map_some, sortKeys_state]
  rfl

/-- States of a column have one text only if they have the same tags. -/
theorem tags_of_canonicalize {entity column : Text} {ts us : List Text}
    (h : canonicalize (object (stateFields entity column ts))
      = canonicalize (object (stateFields entity column us))) : ts = us := by
  obtain ⟨s, hs⟩ : ∃ s, canonicalize (texts ts) = some s := ⟨_, by rw [canonicalize_texts_eq, stringify]⟩
  obtain ⟨t, ht⟩ : ∃ t, canonicalize (texts us) = some t := ⟨_, by rw [canonicalize_texts_eq, stringify]⟩
  rw [canonicalize_stateFields _ _ hs, canonicalize_stateFields _ _ ht] at h
  have heq : s = t := by simpa using h
  refine stringify_strings_inj ?_
  rw [← canonicalize_texts_eq, ← canonicalize_texts_eq, hs, ht, heq]

/-- The set of some tags with one that is among them. -/
theorem sortedSet_append_self {tags : List Text} {t : Text} (h : t ∈ tags) :
    sortedSet (tags ++ [t]) = sortedSet tags := by
  have hperm : (tags ++ [t]).dedup.Perm tags.dedup := by
    refine (List.perm_ext_iff_of_nodup (List.nodup_dedup _) (List.nodup_dedup _)).mpr fun u => ?_
    rw [List.mem_dedup, List.mem_dedup, List.mem_append, List.mem_singleton]
    exact or_iff_left_of_imp fun hu => hu ▸ h
  have : Std.Total fun s t : Text => codeUnitLe s t = true := ⟨codeUnitLe_total⟩
  have : IsTrans Text fun s t => codeUnitLe s t = true := ⟨fun _ _ _ => codeUnitLe_trans⟩
  refine List.Perm.eq_of_pairwise (fun _ _ _ _ => codeUnitLe_antisymm)
    (List.pairwise_insertionSort _ _) (List.pairwise_insertionSort _ _) ?_
  exact (List.perm_insertionSort _ _).trans (hperm.trans (List.perm_insertionSort _ _).symm)

/-- Tags that are accepted are a sorted set. -/
theorem sortedSet_of_valid {tags : List Text} (h : tagsValid tags = true) : sortedSet tags = tags := by
  simp only [tagsValid, Bool.and_eq_true] at h
  have hsame := h.2
  rw [same, canonicalize_texts_eq, canonicalize_texts_eq, stringify, stringify] at hsame
  refine stringify_strings_inj ?_
  rw [stringify, stringify]
  exact congrArg some (of_decide_eq_true hsame).symm

end Control
