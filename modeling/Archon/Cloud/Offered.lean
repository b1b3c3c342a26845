/-
# Plans that are offered

The control function offers a plan for approval whatever tags the column carries.  Where it carries the
tag already, the plan changes nothing: the digests before and after are one, and the worker refuses the
request that is made of the approval.  Every other plan is carried out as it was shown, and what the
worker returns is accepted (`mutation_served_iff`).

The two sides read the same instants: a text of milliseconds is the same moment for both, and a finer
one is not earlier in Python, which keeps the microseconds that Node.js drops (`Reads`).
-/
import Archon.Cloud.Mutations
import Archon.Control.Authorized
import Archon.Control.Governed

namespace Cloud

open Ecma Remediation Resumption Resumption.Program
open Jobs (Py isDigest)

/-! ## 1. Two sides -/

/-- The worker has the stage, the key and the target of the control function. -/
structure WriterOf (W : Writer) (signer : Control.Signer) : Prop where
  stage : W.stage = signer.stage
  keyArn : W.keyArn = signer.keyArn
  keyArn_form : isKmsArn signer.keyArn = true
  golden : W.golden = .ok ()

/-- The job of a request, of a run for the dataset and the column of the worker. -/
structure MutationOf (run : Control.Run) (decision : Control.Decision) (request : Value)
    (job : RuntimeJob) : Prop extends JobOf run job where
  jobId : job.jobId = decision.mutationJobId
  sessionId : job.sessionId = run.runtimeSessionId
  generation : job.generation = run.binding.generation
  capabilityDigest : job.capabilityDigest = run.binding.capabilityDigest
  request : job.request = Control.stored request

/-- A text of milliseconds. -/
def isMillis (t : Text) : Bool := Control.hasShape t "dddd-dd-ddTdd:dd:dd.dddZ"

/-- `toISOString` writes milliseconds, or a year of six digits after a sign. -/
def WritesMillis (P : Platform) : Prop :=
  ∀ ms, isMillis (P.toISOString ms) = true ∨ (P.toISOString ms).head? = some 0x2B
    ∨ (P.toISOString ms).head? = some 0x2D

/-- Python reads the instants that Node.js reads. -/
structure Reads (H : Host) : Prop where
  millis : ∀ t ms, isMillis t = true → H.P.dateParse t = some ms →
    H.fromisoformat (t.dropLast ++ js "+00:00") = some (ms * 1000)
  finer : ∀ t ms, Control.instant H.P t = true → H.P.dateParse t = some ms →
    ∃ μs, H.fromisoformat (t.dropLast ++ js "+00:00") = some μs ∧ ms * 1000 ≤ μs

section Instants

variable {H : Host} {t : Text}

theorem parseInstant_str (h : Control.instant H.P t = true) : parseInstant H (.str t)
    = match H.fromisoformat (t.dropLast ++ js "+00:00") with
      | some μs => .ok μs
      | none => .error (.contract "timestamp_invalid") := by
  simp only [Control.instant, Control.isRfc3339, Bool.and_eq_true, decide_eq_true_eq] at h
  obtain ⟨⟨hlength, ⟨⟨-, hlast⟩, -⟩⟩, -⟩ := h
  have hlen : Jobs.len t ≤ 64 := le_trans (Control.length_codePoints_le t) hlength
  have hz : t.getLast? = some 0x5A := by
    rw [List.getLast?_drop] at hlast
    split at hlast
    · cases hlast
    · exact hlast
  refine (if_pos ⟨hlen, hz⟩).trans ?_
  cases H.fromisoformat (t.dropLast ++ js "+00:00") with
  | none => rfl
  | some μs => rfl

/-- What Node.js writes is a text of milliseconds. -/
theorem isMillis_written {P : Platform} (hP : WritesMillis P) {ms : Int}
    (h : Control.instant P (P.toISOString ms) = true) : isMillis (P.toISOString ms) = true := by
  obtain ⟨u, rest, ht, hu⟩ := Control.head_of_instant h
  rcases hP ms with hmillis | hsign | hsign
  · exact hmillis
  · rw [ht] at hsign
    obtain rfl := Option.some.inj hsign
    exact absurd hu (by decide)
  · rw [ht] at hsign
    obtain rfl := Option.some.inj hsign
    exact absurd hu (by decide)

theorem parseInstant_millis (hr : Reads H) (h : Control.instant H.P t = true)
    (hmillis : isMillis t = true) {ms : Int} (hparse : H.P.dateParse t = some ms) :
    parseInstant H (.str t) = .ok (ms * 1000) := by
  rw [parseInstant_str h, hr.millis t ms hmillis hparse]

theorem parseInstant_finer (hr : Reads H) (h : Control.instant H.P t = true) {ms : Int}
    (hparse : H.P.dateParse t = some ms) :
    ∃ μs, parseInstant H (.str t) = .ok μs ∧ ms * 1000 ≤ μs := by
  obtain ⟨μs, hμs, hle⟩ := hr.finer t ms h hparse
  exact ⟨μs, by rw [parseInstant_str h, hμs], hle⟩

end Instants

/-! ## 2. Digests and canonical texts -/

theorem digest_plain {H : Host} {v : Value} {d : Text} (h : Control.Plain v)
    (hd : Control.digest H.P v = some d) : digest H (Control.stored v) = .ok d := by
  rw [digest, Control.digest_stored H.P h, hd]

theorem validateCanonicalItems_stored {items : List Value} {depth : Nat}
    (h : ∀ v ∈ items, validateCanonicalValue (Control.stored v) depth = .ok ()) :
    validateCanonicalItems (Control.storedItems items) depth = .ok () := by
  induction items with
  | nil => rfl
  | cons v vs ih =>
    obtain ⟨hv, hvs⟩ := List.forall_mem_cons.mp h
    rw [Control.storedItems, validateCanonicalItems, hv, ih hvs]
    rfl

theorem validateCanonicalFields_stored {fields : List (Text × Value)} {depth : Nat}
    (hkeys : ∀ f ∈ fields, f.1.isEmpty = false ∧ Control.isAscii f.1 = true)
    (h : ∀ f ∈ fields, validateCanonicalValue (Control.stored f.2) depth = .ok ()) :
    validateCanonicalFields (Control.storedFields fields) depth = .ok () := by
  induction fields with
  | nil => rfl
  | cons f fs ih =>
    obtain ⟨hf, hfs⟩ := List.forall_mem_cons.mp h
    obtain ⟨⟨hempty, hascii⟩, hks⟩ := List.forall_mem_cons.mp hkeys
    rw [Control.isAscii] at hascii
    rw [Control.storedFields, validateCanonicalFields, hf, ih hks hfs, hempty, hascii]
    rfl

theorem printableItems_iff {items : List Value} {depth : Nat} :
    Control.printableItems items depth = true ↔ ∀ v ∈ items, Control.printable v depth = true := by
  induction items with
  | nil => simp [Control.printableItems]
  | cons v vs ih => simp [Control.printableItems, ih]

theorem printableFields_iff {fields : List (Text × Value)} {depth : Nat} :
    Control.printableFields fields depth = true ↔ ∀ f ∈ fields,
      f.1.isEmpty = false ∧ Control.isAscii f.1 = true ∧ Control.printable f.2 depth = true := by
  induction fields with
  | nil => simp [Control.printableFields]
  | cons f fs ih =>
    obtain ⟨k, v⟩ := f
    simp [Control.printableFields, ih, and_assoc]

/-- **What the control function signs is canonical for the worker.** -/
theorem validateCanonicalValue_stored {v : Value} : Control.Plain v → ∀ depth,
    Control.printable v depth = true → validateCanonicalValue (Control.stored v) depth = .ok () := by
  refine Value.induct v ?_ ?_ ?_ ?_ ?_ ?_ ?_
  · intro h
    exact h.here.elim
  · intro _ depth h
    rw [Control.printable, Bool.and_eq_true] at h
    rw [Control.stored, validateCanonicalValue, h.1]
    rfl
  · intro b _ depth h
    rw [Control.printable, Bool.and_eq_true] at h
    rw [Control.stored, validateCanonicalValue, h.1]
    rfl
  · intro x h
    exact h.here.elim
  · intro s _ depth h
    rw [Control.printable, Bool.and_eq_true] at h
    obtain ⟨hdepth, hascii⟩ := h
    rw [Control.isAscii] at hascii
    rw [Control.stored, validateCanonicalValue, hdepth, demand_true]
    exact demand_eq_ok.mpr hascii
  · intro items ih hplain depth h
    rw [Control.printable, Bool.and_eq_true] at h
    obtain ⟨hdepth, hitems⟩ := h
    rw [Control.stored, validateCanonicalValue, hdepth, demand_true]
    exact validateCanonicalItems_stored fun v hv =>
      ih v hv ((Value.everywhere_arr.mp hplain).2 v hv) _ (printableItems_iff.mp hitems v hv)
  · intro fields ih hplain depth h
    rw [Control.printable, Bool.and_eq_true] at h
    obtain ⟨hdepth, hfields⟩ := h
    rw [Control.stored, validateCanonicalValue, hdepth, demand_true]
    refine validateCanonicalFields_stored (fun f hf => ?_) fun f hf =>
      ih f hf ((Value.everywhere_obj.mp hplain).2 f hf) _ (printableFields_iff.mp hfields f hf).2.2
    exact ⟨(printableFields_iff.mp hfields f hf).1, (printableFields_iff.mp hfields f hf).2.1⟩

theorem canonicalMutationJson_stored {v : Value} {t : Text} (h : Control.Plain v)
    (hprintable : Control.printable v 0 = true) (ht : Control.canonicalize v = some t) :
    canonicalMutationJson (Control.stored v) = .ok t := by
  rw [canonicalMutationJson, validateCanonicalValue_stored h 0 hprintable, Control.dumps_stored h, ht]
  rfl

/-! ## 3. What a plan changes -/

/-- What a plan is made of, beyond `Control.PlanFits`. -/
structure PlanOf (P : Platform) (run : Control.Run) (read : Control.ReadReceipt)
    (prepared : Control.Prepared) : Prop where
  policy : Control.digest P (Control.policyOf run) = some prepared.policyDigest
  before : Control.digest P (Value.object (Control.stateFields run.datasetUrn run.governedColumnPath
    read.tags)) = some prepared.before.stateDigest
  after : Control.digest P (Value.object (Control.stateFields run.datasetUrn run.governedColumnPath
    (Control.sortedSet (read.tags ++ [Control.PII_TAG])))) = some prepared.expectedAfter.stateDigest
  valid : Control.tagsValid read.tags = true

theorem planOf {P : Platform} {run : Control.Run} {analysis : Control.AnalysisReceipt}
    {read : Control.ReadReceipt} {improve : Control.ImproveReceipt} {prepared : Control.Prepared}
    (h : Control.planFor P run analysis read improve = some prepared) : PlanOf P run read prepared := by
  have hfits := Control.planFor_fits h
  have htags := Control.planFor_before h
  have hafter := hfits.after_digest
  rw [hfits.tagUrns, htags] at hafter
  simp only [Control.planFor, Option.bind_eq_bind, Option.bind_eq_some_iff] at h
  obtain ⟨before, hbefore, _, -, policyDigest, hpolicy, _, -, _, -, _, -, _, -, h⟩ := h
  obtain rfl := Option.some.inj h
  dsimp only at htags hafter ⊢
  unfold Control.tagState at hbefore
  split at hbefore
  case h_2 => cases hbefore
  case h_1 =>
    split at hbefore
    case h_2 => cases hbefore
    case h_1 tags _ =>
      split at hbefore
      case isFalse => cases hbefore
      case isTrue hvalid =>
        obtain rfl := Option.some.inj hbefore
        simp only [Bool.and_eq_true, decide_eq_true_eq] at hvalid
        dsimp only at htags
        subst htags
        exact ⟨hpolicy, hvalid.2, hafter, hvalid.1.2⟩

/-- A plan for a column that carries the tag changes nothing. -/
theorem digests_eq {P : Platform} {run : Control.Run} {read : Control.ReadReceipt}
    {prepared : Control.Prepared} (p : PlanOf P run read prepared) (h : PII_TAG ∈ read.tags) :
    prepared.before.stateDigest = prepared.expectedAfter.stateDigest := by
  have htags : Control.sortedSet (read.tags ++ [Control.PII_TAG]) = read.tags :=
    (Control.sortedSet_append_self h).trans (Control.sortedSet_of_valid p.valid)
  have hafter := p.after
  rw [htags, p.before] at hafter
  exact Option.some.inj hafter

/-- Any other plan changes the state, and its digest where the two are told apart. -/
theorem digests_ne {P : Platform} {run : Control.Run} {read : Control.ReadReceipt}
    {prepared : Control.Prepared} (p : PlanOf P run read prepared)
    (hseparates : ∀ s t, Control.canonicalize (Value.object (Control.stateFields run.datasetUrn
      run.governedColumnPath read.tags)) = some s → Control.canonicalize (Value.object
      (Control.stateFields run.datasetUrn run.governedColumnPath
        (Control.sortedSet (read.tags ++ [Control.PII_TAG])))) = some t → P.Separates s t)
    (h : PII_TAG ∉ read.tags) :
    prepared.before.stateDigest ≠ prepared.expectedAfter.stateDigest := by
  obtain ⟨s, hs, hbefore⟩ := Option.map_eq_some_iff.mp p.before
  obtain ⟨t, ht, hafter⟩ := Option.map_eq_some_iff.mp p.after
  intro heq
  rw [← hbefore, ← hafter, List.append_cancel_left_eq] at heq
  have htags := Control.tags_of_canonicalize
    (hs.trans ((congrArg some (hseparates s t hs ht heq)).trans ht.symm))
  refine h ?_
  rw [htags]
  exact Control.mem_sortedSet.mpr (List.mem_append_right _ List.mem_cons_self)

/-! ## 4. The request -/

@[simp] theorem ok_bind {α β : Type} (a : α) (f : α → Except Rejection β) :
    ((.ok a : Except Rejection α) >>= f) = f a := rfl

section Request

variable {W : Writer} {signer : Control.Signer} {run : Control.Run} {prepared : Control.Prepared}
  {decision : Control.Decision} {request : Value} {job : RuntimeJob}

theorem policyOf_stored (h : JobOf run job) : Control.stored (Control.policyOf run) = policyOf := by
  simp [Control.policyOf, policyOf, h.dataset, h.column, Control.PII_TAG, PII_TAG]

theorem digest_policyOf {H : Host} (h : JobOf run job) (hrun : Control.RunFits run)
    (hpolicy : Control.digest H.P (Control.policyOf run) = some prepared.policyDigest) :
    digest H policyOf = .ok prepared.policyDigest := by
  have htag : Jobs.encodable Control.PII_TAG = true := Jobs.encodable_js _
  have hplain : Control.Plain (Control.policyOf run) := by
    refine Control.plain_object (by simp only [List.map_cons, List.map_nil]; decide) ?_
    simp [htag, hrun.dataset_fits.encodable, hrun.column_fits.encodable]
  rw [← policyOf_stored h]
  exact digest_plain hplain hpolicy

theorem isTexts_single (t : Text) : (Py.list [.str t]).isTexts [t] = true := Py.isTexts_iff.mpr rfl

theorem requestBinds_of (hjob : MutationOf run decision request job) (hrun : Control.RunFits run)
    (hp : Control.PlanFits W.H.P run prepared)
    (r : Control.Requested W.H.P run prepared signer decision request) :
    requestBinds prepared.policyDigest job
      = !decide (prepared.before.stateDigest = prepared.expectedAfter.stateDigest) := by
  have hafter := Control.isDigest_digest hp.after_digest
  have htag : Control.PII_TAG = PII_TAG := rfl
  have hcomm : decide (prepared.expectedAfter.stateDigest = prepared.before.stateDigest)
      = decide (prepared.before.stateDigest = prepared.expectedAfter.stateDigest) :=
    decide_eq_decide.mpr eq_comm
  rw [requestBinds, hjob.request, Control.stored_mutation r]
  simp [OUTER_KEYS, isArguments, List.lookup, Py.lit, isTexts_single, Jobs.sameText, Py.isText, hafter,
    htag, hjob.auditId, hjob.evidence, hjob.dataset, hjob.column, hp.evidence, hp.plan,
    hp.before_digest, hcomm]

theorem verifyRequest_of (hjob : MutationOf run decision request job) (hrun : Control.RunFits run)
    (hp : Control.PlanFits W.H.P run prepared) (hd : Control.DecisionFits W.H.P decision)
    (hpolicy : Control.digest W.H.P (Control.policyOf run) = some prepared.policyDigest)
    (r : Control.Requested W.H.P run prepared signer decision request)
    (happroval : Control.digest W.H.P (Value.object
      (Control.approvalFields W.H.P prepared decision)) = some r.approvalDigest) :
    verifyRequest W job = if prepared.before.stateDigest = prepared.expectedAfter.stateDigest
      then .error (.contract "governed_mutation_request_invalid") else .ok () := by
  have he := Control.envelope_fits hp hd r
  have hrequest : digest W.H (job.request.without "requestDigest") = .ok r.requestDigest := by
    have hwithout : (Control.stored request).without "requestDigest" = Control.stored (Value.object
        (Control.mutationFields W.H.P run prepared decision r.approvalDigest (Control.authorizationOf
          (Control.authorizationEnvelope run prepared signer decision r.times) signer r.envelopeDigest
          r.signatureBase64))) := by
      refine (congrArg (fun v => (Control.stored v).without "requestDigest") r.request_eq).trans ?_
      simp [Control.mutationFields]
    rw [hjob.request, hwithout]
    exact digest_plain (Control.mutationFields_plain hrun hp hd r) r.digest_eq
  have happrovalDigest : digest W.H ((job.request.get "approval").without "digest")
      = .ok r.approvalDigest := by
    have hplain : Control.Plain (Value.object (Control.approvalFields W.H.P prepared decision)) := by
      refine Control.plain_object
        (by simp only [Control.approvalFields, List.map_cons, List.map_nil]; decide) ?_
      simp [Control.approvalFields, he.approvalId.encodable, (Control.fits_isDigest hd.owner).encodable,
        (Control.fits_instant hd.decided).encodable]
    have hwithout : (job.request.get "approval").without "digest" = Control.stored (Value.object
        (Control.approvalFields W.H.P prepared decision)) := by
      rw [hjob.request, Control.stored_mutation r]
      simp [Control.approvalFields, List.lookup]
    rw [hwithout]
    exact digest_plain hplain happroval
  have hauthorization : (Control.stored (Control.authorizationOf
      (Control.authorizationEnvelope run prepared signer decision r.times) signer r.envelopeDigest
      r.signatureBase64)).exact ["envelope", "signature"] = true := by
    simp [Control.authorizationOf]
  rw [verifyRequest, digest_policyOf hjob.toJobOf hrun hpolicy, ok_bind, requestBinds_of hjob hrun hp r]
  by_cases hsame : prepared.before.stateDigest = prepared.expectedAfter.stateDigest
  · rw [if_pos hsame, decide_eq_true hsame]
    rfl
  · rw [if_neg hsame, decide_eq_false hsame, Bool.not_false, demand_true, ok_bind, hrequest, ok_bind,
      happrovalDigest]
    rw [hjob.request, Control.stored_mutation r]
    simp [List.lookup, Py.lit, hd.owner, r.approval, hauthorization, ok_bind]

/-- What the worker reads of the authorization. -/
theorem authorization_read (hjob : MutationOf run decision request job)
    (r : Control.Requested W.H.P run prepared signer decision request) :
    (job.request.get "authorization").get "envelope"
        = Control.stored (Control.authorizationEnvelope run prepared signer decision r.times)
      ∧ (job.request.get "authorization").get "signature"
        = .object [("keyArn", .str signer.keyArn), ("algorithm", .lit "ECDSA_SHA_256"),
          ("canonicalization", .lit "archon.sorted-json-utf8/v1"),
          ("envelopeDigest", .str r.envelopeDigest), ("signatureBase64", .str r.signatureBase64)] := by
  rw [hjob.request, Control.stored_mutation r]
  simp [Control.authorizationOf, List.lookup]

/-- The envelope, as the table returns it. -/
theorem stored_envelope (run : Control.Run) (prepared : Control.Prepared) (signer : Control.Signer)
    (decision : Control.Decision) (times : Control.Times) :
    Control.stored (Control.authorizationEnvelope run prepared signer decision times)
      = .object [("schemaVersion", .lit "archon.core-mutation-authorization/v1"),
        ("stage", .str signer.stage), ("sessionId", .str run.runtimeSessionId),
        ("generation", .str run.binding.generation),
        ("capabilityDigest", .str run.binding.capabilityDigest),
        ("jobId", .str decision.mutationJobId), ("approvalId", .str prepared.approvalId),
        ("planDigest", .str prepared.planDigest), ("policyDigest", .str prepared.policyDigest),
        ("target", .object [("entityUrn", .str run.datasetUrn),
          ("columnPath", .str run.governedColumnPath)]),
        ("tool", .lit "add_tags"),
        ("arguments", .object [("tag_urns", .list [.str Control.PII_TAG]),
          ("entity_urns", .list [.str run.datasetUrn]),
          ("column_paths", .list [.str run.governedColumnPath])]),
        ("issuedAt", .str times.issuedAt), ("expiresAt", .str times.expiresAt)] := by
  simp [Control.authorizationEnvelope]

theorem authorizationBinds_of (hjob : MutationOf run decision request job)
    (r : Control.Requested W.H.P run prepared signer decision request) :
    authorizationBinds signer.stage signer.keyArn job
      (Control.stored (Control.authorizationEnvelope run prepared signer decision r.times))
      (.object [("keyArn", .str signer.keyArn), ("algorithm", .lit "ECDSA_SHA_256"),
        ("canonicalization", .lit "archon.sorted-json-utf8/v1"),
        ("envelopeDigest", .str r.envelopeDigest), ("signatureBase64", .str r.signatureBase64)])
      = true := by
  have htag : Control.PII_TAG = PII_TAG := rfl
  rw [authorizationBinds, stored_envelope, hjob.request, Control.stored_mutation r]
  simp [AUTHORIZATION_KEYS, isArguments, List.lookup, Py.lit, isTexts_single, Jobs.sameText, Py.isText,
    htag, hjob.sessionId, hjob.generation, hjob.capabilityDigest, hjob.jobId, hjob.dataset, hjob.column]

theorem requiredEnv_ok {t : Text} {maximum : Nat} (hascii : Control.isAscii t = true) (hne : t ≠ [])
    (hlength : t.length ≤ maximum) : requiredEnv t maximum = .ok t := by
  have hempty : t.isEmpty = false := List.isEmpty_eq_false_iff.mpr hne
  have hlen : Jobs.len t ≤ maximum := le_trans (Control.length_codePoints_le t) hlength
  have hunits : (t.all fun u => 0x20 ≤ u && u ≠ 0x7F) = true := by
    refine List.all_eq_true.mpr fun u hu => ?_
    have hu := List.all_eq_true.mp hascii u hu
    simp only [Bool.and_eq_true, decide_eq_true_eq, UInt16.le_iff_toNat_le, UInt16.reduceToNat,
      ne_eq, ← UInt16.toNat_inj] at hu ⊢
    omega
  rw [requiredEnv, hempty, hunits, decide_eq_true hlen]
  rfl

/-- The times of an authorization are the same moments for the worker. -/
theorem verifyTimes_of {times : Control.Times} {observed : Int} (hreads : Reads W.H)
    (hwindow : Control.Window W.H.P run prepared decision times)
    (hissued : Control.instant W.H.P times.issuedAt = true) (hissuedMillis : isMillis times.issuedAt = true)
    (hexpires : Control.instant W.H.P times.expiresAt = true)
    (hexpiresMillis : isMillis times.expiresAt = true)
    (hdecided : Control.instant W.H.P (decision.decidedText W.H.P) = true)
    (hdecidedMillis : isMillis (decision.decidedText W.H.P) = true)
    (hlease : Control.instant W.H.P run.binding.leaseExpiresAt = true)
    (hobserved : ∀ issued expires, W.H.P.dateParse times.issuedAt = some issued →
      W.H.P.dateParse times.expiresAt = some expires →
      issued * 1000 ≤ observed ∧ observed ≤ expires * 1000) :
    verifyTimes W (.str times.issuedAt) (.str times.expiresAt) (.str (decision.decidedText W.H.P))
      (.str run.binding.leaseExpiresAt) observed = .ok () := by
  obtain ⟨decided, issued, expires, approvalExpiry, lease, hd, hi, he, -, hl, hle, hlt, hlength, -,
    hbound⟩ := hwindow
  obtain ⟨hfrom, hto⟩ := hobserved issued expires hi he
  obtain ⟨μs, hμs, hmicros⟩ := parseInstant_finer hreads hlease hl
  have hbefore : (decide (decided * 1000 ≤ issued * 1000) && decide (issued * 1000 < expires * 1000))
      = true := by
    rw [Bool.and_eq_true, decide_eq_true_eq, decide_eq_true_eq]
    omega
  have hwithin : (decide (expires * 1000 - issued * 1000 ≤ 300 * 1000000)
      && decide (expires * 1000 ≤ μs) && decide (issued * 1000 ≤ observed)
      && decide (observed ≤ expires * 1000)) = true := by
    rw [Bool.and_eq_true, Bool.and_eq_true, Bool.and_eq_true, decide_eq_true_eq, decide_eq_true_eq,
      decide_eq_true_eq, decide_eq_true_eq]
    omega
  rw [verifyTimes, parseInstant_millis hreads hissued hissuedMillis hi, ok_bind,
    parseInstant_millis hreads hexpires hexpiresMillis he, ok_bind,
    parseInstant_millis hreads hdecided hdecidedMillis hd, ok_bind, hμs, ok_bind, hbefore, demand_true,
    ok_bind, hwithin, demand_true]

theorem strictBase64_of {bytes : List UInt8} (h : Control.isBase64 (base64 bytes) = true)
    (hmin : 8 ≤ bytes.length) (hmax : bytes.length ≤ 256) :
    strictBase64 (.str (base64 bytes)) = .ok bytes := by
  rw [strictBase64, if_pos h, decode64_base64]
  simp [hmin, hmax]

theorem requiredEnv_stage (signer : Control.Signer) (hascii : Control.isAscii signer.stage = true) :
    requiredEnv signer.stage 32 = .ok signer.stage := by
  have hform := signer.stage_form
  refine requiredEnv_ok hascii ?_ ?_
  · intro h
    rw [h] at hform
    cases hform
  · cases hs : signer.stage with
    | nil => exact Nat.zero_le _
    | cons u t =>
      rw [hs] at hform
      simp only [Control.isStage, Bool.and_eq_true, decide_eq_true_eq] at hform
      rw [List.length_cons]
      omega

theorem isKmsArn_ne {t : Text} (h : isKmsArn t = true) : t ≠ [] := by
  rintro rfl
  exact absurd h (by decide)

theorem lease_instant {P : Platform} {inputs : Control.Inputs}
    (h : Control.verifyAuditRecord P inputs run = true) :
    Control.instant P run.binding.leaseExpiresAt = true := by
  simp only [Control.verifyAuditRecord, Control.verifyRuntimeEvidence, Control.validateBinding,
    Bool.and_eq_true] at h
  exact h.1.1.1.1.2.2.1.2

end Request

/-! ## 5. What was offered -/

/-- **A plan that was offered and approved**, and the job that was made of it, for a worker of the same
stage, key and target, which finds a correct signature within the signed times. -/
structure Offered (W : Writer) where
  inputs : Control.Inputs
  signer : Control.Signer
  run : Control.Run
  analysis : Control.AnalysisReceipt
  read : Control.ReadReceipt
  improve : Control.ImproveReceipt
  prepared : Control.Prepared
  decision : Control.Decision
  issuedAt : Int
  /-- The signature. -/
  bytes : List UInt8
  request : Value
  job : RuntimeJob
  /-- The present, in microseconds. -/
  observed : Int
  verified : Control.verifyAuditRecord W.H.P inputs run = true
  planned : Control.planFor W.H.P run analysis read improve = some prepared
  decided : Control.verifyApprovalEnvelope W.H.P decision = true
  bytes_min : 8 ≤ bytes.length
  bytes_max : bytes.length ≤ 256
  requested : Control.mutationRequest W.H.P run prepared signer decision issuedAt (base64 bytes)
    = some request
  writer : WriterOf W signer
  jobOf : MutationOf run decision request job
  signature : ∀ t, Control.canonicalize (request.getPath ["authorization", "envelope"]) = some t →
    W.verifySignature signer.keyArn t bytes = .ok ()
  window : ∀ issuedAt expiresAt issued expires,
    request.getPath ["authorization", "envelope", "issuedAt"] = .str issuedAt →
    request.getPath ["authorization", "envelope", "expiresAt"] = .str expiresAt →
    W.H.P.dateParse issuedAt = some issued → W.H.P.dateParse expiresAt = some expires →
    issued * 1000 ≤ observed ∧ observed ≤ expires * 1000

namespace Offered

variable {W : Writer}

/-- The states before and after are told apart by their digests. -/
def Separated (o : Offered W) : Prop :=
  ∀ s t, Control.canonicalize (Value.object (Control.stateFields o.run.datasetUrn
    o.run.governedColumnPath o.read.tags)) = some s →
    Control.canonicalize (Value.object (Control.stateFields o.run.datasetUrn
      o.run.governedColumnPath (Control.sortedSet (o.read.tags ++ [Control.PII_TAG])))) = some t →
    W.H.P.Separates s t

/-- What `verify_mutation_request` makes of the job. -/
def verification (o : Offered W) : Except Rejection MutationAuthorization :=
  verifyMutationRequest W o.job (.str o.run.binding.leaseExpiresAt) o.observed

theorem runFits (o : Offered W) : Control.RunFits o.run := Control.run_fits o.verified

theorem planFits (o : Offered W) : Control.PlanFits W.H.P o.run o.prepared :=
  Control.planFor_fits o.planned

theorem decisionFits (o : Offered W) : Control.DecisionFits W.H.P o.decision :=
  Control.decision_fits o.decided

theorem envelope_path (o : Offered W)
    (r : Control.Requested W.H.P o.run o.prepared o.signer o.decision o.request) :
    o.request.getPath ["authorization", "envelope"]
      = Control.authorizationEnvelope o.run o.prepared o.signer o.decision r.times := by
  refine (congrArg (fun v => v.getPath ["authorization", "envelope"]) r.request_eq).trans ?_
  simp [Value.getPath_cons, Value.getPath_nil, List.lookup, Control.mutationFields,
    Control.authorizationOf]

/-- What is known of the request. -/
theorem requested_facts (hback : Control.ReadsBack W.H.P) (hmillis : WritesMillis W.H.P)
    (o : Offered W) :
    ∃ r : Control.Requested W.H.P o.run o.prepared o.signer o.decision o.request,
      Control.digest W.H.P (Value.object (Control.approvalFields W.H.P o.prepared o.decision))
        = some r.approvalDigest
      ∧ (∃ t, Control.canonicalize
          (Control.authorizationEnvelope o.run o.prepared o.signer o.decision r.times) = some t
        ∧ r.envelopeDigest = js "sha256:" ++ W.H.P.sha256 t)
      ∧ r.signatureBase64 = base64 o.bytes
      ∧ (isMillis r.times.issuedAt = true ∧ isMillis r.times.expiresAt = true)
      ∧ Control.Window W.H.P o.run o.prepared o.decision r.times := by
  obtain ⟨r, happroval, henvelope, hsignature, hissued, ⟨ms, hexpires⟩, hwindow⟩ :=
    Control.mutationRequest_issued hback o.requested
  refine ⟨r, happroval, henvelope, hsignature, ⟨?_, ?_⟩, hwindow⟩
  · have hinstant := r.issued
    rw [hissued] at hinstant ⊢
    exact isMillis_written hmillis hinstant
  · have hinstant := r.expires
    rw [hexpires] at hinstant ⊢
    exact isMillis_written hmillis hinstant

/-- **A plan that changes nothing is refused.** -/
theorem refused (hback : Control.ReadsBack W.H.P) (hmillis : WritesMillis W.H.P) (o : Offered W)
    (h : PII_TAG ∈ o.read.tags) :
    o.verification = .error (.contract "governed_mutation_request_invalid") := by
  obtain ⟨r, happroval, -⟩ := o.requested_facts hback hmillis
  have p := planOf o.planned
  rw [verification, verifyMutationRequest, o.writer.golden, ok_bind,
    verifyRequest_of o.jobOf o.runFits o.planFits o.decisionFits p.policy r happroval,
    if_pos (digests_eq p h)]
  rfl

/-- What the worker makes of a request that it accepts. -/
def authorizationOf (o : Offered W)
    (r : Control.Requested W.H.P o.run o.prepared o.signer o.decision o.request) :
    MutationAuthorization :=
  ⟨o.signer.keyArn, r.envelopeDigest, W.digestBytes o.bytes, r.times.issuedAt, r.times.expiresAt,
    r.approvalDigest⟩

/-- **Every other plan is accepted.** -/
theorem accepted (hreads : Reads W.H) (hmillis : WritesMillis W.H.P) (o : Offered W)
    (r : Control.Requested W.H.P o.run o.prepared o.signer o.decision o.request)
    (happroval : Control.digest W.H.P (Value.object
      (Control.approvalFields W.H.P o.prepared o.decision)) = some r.approvalDigest)
    (henvelope : ∃ t, Control.canonicalize
        (Control.authorizationEnvelope o.run o.prepared o.signer o.decision r.times) = some t
      ∧ r.envelopeDigest = js "sha256:" ++ W.H.P.sha256 t)
    (hsignature : r.signatureBase64 = base64 o.bytes)
    (htimes : isMillis r.times.issuedAt = true ∧ isMillis r.times.expiresAt = true)
    (hwindow : Control.Window W.H.P o.run o.prepared o.decision r.times)
    (hne : o.prepared.before.stateDigest ≠ o.prepared.expectedAfter.stateDigest) :
    o.verification = .ok (o.authorizationOf r) := by
  obtain ⟨t, ht, hdigest⟩ := henvelope
  have hd := o.decisionFits
  have he := Control.envelope_fits o.planFits hd r
  have hplain := Control.envelope_plain o.runFits o.planFits r he
  have hstage : Control.isAscii o.signer.stage = true :=
    Control.printable_str (Control.printable_object r.printable ("stage", .str o.signer.stage)
      (by simp))
  obtain ⟨henvelopeRead, hsignatureRead⟩ := authorization_read o.jobOf r
  obtain ⟨hissuedPath, hexpiresPath⟩ := r.times_eq
  have happrovalRead : ((o.job.request.get "approval").get "decidedAt"
      = .str (o.decision.decidedText W.H.P))
      ∧ (o.job.request.get "approval").get "digest" = .str r.approvalDigest := by
    rw [o.jobOf.request, Control.stored_mutation r]
    simp [List.lookup]
  have hissued : (Control.stored (Control.authorizationEnvelope o.run o.prepared o.signer o.decision
      r.times)).get "issuedAt" = .str r.times.issuedAt := by
    rw [stored_envelope]
    simp [List.lookup]
  have hexpires : (Control.stored (Control.authorizationEnvelope o.run o.prepared o.signer o.decision
      r.times)).get "expiresAt" = .str r.times.expiresAt := by
    rw [stored_envelope]
    simp [List.lookup]
  have hverifiedTimes := verifyTimes_of hreads hwindow r.issued htimes.1 r.expires htimes.2 hd.decided
    (isMillis_written hmillis hd.decided) (lease_instant o.verified)
    fun issued expires => o.window _ _ issued expires hissuedPath hexpiresPath
  have hbase : Control.isBase64 (base64 o.bytes) = true := hsignature ▸ r.signature
  have hverify := o.signature t (by rw [o.envelope_path r]; exact ht)
  have hjobs := verifyRequest_of o.jobOf o.runFits o.planFits hd (planOf o.planned).policy r happroval
  rw [if_neg hne] at hjobs
  rw [verification, verifyMutationRequest, o.writer.golden, ok_bind, hjobs, ok_bind]
  dsimp only
  rw [henvelopeRead, hsignatureRead, o.writer.stage, requiredEnv_stage o.signer hstage, ok_bind,
    o.writer.keyArn, requiredEnv_ok o.signer.keyArn_ascii (isKmsArn_ne o.writer.keyArn_form)
      o.signer.keyArn_length, ok_bind, o.writer.keyArn_form, demand_true, ok_bind,
    authorizationBinds_of o.jobOf r, demand_true, ok_bind,
    canonicalMutationJson_stored hplain r.printable ht, ok_bind, hissued, hexpires, happrovalRead.1,
    happrovalRead.2, hverifiedTimes]
  simp only [Py.get_object, List.lookup, String.reduceBEq, Option.getD_some, ← hdigest,
    Py.isText_self, demand_true, ok_bind, hsignature, strictBase64_of hbase o.bytes_min o.bytes_max,
    hverify]
  rfl

end Offered

/-! ## 6. What is returned -/

/-- A text that `instant` has written. -/
def Written (H : Host) (t : Text) : Prop := isMillis t = true ∧ Control.instant H.P t = true

/-- What the calls of an execution return.  Anything can be raised; the store returns what an execution
has stored, and the digest of a response is one. -/
def MutationEnv (H : Host) (_ : Unit) : (e : MutationCall) → MutationAnswer e → Unit → Prop
  | .mutationExecution, r, _ => ∀ ledger : Ledger, r = .ok (some ledger) → Written H ledger.consumedAt
  | .instant, r, _ => ∃ t : Text, r = .ok t ∧ Written H t
  | .beginMutationOnce envelopeDigest consumedAt, r, _ => ∀ ledger : Ledger, r = .ok ledger →
      if ledger.replayed then Written H ledger.consumedAt
      else ledger.envelopeDigest = envelopeDigest ∧ ledger.consumedAt = consumedAt
  | .mutateTags, r, _ => ∀ d : Text, r = .ok d → isDigest d = true
  | .readColumnTags, _, _ | .acknowledgeMutation _ _, _, _ | .verifyMutation _ _ _, _, _ => True

theorem ensures_lift {α β : Type} {H : Host} {Q : Unit → Except Rejection β → Prop} {s : Unit}
    {r : Except Rejection α} {f : α → MutationProgram β}
    (hok : ∀ a, r = .ok a → Ensures (MutationEnv H) Q s (f a)) (herror : ∀ e, Q s (.error e)) :
    Ensures (MutationEnv H) Q s (lift r >>= f) := by
  cases r with
  | error e => exact herror e
  | ok a => exact hok a rfl

theorem ensures_ask {β : Type} {H : Host} {Q : Unit → Except Rejection β → Prop} {s : Unit}
    {e : MutationCall} {f : MutationReply e → MutationProgram β}
    (hok : ∀ a, MutationEnv H () e (.ok a) () → Ensures (MutationEnv H) Q () (f a))
    (herror : ∀ x, Q () (.error x)) : Ensures (MutationEnv H) Q s (ask e >>= f) := by
  intro r s' henv
  cases r with
  | error x => exact herror x
  | ok a => exact hok a henv

/-- A plain value is read back as it was stored. -/
theorem received_stored {v : Value} : Control.Plain v → Control.received (Control.stored v) = some v := by
  refine Value.induct v ?_ ?_ ?_ ?_ ?_ ?_ ?_
  · intro h
    exact h.here.elim
  · intro _
    rw [Control.stored, Control.received]
  · intro b _
    rw [Control.stored, Control.received]
  · intro x h
    exact h.here.elim
  · intro t _
    rw [Control.stored, Control.received]
  · intro items ih h
    have hitems : Control.receivedItems (Control.storedItems items) = some items := by
      have hplain := (Value.everywhere_arr.mp h).2
      clear h
      induction items with
      | nil => rfl
      | cons v vs ih' =>
        obtain ⟨hv, hvs⟩ := List.forall_mem_cons.mp hplain
        have hrest := ih' (fun w hw => ih w (List.mem_cons_of_mem _ hw)) hvs
        rw [Control.storedItems, Control.receivedItems, ih v List.mem_cons_self hv, hrest]
        rfl
    rw [Control.stored, Control.received, hitems, Option.map_some]
  · intro fields ih h
    have hfields : Control.receivedFields (Control.storedFields fields) = some fields := by
      have hplain := (Value.everywhere_obj.mp h).2
      clear h
      induction fields with
      | nil => rfl
      | cons f fs ih' =>
        obtain ⟨hf, hfs⟩ := List.forall_mem_cons.mp hplain
        have hrest := ih' (fun g hg => ih g (List.mem_cons_of_mem _ hg)) hfs
        rw [Control.storedFields, Control.receivedFields, ih f List.mem_cons_self hf, hrest]
        rfl
    rw [Control.stored, Control.received, hfields, Option.map_some]

/-- A ledger that is valid was consumed within the times. -/
theorem within_of_ledger {W : Writer} {ledger : Ledger} {a : MutationAuthorization}
    {times : Control.Times} (hreads : Reads W.H) (hissued : a.issuedAt = times.issuedAt)
    (hexpires : a.expiresAt = times.expiresAt)
    (hissuedInstant : Control.instant W.H.P times.issuedAt = true)
    (hexpiresInstant : Control.instant W.H.P times.expiresAt = true)
    (hmillis : isMillis times.issuedAt = true ∧ isMillis times.expiresAt = true)
    (hwritten : Written W.H ledger.consumedAt) (h : validateLedger W ledger a = .ok ()) :
    Control.Within W.H.P times ledger.consumedAt := by
  have hparse : ∀ {t : Text}, Control.instant W.H.P t = true → ∃ ms, W.H.P.dateParse t = some ms := by
    intro t ht
    simp only [Control.instant, Bool.and_eq_true] at ht
    exact Option.isSome_iff_exists.mp ht.2
  obtain ⟨consumed, hconsumed⟩ := hparse hwritten.2
  obtain ⟨issued, hi⟩ := hparse hissuedInstant
  obtain ⟨expires, he⟩ := hparse hexpiresInstant
  rw [validateLedger, hissued, hexpires] at h
  obtain ⟨_, -, h⟩ := bind_eq_ok.mp h
  rw [parseInstant_millis hreads hwritten.2 hwritten.1 hconsumed, ok_bind,
    parseInstant_millis hreads hissuedInstant hmillis.1 hi, ok_bind] at h
  obtain ⟨_, hstart, h⟩ := bind_eq_ok.mp h
  rw [parseInstant_millis hreads hexpiresInstant hmillis.2 he, ok_bind] at h
  rw [demand_eq_ok, decide_eq_true_eq] at hstart h
  exact ⟨hwritten.2, consumed, issued, expires, hconsumed, hi, he, by omega, by omega⟩

namespace Offered

variable {W : Writer}

/-- The control function accepts what the worker returned. -/
def Accepts (o : Offered W) (result : Py) : Prop :=
  ∃ v, Control.received result = some v ∧ Control.governedMutationResult W.H.P W.digestBytes o.run
    o.prepared o.signer o.decision o.request v = true

/-- What is known of a request that was accepted. -/
structure Known (o : Offered W)
    (r : Control.Requested W.H.P o.run o.prepared o.signer o.decision o.request) : Prop where
  approval : Control.digest W.H.P (Value.object (Control.approvalFields W.H.P o.prepared o.decision))
    = some r.approvalDigest
  envelope : ∃ t, Control.canonicalize
      (Control.authorizationEnvelope o.run o.prepared o.signer o.decision r.times) = some t
    ∧ r.envelopeDigest = js "sha256:" ++ W.H.P.sha256 t
  signature : r.signatureBase64 = base64 o.bytes
  millis : isMillis r.times.issuedAt = true ∧ isMillis r.times.expiresAt = true
  window : Control.Window W.H.P o.run o.prepared o.decision r.times

theorem members_plain (o : Offered W)
    (r : Control.Requested W.H.P o.run o.prepared o.signer o.decision o.request)
    {responseDigest consumedAt : Text} (hresponse : isDigest responseDigest = true)
    (hconsumed : Control.instant W.H.P consumedAt = true) (extra : List (String × Text))
    (hextra : extra = [] ∨ ∃ d, extra = [("responseDigest", d)] ∧ isDigest d = true) :
    Control.Plain (Value.object (Control.resultMembers o.prepared o.signer r.requestDigest
      r.approvalDigest r.envelopeDigest (W.digestBytes o.bytes) responseDigest consumedAt
      ++ extra.map fun f => (f.1, .str f.2))) := by
  have hp := o.planFits
  have hrequest := (Control.fits_isDigest (Control.isDigest_digest r.digest_eq)).encodable
  have hafter := (Control.fits_isDigest (Control.isDigest_digest hp.after_digest)).encodable
  have hofficial : Control.Plain (Value.object [("tool", Value.lit "add_tags"),
      ("policyDigest", .str o.prepared.policyDigest), ("approvalDigest", .str r.approvalDigest),
      ("requestDigest", .str r.requestDigest), ("responseDigest", .str responseDigest)]) := by
    refine Control.plain_object (by simp only [List.map_cons, List.map_nil]; decide) ?_
    simp [hrequest, (Control.fits_isDigest hp.policy).encodable,
      (Control.fits_isDigest r.approval).encodable, (Control.fits_isDigest hresponse).encodable]
  have hevidence : Control.Plain (Value.object [("keyArn", .str o.signer.keyArn),
      ("algorithm", Value.lit "ECDSA_SHA_256"),
      ("canonicalization", Value.lit "archon.sorted-json-utf8/v1"),
      ("envelopeDigest", .str r.envelopeDigest), ("signatureDigest", .str (W.digestBytes o.bytes)),
      ("consumedAt", .str consumedAt)]) := by
    refine Control.plain_object (by simp only [List.map_cons, List.map_nil]; decide) ?_
    simp [(Control.fits_ascii o.signer.keyArn_ascii o.signer.keyArn_length).encodable,
      (Control.fits_isDigest r.envelope).encodable,
      (Control.fits_isDigest (W.digestBytes_form o.bytes)).encodable,
      (Control.fits_instant hconsumed).encodable]
  rcases hextra with rfl | ⟨d, rfl, hd⟩
  · refine Control.plain_object
      (by simp only [Control.resultMembers, List.map_nil, List.append_nil, List.map_cons]; decide) ?_
    simp [Control.resultMembers, Control.plain_bool, hofficial, hevidence, hrequest, hafter,
      (Control.fits_isDigest hp.policy).encodable, (Control.fits_isDigest hp.before_digest).encodable]
  · refine Control.plain_object
      (by simp only [Control.resultMembers, List.map_nil, List.map_cons, List.cons_append,
            List.nil_append]
          decide) ?_
    simp [Control.resultMembers, Control.plain_bool, hofficial, hevidence, hrequest, hafter,
      (Control.fits_isDigest hp.policy).encodable, (Control.fits_isDigest hp.before_digest).encodable,
      (Control.fits_isDigest hd).encodable]

/-- **What the worker returns is accepted.** -/
theorem result_accepted (o : Offered W)
    {r : Control.Requested W.H.P o.run o.prepared o.signer o.decision o.request} (k : o.Known r)
    {responseDigest consumedAt : Text} (hresponse : isDigest responseDigest = true)
    (hconsumed : Control.Within W.H.P r.times consumedAt) {py : Py}
    (h : result W o.job (o.authorizationOf r) (.str responseDigest)
      (.str o.prepared.before.stateDigest) (.str o.prepared.expectedAfter.stateDigest)
      (.str consumedAt) = .ok py) : o.Accepts py := by
  have hread : o.job.request.get "requestDigest" = .str r.requestDigest
      ∧ o.job.request.get "policyDigest" = .str o.prepared.policyDigest := by
    rw [o.jobOf.request, Control.stored_mutation r]
    simp [List.lookup]
  have hfields : Py.object (resultFields o.job (o.authorizationOf r) (.str responseDigest)
      (.str o.prepared.before.stateDigest) (.str o.prepared.expectedAfter.stateDigest)
      (.str consumedAt)) = Control.stored (Value.object (Control.resultMembers o.prepared o.signer
        r.requestDigest r.approvalDigest r.envelopeDigest (W.digestBytes o.bytes) responseDigest
        consumedAt)) := by
    simp [resultFields, Control.resultMembers, hread, authorizationOf]
  have hplain := o.members_plain r hresponse hconsumed.1 [] (Or.inl rfl)
  rw [List.map_nil, List.append_nil] at hplain
  rw [result, hfields] at h
  obtain ⟨d, hd, h⟩ := bind_eq_ok.mp h
  obtain rfl := Except.ok.inj h
  have hdigest : Control.digest W.H.P (Value.object (Control.resultMembers o.prepared o.signer
      r.requestDigest r.approvalDigest r.envelopeDigest (W.digestBytes o.bytes) responseDigest
      consumedAt)) = some d := by
    rw [digest, Control.digest_stored W.H.P hplain] at hd
    split at hd
    · rename_i d' heq
      rw [heq, Except.ok.inj hd]
    · cases hd
  have hsealed := o.members_plain r hresponse hconsumed.1 [("responseDigest", d)]
    (Or.inr ⟨d, rfl, Control.isDigest_digest hdigest⟩)
  have hreturned : Py.object (resultFields o.job (o.authorizationOf r) (.str responseDigest)
      (.str o.prepared.before.stateDigest) (.str o.prepared.expectedAfter.stateDigest)
      (.str consumedAt) ++ [("responseDigest", .str d)])
    = Control.stored (Value.object (Control.resultMembers o.prepared o.signer r.requestDigest
      r.approvalDigest r.envelopeDigest (W.digestBytes o.bytes) responseDigest consumedAt
      ++ [("responseDigest", .str d)])) := by
    simp [resultFields, Control.resultMembers, hread, authorizationOf]
  refine ⟨_, ?_, Control.governedMutationResult_made r k.approval k.envelope k.window k.signature
    o.bytes_min o.bytes_max hresponse hconsumed hdigest⟩
  rw [hreturned]
  exact received_stored hsealed

/-- The states that the request names. -/
theorem expected_read (o : Offered W)
    (r : Control.Requested W.H.P o.run o.prepared o.signer o.decision o.request) :
    o.job.request.get "expectedBeforeDigest" = .str o.prepared.before.stateDigest
      ∧ o.job.request.get "expectedAfterDigest" = .str o.prepared.expectedAfter.stateDigest := by
  rw [o.jobOf.request, Control.stored_mutation r]
  simp [List.lookup]

theorem within_ledger (hreads : Reads W.H) (o : Offered W)
    {r : Control.Requested W.H.P o.run o.prepared o.signer o.decision o.request} (k : o.Known r)
    {ledger : Ledger} (hwritten : Written W.H ledger.consumedAt)
    (h : validateLedger W ledger (o.authorizationOf r) = .ok ()) :
    Control.Within W.H.P r.times ledger.consumedAt :=
  within_of_ledger hreads rfl rfl r.issued r.expires k.millis hwritten h

/-- **What a recovered execution returns is accepted.** -/
theorem recover_ensures (hreads : Reads W.H) (o : Offered W)
    {r : Control.Requested W.H.P o.run o.prepared o.signer o.decision o.request} (k : o.Known r)
    {ledger : Ledger} (hwritten : Written W.H ledger.consumedAt) :
    Ensures (MutationEnv W.H) (fun _ x => ∀ py, x = .ok py → o.Accepts py) ()
      (recoverMutation W o.job (o.authorizationOf r) ledger) := by
  obtain ⟨hbefore, hafter⟩ := o.expected_read r
  have herror : ∀ (e : Rejection) (py : Py), Except.error e = .ok py → o.Accepts py :=
    fun _ _ h => nomatch h
  -- What is returned once the states agree.
  have hend : validateLedger W ledger (o.authorizationOf r) = .ok () → ∀ (d : Text) (t : TagRead),
      demand ((Py.str o.prepared.expectedAfter.stateDigest).isText t.stateDigest && isDigest d)
        "mutation_recovery_state_mismatch" = .ok () → ∀ py,
      result W o.job (o.authorizationOf r) (.str d) (.str o.prepared.before.stateDigest)
        (.str t.stateDigest) (.str ledger.consumedAt) = .ok py → o.Accepts py := by
    intro hledger d t hdemand py hpy
    rw [demand_eq_ok, Bool.and_eq_true, Py.isText, decide_eq_true_eq] at hdemand
    rw [← hdemand.1] at hpy
    exact o.result_accepted k hdemand.2 (o.within_ledger hreads k hwritten hledger) hpy
  rw [recoverMutation, hbefore, hafter]
  refine ensures_lift (fun _ hledger => ?_) herror
  refine ensures_ask (fun t _ => ?_) herror
  cases hphase : ledger.phase with
  | AUTHORIZED => exact herror _
  | PROVIDER_ACKNOWLEDGED =>
    cases hresponse : ledger.responseDigest with
    | none => exact herror _
    | some d =>
      refine ensures_lift (fun _ hdemand => ?_) herror
      exact ensures_ask (fun _ _ => hend hledger d t hdemand) herror
  | VERIFIED =>
    cases hresponse : ledger.responseDigest with
    | none => exact herror _
    | some d => exact ensures_lift (fun _ hdemand => hend hledger d t hdemand) herror

/-- **What an execution returns is accepted.** -/
theorem execute_ensures (hreads : Reads W.H) (o : Offered W)
    {r : Control.Requested W.H.P o.run o.prepared o.signer o.decision o.request} (k : o.Known r)
    (hverified : o.verification = .ok (o.authorizationOf r)) :
    Ensures (MutationEnv W.H) (fun _ x => ∀ py, x = .ok py → o.Accepts py) ()
      (executeMutation W o.job (.str o.run.binding.leaseExpiresAt) o.observed) := by
  obtain ⟨hbefore, hafter⟩ := o.expected_read r
  have herror : ∀ (e : Rejection) (py : Py), Except.error e = .ok py → o.Accepts py :=
    fun _ _ h => nomatch h
  rw [verification] at hverified
  rw [executeMutation, hverified, hbefore, hafter]
  refine ensures_ask (fun existing hexisting => ?_) herror
  cases existing with
  | some ledger => exact o.recover_ensures hreads k (hexisting ledger rfl)
  | none =>
    refine ensures_ask (fun before _ => ?_) herror
    refine ensures_lift (fun _ hcompared => ?_) herror
    refine ensures_lift (fun afterDigest _ => ?_) herror
    refine ensures_lift (fun _ _ => ?_) herror
    refine ensures_ask (fun consumedAt hconsumed => ?_) herror
    refine ensures_ask (fun ledger hledger => ?_) herror
    obtain ⟨_, ht, hwritten⟩ := hconsumed
    obtain rfl := Except.ok.inj ht
    have hbegun := hledger ledger rfl
    cases hreplayed : ledger.replayed with
    | true =>
      rw [if_pos hreplayed] at hbegun
      exact o.recover_ensures hreads k hbegun
    | false =>
      rw [if_neg (by rw [hreplayed]; exact Bool.false_ne_true)] at hbegun
      obtain ⟨-, hat⟩ := hbegun
      refine ensures_lift (fun _ hvalid => ?_) herror
      refine ensures_ask (fun responseDigest hresponse => ?_) herror
      refine ensures_ask (fun _ _ => ?_) herror
      refine ensures_ask (fun after _ => ?_) herror
      refine ensures_lift (fun _ hpost => ?_) herror
      refine ensures_ask (fun _ _ py hpy => ?_) herror
      rw [demand_eq_ok, Py.isText, decide_eq_true_eq] at hcompared hpost
      rw [← hcompared, ← hpost] at hpy
      exact o.result_accepted k (hresponse responseDigest rfl)
        (o.within_ledger hreads k (hat ▸ hwritten) hvalid) hpy

/-! ## 7. Which plans are served -/

/-- **The request is accepted, and so is every result that is returned for it.** -/
def Served (o : Offered W) : Prop :=
  (∃ a, o.verification = .ok a) ∧ ∀ py, Runs (MutationEnv W.H) ()
    (executeMutation W o.job (.str o.run.binding.leaseExpiresAt) o.observed) () (.ok py) → o.Accepts py

end Offered

/-- **A plan that was offered and approved is served exactly where the column does not carry the tag
yet.** -/
theorem mutation_served_iff {W : Writer} (hback : Control.ReadsBack W.H.P)
    (hmillis : WritesMillis W.H.P) (hreads : Reads W.H) (o : Offered W) (hseparates : o.Separated) :
    o.Served ↔ PII_TAG ∉ o.read.tags := by
  constructor
  · rintro ⟨⟨a, ha⟩, -⟩ h
    rw [o.refused hback hmillis h] at ha
    cases ha
  · intro h
    obtain ⟨r, happroval, henvelope, hsignature, htimes, hwindow⟩ := o.requested_facts hback hmillis
    have hverified := o.accepted hreads hmillis r happroval henvelope hsignature htimes hwindow
      (digests_ne (planOf o.planned) hseparates h)
    refine ⟨⟨_, hverified⟩, fun py hrun => ?_⟩
    exact runs_of_ensures (o.execute_ensures hreads ⟨happroval, henvelope, hsignature, htimes, hwindow⟩
      hverified) hrun py rfl

/-! ## 8. Two plans -/

/-- A platform, and a Python that reads its instants. -/
def readableHost : Host where
  P := Control.readablePlatform
  fromisoformat t := (Instant.parseIso (t.take (t.length - 6) ++ js "Z")).map (· * 1000)

/-- The states of the column without a tag and with it. -/
theorem untagged_separated : (Control.canonicalize (Value.object (Control.stateFields
      cloudRun.datasetUrn cloudRun.governedColumnPath []))).map readableHost.P.sha256
    ≠ (Control.canonicalize (Value.object (Control.stateFields cloudRun.datasetUrn
      cloudRun.governedColumnPath (Control.sortedSet [Control.PII_TAG])))).map readableHost.P.sha256 := by
  have hplain : ((Control.canonicalize (Value.object (Control.stateFields cloudRun.datasetUrn
      cloudRun.governedColumnPath []))).map readableHost.P.sha256).bind List.head? = some 0x39 := by
    simp only [cloudRun, DATASET_URN, COLUMN_PATH]
    repeat rw [js_ofList]
    decide +kernel
  have htagged : ((Control.canonicalize (Value.object (Control.stateFields cloudRun.datasetUrn
      cloudRun.governedColumnPath (Control.sortedSet [Control.PII_TAG])))).map
        readableHost.P.sha256).bind List.head? = some 0x31 := by
    simp only [cloudRun, DATASET_URN, COLUMN_PATH, Control.PII_TAG]
    repeat rw [js_ofList]
    decide +kernel
  intro h
  rw [h, htagged] at hplain
  exact absurd hplain (by decide)

theorem parseIso_last {t : Text} {ms : Int} (h : Instant.parseIso t = some ms) :
    ∃ s, t = s ++ [0x5A] := by
  simp only [Instant.parseIso, Option.bind_eq_bind, Option.bind_eq_some_iff] at h
  obtain ⟨_, -, _, -, _, -, _, -, _, -, _, -, _, -, h⟩ := h
  split at h
  case isFalse => cases h
  case isTrue hform =>
    obtain ⟨hlength, -, -, -, -, -, -, hz, -⟩ := hform
    refine ⟨t.take 23, ?_⟩
    have hend : slice t 23 24 = t.drop 23 := by
      rw [slice, List.take_of_length_le (by omega)]
    conv_lhs => rw [← List.take_append_drop 23 t, ← hend, hz]
    rfl

theorem fromisoformat_readable {t : Text} {ms : Int} (h : Instant.parseIso t = some ms) :
    readableHost.fromisoformat (t.dropLast ++ js "+00:00") = some (ms * 1000) := by
  have hoffset : (js "+00:00").length = 6 := by decide
  have hz : js "Z" = [0x5A] := by decide
  obtain ⟨s, rfl⟩ := parseIso_last h
  unfold readableHost
  dsimp only
  rw [List.dropLast_concat, List.length_append, hoffset, Nat.add_sub_cancel, List.take_left, hz, h]
  rfl

theorem reads_readable : Reads readableHost where
  millis _ _ _ h := fromisoformat_readable h
  finer _ ms _ h := ⟨ms * 1000, fromisoformat_readable h, le_rfl⟩

theorem readsBack_host : Control.ReadsBack readableHost.P := Control.readsBack_readable

theorem writesMillis_readable : WritesMillis readableHost.P := by
  intro ms
  have hwrite : readableHost.P.toISOString ms = Control.readableText ms := by
    unfold readableHost Control.readablePlatform
    with_reducible rfl
  rw [hwrite, Control.readableText]
  split
  · exact Or.inl (Control.hasShape_isoText ms)
  · exact Or.inr (Or.inl rfl)

theorem tells_readable : Control.Tells readableHost.P where
  dates := rfl
  texts ms hms := by
    have hback : ∀ ms ∈ [1784023260000, 1784023270000, 1784023570000, 1784025000000],
        Instant.parseIso (Instant.isoText ms) = some ms := by decide
    have hwrite : readableHost.P.toISOString ms = Control.readableText ms := by
      unfold readableHost Control.readablePlatform
      with_reducible rfl
    rw [hwrite, Control.readableText, if_pos (hback ms hms)]

/-- A key of the form that the worker asks for. -/
def cloudSigner : Control.Signer where
  stage := js "prod"
  keyArn := js "arn:aws:kms:eu-west-1:000000000000:key/00000000-0000-0000-0000-000000000000"
  stage_form := Control.sampleSigner.stage_form
  keyArn_ascii := by decide
  keyArn_length := by decide

/-- A signature. -/
def cloudSignature : List UInt8 := List.replicate 72 0

/-- The worker, with a key of which this is the signature. -/
def cloudWriter : Writer where
  H := readableHost
  stage := cloudSigner.stage
  keyArn := cloudSigner.keyArn
  golden := .ok ()
  digestBytes bytes := js "sha256:" ++ readableHost.P.sha256 (bytes.map UInt8.toUInt16)
  digestBytes_form _ := Control.isDigest_sha256 readableHost.P _
  verifySignature _ _ bytes := demand (bytes = cloudSignature) "mutation_signature_invalid"

theorem cloudWriter_host : cloudWriter.H = readableHost := by
  unfold cloudWriter
  with_reducible rfl

theorem readsBack_cloud : Control.ReadsBack cloudWriter.H.P := cloudWriter_host ▸ readsBack_host

theorem writesMillis_cloud : WritesMillis cloudWriter.H.P := cloudWriter_host ▸ writesMillis_readable

theorem reads_cloud : Reads cloudWriter.H := cloudWriter_host ▸ reads_readable

theorem cloudSignature_base64 : base64 cloudSignature = Control.sampleSignature := by decide

theorem cloudRun_readable : Control.verifyAuditRecord readableHost.P cloudInputs cloudRun = true := by
  simp only [Control.verifyAuditRecord, cloudInputs, cloudRun, Control.sampleRun,
    Control.sampleLease, DATASET_URN, COLUMN_PATH]
  repeat rw [js_ofList]
  decide +kernel

theorem sampleDecision_readable :
    Control.verifyApprovalEnvelope readableHost.P Control.sampleDecision = true := by
  rw [Control.verifyApprovalEnvelope, Control.Decision.decidedText, Control.instant,
    tells_readable.texts Control.sampleDecision.decidedAt (by decide), tells_readable.dates]
  decide +kernel

/-- Whatever tags were read, the plan is offered, approved and sent. -/
theorem offered_of_tags (tags : List Text) (h : Control.tagsValid tags = true) :
    ∃ o : Offered cloudWriter, o.run = cloudRun ∧ o.read.tags = tags := by
  obtain ⟨read, prepared, htags, hplanned, hexpires⟩ :=
    Control.planned_of_tags tells_readable cloudRun rfl h
  obtain ⟨request, hrequest⟩ := Control.requested_of_plan tells_readable cloudSigner (by decide +kernel)
    (Control.planFor_fits hplanned) rfl hexpires
  obtain ⟨r, -, -, -, hissued, -, hwindow⟩ := Control.mutationRequest_issued readsBack_host hrequest
  have hat : readableHost.P.dateParse r.times.issuedAt = some 1784023270000 := by
    rw [hissued, tells_readable.texts _ (by decide), tells_readable.dates]
    decide
  exact ⟨{
    inputs := cloudInputs
    signer := cloudSigner
    run := cloudRun
    analysis := Control.sampleAnalysis
    read := read
    improve := Control.sampleImprove
    prepared := prepared
    decision := Control.sampleDecision
    issuedAt := 1784023270000
    bytes := cloudSignature
    request := request
    job := cloudJob "GOVERNED_MUTATION" request
    observed := 1784023270000 * 1000
    verified := cloudRun_readable
    planned := hplanned
    decided := sampleDecision_readable
    bytes_min := by decide
    bytes_max := by decide
    requested := by
      rw [cloudSignature_base64]
      exact hrequest
    writer := ⟨rfl, rfl, by decide, rfl⟩
    jobOf := ⟨cloudJob_of _ _, rfl, rfl, rfl, rfl, rfl⟩
    signature := fun _ _ => rfl
    window := by
      -- The worker looks at the request as soon as it has been signed.
      intro issuedText expiresText issued expires hissuedText hexpiresText hi he
      obtain ⟨hissuedPath, hexpiresPath⟩ := r.times_eq
      obtain rfl := Value.str.inj (hissuedPath.symm.trans hissuedText)
      obtain rfl := Value.str.inj (hexpiresPath.symm.trans hexpiresText)
      obtain ⟨-, issued', expires', -, -, -, hi', he', -, -, -, hlt, -⟩ := hwindow
      obtain rfl := Option.some.inj (hat.symm.trans hi)
      obtain rfl := Option.some.inj (hat.symm.trans hi')
      obtain rfl := Option.some.inj (he.symm.trans he')
      omega }, rfl, htags⟩

/-- The plan for a column without tags is served. -/
theorem untagged_served : ∃ o : Offered cloudWriter, o.read.tags = [] ∧ o.Served := by
  obtain ⟨o, hrun, htags⟩ := offered_of_tags [] (by decide)
  refine ⟨o, htags, (mutation_served_iff readsBack_cloud writesMillis_cloud reads_cloud o ?_).mpr ?_⟩
  · intro s t hs ht heq
    rw [hrun, htags] at hs ht
    rw [cloudWriter_host] at heq
    refine absurd ?_ untagged_separated
    exact (congrArg (Option.map _) hs).trans ((congrArg some heq).trans
      (congrArg (Option.map _) ht).symm)
  · rw [htags]
    exact List.not_mem_nil

/-- The plan for a column that carries the tag is offered, approved and sent, and refused. -/
theorem tagged_refused : ∃ o : Offered cloudWriter, o.read.tags = [PII_TAG]
    ∧ o.verification = .error (.contract "governed_mutation_request_invalid") ∧ ¬ o.Served := by
  obtain ⟨o, -, htags⟩ := offered_of_tags [PII_TAG] (by decide)
  have hrefused := o.refused readsBack_cloud writesMillis_cloud (by rw [htags]; exact List.mem_cons_self)
  refine ⟨o, htags, hrefused, ?_⟩
  rintro ⟨⟨a, ha⟩, -⟩
  rw [hrefused] at ha
  cases ha

end Cloud
