/-
# What the projection returns

`projectPublicAuditReport` takes a report that `isAuditReport` accepts.  The two put the same limits on a
report's own members, so that the projection can fail in two places only: at the detail of a finding,
which `isAuditReport` does not look into, and at the search for credentials.  Both throw on purpose.

What is returned has no member that is not named (`PUBLIC_REPORT`), is accepted again, and is projected to
itself.
-/
import Archon.Report.Classifier
import Archon.Report.Redaction

namespace Report

open Ecma Ecma.Value Remediation
open Worker hiding isRecord

/-! ## 1. The members that may be there -/

/-- Which members a value may have: none, counts under any name, or those of a table. -/
inductive Shape where
  | leaf
  | counts
  | list (item : Shape)
  | record (members : List (String × Shape))

/-- A value without members. -/
def isLeaf : Value → Bool
  | .arr _ => false
  | .obj _ => false
  | _ => true

mutual

/-- Has a value no member beyond its shape? -/
def Shape.fits : Shape → Value → Bool
  | .leaf, v => isLeaf v
  | .counts, v =>
    match v with
    | .obj fields => fields.all fun e => isLeaf e.2
    | v => isLeaf v
  | .list item, v =>
    match v with
    | .arr items => items.all item.fits
    | v => isLeaf v
  | .record members, v =>
    match v with
    | .obj fields => fields.all fun e => Shape.allows members e.1 e.2
    | v => isLeaf v

/-- Is a member in the table, with a value of its shape? -/
def Shape.allows : List (String × Shape) → Text → Value → Bool
  | [], _, _ => false
  | (name, shape) :: members, key, v =>
    if key = js name then shape.fits v else Shape.allows members key v

end

/-- Members without members. -/
def leaves (names : List String) : List (String × Shape) := names.map fun name => (name, .leaf)

/-- What `projectBlastRadius` returns. -/
def PUBLIC_RADIUS : Shape :=
  .record (leaves ["rootUrn", "maxHops", "truncated", "impact"]
    ++ [("downstream", .list (.record (leaves ["urn", "minHops"])))])

/-- An element of the public provenance. -/
def PUBLIC_EVENT : Shape := .record (leaves ["source", "runId", "observedAt", "status"])

/-- What `projectDossier` returns. -/
def PUBLIC_DOSSIER : Shape :=
  .record (leaves ["dossierId", "digest", "policyDigest", "generatedAt", "evidenceCount"])

/-- What `projectApproval` returns. -/
def PUBLIC_APPROVAL : Shape :=
  .record (leaves ["approvalId", "expiresAt", "targetField", "proposedTag", "planDigest", "risk"]
    ++ [("before", .list .leaf), ("after", .list .leaf)])

/-- What `projectFindingDetail` returns. -/
def PUBLIC_DETAIL : Shape :=
  .record (leaves ["ruleId", "rule", "attribute"]
    ++ [("unclassifiedFields", .list .leaf), ("blastRadius", PUBLIC_RADIUS),
      ("provenance", .list PUBLIC_EVENT), ("dossier", PUBLIC_DOSSIER), ("approval", PUBLIC_APPROVAL)])

/-- A public finding. -/
def PUBLIC_FINDING : Shape :=
  .record (leaves ["type", "severity", "subject", "summary", "recommendation"] ++ [("detail", PUBLIC_DETAIL)])

/-- The public classification.  Its counts stand under the names that the catalog gives. -/
def PUBLIC_CLASSIFICATION : Shape :=
  .record (leaves ["totalEntities", "withLineage", "sensitiveEntities"]
    ++ [("domains", .counts), ("platforms", .counts)])

/-- The public provenance of the narration model. -/
def PUBLIC_MODEL : Shape :=
  .record (leaves ["schemaVersion", "source", "modelCall", "provider", "requestedModel", "returnedModel",
      "providerResponseId", "latencyMs"]
    ++ [("tokenUsage", .record (leaves ["inputTokens", "outputTokens", "totalTokens"]))])

/-- A public report. -/
def PUBLIC_REPORT : Shape :=
  .record (leaves ["schemaVersion", "scanId", "narrative"]
    ++ [("classification", PUBLIC_CLASSIFICATION), ("findings", .list PUBLIC_FINDING),
      ("modelProvenance", PUBLIC_MODEL), ("trace", .list (.record (leaves ["agent", "produced"])))])

section Shapes

theorem fits_of_isLeaf {shape : Shape} {v : Value} (h : isLeaf v = true) : shape.fits v = true := by
  cases v with
  | arr _ => cases h
  | obj _ => cases h
  | _ => cases shape <;> rfl

theorem allows_of_lookup {members : List (String × Shape)} {name : String} {v : Value} {shape : Shape}
    (hshape : members.lookup name = some shape) (hv : shape.fits v = true) :
    Shape.allows members (js name) v = true := by
  induction members with
  | nil => cases hshape
  | cons m members ih =>
    obtain ⟨name', shape'⟩ := m
    rw [Shape.allows]
    by_cases hname : name = name'
    · subst hname
      rw [List.lookup_cons_self] at hshape
      obtain rfl := Option.some.inj hshape
      rw [if_pos rfl, hv]
    · rw [if_neg fun heq => hname (js_inj.mp heq)]
      refine ih ?_
      rwa [List.lookup_cons, beq_false_of_ne hname] at hshape

theorem fits_object {members : List (String × Shape)} {fields : List (String × Value)}
    (h : ∀ f ∈ fields, ∃ shape, members.lookup f.1 = some shape ∧ shape.fits f.2 = true) :
    (Shape.record members).fits (object fields) = true := by
  rw [object]
  change ((fields.map fun f => (js f.1, f.2)).all fun e => Shape.allows members e.1 e.2) = true
  rw [List.all_map, List.all_eq_true]
  intro f hf
  obtain ⟨shape, hshape, hv⟩ := h f hf
  exact allows_of_lookup hshape hv

end Shapes

/-! ## 2. Checks -/

/-- What a projection returns has a shape, is there, and is projected to itself. -/
structure Published (project : Value → Projection Value) (shape : Shape) : Prop where
  fits : ∀ {v w}, project v = .ok w → shape.fits w = true
  defined : ∀ {v w}, project v = .ok w → w.strictEq .undefined = false
  again : ∀ {v w}, project v = .ok w → project w = .ok w

section Checks

variable {P : Platform} {v w : Value} {maximum : Nat}

theorem instant_eq_ok : instant P v = .ok w ↔ (boundedText v 128 &&
    match v with
    | .str t => isInstant t && (P.dateParse t).isSome
    | _ => false) = true ∧ v = w := check_eq_ok

theorem digest_eq_ok : digest v = .ok w ↔ (boundedText v 256 &&
    match v with
    | .str t => Jobs.isDigest t
    | _ => false) = true ∧ v = w := check_eq_ok

theorem elements_eq_ok {items : List Value} :
    elements v maximum = .ok items ↔ v = .arr items ∧ items.length ≤ maximum := by
  cases v with
  | arr vs =>
    rw [elements]
    split
    case isTrue h =>
      constructor
      · intro heq
        obtain rfl := Except.ok.inj heq
        exact ⟨rfl, h⟩
      · rintro ⟨heq, -⟩
        rw [Value.arr.inj heq]
    case isFalse h =>
      constructor
      · intro heq
        cases heq
      · rintro ⟨heq, hlength⟩
        rw [Value.arr.inj heq] at h
        exact absurd hlength h
  | _ => exact iff_of_false (fun h => nomatch h) fun h => nomatch h.1

theorem leaf_of_boundedText (h : boundedText v maximum = true) :
    isLeaf v = true ∧ v.strictEq .undefined = false := by
  cases v <;> first | exact ⟨rfl, rfl⟩ | exact Bool.noConfusion h

theorem leaf_of_safeCount {p : Nat → Bool} (h : (safeCount v).any p = true) :
    isLeaf v = true ∧ v.strictEq .undefined = false := by
  cases v <;> first | exact ⟨rfl, rfl⟩ | exact Bool.noConfusion h

theorem any_safeCount (h : (safeCount v).isSome = true) :
    ((safeCount v).any fun n => n ≤ MAX_SAFE_INTEGER) = true := by
  obtain ⟨n, hn⟩ := Option.isSome_iff_exists.mp h
  obtain ⟨-, -, -, hlt, -⟩ := count_of_safeCount hn
  rw [hn]
  exact decide_eq_true (Nat.le_pred_of_lt hlt)

theorem isLeaf_of_isText {t : Text} (h : v.isText t = true) : isLeaf v = true := by
  obtain rfl := isText_iff.mp h
  rfl

theorem isLeaf_of_isOneOf {names : List String} (h : isOneOf v names = true) : isLeaf v = true := by
  obtain ⟨name, -, hname⟩ := List.any_eq_true.mp h
  exact isLeaf_of_isText hname

/-- A projection that only checks. -/
theorem published_check {project : Value → Projection Value} {condition : Value → Bool}
    (hproject : ∀ {v w}, project v = .ok w ↔ condition v = true ∧ v = w)
    (hleaf : ∀ {v}, condition v = true → isLeaf v = true ∧ v.strictEq .undefined = false) :
    Published project .leaf := by
  constructor <;> intro v w h <;> obtain ⟨hcondition, rfl⟩ := hproject.mp h
  · exact (hleaf hcondition).1
  · exact (hleaf hcondition).2
  · exact hproject.mpr ⟨hcondition, rfl⟩

theorem published_text (maximum : Nat) : Published (fun v => text v maximum) .leaf :=
  published_check text_eq_ok leaf_of_boundedText

theorem published_count (maximum : Nat) : Published (fun v => count v maximum) .leaf :=
  published_check count_eq_ok leaf_of_safeCount

theorem published_instant : Published (instant P) .leaf :=
  published_check instant_eq_ok fun h => leaf_of_boundedText (Bool.and_eq_true_iff.mp h).1

theorem published_digest : Published digest .leaf :=
  published_check digest_eq_ok fun h => leaf_of_boundedText (Bool.and_eq_true_iff.mp h).1

/-- What is projected one by one is projected to itself. -/
theorem mapM_published {project : Value → Projection Value} {shape : Shape} (h : Published project shape)
    {vs ws : List Value} (hws : vs.mapM project = .ok ws) :
    ws.mapM project = .ok ws ∧ ws.all shape.fits = true ∧ ws.length = vs.length := by
  have hall := mapM_projection_iff.mp hws
  rw [mapM_projection_iff]
  clear hws
  induction hall with
  | nil => exact ⟨.nil, rfl, rfl⟩
  | cons hw _ ih =>
    obtain ⟨hagain, hfits, hlength⟩ := ih
    refine ⟨.cons (h.again hw) hagain, ?_, ?_⟩
    · rw [List.all_cons, h.fits hw, hfits]
      rfl
    · rw [List.length_cons, List.length_cons, hlength]

theorem published_list {project : Value → Projection Value} {shape : Shape} (h : Published project shape)
    (maximum : Nat) :
    Published (fun v => do return .arr (← (← elements v maximum).mapM project)) (.list shape) := by
  have heq : ∀ {v w}, (do return .arr (← (← elements v maximum).mapM project) : Projection Value) = .ok w ↔
      ∃ vs ws, v = .arr vs ∧ vs.length ≤ maximum ∧ vs.mapM project = .ok ws ∧ .arr ws = w := by
    intro v w
    rw [projection_bind]
    constructor
    · rintro ⟨vs, hvs, hmap⟩
      obtain ⟨ws, hws, heq⟩ := projection_bind.mp hmap
      obtain ⟨hv, hlength⟩ := elements_eq_ok.mp hvs
      exact ⟨vs, ws, hv, hlength, hws, Except.ok.inj heq⟩
    · rintro ⟨vs, ws, hv, hlength, hws, rfl⟩
      exact ⟨vs, elements_eq_ok.mpr ⟨hv, hlength⟩, projection_bind.mpr ⟨ws, hws, rfl⟩⟩
  constructor <;> intro v w hw <;> obtain ⟨vs, ws, rfl, hlength, hws, rfl⟩ := heq.mp hw <;>
    obtain ⟨hagain, hfits, hsame⟩ := mapM_published h hws
  · exact hfits
  · rfl
  · exact heq.mpr ⟨ws, ws, rfl, hsame ▸ hlength, hagain, rfl⟩

theorem published_stringArray (maximumEntries maximumText : Nat) :
    Published (fun v => stringArray v maximumEntries maximumText) (.list .leaf) :=
  published_list (published_text maximumText) maximumEntries

end Checks

/-! ## 3. The members of a detail -/

section Details

theorem exactReportKeys_object {fields : List (String × Value)} {allowed required : List String}
    (keys : List String) (hkeys : fields.map Prod.fst = keys) (hallowed : ∀ key ∈ keys, key ∈ allowed)
    (hrequired : ∀ key ∈ required, key ∈ keys) : exactReportKeys (object fields) allowed required = true := by
  rw [exactReportKeys, ownKeys_object, hkeys, Bool.and_eq_true, List.all_eq_true, List.all_eq_true]
  constructor
  · intro key hkey
    obtain ⟨name, hname, rfl⟩ := List.mem_map.mp hkey
    exact List.contains_iff_mem.mpr (List.mem_map_of_mem (hallowed name hname))
  · intro key hkey
    exact List.contains_iff_mem.mpr (List.mem_map_of_mem (hrequired key hkey))

variable {P : Platform} {v w : Value}

theorem published_asset : Published projectAsset (.record (leaves ["urn", "minHops"])) := by
  have heq : ∀ {v w}, projectAsset v = .ok w → ∃ urn minHops, text urn 2048 = .ok urn
      ∧ count minHops 10 = .ok minHops ∧ w = object [("urn", urn), ("minHops", minHops)] := by
    intro v w h
    obtain ⟨_, -, h⟩ := projection_bind.mp h
    obtain ⟨urn, hurn, h⟩ := projection_bind.mp h
    obtain ⟨minHops, hminHops, h⟩ := projection_bind.mp h
    exact ⟨urn, minHops, (published_text 2048).again hurn, (published_count 10).again hminHops,
      (Except.ok.inj h).symm⟩
  constructor <;> intro v w h <;> obtain ⟨urn, minHops, hurn, hminHops, rfl⟩ := heq h
  · refine fits_object (List.forall_mem_cons.mpr ⟨?_, List.forall_mem_singleton.mpr ?_⟩)
    · exact ⟨_, rfl, (published_text 2048).fits hurn⟩
    · exact ⟨_, rfl, (published_count 10).fits hminHops⟩
  · rfl
  · have hkeys : exactReportKeys (object [("urn", urn), ("minHops", minHops)]) ["urn", "minHops"]
        ["urn", "minHops"] = true := exactReportKeys_self (ownKeys_object _)
    rw [projectAsset, hkeys, getPath_object, getPath_object]
    change (text urn 2048 >>= fun urn => count minHops 10 >>= fun minHops => _) = _
    rw [hurn, projection_ok_bind, hminHops]
    rfl

theorem published_dossier : Published (projectDossier P) PUBLIC_DOSSIER := by
  have heq : ∀ {v w}, projectDossier P v = .ok w → ∃ dossierId d policyDigest generatedAt evidenceCount,
      text dossierId 512 = .ok dossierId ∧ digest d = .ok d ∧ digest policyDigest = .ok policyDigest
      ∧ instant P generatedAt = .ok generatedAt ∧ count evidenceCount 100000 = .ok evidenceCount
      ∧ w = object [("dossierId", dossierId), ("digest", d), ("policyDigest", policyDigest),
        ("generatedAt", generatedAt), ("evidenceCount", evidenceCount)] := by
    intro v w h
    obtain ⟨_, -, h⟩ := projection_bind.mp h
    obtain ⟨dossierId, hid, h⟩ := projection_bind.mp h
    obtain ⟨d, hd, h⟩ := projection_bind.mp h
    obtain ⟨policyDigest, hpolicy, h⟩ := projection_bind.mp h
    obtain ⟨generatedAt, hat, h⟩ := projection_bind.mp h
    obtain ⟨evidenceCount, hcount, h⟩ := projection_bind.mp h
    exact ⟨dossierId, d, policyDigest, generatedAt, evidenceCount, (published_text 512).again hid,
      published_digest.again hd, published_digest.again hpolicy, published_instant.again hat,
      (published_count 100000).again hcount, (Except.ok.inj h).symm⟩
  constructor <;> intro v w h <;>
    obtain ⟨dossierId, d, policyDigest, generatedAt, evidenceCount, hid, hd, hpolicy, hat, hcount, rfl⟩ := heq h
  · refine fits_object ?_
    simp only [List.forall_mem_cons]
    exact ⟨⟨_, rfl, (published_text 512).fits hid⟩, ⟨_, rfl, published_digest.fits hd⟩,
      ⟨_, rfl, published_digest.fits hpolicy⟩, ⟨_, rfl, published_instant.fits hat⟩,
      ⟨_, rfl, (published_count 100000).fits hcount⟩, List.forall_mem_nil _⟩
  · rfl
  · have hkeys : exactReportKeys (object [("dossierId", dossierId), ("digest", d), ("policyDigest", policyDigest),
        ("generatedAt", generatedAt), ("evidenceCount", evidenceCount)])
        ["dossierId", "digest", "policyDigest", "generatedAt", "evidenceCount"]
        ["dossierId", "digest", "policyDigest", "generatedAt", "evidenceCount"] = true :=
      exactReportKeys_self (ownKeys_object _)
    simp only [projectDossier, getPath_object]
    rw [hkeys]
    change (text dossierId 512 >>= fun dossierId => digest d >>= fun d => digest policyDigest >>=
      fun policyDigest => instant P generatedAt >>= fun generatedAt => count evidenceCount 100000 >>=
        fun evidenceCount => _) = _
    rw [hid, projection_ok_bind, hd, projection_ok_bind, hpolicy, projection_ok_bind, hat, projection_ok_bind,
      hcount]
    rfl

theorem published_approval : Published (projectApproval P) PUBLIC_APPROVAL := by
  have heq : ∀ {v w}, projectApproval P v = .ok w →
      ∃ approvalId expiresAt targetField proposedTag before after planDigest risk,
      text approvalId 512 = .ok approvalId ∧ instant P expiresAt = .ok expiresAt
      ∧ text targetField 1024 = .ok targetField ∧ text proposedTag 2048 = .ok proposedTag
      ∧ stringArray before 1000 2048 = .ok before ∧ stringArray after 1000 2048 = .ok after
      ∧ digest planDigest = .ok planDigest ∧ isOneOf risk ["low", "medium", "high"] = true
      ∧ w = object [("approvalId", approvalId), ("expiresAt", expiresAt), ("targetField", targetField),
        ("proposedTag", proposedTag), ("before", before), ("after", after), ("planDigest", planDigest),
        ("risk", risk)] := by
    intro v w h
    obtain ⟨_, hensure, h⟩ := projection_bind.mp h
    obtain ⟨approvalId, hid, h⟩ := projection_bind.mp h
    obtain ⟨expiresAt, hat, h⟩ := projection_bind.mp h
    obtain ⟨targetField, hfield, h⟩ := projection_bind.mp h
    obtain ⟨proposedTag, htag, h⟩ := projection_bind.mp h
    obtain ⟨before, hbefore, h⟩ := projection_bind.mp h
    obtain ⟨after, hafter, h⟩ := projection_bind.mp h
    obtain ⟨planDigest, hplan, h⟩ := projection_bind.mp h
    exact ⟨approvalId, expiresAt, targetField, proposedTag, before, after, planDigest, _,
      (published_text 512).again hid, published_instant.again hat, (published_text 1024).again hfield,
      (published_text 2048).again htag, (published_stringArray 1000 2048).again hbefore,
      (published_stringArray 1000 2048).again hafter, published_digest.again hplan,
      (Bool.and_eq_true_iff.mp (ensure_eq_ok.mp hensure)).2, (Except.ok.inj h).symm⟩
  constructor <;> intro v w h <;>
    obtain ⟨approvalId, expiresAt, targetField, proposedTag, before, after, planDigest, risk, hid, hat, hfield,
      htag, hbefore, hafter, hplan, hrisk, rfl⟩ := heq h
  · refine fits_object ?_
    simp only [List.forall_mem_cons]
    exact ⟨⟨_, rfl, (published_text 512).fits hid⟩, ⟨_, rfl, published_instant.fits hat⟩,
      ⟨_, rfl, (published_text 1024).fits hfield⟩, ⟨_, rfl, (published_text 2048).fits htag⟩,
      ⟨_, rfl, (published_stringArray 1000 2048).fits hbefore⟩,
      ⟨_, rfl, (published_stringArray 1000 2048).fits hafter⟩, ⟨_, rfl, published_digest.fits hplan⟩,
      ⟨_, rfl, fits_of_isLeaf (isLeaf_of_isOneOf hrisk)⟩, List.forall_mem_nil _⟩
  · rfl
  · have hkeys : exactReportKeys (object [("approvalId", approvalId), ("expiresAt", expiresAt),
        ("targetField", targetField), ("proposedTag", proposedTag), ("before", before), ("after", after),
        ("planDigest", planDigest), ("risk", risk)])
        ["approvalId", "expiresAt", "targetField", "proposedTag", "before", "after", "planDigest", "risk"]
        ["approvalId", "expiresAt", "targetField", "proposedTag", "before", "after", "planDigest", "risk"]
        = true := exactReportKeys_self (ownKeys_object _)
    simp only [projectApproval, getPath_object]
    rw [hkeys]
    change (ensure (true && isOneOf risk ["low", "medium", "high"]) >>= fun _ =>
      text approvalId 512 >>= fun approvalId => instant P expiresAt >>= fun expiresAt =>
        text targetField 1024 >>= fun targetField => text proposedTag 2048 >>= fun proposedTag =>
          stringArray before 1000 2048 >>= fun before => stringArray after 1000 2048 >>= fun after =>
            digest planDigest >>= fun planDigest => _) = _
    rw [hrisk, hid, hat, hfield, htag, hbefore, hafter, hplan]
    rfl

/-- An event that is projected is projected again. -/
theorem projectEvent_again {source runId observedAt status : Value} (hsource : text source 512 = .ok source)
    (hrun : text runId 512 = .ok runId) (hat : instant P observedAt = .ok observedAt)
    (hstatus : isOneOf status PROVENANCE_STATUSES = true) :
    projectEvent P (object [("source", source), ("runId", runId), ("observedAt", observedAt),
        ("status", status)])
      = .ok (object [("source", source), ("runId", runId), ("observedAt", observedAt), ("status", status)]) := by
  have hkeys : exactReportKeys (object [("source", source), ("runId", runId), ("observedAt", observedAt),
      ("status", status)]) ["source", "runId", "observedAt", "actor", "value", "status"]
      ["source", "runId", "observedAt", "status"] = true :=
    exactReportKeys_object ["source", "runId", "observedAt", "status"] rfl (by decide) (by decide)
  simp only [projectEvent, getPath_object]
  rw [hkeys]
  change (ensure (true && isOneOf status PROVENANCE_STATUSES) >>= fun _ =>
    text source 512 >>= fun source => text runId 512 >>= fun runId =>
      instant P observedAt >>= fun observedAt => _) = _
  rw [hstatus, hsource, hrun, hat]
  rfl

theorem published_event : Published (projectEvent P) PUBLIC_EVENT := by
  have heq : ∀ {v w}, projectEvent P v = .ok w → ∃ source runId observedAt status,
      text source 512 = .ok source ∧ text runId 512 = .ok runId ∧ instant P observedAt = .ok observedAt
      ∧ isOneOf status PROVENANCE_STATUSES = true
      ∧ w = object [("source", source), ("runId", runId), ("observedAt", observedAt), ("status", status)] := by
    intro v w h
    obtain ⟨_, hensure, h⟩ := projection_bind.mp h
    obtain ⟨_, -, h⟩ := projection_bind.mp h
    obtain ⟨_, -, h⟩ := projection_bind.mp h
    obtain ⟨source, hsource, h⟩ := projection_bind.mp h
    obtain ⟨runId, hrun, h⟩ := projection_bind.mp h
    obtain ⟨observedAt, hat, h⟩ := projection_bind.mp h
    exact ⟨source, runId, observedAt, _, (published_text 512).again hsource, (published_text 512).again hrun,
      published_instant.again hat, (Bool.and_eq_true_iff.mp (ensure_eq_ok.mp hensure)).2,
      (Except.ok.inj h).symm⟩
  constructor <;> intro v w h <;>
    obtain ⟨source, runId, observedAt, status, hsource, hrun, hat, hstatus, rfl⟩ := heq h
  · refine fits_object ?_
    simp only [List.forall_mem_cons]
    exact ⟨⟨_, rfl, (published_text 512).fits hsource⟩, ⟨_, rfl, (published_text 512).fits hrun⟩,
      ⟨_, rfl, published_instant.fits hat⟩, ⟨_, rfl, fits_of_isLeaf (isLeaf_of_isOneOf hstatus)⟩,
      List.forall_mem_nil _⟩
  · rfl
  · exact projectEvent_again hsource hrun hat hstatus

theorem published_provenance : Published (projectProvenance P) (.list PUBLIC_EVENT) :=
  published_list published_event 1000

/-- What is listed of a contradiction is an event. -/
theorem projectListed_published {recommended : Option Value} {v w : Value}
    (h : projectListed P recommended v = .ok w) :
    PUBLIC_EVENT.fits w = true ∧ projectEvent P w = .ok w := by
  obtain ⟨_, hensure, h⟩ := projection_bind.mp h
  obtain ⟨factId, hfact, h⟩ := projection_bind.mp h
  obtain ⟨source, hagain, h⟩ : ∃ source, text source 512 = .ok source
      ∧ (do return object [("source", source), ("runId", factId),
        ("observedAt", ← instant P (v.getPath ["createdAt"])),
        ("status", if recommended.any fun v => factId.strictEq v then lit "trusted" else lit "conflicting")]
        : Projection Value) = .ok w := by
    dsimp only at h
    by_cases hnull : (v.getPath ["source"]).strictEq .null = true
    · rw [if_pos hnull] at h
      exact ⟨lit "unattributed-source", text_eq_ok.mpr ⟨by decide, rfl⟩, h⟩
    · rw [if_neg hnull] at h
      obtain ⟨source, hsource, h⟩ := projection_bind.mp h
      exact ⟨source, (published_text 512).again hsource, h⟩
  obtain ⟨observedAt, hat, h⟩ := projection_bind.mp h
  obtain rfl := Except.ok.inj h
  have hstatus : isOneOf (if recommended.any fun v => factId.strictEq v then lit "trusted"
      else lit "conflicting") PROVENANCE_STATUSES = true := by
    split
    · decide
    · decide
  have hevent := projectEvent_again hagain ((published_text 512).again hfact) (published_instant.again hat)
    hstatus
  exact ⟨published_event.fits hevent, hevent⟩

theorem listed_again {recommended : Option Value} {vs ws : List Value}
    (h : vs.mapM (projectListed P recommended) = .ok ws) :
    ws.mapM (projectEvent P) = .ok ws ∧ ws.length = vs.length := by
  have hall := mapM_projection_iff.mp h
  rw [mapM_projection_iff]
  clear h
  induction hall with
  | nil => exact ⟨.nil, rfl⟩
  | cons hw _ ih =>
    obtain ⟨hagain, hlength⟩ := ih
    exact ⟨.cons (projectListed_published hw).2 hagain, by rw [List.length_cons, List.length_cons, hlength]⟩

/-- The derived provenance is a provenance. -/
theorem derived_published {v : Value} {part : List (String × Value)}
    (h : projectContradictionProvenance P v = .ok part) :
    part = [] ∨ ∃ w, part = [("provenance", w)] ∧ projectProvenance P w = .ok w := by
  rw [projectContradictionProvenance] at h
  generalize v.getPath ["values"] = values at h
  split at h
  case h_1 items =>
    obtain ⟨_, hlength, h⟩ := projection_bind.mp h
    obtain ⟨recommended, -, h⟩ := projection_bind.mp h
    obtain ⟨events, hevents, h⟩ := projection_bind.mp h
    obtain rfl := Except.ok.inj h
    obtain ⟨hagain, hsame⟩ := listed_again hevents
    refine Or.inr ⟨.arr events, rfl, ?_⟩
    rw [projectProvenance, elements_eq_ok.mpr ⟨rfl, hsame ▸ of_decide_eq_true (ensure_eq_ok.mp hlength)⟩,
      projection_ok_bind, hagain]
    rfl
  case h_2 => exact Or.inl (Except.ok.inj h).symm

theorem published_radius : Published projectBlastRadius PUBLIC_RADIUS := by
  have heq : ∀ {v w}, projectBlastRadius v = .ok w → ∃ rootUrn downstream maxHops truncated impact,
      text rootUrn 2048 = .ok rootUrn
      ∧ (downstream.length ≤ 10000 ∧ downstream.mapM projectAsset = .ok downstream
        ∧ downstream.all (Shape.record (leaves ["urn", "minHops"])).fits = true)
      ∧ count maxHops 10 = .ok maxHops
      ∧ (truncated.strictEq (.bool true) || truncated.strictEq (.bool false)) = true
      ∧ isOneOf impact IMPACTS = true
      ∧ w = object [("rootUrn", rootUrn), ("downstream", .arr downstream), ("maxHops", maxHops),
        ("truncated", truncated), ("impact", impact)] := by
    intro v w h
    obtain ⟨_, hensure, h⟩ := projection_bind.mp h
    obtain ⟨assets, hassets, h⟩ := projection_bind.mp h
    obtain ⟨downstream, hdownstream, h⟩ := projection_bind.mp h
    obtain ⟨rootUrn, hroot, h⟩ := projection_bind.mp h
    obtain ⟨maxHops, hhops, h⟩ := projection_bind.mp h
    obtain ⟨hleft, himpact⟩ := Bool.and_eq_true_iff.mp (ensure_eq_ok.mp hensure)
    obtain ⟨-, htruncated⟩ := Bool.and_eq_true_iff.mp hleft
    obtain ⟨hagain, hfits, hlength⟩ := mapM_published published_asset hdownstream
    exact ⟨rootUrn, downstream, maxHops, _, _, (published_text 2048).again hroot,
      ⟨hlength.le.trans (elements_eq_ok.mp hassets).2, hagain, hfits⟩, (published_count 10).again hhops,
      htruncated, himpact, (Except.ok.inj h).symm⟩
  have htruncated_leaf : ∀ {t : Value},
      (t.strictEq (.bool true) || t.strictEq (.bool false)) = true → isLeaf t = true := by
    intro t h
    rcases Bool.or_eq_true_iff.mp h with h | h <;> obtain rfl := strictEq_bool.mp h <;> rfl
  constructor <;> intro v w h <;>
    obtain ⟨rootUrn, downstream, maxHops, truncated, impact, hroot, ⟨hlength, hagain, hfits⟩, hhops,
      htruncated, himpact, rfl⟩ := heq h
  · refine fits_object ?_
    simp only [List.forall_mem_cons]
    exact ⟨⟨_, rfl, (published_text 2048).fits hroot⟩, ⟨_, rfl, hfits⟩, ⟨_, rfl, (published_count 10).fits hhops⟩,
      ⟨_, rfl, fits_of_isLeaf (htruncated_leaf htruncated)⟩,
      ⟨_, rfl, fits_of_isLeaf (isLeaf_of_isOneOf himpact)⟩, List.forall_mem_nil _⟩
  · rfl
  · have hkeys : exactReportKeys (object [("rootUrn", rootUrn), ("downstream", .arr downstream),
        ("maxHops", maxHops), ("truncated", truncated), ("impact", impact)])
        ["rootUrn", "downstream", "maxHops", "truncated", "impact"]
        ["rootUrn", "downstream", "maxHops", "truncated", "impact"] = true :=
      exactReportKeys_self (ownKeys_object _)
    simp only [projectBlastRadius, getPath_object]
    rw [hkeys]
    change (ensure (true && (truncated.strictEq (.bool true) || truncated.strictEq (.bool false))
        && isOneOf impact IMPACTS) >>= fun _ => elements (.arr downstream) 10000 >>= fun assets =>
      assets.mapM projectAsset >>= fun downstream => text rootUrn 2048 >>= fun rootUrn =>
        count maxHops 10 >>= fun maxHops => _) = _
    rw [htruncated, himpact, elements_eq_ok.mpr ⟨rfl, hlength⟩]
    change (downstream.mapM projectAsset >>= fun downstream => text rootUrn 2048 >>= fun rootUrn =>
      count maxHops 10 >>= fun maxHops => _) = _
    rw [hagain, hroot, hhops]
    rfl

/-! ### A detail -/

/-- A member that need not be there: it is not, or it is published. -/
def Part (key : String) (project : Value → Projection Value) (shape : Shape) (part : List (String × Value)) :
    Prop :=
  part = [] ∨ ∃ w, part = [(key, w)] ∧ project w = .ok w ∧ w.strictEq .undefined = false ∧ shape.fits w = true

theorem part_of_optional {key : String} {project : Value → Projection Value} {shape : Shape}
    (hpublished : Published project shape) {v : Value} {part : List (String × Value)}
    (h : optional key v project = .ok part) : Part key project shape part := by
  rw [optional] at h
  split at h
  · exact Or.inl (Except.ok.inj h).symm
  · obtain ⟨w, hw, h⟩ := projection_bind.mp h
    exact Or.inr ⟨w, (Except.ok.inj h).symm, hpublished.again hw, hpublished.defined hw, hpublished.fits hw⟩

namespace Part

variable {key : String} {project : Value → Projection Value} {shape : Shape} {part : List (String × Value)}

theorem lookup_of_ne (h : Part key project shape part) {name : String} (hne : name ≠ key) :
    part.lookup name = none := by
  rcases h with rfl | ⟨w, rfl, -⟩
  · rfl
  · rw [List.lookup_cons, beq_false_of_ne hne]
    rfl

/-- The member that is there is projected again. -/
theorem again (h : Part key project shape part) :
    optional key ((part.lookup key).getD .undefined) project = .ok part := by
  rcases h with rfl | ⟨w, rfl, hagain, hdefined, -⟩
  · rfl
  · rw [List.lookup_cons_self, Option.getD_some, optional, hdefined, if_neg Bool.false_ne_true, hagain]
    rfl

theorem allowed (h : Part key project shape part) {members : List (String × Shape)}
    (hshape : members.lookup key = some shape) :
    ∀ f ∈ part, ∃ shape, members.lookup f.1 = some shape ∧ shape.fits f.2 = true := by
  rcases h with rfl | ⟨w, rfl, -, -, hfits⟩
  · exact List.forall_mem_nil _
  · exact List.forall_mem_singleton.mpr ⟨shape, hshape, hfits⟩

end Part

/-- The members of a detail that is projected. -/
structure DetailParts (P : Platform) where
  ruleId : List (String × Value)
  rule : List (String × Value)
  attr : List (String × Value)
  fields : List (String × Value)
  radius : List (String × Value)
  provenance : List (String × Value)
  dossier : List (String × Value)
  approval : List (String × Value)
  hruleId : Part "ruleId" (fun w => text w 128) .leaf ruleId
  hrule : Part "rule" (fun w => text w 2048) .leaf rule
  hattr : Part "attribute" (fun w => text w 512) .leaf attr
  hfields : Part "unclassifiedFields" (fun w => stringArray w 1000 1024) (.list .leaf) fields
  hradius : Part "blastRadius" projectBlastRadius PUBLIC_RADIUS radius
  hprovenance : Part "provenance" (projectProvenance P) (.list PUBLIC_EVENT) provenance
  hdossier : Part "dossier" (projectDossier P) PUBLIC_DOSSIER dossier
  happroval : Part "approval" (projectApproval P) PUBLIC_APPROVAL approval

/-- The detail. -/
def DetailParts.value (d : DetailParts P) : Value :=
  object (d.ruleId ++ d.rule ++ d.attr ++ d.fields ++ d.radius ++ d.provenance ++ d.dossier ++ d.approval)

theorem detailParts_of_projection (h : projectFindingDetail P v = .ok w) :
    ∃ d : DetailParts P, w = d.value := by
  obtain ⟨ruleId, hruleId, h⟩ := projection_bind.mp h
  obtain ⟨rule, hrule, h⟩ := projection_bind.mp h
  obtain ⟨attr, hattr, h⟩ := projection_bind.mp h
  obtain ⟨fields, hfields, h⟩ := projection_bind.mp h
  obtain ⟨radius, hradius, h⟩ := projection_bind.mp h
  obtain ⟨provenance, hprovenance, h⟩ : ∃ provenance,
      Part "provenance" (projectProvenance P) (.list PUBLIC_EVENT) provenance
      ∧ (do
          let dossier ← optional "dossier" (v.getPath ["dossier"]) (projectDossier P)
          let approval ← optional "approval" (v.getPath ["approval"]) (projectApproval P)
          return object (ruleId ++ rule ++ attr ++ fields ++ radius ++ provenance ++ dossier ++ approval)
        : Projection Value) = .ok w := by
    dsimp only at h
    split at h
    · obtain ⟨provenance, hderived, h⟩ := projection_bind.mp h
      refine ⟨provenance, ?_, h⟩
      rcases derived_published hderived with rfl | ⟨events, rfl, hagain⟩
      · exact Or.inl rfl
      · exact Or.inr ⟨events, rfl, hagain, published_provenance.defined hagain, published_provenance.fits hagain⟩
    · obtain ⟨provenance, hprovenance, h⟩ := projection_bind.mp h
      exact ⟨provenance, part_of_optional published_provenance hprovenance, h⟩
  obtain ⟨dossier, hdossier, h⟩ := projection_bind.mp h
  obtain ⟨approval, happroval, h⟩ := projection_bind.mp h
  exact ⟨⟨ruleId, rule, attr, fields, radius, provenance, dossier, approval,
    part_of_optional (published_text 128) hruleId, part_of_optional (published_text 2048) hrule,
    part_of_optional (published_text 512) hattr, part_of_optional (published_stringArray 1000 1024) hfields,
    part_of_optional published_radius hradius, hprovenance, part_of_optional published_dossier hdossier,
    part_of_optional published_approval happroval⟩, (Except.ok.inj h).symm⟩

/-- What stands under the keys of a detail. -/
theorem DetailParts.getPath (d : DetailParts P) :
    d.value.getPath ["ruleId"] = (d.ruleId.lookup "ruleId").getD .undefined
      ∧ d.value.getPath ["rule"] = (d.rule.lookup "rule").getD .undefined
      ∧ d.value.getPath ["attribute"] = (d.attr.lookup "attribute").getD .undefined
      ∧ d.value.getPath ["unclassifiedFields"] = (d.fields.lookup "unclassifiedFields").getD .undefined
      ∧ d.value.getPath ["blastRadius"] = (d.radius.lookup "blastRadius").getD .undefined
      ∧ d.value.getPath ["provenance"] = (d.provenance.lookup "provenance").getD .undefined
      ∧ d.value.getPath ["dossier"] = (d.dossier.lookup "dossier").getD .undefined
      ∧ d.value.getPath ["approval"] = (d.approval.lookup "approval").getD .undefined
      ∧ d.value.getPath ["values"] = .undefined := by
  simp (disch := decide) only [DetailParts.value, getPath_object, List.lookup_append, d.hruleId.lookup_of_ne,
    d.hrule.lookup_of_ne, d.hattr.lookup_of_ne, d.hfields.lookup_of_ne, d.hradius.lookup_of_ne,
    d.hprovenance.lookup_of_ne, d.hdossier.lookup_of_ne, d.happroval.lookup_of_ne, Option.or_none,
    Option.none_or, Option.getD_none, and_self]

theorem DetailParts.again (d : DetailParts P) : projectFindingDetail P d.value = .ok d.value := by
  obtain ⟨hruleId, hrule, hattr, hfields, hradius, hprovenance, hdossier, happroval, hvalues⟩ := d.getPath
  have hmember : (if (d.value.getPath ["provenance"]).strictEq .undefined then
        projectContradictionProvenance P d.value
      else optional "provenance" (d.value.getPath ["provenance"]) (projectProvenance P))
      = .ok d.provenance := by
    rw [hprovenance]
    rcases d.hprovenance with hnil | ⟨w, hw, hagain, hdefined, -⟩
    · rw [hnil, projectContradictionProvenance, hvalues]
      rfl
    · rw [hw, List.lookup_cons_self, Option.getD_some, hdefined, if_neg Bool.false_ne_true, optional, hdefined,
        if_neg Bool.false_ne_true, hagain]
      rfl
  rw [projectFindingDetail, hruleId, hrule, hattr, hfields, hradius, hdossier, happroval, d.hruleId.again,
    projection_ok_bind, d.hrule.again, projection_ok_bind, d.hattr.again, projection_ok_bind, d.hfields.again,
    projection_ok_bind, d.hradius.again, projection_ok_bind]
  dsimp only
  split at hmember
  case isTrue hundefined =>
    rw [if_pos hundefined, hmember, projection_ok_bind, d.hdossier.again, projection_ok_bind, d.happroval.again]
    rfl
  case isFalse hdefined =>
    rw [if_neg hdefined, hmember, projection_ok_bind, d.hdossier.again, projection_ok_bind, d.happroval.again]
    rfl

theorem DetailParts.fits (d : DetailParts P) : PUBLIC_DETAIL.fits d.value = true := by
  refine fits_object ?_
  simp only [List.forall_mem_append]
  exact ⟨⟨⟨⟨⟨⟨⟨d.hruleId.allowed rfl, d.hrule.allowed rfl⟩, d.hattr.allowed rfl⟩, d.hfields.allowed rfl⟩,
    d.hradius.allowed rfl⟩, d.hprovenance.allowed rfl⟩, d.hdossier.allowed rfl⟩, d.happroval.allowed rfl⟩

theorem published_detail : Published (projectFindingDetail P) PUBLIC_DETAIL := by
  constructor <;> intro v w h <;> obtain ⟨d, rfl⟩ := detailParts_of_projection h
  · exact d.fits
  · rfl
  · exact d.again

end Details

/-! ## 4. A finding -/

section Findings

variable {P : Platform} {v w d : Value}

/-- The recommendation, if there is one. -/
def recommendationOf (v : Value) : List (String × Value) :=
  if (v.getPath ["recommendation"]).strictEq .undefined then []
  else [("recommendation", v.getPath ["recommendation"])]

/-- A finding with the detail that is published of it. -/
def publicFinding (v d : Value) : Value :=
  object ([("type", v.getPath ["type"]), ("severity", v.getPath ["severity"]),
    ("subject", v.getPath ["subject"]), ("summary", v.getPath ["summary"]), ("detail", d)]
    ++ recommendationOf v)

/-- What `isFinding` accepts of a finding. -/
structure Accepted (v : Value) : Prop where
  type : isOneOf (v.getPath ["type"]) ["contradiction", "lineage_gap", "governance_violation"] = true
  severity : isOneOf (v.getPath ["severity"]) ["low", "medium", "high"] = true
  subject : boundedText (v.getPath ["subject"]) 2048 = true
  summary : boundedText (v.getPath ["summary"]) 4000 = true
  detail : isRecord (v.getPath ["detail"]) = true
  recommendation : ((v.getPath ["recommendation"]).strictEq .undefined
    || boundedText (v.getPath ["recommendation"]) 4000) = true

theorem isFinding_iff : isFinding v = true ↔ isRecord v = true
    ∧ exactReportKeys v ["type", "severity", "subject", "summary", "detail", "recommendation"]
      ["type", "severity", "subject", "summary", "detail"] = true ∧ Accepted v := by
  simp only [isFinding, Bool.and_eq_true]
  constructor
  · rintro ⟨⟨⟨⟨⟨⟨⟨hrecord, hkeys⟩, htype⟩, hseverity⟩, hsubject⟩, hsummary⟩, hdetail⟩, hrecommendation⟩
    exact ⟨hrecord, hkeys, htype, hseverity, hsubject, hsummary, hdetail, hrecommendation⟩
  · rintro ⟨hrecord, hkeys, htype, hseverity, hsubject, hsummary, hdetail, hrecommendation⟩
    exact ⟨⟨⟨⟨⟨⟨⟨hrecord, hkeys⟩, htype⟩, hseverity⟩, hsubject⟩, hsummary⟩, hdetail⟩, hrecommendation⟩

theorem getPath_publicFinding (v d : Value) :
    (publicFinding v d).getPath ["type"] = v.getPath ["type"]
      ∧ (publicFinding v d).getPath ["severity"] = v.getPath ["severity"]
      ∧ (publicFinding v d).getPath ["subject"] = v.getPath ["subject"]
      ∧ (publicFinding v d).getPath ["summary"] = v.getPath ["summary"]
      ∧ (publicFinding v d).getPath ["detail"] = d
      ∧ (publicFinding v d).getPath ["recommendation"] = v.getPath ["recommendation"] := by
  refine ⟨getPath_object _ _, getPath_object _ _, getPath_object _ _, getPath_object _ _, getPath_object _ _,
    (getPath_object _ _).trans ?_⟩
  change ((recommendationOf v).lookup "recommendation").getD .undefined = _
  rw [recommendationOf]
  split
  case isTrue h =>
    cases hr : v.getPath ["recommendation"] with
    | undefined => rfl
    | _ =>
      rw [hr] at h
      exact Bool.noConfusion h
  case isFalse => rfl

theorem recommendationOf_publicFinding (v d : Value) : recommendationOf (publicFinding v d) = recommendationOf v := by
  rw [recommendationOf, (getPath_publicFinding v d).2.2.2.2.2, recommendationOf]

theorem isFinding_publicFinding (hv : Accepted v) (hd : isRecord d = true) : isFinding (publicFinding v d) = true := by
  obtain ⟨htype, hseverity, hsubject, hsummary, hdetail, hrecommendation⟩ := getPath_publicFinding v d
  refine isFinding_iff.mpr ⟨rfl, ?_, ?_⟩
  · rw [publicFinding, recommendationOf]
    split
    · exact exactReportKeys_object ["type", "severity", "subject", "summary", "detail"] rfl (by decide) (by decide)
    · exact exactReportKeys_object ["type", "severity", "subject", "summary", "detail", "recommendation"] rfl
        (by decide) (by decide)
  · refine ⟨?_, ?_, ?_, ?_, ?_, ?_⟩
    · rw [htype]
      exact hv.type
    · rw [hseverity]
      exact hv.severity
    · rw [hsubject]
      exact hv.subject
    · rw [hsummary]
      exact hv.summary
    · rw [hdetail]
      exact hd
    · rw [hrecommendation]
      exact hv.recommendation

theorem isRecord_of_projection (h : projectFindingDetail P v = .ok w) : isRecord w = true := by
  obtain ⟨d, rfl⟩ := detailParts_of_projection h
  rfl

/-- **Of a finding that is accepted only the detail and the search can fail.** -/
theorem projectPublicFinding_eq_ok (hv : Accepted v) : projectPublicFinding P v = .ok w ↔
    ∃ d, projectFindingDetail P (v.getPath ["detail"]) = .ok d ∧ isPublicOutputSafe (publicFinding v d) = true
      ∧ publicFinding v d = w := by
  have hrecommendation : optional "recommendation" (v.getPath ["recommendation"]) (fun w => text w 4000)
      = .ok (recommendationOf v) := by
    rw [optional, recommendationOf]
    split
    case isTrue => rfl
    case isFalse h =>
      have hr := (Bool.or_eq_true_iff.mp hv.recommendation).resolve_left h
      rw [text_eq_ok.mpr ⟨hr, rfl⟩]
      rfl
  rw [projectPublicFinding, hv.type, hv.severity, hv.detail, text_eq_ok.mpr ⟨hv.subject, rfl⟩,
    text_eq_ok.mpr ⟨hv.summary, rfl⟩]
  change (projectFindingDetail P (v.getPath ["detail"]) >>= fun d =>
    optional "recommendation" (v.getPath ["recommendation"]) (fun w => text w 4000) >>= fun recommendation => _)
      = .ok w ↔ _
  rw [hrecommendation, projection_bind]
  refine exists_congr fun d => and_congr_right fun _ => ?_
  exact check_eq_ok

/-- **What is published of a finding**: it fits, it is accepted, and it is projected to itself. -/
theorem finding_published (hv : isFinding v = true) (h : projectPublicFinding P v = .ok w) :
    PUBLIC_FINDING.fits w = true ∧ isFinding w = true ∧ projectPublicFinding P w = .ok w := by
  obtain ⟨-, -, hv⟩ := isFinding_iff.mp hv
  obtain ⟨d, hd, hsafe, rfl⟩ := (projectPublicFinding_eq_ok hv).mp h
  have haccepted := isFinding_publicFinding hv (isRecord_of_projection hd)
  obtain ⟨htype, hseverity, hsubject, hsummary, hdetail, hrecommendation⟩ := getPath_publicFinding v d
  have hsame : publicFinding (publicFinding v d) d = publicFinding v d := by
    rw [publicFinding, htype, hseverity, hsubject, hsummary, recommendationOf_publicFinding, publicFinding]
  refine ⟨?_, haccepted, (projectPublicFinding_eq_ok (isFinding_iff.mp haccepted).2.2).mpr ⟨d, ?_, ?_, hsame⟩⟩
  · refine fits_object ?_
    rw [List.forall_mem_append]
    simp only [List.forall_mem_cons]
    refine ⟨⟨⟨_, rfl, fits_of_isLeaf (isLeaf_of_isOneOf hv.type)⟩,
      ⟨_, rfl, fits_of_isLeaf (isLeaf_of_isOneOf hv.severity)⟩,
      ⟨_, rfl, fits_of_isLeaf (leaf_of_boundedText hv.subject).1⟩,
      ⟨_, rfl, fits_of_isLeaf (leaf_of_boundedText hv.summary).1⟩, ⟨_, rfl, published_detail.fits hd⟩,
      List.forall_mem_nil _⟩, ?_⟩
    rw [recommendationOf]
    split
    case isTrue => exact List.forall_mem_nil _
    case isFalse hr =>
      have hr := (Bool.or_eq_true_iff.mp hv.recommendation).resolve_left hr
      exact List.forall_mem_singleton.mpr ⟨_, rfl, fits_of_isLeaf (leaf_of_boundedText hr).1⟩
  · rw [hdetail]
    exact published_detail.again hd
  · rw [hsame]
    exact hsafe

end Findings

/-! ## 5. The other members -/

section Members

variable {v w : Value}

theorem projectCounts_of_accepted (h : isCountMap v = true) :
    projectCounts v = .ok v ∧ Shape.counts.fits v = true := by
  obtain ⟨hleft, hall⟩ := Bool.and_eq_true_iff.mp h
  obtain ⟨hrecord, -⟩ := Bool.and_eq_true_iff.mp hleft
  cases v with
  | obj fields =>
    have hentry : ∀ e ∈ fields, boundedText (.str e.1) 256 = true ∧ (safeCount e.2).isSome = true :=
      fun e he => Bool.and_eq_true_iff.mp (List.all_eq_true.mp hall e he)
    constructor
    · rw [projectCounts]
      refine projection_bind.mpr ⟨fields, mapM_projection_iff.mpr ?_, rfl⟩
      change List.Forall₂ _ fields fields
      refine List.forall₂_same.mpr fun e he => ?_
      obtain ⟨hname, hcount⟩ := hentry e he
      rw [text_eq_ok.mpr ⟨hname, rfl⟩, count_eq_ok.mpr ⟨any_safeCount hcount, rfl⟩]
      rfl
    · exact List.all_eq_true.mpr fun e he => (leaf_of_safeCount (any_safeCount (hentry e he).2)).1
  | _ => exact Bool.noConfusion hrecord

/-- A classification, built anew. -/
def publicClassification (v : Value) : Value :=
  object [("totalEntities", v.getPath ["totalEntities"]), ("withLineage", v.getPath ["withLineage"]),
    ("sensitiveEntities", v.getPath ["sensitiveEntities"]), ("domains", v.getPath ["domains"]),
    ("platforms", v.getPath ["platforms"])]

theorem getPath_publicClassification (v : Value) :
    (publicClassification v).getPath ["totalEntities"] = v.getPath ["totalEntities"]
      ∧ (publicClassification v).getPath ["withLineage"] = v.getPath ["withLineage"]
      ∧ (publicClassification v).getPath ["sensitiveEntities"] = v.getPath ["sensitiveEntities"]
      ∧ (publicClassification v).getPath ["domains"] = v.getPath ["domains"]
      ∧ (publicClassification v).getPath ["platforms"] = v.getPath ["platforms"] :=
  ⟨getPath_object _ _, getPath_object _ _, getPath_object _ _, getPath_object _ _, getPath_object _ _⟩

theorem classification_published (h : isClassification v = true) :
    projectClassification v = .ok (publicClassification v) ∧ isClassification (publicClassification v) = true
      ∧ publicClassification (publicClassification v) = publicClassification v
      ∧ PUBLIC_CLASSIFICATION.fits (publicClassification v) = true := by
  obtain ⟨htotal, hlineage, hsensitive, hdomains, hplatforms⟩ := getPath_publicClassification v
  have hkeys : exactReportKeys (publicClassification v)
      ["totalEntities", "withLineage", "sensitiveEntities", "domains", "platforms"]
      ["totalEntities", "withLineage", "sensitiveEntities", "domains", "platforms"] = true :=
    exactReportKeys_self (ownKeys_object _)
  have haccepted := h
  simp only [isClassification, Bool.and_eq_true] at h
  obtain ⟨⟨⟨⟨hrecord, holdkeys⟩, hcounts⟩, hd⟩, hp⟩ := h
  obtain ⟨hprojectd, hfitd⟩ := projectCounts_of_accepted hd
  obtain ⟨hprojectp, hfitp⟩ := projectCounts_of_accepted hp
  have hsome : (safeCount (v.getPath ["totalEntities"])).isSome = true
      ∧ (safeCount (v.getPath ["withLineage"])).isSome = true
      ∧ (safeCount (v.getPath ["sensitiveEntities"])).isSome = true := by
    split at hcounts
    case h_1 heq₁ heq₂ heq₃ => exact ⟨by rw [heq₁]; rfl, by rw [heq₂]; rfl, by rw [heq₃]; rfl⟩
    case h_2 => exact Bool.noConfusion hcounts
  refine ⟨?_, ?_, ?_, ?_⟩
  · rw [projectClassification, count_eq_ok.mpr ⟨any_safeCount hsome.1, rfl⟩,
      count_eq_ok.mpr ⟨any_safeCount hsome.2.1, rfl⟩, count_eq_ok.mpr ⟨any_safeCount hsome.2.2, rfl⟩,
      hprojectd, hprojectp]
    rfl
  · rw [isClassification, holdkeys, hrecord] at haccepted
    rw [isClassification, hkeys, htotal, hlineage, hsensitive, hdomains, hplatforms]
    exact haccepted
  · rw [publicClassification, htotal, hlineage, hsensitive, hdomains, hplatforms, publicClassification]
  · refine fits_object ?_
    simp only [List.forall_mem_cons]
    exact ⟨⟨_, rfl, fits_of_isLeaf (leaf_of_safeCount (any_safeCount hsome.1)).1⟩,
      ⟨_, rfl, fits_of_isLeaf (leaf_of_safeCount (any_safeCount hsome.2.1)).1⟩,
      ⟨_, rfl, fits_of_isLeaf (leaf_of_safeCount (any_safeCount hsome.2.2)).1⟩, ⟨_, rfl, hfitd⟩,
      ⟨_, rfl, hfitp⟩, List.forall_mem_nil _⟩

/-- A step of the trace, built anew. -/
def publicStep (v : Value) : Value :=
  object [("agent", v.getPath ["agent"]), ("produced", v.getPath ["produced"])]

theorem step_published (h : isTraceStep v = true) :
    projectTraceStep v = .ok (publicStep v) ∧ isTraceStep (publicStep v) = true
      ∧ publicStep (publicStep v) = publicStep v
      ∧ (Shape.record (leaves ["agent", "produced"])).fits (publicStep v) = true := by
  have hagent : (publicStep v).getPath ["agent"] = v.getPath ["agent"] := getPath_object _ _
  have hproduced : (publicStep v).getPath ["produced"] = v.getPath ["produced"] := getPath_object _ _
  have hkeys : exactReportKeys (publicStep v) ["agent", "produced"] ["agent", "produced"] = true :=
    exactReportKeys_self (ownKeys_object _)
  simp only [isTraceStep, Bool.and_eq_true] at h
  obtain ⟨⟨⟨-, -⟩, ha⟩, hp⟩ := h
  refine ⟨?_, ?_, ?_, ?_⟩
  · rw [projectTraceStep, text_eq_ok.mpr ⟨ha, rfl⟩, text_eq_ok.mpr ⟨hp, rfl⟩]
    rfl
  · rw [isTraceStep, hkeys, hagent, hproduced, ha, hp]
    rfl
  · rw [publicStep, hagent, hproduced, publicStep]
  · refine fits_object ?_
    simp only [List.forall_mem_cons]
    exact ⟨⟨_, rfl, fits_of_isLeaf (leaf_of_boundedText ha).1⟩,
      ⟨_, rfl, fits_of_isLeaf (leaf_of_boundedText hp).1⟩, List.forall_mem_nil _⟩

/-- Is the total the sum? -/
def addUp (input output total : Value) : Bool :=
  match safeCount input, safeCount output, safeCount total with
  | some input, some output, some total => decide (total = input + output)
  | _, _, _ => false

theorem isTokenUsage_object (input output total : Value) :
    isTokenUsage (object [("inputTokens", input), ("outputTokens", output), ("totalTokens", total)])
      = addUp input output total := by
  have hkeys : hasExactKeys (object [("inputTokens", input), ("outputTokens", output), ("totalTokens", total)])
      ["inputTokens", "outputTokens", "totalTokens"] = true := hasExactKeys_object _ rfl
  change (true && hasExactKeys (object [("inputTokens", input), ("outputTokens", output), ("totalTokens", total)])
    ["inputTokens", "outputTokens", "totalTokens"] && addUp (getPath (object _) _) (getPath (object _) _)
      (getPath (object _) _)) = _
  rw [hkeys, getPath_object, getPath_object, getPath_object]
  rfl

theorem addUp_leaf {input output total : Value} (h : addUp input output total = true) :
    isLeaf input = true ∧ isLeaf output = true ∧ isLeaf total = true := by
  rw [addUp] at h
  split at h
  case h_1 hinput houtput htotal =>
    exact ⟨(leaf_of_safeCount (by rw [hinput]; rfl)).1,
      (leaf_of_safeCount (by rw [houtput]; rfl)).1,
      (leaf_of_safeCount (by rw [htotal]; rfl)).1⟩
  case h_2 => exact Bool.noConfusion h

theorem usage_published (h : isTokenUsage v = true) : isTokenUsage (parsedUsage v) = true
    ∧ parsedUsage (parsedUsage v) = parsedUsage v
    ∧ (Shape.record (leaves ["inputTokens", "outputTokens", "totalTokens"])).fits (parsedUsage v) = true := by
  cases v with
  | null => exact ⟨rfl, rfl, rfl⟩
  | obj fields =>
    have hcounts : addUp ((Value.obj fields).getPath ["inputTokens"]) ((Value.obj fields).getPath ["outputTokens"])
        ((Value.obj fields).getPath ["totalTokens"]) = true := (Bool.and_eq_true_iff.mp h).2
    have hvalue : parsedUsage (.obj fields) = object
        [("inputTokens", (Value.obj fields).getPath ["inputTokens"]),
          ("outputTokens", (Value.obj fields).getPath ["outputTokens"]),
          ("totalTokens", (Value.obj fields).getPath ["totalTokens"])] := rfl
    rw [hvalue]
    refine ⟨(isTokenUsage_object _ _ _).trans hcounts, ?_, ?_⟩
    · have hdefined : ∀ fields, (object fields).strictEq .null = false := fun _ => rfl
      rw [parsedUsage, hdefined, if_neg Bool.false_ne_true, getPath_object, getPath_object, getPath_object]
      rfl
    · obtain ⟨hinput, houtput, htotal⟩ := addUp_leaf hcounts
      refine fits_object ?_
      simp only [List.forall_mem_cons]
      exact ⟨⟨_, rfl, fits_of_isLeaf hinput⟩, ⟨_, rfl, fits_of_isLeaf houtput⟩, ⟨_, rfl, fits_of_isLeaf htotal⟩,
        List.forall_mem_nil _⟩
  | _ => exact Bool.noConfusion h

theorem isLeaf_of_isSafeModelId (h : isSafeModelId v = true) : isLeaf v = true := by
  cases v <;> first | rfl | exact Bool.noConfusion h

theorem isLeaf_of_isSafeResponseId (h : isSafeResponseId v = true) : isLeaf v = true := by
  cases v <;> first | rfl | exact Bool.noConfusion h

theorem isLeaf_of_isNull (h : v.strictEq .null = true) : isLeaf v = true := by
  cases v <;> first | rfl | exact Bool.noConfusion h

theorem isLeaf_of_isBool {b : Bool} (h : v.strictEq (.bool b) = true) : isLeaf v = true := by
  obtain rfl := strictEq_bool.mp h
  rfl

theorem isLeaf_of_isLatency (h : isLatency v = true) : isLeaf v = true := by
  rw [isLatency] at h
  cases hcount : safeCount v with
  | none =>
    rw [hcount] at h
    exact Bool.noConfusion h
  | some n => exact (leaf_of_safeCount (by rw [hcount]; rfl)).1

theorem getPath_parsedProvenance (v : Value) :
    (parsedProvenance v).getPath ["schemaVersion"] = v.getPath ["schemaVersion"]
      ∧ (parsedProvenance v).getPath ["source"] = v.getPath ["source"]
      ∧ (parsedProvenance v).getPath ["modelCall"] = v.getPath ["modelCall"]
      ∧ (parsedProvenance v).getPath ["provider"] = v.getPath ["provider"]
      ∧ (parsedProvenance v).getPath ["requestedModel"] = v.getPath ["requestedModel"]
      ∧ (parsedProvenance v).getPath ["returnedModel"] = v.getPath ["returnedModel"]
      ∧ (parsedProvenance v).getPath ["providerResponseId"] = v.getPath ["providerResponseId"]
      ∧ (parsedProvenance v).getPath ["tokenUsage"] = parsedUsage (v.getPath ["tokenUsage"])
      ∧ (parsedProvenance v).getPath ["latencyMs"] = v.getPath ["latencyMs"] :=
  ⟨getPath_object _ _, getPath_object _ _, getPath_object _ _, getPath_object _ _, getPath_object _ _,
    getPath_object _ _, getPath_object _ _, getPath_object _ _, getPath_object _ _⟩

/-- What is accepted of a provenance. -/
structure AcceptedModel (v : Value) : Prop where
  schemaVersion : (v.getPath ["schemaVersion"]).isText (js "archon.model-runtime-provenance/v1") = true
  requestedModel : isSafeModelId (v.getPath ["requestedModel"]) = true
  rest : (if (v.getPath ["source"]).isText (js "deterministic-fixture") then
      (v.getPath ["modelCall"]).strictEq (.bool false) && (v.getPath ["provider"]).isText (js "fixture") &&
        (v.getPath ["returnedModel"]).strictEq .null && (v.getPath ["providerResponseId"]).strictEq .null &&
        (v.getPath ["tokenUsage"]).strictEq .null && (v.getPath ["latencyMs"]).strictEq .null
    else
      (v.getPath ["source"]).isText (js "live-provider") && (v.getPath ["modelCall"]).strictEq (.bool true) &&
        isOneOf (v.getPath ["provider"]) LIVE_PROVIDERS && isSafeModelId (v.getPath ["returnedModel"]) &&
        isSafeResponseId (v.getPath ["providerResponseId"]) && isTokenUsage (v.getPath ["tokenUsage"]) &&
        isLatency (v.getPath ["latencyMs"])) = true

theorem isModelRuntimeProvenance_iff : isModelRuntimeProvenance v = true ↔
    (isRecord v && hasExactKeys v PROVENANCE_KEYS) = true ∧ AcceptedModel v := by
  rw [isModelRuntimeProvenance, ← PROVENANCE_KEYS, Bool.and_eq_true, Bool.and_eq_true, Bool.and_eq_true]
  constructor
  · rintro ⟨⟨⟨hkeys, hversion⟩, hrequested⟩, hrest⟩
    exact ⟨hkeys, hversion, hrequested, hrest⟩
  · rintro ⟨hkeys, hversion, hrequested, hrest⟩
    exact ⟨⟨⟨hkeys, hversion⟩, hrequested⟩, hrest⟩

/-- The usage of a provenance that is accepted. -/
theorem usage_of_accepted (h : AcceptedModel v) : isTokenUsage (v.getPath ["tokenUsage"]) = true
    ∧ ((v.getPath ["tokenUsage"]).strictEq .null = true →
      (parsedUsage (v.getPath ["tokenUsage"])).strictEq .null = true) := by
  have hnull : ∀ u : Value, u.strictEq .null = true → isTokenUsage u = true := by
    intro u hu
    cases u <;> first | rfl | exact Bool.noConfusion hu
  constructor
  · have hrest := h.rest
    split at hrest
    · simp only [Bool.and_eq_true] at hrest
      exact hnull _ hrest.1.2
    · simp only [Bool.and_eq_true] at hrest
      exact hrest.1.2
  · intro hu
    rw [parsedUsage, if_pos hu]
    rfl

theorem model_published (h : isModelRuntimeProvenance v = true) :
    isModelRuntimeProvenance (parsedProvenance v) = true
      ∧ parsedProvenance (parsedProvenance v) = parsedProvenance v
      ∧ PUBLIC_MODEL.fits (parsedProvenance v) = true := by
  obtain ⟨hversion, hsource, hcall, hprovider, hrequested, hreturned, hresponse, husage, hlatency⟩ :=
    getPath_parsedProvenance v
  obtain ⟨-, h⟩ := isModelRuntimeProvenance_iff.mp h
  obtain ⟨hisUsage, hnull⟩ := usage_of_accepted h
  obtain ⟨haccepted, hagain, hfits⟩ := usage_published hisUsage
  refine ⟨isModelRuntimeProvenance_iff.mpr ⟨?_, ?_, ?_, ?_⟩, ?_, ?_⟩
  · have hkeys : hasExactKeys (parsedProvenance v) PROVENANCE_KEYS = true := hasExactKeys_object PROVENANCE_KEYS rfl
    rw [hkeys]
    rfl
  · rw [hversion]
    exact h.schemaVersion
  · rw [hrequested]
    exact h.requestedModel
  · have hrest := h.rest
    rw [hsource, hcall, hprovider, hreturned, hresponse, husage, hlatency, haccepted]
    split at hrest
    case isTrue hfixture =>
      rw [if_pos hfixture]
      simp only [Bool.and_eq_true] at hrest ⊢
      exact ⟨⟨hrest.1.1, hnull hrest.1.2⟩, hrest.2⟩
    case isFalse hlive =>
      rw [if_neg hlive]
      simp only [Bool.and_eq_true] at hrest ⊢
      exact ⟨⟨hrest.1.1, trivial⟩, hrest.2⟩
  · rw [parsedProvenance, hversion, hsource, hcall, hprovider, hrequested, hreturned, hresponse, husage, hlatency,
      hagain, parsedProvenance]
  · have hleaves : isLeaf (v.getPath ["source"]) = true ∧ isLeaf (v.getPath ["modelCall"]) = true
        ∧ isLeaf (v.getPath ["provider"]) = true ∧ isLeaf (v.getPath ["returnedModel"]) = true
        ∧ isLeaf (v.getPath ["providerResponseId"]) = true ∧ isLeaf (v.getPath ["latencyMs"]) = true := by
      have hrest := h.rest
      split at hrest
      case isTrue hfixture =>
        simp only [Bool.and_eq_true] at hrest
        obtain ⟨⟨⟨⟨⟨hcall, hprovider⟩, hreturned⟩, hresponse⟩, -⟩, hlatency⟩ := hrest
        exact ⟨isLeaf_of_isText hfixture, isLeaf_of_isBool hcall, isLeaf_of_isText hprovider,
          isLeaf_of_isNull hreturned, isLeaf_of_isNull hresponse, isLeaf_of_isNull hlatency⟩
      case isFalse =>
        simp only [Bool.and_eq_true] at hrest
        obtain ⟨⟨⟨⟨⟨⟨hsource, hcall⟩, hprovider⟩, hreturned⟩, hresponse⟩, -⟩, hlatency⟩ := hrest
        exact ⟨isLeaf_of_isText hsource, isLeaf_of_isBool hcall, isLeaf_of_isOneOf hprovider,
          isLeaf_of_isSafeModelId hreturned, isLeaf_of_isSafeResponseId hresponse, isLeaf_of_isLatency hlatency⟩
    obtain ⟨hls, hlc, hlp, hlr, hli, hll⟩ := hleaves
    refine fits_object ?_
    simp only [List.forall_mem_cons]
    exact ⟨⟨_, rfl, fits_of_isLeaf (isLeaf_of_isText h.schemaVersion)⟩, ⟨_, rfl, fits_of_isLeaf hls⟩,
      ⟨_, rfl, fits_of_isLeaf hlc⟩, ⟨_, rfl, fits_of_isLeaf hlp⟩,
      ⟨_, rfl, fits_of_isLeaf (isLeaf_of_isSafeModelId h.requestedModel)⟩, ⟨_, rfl, fits_of_isLeaf hlr⟩,
      ⟨_, rfl, fits_of_isLeaf hli⟩, ⟨_, rfl, hfits⟩, ⟨_, rfl, fits_of_isLeaf hll⟩, List.forall_mem_nil _⟩

end Members

/-! ## 6. A report -/

section Reports

variable {P : Platform} {report out : Value} {findings : List Value}

/-- A report, built anew from its members and from the findings that are published. -/
def publicReport (report : Value) (findings : List Value) : Value :=
  object [("schemaVersion", lit "archon.audit-report/v1"), ("scanId", report.getPath ["scanId"]),
    ("classification", publicClassification (report.getPath ["classification"])), ("findings", .arr findings),
    ("narrative", report.getPath ["narrative"]),
    ("modelProvenance", parsedProvenance (report.getPath ["modelProvenance"])),
    ("trace", .arr ((itemsOf (report.getPath ["trace"])).map publicStep))]

/-- What is accepted of a report. -/
structure AcceptedReport (report : Value) : Prop where
  schemaVersion : (report.getPath ["schemaVersion"]).isText (js "archon.audit-report/v1") = true
  scanId : boundedText (report.getPath ["scanId"]) 512 = true
  classification : isClassification (report.getPath ["classification"]) = true
  findings : isListOf (report.getPath ["findings"]) 10000 isFinding = true
  narrative : boundedText (report.getPath ["narrative"]) 8000 = true
  modelProvenance : isModelRuntimeProvenance (report.getPath ["modelProvenance"]) = true
  trace : isListOf (report.getPath ["trace"]) 32 isTraceStep = true

theorem isAuditReport_iff : isAuditReport report = true ↔
    (isRecord report && exactReportKeys report AUDIT_REPORT_KEYS AUDIT_REPORT_KEYS) = true
      ∧ AcceptedReport report := by
  simp only [isAuditReport, Bool.and_eq_true]
  constructor
  · rintro ⟨⟨⟨⟨⟨⟨⟨hkeys, hversion⟩, hscan⟩, hclass⟩, hfindings⟩, hnarrative⟩, hmodel⟩, htrace⟩
    exact ⟨hkeys, hversion, hscan, hclass, hfindings, hnarrative, hmodel, htrace⟩
  · rintro ⟨hkeys, hversion, hscan, hclass, hfindings, hnarrative, hmodel, htrace⟩
    exact ⟨⟨⟨⟨⟨⟨⟨hkeys, hversion⟩, hscan⟩, hclass⟩, hfindings⟩, hnarrative⟩, hmodel⟩, htrace⟩

theorem itemsOf_of_isListOf {v : Value} {maximum : Nat} {p : Value → Bool} (h : isListOf v maximum p = true) :
    (itemsOf v).length ≤ maximum ∧ ∀ w ∈ itemsOf v, p w = true := by
  cases v with
  | arr items =>
    obtain ⟨hlength, hall⟩ := Bool.and_eq_true_iff.mp h
    exact ⟨of_decide_eq_true hlength, List.all_eq_true.mp hall⟩
  | _ => exact Bool.noConfusion h

theorem isListOf_arr {items : List Value} {maximum : Nat} {p : Value → Bool} (hlength : items.length ≤ maximum)
    (hall : ∀ v ∈ items, p v = true) : isListOf (.arr items) maximum p = true :=
  Bool.and_eq_true_iff.mpr ⟨decide_eq_true hlength, List.all_eq_true.mpr hall⟩

theorem getPath_publicReport (report : Value) (findings : List Value) :
    (publicReport report findings).getPath ["schemaVersion"] = lit "archon.audit-report/v1"
      ∧ (publicReport report findings).getPath ["scanId"] = report.getPath ["scanId"]
      ∧ (publicReport report findings).getPath ["classification"]
        = publicClassification (report.getPath ["classification"])
      ∧ (publicReport report findings).getPath ["findings"] = .arr findings
      ∧ (publicReport report findings).getPath ["narrative"] = report.getPath ["narrative"]
      ∧ (publicReport report findings).getPath ["modelProvenance"]
        = parsedProvenance (report.getPath ["modelProvenance"])
      ∧ (publicReport report findings).getPath ["trace"]
        = .arr ((itemsOf (report.getPath ["trace"])).map publicStep) :=
  ⟨getPath_object _ _, getPath_object _ _, getPath_object _ _, getPath_object _ _, getPath_object _ _,
    getPath_object _ _, getPath_object _ _⟩

theorem trace_published {steps : List Value} (h : ∀ v ∈ steps, isTraceStep v = true) :
    steps.mapM projectTraceStep = .ok (steps.map publicStep) := by
  refine mapM_projection_iff.mpr ?_
  rw [List.forall₂_map_right_iff]
  exact List.forall₂_same.mpr fun v hv => (step_published (h v hv)).1

/-- **Of a report that is accepted only its findings and the search can fail.** -/
theorem projectPublicAuditReport_eq_ok (haccepted : isAuditReport report = true) :
    projectPublicAuditReport P report = .ok out ↔ ∃ findings,
      (itemsOf (report.getPath ["findings"])).mapM (projectPublicFinding P) = .ok findings
        ∧ isPublicOutputSafe (publicReport report findings) = true ∧ publicReport report findings = out := by
  obtain ⟨-, h⟩ := isAuditReport_iff.mp haccepted
  have htrace := trace_published (itemsOf_of_isListOf h.trace).2
  rw [projectPublicAuditReport, haccepted, text_eq_ok.mpr ⟨h.scanId, rfl⟩, (classification_published h.classification).1]
  change ((itemsOf (report.getPath ["findings"])).mapM (projectPublicFinding P) >>= fun findings =>
    text (report.getPath ["narrative"]) 8000 >>= fun narrative =>
      (itemsOf (report.getPath ["trace"])).mapM projectTraceStep >>= fun trace => _) = .ok out ↔ _
  rw [text_eq_ok.mpr ⟨h.narrative, rfl⟩, htrace, projection_bind]
  refine exists_congr fun findings => and_congr_right fun _ => ?_
  exact check_eq_ok

/-- The findings of a report that are published. -/
theorem findings_published {vs ws : List Value} (hvs : ∀ v ∈ vs, isFinding v = true)
    (h : vs.mapM (projectPublicFinding P) = .ok ws) :
    ws.mapM (projectPublicFinding P) = .ok ws ∧ (∀ w ∈ ws, isFinding w = true)
      ∧ (∀ w ∈ ws, PUBLIC_FINDING.fits w = true) ∧ ws.length = vs.length := by
  have hall := mapM_projection_iff.mp h
  rw [mapM_projection_iff]
  clear h
  induction hall with
  | nil => exact ⟨.nil, List.forall_mem_nil _, List.forall_mem_nil _, rfl⟩
  | cons hw _ ih =>
    obtain ⟨hv, hvs⟩ := List.forall_mem_cons.mp hvs
    obtain ⟨hfits, haccepted, hagain⟩ := finding_published hv hw
    obtain ⟨hrest, hrestAccepted, hrestFits, hlength⟩ := ih hvs
    exact ⟨.cons hagain hrest, List.forall_mem_cons.mpr ⟨haccepted, hrestAccepted⟩,
      List.forall_mem_cons.mpr ⟨hfits, hrestFits⟩, by rw [List.length_cons, List.length_cons, hlength]⟩

theorem isAuditReport_publicReport (h : AcceptedReport report) (hlength : findings.length ≤ 10000)
    (hall : ∀ v ∈ findings, isFinding v = true) : isAuditReport (publicReport report findings) = true := by
  obtain ⟨hversion, hscan, hclass, hfindings, hnarrative, hmodel, htrace⟩ := getPath_publicReport report findings
  obtain ⟨hsteps, htraceSteps⟩ := itemsOf_of_isListOf h.trace
  refine isAuditReport_iff.mpr ⟨?_, ?_, ?_, ?_, ?_, ?_, ?_, ?_⟩
  · have hkeys : exactReportKeys (publicReport report findings) AUDIT_REPORT_KEYS AUDIT_REPORT_KEYS = true :=
      exactReportKeys_self (ownKeys_object _)
    rw [hkeys]
    rfl
  · rw [hversion]
    decide
  · rw [hscan]
    exact h.scanId
  · rw [hclass]
    exact (classification_published h.classification).2.1
  · rw [hfindings]
    exact isListOf_arr hlength hall
  · rw [hnarrative]
    exact h.narrative
  · rw [hmodel]
    exact (model_published h.modelProvenance).1
  · rw [htrace]
    refine isListOf_arr (by rwa [List.length_map]) fun v hv => ?_
    obtain ⟨step, hstep, rfl⟩ := List.mem_map.mp hv
    exact (step_published (htraceSteps step hstep)).2.1

/-- A report that is built anew is built anew as it is. -/
theorem publicReport_publicReport (h : AcceptedReport report) (findings : List Value) :
    publicReport (publicReport report findings) findings = publicReport report findings := by
  obtain ⟨hversion, hscan, hclass, hfindings, hnarrative, hmodel, htrace⟩ := getPath_publicReport report findings
  have hsteps : (itemsOf (.arr ((itemsOf (report.getPath ["trace"])).map publicStep))).map publicStep
      = (itemsOf (report.getPath ["trace"])).map publicStep := by
    rw [itemsOf, List.map_map]
    refine List.map_congr_left fun v hv => ?_
    exact (step_published ((itemsOf_of_isListOf h.trace).2 v hv)).2.2.1
  rw [publicReport, hscan, hclass, hnarrative, hmodel, htrace, hsteps,
    (classification_published h.classification).2.2.1, (model_published h.modelProvenance).2.1, publicReport]

theorem fits_publicReport (h : AcceptedReport report) (hall : ∀ v ∈ findings, PUBLIC_FINDING.fits v = true) :
    PUBLIC_REPORT.fits (publicReport report findings) = true := by
  refine fits_object ?_
  simp only [List.forall_mem_cons]
  refine ⟨⟨_, rfl, rfl⟩, ⟨_, rfl, fits_of_isLeaf (leaf_of_boundedText h.scanId).1⟩,
    ⟨_, rfl, (classification_published h.classification).2.2.2⟩, ⟨_, rfl, List.all_eq_true.mpr hall⟩,
    ⟨_, rfl, fits_of_isLeaf (leaf_of_boundedText h.narrative).1⟩,
    ⟨_, rfl, (model_published h.modelProvenance).2.2⟩, ⟨_, rfl, ?_⟩, List.forall_mem_nil _⟩
  refine List.all_eq_true.mpr fun v hv => ?_
  obtain ⟨step, hstep, rfl⟩ := List.mem_map.mp hv
  exact (step_published ((itemsOf_of_isListOf h.trace).2 step hstep)).2.2.2

/-! ### What is thrown -/

/-- What throws throws a `PublicAuditProjectionError`. -/
def Refuses {α : Type} (x : Projection α) : Prop := x ≠ .error .auditReport

theorem refuses_ok {α : Type} (a : α) : Refuses (.ok a) := fun h => nomatch h

theorem refuses_ensure (condition : Bool) : Refuses (ensure condition) := by
  cases condition <;> exact fun h => nomatch h

theorem Refuses.bind {α β : Type} {x : Projection α} {f : α → Projection β} (hx : Refuses x)
    (hf : ∀ a, Refuses (f a)) : Refuses (x >>= f) := by
  cases x with
  | error e =>
    intro h
    exact hx (congrArg Except.error (Except.error.inj h))
  | ok a => exact hf a

theorem refuses_mapM {α β : Type} {f : α → Projection β} (hf : ∀ a, Refuses (f a)) :
    ∀ l : List α, Refuses (l.mapM f)
  | [] => refuses_ok _
  | a :: l => by
    rw [List.mapM_cons]
    exact (hf a).bind fun b => (refuses_mapM hf l).bind fun bs => refuses_ok _

theorem refuses_check (condition : Bool) (v : Value) : Refuses (do ensure condition; return v) :=
  (refuses_ensure condition).bind fun _ => refuses_ok v

theorem refuses_text (v : Value) (maximum : Nat) : Refuses (text v maximum) := refuses_check _ _

theorem refuses_count (v : Value) (maximum : Nat) : Refuses (count v maximum) := refuses_check _ _

theorem refuses_instant (v : Value) : Refuses (instant P v) := refuses_check _ _

theorem refuses_digest (v : Value) : Refuses (digest v) := refuses_check _ _

theorem refuses_elements (v : Value) (maximum : Nat) : Refuses (elements v maximum) := by
  cases v with
  | arr items =>
    rw [elements]
    split
    · exact refuses_ok _
    · exact fun h => nomatch h
  | _ => exact fun h => nomatch h

theorem refuses_list {project : Value → Projection Value} (h : ∀ v, Refuses (project v)) (v : Value)
    (maximum : Nat) : Refuses (do return .arr (← (← elements v maximum).mapM project) : Projection Value) :=
  (refuses_elements v maximum).bind fun vs => (refuses_mapM h vs).bind fun _ => refuses_ok _

theorem refuses_optional (key : String) (v : Value) {project : Value → Projection Value}
    (h : ∀ v, Refuses (project v)) : Refuses (optional key v project) := by
  rw [optional]
  split
  · exact refuses_ok _
  · exact (h v).bind fun _ => refuses_ok _

theorem refuses_asset (v : Value) : Refuses (projectAsset v) :=
  (refuses_ensure _).bind fun _ => (refuses_text _ _).bind fun _ => (refuses_count _ _).bind fun _ => refuses_ok _

theorem refuses_radius (v : Value) : Refuses (projectBlastRadius v) :=
  (refuses_ensure _).bind fun _ => (refuses_elements _ _).bind fun _ => (refuses_mapM refuses_asset _).bind fun _ =>
    (refuses_text _ _).bind fun _ => (refuses_count _ _).bind fun _ => refuses_ok _

theorem refuses_event (v : Value) : Refuses (projectEvent P v) :=
  (refuses_ensure _).bind fun _ => (refuses_optional _ _ fun v => refuses_text v _).bind fun _ =>
    (refuses_optional _ _ fun v => refuses_text v _).bind fun _ => (refuses_text _ _).bind fun _ =>
      (refuses_text _ _).bind fun _ => (refuses_instant _).bind fun _ => refuses_ok _

theorem refuses_recommended (v : Value) : Refuses (recommendedFactId v) := by
  rw [recommendedFactId]
  split
  · cases h : text (v.getPath ["recommendedFactId"]) 512 with
    | error e =>
      rintro heq
      refine refuses_text (v.getPath ["recommendedFactId"]) 512 (h.trans ?_)
      exact congrArg Except.error (Except.error.inj heq)
    | ok w => exact refuses_ok _
  · exact refuses_ok _

theorem refuses_listed (recommended : Option Value) (v : Value) : Refuses (projectListed P recommended v) := by
  rw [projectListed]
  refine (refuses_ensure _).bind fun _ => (refuses_text _ _).bind fun _ => ?_
  dsimp only
  by_cases hnull : (v.getPath ["source"]).strictEq .null = true
  · rw [if_pos hnull]
    exact (refuses_ok _).bind fun _ => (refuses_instant _).bind fun _ => refuses_ok _
  · rw [if_neg hnull]
    exact (refuses_text _ _).bind fun _ => (refuses_instant _).bind fun _ => refuses_ok _

theorem refuses_derived (v : Value) : Refuses (projectContradictionProvenance P v) := by
  rw [projectContradictionProvenance]
  split
  · exact (refuses_ensure _).bind fun _ => (refuses_recommended _).bind fun _ =>
      (refuses_mapM (refuses_listed _) _).bind fun _ => refuses_ok _
  · exact refuses_ok _

theorem refuses_dossier (v : Value) : Refuses (projectDossier P v) :=
  (refuses_ensure _).bind fun _ => (refuses_text _ _).bind fun _ => (refuses_digest _).bind fun _ =>
    (refuses_digest _).bind fun _ => (refuses_instant _).bind fun _ => (refuses_count _ _).bind fun _ => refuses_ok _

theorem refuses_approval (v : Value) : Refuses (projectApproval P v) :=
  (refuses_ensure _).bind fun _ => (refuses_text _ _).bind fun _ => (refuses_instant _).bind fun _ =>
    (refuses_text _ _).bind fun _ => (refuses_text _ _).bind fun _ =>
      (refuses_list (fun v => refuses_text v _) _ _).bind fun _ =>
        (refuses_list (fun v => refuses_text v _) _ _).bind fun _ => (refuses_digest _).bind fun _ => refuses_ok _

theorem refuses_detail (v : Value) : Refuses (projectFindingDetail P v) := by
  rw [projectFindingDetail]
  refine (refuses_optional _ _ fun v => refuses_text v _).bind fun _ =>
    (refuses_optional _ _ fun v => refuses_text v _).bind fun _ =>
      (refuses_optional _ _ fun v => refuses_text v _).bind fun _ =>
        (refuses_optional _ _ fun v => refuses_list (fun v => refuses_text v _) v _).bind fun _ =>
          (refuses_optional _ _ refuses_radius).bind fun _ => ?_
  dsimp only
  split
  · exact (refuses_derived _).bind fun _ => (refuses_optional _ _ refuses_dossier).bind fun _ =>
      (refuses_optional _ _ refuses_approval).bind fun _ => refuses_ok _
  · exact (refuses_optional _ _ fun v => refuses_list refuses_event v _).bind fun _ =>
      (refuses_optional _ _ refuses_dossier).bind fun _ =>
        (refuses_optional _ _ refuses_approval).bind fun _ => refuses_ok _

theorem refuses_finding (v : Value) : Refuses (projectPublicFinding P v) :=
  (refuses_ensure _).bind fun _ => (refuses_text _ _).bind fun _ => (refuses_text _ _).bind fun _ =>
    (refuses_detail _).bind fun _ => (refuses_optional _ _ fun v => refuses_text v _).bind fun _ =>
      refuses_check _ _

/-! ### When a report is published -/

theorem safe_of_mem_items : ∀ {vs : List Value}, areItemsSafe vs = true → ∀ v ∈ vs, isPublicOutputSafe v = true
  | [], _ => List.forall_mem_nil _
  | _ :: _, h => List.forall_mem_cons.mpr ⟨(Bool.and_eq_true_iff.mp h).1,
    safe_of_mem_items (Bool.and_eq_true_iff.mp h).2⟩

theorem safe_of_mem_fields : ∀ {fs : List (Text × Value)}, areFieldsSafe fs = true →
    ∀ f ∈ fs, isPublicOutputSafe f.2 = true
  | [], _ => List.forall_mem_nil _
  | (_, _) :: _, h => by
    rw [areFieldsSafe, Bool.and_eq_true, Bool.and_eq_true] at h
    exact List.forall_mem_cons.mpr ⟨h.1.2, safe_of_mem_fields h.2⟩

theorem safe_findings (h : isPublicOutputSafe (publicReport report findings) = true) :
    ∀ v ∈ findings, isPublicOutputSafe v = true := by
  refine safe_of_mem_items (safe_of_mem_fields h (js "findings", .arr findings) ?_)
  exact List.mem_map.mpr ⟨("findings", .arr findings), by simp, rfl⟩

/-- The findings of a report with the details that are published of them. -/
def findingsWith (report : Value) (details : List Value) : List Value :=
  List.zipWith publicFinding (itemsOf (report.getPath ["findings"])) details

/-- Every detail can be projected, and what is published of the report holds nothing that looks like a
credential. -/
def Publishable (P : Platform) (report : Value) : Prop :=
  ∃ details, List.Forall₂ (fun v d => projectFindingDetail P (v.getPath ["detail"]) = .ok d)
      (itemsOf (report.getPath ["findings"])) details
    ∧ isPublicOutputSafe (publicReport report (findingsWith report details)) = true

theorem mapM_finding_eq_ok {vs ws : List Value} (hvs : ∀ v ∈ vs, isFinding v = true) :
    vs.mapM (projectPublicFinding P) = .ok ws ↔ ∃ details,
      List.Forall₂ (fun v d => projectFindingDetail P (v.getPath ["detail"]) = .ok d) vs details
        ∧ (∀ w ∈ List.zipWith publicFinding vs details, isPublicOutputSafe w = true)
        ∧ List.zipWith publicFinding vs details = ws := by
  rw [mapM_projection_iff]
  induction vs generalizing ws with
  | nil =>
    rw [List.forall₂_nil_left_iff]
    constructor
    · rintro rfl
      exact ⟨[], .nil, List.forall_mem_nil _, rfl⟩
    · rintro ⟨details, -, -, rfl⟩
      rfl
  | cons v vs ih =>
    obtain ⟨hv, hvs⟩ := List.forall_mem_cons.mp hvs
    obtain ⟨-, -, hv⟩ := isFinding_iff.mp hv
    rw [List.forall₂_cons_left_iff]
    constructor
    · rintro ⟨w, ws, hw, hws, rfl⟩
      obtain ⟨d, hd, hsafe, rfl⟩ := (projectPublicFinding_eq_ok hv).mp hw
      obtain ⟨details, hdetails, hsafes, rfl⟩ := (ih hvs).mp hws
      exact ⟨d :: details, .cons hd hdetails, List.forall_mem_cons.mpr ⟨hsafe, hsafes⟩, rfl⟩
    · rintro ⟨details, hdetails, hsafes, rfl⟩
      cases hdetails with
      | @cons _ d _ details hd hdetails =>
        obtain ⟨hsafe, hsafes⟩ := List.forall_mem_cons.mp hsafes
        exact ⟨_, _, (projectPublicFinding_eq_ok hv).mpr ⟨d, hd, hsafe, rfl⟩,
          (ih hvs).mpr ⟨details, hdetails, hsafes, rfl⟩, rfl⟩

theorem publishable_iff (haccepted : isAuditReport report = true) :
    (∃ out, projectPublicAuditReport P report = .ok out) ↔ Publishable P report := by
  obtain ⟨-, h⟩ := isAuditReport_iff.mp haccepted
  obtain ⟨-, hall⟩ := itemsOf_of_isListOf h.findings
  constructor
  · rintro ⟨out, hout⟩
    obtain ⟨findings, hfindings, hsafe, -⟩ := (projectPublicAuditReport_eq_ok haccepted).mp hout
    obtain ⟨details, hdetails, -, rfl⟩ := (mapM_finding_eq_ok hall).mp hfindings
    exact ⟨details, hdetails, hsafe⟩
  · rintro ⟨details, hdetails, hsafe⟩
    refine ⟨_, (projectPublicAuditReport_eq_ok haccepted).mpr ⟨_, ?_, hsafe, rfl⟩⟩
    exact (mapM_finding_eq_ok hall).mpr ⟨details, hdetails, safe_findings hsafe, rfl⟩

theorem refuses_report (haccepted : isAuditReport report = true) : Refuses (projectPublicAuditReport P report) := by
  obtain ⟨-, h⟩ := isAuditReport_iff.mp haccepted
  have htrace := trace_published (itemsOf_of_isListOf h.trace).2
  rw [projectPublicAuditReport, haccepted, text_eq_ok.mpr ⟨h.scanId, rfl⟩, (classification_published h.classification).1]
  change Refuses ((itemsOf (report.getPath ["findings"])).mapM (projectPublicFinding P) >>= fun findings =>
    text (report.getPath ["narrative"]) 8000 >>= fun narrative =>
      (itemsOf (report.getPath ["trace"])).mapM projectTraceStep >>= fun trace => _)
  rw [text_eq_ok.mpr ⟨h.narrative, rfl⟩, htrace]
  exact (refuses_mapM refuses_finding _).bind fun _ => refuses_check _ _

/-- **What is published of a report** that is accepted.  The projection throws nothing but a
`PublicAuditProjectionError`, and returns exactly if the report is publishable; what it returns has no
member beyond the table, is accepted, and is projected to itself. -/
theorem public_report (P : Platform) (report : Value) (haccepted : isAuditReport report = true) :
    ((∃ out, projectPublicAuditReport P report = .ok out) ↔ Publishable P report)
      ∧ (∀ e, projectPublicAuditReport P report = .error e → e = .publicProjection)
      ∧ ∀ out, projectPublicAuditReport P report = .ok out → PUBLIC_REPORT.fits out = true
        ∧ isAuditReport out = true ∧ projectPublicAuditReport P out = .ok out := by
  obtain ⟨-, h⟩ := isAuditReport_iff.mp haccepted
  refine ⟨publishable_iff haccepted, fun e he => ?_, fun out hout => ?_⟩
  · cases e with
    | auditReport => exact absurd he (refuses_report haccepted)
    | publicProjection => rfl
  · obtain ⟨findings, hfindings, hsafe, rfl⟩ := (projectPublicAuditReport_eq_ok haccepted).mp hout
    obtain ⟨hlength, hall⟩ := itemsOf_of_isListOf h.findings
    obtain ⟨hagain, hfindingsAccepted, hfits, hsame⟩ := findings_published hall hfindings
    have hreport := isAuditReport_publicReport h (hsame ▸ hlength) hfindingsAccepted
    refine ⟨fits_publicReport h hfits, hreport, (projectPublicAuditReport_eq_ok hreport).mpr ⟨findings, ?_, ?_, ?_⟩⟩
    · rw [(getPath_publicReport report findings).2.2.2.1]
      exact hagain
    · rw [publicReport_publicReport h]
      exact hsafe
    · exact publicReport_publicReport h findings

end Reports

section Narratives

/-- A report on an empty catalog, with a narrative. -/
def narratedReport (narrative : String) : Value :=
  object [("schemaVersion", lit "archon.audit-report/v1"), ("scanId", lit "scan-1"),
    ("classification", emptyReport.getPath ["classification"]), ("findings", .arr []),
    ("narrative", lit narrative), ("modelProvenance", emptyReport.getPath ["modelProvenance"]), ("trace", .arr [])]

theorem public_report_narrated : isAuditReport (narratedReport "Nothing was found.") = true
    ∧ ∃ out, projectPublicAuditReport .node (narratedReport "Nothing was found.") = .ok out
      ∧ PUBLIC_REPORT.fits out = true ∧ isAuditReport out = true
      ∧ projectPublicAuditReport .node out = .ok out := by
  have haccepted : isAuditReport (narratedReport "Nothing was found.") = true := by decide +kernel
  obtain ⟨hpublishable, -, hpublished⟩ := public_report .node (narratedReport "Nothing was found.") haccepted
  have hquiet : isQuietValue (publicReport (narratedReport "Nothing was found.") []) = true := by decide +kernel
  obtain ⟨out, hout⟩ := hpublishable.mpr ⟨[], .nil, safe_of_isQuietValue _ hquiet⟩
  exact ⟨haccepted, out, hout, hpublished out hout⟩

/-- **A report that is accepted and refused**: something in its narrative looks like a password. -/
theorem password_refused : isAuditReport (narratedReport "The table was made with password: correct-horse") = true
    ∧ projectPublicAuditReport .node (narratedReport "The table was made with password: correct-horse")
      = .error .publicProjection := by
  have haccepted : isAuditReport (narratedReport "The table was made with password: correct-horse") = true := by
    decide +kernel
  have hrefused : isPublicOutputSafe (publicReport
      (narratedReport "The table was made with password: correct-horse") []) = false := by
    decide +kernel
  refine ⟨haccepted, ?_⟩
  cases h : projectPublicAuditReport Platform.node
      (narratedReport "The table was made with password: correct-horse") with
  | ok out =>
    obtain ⟨findings, hfindings, hsafe, -⟩ := (projectPublicAuditReport_eq_ok haccepted).mp h
    obtain rfl : [] = findings := Except.ok.inj hfindings
    exact absurd hsafe (by rw [hrefused]; decide)
  | error e =>
    cases e with
    | auditReport => exact absurd h (refuses_report haccepted)
    | publicProjection => rfl

end Narratives

end Report
