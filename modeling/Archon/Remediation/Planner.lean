/-
# The planner's artifacts and their verifiers

A dossier and a plan reach the executor as JSON, so the verifiers here run on ARBITRARY values
and say what they accept by what they read.  Each is a chain of `&&`, evaluated left to right; a
read on a missing object throws, which is a refusal too.

What acceptance establishes is collected once.  A `TagProjection` is a value together with the
fields a verified projection has, and `verifyTagProjection` accepts exactly those values
(`verifyTagProjection_eq_true`).  `PlanFacts` and `DossierFacts` are what the executor may rely
on afterwards.  Both record what the verifiers look at and no more: of the argument arrays the
plan's verifier reads the first elements only.
-/
import Archon.Remediation.Integrity

namespace Remediation

open Ecma Ecma.Value

/-! ## 1. Lists of tags -/

/-- `new Set(values)`, as the list of its elements. -/
def setOf : Value → Run (List Value)
  | .undefined => .ok []
  | .null => .ok []
  | v => do return dedup (← v.spread)

/-- `[...new Set(values)].sort((a, b) => a.localeCompare(b))`. -/
def uniqueSorted (P : Platform) (values : Value) : Run Value := do
  return .arr (← P.localeSort (← setOf values))

/-- `typeof value === "string" && value.trim().length > 0`. -/
def isNonEmptyString : Value → Bool
  | .str s => nonBlank s
  | _ => false

theorem isNonEmptyString_iff {v : Value} :
    isNonEmptyString v = true ↔ ∃ s, v = .str s ∧ nonBlank s = true := by
  cases v <;> simp [isNonEmptyString]

theorem sameValueZero_str {v : Value} {s : Text} :
    sameValueZero (.str s) v = true ↔ v = .str s := by
  cases v <;> simp [sameValueZero, strictEq, eq_comm]

theorem str_sameValueZero {v : Value} {s : Text} :
    sameValueZero v (.str s) = true ↔ v = .str s := by
  cases v <;> simp [sameValueZero, strictEq]

theorem of_mem_dedup : ∀ {vs : List Value} {v : Value}, v ∈ dedup vs → v ∈ vs
  | u :: vs, v, h => by
    rcases List.mem_cons.mp h with rfl | h
    · simp
    · exact List.mem_cons_of_mem _ (of_mem_dedup (List.mem_of_mem_filter h))

/-- A string is not lost to an element that is only equal to it. -/
theorem mem_dedup_str {t : Text} {vs : List Value} : .str t ∈ dedup vs ↔ .str t ∈ vs := by
  induction vs with
  | nil => simp [dedup]
  | cons v vs ih =>
    rw [dedup, List.mem_cons, List.mem_filter, ih, List.mem_cons]
    constructor
    · rintro (h | ⟨h, -⟩)
      · exact Or.inl h
      · exact Or.inr h
    · rintro (h | h)
      · exact Or.inl h
      · by_cases hv : sameValueZero v (.str t) = true
        · exact Or.inl (str_sameValueZero.mp hv).symm
        · exact Or.inr ⟨h, by simpa using hv⟩

/-- If only strings are left, there was nothing else. -/
theorem strings_of_dedup : ∀ {vs : List Value}, (∀ v ∈ dedup vs, ∃ t, v = .str t) →
    ∀ v ∈ vs, ∃ t, v = .str t
  | [], _, v, hv => absurd hv List.not_mem_nil
  | u :: vs, h, v, hv => by
    obtain ⟨s, rfl⟩ := h u (by simp [dedup])
    rcases List.mem_cons.mp hv with rfl | hv
    · exact ⟨s, rfl⟩
    · refine strings_of_dedup (fun w hw => ?_) v hv
      by_cases hs : sameValueZero (.str s) w = true
      · exact ⟨s, sameValueZero_str.mp hs⟩
      · exact h w (by simp [dedup, hw, hs])

/-- On an array of strings `includes` looks for a string. -/
theorem includes_strings (us : List Text) (v : Value) :
    ((Value.arr (us.map .str)).includes v : Run Bool) = .ok (us.any fun u => v.isText u) := by
  have h : ∀ u : Text, sameValueZero (.str u) v = v.isText u := fun u => by
    rw [Bool.eq_iff_iff, sameValueZero_str, isText_iff]
  simp only [includes, List.any_map, Function.comp_def, h]

@[simp] theorem includes_strings_str (us : List Text) (t : Text) :
    ((Value.arr (us.map .str)).includes (.str t) : Run Bool) = .ok (decide (t ∈ us)) := by
  rw [includes_strings]
  congr 1
  rw [Bool.eq_iff_iff]
  simp

@[simp] theorem every_includes_strings (ts us : List Text) :
    ((Value.arr (ts.map .str)).every fun v => (Value.arr (us.map .str)).includes v : Run Bool)
      = .ok (decide (∀ t ∈ ts, t ∈ us)) := by
  induction ts with
  | nil => simp [every]
  | cons t ts ih =>
    simp only [every, List.map_cons, List.foldr_cons, includes_strings_str] at ih ⊢
    rw [ih]
    by_cases h : t ∈ us <;> simp [h]

theorem uniqueSorted_arr {P : Platform} {vs : List Value} {w : Value}
    (h : uniqueSorted P (.arr vs) = .ok w) : ∃ sorted, w = .arr sorted := by
  obtain ⟨set, -, h⟩ := bind_eq_ok.mp h
  obtain ⟨sorted, -, h⟩ := bind_eq_ok.mp h
  exact ⟨sorted, (Except.ok.inj h).symm⟩

theorem uniqueSorted_perm {P : Platform} {vs sorted : List Value}
    (h : uniqueSorted P (.arr vs) = .ok (.arr sorted)) : sorted.Perm (dedup vs) := by
  obtain ⟨set, hset, h⟩ := bind_eq_ok.mp h
  obtain rfl := Except.ok.inj hset
  obtain ⟨ws, hsort, h⟩ := bind_eq_ok.mp h
  obtain rfl := Value.arr.inj (Except.ok.inj h)
  exact P.localeSort_perm hsort

/-- A list of strings that prints like the sorted union of strings and one JSON value is that
union, and the value is a string. -/
theorem mem_of_uniqueSorted {P : Platform} {before after : List Text} {tag : Value}
    {sorted : List Value} (htag : IsJson tag)
    (hs : uniqueSorted P (.arr (before.map .str ++ [tag])) = .ok (.arr sorted))
    (h : stringify (.arr (after.map .str)) = stringify (.arr sorted)) :
    ∃ t, tag = .str t ∧ ∀ u, u ∈ after ↔ u ∈ before ∨ u = t := by
  have hperm := uniqueSorted_perm hs
  have hsorted : sorted = after.map .str := by
    refine eq_of_stringify_strings (everywhere_arr.mpr ⟨trivial, fun v hv => ?_⟩) h.symm
    rcases List.mem_append.mp (of_mem_dedup (hperm.mem_iff.mp hv)) with h | h
    · obtain ⟨t, -, rfl⟩ := List.mem_map.mp h
      trivial
    · obtain rfl := List.mem_singleton.mp h
      exact htag
  have hstr : ∀ v ∈ dedup (before.map .str ++ [tag]), ∃ t, v = .str t := by
    intro v hv
    rw [← hperm.mem_iff, hsorted] at hv
    obtain ⟨t, -, rfl⟩ := List.mem_map.mp hv
    exact ⟨t, rfl⟩
  obtain ⟨t, ht⟩ := strings_of_dedup hstr tag (by simp)
  refine ⟨t, ht, fun u => ?_⟩
  have hmem : ∀ us : List Text, .str u ∈ us.map Value.str ↔ u ∈ us := fun us =>
    List.mem_map_of_injective fun _ _ => Value.str.inj
  rw [← hmem, ← hsorted, hperm.mem_iff, mem_dedup_str, List.mem_append, hmem, List.mem_singleton, ht,
    Value.str.injEq]

/-! ## 2. Tag projections -/

/-- `verifyTagProjection`. -/
def verifyTagProjection (P : Platform) (projection : Value) : Run Bool :=
  (do return isNonEmptyString (← projection.path ["entityUrn"])) <&&>
  (do return isNonEmptyString (← projection.path ["columnPath"])) <&&>
  (do return (← projection.path ["tags"]).isArr) <&&>
  (do (← projection.path ["tags"]).every fun tag => return isNonEmptyString tag) <&&>
  (do
    let tags ← projection.path ["tags"]
    return decide (stringify tags = stringify (← uniqueSorted P tags))) <&&>
  (do verifyDigest P (← withoutDigest projection) (← projection.path ["digest"]))

/-- A value that a verified projection can be, with what verification says about it. -/
structure TagProjection (P : Platform) where
  value : Value
  entityUrn : Text
  columnPath : Text
  tags : List Text
  entityUrn_eq : value.getPath ["entityUrn"] = .str entityUrn
  entityUrn_nonBlank : nonBlank entityUrn = true
  columnPath_eq : value.getPath ["columnPath"] = .str columnPath
  columnPath_nonBlank : nonBlank columnPath = true
  tags_eq : value.getPath ["tags"] = .arr (tags.map .str)
  tags_nonBlank : ∀ t ∈ tags, nonBlank t = true
  tags_sorted : uniqueSorted P (.arr (tags.map .str)) = .ok (.arr (tags.map .str))
  unsigned : Canonicalizable (value.rest ["digest"])
  digest_eq : value.getPath ["digest"] = .str (digestOf P (value.rest ["digest"]))

/-- The digest of a projection. -/
def TagProjection.digest {P : Platform} (p : TagProjection P) : Text :=
  digestOf P (p.value.rest ["digest"])

theorem stringify_strings_inj {ts us : List Text}
    (h : stringify (.arr (ts.map .str)) = stringify (.arr (us.map .str))) : ts = us := by
  have hts : IsJson (.arr (ts.map .str)) :=
    everywhere_arr.mpr ⟨trivial, fun v hv => by
      obtain ⟨t, -, rfl⟩ := List.mem_map.mp hv
      trivial⟩
  exact List.map_injective_iff.mpr (fun _ _ => Value.str.inj) (eq_of_stringify_strings hts h)

theorem exists_texts {items : List Value} (h : ∀ v ∈ items, isNonEmptyString v = true) :
    ∃ ts : List Text, items = ts.map .str ∧ ∀ t ∈ ts, nonBlank t = true := by
  induction items with
  | nil => exact ⟨[], rfl, by simp⟩
  | cons v vs ih =>
    obtain ⟨s, rfl, hs⟩ := isNonEmptyString_iff.mp (h v (by simp))
    obtain ⟨ts, rfl, hts⟩ := ih fun w hw => h w (by simp [hw])
    exact ⟨s :: ts, rfl, by simpa [hs] using hts⟩

theorem asTexts_dedup : ∀ ts : List Text, ∃ us : List Text, dedup (ts.map .str) = us.map .str
  | [] => ⟨[], rfl⟩
  | t :: ts => by
    obtain ⟨us, hus⟩ := asTexts_dedup ts
    refine ⟨t :: us.filter fun u => !sameValueZero (.str t) (.str u), ?_⟩
    rw [List.map_cons, dedup, hus, List.filter_map, List.map_cons]
    rfl

/-- On a list of strings the sort does not throw, and yields strings. -/
theorem uniqueSorted_strings (P : Platform) (ts : List Text) :
    ∃ us : List Text, uniqueSorted P (.arr (ts.map .str)) = .ok (.arr (us.map .str)) := by
  obtain ⟨us, hus⟩ := asTexts_dedup ts
  exact ⟨P.sortTexts us, by simp [uniqueSorted, setOf, hus]⟩

/-- **What `verifyTagProjection` accepts.** -/
theorem verifyTagProjection_eq_true {P : Platform} {v : Value} :
    verifyTagProjection P v = .ok true ↔ ∃ p : TagProjection P, p.value = v := by
  constructor
  · intro h
    simp only [verifyTagProjection, andM_eq_true] at h
    obtain ⟨h1, h2, h3, h4, h5, h6⟩ := h
    obtain ⟨e, he, h1⟩ := bind_eq_ok.mp h1
    obtain ⟨e, rfl, hen⟩ := isNonEmptyString_iff.mp (Except.ok.inj h1)
    obtain ⟨c, hc, h2⟩ := bind_eq_ok.mp h2
    obtain ⟨c, rfl, hcn⟩ := isNonEmptyString_iff.mp (Except.ok.inj h2)
    obtain ⟨tags, ht, h3⟩ := bind_eq_ok.mp h3
    rw [ht] at h4 h5
    cases tags with
    | arr items =>
      have hall := every_arr_eq_true.mp (by simpa using h4)
      obtain ⟨ts, rfl, hts⟩ := exists_texts fun v hv => Except.ok.inj (hall v hv)
      obtain ⟨us, hus⟩ := uniqueSorted_strings P ts
      simp only [ok_bind, hus, pure_eq_ok, Except.ok.injEq, decide_eq_true_eq] at h5
      obtain rfl := stringify_strings_inj h5
      obtain ⟨w, hw, h6⟩ := bind_eq_ok.mp h6
      obtain ⟨-, rfl⟩ := without_eq_ok.mp hw
      obtain ⟨d, hd, h6⟩ := bind_eq_ok.mp h6
      obtain ⟨hcan, rfl⟩ := verifyDigest_eq_true.mp h6
      exact ⟨⟨v, e, c, ts, getPath_of_path he, hen, getPath_of_path hc, hcn, getPath_of_path ht,
        hts, hus, hcan, getPath_of_path hd⟩, rfl⟩
    | _ => simp [isArr] at h3
  · rintro ⟨p, rfl⟩
    have he : (p.value.path ["entityUrn"] : Run Value) = .ok (.str p.entityUrn) := by
      rw [path_of_getPath (by rw [p.entityUrn_eq]; simp), p.entityUrn_eq]
    have hc : (p.value.path ["columnPath"] : Run Value) = .ok (.str p.columnPath) := by
      rw [path_of_getPath (by rw [p.columnPath_eq]; simp), p.columnPath_eq]
    have ht : (p.value.path ["tags"] : Run Value) = .ok (.arr (p.tags.map .str)) := by
      rw [path_of_getPath (by rw [p.tags_eq]; simp), p.tags_eq]
    have hd : (p.value.path ["digest"] : Run Value)
        = .ok (.str (digestOf P (p.value.rest ["digest"]))) := by
      rw [path_of_getPath (by rw [p.digest_eq]; simp), p.digest_eq]
    have hw : withoutDigest p.value = .ok (p.value.rest ["digest"]) := by
      refine without_eq_ok.mpr ⟨?_, rfl⟩
      cases hn : p.value.isNullish with
      | false => rfl
      | true =>
        have h := p.entityUrn_eq
        rw [getPath_cons, get_of_isNullish hn, getPath_nil] at h
        exact absurd h (by simp)
    simp only [verifyTagProjection, andM_eq_true]
    refine ⟨by simp [he, isNonEmptyString, p.entityUrn_nonBlank],
      by simp [hc, isNonEmptyString, p.columnPath_nonBlank], by simp [ht, isArr], ?_, ?_, ?_⟩
    · rw [ht, ok_bind, every_arr_eq_true]
      intro v hv
      obtain ⟨t, htm, rfl⟩ := List.mem_map.mp hv
      simp [isNonEmptyString, p.tags_nonBlank t htm]
    · simp [ht, p.tags_sorted]
    · rw [hw, hd]
      exact verifyDigest_eq_true.mpr ⟨p.unsigned, rfl⟩

theorem TagProjection.exists_fields {P : Platform} (p : TagProjection P) :
    ∃ fields, p.value = .obj fields := by
  refine obj_of_get (js "entityUrn") ?_ (by decide) (by decide)
  have h := p.entityUrn_eq
  rw [getPath_cons, getPath_nil] at h
  rw [h]
  simp

theorem TagProjection.value_ne_undefined {P : Platform} (p : TagProjection P) :
    p.value ≠ .undefined := by
  obtain ⟨fields, h⟩ := p.exists_fields
  rw [h]
  simp

theorem TagProjection.isNullish_eq {P : Platform} (p : TagProjection P) :
    p.value.isNullish = false := by
  obtain ⟨fields, h⟩ := p.exists_fields
  rw [h]
  rfl

@[simp] theorem TagProjection.prop_entityUrn {P : Platform} (p : TagProjection P) :
    (p.value.prop "entityUrn" : Run Value) = .ok (.str p.entityUrn) :=
  prop_eq_ok.mpr ⟨p.isNullish_eq, p.entityUrn_eq⟩

@[simp] theorem TagProjection.prop_columnPath {P : Platform} (p : TagProjection P) :
    (p.value.prop "columnPath" : Run Value) = .ok (.str p.columnPath) :=
  prop_eq_ok.mpr ⟨p.isNullish_eq, p.columnPath_eq⟩

@[simp] theorem TagProjection.prop_tags {P : Platform} (p : TagProjection P) :
    (p.value.prop "tags" : Run Value) = .ok (.arr (p.tags.map .str)) :=
  prop_eq_ok.mpr ⟨p.isNullish_eq, p.tags_eq⟩

@[simp] theorem TagProjection.prop_digest {P : Platform} (p : TagProjection P) :
    (p.value.prop "digest" : Run Value) = .ok (.str p.digest) :=
  prop_eq_ok.mpr ⟨p.isNullish_eq, p.digest_eq⟩

@[simp] theorem TagProjection.path_entityUrn {P : Platform} (p : TagProjection P) :
    (p.value.path ["entityUrn"] : Run Value) = .ok (.str p.entityUrn) := by
  simp [path]

@[simp] theorem TagProjection.path_columnPath {P : Platform} (p : TagProjection P) :
    (p.value.path ["columnPath"] : Run Value) = .ok (.str p.columnPath) := by
  simp [path]

@[simp] theorem TagProjection.path_tags {P : Platform} (p : TagProjection P) :
    (p.value.path ["tags"] : Run Value) = .ok (.arr (p.tags.map .str)) := by
  simp [path]

@[simp] theorem TagProjection.path_digest {P : Platform} (p : TagProjection P) :
    (p.value.path ["digest"] : Run Value) = .ok (.str p.digest) := by
  simp [path]

theorem TagProjection.getPath_digest {P : Platform} (p : TagProjection P) :
    p.value.getPath ["digest"] = .str p.digest :=
  p.digest_eq

@[simp] theorem TagProjection.truthy_value {P : Platform} (p : TagProjection P) :
    p.value.truthy = true := by
  obtain ⟨fields, h⟩ := p.exists_fields
  rw [h]
  rfl

@[simp] theorem TagProjection.verified {P : Platform} (p : TagProjection P) :
    verifyTagProjection P p.value = .ok true :=
  verifyTagProjection_eq_true.mpr ⟨p, rfl⟩

/-- **One digest, one field and one list of tags**, if the platform separates the two texts. -/
theorem TagProjection.eq_of_digest {P : Platform} {p q : TagProjection P} (hp : Keyed p.value)
    (hq : Keyed q.value)
    (hsep : P.Separates (canonicalText (p.value.rest ["digest"]))
      (canonicalText (q.value.rest ["digest"])))
    (h : p.digest = q.digest) :
    p.entityUrn = q.entityUrn ∧ p.columnPath = q.columnPath ∧ p.tags = q.tags := by
  have hn := digestOf_inj p.unsigned q.unsigned hsep h
  have hkeep : ∀ key, key ∉ ["digest"] → js key ≠ protoKey →
      norm (p.value.getPath [key]) = norm (q.value.getPath [key]) := by
    intro key hk hkp
    obtain ⟨fs, hfs⟩ := p.exists_fields
    obtain ⟨gs, hgs⟩ := q.exists_fields
    rw [hfs] at hp hn
    rw [hgs] at hq hn
    have hf := List.filter_sublist (l := fs) (p := fun e => !(["digest"].map js).contains e.1)
    have hg := List.filter_sublist (l := gs) (p := fun e => !(["digest"].map js).contains e.1)
    have hcongr := norm_get_congr ((hf.map Prod.fst).nodup hp.nodup)
      ((hg.map Prod.fst).nodup hq.nodup) hkp hn
    rw [hfs, hgs, getPath_cons, getPath_cons, getPath_nil, getPath_nil, ← get_rest fs hk,
      ← get_rest gs hk]
    exact hcongr
  have hent := hkeep "entityUrn" (by decide) (by decide)
  have hcol := hkeep "columnPath" (by decide) (by decide)
  have htags := hkeep "tags" (by decide) (by decide)
  rw [p.entityUrn_eq, q.entityUrn_eq] at hent
  rw [p.columnPath_eq, q.columnPath_eq] at hcol
  rw [p.tags_eq, q.tags_eq, norm_strings, norm_strings] at htags
  exact ⟨Value.str.inj hent, Value.str.inj hcol,
    List.map_injective_iff.mpr (fun _ _ => Value.str.inj) (Value.arr.inj htags)⟩

/-! ## 3. Dossiers and plans -/

/-- `${kind}-${digest.slice("sha256:".length, "sha256:".length + 24)}`. -/
def shortId (kind : String) (digest : Text) : Text := js kind ++ slice digest 7 31

/-- `dossierPayload`. -/
def dossierPayload (dossier : Value) : Run Value := dossier.without ["dossierId", "digest"]

/-- `actionPayload`. -/
def actionPayload (action : Value) : Run Value := withoutDigest action

/-- `planPayload`. -/
def planPayload (plan : Value) : Run Value := plan.without ["planId", "digest"]

/-- `ACTION_CATALOG_V1`. -/
def ACTION_CATALOG_V1 : Value :=
  object [
    ("schemaVersion", lit "archon.action-catalog/v1"),
    ("actions", .arr [object [
      ("actionId", lit "datahub.add-classification-tag.v1"),
      ("findingRule", lit "G6"),
      ("tool", lit "add_tags"),
      ("rollbackTool", lit "remove_tags"),
      ("maxEntities", .num (.ofNat 1)),
      ("maxColumns", .num (.ofNat 1)),
      ("maxTags", .num (.ofNat 1)),
      ("entitySource", lit "DATAHUB_EVIDENCE"),
      ("columnSource", lit "DATAHUB_EVIDENCE"),
      ("tagSource", lit "TRUSTED_POLICY")]])]

/-- `ACTION_CATALOG_DIGEST`. -/
def ACTION_CATALOG_DIGEST (P : Platform) : Text := digestOf P ACTION_CATALOG_V1

/-- `verifyEvidenceDossier`. -/
def verifyEvidenceDossier (P : Platform) (dossier : Value) : Run Bool := do
  let expected ← digest P (← dossierPayload dossier)
  eqText (dossier.path ["schemaVersion"]) (js "archon.evidence-dossier/v1") <&&>
    eqText (dossier.path ["dossierId"]) (shortId "dossier-" expected) <&&>
    eqText (dossier.path ["digest"]) expected <&&>
    (do eqText (dossier.path ["findingDigest"]) (← digest P (← dossier.path ["finding"]))) <&&>
    eqText (dossier.path ["finding", "type"]) (js "governance_violation") <&&>
    eqText (dossier.path ["finding", "ruleId"]) (js "G6") <&&>
    eqValue (dossier.path ["finding", "subject"]) (dossier.path ["target", "entityUrn"]) <&&>
    (do
      let fields ← dossier.path ["finding", "unclassifiedFields"]
      fields.includes (← dossier.path ["target", "columnPath"])) <&&>
    (do verifyTagProjection P (← dossier.path ["before"])) <&&>
    eqValue (dossier.path ["before", "entityUrn"]) (dossier.path ["target", "entityUrn"]) <&&>
    eqValue (dossier.path ["before", "columnPath"]) (dossier.path ["target", "columnPath"])

/-- `verifyRemediationPlan`. -/
def verifyRemediationPlan (P : Platform) (plan : Value) : Run Bool := do
  let expected ← digest P (← planPayload plan)
  let tags ← (← plan.path ["expectedBefore", "tags"]).spread
  let tag ← (← plan.path ["action", "arguments", "tag_urns"]).index 0
  let expectedAfterTags ← uniqueSorted P (.arr (tags ++ [tag]))
  eqText (plan.path ["schemaVersion"]) (js "archon.remediation-plan/v1") <&&>
    eqText (plan.path ["planId"]) (shortId "plan-" expected) <&&>
    eqText (plan.path ["digest"]) expected <&&>
    eqText (plan.path ["actionCatalogDigest"]) (ACTION_CATALOG_DIGEST P) <&&>
    (do return (← plan.path ["requiresHumanApproval"]).strictEq (.bool true)) <&&>
    eqText (plan.path ["risk"]) (js "low") <&&>
    (do
      let action ← plan.path ["action"]
      verifyDigest P (← actionPayload action) (← action.path ["digest"])) <&&>
    eqText (plan.path ["action", "actionId"]) (js "datahub.add-classification-tag.v1") <&&>
    eqText (plan.path ["action", "tool"]) (js "add_tags") <&&>
    eqText (plan.path ["action", "inverse", "tool"]) (js "remove_tags") <&&>
    (do
      let arguments ← plan.path ["action", "arguments"]
      return decide (stringify arguments
        = stringify (← plan.path ["action", "inverse", "arguments"]))) <&&>
    (do verifyTagProjection P (← plan.path ["expectedBefore"])) <&&>
    (do verifyTagProjection P (← plan.path ["expectedAfter"])) <&&>
    eqValue (plan.path ["expectedBefore", "entityUrn"])
      (do (← plan.path ["action", "arguments", "entity_urns"]).index 0) <&&>
    eqValue (plan.path ["expectedBefore", "columnPath"])
      (do (← plan.path ["action", "arguments", "column_paths"]).index 0) <&&>
    eqValue (plan.path ["expectedAfter", "entityUrn"]) (plan.path ["expectedBefore", "entityUrn"])
      <&&>
    eqValue (plan.path ["expectedAfter", "columnPath"]) (plan.path ["expectedBefore", "columnPath"])
      <&&>
    (do
      let after ← plan.path ["expectedAfter", "tags"]
      return decide (stringify after = stringify expectedAfterTags))

/-! ## 4. What the verifiers establish -/

/-- The facts about an accepted dossier that the executor relies on. -/
structure DossierFacts (P : Platform) (dossier : Value) where
  before : TagProjection P
  before_eq : dossier.getPath ["before"] = before.value
  target_entityUrn : dossier.getPath ["target", "entityUrn"] = .str before.entityUrn
  target_columnPath : dossier.getPath ["target", "columnPath"] = .str before.columnPath
  digest_eq : ∃ d, dossier.getPath ["digest"] = .str d

theorem eqValue_paths {v w : Value} {ks ls : List String} {s : Text}
    (h : (eqValue (v.path ks) (w.path ls) : Run Bool) = .ok true) (hv : v.getPath ks = .str s) :
    w.getPath ls = .str s := by
  obtain ⟨a, b, ha, hb, hab⟩ := eqValue_eq_true.mp h
  rw [getPath_of_path ha] at hv
  subst hv
  rw [getPath_of_path hb]
  exact str_strictEq.mp hab

theorem verifyEvidenceDossier_facts {P : Platform} {dossier : Value}
    (h : verifyEvidenceDossier P dossier = .ok true) : Nonempty (DossierFacts P dossier) := by
  obtain ⟨payload, -, h⟩ := bind_eq_ok.mp h
  obtain ⟨expected, -, h⟩ := bind_eq_ok.mp h
  simp only [andM_eq_true] at h
  obtain ⟨-, -, hdig, -, -, -, -, -, hbefore, hent, hcol⟩ := h
  obtain ⟨b, hb, hbefore⟩ := bind_eq_ok.mp hbefore
  obtain ⟨p, rfl⟩ := verifyTagProjection_eq_true.mp hbefore
  have hp := getPath_of_path hb
  have he : dossier.getPath ["before", "entityUrn"] = .str p.entityUrn := by
    rw [← p.entityUrn_eq, ← hp]; rfl
  have hc : dossier.getPath ["before", "columnPath"] = .str p.columnPath := by
    rw [← p.columnPath_eq, ← hp]; rfl
  exact ⟨⟨p, hp, eqValue_paths hent he, eqValue_paths hcol hc, expected,
    getPath_of_path (eqText_eq_true.mp hdig)⟩⟩

/-- The facts about an accepted plan that the executor relies on.  Of the arguments of the action
they name the first elements. -/
structure PlanFacts (P : Platform) (plan : Value) where
  before : TagProjection P
  after : TagProjection P
  tag : Value
  sorted : List Value
  before_eq : plan.getPath ["expectedBefore"] = before.value
  after_eq : plan.getPath ["expectedAfter"] = after.value
  tag_eq : (plan.getPath ["action", "arguments", "tag_urns"]).nth 0 = tag
  entityUrn_eq : (plan.getPath ["action", "arguments", "entity_urns"]).nth 0 = .str before.entityUrn
  columnPath_eq :
    (plan.getPath ["action", "arguments", "column_paths"]).nth 0 = .str before.columnPath
  after_entityUrn : after.entityUrn = before.entityUrn
  after_columnPath : after.columnPath = before.columnPath
  sorted_eq : uniqueSorted P (.arr (before.tags.map .str ++ [tag])) = .ok (.arr sorted)
  after_tags : stringify (.arr (after.tags.map .str)) = stringify (.arr sorted)
  unsigned : Canonicalizable (plan.rest ["planId", "digest"])
  digest_eq : ∃ d, plan.getPath ["digest"] = .str d
  actionId_eq : plan.getPath ["action", "actionId"] = lit "datahub.add-classification-tag.v1"
  tool_eq : plan.getPath ["action", "tool"] = lit "add_tags"
  inverse_tool_eq : plan.getPath ["action", "inverse", "tool"] = lit "remove_tags"
  inverse_eq : stringify (plan.getPath ["action", "arguments"])
    = stringify (plan.getPath ["action", "inverse", "arguments"])
  action_unsigned : Canonicalizable ((plan.getPath ["action"]).rest ["digest"])
  action_digest : plan.getPath ["action", "digest"]
    = .str (digestOf P ((plan.getPath ["action"]).rest ["digest"]))

theorem eqValue_index {v w : Value} {ks ls : List String} {i : Nat} {s : Text}
    (h : (eqValue (v.path ks) (do (← w.path ls).index i) : Run Bool) = .ok true)
    (hv : v.getPath ks = .str s) : (w.getPath ls).nth i = .str s := by
  obtain ⟨a, b, ha, hb, hab⟩ := eqValue_eq_true.mp h
  obtain ⟨u, hu, hb⟩ := bind_eq_ok.mp hb
  obtain ⟨-, rfl⟩ := index_eq_ok.mp hb
  rw [getPath_of_path ha] at hv
  subst hv
  rw [getPath_of_path hu]
  exact str_strictEq.mp hab

theorem verifyRemediationPlan_facts {P : Platform} {plan : Value}
    (h : verifyRemediationPlan P plan = .ok true) : Nonempty (PlanFacts P plan) := by
  obtain ⟨payload, hpayload, h⟩ := bind_eq_ok.mp h
  obtain ⟨-, rfl⟩ := without_eq_ok.mp hpayload
  obtain ⟨expected, hexpected, h⟩ := bind_eq_ok.mp h
  obtain ⟨hunsigned, -⟩ := digest_eq_ok.mp hexpected
  obtain ⟨tags, htags, h⟩ := bind_eq_ok.mp h
  obtain ⟨spread, hspread, h⟩ := bind_eq_ok.mp h
  obtain ⟨urns, hurns, h⟩ := bind_eq_ok.mp h
  obtain ⟨tag, htag, h⟩ := bind_eq_ok.mp h
  obtain ⟨sortedTags, hsorted, h⟩ := bind_eq_ok.mp h
  simp only [andM_eq_true] at h
  obtain ⟨-, -, hdig, -, -, -, haction, hid, htool, hinv, hargs, hbefore, hafter, hent, hcol,
    hent', hcol', htags'⟩ := h
  obtain ⟨b, hb, hbefore⟩ := bind_eq_ok.mp hbefore
  obtain ⟨before, rfl⟩ := verifyTagProjection_eq_true.mp hbefore
  obtain ⟨a, ha, hafter⟩ := bind_eq_ok.mp hafter
  obtain ⟨after, rfl⟩ := verifyTagProjection_eq_true.mp hafter
  have hbp := getPath_of_path hb
  have hap := getPath_of_path ha
  have hbe : plan.getPath ["expectedBefore", "entityUrn"] = .str before.entityUrn := by
    rw [← before.entityUrn_eq, ← hbp]; rfl
  have hbc : plan.getPath ["expectedBefore", "columnPath"] = .str before.columnPath := by
    rw [← before.columnPath_eq, ← hbp]; rfl
  have hae : plan.getPath ["expectedAfter", "entityUrn"] = .str after.entityUrn := by
    rw [← after.entityUrn_eq, ← hap]; rfl
  have hac : plan.getPath ["expectedAfter", "columnPath"] = .str after.columnPath := by
    rw [← after.columnPath_eq, ← hap]; rfl
  have hbt : tags = .arr (before.tags.map .str) := by
    rw [← getPath_of_path htags, ← before.tags_eq, ← hbp]; rfl
  subst hbt
  obtain rfl := Except.ok.inj hspread
  obtain ⟨sorted, rfl⟩ := uniqueSorted_arr hsorted
  obtain ⟨action, hact, haction⟩ := bind_eq_ok.mp haction
  obtain ⟨payload', hpay, haction⟩ := bind_eq_ok.mp haction
  obtain ⟨-, rfl⟩ := without_eq_ok.mp hpay
  obtain ⟨d, hd, haction⟩ := bind_eq_ok.mp haction
  obtain ⟨hcan, rfl⟩ := verifyDigest_eq_true.mp haction
  obtain ⟨args, hargs₁, hargs⟩ := bind_eq_ok.mp hargs
  obtain ⟨iargs, hargs₂, hargs⟩ := bind_eq_ok.mp hargs
  obtain ⟨at', hat, htags'⟩ := bind_eq_ok.mp htags'
  have hat' : at' = .arr (after.tags.map .str) := by
    rw [← getPath_of_path hat, ← after.tags_eq, ← hap]; rfl
  subst hat'
  have hactp := getPath_of_path hact
  exact ⟨{
    before, after, tag, sorted
    before_eq := hbp
    after_eq := hap
    tag_eq := by rw [getPath_of_path hurns]; exact (index_eq_ok.mp htag).2
    entityUrn_eq := eqValue_index hent hbe
    columnPath_eq := eqValue_index hcol hbc
    after_entityUrn := by
      have h := eqValue_paths hent' hae
      rw [hbe] at h
      exact (Value.str.inj h).symm
    after_columnPath := by
      have h := eqValue_paths hcol' hac
      rw [hbc] at h
      exact (Value.str.inj h).symm
    sorted_eq := hsorted
    after_tags := by simpa using htags'
    unsigned := hunsigned
    digest_eq := ⟨expected, getPath_of_path (eqText_eq_true.mp hdig)⟩
    actionId_eq := getPath_of_path (eqText_eq_true.mp hid)
    tool_eq := getPath_of_path (eqText_eq_true.mp htool)
    inverse_tool_eq := getPath_of_path (eqText_eq_true.mp hinv)
    inverse_eq := by
      rw [getPath_of_path hargs₁, getPath_of_path hargs₂]
      simpa using hargs
    action_unsigned := by rw [hactp]; exact hcan
    action_digest := by
      have h := getPath_of_path hd
      rw [← hactp] at h
      exact h }⟩

section PlanFacts

variable {P : Platform} {plan : Value}

theorem PlanFacts.before_entityUrn (p : PlanFacts P plan) :
    plan.getPath ["expectedBefore", "entityUrn"] = .str p.before.entityUrn := by
  rw [← p.before.entityUrn_eq, ← p.before_eq]
  rfl

theorem PlanFacts.before_columnPath (p : PlanFacts P plan) :
    plan.getPath ["expectedBefore", "columnPath"] = .str p.before.columnPath := by
  rw [← p.before.columnPath_eq, ← p.before_eq]
  rfl

theorem PlanFacts.before_tags (p : PlanFacts P plan) :
    plan.getPath ["expectedBefore", "tags"] = .arr (p.before.tags.map .str) := by
  rw [← p.before.tags_eq, ← p.before_eq]
  rfl

/-- **The state after has the tags of the state before and the action's first one**, which is a
string. -/
theorem PlanFacts.mem_after (p : PlanFacts P plan) (htag : IsJson p.tag) :
    ∃ t, p.tag = .str t ∧ ∀ u, u ∈ p.after.tags ↔ u ∈ p.before.tags ∨ u = t :=
  mem_of_uniqueSorted htag p.sorted_eq p.after_tags

/-- The action has a canonical text, its digest included. -/
theorem PlanFacts.action_canonical (p : PlanFacts P plan) :
    Canonicalizable (plan.getPath ["action"]) := by
  have hne : plan.getPath ["action"] ≠ .undefined := by
    intro h
    have hid := p.actionId_eq
    rw [getPath_pair, h] at hid
    cases hid
  obtain ⟨fields, rfl⟩ : ∃ fields, plan = .obj fields :=
    obj_of_get (js "action") hne (by decide) (by decide)
  have hrest : ((Value.obj fields).rest ["planId", "digest"]).getPath ["action"]
      = (Value.obj fields).getPath ["action"] := by
    rw [getPath_cons, getPath_nil, get_rest _ (by decide)]
    rfl
  rw [← hrest] at hne ⊢
  exact Everywhere.getPath p.unsigned hne (by decide) (by decide)

end PlanFacts

end Remediation
