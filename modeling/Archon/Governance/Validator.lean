/-
# The governance rules

`GovernanceValidator` holds every entity of a snapshot against six rules, and `GovernanceAuditorAgent`
makes a finding of each rule that is not passed.  Five of the rules look at the entity alone; the fourth
asks for the downstream of a deprecated entity, and where that is not known it throws instead of passing.

A finding names its entity and its rule, so that a snapshot in which an entity stands once has each of
its findings once (`nodup_audit`).
-/
import Archon.Harvest.Pages
import Archon.Lineage.Snapshot
import Archon.Report.Classifier
import Archon.Report.Findings
import Mathlib.Data.List.ProdSigma

namespace Governance

open Ecma Ecma.Value Harvest Lineage
open Report (AuditFinding DEFAULT_SENSITIVE_FIELD_HINTS Severity formatCount looksSensitive)

/-! ## 1. The policy -/

/-- `GovernancePolicy`. -/
structure GovernancePolicy where
  sensitiveFieldHints : List Text
  acceptedClassificationTagIdentifiers : List Text
  acceptedClassificationTermIdentifiers : List Text

/-- `DEFAULT_GOVERNANCE_POLICY`. -/
def DEFAULT_GOVERNANCE_POLICY : GovernancePolicy where
  sensitiveFieldHints := DEFAULT_SENSITIVE_FIELD_HINTS.map js
  acceptedClassificationTagIdentifiers := [js "PII", js "pii", js "urn:li:tag:PII"]
  acceptedClassificationTermIdentifiers :=
    [js "PII", js "pii", js "Classification.PII", js "urn:li:glossaryTerm:Classification.PII"]

/-- `CompiledGovernancePolicy`. -/
structure CompiledGovernancePolicy where
  sensitiveFieldHints : List Text
  acceptedClassificationTagIdentifiers : JsSet Text
  acceptedClassificationTermIdentifiers : JsSet Text

/-- The members of a list, once each. -/
def setOf (values : List Text) : JsSet Text := values.foldl JsSet.add .empty

/-- `compileSensitiveFieldHints`, or the text of its `TypeError`. -/
def compileSensitiveFieldHints (L : Audit.Language) (values : List Text) : Except Text (List Text) :=
  if values = [] then
    .error (js "GovernancePolicy.sensitiveFieldHints must contain at least one hint.")
  else if values.any fun value => (trim value).isEmpty then
    .error (js "GovernancePolicy.sensitiveFieldHints must contain only non-empty strings.")
  else .ok (setOf (values.map fun value => L.toLowerCase (trim value))).keys

/-- `[\u0000-\u001f\u007f]`. -/
def isControlUnit (u : UInt16) : Bool := u ≤ 0x1F || u == 0x7F

/-- An identifier that is taken as it stands. -/
def isExactIdentifier (value : Text) : Bool :=
  !value.isEmpty && decide (value = trim value) && !value.any isControlUnit

/-- `compileExactIdentifiers(values, property)`. -/
def compileExactIdentifiers (values : List Text) (property : String) : Except Text (JsSet Text) :=
  if values.all isExactIdentifier then .ok (setOf values)
  else .error (js "GovernancePolicy." ++ js property ++ js " must contain only non-empty, exact identifiers.")

/-- `compileGovernancePolicy`. -/
def compileGovernancePolicy (L : Audit.Language) (policy : GovernancePolicy) :
    Except Text CompiledGovernancePolicy := do
  let tags ← compileExactIdentifiers policy.acceptedClassificationTagIdentifiers
    "acceptedClassificationTagIdentifiers"
  let terms ← compileExactIdentifiers policy.acceptedClassificationTermIdentifiers
    "acceptedClassificationTermIdentifiers"
  if tags.keys.isEmpty && terms.keys.isEmpty then
    .error (js "GovernancePolicy must accept at least one classification tag or term identifier.")
  let hints ← compileSensitiveFieldHints L policy.sensitiveFieldHints
  return ⟨hints, tags, terms⟩

/-- The default policy passes its own checks. -/
theorem default_compiles (L : Audit.Language) :
    (compileGovernancePolicy L DEFAULT_GOVERNANCE_POLICY).toOption.isSome = true := by
  have htags : (DEFAULT_GOVERNANCE_POLICY.acceptedClassificationTagIdentifiers.all isExactIdentifier) = true := by
    decide
  have hterms :
      (DEFAULT_GOVERNANCE_POLICY.acceptedClassificationTermIdentifiers.all isExactIdentifier) = true := by
    decide
  have hhints : (DEFAULT_GOVERNANCE_POLICY.sensitiveFieldHints.any fun value => (trim value).isEmpty) = false := by
    decide
  have hnil : DEFAULT_GOVERNANCE_POLICY.sensitiveFieldHints ≠ [] := by decide
  have hkeys : (setOf DEFAULT_GOVERNANCE_POLICY.acceptedClassificationTagIdentifiers).keys.isEmpty = false := by
    decide
  rw [compileGovernancePolicy, compileExactIdentifiers, compileExactIdentifiers, if_pos htags, if_pos hterms]
  simp only [compileSensitiveFieldHints, if_neg hnil, hhints]
  simp only [bind, Except.bind, pure, Except.pure, hkeys]
  rfl

/-- The policy of an agent that is given none. -/
def defaultPolicy (L : Audit.Language) : CompiledGovernancePolicy :=
  (compileGovernancePolicy L DEFAULT_GOVERNANCE_POLICY).toOption.get (default_compiles L)

/-! ## 2. The rules -/

/-- The rules. -/
inductive RuleId where
  | G1
  | G2
  | G3
  | G4
  | G5
  | G6
deriving DecidableEq

/-- The name of a rule. -/
def RuleId.text : RuleId → Text
  | .G1 => js "G1"
  | .G2 => js "G2"
  | .G3 => js "G3"
  | .G4 => js "G4"
  | .G5 => js "G5"
  | .G6 => js "G6"

/-- `GovernanceResult`. -/
structure GovernanceResult where
  rule : String
  ruleId : RuleId
  subject : Text
  passed : Bool
  severity : Severity
  message : Text
  /-- `evidence ?? {}`. -/
  evidence : List (String × Value)

/-- The result of a rule, which is `low` where the rule is passed. -/
def judged (e : CatalogEntity) (ruleId : RuleId) (rule : String) (passed : Bool) (otherwise : Severity)
    (message : Text) (evidence : List (String × Value) := []) : GovernanceResult where
  rule := rule
  ruleId := ruleId
  subject := e.urn
  passed := passed
  severity := if passed then .low else otherwise
  message := message
  evidence := evidence

/-- `texts.join(", ")`. -/
def joined (texts : List Text) : Text := (js ", ").intercalate texts

/-- `g1`. -/
def g1 (e : CatalogEntity) : GovernanceResult :=
  let owners := e.owners.getD []
  let passed := decide (0 < owners.length)
  judged e .G1 "G1: dataset has an owner" passed .high
    (if passed then js "Owned by " ++ joined owners ++ js "."
    else js "No owner assigned — ungoverned asset (ownership aspect empty).")

/-- `g2`. -/
def g2 (e : CatalogEntity) : GovernanceResult :=
  let domain := (e.domain.getD none).getD []
  let passed := !domain.isEmpty
  judged e .G2 "G2: dataset is assigned to a domain" passed .medium
    (if passed then js "In domain " ++ domain ++ js "."
    else js "No domain assigned (domains aspect empty).")

/-- `g3`. -/
def g3 (e : CatalogEntity) : GovernanceResult :=
  let desc := trim ((e.description.getD none).getD [])
  let passed := decide (0 < desc.length)
  judged e .G3 "G3: dataset has a description" passed .medium
    (if passed then js "Documented (" ++ decimalText desc.length ++ js " chars)."
    else js "No description — undocumented asset.")

/-- The direct consumers that are not deprecated. -/
def activeConsumers (topology : List LineageTopologyNode) : List Text :=
  (topology.filter fun node => node.minHops == 1 && !node.deprecated).map (·.urn)

/-- `g4`.  Where the downstream is not known the rule is not passed: it throws. -/
def g4 (e : CatalogEntity) (snapshot : CatalogSnapshot) : Client GovernanceResult :=
  let rule := "G4: deprecated dataset has no active downstream"
  if e.deprecated.getD false = false then
    .ok (judged e .G4 rule true .high (js "Not deprecated — skipped."))
  else
    match snapshot.downstreamByRoot.get e.urn with
    | none => Harvest.fail .lineageResponseIncomplete
        (js "Complete downstream lineage is required to evaluate G4.")
    | some topology =>
      let consumers := activeConsumers topology
      let passed := consumers.isEmpty
      .ok (judged e .G4 rule passed .high
        (if passed then js "Deprecated with no active downstream consumers."
        else js "Deprecated but still feeds " ++ formatCount consumers.length "active consumer" ++ js ": "
          ++ joined consumers ++ js "."))

/-- `g5`. -/
def g5 (e : CatalogEntity) : GovernanceResult :=
  let rule := "G5: every schema field has a type"
  let fields := e.fields.getD []
  if fields.isEmpty then judged e .G5 rule true .medium (js "No schema fields — skipped.")
  else
    let untyped := (fields.filter fun f => (trim (f.type.getD [])).isEmpty).map (·.path)
    let passed := untyped.isEmpty
    judged e .G5 rule passed .medium
      (if passed then js "All " ++ formatCount fields.length "field" ++ js " typed."
      else formatCount untyped.length "field" ++ js " missing a type: " ++ joined untyped ++ js ".")

/-- `texts.sort()`. -/
def sorted (texts : List Text) : List Text := texts.insertionSort fun s t => codeUnitLe s t = true

/-- Has the field a classification that is accepted? -/
def isClassified (policy : CompiledGovernancePolicy) (f : SchemaField) : Bool :=
  ((f.tags.getD []).any fun identifier => policy.acceptedClassificationTagIdentifiers.has identifier)
    || (f.glossaryTerms.getD []).any fun identifier =>
      policy.acceptedClassificationTermIdentifiers.has identifier

/-- `g6`.  The evidence is sorted, the message is not. -/
def g6 (L : Audit.Language) (e : CatalogEntity) (policy : CompiledGovernancePolicy) : GovernanceResult :=
  let rule := "G6: sensitive fields carry a governance classification"
  let sensitive := (e.fields.getD []).filter fun f => looksSensitive L f.path policy.sensitiveFieldHints
  if sensitive.isEmpty then judged e .G6 rule true .high (js "No sensitive fields detected — skipped.")
  else
    let unclassified := (sensitive.filter fun f => !isClassified policy f).map (·.path)
    let passed := unclassified.isEmpty
    judged e .G6 rule passed .high
      (if passed then js "All " ++ formatCount sensitive.length "sensitive field" ++ js " classified."
      else formatCount unclassified.length "sensitive field"
        ++ (if unclassified.length = 1 then js " lacks" else js " lack")
        ++ js " an accepted classification tag/term: " ++ joined unclassified ++ js ".")
      [("sensitiveFields", .arr ((sorted (sensitive.map (·.path))).map .str)),
        ("unclassifiedFields", .arr ((sorted unclassified).map .str))]

/-! ## 3. The validator and the agent -/

section Audit

variable (L : Audit.Language) (policy : CompiledGovernancePolicy) (snapshot : CatalogSnapshot)

/-- `validateEntityWithPolicy`. -/
def validateEntityWithPolicy (e : CatalogEntity) : Client (List GovernanceResult) := do
  return [g1 e, g2 e, g3 e, ← g4 e snapshot, g5 e, g6 L e policy]

/-- `validate`. -/
def validate : Client (List GovernanceResult) := do
  return (← snapshot.entities.mapM (validateEntityWithPolicy L policy snapshot)).flatten

/-- The finding of a rule that is not passed. -/
def violation (r : GovernanceResult) : AuditFinding where
  type := .governanceViolation
  severity := r.severity
  subject := r.subject
  summary := r.ruleId.text ++ js ": " ++ r.message
  detail := [("rule", lit r.rule), ("ruleId", .str r.ruleId.text)] ++ r.evidence
  recommendation := some (js "Remediate " ++ r.ruleId.text ++ js " (" ++ js r.rule
    ++ js "). Read-only — a steward decides.")

/-- `audit`. -/
def audit : Client (List AuditFinding) := do
  return ((← validate L policy snapshot).filter fun r => !r.passed).map violation

/-! ### What is found is found once -/

variable {L policy snapshot}

/-- The rules in the order in which an entity is held against them. -/
def RULES : List RuleId := [.G1, .G2, .G3, .G4, .G5, .G6]

/-- The entity and the rule that a result is about. -/
def GovernanceResult.key (r : GovernanceResult) : Text × RuleId := (r.subject, r.ruleId)

theorem key_g5 (e : CatalogEntity) : (g5 e).key = (e.urn, .G5) := by
  rw [g5]
  split <;> rfl

theorem key_g6 (e : CatalogEntity) : (g6 L e policy).key = (e.urn, .G6) := by
  rw [g6]
  split <;> rfl

theorem key_g4 {e : CatalogEntity} {r : GovernanceResult} (h : g4 e snapshot = .ok r) :
    r.key = (e.urn, .G4) := by
  rw [g4] at h
  split at h
  · obtain rfl := Except.ok.inj h
    rfl
  · cases htopology : snapshot.downstreamByRoot.get e.urn with
    | none =>
      rw [htopology] at h
      cases h
    | some topology =>
      rw [htopology] at h
      obtain rfl := Except.ok.inj h
      rfl

/-- Each entity is held against every rule. -/
theorem keys_validateEntityWithPolicy {e : CatalogEntity} {rs : List GovernanceResult}
    (h : validateEntityWithPolicy L policy snapshot e = .ok rs) :
    rs.map GovernanceResult.key = RULES.map fun rule => (e.urn, rule) := by
  obtain ⟨r, hr, heq⟩ := bind_eq_ok.mp h
  obtain rfl := Except.ok.inj heq
  simp only [List.map_cons, List.map_nil, key_g4 hr, key_g5, key_g6, RULES]
  rfl

theorem keys_validate {rs : List GovernanceResult} (h : validate L policy snapshot = .ok rs) :
    rs.map GovernanceResult.key = (snapshot.entities.map (·.urn)).product RULES := by
  obtain ⟨rss, hrss, heq⟩ := bind_eq_ok.mp h
  obtain rfl := Except.ok.inj heq
  have hall := Audit.mapM_eq_ok.mp hrss
  clear hrss heq h
  generalize snapshot.entities = entities at hall ⊢
  induction hall with
  | nil => rfl
  | cons hr _ ih =>
    rw [List.flatten_cons, List.map_append, keys_validateEntityWithPolicy hr, ih]
    rfl

/-- The finding says which entity and which rule it is about. -/
theorem key_eq_of_violation_eq {r r' : GovernanceResult} (h : violation r = violation r') : r.key = r'.key := by
  have hsubject : r.subject = r'.subject := congrArg AuditFinding.subject h
  have hrule : r.ruleId.text = r'.ruleId.text := by
    have hdetail := congrArg (fun f : AuditFinding => f.detail.lookup "ruleId") h
    exact Value.str.inj (Option.some.inj hdetail)
  have htext : ∀ i j : RuleId, i.text = j.text → i = j := by
    intro i j
    cases i <;> cases j <;> decide
  rw [GovernanceResult.key, GovernanceResult.key, hsubject, htext _ _ hrule]

/-- **No violation is found twice**, where each entity stands once. -/
theorem nodup_audit {found : List AuditFinding} (hdistinct : (snapshot.entities.map (·.urn)).Nodup)
    (h : audit L policy snapshot = .ok found) : found.Nodup := by
  obtain ⟨rs, hrs, heq⟩ := bind_eq_ok.mp h
  obtain rfl := Except.ok.inj heq
  have hkeys : (rs.map GovernanceResult.key).Nodup := by
    rw [keys_validate hrs]
    exact hdistinct.product (by decide)
  refine List.pairwise_map.mpr ((List.Pairwise.of_map GovernanceResult.key (fun _ _ hne => hne) hkeys).filter _
    |>.imp ?_)
  intro r r' hne heq
  exact hne (key_eq_of_violation_eq heq)

/-- What is found are violations. -/
theorem type_of_mem_audit {found : List AuditFinding} (h : audit L policy snapshot = .ok found) :
    ∀ f ∈ found, f.type = .governanceViolation := by
  obtain ⟨rs, -, heq⟩ := bind_eq_ok.mp h
  obtain rfl := Except.ok.inj heq
  intro f hf
  obtain ⟨r, -, rfl⟩ := List.mem_map.mp hf
  rfl

end Audit

end Governance
