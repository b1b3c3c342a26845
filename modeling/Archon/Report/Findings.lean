/-
# The findings of a report

`LineageAnalyzerAgent` makes a finding of every contradiction and of every absence, from the facts of a
harvest and from those of its version histories.  `AuditPipeline` keeps the first of two findings about
one attribute, adds what the governance rules find, gives each finding its blast radius, and sorts.

The values that a contradiction is about stand in three places of its finding: in the summary, in the
recommendation and in the detail.
-/
import Archon.Audit.Resolution

namespace Report

open Ecma Ecma.Value Remediation Audit

/-! ## 1. Findings -/

/-- `FindingType`. -/
inductive FindingType where
  | contradiction
  | lineageGap
  | governanceViolation
deriving DecidableEq

/-- The name of a type. -/
def FindingType.text : FindingType → Text
  | .contradiction => js "contradiction"
  | .lineageGap => js "lineage_gap"
  | .governanceViolation => js "governance_violation"

/-- `Severity`. -/
inductive Severity where
  | low
  | medium
  | high
deriving DecidableEq

/-- The name of a severity. -/
def Severity.text : Severity → Text
  | .low => js "low"
  | .medium => js "medium"
  | .high => js "high"

/-- `sev`. -/
def sev : Severity → Nat
  | .high => 3
  | .medium => 2
  | .low => 1

/-- `Finding`, of the audit. -/
structure AuditFinding where
  type : FindingType
  severity : Severity
  subject : Text
  summary : Text
  detail : List (String × Value)
  recommendation : Option Text

/-- The object that a finding is. -/
def AuditFinding.value (f : AuditFinding) : Value :=
  object ([("type", .str f.type.text), ("severity", .str f.severity.text), ("subject", .str f.subject),
      ("summary", .str f.summary), ("detail", object f.detail)]
    ++ f.recommendation.toList.map fun t => ("recommendation", .str t))

/-! ## 2. The lineage analyzer -/

/-- `formatCount`. -/
def formatCount (count : Nat) (singular : String) : Text :=
  decimalText count ++ js " " ++ js singular ++ if count = 1 then [] else js "s"

/-- An entry of `values`. -/
def listedEntry (v : ListedValue) : Value :=
  object [("factId", .str v.factId), ("source", .str v.source), ("value", v.value),
    ("createdAt", .str v.createdAt)]

/-- `resolution`, as an object. -/
def resolutionEntry (r : Resolution) : Value :=
  object [("recommendedFactId", .str r.recommendedFactId), ("recommendedValue", r.recommendedValue),
    ("rule", lit r.rule.text), ("confidence", .num r.confidence), ("rationale", .str r.rationale)]

/-- A value and who gives it. -/
def shownValue (v : ListedValue) : Text := stringified v.value ++ js " (" ++ v.source ++ js ")"

/-- The summary of a contradiction. -/
def contradictionSummary (subject attr : Text) (values : List ListedValue) : Text :=
  js "Sources disagree on '" ++ attr ++ js "' for " ++ subject ++ js ": "
    ++ (js " vs ").intercalate (values.map shownValue) ++ js "."

/-- The recommendation of a contradiction. -/
def contradictionRecommendation (r : Resolution) : Text :=
  r.rationale ++ js " (recommended: " ++ stringified r.recommendedValue ++ js ", confidence "
    ++ r.confidence.text ++ js "). Read-only — a steward decides."

/-- `contradictionFinding`, with the resolution. -/
def contradictionFinding (c : Contradiction) (r : Resolution) : AuditFinding where
  type := .contradiction
  severity := if c.attr = js "fieldType" then .high else .medium
  subject := c.subject
  summary := contradictionSummary c.subject c.attr c.values
  detail := [("attribute", .str c.attr), ("values", .arr (c.values.map listedEntry)),
    ("resolution", resolutionEntry r)]
  recommendation := some (contradictionRecommendation r)

/-- The finding of an absence. -/
def gapFinding (a : Absence) : AuditFinding where
  type := .lineageGap
  severity := .medium
  subject := a.subject
  summary := js "Declared upstream " ++ a.subject
    ++ js " is not catalogued — a dangling lineage edge (schema-break risk to "
    ++ formatCount a.referencedBy.length "downstream consumer" ++ js ")."
  detail := [("referencedBy", .arr (a.referencedBy.map fun r =>
    object [("factId", .str r.1), ("source", .str r.2)]))]
  recommendation := some (js "Ingest " ++ a.subject
    ++ js " or correct the lineage declaration. Read-only — a steward decides.")

section Analyzer

variable (P : Platform)

/-- `toFindings`.  A contradiction that is reported has a resolution. -/
def toFindings (r : ConsistencyReport) : List AuditFinding :=
  r.contradictions.filterMap (fun c => (c.resolution P).map (contradictionFinding c))
    ++ r.absences.map gapFinding

/-- `analyze`. -/
def analyze (facts : List AuditFact) : List AuditFinding :=
  toFindings P (auditConsistency ⟨none, false⟩ facts)

/-- `analyzeVersionHistory`, of the facts that the histories are made into. -/
def analyzeVersions (facts : List AuditFact) : List AuditFinding :=
  toFindings P (auditConsistency ⟨none, true⟩ facts)

end Analyzer

/-! ## 3. The pipeline -/

/-- The key of `dedupeFindings`. -/
def AuditFinding.key (f : AuditFinding) : Text :=
  f.type.text ++ js "␟" ++ f.subject ++ js "␟"
    ++ match (f.detail.lookup "attribute").getD .undefined with
      | .str t => t
      | _ => []

local instance : LawfulBEq Text := inferInstance

/-- The findings whose key has not been seen before. -/
def unseen : (seen : List Text) → List AuditFinding → List AuditFinding
  | _, [] => []
  | seen, f :: fs => if f.key ∈ seen then unseen seen fs else f :: unseen (f.key :: seen) fs

/-- `dedupeFindings`. -/
def dedupeFindings (findings : List AuditFinding) : List AuditFinding := unseen [] findings

/-- What is harvested: facts, and the facts of the version histories. -/
structure Harvest where
  facts : List AuditFact
  versions : List AuditFact

/-- What a report depends on beyond the facts. -/
structure Surroundings where
  P : Platform
  /-- What `GovernanceAuditorAgent` finds in the snapshot. -/
  governance : List AuditFinding
  /-- `computeBlastRadius(snapshot, subject)`. -/
  blastRadius : Text → Value

section Pipeline

variable (S : Surroundings)

/-- `lineageFindings`. -/
def lineageFindings (h : Harvest) : List AuditFinding :=
  dedupeFindings (analyze S.P h.facts ++ analyzeVersions S.P h.versions)

/-- `{ ...detail, blastRadius }`. -/
def withRadius (f : AuditFinding) : AuditFinding :=
  { f with detail := f.detail.filter (fun e => e.1 ≠ "blastRadius")
      ++ [("blastRadius", S.blastRadius f.subject)] }

/-- The higher severity first, then by type and by subject. -/
def goesFirst (f g : AuditFinding) : Bool :=
  if sev f.severity ≠ sev g.severity then sev g.severity < sev f.severity
  else (S.P.localeCompare f.type.text g.type.text).then (S.P.localeCompare f.subject g.subject) ≠ .gt

/-- The findings of a report. -/
def reportFindings (h : Harvest) : List AuditFinding :=
  ((lineageFindings S h ++ S.governance).map (withRadius S)).insertionSort
    fun f g => goesFirst S f g = true

/-- A report of `runWithinDeadline`: the other members do not come from the facts, or are not looked at
here. -/
def auditReport (h : Harvest) (scanId classification narrative modelProvenance trace : Value) : Value :=
  object [("schemaVersion", lit "archon.audit-report/v1"), ("scanId", scanId),
    ("classification", classification), ("findings", .arr ((reportFindings S h).map AuditFinding.value)),
    ("narrative", narrative), ("modelProvenance", modelProvenance), ("trace", trace)]

end Pipeline

end Report
