/-
# The facts of a harvest

`entityToFacts` of `audit/harvest.ts` turns what a source reported of one entity into facts, one for
each aspect that has a comparable value; the lineage fact has no value, only the upstreams that were not
resolved.

The audit takes a subject to be there if a fact is about it.  An entity of which no aspect has a value
is therefore not there (`described_iff`), whether it is catalogued or not.
-/
import Archon.Audit.History
import Archon.Lineage.Snapshot

namespace Audit

open Ecma Ecma.Value Lineage

/-! ## 1. Facts -/

/-- A fact of a report about a record. -/
def reportFact (report : SourceReport) (record : Text) (kind attr : String) (value : Value)
    (hattr : js attr ≠ js "record") : AuditFact :=
  versionFact report.source report.createdAt
    (report.scanId ++ js ":" ++ record ++ js ":" ++ js kind) kind record attr value hattr

/-- `primaryOwner`. -/
def primaryOwner (e : CatalogEntity) : Option Text := (e.owners.getD []).head?

/-- The domain, if it is not empty. -/
def domainOf (e : CatalogEntity) : Option Text := (e.domain.getD none).filter fun t => !t.isEmpty

/-- The fields that have a type. -/
def typedFields (e : CatalogEntity) : List (Text × Text) :=
  (e.fields.getD []).filterMap fun f => (f.type.filter nonBlank).map fun type => (f.path, type)

/-- The upstreams of an entity. -/
def upstreamsOf (e : CatalogEntity) : List LineageEdge := e.upstreams.getD []

/-- The upstreams that are not resolved. -/
def unresolvedOf (e : CatalogEntity) : List Urn :=
  ((upstreamsOf e).filter fun edge => !edge.upstreamResolved).map LineageEdge.upstream

/-- The subject of a field. -/
def fieldRecord (e : CatalogEntity) (path : Text) : Text := e.urn ++ js "#" ++ path

/-- The lineage fact, if there are upstreams. -/
def lineageFact (report : SourceReport) : List AuditFact :=
  if upstreamsOf report.entity = [] then []
  else [reportFact report report.entity.urn "lineage" "refs"
    (.arr ((unresolvedOf report.entity).map Value.str)) (by decide)]

/-- The facts that have a value. -/
def valueFacts (report : SourceReport) : List AuditFact :=
  let entity := report.entity
  ((primaryOwner entity).toList.map fun owner =>
      reportFact report entity.urn "ownership" "owner" (.str owner) (of_decide_eq_false rfl))
    ++ ((domainOf entity).toList.map fun domain =>
      reportFact report entity.urn "domain" "domain" (.str domain) (of_decide_eq_false rfl))
    ++ (entity.deprecated.toList.map fun deprecated =>
      reportFact report entity.urn "deprecation" "deprecated" (.bool deprecated) (of_decide_eq_false rfl))
    ++ ((typedFields entity).map fun f =>
      reportFact report (fieldRecord entity f.1) "schema" "fieldType" (.str f.2) (of_decide_eq_false rfl))

/-- `entityToFacts`. -/
def entityToFacts (report : SourceReport) : List AuditFact := valueFacts report ++ lineageFact report

/-- `reportsToFacts`. -/
def reportsToFacts (reports : List SourceReport) : List AuditFact := reports.flatMap entityToFacts

/-! ## 2. What is there -/

section There

variable {report : SourceReport} {reports : List SourceReport} {facts : List AuditFact} {m : AuditFact}
  {record u : Text} {kind attr : String} {value : Value} {hattr : js attr ≠ js "record"}

theorem subjectKey_reportFact : (reportFact report record kind attr value hattr).subjectKey = some u
    ↔ u = record ∧ u ≠ [] := by
  have hget : (reportFact report record kind attr value hattr).get "record" = .str record := by
    simp [reportFact, versionFact, AuditFact.get]
  rw [AuditFact.subjectKey, hget]
  cases record with
  | nil => simp [reportFact, versionFact]
  | cons c cs =>
    simp only [List.isEmpty_cons, Bool.false_eq_true, if_false, Option.some.injEq]
    constructor
    · rintro rfl
      exact ⟨rfl, List.cons_ne_nil c cs⟩
    · exact fun h => h.1.symm

theorem refsOf_reportFact (hrefs : js attr ≠ js "refs") :
    refsOf (reportFact report record kind attr value hattr) = [] := by
  have hkey : js "record" ≠ js "refs" := by decide
  simp [refsOf, reportFact, versionFact, AuditFact.get, hrefs, hkey]

theorem refsOf_lineage {urns : List Urn} {hattr : js "refs" ≠ js "record"} :
    refsOf (reportFact report record kind "refs" (.arr (urns.map Value.str)) hattr)
      = urns.filter fun urn => !urn.isEmpty := by
  have hget : (reportFact report record kind "refs" (.arr (urns.map Value.str)) hattr).get "refs"
      = .arr (urns.map Value.str) := by
    have hkey : js "record" ≠ js "refs" := by decide
    simp [reportFact, versionFact, AuditFact.get, hkey]
  rw [refsOf, hget]
  change (urns.map Value.str).filterMap _ = _
  rw [List.filterMap_map, ← List.filterMap_eq_filter]
  refine List.filterMap_congr fun urn _ => ?_
  cases urn <;> rfl

/-- **A fact that has a value is about its record**, and refers to nothing. -/
theorem mem_valueFacts (h : m ∈ valueFacts report) : ∃ record kind attr value,
    ∃ hattr : js attr ≠ js "record", m = reportFact report record kind attr value hattr
      ∧ Plain value ∧ js attr ≠ js "refs" ∧ js kind ≠ js "insight" := by
  rcases List.mem_append.mp h with h | h
  · rcases List.mem_append.mp h with h | h
    · rcases List.mem_append.mp h with h | h
      · obtain ⟨owner, -, rfl⟩ := List.mem_map.mp h
        exact ⟨_, _, _, _, _, rfl, trivial, by decide, by decide⟩
      · obtain ⟨domain, -, rfl⟩ := List.mem_map.mp h
        exact ⟨_, _, _, _, _, rfl, trivial, by decide, by decide⟩
    · obtain ⟨deprecated, -, rfl⟩ := List.mem_map.mp h
      exact ⟨_, _, _, _, _, rfl, trivial, by decide, by decide⟩
  · obtain ⟨f, -, rfl⟩ := List.mem_map.mp h
    exact ⟨_, _, _, _, _, rfl, trivial, by decide, by decide⟩

theorem refsOf_valueFacts (h : m ∈ valueFacts report) : refsOf m = [] := by
  obtain ⟨record, kind, attr, value, hattr, rfl, -, hrefs, -⟩ := mem_valueFacts h
  exact refsOf_reportFact hrefs

/-- What a report refers to: its upstreams that are not resolved. -/
theorem refs_entityToFacts : (∃ m ∈ entityToFacts report, u ∈ refsOf m)
    ↔ u ∈ unresolvedOf report.entity ∧ u ≠ [] := by
  constructor
  · rintro ⟨m, hm, hu⟩
    rcases List.mem_append.mp hm with hm | hm
    · rw [refsOf_valueFacts hm] at hu
      cases hu
    · rw [lineageFact] at hm
      split at hm
      case isTrue => cases hm
      case isFalse =>
        obtain rfl := List.mem_singleton.mp hm
        rw [refsOf_lineage] at hu
        obtain ⟨hu, hne⟩ := List.mem_filter.mp hu
        exact ⟨hu, by simpa using hne⟩
  · rintro ⟨hu, hne⟩
    have hsome : upstreamsOf report.entity ≠ [] := by
      intro hnil
      rw [unresolvedOf, hnil] at hu
      cases hu
    refine ⟨_, List.mem_append_right _ (by rw [lineageFact, if_neg hsome]; exact List.mem_singleton_self _), ?_⟩
    rw [refsOf_lineage]
    exact List.mem_filter.mpr ⟨hu, by simpa using hne⟩

/-- An entity that has a value of its own, or upstreams. -/
def Described (e : CatalogEntity) : Prop :=
  primaryOwner e ≠ none ∨ domainOf e ≠ none ∨ e.deprecated ≠ none ∨ upstreamsOf e ≠ []

/-- **What a report has facts about**: its entity, if it is described, and the fields with a type. -/
theorem described_iff : (∃ m ∈ entityToFacts report, m.subjectKey = some u) ↔ u ≠ [] ∧
    (u = report.entity.urn ∧ Described report.entity
      ∨ ∃ f ∈ typedFields report.entity, u = fieldRecord report.entity f.1) := by
  have hoption : ∀ {α : Type} {o : Option α}, (∃ a, o = some a) ↔ o ≠ none :=
    Option.ne_none_iff_exists'.symm
  have hlineage : (∃ m ∈ lineageFact report, m.subjectKey = some u)
      ↔ upstreamsOf report.entity ≠ [] ∧ u = report.entity.urn ∧ u ≠ [] := by
    rw [lineageFact]
    split
    case isTrue h => simp [h]
    case isFalse h => simp [h, subjectKey_reportFact]
  simp only [entityToFacts, valueFacts, List.mem_append, or_and_right, exists_or, hlineage, List.mem_map,
    Option.mem_toList, exists_exists_and_eq_and, subjectKey_reportFact, exists_and_right,
    hoption, Described]
  constructor
  · rintro ((((⟨h, hu, hne⟩ | ⟨h, hu, hne⟩) | ⟨h, hu, hne⟩) | ⟨f, hf, hu, hne⟩) | ⟨h, hu, hne⟩)
    · exact ⟨hne, Or.inl ⟨hu, Or.inl h⟩⟩
    · exact ⟨hne, Or.inl ⟨hu, Or.inr (Or.inl h)⟩⟩
    · exact ⟨hne, Or.inl ⟨hu, Or.inr (Or.inr (Or.inl h))⟩⟩
    · exact ⟨hne, Or.inr ⟨f, hf, hu⟩⟩
    · exact ⟨hne, Or.inl ⟨hu, Or.inr (Or.inr (Or.inr h))⟩⟩
  · rintro ⟨hne, ⟨hu, h | h | h | h⟩ | ⟨f, hf, hu⟩⟩
    · exact Or.inl (Or.inl (Or.inl (Or.inl ⟨h, hu, hne⟩)))
    · exact Or.inl (Or.inl (Or.inl (Or.inr ⟨h, hu, hne⟩)))
    · exact Or.inl (Or.inl (Or.inr ⟨h, hu, hne⟩))
    · exact Or.inr ⟨h, hu, hne⟩
    · exact Or.inl (Or.inr ⟨f, hf, hu, hne⟩)

theorem mem_missing : u ∈ (missing facts).map Prod.fst
    ↔ (∃ m ∈ facts, u ∈ refsOf m) ∧ ∀ m ∈ facts, m.subjectKey ≠ some u := by
  have hpresent : (!((bySubject facts).map Prod.fst).contains u) = true
      ↔ ∀ m ∈ facts, m.subjectKey ≠ some u := by
    rw [Bool.not_eq_true', ← Bool.not_eq_true, List.contains_iff_mem, bySubject]
    simp only [List.mem_map, List.mem_filterMap, Option.map_eq_some_iff]
    constructor
    · intro h m hm heq
      exact h ⟨(u, m), ⟨m, hm, u, heq, rfl⟩, rfl⟩
    · rintro h ⟨-, ⟨m, hm, s, heq, rfl⟩, rfl⟩
      exact h m hm heq
  rw [missing, List.mem_map]
  constructor
  · rintro ⟨p, hp, rfl⟩
    obtain ⟨m, hm, hp⟩ := List.mem_flatMap.mp hp
    obtain ⟨r, hr, rfl⟩ := List.mem_map.mp hp
    obtain ⟨hr, hmissing⟩ := List.mem_filter.mp hr
    exact ⟨⟨m, hm, hr⟩, hpresent.mp hmissing⟩
  · rintro ⟨⟨m, hm, hu⟩, hnone⟩
    exact ⟨(u, (m.id, m.source)), List.mem_flatMap.mpr ⟨m, hm, List.mem_map.mpr
      ⟨u, List.mem_filter.mpr ⟨hu, hpresent.mpr hnone⟩, rfl⟩⟩, rfl⟩

theorem absences_perm (opts : AuditOptions) : ((auditConsistency opts facts).absences.map Absence.subject).Perm
    ((groups (missing facts)).map Prod.fst) := by
  have hsort := (List.perm_insertionSort (fun a b : Absence => codeUnitLe a.subject b.subject = true)
    ((groups (missing facts)).map fun g => (⟨g.1, g.2⟩ : Absence))).map Absence.subject
  rw [List.map_map] at hsort
  exact hsort

/-- **What the audit misses**: what a fact refers to and no fact is about. -/
theorem mem_absences {opts : AuditOptions} :
    u ∈ (auditConsistency opts facts).absences.map Absence.subject
      ↔ (∃ m ∈ facts, u ∈ refsOf m) ∧ ∀ m ∈ facts, m.subjectKey ≠ some u := by
  rw [(absences_perm opts).mem_iff, ← mem_missing, List.mem_map, List.mem_map]
  constructor
  · rintro ⟨⟨r, refs⟩, hg, rfl⟩
    obtain ⟨rfl, hne⟩ := mem_groups.mp hg
    obtain ⟨a, ha⟩ := List.exists_mem_of_ne_nil _ hne
    exact ⟨(r, a), mem_under.mp ha, rfl⟩
  · rintro ⟨⟨r, a⟩, hp, rfl⟩
    have ha : a ∈ under r (missing facts) := mem_under.mpr hp
    exact ⟨(r, _), mem_groups.mpr ⟨rfl, List.ne_nil_of_mem ha⟩, rfl⟩

/-- A gap is reported once. -/
theorem nodup_absences (opts : AuditOptions) (facts : List AuditFact) :
    ((auditConsistency opts facts).absences.map Absence.subject).Nodup :=
  (absences_perm opts).nodup_iff.mpr (nodup_groups _)

end There

end Audit
