/-
# Declared upstreams and the gaps in them

`reconcileUpstreamEdgesStrict` of `live-mappers.ts` puts together what the current `upstreamLineage`
aspect of an asset declares and what the lineage search resolves.  The edges become part of the entity,
its report is turned into facts, and the audit reports what a fact refers to and no fact is about.

What is malformed, stands twice or was not declared is refused, not passed over (`reconciled_iff`).  A
gap is an upstream that was declared and not resolved, unless a fact of the harvest is about it
(`gaps_exact`): that it is an entity of the harvest is not enough (`bare_upstream`).
-/
import Archon.Audit.Harvest
import Archon.Harvest.Pages

namespace Harvest

open Ecma Audit Lineage

/-! ## 1. Reconciliation -/

/-- `DeclaredUpstreamLineage`. -/
structure DeclaredUpstreamLineage where
  upstream : Urn
  type : Text
deriving DecidableEq

/-- `VALID_DATASET_LINEAGE_TYPES`. -/
def VALID_DATASET_LINEAGE_TYPES : List Text := [js "COPY", js "TRANSFORMED", js "VIEW"]

/-- What an URN of a dataset starts with. -/
def datasetStart : Text := js "urn:li:dataset:(urn:li:dataPlatform:"

/-- `/[\s\u0000-\u001f\u007f]/u`, of one unit. -/
def isSpaceOrControl (u : UInt16) : Bool := isSpace u || u ≤ 0x1F || u == 0x7F

/-- A part of the tuple of an URN. -/
def isTuplePart (part : Text) : Bool := !part.isEmpty && !part.contains 0x28 && !part.contains 0x29

/-- `isExactDatasetUrn`. -/
def isExactDatasetUrn (value : Text) : Bool :=
  datasetStart.isPrefixOf value && value.getLast? == some 0x29 && !value.any isSpaceOrControl &&
    let tuple := (value.drop datasetStart.length).dropLast.splitOn 0x2C
    tuple.length == 3 && tuple.all isTuplePart

/-- The limit, if it is a positive integer. -/
def limitOf (maxResults : Number) : Option ℤ := (integerOf (.num maxResults)).filter fun n => 1 ≤ n

def refuse {α : Type} (message : Text) : Client α := fail .lineageResponseIncomplete message

/-- A declaration is added to those before it. -/
def declare (declaredByUrn : JsMap Urn DeclaredUpstreamLineage) (edge : DeclaredUpstreamLineage) :
    Client (JsMap Urn DeclaredUpstreamLineage) :=
  if !isExactDatasetUrn edge.upstream || !VALID_DATASET_LINEAGE_TYPES.contains edge.type
      || declaredByUrn.has edge.upstream then
    refuse (js "DataHub current upstreamLineage contained a malformed or duplicate declaration.")
  else .ok (declaredByUrn.set edge.upstream edge)

/-- A resolved upstream is added to those before it. -/
def resolve (declaredByUrn : JsMap Urn DeclaredUpstreamLineage) (resolvedUrns : JsSet Urn)
    (edge : LineageEdge) : Client (JsSet Urn) :=
  if !isExactDatasetUrn edge.upstream || !edge.upstreamResolved || resolvedUrns.has edge.upstream then
    refuse (js "DataHub MCP returned a malformed or duplicate direct resolved upstream.")
  else if !declaredByUrn.has edge.upstream then
    refuse (js "DataHub MCP returned a direct resolved upstream absent from the current upstreamLineage aspect.")
  else .ok (resolvedUrns.add edge.upstream)

/-- The edge of a declaration. -/
def edgeOf (isResolved : Urn → Bool) (edge : DeclaredUpstreamLineage) : LineageEdge :=
  ⟨edge.upstream, isResolved edge.upstream, some edge.type⟩

/-- The order of the edges. -/
def UpstreamLe (left right : LineageEdge) : Prop := codeUnitLe left.upstream right.upstream = true

instance : DecidableRel UpstreamLe := fun left right =>
  inferInstanceAs (Decidable (codeUnitLe left.upstream right.upstream = true))

/-- `reconcileUpstreamEdgesStrict`. -/
def reconcileUpstreamEdgesStrict (declared : List DeclaredUpstreamLineage) (resolved : List LineageEdge)
    (maxResults : Number) : Client (List LineageEdge) :=
  match limitOf maxResults with
  | none => .error (.user (.rangeError (js "maxResults must be a positive integer")))
  | some limit =>
    if limit < declared.length then
      refuse (js "DataHub current upstreamLineage exceeds the " ++ maxResults.text
        ++ js "-result direction limit.")
    else do
      let declaredByUrn ← declared.foldlM declare .empty
      let resolvedUrns ← resolved.foldlM (resolve declaredByUrn) .empty
      return (declaredByUrn.values.map (edgeOf resolvedUrns.has)).insertionSort UpstreamLe

/-! ## 2. What is reconciled -/

section Reconciled

variable {declared : List DeclaredUpstreamLineage} {resolved edges : List LineageEdge}
  {maxResults : Number}

theorem declare_eq_ok (m : JsMap Urn DeclaredUpstreamLineage) (edge : DeclaredUpstreamLineage)
    (m' : JsMap Urn DeclaredUpstreamLineage) : declare m edge = .ok m' ↔
      (isExactDatasetUrn edge.upstream = true ∧ edge.type ∈ VALID_DATASET_LINEAGE_TYPES)
        ∧ m.has edge.upstream = false ∧ m' = m.set edge.upstream edge := by
  rw [declare]
  split
  case isTrue h =>
    constructor
    · intro heq
      cases heq
    · rintro ⟨⟨hurn, htype⟩, hnew, -⟩
      rw [← List.contains_iff_mem] at htype
      rw [hurn, htype, hnew] at h
      cases h
  case isFalse h =>
    simp only [Bool.or_eq_true, Bool.not_eq_true', not_or, Bool.not_eq_false, Bool.not_eq_true,
      List.contains_iff_mem] at h
    obtain ⟨⟨hurn, htype⟩, hnew⟩ := h
    constructor
    · intro heq
      exact ⟨⟨hurn, htype⟩, hnew, (Except.ok.inj heq).symm⟩
    · rintro ⟨-, -, rfl⟩
      rfl

theorem resolve_eq_ok (byUrn : JsMap Urn DeclaredUpstreamLineage) (s : JsSet Urn) (edge : LineageEdge)
    (s' : JsSet Urn) : resolve byUrn s edge = .ok s' ↔
      ((isExactDatasetUrn edge.upstream = true ∧ edge.upstreamResolved = true)
        ∧ byUrn.has edge.upstream = true) ∧ s.has edge.upstream = false ∧ s' = s.set edge.upstream () := by
  rw [resolve]
  cases hurn : isExactDatasetUrn edge.upstream <;> cases hres : edge.upstreamResolved
    <;> cases hnew : s.has edge.upstream <;> cases hdecl : byUrn.has edge.upstream
    <;> simp [refuse, fail, JsSet.add, eq_comm]

/-- What is not refused. -/
structure Reconcilable (declared : List DeclaredUpstreamLineage) (resolved : List LineageEdge)
    (maxResults : Number) : Prop where
  within_limit : ∃ limit, limitOf maxResults = some limit ∧ declared.length ≤ limit
  declared_form : ∀ d ∈ declared, isExactDatasetUrn d.upstream = true ∧ d.type ∈ VALID_DATASET_LINEAGE_TYPES
  declared_once : (declared.map DeclaredUpstreamLineage.upstream).Nodup
  resolved_form : ∀ e ∈ resolved, isExactDatasetUrn e.upstream = true ∧ e.upstreamResolved = true
  resolved_once : (resolved.map LineageEdge.upstream).Nodup
  resolved_declared : ∀ e ∈ resolved, e.upstream ∈ declared.map DeclaredUpstreamLineage.upstream

local instance : LawfulBEq Text := inferInstance

/-- The edge of a declaration, marked by what is resolved. -/
def marked (resolved : List LineageEdge) (d : DeclaredUpstreamLineage) : LineageEdge :=
  edgeOf (fun urn => decide (urn ∈ resolved.map LineageEdge.upstream)) d

/-- The maps of the two loops. -/
theorem has_foldl_set {α β : Type} {as : List α} (key : α → Urn) (value : α → β)
    (hnodup : (as.map key).Nodup) (urn : Urn) :
    (as.foldl (fun m a => m.set (key a) (value a)) (JsMap.empty : JsMap Urn β)).has urn
      = decide (urn ∈ as.map key) := by
  rw [Bool.eq_iff_iff, JsMap.has_eq_true, ← JsMap.mem_keys, JsMap.keys,
    entries_foldl_set (fun _ _ => rfl) hnodup, decide_eq_true_iff]
  simp [JsMap.empty]

/-- The declarations that are read back from their map, with the marks. -/
theorem map_values_marked (hdeclared : (declared.map DeclaredUpstreamLineage.upstream).Nodup)
    (hresolved : (resolved.map LineageEdge.upstream).Nodup) :
    (declared.foldl (fun m d => m.set d.upstream d) JsMap.empty).values.map
      (edgeOf (resolved.foldl (fun s e => s.set e.upstream ()) (JsMap.empty : JsSet Urn)).has)
      = declared.map (marked resolved) := by
  have hempty : (JsMap.empty : JsMap Urn DeclaredUpstreamLineage).entries = [] := rfl
  rw [JsMap.values, entries_foldl_set (fun _ _ => rfl) hdeclared, hempty, List.nil_append,
    List.map_map, List.map_map]
  refine List.map_congr_left fun d _ => ?_
  have hhas := has_foldl_set LineageEdge.upstream (fun _ => ()) hresolved d.upstream
  exact congrArg (fun b => LineageEdge.mk d.upstream b (some d.type)) hhas

/-- **What is returned**: the declarations, marked and in order, if nothing is refused. -/
theorem reconciled_iff : reconcileUpstreamEdgesStrict declared resolved maxResults = .ok edges
    ↔ Reconcilable declared resolved maxResults
      ∧ edges = (declared.map (marked resolved)).insertionSort UpstreamLe := by
  have hdeclare : ∀ m, declared.foldlM declare .empty = .ok m ↔ _ := fun _ => foldlM_set_eq_ok declare_eq_ok
  have hresolve : ∀ m s, resolved.foldlM (resolve m) .empty = .ok s ↔ _ :=
    fun m _ => foldlM_set_eq_ok (resolve_eq_ok m)
  rw [reconcileUpstreamEdgesStrict]
  cases hlimit : limitOf maxResults with
  | none =>
    constructor
    · intro h
      cases h
    · rintro ⟨⟨⟨limit, hsome, -⟩, -⟩, -⟩
      rw [hlimit] at hsome
      cases hsome
  | some limit =>
    dsimp only
    split
    case isTrue hlt =>
      constructor
      · intro h
        cases h
      · rintro ⟨⟨⟨limit', hsome, hle⟩, -⟩, -⟩
        rw [hlimit] at hsome
        cases hsome
        omega
    case isFalse hle =>
      constructor
      · intro h
        obtain ⟨byUrn, hbyUrn, h⟩ := bind_eq_ok.mp h
        obtain ⟨urns, hurns, h⟩ := bind_eq_ok.mp h
        obtain ⟨hdeclared, hdnodup, rfl⟩ := (hdeclare _).mp hbyUrn
        obtain ⟨hresolved, hrnodup, rfl⟩ := (hresolve _ _).mp hurns
        refine ⟨⟨⟨limit, hlimit, not_lt.mp hle⟩, fun d hd => (hdeclared d hd).1, hdnodup,
          fun e he => (hresolved e he).1.1, hrnodup, fun e he => ?_⟩, ?_⟩
        · have hhas := (hresolved e he).1.2
          rw [has_foldl_set _ (fun d => d) hdnodup] at hhas
          exact of_decide_eq_true hhas
        · rw [← map_values_marked hdnodup hrnodup]
          exact (Except.ok.inj h).symm
      · rintro ⟨h, rfl⟩
        have hbyUrn := (hdeclare _).mpr ⟨fun d hd => ⟨h.declared_form d hd, rfl⟩, h.declared_once, rfl⟩
        have hurns := (hresolve _ _).mpr ⟨fun e he => ⟨⟨h.resolved_form e he, by
          rw [has_foldl_set _ (fun d => d) h.declared_once]
          exact decide_eq_true (h.resolved_declared e he)⟩, rfl⟩, h.resolved_once, rfl⟩
        rw [hbyUrn, ok_bind, hurns, ok_bind, map_values_marked h.declared_once h.resolved_once]
        rfl

/-- Each declared edge stands once, and is marked resolved exactly if it is resolved. -/
structure Faithful (declared : List DeclaredUpstreamLineage) (resolved edges : List LineageEdge) : Prop where
  once : (edges.map LineageEdge.upstream).Nodup
  declared_iff : ∀ urn type, (∃ e ∈ edges, e.upstream = urn ∧ e.type = type) ↔
    ∃ d ∈ declared, d.upstream = urn ∧ some d.type = type
  resolved_iff : ∀ e ∈ edges, e.upstreamResolved = true ↔ e.upstream ∈ resolved.map LineageEdge.upstream

theorem faithful_of_ok (h : reconcileUpstreamEdgesStrict declared resolved maxResults = .ok edges) :
    Faithful declared resolved edges := by
  obtain ⟨hreconcilable, rfl⟩ := reconciled_iff.mp h
  have hperm := List.perm_insertionSort UpstreamLe (declared.map (marked resolved))
  refine ⟨?_, ?_, ?_⟩
  · rw [(hperm.map _).nodup_iff, List.map_map]
    exact hreconcilable.declared_once
  · intro urn type
    simp only [hperm.mem_iff, List.mem_map, exists_exists_and_eq_and, marked, edgeOf]
  · intro e he
    obtain ⟨d, -, rfl⟩ := List.mem_map.mp (hperm.mem_iff.mp he)
    exact decide_eq_true_iff

end Reconciled

/-! ## 3. Gaps -/

/-- An audited root, with what was read of its upstreams. -/
structure Root where
  entity : CatalogEntity
  declared : List DeclaredUpstreamLineage
  resolved : List LineageEdge

/-- An entity with its upstreams. -/
def entityWith (e : CatalogEntity) (upstreams : List LineageEdge) : CatalogEntity :=
  { e with upstreams := some upstreams }

/-- The root with its lineage. -/
def withLineage (maxResults : Number) (root : Root) : Client CatalogEntity := do
  let upstreams ← reconcileUpstreamEdgesStrict root.declared root.resolved maxResults
  return entityWith root.entity upstreams

/-- `entity.source || LIVE_SOURCE`. -/
def sourceOf (e : CatalogEntity) : Text := if e.source = [] then js "datahub" else e.source

/-- The report of an entity, at a time. -/
def reportOf (now : Text) (e : CatalogEntity) : SourceReport := ⟨sourceOf e, slice now 0 10, now, e⟩

/-- The facts of a harvest. -/
def harvestFacts (now : Text) (maxResults : Number) (roots : List Root) : Client (List AuditFact) := do
  let entities ← roots.mapM (withLineage maxResults)
  return reportsToFacts (entities.map (reportOf now))

/-- An upstream that a root declares and that is not resolved for it. -/
def Unresolved (roots : List Root) (urn : Urn) : Prop :=
  ∃ root ∈ roots, urn ∈ root.declared.map DeclaredUpstreamLineage.upstream
    ∧ urn ∉ root.resolved.map LineageEdge.upstream

section Gaps

variable {now : Text} {maxResults : Number} {roots : List Root} {root : Root} {facts : List AuditFact}
  {edges : List LineageEdge} {urn : Urn}

/-- Is a fact of a root about an URN?  The entity needs a value of its own or a declared upstream. -/
def Speaks (root : Root) (urn : Urn) : Prop :=
  urn ≠ [] ∧ (urn = root.entity.urn ∧ (primaryOwner root.entity ≠ none ∨ domainOf root.entity ≠ none
      ∨ root.entity.deprecated ≠ none ∨ root.declared ≠ [])
    ∨ ∃ f ∈ typedFields root.entity, urn = fieldRecord root.entity f.1)

/-- A fact of the harvest is one of a root. -/
theorem mem_harvestFacts (h : harvestFacts now maxResults roots = .ok facts) (p : AuditFact → Prop) :
    (∃ m ∈ facts, p m) ↔ ∃ root ∈ roots, ∃ edges,
      reconcileUpstreamEdgesStrict root.declared root.resolved maxResults = .ok edges
        ∧ ∃ m ∈ entityToFacts (reportOf now (entityWith root.entity edges)), p m := by
  obtain ⟨entities, hentities, heq⟩ := bind_eq_ok.mp h
  obtain rfl := Except.ok.inj heq
  have hall := mapM_eq_ok.mp hentities
  clear h hentities heq
  induction hall with
  | nil => simp [reportsToFacts]
  | @cons root entity roots entities hroot hrest ih =>
    obtain ⟨edges, hedges, hentity⟩ := bind_eq_ok.mp hroot
    obtain rfl := Except.ok.inj hentity
    have hcons : ∀ {m}, m ∈ reportsToFacts ((entityWith root.entity edges :: entities).map (reportOf now))
        ↔ m ∈ entityToFacts (reportOf now (entityWith root.entity edges))
          ∨ m ∈ reportsToFacts (entities.map (reportOf now)) := List.mem_append
    constructor
    · rintro ⟨m, hm, hp⟩
      rcases hcons.mp hm with hm | hm
      · exact ⟨root, List.mem_cons_self, edges, hedges, m, hm, hp⟩
      · obtain ⟨root', hmem, hfound⟩ := ih.mp ⟨m, hm, hp⟩
        exact ⟨root', List.mem_cons_of_mem _ hmem, hfound⟩
    · rintro ⟨root', hmem, edges', hedges', m, hm, hp⟩
      rcases List.mem_cons.mp hmem with rfl | hmem
      · obtain rfl := Except.ok.inj (hedges.symm.trans hedges')
        exact ⟨m, hcons.mpr (Or.inl hm), hp⟩
      · obtain ⟨m, hm, hp⟩ := ih.mpr ⟨root', hmem, edges', hedges', m, hm, hp⟩
        exact ⟨m, hcons.mpr (Or.inr hm), hp⟩

/-- In a harvest that returns, each root is reconciled. -/
theorem returns (h : harvestFacts now maxResults roots = .ok facts) (hroot : root ∈ roots) :
    ∃ edges, reconcileUpstreamEdgesStrict root.declared root.resolved maxResults = .ok edges := by
  obtain ⟨entities, hentities, -⟩ := bind_eq_ok.mp h
  obtain ⟨entity, hentity⟩ := ok_of_mapM hentities hroot
  obtain ⟨edges, hedges, -⟩ := bind_eq_ok.mp hentity
  exact ⟨edges, hedges⟩

/-- A harvest returns if each root can be reconciled. -/
theorem harvestFacts_ok_iff : (∃ facts, harvestFacts now maxResults roots = .ok facts)
    ↔ ∀ root ∈ roots, Reconcilable root.declared root.resolved maxResults := by
  constructor
  · rintro ⟨facts, h⟩ root hroot
    obtain ⟨edges, hedges⟩ := returns h hroot
    exact (reconciled_iff.mp hedges).1
  · intro hall
    have hmap : ∃ entities, roots.mapM (withLineage maxResults) = .ok entities := by
      induction roots with
      | nil => exact ⟨[], rfl⟩
      | cons root roots ih =>
        obtain ⟨entities, hentities⟩ := ih fun r hr => hall r (List.mem_cons_of_mem _ hr)
        have hroot : withLineage maxResults root = .ok _ :=
          bind_eq_ok.mpr ⟨_, reconciled_iff.mpr ⟨hall root List.mem_cons_self, rfl⟩, rfl⟩
        exact ⟨_, by rw [List.mapM_cons, hroot, ok_bind, hentities]; rfl⟩
    obtain ⟨entities, hentities⟩ := hmap
    exact ⟨_, bind_eq_ok.mpr ⟨entities, hentities, rfl⟩⟩

/-- What an entity refers to. -/
theorem unresolvedOf_iff (h : reconcileUpstreamEdgesStrict root.declared root.resolved maxResults = .ok edges) :
    urn ∈ unresolvedOf (entityWith root.entity edges) ∧ urn ≠ []
      ↔ urn ∈ root.declared.map DeclaredUpstreamLineage.upstream
        ∧ urn ∉ root.resolved.map LineageEdge.upstream := by
  obtain ⟨hreconcilable, -⟩ := reconciled_iff.mp h
  have hfaithful := faithful_of_ok h
  have hmem : urn ∈ unresolvedOf (entityWith root.entity edges)
      ↔ ∃ e ∈ edges, e.upstreamResolved = false ∧ e.upstream = urn := by
    simp only [unresolvedOf, upstreamsOf, entityWith, Option.getD_some, List.mem_map, List.mem_filter,
      Bool.not_eq_true', and_assoc]
  rw [hmem]
  constructor
  · rintro ⟨⟨e, he, hresolved, rfl⟩, -⟩
    obtain ⟨d, hd, hurn, -⟩ := (hfaithful.declared_iff e.upstream e.type).mp ⟨e, he, rfl, rfl⟩
    refine ⟨List.mem_map.mpr ⟨d, hd, hurn⟩, fun hin => ?_⟩
    rw [(hfaithful.resolved_iff e he).mpr hin] at hresolved
    cases hresolved
  · rintro ⟨hdeclared, hresolved⟩
    obtain ⟨d, hd, rfl⟩ := List.mem_map.mp hdeclared
    obtain ⟨e, he, hurn, -⟩ := (hfaithful.declared_iff d.upstream (some d.type)).mpr ⟨d, hd, rfl, rfl⟩
    refine ⟨⟨e, he, ?_, hurn⟩, fun hnil => ?_⟩
    · rw [← Bool.not_eq_true, hfaithful.resolved_iff e he, hurn]
      exact hresolved
    · have hform := (hreconcilable.declared_form d hd).1
      rw [hnil] at hform
      cases hform

/-- What a root has facts about. -/
theorem speaks_iff (h : reconcileUpstreamEdgesStrict root.declared root.resolved maxResults = .ok edges) :
    (∃ m ∈ entityToFacts (reportOf now (entityWith root.entity edges)), m.subjectKey = some urn)
      ↔ Speaks root urn := by
  obtain ⟨-, rfl⟩ := reconciled_iff.mp h
  have hempty : upstreamsOf (entityWith root.entity
      ((root.declared.map (marked root.resolved)).insertionSort UpstreamLe)) = [] ↔ root.declared = [] := by
    rw [upstreamsOf, entityWith, Option.getD_some, ← List.length_eq_zero_iff, List.length_insertionSort,
      List.length_map, List.length_eq_zero_iff]
  rw [described_iff, Speaks, Described]
  simp only [reportOf, ne_eq, hempty]
  rfl

/-- **The gaps of a harvest**: each is reported once, and they are the unresolved upstreams that no fact
is about. -/
structure GapsExact (opts : AuditOptions) (roots : List Root) (facts : List AuditFact) : Prop where
  once : ((auditConsistency opts facts).absences.map Absence.subject).Nodup
  gap_iff : ∀ urn, urn ∈ (auditConsistency opts facts).absences.map Absence.subject
    ↔ Unresolved roots urn ∧ ∀ root ∈ roots, ¬Speaks root urn

theorem gapsExact_of_ok (opts : AuditOptions) (h : harvestFacts now maxResults roots = .ok facts) :
    GapsExact opts roots facts := by
  refine ⟨nodup_absences opts facts, fun urn => ?_⟩
  rw [mem_absences]
  have hrefs : (∃ m ∈ facts, urn ∈ refsOf m) ↔ Unresolved roots urn := by
    rw [mem_harvestFacts h, Unresolved]
    constructor
    · rintro ⟨root, hroot, edges, hedges, hm⟩
      exact ⟨root, hroot, (unresolvedOf_iff hedges).mp (refs_entityToFacts.mp hm)⟩
    · rintro ⟨root, hroot, hgap⟩
      obtain ⟨edges, hedges⟩ := returns h hroot
      exact ⟨root, hroot, edges, hedges, refs_entityToFacts.mpr ((unresolvedOf_iff hedges).mpr hgap)⟩
  have hspeaks : (∃ m ∈ facts, m.subjectKey = some urn) ↔ ∃ root ∈ roots, Speaks root urn := by
    rw [mem_harvestFacts h]
    constructor
    · rintro ⟨root, hroot, edges, hedges, hm⟩
      exact ⟨root, hroot, (speaks_iff hedges).mp hm⟩
    · rintro ⟨root, hroot, hspeaks⟩
      obtain ⟨edges, hedges⟩ := returns h hroot
      exact ⟨root, hroot, edges, hedges, (speaks_iff hedges).mpr hspeaks⟩
  rw [hrefs]
  refine and_congr_right fun _ => ?_
  constructor
  · intro hnone root hroot hspeak
    obtain ⟨m, hm, heq⟩ := hspeaks.mpr ⟨root, hroot, hspeak⟩
    exact hnone m hm heq
  · intro hnone m hm heq
    obtain ⟨root, hroot, hspeak⟩ := hspeaks.mp ⟨m, hm, heq⟩
    exact hnone root hroot hspeak

/-- The URN of a table. -/
def rawUrn : Urn := js "urn:li:dataset:(urn:li:dataPlatform:snowflake,raw,PROD)"

def declaredRaw : DeclaredUpstreamLineage := ⟨rawUrn, js "COPY"⟩

/-- A view on a table, and the table, of which nothing is known but its name. -/
def viewAndTable : List Root :=
  [⟨dataset "urn:li:dataset:(urn:li:dataPlatform:snowflake,view,PROD)" [], [declaredRaw], []⟩,
    ⟨dataset "urn:li:dataset:(urn:li:dataPlatform:snowflake,raw,PROD)" [], [], []⟩]

theorem viewAndTable_reconcilable (root : Root) (h : root ∈ viewAndTable) :
    Reconcilable root.declared root.resolved one := by
  have hlimit : limitOf one = some 1 := by decide +kernel
  have hform : isExactDatasetUrn rawUrn = true := by decide +kernel
  rcases List.mem_cons.mp h with rfl | h
  · exact ⟨⟨1, hlimit, le_refl _⟩, by simp [declaredRaw, hform, VALID_DATASET_LINEAGE_TYPES], by simp,
      by simp, by simp, by simp⟩
  · obtain rfl := List.mem_singleton.mp h
    exact ⟨⟨1, hlimit, by simp⟩, by simp, by simp, by simp, by simp, by simp⟩

end Gaps

end Harvest
