/-
# The snapshot of a harvest

`mergeLatest` and `snapshotFromReports` of `mcp-client.ts`.  Of the reports about one URN the latest is
kept, by the time of the report and then by the scan; the entities that are left stand in the order of
their URNs, and the rest of the snapshot is made from them.

A report replaces another only if it is later, so of reports that tie on both the first is kept.
`merged_iff` says that this is the only way in which the order of the reports is seen.
-/
import Archon.Lineage.Topology
import Mathlib.Data.Rat.Floor

namespace Lineage

open Ecma Graphs

/-! ## 1. The latest reports -/

/-- `SourceReport`. -/
structure SourceReport where
  source : Text
  scanId : Text
  createdAt : Text
  entity : CatalogEntity
deriving DecidableEq

/-- `s < t`. -/
def unitsLt (s t : Text) : Bool := !codeUnitLe t s

/-- Is the report later than the one that is kept? -/
def supersedes (r cur : SourceReport) : Bool :=
  unitsLt cur.createdAt r.createdAt
    || (decide (r.createdAt = cur.createdAt) && unitsLt cur.scanId r.scanId)

/-- A report is merged. -/
def mergeReport (latest : JsMap Urn SourceReport) (r : SourceReport) : JsMap Urn SourceReport :=
  match latest.get r.entity.urn with
  | none => latest.set r.entity.urn r
  | some cur => if supersedes r cur then latest.set r.entity.urn r else latest

/-- The reports that are kept. -/
def latestOf (reports : List SourceReport) : JsMap Urn SourceReport := reports.foldl mergeReport .empty

/-- The order of the entities. -/
def UrnLe (a b : CatalogEntity) : Prop := codeUnitLe a.urn b.urn = true

instance : DecidableRel UrnLe := fun a b => inferInstanceAs (Decidable (codeUnitLe a.urn b.urn = true))

instance : Std.Total UrnLe := ⟨fun a b => codeUnitLe_total a.urn b.urn⟩

instance : IsTrans CatalogEntity UrnLe := ⟨fun _ _ _ h h' => codeUnitLe_trans h h'⟩

/-- `mergeLatest(reports)`. -/
def mergeLatest (reports : List SourceReport) : List CatalogEntity :=
  ((latestOf reports).values.insertionSort fun a b => UrnLe a.entity b.entity).map (·.entity)

/-! ## 2. The snapshot -/

/-- A node of a topology that an adapter has proved, as its types declare it. -/
structure ProvenNode where
  urn : Urn
  minHops : ℚ
  entityType : Text
  deprecated : Bool

/-- `SnapshotTopologyContext`. -/
structure SnapshotTopologyContext where
  topologyEntities : Option (List CatalogEntity) := none
  downstreamByRoot : Option (JsMap Urn (List ProvenNode)) := none
  knownLineageUrns : Option (List Urn) := none

/-- A computation that throws a `TypeError` with a text. -/
abbrev Assembly := Except Text

/-- The nodes of a proven list are checked one by one against those before them. -/
def copyNodes (root : Urn) : List ProvenNode → List Urn → Assembly (List LineageTopologyNode)
  | [], _ => .ok []
  | node :: rest, seen =>
    if node.urn.length = 0 ∨ node.urn = root ∨ ¬node.minHops.isInt ∨ node.minHops < 1
        ∨ (trim node.entityType).length = 0 ∨ node.urn ∈ seen then
      .error (js "Downstream topology for " ++ root ++ js " contains an invalid or duplicate node.")
    else do
      let nodes ← copyNodes root rest (node.urn :: seen)
      return {
        urn := node.urn
        minHops := node.minHops.num.toNat
        entityType := node.entityType
        deprecated := node.deprecated } :: nodes

/-- `copyProvenDownstream(roots, proven)`. -/
def copyProvenDownstream (roots : List CatalogEntity) (proven : JsMap Urn (List ProvenNode)) :
    Assembly (JsMap Urn (List LineageTopologyNode)) :=
  roots.foldlM (fun downstreamByRoot root =>
    match proven.get root.urn with
    | none => .error (js "Complete downstream topology is missing for audited root " ++ root.urn ++ js ".")
    | some raw => do return downstreamByRoot.set root.urn (sortNodes (← copyNodes root.urn raw []))) .empty

/-- The URNs that the entities, their resolved upstreams and the topology name. -/
def knownUrnsOf (entities : List CatalogEntity) (downstreamByRoot : JsMap Urn (List LineageTopologyNode)) :
    JsSet Urn :=
  let listed := entities.map (·.urn)
  let resolved := entities.flatMap fun entity =>
    ((entity.upstreams.getD []).filter (·.upstreamResolved)).map (·.upstream)
  let reached := downstreamByRoot.values.flatMap fun nodes => nodes.map (·.urn)
  (listed ++ resolved ++ reached).foldl JsSet.add .empty

/-- The URNs of the context are added. -/
def addKnown (known : JsSet Urn) : List Urn → Assembly (JsSet Urn)
  | [] => .ok known
  | urn :: urns =>
    if urn.length = 0 then .error (js "Known lineage context contains an invalid URN.")
    else addKnown (known.add urn) urns

/-- The derivation of the topology ends. -/
theorem deriveDownstreamByRoot_isSome (roots topologyEntities : List CatalogEntity) :
    (deriveDownstreamByRoot roots topologyEntities).isSome = true := by
  obtain ⟨nodes, -, -, -, hderive⟩ := derived roots topologyEntities
  rw [hderive]
  rfl

/-- The greater of two scans. -/
def laterScan (acc : Text) (r : SourceReport) : Text := if unitsLt acc r.scanId then r.scanId else acc

/-- `snapshotFromReports(reports, context)`. -/
def snapshotFromReports (reports : List SourceReport) (context : SnapshotTopologyContext := {}) :
    Assembly CatalogSnapshot := do
  let entities := mergeLatest reports
  if context.topologyEntities.isSome && context.downstreamByRoot.isSome then
    .error (js "Provide either topologyEntities or downstreamByRoot, not both.")
  let downstreamByRoot ← match context.downstreamByRoot with
    | some proven => copyProvenDownstream entities proven
    | none => .ok ((deriveDownstreamByRoot entities (context.topologyEntities.getD entities)).get
        (deriveDownstreamByRoot_isSome _ _))
  let knownUrns ← addKnown (knownUrnsOf entities downstreamByRoot) (context.knownLineageUrns.getD [])
  return {
    scanId := reports.foldl laterScan []
    entities := entities
    knownUrns := knownUrns
    downstreamByRoot := downstreamByRoot }

/-! ## 3. What is kept -/

section Latest

variable {reports : List SourceReport} {r r' : SourceReport} {urn : Urn}

theorem unitsLt_eq_true {s t : Text} : unitsLt s t = true ↔ codeUnitLe s t = true ∧ s ≠ t := by
  rw [unitsLt, Bool.not_eq_true']
  constructor
  · intro h
    refine ⟨(codeUnitLe_total s t).resolve_right (Bool.eq_false_iff.mp h), ?_⟩
    rintro rfl
    rcases codeUnitLe_total s s with hs | hs
    · exact Bool.eq_false_iff.mp h hs
    · exact Bool.eq_false_iff.mp h hs
  · rintro ⟨hle, hne⟩
    exact Bool.eq_false_iff.mpr fun hge => hne (codeUnitLe_antisymm hle hge)

/-- The order by time, and then by scan. -/
def StampLe (r r' : SourceReport) : Prop :=
  unitsLt r.createdAt r'.createdAt = true ∨ r.createdAt = r'.createdAt ∧ codeUnitLe r.scanId r'.scanId = true

theorem supersedes_eq_false : supersedes r r' = false ↔ StampLe r r' := by
  rw [supersedes, Bool.or_eq_false_iff, Bool.and_eq_false_iff, decide_eq_false_iff_not, StampLe,
    unitsLt_eq_true]
  have htotal := codeUnitLe_total r.createdAt r'.createdAt
  simp only [unitsLt, Bool.not_eq_false']
  constructor
  · rintro ⟨hle, hne | hscan⟩
    · exact .inl ⟨hle, hne⟩
    · by_cases heq : r.createdAt = r'.createdAt
      · exact .inr ⟨heq, hscan⟩
      · exact .inl ⟨hle, heq⟩
  · rintro (⟨hle, hne⟩ | ⟨heq, hscan⟩)
    · exact ⟨hle, .inl hne⟩
    · refine ⟨?_, .inr hscan⟩
      rw [heq] at htotal ⊢
      exact htotal.elim id id

theorem StampLe.trans {r'' : SourceReport} (h : StampLe r r') (h' : StampLe r' r'') : StampLe r r'' := by
  simp only [StampLe, unitsLt_eq_true] at h h' ⊢
  rcases h with ⟨hle, hne⟩ | ⟨heq, hscan⟩
  · rcases h' with ⟨hle', hne'⟩ | ⟨heq', -⟩
    · refine .inl ⟨codeUnitLe_trans hle hle', ?_⟩
      intro heq
      exact hne (codeUnitLe_antisymm hle (heq ▸ hle'))
    · exact .inl (heq' ▸ ⟨hle, hne⟩)
  · rcases h' with ⟨hle', hne'⟩ | ⟨heq', hscan'⟩
    · exact .inl (heq ▸ ⟨hle', hne'⟩)
    · exact .inr ⟨heq.trans heq', codeUnitLe_trans hscan hscan'⟩

theorem StampLe.refl (r : SourceReport) : StampLe r r := by
  rcases codeUnitLe_total r.scanId r.scanId with h | h
  · exact .inr ⟨rfl, h⟩
  · exact .inr ⟨rfl, h⟩

/-- What is later is not earlier. -/
theorem stampLe_of_supersedes (h : supersedes r r' = true) : StampLe r' r := by
  rw [supersedes, Bool.or_eq_true, Bool.and_eq_true, decide_eq_true_eq] at h
  rcases h with h | ⟨heq, h⟩
  · exact .inl h
  · exact .inr ⟨heq.symm, (unitsLt_eq_true.mp h).1⟩

/-- A report of its URN that no other is later than. -/
def IsLatest (reports : List SourceReport) (r : SourceReport) : Prop :=
  r ∈ reports ∧ ∀ r' ∈ reports, r'.entity.urn = r.entity.urn → StampLe r' r

/-- What is kept is a latest report of each URN. -/
structure Kept (reports : List SourceReport) (latest : JsMap Urn SourceReport) : Prop where
  greatest : ∀ urn r, latest.get urn = some r → r.entity.urn = urn ∧ IsLatest reports r
  all : ∀ r ∈ reports, latest.has r.entity.urn = true

theorem Kept.merge {latest : JsMap Urn SourceReport} (h : Kept reports latest) (r : SourceReport) :
    Kept (reports ++ [r]) (mergeReport latest r) := by
  have hmem : ∀ {r'}, r' ∈ reports ++ [r] → r' ∈ reports ∨ r' = r := by
    intro r' hr'
    rcases List.mem_append.mp hr' with hr' | hr'
    · exact .inl hr'
    · exact .inr (List.mem_singleton.mp hr')
  -- the report is set, and is no earlier than those before it
  have hset : (∀ r' ∈ reports, r'.entity.urn = r.entity.urn → StampLe r' r) →
      Kept (reports ++ [r]) (latest.set r.entity.urn r) := by
    intro hlater
    refine ⟨?_, ?_⟩
    · intro urn r₁ hr₁
      rw [JsMap.get_set] at hr₁
      split at hr₁
      case isTrue hurn =>
        obtain rfl := Option.some.inj hr₁
        refine ⟨hurn, by simp, ?_⟩
        intro r' hr' hsame
        rcases hmem hr' with hr' | rfl
        · exact hlater r' hr' hsame
        · exact .refl _
      case isFalse hurn =>
        obtain ⟨rfl, hin, hmax⟩ := h.greatest urn r₁ hr₁
        refine ⟨rfl, List.mem_append_left _ hin, ?_⟩
        intro r' hr' hsame
        rcases hmem hr' with hr' | rfl
        · exact hmax r' hr' hsame
        · exact absurd hsame hurn
    · intro r' hr'
      rw [JsMap.has_eq_true, JsMap.get_set]
      split
      case isTrue => exact ⟨r, rfl⟩
      case isFalse hurn =>
        rcases hmem hr' with hr' | rfl
        · exact JsMap.has_eq_true.mp (h.all r' hr')
        · exact absurd rfl hurn
  rw [mergeReport]
  cases hget : latest.get r.entity.urn with
  | none =>
    refine hset fun r' hr' hsame => ?_
    have hhas := h.all r' hr'
    rw [hsame, JsMap.has_eq_false.mpr hget] at hhas
    cases hhas
  | some cur =>
    obtain ⟨hcur, hin, hmax⟩ := h.greatest _ cur hget
    dsimp only
    split
    case isTrue hlater =>
      exact hset fun r' hr' hsame =>
        (hmax r' hr' (hsame.trans hcur.symm)).trans (stampLe_of_supersedes hlater)
    case isFalse hearlier =>
      have hle := supersedes_eq_false.mp (Bool.eq_false_iff.mpr hearlier)
      refine ⟨?_, ?_⟩
      · intro urn r₁ hr₁
        obtain ⟨rfl, hin₁, hmax₁⟩ := h.greatest urn r₁ hr₁
        refine ⟨rfl, List.mem_append_left _ hin₁, ?_⟩
        intro r' hr' hsame
        rcases hmem hr' with hr' | rfl
        · exact hmax₁ r' hr' hsame
        · rw [hsame] at hget
          obtain rfl := Option.some.inj (hr₁.symm.trans hget)
          exact hle
      · intro r' hr'
        rcases hmem hr' with hr' | rfl
        · exact h.all r' hr'
        · exact JsMap.has_eq_true.mpr ⟨cur, hget⟩

/-- **Of the reports of each URN a latest is kept.** -/
theorem kept_latestOf (reports : List SourceReport) : Kept reports (latestOf reports) := by
  induction reports using List.reverseRecOn with
  | nil =>
    constructor
    · intro urn r hr
      cases hr
    · intro r hr
      cases hr
  | append_singleton reports r ih =>
    rw [latestOf, List.foldl_append]
    exact ih.merge r

end Latest

/-! ## 4. The order of the reports -/

section Order

variable {reports reports' : List SourceReport} {r r' : SourceReport} {e : CatalogEntity}

theorem mergeLatest_eq (reports : List SourceReport) :
    mergeLatest reports = ((latestOf reports).values.map (·.entity)).insertionSort UrnLe :=
  List.map_insertionSort (fun a b : SourceReport => UrnLe a.entity b.entity) UrnLe (·.entity) _
    fun _ _ _ _ => Iff.rfl

/-- The entities that are merged have different URNs. -/
theorem nodup_mergeLatest (reports : List SourceReport) : ((mergeLatest reports).map (·.urn)).Nodup := by
  rw [mergeLatest_eq]
  refine ((List.perm_insertionSort _ _).map _).nodup_iff.mpr ?_
  have hkeys : ((latestOf reports).values.map (·.entity)).map (·.urn) = (latestOf reports).keys := by
    rw [JsMap.values, JsMap.keys, List.map_map, List.map_map]
    refine List.map_congr_left fun entry hentry => ?_
    exact ((kept_latestOf reports).greatest entry.1 entry.2 (JsMap.mem_iff_get.mp hentry)).1
  rw [hkeys]
  exact (latestOf reports).nodup

theorem mem_mergeLatest : e ∈ mergeLatest reports ↔ ∃ r, (latestOf reports).get e.urn = some r ∧ r.entity = e := by
  rw [mergeLatest_eq, (List.perm_insertionSort _ _).mem_iff, List.mem_map]
  constructor
  · rintro ⟨r, hr, rfl⟩
    obtain ⟨urn, hurn⟩ := JsMap.mem_values.mp hr
    obtain ⟨rfl, -⟩ := (kept_latestOf reports).greatest urn r hurn
    exact ⟨r, hurn, rfl⟩
  · rintro ⟨r, hr, rfl⟩
    exact ⟨r, JsMap.mem_values.mpr ⟨_, hr⟩, rfl⟩

/-- The latest reports of each URN carry one entity. -/
def Settled (reports : List SourceReport) : Prop :=
  ∀ r r', IsLatest reports r → IsLatest reports r' → r.entity.urn = r'.entity.urn → r.entity = r'.entity

theorem IsLatest.perm (h : reports.Perm reports') (hr : IsLatest reports r) : IsLatest reports' r :=
  ⟨h.mem_iff.mp hr.1, fun r' hr' => hr.2 r' (h.mem_iff.mpr hr')⟩

/-- What is merged is what the latest reports carry, where they agree. -/
theorem mem_mergeLatest_of_perm (hsettled : Settled reports) (h : reports'.Perm reports)
    (he : e ∈ mergeLatest reports') : e ∈ mergeLatest reports := by
  obtain ⟨r, hr, rfl⟩ := mem_mergeLatest.mp he
  obtain ⟨-, hlatest⟩ := (kept_latestOf reports').greatest _ r hr
  have hlatest := hlatest.perm h
  obtain ⟨r₁, hr₁⟩ := JsMap.has_eq_true.mp ((kept_latestOf reports).all r hlatest.1)
  obtain ⟨hurn, hlatest₁⟩ := (kept_latestOf reports).greatest _ r₁ hr₁
  exact mem_mergeLatest.mpr ⟨r₁, hr₁, hsettled r₁ r hlatest₁ hlatest hurn⟩

theorem Settled.perm (hsettled : Settled reports) (h : reports.Perm reports') : Settled reports' :=
  fun r r' hr hr' => hsettled r r' (hr.perm h.symm) (hr'.perm h.symm)

/-- **Reports whose latest agree are merged alike in every order.** -/
theorem mergeLatest_perm (hsettled : Settled reports) (h : reports'.Perm reports) :
    mergeLatest reports' = mergeLatest reports := by
  have hnodup : ∀ reports, (mergeLatest reports).Nodup := fun reports =>
    (nodup_mergeLatest reports).of_map _
  have hperm : (mergeLatest reports').Perm (mergeLatest reports) := by
    refine (List.perm_ext_iff_of_nodup (hnodup reports') (hnodup reports)).mpr fun e => ⟨?_, ?_⟩
    · exact mem_mergeLatest_of_perm hsettled h
    · exact mem_mergeLatest_of_perm (hsettled.perm h.symm) h.symm
  have hsorted : ∀ reports, (mergeLatest reports).Pairwise UrnLe := by
    intro reports
    rw [mergeLatest_eq]
    exact List.pairwise_insertionSort _ _
  refine List.Perm.eq_of_pairwise ?_ (hsorted reports') (hsorted reports) hperm
  intro a b ha hb hab hba
  exact List.inj_on_of_nodup_map (nodup_mergeLatest reports') ha (hperm.mem_iff.mpr hb)
    (codeUnitLe_antisymm hab hba)

/-- A latest report that comes first is kept. -/
theorem get_foldl_mergeReport {latest : JsMap Urn SourceReport}
    (hget : latest.get r.entity.urn = some r)
    (hmax : ∀ r' ∈ reports, r'.entity.urn = r.entity.urn → StampLe r' r) :
    (reports.foldl mergeReport latest).get r.entity.urn = some r := by
  induction reports generalizing latest with
  | nil => exact hget
  | cons r' reports ih =>
    refine ih ?_ fun r'' hr'' => hmax r'' (.tail _ hr'')
    have hother : r'.entity.urn ≠ r.entity.urn →
        (latest.set r'.entity.urn r').get r.entity.urn = some r := fun hne => by
      rw [JsMap.get_set_of_ne hne, hget]
    rw [mergeReport]
    by_cases hsame : r'.entity.urn = r.entity.urn
    · have hle := supersedes_eq_false.mpr (hmax r' (.head _) hsame)
      rw [hsame, hget]
      dsimp only
      rw [hle, if_neg Bool.false_ne_true]
      exact hget
    · cases latest.get r'.entity.urn with
      | none => exact hother hsame
      | some cur =>
        dsimp only
        split
        case isTrue => exact hother hsame
        case isFalse => exact hget

theorem mem_mergeLatest_of_head (h : IsLatest reports r) :
    r.entity ∈ mergeLatest (r :: reports.erase r) := by
  refine mem_mergeLatest.mpr ⟨r, ?_, rfl⟩
  have hfirst : latestOf (r :: reports.erase r)
      = (reports.erase r).foldl mergeReport (JsMap.empty.set r.entity.urn r) := rfl
  rw [hfirst]
  exact get_foldl_mergeReport (JsMap.get_set_self _ _ _) fun r' hr' =>
    h.2 r' (List.mem_of_mem_erase hr')

/-- **Merged alike in every order only where the latest reports agree.** -/
theorem settled_of_mergeLatest
    (h : ∀ reports', reports'.Perm reports → mergeLatest reports' = mergeLatest reports) :
    Settled reports := by
  have hfirst : ∀ {r}, IsLatest reports r → r.entity ∈ mergeLatest reports := by
    intro r hr
    rw [← h _ (List.perm_cons_erase hr.1).symm]
    exact mem_mergeLatest_of_head hr
  intro r r' hr hr' hurn
  exact List.inj_on_of_nodup_map (nodup_mergeLatest reports) (hfirst hr) (hfirst hr') hurn

theorem laterScan_comm (acc : Text) (a b : SourceReport) :
    laterScan (laterScan acc a) b = laterScan (laterScan acc b) a := by
  have hmax : ∀ (s : Text) (r : SourceReport), laterScan s r
      = if codeUnitLe r.scanId s = true then s else r.scanId := by
    intro s r
    rw [laterScan, unitsLt]
    cases codeUnitLe r.scanId s <;> rfl
  simp only [hmax]
  grind [codeUnitLe_total, codeUnitLe_trans, codeUnitLe_antisymm]

theorem foldl_laterScan_perm (h : reports.Perm reports') (acc : Text) :
    reports.foldl laterScan acc = reports'.foldl laterScan acc :=
  h.foldl_eq' (fun a _ b _ acc => laterScan_comm acc a b) acc

theorem snapshotFromReports_congr {context : SnapshotTopologyContext}
    (hmerged : mergeLatest reports' = mergeLatest reports)
    (hscan : reports'.foldl laterScan [] = reports.foldl laterScan []) :
    snapshotFromReports reports' context = snapshotFromReports reports context := by
  simp only [snapshotFromReports, hmerged, hscan]

/-- **The order of the reports.**  The merged entities and the snapshot, whatever its context, are the
same for every order of the reports exactly when the latest reports of each URN carry one entity. -/
theorem merged_iff (reports : List SourceReport) :
    (∀ reports', reports'.Perm reports → mergeLatest reports' = mergeLatest reports
        ∧ ∀ context, snapshotFromReports reports' context = snapshotFromReports reports context)
      ↔ ∀ r r', IsLatest reports r → IsLatest reports r' → r.entity.urn = r'.entity.urn →
        r.entity = r'.entity := by
  constructor
  · intro h
    exact settled_of_mergeLatest fun reports' hperm => (h reports' hperm).1
  · intro hsettled reports' hperm
    have hmerged := mergeLatest_perm hsettled hperm
    exact ⟨hmerged, fun context =>
      snapshotFromReports_congr hmerged (foldl_laterScan_perm hperm [])⟩

/-- A report of a dataset with a description. -/
def described (description : String) : SourceReport where
  source := js "dbt"
  scanId := js "scan-1"
  createdAt := js "2026-07-11T00:00:00.000Z"
  entity := { dataset "urn:a" [] with description := some (some (js description)) }

/-- Two reports of one scan, one at the same time, and the order decides which is kept. -/
theorem described_ordered :
    mergeLatest [described "old", described "new"] ≠ mergeLatest [described "new", described "old"] := by
  decide +kernel

end Order

/-! ## 5. The entities of a snapshot -/

/-- The URNs of the context are the last thing that is added. -/
theorem eq_of_addKnown {known : JsSet Urn} {urns : List Urn} {snapshot : CatalogSnapshot}
    {make : JsSet Urn → CatalogSnapshot}
    (h : (addKnown known urns >>= fun knownUrns => pure (make knownUrns)) = (.ok snapshot : Assembly _)) :
    ∃ knownUrns, snapshot = make knownUrns := by
  cases hadd : addKnown known urns with
  | error e =>
    rw [hadd] at h
    cases h
  | ok knownUrns =>
    rw [hadd] at h
    exact ⟨knownUrns, (Except.ok.inj h).symm⟩

/-- What a snapshot has of its reports. -/
theorem snapshot_cases {reports : List SourceReport} {context : SnapshotTopologyContext}
    {snapshot : CatalogSnapshot} (h : snapshotFromReports reports context = .ok snapshot) :
    snapshot.entities = mergeLatest reports
      ∧ ((∃ proven, copyProvenDownstream (mergeLatest reports) proven = .ok snapshot.downstreamByRoot)
        ∨ snapshot.downstreamByRoot = (deriveDownstreamByRoot (mergeLatest reports)
          (context.topologyEntities.getD (mergeLatest reports))).get (deriveDownstreamByRoot_isSome _ _)) := by
  rw [snapshotFromReports] at h
  split at h
  case isTrue => cases h
  case isFalse =>
    cases hproven : context.downstreamByRoot with
    | some proven =>
      cases hcopy : copyProvenDownstream (mergeLatest reports) proven with
      | error e =>
        rw [hproven] at h
        simp only [hcopy] at h
        cases h
      | ok downstreamByRoot =>
        rw [hproven] at h
        simp only [hcopy] at h
        obtain ⟨knownUrns, rfl⟩ := eq_of_addKnown h
        exact ⟨rfl, Or.inl ⟨proven, hcopy⟩⟩
    | none =>
      rw [hproven] at h
      obtain ⟨knownUrns, rfl⟩ := eq_of_addKnown h
      exact ⟨rfl, Or.inr rfl⟩

/-- No entity of a snapshot stands twice. -/
theorem distinct_of_snapshot {reports : List SourceReport} {context : SnapshotTopologyContext}
    {snapshot : CatalogSnapshot} (h : snapshotFromReports reports context = .ok snapshot) :
    (snapshot.entities.map (·.urn)).Nodup := by
  rw [(snapshot_cases h).1]
  exact nodup_mergeLatest reports

end Lineage
