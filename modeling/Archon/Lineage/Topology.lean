/-
# The assets downstream of each root

What a harvest knows of a catalog (`models.ts`), and the topology that is derived from it
(`deriveDownstreamByRoot` of `mcp-client.ts`): the edges declared by the entities are turned round
into sets of consumers, and from each audited root a breadth-first search finds what consumes it,
directly or not.

An edge counts where it is resolved and its upstream is an entity.  Where an URN stands twice the
audited entity wins, and the last of several (`byUrnOf`).  `downstream_exact` says what is found: for
each root the points of the graph other than itself, each once, with the length of a shortest walk,
the nearest first.
-/
import Archon.Ecma.Tree
import Archon.Graphs.Distance

namespace Lineage

open Ecma Graphs

/-! ## 1. What a harvest knows -/

/-- A DataHub URN. -/
abbrev Urn := Text

/-- One column of a dataset. -/
structure SchemaField where
  path : Text
  type : Option Text
  tags : Option (List Text)
  glossaryTerms : Option (List Text)
deriving DecidableEq

/-- A lineage edge, from the entity that reads to `upstream`. -/
structure LineageEdge where
  upstream : Urn
  upstreamResolved : Bool
  type : Option Text
deriving DecidableEq

/-- An entity proven reachable downstream of a root. -/
structure LineageTopologyNode where
  urn : Urn
  minHops : ℕ
  entityType : Text
  deprecated : Bool
deriving DecidableEq

/-- A dataset of the catalog.  A member that may also be `null` is an option twice. -/
structure CatalogEntity where
  urn : Urn
  name : Text
  platform : Text
  source : Text
  fabric : Option Text
  description : Option (Option Text)
  owners : Option (List Urn)
  domain : Option (Option Urn)
  tags : Option (List Text)
  glossaryTerms : Option (List Text)
  deprecated : Option Bool
  fields : Option (List SchemaField)
  upstreams : Option (List LineageEdge)
deriving DecidableEq

/-- What a harvest returns. -/
structure CatalogSnapshot where
  scanId : Text
  entities : List CatalogEntity
  knownUrns : JsSet Urn
  downstreamByRoot : JsMap Urn (List LineageTopologyNode)

/-- A dataset with its upstreams. -/
def dataset (urn : String) (upstreams : List String) : CatalogEntity where
  urn := js urn
  name := js urn
  platform := js "snowflake"
  source := js "fixture"
  fabric := none
  description := none
  owners := none
  domain := none
  tags := none
  glossaryTerms := none
  deprecated := none
  fields := none
  upstreams := some (upstreams.map fun upstream => ⟨js upstream, true, none⟩)

/-! ## 2. Orders -/

/-- The order of `sort()` on strings. -/
def UnitsLe (s t : Text) : Prop := codeUnitLe s t = true

instance : DecidableRel UnitsLe := fun s t => inferInstanceAs (Decidable (codeUnitLe s t = true))

instance : Std.Total UnitsLe := ⟨codeUnitLe_total⟩

instance : IsTrans Text UnitsLe := ⟨fun _ _ _ h h' => codeUnitLe_trans h h'⟩

/-- `values.sort()`. -/
def sortUnits (values : List Text) : List Text := values.insertionSort UnitsLe

@[simp] theorem mem_sortUnits {values : List Text} {t : Text} : t ∈ sortUnits values ↔ t ∈ values :=
  (List.perm_insertionSort UnitsLe values).mem_iff

/-- The nearer first, and at one distance by URN. -/
def NearerLe (a b : Urn × ℕ) : Prop := a.2 < b.2 ∨ a.2 = b.2 ∧ codeUnitLe a.1 b.1 = true

instance : DecidableRel NearerLe := fun a b =>
  inferInstanceAs (Decidable (a.2 < b.2 ∨ a.2 = b.2 ∧ codeUnitLe a.1 b.1 = true))

instance : Std.Total NearerLe := ⟨fun a b => by
  rcases lt_trichotomy a.2 b.2 with h | h | h
  · exact .inl (.inl h)
  · rcases codeUnitLe_total a.1 b.1 with hle | hle
    · exact .inl (.inr ⟨h, hle⟩)
    · exact .inr (.inr ⟨h.symm, hle⟩)
  · exact .inr (.inl h)⟩

instance : IsTrans (Urn × ℕ) NearerLe := ⟨fun a b c h h' => by
  rcases h with h | ⟨h, hle⟩
  · rcases h' with h' | ⟨h', -⟩
    · exact .inl (h.trans h')
    · exact .inl (h' ▸ h)
  · rcases h' with h' | ⟨h', hle'⟩
    · exact .inl (h ▸ h')
    · exact .inr ⟨h.trans h', codeUnitLe_trans hle hle'⟩⟩

theorem NearerLe.le {a b : Urn × ℕ} (h : NearerLe a b) : a.2 ≤ b.2 := by
  rcases h with h | ⟨h, -⟩
  · exact h.le
  · exact h.le

namespace LineageTopologyNode

/-- The URN and the distance of a node. -/
def place (node : LineageTopologyNode) : Urn × ℕ := (node.urn, node.minHops)

/-- The order of the nodes. -/
def Le (a b : LineageTopologyNode) : Prop := NearerLe a.place b.place

instance : DecidableRel Le := fun a b => inferInstanceAs (Decidable (NearerLe a.place b.place))

instance : Std.Total Le := ⟨fun a b => Std.Total.total (r := NearerLe) a.place b.place⟩

instance : IsTrans LineageTopologyNode Le :=
  ⟨fun a b c h h' => IsTrans.trans (r := NearerLe) a.place b.place c.place h h'⟩

end LineageTopologyNode

/-- `nodes.sort(…)`. -/
def sortNodes (nodes : List LineageTopologyNode) : List LineageTopologyNode :=
  nodes.insertionSort LineageTopologyNode.Le

theorem sortNodes_perm (nodes : List LineageTopologyNode) : (sortNodes nodes).Perm nodes :=
  List.perm_insertionSort _ nodes

theorem pairwise_sortNodes (nodes : List LineageTopologyNode) :
    (sortNodes nodes).Pairwise fun a b => a.minHops ≤ b.minHops :=
  (List.pairwise_insertionSort LineageTopologyNode.Le nodes).imp fun h => h.le

/-! ## 3. The topology -/

/-- The entities by URN; an audited one wins. -/
def byUrnOf (roots topologyEntities : List CatalogEntity) : JsMap Urn CatalogEntity :=
  roots.foldl (fun byUrn root => byUrn.set root.urn root)
    (topologyEntities.foldl (fun byUrn entity => byUrn.set entity.urn entity) .empty)

/-- An edge of an entity is turned round. -/
def addConsumer (byUrn : JsMap Urn CatalogEntity) (entity : CatalogEntity)
    (consumers : JsMap Urn (JsSet Urn)) (edge : LineageEdge) : JsMap Urn (JsSet Urn) :=
  if !edge.upstreamResolved || !byUrn.has edge.upstream then consumers
  else consumers.set edge.upstream (((consumers.get edge.upstream).getD .empty).add entity.urn)

/-- The consumers of each entity. -/
def directConsumersOf (byUrn : JsMap Urn CatalogEntity) : JsMap Urn (JsSet Urn) :=
  byUrn.values.foldl
    (fun consumers entity => (entity.upstreams.getD []).foldl (addConsumer byUrn entity) consumers)
    .empty

/-- The consumers of one, in the order in which the search takes them. -/
def consumersOf (directConsumers : JsMap Urn (JsSet Urn)) (urn : Urn) : List Urn :=
  sortUnits ((directConsumers.get urn).getD .empty).keys

/-- A node for what was found. -/
def topologyNode (byUrn : JsMap Urn CatalogEntity) (found : Urn × ℕ) : Option LineageTopologyNode :=
  (byUrn.get found.1).map fun entity => {
    urn := found.1
    minHops := found.2
    entityType := js "DATASET"
    deprecated := entity.deprecated = some true }

/-- What is downstream of one root; `none` where the search does not end in a round for every entity
and two more, or finds what is no entity, which do not happen (`downstreamOf_spec`). -/
def downstreamOf (byUrn : JsMap Urn CatalogEntity) (directConsumers : JsMap Urn (JsSet Urn))
    (root : Urn) : Option (List LineageTopologyNode) := do
  let distances ← search (fun _ urn => consumersOf directConsumers urn) root (byUrn.keys.length + 2)
    [(root, 0)] .empty
  let nodes ← distances.entries.mapM (topologyNode byUrn)
  return sortNodes nodes

/-- `deriveDownstreamByRoot(roots, topologyEntities)`. -/
def deriveDownstreamByRoot (roots topologyEntities : List CatalogEntity) :
    Option (JsMap Urn (List LineageTopologyNode)) :=
  let byUrn := byUrnOf roots topologyEntities
  let directConsumers := directConsumersOf byUrn
  roots.foldlM (fun downstreamByRoot root => do
    return downstreamByRoot.set root.urn (← downstreamOf byUrn directConsumers root.urn)) .empty

/-! ## 4. The graph of the edges -/

/-- An edge of the graph: `consumer` is an entity that declares a resolved upstream `urn`, which is
an entity too. -/
def Feeds (byUrn : JsMap Urn CatalogEntity) (urn consumer : Urn) : Prop :=
  ∃ entity, byUrn.get consumer = some entity ∧ byUrn.has urn = true
    ∧ ∃ edge ∈ entity.upstreams.getD [], edge.upstream = urn ∧ edge.upstreamResolved = true

section Graph

variable {roots topologyEntities : List CatalogEntity} {byUrn : JsMap Urn CatalogEntity} {urn v : Urn}

theorem urn_of_foldl_set {entities : List CatalogEntity}
    (hbyUrn : ∀ k e, byUrn.get k = some e → e.urn = k) (k : Urn) (e : CatalogEntity)
    (h : (entities.foldl (fun byUrn entity => byUrn.set entity.urn entity) byUrn).get k = some e) :
    e.urn = k := by
  induction entities generalizing byUrn with
  | nil => exact hbyUrn k e h
  | cons entity entities ih =>
    refine ih (fun k' e' h' => ?_) h
    rw [JsMap.get_set] at h'
    split at h'
    case isTrue hk =>
      obtain rfl := Option.some.inj h'
      exact hk
    case isFalse => exact hbyUrn k' e' h'

theorem urn_of_empty (k : Urn) (e : CatalogEntity)
    (h : (JsMap.empty : JsMap Urn CatalogEntity).get k = some e) : e.urn = k := by
  cases h

/-- An entity stands under its own URN. -/
theorem urn_of_byUrnOf {k : Urn} {e : CatalogEntity}
    (h : (byUrnOf roots topologyEntities).get k = some e) : e.urn = k :=
  urn_of_foldl_set (urn_of_foldl_set fun k e => urn_of_empty k e) k e h

/-- The edges of the entities, turned round, in the order in which the source meets them. -/
def turned (byUrn : JsMap Urn CatalogEntity) : List (Urn × Urn) :=
  byUrn.values.flatMap fun entity =>
    ((entity.upstreams.getD []).filter fun edge => edge.upstreamResolved && byUrn.has edge.upstream).map
      fun edge => (edge.upstream, entity.urn)

theorem directConsumersOf_eq (byUrn : JsMap Urn CatalogEntity) :
    directConsumersOf byUrn = (turned byUrn).foldl
      (fun consumers p => consumers.set p.1 (JsSet.add ((consumers.get p.1).getD .empty) p.2)) .empty := by
  rw [directConsumersOf, turned, List.foldl_flatMap]
  congr 1
  funext consumers entity
  rw [List.foldl_map, List.foldl_filter]
  congr 1
  funext consumers edge
  rw [addConsumer]
  cases edge.upstreamResolved <;> cases byUrn.has edge.upstream <;> rfl

theorem mem_turned {u : Urn} : (u, v) ∈ turned byUrn ↔ ∃ entity ∈ byUrn.values, entity.urn = v
    ∧ byUrn.has u = true ∧ ∃ edge ∈ entity.upstreams.getD [], edge.upstream = u
      ∧ edge.upstreamResolved = true := by
  simp only [turned, List.mem_flatMap, List.mem_map, List.mem_filter, Bool.and_eq_true, Prod.mk.injEq]
  constructor
  · rintro ⟨entity, hentity, edge, ⟨hedge, hresolved, hhas⟩, rfl, hv⟩
    exact ⟨entity, hentity, hv, hhas, edge, hedge, rfl, hresolved⟩
  · rintro ⟨entity, hentity, hv, hhas, edge, hedge, rfl, hresolved⟩
    exact ⟨entity, hentity, edge, ⟨hedge, hresolved, hhas⟩, rfl, hv⟩

/-- **The consumers are the edges of the graph.** -/
theorem mem_consumersOf (hbyUrn : ∀ k e, byUrn.get k = some e → e.urn = k) :
    v ∈ consumersOf (directConsumersOf byUrn) urn ↔ Feeds byUrn urn v := by
  rw [consumersOf, mem_sortUnits, directConsumersOf_eq, JsMap.getD_foldl_set, JsSet.mem_keys_foldl_add]
  have hempty : v ∉ (((JsMap.empty : JsMap Urn (JsSet Urn)).get urn).getD JsMap.empty).keys :=
    List.not_mem_nil
  rw [or_iff_left hempty, List.mem_map]
  have hpair : (∃ p ∈ (turned byUrn).filter (fun p => p.1 = urn), p.2 = v) ↔ (urn, v) ∈ turned byUrn := by
    simp
  rw [hpair, mem_turned]
  constructor
  · rintro ⟨entity, hentity, rfl, hhas, hedge⟩
    obtain ⟨k, hk⟩ := JsMap.mem_values.mp hentity
    have hurn := hbyUrn k entity hk
    rw [← hurn] at hk
    exact ⟨entity, hk, hhas, hedge⟩
  · rintro ⟨entity, hentity, hhas, hedge⟩
    exact ⟨entity, JsMap.mem_values.mpr ⟨v, hentity⟩, hbyUrn v entity hentity, hhas, hedge⟩

end Graph

/-! ## 5. What is found -/

section Found

variable {byUrn : JsMap Urn CatalogEntity} {root : Urn}

theorem mapM_topologyNode {found : List (Urn × ℕ)} (h : ∀ e ∈ found, byUrn.has e.1 = true) :
    ∃ nodes, found.mapM (topologyNode byUrn) = some nodes
      ∧ nodes.map LineageTopologyNode.place = found := by
  induction found with
  | nil => exact ⟨[], rfl, rfl⟩
  | cons e found ih =>
    obtain ⟨entity, hentity⟩ := JsMap.has_eq_true.mp (h e (.head _))
    obtain ⟨nodes, hnodes, hat⟩ := ih fun e he => h e (.tail _ he)
    refine ⟨⟨e.1, e.2, js "DATASET", entity.deprecated = some true⟩ :: nodes, ?_, ?_⟩
    · rw [List.mapM_cons, topologyNode, hentity, hnodes]
      rfl
    · rw [List.map_cons, hat]
      rfl

/-- **What is found downstream of one root.** -/
theorem downstreamOf_spec (hbyUrn : ∀ k e, byUrn.get k = some e → e.urn = k) (root : Urn) :
    ∃ nodes, downstreamOf byUrn (directConsumersOf byUrn) root = some nodes
      ∧ (nodes.map (·.urn)).Nodup
      ∧ nodes.Pairwise (fun a b => a.minHops ≤ b.minHops)
      ∧ ∀ v n, (∃ node ∈ nodes, node.urn = v ∧ node.minHops = n)
          ↔ v ≠ root ∧ Distance (Feeds byUrn) root v n := by
  have hnext : ∀ (hops : ℕ) u v, v ∈ consumersOf (directConsumersOf byUrn) u
      ↔ Feeds byUrn u v ∧ (hops : ℕ∞) < ⊤ := by
    intro hops u v
    rw [mem_consumersOf hbyUrn, and_iff_left (ENat.natCast_lt_top hops)]
  have hpoint : ∀ u v, Feeds byUrn u v → byUrn.has v = true := by
    rintro u v ⟨entity, hentity, -⟩
    exact JsMap.has_eq_true.mpr ⟨entity, hentity⟩
  have hends : (search (fun _ u => consumersOf (directConsumersOf byUrn) u) root
      (byUrn.keys.length + 2) [(root, 0)] .empty).isSome = true := by
    have hkeys : ∀ (hops : ℕ) u v, v ∈ consumersOf (directConsumersOf byUrn) u → v ∈ byUrn.keys :=
      fun hops u v hv =>
        JsMap.mem_keys.mpr (JsMap.has_eq_true.mp (hpoint u v ((hnext hops u v).mp hv).1))
    exact search_isSome hkeys le_rfl
  obtain ⟨distances, hsearch⟩ := Option.isSome_iff_exists.mp hends
  have hget := search_get_iff hnext hsearch
  have hfound : ∀ e ∈ distances.entries, byUrn.has e.1 = true := by
    rintro ⟨v, n⟩ he
    obtain ⟨hroot, ⟨hwalk, -⟩, -⟩ := (hget v n).mp (JsMap.mem_iff_get.mp he)
    obtain ⟨u, hedge⟩ := hwalk.last hroot
    exact hpoint u v hedge
  obtain ⟨nodes, hnodes, hat⟩ := mapM_topologyNode hfound
  refine ⟨sortNodes nodes, ?_, ?_, pairwise_sortNodes nodes, ?_⟩
  · rw [downstreamOf, hsearch, Option.bind_eq_bind, Option.bind_some, hnodes]
    rfl
  · refine ((sortNodes_perm nodes).map _).nodup_iff.mpr ?_
    have hkeys := distances.nodup
    rw [← hat, List.map_map] at hkeys
    exact hkeys
  · intro v n
    have hmem : (∃ node ∈ sortNodes nodes, node.urn = v ∧ node.minHops = n)
        ↔ (v, n) ∈ nodes.map LineageTopologyNode.place := by
      simp [(sortNodes_perm nodes).mem_iff, LineageTopologyNode.place]
    rw [hmem, hat, JsMap.mem_iff_get, hget]
    simp

theorem foldlM_set {β : Type} {f : Urn → Option β} {g : Urn → β} {roots : List CatalogEntity}
    (h : ∀ root ∈ roots, f root.urn = some (g root.urn)) (m : JsMap Urn β) :
    roots.foldlM (fun m root => do return m.set root.urn (← f root.urn)) m
      = some (roots.foldl (fun m root => m.set root.urn (g root.urn)) m) := by
  induction roots generalizing m with
  | nil => rfl
  | cons root roots ih =>
    rw [List.foldlM_cons, h root (.head _), List.foldl_cons]
    exact ih (fun root hroot => h root (.tail _ hroot)) _

theorem get_foldl_set {β : Type} {g : Urn → β} (roots : List CatalogEntity) (m : JsMap Urn β) (k : Urn) :
    (roots.foldl (fun m root => m.set root.urn (g root.urn)) m).get k
      = if k ∈ roots.map (·.urn) then some (g k) else m.get k := by
  induction roots generalizing m with
  | nil => rfl
  | cons root roots ih =>
    rw [List.foldl_cons, ih, JsMap.get_set, List.map_cons]
    by_cases hk : root.urn = k
    · subst hk
      simp
    · simp [hk, Ne.symm hk]

/-- The derivation ends, with what is found downstream of each root under its URN. -/
theorem derived (roots topologyEntities : List CatalogEntity) :
    ∃ nodes : Urn → List LineageTopologyNode,
      (∀ root, (nodes root).map (·.urn) |>.Nodup)
        ∧ (∀ root, (nodes root).Pairwise fun a b => a.minHops ≤ b.minHops)
        ∧ (∀ root v n, (∃ node ∈ nodes root, node.urn = v ∧ node.minHops = n)
          ↔ v ≠ root ∧ Distance (Feeds (byUrnOf roots topologyEntities)) root v n)
        ∧ deriveDownstreamByRoot roots topologyEntities
          = some (roots.foldl (fun m root => m.set root.urn (nodes root.urn)) .empty) := by
  have hspec := downstreamOf_spec fun k e (h : (byUrnOf roots topologyEntities).get k = some e) =>
    urn_of_byUrnOf h
  choose nodes hnodes using hspec
  exact ⟨nodes, fun root => (hnodes root).2.1, fun root => (hnodes root).2.2.1,
    fun root => (hnodes root).2.2.2, foldlM_set (fun root _ => (hnodes root.urn).1) .empty⟩

/-- **The topology of every root.**  The derivation ends whatever the edges are.  Under the URN of
each root, and under no other, it leaves the entities that are reached from it other than itself,
each once, with the length of a shortest walk, the nearest first. -/
theorem downstream_exact (roots topologyEntities : List CatalogEntity) :
    ∃ downstreamByRoot, deriveDownstreamByRoot roots topologyEntities = some downstreamByRoot
      ∧ (∀ urn, downstreamByRoot.has urn = true ↔ ∃ root ∈ roots, root.urn = urn)
      ∧ ∀ root ∈ roots, ∃ nodes, downstreamByRoot.get root.urn = some nodes
        ∧ (nodes.map (·.urn)).Nodup
        ∧ nodes.Pairwise (fun a b => a.minHops ≤ b.minHops)
        ∧ ∀ v n, (∃ node ∈ nodes, node.urn = v ∧ node.minHops = n)
            ↔ v ≠ root.urn ∧ Distance (Feeds (byUrnOf roots topologyEntities)) root.urn v n := by
  obtain ⟨nodes, hnodup, horder, hmem, hderive⟩ := derived roots topologyEntities
  refine ⟨_, hderive, ?_, ?_⟩
  · intro urn
    rw [JsMap.has_eq_true, get_foldl_set]
    simp
  · intro root hroot
    refine ⟨nodes root.urn, ?_, hnodup root.urn, horder root.urn, hmem root.urn⟩
    rw [get_foldl_set, if_pos (List.mem_map.mpr ⟨root, hroot, rfl⟩)]

end Found

end Lineage
