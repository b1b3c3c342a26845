/-
# What a change of an asset reaches

`computeBlastRadius` of `blast-radius.ts`.  The subject of a finding is an URN, with the path of a
field behind a `#` or without; what is before the first `#` is looked up.  An asset with a list of
its own is answered from it.  For another the declared edges are turned round, its consumers are
found within the hop limit, and their lists are put together with the distances of the consumers.

`Pictures` says that the lists are sound and complete within the limit for a graph, and what is
listed then are the points of that graph with their distances (`listed_exact`), up to the limit on
the number of assets.  The rest says what the two warnings of the result are worth: `truncated`, and
the refusal to answer for an asset whose list is missing.
-/
import Archon.Lineage.Topology
import Mathlib.Data.List.TakeWhile
import Mathlib.Data.Rat.Floor

namespace Lineage

open Ecma Graphs

/-! ## 1. The code -/

/-- `DataHubHarvestError`. -/
structure DataHubHarvestError where
  code : String
  message : String
deriving DecidableEq

/-- An asset that is impacted: its URN and its `minHops`. -/
abbrev ImpactedAsset := Urn × ℕ

/-- How many are. -/
inductive Impact where
  | none | low | medium | high | critical
deriving DecidableEq

structure BlastRadiusResult where
  rootUrn : Urn
  downstream : List ImpactedAsset
  maxHops : ℕ
  truncated : Bool
  impact : Impact
deriving DecidableEq

/-- The options; a limit is a number. -/
structure BlastRadiusOptions where
  maxHops : Option ℚ := none
  maxAssets : Option ℚ := none

/-- `impactOf(count)`. -/
def impactOf (count : ℕ) : Impact :=
  if count = 0 then .none
  else if count ≤ 2 then .low
  else if count ≤ 5 then .medium
  else if count ≤ 20 then .high
  else .critical

/-- `Math.max(1, Math.min(most, Math.floor(limit ?? usual)))`. -/
def bounded (most usual : ℤ) (limit : Option ℚ) : ℕ :=
  (max 1 (min most ((limit.map Int.floor).getD usual))).toNat

/-- The hop limit of a call. -/
def BlastRadiusOptions.hops (options : BlastRadiusOptions) : ℕ := bounded 10 3 options.maxHops

/-- The limit on the number of assets of a call. -/
def BlastRadiusOptions.assets (options : BlastRadiusOptions) : ℕ := bounded 10000 500 options.maxAssets

/-- `assets.sort(compareImpacted)`. -/
def sortImpacted (assets : List ImpactedAsset) : List ImpactedAsset := assets.insertionSort NearerLe

/-- `fromProvenTopology(rootUrn, nodes, maxHops, maxAssets)`. -/
def fromProvenTopology (rootUrn : Urn) (nodes : List LineageTopologyNode) (maxHops maxAssets : ℕ) :
    BlastRadiusResult :=
  let withinHopBound := sortImpacted
    ((nodes.filter fun node => node.minHops ≤ maxHops).map LineageTopologyNode.place)
  let downstream := withinHopBound.take maxAssets
  { rootUrn := rootUrn
    downstream := downstream
    maxHops := maxHops
    truncated := nodes.any (fun node => maxHops < node.minHops)
      || decide (maxAssets < withinHopBound.length)
    impact := impactOf downstream.length }

/-- The edges that an entity declares, turned round. -/
def pushConsumers (consumers : JsMap Urn (List Urn)) (entity : CatalogEntity) : JsMap Urn (List Urn) :=
  (entity.upstreams.getD []).foldl
    (fun consumers edge =>
      consumers.set edge.upstream ((consumers.get edge.upstream).getD [] ++ [entity.urn]))
    consumers

/-- The consumers of each URN, sorted. -/
def consumersBy (snapshot : CatalogSnapshot) : JsMap Urn (List Urn) :=
  (snapshot.entities.foldl pushConsumers .empty).mapValues sortUnits

/-- `consumers.get(urn) ?? []`. -/
def consumersAt (consumers : JsMap Urn (List Urn)) (urn : Urn) : List Urn := (consumers.get urn).getD []

/-- The loop over the queue of consumers; `none` where the rounds do not suffice. -/
def explore (maxHops : ℕ) (consumers : JsMap Urn (List Urn)) (rootUrn : Urn) :
    ℕ → List (Urn × ℕ) → JsMap Urn ℕ → Bool → Option (JsMap Urn ℕ × Bool)
  | 0, _, _, _ => none
  | _ + 1, [], distances, truncated => some (distances, truncated)
  | rounds + 1, current :: queue, distances, truncated =>
    if maxHops ≤ current.2 then
      explore maxHops consumers rootUrn rounds queue distances
        (truncated || !(consumersAt consumers current.1).isEmpty)
    else
      let s := (consumersAt consumers current.1).foldl (visit rootUrn current.2) (queue, distances)
      explore maxHops consumers rootUrn rounds s.1 s.2 truncated

/-- A node of a consumer's list: the distances, and whether something was left out. -/
def composeNode (rootUrn : Urn) (maxHops consumerHops : ℕ) (s : JsMap Urn ℕ × Bool)
    (node : LineageTopologyNode) : JsMap Urn ℕ × Bool :=
  let minHops := consumerHops + node.minHops
  if maxHops < minHops then (s.1, true)
  else if node.urn ≠ rootUrn ∧ ∀ current ∈ s.1.get node.urn, minHops < current then
    (s.1.set node.urn minHops, s.2)
  else s

/-- The list of a consumer. -/
def composeConsumer (snapshot : CatalogSnapshot) (rootUrn : Urn) (maxHops : ℕ)
    (s : JsMap Urn ℕ × Bool) (consumer : Urn × ℕ) :
    Except DataHubHarvestError (JsMap Urn ℕ × Bool) :=
  match snapshot.downstreamByRoot.get consumer.1 with
  | none => throw ⟨"LINEAGE_RESPONSE_INCOMPLETE",
      "Complete downstream lineage is unavailable for an audited consumer."⟩
  | some consumerTopology =>
    return consumerTopology.foldl (composeNode rootUrn maxHops consumer.2) s

/-! ## 2. The loop over the queue -/

section Exploring

variable {maxHops rounds : ℕ} {consumers : JsMap Urn (List Urn)} {root : Urn}

/-- What follows from an URN, within the limit. -/
def nextWithin (maxHops : ℕ) (consumers : JsMap Urn (List Urn)) (hops : ℕ) (urn : Urn) : List Urn :=
  if maxHops ≤ hops then [] else consumersAt consumers urn

/-- An URN at the limit that has consumers. -/
def overrun (maxHops : ℕ) (consumers : JsMap Urn (List Urn)) (entry : Urn × ℕ) : Bool :=
  decide (maxHops ≤ entry.2) && !(consumersAt consumers entry.1).isEmpty

/-- The loop is the search within the limit, and warns of what stands at the limit and has
consumers. -/
theorem explore_of_search {left queue : List (Urn × ℕ)} {d d' : JsMap Urn ℕ}
    (hentered : left ++ queue = (root, 0) :: d.entries)
    (hsearch : search (nextWithin maxHops consumers) root rounds queue d = some d') :
    explore maxHops consumers root rounds queue d (left.any (overrun maxHops consumers))
      = some (d', ((root, 0) :: d'.entries).any (overrun maxHops consumers)) := by
  induction rounds generalizing left queue d with
  | zero => cases hsearch
  | succ rounds ih =>
    cases queue with
    | nil =>
      obtain rfl := Option.some.inj hsearch
      rw [explore, ← hentered, List.append_nil]
    | cons current queue =>
      obtain ⟨new, d₁, hfold, hentries, -, -⟩ :=
        foldl_visit root current.2 (nextWithin maxHops consumers current.2 current.1) queue d
      have hentered' : (left ++ [current]) ++ (queue ++ new.map (·, current.2 + 1))
          = (root, 0) :: d₁.entries := by
        have happend := congrArg (· ++ new.map (·, current.2 + 1)) hentered
        simpa [hentries] using happend
      rw [search, hfold] at hsearch
      have hrest := ih hentered' hsearch
      rw [List.any_append, List.any_cons, List.any_nil, Bool.or_false] at hrest
      rw [explore]
      split
      case isTrue hlimit =>
        rw [nextWithin, if_pos hlimit, List.foldl_nil, Prod.mk.injEq] at hfold
        obtain ⟨hqueue, rfl⟩ := hfold
        rw [← hqueue, overrun, decide_eq_true hlimit, Bool.true_and] at hrest
        exact hrest
      case isFalse hlimit =>
        rw [nextWithin, if_neg hlimit] at hfold
        rw [overrun, decide_eq_false hlimit, Bool.false_and, Bool.or_false] at hrest
        rw [hfold]
        exact hrest

theorem mem_values_of_mem_nextWithin {hops : ℕ} {u v : Urn} (h : v ∈ nextWithin maxHops consumers hops u) :
    v ∈ consumers.values.flatten := by
  rw [nextWithin] at h
  split at h
  case isTrue => cases h
  case isFalse =>
    rw [consumersAt] at h
    cases hget : consumers.get u with
    | none =>
      rw [hget] at h
      cases h
    | some vs =>
      rw [hget] at h
      exact List.mem_flatten.mpr ⟨vs, JsMap.mem_values.mpr ⟨u, hget⟩, h⟩

theorem search_within_isSome (maxHops : ℕ) (consumers : JsMap Urn (List Urn)) (root : Urn) :
    (search (nextWithin maxHops consumers) root (consumers.values.flatten.length + 2) [(root, 0)]
      .empty).isSome = true :=
  search_isSome (fun _ _ _ => mem_values_of_mem_nextWithin) le_rfl

/-- The loop ends in a round for every consumer of something, and two more. -/
theorem explore_isSome (maxHops : ℕ) (consumers : JsMap Urn (List Urn)) (root : Urn) :
    (explore maxHops consumers root (consumers.values.flatten.length + 2) [(root, 0)] .empty
      false).isSome = true := by
  obtain ⟨d, hsearch⟩ := Option.isSome_iff_exists.mp (search_within_isSome maxHops consumers root)
  have hstart : [] ++ [(root, 0)] = (root, 0) :: (JsMap.empty : JsMap Urn ℕ).entries := rfl
  have hexplore := explore_of_search hstart hsearch
  rw [List.any_nil] at hexplore
  rw [hexplore]
  rfl

end Exploring

/-- What the loop leaves: the distances, and whether something was left out. -/
def explored (snapshot : CatalogSnapshot) (rootUrn : Urn) (maxHops : ℕ) : JsMap Urn ℕ × Bool :=
  let consumers := consumersBy snapshot
  (explore maxHops consumers rootUrn (consumers.values.flatten.length + 2) [(rootUrn, 0)] .empty
    false).get (explore_isSome maxHops consumers rootUrn)

/-! ## 3. The answer -/

/-- `subject.split("#", 1)[0]`. -/
def beforeHash (subject : Text) : Urn := subject.takeWhile (· ≠ 0x23)

/-- `computeBlastRadius(snapshot, subject, options)`. -/
def computeBlastRadius (snapshot : CatalogSnapshot) (subject : Text) (options : BlastRadiusOptions := {}) :
    Except DataHubHarvestError BlastRadiusResult :=
  let rootUrn := beforeHash subject
  let maxHops := options.hops
  let maxAssets := options.assets
  match snapshot.downstreamByRoot.get rootUrn with
  | some provenTopology => .ok (fromProvenTopology rootUrn provenTopology maxHops maxAssets)
  | none =>
    if snapshot.entities.any (·.urn = rootUrn) then
      .error ⟨"LINEAGE_RESPONSE_INCOMPLETE",
        "Complete downstream lineage is unavailable for the audited asset."⟩
    else do
      let start := explored snapshot rootUrn maxHops
      let found ← start.1.entries.foldlM (composeConsumer snapshot rootUrn maxHops) start
      let withinAssetBound := sortImpacted found.1.entries
      let downstream := withinAssetBound.take maxAssets
      return {
        rootUrn := rootUrn
        downstream := downstream
        maxHops := maxHops
        truncated := found.2 || decide (maxAssets < withinAssetBound.length)
        impact := impactOf downstream.length }

/-! ## 4. What is found through the consumers -/

/-- An edge that an entity declares, resolved or not. -/
def Declares (snapshot : CatalogSnapshot) (urn consumer : Urn) : Prop :=
  ∃ entity ∈ snapshot.entities, entity.urn = consumer
    ∧ ∃ edge ∈ entity.upstreams.getD [], edge.upstream = urn

section Through

variable {snapshot : CatalogSnapshot} {root : Urn} {maxHops : ℕ} {u v : Urn} {n : ℕ}

theorem mem_consumersAt : v ∈ consumersAt (consumersBy snapshot) u ↔ Declares snapshot u v := by
  have hfold : snapshot.entities.foldl pushConsumers .empty
      = ((snapshot.entities.flatMap fun entity => (entity.upstreams.getD []).map fun edge =>
          (edge.upstream, entity.urn)).foldl
        (fun consumers p => consumers.set p.1 ((consumers.get p.1).getD [] ++ [p.2])) .empty) := by
    rw [List.foldl_flatMap]
    congr 1
    funext consumers entity
    rw [List.foldl_map, pushConsumers]
  have hall : ∀ (vs start : List Urn), vs.foldl (fun l w => l ++ [w]) start = start ++ vs := by
    intro vs
    induction vs with
    | nil => simp
    | cons w vs ih => simp [ih]
  have hsorted : ∀ o : Option (List Urn), v ∈ (o.map sortUnits).getD [] ↔ v ∈ o.getD [] := by
    rintro (_ | vs)
    · rfl
    · exact mem_sortUnits
  rw [consumersAt, consumersBy, JsMap.get_mapValues, hsorted, hfold,
    JsMap.getD_foldl_set fun l w => l ++ [w], hall]
  simp only [List.nil_append, JsMap.get_empty, Option.getD_none, List.mem_map, List.mem_filter,
    List.mem_flatMap, decide_eq_true_eq, Declares]
  constructor
  · rintro ⟨_, ⟨⟨entity, hentity, edge, hedge, rfl⟩, rfl⟩, rfl⟩
    exact ⟨entity, hentity, rfl, edge, hedge, rfl⟩
  · rintro ⟨entity, hentity, rfl, edge, hedge, rfl⟩
    exact ⟨_, ⟨⟨entity, hentity, edge, hedge, rfl⟩, rfl⟩, rfl⟩

/-- What the loop finds: what the declared edges reach within the limit, with a warning where they
lead on from there. -/
theorem explored_spec (snapshot : CatalogSnapshot) (root : Urn) (maxHops : ℕ) :
    (∀ v n, (explored snapshot root maxHops).1.get v = some n
        ↔ v ≠ root ∧ Distance (Declares snapshot) root v n ∧ n ≤ maxHops)
      ∧ ((explored snapshot root maxHops).2 = true
        ↔ ∃ u v, Distance (Declares snapshot) root u maxHops ∧ Declares snapshot u v) := by
  have hnext : ∀ (hops : ℕ) u v, v ∈ nextWithin maxHops (consumersBy snapshot) hops u
      ↔ Declares snapshot u v ∧ (hops : ℕ∞) < maxHops := by
    intro hops u v
    rw [nextWithin, Nat.cast_lt]
    split
    case isTrue hle => simp [hle]
    case isFalse hlt =>
      rw [mem_consumersAt, and_iff_left (not_le.mp hlt)]
  obtain ⟨d, hsearch⟩ :=
    Option.isSome_iff_exists.mp (search_within_isSome maxHops (consumersBy snapshot) root)
  have hstart : [] ++ [(root, 0)] = (root, 0) :: (JsMap.empty : JsMap Urn ℕ).entries := rfl
  have hexplore := explore_of_search hstart hsearch
  rw [List.any_nil] at hexplore
  have hexplored : explored snapshot root maxHops
      = (d, ((root, 0) :: d.entries).any (overrun maxHops (consumersBy snapshot))) :=
    Option.get_of_eq_some _ hexplore
  have hget : ∀ v n, d.get v = some n
      ↔ v ≠ root ∧ Distance (Declares snapshot) root v n ∧ n ≤ maxHops := by
    intro v n
    rw [search_get_iff hnext hsearch v n, Nat.cast_le]
  have hentry : ∀ u n, (u, n) ∈ (root, 0) :: d.entries
      ↔ Distance (Declares snapshot) root u n ∧ n ≤ maxHops := by
    intro u n
    rw [List.mem_cons, JsMap.mem_iff_get, hget, Prod.mk.injEq]
    constructor
    · rintro (⟨rfl, rfl⟩ | ⟨-, h⟩)
      · exact ⟨⟨.here, fun m _ => Nat.zero_le m⟩, Nat.zero_le maxHops⟩
      · exact h
    · rintro ⟨hdistance, hle⟩
      by_cases hu : u = root
      · subst hu
        exact .inl ⟨rfl, Nat.le_zero.mp (hdistance.2 0 .here)⟩
      · exact .inr ⟨hu, hdistance, hle⟩
  have hoverrun : ∀ u n, overrun maxHops (consumersBy snapshot) (u, n) = true
      ↔ maxHops ≤ n ∧ ∃ v, Declares snapshot u v := by
    intro u n
    rw [overrun, Bool.and_eq_true, decide_eq_true_eq, Bool.not_eq_true',
      List.isEmpty_eq_false_iff_exists_mem]
    simp only [mem_consumersAt]
  rw [hexplored]
  refine ⟨hget, ?_⟩
  rw [List.any_eq_true]
  constructor
  · rintro ⟨⟨u, n⟩, hmem, hover⟩
    obtain ⟨hdistance, hle⟩ := (hentry u n).mp hmem
    obtain ⟨hge, v, hv⟩ := (hoverrun u n).mp hover
    exact ⟨u, v, le_antisymm hle hge ▸ hdistance, hv⟩
  · rintro ⟨u, v, hdistance, hv⟩
    exact ⟨(u, maxHops), (hentry u maxHops).mpr ⟨hdistance, le_rfl⟩,
      (hoverrun u maxHops).mpr ⟨le_rfl, v, hv⟩⟩

/-- Without the warning nothing that the declared edges reach is further than the limit. -/
theorem distance_of_not_warned (hnot : (explored snapshot root maxHops).2 = false)
    (hwalk : Walk (Declares snapshot) root n v) :
    ∃ m ≤ maxHops, Distance (Declares snapshot) root v m := by
  induction hwalk with
  | here => exact ⟨0, Nat.zero_le _, .here, fun m _ => Nat.zero_le m⟩
  | @step n b c _ hedge ih =>
    obtain ⟨m, hle, hdistance⟩ := ih
    have hlt : m < maxHops := by
      refine lt_of_le_of_ne hle ?_
      rintro rfl
      have hwarned := (explored_spec snapshot root m).2.mpr ⟨b, c, hdistance, hedge⟩
      rw [hnot] at hwarned
      cases hwarned
    obtain ⟨k, hk, hdistance⟩ := (hdistance.1.step hedge).exists_distance
    exact ⟨k, hk.trans hlt, hdistance⟩

end Through

/-! ## 5. The lists put together -/

/-- What the list of a consumer that is `hops` away offers for `v`. -/
def OffersIn (root : Urn) (maxHops hops : ℕ) (nodes : List LineageTopologyNode) (v : Urn) (n : ℕ) : Prop :=
  v ≠ root ∧ n ≤ maxHops ∧ ∃ node ∈ nodes, node.urn = v ∧ hops + node.minHops = n

/-- Does the list of a consumer lead past the limit? -/
def PastIn (maxHops hops : ℕ) (nodes : List LineageTopologyNode) : Prop :=
  ∃ node ∈ nodes, maxHops < hops + node.minHops

theorem foldl_composeNode (root : Urn) (maxHops hops : ℕ) (nodes : List LineageTopologyNode)
    {S : Urn → ℕ → Prop} {s : JsMap Urn ℕ × Bool} (h : Least S s.1) :
    Least (fun v n => S v n ∨ OffersIn root maxHops hops nodes v n)
        (nodes.foldl (composeNode root maxHops hops) s).1
      ∧ ((nodes.foldl (composeNode root maxHops hops) s).2 = true
        ↔ s.2 = true ∨ PastIn maxHops hops nodes) := by
  induction nodes generalizing S s with
  | nil =>
    refine ⟨h.congr fun v n => or_iff_left ?_, by simp [PastIn]⟩
    rintro ⟨-, -, node, hnode, -⟩
    cases hnode
  | cons node nodes ih =>
    have hstep : Least (fun v n => S v n ∨ OffersIn root maxHops hops [node] v n)
          (composeNode root maxHops hops s node).1
        ∧ ((composeNode root maxHops hops s node).2 = true
          ↔ s.2 = true ∨ maxHops < hops + node.minHops) := by
      have hone : ∀ v n, OffersIn root maxHops hops [node] v n
          ↔ (node.urn ≠ root ∧ hops + node.minHops ≤ maxHops)
            ∧ v = node.urn ∧ n = hops + node.minHops := by
        intro v n
        simp only [OffersIn, List.mem_singleton, exists_eq_left]
        constructor
        · rintro ⟨hv, hn, rfl, rfl⟩
          exact ⟨⟨hv, hn⟩, rfl, rfl⟩
        · rintro ⟨⟨hv, hn⟩, rfl, rfl⟩
          exact ⟨hv, hn, rfl, rfl⟩
      rw [composeNode]
      by_cases hpast : maxHops < hops + node.minHops
      · rw [if_pos hpast]
        refine ⟨h.congr fun v n => or_iff_left ?_, by simp [hpast]⟩
        rw [hone]
        rintro ⟨⟨-, hle⟩, -⟩
        omega
      · rw [if_neg hpast]
        by_cases hroot : node.urn = root
        · rw [if_neg (fun hand => hand.1 hroot)]
          refine ⟨h.congr fun v n => or_iff_left ?_, by simp [hpast]⟩
          rw [hone]
          rintro ⟨⟨hne, -⟩, -⟩
          exact hne hroot
        · have hoffer : ∀ v n, (S v n ∨ OffersIn root maxHops hops [node] v n)
              ↔ S v n ∨ v = node.urn ∧ n = hops + node.minHops := by
            intro v n
            rw [hone, and_iff_right ⟨hroot, not_lt.mp hpast⟩]
          split
          case isTrue hless => exact ⟨(h.set hless.2).congr hoffer, by simp [hpast]⟩
          case isFalse hmore =>
            have hmore' := fun hless => hmore ⟨hroot, hless⟩
            exact ⟨(h.keep hmore').congr hoffer, by simp [hpast]⟩
    obtain ⟨hleast, hwarned⟩ := ih hstep.1
    rw [List.foldl_cons]
    refine ⟨hleast.congr fun v n => ?_, ?_⟩
    · rw [or_assoc]
      refine or_congr_right ?_
      simp only [OffersIn, List.mem_cons, List.not_mem_nil, or_false, exists_eq_left, exists_eq_or_imp,
        and_or_left]
    · rw [hwarned, hstep.2, or_assoc]
      simp [PastIn]

/-- What the lists of the consumers offer. -/
def Offers (snapshot : CatalogSnapshot) (root : Urn) (maxHops : ℕ) (consumers : List (Urn × ℕ)) (v : Urn)
    (n : ℕ) : Prop :=
  ∃ c ∈ consumers, ∃ nodes, snapshot.downstreamByRoot.get c.1 = some nodes
    ∧ OffersIn root maxHops c.2 nodes v n

/-- Does the list of a consumer lead past the limit? -/
def Past (snapshot : CatalogSnapshot) (maxHops : ℕ) (consumers : List (Urn × ℕ)) : Prop :=
  ∃ c ∈ consumers, ∃ nodes, snapshot.downstreamByRoot.get c.1 = some nodes ∧ PastIn maxHops c.2 nodes

/-- The lists are put together where each consumer has one, and only there. -/
theorem foldlM_composeConsumer (snapshot : CatalogSnapshot) (root : Urn) (maxHops : ℕ)
    (consumers : List (Urn × ℕ)) {S : Urn → ℕ → Prop} {s : JsMap Urn ℕ × Bool} (h : Least S s.1) :
    (∃ s', consumers.foldlM (composeConsumer snapshot root maxHops) s = .ok s'
        ∧ Least (fun v n => S v n ∨ Offers snapshot root maxHops consumers v n) s'.1
        ∧ (s'.2 = true ↔ s.2 = true ∨ Past snapshot maxHops consumers)
        ∧ ∀ c ∈ consumers, snapshot.downstreamByRoot.has c.1 = true)
      ∨ (∃ e, consumers.foldlM (composeConsumer snapshot root maxHops) s = .error e)
        ∧ ∃ c ∈ consumers, snapshot.downstreamByRoot.has c.1 = false := by
  induction consumers generalizing S s with
  | nil =>
    refine .inl ⟨s, rfl, h.congr fun v n => or_iff_left ?_, by simp [Past], nofun⟩
    rintro ⟨c, hc, -⟩
    cases hc
  | cons c consumers ih =>
    rw [List.foldlM_cons, composeConsumer]
    cases hget : snapshot.downstreamByRoot.get c.1 with
    | none => exact .inr ⟨⟨_, rfl⟩, c, .head _, JsMap.has_eq_false.mpr hget⟩
    | some nodes =>
      obtain ⟨hleast, hwarned⟩ := foldl_composeNode root maxHops c.2 nodes h
      rcases ih hleast with ⟨s', hs', hleast', hwarned', hhas⟩ | ⟨herror, c', hc', hnone⟩
      · refine .inl ⟨s', hs', hleast'.congr fun v n => ?_, ?_, ?_⟩
        · rw [or_assoc]
          refine or_congr_right ?_
          simp only [Offers, List.mem_cons, exists_eq_or_imp, hget, Option.some_inj, exists_eq_left']
        · rw [hwarned', hwarned, or_assoc]
          simp only [Past, List.mem_cons, exists_eq_or_imp, hget, Option.some_inj, exists_eq_left']
        · intro c' hc'
          rcases List.mem_cons.mp hc' with rfl | hc'
          · exact JsMap.has_eq_true.mpr ⟨nodes, hget⟩
          · exact hhas c' hc'
      · exact .inr ⟨herror, c', .tail _ hc', hnone⟩

/-! ## 6. What is answered -/

section Answer

variable {snapshot : CatalogSnapshot} {subject : Text} (options : BlastRadiusOptions)

theorem sortImpacted_perm (assets : List ImpactedAsset) : (sortImpacted assets).Perm assets :=
  List.perm_insertionSort _ assets

/-- An asset with a list of its own is answered from it. -/
theorem answer_of_list {nodes : List LineageTopologyNode}
    (h : snapshot.downstreamByRoot.get (beforeHash subject) = some nodes) :
    computeBlastRadius snapshot subject options
      = .ok (fromProvenTopology (beforeHash subject) nodes options.hops options.assets) := by
  simp only [computeBlastRadius, h]

theorem length_fromProvenTopology (rootUrn : Urn) (nodes : List LineageTopologyNode)
    (maxHops maxAssets : ℕ) :
    (fromProvenTopology rootUrn nodes maxHops maxAssets).downstream.length ≤ maxAssets :=
  List.length_take_le _ _

/-- An entity without one is refused. -/
theorem refused_of_entity (h : snapshot.downstreamByRoot.get (beforeHash subject) = none)
    (hentity : ∃ entity ∈ snapshot.entities, entity.urn = beforeHash subject) :
    ∃ e, computeBlastRadius snapshot subject options = .error e := by
  have hany : snapshot.entities.any (·.urn = beforeHash subject) = true := by
    simpa using hentity
  simp only [computeBlastRadius, h, hany, if_true]
  exact ⟨_, rfl⟩

/-- What is offered for each asset through the consumers of `root`. -/
def Through (snapshot : CatalogSnapshot) (root : Urn) (maxHops : ℕ) (v : Urn) (n : ℕ) : Prop :=
  (explored snapshot root maxHops).1.get v = some n
    ∨ Offers snapshot root maxHops (explored snapshot root maxHops).1.entries v n

/-- Anything else is answered through its consumers, where each of them has a list. -/
theorem answer_through (h : snapshot.downstreamByRoot.get (beforeHash subject) = none)
    (hentity : ¬∃ entity ∈ snapshot.entities, entity.urn = beforeHash subject) :
    (∃ d warned, computeBlastRadius snapshot subject options = .ok {
          rootUrn := beforeHash subject
          downstream := (sortImpacted d.entries).take options.assets
          maxHops := options.hops
          truncated := warned || decide (options.assets < (sortImpacted d.entries).length)
          impact := impactOf ((sortImpacted d.entries).take options.assets).length }
        ∧ Least (Through snapshot (beforeHash subject) options.hops) d
        ∧ (warned = true ↔ (explored snapshot (beforeHash subject) options.hops).2 = true
          ∨ Past snapshot options.hops (explored snapshot (beforeHash subject) options.hops).1.entries)
        ∧ ∀ c ∈ (explored snapshot (beforeHash subject) options.hops).1.entries,
            snapshot.downstreamByRoot.has c.1 = true)
      ∨ (∃ e, computeBlastRadius snapshot subject options = .error e)
        ∧ ∃ c ∈ (explored snapshot (beforeHash subject) options.hops).1.entries,
            snapshot.downstreamByRoot.has c.1 = false := by
  have hany : snapshot.entities.any (·.urn = beforeHash subject) = false := by
    rw [Bool.eq_false_iff]
    intro hany
    exact hentity (by simpa using hany)
  rcases foldlM_composeConsumer snapshot (beforeHash subject) options.hops
    (explored snapshot (beforeHash subject) options.hops).1.entries
    (least_self (explored snapshot (beforeHash subject) options.hops).1)
    with ⟨s', hs', hleast, hwarned, hhas⟩ | ⟨⟨e, he⟩, hmissing⟩
  · refine .inl ⟨s'.1, s'.2, ?_, hleast, hwarned, hhas⟩
    simp only [computeBlastRadius, h, hany, Bool.false_eq_true, if_false, hs']
    rfl
  · refine .inr ⟨⟨e, ?_⟩, hmissing⟩
    simp only [computeBlastRadius, h, hany, Bool.false_eq_true, if_false, he]
    rfl

end Answer

/-! ## 7. The graph behind a harvest -/

/-- The list of a root is that of a graph, complete within a limit. -/
structure Lists (G : Urn → Urn → Prop) (limit : ℕ) (root : Urn) (nodes : List LineageTopologyNode) :
    Prop where
  nodup : (nodes.map (·.urn)).Nodup
  sound : ∀ node ∈ nodes, node.urn ≠ root ∧ Distance G root node.urn node.minHops
  complete : ∀ v n, v ≠ root → Distance G root v n → n ≤ limit →
    ∃ node ∈ nodes, node.urn = v ∧ node.minHops = n

/-- What a harvest shows of a graph: lists that are sound and complete within a limit, one for each
of its entities, and the edges these declare; of a root without a list, all its edges are among
them. -/
structure Pictures (G : Urn → Urn → Prop) (limit : ℕ) (root : Urn) (snapshot : CatalogSnapshot) :
    Prop where
  lists : ∀ r nodes, snapshot.downstreamByRoot.get r = some nodes → Lists G limit r nodes
  covered : ∀ entity ∈ snapshot.entities, snapshot.downstreamByRoot.has entity.urn = true
  declared : ∀ u v, Declares snapshot u v → G u v
  direct : snapshot.downstreamByRoot.get root = none → ∀ v, G root v → Declares snapshot root v

/-- A way of `n` steps from the root that the harvest knows. -/
inductive Way (snapshot : CatalogSnapshot) (root : Urn) : Urn → ℕ → Prop
  /-- The list of the root names it. -/
  | listed {nodes : List LineageTopologyNode} {node : LineageTopologyNode} :
    snapshot.downstreamByRoot.get root = some nodes → node ∈ nodes →
      Way snapshot root node.urn node.minHops
  /-- The declared edges lead to it. -/
  | declared {v : Urn} {n : ℕ} : snapshot.downstreamByRoot.get root = none →
    Walk (Declares snapshot) root n v → Way snapshot root v n
  /-- They lead to an asset whose list names it. -/
  | through {c : Urn} {n : ℕ} {nodes : List LineageTopologyNode} {node : LineageTopologyNode} :
    snapshot.downstreamByRoot.get root = none → Walk (Declares snapshot) root n c →
      snapshot.downstreamByRoot.get c = some nodes → node ∈ nodes →
      Way snapshot root node.urn (n + node.minHops)

/-- An asset that the harvest knows to be downstream of the root. -/
def Known (snapshot : CatalogSnapshot) (root v : Urn) : Prop := v ≠ root ∧ ∃ n, Way snapshot root v n

section Exactness

variable {G : Urn → Urn → Prop} {snapshot : CatalogSnapshot} {root : Urn} {limit : ℕ} {v : Urn} {n : ℕ}

/-- An entity has a list. -/
theorem Pictures.list_of_declares (h : Pictures G limit root snapshot) {u c : Urn}
    (hdeclares : Declares snapshot u c) : ∃ nodes, snapshot.downstreamByRoot.get c = some nodes := by
  obtain ⟨entity, hentity, rfl, -⟩ := hdeclares
  exact JsMap.has_eq_true.mp (h.covered entity hentity)

/-- What is offered through the consumers is a way of the graph. -/
theorem Pictures.walk_of_through (h : Pictures G limit root snapshot)
    (hthrough : Through snapshot root limit v n) : v ≠ root ∧ n ≤ limit ∧ Walk G root n v := by
  rcases hthrough with hget | ⟨⟨c, m⟩, hc, nodes, hnodes, hv, hle, node, hnode, rfl, rfl⟩
  · obtain ⟨hv, hdistance, hle⟩ := ((explored_spec snapshot root limit).1 v n).mp hget
    exact ⟨hv, hle, hdistance.1.mono h.declared⟩
  · obtain ⟨-, hdistance, -⟩ := ((explored_spec snapshot root limit).1 c m).mp (JsMap.mem_iff_get.mp hc)
    refine ⟨hv, hle, (hdistance.1.mono h.declared).append ?_⟩
    exact ((h.lists c nodes hnodes).sound node hnode).2.1

/-- What is in the graph within the limit is offered with its distance. -/
theorem Pictures.through_of_distance (h : Pictures G limit root snapshot)
    (hnone : snapshot.downstreamByRoot.get root = none) (hv : v ≠ root) (hdistance : Distance G root v n)
    (hle : n ≤ limit) : Through snapshot root limit v n := by
  cases n with
  | zero =>
    cases hdistance.1
    exact absurd rfl hv
  | succ n =>
    obtain ⟨c, hedge, hwalk⟩ := hdistance.1.first
    have hdeclares := h.direct hnone c hedge
    obtain ⟨nodes, hnodes⟩ := h.list_of_declares hdeclares
    have hroot : c ≠ root := by
      rintro rfl
      rw [hnone] at hnodes
      cases hnodes
    -- the first step is a shortest way, for the root is not its own consumer
    have hone : (explored snapshot root limit).1.get c = some 1 := by
      refine ((explored_spec snapshot root limit).1 c 1).mpr ⟨hroot, ⟨.one hdeclares, ?_⟩, by omega⟩
      rintro (_ | m) hm
      · cases hm
        exact absurd rfl hroot
      · exact Nat.succ_le_succ (Nat.zero_le m)
    by_cases hc : v = c
    · subst hc
      obtain rfl : n = 0 := by
        have hmin := hdistance.2 1 (.one hedge)
        omega
      exact .inl hone
    · have hrest : Distance G c v n := by
        refine ⟨hwalk, fun m hm => ?_⟩
        have hmin := hdistance.2 (1 + m) ((Walk.one hedge).append hm)
        omega
      obtain ⟨node, hnode, rfl, rfl⟩ := (h.lists c nodes hnodes).complete v n hc hrest (by omega)
      exact .inr ⟨(c, 1), JsMap.mem_iff_get.mpr hone, nodes, hnodes, hv, hle, node, hnode, rfl,
        Nat.add_comm _ _⟩

/-- The least of what is offered are the distances. -/
theorem Pictures.get_iff (h : Pictures G limit root snapshot)
    (hnone : snapshot.downstreamByRoot.get root = none) {d : JsMap Urn ℕ}
    (hleast : Least (Through snapshot root limit) d) (v : Urn) (n : ℕ) :
    d.get v = some n ↔ v ≠ root ∧ Distance G root v n ∧ n ≤ limit := by
  rw [hleast v n]
  constructor
  · rintro ⟨hthrough, hmin⟩
    obtain ⟨hv, hle, hwalk⟩ := h.walk_of_through hthrough
    obtain ⟨m, hm, hdistance⟩ := hwalk.exists_distance
    have hleast := hmin m (h.through_of_distance hnone hv hdistance (hm.trans hle))
    rw [le_antisymm hleast hm]
    exact ⟨hv, hdistance, hm.trans hle⟩
  · rintro ⟨hv, hdistance, hle⟩
    exact ⟨h.through_of_distance hnone hv hdistance hle,
      fun k hk => hdistance.2 k (h.walk_of_through hk).2.2⟩

/-- Without a warning every way that the harvest knows is within the limit. -/
theorem through_of_way {maxHops : ℕ} (hnone : snapshot.downstreamByRoot.get root = none)
    (hwarned : (explored snapshot root maxHops).2 = false)
    (hpast : ¬Past snapshot maxHops (explored snapshot root maxHops).1.entries) (hv : v ≠ root)
    (hway : Way snapshot root v n) : ∃ m, Through snapshot root maxHops v m := by
  cases hway with
  | listed hnodes _ =>
    rw [hnone] at hnodes
    cases hnodes
  | declared _ hwalk =>
    obtain ⟨m, hle, hdistance⟩ := distance_of_not_warned hwarned hwalk
    exact ⟨m, .inl (((explored_spec snapshot root maxHops).1 v m).mpr ⟨hv, hdistance, hle⟩)⟩
  | @through c k nodes node _ hwalk hnodes hnode =>
    obtain ⟨m, hle, hdistance⟩ := distance_of_not_warned hwarned hwalk
    have hroot : c ≠ root := by
      rintro rfl
      rw [hnone] at hnodes
      cases hnodes
    have hc := JsMap.mem_iff_get.mpr
      (((explored_spec snapshot root maxHops).1 c m).mpr ⟨hroot, hdistance, hle⟩)
    refine ⟨m + node.minHops, .inr ⟨(c, m), hc, nodes, hnodes, hv, ?_, node, hnode, rfl, rfl⟩⟩
    exact not_lt.mp fun hlt => hpast ⟨(c, m), hc, nodes, hnodes, node, hnode, hlt⟩

end Exactness

/-! ## 8. The listing -/

section Listing

variable {G : Urn → Urn → Prop} {snapshot : CatalogSnapshot} {options : BlastRadiusOptions}

/-- The path of a field does not change the asset that is looked up. -/
theorem beforeHash_append {root suffix : Text} (hroot : 0x23 ∉ root)
    (hsuffix : suffix = [] ∨ ∃ path, suffix = 0x23 :: path) : beforeHash (root ++ suffix) = root := by
  have hall : ∀ u ∈ root, decide (u ≠ 0x23) = true := by
    intro u hu
    exact decide_eq_true fun heq => hroot (heq ▸ hu)
  rw [beforeHash, List.takeWhile_append_of_pos hall]
  rcases hsuffix with rfl | ⟨path, rfl⟩
  · rw [List.takeWhile_nil, List.append_nil]
  · rw [List.takeWhile_cons_of_neg (by decide), List.append_nil]

/-- The assets within the limit, before the number of them is limited: each once, the nearest first,
with its distance. -/
structure Ranked (G : Urn → Urn → Prop) (root : Urn) (maxHops : ℕ) (all : List ImpactedAsset) : Prop where
  nodup : (all.map Prod.fst).Nodup
  sorted : all.Pairwise NearerLe
  mem_iff : ∀ v n, (v, n) ∈ all ↔ v ≠ root ∧ Distance G root v n ∧ n ≤ maxHops

theorem ranked_sort {root : Urn} {maxHops : ℕ} {assets : List ImpactedAsset}
    (hnodup : (assets.map Prod.fst).Nodup)
    (hmem : ∀ v n, (v, n) ∈ assets ↔ v ≠ root ∧ Distance G root v n ∧ n ≤ maxHops) :
    Ranked G root maxHops (sortImpacted assets) where
  nodup := ((sortImpacted_perm assets).map _).nodup_iff.mpr hnodup
  sorted := List.pairwise_insertionSort _ _
  mem_iff v n := (sortImpacted_perm assets).mem_iff.trans (hmem v n)

/-- **What is listed.**  Where the lists of a harvest are sound and complete within the hop limit,
the answer lists the assets within the limit, each once and with its shortest distance, and neither
the root nor an asset that is not reached, as far as the number of assets allows, the nearest first.
Without the warning all that the harvest knows is listed. -/
theorem listed_exact {root suffix : Text} (hroot : 0x23 ∉ root)
    (hsuffix : suffix = [] ∨ ∃ path, suffix = 0x23 :: path)
    (h : Pictures G options.hops root snapshot) :
    ∃ result all, computeBlastRadius snapshot (root ++ suffix) options = .ok result
      ∧ result.rootUrn = root ∧ Ranked G root options.hops all
      ∧ result.downstream = all.take options.assets
      ∧ (result.truncated = false → result.downstream = all
        ∧ ∀ v, Known snapshot root v → ∃ n, (v, n) ∈ result.downstream) := by
  have hsubject := beforeHash_append hroot hsuffix
  cases hget : snapshot.downstreamByRoot.get root with
  | some nodes =>
    have hlists := h.lists root nodes hget
    have hanswer := answer_of_list options (hsubject.symm ▸ hget)
    rw [hsubject] at hanswer
    refine ⟨_, sortImpacted
      ((nodes.filter fun node => node.minHops ≤ options.hops).map LineageTopologyNode.place), hanswer,
      rfl, ranked_sort ?_ ?_, rfl, ?_⟩
    · rw [List.map_map]
      exact hlists.nodup.sublist (List.filter_sublist.map _)
    · intro v n
      constructor
      · intro hmem
        obtain ⟨node, hnode, hplace⟩ := List.mem_map.mp hmem
        obtain ⟨hnode, hle⟩ := List.mem_filter.mp hnode
        obtain ⟨rfl, rfl⟩ := Prod.mk.inj hplace
        exact ⟨(hlists.sound node hnode).1, (hlists.sound node hnode).2, of_decide_eq_true hle⟩
      · rintro ⟨hv, hdistance, hle⟩
        obtain ⟨node, hnode, rfl, rfl⟩ := hlists.complete v n hv hdistance hle
        exact List.mem_map.mpr ⟨node, List.mem_filter.mpr ⟨hnode, decide_eq_true hle⟩, rfl⟩
    · intro hwarned
      obtain ⟨hfar, hmany⟩ := Bool.or_eq_false_iff.mp hwarned
      have hall := List.take_of_length_le (not_lt.mp (of_decide_eq_false hmany))
      refine ⟨hall, ?_⟩
      rintro v ⟨-, n, hway⟩
      cases hway with
      | @listed nodes' node hnodes' hnode =>
        obtain rfl := Option.some.inj (hget.symm.trans hnodes')
        have hle : node.minHops ≤ options.hops :=
          not_lt.mp (of_decide_eq_false (Bool.eq_false_iff.mpr (List.any_eq_false.mp hfar node hnode)))
        refine ⟨node.minHops, ?_⟩
        rw [fromProvenTopology, hall, (sortImpacted_perm _).mem_iff]
        exact List.mem_map.mpr ⟨node, List.mem_filter.mpr ⟨hnode, decide_eq_true hle⟩, rfl⟩
      | declared hnone => exact absurd (hget.symm.trans hnone) nofun
      | through hnone => exact absurd (hget.symm.trans hnone) nofun
  | none =>
    have hentity : ¬∃ entity ∈ snapshot.entities, entity.urn = beforeHash (root ++ suffix) := by
      rw [hsubject]
      rintro ⟨entity, hentity, rfl⟩
      have hhas := h.covered entity hentity
      rw [JsMap.has_eq_false.mpr hget] at hhas
      cases hhas
    have hthrough := answer_through options (hsubject.symm ▸ hget) hentity
    rw [hsubject] at hthrough
    rcases hthrough with ⟨d, warned, hanswer, hleast, hwarned, -⟩ | ⟨-, c, hc, hmissing⟩
    · have hgets := h.get_iff hget hleast
      refine ⟨_, sortImpacted d.entries, hanswer, rfl, ranked_sort d.nodup ?_, rfl, ?_⟩
      · intro v n
        rw [JsMap.mem_iff_get, hgets]
      · intro hnot
        obtain ⟨hfar, hmany⟩ := Bool.or_eq_false_iff.mp hnot
        have hall := List.take_of_length_le (not_lt.mp (of_decide_eq_false hmany))
        refine ⟨hall, ?_⟩
        rintro v ⟨hv, n, hway⟩
        obtain ⟨hexplored, hpast⟩ := not_or.mp (mt hwarned.mpr (Bool.eq_false_iff.mp hfar))
        obtain ⟨m, hm⟩ := through_of_way hget (Bool.eq_false_iff.mpr hexplored) hpast hv hway
        obtain ⟨k, -, hk⟩ := hleast.exists_get hm
        refine ⟨k, ?_⟩
        rw [hall, (sortImpacted_perm _).mem_iff]
        exact JsMap.mem_iff_get.mpr hk
    · obtain ⟨hne, hdistance, -⟩ :=
        ((explored_spec snapshot root options.hops).1 c.1 c.2).mp (JsMap.mem_iff_get.mp hc)
      obtain ⟨u, hedge⟩ := hdistance.1.last hne
      obtain ⟨nodes, hnodes⟩ := h.list_of_declares hedge
      rw [JsMap.has_eq_false, hnodes] at hmissing
      cases hmissing

end Listing

/-- A root with the assets one step from it. -/
def star (root : Urn) (names : List Urn) : CatalogSnapshot where
  scanId := []
  entities := []
  knownUrns := .empty
  downstreamByRoot := JsMap.empty.set root (names.map fun urn => ⟨urn, 1, js "DATASET", false⟩)

theorem star_list (root : Urn) (names : List Urn) : (star root names).downstreamByRoot.get root
    = some (names.map fun urn => ⟨urn, 1, js "DATASET", false⟩) :=
  JsMap.get_set_self _ _ _

section Star

variable {root : Urn} {names : List Urn} {n : ℕ} {v : Urn}

theorem star_walk (hroot : root ∉ names) (h : Walk (fun u v => u = root ∧ v ∈ names) root n v) :
    n = 0 ∧ v = root ∨ n = 1 ∧ v ∈ names := by
  induction h with
  | here => exact .inl ⟨rfl, rfl⟩
  | step _ he ih =>
    obtain ⟨rfl, hv⟩ := he
    rcases ih with ⟨rfl, -⟩ | ⟨-, hin⟩
    · exact .inr ⟨rfl, hv⟩
    · exact absurd hin hroot

theorem star_distance (hroot : root ∉ names) (hv : v ∈ names) :
    v ≠ root ∧ Distance (fun u v => u = root ∧ v ∈ names) root v 1 := by
  have hne : v ≠ root := fun heq => hroot (heq ▸ hv)
  refine ⟨hne, .one ⟨rfl, hv⟩, fun m hm => ?_⟩
  rcases star_walk hroot hm with ⟨-, heq⟩ | ⟨rfl, -⟩
  · exact absurd heq hne
  · exact le_rfl

/-- Such a harvest is what it shows. -/
theorem star_pictures (hnodup : names.Nodup) (hroot : root ∉ names) (limit : ℕ) :
    Pictures (fun u v => u = root ∧ v ∈ names) limit root (star root names) := by
  refine ⟨?_, fun _ hmem => absurd hmem List.not_mem_nil, ?_, ?_⟩
  · intro r nodes hnodes
    rw [star, JsMap.get_set] at hnodes
    split at hnodes
    case isFalse => cases hnodes
    case isTrue hr =>
      subst hr
      obtain rfl := Option.some.inj hnodes
      refine ⟨?_, ?_, ?_⟩
      · rw [List.map_map]
        exact hnodup.map fun _ _ h => h
      · intro node hnode
        obtain ⟨v, hv, rfl⟩ := List.mem_map.mp hnode
        exact star_distance hroot hv
      · intro v n hne hdistance _
        rcases star_walk hroot hdistance.1 with ⟨-, heq⟩ | ⟨rfl, hv⟩
        · exact absurd heq hne
        · exact ⟨_, List.mem_map.mpr ⟨v, hv, rfl⟩, rfl, rfl⟩
  · rintro u v ⟨entity, hentity, -⟩
    cases hentity
  · intro hnone
    rw [star_list] at hnone
    cases hnone

end Star

/-- Five hundred and one names. -/
def crowd : List Urn := (List.range 501).map fun i => List.replicate i 0x61

theorem crowd_nodup : crowd.Nodup := by
  refine List.nodup_range.map fun i j h => ?_
  have hlength := congrArg List.length h
  rwa [List.length_replicate, List.length_replicate] at hlength

theorem crowd_length : crowd.length = 501 := by
  rw [crowd, List.length_map, List.length_range]

theorem not_mem_crowd : js "r" ∉ crowd := by
  intro hmem
  obtain ⟨i, -, hi⟩ := List.mem_map.mp hmem
  have hunit : (0x72 : UInt16) ∈ List.replicate i 0x61 := by
    rw [hi]
    exact .head _
  exact absurd (List.eq_of_mem_replicate hunit) (by decide)

/-- Of more than five hundred assets not all are listed. -/
theorem crowd_not_listed : ¬∀ (G : Urn → Urn → Prop) (snapshot : CatalogSnapshot) (root : Urn)
    (options : BlastRadiusOptions), 0x23 ∉ root → Pictures G options.hops root snapshot →
    ∃ result, computeBlastRadius snapshot root options = .ok result
      ∧ ∀ v n, v ≠ root → Distance G root v n → n ≤ options.hops → (v, n) ∈ result.downstream := by
  intro h
  have hhash : (0x23 : UInt16) ∉ js "r" := by decide
  obtain ⟨result, hanswer, hall⟩ :=
    h _ (star (js "r") crowd) (js "r") {} hhash (star_pictures crowd_nodup not_mem_crowd _)
  have hsubject : beforeHash (js "r") = js "r" := by
    have happend := beforeHash_append hhash (.inl rfl)
    rwa [List.append_nil] at happend
  rw [answer_of_list _ (by rw [hsubject]; exact star_list _ _)] at hanswer
  have hlength := length_fromProvenTopology (beforeHash (js "r"))
    (crowd.map fun urn => ⟨urn, 1, js "DATASET", false⟩) (BlastRadiusOptions.hops {})
    (BlastRadiusOptions.assets {})
  rw [Except.ok.inj hanswer, (by decide : BlastRadiusOptions.assets {} = 500)] at hlength
  have hsub : crowd.length ≤ (result.downstream.map Prod.fst).length := by
    refine (crowd_nodup.subperm fun v hv => ?_).length_le
    obtain ⟨hne, hdistance⟩ := star_distance not_mem_crowd hv
    exact List.mem_map.mpr ⟨(v, 1), hall v 1 hne hdistance (by decide), rfl⟩
  rw [crowd_length, List.length_map] at hsub
  omega

/-- One asset is listed. -/
theorem listed_exact_one : ∃ result all,
    computeBlastRadius (star (js "r") [js "a"]) (js "r" ++ js "#email") {} = .ok result
      ∧ result.rootUrn = js "r"
      ∧ Ranked (fun u v => u = js "r" ∧ v ∈ [js "a"]) (js "r") (BlastRadiusOptions.hops {}) all
      ∧ result.downstream = all.take (BlastRadiusOptions.assets {})
      ∧ (result.truncated = false → result.downstream = all
        ∧ ∀ v, Known (star (js "r") [js "a"]) (js "r") v → ∃ n, (v, n) ∈ result.downstream) :=
  listed_exact (by decide) (.inr ⟨js "email", by decide⟩)
    (star_pictures (List.nodup_singleton _) (by decide) _)

/-! ## 9. The warning -/

section Warning

variable {snapshot : CatalogSnapshot} {subject : Text} {options : BlastRadiusOptions} {root v : Urn}
  {maxHops n : ℕ}

/-- What is offered through the consumers is a way that the harvest knows. -/
theorem way_of_through (hnone : snapshot.downstreamByRoot.get root = none)
    (h : Through snapshot root maxHops v n) : v ≠ root ∧ Way snapshot root v n := by
  rcases h with hget | ⟨⟨c, m⟩, hc, nodes, hnodes, hv, -, node, hnode, rfl, rfl⟩
  · obtain ⟨hv, hdistance, -⟩ := ((explored_spec snapshot root maxHops).1 v n).mp hget
    exact ⟨hv, .declared hnone hdistance.1⟩
  · obtain ⟨-, hdistance, -⟩ := ((explored_spec snapshot root maxHops).1 c m).mp (JsMap.mem_iff_get.mp hc)
    exact ⟨hv, .through hnone hdistance.1 hnodes hnode⟩

/-- Of different assets that are too many one is left out. -/
theorem exists_left_out {all : List ImpactedAsset} (hnodup : (all.map Prod.fst).Nodup) {most : ℕ}
    (hmany : most < all.length) : ∃ e ∈ all, ∀ n, (e.1, n) ∉ all.take most := by
  obtain ⟨e, rest, hrest⟩ : ∃ e rest, all.drop most = e :: rest :=
    List.exists_cons_of_length_pos (by rw [List.length_drop]; omega)
  have hall : all = all.take most ++ e :: rest := by
    rw [← hrest, List.take_append_drop]
  rw [hall, List.map_append, List.nodup_append] at hnodup
  refine ⟨e, ?_, fun n hn => ?_⟩
  · rw [hall]
    simp
  · exact hnodup.2.2 e.1 (List.mem_map.mpr ⟨(e.1, n), hn, rfl⟩) e.1 (.head _) rfl

/-- Three datasets in a circle, the first of which reads from outside. -/
def circle : CatalogSnapshot where
  scanId := js "scan"
  entities := [dataset "a" ["outside", "c"], dataset "b" ["a"], dataset "c" ["b"]]
  knownUrns := .empty
  downstreamByRoot := ((JsMap.empty.set (js "a") []).set (js "b") []).set (js "c") []

theorem circle_answer : computeBlastRadius circle (js "outside") = .ok {
    rootUrn := js "outside"
    downstream := [(js "a", 1), (js "b", 2), (js "c", 3)]
    maxHops := 3
    truncated := true
    impact := .medium } := by
  decide +kernel

theorem circle_declares {u v : Urn} (h : Declares circle u v) : v ∈ [js "a", js "b", js "c"] := by
  obtain ⟨entity, hentity, rfl, -⟩ := h
  simp only [circle, List.mem_cons, List.not_mem_nil, or_false] at hentity
  rcases hentity with rfl | rfl | rfl
  · exact .head _
  · exact .tail _ (.head _)
  · exact .tail _ (.tail _ (.head _))

end Warning

/-! ## 10. Whose answer it is -/

section Own

variable {snapshot : CatalogSnapshot} {urn : Urn} {options : BlastRadiusOptions}

/-- The answer is from the list of this asset. -/
def AnswersFor (snapshot : CatalogSnapshot) (urn : Urn) (options : BlastRadiusOptions)
    (result : BlastRadiusResult) : Prop :=
  ∃ nodes, snapshot.downstreamByRoot.get urn = some nodes
    ∧ result = fromProvenTopology urn nodes options.hops options.assets

/-- What the lookup of an asset refuses: an entity without a list, and what is neither and reaches,
within the hop limit, a consumer without one. -/
def Refused (snapshot : CatalogSnapshot) (urn : Urn) (maxHops : ℕ) : Prop :=
  snapshot.downstreamByRoot.get urn = none
    ∧ ((∃ entity ∈ snapshot.entities, entity.urn = urn)
      ∨ ∃ c n, c ≠ urn ∧ Distance (Declares snapshot) urn c n ∧ n ≤ maxHops
        ∧ snapshot.downstreamByRoot.has c = false)

/-- The lookup throws exactly there. -/
theorem refused_iff {subject : Text} :
    (∃ e, computeBlastRadius snapshot subject options = .error e)
      ↔ Refused snapshot (beforeHash subject) options.hops := by
  cases hget : snapshot.downstreamByRoot.get (beforeHash subject) with
  | some nodes =>
    rw [answer_of_list options hget]
    exact iff_of_false nofun fun h => nomatch hget.symm.trans h.1
  | none =>
    by_cases hentity : ∃ entity ∈ snapshot.entities, entity.urn = beforeHash subject
    · exact iff_of_true (refused_of_entity options hget hentity) ⟨hget, .inl hentity⟩
    · rcases answer_through options hget hentity with
        ⟨d, warned, hanswer, -, -, hhas⟩ | ⟨herror, c, hc, hmissing⟩
      · refine iff_of_false ?_ ?_
        · rw [hanswer]
          exact nofun
        · rintro ⟨-, hmem | ⟨c, n, hne, hdistance, hle, hmissing⟩⟩
          · exact hentity hmem
          · have hc := ((explored_spec snapshot _ _).1 c n).mpr ⟨hne, hdistance, hle⟩
            rw [hhas _ (JsMap.mem_iff_get.mpr hc)] at hmissing
            cases hmissing
      · refine iff_of_true herror ⟨hget, .inr ⟨c.1, c.2, ?_⟩⟩
        obtain ⟨hne, hdistance, hle⟩ := ((explored_spec snapshot _ _).1 c.1 c.2).mp (JsMap.mem_iff_get.mp hc)
        exact ⟨hne, hdistance, hle, hmissing⟩

/-- The answer names what was looked up. -/
theorem rootUrn_of_ok {subject : Text} {result : BlastRadiusResult}
    (h : computeBlastRadius snapshot subject options = .ok result) : result.rootUrn = beforeHash subject := by
  cases hget : snapshot.downstreamByRoot.get (beforeHash subject) with
  | some nodes =>
    rw [answer_of_list options hget] at h
    rw [← Except.ok.inj h]
    rfl
  | none =>
    by_cases hentity : ∃ entity ∈ snapshot.entities, entity.urn = beforeHash subject
    · obtain ⟨e, he⟩ := refused_of_entity options hget hentity
      rw [he] at h
      cases h
    · rcases answer_through options hget hentity with ⟨d, warned, hanswer, -⟩ | ⟨⟨e, he⟩, -⟩
      · rw [hanswer] at h
        rw [← Except.ok.inj h]
      · rw [he] at h
        cases h

/-- **Whose answer it is.**  For an entity of the catalog the answer is from its own list, or there is
none, exactly when its URN has no `#`, or when what stands before the `#` is refused. -/
theorem own_answer_iff (hentity : ∃ entity ∈ snapshot.entities, entity.urn = urn) :
    (∀ result, computeBlastRadius snapshot urn options = .ok result →
        AnswersFor snapshot urn options result)
      ↔ 0x23 ∉ urn ∨ Refused snapshot (beforeHash urn) options.hops := by
  by_cases hhash : 0x23 ∈ urn
  · have hshort : beforeHash urn ≠ urn := by
      intro heq
      have hkept := List.takeWhile_eq_self_iff.mp heq 0x23 hhash
      exact of_decide_eq_true hkept rfl
    rw [or_iff_right (not_not_intro hhash), ← refused_iff]
    constructor
    · intro h
      cases hanswer : computeBlastRadius snapshot urn options with
      | error e => exact ⟨e, rfl⟩
      | ok result =>
        obtain ⟨nodes, -, rfl⟩ := h result hanswer
        have hroot := rootUrn_of_ok hanswer
        exact absurd hroot.symm hshort
    · rintro ⟨e, he⟩ result hanswer
      rw [he] at hanswer
      cases hanswer
  · have hown : beforeHash urn = urn := by
      have happend := beforeHash_append hhash (.inl rfl)
      rwa [List.append_nil] at happend
    refine iff_of_true ?_ (.inl hhash)
    intro result hanswer
    cases hget : snapshot.downstreamByRoot.get urn with
    | some nodes =>
      rw [answer_of_list _ (by rw [hown]; exact hget), hown] at hanswer
      exact ⟨nodes, hget, (Except.ok.inj hanswer).symm⟩
    | none =>
      obtain ⟨e, he⟩ := refused_of_entity options (by rw [hown]; exact hget)
        (by rw [hown]; exact hentity)
      rw [he] at hanswer
      cases hanswer

end Own

/-- An entity whose URN has a `#`, and what reads it. -/
def hashed : CatalogSnapshot where
  scanId := js "scan"
  entities := [dataset "a#b" [], dataset "c" ["a#b"]]
  knownUrns := .empty
  downstreamByRoot :=
    (JsMap.empty.set (js "a#b") [⟨js "c", 1, js "DATASET", false⟩]).set (js "c") []

/-- Nothing is said to be affected, and the list of the entity is not asked. -/
theorem hashed_answer : computeBlastRadius hashed (js "a#b") = .ok {
      rootUrn := js "a"
      downstream := []
      maxHops := 3
      truncated := false
      impact := .none }
    ∧ hashed.downstreamByRoot.get (js "a#b") = some [⟨js "c", 1, js "DATASET", false⟩] := by
  decide +kernel

/-- There what stands before the `#` is not refused. -/
theorem own_answer_iff_hashed :
    (∀ result, computeBlastRadius hashed (js "a#b") {} = .ok result →
        AnswersFor hashed (js "a#b") {} result)
      ↔ 0x23 ∉ js "a#b" ∨ Refused hashed (beforeHash (js "a#b")) (BlastRadiusOptions.hops {}) :=
  own_answer_iff ⟨dataset "a#b" [], .head _, rfl⟩

end Lineage
