/-
# The fact that is recommended

A contradiction is reported with the id of a fact to trust.  The facts of a snapshot and of a version
history have no importance and are all of one authority, so the latest fact about the attribute decides,
and of those that are equally late the one with the least id.

An id is made of the scan, the record and the aspect, or of the record and what is known of the version.
Two facts of one scan about one record, from different sources, have the same id.
`recommended_iff` says when the recommendation names one fact: the latest has an id of its own.
-/
import Archon.Audit.Harvest
import Archon.Audit.Resolution

namespace Audit

open Ecma Ecma.Value Lineage Remediation

/-! ## 1. The facts that are audited -/

/-- A fact as a harvest or a history writes it: one value at most, and nothing to weigh it by. -/
structure Factual (m : AuditFact) : Prop where
  one_value : ∀ f ∈ attributesOf m, attributesOf m = [f] ∧ Plain f.2
  unweighed : importanceOf m = none
  structured : authorityOf m.kind = 2

/-- The options of an audit, with the facts of a snapshot or of version histories. -/
inductive Audited : AuditOptions → List AuditFact → Prop where
  | snapshot (reports : List SourceReport) : Audited ⟨none, false⟩ (reportsToFacts reports)
  | history {L : Language} {histories : List AspectVersionHistory} {facts : List AuditFact}
      (h : historyFacts L histories = .ok facts) : Audited ⟨none, true⟩ facts

section Facts

variable {source createdAt id record : Text} {kind attr : String} {value : Value}
  {hattr : js attr ≠ js "record"} {opts : AuditOptions} {facts : List AuditFact} {m : AuditFact}

theorem importanceOf_versionFact (hvalue : ∀ x, value ≠ .num x) :
    importanceOf (versionFact source createdAt id kind record attr value hattr) = none := by
  have hget : ∀ x, (versionFact source createdAt id kind record attr value hattr).get "importance" ≠ .num x := by
    intro x
    have hrecord : js "record" ≠ js "importance" := by decide
    by_cases heq : js attr = js "importance"
    · simpa [AuditFact.get, versionFact, hrecord, heq] using hvalue x
    · simp [AuditFact.get, versionFact, hrecord, heq]
  unfold importanceOf
  split
  case h_1 x h => cases h
  case h_2 =>
    split
    case h_1 x h => exact absurd h (hget _)
    case h_2 => rfl

theorem authorityOf_of_ne (h : js kind ≠ js "insight") : authorityOf (js kind) = 2 := by
  rw [authorityOf, if_neg h]

theorem factual_versionFact (hvalue : Plain value) (hrefs : js attr ≠ js "refs")
    (hkind : js kind ≠ js "insight") : Factual (versionFact source createdAt id kind record attr value hattr) := by
  refine ⟨?_, importanceOf_versionFact ?_, authorityOf_of_ne hkind⟩
  · intro f hf
    have hone : attributesOf (versionFact source createdAt id kind record attr value hattr) = _ :=
      attributesOf_versionFact hattr hrefs hvalue
    rw [hone] at hf ⊢
    obtain rfl := List.mem_singleton.mp hf
    exact ⟨rfl, hvalue⟩
  · rintro x rfl
    cases hvalue

/-- **What is audited is factual.** -/
theorem Audited.factual (h : Audited opts facts) (hm : m ∈ facts) : Factual m := by
  cases h with
  | snapshot reports =>
    obtain ⟨report, -, hm⟩ := List.mem_flatMap.mp hm
    rcases List.mem_append.mp hm with hm | hm
    · obtain ⟨record, kind, attr, value, hattr, rfl, hvalue, hrefs, hkind⟩ := mem_valueFacts hm
      exact factual_versionFact hvalue hrefs hkind
    · rw [lineageFact] at hm
      split at hm
      case isTrue => cases hm
      case isFalse =>
        obtain rfl := List.mem_singleton.mp hm
        refine ⟨fun f hf => ?_, importanceOf_versionFact fun x h => ?_, ?_⟩
        · simp [attributesOf, reportFact, versionFact, RESERVED_KEYS] at hf
        · cases h
        · exact authorityOf_of_ne (by decide)
  | history h =>
    obtain ⟨history, -, v, -, fs, hfs, hm⟩ := (mem_historyFacts h).mp hm
    obtain ⟨createdAt, id, kind, record, attr, value, hattr, rfl, hvalue, hrefs, hkind⟩ :=
      mem_versionToFacts hfs hm
    exact factual_versionFact hvalue hrefs hkind

/-- The values that are compared are texts and truth values. -/
theorem Audited.plain {s a : Text} (h : Audited opts facts) {x : Carrier} (hx : x ∈ carriersOf facts s a) :
    Plain x.value :=
  ((h.factual (mem_of_carrier hx)).one_value _ (mem_carriersOf.mp hx).2).2

/-- A fact gives an attribute one value. -/
theorem Audited.value_eq {s a : Text} (h : Audited opts facts) {x y : Carrier} (hx : x ∈ carriersOf facts s a)
    (hy : y ∈ carriersOf facts s a) (heq : x.m = y.m) : x.value = y.value := by
  have hone := ((h.factual (mem_of_carrier hx)).one_value _ (mem_carriersOf.mp hx).2).1
  have hmem := (mem_carriersOf.mp hy).2
  rw [← heq, hone] at hmem
  exact (Prod.mk.inj (List.mem_singleton.mp hmem)).2.symm

end Facts

/-! ## 2. The latest -/

section Latest

variable {P : Platform} {agg : List Aggregate} {cs : List Carrier} {d : Side} {opts : AuditOptions}

theorem laterFirst_total (a b : AuditFact) : laterFirst a b = true ∨ laterFirst b a = true := by
  rw [laterFirst, laterFirst]
  by_cases h : a.createdAt = b.createdAt
  · rw [if_pos h, if_pos h.symm]
    exact codeUnitLe_total _ _
  · rw [if_neg h, if_neg (Ne.symm h)]
    exact codeUnitLe_total _ _

theorem laterFirst_trans {a b c : AuditFact} (hab : laterFirst a b = true) (hbc : laterFirst b c = true) :
    laterFirst a c = true := by
  rw [laterFirst] at hab hbc ⊢
  by_cases h : a.createdAt = b.createdAt
  · rw [if_pos h] at hab
    by_cases h' : b.createdAt = c.createdAt
    · rw [if_pos h'] at hbc
      rw [if_pos (h.trans h')]
      exact codeUnitLe_trans hab hbc
    · rw [if_neg h'] at hbc
      rw [if_neg (h ▸ h'), h]
      exact hbc
  · rw [if_neg h] at hab
    by_cases h' : b.createdAt = c.createdAt
    · rw [if_neg (h' ▸ h), ← h']
      exact hab
    · rw [if_neg h'] at hbc
      by_cases hac : a.createdAt = c.createdAt
      · exact absurd (codeUnitLe_antisymm hab (hac ▸ hbc)) (Ne.symm h)
      · rw [if_neg hac]
        exact codeUnitLe_trans hbc hab

/-- Two facts that come before one another have one id. -/
theorem id_eq_of_laterFirst {a b : AuditFact} (hab : laterFirst a b = true) (hba : laterFirst b a = true) :
    a.id = b.id := by
  rw [laterFirst] at hab hba
  by_cases h : a.createdAt = b.createdAt
  · rw [if_pos h] at hab
    rw [if_pos h.symm] at hba
    exact codeUnitLe_antisymm hab hba
  · rw [if_neg h] at hab
    rw [if_neg (Ne.symm h)] at hba
    exact absurd (codeUnitLe_antisymm hba hab) h

instance : Std.Total fun a b : AuditFact => laterFirst a b = true := ⟨laterFirst_total⟩

instance : IsTrans AuditFact fun a b => laterFirst a b = true := ⟨fun _ _ _ => laterFirst_trans⟩

instance : Std.Total fun a b : Aggregate => laterFirst a.latest b.latest = true :=
  ⟨fun a b => laterFirst_total a.latest b.latest⟩

instance : IsTrans Aggregate fun a b => laterFirst a.latest b.latest = true := ⟨fun _ _ _ => laterFirst_trans⟩

/-- The first of a list that is sorted comes before all. -/
theorem head_insertionSort {α : Type} {r : α → α → Prop} [DecidableRel r] [Std.Total r] [IsTrans α r]
    {l rest : List α} {a : α} (h : l.insertionSort r = a :: rest) : a ∈ l ∧ ∀ b ∈ l, r a b := by
  have hperm := List.perm_insertionSort r l
  have hsorted := List.pairwise_insertionSort r l
  rw [h] at hperm hsorted
  refine ⟨hperm.mem_iff.mp List.mem_cons_self, fun b hb => ?_⟩
  rcases List.mem_cons.mp (hperm.mem_iff.mpr hb) with rfl | hb
  · exact (Std.Total.total (r := r) b b).elim id id
  · exact (List.pairwise_cons.mp hsorted).1 b hb

/-- **The latest fact of a side.** -/
theorem latest_aggregate (h : d ∈ cluster (agree opts) cs) : (∃ x ∈ d.2, x.m = (aggregate d).latest)
    ∧ ∀ x ∈ d.2, laterFirst (aggregate d).latest x.m = true := by
  obtain ⟨hfirst, -⟩ := mem_side h
  cases hsort : (d.2.map Carrier.m).insertionSort fun a b => laterFirst a b = true with
  | nil =>
    have hlength := List.length_insertionSort (fun a b => laterFirst a b = true) (d.2.map Carrier.m)
    rw [hsort, List.length_map] at hlength
    rw [List.length_eq_zero_iff.mp hlength.symm] at hfirst
    cases hfirst
  | cons m rest =>
    have hlatest : (aggregate d).latest = m := by
      simp only [aggregate, hsort, List.head?_cons, Option.getD_some]
    obtain ⟨hm, hall⟩ := head_insertionSort hsort
    rw [hlatest]
    exact ⟨List.mem_map.mp hm, fun x hx => hall x.m (List.mem_map_of_mem hx)⟩

/-- Facts without an importance have none together. -/
theorem importance_aggregate (h : ∀ x ∈ d.2, importanceOf x.m = none) : (aggregate d).importance = none := by
  have hnone : (d.2.map Carrier.m).filter (fun m => (importanceOf m).isSome) = [] := by
    rw [List.filter_eq_nil_iff]
    intro m hm
    obtain ⟨x, hx, rfl⟩ := List.mem_map.mp hm
    rw [h x hx]
    decide
  simp [aggregate, hnone]

/-- Facts of one authority have it together. -/
theorem authority_aggregate (h : ∀ x ∈ d.2, authorityOf x.m.kind = 2) (hd : d.1 ∈ d.2) :
    (aggregate d).authority = 2 := by
  rw [aggregate]
  dsimp only
  cases hsort : (d.2.map Carrier.m).insertionSort fun a b => authorityOf b.kind ≤ authorityOf a.kind with
  | nil => exact h d.1 hd
  | cons m rest =>
    have hperm := List.perm_insertionSort (fun a b : AuditFact => authorityOf b.kind ≤ authorityOf a.kind)
      (d.2.map Carrier.m)
    rw [hsort] at hperm
    obtain ⟨x, hx, rfl⟩ := List.mem_map.mp (hperm.mem_iff.mp List.mem_cons_self)
    exact h x hx

theorem byImportance_none (h : ∀ x ∈ agg, x.importance = none) : byImportance agg = none := by
  rw [byImportance]
  split
  case h_1 top second rest hsort =>
    have hperm := List.perm_insertionSort
      (fun a b : Aggregate => salience b.importance ≤ salience a.importance) agg
    rw [hsort] at hperm
    rw [h top (hperm.mem_iff.mp List.mem_cons_self)]
  case h_2 => rfl

theorem byAuthority_none (h : ∀ x ∈ agg, x.authority = 2) : byAuthority agg = none := by
  rw [byAuthority]
  split
  case h_1 top second rest hsort =>
    have hperm := List.perm_insertionSort (fun a b : Aggregate => b.authority ≤ a.authority) agg
    rw [hsort] at hperm
    rw [h top (hperm.mem_iff.mp List.mem_cons_self),
      h second (hperm.mem_iff.mp (List.mem_cons_of_mem _ List.mem_cons_self)), if_neg (lt_irrefl 2)]
  case h_2 => rfl

/-- The rule of recency: the side that has the latest fact of all. -/
theorem byRecency_some (h : 2 ≤ agg.length) : ∃ win ∈ agg, (∀ x ∈ agg, laterFirst win.latest x.latest = true)
    ∧ ∃ r, byRecency P agg = some r ∧ r.recommendedFactId = win.latest.id ∧ r.recommendedValue = win.value := by
  have hlength := List.length_insertionSort (fun a b : Aggregate => laterFirst a.latest b.latest = true) agg
  rw [byRecency]
  split
  case h_1 win runnerUp rest hsort =>
    obtain ⟨hwin, hall⟩ := head_insertionSort hsort
    exact ⟨win, hwin, hall, _, rfl, rfl, rfl⟩
  case h_2 hshort =>
    cases hsort : agg.insertionSort fun a b => laterFirst a.latest b.latest = true with
    | nil =>
      rw [hsort, List.length_nil] at hlength
      omega
    | cons a rest =>
      cases rest with
      | nil =>
        rw [hsort, List.length_singleton] at hlength
        omega
      | cons b rest => exact absurd hsort (hshort a b rest)

end Latest

/-! ## 3. What the recommendation names -/

section Recommended

variable {P : Platform} {opts : AuditOptions} {facts : List AuditFact} {c : Contradiction} {s a : Text}

/-- Do the facts give an attribute two values, from two sources where that is asked for? -/
def Disputed (opts : AuditOptions) (facts : List AuditFact) (s a : Text) : Prop :=
  (∃ x ∈ carriersOf facts s a, ∃ y ∈ carriersOf facts s a, x.value ≠ y.value)
    ∧ (opts.requireDistinctSources = true →
      ∃ x ∈ carriersOf facts s a, ∃ y ∈ carriersOf facts s a, x.m.source ≠ y.m.source)

/-- Has the latest fact about an attribute an id of its own? -/
def OwnId (facts : List AuditFact) (s a : Text) : Prop :=
  ∀ w ∈ carriersOf facts s a, (∀ y ∈ carriersOf facts s a, laterFirst w.m y.m = true) →
    (facts.filter fun m => m.id = w.m.id).length = 1

/-- The recommendation names one of the facts, and its value. -/
def Identifies (P : Platform) (facts : List AuditFact) (c : Contradiction) : Prop :=
  ∃ r m, c.resolution P = some r ∧ (facts.filter fun m => m.id = r.recommendedFactId) = [m]
    ∧ (c.attr, r.recommendedValue) ∈ attributesOf m

theorem mem_contradictions : c ∈ (auditConsistency opts facts).contradictions ↔ c ∈ found opts facts :=
  (List.perm_insertionSort _ _).mem_iff

theorem Audited.compared (h : Audited opts facts) (hd : Disputed opts facts s a) : Compared opts facts s a := by
  obtain ⟨⟨x, hx, y, hy, hne⟩, hsources⟩ := hd
  cases h with
  | snapshot reports =>
    have hm : x.m ≠ y.m := fun heq => hne ((Audited.snapshot reports).value_eq hx hy heq)
    exact ⟨two_le_length (mem_carriersOf.mp hx).1 (mem_carriersOf.mp hy).1 hm,
      two_le_length hx hy fun heq => hm (congrArg Carrier.m heq), nofun⟩
  | history h => exact compared_iff.mpr (hsources rfl)

/-- **What is reported are the disputes.** -/
theorem Audited.disputed (h : Audited opts facts) : c ∈ (auditConsistency opts facts).contradictions
    ↔ Disputed opts facts c.subject c.attr
      ∧ c.sides = cluster (agree opts) (carriersOf facts c.subject c.attr) := by
  rw [mem_contradictions, mem_found, sides_iff_of_plain fun _ hx => h.plain hx]
  constructor
  · rintro ⟨hcompared, hvalues, hsides⟩
    refine ⟨⟨hvalues, fun hreq => ?_⟩, hsides⟩
    cases h with
    | snapshot reports => cases hreq
    | history h => exact compared_iff.mp hcompared
  · rintro ⟨hd, hsides⟩
    exact ⟨h.compared hd, hd.1, hsides⟩

/-- **The latest fact is recommended**, with its value. -/
theorem Audited.recommends (h : Audited opts facts) (hc : c ∈ (auditConsistency opts facts).contradictions) :
    ∃ w ∈ carriersOf facts c.subject c.attr, (∀ y ∈ carriersOf facts c.subject c.attr, laterFirst w.m y.m = true)
      ∧ ∃ r, c.resolution P = some r ∧ r.recommendedFactId = w.m.id ∧ r.recommendedValue = w.value := by
  obtain ⟨hd, hsides⟩ := h.disputed.mp hc
  have hfactual : ∀ d ∈ c.sides, ∀ x ∈ d.2, x ∈ carriersOf facts c.subject c.attr ∧ Factual x.m := by
    intro d hd x hx
    have hmem := ((mem_side (hsides ▸ hd)).2 x hx).1
    exact ⟨hmem, h.factual (mem_of_carrier hmem)⟩
  have himportance : byImportance (c.sides.map aggregate) = none := by
    refine byImportance_none fun x hx => ?_
    obtain ⟨d, hd, rfl⟩ := List.mem_map.mp hx
    exact importance_aggregate fun x hx => (hfactual d hd x hx).2.unweighed
  have hauthority : byAuthority (c.sides.map aggregate) = none := by
    refine byAuthority_none fun x hx => ?_
    obtain ⟨d, hd, rfl⟩ := List.mem_map.mp hx
    exact authority_aggregate (fun x hx => (hfactual d hd x hx).2.structured) (mem_side (hsides ▸ hd)).1
  have hlength : 2 ≤ (c.sides.map aggregate).length := by
    rw [List.length_map, hsides, sides_iff_of_plain fun _ hx => h.plain hx]
    exact hd.1
  obtain ⟨win, hwin, hall, r, hr, hid, hvalue⟩ := byRecency_some (P := P) hlength
  obtain ⟨d, hd, rfl⟩ := List.mem_map.mp hwin
  obtain ⟨⟨w, hw, hlatest⟩, -⟩ := latest_aggregate (hsides ▸ hd)
  have hmem := (hfactual d hd w hw).1
  refine ⟨w, hmem, fun y hy => ?_, r, ?_, by rw [hid, hlatest], ?_⟩
  · -- the latest fact of its side comes before the latest of every other
    have hside : ∃ d ∈ cluster (agree opts) (carriersOf facts c.subject c.attr), y ∈ d.2 := exists_side hy
    obtain ⟨d', hd', hy'⟩ := hside
    rw [hlatest]
    exact laterFirst_trans (hall _ (List.mem_map_of_mem (hsides ▸ hd'))) ((latest_aggregate hd').2 y hy')
  · rw [Contradiction.resolution, resolveContradiction, himportance, hauthority]
    exact hr
  · rw [hvalue]
    have hfirst := (hfactual d hd d.1 (mem_side (hsides ▸ hd)).1).1
    rcases ((mem_side (hsides ▸ hd)).2 w hw).2 with rfl | hagree
    · rfl
    · exact ((h.plain hfirst).agree_iff (h.plain hmem)).mp hagree

/-- **When the recommendation names one fact**: the latest has an id of its own. -/
theorem recommended_iff (P : Platform) (h : Audited opts facts) :
    (∀ c ∈ (auditConsistency opts facts).contradictions, Identifies P facts c)
      ↔ ∀ s a, Disputed opts facts s a → OwnId facts s a := by
  constructor
  · intro hall s a hd w hw hfirst
    have hc : (⟨s, a, cluster (agree opts) (carriersOf facts s a)⟩ : Contradiction)
        ∈ (auditConsistency opts facts).contradictions := h.disputed.mpr ⟨hd, rfl⟩
    obtain ⟨r, m, hr, hone, -⟩ := hall _ hc
    obtain ⟨w', hw', hfirst', r', hr', hid, -⟩ := h.recommends (P := P) hc
    obtain rfl := Option.some.inj (hr.symm.trans hr')
    rw [id_eq_of_laterFirst (hfirst w' hw') (hfirst' w hw), ← hid, hone]
    rfl
  · intro hall c hc
    obtain ⟨w, hw, hfirst, r, hr, hid, hvalue⟩ := h.recommends (P := P) hc
    have hone := hall c.subject c.attr (h.disputed.mp hc).1 w hw hfirst
    obtain ⟨m, hm⟩ := List.length_eq_one_iff.mp hone
    have hwm : w.m ∈ facts.filter fun m => m.id = w.m.id :=
      List.mem_filter.mpr ⟨mem_of_carrier hw, decide_eq_true rfl⟩
    rw [hm] at hwm
    obtain rfl := List.mem_singleton.mp hwm
    refine ⟨r, w.m, hr, by rw [hid, hm], ?_⟩
    rw [hvalue]
    exact (mem_carriersOf.mp hw).2

/-- A table that a source reports with an owner. -/
def ownedReport (source scanId createdAt owner : String) : SourceReport where
  source := js source
  scanId := js scanId
  createdAt := js createdAt
  entity := { dataset "orders" [] with owners := some [js owner] }

/-- Two sources in two scans. -/
def twoScans : List SourceReport :=
  [ownedReport "snowflake" "scan-1" "2026-06-01T09:00:00.000Z" "finance",
    ownedReport "dbt" "scan-2" "2026-07-01T09:00:00.000Z" "ops"]

/-- Two sources in one scan. -/
def oneScan : List SourceReport :=
  [ownedReport "snowflake" "scan-1" "2026-06-01T09:00:00.000Z" "finance",
    ownedReport "dbt" "scan-1" "2026-07-01T09:00:00.000Z" "ops"]

theorem recommended_iff_twoScans : Audited ⟨none, false⟩ (reportsToFacts twoScans) ∧
    ∀ c ∈ (auditConsistency ⟨none, false⟩ (reportsToFacts twoScans)).contradictions,
      Identifies .node (reportsToFacts twoScans) c := by
  have haudited := Audited.snapshot twoScans
  refine ⟨haudited, (recommended_iff .node haudited).mpr fun s a _ w hw _ => ?_⟩
  have hown : ∀ m ∈ reportsToFacts twoScans,
      ((reportsToFacts twoScans).filter fun m' => m'.id = m.id).length = 1 := by
    decide +kernel
  exact hown w.m (mem_of_carrier hw)

/-- **Two facts of one id.** -/
theorem oneScan_ambiguous : ¬∀ c ∈ (auditConsistency ⟨none, false⟩ (reportsToFacts oneScan)).contradictions,
    Identifies .node (reportsToFacts oneScan) c := by
  intro hall
  have h := Audited.snapshot oneScan
  have hd : Disputed ⟨none, false⟩ (reportsToFacts oneScan) (js "orders") (js "owner") := by
    have hvalues : (carriersOf (reportsToFacts oneScan) (js "orders") (js "owner")).map Carrier.value
        = [lit "finance", lit "ops"] := by rfl
    obtain ⟨x, hx, hfinance⟩ := List.mem_map.mp (hvalues ▸ List.mem_cons_self)
    obtain ⟨y, hy, hops⟩ := List.mem_map.mp (hvalues ▸ List.mem_cons_of_mem _ List.mem_cons_self)
    refine ⟨⟨x, hx, y, hy, ?_⟩, nofun⟩
    rw [hfinance, hops]
    intro heq
    exact absurd (Value.str.inj heq) (by decide)
  have hc : (⟨js "orders", js "owner", cluster (agree ⟨none, false⟩)
      (carriersOf (reportsToFacts oneScan) (js "orders") (js "owner"))⟩ : Contradiction)
        ∈ (auditConsistency ⟨none, false⟩ (reportsToFacts oneScan)).contradictions := h.disputed.mpr ⟨hd, rfl⟩
  obtain ⟨r, m, hr, hone, -⟩ := hall _ hc
  obtain ⟨w, hw, -, r', hr', hid, -⟩ := h.recommends (P := .node) hc
  obtain rfl := Option.some.inj (hr.symm.trans hr')
  have htwo : ∀ m ∈ reportsToFacts oneScan,
      ((reportsToFacts oneScan).filter fun m' => m'.id = m.id).length = 2 := by
    decide +kernel
  have hlength := htwo w.m (mem_of_carrier hw)
  rw [← hid, hone] at hlength
  cases hlength

end Recommended

end Audit
