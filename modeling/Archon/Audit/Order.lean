/-
# What does not depend on the order of the facts

A finding is compared by its subject, its attribute, and the set of its sides, each a value with the
set of the facts that assert it.  `findings_perm_iff` says when every order of the facts gives the
same findings: wherever values are compared, values that agree are one value, or all of them agree.
-/
import Archon.Audit.Consistency
import Mathlib.Data.Multiset.Basic
import Mathlib.Data.List.Nodup

namespace Audit

open Ecma

/-! ## 1. Findings -/

/-- A finding, without the order of its parts. -/
inductive Finding where
  | contradiction (subject attr : Text) (sides : Set (Value × Set AuditFact))
  | lineageGap (subject : Text) (referencedBy : Multiset (Text × Text))

/-- The facts of a side, and its value. -/
def sideOf (d : Side) : Value × Set AuditFact := (d.1.value, Carrier.m '' {c | c ∈ d.2})

/-- A contradiction as a finding. -/
def Contradiction.finding (c : Contradiction) : Finding :=
  .contradiction c.subject c.attr {side | ∃ d ∈ c.sides, sideOf d = side}

/-- An absence as a finding. -/
def Absence.finding (a : Absence) : Finding := .lineageGap a.subject a.referencedBy

/-- The findings of a report. -/
def ConsistencyReport.findings (r : ConsistencyReport) : Multiset Finding :=
  r.contradictions.map Contradiction.finding + r.absences.map Absence.finding

section Order

variable {opts : AuditOptions} {facts facts' : List AuditFact} {s a : Text}

/-- The facts about a subject. -/
def factsOf (facts : List AuditFact) (s : Text) : List AuditFact := under s (bySubject facts)

/-- The values of an attribute of a subject. -/
def carriersOf (facts : List AuditFact) (s a : Text) : List Carrier := under a (byAttr (factsOf facts s))

theorem bySubject_perm (h : facts.Perm facts') : (bySubject facts).Perm (bySubject facts') :=
  h.filterMap _

theorem factsOf_perm (h : facts.Perm facts') (s : Text) : (factsOf facts s).Perm (factsOf facts' s) :=
  under_perm (bySubject_perm h)

theorem carriersOf_perm (h : facts.Perm facts') (s a : Text) :
    (carriersOf facts s a).Perm (carriersOf facts' s a) :=
  under_perm ((factsOf_perm h s).flatMap_right _)

theorem sourcesOf_perm {cs ds : List Carrier} (h : cs.Perm ds) :
    (sourcesOf cs).length = (sourcesOf ds).length :=
  (h.map _).dedup.length_eq

/-- Are the values of an attribute of a subject compared at all? -/
def Compared (opts : AuditOptions) (facts : List AuditFact) (s a : Text) : Prop :=
  2 ≤ (factsOf facts s).length ∧ 2 ≤ (carriersOf facts s a).length ∧
    (opts.requireDistinctSources = true → 2 ≤ (sourcesOf (carriersOf facts s a)).length)

theorem Compared.perm (h : facts.Perm facts') (hc : Compared opts facts s a) :
    Compared opts facts' s a := by
  obtain ⟨hfacts, hcarriers, hsources⟩ := hc
  rw [Compared, ← (factsOf_perm h s).length_eq, ← (carriersOf_perm h s a).length_eq,
    ← sourcesOf_perm (carriersOf_perm h s a)]
  exact ⟨hfacts, hcarriers, hsources⟩

theorem contradictionOf_eq_some {cs : List Carrier} {c : Contradiction} :
    contradictionOf opts s a cs = some c ↔ 2 ≤ cs.length ∧ 2 ≤ (cluster (agree opts) cs).length
      ∧ (opts.requireDistinctSources = true → 2 ≤ (sourcesOf cs).length)
      ∧ c = ⟨s, a, cluster (agree opts) cs⟩ := by
  rw [contradictionOf]
  split
  case isTrue h => exact iff_of_false nofun fun hc => by omega
  case isFalse h =>
    split
    case isTrue h' => exact iff_of_false nofun fun hc => by omega
    case isFalse h' =>
      split
      case isTrue h'' =>
        rw [Bool.and_eq_true, decide_eq_true_eq] at h''
        exact iff_of_false nofun fun hc => absurd (hc.2.2.1 h''.1) (not_le.mpr h''.2)
      case isFalse h'' =>
        rw [Bool.and_eq_true, decide_eq_true_eq, not_and] at h''
        rw [Option.some.injEq]
        constructor
        · rintro rfl
          exact ⟨not_lt.mp h, not_lt.mp h', fun hreq => not_lt.mp (h'' hreq), rfl⟩
        · rintro ⟨-, -, -, rfl⟩
          rfl

/-- The contradictions before they are sorted. -/
def found (opts : AuditOptions) (facts : List AuditFact) : List Contradiction :=
  (groups (bySubject facts)).flatMap fun g => contradictionsOf opts g.1 g.2

theorem mem_contradictionsOf {group : List AuditFact} {c : Contradiction} :
    c ∈ contradictionsOf opts s group ↔ 2 ≤ group.length
      ∧ ∃ a, contradictionOf opts s a (under a (byAttr group)) = some c := by
  rw [contradictionsOf]
  split
  case isTrue h =>
    constructor
    · intro hc
      cases hc
    · rintro ⟨hlen, -⟩
      omega
  case isFalse h =>
    rw [List.mem_filterMap]
    constructor
    · rintro ⟨⟨a, cs⟩, hg, hc⟩
      obtain ⟨rfl, -⟩ := mem_groups.mp hg
      exact ⟨by omega, a, hc⟩
    · rintro ⟨-, a, hc⟩
      refine ⟨(a, under a (byAttr group)), mem_groups.mpr ⟨rfl, fun hnil => ?_⟩, hc⟩
      obtain ⟨hlen, -⟩ := contradictionOf_eq_some.mp hc
      rw [hnil] at hlen
      cases hlen

/-- **What is reported.** -/
theorem mem_found {c : Contradiction} : c ∈ found opts facts ↔ Compared opts facts c.subject c.attr
    ∧ 2 ≤ (cluster (agree opts) (carriersOf facts c.subject c.attr)).length
    ∧ c.sides = cluster (agree opts) (carriersOf facts c.subject c.attr) := by
  rw [found, List.mem_flatMap]
  constructor
  · rintro ⟨⟨s, group⟩, hg, hc⟩
    obtain ⟨rfl, -⟩ := mem_groups.mp hg
    obtain ⟨hgroup, a, hc⟩ := mem_contradictionsOf.mp hc
    obtain ⟨hcarriers, hsides, hsources, rfl⟩ := contradictionOf_eq_some.mp hc
    exact ⟨⟨hgroup, hcarriers, hsources⟩, hsides, rfl⟩
  · obtain ⟨s, a, sides⟩ := c
    rintro ⟨⟨hgroup, hcarriers, hsources⟩, hsides, heq⟩
    dsimp only at hgroup hcarriers hsources hsides heq
    subst heq
    refine ⟨(s, factsOf facts s), mem_groups.mpr ⟨rfl, fun hnil => ?_⟩, ?_⟩
    · rw [hnil] at hgroup
      cases hgroup
    · exact mem_contradictionsOf.mpr
        ⟨hgroup, a, contradictionOf_eq_some.mpr ⟨hcarriers, hsides, hsources, rfl⟩⟩

theorem groups_pairwise {α : Type} (ps : List (Text × α)) :
    (groups ps).Pairwise fun g g' => g.1 ≠ g'.1 :=
  List.pairwise_map.mp (nodup_groups ps)

/-- One subject and attribute is reported once. -/
theorem found_pairwise : (found opts facts).Pairwise fun c d =>
    (c.subject, c.attr) ≠ (d.subject, d.attr) := by
  rw [found, List.pairwise_flatMap]
  constructor
  · intro g hg
    rw [contradictionsOf]
    split
    · exact List.Pairwise.nil
    · refine List.pairwise_filterMap.mpr ((groups_pairwise _).imp ?_)
      intro g g' hne c hc d hd heq
      obtain ⟨-, -, -, rfl⟩ := contradictionOf_eq_some.mp hc
      obtain ⟨-, -, -, rfl⟩ := contradictionOf_eq_some.mp hd
      exact hne (Prod.mk.inj heq).2
  · refine (groups_pairwise _).imp ?_
    intro g g' hne c hc d hd heq
    obtain ⟨-, a, hc⟩ := mem_contradictionsOf.mp hc
    obtain ⟨-, a', hd⟩ := mem_contradictionsOf.mp hd
    obtain ⟨-, -, -, rfl⟩ := contradictionOf_eq_some.mp hc
    obtain ⟨-, -, -, rfl⟩ := contradictionOf_eq_some.mp hd
    exact hne (Prod.mk.inj heq).1

/-! ## 2. Gaps -/

theorem missing_perm (h : facts.Perm facts') : (missing facts).Perm (missing facts') := by
  have hpresent : ∀ r, ((bySubject facts).map Prod.fst).contains r
      = ((bySubject facts').map Prod.fst).contains r := by
    intro r
    rw [Bool.eq_iff_iff, List.contains_iff_mem, List.contains_iff_mem]
    exact ((bySubject_perm h).map Prod.fst).mem_iff
  have hmissing : missing facts' = facts'.flatMap fun m => ((refsOf m).filter fun r =>
      !((bySubject facts).map Prod.fst).contains r).map fun r => (r, (m.id, m.source)) := by
    simp only [missing, hpresent]
  rw [hmissing]
  exact h.flatMap_right _

/-- The gaps, without the order of their references. -/
def gapsOf (facts : List AuditFact) : List Finding :=
  (groups (missing facts)).map fun g => .lineageGap g.1 g.2

theorem mem_gapsOf {f : Finding} : f ∈ gapsOf facts ↔ ∃ r, under r (missing facts) ≠ []
    ∧ f = .lineageGap r (under r (missing facts)) := by
  rw [gapsOf, List.mem_map]
  constructor
  · rintro ⟨⟨r, refs⟩, hg, rfl⟩
    obtain ⟨rfl, hne⟩ := mem_groups.mp hg
    exact ⟨r, hne, rfl⟩
  · rintro ⟨r, hne, rfl⟩
    exact ⟨(r, under r (missing facts)), mem_groups.mpr ⟨rfl, hne⟩, rfl⟩

theorem nodup_gapsOf (facts : List AuditFact) : (gapsOf facts).Nodup := by
  refine List.pairwise_map.mpr ((groups_pairwise _).imp ?_)
  intro g g' hne heq
  exact hne (Finding.lineageGap.inj heq).1

/-- **The gaps do not depend on the order of the facts.** -/
theorem gapsOf_perm (h : facts.Perm facts') : (gapsOf facts).Perm (gapsOf facts') := by
  have hsub : ∀ {fs fs' : List AuditFact}, fs.Perm fs' → ∀ f, f ∈ gapsOf fs → f ∈ gapsOf fs' := by
    intro fs fs' hperm f hf
    obtain ⟨r, hne, rfl⟩ := mem_gapsOf.mp hf
    have hunder := under_perm (missing_perm hperm) (k := r)
    refine mem_gapsOf.mpr ⟨r, fun hnil => hne ?_, ?_⟩
    · rw [hnil] at hunder
      exact hunder.eq_nil
    · rw [Multiset.coe_eq_coe.mpr hunder]
  exact (List.perm_ext_iff_of_nodup (nodup_gapsOf _) (nodup_gapsOf _)).mpr
    fun f => ⟨hsub h f, hsub h.symm f⟩

/-! ## 3. Contradictions -/

theorem agree_comm (c d : Carrier) : agree opts c d = agree opts d c := valuesAgree_comm ..

/-- The sides of a contradiction, as they are compared. -/
def sidesOf (opts : AuditOptions) (cs : List Carrier) : Set (Value × Set AuditFact) :=
  {side | ∃ d ∈ cluster (agree opts) cs, sideOf d = side}

theorem mem_map_found {f : Finding} : f ∈ (found opts facts).map Contradiction.finding ↔
    ∃ s a, Compared opts facts s a ∧ 2 ≤ (cluster (agree opts) (carriersOf facts s a)).length
      ∧ f = .contradiction s a (sidesOf opts (carriersOf facts s a)) := by
  rw [List.mem_map]
  constructor
  · rintro ⟨⟨s, a, sides⟩, hc, rfl⟩
    obtain ⟨hcompared, hlen, hsides⟩ := mem_found.mp hc
    dsimp only at hcompared hlen hsides
    subst hsides
    exact ⟨s, a, hcompared, hlen, rfl⟩
  · rintro ⟨s, a, hcompared, hlen, rfl⟩
    exact ⟨⟨s, a, _⟩, mem_found.mpr ⟨hcompared, hlen, rfl⟩, rfl⟩

theorem nodup_map_found : ((found opts facts).map Contradiction.finding).Nodup := by
  refine List.pairwise_map.mpr (found_pairwise.imp ?_)
  intro c d hne heq
  obtain ⟨hs, ha, -⟩ := Finding.contradiction.inj heq
  exact hne (by rw [hs, ha])

/-- What the report says, before it is sorted. -/
theorem findings_eq : (auditConsistency opts facts).findings
    = ((found opts facts).map Contradiction.finding : Multiset Finding) + (gapsOf facts : Multiset Finding) := by
  refine congrArg₂ (· + ·) ?_ ?_
  · exact Multiset.coe_eq_coe.mpr ((List.perm_insertionSort _ _).map _)
  · refine Multiset.coe_eq_coe.mpr (((List.perm_insertionSort _ _).map _).trans ?_)
    rw [List.map_map]
    exact List.Perm.refl _

/-- Values that agree are one value. -/
def Exact (opts : AuditOptions) (cs : List Carrier) : Prop :=
  cs.Pairwise fun c d => agree opts c d = true → c.value = d.value

/-- All values agree. -/
def Unanimous (opts : AuditOptions) (cs : List Carrier) : Prop :=
  cs.Pairwise fun c d => agree opts c d = true

theorem Unanimous.perm {cs ds : List Carrier} (h : cs.Perm ds) (hu : Unanimous opts cs) :
    Unanimous opts ds :=
  (h.pairwise_iff fun {c d} hcd => by rwa [agree_comm]).mp hu

theorem Exact.perm {cs ds : List Carrier} (h : cs.Perm ds) (he : Exact opts cs) : Exact opts ds :=
  (h.pairwise_iff fun {c d} hcd hdc => (hcd (by rwa [agree_comm])).symm).mp he

theorem Unanimous.length_lt {cs : List Carrier} (h : Unanimous opts cs) :
    (cluster (agree opts) cs).length < 2 := by
  cases cs with
  | nil => exact Nat.two_pos
  | cons c cs => exact length_cluster_lt_two.mpr (List.pairwise_cons.mp h).1

/-- Where only equal values agree, all values agree if the first one agrees with all. -/
theorem Exact.unanimous {cs : List Carrier} (h : Exact opts cs)
    (hlen : (cluster (agree opts) cs).length < 2) : Unanimous opts cs := by
  cases cs with
  | nil => exact List.Pairwise.nil
  | cons c cs =>
    have hall := length_cluster_lt_two.mp hlen
    obtain ⟨heq, -⟩ := List.pairwise_cons.mp h
    refine List.pairwise_cons.mpr ⟨hall, ?_⟩
    refine List.pairwise_of_forall_mem_list fun d hd e he => ?_
    have hc := hall e he
    rw [agree, heq d hd (hall d hd)] at hc
    exact hc

theorem sidesOf_eq (cs : List Carrier) : sidesOf opts cs
    = (fun p : Value × Set Carrier => (p.1, Carrier.m '' p.2)) ''
      {p | ∃ d ∈ cluster (agree opts) cs, seen Carrier.value d = p} := by
  ext side
  constructor
  · rintro ⟨d, hd, rfl⟩
    exact ⟨_, ⟨d, hd, rfl⟩, rfl⟩
  · rintro ⟨p, ⟨d, hd, rfl⟩, rfl⟩
    exact ⟨d, hd, rfl⟩

theorem Exact.mem_sides {cs : List Carrier} (he : Exact opts cs) {p : Value × Set Carrier} :
    (∃ d ∈ cluster (agree opts) cs, seen Carrier.value d = p) ↔ ∃ c ∈ cs,
      p = (c.value, classOf Carrier.value (valuesAgree opts.tolerance) cs c) :=
  @mem_cluster_iff Carrier Value Carrier.value (valuesAgree opts.tolerance) cs he p

theorem Exact.sidesOf_perm {cs ds : List Carrier} (h : cs.Perm ds) (he : Exact opts cs) :
    sidesOf opts cs = sidesOf opts ds := by
  have hsides : ∀ p : Value × Set Carrier, (∃ d ∈ cluster (agree opts) cs, seen Carrier.value d = p)
      ↔ ∃ d ∈ cluster (agree opts) ds, seen Carrier.value d = p := by
    intro p
    refine he.mem_sides.trans (Iff.trans ?_ (he.perm h).mem_sides.symm)
    have hclass : ∀ c, classOf Carrier.value (valuesAgree opts.tolerance) cs c
        = classOf Carrier.value (valuesAgree opts.tolerance) ds c := by
      intro c
      ext d
      simp only [classOf, Set.mem_ofPred_eq, h.mem_iff]
    simp only [h.mem_iff, hclass]
  rw [sidesOf_eq, sidesOf_eq]
  simp only [hsides]

/-! ## 4. The report -/

/-- **Where only equal values agree, or all do, the findings are the same.** -/
theorem findings_perm (h : facts.Perm facts') (hexact : ∀ s a, Compared opts facts s a →
    Unanimous opts (carriersOf facts s a) ∨ Exact opts (carriersOf facts s a)) :
    (auditConsistency opts facts).findings = (auditConsistency opts facts').findings := by
  have hback : ∀ s a, Compared opts facts' s a →
      Unanimous opts (carriersOf facts' s a) ∨ Exact opts (carriersOf facts' s a) := by
    intro s a hc
    have hperm := carriersOf_perm h s a
    exact (hexact s a (hc.perm h.symm)).imp (Unanimous.perm hperm) (Exact.perm hperm)
  have hsub : ∀ {fs fs' : List AuditFact}, fs.Perm fs' → (∀ s a, Compared opts fs s a →
      Unanimous opts (carriersOf fs s a) ∨ Exact opts (carriersOf fs s a)) →
      ∀ f, f ∈ (found opts fs).map Contradiction.finding →
        f ∈ (found opts fs').map Contradiction.finding := by
    intro fs fs' hperm hfs f hf
    obtain ⟨s, a, hc, hlen, rfl⟩ := mem_map_found.mp hf
    have hcarriers := carriersOf_perm hperm s a
    rcases hfs s a hc with hu | he
    · exact absurd hlen (not_le.mpr hu.length_lt)
    · refine mem_map_found.mpr ⟨s, a, hc.perm hperm, ?_, by rw [he.sidesOf_perm hcarriers]⟩
      -- One side alone would be unanimous, in either order.
      by_contra hlt
      have hu := (he.perm hcarriers).unanimous (not_le.mp hlt)
      exact absurd hlen (not_le.mpr (hu.perm hcarriers.symm).length_lt)
  have hfound : ((found opts facts).map Contradiction.finding).Perm
      ((found opts facts').map Contradiction.finding) :=
    (List.perm_ext_iff_of_nodup nodup_map_found nodup_map_found).mpr
      fun f => ⟨hsub h hexact f, hsub h.symm hback f⟩
  rw [findings_eq, findings_eq, Multiset.coe_eq_coe.mpr hfound, Multiset.coe_eq_coe.mpr (gapsOf_perm h)]

theorem mem_findings {S : Set (Value × Set AuditFact)} :
    .contradiction s a S ∈ (auditConsistency opts facts).findings ↔ Compared opts facts s a
      ∧ 2 ≤ (cluster (agree opts) (carriersOf facts s a)).length
      ∧ S = sidesOf opts (carriersOf facts s a) := by
  rw [findings_eq, Multiset.mem_add, Multiset.mem_coe, Multiset.mem_coe, mem_map_found, mem_gapsOf]
  constructor
  · rintro (⟨s', a', hc, hlen, heq⟩ | ⟨r, -, heq⟩)
    · obtain ⟨rfl, rfl, rfl⟩ := Finding.contradiction.inj heq
      exact ⟨hc, hlen, rfl⟩
    · cases heq
  · rintro ⟨hc, hlen, rfl⟩
    exact Or.inl ⟨s, a, hc, hlen, rfl⟩

theorem attributesOf_nodup (m : AuditFact) : ((attributesOf m).map Prod.fst).Nodup := by
  unfold attributesOf
  split
  case h_1 md hmd => exact md.keys_nodup.sublist (List.filter_sublist.map _)
  case h_2 => exact List.nodup_nil

/-- Any carrier can come first. -/
theorem exists_first {c : Carrier} (h : c ∈ carriersOf facts s a) :
    ∃ fs tl, facts.Perm fs ∧ carriersOf fs s a = c :: tl := by
  obtain ⟨m, hm, hf⟩ := List.mem_flatMap.mp (mem_under.mp h)
  obtain ⟨m', hm', hsubject⟩ := List.mem_filterMap.mp (mem_under.mp hm)
  obtain ⟨s', hs', heq⟩ := Option.map_eq_some_iff.mp hsubject
  obtain ⟨rfl, rfl⟩ := Prod.mk.inj heq
  obtain ⟨before, rest, rfl⟩ := List.append_of_mem hm'
  have hfirst : factsOf (m' :: (before ++ rest)) s' = m' :: factsOf (before ++ rest) s' := by
    simp [factsOf, bySubject, under, hs']
  have hone : under a ((attributesOf m').map fun f => (f.1, (⟨m', f.2⟩ : Carrier))) = [c] := by
    refine under_eq_singleton ?_ hf
    rw [List.map_map]
    exact attributesOf_nodup m'
  refine ⟨m' :: (before ++ rest), under a (byAttr (factsOf (before ++ rest) s')),
    List.perm_middle, ?_⟩
  rw [carriersOf, hfirst, byAttr, List.flatMap_cons, under_append, hone]
  rfl

theorem first_side (opts : AuditOptions) (c : Carrier) (cs : List Carrier) :
    ∃ F, (c.value, F) ∈ sidesOf opts (c :: cs) := by
  refine ⟨_, (c, c :: cs.filter (agree opts c)), ?_, rfl⟩
  rw [cluster_cons]
  exact List.mem_cons_self

/-- No side is called by a value that the first one agrees with. -/
theorem no_side {c d : Carrier} {cs : List Carrier} (hagree : agree opts c d = true)
    (hne : d.value ≠ c.value) {F : Set AuditFact} : (d.value, F) ∉ sidesOf opts (c :: cs) := by
  rintro ⟨e, he, heq⟩
  have hvalue : e.1.value = d.value := (Prod.mk.inj heq).1
  rw [cluster_cons] at he
  rcases List.mem_cons.mp he with rfl | he
  · exact hne hvalue.symm
  · have hrest := (List.mem_filter.mp (fst_mem_of_cluster he)).2
    rw [agree, hvalue] at hrest
    rw [agree] at hagree
    rw [hagree] at hrest
    cases hrest

/-- Only then are they the same. -/
theorem exact_of_findings (h : ∀ fs, facts.Perm fs →
    (auditConsistency opts facts).findings = (auditConsistency opts fs).findings)
    (hc : Compared opts facts s a) :
    Unanimous opts (carriersOf facts s a) ∨ Exact opts (carriersOf facts s a) := by
  by_contra hnot
  rw [not_or] at hnot
  obtain ⟨p, q, l, hpq, hdisagree⟩ := perm_of_not_pairwise hnot.1
  obtain ⟨x, y, l', hxy, hvalues⟩ := perm_of_not_pairwise hnot.2
  rw [Classical.not_imp] at hvalues
  obtain ⟨fs, tl, hfs, hp⟩ := exists_first (hpq.symm.mem_iff.mp List.mem_cons_self)
  obtain ⟨fs', tl', hfs', hx⟩ := exists_first (hxy.symm.mem_iff.mp List.mem_cons_self)
  obtain ⟨fs'', tl'', hfs'', hy⟩ := exists_first
    (hxy.symm.mem_iff.mp (List.mem_cons_of_mem _ List.mem_cons_self))
  -- With `p` first there is a contradiction, so there is one in every order.
  have hlen : 2 ≤ (cluster (agree opts) (carriersOf fs s a)).length := by
    rw [hp]
    by_contra hlt
    have hperm : (p :: tl).Perm (p :: q :: l) := hp ▸ (carriersOf_perm hfs s a).symm.trans hpq
    have hq : q ∈ tl := (hperm.cons_inv).symm.mem_iff.mp List.mem_cons_self
    exact hdisagree (length_cluster_lt_two.mp (not_le.mp hlt) q hq)
  have hfound := mem_findings.mpr ⟨hc.perm hfs, hlen, rfl⟩
  rw [← h fs hfs] at hfound
  obtain ⟨-, -, hsides⟩ := mem_findings.mp (h fs' hfs' ▸ hfound)
  obtain ⟨-, -, hsides'⟩ := mem_findings.mp (h fs'' hfs'' ▸ hfound)
  obtain ⟨F, hF⟩ := first_side opts x tl'
  rw [← hx, ← hsides, hsides', hy] at hF
  exact no_side (by rw [agree_comm]; exact hvalues.1) hvalues.2 hF

/-- **Every order of the facts gives the same findings just where, on every attribute of a subject
whose values are compared, values that agree are one value, or all of them agree.** -/
theorem findings_perm_iff : (∀ fs, facts.Perm fs →
      (auditConsistency opts facts).findings = (auditConsistency opts fs).findings)
    ↔ ∀ s a, Compared opts facts s a →
      Unanimous opts (carriersOf facts s a) ∨ Exact opts (carriersOf facts s a) :=
  ⟨fun h _ _ => exact_of_findings h, fun h _ hperm => findings_perm hperm h⟩

end Order

/-! ## 5. Three facts -/

/-- One. -/
def one : Number := .finite ⟨false, 2 ^ 52, -52, by decide⟩

/-- A fact that gives a table a score. -/
def scoreFact (id : String) (score : Number) : AuditFact where
  id := js id
  kind := js "insight"
  source := js "profiler"
  sourceRef := none
  metadata := some ⟨[(js "record", .str (js "orders")), (js "score", .num score)], by
    simp only [List.map_cons, List.map_nil]
    decide⟩
  createdAt := js "2026-07-14T10:00:00.000Z"

/-- Three scores, each within the tolerance of the next. -/
def scores : List AuditFact :=
  [scoreFact "a" (.finite (Binary64.zero false)), scoreFact "b" half, scoreFact "c" one]

/-- They start with the one between the two others. -/
def scores' : List AuditFact :=
  [scoreFact "b" half, scoreFact "a" (.finite (Binary64.zero false)), scoreFact "c" one]

theorem scores_contradict : (auditConsistency ⟨none, false⟩ scores).contradictions.length = 1 := by
  decide +kernel

theorem scores_agree : (auditConsistency ⟨none, false⟩ scores').contradictions.length = 0 := by
  decide +kernel

/-- In one order they contradict each other, in the other one they do not. -/
theorem order_matters : scores.Perm scores' ∧ (auditConsistency ⟨none, false⟩ scores).findings
    ≠ (auditConsistency ⟨none, false⟩ scores').findings := by
  have hperm : scores.Perm scores' := List.Perm.swap _ _ _
  refine ⟨hperm, fun heq => ?_⟩
  rw [findings_eq, findings_eq, Multiset.coe_eq_coe.mpr (gapsOf_perm hperm)] at heq
  have hcard := congrArg Multiset.card (add_right_cancel heq)
  rw [Multiset.coe_card, Multiset.coe_card, List.length_map, List.length_map] at hcard
  have hfound : ∀ facts, (found ⟨none, false⟩ facts).length
      = (auditConsistency ⟨none, false⟩ facts).contradictions.length := fun facts =>
    (List.perm_insertionSort _ _).length_eq.symm
  rw [hfound, hfound, scores_contradict, scores_agree] at hcard
  cases hcard

end Audit
