/-
# What the public report gives away

The public report is to leave out the values that a contradiction is about.  It drops them from the list
of values, and keeps the summary and the recommendation, which show them.  So two audits that differ in
nothing but these values have the same public findings only where the values are printed alike; and
where they are, and no fact has another salience, the findings are the same (`public_findings`).
-/
import Archon.Audit.Order
import Archon.Ecma.Twins
import Archon.Report.Public

namespace Report

open Ecma Ecma.Value Remediation Audit
open List (Forall₂)

/-! ## 1. Two harvests -/

/-- A value of an attribute, as JSON has it. -/
def isJsonScalar : Value → Bool
  | .num x => x.isFinite
  | .str _ | .bool _ => true
  | _ => false

/-- Two facts that differ in nothing but the values of their attributes. -/
structure FactTwin (m m' : AuditFact) : Prop where
  id : m.id = m'.id
  kind : m.kind = m'.kind
  source : m.source = m'.source
  sourceRef : m.sourceRef = m'.sourceRef
  createdAt : m.createdAt = m'.createdAt
  importance : m.importance = m'.importance
  record : m.get "record" = m'.get "record"
  refs : m.get "refs" = m'.get "refs"
  attributes : Forall₂ (Keyed fun v w => isJsonScalar v = true ∧ isJsonScalar w = true) (attributesOf m)
    (attributesOf m')

/-- Two harvests that differ in nothing but the values of attributes, which are divided alike. -/
structure DiffersInValues (h h' : Harvest) : Prop where
  facts : Forall₂ FactTwin h.facts h'.facts
  versions : Forall₂ FactTwin h.versions h'.versions
  factSides : ∀ s a, SamePartition (agree ⟨none, false⟩) (carriersOf h.facts s a)
    (carriersOf h'.facts s a)
  versionSides : ∀ s a, SamePartition (agree ⟨none, true⟩) (carriersOf h.versions s a)
    (carriersOf h'.versions s a)

/-- The facts are as important in both. -/
structure SameSalience (h h' : Harvest) : Prop where
  facts : Forall₂ (fun m m' => importanceOf m = importanceOf m') h.facts h'.facts
  versions : Forall₂ (fun m m' => importanceOf m = importanceOf m') h.versions h'.versions

/-! ## 2. Their contradictions -/

section Contradictions

variable {R : AuditFact → AuditFact → Prop} (hR : ∀ m m', R m m' → FactTwin m m')
  {facts facts' group group' : List AuditFact} {opts : AuditOptions}

/-- Two facts that belong together, with their values of one attribute. -/
def CarrierTwin (R : AuditFact → AuditFact → Prop) (c c' : Carrier) : Prop :=
  R c.m c'.m ∧ isJsonScalar c.value = true ∧ isJsonScalar c'.value = true

/-- Two contradictions that belong together. -/
structure ContradictionTwin (R : AuditFact → AuditFact → Prop) (c c' : Contradiction) : Prop where
  subject : c.subject = c'.subject
  attr : c.attr = c'.attr
  sides : Forall₂ (SideTwin (CarrierTwin R)) c.sides c'.sides

theorem subjectKey_twin {m m' : AuditFact} (h : FactTwin m m') : m.subjectKey = m'.subjectKey := by
  rw [AuditFact.subjectKey, AuditFact.subjectKey, h.record, h.sourceRef]

include hR

theorem bySubject_twin (h : Forall₂ R facts facts') :
    Forall₂ (Keyed R) (bySubject facts) (bySubject facts') := by
  refine List.rel_filterMap (P := Keyed R) ?_ h
  intro m m' hm
  dsimp only
  rw [subjectKey_twin (hR _ _ hm)]
  cases m'.subjectKey with
  | none => exact .none
  | some s => exact .some ⟨rfl, hm⟩

theorem byAttr_twin (h : Forall₂ R group group') :
    Forall₂ (Keyed (CarrierTwin R)) (byAttr group) (byAttr group') := by
  refine List.rel_flatMap h fun m m' hm => ?_
  refine List.rel_map ?_ (hR _ _ hm).attributes
  intro f g hfg
  exact ⟨hfg.1, hm, hfg.2⟩

theorem sourcesOf_twin {cs cs' : List Carrier} (h : Forall₂ (CarrierTwin R) cs cs') :
    sourcesOf cs = sourcesOf cs' := by
  rw [sourcesOf, sourcesOf]
  congr 1
  exact map_eq_of_forall₂ h fun c c' hc => (hR _ _ hc.1).source

theorem contradictionOf_twin {s a : Text} {cs cs' : List Carrier}
    (h : Forall₂ (CarrierTwin R) cs cs') (hsame : SamePartition (agree opts) cs cs') :
    Option.Rel (ContradictionTwin R) (contradictionOf opts s a cs) (contradictionOf opts s a cs') := by
  have hsides := forall₂_cluster h hsame
  rw [contradictionOf, contradictionOf, ← sourcesOf_twin hR h, h.length_eq, hsides.length_eq]
  by_cases hcarriers : cs'.length < 2
  · rw [if_pos hcarriers, if_pos hcarriers]
    exact .none
  · rw [if_neg hcarriers, if_neg hcarriers]
    by_cases hone : (cluster (agree opts) cs').length < 2
    · rw [if_pos hone, if_pos hone]
      exact .none
    · rw [if_neg hone, if_neg hone]
      split
      · exact .none
      · exact .some ⟨rfl, rfl, hsides⟩

theorem contradictionsOf_twin {s : Text} (h : Forall₂ R group group')
    (hsame : ∀ a, SamePartition (agree opts) (under a (byAttr group)) (under a (byAttr group'))) :
    Forall₂ (ContradictionTwin R) (contradictionsOf opts s group) (contradictionsOf opts s group') := by
  rw [contradictionsOf, contradictionsOf, h.length_eq]
  split
  · exact .nil
  · refine List.rel_filterMap ?_ (forall₂_mem (forall₂_groups (byAttr_twin hR h)))
    rintro ⟨a, cs⟩ ⟨a', cs'⟩ ⟨⟨hkey, hcs⟩, hmem, hmem'⟩
    obtain rfl : a = a' := hkey
    refine contradictionOf_twin hR hcs ?_
    rw [(mem_groups.mp hmem).1, (mem_groups.mp hmem').1]
    exact hsame a

/-- **The contradictions belong together.** -/
theorem contradictions_twin (h : Forall₂ R facts facts')
    (hsame : ∀ s a, SamePartition (agree opts) (carriersOf facts s a) (carriersOf facts' s a)) :
    Forall₂ (ContradictionTwin R) (auditConsistency opts facts).contradictions
      (auditConsistency opts facts').contradictions := by
  refine forall₂_insertionSort ?_ ?_
  · refine List.rel_flatMap (forall₂_mem (forall₂_groups (bySubject_twin hR h))) ?_
    rintro ⟨s, group⟩ ⟨s', group'⟩ ⟨⟨hkey, hgroup⟩, hmem, hmem'⟩
    obtain rfl : s = s' := hkey
    refine contradictionsOf_twin hR hgroup fun a => ?_
    rw [(mem_groups.mp hmem).1, (mem_groups.mp hmem').1]
    exact hsame s a
  · intro c c' hc d d' hd
    rw [before, before, hc.subject, hc.attr, hd.subject, hd.attr]

theorem absences_twin (h : Forall₂ R facts facts') :
    (auditConsistency opts facts).absences = (auditConsistency opts facts').absences := by
  have hpresent : (bySubject facts).map Prod.fst = (bySubject facts').map Prod.fst :=
    map_eq_of_forall₂ (bySubject_twin hR h) fun _ _ hp => hp.1
  have hmissing : missing facts = missing facts' := by
    rw [missing, missing, hpresent, List.flatMap_def, List.flatMap_def]
    congr 1
    refine map_eq_of_forall₂ h fun m m' hm => ?_
    have ht := hR _ _ hm
    rw [refsOf, refsOf, ht.refs, ht.id, ht.source]
  rw [auditConsistency, auditConsistency, hmissing]

end Contradictions

/-! ## 3. Their findings -/

section Resolutions

variable {P : Platform} {sides sides' : List Side} {agg : List Aggregate}

/-- Less than two sides cannot be compared. -/
theorem ladder_short (h : agg.length < 2) :
    byImportance agg = none ∧ byAuthority agg = none ∧ byRecency P agg = none := by
  refine ⟨?_, ?_, ?_⟩
  · unfold byImportance
    split
    · rename_i top second rest hsort
      have hlength := List.length_insertionSort
        (fun a b : Aggregate => salience b.importance ≤ salience a.importance) agg
      rw [hsort, List.length_cons, List.length_cons] at hlength
      omega
    · rfl
  · unfold byAuthority
    split
    · rename_i top second rest hsort
      have hlength := List.length_insertionSort (fun a b : Aggregate => b.authority ≤ a.authority) agg
      rw [hsort, List.length_cons, List.length_cons] at hlength
      omega
    · rfl
  · unfold byRecency
    split
    · rename_i win runnerUp rest hsort
      have hlength := List.length_insertionSort
        (fun a b : Aggregate => laterFirst a.latest b.latest = true) agg
      rw [hsort, List.length_cons, List.length_cons] at hlength
      omega
    · rfl

/-- **Two sides have a resolution.** -/
theorem resolveContradiction_isSome :
    (resolveContradiction P sides).isSome = decide (2 ≤ sides.length) := by
  have hagg : (sides.map aggregate).length = sides.length := List.length_map _
  rw [resolveContradiction]
  by_cases h : 2 ≤ sides.length
  · have hrecency : (byRecency P (sides.map aggregate)).isSome = true := by
      unfold byRecency
      split
      · rfl
      · rename_i hshort
        have hlength := List.length_insertionSort
          (fun a b : Aggregate => laterFirst a.latest b.latest = true) (sides.map aggregate)
        rcases hsort : (sides.map aggregate).insertionSort
            (fun a b => laterFirst a.latest b.latest = true) with _ | ⟨a, _ | ⟨b, l⟩⟩
        · rw [hsort, List.length_nil] at hlength
          omega
        · rw [hsort, List.length_singleton] at hlength
          omega
        · exact absurd hsort (hshort a b l)
    rw [decide_eq_true h]
    cases byImportance (sides.map aggregate) with
    | some r => rfl
    | none =>
      cases byAuthority (sides.map aggregate) with
      | some r => rfl
      | none => exact hrecency
  · obtain ⟨himportance, hauthority, hrecency⟩ := ladder_short (P := P) (by omega : (sides.map aggregate).length < 2)
    rw [himportance, hauthority, hrecency, decide_eq_false h]
    rfl

end Resolutions

section Findings

variable {R : AuditFact → AuditFact → Prop} (hR : ∀ m m', R m m' → FactTwin m m') {S : Surroundings}

/-- Two findings that belong together: one, or those of two contradictions. -/
def FindingTwin (R : AuditFact → AuditFact → Prop) (P : Platform) (f f' : AuditFinding) : Prop :=
  f = f' ∨ ∃ c c' r r', ContradictionTwin R c c' ∧ c.resolution P = some r ∧ c'.resolution P = some r'
    ∧ f = contradictionFinding c r ∧ f' = contradictionFinding c' r'

theorem FindingTwin.shape {P : Platform} {f f' : AuditFinding} (h : FindingTwin R P f f') :
    f.type = f'.type ∧ f.severity = f'.severity ∧ f.subject = f'.subject ∧ f.key = f'.key := by
  rcases h with rfl | ⟨c, c', r, r', hc, -, -, rfl, rfl⟩
  · exact ⟨rfl, rfl, rfl, rfl⟩
  · refine ⟨rfl, ?_, hc.subject, ?_⟩
    · rw [contradictionFinding, contradictionFinding, hc.attr]
    · rw [AuditFinding.key, AuditFinding.key, contradictionFinding, contradictionFinding, hc.subject,
        hc.attr]
      rfl

theorem toFindings_twin {P : Platform} {rep rep' : ConsistencyReport}
    (hcontradictions : Forall₂ (ContradictionTwin R) rep.contradictions rep'.contradictions)
    (habsences : rep.absences = rep'.absences) :
    Forall₂ (FindingTwin R P) (toFindings P rep) (toFindings P rep') := by
  rw [toFindings, toFindings, habsences]
  refine List.rel_append ?_ (List.forall₂_same.mpr fun f _ => Or.inl rfl)
  refine List.rel_filterMap ?_ hcontradictions
  intro c c' hc
  dsimp only
  have hsome : (c.resolution P).isSome = (c'.resolution P).isSome := by
    rw [Contradiction.resolution, Contradiction.resolution, resolveContradiction_isSome,
      resolveContradiction_isSome, hc.sides.length_eq]
  cases hr : c.resolution P with
  | none =>
    rw [hr] at hsome
    have hnone : c'.resolution P = none :=
      Option.isNone_iff_eq_none.mp (Option.isSome_eq_false_iff.mp hsome.symm)
    rw [hnone]
    exact .none
  | some r =>
    rw [hr] at hsome
    obtain ⟨r', hr'⟩ := Option.isSome_iff_exists.mp hsome.symm
    rw [hr']
    exact .some (Or.inr ⟨c, c', r, r', hc, hr, hr', rfl, rfl⟩)

theorem unseen_twin {P : Platform} {fs fs' : List AuditFinding} (h : Forall₂ (FindingTwin R P) fs fs') :
    ∀ seen, Forall₂ (FindingTwin R P) (unseen seen fs) (unseen seen fs') := by
  induction h with
  | nil => exact fun _ => .nil
  | @cons f f' fs fs' hf _ ih =>
    intro seen
    rw [unseen, unseen, hf.shape.2.2.2]
    split
    · exact ih seen
    · exact .cons hf (ih _)

/-- Two findings of a report that belong together. -/
def ReportedTwin (R : AuditFact → AuditFact → Prop) (S : Surroundings) (g g' : AuditFinding) : Prop :=
  ∃ f f', FindingTwin R S.P f f' ∧ g = withRadius S f ∧ g' = withRadius S f'

include hR

theorem lineage_twin {h h' : Harvest} (hfacts : Forall₂ R h.facts h'.facts)
    (hversions : Forall₂ R h.versions h'.versions) (hd : DiffersInValues h h') :
    Forall₂ (FindingTwin R S.P) (lineageFindings S h) (lineageFindings S h') :=
  unseen_twin (List.rel_append
    (toFindings_twin (contradictions_twin hR hfacts hd.factSides) (absences_twin hR hfacts))
    (toFindings_twin (contradictions_twin hR hversions hd.versionSides) (absences_twin hR hversions))) []

/-- **The findings of the two reports belong together.** -/
theorem reportFindings_twin {h h' : Harvest} (hfacts : Forall₂ R h.facts h'.facts)
    (hversions : Forall₂ R h.versions h'.versions) (hd : DiffersInValues h h') :
    Forall₂ (ReportedTwin R S) (reportFindings S h) (reportFindings S h') := by
  refine forall₂_insertionSort ?_ ?_
  · refine List.rel_map ?_ (List.rel_append (lineage_twin hR hfacts hversions hd)
      (List.forall₂_same.mpr fun f _ => Or.inl rfl))
    exact fun f f' hf => ⟨f, f', hf, rfl, rfl⟩
  · rintro _ _ ⟨f, f', hf, rfl, rfl⟩ _ _ ⟨g, g', hg, rfl, rfl⟩
    obtain ⟨htype, hseverity, hsubject, -⟩ := hf.shape
    obtain ⟨htype', hseverity', hsubject', -⟩ := hg.shape
    have hsort : goesFirst S f g = goesFirst S f' g' := by
      rw [goesFirst, goesFirst, htype, hseverity, hsubject, htype', hseverity', hsubject']
    exact iff_of_eq (congrArg (· = true) hsort)

end Findings

/-! ## 4. Reading a summary -/

/-- A value of an attribute is printed as one that JSON carries exactly. -/
theorem exact_of_scalar {v : Value} (h : isJsonScalar v = true) :
    Exact v.printed ∧ stringify v.printed = some (stringified v) ∧ depth v.printed = 1 := by
  have hprint : stringify v.printed = stringify v := stringify_printed v
  rw [hprint]
  cases v with
  | num x =>
    have hfinite : x.isFinite = true := h
    have hvalue : (Value.num x).printed = .num x.normZero := by rw [Value.printed, if_pos hfinite]
    rw [hvalue]
    refine ⟨⟨by rw [isFinite_normZero, hfinite], normZero_idem x⟩, ?_, rfl⟩
    rw [stringified, stringify]
    rfl
  | str t => exact ⟨trivial, rfl, rfl⟩
  | bool b => exact ⟨trivial, rfl, rfl⟩
  | _ => cases h

/-- **A value is read off the front of a summary.** -/
theorem scalar_append_inj {v w : Value} {X Y : Text} (hv : isJsonScalar v = true)
    (hw : isJsonScalar w = true) (h : stringified v ++ 0x20 :: X = stringified w ++ 0x20 :: Y) :
    stringified v = stringified w ∧ X = Y := by
  obtain ⟨hexact, hprint, hdepth⟩ := exact_of_scalar hv
  obtain ⟨hexact', hprint', hdepth'⟩ := exact_of_scalar hw
  have hends : ∀ X, EndsNumeral (0x20 :: X) := fun X => endsNumeral_cons (by decide) (by decide)
  have hread := readValue_stringify (n := 0) _ hexact hprint (by omega) (hends X)
  have hread' := readValue_stringify (n := 0) _ hexact' hprint' (by omega) (hends Y)
  rw [h, hread'] at hread
  obtain ⟨hvalue, hrest⟩ := Prod.mk.inj (Option.some.inj hread)
  rw [hvalue, hprint] at hprint'
  exact ⟨Option.some.inj hprint', (List.cons.inj hrest).2.symm⟩

/-- Two listed values that belong together. -/
structure ListedTwin (v v' : ListedValue) : Prop where
  factId : v.factId = v'.factId
  source : v.source = v'.source
  createdAt : v.createdAt = v'.createdAt
  scalar : isJsonScalar v.value = true ∧ isJsonScalar v'.value = true

theorem intercalate_shown (v w : ListedValue) (vs : List ListedValue) :
    (js " vs ").intercalate ((v :: w :: vs).map shownValue)
      = shownValue v ++ (js " vs " ++ (js " vs ").intercalate ((w :: vs).map shownValue)) := by
  simp [List.intercalate]

/-- A value is read off the front of what is shown. -/
theorem shownValue_inj {v v' : ListedValue} (h : ListedTwin v v') {X Y : Text}
    (heq : shownValue v ++ X = shownValue v' ++ Y) :
    stringified v.value = stringified v'.value ∧ X = Y := by
  have hopen : js " (" = [0x20, 0x28] := by decide
  rw [shownValue, shownValue, hopen] at heq
  simp only [List.append_assoc, List.cons_append, List.nil_append] at heq
  obtain ⟨hvalue, hrest⟩ := scalar_append_inj h.scalar.1 h.scalar.2 heq
  rw [h.source] at hrest
  exact ⟨hvalue, by simpa using hrest⟩

/-- **A summary shows the values.** -/
theorem intercalate_inj {vs vs' : List ListedValue} (h : Forall₂ ListedTwin vs vs') {X : Text}
    (heq : (js " vs ").intercalate (vs.map shownValue) ++ X
      = (js " vs ").intercalate (vs'.map shownValue) ++ X) :
    Forall₂ (fun v v' => stringified v.value = stringified v'.value) vs vs' := by
  induction h with
  | nil => exact .nil
  | @cons v v' vs vs' hv hvs ih =>
    cases hvs with
    | nil =>
      simp only [List.map_cons, List.map_nil, List.intercalate_singleton] at heq
      exact .cons (shownValue_inj hv heq).1 .nil
    | @cons w w' ws ws' hw hws =>
      rw [intercalate_shown, intercalate_shown] at heq
      simp only [List.append_assoc] at heq
      obtain ⟨hvalue, hrest⟩ := shownValue_inj hv heq
      rw [List.append_cancel_left_eq] at hrest
      exact .cons hvalue (ih hrest)

/-- The listed values belong together, and are printed alike where the sides are. -/
theorem values_twin {R : AuditFact → AuditFact → Prop} (hR : ∀ m m', R m m' → FactTwin m m')
    {c c' : Contradiction} (h : ContradictionTwin R c c') :
    Forall₂ ListedTwin c.values c'.values
      ∧ (Forall₂ (fun v v' => stringified v.value = stringified v'.value) c.values c'.values
        ↔ Forall₂ (fun d d' : Side => stringified d.1.value = stringified d'.1.value) c.sides
          c'.sides) := by
  have hlisted : Forall₂ ListedTwin (c.sides.map listedValue) (c'.sides.map listedValue) := by
    refine List.rel_map ?_ h.sides
    intro d d' hd
    have hfacts : Forall₂ R (d.2.map Carrier.m) (d'.2.map Carrier.m) :=
      List.rel_map (fun c c' hc => hc.1) hd.2
    have hrep := hR _ _ (rel_getD (forall₂_head (forall₂_insertionSort
      (r := fun a b => codeUnitLe a.createdAt b.createdAt = true)
      (s := fun a b => codeUnitLe a.createdAt b.createdAt = true) hfacts
      fun m m' hm k k' hk => by rw [(hR _ _ hm).createdAt, (hR _ _ hk).createdAt])) hd.1.1)
    exact ⟨hrep.id, hrep.source, hrep.createdAt, hd.1.2⟩
  have hsort : ∀ v v', ListedTwin v v' → ∀ w w', ListedTwin w w' →
      (codeUnitLe v.createdAt w.createdAt = true ↔ codeUnitLe v'.createdAt w'.createdAt = true) := by
    intro v v' hv w w' hw
    rw [hv.createdAt, hw.createdAt]
  refine ⟨forall₂_insertionSort hlisted hsort, ?_⟩
  rw [Contradiction.values, Contradiction.values, forall₂_insertionSort_iff hlisted hsort,
    List.forall₂_map_left_iff, List.forall₂_map_right_iff]
  rfl

/-! ## 5. One recommendation -/

section Recommendations

variable {P : Platform}

/-- Facts that belong together and are as important. -/
def SalientTwin (m m' : AuditFact) : Prop := FactTwin m m' ∧ importanceOf m = importanceOf m'

theorem fmt_scalar {v : Value} (h : isJsonScalar v = true) : fmt v = stringified v := by
  cases v with
  | num x =>
    have hfinite : x.isFinite = true := h
    rw [fmt, stringified, stringify, if_pos hfinite]
    rfl
  | str t => rfl
  | bool b => rfl
  | _ => cases h

/-- What is read of two sides that belong together, and are printed alike. -/
structure AggregateTwin (a a' : Aggregate) : Prop where
  value : stringified a.value = stringified a'.value
  scalar : isJsonScalar a.value = true ∧ isJsonScalar a'.value = true
  importance : a.importance = a'.importance
  importanceCarrier : Option.Rel SalientTwin a.importanceCarrier a'.importanceCarrier
  authority : a.authority = a'.authority
  authorityCarrier : SalientTwin a.authorityCarrier a'.authorityCarrier
  latest : SalientTwin a.latest a'.latest

theorem bind_importance {o o' : Option AuditFact} (h : Option.Rel SalientTwin o o') :
    o.bind importanceOf = o'.bind importanceOf := by
  cases h with
  | none => rfl
  | some hm => exact hm.2

theorem aggregate_twin {d d' : Side} (h : SideTwin (CarrierTwin SalientTwin) d d')
    (hvalue : stringified d.1.value = stringified d'.1.value) :
    AggregateTwin (aggregate d) (aggregate d') := by
  have hfacts : Forall₂ SalientTwin (d.2.map Carrier.m) (d'.2.map Carrier.m) :=
    List.rel_map (fun c c' hc => hc.1) h.2
  have hcarriers : Forall₂ SalientTwin
      ((d.2.map Carrier.m).filter fun m => (importanceOf m).isSome)
      ((d'.2.map Carrier.m).filter fun m => (importanceOf m).isSome) := by
    refine List.rel_filter ?_ hfacts
    intro m m' hm
    dsimp only
    rw [hm.2]
  have himportant := forall₂_head (forall₂_insertionSort
    (r := fun a b => salience (importanceOf b) ≤ salience (importanceOf a))
    (s := fun a b => salience (importanceOf b) ≤ salience (importanceOf a)) hcarriers
    fun m m' hm k k' hk => by rw [hm.2, hk.2])
  have hauthority := rel_getD (forall₂_head (forall₂_insertionSort
    (r := fun a b => authorityOf b.kind ≤ authorityOf a.kind)
    (s := fun a b => authorityOf b.kind ≤ authorityOf a.kind) hfacts
    fun m m' hm k k' hk => by rw [hm.1.kind, hk.1.kind])) h.1.1
  have hlatest := rel_getD (forall₂_head (forall₂_insertionSort
    (r := fun a b => laterFirst a b = true) (s := fun a b => laterFirst a b = true) hfacts
    fun m m' hm k k' hk => by
      rw [laterFirst, laterFirst, hm.1.createdAt, hm.1.id, hk.1.createdAt, hk.1.id])) h.1.1
  refine ⟨hvalue, h.1.2, ?_, himportant, ?_, hauthority, hlatest⟩
  · exact bind_importance himportant
  · exact congrArg authorityOf hauthority.1.kind

/-- Two recommendations that read alike. -/
structure ResolutionTwin (r r' : Resolution) : Prop where
  recommendedFactId : r.recommendedFactId = r'.recommendedFactId
  recommendedValue : stringified r.recommendedValue = stringified r'.recommendedValue
  confidence : r.confidence = r'.confidence
  rationale : r.rationale = r'.rationale

variable {agg agg' : List Aggregate}

theorem byImportance_twin (h : Forall₂ AggregateTwin agg agg') :
    Option.Rel ResolutionTwin (byImportance agg) (byImportance agg') := by
  have hsort := forall₂_insertionSort
    (r := fun a b : Aggregate => salience b.importance ≤ salience a.importance)
    (s := fun a b : Aggregate => salience b.importance ≤ salience a.importance) h
    fun a a' ha b b' hb => by rw [ha.importance, hb.importance]
  unfold byImportance
  generalize (agg.insertionSort fun a b =>
    salience b.importance ≤ salience a.importance) = l at hsort ⊢
  generalize (agg'.insertionSort fun a b =>
    salience b.importance ≤ salience a.importance) = l' at hsort ⊢
  cases hsort with
  | nil => exact .none
  | @cons top top' _ _ htop hrest =>
    cases hrest with
    | nil => exact .none
    | @cons second second' _ _ hsecond _ =>
      dsimp only
      rw [htop.importance, hsecond.importance]
      have hcarrier := htop.importanceCarrier
      cases hi : top'.importance with
      | none => exact .none
      | some x =>
        generalize top.importanceCarrier = win at hcarrier ⊢
        generalize top'.importanceCarrier = win' at hcarrier ⊢
        cases hcarrier with
        | none => exact .none
        | some hwin =>
          dsimp only
          split
          · exact .some ⟨hwin.1.id, htop.value, rfl, by rw [hwin.1.id]⟩
          · exact .none

theorem byAuthority_twin (h : Forall₂ AggregateTwin agg agg') :
    Option.Rel ResolutionTwin (byAuthority agg) (byAuthority agg') := by
  have hsort := forall₂_insertionSort (r := fun a b : Aggregate => b.authority ≤ a.authority)
    (s := fun a b : Aggregate => b.authority ≤ a.authority) h
    fun a a' ha b b' hb => by rw [ha.authority, hb.authority]
  unfold byAuthority
  generalize (agg.insertionSort fun a b => b.authority ≤ a.authority) = l at hsort ⊢
  generalize (agg'.insertionSort fun a b => b.authority ≤ a.authority) = l' at hsort ⊢
  cases hsort with
  | nil => exact .none
  | @cons top top' _ _ htop hrest =>
    cases hrest with
    | nil => exact .none
    | @cons second second' _ _ hsecond _ =>
      dsimp only
      rw [htop.authority, hsecond.authority]
      split
      · exact .some ⟨htop.authorityCarrier.1.id, htop.value, rfl, by
          rw [htop.authorityCarrier.1.kind, hsecond.authorityCarrier.1.kind]⟩
      · exact .none

theorem byRecency_twin (h : Forall₂ AggregateTwin agg agg') :
    Option.Rel ResolutionTwin (byRecency P agg) (byRecency P agg') := by
  have hsort := forall₂_insertionSort (r := fun a b : Aggregate => laterFirst a.latest b.latest = true)
    (s := fun a b : Aggregate => laterFirst a.latest b.latest = true) h
    fun a a' ha b b' hb => by
      rw [laterFirst, laterFirst, ha.latest.1.createdAt, ha.latest.1.id, hb.latest.1.createdAt,
        hb.latest.1.id]
  unfold byRecency
  generalize (agg.insertionSort fun a b => laterFirst a.latest b.latest = true) = l at hsort ⊢
  generalize (agg'.insertionSort fun a b => laterFirst a.latest b.latest = true) = l' at hsort ⊢
  cases hsort with
  | nil => exact .none
  | @cons win win' _ _ hwin hrest =>
    cases hrest with
    | nil => exact .none
    | @cons runnerUp runnerUp' _ _ hrunnerUp _ =>
      dsimp only
      rw [hwin.latest.1.createdAt, hrunnerUp.latest.1.createdAt, hwin.latest.1.id,
        fmt_scalar hrunnerUp.scalar.1, fmt_scalar hrunnerUp.scalar.2, hrunnerUp.value]
      exact .some ⟨rfl, hwin.value, rfl, rfl⟩

/-- **Values that are printed alike are recommended alike.** -/
theorem resolution_twin {c c' : Contradiction} (h : ContradictionTwin SalientTwin c c')
    (hvalues : Forall₂ (fun d d' : Side => stringified d.1.value = stringified d'.1.value) c.sides
      c'.sides) : Option.Rel ResolutionTwin (c.resolution P) (c'.resolution P) := by
  have hagg : Forall₂ AggregateTwin (c.sides.map aggregate) (c'.sides.map aggregate) :=
    List.rel_map (R := fun d d' => SideTwin (CarrierTwin SalientTwin) d d'
      ∧ stringified d.1.value = stringified d'.1.value) (fun d d' hd => aggregate_twin hd.1 hd.2)
      (forall₂_and h.sides hvalues)
  have himportance := byImportance_twin hagg
  have hauthority := byAuthority_twin hagg
  have hrecency := byRecency_twin (P := P) hagg
  rw [Contradiction.resolution, Contradiction.resolution, resolveContradiction, resolveContradiction]
  generalize byImportance (c.sides.map aggregate) = i at himportance ⊢
  generalize byImportance (c'.sides.map aggregate) = i' at himportance ⊢
  cases himportance with
  | some hr => exact .some hr
  | none =>
    generalize byAuthority (c.sides.map aggregate) = a at hauthority ⊢
    generalize byAuthority (c'.sides.map aggregate) = a' at hauthority ⊢
    cases hauthority with
    | some hr => exact .some hr
    | none => exact hrecency

end Recommendations

/-! ## 6. What is projected -/

section Projections

variable {P : Platform}

/-- The summary is kept as it is. -/
theorem projectPublicFinding_summary {v p : Value} (h : projectPublicFinding P v = .ok p) :
    p.getPath ["summary"] = v.getPath ["summary"] := by
  obtain ⟨_, -, h⟩ := projection_bind.mp h
  obtain ⟨subject, -, h⟩ := projection_bind.mp h
  obtain ⟨summary, hsummary, h⟩ := projection_bind.mp h
  obtain ⟨detail, -, h⟩ := projection_bind.mp h
  obtain ⟨recommendation, -, h⟩ := projection_bind.mp h
  obtain ⟨_, -, h⟩ := projection_bind.mp h
  obtain rfl := Except.ok.inj h
  obtain ⟨-, rfl⟩ := text_eq_ok.mp hsummary
  simp [getPath_cons, getPath_nil, List.lookup]

/-- A finding is projected from its members, of which the detail is looked at as it is projected. -/
theorem projectPublicFinding_congr {f f' : AuditFinding} (htype : f.type = f'.type)
    (hseverity : f.severity = f'.severity) (hsubject : f.subject = f'.subject)
    (hsummary : f.summary = f'.summary) (hrecommendation : f.recommendation = f'.recommendation)
    (hdetail : projectFindingDetail P (object f.detail) = projectFindingDetail P (object f'.detail)) :
    projectPublicFinding P f.value = projectPublicFinding P f'.value := by
  have hmembers : ∀ g : AuditFinding, g.value.getPath ["type"] = .str g.type.text
      ∧ g.value.getPath ["severity"] = .str g.severity.text
      ∧ g.value.getPath ["subject"] = .str g.subject ∧ g.value.getPath ["summary"] = .str g.summary
      ∧ g.value.getPath ["detail"] = object g.detail
      ∧ g.value.getPath ["recommendation"] = (g.recommendation.map .str).getD .undefined := by
    intro g
    cases hg : g.recommendation with
    | none => simp [AuditFinding.value, hg, getPath_cons, getPath_nil, List.lookup]
    | some t => simp [AuditFinding.value, hg, getPath_cons, getPath_nil, List.lookup]
  obtain ⟨h₁, h₂, h₃, h₄, h₅, h₆⟩ := hmembers f
  obtain ⟨h₁', h₂', h₃', h₄', h₅', h₆'⟩ := hmembers f'
  rw [projectPublicFinding, projectPublicFinding, h₁, h₂, h₃, h₄, h₅, h₆, h₁', h₂', h₃', h₄', h₅', h₆',
    htype, hseverity, hsubject, hsummary, hrecommendation, hdetail]
  rfl

/-- The detail of a contradiction, with its blast radius. -/
theorem withRadius_contradiction {S : Surroundings} (c : Contradiction) (r : Resolution) :
    (withRadius S (contradictionFinding c r)).detail
      = [("attribute", .str c.attr), ("values", .arr (c.values.map listedEntry)),
        ("resolution", resolutionEntry r), ("blastRadius", S.blastRadius c.subject)] := by
  simp [withRadius, contradictionFinding]

theorem projectListed_twin {recommended : Option Value} {v v' : ListedValue} (h : ListedTwin v v') :
    projectListed P recommended (listedEntry v) = projectListed P recommended (listedEntry v') := by
  have hmembers : ∀ w : ListedValue, (listedEntry w).getPath ["factId"] = .str w.factId
      ∧ (listedEntry w).getPath ["source"] = .str w.source
      ∧ (listedEntry w).getPath ["createdAt"] = .str w.createdAt
      ∧ (listedEntry w).isRecord = true := by
    intro w
    refine ⟨?_, ?_, ?_, rfl⟩ <;> simp [listedEntry, getPath_cons, getPath_nil, List.lookup]
  obtain ⟨h₁, h₂, h₃, h₄⟩ := hmembers v
  obtain ⟨h₁', h₂', h₃', h₄'⟩ := hmembers v'
  rw [projectListed, projectListed, h₁, h₂, h₃, h₄, h₁', h₂', h₃', h₄', h.factId, h.source, h.createdAt]

theorem mapM_listed {vs vs' : List ListedValue} (h : Forall₂ ListedTwin vs vs')
    (recommended : Option Value) : (vs.map listedEntry).mapM (projectListed P recommended)
      = (vs'.map listedEntry).mapM (projectListed P recommended) := by
  induction h with
  | nil => rfl
  | cons hv _ ih =>
    rw [List.map_cons, List.map_cons, List.mapM_cons, List.mapM_cons, projectListed_twin hv, ih]

/-- **The values are dropped from the detail.** -/
theorem projectFindingDetail_twin {S : Surroundings} {c c' : Contradiction} {r r' : Resolution}
    (hattr : c.attr = c'.attr) (hsubject : c.subject = c'.subject)
    (hvalues : Forall₂ ListedTwin c.values c'.values)
    (hfact : r.recommendedFactId = r'.recommendedFactId) :
    projectFindingDetail P (object (withRadius S (contradictionFinding c r)).detail)
      = projectFindingDetail P (object (withRadius S (contradictionFinding c' r')).detail) := by
  have hmembers : ∀ (c : Contradiction) (r : Resolution) (key : String),
      (object (withRadius S (contradictionFinding c r)).detail).getPath [key]
        = ([("attribute", .str c.attr), ("values", .arr (c.values.map listedEntry)),
          ("resolution", resolutionEntry r), ("blastRadius", S.blastRadius c.subject)].lookup key).getD
            .undefined := by
    intro c r key
    rw [withRadius_contradiction]
    simp [getPath_cons, getPath_nil]
  have hrecommended : ∀ r : Resolution,
      recommendedFactId (resolutionEntry r) = (text (.str r.recommendedFactId) 512).map some := by
    intro r
    simp [recommendedFactId, resolutionEntry, getPath_cons, getPath_nil, Value.isRecord, Value.isStr,
      object]
  have hlisted : ∀ recommended, (c.values.map listedEntry).mapM (projectListed P recommended)
      = (c'.values.map listedEntry).mapM (projectListed P recommended) :=
    fun recommended => mapM_listed hvalues recommended
  have hlength : (c.values.map listedEntry).length = (c'.values.map listedEntry).length := by
    rw [List.length_map, List.length_map, hvalues.length_eq]
  have hprovenance : projectContradictionProvenance P
        (object (withRadius S (contradictionFinding c r)).detail)
      = projectContradictionProvenance P
        (object (withRadius S (contradictionFinding c' r')).detail) := by
    rw [projectContradictionProvenance, projectContradictionProvenance, hmembers, hmembers, hmembers,
      hmembers]
    simp only [List.lookup, String.reduceBEq, Option.getD_some, hrecommended, hfact, hlisted, hlength]
  rw [projectFindingDetail, projectFindingDetail, hprovenance]
  simp only [hmembers, List.lookup, String.reduceBEq, Option.getD_some, Option.getD_none, hattr, hsubject]

end Projections

/-! ## 7. Two public reports -/

/-- The values that a finding lists, as they are printed. -/
def shownTexts (f : AuditFinding) : List Text :=
  match f.detail.lookup "values" with
  | some (.arr entries) => entries.map fun e => stringified (e.getPath ["value"])
  | _ => []

/-- The reports of two harvests list values that are printed alike. -/
def SameShown (S : Surroundings) (h h' : Harvest) : Prop :=
  (reportFindings S h).map shownTexts = (reportFindings S h').map shownTexts

section Reports

variable {S : Surroundings}

theorem shownTexts_contradiction (c : Contradiction) (r : Resolution) :
    shownTexts (withRadius S (contradictionFinding c r))
      = c.values.map fun v => stringified v.value := by
  rw [shownTexts, withRadius_contradiction]
  simp [List.lookup, listedEntry, getPath_cons, getPath_nil]

/-- Findings with one projection list values that are printed alike. -/
theorem shown_of_projection {R : AuditFact → AuditFact → Prop} (hR : ∀ m m', R m m' → FactTwin m m')
    {g g' : AuditFinding} (h : ReportedTwin R S g g') {p : Value}
    (hp : projectPublicFinding S.P g.value = .ok p) (hp' : projectPublicFinding S.P g'.value = .ok p) :
    shownTexts g = shownTexts g' := by
  obtain ⟨f, f', hf, rfl, rfl⟩ := h
  rcases hf with rfl | ⟨c, c', r, r', hc, -, -, rfl, rfl⟩
  · rfl
  · have hsummary := (projectPublicFinding_summary hp).symm.trans (projectPublicFinding_summary hp')
    have htext : contradictionSummary c.subject c.attr c.values
        = contradictionSummary c'.subject c'.attr c'.values := by
      simpa [AuditFinding.value, withRadius, contradictionFinding, getPath_cons, getPath_nil,
        List.lookup] using hsummary
    rw [contradictionSummary, contradictionSummary, hc.subject, hc.attr, List.append_assoc _ _ (js "."),
      List.append_assoc _ _ (js "."), List.append_cancel_left_eq] at htext
    rw [shownTexts_contradiction, shownTexts_contradiction]
    exact map_eq_of_forall₂ (intercalate_inj (values_twin hR hc).1 htext) fun _ _ hv => hv

/-- Findings that list values printed alike have one projection, where the facts are as important. -/
theorem projection_of_shown {g g' : AuditFinding} (h : ReportedTwin SalientTwin S g g')
    (hshown : shownTexts g = shownTexts g') :
    projectPublicFinding S.P g.value = projectPublicFinding S.P g'.value := by
  obtain ⟨f, f', hf, rfl, rfl⟩ := h
  rcases hf with rfl | ⟨c, c', r, r', hc, hr, hr', rfl, rfl⟩
  · rfl
  · obtain ⟨hvalues, hsides⟩ := values_twin (fun _ _ hm => hm.1) hc
    rw [shownTexts_contradiction, shownTexts_contradiction] at hshown
    have hprinted : Forall₂ (fun v v' : ListedValue => stringified v.value = stringified v'.value)
        c.values c'.values := by
      have heq := List.forall₂_eq_eq_eq.symm ▸ hshown
      rw [List.forall₂_map_left_iff, List.forall₂_map_right_iff] at heq
      exact heq
    have hresolution := resolution_twin (P := S.P) hc (hsides.mp hprinted)
    rw [hr, hr'] at hresolution
    obtain ⟨hfact, hvalue, hconfidence, hrationale⟩ : ResolutionTwin r r' := by
      cases hresolution with
      | some h => exact h
    have hsummary : c.values.map shownValue = c'.values.map shownValue :=
      map_eq_of_forall₂ (forall₂_and hvalues hprinted) fun v v' hv => by
        rw [shownValue, shownValue, hv.2, hv.1.source]
    refine projectPublicFinding_congr rfl ?_ hc.subject ?_ ?_
      (projectFindingDetail_twin hc.attr hc.subject hvalues hfact)
    · dsimp only [withRadius, contradictionFinding]
      rw [hc.attr]
    · dsimp only [withRadius, contradictionFinding]
      rw [contradictionSummary, contradictionSummary, hc.subject, hc.attr, hsummary]
    · dsimp only [withRadius, contradictionFinding]
      rw [contradictionRecommendation, contradictionRecommendation, hvalue, hconfidence, hrationale]

/-- The public findings are those of the report, projected. -/
theorem publicFindings_of {h : Harvest} {scanId classification narrative modelProvenance trace p : Value}
    (hp : projectPublicAuditReport S.P (auditReport S h scanId classification narrative modelProvenance
      trace) = .ok p) :
    ∃ fs, (reportFindings S h).mapM (fun f => projectPublicFinding S.P f.value) = .ok fs
      ∧ p.getPath ["findings"] = .arr fs := by
  rw [projectPublicAuditReport] at hp
  split at hp
  · cases hp
  · obtain ⟨_, -, hp⟩ := projection_bind.mp hp
    obtain ⟨_, -, hp⟩ := projection_bind.mp hp
    obtain ⟨fs, hfs, hp⟩ := projection_bind.mp hp
    obtain ⟨_, -, hp⟩ := projection_bind.mp hp
    obtain ⟨_, -, hp⟩ := projection_bind.mp hp
    obtain ⟨_, -, hp⟩ := projection_bind.mp hp
    obtain rfl := Except.ok.inj hp
    refine ⟨fs, ?_, ?_⟩
    · have hitems : itemsOf ((auditReport S h scanId classification narrative modelProvenance
          trace).getPath ["findings"]) = (reportFindings S h).map AuditFinding.value := by
        simp [auditReport, getPath_cons, getPath_nil, List.lookup, itemsOf]
      rw [hitems, List.mapM_map] at hfs
      exact hfs
    · simp [getPath_cons, getPath_nil, List.lookup]

end Reports

section Audits

variable {S : Surroundings} {h h' : Harvest} {scanId classification narrative modelProvenance trace
  scanId' classification' narrative' modelProvenance' trace' p p' : Value}

/-- Public findings that are the same list values that are printed alike. -/
theorem shown_of_publicFindings (hd : DiffersInValues h h')
    (hp : projectPublicAuditReport S.P (auditReport S h scanId classification narrative modelProvenance
      trace) = .ok p)
    (hp' : projectPublicAuditReport S.P (auditReport S h' scanId' classification' narrative'
      modelProvenance' trace') = .ok p')
    (heq : p.getPath ["findings"] = p'.getPath ["findings"]) : SameShown S h h' := by
  obtain ⟨fs, hfs, hfindings⟩ := publicFindings_of hp
  obtain ⟨fs', hfs', hfindings'⟩ := publicFindings_of hp'
  rw [hfindings, hfindings'] at heq
  obtain rfl := Value.arr.inj heq
  have htwin := reportFindings_twin (S := S) (fun _ _ hm => hm) hd.facts hd.versions hd
  refine map_eq_of_forall₂ (forall₂_common htwin (mapM_projection_iff.mp hfs)
    (mapM_projection_iff.mp hfs')) ?_
  rintro g g' ⟨hg, p, hp, hp'⟩
  exact shown_of_projection (fun _ _ hm => hm) hg hp hp'

/-- Where the listed values are printed alike and the facts are as important, so are the public
findings. -/
theorem publicFindings_of_shown (hd : DiffersInValues h h')
    (hp : projectPublicAuditReport S.P (auditReport S h scanId classification narrative modelProvenance
      trace) = .ok p)
    (hp' : projectPublicAuditReport S.P (auditReport S h' scanId' classification' narrative'
      modelProvenance' trace') = .ok p')
    (hsalience : SameSalience h h') (hshown : SameShown S h h') :
    p.getPath ["findings"] = p'.getPath ["findings"] := by
  obtain ⟨fs, hfs, hfindings⟩ := publicFindings_of hp
  obtain ⟨fs', hfs', hfindings'⟩ := publicFindings_of hp'
  have htwin := reportFindings_twin (S := S) (R := SalientTwin) (fun _ _ hm => hm.1)
    (forall₂_and hd.facts hsalience.facts) (forall₂_and hd.versions hsalience.versions) hd
  have hall : Forall₂ (fun g g' => shownTexts g = shownTexts g') (reportFindings S h)
      (reportFindings S h') := by
    rw [SameShown, ← List.forall₂_eq_eq_eq, List.forall₂_map_left_iff,
      List.forall₂_map_right_iff] at hshown
    exact hshown
  have heq : (reportFindings S h).mapM (fun f => projectPublicFinding S.P f.value)
      = (reportFindings S h').mapM (fun f => projectPublicFinding S.P f.value) :=
    mapM_eq_of_forall₂ (forall₂_and htwin hall) fun g g' hg => projection_of_shown hg.1 hg.2
  rw [hfs, hfs'] at heq
  rw [hfindings, hfindings', Except.ok.inj heq]

end Audits

/-! ## 8. Two harvests that differ in one value -/

section Disagreement

/-- A fact that reads the type of a column. -/
def typedFact (id source createdAt : String) (fieldType : Value) : AuditFact where
  id := js id
  kind := js "schema"
  source := js source
  sourceRef := some (js "urn#amount")
  metadata := some ⟨[(js "record", lit "urn#amount"), (js "fieldType", fieldType)], by simp⟩
  createdAt := js createdAt

/-- Two sources that disagree on the type of a column. -/
def disagreement (v w : Value) : Harvest :=
  ⟨[typedFact "1" "snowflake" "2026-07-01T00:00:00.000Z" v,
    typedFact "2" "dbt" "2026-07-11T00:00:00.000Z" w], []⟩

/-- An audit without a governance finding. -/
def ungoverned : Surroundings where
  P := Platform.node
  governance := []
  blastRadius := fun urn => object [("rootUrn", .str urn), ("downstream", .arr []),
    ("maxHops", .num (.finite (Binary64.zero false))), ("truncated", .bool false), ("impact", lit "none")]

def disagreementReport (v w : Value) : Value :=
  auditReport ungoverned (disagreement v w) (lit "scan-1")
    (Worker.emptyReport.getPath ["classification"]) (lit "n")
    (Worker.emptyReport.getPath ["modelProvenance"]) (.arr [])

theorem subjectKey_typedFact (id source createdAt : String) (v : Value) :
    (typedFact id source createdAt v).subjectKey = some (js "urn#amount") := by
  rfl

theorem attributesOf_typedFact (id source createdAt : String) {v : Value} (hv : isScalar v = true) :
    attributesOf (typedFact id source createdAt v) = [(js "fieldType", v)] := by
  have hrecord : RESERVED_KEYS.contains (js "record") = true := by decide
  have htype : RESERVED_KEYS.contains (js "fieldType") = false := by decide
  rw [attributesOf]
  refine (List.filter_cons_of_neg ?_).trans (List.filter_cons_of_pos ?_)
  · rw [hrecord]
    exact Bool.false_ne_true
  · rw [htype]
    exact hv

/-- What is said of the column is its type. -/
theorem carriersOf_disagreement {v w : Value} (hv : isScalar v = true) (hw : isScalar w = true)
    (s a : Text) : carriersOf (disagreement v w).facts s a
      = if js "urn#amount" = s ∧ js "fieldType" = a then
        [⟨typedFact "1" "snowflake" "2026-07-01T00:00:00.000Z" v, v⟩,
          ⟨typedFact "2" "dbt" "2026-07-11T00:00:00.000Z" w, w⟩] else [] := by
  by_cases hs : js "urn#amount" = s
  · by_cases ha : js "fieldType" = a
    · simp [carriersOf, factsOf, bySubject, disagreement, subjectKey_typedFact, under, byAttr,
        attributesOf_typedFact, hv, hw, hs, ha]
    · simp [carriersOf, factsOf, bySubject, disagreement, subjectKey_typedFact, under, byAttr,
        attributesOf_typedFact, hv, hw, hs, ha]
  · simp [carriersOf, factsOf, bySubject, disagreement, subjectKey_typedFact, under, byAttr, hs]

theorem isScalar_of_json {v : Value} (h : isJsonScalar v = true) : isScalar v = true := by
  cases v with
  | num x => rfl
  | str t => rfl
  | bool b => rfl
  | _ => cases h

theorem typedFact_twin {id source createdAt : String} {v v' : Value} (hv : isJsonScalar v = true)
    (hv' : isJsonScalar v' = true) :
    FactTwin (typedFact id source createdAt v) (typedFact id source createdAt v') where
  id := rfl
  kind := rfl
  source := rfl
  sourceRef := rfl
  createdAt := rfl
  importance := rfl
  record := rfl
  refs := rfl
  attributes := by
    rw [attributesOf_typedFact id source createdAt (isScalar_of_json hv),
      attributesOf_typedFact id source createdAt (isScalar_of_json hv')]
    exact .cons ⟨rfl, hv, hv'⟩ .nil

/-- Two disagreements differ in nothing but values. -/
theorem disagreement_differs {v w v' w' : Value} (hv : isJsonScalar v = true) (hw : isJsonScalar w = true)
    (hv' : isJsonScalar v' = true) (hw' : isJsonScalar w' = true)
    (h : valuesAgree (AuditOptions.tolerance ⟨none, false⟩) v w
      = valuesAgree (AuditOptions.tolerance ⟨none, false⟩) v' w') :
    DiffersInValues (disagreement v w) (disagreement v' w') where
  facts := .cons (typedFact_twin hv hv') (.cons (typedFact_twin hw hw') .nil)
  versions := .nil
  factSides := by
    intro s a
    rw [carriersOf_disagreement (isScalar_of_json hv) (isScalar_of_json hw),
      carriersOf_disagreement (isScalar_of_json hv') (isScalar_of_json hw'), SamePartition]
    split
    · simp [cluster, place, agree, h]
    · rfl
  versionSides := fun _ _ => rfl

/-- The projection of a finding, before it is searched. -/
def unsearchedFinding (P : Platform) (v : Value) : Projection Value := do
  ensure (Worker.isOneOf (v.getPath ["type"]) ["contradiction", "lineage_gap", "governance_violation"]
    && Worker.isOneOf (v.getPath ["severity"]) ["low", "medium", "high"]
    && isRecord (v.getPath ["detail"]))
  let subject ← text (v.getPath ["subject"]) 2048
  let summary ← text (v.getPath ["summary"]) 4000
  let detail ← projectFindingDetail P (v.getPath ["detail"])
  let recommendation ← optional "recommendation" (v.getPath ["recommendation"]) fun w => text w 4000
  return object ([("type", v.getPath ["type"]), ("severity", v.getPath ["severity"]),
    ("subject", subject), ("summary", summary), ("detail", detail)] ++ recommendation)

/-- What is published of a report, before it is searched. -/
def unsearched (findings : List Value) (report : Value) : Projection Value := do
  let scanId ← text (report.getPath ["scanId"]) 512
  let classification ← projectClassification (report.getPath ["classification"])
  let narrative ← text (report.getPath ["narrative"]) 8000
  let trace ← (itemsOf (report.getPath ["trace"])).mapM projectTraceStep
  return object [("schemaVersion", lit "archon.audit-report/v1"), ("scanId", scanId),
    ("classification", classification), ("findings", .arr findings), ("narrative", narrative),
    ("modelProvenance", parsedProvenance (report.getPath ["modelProvenance"])), ("trace", .arr trace)]

theorem projectPublicFinding_eq (P : Platform) (v : Value) :
    projectPublicFinding P v = unsearchedFinding P v >>= fun projected => do
      ensure (isPublicOutputSafe projected)
      return projected := by
  simp only [projectPublicFinding, unsearchedFinding, bind_assoc, pure_bind]

/-- What is quiet passes the search. -/
theorem searched_of_quiet {p : Value} (h : isQuietValue p = true) :
    (do ensure (isPublicOutputSafe p); return p : Projection Value) = .ok p := by
  rw [safe_of_isQuietValue p h]
  rfl

/-- Findings that are quiet are projected. -/
theorem mapM_of_quiet {P : Platform} {vs ps : List Value}
    (h : vs.mapM (unsearchedFinding P) = .ok ps) (hquiet : areItemsQuiet ps = true) :
    vs.mapM (projectPublicFinding P) = .ok ps := by
  induction vs generalizing ps with
  | nil =>
    rw [List.mapM_nil] at h ⊢
    exact h
  | cons v vs ih =>
    rw [List.mapM_cons] at h ⊢
    cases hv : unsearchedFinding P v with
    | error e =>
      rw [hv] at h
      cases h
    | ok p =>
      cases hvs : vs.mapM (unsearchedFinding P) with
      | error e =>
        rw [hv, hvs] at h
        cases h
      | ok rest =>
        rw [hv, hvs] at h
        obtain rfl := Except.ok.inj h
        obtain ⟨hp, hrest⟩ := (Bool.and_eq_true _ _).mp hquiet
        have hproject : projectPublicFinding P v = .ok p := by
          rw [projectPublicFinding_eq, hv, projection_ok_bind, searched_of_quiet hp]
        rw [hproject, ih hvs hrest]
        rfl

/-- A report is projected whose parts are, and are quiet. -/
theorem exists_of_quiet {P : Platform} {report : Value} (hreport : Worker.isAuditReport report = true)
    (h : (((itemsOf (report.getPath ["findings"])).mapM (unsearchedFinding P)).toOption.any fun findings =>
      areItemsQuiet findings && (unsearched findings report).toOption.any isQuietValue) = true) :
    ∃ p, projectPublicAuditReport P report = .ok p := by
  cases hfindings : (itemsOf (report.getPath ["findings"])).mapM (unsearchedFinding P) with
  | error e =>
    rw [hfindings] at h
    cases h
  | ok findings =>
    rw [hfindings] at h
    obtain ⟨hquiet, hrest⟩ := (Bool.and_eq_true _ _).mp h
    cases hunsearched : unsearched findings report with
    | error e =>
      rw [hunsearched] at hrest
      cases hrest
    | ok p =>
      rw [hunsearched] at hrest
      have hproject : projectPublicAuditReport P report
          = unsearched findings report >>= fun projected => do
            ensure (isPublicOutputSafe projected)
            return projected := by
        rw [projectPublicAuditReport, hreport]
        simp only [mapM_of_quiet hfindings hquiet, projection_ok_bind, unsearched, bind_assoc, pure_bind]
        rfl
      refine ⟨p, ?_⟩
      rw [hproject, hunsearched, projection_ok_bind, searched_of_quiet hrest]

/-- Both reports are projected. -/
theorem disagreement_projected : (∃ p, projectPublicAuditReport Platform.node
      (disagreementReport (lit "number") (lit "string")) = .ok p)
    ∧ ∃ p, projectPublicAuditReport Platform.node
      (disagreementReport (lit "number") (lit "int")) = .ok p := by
  have hreports : (Worker.isAuditReport (disagreementReport (lit "number") (lit "string"))
      && Worker.isAuditReport (disagreementReport (lit "number") (lit "int"))) = true := by
    decide +kernel
  rw [Bool.and_eq_true] at hreports
  exact ⟨exists_of_quiet hreports.1 (by decide +kernel), exists_of_quiet hreports.2 (by decide +kernel)⟩

theorem disagreement_twins : DiffersInValues (disagreement (lit "number") (lit "string"))
    (disagreement (lit "number") (lit "int")) :=
  disagreement_differs rfl rfl rfl rfl (by decide)

end Disagreement

end Report
