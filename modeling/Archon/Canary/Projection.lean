/-
# The projections the canary accepts

`exactProjection` asks of a projection that it is of the target and that its tags are distinct and
sorted, and it sorts by code units.  `createTagProjection`, which builds the projections of the live
reader, sorts by `localeCompare`.  Nothing else about a projection can be refused, so what decides
is whether the two orders put the tags alike (`accepted_iff`).
-/
import Archon.Audit.History
import Archon.Canary.Canonical
import Archon.Lineage.Topology
import Archon.Remediation.Planning

namespace Canary

open Ecma Ecma.Value Remediation
open Lineage (sortUnits UnitsLe)

/-! ## 1. exactProjection -/

/-- The field that a recovery manifest is about. -/
structure Target where
  entityUrn : Text
  columnPath : Text

/-- The target of every manifest that `parseRecoveryManifest` returns. -/
def canonicalTarget : Target where
  entityUrn := js "urn:li:dataset:(urn:li:dataPlatform:sqlite,archon_demo.customers,PROD)"
  columnPath := js "customer_email"

/-- `exactProjection`. -/
def exactProjection (value : Value) (target : Target) : Run Unit :=
  let message := "DataHub returned an invalid tag projection."
  if !(value.getPath ["entityUrn"]).isText target.entityUrn
      || !(value.getPath ["columnPath"]).isText target.columnPath then fail message
  else match value.getPath ["tags"] with
    | .arr items =>
      match asTexts items with
      | some tags =>
        if stringify (.arr items) ≠ stringify (.arr ((sortUnits (distinct tags)).map .str)) then
          fail message
        else do
          if isDigestText (← (value.getPath ["digest"]).toText) then return () else fail message
      | none => fail message
    | _ => fail message

/-! ## 2. Sorted twice -/

theorem distinct_eq_self {ts : List Text} (h : ts.Nodup) : distinct ts = ts := by
  induction ts with
  | nil => rfl
  | cons t ts ih =>
    obtain ⟨ht, hts⟩ := List.nodup_cons.mp h
    rw [distinct, ih hts, List.filter_eq_self.mpr]
    intro u hu
    simpa using fun heq : u = t => ht (heq ▸ hu)

/-- A projection of the target is accepted exactly when its tags are distinct and stand in code unit
order. -/
theorem exactProjection_signed {P : Platform} (target : Target) {tags : List Text} :
    exactProjection (signed P (projectionFields target.entityUrn target.columnPath tags)) target = .ok ()
      ↔ sortUnits (distinct tags) = tags := by
  have hdigest : (signed P (projectionFields target.entityUrn target.columnPath tags)).getPath ["digest"]
      = .str (digestOf P (object (projectionFields target.entityUrn target.columnPath tags))) := by
    simp [signed, projectionFields, getPath, List.lookup]
  rw [exactProjection, getPath_signed (v := .str target.entityUrn) rfl,
    getPath_signed (v := .str target.columnPath) rfl, getPath_signed (v := .arr (tags.map .str)) rfl,
    hdigest]
  simp only [getPath_nil, isText_str, decide_true, Bool.not_true, Bool.or_self, Bool.false_eq_true,
    if_false, Platform.asTexts_map_str, toText_str, ok_bind, isDigestText_digestOf, if_true]
  split
  case isTrue hne =>
    refine iff_of_false (fun h => by cases h) fun heq => hne ?_
    rw [heq]
  case isFalse heq =>
    exact iff_of_true rfl (stringify_strings_inj (not_not.mp heq)).symm

/-- The two orders put the tags of a list alike: of two that differ, the one before the other by
code units is before it in the collation, or collates like it and comes first. -/
def OrderedAlike (P : Platform) (tags : List Text) : Prop :=
  ∀ t ∈ tags, ∀ u ∈ tags, t ≠ u → codeUnitLe t u = true →
    P.localeCompare t u = .lt ∨ P.localeCompare t u = .eq ∧ [t, u].Sublist (distinct tags)

section Collation

variable {P : Platform} [Std.TransCmp P.localeCompare]

theorem pair_sublist_or {t u : Text} {ts : List Text} (ht : t ∈ ts) (hu : u ∈ ts) (hne : t ≠ u) :
    [t, u].Sublist ts ∨ [u, t].Sublist ts := by
  induction ts with
  | nil => cases ht
  | cons v ts ih =>
    rcases List.mem_cons.mp ht with rfl | ht'
    · have hu' : u ∈ ts := (List.mem_cons.mp hu).resolve_left (Ne.symm hne)
      exact .inl ((List.singleton_sublist.mpr hu').cons_cons t)
    · rcases List.mem_cons.mp hu with rfl | hu'
      · exact .inr ((List.singleton_sublist.mpr ht').cons_cons u)
      · exact (ih ht' hu').imp (fun h => h.cons v) fun h => h.cons v

/-- **The tags sorted by collation stand in code unit order** exactly when the orders put them
alike. -/
theorem sortUnits_sortTexts_iff (tags : List Text) :
    sortUnits (distinct (P.sortTexts (distinct tags))) = P.sortTexts (distinct tags)
      ↔ OrderedAlike P tags := by
  have hnodup : (P.sortTexts (distinct tags)).Nodup :=
    (P.sortTexts_perm _).nodup_iff.mpr (nodup_distinct tags)
  have hmem : ∀ {t}, t ∈ P.sortTexts (distinct tags) ↔ t ∈ tags := fun {t} =>
    (P.sortTexts_perm _).mem_iff.trans mem_distinct
  have hcollated : (P.sortTexts (distinct tags)).Pairwise (CollateLe P) :=
    List.pairwise_insertionSort (CollateLe P) _
  rw [distinct_eq_self hnodup]
  constructor
  · intro hsorted t ht u hu hne hle
    have hunits : (P.sortTexts (distinct tags)).Pairwise UnitsLe := by
      rw [← hsorted]
      exact List.pairwise_insertionSort UnitsLe _
    rcases pair_sublist_or (hmem.mpr ht) (hmem.mpr hu) hne with hbefore | hafter
    · have hcompare := List.pairwise_iff_forall_sublist.mp hcollated hbefore
      cases hlocale : P.localeCompare t u with
      | lt => exact .inl rfl
      | gt => exact absurd hlocale hcompare
      | eq =>
        refine .inr ⟨rfl, ?_⟩
        rcases pair_sublist_or (mem_distinct.mpr ht) (mem_distinct.mpr hu) hne with h | h
        · exact h
        · have hswap : P.localeCompare u t = .eq := by
            rw [localeCompare_swap, hlocale]
            rfl
          exact (not_both_sublist hne hnodup hbefore (pair_sublist_sortTexts hswap h)).elim
    · have hunit := List.pairwise_iff_forall_sublist.mp hunits hafter
      exact absurd (codeUnitLe_antisymm hle hunit) hne
  · intro halike
    refine List.Pairwise.insertionSort_eq (List.pairwise_iff_forall_sublist.mpr fun {t u} hbefore => ?_)
    have ht : t ∈ tags := hmem.mp (hbefore.subset (by simp))
    have hu : u ∈ tags := hmem.mp (hbefore.subset (by simp))
    rcases codeUnitLe_total t u with hle | hle
    · exact hle
    · by_cases heq : u = t
      · rw [heq] at hle ⊢
        exact hle
      · have hcompare := List.pairwise_iff_forall_sublist.mp hcollated hbefore
        rcases halike u hu t ht heq hle with hlt | ⟨hcollate, hfirst⟩
        · rw [CollateLe, localeCompare_swap, hlt] at hcompare
          exact absurd rfl hcompare
        · exact (not_both_sublist heq hnodup (pair_sublist_sortTexts hcollate hfirst) hbefore).elim

/-! ## 3. Producer and checker -/

/-- What `createTagProjection` builds for the target from these tags, the canary accepts. -/
def Accepted (P : Platform) (target : Target) (tags : List Text) : Prop :=
  ∀ projection, createTagProjection P (.str target.entityUrn) (.str target.columnPath) (tags.map .str)
    = .ok projection → exactProjection projection target = .ok ()

/-- **When the canary accepts a projection.**  For any list of tags, it accepts what is built for
its target exactly when nothing is built, some tag being blank, or the collation and the code units
put the tags alike. -/
theorem accepted_iff (tags : List Text) :
    Accepted P canonicalTarget tags ↔ (∃ t ∈ tags, nonBlank t = false) ∨ OrderedAlike P tags := by
  have hentity : nonBlank canonicalTarget.entityUrn = true := by decide +kernel
  have hcolumn : nonBlank canonicalTarget.columnPath = true := by decide +kernel
  have hrefused : Refused canonicalTarget.entityUrn canonicalTarget.columnPath tags
      ↔ ∃ t ∈ tags, nonBlank t = false := by
    rw [Refused, hentity, hcolumn]
    simp
  rw [← hrefused]
  by_cases hblank : Refused canonicalTarget.entityUrn canonicalTarget.columnPath tags
  · refine iff_of_true (fun projection h => ?_) (.inl hblank)
    rw [createTagProjection_texts] at h
    split at h
    case isFalse => cases h
    case isTrue hnames =>
      split at h
      case isFalse => cases h
      case isTrue hall =>
        obtain ⟨he, hc⟩ := Bool.and_eq_true_iff.mp hnames
        exact absurd hblank (not_refused_iff.mpr ⟨he, hc, hall⟩)
  · rw [or_iff_right hblank, ← sortUnits_sortTexts_iff, ← exactProjection_signed (P := P)
      canonicalTarget, Accepted, createTagProjection_ok hblank]
    constructor
    · intro h
      exact h _ rfl
    · intro h projection hprojection
      rwa [← Except.ok.inj hprojection]

end Collation

/-- On a platform that collates by code units everything is put alike. -/
theorem orderedAlike_node (tags : List Text) : OrderedAlike .node tags := by
  intro t _ u _ hne hle
  rw [← isLE_node] at hle
  cases hlocale : Platform.node.localeCompare t u with
  | lt => exact .inl rfl
  | eq => exact absurd (eq_of_node hlocale) hne
  | gt =>
    rw [hlocale] at hle
    cases hle

/-- Two tags, one of them twice, out of order. -/
theorem accepted_node : Accepted .node canonicalTarget
    [js "urn:li:tag:PII", js "urn:li:tag:GDPR", js "urn:li:tag:PII"] :=
  (accepted_iff (P := .node) _).mpr (.inr (orderedAlike_node _))

/-- A collation that does not see case before it has seen the letters, as the Unicode collation does
not. -/
def letters : Platform where
  __ := Platform.node
  localeCompare s t := Platform.node.localeCompare (s.map Audit.lowerUnit) (t.map Audit.lowerUnit)

instance : Std.TransCmp letters.localeCompare where
  eq_swap := node_swap _ _
  isLE_trans := node_trans

/-- **A tag in lower case beside `PII` is refused**: the collation puts `customer` before it, the
canary after it. -/
theorem not_accepted_customer : Std.TransCmp letters.localeCompare
    ∧ ¬ Accepted letters canonicalTarget [js "urn:li:tag:PII", js "urn:li:tag:customer"] := by
  refine ⟨inferInstance, fun h => ?_⟩
  have hrefused : ¬ Refused canonicalTarget.entityUrn canonicalTarget.columnPath
      [js "urn:li:tag:PII", js "urn:li:tag:customer"] := not_refused_iff.mpr (by decide +kernel)
  have hsorted := (exactProjection_signed canonicalTarget).mp
    (h _ (createTagProjection_ok (P := letters) hrefused))
  exact absurd hsorted (by decide +kernel)

end Canary
