/-
# What is known of a run and of its plan

The checks of `runtime-v2.js` on a run, and what `planFor` makes of its receipts, as facts about the
texts that the requests carry: their form, that UTF-8 can encode them, and how many bytes they take
(`RunFits`, `PlanFits`).  Every form but that of a dataset, of a column and of a question is one of
ASCII.
-/
import Archon.Control.Bounds

namespace Control

open Ecma Ecma.Value Remediation

/-! ## 1. Forms in ASCII -/

theorem isAscii_of_units {t : Text} {p : UInt16 → Bool} (h : t.all p = true)
    (hp : ∀ u, p u = true → 0x20 ≤ u.toNat ∧ u.toNat ≤ 0x7E) : isAscii t = true := by
  refine List.all_eq_true.mpr fun u hu => ?_
  have hu := hp u (List.all_eq_true.mp h u hu)
  simpa [UInt16.le_iff_toNat_le] using hu

theorem isAscii_append {s t : Text} (hs : isAscii s = true) (ht : isAscii t = true) :
    isAscii (s ++ t) = true := by
  rw [isAscii, List.all_append]
  exact Bool.and_eq_true_iff.mpr ⟨hs, ht⟩

theorem isAscii_of_isHex {t : Text} (h : t.all isHexDigit = true) : isAscii t = true := by
  refine isAscii_of_units h fun u hu => ?_
  simp only [isHexDigit, Bool.or_eq_true, Bool.and_eq_true, decide_eq_true_eq,
    UInt16.le_iff_toNat_le, UInt16.reduceToNat] at hu
  omega

theorem isAscii_of_digits {t : Text} (h : t.all isDigit = true) : isAscii t = true := by
  refine isAscii_of_units h fun u hu => ?_
  simp only [isDigit, Bool.and_eq_true, decide_eq_true_eq, UInt16.le_iff_toNat_le,
    UInt16.reduceToNat] at hu
  omega

theorem fits_isAudit {t : Text} (h : Jobs.isAudit t = true) : Fits t 64 := by
  obtain ⟨hlength, hhex⟩ := Bool.and_eq_true_iff.mp h
  exact fits_ascii (isAscii_of_isHex hhex) (le_of_eq (of_decide_eq_true hlength))

theorem isAscii_of_isDigest {t : Text} (h : Jobs.isDigest t = true) : isAscii t = true := by
  simp only [Jobs.isDigest, Bool.and_eq_true, List.isPrefixOf_iff_prefix] at h
  obtain ⟨⟨⟨rest, rfl⟩, -⟩, hhex⟩ := h
  have hstart : (js "sha256:").length = 7 := by decide
  rw [← hstart, List.drop_left] at hhex
  exact isAscii_append (by decide) (isAscii_of_isHex hhex)

theorem length_of_isDigest {t : Text} (h : Jobs.isDigest t = true) : t.length = 71 := by
  simp only [Jobs.isDigest, Bool.and_eq_true, decide_eq_true_eq] at h
  exact h.1.2

theorem fits_isDigest {t : Text} (h : Jobs.isDigest t = true) : Fits t 71 :=
  fits_ascii (isAscii_of_isDigest h) (le_of_eq (length_of_isDigest h))

theorem fits_lit {s : String} {n : Nat} (h : (isAscii (js s) && decide ((js s).length ≤ n)) = true) :
    Fits (js s) n := by
  obtain ⟨hascii, hlength⟩ := Bool.and_eq_true_iff.mp h
  exact fits_ascii hascii (of_decide_eq_true hlength)

/-- The units of a shape are digits, or those of the shape. -/
theorem units_of_hasShape {t : Text} {shape : String} {p : UInt16 → Bool} (h : hasShape t shape = true)
    (hdigit : ∀ u, isDigit u = true → p u = true)
    (hshape : (shape.toList.all fun c => c = 'd' || p (UInt16.ofNat c.toNat)) = true) :
    t.all p = true := by
  obtain ⟨hlength, hunits⟩ := Bool.and_eq_true_iff.mp h
  have hlength : t.length = shape.toList.length := of_decide_eq_true hlength
  refine List.all_eq_true.mpr fun u hu => ?_
  obtain ⟨i, hi, rfl⟩ := List.mem_iff_getElem.mp hu
  have hi' : i < shape.toList.length := hlength ▸ hi
  have hmem : (t[i], shape.toList[i]) ∈ t.zip shape.toList := by
    have hzip : i < (t.zip shape.toList).length := by
      rw [List.length_zip]
      exact lt_min hi hi'
    rw [← List.getElem_zip (h := hzip)]
    exact List.getElem_mem hzip
  have hunit := List.all_eq_true.mp hunits _ hmem
  have hc := List.all_eq_true.mp hshape _ (List.getElem_mem hi')
  dsimp only at hunit hc
  split at hunit
  · exact hdigit _ hunit
  · rename_i hd
    rw [decide_eq_false hd, Bool.false_or, ← of_decide_eq_true hunit, UInt16.ofNat_toNat] at hc
    exact hc

theorem isAscii_of_hasShape {t : Text} {shape : String} (h : hasShape t shape = true)
    (hshape : (shape.toList.all fun c => c = 'd' || 0x20 ≤ UInt16.ofNat c.toNat
      && UInt16.ofNat c.toNat ≤ 0x7E) = true) : isAscii t = true := by
  refine units_of_hasShape h (fun u hu => ?_) hshape
  simp only [isDigit, UInt16.le_iff_toNat_le, Bool.and_eq_true, decide_eq_true_eq,
    UInt16.reduceToNat] at hu ⊢
  omega

/-- What Python takes for an instant. -/
theorem isIso_of_hasShape {t : Text} (h : hasShape t "dddd-dd-ddTdd:dd:dd.dddZ" = true) :
    Jobs.isIso t = true := by
  have hascii := isAscii_of_hasShape h (by decide)
  obtain ⟨hlength, hunits⟩ := Bool.and_eq_true_iff.mp h
  rw [Jobs.isIso, codePoints_ascii hascii, List.length_map, of_decide_eq_true hlength]
  simp only [decide_true, Bool.true_and, List.zip_map_left, List.all_map]
  refine List.all_eq_true.mpr fun p hp => ?_
  have hunit := List.all_eq_true.mp hunits p hp
  dsimp only [Function.comp, Prod.map] at hunit ⊢
  split
  · rename_i hd
    have hd : p.2 = 'd' := hd
    rw [if_pos hd] at hunit
    simp only [isDigit, Bool.and_eq_true, decide_eq_true_eq, UInt16.le_iff_toNat_le,
      UInt16.reduceToNat] at hunit
    refine List.any_eq_true.mpr ⟨0x30, List.mem_cons_self, ?_⟩
    simpa using hunit
  · rename_i hd
    have hd : p.2 ≠ 'd' := hd
    rw [if_neg hd] at hunit
    exact hunit

/-- `toISOString` writes milliseconds. -/
theorem hasShape_isoText (ms : Int) :
    hasShape (Instant.isoText ms) "dddd-dd-ddTdd:dd:dd.dddZ" = true := by
  have hpad2 : ∀ n, Instant.pad 2 n = [digitUnit (n / 10 ^ 1 % 10), digitUnit (n / 10 ^ 0 % 10)] :=
    fun n => rfl
  have hpad3 : ∀ n, Instant.pad 3 n = [digitUnit (n / 10 ^ 2 % 10), digitUnit (n / 10 ^ 1 % 10),
      digitUnit (n / 10 ^ 0 % 10)] := fun n => rfl
  have hpad4 : ∀ n, Instant.pad 4 n = [digitUnit (n / 10 ^ 3 % 10), digitUnit (n / 10 ^ 2 % 10),
      digitUnit (n / 10 ^ 1 % 10), digitUnit (n / 10 ^ 0 % 10)] := fun n => rfl
  have hdigit : ∀ n, isDigit (digitUnit (n % 10)) = true := fun n =>
    isDigit_digitUnit (Nat.mod_lt _ (by decide))
  have hlits : js "-" = [0x2D] ∧ js "T" = [0x54] ∧ js ":" = [0x3A] ∧ js "." = [0x2E]
      ∧ js "Z" = [0x5A] := by decide
  have hshape : "dddd-dd-ddTdd:dd:dd.dddZ".toList = ['d', 'd', 'd', 'd', '-', 'd', 'd', '-', 'd',
      'd', 'T', 'd', 'd', ':', 'd', 'd', ':', 'd', 'd', '.', 'd', 'd', 'd', 'Z'] := by decide
  obtain ⟨hdash, ht, hcolon, hdot, hz⟩ := hlits
  unfold Instant.isoText
  simp only [hpad2, hpad3, hpad4, hdash, ht, hcolon, hdot, hz]
  rw [hasShape, hshape]
  simp [hdigit]

/-- What Python takes for an instant. -/
theorem isIso_isoText (ms : Int) : Jobs.isIso (Instant.isoText ms) = true :=
  isIso_of_hasShape (hasShape_isoText ms)

theorem isAscii_of_isRfc3339 {t : Text} (h : isRfc3339 t = true) : isAscii t = true := by
  simp only [isRfc3339, Bool.and_eq_true, decide_eq_true_eq] at h
  obtain ⟨⟨⟨⟨⟨⟨⟨hshape, -⟩, -⟩, -⟩, -⟩, -⟩, hlast⟩, hfraction⟩ := h
  have hsecond := isAscii_of_hasShape hshape (by decide)
  have hend : t.drop 19 = (t.drop 19).dropLast ++ [0x5A] := by
    obtain ⟨rest, hrest⟩ := List.getLast?_eq_some_iff.mp hlast
    rw [hrest, List.dropLast_concat]
  have hdot : isAscii (t.drop 19).dropLast = true := by
    rcases Bool.or_eq_true_iff.mp hfraction with hempty | hfraction
    · rw [List.isEmpty_iff.mp hempty]
      rfl
    · simp only [isFraction, Bool.and_eq_true, decide_eq_true_eq] at hfraction
      obtain ⟨⟨⟨hhead, -⟩, -⟩, hdigits⟩ := hfraction
      cases hf : (t.drop 19).dropLast with
      | nil => rfl
      | cons u rest =>
        rw [hf] at hhead hdigits
        obtain rfl := Option.some.inj hhead
        exact isAscii_append (s := [0x2E]) (by decide) (isAscii_of_digits hdigits)
  have hrest : isAscii (t.drop 19) = true := by
    rw [hend]
    exact isAscii_append hdot (by decide)
  rw [← List.take_append_drop 19 t]
  exact isAscii_append hsecond hrest

/-- An instant begins with a digit. -/
theorem head_of_instant {P : Platform} {t : Text} (h : instant P t = true) :
    ∃ u rest, t = u :: rest ∧ isDigit u = true := by
  simp only [instant, isRfc3339, hasShape, Bool.and_eq_true, decide_eq_true_eq] at h
  obtain ⟨⟨-, ⟨⟨⟨⟨⟨⟨⟨hlength, hunits⟩, -⟩, -⟩, -⟩, -⟩, -⟩, -⟩, -⟩, -⟩ := h
  cases t with
  | nil =>
    rw [List.take_nil] at hlength
    exact absurd hlength (by decide)
  | cons u rest =>
    refine ⟨u, rest, rfl, ?_⟩
    have hmem : (u, 'd') ∈ ((u :: rest).take 19).zip "dddd-dd-ddTdd:dd:dd".toList := by
      have hshape : "dddd-dd-ddTdd:dd:dd".toList = 'd' :: "ddd-dd-ddTdd:dd:dd".toList := by decide
      rw [hshape, List.take_succ_cons, List.zip_cons_cons]
      exact List.mem_cons_self
    simpa using List.all_eq_true.mp hunits _ hmem

theorem fits_instant {P : Platform} {t : Text} (h : instant P t = true) : Fits t 64 := by
  simp only [instant, Bool.and_eq_true, decide_eq_true_eq] at h
  exact fits_ascii (isAscii_of_isRfc3339 h.1.2) h.1.1

theorem isAscii_of_alphanumeric {t : Text} (h : t.all
    (fun u => Runtime.isAlphanumeric u || u == 0x2B || u == 0x2F || u == 0x2E || u == 0x5F
      || u == 0x2D || u == 0x3D) = true) : isAscii t = true := by
  refine isAscii_of_units h fun u hu => ?_
  simp only [Runtime.isAlphanumeric, isDigit, Bool.or_eq_true, Bool.and_eq_true,
    decide_eq_true_eq, beq_iff_eq, UInt16.le_iff_toNat_le, ← UInt16.toNat_inj,
    UInt16.reduceToNat] at hu
  omega

theorem fits_isBase64 {t : Text} (h : isBase64 t = true) : Fits t 512 := by
  simp only [isBase64, Bool.and_eq_true, decide_eq_true_eq] at h
  obtain ⟨⟨⟨⟨⟨-, hlength⟩, -⟩, -⟩, hpad⟩, -⟩ := h
  refine fits_ascii (isAscii_of_alphanumeric (List.all_eq_true.mpr fun u hu => ?_)) hlength
  rcases List.mem_append.mp ((List.take_append_drop (t.takeWhile
    fun u => Runtime.isAlphanumeric u || u == 0x2B || u == 0x2F).length t).symm ▸ hu) with hu | hu
  · rw [← List.prefix_iff_eq_take.mp (List.takeWhile_prefix _)] at hu
    have hu := List.all_eq_true.mp List.all_takeWhile u hu
    simp only [Bool.or_eq_true] at hu ⊢
    tauto
  · have hu := List.all_eq_true.mp hpad u hu
    simp only [Bool.or_eq_true]
    exact Or.inr hu

theorem fits_isGeneration {t : Text} (h : Runtime.isGeneration t = true) : Fits t 128 := by
  cases t with
  | nil => cases h
  | cons u t =>
    simp only [Runtime.isGeneration, Bool.and_eq_true, decide_eq_true_eq] at h
    obtain ⟨⟨hu, hlength⟩, ht⟩ := h
    refine fits_ascii (isAscii_of_alphanumeric ?_) (Nat.succ_le_succ hlength)
    rw [List.all_cons, hu, Bool.true_or, Bool.true_or, Bool.true_or, Bool.true_or, Bool.true_or,
      Bool.true_or, Bool.true_and, List.all_eq_true]
    intro v hv
    have hv := List.all_eq_true.mp ht v hv
    simp only [Bool.or_eq_true] at hv ⊢
    tauto

/-! ## 2. Runs -/

theorem length_codePoints_le : ∀ t : Text, (Jobs.codePoints t).length ≤ t.length
  | [] => le_refl 0
  | [u] => le_refl 1
  | u :: v :: t => by
    rw [Jobs.codePoints]
    split
    · have := length_codePoints_le t
      simp only [List.length_cons]
      omega
    · have := length_codePoints_le (v :: t)
      simp only [List.length_cons] at this ⊢
      omega

theorem length_codePoints_pos {t : Text} (h : t ≠ []) : 1 ≤ (Jobs.codePoints t).length := by
  match t, h with
  | [u], _ => exact le_refl 1
  | u :: v :: t, _ =>
    rw [Jobs.codePoints]
    split
    · rw [List.length_cons]
      omega
    · rw [List.length_cons]
      omega

/-- A column that the control function takes is one that the adapter takes. -/
theorem validColumn_of_bounded {t : Text} (h : boundedString t 512 = true) :
    Jobs.validColumn t = true := by
  simp only [boundedString, Bool.and_eq_true, decide_eq_true_eq, List.all_eq_true] at h
  obtain ⟨⟨hpos, hlength⟩, hunits⟩ := h
  have hne : t ≠ [] := fun h => by simp [h] at hpos
  simp only [Jobs.validColumn, Jobs.len, Bool.and_eq_true, decide_eq_true_eq, List.all_eq_true]
  exact ⟨⟨decide_eq_true (length_codePoints_pos hne),
    decide_eq_true (le_trans (length_codePoints_le t) hlength)⟩, hunits⟩

/-- What is known of a run that `verifyAuditRecord` lets pass. -/
structure RunFits (run : Run) : Prop where
  audit : Jobs.isAudit run.auditId = true
  evidence : Jobs.isDigest run.evidenceDigest = true
  dataset : Jobs.isDataset run.datasetUrn = true
  column : Jobs.validColumn run.governedColumnPath = true
  query_fits : Fits run.query 768
  question_fits : Fits run.question 1536
  dataset_fits : Fits run.datasetUrn 768
  column_fits : Fits run.governedColumnPath 1536
  session_fits : Fits run.runtimeSessionId 64
  generation_fits : Fits run.binding.generation 128
  capabilities : Jobs.isDigest run.binding.capabilityDigest = true
  schema_fits : Fits run.binding.schemaVersion 64
  profile_fits : Fits run.binding.profileId 64
  resolution_fits : Fits run.binding.resolution 64
  bound_fits : Fits run.binding.boundAt 64
  lease_fits : Fits run.binding.leaseExpiresAt 64

theorem run_fits {P : Platform} {inputs : Inputs} {run : Run}
    (h : verifyAuditRecord P inputs run = true) : RunFits run := by
  simp only [verifyAuditRecord, verifyRuntimeEvidence, validateBinding, Bool.and_eq_true,
    decide_eq_true_eq] at h
  obtain ⟨⟨⟨⟨⟨⟨⟨⟨⟨haudit, hquery⟩, hquestion⟩, hdataset⟩, hcolumn⟩, ⟨⟨hsession, hevidence⟩,
    hbinding⟩⟩, heq⟩, hdataset'⟩, hquestion'⟩, hcolumn'⟩ := h
  obtain ⟨⟨⟨⟨⟨⟨⟨hschema, hprofile⟩, hgeneration⟩, hcapabilities⟩, hresolution⟩, hbound⟩, hlease⟩, -⟩ :=
    hbinding
  have hqueryEncodable : Jobs.encodable run.query = true := heq ▸ inputs.datasetUrn_encodable
  have hprofileFits : Fits run.binding.profileId 64 := by
    rcases Bool.or_eq_true_iff.mp hprofile with h | h
    · exact of_decide_eq_true h ▸ fits_lit (by decide)
    · exact of_decide_eq_true h ▸ fits_lit (by decide)
  have hresolutionFits : Fits run.binding.resolution 64 := by
    rcases Bool.or_eq_true_iff.mp hresolution with h | h
    · exact of_decide_eq_true h ▸ fits_lit (by decide)
    · exact of_decide_eq_true h ▸ fits_lit (by decide)
  have hsessionLength : run.runtimeSessionId.length ≤ 64 := by
    simp only [Runtime.isSessionId, Bool.and_eq_true, decide_eq_true_eq] at hsession
    omega
  have hsession : isAscii run.runtimeSessionId = true := by
    simp only [Runtime.isSessionId, Bool.and_eq_true, List.isPrefixOf_iff_prefix] at hsession
    obtain ⟨⟨⟨rest, hrest⟩, -⟩, hunits⟩ := hsession
    have hstart : (js "rs_").length = 3 := by decide
    rw [← hrest, ← hstart, List.drop_left] at hunits
    rw [← hrest]
    refine isAscii_append (by decide) (isAscii_of_alphanumeric (List.all_eq_true.mpr fun u hu => ?_))
    have hu := List.all_eq_true.mp hunits u hu
    simp only [Bool.or_eq_true] at hu ⊢
    tauto
  exact {
    audit := haudit
    evidence := hevidence
    dataset := (Bool.and_eq_true_iff.mp hdataset).1
    column := validColumn_of_bounded hcolumn
    query_fits := fits_bounded hqueryEncodable hquery
    question_fits := fits_bounded (hquestion' ▸ inputs.question_encodable) hquestion
    -- A run queries for the dataset it is about.
    dataset_fits := by
      rw [hdataset', ← heq]
      exact fits_bounded hqueryEncodable hquery
    column_fits := fits_bounded (hcolumn' ▸ inputs.columnPath_encodable) hcolumn
    session_fits := fits_ascii hsession hsessionLength
    generation_fits := fits_isGeneration hgeneration
    capabilities := hcapabilities
    schema_fits := hschema ▸ fits_lit (by decide)
    profile_fits := hprofileFits
    resolution_fits := hresolutionFits
    bound_fits := fits_instant hbound
    lease_fits := fits_instant hlease }

/-! ## 3. Plans -/

theorem tagState_eq_some {P : Platform} {result : Value} {run : Run} {s : TagState}
    (h : tagState P result run = some s) :
    s.entityUrn = run.datasetUrn ∧ s.columnPath = run.governedColumnPath ∧
      Jobs.isDigest s.stateDigest = true := by
  unfold tagState at h
  split at h
  · split at h
    · split at h
      · rename_i hvalid
        obtain rfl := Option.some.inj h
        simp only [Bool.and_eq_true, decide_eq_true_eq] at hvalid
        exact ⟨rfl, rfl, isDigest_digest hvalid.2⟩
      · cases h
    · cases h
  · cases h

/-- What is known of a plan. -/
structure PlanFits (P : Platform) (run : Run) (prepared : Prepared) : Prop where
  before_digest : Jobs.isDigest prepared.before.stateDigest = true
  entityUrn : prepared.expectedAfter.entityUrn = run.datasetUrn
  columnPath : prepared.expectedAfter.columnPath = run.governedColumnPath
  /-- The plan keeps the tags. -/
  tagUrns : prepared.expectedAfter.tagUrns = sortedSet (prepared.before.tagUrns ++ [PII_TAG])
  after_digest : digest P (object (stateFields run.datasetUrn run.governedColumnPath
    prepared.expectedAfter.tagUrns)) = some prepared.expectedAfter.stateDigest
  evidence : Jobs.isDigest prepared.auditEvidenceDigest = true
  policy : Jobs.isDigest prepared.policyDigest = true
  plan : Jobs.isDigest prepared.planDigest = true
  approvalId : prepared.approvalId = js "approval-" ++ slice prepared.planDigest 7 31

theorem planFor_fits {P : Platform} {run : Run} {analysis : AnalysisReceipt} {read : ReadReceipt}
    {improve : ImproveReceipt} {prepared : Prepared}
    (h : planFor P run analysis read improve = some prepared) : PlanFits P run prepared := by
  simp only [planFor, Option.bind_eq_bind, Option.bind_eq_some_iff] at h
  obtain ⟨before, hbefore, afterDigest, hafter, policyDigest, hpolicy, evidenceDigest, hevidence,
    planDigest, hplan, completed, -, lease, -, h⟩ := h
  obtain rfl := Option.some.inj h
  obtain ⟨hentity, hcolumn, hdigest⟩ := tagState_eq_some hbefore
  exact {
    before_digest := hdigest
    entityUrn := hentity
    columnPath := hcolumn
    tagUrns := rfl
    after_digest := by
      rw [← hentity, ← hcolumn]
      exact hafter
    evidence := isDigest_digest hevidence
    policy := isDigest_digest hpolicy
    plan := isDigest_digest hplan
    approvalId := rfl }

/-- The id of an approval is one for the adapter. -/
theorem approvalId_form {t : Text} (h : Jobs.isDigest t = true) :
    Jobs.isApprovalId (js "approval-" ++ slice t 7 31) = true ∧
      isAscii (js "approval-" ++ slice t 7 31) = true ∧
      (js "approval-" ++ slice t 7 31).length = 33 := by
  have hstart : js "approval-" = [0x61, 0x70, 0x70, 0x72, 0x6F, 0x76, 0x61, 0x6C, 0x2D] := by decide
  have hlength : (slice t 7 31).length = 24 := by
    rw [slice, List.length_drop, List.length_take, length_of_isDigest h]
    rfl
  have hhex : (slice t 7 31).all isHexDigit = true := by
    simp only [Jobs.isDigest, Bool.and_eq_true] at h
    rw [slice, List.drop_take, List.all_eq_true]
    intro u hu
    exact List.all_eq_true.mp h.2 u (List.mem_of_mem_take hu)
  refine ⟨?_, isAscii_append (by decide) (isAscii_of_isHex hhex), ?_⟩
  · have hrest : (slice t 7 31).all (fun v => Jobs.isTokenUnit v || v == 0x2E || v == 0x3A) = true := by
      refine List.all_eq_true.mpr fun u hu => ?_
      have hu := List.all_eq_true.mp hhex u hu
      simp only [isHexDigit, Jobs.isTokenUnit, Runtime.isAlphanumeric, isDigit, Bool.or_eq_true,
        Bool.and_eq_true, decide_eq_true_eq, UInt16.le_iff_toNat_le, UInt16.reduceToNat,
        beq_iff_eq] at hu ⊢
      omega
    rw [hstart]
    simp only [List.cons_append, List.nil_append, Jobs.isApprovalId, List.length_cons, hlength,
      List.all_cons, hrest]
    decide
  · rw [List.length_append, hlength, hstart]
    rfl

/-! ## 4. Values -/

@[simp] theorem plain_str_iff {t : Text} : Plain (.str t) ↔ Jobs.encodable t = true := Iff.rfl

@[simp] theorem plain_lit_iff (s : String) : Plain (lit s) ↔ True :=
  ⟨fun _ => trivial, fun _ => plain_lit s⟩

@[simp] theorem plain_texts_iff {ts : List Text} :
    Plain (texts ts) ↔ ∀ t ∈ ts, Jobs.encodable t = true := by
  rw [texts, Plain, everywhere_arr, List.forall_mem_map]
  exact ⟨fun h t ht => h.2 t ht, fun h => ⟨trivial, fun t ht => h t ht⟩⟩

@[simp] theorem stored_texts (ts : List Text) : stored (texts ts) = .list (ts.map .str) := by
  rw [texts, stored_arr, List.map_map]
  exact congrArg _ (List.map_congr_left fun t _ => stored_str t)

@[simp] theorem storable_str (t : Text) (level : Nat) :
    storable (.str t) level = (decide (level ≤ 14) && Jobs.encodable t) := by
  rw [storable]

@[simp] theorem storable_lit (s : String) (level : Nat) :
    storable (lit s) level = decide (level ≤ 14) := by
  rw [lit, storable_str, Jobs.encodable_js, Bool.and_true]

@[simp] theorem storable_texts (ts : List Text) (level : Nat) :
    storable (texts ts) level
      = (decide (level ≤ 14) && ts.all fun t => decide (level + 1 ≤ 14) && Jobs.encodable t) := by
  rw [texts, storable]
  congr 1
  induction ts with
  | nil => rfl
  | cons t ts ih => rw [List.map_cons, storableItems, storable_str, ih, List.all_cons]

@[simp] theorem storable_object (fields : List (String × Value)) (level : Nat) :
    storable (object fields) level
      = (decide (level ≤ 14) && fields.all fun f => storable f.2 (level + 1)) := by
  rw [object, storable]
  congr 1
  induction fields with
  | nil => rfl
  | cons f fs ih =>
    rw [List.map_cons, storableFields, ih, List.all_cons, Jobs.encodable_js, Bool.true_and]

theorem printable_str {t : Text} {depth : Nat} (h : printable (.str t) depth = true) :
    isAscii t = true := by
  rw [printable] at h
  exact (Bool.and_eq_true_iff.mp h).2

theorem printable_object {fields : List (String × Value)} {depth : Nat}
    (h : printable (object fields) depth = true) :
    ∀ f ∈ fields, printable f.2 (depth + 1) = true := by
  rw [object, printable] at h
  replace h := (Bool.and_eq_true_iff.mp h).2
  change printableFields _ _ = true at h
  induction fields with
  | nil => exact fun f hf => absurd hf List.not_mem_nil
  | cons f fs ih =>
    rw [List.map_cons, printableFields, Bool.and_eq_true, Bool.and_eq_true] at h
    exact List.forall_mem_cons.mpr ⟨h.1.2, ih h.2⟩

end Control
