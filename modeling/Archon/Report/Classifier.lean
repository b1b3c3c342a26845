/-
# The classification of a snapshot

`ClassifierAgent` counts the entities of a snapshot by domain and by platform, in plain objects whose
keys are the names that the catalog gives.  A plain object answers to some names before anything is
counted: what is read under `constructor` is a function, and `(f ?? 0) + 1` is a text; what is written
under `__proto__` is not kept.

For every name that is not inherited the count is right (`classified`), and a report with the
classification is accepted where its names are such as the report's format takes.
-/
import Archon.Audit.History
import Archon.Ecma.Length
import Archon.Ecma.Maps
import Archon.Lineage.Topology
import Archon.Report.Provenance

namespace Report

open Ecma Ecma.Value Lineage Worker

/-! ## 1. Counts in a plain object -/

/-- What a property of an object of counts has: a number, or a text where something inherited was added to. -/
inductive Slot where
  | count (n : Nat)
  | text (t : Text)
deriving DecidableEq

/-- The own properties of an object of counts.  An array has less than `2 ^ 53` elements, so that a
number that counts them is exact. -/
abbrev Counts := JsMap Text Slot

/-- The text of a method of the language. -/
def nativeText (name : String) : Text := js "function " ++ js name ++ js "() \x7b [native code] \x7d"

/-- The methods that an object inherits. -/
def INHERITED_METHODS : List String :=
  ["__defineGetter__", "__defineSetter__", "hasOwnProperty", "__lookupGetter__", "__lookupSetter__",
    "isPrototypeOf", "propertyIsEnumerable", "toString", "valueOf", "toLocaleString"]

/-- The prototype's own name. -/
def protoName : Text := js "__proto__"

/-- `String(object[name])`, where the name is inherited. -/
def inheritedText (name : Text) : Option Text :=
  if name = protoName then some (js "[object Object]")
  else if name = js "constructor" then some (nativeText "Object")
  else (INHERITED_METHODS.find? fun method => js method = name).map nativeText

/-- `(counts[name] ?? 0) + 1`. -/
def incremented (counts : Counts) (name : Text) : Slot :=
  match counts.get name with
  | some (.count n) => .count (n + 1)
  | some (.text t) => .text (t ++ js "1")
  | none =>
    match inheritedText name with
    | some t => .text (t ++ js "1")
    | none => .count 1

/-- `counts[name] = (counts[name] ?? 0) + 1`.  What is assigned to the prototype and is no object is
dropped. -/
def bump (counts : Counts) (name : Text) : Counts :=
  if name = protoName then counts else counts.set name (incremented counts name)

/-- The counts of names, one after another. -/
def tally (names : List Text) : Counts := names.foldl bump .empty

/-! ## 2. The classifier -/

/-- `DEFAULT_SENSITIVE_FIELD_HINTS`. -/
def DEFAULT_SENSITIVE_FIELD_HINTS : List String :=
  ["email", "ssn", "phone", "dob", "birth", "salary", "passport", "iban", "credit", "address",
    "national_id", "tax_id"]

/-- `looksSensitive`. -/
def looksSensitive (L : Audit.Language) (fieldPath : Text)
    (hints : List Text := DEFAULT_SENSITIVE_FIELD_HINTS.map js) : Bool :=
  let p := L.toLowerCase fieldPath
  hints.any fun value =>
    let hint := L.toLowerCase (trim value)
    decide (0 < hint.length) && occursIn hint p

/-- `Classification`. -/
structure Classification where
  totalEntities : Nat
  withLineage : Nat
  sensitiveEntities : Nat
  domains : Counts
  platforms : Counts

/-- `e.domain ?? "(none)"`. -/
def domainName (e : CatalogEntity) : Text := (e.domain.getD none).getD (js "(none)")

/-- `classify`. -/
def classify (L : Audit.Language) (snapshot : CatalogSnapshot) : Classification where
  totalEntities := snapshot.entities.length
  withLineage := snapshot.entities.countP fun e => decide (0 < (e.upstreams.getD []).length)
  sensitiveEntities := snapshot.entities.countP fun e =>
    (e.fields.getD []).any fun f => looksSensitive L f.path
  domains := tally (snapshot.entities.map domainName)
  platforms := tally (snapshot.entities.map CatalogEntity.platform)

/-- A property of the object. -/
def Slot.value : Slot → Value
  | .count n => .num (.ofNat n)
  | .text t => .str t

/-- An object of counts. -/
def countsValue (counts : Counts) : Value := .obj (counts.mapValues Slot.value).entries

/-- The object that a classification is. -/
def Classification.value (c : Classification) : Value :=
  object [("totalEntities", .num (.ofNat c.totalEntities)), ("withLineage", .num (.ofNat c.withLineage)),
    ("sensitiveEntities", .num (.ofNat c.sensitiveEntities)), ("domains", countsValue c.domains),
    ("platforms", countsValue c.platforms)]

/-! ## 3. What is counted -/

section Tally

variable {names : List Text} {name : Text} {counts : Counts}

/-- A name that every object answers to. -/
def Inherited (name : Text) : Prop := (inheritedText name).isSome = true

instance : DecidablePred Inherited := fun name => inferInstanceAs (Decidable ((inheritedText name).isSome = true))

theorem not_proto (h : ¬Inherited name) : name ≠ protoName := by
  rintro rfl
  exact h rfl

theorem tally_append (names : List Text) (name : Text) : tally (names ++ [name]) = bump (tally names) name := by
  rw [tally, List.foldl_append]
  rfl

theorem get_bump_of_ne {name' : Text} (h : name ≠ name') : (bump counts name).get name' = counts.get name' := by
  rw [bump]
  split
  case isTrue => rfl
  case isFalse => exact JsMap.get_set_of_ne h

/-- **A name that is not inherited is counted.** -/
theorem get_tally (h : ¬Inherited name) : (tally names).get name
    = if names.count name = 0 then none else some (.count (names.count name)) := by
  induction names using List.reverseRecOn with
  | nil => rfl
  | append_singleton names last ih =>
    rw [tally_append, List.count_append]
    by_cases heq : last = name
    · subst heq
      have hnone : inheritedText last = none := by
        rwa [Inherited, Option.not_isSome_iff_eq_none] at h
      rw [bump, if_neg (not_proto h), JsMap.get_set_self, incremented, ih, List.count_singleton_self,
        if_neg (Nat.succ_ne_zero _)]
      by_cases hzero : names.count last = 0
      · rw [if_pos hzero, hnone, hzero]
      · rw [if_neg hzero]
    · have hlast : [last].count name = 0 := List.count_eq_zero.mpr (by simpa using Ne.symm heq)
      rw [get_bump_of_ne heq, ih, hlast, Nat.add_zero]

/-- The names that have a property. -/
theorem mem_keys_tally : name ∈ (tally names).keys ↔ name ∈ names ∧ name ≠ protoName := by
  induction names using List.reverseRecOn with
  | nil => simp [tally, JsMap.keys, JsMap.empty]
  | append_singleton names last ih =>
    rw [tally_append, bump, List.mem_append, List.mem_singleton]
    split
    case isTrue heq =>
      rw [ih]
      constructor
      · exact fun h => ⟨Or.inl h.1, h.2⟩
      · rintro ⟨h | rfl, hne⟩
        · exact ⟨h, hne⟩
        · exact absurd heq hne
    case isFalse hne =>
      have hkeys : name ∈ ((tally names).set last (incremented (tally names) last)).keys
          ↔ name = last ∨ name ∈ (tally names).keys := mem_keys_setEntry
      rw [hkeys, ih]
      constructor
      · rintro (rfl | ⟨h, hne'⟩)
        · exact ⟨Or.inr rfl, hne⟩
        · exact ⟨Or.inl h, hne'⟩
      · rintro ⟨h | rfl, hne'⟩
        · exact Or.inr ⟨h, hne'⟩
        · exact Or.inl rfl

/-- What a slot counts. -/
def Slot.number : Slot → Nat
  | .count n => n
  | .text _ => 0

/-- What an object counts. -/
def total (counts : Counts) : Nat := (counts.values.map Slot.number).sum

theorem total_set (counts : Counts) (name : Text) (slot : Slot) :
    total (counts.set name slot) + ((counts.get name).map Slot.number).getD 0
      = total counts + slot.number := by
  rw [total, total, JsMap.values, JsMap.values, JsMap.get, JsMap.set]
  dsimp only
  induction counts.entries with
  | nil => simp [setEntry, getEntry]
  | cons e es ih =>
    rw [setEntry, getEntry]
    split
    case isTrue h =>
      simp only [List.map_cons, List.sum_cons, Option.map_some, Option.getD_some]
      omega
    case isFalse h =>
      simp only [List.map_cons, List.sum_cons]
      omega

/-- **The counts sum to the number of names.** -/
theorem total_tally (h : ∀ name ∈ names, ¬Inherited name) : total (tally names) = names.length := by
  induction names using List.reverseRecOn with
  | nil => rfl
  | append_singleton names last ih =>
    have hlast : ¬Inherited last := h last (List.mem_append_right _ (List.mem_singleton_self _))
    have hsum := total_set (tally names) last (incremented (tally names) last)
    rw [ih fun name hname => h name (List.mem_append_left _ hname), incremented, get_tally hlast] at hsum
    rw [tally_append, bump, if_neg (not_proto hlast), List.length_append, List.length_singleton,
      incremented, get_tally hlast]
    by_cases hzero : names.count last = 0
    · have hnone : inheritedText last = none := by
        rwa [Inherited, Option.not_isSome_iff_eq_none] at hlast
      rw [if_pos hzero] at hsum ⊢
      simp only [hnone, Option.map_none, Option.getD_none, Slot.number] at hsum ⊢
      omega
    · rw [if_neg hzero] at hsum ⊢
      simp only [Option.map_some, Option.getD_some, Slot.number] at hsum ⊢
      omega

/-- A name that the format of a report takes. -/
def FormatName (name : Text) : Prop := 0 < name.length ∧ name.length ≤ 256 ∧ name.any isControl = false

/-- Names that the format of a report takes together. -/
def FormatNames (names : List Text) : Prop := (∀ name ∈ names, FormatName name) ∧ names.dedup.length ≤ 1000

theorem boundedText_iff : boundedText (.str name) 256 = true ↔ FormatName name := by
  rw [boundedText, FormatName, Bool.and_eq_true, Bool.and_eq_true, decide_eq_true_iff, decide_eq_true_iff,
    Bool.not_eq_true', and_assoc]

/-- The digits of a double that is a natural number. -/
theorem scaled_eq {x : Binary64} {n : Nat} (h : x.magnitude = n) :
    x.man * 2 ^ x.exp.toNat = n * 2 ^ (-x.exp).toNat := by
  rw [Binary64.magnitude] at h
  rcases le_total 0 x.exp with hexp | hexp
  · obtain ⟨k, hk⟩ := Int.eq_ofNat_of_zero_le hexp
    have hneg : (-(k : ℤ)).toNat = 0 := by omega
    rw [hk] at h ⊢
    rw [Int.toNat_natCast, hneg, pow_zero, mul_one]
    rw [zpow_natCast] at h
    exact_mod_cast h
  · obtain ⟨k, hk⟩ := Int.eq_ofNat_of_zero_le (a := -x.exp) (by omega)
    have hneg : x.exp = -(k : ℤ) := by omega
    have hzero : (-(k : ℤ)).toNat = 0 := by omega
    rw [hneg, zpow_neg, zpow_natCast, mul_inv_eq_iff_eq_mul₀ (by positivity)] at h
    rw [hneg, hzero, neg_neg, Int.toNat_natCast, pow_zero, mul_one]
    exact_mod_cast h

/-- **A length is a count** while it is less than `2 ^ 53`. -/
theorem safeCount_ofNat (n : Nat) : safeCount (.num (.ofNat n)) = if n < 2 ^ 53 then some n else none := by
  by_cases h : n < 2 ^ 53
  · obtain ⟨x, hx, hneg, hmag⟩ := Number.ofNat_eq_exact h
    have hpos : 0 < 2 ^ (-x.exp).toNat := pow_pos (by decide) _
    rw [hx, safeCount, scaled_eq hmag, Nat.mul_mod_left, Nat.mul_div_cancel _ hpos, if_pos h,
      if_pos ⟨rfl, h, Or.inl hneg⟩]
  · rw [if_neg h, Option.eq_none_iff_forall_ne_some]
    intro m hm
    obtain ⟨x, hx, hmag, hlt, -⟩ := count_of_safeCount hm
    have hx := Value.num.inj hx
    rcases Number.ofNat_of_ge (not_lt.mp h) with hinf | ⟨y, hy, -, hge⟩
    · rw [hinf] at hx
      cases hx
    · obtain rfl := Number.finite.inj (hy.symm.trans hx)
      rw [hmag] at hge
      exact absurd hlt (not_lt.mpr (by exact_mod_cast hge))

/-- The names that are counted are the names. -/
theorem keys_tally_perm (h : ∀ name ∈ names, ¬Inherited name) : (tally names).keys.Perm names.dedup := by
  refine (List.perm_ext_iff_of_nodup (tally names).nodup (List.nodup_dedup _)).mpr fun name => ?_
  change name ∈ (tally names).keys ↔ name ∈ names.dedup
  rw [mem_keys_tally, List.mem_dedup]
  exact ⟨fun hmem => hmem.1, fun hmem => ⟨hmem, not_proto (h name hmem)⟩⟩

/-- **When the counts are accepted.** -/
theorem isCountMap_tally (h : ∀ name ∈ names, ¬Inherited name) (hlength : names.length < 2 ^ 53) :
    isCountMap (countsValue (tally names)) = true ↔ FormatNames names := by
  have hkeys : ownKeys (countsValue (tally names)) = (tally names).keys := by
    simp only [ownKeys, countsValue, Value.entries, JsMap.mapValues, List.map_map]
    rfl
  have hentries : ∀ e ∈ (countsValue (tally names)).entries, e.1 ∈ names ∧ (safeCount e.2).isSome = true := by
    intro e he
    obtain ⟨⟨name, slot⟩, hslot, rfl⟩ := List.mem_map.mp he
    have hget := JsMap.mem_iff_get.mp hslot
    have hmem := (mem_keys_tally.mp (JsMap.mem_keys.mpr ⟨slot, hget⟩)).1
    rw [get_tally (h name hmem), if_neg (List.count_pos_iff.mpr hmem).ne'] at hget
    obtain rfl := Option.some.inj hget
    refine ⟨hmem, ?_⟩
    change (safeCount (.num (.ofNat (names.count name)))).isSome = true
    rw [safeCount_ofNat, if_pos (lt_of_le_of_lt List.count_le_length hlength)]
    rfl
  rw [isCountMap, FormatNames, hkeys, (keys_tally_perm h).length_eq, Bool.and_eq_true, Bool.and_eq_true,
    decide_eq_true_iff, List.all_eq_true]
  constructor
  · rintro ⟨⟨-, hlen⟩, hall⟩
    refine ⟨fun name hname => ?_, hlen⟩
    have hkey : name ∈ ownKeys (countsValue (tally names)) := by
      rw [hkeys, mem_keys_tally]
      exact ⟨hname, not_proto (h name hname)⟩
    obtain ⟨e, he, rfl⟩ := List.mem_map.mp hkey
    exact boundedText_iff.mp (Bool.and_eq_true_iff.mp (hall e he)).1
  · rintro ⟨hall, hlen⟩
    refine ⟨⟨rfl, hlen⟩, fun e he => ?_⟩
    obtain ⟨hmem, hcount⟩ := hentries e he
    exact Bool.and_eq_true_iff.mpr ⟨boundedText_iff.mpr (hall _ hmem), hcount⟩

end Tally

/-! ## 4. The classification -/

section Classified

variable {L : Audit.Language} {snapshot : CatalogSnapshot} {names : List Text}

/-- What a report has beside its classification. -/
structure Rest where
  scanId : Value
  findings : Value
  narrative : Value
  modelProvenance : Value
  trace : Value

/-- A report with a classification. -/
def Rest.report (r : Rest) (c : Classification) : Value :=
  object [("schemaVersion", lit "archon.audit-report/v1"), ("scanId", r.scanId), ("classification", c.value),
    ("findings", r.findings), ("narrative", r.narrative), ("modelProvenance", r.modelProvenance),
    ("trace", r.trace)]

/-- Is a report with that rest accepted, if its classification is? -/
def Rest.accepted (r : Rest) : Bool :=
  boundedText r.scanId 512 && isListOf r.findings 10000 isFinding && boundedText r.narrative 8000
    && isModelRuntimeProvenance r.modelProvenance && isListOf r.trace 32 isTraceStep

theorem exactReportKeys_self {v : Value} {keys : List String} (h : ownKeys v = keys.map js) :
    exactReportKeys v keys keys = true := by
  rw [exactReportKeys, h, Bool.and_eq_true, List.all_eq_true, List.all_eq_true]
  constructor
  · intro key hkey
    exact List.contains_iff_mem.mpr hkey
  · intro key hkey
    exact List.contains_iff_mem.mpr (List.mem_map_of_mem hkey)

theorem isAuditReport_report (r : Rest) (c : Classification) :
    isAuditReport (r.report c) = (r.accepted && isClassification c.value) := by
  have hkeys : exactReportKeys (r.report c) AUDIT_REPORT_KEYS AUDIT_REPORT_KEYS = true :=
    exactReportKeys_self (ownKeys_object _)
  have hversion : ((r.report c).getPath ["schemaVersion"]).isText (js "archon.audit-report/v1") = true := rfl
  have hscan : (r.report c).getPath ["scanId"] = r.scanId := getPath_object _ _
  have hclass : (r.report c).getPath ["classification"] = c.value := getPath_object _ _
  have hfindings : (r.report c).getPath ["findings"] = r.findings := getPath_object _ _
  have hnarrative : (r.report c).getPath ["narrative"] = r.narrative := getPath_object _ _
  have hmodel : (r.report c).getPath ["modelProvenance"] = r.modelProvenance := getPath_object _ _
  have htrace : (r.report c).getPath ["trace"] = r.trace := getPath_object _ _
  have hrecord : Worker.isRecord (r.report c) = true := rfl
  rw [isAuditReport, hkeys, hversion, hscan, hclass, hfindings, hnarrative, hmodel, htrace, hrecord]
  rw [Rest.accepted]
  cases isClassification c.value <;> simp

theorem isClassification_value (c : Classification) (htotal : c.totalEntities < 2 ^ 53)
    (hlineage : c.withLineage ≤ c.totalEntities) (hsensitive : c.sensitiveEntities ≤ c.totalEntities) :
    isClassification c.value = (isCountMap (countsValue c.domains) && isCountMap (countsValue c.platforms)) := by
  have hkeys : exactReportKeys c.value
      ["totalEntities", "withLineage", "sensitiveEntities", "domains", "platforms"]
      ["totalEntities", "withLineage", "sensitiveEntities", "domains", "platforms"] = true :=
    exactReportKeys_self (ownKeys_object _)
  have htotalEntities : c.value.getPath ["totalEntities"] = .num (.ofNat c.totalEntities) := getPath_object _ _
  have hwithLineage : c.value.getPath ["withLineage"] = .num (.ofNat c.withLineage) := getPath_object _ _
  have hsensitiveEntities : c.value.getPath ["sensitiveEntities"] = .num (.ofNat c.sensitiveEntities) :=
    getPath_object _ _
  have hdomains : c.value.getPath ["domains"] = countsValue c.domains := getPath_object _ _
  have hplatforms : c.value.getPath ["platforms"] = countsValue c.platforms := getPath_object _ _
  have hrecord : Worker.isRecord c.value = true := rfl
  rw [isClassification, hkeys, htotalEntities, hwithLineage, hsensitiveEntities, hdomains, hplatforms, hrecord]
  rw [safeCount_ofNat, safeCount_ofNat, safeCount_ofNat, if_pos htotal,
    if_pos (lt_of_le_of_lt hlineage htotal), if_pos (lt_of_le_of_lt hsensitive htotal)]
  simp [hlineage, hsensitive]

/-- The number of times a name stands, as a property. -/
def slotOf (names : List Text) (name : Text) : Option Slot :=
  if names.count name = 0 then none else some (.count (names.count name))

/-- The names of the domains. -/
def domainNames (snapshot : CatalogSnapshot) : List Text := snapshot.entities.map domainName

/-- The names of the platforms. -/
def platformNames (snapshot : CatalogSnapshot) : List Text := snapshot.entities.map CatalogEntity.platform

/-- No entity has a name that is inherited. -/
def NamesOwn (snapshot : CatalogSnapshot) : Prop :=
  (∀ name ∈ domainNames snapshot, ¬Inherited name) ∧ ∀ name ∈ platformNames snapshot, ¬Inherited name

/-- **A snapshot is classified.**  Every name that is not inherited is counted; without inherited names the
counts sum to the number of entities, and a report is accepted if its names are. -/
theorem classified (L : Audit.Language) (snapshot : CatalogSnapshot) (r : Rest) :
    (classify L snapshot).totalEntities = snapshot.entities.length
      ∧ (∀ name, ¬Inherited name →
        (classify L snapshot).domains.get name = slotOf (domainNames snapshot) name
          ∧ (classify L snapshot).platforms.get name = slotOf (platformNames snapshot) name)
      ∧ (NamesOwn snapshot → snapshot.entities.length < 2 ^ 53 →
        total (classify L snapshot).domains = snapshot.entities.length
          ∧ total (classify L snapshot).platforms = snapshot.entities.length
          ∧ (isAuditReport (r.report (classify L snapshot)) = true ↔ r.accepted = true
            ∧ FormatNames (domainNames snapshot) ∧ FormatNames (platformNames snapshot))) := by
  refine ⟨rfl, fun name h => ⟨get_tally h, get_tally h⟩, fun ⟨hdomains, hplatforms⟩ hlength => ?_⟩
  have hd : (domainNames snapshot).length = snapshot.entities.length := List.length_map _
  have hp : (platformNames snapshot).length = snapshot.entities.length := List.length_map _
  refine ⟨(total_tally hdomains).trans hd, (total_tally hplatforms).trans hp, ?_⟩
  rw [isAuditReport_report, isClassification_value _ hlength List.countP_le_length List.countP_le_length,
    Bool.and_eq_true, Bool.and_eq_true]
  exact and_congr_right fun _ => and_congr (isCountMap_tally hdomains (hd ▸ hlength))
    (isCountMap_tally hplatforms (hp ▸ hlength))

/-- A snapshot of one table on a platform. -/
def onPlatform (platform : String) : CatalogSnapshot where
  scanId := js "scan-1"
  entities := [{ dataset "orders" [] with platform := js platform }]
  knownUrns := .empty
  downstreamByRoot := .empty

/-- The rest of a report that is accepted. -/
def plainRest : Rest where
  scanId := lit "scan-1"
  findings := .arr []
  narrative := lit "Nothing was found."
  modelProvenance := emptyReport.getPath ["modelProvenance"]
  trace := .arr []

theorem plainRest_accepted : plainRest.accepted = true := by
  simp only [plainRest, emptyReport, object, lit, List.map_cons, List.map_nil]
  repeat rw [js_ofList]
  decide +kernel

theorem classified_onSnowflake : isAuditReport (plainRest.report (classify .node (onPlatform "snowflake"))) = true := by
  have hown : NamesOwn (onPlatform "snowflake") := by
    constructor <;> intro name hname <;> obtain rfl := List.mem_singleton.mp hname <;> decide
  refine ((classified .node (onPlatform "snowflake") plainRest).2.2 hown (by decide)).2.2.mpr
    ⟨plainRest_accepted, ⟨fun name hname => ?_, by decide⟩, fun name hname => ?_, by decide⟩
  · obtain rfl := List.mem_singleton.mp hname
    exact boundedText_iff.mp (by decide)
  · obtain rfl := List.mem_singleton.mp hname
    exact boundedText_iff.mp (by decide)

/-- Every name is counted, the counts sum to the number of entities, and any report may have them. -/
structure RightlyClassified (L : Audit.Language) (snapshot : CatalogSnapshot) : Prop where
  totalEntities : (classify L snapshot).totalEntities = snapshot.entities.length
  domains : ∀ name, (classify L snapshot).domains.get name = slotOf (domainNames snapshot) name
  platforms : ∀ name, (classify L snapshot).platforms.get name = slotOf (platformNames snapshot) name
  total_domains : total (classify L snapshot).domains = snapshot.entities.length
  total_platforms : total (classify L snapshot).platforms = snapshot.entities.length
  accepted : ∀ r : Rest, r.accepted = true → isAuditReport (r.report (classify L snapshot)) = true

/-- **What an object already answers to is not counted**, and an empty name is not accepted. -/
theorem constructor_miscounted : ¬RightlyClassified .node (onPlatform "constructor")
    ∧ ¬RightlyClassified .node (onPlatform "") := by
  constructor
  · intro h
    have hslot := h.platforms (js "constructor")
    have htext : (classify .node (onPlatform "constructor")).platforms.get (js "constructor")
        = some (.text (nativeText "Object" ++ js "1")) := by decide +kernel
    have hcount : slotOf (platformNames (onPlatform "constructor")) (js "constructor") = some (.count 1) := by
      decide +kernel
    rw [htext, hcount] at hslot
    cases hslot
  · intro h
    have haccepted := h.accepted plainRest plainRest_accepted
    rw [isAuditReport_report, Bool.and_eq_true, isClassification_value _ (by decide) (by decide) (by decide),
      Bool.and_eq_true] at haccepted
    have hempty : isCountMap (countsValue (classify .node (onPlatform "")).platforms) = false := by
      decide +kernel
    rw [hempty] at haccepted
    cases haccepted.2.2

end Classified

end Report
