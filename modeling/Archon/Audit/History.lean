/-
# Version histories

DataHub keeps the versions of an aspect, so that two sources that overwrite each other can still be
told from one that changes its mind.  `auditVersionHistory` makes a fact of every version and audits
the facts with the gate that asks for two distinct sources.

A version whose source cannot be resolved is given the source `unknown-source`, and the gate counts
this name as a source.  So a version of an unknown source that disagrees with one of a known source
is reported (`unknown_reported`), though the sources could be one.  `resolved_iff` says on which
histories all that is reported rests on two resolved sources.
-/
import Archon.Audit.Order
import Archon.Ecma.Schema
import Archon.Remediation.Platform

namespace Audit

open Ecma Ecma.Value Remediation

/-! ## 1. Versions -/

/-- A letter of ASCII in lower case. -/
def lowerUnit (u : UInt16) : UInt16 := if 0x41 ≤ u ∧ u ≤ 0x5A then u + 0x20 else u

/-- What the audit takes from its environment. -/
structure Language where
  P : Platform
  /-- `t.toLowerCase()`. -/
  toLowerCase : Text → Text
  toLowerCase_ascii : ∀ t, (t.all fun u => decide (u < 0x80)) = true → toLowerCase t = t.map lowerUnit

/-- `MutableAspectName`. -/
inductive MutableAspectName where
  | ownership
  | schemaMetadata
  | domains
  | deprecation
deriving DecidableEq

/-- `DhVersionedAspect`. -/
structure DhVersionedAspect where
  value : Value
  systemMetadata : Value

/-- `AspectVersionHistory`. -/
structure AspectVersionHistory where
  urn : Text
  aspect : MutableAspectName
  versions : List DhVersionedAspect
  sourceIdentityByRunId : Value

/-- `asStr`. -/
def asStr : Value → Option Text
  | .str t => some t
  | _ => none

/-- `value?.[key] ?? []`. -/
def listed (value : Value) (key : String) : Value :=
  let v := value.get (js key)
  if v.isNullish then .arr [] else v

/-- `primaryOwnerOf`. -/
def primaryOwnerOf (value : Value) : Option Text := asStr (((listed value "owners").nth 0).get (js "owner"))

/-- `primaryDomainOf`. -/
def primaryDomainOf (value : Value) : Option Text := asStr ((listed value "domains").nth 0)

/-- `deprecatedOf`. -/
def deprecatedOf (value : Value) : Option Bool :=
  match value.get (js "deprecated") with
  | .bool b => some b
  | _ => none

/-- `PLACEHOLDER_IDENTITIES`. -/
def PLACEHOLDER_IDENTITIES : List Text :=
  [js "", js "no-run-id-provided", js "unknown", js "unknown-run", js "unknown-source"]

section Facts

variable (L : Language)

/-- The path and the type of one field, where both are there. -/
def fieldTypeOf (f : Value) : Js String (Option (Text × Text)) :=
  if f.isNullish then .error .typeError
  else match asStr (f.get (js "fieldPath")), asStr (f.get (js "nativeDataType")) with
    | some path, some native =>
      .ok (if path.isEmpty || native.isEmpty then none else some (path, L.toLowerCase native))
    | _, _ => .ok none

/-- `schemaFieldTypesOf`. -/
def schemaFieldTypesOf (value : Value) : Js String (List (Text × Text)) := do
  let found ← (← (listed value "fields").spread).mapM (fieldTypeOf L)
  return found.filterMap id

/-- `isoOf`. -/
def isoOf (sm : Value) : Js String Text :=
  match sm.get (js "lastObserved") with
  | .num (.finite x) =>
    if 0 < signed x then
      if signed x ≤ 8640000000000000 then .ok (L.P.toISOString ⌊signed x⌋)
      else .error (.user "Invalid time value")
    else .ok (L.P.toISOString 0)
  | .num (.infinity false) => .error (.user "Invalid time value")
  | _ => .ok (L.P.toISOString 0)

/-- `meaningfulIdentity`. -/
def meaningfulIdentity (value : Value) : Option Text :=
  match value with
  | .str t =>
    let normalized := trim t
    if PLACEHOLDER_IDENTITIES.contains (L.toLowerCase normalized) then none else some normalized
  | _ => none

/-- `runOf`. -/
def runOf (sm : Value) : Option Text := meaningfulIdentity L (sm.get (js "runId"))

/-- The identity that `sourceOf` resolves, if any. -/
def resolvedSource (history : AspectVersionHistory) (sm : Value) : Option Text :=
  ((runOf L sm).bind fun runId => meaningfulIdentity L (history.sourceIdentityByRunId.get runId)).orElse
    fun _ => meaningfulIdentity L (sm.get (js "pipelineName"))

/-- The name of a source that is not resolved. -/
def unknownSource : Text := js "unknown-source"

/-- `sourceOf`. -/
def sourceOf (history : AspectVersionHistory) (sm : Value) : Text :=
  (resolvedSource L history sm).getD unknownSource

/-- A fact about `record`, which gives it one attribute. -/
def versionFact (source createdAt id : Text) (kind : String) (record : Text) (attr : String)
    (value : Value) (hattr : js attr ≠ js "record") : AuditFact where
  id := id
  kind := js kind
  source := source
  sourceRef := some record
  metadata := some ⟨[(js "record", .str record), (js attr, value)], by simpa using hattr.symm⟩
  createdAt := createdAt

/-- The facts of the version at an index. -/
def versionToFacts (history : AspectVersionHistory) (index : Nat) (v : DhVersionedAspect) :
    Js String (List AuditFact) := do
  let sm := v.systemMetadata
  let source := sourceOf L history sm
  let version := (meaningfulIdentity L (sm.get (js "version"))).getD (decimalText (index + 1))
  let evidenceId := js "v" ++ version ++ js ":" ++ (runOf L sm).getD (js "unknown-run")
  let createdAt ← isoOf L sm
  let urn := history.urn
  match history.aspect with
  | .ownership =>
    return ((primaryOwnerOf v.value).toList.map fun owner =>
      versionFact source createdAt (urn ++ js ":ownership:" ++ evidenceId) "ownership" urn "owner"
        (.str owner) (by decide))
  | .domains =>
    return ((primaryDomainOf v.value).toList.map fun domain =>
      versionFact source createdAt (urn ++ js ":domain:" ++ evidenceId) "domain" urn "domain"
        (.str domain) (by decide))
  | .deprecation =>
    return ((deprecatedOf v.value).toList.map fun deprecated =>
      versionFact source createdAt (urn ++ js ":deprecation:" ++ evidenceId) "deprecation" urn
        "deprecated" (.bool deprecated) (by decide))
  | .schemaMetadata =>
    let types ← schemaFieldTypesOf L v.value
    return (types.map fun f =>
      versionFact source createdAt (urn ++ js "#" ++ f.1 ++ js ":schema:" ++ evidenceId) "schema"
        (urn ++ js "#" ++ f.1) "fieldType" (.str f.2) (by decide))

/-- `versionHistoryToFacts`. -/
def versionHistoryToFacts (history : AspectVersionHistory) : Js String (List AuditFact) := do
  return (← history.versions.zipIdx.mapM fun v => versionToFacts L history v.2 v.1).flatten

/-- The facts of all histories. -/
def historyFacts (histories : List AspectVersionHistory) : Js String (List AuditFact) := do
  return (← histories.mapM (versionHistoryToFacts L)).flatten

/-- `auditVersionHistory`. -/
def auditVersionHistory (histories : List AspectVersionHistory) : Js String ConsistencyReport := do
  return auditConsistency ⟨none, true⟩ (← historyFacts L histories)

/-! ## 2. Sources -/

variable {L} {history : AspectVersionHistory} {histories : List AspectVersionHistory}
  {facts : List AuditFact} {m : AuditFact} {source : Text}

theorem meaningfulIdentity_ne {v : Value} (h : meaningfulIdentity L v = some source) :
    source ≠ unknownSource := by
  unfold meaningfulIdentity at h
  split at h
  case h_2 => cases h
  case h_1 t =>
    dsimp only at h
    split at h
    · cases h
    · rename_i hplaceholder
      obtain rfl := Option.some.inj h
      rintro heq
      refine hplaceholder ?_
      rw [heq, L.toLowerCase_ascii unknownSource (by decide)]
      decide

theorem resolvedSource_ne {sm : Value} (h : resolvedSource L history sm = some source) :
    source ≠ unknownSource := by
  rw [resolvedSource] at h
  cases hmapped : (runOf L sm).bind fun runId =>
      meaningfulIdentity L (history.sourceIdentityByRunId.get runId) with
  | none =>
    rw [hmapped] at h
    exact meaningfulIdentity_ne h
  | some t =>
    rw [hmapped] at h
    obtain rfl := Option.some.inj h
    obtain ⟨runId, -, h⟩ := Option.bind_eq_some_iff.mp hmapped
    exact meaningfulIdentity_ne h

theorem sourceOf_eq_iff {sm : Value} : sourceOf L history sm = source ∧ source ≠ unknownSource
    ↔ resolvedSource L history sm = some source := by
  rw [sourceOf]
  constructor
  · rintro ⟨hsource, hne⟩
    cases hresolved : resolvedSource L history sm with
    | none =>
      rw [hresolved] at hsource
      exact absurd hsource.symm hne
    | some t =>
      rw [hresolved] at hsource
      exact congrArg some hsource
  · intro h
    rw [h]
    exact ⟨rfl, resolvedSource_ne h⟩

/-- A text or a truth value. -/
def Plain : Value → Prop
  | .str _ | .bool _ => True
  | _ => False

theorem attributesOf_versionFact {createdAt id record : Text} {kind attr : String} {value : Value}
    (hattr : js attr ≠ js "record") (hrefs : js attr ≠ js "refs") (hvalue : Plain value) :
    attributesOf (versionFact source createdAt id kind record attr value hattr) = [(js attr, value)] := by
  have hscalar : isScalar value = true := by
    cases value with
    | str t => rfl
    | bool b => rfl
    | _ => cases hvalue
  simp [attributesOf, versionFact, RESERVED_KEYS, hattr, hrefs, hscalar]

/-- A fact of a version is about a record, and gives it one value. -/
theorem mem_versionToFacts {i : Nat} {v : DhVersionedAspect}
    (h : versionToFacts L history i v = .ok facts) (hm : m ∈ facts) :
    ∃ createdAt id kind record attr value, ∃ hattr : js attr ≠ js "record",
      m = versionFact (sourceOf L history v.systemMetadata) createdAt id kind record attr value hattr
        ∧ Plain value ∧ js attr ≠ js "refs" ∧ js kind ≠ js "insight" := by
  rw [versionToFacts] at h
  obtain ⟨createdAt, -, h⟩ := bind_eq_ok.mp h
  dsimp only at h
  cases haspect : history.aspect with
  | ownership =>
    rw [haspect] at h
    obtain rfl := Except.ok.inj h
    obtain ⟨owner, -, rfl⟩ := List.mem_map.mp hm
    exact ⟨_, _, _, _, _, _, _, rfl, trivial, by decide, by decide⟩
  | domains =>
    rw [haspect] at h
    obtain rfl := Except.ok.inj h
    obtain ⟨domain, -, rfl⟩ := List.mem_map.mp hm
    exact ⟨_, _, _, _, _, _, _, rfl, trivial, by decide, by decide⟩
  | deprecation =>
    rw [haspect] at h
    obtain rfl := Except.ok.inj h
    obtain ⟨deprecated, -, rfl⟩ := List.mem_map.mp hm
    exact ⟨_, _, _, _, _, _, _, rfl, trivial, by decide, by decide⟩
  | schemaMetadata =>
    rw [haspect] at h
    obtain ⟨types, -, h⟩ := bind_eq_ok.mp h
    obtain rfl := Except.ok.inj h
    obtain ⟨f, -, rfl⟩ := List.mem_map.mp hm
    exact ⟨_, _, _, _, _, _, _, rfl, trivial, by decide, by decide⟩

/-- **A fact of a version has its source, and one attribute.** -/
theorem versionToFacts_spec {i : Nat} {v : DhVersionedAspect}
    (h : versionToFacts L history i v = .ok facts) (hm : m ∈ facts) :
    m.source = sourceOf L history v.systemMetadata
      ∧ ∃ f, attributesOf m = [f] ∧ Plain f.2 := by
  obtain ⟨createdAt, id, kind, record, attr, value, hattr, rfl, hplain, hrefs, -⟩ := mem_versionToFacts h hm
  exact ⟨rfl, _, attributesOf_versionFact _ hrefs hplain, hplain⟩

theorem mapM_eq_ok {α β ε : Type} {f : α → Js ε β} : ∀ {l : List α} {bs : List β},
    l.mapM f = .ok bs ↔ List.Forall₂ (fun a b => f a = .ok b) l bs
  | [], bs => by
    rw [List.mapM_nil, List.forall₂_nil_left_iff]
    constructor
    · intro h
      exact (Except.ok.inj h).symm
    · rintro rfl
      rfl
  | a :: l, bs => by
    rw [List.mapM_cons, List.forall₂_cons_left_iff, bind_eq_ok]
    constructor
    · rintro ⟨b, hb, h⟩
      obtain ⟨bs', hbs', h⟩ := bind_eq_ok.mp h
      obtain rfl := Except.ok.inj h
      exact ⟨b, bs', hb, mapM_eq_ok.mp hbs', rfl⟩
    · rintro ⟨b, bs', hb, hbs', rfl⟩
      exact ⟨b, hb, bind_eq_ok.mpr ⟨bs', mapM_eq_ok.mpr hbs', rfl⟩⟩

theorem mem_flatten_of_mapM {α β ε : Type} {f : α → Js ε (List β)} {l : List α} {bss : List (List β)}
    (h : l.mapM f = .ok bss) {b : β} :
    b ∈ bss.flatten ↔ ∃ a ∈ l, ∃ bs, f a = .ok bs ∧ b ∈ bs := by
  have hall := mapM_eq_ok.mp h
  clear h
  induction hall with
  | nil => simp
  | cons hab hrest ih =>
    rw [List.flatten_cons, List.mem_append]
    simp [hab, ih]

theorem ok_of_mapM {α β ε : Type} {f : α → Js ε β} {l : List α} {bs : List β}
    (h : l.mapM f = .ok bs) {a : α} (ha : a ∈ l) : ∃ b, f a = .ok b := by
  have hall := mapM_eq_ok.mp h
  clear h
  induction hall with
  | nil => cases ha
  | cons hab hrest ih =>
    rcases List.mem_cons.mp ha with rfl | ha
    · exact ⟨_, hab⟩
    · exact ih ha

/-- The facts are those of the versions. -/
theorem mem_historyFacts (h : historyFacts L histories = .ok facts) :
    m ∈ facts ↔ ∃ history ∈ histories, ∃ v ∈ history.versions.zipIdx, ∃ fs,
      versionToFacts L history v.2 v.1 = .ok fs ∧ m ∈ fs := by
  obtain ⟨fss, hfss, heq⟩ := bind_eq_ok.mp h
  obtain rfl := Except.ok.inj heq
  rw [mem_flatten_of_mapM hfss]
  constructor
  · rintro ⟨history, hmem, fs, hfs, hm⟩
    obtain ⟨vss, hvss, heq⟩ := bind_eq_ok.mp hfs
    obtain rfl := Except.ok.inj heq
    exact ⟨history, hmem, (mem_flatten_of_mapM hvss).mp hm⟩
  · rintro ⟨history, hmem, hv⟩
    obtain ⟨fs, hfs⟩ := ok_of_mapM hfss hmem
    obtain ⟨vss, hvss, heq⟩ := bind_eq_ok.mp hfs
    obtain rfl := Except.ok.inj heq
    exact ⟨history, hmem, vss.flatten, hfs, (mem_flatten_of_mapM hvss).mpr hv⟩

/-- A version of a resolved source gives the fact. -/
def Resolved (L : Language) (histories : List AspectVersionHistory) (m : AuditFact) (source : Text) :
    Prop :=
  ∃ history ∈ histories, ∃ v ∈ history.versions.zipIdx, ∃ facts,
    versionToFacts L history v.2 v.1 = .ok facts ∧ m ∈ facts ∧
      resolvedSource L history v.1.systemMetadata = some source

/-- The source of a fact is known. -/
def Known (m : AuditFact) : Prop := m.source ≠ unknownSource

instance (m : AuditFact) : Decidable (Known m) := inferInstanceAs (Decidable (_ ≠ _))

theorem Resolved.source_eq (h : Resolved L histories m source) : m.source = source ∧ Known m := by
  obtain ⟨history, -, v, -, fs, hfs, hm, hresolved⟩ := h
  obtain ⟨hsource, -⟩ := versionToFacts_spec hfs hm
  obtain ⟨heq, hne⟩ := sourceOf_eq_iff.mpr hresolved
  rw [heq] at hsource
  refine ⟨hsource, ?_⟩
  rw [Known, hsource]
  exact hne

/-- **A fact whose source is known stems from a version whose source is resolved.** -/
theorem resolved_of_known (h : historyFacts L histories = .ok facts) (hm : m ∈ facts) (hk : Known m) :
    Resolved L histories m m.source := by
  obtain ⟨history, hmem, v, hv, fs, hfs, hm⟩ := (mem_historyFacts h).mp hm
  obtain ⟨hsource, -⟩ := versionToFacts_spec hfs hm
  exact ⟨history, hmem, v, hv, fs, hfs, hm, sourceOf_eq_iff.mp ⟨hsource.symm, hk⟩⟩

/-! ## 3. What is reported -/

variable {s a : Text}

/-- The options of `auditVersionHistory`. -/
abbrev distinctSources : AuditOptions := ⟨none, true⟩

theorem mem_carriersOf {c : Carrier} : c ∈ carriersOf facts s a ↔
    c.m ∈ factsOf facts s ∧ (a, c.value) ∈ attributesOf c.m := by
  rw [carriersOf, mem_under, byAttr, List.mem_flatMap]
  constructor
  · rintro ⟨m, hm, hf⟩
    obtain ⟨f, hf', heq⟩ := List.mem_map.mp hf
    obtain ⟨rfl, rfl⟩ := Prod.mk.inj heq
    exact ⟨hm, hf'⟩
  · rintro ⟨hm, hf⟩
    exact ⟨c.m, hm, List.mem_map.mpr ⟨(a, c.value), hf, rfl⟩⟩

theorem mem_of_mem_factsOf (h : m ∈ factsOf facts s) : m ∈ facts := by
  obtain ⟨m', hm', heq⟩ := List.mem_filterMap.mp (mem_under.mp h)
  obtain ⟨t, -, heq⟩ := Option.map_eq_some_iff.mp heq
  obtain ⟨-, rfl⟩ := Prod.mk.inj heq
  exact hm'

theorem plain_of_carrier (h : historyFacts L histories = .ok facts) {c : Carrier}
    (hc : c ∈ carriersOf facts s a) : Plain c.value := by
  obtain ⟨hm, hf⟩ := mem_carriersOf.mp hc
  obtain ⟨history, -, v, -, fs, hfs, hm⟩ := (mem_historyFacts h).mp (mem_of_mem_factsOf hm)
  obtain ⟨-, f, hattributes, hplain⟩ := versionToFacts_spec hfs hm
  rw [hattributes] at hf
  obtain rfl := List.mem_singleton.mp hf
  exact hplain

theorem Plain.agree_iff {tol : Number} {v w : Value} (hv : Plain v) (hw : Plain w) :
    valuesAgree tol v w = true ↔ v = w := by
  have hprinted : stringify v = stringify w ↔ v = w := by
    constructor
    · intro heq
      cases v with
      | str t =>
        cases w with
        | str t' => exact printed_eq_of_stringify (v := .str t) (w := .str t') trivial trivial heq
        | bool b => exact printed_eq_of_stringify (v := .str t) (w := .bool b) trivial trivial heq
        | _ => cases hw
      | bool b =>
        cases w with
        | str t => exact printed_eq_of_stringify (v := .bool b) (w := .str t) trivial trivial heq
        | bool b' => exact printed_eq_of_stringify (v := .bool b) (w := .bool b') trivial trivial heq
        | _ => cases hw
      | _ => cases hv
    · rintro rfl
      rfl
  cases v with
  | str t =>
    cases w with
    | num x => cases hw
    | _ => exact decide_eq_true_iff.trans hprinted
  | bool b =>
    cases w with
    | num x => cases hw
    | _ => exact decide_eq_true_iff.trans hprinted
  | _ => cases hv

theorem exact_of_history (h : historyFacts L histories = .ok facts) (s a : Text) :
    Exact distinctSources (carriersOf facts s a) :=
  List.pairwise_of_forall_mem_list fun _ hc _ hd hagree =>
    ((plain_of_carrier h hc).agree_iff (plain_of_carrier h hd)).mp hagree

theorem Unanimous.agree_of_ne {opts : AuditOptions} {cs : List Carrier} (h : Unanimous opts cs)
    {c d : Carrier} (hc : c ∈ cs) (hd : d ∈ cs) (hne : c ≠ d) : agree opts c d = true := by
  have : Std.Symm fun c d => agree opts c d = true := ⟨fun c d hcd => by rwa [agree_comm]⟩
  exact List.Pairwise.forall h hc hd hne

theorem two_le_length {α : Type} {l : List α} {x y : α} (hx : x ∈ l) (hy : y ∈ l) (hne : x ≠ y) :
    2 ≤ l.length := by
  cases l with
  | nil => cases hx
  | cons z l =>
    cases l with
    | nil => exact absurd ((List.mem_singleton.mp hx).trans (List.mem_singleton.mp hy).symm) hne
    | cons w l => simp

theorem compared_iff : Compared distinctSources facts s a ↔
    ∃ c ∈ carriersOf facts s a, ∃ d ∈ carriersOf facts s a, c.m.source ≠ d.m.source := by
  constructor
  · rintro ⟨-, -, hsources⟩
    have hlen := hsources rfl
    have hnodup : (sourcesOf (carriersOf facts s a)).Nodup := List.nodup_dedup _
    have hmem : ∀ t ∈ sourcesOf (carriersOf facts s a), ∃ c ∈ carriersOf facts s a, c.m.source = t := by
      intro t ht
      exact List.mem_map.mp (List.mem_dedup.mp ht)
    match hl : sourcesOf (carriersOf facts s a) with
    | [] =>
      rw [hl] at hlen
      cases hlen
    | [t] =>
      rw [hl, List.length_singleton] at hlen
      omega
    | t :: t' :: ts =>
      rw [hl] at hmem hnodup
      obtain ⟨c, hc, rfl⟩ := hmem t List.mem_cons_self
      obtain ⟨d, hd, rfl⟩ := hmem t' (List.mem_cons_of_mem _ List.mem_cons_self)
      refine ⟨c, hc, d, hd, fun heq => ?_⟩
      exact (List.nodup_cons.mp hnodup).1 (heq ▸ List.mem_cons_self)
  · rintro ⟨c, hc, d, hd, hne⟩
    have hm : c.m ≠ d.m := fun heq => hne (congrArg AuditFact.source heq)
    refine ⟨two_le_length (mem_carriersOf.mp hc).1 (mem_carriersOf.mp hd).1 hm,
      two_le_length hc hd fun heq => hm (congrArg Carrier.m heq), fun _ => ?_⟩
    have hmem : ∀ e ∈ carriersOf facts s a, e.m.source ∈ sourcesOf (carriersOf facts s a) :=
      fun e he => List.mem_dedup.mpr (List.mem_map.mpr ⟨e, he, rfl⟩)
    exact two_le_length (hmem c hc) (hmem d hd) hne

/-- Texts and truth values stand on two sides if two of them differ. -/
theorem sides_iff_of_plain {opts : AuditOptions} {cs : List Carrier} (hplain : ∀ c ∈ cs, Plain c.value) :
    2 ≤ (cluster (agree opts) cs).length ↔ ∃ c ∈ cs, ∃ d ∈ cs, c.value ≠ d.value := by
  constructor
  · intro hlen
    by_contra hnone
    push Not at hnone
    refine absurd hlen (not_le.mpr (Unanimous.length_lt ?_))
    exact List.pairwise_of_forall_mem_list fun c hc d hd =>
      ((hplain c hc).agree_iff (hplain d hd)).mpr (hnone c hc d hd)
  · rintro ⟨c, hc, d, hd, hne⟩
    by_contra hlt
    have hexact : Exact opts cs := List.pairwise_of_forall_mem_list fun _ hc _ hd hagree =>
      ((hplain _ hc).agree_iff (hplain _ hd)).mp hagree
    have hagree : agree opts c d = true :=
      (hexact.unanimous (not_le.mp hlt)).agree_of_ne hc hd fun heq => hne (congrArg Carrier.value heq)
    exact hne (((hplain c hc).agree_iff (hplain d hd)).mp hagree)

theorem sides_iff (h : historyFacts L histories = .ok facts) :
    2 ≤ (cluster (agree distinctSources) (carriersOf facts s a)).length ↔
      ∃ c ∈ carriersOf facts s a, ∃ d ∈ carriersOf facts s a, c.value ≠ d.value :=
  sides_iff_of_plain fun _ hc => plain_of_carrier h hc

/-- A contradiction is one of two sources. -/
theorem reported_iff (h : historyFacts L histories = .ok facts) {c : Contradiction} :
    c ∈ (auditConsistency distinctSources facts).contradictions ↔
      (∃ x ∈ carriersOf facts c.subject c.attr, ∃ y ∈ carriersOf facts c.subject c.attr,
        x.m.source ≠ y.m.source) ∧
      (∃ x ∈ carriersOf facts c.subject c.attr, ∃ y ∈ carriersOf facts c.subject c.attr,
        x.value ≠ y.value) ∧
      c.sides = cluster (agree distinctSources) (carriersOf facts c.subject c.attr) := by
  have hsort : c ∈ (auditConsistency distinctSources facts).contradictions
      ↔ c ∈ found distinctSources facts := (List.perm_insertionSort _ _).mem_iff
  rw [hsort, mem_found, compared_iff, sides_iff h]

/-! ## 4. Two resolved sources -/

/-- Two versions of different resolved sources give different values. -/
def CrossSource (L : Language) (histories : List AspectVersionHistory) (c : Contradiction) : Prop :=
  ∃ d ∈ c.sides, ∃ d' ∈ c.sides, ∃ x ∈ d.2, ∃ y ∈ d'.2, x.value ≠ y.value ∧
    ∃ source source', Resolved L histories x.m source ∧ Resolved L histories y.m source' ∧
      source ≠ source'

/-- No side stands on versions of unknown sources alone. -/
def Backed (L : Language) (histories : List AspectVersionHistory) (c : Contradiction) : Prop :=
  ∀ d ∈ c.sides, ∃ x ∈ d.2, ∃ source, Resolved L histories x.m source

/-- Where versions of unknown sources and of known ones give an attribute values, the unknown ones
give no value that no known one gives, and the known ones agree or have two sources. -/
def Traced (facts : List AuditFact) (s a : Text) : Prop :=
  (∀ c ∈ carriersOf facts s a, Known c.m) ∨ (∀ c ∈ carriersOf facts s a, ¬ Known c.m) ∨
    (∀ c ∈ carriersOf facts s a, ∃ k ∈ carriersOf facts s a, Known k.m ∧ k.value = c.value) ∧
    ((∀ k ∈ carriersOf facts s a, ∀ k' ∈ carriersOf facts s a, Known k.m → Known k'.m →
        k.value = k'.value) ∨
      ∃ k ∈ carriersOf facts s a, ∃ k' ∈ carriersOf facts s a, Known k.m ∧ Known k'.m ∧
        k.m.source ≠ k'.m.source)

/-- Of two values and two sources there are two values of different sources. -/
theorem exists_cross {S : Set Carrier} {x y k k' : Carrier} (hx : x ∈ S) (hy : y ∈ S) (hk : k ∈ S)
    (hk' : k' ∈ S) (hvalues : x.value ≠ y.value) (hsources : k.m.source ≠ k'.m.source) :
    ∃ c ∈ S, ∃ d ∈ S, c.value ≠ d.value ∧ c.m.source ≠ d.m.source := by
  by_cases hxy : x.m.source = y.m.source
  · -- One of the two sources is not that of the two values.
    have hother : ∃ z ∈ S, z.m.source ≠ x.m.source := by
      by_cases hkx : k.m.source = x.m.source
      · exact ⟨k', hk', fun heq => hsources (hkx.trans heq.symm)⟩
      · exact ⟨k, hk, hkx⟩
    obtain ⟨z, hz, hne⟩ := hother
    by_cases hzx : z.value = x.value
    · exact ⟨z, hz, y, hy, hzx ▸ hvalues, hxy ▸ hne⟩
    · exact ⟨z, hz, x, hx, hzx, hne⟩
  · exact ⟨x, hx, y, hy, hvalues, hxy⟩

section Sides

variable {c : Contradiction} {x : Carrier} {d : Side}

/-- The side of a carrier: all carriers of its value. -/
def SideOf (facts : List AuditFact) (s a : Text) (x : Carrier) (d : Side) : Prop :=
  ∀ y, y ∈ d.2 ↔ y ∈ carriersOf facts s a ∧ y.value = x.value

theorem sideOf_of_seen (h : historyFacts L histories = .ok facts) (hx : x ∈ carriersOf facts s a)
    (hseen : seen Carrier.value d = (x.value, classOf Carrier.value
      (valuesAgree distinctSources.tolerance) (carriersOf facts s a) x)) : SideOf facts s a x d := by
  intro y
  have hy : y ∈ d.2 ↔ y ∈ classOf Carrier.value (valuesAgree distinctSources.tolerance)
      (carriersOf facts s a) x := by
    rw [← (Prod.mk.inj hseen).2]
    exact Iff.rfl
  rw [hy]
  constructor
  · rintro (rfl | ⟨hy, hvalue, -⟩)
    · exact ⟨hx, rfl⟩
    · exact ⟨hy, hvalue⟩
  · rintro ⟨hy, hvalue⟩
    exact Or.inr ⟨hy, hvalue, ((plain_of_carrier h hx).agree_iff (plain_of_carrier h hx)).mpr rfl⟩

/-- A carrier stands on a side, and a side is that of a carrier. -/
theorem sides_spec (h : historyFacts L histories = .ok facts)
    (hsides : c.sides = cluster (agree distinctSources) (carriersOf facts s a)) :
    (∀ x ∈ carriersOf facts s a, ∃ d ∈ c.sides, SideOf facts s a x d) ∧
      ∀ d ∈ c.sides, ∃ x ∈ carriersOf facts s a, SideOf facts s a x d := by
  have hexact := exact_of_history h s a
  constructor
  · intro x hx
    obtain ⟨d, hd, hseen⟩ := hexact.mem_sides.mpr ⟨x, hx, rfl⟩
    exact ⟨d, hsides ▸ hd, sideOf_of_seen h hx hseen⟩
  · intro d hd
    obtain ⟨x, hx, hseen⟩ := hexact.mem_sides.mp ⟨d, hsides ▸ hd, rfl⟩
    exact ⟨x, hx, sideOf_of_seen h hx hseen⟩

theorem mem_of_carrier {x : Carrier} (hx : x ∈ carriersOf facts s a) : x.m ∈ facts :=
  mem_of_mem_factsOf (mem_carriersOf.mp hx).1

theorem crossSource_iff (h : historyFacts L histories = .ok facts)
    (hsides : c.sides = cluster (agree distinctSources) (carriersOf facts s a)) :
    CrossSource L histories c ↔ ∃ x ∈ carriersOf facts s a, ∃ y ∈ carriersOf facts s a,
      Known x.m ∧ Known y.m ∧ x.value ≠ y.value ∧ x.m.source ≠ y.m.source := by
  obtain ⟨hof, hback⟩ := sides_spec h hsides
  constructor
  · rintro ⟨d, hd, d', hd', x, hx, y, hy, hne, source, source', hrx, hry, hsource⟩
    obtain ⟨z, -, hz⟩ := hback d hd
    obtain ⟨z', -, hz'⟩ := hback d' hd'
    obtain ⟨rfl, hkx⟩ := hrx.source_eq
    obtain ⟨rfl, hky⟩ := hry.source_eq
    exact ⟨x, ((hz x).mp hx).1, y, ((hz' y).mp hy).1, hkx, hky, hne, hsource⟩
  · rintro ⟨x, hx, y, hy, hkx, hky, hne, hsource⟩
    obtain ⟨d, hd, hside⟩ := hof x hx
    obtain ⟨d', hd', hside'⟩ := hof y hy
    exact ⟨d, hd, d', hd', x, (hside x).mpr ⟨hx, rfl⟩, y, (hside' y).mpr ⟨hy, rfl⟩, hne, _, _,
      resolved_of_known h (mem_of_carrier hx) hkx, resolved_of_known h (mem_of_carrier hy) hky,
      hsource⟩

theorem backed_iff (h : historyFacts L histories = .ok facts)
    (hsides : c.sides = cluster (agree distinctSources) (carriersOf facts s a)) :
    Backed L histories c ↔ ∀ x ∈ carriersOf facts s a,
      ∃ k ∈ carriersOf facts s a, Known k.m ∧ k.value = x.value := by
  obtain ⟨hof, hback⟩ := sides_spec h hsides
  constructor
  · intro hbacked x hx
    obtain ⟨d, hd, hside⟩ := hof x hx
    obtain ⟨k, hk, source, hresolved⟩ := hbacked d hd
    obtain ⟨hmem, hvalue⟩ := (hside k).mp hk
    exact ⟨k, hmem, hresolved.source_eq.2, hvalue⟩
  · intro hknown d hd
    obtain ⟨x, hx, hside⟩ := hback d hd
    obtain ⟨k, hk, hkk, hvalue⟩ := hknown x hx
    exact ⟨k, (hside k).mpr ⟨hk, hvalue⟩, _, resolved_of_known h (mem_of_carrier hk) hkk⟩

end Sides

/-- **All that is reported rests on two resolved sources just where the versions of unknown sources
give no value of their own, and the known ones agree or have two sources.** -/
theorem resolved_iff (h : historyFacts L histories = .ok facts) :
    (∀ report, auditVersionHistory L histories = .ok report → ∀ c ∈ report.contradictions,
      CrossSource L histories c ∧ Backed L histories c) ↔ ∀ s a, Traced facts s a := by
  have haudit : auditVersionHistory L histories = .ok (auditConsistency distinctSources facts) := by
    rw [auditVersionHistory, h]
    rfl
  constructor
  · intro hall s a
    by_cases hknown : ∀ c ∈ carriersOf facts s a, Known c.m
    · exact Or.inl hknown
    by_cases hunknown : ∀ c ∈ carriersOf facts s a, ¬ Known c.m
    · exact Or.inr (Or.inl hunknown)
    push Not at hknown hunknown
    obtain ⟨u, hu, hun⟩ := hknown
    obtain ⟨k, hk, hkn⟩ := hunknown
    have hsources : k.m.source ≠ u.m.source := fun heq => hkn (heq.trans (not_not.mp hun))
    refine Or.inr (Or.inr ?_)
    by_cases hvalues : ∃ x ∈ carriersOf facts s a, ∃ y ∈ carriersOf facts s a, x.value ≠ y.value
    · obtain ⟨hcross, hbacked⟩ := hall _ haudit
        ⟨s, a, cluster (agree distinctSources) (carriersOf facts s a)⟩
        ((reported_iff h).mpr ⟨⟨k, hk, u, hu, hsources⟩, hvalues, rfl⟩)
      obtain ⟨x, hx, y, hy, hkx, hky, -, hne⟩ := (crossSource_iff h rfl).mp hcross
      exact ⟨(backed_iff h rfl).mp hbacked, Or.inr ⟨x, hx, y, hy, hkx, hky, hne⟩⟩
    · push Not at hvalues
      exact ⟨fun c hc => ⟨k, hk, hkn, hvalues k hk c hc⟩,
        Or.inl fun x hx y hy _ _ => hvalues x hx y hy⟩
  · intro htraced report hreport c hc
    obtain rfl := Except.ok.inj (haudit.symm.trans hreport)
    obtain ⟨⟨p, hp, q, hq, hsources⟩, ⟨x, hx, y, hy, hvalues⟩, hsides⟩ := (reported_iff h).mp hc
    rw [crossSource_iff h hsides, backed_iff h hsides]
    rcases htraced c.subject c.attr with hknown | hunknown | ⟨hgiven, hknown⟩
    · obtain ⟨z, hz, w, hw, hne, hne'⟩ := exists_cross (S := {c' | c' ∈ carriersOf facts c.subject c.attr})
        hx hy hp hq hvalues hsources
      exact ⟨⟨z, hz, w, hw, hknown z hz, hknown w hw, hne, hne'⟩,
        fun z hz => ⟨z, hz, hknown z hz, rfl⟩⟩
    · exact absurd ((not_not.mp (hunknown p hp)).trans (not_not.mp (hunknown q hq)).symm) hsources
    · refine ⟨?_, hgiven⟩
      obtain ⟨x', hx', hkx, heq⟩ := hgiven x hx
      obtain ⟨y', hy', hky, heq'⟩ := hgiven y hy
      have hvalues' : x'.value ≠ y'.value := by rwa [heq, heq']
      rcases hknown with hagree | ⟨k, hk, k', hk', hkk, hkk', hne⟩
      · exact absurd (hagree x' hx' y' hy' hkx hky) hvalues'
      · obtain ⟨z, ⟨hz, hkz⟩, w, ⟨hw, hkw⟩, hne, hne'⟩ :=
          exists_cross (S := {c' | c' ∈ carriersOf facts c.subject c.attr ∧ Known c'.m})
            ⟨hx', hkx⟩ ⟨hy', hky⟩ ⟨hk, hkk⟩ ⟨hk', hkk'⟩ hvalues' hne
        exact ⟨z, hz, w, hw, hkz, hkw, hne, hne'⟩

end Facts

/-! ## 5. A version without a source -/

/-- The language, with the lower case of ASCII. -/
def Language.node : Language := ⟨.node, fun t => t.map lowerUnit, fun _ _ => rfl⟩

/-- A version of an ownership. -/
def ownedBy (owner runId : String) (pipelineName : Value) : DhVersionedAspect where
  value := object [("owners", .arr [object [("owner", lit owner)]])]
  systemMetadata := object [("runId", lit runId), ("pipelineName", pipelineName)]

/-- One version has a pipeline, the other one has none. -/
def unattributed : AspectVersionHistory where
  urn := js "urn:li:dataset:orders"
  aspect := .ownership
  versions := [ownedBy "urn:li:corpGroup:a" "run-1" (lit "snowflake"),
    ownedBy "urn:li:corpGroup:b" "run-2" .undefined]
  sourceIdentityByRunId := .undefined

/-- The facts of the two versions. -/
def unattributedFacts : List AuditFact :=
  match historyFacts .node [unattributed] with
  | .ok facts => facts
  | .error _ => []

/-- The values they give the owner. -/
def unattributedOwners : List Carrier :=
  carriersOf unattributedFacts (js "urn:li:dataset:orders") (js "owner")

theorem historyFacts_unattributed : historyFacts .node [unattributed] = .ok unattributedFacts := rfl

theorem resolved_unattributed : (∀ report, auditVersionHistory .node [unattributed] = .ok report →
      ∀ c ∈ report.contradictions, CrossSource .node [unattributed] c ∧ Backed .node [unattributed] c)
    ↔ ∀ s a, Traced unattributedFacts s a :=
  resolved_iff historyFacts_unattributed

/-- What a version without a source says against another one is reported. -/
theorem unknown_reported : ∃ report, auditVersionHistory .node [unattributed] = .ok report ∧
    ∃ c ∈ report.contradictions,
      ¬ CrossSource .node [unattributed] c ∧ ¬ Backed .node [unattributed] c := by
  have h := historyFacts_unattributed
  have hsources : ∃ x ∈ unattributedOwners, ∃ y ∈ unattributedOwners, x.m.source ≠ y.m.source := by
    decide +kernel
  have hdiffer : ∃ x ∈ unattributedOwners, ∃ y ∈ unattributedOwners,
      asStr x.value ≠ asStr y.value := by decide +kernel
  have hknown : ∀ x ∈ unattributedOwners, Known x.m → x.m.source = js "snowflake" := by
    decide +kernel
  have halone : ∃ x ∈ unattributedOwners, ∀ k ∈ unattributedOwners, Known k.m →
      asStr k.value ≠ asStr x.value := by decide +kernel
  obtain ⟨x, hx, y, hy, hne⟩ := hdiffer
  obtain ⟨z, hz, hunbacked⟩ := halone
  refine ⟨auditConsistency distinctSources unattributedFacts, rfl, ⟨js "urn:li:dataset:orders",
    js "owner", cluster (agree distinctSources) unattributedOwners⟩, (reported_iff h).mpr ⟨hsources,
      ⟨x, hx, y, hy, fun heq => hne (congrArg asStr heq)⟩, rfl⟩, ?_, ?_⟩
  · rw [crossSource_iff h rfl]
    rintro ⟨p, hp, q, hq, hkp, hkq, -, hsource⟩
    exact hsource ((hknown p hp hkp).trans (hknown q hq hkq).symm)
  · rw [backed_iff h rfl]
    intro hbacked
    obtain ⟨k, hk, hkk, hvalue⟩ := hbacked z hz
    exact hunbacked k hk hkk (congrArg asStr hvalue)

end Audit
