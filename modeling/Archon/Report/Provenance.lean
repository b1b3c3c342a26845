/-
# Three predicates for the provenance of a model

The pipeline, the control Lambda and the browser each check the provenance of the narration model
with a predicate of its own.  The three are written differently: the pipeline counts the keys of an
object and the Lambda looks each one up, the pipeline parses and throws where the others test, and
the sum of the token counts is one of doubles.  A report that one of them accepts and another
refuses could be written and then not be read.

`predicates_agree` is that they answer alike on every JSON value, and `created_accepted` that all
three accept whatever `createModelRuntimeProvenance` returns.  The patterns of the identifiers are
the same expressions in the three files, and stand in `Worker/Report.lean`.
-/
import Archon.Worker.Report
import Archon.Cloud.Agreement
import Archon.Ecma.Length

namespace Report

open Ecma Ecma.Value Worker

/-! ## 1. The pipeline -/

/-- `safeModelId`, which throws or returns its argument. -/
def safeModelId (v : Value) : Option Value := if isSafeModelId v then some v else none

/-- `safeResponseId`. -/
def safeResponseId (v : Value) : Option Value := if isSafeResponseId v then some v else none

/-- `inputTokens + outputTokens`, of two counts: the double closest to the sum. -/
def sumOf (input output : Nat) : Value := .num (.ofNat (input + output))

/-- `normalizeProviderUsage`. -/
def normalizeProviderUsage (v : Value) : Option Value :=
  if v.isNullish then some .null
  else if !Worker.isRecord v then none
  else
    let inputTokens := v.getPath ["prompt_tokens"]
    let outputTokens := v.getPath ["completion_tokens"]
    let totalTokens := v.getPath ["total_tokens"]
    match safeCount inputTokens, safeCount outputTokens, safeCount totalTokens with
    | some input, some output, some _ =>
      if totalTokens.strictEq (sumOf input output) then
        some (object [("inputTokens", inputTokens), ("outputTokens", outputTokens),
          ("totalTokens", totalTokens)])
      else none
    | _, _, _ => none

/-- `safeLatency`. -/
def safeLatency (v : Value) : Option Value := if isLatency v then some v else none

/-- `createModelRuntimeProvenance`, if it does not throw. -/
def createModelRuntimeProvenance (runtime requestedModel response latencyMs : Value) :
    Option Value :=
  (safeModelId requestedModel).bind fun safeRequestedModel =>
    if (runtime.getPath ["source"]).isText (js "deterministic-fixture") then
      some (object
        [("schemaVersion", lit "archon.model-runtime-provenance/v1"),
         ("source", lit "deterministic-fixture"),
         ("modelCall", .bool false),
         ("provider", lit "fixture"),
         ("requestedModel", safeRequestedModel),
         ("returnedModel", .null),
         ("providerResponseId", .null),
         ("tokenUsage", .null),
         ("latencyMs", .null)])
    else if !isOneOf (runtime.getPath ["provider"]) LIVE_PROVIDERS || latencyMs.strictEq .null then
      none
    else
      (safeModelId (response.getPath ["model"])).bind fun returnedModel =>
      (safeResponseId (response.getPath ["id"])).bind fun providerResponseId =>
      (normalizeProviderUsage (response.getPath ["usage"])).bind fun tokenUsage =>
      (safeLatency latencyMs).map fun latencyMs => object
        [("schemaVersion", lit "archon.model-runtime-provenance/v1"),
         ("source", lit "live-provider"),
         ("modelCall", .bool true),
         ("provider", runtime.getPath ["provider"]),
         ("requestedModel", safeRequestedModel),
         ("returnedModel", returnedModel),
         ("providerResponseId", providerResponseId),
         ("tokenUsage", tokenUsage),
         ("latencyMs", latencyMs)]

/-! ## 2. The control Lambda -/

namespace Lambda

/-- `exactKeys(value, required)`: the required keys are there, and no others. -/
def exactKeys (v : Value) (required : List String) : Bool :=
  Worker.isRecord v && (required.all fun key => (ownKeys v).contains (js key)) &&
    (ownKeys v).all fun key => (required.map js).contains key

/-- `Number.isSafeInteger(value)`. -/
def isSafeInteger : Value → Bool
  | .num x => Control.isSafeInteger x
  | _ => false

/-- `value >= n`, of a number. -/
def atLeast : Value → Nat → Bool
  | .num x, n => x.atLeast n
  | _, _ => false

/-- `value <= n`, of a number that is not NaN. -/
def atMost : Value → Nat → Bool
  | .num x, n => !x.exceeds n
  | _, _ => false

def safeReportCount (v : Value) : Bool := isSafeInteger v && atLeast v 0

def validModelId : Value → Bool
  | .str t => isModelId t && !occursIn (js "://") t && !isCredentialShaped t
  | _ => false

/-- Of an object whose counts are checked, the comparison of the total with the sum. -/
def totalIsSum (v : Value) : Bool :=
  match safeCount (v.getPath ["inputTokens"]), safeCount (v.getPath ["outputTokens"]) with
  | some input, some output => (v.getPath ["totalTokens"]).strictEq (sumOf input output)
  | _, _ => false

def validTokenUsage (v : Value) : Bool :=
  exactKeys v ["inputTokens", "outputTokens", "totalTokens"] &&
    safeReportCount (v.getPath ["inputTokens"]) && safeReportCount (v.getPath ["outputTokens"]) &&
    safeReportCount (v.getPath ["totalTokens"]) && totalIsSum v

def validResponseId : Value → Bool
  | .str t => isResponseId t && !isCredentialShaped t
  | _ => false

def validModelProvenance (v : Value) : Bool :=
  if !exactKeys v ["schemaVersion", "source", "modelCall", "provider", "requestedModel",
        "returnedModel", "providerResponseId", "tokenUsage", "latencyMs"] ||
      !(v.getPath ["schemaVersion"]).isText (js "archon.model-runtime-provenance/v1") ||
      !validModelId (v.getPath ["requestedModel"]) then false
  else if (v.getPath ["source"]).isText (js "deterministic-fixture") then
    (v.getPath ["modelCall"]).strictEq (.bool false) &&
      (v.getPath ["provider"]).isText (js "fixture") &&
      (v.getPath ["returnedModel"]).strictEq .null &&
      (v.getPath ["providerResponseId"]).strictEq .null &&
      (v.getPath ["tokenUsage"]).strictEq .null && (v.getPath ["latencyMs"]).strictEq .null
  else
    (v.getPath ["source"]).isText (js "live-provider") &&
      (v.getPath ["modelCall"]).strictEq (.bool true) &&
      (["bedrock-mantle", "custom", "qwen", "gemini", "openai", "anthropic"].any fun name =>
        (lit name).sameValueZero (v.getPath ["provider"])) &&
      validModelId (v.getPath ["returnedModel"]) &&
      validResponseId (v.getPath ["providerResponseId"]) &&
      ((v.getPath ["tokenUsage"]).strictEq .null || validTokenUsage (v.getPath ["tokenUsage"])) &&
      isSafeInteger (v.getPath ["latencyMs"]) && atLeast (v.getPath ["latencyMs"]) 0 &&
      atMost (v.getPath ["latencyMs"]) 3600000

end Lambda

/-! ## 3. The browser -/

namespace Browser

/-- `isRecord`: `Boolean(value)` comes first. -/
def isRecord (v : Value) : Bool := v.truthy && Worker.isRecord v

def isCount (v : Value) : Bool := Lambda.isSafeInteger v && Lambda.atLeast v 0

def isSafeModelId : Value → Bool
  | .str t => isModelId t && !occursIn (js "://") t && !isCredentialShaped t
  | _ => false

def isSafeResponseId : Value → Bool
  | .str t => isResponseId t && !isCredentialShaped t
  | _ => false

def isModelTokenUsage (v : Value) : Bool :=
  isRecord v && hasExactKeys v ["inputTokens", "outputTokens", "totalTokens"] &&
    isCount (v.getPath ["inputTokens"]) && isCount (v.getPath ["outputTokens"]) &&
    isCount (v.getPath ["totalTokens"]) && Lambda.totalIsSum v

/-- `LIVE_MODEL_PROVIDERS`. -/
def LIVE_MODEL_PROVIDERS : List String :=
  ["bedrock-mantle", "custom", "qwen", "gemini", "openai", "anthropic"]

def isPublicModelProvenance (v : Value) : Bool :=
  if !isRecord v || !hasExactKeys v ["schemaVersion", "source", "modelCall", "provider",
        "requestedModel", "returnedModel", "providerResponseId", "tokenUsage", "latencyMs"] ||
      !(v.getPath ["schemaVersion"]).isText (js "archon.model-runtime-provenance/v1") ||
      !isSafeModelId (v.getPath ["requestedModel"]) then false
  else if (v.getPath ["source"]).isText (js "deterministic-fixture") then
    (v.getPath ["modelCall"]).strictEq (.bool false) &&
      (v.getPath ["provider"]).isText (js "fixture") &&
      (v.getPath ["returnedModel"]).strictEq .null &&
      (v.getPath ["providerResponseId"]).strictEq .null &&
      (v.getPath ["tokenUsage"]).strictEq .null && (v.getPath ["latencyMs"]).strictEq .null
  else
    (v.getPath ["source"]).isText (js "live-provider") &&
      (v.getPath ["modelCall"]).strictEq (.bool true) && (v.getPath ["provider"]).isStr &&
      (LIVE_MODEL_PROVIDERS.any fun name => (lit name).sameValueZero (v.getPath ["provider"])) &&
      isSafeModelId (v.getPath ["returnedModel"]) &&
      isSafeResponseId (v.getPath ["providerResponseId"]) &&
      ((v.getPath ["tokenUsage"]).strictEq .null ||
        isModelTokenUsage (v.getPath ["tokenUsage"])) &&
      isCount (v.getPath ["latencyMs"]) &&
      Lambda.atMost (v.getPath ["latencyMs"]) 3600000

end Browser

/-! ## 4. Counts -/

theorem isSafeInteger_finite (x : Binary64) : Control.isSafeInteger (.finite x) = true ↔
    x.man * 2 ^ x.exp.toNat % 2 ^ (-x.exp).toNat = 0 ∧
      x.man * 2 ^ x.exp.toNat / 2 ^ (-x.exp).toNat < 2 ^ 53 := by
  simp only [Control.isSafeInteger, Bool.and_eq_true, decide_eq_true_eq]

/-- A finite double is a count when it is a safe integer that has no sign, or is a zero. -/
theorem safeCount_finite (x : Binary64) : safeCount (.num (.finite x))
    = if Control.isSafeInteger (.finite x) = true ∧ (x.neg = false ∨ x.man = 0) then
        some (x.man * 2 ^ x.exp.toNat / 2 ^ (-x.exp).toNat) else none := by
  simp only [safeCount, isSafeInteger_finite, and_assoc]

/-- The double of a count. -/
theorem count_of_safeCount {v : Value} {n : Nat} (h : safeCount v = some n) :
    ∃ x, v = .num (.finite x) ∧ x.magnitude = n ∧ n < 2 ^ 53 ∧ (x.neg = false ∨ x.man = 0) := by
  cases v with
  | num x =>
    cases x with
    | finite x =>
      rw [safeCount_finite] at h
      split at h
      case isTrue hx =>
        obtain ⟨hmag, hlt⟩ := Cloud.magnitude_eq hx.1
        cases h
        exact ⟨x, rfl, hmag, hlt, hx.2⟩
      case isFalse => cases h
    | _ => cases h
  | _ => cases h

/-- A count compares as the number it is. -/
theorem count_compare {x : Binary64} {n : Nat} (hmag : x.magnitude = n)
    (hneg : x.neg = false ∨ x.man = 0) :
    (if x.neg then -x.magnitude else x.magnitude) = (n : ℚ) := by
  rcases hneg with hneg | hman
  · simp [hneg, hmag]
  · have hzero : x.magnitude = 0 := by simp [Binary64.magnitude, hman]
    rw [hzero] at hmag ⊢
    simp [← hmag]

/-- `x >= 0` rules a sign out, but for the negative zero. -/
theorem atLeast_zero (x : Binary64) :
    Lambda.atLeast (.num (.finite x)) 0 = true ↔ x.neg = false ∨ x.man = 0 := by
  have hpos : 0 ≤ x.magnitude := by
    rw [Binary64.magnitude]
    positivity
  simp only [Lambda.atLeast, Number.atLeast, decide_eq_true_eq, Nat.cast_zero]
  cases hneg : x.neg with
  | false => simpa using hpos
  | true =>
    simp only [if_true, Bool.true_eq_false, false_or]
    constructor
    · intro hle
      have hzero : x.magnitude = 0 := by linarith
      rw [Binary64.magnitude, mul_eq_zero] at hzero
      rcases hzero with hzero | hzero
      · exact_mod_cast hzero
      · exact absurd hzero (by positivity)
    · intro hman
      simp [Binary64.magnitude, hman]

/-- **A safe integer that is not negative is a count**, and nothing else is. -/
theorem safeReportCount_eq (v : Value) : Lambda.safeReportCount v = (safeCount v).isSome := by
  cases v with
  | num x =>
    cases x with
    | finite x =>
      rw [safeCount_finite, Bool.eq_iff_iff, Lambda.safeReportCount, Bool.and_eq_true, atLeast_zero]
      by_cases h : Control.isSafeInteger (.finite x) = true ∧ (x.neg = false ∨ x.man = 0)
      · simp [h, Lambda.isSafeInteger]
      · rw [if_neg h]
        simpa [Lambda.isSafeInteger] using h
    | _ => rfl
  | _ => rfl

/-- A latency, tested in three steps or in one. -/
theorem isLatency_eq (v : Value) :
    (Lambda.safeReportCount v && Lambda.atMost v 3600000) = isLatency v := by
  rw [safeReportCount_eq, isLatency]
  cases hcount : safeCount v with
  | none => rfl
  | some n =>
    obtain ⟨x, rfl, hmag, -, hneg⟩ := count_of_safeCount hcount
    have hle : (3600000 : ℚ) < n ↔ 3600000 < n := by exact_mod_cast Iff.rfl
    simp only [Option.isSome_some, Bool.true_and, Lambda.atMost, Number.exceeds,
      count_compare hmag hneg, Option.map_some, Option.getD_some]
    by_cases h : n ≤ 3600000
    · have h' : ¬ 3600000 < n := by omega
      simp [h, hle, h']
    · have h' : 3600000 < n := by omega
      simp [h, hle, h']

/-- Two doubles that are counts are the same number when they are the same count. -/
theorem strictEq_of_counts {x y : Binary64} {m n : Nat} (hx : x.magnitude = m)
    (hy : y.magnitude = n) (hxneg : x.neg = false ∨ x.man = 0) (hyneg : y.neg = false) :
    (Number.finite x).strictEq (.finite y) = decide (m = n) := by
  rw [Bool.eq_iff_iff, decide_eq_true_eq]
  have hzero : ∀ z : Binary64, z.magnitude = 0 ↔ z.man = 0 := by
    intro z
    rw [Binary64.magnitude, mul_eq_zero]
    constructor
    · rintro (hz | hz)
      · exact_mod_cast hz
      · exact absurd hz (by positivity)
    · intro hz
      left
      exact_mod_cast hz
  simp only [Number.strictEq, Number.isZero, Bool.or_eq_true, Bool.and_eq_true, beq_iff_eq,
    decide_eq_true_eq, Number.finite.injEq]
  constructor
  · rintro (⟨hxman, hyman⟩ | rfl)
    · rw [(hzero x).mpr hxman] at hx
      rw [(hzero y).mpr hyman] at hy
      have h : (m : ℚ) = n := hx.symm.trans hy
      exact_mod_cast h
    · have h : (m : ℚ) = n := hx.symm.trans hy
      exact_mod_cast h
  · rintro rfl
    by_cases hm : x.man = 0
    · left
      refine ⟨hm, (hzero y).mp ?_⟩
      rw [hy, ← hx]
      exact (hzero x).mpr hm
    · right
      have hxneg' : x.neg = false := hxneg.resolve_right hm
      have h := Binary64.ofMagnitude_magnitude x
      rw [hxneg', hx, ← hy, ← hyneg, Binary64.ofMagnitude_magnitude y] at h
      exact (Number.finite.inj h).symm

/-- **The sum of the doubles is the sum of the counts**: it is exact, or it is no safe integer. -/
theorem strictEq_sumOf {v : Value} {total : Nat} (htotal : safeCount v = some total)
    (input output : Nat) : v.strictEq (sumOf input output) = decide (total = input + output) := by
  obtain ⟨x, rfl, hmag, hlt, hneg⟩ := count_of_safeCount htotal
  show (Number.finite x).strictEq (.ofNat (input + output)) = _
  rcases Nat.lt_or_ge (input + output) (2 ^ 53) with h | h
  · obtain ⟨y, hy, hyneg, hymag⟩ := Number.ofNat_eq_exact h
    rw [hy]
    exact strictEq_of_counts hmag hymag hneg hyneg
  · have hne : ¬ total = input + output := by omega
    rcases Number.ofNat_of_ge h with hy | ⟨y, hy, hyneg, hymag⟩
    · simp [hy, Number.strictEq, Number.isZero, hne]
    · rw [hy, decide_eq_false hne]
      have hdiffer : x.magnitude < y.magnitude := by
        rw [hmag]
        refine lt_of_lt_of_le ?_ hymag
        exact_mod_cast hlt
      have hyman : y.man ≠ 0 := by
        intro hyman
        simp only [Binary64.magnitude, hyman, Nat.cast_zero, zero_mul] at hymag
        norm_num at hymag
      have hxy : x ≠ y := by
        rintro rfl
        exact lt_irrefl _ hdiffer
      simp [Number.strictEq, Number.isZero, hyman, hxy]

/-! ## 5. The predicates agree -/

/-- To count distinct keys that are all required is to find each required key. -/
theorem exactKeys_eq {v : Value} (required : List String) (hrequired : (required.map js).Nodup)
    (hkeyed : KeyedNode v) :
    Lambda.exactKeys v required = (Worker.isRecord v && hasExactKeys v required) := by
  cases v with
  | obj fields =>
    have hnodup : (fields.map Prod.fst).Nodup := hkeyed
    rw [Bool.eq_iff_iff]
    simp only [Lambda.exactKeys, hasExactKeys, ownKeys, entries, Worker.isRecord, Bool.true_and,
      Bool.and_eq_true, List.all_eq_true, List.contains_iff_mem]
    constructor
    · rintro ⟨hall, hwithin⟩
      refine ⟨decide_eq_true (Nat.le_antisymm ?_ ?_), hwithin⟩
      · have hle := (hnodup.subperm fun key hkey => hwithin key hkey).length_le
        rwa [List.length_map js] at hle
      · have hsubset : required.map js ⊆ fields.map Prod.fst := by
          intro key hkey
          obtain ⟨name, hname, rfl⟩ := List.mem_map.mp hkey
          exact hall name hname
        have hle := (hrequired.subperm hsubset).length_le
        rwa [List.length_map js] at hle
    · rintro ⟨hlength, hwithin⟩
      refine ⟨?_, hwithin⟩
      intro name hname
      have hsub := hnodup.subperm fun key hkey => hwithin key hkey
      have hlength' : (required.map js).length ≤ (fields.map Prod.fst).length := by
        rw [of_decide_eq_true hlength, List.length_map]
      have hperm := hsub.perm_of_length_le hlength'
      exact hperm.mem_iff.mpr (List.mem_map_of_mem hname)
  | _ => rfl

/-- `includes`, `has` and a comparison with each name. -/
theorem any_sameValueZero (v : Value) (names : List String) :
    (names.any fun name => (lit name).sameValueZero v) = isOneOf v names := by
  have hone : ∀ name : String, (lit name).sameValueZero v = v.isText (js name) := by
    intro name
    cases v <;> simp [lit, Value.sameValueZero, Value.strictEq, Value.isText, eq_comm]
  simp only [isOneOf, hone]

/-- A value that is one of some names is a string. -/
theorem isStr_and_isOneOf (v : Value) (names : List String) (b : Bool) :
    (v.isStr && (isOneOf v names && b)) = (isOneOf v names && b) := by
  cases v with
  | str t => rfl
  | _ => simp [isOneOf, Value.isText, Value.strictEq]

theorem validModelId_eq (v : Value) : Lambda.validModelId v = isSafeModelId v := by
  cases v <;> rfl

theorem validResponseId_eq (v : Value) : Lambda.validResponseId v = isSafeResponseId v := by
  cases v <;> rfl

theorem browser_isSafeModelId_eq (v : Value) : Browser.isSafeModelId v = isSafeModelId v := by
  cases v <;> rfl

theorem browser_isSafeResponseId_eq (v : Value) :
    Browser.isSafeResponseId v = isSafeResponseId v := by
  cases v <;> rfl

theorem browser_isRecord_eq (v : Value) : Browser.isRecord v = Worker.isRecord v := by
  cases v <;> simp [Browser.isRecord, Worker.isRecord, Value.truthy]

theorem isCount_eq (v : Value) : Browser.isCount v = Lambda.safeReportCount v := rfl

/-- The counts of an object with the right keys, tested one by one or all at once. -/
theorem counts_eq (v : Value) :
    (Lambda.safeReportCount (v.getPath ["inputTokens"]) &&
      Lambda.safeReportCount (v.getPath ["outputTokens"]) &&
      Lambda.safeReportCount (v.getPath ["totalTokens"]) && Lambda.totalIsSum v)
    = match safeCount (v.getPath ["inputTokens"]), safeCount (v.getPath ["outputTokens"]),
        safeCount (v.getPath ["totalTokens"]) with
      | some input, some output, some total => decide (total = input + output)
      | _, _, _ => false := by
  simp only [safeReportCount_eq, Lambda.totalIsSum]
  cases hinput : safeCount (v.getPath ["inputTokens"]) with
  | none => rfl
  | some input =>
    cases houtput : safeCount (v.getPath ["outputTokens"]) with
    | none => rfl
    | some output =>
      cases htotal : safeCount (v.getPath ["totalTokens"]) with
      | none => rfl
      | some total => exact strictEq_sumOf htotal input output

/-- The keys of a token usage. -/
def USAGE_KEYS : List String := ["inputTokens", "outputTokens", "totalTokens"]

/-- The keys of a provenance. -/
def PROVENANCE_KEYS : List String :=
  ["schemaVersion", "source", "modelCall", "provider", "requestedModel", "returnedModel",
    "providerResponseId", "tokenUsage", "latencyMs"]

theorem isTokenUsage_eq (v : Value) : isTokenUsage v
    = (v.strictEq .null || (Worker.isRecord v && hasExactKeys v USAGE_KEYS &&
        (Lambda.safeReportCount (v.getPath ["inputTokens"]) &&
          Lambda.safeReportCount (v.getPath ["outputTokens"]) &&
          Lambda.safeReportCount (v.getPath ["totalTokens"]) && Lambda.totalIsSum v))) := by
  rw [counts_eq]
  cases v with
  | obj fields => rfl
  | _ => rfl

theorem validTokenUsage_eq {v : Value} (hkeyed : KeyedNode v) :
    (v.strictEq .null || Lambda.validTokenUsage v) = isTokenUsage v := by
  have hkeys := exactKeys_eq USAGE_KEYS (by decide) hkeyed
  rw [isTokenUsage_eq, Lambda.validTokenUsage, ← USAGE_KEYS, hkeys]
  simp only [Bool.and_assoc]

theorem isModelTokenUsage_eq (v : Value) :
    (v.strictEq .null || Browser.isModelTokenUsage v) = isTokenUsage v := by
  rw [isTokenUsage_eq, Browser.isModelTokenUsage, browser_isRecord_eq, ← USAGE_KEYS]
  simp only [isCount_eq, Bool.and_assoc]

/-- An early `return false` for each of three tests. -/
theorem guard_eq (a b c d : Bool) :
    (if !a || !b || !c then false else d) = (a && b && c && d) := by
  cases a <;> cases b <;> cases c <;> rfl

/-- And for each of four. -/
theorem guard_eq' (a b c d e : Bool) :
    (if !a || !b || !c || !d then false else e) = (a && b && c && d && e) := by
  cases a <;> cases b <;> cases c <;> cases d <;> rfl

/-- **The Lambda answers as the pipeline does.** -/
theorem validModelProvenance_eq {v : Value} (hkeyed : KeyedNode v)
    (husage : KeyedNode (v.getPath ["tokenUsage"])) :
    Lambda.validModelProvenance v = isModelRuntimeProvenance v := by
  have hkeys := exactKeys_eq PROVENANCE_KEYS (by decide) hkeyed
  have hlatency := isLatency_eq (v.getPath ["latencyMs"])
  rw [Lambda.safeReportCount] at hlatency
  rw [Lambda.validModelProvenance, guard_eq, ← PROVENANCE_KEYS, hkeys, isModelRuntimeProvenance,
    ← PROVENANCE_KEYS, any_sameValueZero, validTokenUsage_eq husage, validModelId_eq,
    validModelId_eq, validResponseId_eq, ← hlatency, LIVE_PROVIDERS]
  simp only [Bool.and_assoc]

/-- **The browser answers as the pipeline does.** -/
theorem isPublicModelProvenance_eq (v : Value) :
    Browser.isPublicModelProvenance v = isModelRuntimeProvenance v := by
  have hlatency := isLatency_eq (v.getPath ["latencyMs"])
  have hnames : LIVE_PROVIDERS = Browser.LIVE_MODEL_PROVIDERS := rfl
  rw [Browser.isPublicModelProvenance, guard_eq', ← PROVENANCE_KEYS, isModelRuntimeProvenance,
    ← PROVENANCE_KEYS, any_sameValueZero, isModelTokenUsage_eq, browser_isSafeModelId_eq,
    browser_isSafeModelId_eq, browser_isSafeResponseId_eq, browser_isRecord_eq, ← hlatency,
    isCount_eq, hnames]
  simp only [Bool.and_assoc, isStr_and_isOneOf]

/-- A member of a JSON value has its keys once. -/
theorem keyedNode_getPath {v : Value} (h : IsJson v) (key : String) :
    KeyedNode (v.getPath [key]) := by
  rw [getPath_cons, getPath_nil]
  cases v with
  | obj fields =>
    rw [get_obj]
    cases hlookup : lookup (js key) fields with
    | none => trivial
    | some w => exact (h.field (mem_of_lookup hlookup)).keyed.here
  | arr items =>
    rw [Value.get]
    split
    · trivial
    · split
      · rename_i i _
        rw [List.getD_eq_getElem?_getD]
        cases hitem : items[i]? with
        | none => trivial
        | some w => exact (h.item (List.mem_of_getElem? hitem)).keyed.here
      · trivial
  | str t =>
    rw [Value.get]
    split
    · trivial
    · split
      · rename_i i _
        cases t[i]? <;> trivial
      · trivial
  | _ => trivial

/-! ## 6. What is created -/

theorem safeModelId_eq_some {v w : Value} (h : safeModelId v = some w) :
    isSafeModelId v = true ∧ w = v := by
  unfold safeModelId at h
  split at h
  case isTrue hsafe =>
    cases h
    exact ⟨hsafe, rfl⟩
  case isFalse => cases h

theorem safeResponseId_eq_some {v w : Value} (h : safeResponseId v = some w) :
    isSafeResponseId v = true ∧ w = v := by
  unfold safeResponseId at h
  split at h
  case isTrue hsafe =>
    cases h
    exact ⟨hsafe, rfl⟩
  case isFalse => cases h

theorem safeLatency_eq_some {v w : Value} (h : safeLatency v = some w) :
    isLatency v = true ∧ w = v := by
  unfold safeLatency at h
  split at h
  case isTrue hsafe =>
    cases h
    exact ⟨hsafe, rfl⟩
  case isFalse => cases h

/-- The keys of an object literal. -/
theorem ownKeys_object (fields : List (String × Value)) :
    ownKeys (object fields) = (fields.map Prod.fst).map js := by
  simp only [ownKeys, entries, object, List.map_map]
  rfl

theorem hasExactKeys_object {fields : List (String × Value)} (names : List String)
    (hnames : fields.map Prod.fst = names) : hasExactKeys (object fields) names = true := by
  rw [hasExactKeys, ownKeys_object, hnames, Bool.and_eq_true, List.length_map]
  refine ⟨decide_eq_true rfl, ?_⟩
  rw [List.all_eq_true]
  intro key hkey
  exact List.contains_iff_mem.mpr hkey

theorem keyedNode_object {fields : List (String × Value)} (names : List String)
    (hnames : fields.map Prod.fst = names) (h : (names.map js).Nodup) :
    KeyedNode (object fields) := by
  rw [← hnames, ← ownKeys_object] at h
  exact h

theorem getPath_object (fields : List (String × Value)) (key : String) :
    (object fields).getPath [key] = (fields.lookup key).getD .undefined := by
  rw [getPath_cons, getPath_nil, get_object]

/-- A normalised usage is a token usage with each key once. -/
theorem normalizeProviderUsage_eq_some {v w : Value} (h : normalizeProviderUsage v = some w) :
    isTokenUsage w = true ∧ KeyedNode w := by
  unfold normalizeProviderUsage at h
  split at h
  case isTrue =>
    cases h
    exact ⟨rfl, trivial⟩
  case isFalse =>
    split at h
    case isTrue => cases h
    case isFalse =>
      dsimp only at h
      split at h
      case h_1 input output total hinput houtput htotal =>
        split at h
        case isTrue hsum =>
          cases h
          rw [strictEq_sumOf htotal, decide_eq_true_eq] at hsum
          refine ⟨?_, keyedNode_object USAGE_KEYS rfl (by decide)⟩
          have hexact : hasExactKeys (object [("inputTokens", v.getPath ["prompt_tokens"]),
              ("outputTokens", v.getPath ["completion_tokens"]),
              ("totalTokens", v.getPath ["total_tokens"])]) USAGE_KEYS = true :=
            hasExactKeys_object USAGE_KEYS rfl
          rw [isTokenUsage_eq, counts_eq, hexact]
          simp only [getPath_object, List.lookup, String.reduceBEq, Option.getD_some, hinput,
            houtput, htotal, hsum]
          simp [Worker.isRecord, object]
        case isFalse => cases h
      case h_2 => cases h

/-- **What is created satisfies the pipeline**, for any response of a provider. -/
theorem isModelRuntimeProvenance_created {runtime requestedModel response latencyMs p : Value}
    (h : createModelRuntimeProvenance runtime requestedModel response latencyMs = some p) :
    isModelRuntimeProvenance p = true ∧ KeyedNode p ∧ KeyedNode (p.getPath ["tokenUsage"]) := by
  unfold createModelRuntimeProvenance at h
  obtain ⟨requested, hrequested, hbody⟩ := Option.bind_eq_some_iff.mp h
  obtain ⟨hsafe, heq⟩ := safeModelId_eq_some hrequested
  subst heq
  clear h hrequested
  split at hbody
  case isTrue =>
    cases hbody
    refine ⟨?_, keyedNode_object PROVENANCE_KEYS rfl (by decide), ?_⟩
    · rw [isModelRuntimeProvenance, ← PROVENANCE_KEYS, hasExactKeys_object PROVENANCE_KEYS rfl]
      simp only [getPath_object, List.lookup, String.reduceBEq, Option.getD_some, hsafe]
      simp [Worker.isRecord, object, Value.strictEq]
    · rw [getPath_object]
      trivial
  case isFalse hsource =>
    split at hbody
    case isTrue => cases hbody
    case isFalse hlive =>
      obtain ⟨returned, hreturned, hbody⟩ := Option.bind_eq_some_iff.mp hbody
      obtain ⟨hmodel, heq⟩ := safeModelId_eq_some hreturned
      obtain ⟨responseId, hresponse, hbody⟩ := Option.bind_eq_some_iff.mp hbody
      obtain ⟨hid, heq'⟩ := safeResponseId_eq_some hresponse
      obtain ⟨usage, hnormal, hbody⟩ := Option.bind_eq_some_iff.mp hbody
      obtain ⟨husage, hkeyed⟩ := normalizeProviderUsage_eq_some hnormal
      obtain ⟨latency, hsome, rfl⟩ := Option.map_eq_some_iff.mp hbody
      obtain ⟨hlatency, heq''⟩ := safeLatency_eq_some hsome
      subst heq heq' heq''
      have hprovider : isOneOf (runtime.getPath ["provider"]) LIVE_PROVIDERS = true := by
        simp only [Bool.or_eq_true, Bool.not_eq_true', not_or, Bool.not_eq_false] at hlive
        exact hlive.1
      refine ⟨?_, keyedNode_object PROVENANCE_KEYS rfl (by decide), ?_⟩
      · rw [isModelRuntimeProvenance, ← PROVENANCE_KEYS, hasExactKeys_object PROVENANCE_KEYS rfl]
        simp only [getPath_object, List.lookup, String.reduceBEq, Option.getD_some, hsafe,
          hprovider, hmodel, hid, husage, hlatency]
        simp [Worker.isRecord, object]
      · rw [getPath_object]
        exact hkeyed

/-- **The three predicates agree** on every JSON value, **and accept what is created**, for any
response of a provider. -/
theorem predicates_agree :
    (∀ v, IsJson v → Lambda.validModelProvenance v = isModelRuntimeProvenance v ∧
      Browser.isPublicModelProvenance v = isModelRuntimeProvenance v) ∧
    ∀ runtime requestedModel response latencyMs p,
      createModelRuntimeProvenance runtime requestedModel response latencyMs = some p →
      isModelRuntimeProvenance p = true ∧ Lambda.validModelProvenance p = true ∧
        Browser.isPublicModelProvenance p = true := by
  constructor
  · intro v hv
    exact ⟨validModelProvenance_eq hv.keyed.here (keyedNode_getPath hv "tokenUsage"),
      isPublicModelProvenance_eq v⟩
  · intro runtime requestedModel response latencyMs p h
    obtain ⟨hpipeline, hkeyed, husage⟩ := isModelRuntimeProvenance_created h
    refine ⟨hpipeline, ?_, ?_⟩
    · rw [validModelProvenance_eq hkeyed husage]
      exact hpipeline
    · rw [isPublicModelProvenance_eq]
      exact hpipeline

/-- A response whose token counts are present. -/
def sampleResponse : Value := object
  [("id", lit "chatcmpl-0042"), ("model", lit "qwen-plus"),
   ("usage", object [("prompt_tokens", .num (.ofNat 12)), ("completion_tokens", .num (.ofNat 5)),
     ("total_tokens", .num (.ofNat 17))])]

/-- The provenance of the fixture. -/
def sampleProvenance : Value := object
  [("schemaVersion", lit "archon.model-runtime-provenance/v1"),
   ("source", lit "deterministic-fixture"), ("modelCall", .bool false),
   ("provider", lit "fixture"), ("requestedModel", lit "fixture-narrator"),
   ("returnedModel", .null), ("providerResponseId", .null), ("tokenUsage", .null),
   ("latencyMs", .null)]

/-- The provenance of the fixture, as JSON, and that of a live call, as it is created. -/
theorem samples_accepted :
    (isModelRuntimeProvenance sampleProvenance = true ∧
      Lambda.validModelProvenance sampleProvenance = true ∧
      Browser.isPublicModelProvenance sampleProvenance = true) ∧
    ∃ p, createModelRuntimeProvenance
        (object [("source", lit "live-provider"), ("provider", lit "qwen")]) (lit "qwen-plus")
        sampleResponse (.num (.ofNat 850)) = some p ∧
      isModelRuntimeProvenance p = true ∧ Lambda.validModelProvenance p = true ∧
        Browser.isPublicModelProvenance p = true := by
  constructor
  · have hjson : IsJson sampleProvenance := by decide +kernel
    obtain ⟨hlambda, hbrowser⟩ := predicates_agree.1 sampleProvenance hjson
    have hpipeline : isModelRuntimeProvenance sampleProvenance = true := by decide +kernel
    exact ⟨hpipeline, hlambda.trans hpipeline, hbrowser.trans hpipeline⟩
  · obtain ⟨p, hp⟩ : ∃ p, createModelRuntimeProvenance
        (object [("source", lit "live-provider"), ("provider", lit "qwen")]) (lit "qwen-plus")
        sampleResponse (.num (.ofNat 850)) = some p :=
      Option.isSome_iff_exists.mp (by decide +kernel)
    exact ⟨p, hp, predicates_agree.2 _ _ _ _ _ hp⟩

end Report
