/-
# The report inside audit evidence

A worker that reads stored evidence checks the shape of the report in it: `isAuditReport`, and
inside it the provenance of the narration model, whose identifiers are confined to an alphabet and
must not look like a credential.  Both run on arbitrary JSON and answer yes or no; neither throws.

The patterns of the source are flat: literals, single letters of a class, and runs of a class with
a least length.  `Piece` is that.  A run takes every letter it can, which loses nothing here: what
follows a run in the source's patterns never begins with a letter of the run.
-/
import Archon.Ecma.Value

namespace Worker

open Ecma Ecma.Value

/-! ## 1. Patterns -/

/-- `[A-Z]`. -/
def isUpper (u : UInt16) : Bool := 0x41 ≤ u && u ≤ 0x5A

/-- `[a-z]`. -/
def isLower (u : UInt16) : Bool := 0x61 ≤ u && u ≤ 0x7A

/-- `[A-Za-z0-9]`. -/
def isAlphanumeric (u : UInt16) : Bool := isUpper u || isLower u || isDigit u

/-- `[A-Za-z0-9…]`, with some further letters. -/
def alphanumericOr (more : String) (u : UInt16) : Bool := isAlphanumeric u || (js more).contains u

/-- A piece of a pattern. -/
inductive Piece where
  | literal (t : Text)
  | one (p : UInt16 → Bool)
  | run (p : UInt16 → Bool) (atLeast : Nat)

/-- Does the pattern match a beginning of the text? -/
def matchesHere : List Piece → Text → Bool
  | [], _ => true
  | .literal l :: ps, t => l.isPrefixOf t && matchesHere ps (t.drop l.length)
  | .one _ :: _, [] => false
  | .one p :: ps, u :: t => p u && matchesHere ps t
  | .run p n :: ps, t => decide (n ≤ (t.takeWhile p).length) && matchesHere ps (t.dropWhile p)

/-- Does it match somewhere? -/
def matchesIn (pattern : List Piece) (t : Text) : Bool := t.tails.any (matchesHere pattern)

/-- The pairs of units that texts begin with, as the bits of a number. -/
def marksOf (ts : List String) : Nat :=
  (ts.map fun t => match js t with
    | u :: v :: _ => 1 <<< (256 * u.toNat + v.toNat)
    | _ => 0).foldl (· ||| ·) 0

/-- Does a text begin with one of the pairs? -/
def opens (marks : Nat) : Text → Bool
  | u :: v :: _ => marks.testBit (256 * u.toNat + v.toNat)
  | _ => false

/-- Does a pattern begin with a literal that does? -/
def opensPattern (marks : Nat) : List Piece → Bool
  | .literal l :: _ => opens marks l
  | _ => false

theorem opens_of_prefix {marks : Nat} {l t : Text} (hl : opens marks l = true)
    (hbegin : l.isPrefixOf t = true) : opens marks t = true := by
  obtain ⟨r, rfl⟩ := List.isPrefixOf_iff_prefix.mp hbegin
  match l, hl with
  | _ :: _ :: _, hl => exact hl

/-- A pattern matches only where its beginning stands. -/
theorem opens_of_matchesHere {marks : Nat} {pattern : List Piece} {t : Text}
    (hpattern : opensPattern marks pattern = true) (h : matchesHere pattern t = true) :
    opens marks t = true := by
  match pattern, hpattern with
  | .literal l :: ps, hpattern =>
    rw [matchesHere, Bool.and_eq_true] at h
    exact opens_of_prefix hpattern h.1

/-- What holds only where one of the beginnings stands is looked for there alone. -/
theorem any_tails_eq_false {marks : Nat} {f : Text → Bool} {t : Text}
    (hopens : ∀ s, f s = true → opens marks s = true)
    (h : (t.tails.all fun s => !opens marks s || !f s) = true) : t.tails.any f = false := by
  refine List.any_eq_false.mpr fun s hs hf => ?_
  have hs := List.all_eq_true.mp h s hs
  rw [hopens s hf, hf] at hs
  cases hs

/-! ## 2. Model provenance -/

/-- `MODEL_ID_PATTERN`. -/
def isModelId : Text → Bool
  | [] => false
  | u :: t => isAlphanumeric u && decide (t.length ≤ 159) && t.all (alphanumericOr "._:/-")

/-- `RESPONSE_ID_PATTERN`. -/
def isResponseId : Text → Bool
  | [] => false
  | u :: t => isAlphanumeric u && decide (5 ≤ t.length ∧ t.length ≤ 199) && t.all (alphanumericOr "._:-")

/-- The alternatives of `CREDENTIAL_SHAPED_IDENTIFIER`. -/
def CREDENTIAL_SHAPES : List (List Piece) :=
  [[.literal (js "bedrock-api-key-"), .run (alphanumericOr "_+/=-") 16],
    [.literal (js "sk-ant-"), .run (alphanumericOr "_-") 16],
    [.literal (js "sk-"), .run (alphanumericOr "_-") 16],
    [.literal (js "gh"), .one (js "pousr").contains, .literal (js "_"), .run (alphanumericOr "_") 20],
    [.literal (js "github_pat_"), .run (alphanumericOr "_") 20],
    [.literal (js "AKIA"), .run (fun u => isUpper u || isDigit u) 16],
    [.literal (js "ASIA"), .run (fun u => isUpper u || isDigit u) 16],
    [.literal (js "xox"), .one (js "baprs").contains, .literal (js "-"), .run (alphanumericOr "-") 10],
    [.literal (js "AIza"), .run (alphanumericOr "_-") 35],
    [.literal (js "eyJ"), .run (alphanumericOr "_-") 8, .literal (js "."), .run (alphanumericOr "_-") 8,
      .literal (js "."), .run (alphanumericOr "_-") 8]]

/-- `CREDENTIAL_SHAPED_IDENTIFIER.test(t)`. -/
def isCredentialShaped (t : Text) : Bool := CREDENTIAL_SHAPES.any fun shape => matchesIn shape t

/-- `safeModelId` returns. -/
def isSafeModelId : Value → Bool
  | .str t => isModelId t && !occursIn (js "://") t && !isCredentialShaped t
  | _ => false

/-- `safeResponseId` returns. -/
def isSafeResponseId : Value → Bool
  | .str t => isResponseId t && !isCredentialShaped t
  | _ => false

/-- The natural number a value is, if it is a safe integer that is not negative. -/
def safeCount : Value → Option Nat
  | .num (.finite x) =>
    let scale := 2 ^ (-x.exp).toNat
    let n := x.man * 2 ^ x.exp.toNat / scale
    if x.man * 2 ^ x.exp.toNat % scale = 0 ∧ n < 2 ^ 53 ∧ (x.neg = false ∨ x.man = 0) then some n else none
  | _ => none

/-- `value !== null && typeof value === "object" && !Array.isArray(value)`: `isObject`, `isRecord`
and `reportRecord`. -/
def isRecord : Value → Bool
  | .obj _ => true
  | _ => false

/-- `Object.keys(value)`, where the value is an object. -/
def ownKeys (v : Value) : List Text := v.entries.map Prod.fst

/-- `exactReportKeys`. -/
def exactReportKeys (v : Value) (allowed required : List String) : Bool :=
  (ownKeys v).all (fun key => (allowed.map js).contains key) &&
    required.all fun key => (ownKeys v).contains (js key)

/-- `hasExactKeys`. -/
def hasExactKeys (v : Value) (expected : List String) : Bool :=
  decide ((ownKeys v).length = expected.length) &&
    (ownKeys v).all fun key => (expected.map js).contains key

/-- `parseTokenUsage` returns.  The sum of two safe integers is a safe integer, or rounds to no
safe one. -/
def isTokenUsage (v : Value) : Bool :=
  match v with
  | .null => true
  | v => isRecord v && hasExactKeys v ["inputTokens", "outputTokens", "totalTokens"] &&
    match safeCount (v.getPath ["inputTokens"]), safeCount (v.getPath ["outputTokens"]),
      safeCount (v.getPath ["totalTokens"]) with
    | some input, some output, some total => decide (total = input + output)
    | _, _, _ => false

/-- `safeLatency` returns. -/
def isLatency (v : Value) : Bool := ((safeCount v).map fun n => decide (n ≤ 3600000)).getD false

/-- `LIVE_PROVIDERS`. -/
def LIVE_PROVIDERS : List String := ["bedrock-mantle", "custom", "qwen", "gemini", "openai", "anthropic"]

/-- Is the value one of some literals? -/
def isOneOf (v : Value) (names : List String) : Bool := names.any fun name => v.isText (js name)

/-- `isModelRuntimeProvenance`. -/
def isModelRuntimeProvenance (v : Value) : Bool :=
  isRecord v && hasExactKeys v ["schemaVersion", "source", "modelCall", "provider", "requestedModel",
    "returnedModel", "providerResponseId", "tokenUsage", "latencyMs"] &&
  (v.getPath ["schemaVersion"]).isText (js "archon.model-runtime-provenance/v1") &&
  isSafeModelId (v.getPath ["requestedModel"]) &&
  if (v.getPath ["source"]).isText (js "deterministic-fixture") then
    (v.getPath ["modelCall"]).strictEq (.bool false) && (v.getPath ["provider"]).isText (js "fixture") &&
      (v.getPath ["returnedModel"]).strictEq .null && (v.getPath ["providerResponseId"]).strictEq .null &&
      (v.getPath ["tokenUsage"]).strictEq .null && (v.getPath ["latencyMs"]).strictEq .null
  else
    (v.getPath ["source"]).isText (js "live-provider") && (v.getPath ["modelCall"]).strictEq (.bool true) &&
      isOneOf (v.getPath ["provider"]) LIVE_PROVIDERS && isSafeModelId (v.getPath ["returnedModel"]) &&
      isSafeResponseId (v.getPath ["providerResponseId"]) && isTokenUsage (v.getPath ["tokenUsage"]) &&
      isLatency (v.getPath ["latencyMs"])

/-! ## 3. The report -/

/-- `[\u0000-\u0008\u000B\u000C\u000E-\u001F\u007F]`. -/
def isControl (u : UInt16) : Bool :=
  u ≤ 0x08 || u == 0x0B || u == 0x0C || (0x0E ≤ u && u ≤ 0x1F) || u == 0x7F

/-- `boundedText`, for a text that must not be empty. -/
def boundedText (v : Value) (maximum : Nat) : Bool :=
  match v with
  | .str t => decide (0 < t.length) && decide (t.length ≤ maximum) && !t.any isControl
  | _ => false

/-- `isCountMap`. -/
def isCountMap (v : Value) : Bool :=
  isRecord v && decide ((ownKeys v).length ≤ 1000) &&
    v.entries.all fun e => boundedText (.str e.1) 256 && (safeCount e.2).isSome

/-- `isClassification`. -/
def isClassification (v : Value) : Bool :=
  isRecord v && exactReportKeys v ["totalEntities", "withLineage", "sensitiveEntities", "domains",
      "platforms"] ["totalEntities", "withLineage", "sensitiveEntities", "domains", "platforms"] &&
    (match safeCount (v.getPath ["totalEntities"]), safeCount (v.getPath ["withLineage"]),
      safeCount (v.getPath ["sensitiveEntities"]) with
    | some total, some lineage, some sensitive => decide (lineage ≤ total) && decide (sensitive ≤ total)
    | _, _, _ => false) &&
    isCountMap (v.getPath ["domains"]) && isCountMap (v.getPath ["platforms"])

/-- `isFinding`. -/
def isFinding (v : Value) : Bool :=
  isRecord v && exactReportKeys v
      ["type", "severity", "subject", "summary", "detail", "recommendation"]
      ["type", "severity", "subject", "summary", "detail"] &&
    isOneOf (v.getPath ["type"]) ["contradiction", "lineage_gap", "governance_violation"] &&
    isOneOf (v.getPath ["severity"]) ["low", "medium", "high"] &&
    boundedText (v.getPath ["subject"]) 2048 && boundedText (v.getPath ["summary"]) 4000 &&
    isRecord (v.getPath ["detail"]) &&
    ((v.getPath ["recommendation"]).strictEq .undefined || boundedText (v.getPath ["recommendation"]) 4000)

/-- The elements of an array of at most `maximum` elements satisfy a test. -/
def isListOf (v : Value) (maximum : Nat) (p : Value → Bool) : Bool :=
  match v with
  | .arr items => decide (items.length ≤ maximum) && items.all p
  | _ => false

/-- The test of one step of `isTrace`. -/
def isTraceStep (v : Value) : Bool :=
  isRecord v && exactReportKeys v ["agent", "produced"] ["agent", "produced"] &&
    boundedText (v.getPath ["agent"]) 128 && boundedText (v.getPath ["produced"]) 2000

/-- `AUDIT_REPORT_KEYS`. -/
def AUDIT_REPORT_KEYS : List String :=
  ["schemaVersion", "scanId", "classification", "findings", "narrative", "modelProvenance", "trace"]

/-- `isAuditReport`. -/
def isAuditReport (v : Value) : Bool :=
  isRecord v && exactReportKeys v AUDIT_REPORT_KEYS AUDIT_REPORT_KEYS &&
    (v.getPath ["schemaVersion"]).isText (js "archon.audit-report/v1") &&
    boundedText (v.getPath ["scanId"]) 512 && isClassification (v.getPath ["classification"]) &&
    isListOf (v.getPath ["findings"]) 10000 isFinding && boundedText (v.getPath ["narrative"]) 8000 &&
    isModelRuntimeProvenance (v.getPath ["modelProvenance"]) &&
    isListOf (v.getPath ["trace"]) 32 isTraceStep

/-- A count of zero. -/
def noEntities : Value := .num (.finite (Binary64.zero false))

/-- The report on an empty catalog, narrated offline. -/
def emptyReport : Value :=
  object [("schemaVersion", lit "archon.audit-report/v1"), ("scanId", lit "scan-1"),
    ("classification", object [("totalEntities", noEntities), ("withLineage", noEntities),
      ("sensitiveEntities", noEntities), ("domains", object []), ("platforms", object [])]),
    ("findings", .arr []), ("narrative", lit "Nothing was found."),
    ("modelProvenance", object [("schemaVersion", lit "archon.model-runtime-provenance/v1"),
      ("source", lit "deterministic-fixture"), ("modelCall", .bool false), ("provider", lit "fixture"),
      ("requestedModel", lit "fixture-narrator"), ("returnedModel", .null),
      ("providerResponseId", .null), ("tokenUsage", .null), ("latencyMs", .null)]),
    ("trace", .arr [])]

theorem emptyReport_accepted : isAuditReport emptyReport = true := by
  simp only [emptyReport, noEntities, object, lit, List.map_cons, List.map_nil]
  repeat rw [js_ofList]
  decide +kernel

end Worker
