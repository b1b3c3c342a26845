/-
# Which side to trust

A contradiction is reported with a recommendation.  `resolveContradiction` takes the side of the
greatest importance where it stands out, else that of the most authoritative kind of fact, else the
latest.  It names a fact of the side, and says why in a text that can show a value of the facts.

A confidence is computed in doubles: `round64` is the value of the nearest one.  What lies beyond the
greatest double is only compared, so it can stay what it is.
-/
import Archon.Audit.Consistency
import Archon.Remediation.Platform

namespace Audit

open Ecma Remediation

/-! ## 1. Arithmetic -/

/-- The double nearest to a rational. -/
def number (q : ℚ) : Number := Binary64.ofMagnitude (q < 0) |q|

/-- The value of the double nearest to a rational. -/
def round64 (q : ℚ) : ℚ :=
  match number q with
  | .finite x => signed x
  | _ => q

/-- `clamp`. -/
def clamp (n lo hi : ℚ) : ℚ := max lo (min hi n)

/-- `round2`. -/
def round2 (n : ℚ) : ℚ := round64 (⌊round64 (n * 100) + 1 / 2⌋ / 100)

/-! ## 2. What the ladder reads -/

/-- `JSON.stringify(v)`, in a text. -/
def stringified (v : Value) : Text := (stringify v).getD (js "undefined")

/-- `fmt`. -/
def fmt : Value → Text
  | .num x => x.text
  | v => stringified v

/-- `importanceOf`. -/
def importanceOf (m : AuditFact) : Option Binary64 :=
  match m.importance with
  | some (.finite x) => some x
  | _ =>
    match m.get "importance" with
    | .num (.finite x) => some x
    | _ => none

/-- `importance ?? -1`. -/
def salience (importance : Option Binary64) : ℚ := (importance.map signed).getD (-1)

/-- `authorityOf`, with `DEFAULT_KIND_AUTHORITY`. -/
def authorityOf (kind : Text) : Nat := if kind = js "insight" then 1 else 2

/-- The later first; of two at one time the lesser id. -/
def laterFirst (a b : AuditFact) : Bool :=
  if a.createdAt = b.createdAt then codeUnitLe a.id b.id else codeUnitLe b.createdAt a.createdAt

/-- What is read of a side. -/
structure Aggregate where
  value : Value
  importance : Option Binary64
  importanceCarrier : Option AuditFact
  authority : Nat
  authorityCarrier : AuditFact
  latest : AuditFact

/-- The side with what is read of its facts.  There is a first one. -/
def aggregate (d : Side) : Aggregate :=
  let facts := d.2.map Carrier.m
  let impCarrier := ((facts.filter fun m => (importanceOf m).isSome).insertionSort
    fun a b => salience (importanceOf b) ≤ salience (importanceOf a)).head?
  let authCarrier := (facts.insertionSort
    fun a b => authorityOf b.kind ≤ authorityOf a.kind).head?.getD d.1.m
  { value := d.1.value
    importance := impCarrier.bind importanceOf
    importanceCarrier := impCarrier
    authority := authorityOf authCarrier.kind
    authorityCarrier := authCarrier
    latest := (facts.insertionSort fun a b => laterFirst a b = true).head?.getD d.1.m }

/-! ## 3. The ladder -/

/-- The rules. -/
inductive ResolutionRule where
  | recency
  | importance
  | sourceAuthority
deriving DecidableEq

/-- The name of a rule. -/
def ResolutionRule.text : ResolutionRule → String
  | .recency => "recency"
  | .importance => "importance"
  | .sourceAuthority => "source-authority"

/-- `Resolution`. -/
structure Resolution where
  recommendedFactId : Text
  recommendedValue : Value
  rule : ResolutionRule
  confidence : Number
  rationale : Text

/-- The greater importance, where it is greater by 0.05 or more. -/
def byImportance (agg : List Aggregate) : Option Resolution :=
  match agg.insertionSort fun a b => salience b.importance ≤ salience a.importance with
  | top :: second :: _ =>
    let margin := round64 (salience top.importance - salience second.importance)
    let conf := clamp (round64 (round64 0.6 + min (round64 0.3) (round64 (margin * 0.5)))) 0
      (round64 0.95)
    match top.importance, top.importanceCarrier with
    | some importance, some win =>
      if round64 0.05 ≤ margin then
        some {
          recommendedFactId := win.id
          recommendedValue := top.value
          rule := .importance
          confidence := number (round2 conf)
          rationale := js "Fact " ++ win.id ++ js " carries higher importance ("
            ++ (Number.finite importance).text ++ js " vs "
            ++ (second.importance.map fun x => (Number.finite x).text).getD (js "none")
            ++ js "); explicit salience outranks a later harvest." }
      else none
    | _, _ => none
  | _ => none

/-- The more authoritative kind. -/
def byAuthority (agg : List Aggregate) : Option Resolution :=
  match agg.insertionSort fun a b => b.authority ≤ a.authority with
  | top :: second :: _ =>
    if second.authority < top.authority then
      some {
        recommendedFactId := top.authorityCarrier.id
        recommendedValue := top.value
        rule := .sourceAuthority
        confidence := number 0.75
        rationale := js "Structured '" ++ top.authorityCarrier.kind
          ++ js "' fact outranks derived '" ++ second.authorityCarrier.kind
          ++ js "' for a raw value; source authority overrides recency." }
    else none
  | _ => none

/-- Days between two times, in doubles. -/
def gapDays (P : Platform) (later earlier : Text) : Option ℚ := do
  let t ← P.dateParse later
  let s ← P.dateParse earlier
  return round64 (round64 (t - s : ℤ) / 86400000)

/-- The later. -/
def byRecency (P : Platform) (agg : List Aggregate) : Option Resolution :=
  match agg.insertionSort fun a b => laterFirst a.latest b.latest = true with
  | win :: runnerUp :: _ =>
    let tie : Bool := win.latest.createdAt = runnerUp.latest.createdAt
    let conf : Option ℚ :=
      if tie then some (round64 0.4)
      else (gapDays P win.latest.createdAt runnerUp.latest.createdAt).map fun days =>
        clamp (round64 (round64 0.5 + min (round64 0.35)
          (round64 (round64 (days / 30) * round64 0.35)))) 0 (round64 0.85)
    some {
      recommendedFactId := win.latest.id
      recommendedValue := win.value
      rule := .recency
      confidence := (conf.map fun c => number (round2 c)).getD .nan
      rationale :=
        if tie then
          js "Harvests share a timestamp; no stronger signal available — defaulting to fact "
            ++ win.latest.id ++ js " (deterministic tie-break). Low confidence."
        else
          js "Later harvest (" ++ slice win.latest.createdAt 0 10 ++ js ") supersedes the earlier value "
            ++ fmt runnerUp.value ++ js " (" ++ slice runnerUp.latest.createdAt 0 10
            ++ js "); recency is the default tie-breaker." }
  | _ => none

/-- `resolveContradiction`, of two sides or more. -/
def resolveContradiction (P : Platform) (sides : List Side) : Option Resolution :=
  let agg := sides.map aggregate
  ((byImportance agg).orElse fun _ => byAuthority agg).orElse fun _ => byRecency P agg

/-! ## 4. What is said of a contradiction -/

/-- One of the values that a contradiction lists. -/
structure ListedValue where
  factId : Text
  source : Text
  value : Value
  createdAt : Text

/-- The value of a side, with its earliest fact. -/
def listedValue (d : Side) : ListedValue :=
  let rep := ((d.2.map Carrier.m).insertionSort
    fun a b => codeUnitLe a.createdAt b.createdAt = true).head?.getD d.1.m
  ⟨rep.id, rep.source, d.1.value, rep.createdAt⟩

/-- `values`: the earlier first. -/
def Contradiction.values (c : Contradiction) : List ListedValue :=
  (c.sides.map listedValue).insertionSort fun a b => codeUnitLe a.createdAt b.createdAt = true

/-- `resolution`. -/
def Contradiction.resolution (P : Platform) (c : Contradiction) : Option Resolution :=
  resolveContradiction P c.sides

end Audit
