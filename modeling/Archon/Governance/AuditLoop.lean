/-
# The audit loop

In each step of `AuditLoop` the model answers with the name of a tool.  The three read tools harvest the
catalog, audit its consistency and audit its governance; each time they are called they append what they
find.  Whether a step has made progress is told by a signature, which has the number of findings in it.

So a completed audit that is called again and finds something is progress, and its findings stand twice.
That is the only way: in a run without it nothing is found twice, a tool that is called again counts as
no progress, and the second such step in a row ends the loop (`disciplined_iff`).  The number of steps is
bounded in any case.
-/
import Archon.Audit.Harvest
import Archon.Audit.Recommended
import Archon.Governance.Validator

namespace Governance

open Ecma Ecma.Value Harvest Lineage
open Audit (AuditFact Language)
open Report (AuditFinding analyze classify createModelRuntimeProvenance formatCount getPath_object)

/-! ## 1. What the model answers -/

/-- `AUTONOMOUS`. -/
inductive ReadTool where
  | harvestCatalog
  | runConsistencyAudit
  | runGovernanceAudit
deriving DecidableEq

/-- The name of a tool. -/
def ReadTool.name : ReadTool → Text
  | .harvestCatalog => js "harvest_catalog"
  | .runConsistencyAudit => js "run_consistency_audit"
  | .runGovernanceAudit => js "run_governance_audit"

/-- What the loop does at an answer. -/
inductive Call where
  | read (tool : ReadTool)
  | emitFindings
  | flagForReview
  | unusable

/-- `res.choices?.[0]?.message?.tool_calls?.[0]?.function?.name`. -/
def calledName (res : Value) : Value :=
  ((((res.getPath ["choices"]).nth 0).getPath ["message", "tool_calls"]).nth 0).getPath ["function", "name"]

/-- The call of an answer. -/
def callOf (res : Value) : Call :=
  let name := calledName res
  if name.isText (js "emit_findings") then .emitFindings
  else if name.isText (js "flag_for_review") then .flagForReview
  else
    match [ReadTool.harvestCatalog, .runConsistencyAudit, .runGovernanceAudit].find?
      fun tool => name.isText tool.name with
    | some tool => .read tool
    | none => .unusable

/-! ## 2. The state and the tools -/

/-- What a harvest returns to the loop.  A snapshot has the reports merged by URN, so that no URN stands
twice in it. -/
structure AuditHarvest where
  snapshot : CatalogSnapshot
  facts : List AuditFact
  distinct : (snapshot.entities.map (·.urn)).Nodup

/-- A harvest as the clients assemble it, of one stream of reports. -/
def AuditHarvest.of {reports : List SourceReport} {context : SnapshotTopologyContext} {snapshot : CatalogSnapshot}
    (h : snapshotFromReports reports context = .ok snapshot) : AuditHarvest where
  snapshot := snapshot
  facts := Audit.reportsToFacts reports
  distinct := distinct_of_snapshot h

/-- `LoopState`, with what a harvest has put into it. -/
structure LoopState where
  harvested : Bool
  consistencyDone : Bool
  governanceDone : Bool
  findings : List AuditFinding
  snapshot : Option CatalogSnapshot
  facts : Option (List AuditFact)

/-- `AuditTraceStep`. -/
structure AuditTraceStep where
  step : ℕ
  tool : Text
  observation : Text

/-- `ChatMessage`. -/
structure ChatMessage where
  role : String
  content : Text

/-- What a step meets: the model, the time that it takes, and the catalog. -/
structure Turn where
  create : List ChatMessage → Client Value
  elapsed : Value
  harvest : Client AuditHarvest

/-- `LoopStopReason`. -/
inductive LoopStopReason where
  | emittedFindings
  | noProgressFallback
  | maxStepsFallback
deriving DecidableEq

/-- `AuditRunResult`, and the detail that `onStop` is given.  The disposition is always `pending`. -/
structure AuditRunResult where
  findings : List AuditFinding
  trace : List AuditTraceStep
  modelProvenance : List Value
  stopReason : LoopStopReason
  detail : Option Text

/-- `SYSTEM_PROMPT`. -/
def SYSTEM_PROMPT : Text :=
  js "You are Archon, a read-only metadata-governance agent for a DataHub catalog. You work "
    ++ js "in STEPS: each step call exactly ONE tool. First harvest_catalog, then run_consistency_audit, "
    ++ js "then run_governance_audit — all read-only. Once the evidence is gathered, call emit_findings. "
    ++ js "You NEVER mutate the catalog; you only recommend, and a human disposes."

/-- `String(b)`. -/
def boolText (b : Bool) : Text := if b then js "true" else js "false"

/-- `messages(trace, state)`. -/
def messages (trace : List AuditTraceStep) (state : LoopState) : List ChatMessage :=
  let steps :=
    if trace.isEmpty then js "  (none yet — start with harvest_catalog)"
    else (js "\n").intercalate (trace.map fun t =>
      js "  " ++ decimalText t.step ++ js ". " ++ t.tool ++ js "\n     → " ++ t.observation)
  let evidence := js "EVIDENCE: harvested=" ++ boolText state.harvested
    ++ js " consistency_done=" ++ boolText state.consistencyDone
    ++ js " governance_done=" ++ boolText state.governanceDone
    ++ js " findings=" ++ decimalText state.findings.length
  let user := (js "\n").intercalate
    [js "STEPS SO FAR:", steps, [], evidence, [], js "Choose the next tool now."]
  [⟨"system", SYSTEM_PROMPT⟩, ⟨"user", user⟩]

/-- `signature(state)`. -/
def signature (state : LoopState) : Text :=
  boolText state.harvested ++ js "|" ++ boolText state.consistencyDone ++ js "|"
    ++ boolText state.governanceDone ++ js "|" ++ decimalText state.findings.length

/-- `AuditLoop`, with the policy of its governance auditor. -/
structure AuditLoop where
  L : Language
  policy : CompiledGovernancePolicy
  runtime : Value
  modelId : Value
  /-- `opts.maxSteps`. -/
  requestedSteps : Option Number

/-- `new AuditLoop(client, modelId, opts)`. -/
def AuditLoop.create (L : Language) (runtime modelId : Value) (requestedSteps : Option Number) : AuditLoop where
  L := L
  policy := defaultPolicy L
  runtime := runtime
  modelId := modelId
  requestedSteps := requestedSteps

/-- The variables of `run`. -/
structure RunState where
  state : LoopState
  trace : List AuditTraceStep
  modelProvenance : List Value
  noProgress : ℕ

/-- The start of a run. -/
def RunState.start : RunState := ⟨⟨false, false, false, [], none, none⟩, [], [], 0⟩

/-- What a run returns. -/
def RunState.result (r : RunState) (reason : LoopStopReason) (detail : Option Text) : AuditRunResult where
  findings := r.state.findings
  trace := r.trace
  modelProvenance := r.modelProvenance
  stopReason := reason
  detail := detail

/-- The receipt of an answer is kept. -/
def RunState.receipted (r : RunState) (receipt : Value) : RunState :=
  { r with modelProvenance := r.modelProvenance ++ [receipt] }

/-- What a tool has left is kept, and its observation. -/
def RunState.observed (r : RunState) (step : ℕ) (tool : ReadTool) (state : LoopState) (observation : Text) :
    RunState :=
  { r with
    state := state
    trace := r.trace ++ [⟨step, tool.name, observation⟩] }

/-- How a step ends. -/
inductive Next where
  | goOn (r : RunState)
  | stop (result : AuditRunResult)

/-- `if (++noProgress >= 2) return this.fallback(…)`. -/
def RunState.stalled (r : RunState) (detail : String) : Next :=
  let r := { r with noProgress := r.noProgress + 1 }
  if 2 ≤ r.noProgress then .stop (r.result .noProgressFallback (js detail)) else .goOn r

namespace AuditLoop

variable (loop : AuditLoop)

/-- `this.maxSteps`, which is `Math.min(12, Math.max(3, opts.maxSteps ?? 6))`. -/
def maxSteps : Number :=
  match loop.requestedSteps.getD (.ofNat 6) with
  | .nan => .nan
  | n => if !n.atLeast 3 then .ofNat 3 else if n.atLeast 12 then .ofNat 12 else n

/-- The number of steps up to `maxSteps`, which is 12 at most. -/
def stepBound : ℕ := ((List.range' 1 12).takeWhile fun step => loop.maxSteps.atLeast step).length

/-- `snapshot ? this.governance.audit(snapshot) : []`. -/
def violations (state : LoopState) : Client (List AuditFinding) :=
  match state.snapshot with
  | some snapshot => audit loop.L loop.policy snapshot
  | none => .ok []

/-- `execute(name, state, datahub, query)`: the new state and the observation. -/
def execute (tool : ReadTool) (state : LoopState) (harvest : Client AuditHarvest) : Client (LoopState × Text) :=
  match tool with
  | .harvestCatalog => do
    let harvest ← harvest
    let state := { state with snapshot := some harvest.snapshot, facts := some harvest.facts, harvested := true }
    return (state, js "harvested " ++ formatCount harvest.snapshot.entities.length "entity" ++ js " ("
      ++ formatCount (classify loop.L harvest.snapshot).withLineage "lineage-bearing entity" ++ js ")")
  | .runConsistencyAudit =>
    if state.harvested = false then .ok (state, js "cannot audit before harvest_catalog")
    else
      let found := analyze loop.L.P (state.facts.getD [])
      .ok ({ state with findings := state.findings ++ found, consistencyDone := true },
        js "self-audit found " ++ formatCount found.length "contradiction/lineage finding")
  | .runGovernanceAudit =>
    if state.harvested = false then .ok (state, js "cannot audit before harvest_catalog")
    else do
      let found ← loop.violations state
      return ({ state with findings := state.findings ++ found, governanceDone := true },
        js "governance audit found " ++ formatCount found.length "violation")

/-- The model is asked, and its answer is receipted. -/
def receive (turn : Turn) (r : RunState) : Client (Value × Value) := do
  let res ← turn.create (messages r.trace r.state)
  let id ← res.prop "id"
  let latencyMs := if (loop.runtime.getPath ["source"]).isText (js "live-provider") then turn.elapsed else .null
  match createModelRuntimeProvenance loop.runtime loop.modelId
    (object [("id", id), ("model", res.getPath ["model"]), ("usage", res.getPath ["usage"])]) latencyMs with
  | some receipt => .ok (res, receipt)
  | none => .error (.user (.rejected (js "Model runtime provenance is absent or invalid.")))

/-- A step of the loop. -/
def takeTurn (turn : Turn) (step : ℕ) (r : RunState) : Client Next := do
  let (res, receipt) ← loop.receive turn r
  let r := r.receipted receipt
  match callOf res with
  | .emitFindings => return .stop (r.result .emittedFindings none)
  | .flagForReview => return .stop (r.result .noProgressFallback (js "the model escalated to a human"))
  | .read tool =>
    let (state, observation) ← loop.execute tool r.state turn.harvest
    let after := r.observed step tool state observation
    if signature state = signature r.state then
      return after.stalled "the model repeated a completed read tool without progressing"
    else return .goOn after
  | .unusable => return r.stalled "the model returned no usable tool call"

/-- The steps that are left, from a step on. -/
def runFrom (turns : ℕ → Turn) (step : ℕ) : ℕ → RunState → Client AuditRunResult
  | 0, r => .ok (r.result .maxStepsFallback
      (js "reached the " ++ loop.maxSteps.text ++ js "-step cap"))
  | left + 1, r => do
    match ← loop.takeTurn (turns step) step r with
    | .stop result => return result
    | .goOn r => runFrom turns (step + 1) left r

/-- `run(datahub, query)`. -/
def run (turns : ℕ → Turn) : Client AuditRunResult := loop.runFrom turns 1 loop.stepBound .start

end AuditLoop

/-! ## 3. What one audit finds -/

section Found

variable {P : Remediation.Platform} {facts : List AuditFact}

theorem type_of_mem_analyze {f : AuditFinding} (h : f ∈ analyze P facts) : f.type ≠ .governanceViolation := by
  rcases List.mem_append.mp h with hf | hf
  · obtain ⟨c, -, hc⟩ := List.mem_filterMap.mp hf
    obtain ⟨r, -, rfl⟩ := Option.map_eq_some_iff.mp hc
    exact fun heq => nomatch heq
  · obtain ⟨a, -, rfl⟩ := List.mem_map.mp hf
    exact fun heq => nomatch heq

/-- The finding of a contradiction says its subject and its attribute. -/
theorem contradictionFinding_inj {c c' : Audit.Contradiction} {r r' : Audit.Resolution}
    (h : Report.contradictionFinding c r = Report.contradictionFinding c' r') :
    (c.subject, c.attr) = (c'.subject, c'.attr) := by
  have hsubject : c.subject = c'.subject := congrArg AuditFinding.subject h
  have hattr : c.attr = c'.attr := by
    have hdetail := congrArg (fun f : AuditFinding => f.detail.lookup "attribute") h
    exact Value.str.inj (Option.some.inj hdetail)
  rw [hsubject, hattr]

/-- **No contradiction and no gap is found twice.** -/
theorem nodup_analyze : (analyze P facts).Nodup := by
  rw [analyze, Report.toFindings, List.nodup_append]
  refine ⟨?_, ?_, ?_⟩
  · have hperm : (Audit.auditConsistency ⟨none, false⟩ facts).contradictions.Perm
        (Audit.found ⟨none, false⟩ facts) := List.perm_insertionSort _ _
    have hpairwise : (Audit.auditConsistency ⟨none, false⟩ facts).contradictions.Pairwise fun c d =>
        (c.subject, c.attr) ≠ (d.subject, d.attr) :=
      (hperm.pairwise_iff fun hne => Ne.symm hne).mpr Audit.found_pairwise
    refine List.pairwise_filterMap.mpr (hpairwise.imp ?_)
    intro c d hne f hf g hg heq
    obtain ⟨r, -, rfl⟩ := Option.map_eq_some_iff.mp hf
    obtain ⟨r', -, rfl⟩ := Option.map_eq_some_iff.mp hg
    exact hne (contradictionFinding_inj heq)
  · refine List.pairwise_map.mpr ((List.pairwise_map.mp (Audit.nodup_absences ⟨none, false⟩ facts)).imp ?_)
    intro a b hne heq
    exact hne (congrArg AuditFinding.subject heq)
  · intro f hf g hg heq
    obtain ⟨c, -, hc⟩ := List.mem_filterMap.mp hf
    obtain ⟨r, -, rfl⟩ := Option.map_eq_some_iff.mp hc
    obtain ⟨a, -, rfl⟩ := List.mem_map.mp hg
    exact nomatch congrArg AuditFinding.type heq

end Found

/-! ## 4. The bound -/

section Bound

variable {loop : AuditLoop}

end Bound

/-! ## 5. What a tool does to the state -/

/-- The tool has been completed. -/
def LoopState.completed (s : LoopState) : ReadTool → Bool
  | .harvestCatalog => s.harvested
  | .runConsistencyAudit => s.consistencyDone
  | .runGovernanceAudit => s.governanceDone

/-- What a tool would append to the findings. -/
def AuditLoop.finds (loop : AuditLoop) (s : LoopState) : ReadTool → List AuditFinding
  | .harvestCatalog => []
  | .runConsistencyAudit => analyze loop.L.P (s.facts.getD [])
  | .runGovernanceAudit => (loop.violations s).toOption.getD []

/-- A completed tool would find something if it were called again. -/
def AuditLoop.FindsAgain (loop : AuditLoop) (s : LoopState) (tool : ReadTool) : Prop :=
  s.completed tool = true ∧ loop.finds s tool ≠ []

/-- The invariant of the state: what has not been audited yet has no findings. -/
structure Tidy (s : LoopState) : Prop where
  nodup : s.findings.Nodup
  consistency : s.consistencyDone = false → ∀ f ∈ s.findings, f.type = .governanceViolation
  governance : s.governanceDone = false → ∀ f ∈ s.findings, f.type ≠ .governanceViolation
  distinct : ∀ snapshot, s.snapshot = some snapshot → (snapshot.entities.map (·.urn)).Nodup

section Tools

variable {loop : AuditLoop} {tool : ReadTool} {s s' : LoopState} {observation : Text}
  {harvest : Client AuditHarvest}

/-- The state after a harvest. -/
def LoopState.withHarvest (s : LoopState) (got : AuditHarvest) : LoopState :=
  { s with snapshot := some got.snapshot, facts := some got.facts, harvested := true }

/-- The state after an audit. -/
def LoopState.withFound (s : LoopState) (found : List AuditFinding) : ReadTool → LoopState
  | .harvestCatalog => s
  | .runConsistencyAudit => { s with findings := s.findings ++ found, consistencyDone := true }
  | .runGovernanceAudit => { s with findings := s.findings ++ found, governanceDone := true }

theorem violations_obeys (hs : ∀ snapshot, s.snapshot = some snapshot → (snapshot.entities.map (·.urn)).Nodup)
    {found : List AuditFinding} (h : loop.violations s = .ok found) :
    found.Nodup ∧ ∀ f ∈ found, f.type = .governanceViolation := by
  rw [AuditLoop.violations] at h
  cases hsnapshot : s.snapshot with
  | none =>
    rw [hsnapshot] at h
    obtain rfl := Except.ok.inj h
    exact ⟨List.nodup_nil, fun f hf => absurd hf List.not_mem_nil⟩
  | some snapshot =>
    rw [hsnapshot] at h
    exact ⟨nodup_audit (hs snapshot hsnapshot) h, type_of_mem_audit h⟩

/-- What the governance audit finds: each violation once. -/
theorem finds_governance (hs : Tidy s) : (loop.finds s .runGovernanceAudit).Nodup
    ∧ ∀ f ∈ loop.finds s .runGovernanceAudit, f.type = .governanceViolation := by
  rw [AuditLoop.finds]
  cases hfound : loop.violations s with
  | error e => exact ⟨List.nodup_nil, fun f hf => absurd hf List.not_mem_nil⟩
  | ok found => exact violations_obeys hs.distinct hfound

/-- What a tool does: it harvests, it does nothing before a harvest, or it appends what it finds. -/
theorem execute_cases (h : loop.execute tool s harvest = .ok (s', observation)) :
    (tool = .harvestCatalog ∧ ∃ got, s' = s.withHarvest got)
      ∨ (tool ≠ .harvestCatalog ∧ s.harvested = false ∧ s' = s)
      ∨ (tool ≠ .harvestCatalog ∧ s.harvested = true ∧ s' = s.withFound (loop.finds s tool) tool) := by
  cases tool with
  | harvestCatalog =>
    obtain ⟨got, -, heq⟩ := bind_eq_ok.mp h
    obtain ⟨rfl, -⟩ := Prod.mk.inj (Except.ok.inj heq)
    exact Or.inl ⟨rfl, got, rfl⟩
  | runConsistencyAudit =>
    rw [AuditLoop.execute] at h
    split at h
    case isTrue hharvested =>
      obtain ⟨rfl, -⟩ := Prod.mk.inj (Except.ok.inj h)
      exact Or.inr (Or.inl ⟨by decide, hharvested, rfl⟩)
    case isFalse hharvested =>
      obtain ⟨rfl, -⟩ := Prod.mk.inj (Except.ok.inj h)
      exact Or.inr (Or.inr ⟨by decide, Bool.not_eq_false _ ▸ hharvested, rfl⟩)
  | runGovernanceAudit =>
    rw [AuditLoop.execute] at h
    split at h
    case isTrue hharvested =>
      obtain ⟨rfl, -⟩ := Prod.mk.inj (Except.ok.inj h)
      exact Or.inr (Or.inl ⟨by decide, hharvested, rfl⟩)
    case isFalse hharvested =>
      obtain ⟨found, hfound, heq⟩ := bind_eq_ok.mp h
      obtain ⟨rfl, -⟩ := Prod.mk.inj (Except.ok.inj heq)
      refine Or.inr (Or.inr ⟨by decide, Bool.not_eq_false _ ▸ hharvested, ?_⟩)
      rw [AuditLoop.finds, hfound]
      rfl

theorem nodup_finds (hs : Tidy s) : (loop.finds s tool).Nodup := by
  cases tool with
  | harvestCatalog => exact List.nodup_nil
  | runConsistencyAudit => exact nodup_analyze
  | runGovernanceAudit => exact (finds_governance hs).1

/-- **A tool that finds nothing again leaves the state tidy.** -/
theorem tidy_execute (hs : Tidy s) (hagain : ¬loop.FindsAgain s tool)
    (h : loop.execute tool s harvest = .ok (s', observation)) : Tidy s' := by
  rcases execute_cases h with ⟨rfl, got, rfl⟩ | ⟨-, -, rfl⟩ | ⟨htool, -, rfl⟩
  · refine ⟨hs.nodup, hs.consistency, hs.governance, fun snapshot hsnapshot => ?_⟩
    obtain rfl := Option.some.inj hsnapshot
    exact got.distinct
  · exact hs
  · have hfound : s.completed tool = true → loop.finds s tool = [] := by
      intro hdone
      by_contra hne
      exact hagain ⟨hdone, hne⟩
    cases tool with
    | harvestCatalog => exact absurd rfl htool
    | runConsistencyAudit =>
      refine ⟨?_, fun hfalse => Bool.noConfusion hfalse, fun hgovernance f hf => ?_, hs.distinct⟩
      · refine List.nodup_append.mpr ⟨hs.nodup, nodup_finds hs, fun f hf g hg heq => ?_⟩
        cases hdone : s.consistencyDone with
        | false => exact type_of_mem_analyze hg (heq ▸ hs.consistency hdone f hf)
        | true =>
          rw [hfound hdone] at hg
          exact absurd hg List.not_mem_nil
      · rcases List.mem_append.mp hf with hf | hf
        · exact hs.governance hgovernance f hf
        · exact type_of_mem_analyze hf
    | runGovernanceAudit =>
      refine ⟨?_, fun hconsistency f hf => ?_, fun hfalse => Bool.noConfusion hfalse, hs.distinct⟩
      · refine List.nodup_append.mpr ⟨hs.nodup, nodup_finds hs, fun f hf g hg heq => ?_⟩
        cases hdone : s.governanceDone with
        | false => exact hs.governance hdone f hf (heq ▸ (finds_governance hs).2 g hg)
        | true =>
          rw [hfound hdone] at hg
          exact absurd hg List.not_mem_nil
      · rcases List.mem_append.mp hf with hf | hf
        · exact hs.consistency hconsistency f hf
        · exact (finds_governance hs).2 f hf

/-- What the signature tells. -/
theorem signature_inj (h : signature s = signature s') : s.harvested = s'.harvested
    ∧ s.consistencyDone = s'.consistencyDone ∧ s.governanceDone = s'.governanceDone
    ∧ s.findings.length = s'.findings.length := by
  obtain ⟨a, b, c, findings, _, _⟩ := s
  obtain ⟨a', b', c', findings', _, _⟩ := s'
  have htrue : boolText true = [0x74, 0x72, 0x75, 0x65] := by decide
  have hfalse : boolText false = [0x66, 0x61, 0x6C, 0x73, 0x65] := by decide
  have hbar : js "|" = [0x7C] := by decide
  rw [signature, signature] at h
  dsimp only at h ⊢
  rw [hbar] at h
  cases a <;> cases a' <;> cases b <;> cases b' <;> cases c <;> cases c' <;>
    simp [htrue, hfalse] at h <;> exact ⟨rfl, rfl, rfl, decimalText_inj h⟩

/-- **A completed tool makes no progress exactly if it finds nothing.** -/
theorem signature_eq_iff (hdone : s.completed tool = true) (hharvested : s.harvested = true)
    (h : loop.execute tool s harvest = .ok (s', observation)) :
    signature s' = signature s ↔ loop.finds s tool = [] := by
  rcases execute_cases h with ⟨rfl, got, rfl⟩ | ⟨-, hnot, -⟩ | ⟨htool, -, rfl⟩
  · refine iff_of_true ?_ rfl
    rw [signature, signature, LoopState.withHarvest, hharvested]
  · exact Bool.noConfusion (hharvested.symm.trans hnot)
  · constructor
    · intro hsignature
      have hlength := (signature_inj hsignature).2.2.2
      cases tool with
      | harvestCatalog => exact absurd rfl htool
      | runConsistencyAudit =>
        rw [LoopState.withFound, List.length_append] at hlength
        exact List.eq_nil_of_length_eq_zero (by omega)
      | runGovernanceAudit =>
        rw [LoopState.withFound, List.length_append] at hlength
        exact List.eq_nil_of_length_eq_zero (by omega)
    · intro hnil
      rw [hnil]
      cases tool with
      | harvestCatalog => rfl
      | runConsistencyAudit =>
        rw [signature, signature, LoopState.withFound, List.append_nil]
        dsimp only
        rw [← show s.consistencyDone = true from hdone]
      | runGovernanceAudit =>
        rw [signature, signature, LoopState.withFound, List.append_nil]
        dsimp only
        rw [← show s.governanceDone = true from hdone]

end Tools

/-! ## 6. Runs -/

/-- The states that a run goes through, with the number of steps that have been taken. -/
inductive Reached (loop : AuditLoop) (turns : ℕ → Turn) : ℕ → RunState → Prop
  | start : Reached loop turns 0 .start
  | next {k : ℕ} {r r' : RunState} (hr : Reached loop turns k r) (hk : k < loop.stepBound)
    (h : loop.takeTurn (turns (k + 1)) (k + 1) r = .ok (.goOn r')) : Reached loop turns (k + 1) r'

/-- In this step the model's answer is receipted and calls a tool. -/
def AuditLoop.Calls (loop : AuditLoop) (turn : Turn) (r : RunState) (tool : ReadTool) : Prop :=
  ∃ res receipt, loop.receive turn r = .ok (res, receipt) ∧ callOf res = .read tool

/-- The step counts as no progress. -/
def Stalls (r : RunState) : Next → Prop
  | .goOn r' => r'.noProgress = r.noProgress + 1
  | .stop result => 1 ≤ r.noProgress ∧ result.stopReason = .noProgressFallback

/-- What a step leaves of the state. -/
def Leaves (r : RunState) (s : LoopState) : Next → Prop
  | .goOn r' => r'.state = s ∧ r'.modelProvenance.length = r.modelProvenance.length + 1
    ∧ r'.trace.length ≤ r.trace.length + 1 ∧ (r'.noProgress = r.noProgress ∨ r'.noProgress = 1)
  | .stop result => result.findings = s.findings
    ∧ result.modelProvenance.length = r.modelProvenance.length + 1
    ∧ result.trace.length ≤ r.trace.length + 1

section Runs

variable {loop : AuditLoop} {turns : ℕ → Turn} {turn : Turn} {step k : ℕ} {tool : ReadTool} {r r' : RunState}
  {next : Next} {result : AuditRunResult}

/-- A step: the answer calls no read tool and the state is kept, or a tool is executed. -/
theorem takeTurn_cases (h : loop.takeTurn turn step r = .ok next) :
    ∃ res receipt, loop.receive turn r = .ok (res, receipt)
      ∧ (((∀ tool, callOf res ≠ .read tool)
          ∧ ((∃ reason detail, next = .stop ((r.receipted receipt).result reason detail))
            ∨ ∃ detail, next = (r.receipted receipt).stalled detail))
        ∨ ∃ tool s observation, callOf res = .read tool
          ∧ loop.execute tool r.state turn.harvest = .ok (s, observation)
          ∧ ((signature s = signature r.state
              ∧ ∃ detail, next = ((r.receipted receipt).observed step tool s observation).stalled detail)
            ∨ signature s ≠ signature r.state
              ∧ next = .goOn ((r.receipted receipt).observed step tool s observation))) := by
  obtain ⟨⟨res, receipt⟩, hreceive, h⟩ := bind_eq_ok.mp h
  refine ⟨res, receipt, hreceive, ?_⟩
  dsimp only at h
  cases hcall : callOf res with
  | emitFindings =>
    rw [hcall] at h
    obtain rfl := Except.ok.inj h
    exact Or.inl ⟨fun tool heq => Call.noConfusion heq, Or.inl ⟨_, _, rfl⟩⟩
  | flagForReview =>
    rw [hcall] at h
    obtain rfl := Except.ok.inj h
    exact Or.inl ⟨fun tool heq => Call.noConfusion heq, Or.inl ⟨_, _, rfl⟩⟩
  | unusable =>
    rw [hcall] at h
    obtain rfl := Except.ok.inj h
    exact Or.inl ⟨fun tool heq => Call.noConfusion heq, Or.inr ⟨_, rfl⟩⟩
  | read tool =>
    rw [hcall] at h
    obtain ⟨⟨s, observation⟩, hexecute, h⟩ := bind_eq_ok.mp h
    refine Or.inr ⟨tool, s, observation, rfl, hexecute, ?_⟩
    dsimp only at h
    split at h
    case isTrue hsame => exact Or.inl ⟨hsame, _, (Except.ok.inj h).symm⟩
    case isFalse hsame => exact Or.inr ⟨hsame, (Except.ok.inj h).symm⟩

theorem stalled_eq (r : RunState) (detail : String) :
    r.stalled detail = .goOn { r with noProgress := r.noProgress + 1 } ∧ r.noProgress = 0
      ∨ r.stalled detail
          = .stop ({ r with noProgress := r.noProgress + 1 }.result .noProgressFallback (js detail))
        ∧ 1 ≤ r.noProgress := by
  rw [RunState.stalled]
  dsimp only
  split
  · exact Or.inr ⟨rfl, by omega⟩
  · exact Or.inl ⟨rfl, by omega⟩

theorem leaves_stalled {after : RunState} {s : LoopState} {detail : String} (hstate : after.state = s)
    (hreceipts : after.modelProvenance.length = r.modelProvenance.length + 1)
    (htrace : after.trace.length ≤ r.trace.length + 1) : Leaves r s (after.stalled detail) := by
  rcases stalled_eq after detail with ⟨heq, hzero⟩ | ⟨heq, -⟩
  · rw [heq]
    refine ⟨hstate, hreceipts, htrace, Or.inr ?_⟩
    dsimp only
    rw [hzero]
  · rw [heq]
    exact ⟨congrArg LoopState.findings hstate, hreceipts, htrace⟩

/-- **What a step does.**  It leaves the state as it is, or as a tool has left it. -/
theorem takeTurn_leaves (h : loop.takeTurn turn step r = .ok next) :
    ∃ s, Leaves r s next ∧ (s = r.state ∨ ∃ tool observation, loop.Calls turn r tool
      ∧ loop.execute tool r.state turn.harvest = .ok (s, observation)) := by
  obtain ⟨res, receipt, hreceive, ⟨-, hplain⟩ | ⟨tool, s, observation, hcall, hexecute, htool⟩⟩ :=
    takeTurn_cases h
  · have hreceipts : (r.receipted receipt).modelProvenance.length = r.modelProvenance.length + 1 :=
      List.length_append
    refine ⟨r.state, ?_, Or.inl rfl⟩
    rcases hplain with ⟨reason, detail, rfl⟩ | ⟨detail, rfl⟩
    · exact ⟨rfl, hreceipts, Nat.le_succ _⟩
    · exact leaves_stalled rfl hreceipts (Nat.le_succ _)
  · have hreceipts : ((r.receipted receipt).observed step tool s observation).modelProvenance.length
        = r.modelProvenance.length + 1 := List.length_append
    have htrace : ((r.receipted receipt).observed step tool s observation).trace.length
        ≤ r.trace.length + 1 := List.length_append.le
    refine ⟨s, ?_, Or.inr ⟨tool, observation, ⟨res, receipt, hreceive, hcall⟩, hexecute⟩⟩
    rcases htool with ⟨-, detail, rfl⟩ | ⟨-, rfl⟩
    · exact leaves_stalled rfl hreceipts htrace
    · exact ⟨rfl, hreceipts, htrace, Or.inl rfl⟩

/-- What holds in every state that is reached, whatever the model answers. -/
structure Kept (loop : AuditLoop) (k : ℕ) (r : RunState) : Prop where
  bounded : k ≤ loop.stepBound
  receipts : r.modelProvenance.length = k
  trace : r.trace.length ≤ k
  noProgress : r.noProgress ≤ 1
  harvested : ∀ tool, r.state.completed tool = true → r.state.harvested = true

theorem harvested_execute {s s' : LoopState} {harvest : Client AuditHarvest} {observation : Text}
    (hs : ∀ tool, s.completed tool = true → s.harvested = true)
    (h : loop.execute tool s harvest = .ok (s', observation)) :
    ∀ tool, s'.completed tool = true → s'.harvested = true := by
  rcases execute_cases h with ⟨-, got, rfl⟩ | ⟨-, -, rfl⟩ | ⟨-, hharvested, rfl⟩
  · exact fun _ _ => rfl
  · exact hs
  · intro tool' _
    cases tool <;> exact hharvested

theorem kept_start : Kept loop 0 .start := by
  refine ⟨Nat.zero_le _, rfl, Nat.zero_le _, Nat.zero_le _, fun tool h => ?_⟩
  cases tool <;> exact Bool.noConfusion h

/-- **Every state that is reached** is reached within the bound. -/
theorem reached_kept (h : Reached loop turns k r) : Kept loop k r := by
  induction h with
  | start => exact kept_start
  | next _ hk h ih =>
    obtain ⟨s, ⟨rfl, hreceipts, htrace, hnoProgress⟩, hs⟩ := takeTurn_leaves h
    refine ⟨hk, by rw [hreceipts, ih.receipts], ?_, ?_, ?_⟩
    · have := ih.trace
      omega
    · have := ih.noProgress
      omega
    · rcases hs with hs | ⟨tool, observation, -, hexecute⟩
      · rw [hs]
        exact ih.harvested
      · exact harvested_execute ih.harvested hexecute

/-- No completed tool that would find something is called again. -/
def Quiet (loop : AuditLoop) (turns : ℕ → Turn) : Prop :=
  ∀ k r tool, Reached loop turns k r → k < loop.stepBound → loop.Calls (turns (k + 1)) r tool →
    ¬loop.FindsAgain r.state tool

theorem tidy_start : Tidy RunState.start.state :=
  ⟨List.nodup_nil, fun _ _ hf => absurd hf List.not_mem_nil, fun _ _ hf => absurd hf List.not_mem_nil,
    fun _ h => nomatch h⟩

theorem tidy_leaves (hquiet : Quiet loop turns) (hr : Reached loop turns k r) (htidy : Tidy r.state)
    (hk : k < loop.stepBound) {s : LoopState} (hs : s = r.state ∨ ∃ tool observation,
      loop.Calls (turns (k + 1)) r tool
        ∧ loop.execute tool r.state (turns (k + 1)).harvest = .ok (s, observation)) : Tidy s := by
  rcases hs with rfl | ⟨tool, observation, hcalls, hexecute⟩
  · exact htidy
  · exact tidy_execute htidy (hquiet k r tool hr hk hcalls) hexecute

/-- **In a quiet run every state is tidy.** -/
theorem reached_tidy (hquiet : Quiet loop turns) (h : Reached loop turns k r) : Tidy r.state := by
  induction h with
  | start => exact tidy_start
  | next hr hk h ih =>
    obtain ⟨s, ⟨rfl, -⟩, hs⟩ := takeTurn_leaves h
    exact tidy_leaves hquiet hr ih hk hs

/-- Where a run returns: a step has stopped it, or the steps are used up. -/
theorem runFrom_eq_ok : ∀ {left k : ℕ} {r : RunState}, Reached loop turns k r → k + left = loop.stepBound →
    loop.runFrom turns (k + 1) left r = .ok result →
    ∃ k r, Reached loop turns k r
      ∧ (k < loop.stepBound ∧ loop.takeTurn (turns (k + 1)) (k + 1) r = .ok (.stop result)
        ∨ k = loop.stepBound ∧ ∃ detail, result = r.result .maxStepsFallback detail)
  | 0, k, r, hr, hleft, h => by
    obtain rfl := Except.ok.inj h
    exact ⟨k, r, hr, Or.inr ⟨hleft, _, rfl⟩⟩
  | left + 1, k, r, hr, hleft, h => by
    obtain ⟨next, hnext, h⟩ := bind_eq_ok.mp h
    have hk : k < loop.stepBound := by omega
    cases next with
    | stop result' =>
      obtain rfl := Except.ok.inj h
      exact ⟨k, r, hr, Or.inl ⟨hk, hnext⟩⟩
    | goOn r' => exact runFrom_eq_ok (.next hr hk hnext) (by omega) h

theorem run_eq_ok (h : loop.run turns = .ok result) : ∃ k r, Reached loop turns k r
    ∧ (k < loop.stepBound ∧ loop.takeTurn (turns (k + 1)) (k + 1) r = .ok (.stop result)
      ∨ k = loop.stepBound ∧ ∃ detail, result = r.result .maxStepsFallback detail) :=
  runFrom_eq_ok .start (Nat.zero_add _) h

/-- A run stops within its bound. -/
theorem run_bounded (h : loop.run turns = .ok result) :
    result.modelProvenance.length ≤ loop.stepBound ∧ result.trace.length ≤ loop.stepBound := by
  obtain ⟨k, r, hr, ⟨hk, hstop⟩ | ⟨rfl, detail, rfl⟩⟩ := run_eq_ok h
  · have hkept := reached_kept hr
    obtain ⟨s, ⟨-, hreceipts, htrace⟩, -⟩ := takeTurn_leaves hstop
    rw [hreceipts, hkept.receipts]
    exact ⟨hk, by have := hkept.trace; omega⟩
  · have hkept := reached_kept hr
    exact ⟨hkept.receipts.le, hkept.trace⟩

theorem run_nodup (hquiet : Quiet loop turns) (h : loop.run turns = .ok result) : result.findings.Nodup := by
  obtain ⟨k, r, hr, ⟨hk, hstop⟩ | ⟨-, detail, rfl⟩⟩ := run_eq_ok h
  · obtain ⟨s, ⟨hfindings, -⟩, hs⟩ := takeTurn_leaves hstop
    rw [hfindings]
    exact (tidy_leaves hquiet hr (reached_tidy hquiet hr) hk hs).nodup
  · exact (reached_tidy hquiet hr).nodup

/-- **The call of a completed tool** counts as no progress exactly if the tool finds nothing. -/
theorem stalls_iff (hr : Reached loop turns k r) (hcalls : loop.Calls turn r tool)
    (hdone : r.state.completed tool = true) (h : loop.takeTurn turn step r = .ok next) :
    Stalls r next ↔ ¬loop.FindsAgain r.state tool := by
  have hharvested := (reached_kept hr).harvested tool hdone
  have hfinds : ¬loop.FindsAgain r.state tool ↔ loop.finds r.state tool = [] := by
    rw [AuditLoop.FindsAgain, and_iff_right hdone, not_not]
  obtain ⟨res, receipt, hreceive, hcall⟩ := hcalls
  obtain ⟨res', receipt', hreceive', hcases⟩ := takeTurn_cases h
  obtain ⟨rfl, rfl⟩ := Prod.mk.inj (Except.ok.inj (hreceive.symm.trans hreceive'))
  obtain ⟨hplain, -⟩ | ⟨tool', s, observation, hcall', hexecute, htool⟩ := hcases
  · exact absurd hcall (hplain tool)
  · obtain rfl := Call.read.inj (hcall.symm.trans hcall')
    rw [hfinds, ← signature_eq_iff hdone hharvested hexecute]
    rcases htool with ⟨hsame, detail, rfl⟩ | ⟨hne, rfl⟩
    · refine iff_of_true ?_ hsame
      rcases stalled_eq ((r.receipted receipt).observed step tool s observation) detail with ⟨heq, -⟩ | ⟨heq, hone⟩
      · rw [heq]
        rfl
      · rw [heq]
        exact ⟨hone, rfl⟩
    · refine iff_of_false (fun hstall => ?_) hne
      exact absurd hstall (Nat.ne_of_lt (Nat.lt_succ_self _))

end Runs

/-- The loop as it is meant: it stops within its bound, nothing is found twice in a state or in the
result, and a completed tool that is called again counts as no progress, the second time in a row as the
end. -/
structure Disciplined (loop : AuditLoop) (turns : ℕ → Turn) : Prop where
  bounded : ∀ result, loop.run turns = .ok result →
    result.modelProvenance.length ≤ loop.stepBound ∧ result.trace.length ≤ loop.stepBound
  reached_bounded : ∀ k r, Reached loop turns k r → k ≤ loop.stepBound
  nodup : ∀ result, loop.run turns = .ok result → result.findings.Nodup
  reached_nodup : ∀ k r, Reached loop turns k r → r.state.findings.Nodup
  noProgress : ∀ k r tool next, Reached loop turns k r → k < loop.stepBound →
    loop.Calls (turns (k + 1)) r tool → r.state.completed tool = true →
    loop.takeTurn (turns (k + 1)) (k + 1) r = .ok next → Stalls r next
  twice : ∀ k r r' tool tool' next, Reached loop turns k r → k + 1 < loop.stepBound →
    loop.Calls (turns (k + 1)) r tool → r.state.completed tool = true →
    loop.takeTurn (turns (k + 1)) (k + 1) r = .ok (.goOn r') →
    loop.Calls (turns (k + 2)) r' tool' → r'.state.completed tool' = true →
    loop.takeTurn (turns (k + 2)) (k + 2) r' = .ok next →
    ∃ result, next = .stop result ∧ result.stopReason = .noProgressFallback

section Disciplined

variable {loop : AuditLoop} {turns : ℕ → Turn}

/-- A completed audit that finds something is executed, and its step goes on. -/
theorem takeTurn_again (step : ℕ) {turn : Turn} {k : ℕ} {r : RunState} {tool : ReadTool}
    (hr : Reached loop turns k r) (hcalls : loop.Calls turn r tool) (hagain : loop.FindsAgain r.state tool) :
    ∃ next, loop.takeTurn turn step r = .ok next := by
  obtain ⟨res, receipt, hreceive, hcall⟩ := hcalls
  obtain ⟨hdone, hne⟩ := hagain
  have hharvested := (reached_kept hr).harvested tool hdone
  have hexecute : ∃ after, loop.execute tool r.state turn.harvest = .ok after := by
    cases tool with
    | harvestCatalog => exact absurd rfl hne
    | runConsistencyAudit =>
      rw [AuditLoop.execute, hharvested]
      exact ⟨_, rfl⟩
    | runGovernanceAudit =>
      rw [AuditLoop.execute, hharvested]
      cases hfound : loop.violations r.state with
      | error e =>
        rw [AuditLoop.finds, hfound] at hne
        exact absurd rfl hne
      | ok found => exact ⟨_, rfl⟩
  obtain ⟨⟨s, observation⟩, hexecute⟩ := hexecute
  rw [AuditLoop.takeTurn, hreceive]
  dsimp only [ok_bind]
  rw [hcall]
  dsimp only
  have hstate : (r.receipted receipt).state = r.state := rfl
  rw [hstate, hexecute]
  dsimp only [ok_bind]
  split
  · exact ⟨_, rfl⟩
  · exact ⟨_, rfl⟩

theorem quiet_of_disciplined (h : Disciplined loop turns) : Quiet loop turns := by
  intro k r tool hr hk hcalls hagain
  obtain ⟨next, hnext⟩ := takeTurn_again (k + 1) hr hcalls hagain
  have hstalls := h.noProgress k r tool next hr hk hcalls hagain.1 hnext
  exact (stalls_iff hr hcalls hagain.1 hnext).mp hstalls hagain

/-- **The audit loop**, for every sequence of answers.  It is disciplined in the runs in which no completed
audit that would find something is called again, and in no others. -/
theorem disciplined_iff (loop : AuditLoop) (turns : ℕ → Turn) : Disciplined loop turns ↔ Quiet loop turns := by
  refine ⟨quiet_of_disciplined, fun hquiet => ?_⟩
  have hstalls : ∀ k r tool next, Reached loop turns k r → k < loop.stepBound →
      loop.Calls (turns (k + 1)) r tool → r.state.completed tool = true →
      loop.takeTurn (turns (k + 1)) (k + 1) r = .ok next → Stalls r next :=
    fun k r tool next hr hk hcalls hdone h => (stalls_iff hr hcalls hdone h).mpr (hquiet k r tool hr hk hcalls)
  refine ⟨fun _ => run_bounded, fun k r hr => (reached_kept hr).bounded, fun _ => run_nodup hquiet,
    fun k r hr => (reached_tidy hquiet hr).nodup, hstalls, ?_⟩
  intro k r r' tool tool' next hr hk hcalls hdone h hcalls' hdone' h'
  have hr' : Reached loop turns (k + 1) r' := .next hr (Nat.lt_of_succ_lt hk) h
  have hone : r'.noProgress = r.noProgress + 1 :=
    hstalls k r tool _ hr (Nat.lt_of_succ_lt hk) hcalls hdone h
  have hsecond := hstalls (k + 1) r' tool' next hr' hk hcalls' hdone' h'
  cases next with
  | stop result => exact ⟨result, rfl, hsecond.2⟩
  | goOn r'' =>
    have hbound := (reached_kept (.next hr' hk h')).noProgress
    have htwo : r''.noProgress = r'.noProgress + 1 := hsecond
    omega

/-! ### An audit that is called again -/

/-- A step in which a tool changes the signature goes on. -/
theorem reached_next {k : ℕ} {r : RunState} {tool : ReadTool} {s : LoopState} {observation : Text}
    (hr : Reached loop turns k r) (hk : k < loop.stepBound) (hcalls : loop.Calls (turns (k + 1)) r tool)
    (hexecute : loop.execute tool r.state (turns (k + 1)).harvest = .ok (s, observation))
    (hne : signature s ≠ signature r.state) : ∃ r', Reached loop turns (k + 1) r' ∧ r'.state = s := by
  obtain ⟨res, receipt, hreceive, hcall⟩ := hcalls
  refine ⟨(r.receipted receipt).observed (k + 1) tool s observation, .next hr hk ?_, rfl⟩
  have hstate : (r.receipted receipt).state = r.state := rfl
  rw [AuditLoop.takeTurn, hreceive]
  dsimp only [ok_bind]
  rw [hcall]
  dsimp only
  rw [hstate, hexecute]
  dsimp only [ok_bind]
  rw [if_neg hne]
  rfl

/-- From a state that is reached, the run is what is left of it. -/
theorem run_eq_runFrom {k : ℕ} {r : RunState} (hr : Reached loop turns k r) :
    loop.run turns = loop.runFrom turns (k + 1) (loop.stepBound - k) r := by
  induction hr with
  | start => rfl
  | next _ hk h ih =>
    obtain ⟨left, hleft⟩ := Nat.exists_eq_add_of_lt hk
    rw [ih, show loop.stepBound - _ = left + 1 by omega, AuditLoop.runFrom, h]
    rw [show loop.stepBound - (_ + 1) = left by omega]
    rfl

/-- An answer that calls a tool. -/
def answer (tool : String) : Value :=
  object [("choices", .arr [object [("message", object [("tool_calls",
    .arr [object [("function", object [("name", lit tool)])]])])]])]

/-- A table with an upstream that is not in the catalog. -/
def danglingTable : CatalogEntity :=
  { dataset "orders" [] with upstreams := some [⟨js "raw_orders", false, none⟩] }

/-- The one report of the catalog. -/
def danglingReport : SourceReport := ⟨js "snowflake", js "scan-1", js "2026-06-01T09:00:00.000Z", danglingTable⟩

theorem dangling_isSome : (snapshotFromReports [danglingReport]).toOption.isSome = true := by decide +kernel

def danglingSnapshot : CatalogSnapshot := (snapshotFromReports [danglingReport]).toOption.get dangling_isSome

theorem dangling_assembled : snapshotFromReports [danglingReport] = .ok danglingSnapshot := by
  rw [danglingSnapshot]
  generalize dangling_isSome = h
  revert h
  cases snapshotFromReports [danglingReport] with
  | error e => exact fun h => Bool.noConfusion h
  | ok snapshot => exact fun _ => rfl

def danglingHarvest : AuditHarvest := .of dangling_assembled

/-- The harvest, the consistency audit twice, and the findings are emitted. -/
def repeatedTools : ℕ → String
  | 1 => "harvest_catalog"
  | 2 => "run_consistency_audit"
  | 3 => "run_consistency_audit"
  | _ => "emit_findings"

def repeatedTurns (step : ℕ) : Turn :=
  ⟨fun _ => .ok (answer (repeatedTools step)), .null, .ok danglingHarvest⟩

/-- The loop over the fixture. -/
def fixtureLoop : AuditLoop :=
  .create .node (object [("source", lit "deterministic-fixture"), ("provider", lit "fixture")])
    (lit "fixture-audit-model") none

theorem receive_repeated (step : ℕ) (r : RunState) :
    ∃ receipt, fixtureLoop.receive (repeatedTurns step) r = .ok (answer (repeatedTools step), receipt) := by
  obtain ⟨receipt, hreceipt⟩ : ∃ receipt, createModelRuntimeProvenance fixtureLoop.runtime
      fixtureLoop.modelId (object [("id", .undefined), ("model", .undefined), ("usage", .undefined)]) .null
      = some receipt := Option.isSome_iff_exists.mp (by decide +kernel)
  have hlive : (fixtureLoop.runtime.getPath ["source"]).isText (js "live-provider") = false := by
    decide +kernel
  have hcreate : (repeatedTurns step).create (messages r.trace r.state) = .ok (answer (repeatedTools step)) := rfl
  have hid : ((answer (repeatedTools step)).prop "id" : Client Value) = .ok .undefined :=
    prop_eq_ok.mpr ⟨rfl, getPath_object _ "id"⟩
  have hmodel : (answer (repeatedTools step)).getPath ["model"] = .undefined := getPath_object _ _
  have husage : (answer (repeatedTools step)).getPath ["usage"] = .undefined := getPath_object _ _
  refine ⟨receipt, ?_⟩
  rw [AuditLoop.receive, hcreate, ok_bind, hid, ok_bind, hmodel, husage, hlive]
  dsimp only
  rw [if_neg Bool.false_ne_true, hreceipt]

theorem calls_repeated {step : ℕ} (r : RunState) {tool : ReadTool}
    (h : callOf (answer (repeatedTools step)) = .read tool) : fixtureLoop.Calls (repeatedTurns step) r tool := by
  obtain ⟨receipt, hreceive⟩ := receive_repeated step r
  exact ⟨_, receipt, hreceive, h⟩

/-- What the consistency audit finds: one gap. -/
theorem dangling_found : analyze Remediation.Platform.node danglingHarvest.facts ≠ [] := by
  intro h
  have hfound : (analyze Remediation.Platform.node danglingHarvest.facts).isEmpty = false := by decide +kernel
  rw [h] at hfound
  cases hfound

/-- The state after the harvest. -/
def harvestedState : LoopState := RunState.start.state.withHarvest danglingHarvest

/-- The state after an audit of it. -/
def auditedState (s : LoopState) : LoopState :=
  s.withFound (analyze Remediation.Platform.node danglingHarvest.facts) .runConsistencyAudit

theorem signature_auditedState (s : LoopState) : signature (auditedState s) ≠ signature s := by
  intro h
  have hlength : (s.findings ++ analyze Remediation.Platform.node danglingHarvest.facts).length
      = s.findings.length := (signature_inj h).2.2.2
  rw [List.length_append] at hlength
  exact dangling_found (List.eq_nil_of_length_eq_zero (by omega))

/-- A consistency audit after the harvest. -/
theorem reached_audited {k : ℕ} {r : RunState} (hr : Reached fixtureLoop repeatedTurns k r)
    (hk : k < fixtureLoop.stepBound) (hcall : callOf (answer (repeatedTools (k + 1))) = .read .runConsistencyAudit)
    (hharvested : r.state.harvested = true) (hfacts : r.state.facts = some danglingHarvest.facts) :
    ∃ r', Reached fixtureLoop repeatedTurns (k + 1) r' ∧ r'.state = auditedState r.state := by
  obtain ⟨observation, hexecute⟩ : ∃ observation, fixtureLoop.execute .runConsistencyAudit r.state
      (repeatedTurns (k + 1)).harvest = .ok (auditedState r.state, observation) := by
    have hnot : ¬r.state.harvested = false := by
      rw [hharvested]
      decide
    have hread : r.state.facts.getD [] = danglingHarvest.facts := by
      rw [hfacts]
      rfl
    rw [AuditLoop.execute, if_neg hnot]
    dsimp only
    rw [hread]
    exact ⟨_, rfl⟩
  exact reached_next hr hk (calls_repeated r hcall) hexecute (signature_auditedState r.state)

/-- Three steps, and the gap stands twice. -/
theorem reached_twice : ∃ r, Reached fixtureLoop repeatedTurns 3 r
    ∧ r.state = auditedState (auditedState harvestedState) := by
  have hbound : fixtureLoop.stepBound = 6 := by decide +kernel
  have haudit : callOf (answer "run_consistency_audit") = .read .runConsistencyAudit := by rfl
  have hharvest : callOf (answer "harvest_catalog") = .read .harvestCatalog := by rfl
  obtain ⟨r₁, hr₁, hs₁⟩ : ∃ r, Reached fixtureLoop repeatedTurns 1 r ∧ r.state = harvestedState := by
    refine reached_next .start (hbound ▸ by decide) (calls_repeated _ hharvest) (Eq.refl (Except.ok _)) ?_
    exact fun h => Bool.noConfusion (signature_inj h).1
  obtain ⟨r₂, hr₂, hs₂⟩ := reached_audited hr₁ (hbound ▸ by decide) haudit (by rw [hs₁]; rfl) (by rw [hs₁]; rfl)
  rw [hs₁] at hs₂
  obtain ⟨r₃, hr₃, hs₃⟩ := reached_audited hr₂ (hbound ▸ by decide) haudit (by rw [hs₂]; rfl) (by rw [hs₂]; rfl)
  rw [hs₂] at hs₃
  exact ⟨r₃, hr₃, hs₃⟩

/-- **A run that finds one gap twice**: the second consistency audit counts as progress. -/
theorem repeated_audit : (∃ result, fixtureLoop.run repeatedTurns = .ok result
      ∧ result.stopReason = .emittedFindings ∧ ¬result.findings.Nodup)
    ∧ ¬Disciplined fixtureLoop repeatedTurns := by
  have hrun : ∃ result, fixtureLoop.run repeatedTurns = .ok result
      ∧ result.stopReason = .emittedFindings ∧ ¬result.findings.Nodup := by
    have hbound : fixtureLoop.stepBound = 6 := by decide +kernel
    obtain ⟨r, hr, hs⟩ := reached_twice
    obtain ⟨receipt, hreceive⟩ := receive_repeated 4 r
    have hcall : callOf (answer (repeatedTools 4)) = .emitFindings := by rfl
    refine ⟨(r.receipted receipt).result .emittedFindings none, ?_, rfl, ?_⟩
    · rw [run_eq_runFrom hr, hbound, AuditLoop.runFrom, AuditLoop.takeTurn, hreceive]
      dsimp only [ok_bind]
      rw [hcall]
      rfl
    · intro hnodup
      have hfindings : ((r.receipted receipt).result .emittedFindings none).findings
          = ([] ++ analyze Remediation.Platform.node danglingHarvest.facts)
            ++ analyze Remediation.Platform.node danglingHarvest.facts := by
        change r.state.findings = _
        rw [hs]
        rfl
      rw [hfindings, List.nil_append, List.nodup_append] at hnodup
      obtain ⟨f, hf⟩ := List.exists_mem_of_ne_nil _ dangling_found
      exact hnodup.2.2 f hf f hf rfl
  refine ⟨hrun, fun hdisciplined => ?_⟩
  obtain ⟨result, hresult, -, htwice⟩ := hrun
  exact htwice (hdisciplined.nodup result hresult)

end Disciplined


end Governance
