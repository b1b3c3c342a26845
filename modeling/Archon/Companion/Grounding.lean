/-
# The skills that an analysis is grounded in

`ground_skills` goes through the six reviewed skills, looks for the receipts of the calls that the plan of
each requires, and writes an execution receipt for it.  It goes on only with six artifacts whose reviewed
executions are the ones it makes itself, with a verified receipt of every tool of the Agent Context Kit,
and with one of every tool of the MCP server.

So a grounding has the six execution receipts with digests of one form in fixed places, and its canonical
text has the same length every time (`grounded_of_ok`).
-/
import Archon.Companion.Bytes
import Archon.Companion.Context

namespace Companion

open Ecma Jobs

/-! ## 1. The plans -/

/-- The skills that were reviewed. -/
inductive Skill where
  | search
  | lineage
  | quality
  | enrich
  | usingDatahub
  | audit
deriving DecidableEq

/-- The name of a skill. -/
def Skill.name : Skill → String
  | .search => "datahub-search"
  | .lineage => "datahub-lineage"
  | .quality => "datahub-quality"
  | .enrich => "datahub-enrich"
  | .usingDatahub => "using-datahub"
  | .audit => "datahub-audit"

/-- `OFFICIAL_SKILLS`. -/
def OFFICIAL_SKILLS : List Skill := [.search, .lineage, .quality, .enrich, .usingDatahub]

/-- `CUSTOM_SKILL`. -/
def CUSTOM_SKILL : Skill := .audit

/-- `(*OFFICIAL_SKILLS, CUSTOM_SKILL)`. -/
def REVIEWED_SKILLS : List Skill := OFFICIAL_SKILLS ++ [CUSTOM_SKILL]

/-- `SKILL_WORKFLOW`. -/
def SKILL_WORKFLOW : List String :=
  ["datahub-search", "datahub-lineage", "datahub-quality", "datahub-audit", "datahub-enrich"]

/-- `SKILLS_SOURCE_COMMIT`. -/
def SKILLS_SOURCE_COMMIT : String := "f7c7c53648b71dc0841742781e108051d46fa360"

/-- `MCP_CANONICAL_READ_TOOLS`. -/
def MCP_CANONICAL_READ_TOOLS : List String :=
  ["search", "get_entities", "list_schema_fields", "get_lineage", "get_dataset_queries"]

/-- What `skill_execution_plan` returns. -/
structure ExecutionPlan where
  phase : String
  ack : List String
  officialMcp : List String
  mode : String

/-- `skill_execution_plan`. -/
def skillExecutionPlan : Skill → ExecutionPlan
  | .search =>
    ⟨"metadata-discovery", ["search", "get_entities", "list_schema_fields"],
      ["search", "get_entities", "list_schema_fields"], "read-only"⟩
  | .lineage =>
    ⟨"impact-analysis", ["get_lineage_upstream", "get_lineage_downstream"], ["get_lineage"], "read-only"⟩
  | .quality => ⟨"quality-evidence", ["get_dataset_assertions"], ["get_dataset_queries"], "read-only"⟩
  | .audit => ⟨"governance-audit", ACK_CANONICAL_READ_TOOLS, MCP_CANONICAL_READ_TOOLS, "read-only"⟩
  | .enrich =>
    ⟨"governed-enrichment-preview", ACK_CANONICAL_READ_TOOLS, MCP_CANONICAL_READ_TOOLS, "preview-only"⟩
  | .usingDatahub =>
    ⟨"datahub-operation-policy", ACK_CANONICAL_READ_TOOLS, MCP_CANONICAL_READ_TOOLS, "read-only"⟩

/-- The plan as a value. -/
def ExecutionPlan.value (plan : ExecutionPlan) : Py :=
  .object [("phase", .lit plan.phase),
    ("requiredCalls", .object [("ack", .list (plan.ack.map .lit)),
      ("officialMcp", .list (plan.officialMcp.map .lit))]),
    ("mode", .lit plan.mode)]

/-- `v == plan`. -/
def ExecutionPlan.equals (plan : ExecutionPlan) (v : Py) : Bool :=
  let calls := v.get "requiredCalls"
  v.exact ["phase", "requiredCalls", "mode"] && (v.get "phase").isText (js plan.phase)
    && calls.exact ["ack", "officialMcp"] && (calls.get "ack").isTexts (plan.ack.map js)
    && (calls.get "officialMcp").isTexts (plan.officialMcp.map js)
    && (v.get "mode").isText (js plan.mode)

/-! ## 2. The artifacts -/

/-- The elements, where it is a list. -/
def elementsOf : Py → List Py
  | .list items => items
  | _ => []

/-- `isinstance(v, list)`. -/
def isList : Py → Bool
  | .list _ => true
  | _ => false

/-- `v == n`, for a number. -/
def isNumber (v : Py) (n : ℕ) : Bool :=
  match v with
  | .int m => m = n
  | .float repr _ => repr = decimalText n ++ js ".0"
  | _ => false

section Grounding

variable (P : Remediation.Platform)

/-- `reviewed_skill_execution`: the plan and its digest. -/
def reviewedSkillExecution (skill : Skill) (artifactDigest : Text) :
    Except String (ExecutionPlan × Text) := do
  if !isDigest artifactDigest then raise "DataHub Skill artifact digest drift"
  else
    let plan := skillExecutionPlan skill
    let planDigest ← digestOf P
      (.object [("sourceArtifactDigest", .str artifactDigest), ("executionPlan", plan.value)])
    return (plan, planDigest)

/-- An artifact in the loop of `validated_skill_artifacts`: what is left to read of it is its digest. -/
def validatedArtifact (skill : Skill) (item : Py) : Except String (Skill × Text) :=
  match item.get "artifactDigest" with
  | .str d => do
    if !isDigest d then raise "DataHub Skill artifact binding drift"
    else
      let (plan, planDigest) ← reviewedSkillExecution P skill d
      let reviewed := item.get "reviewedExecution"
      if reviewed.exact ["executionPlan", "executionPlanDigest"] && plan.equals (reviewed.get "executionPlan")
          && (reviewed.get "executionPlanDigest").isText planDigest then
        return (skill, d)
      else raise "DataHub Skill artifact binding drift"
  | _ => raise "DataHub Skill artifact binding drift"

/-- `validated_skill_artifacts`. -/
def validatedSkillArtifacts (skills : Py) : Except String (List (Skill × Text)) := do
  if !(skills.isDict && (skills.get "schemaVersion").isText (js "archon.datahub-skills-receipt/v2")
      && (skills.get "sourceCommit").isText (js SKILLS_SOURCE_COMMIT)
      && (skills.get "workflow").isTexts (SKILL_WORKFLOW.map js)
      && isNumber (skills.get "reviewedSkillCount") (OFFICIAL_SKILLS.length + 1)
      && (skills.get "mutationAuthority").isText (js "archon-remediation-worker")
      && (skills.get "digest").isForm isDigest && isList (skills.get "official")
      && isList (skills.get "custom")) then
    raise "DataHub Skills receipt drift"
  else
    let own ← digestOf P (skills.without "digest")
    if !(skills.get "digest").isText own then raise "DataHub Skills receipt digest drift"
    else
      let items := elementsOf (skills.get "official") ++ elementsOf (skills.get "custom")
      if items.all Py.isDict && (Py.list (items.map (·.get "skill"))).isTexts
          (REVIEWED_SKILLS.map fun skill => js skill.name) then
        (REVIEWED_SKILLS.zip items).mapM fun p => validatedArtifact P p.1 p.2
      else raise "DataHub Skills artifact inventory drift"

/-! ## 3. The receipts of the calls -/

/-- How the receipts of a kind of call are read. -/
structure CallPolicy where
  tools : List String
  provider : Option String
  notDict : String
  drift : String
  digestDrift : String

/-- `validated_ack_receipt_digests`. -/
def ackPolicy : CallPolicy where
  tools := ACK_CANONICAL_READ_TOOLS
  provider := some "datahub-agent-context"
  notDict := "Agent Context Kit receipt drift"
  drift := "Agent Context Kit required call drift"
  digestDrift := "Agent Context Kit receipt digest drift"

/-- `validated_mcp_receipt_digests`, which does not look at the provider. -/
def mcpPolicy : CallPolicy where
  tools := MCP_CANONICAL_READ_TOOLS
  provider := none
  notDict := "official DataHub MCP receipt drift"
  drift := "official DataHub MCP receipt drift"
  digestDrift := "official DataHub MCP receipt digest drift"

/-- A receipt in the loop over them. -/
def readReceipt (policy : CallPolicy) (receipts : List (Text × Text)) (receipt : Py) :
    Except String (List (Text × Text)) :=
  if !receipt.isDict then raise policy.notDict
  else
    match receipt.get "tool", receipt.get "digest" with
    | .str name, .str d => do
      if (policy.tools.map js).contains name && (receipts.lookup name).isNone
          && policy.provider.all (fun p => (receipt.get "provider").isText (js p))
          && (receipt.get "status").isText (js "verified")
          && (receipt.get "resultDigest").isForm isDigest && isDigest d then
        let own ← digestOf P (receipt.without "digest")
        if own = d then return receipts ++ [(name, d)] else raise policy.digestDrift
      else raise policy.drift
    | _, _ => raise policy.drift

/-- The digests of the receipts by the names of the tools, of which none is missing. -/
def readReceipts (policy : CallPolicy) (receipts : List Py) (missing : String) :
    Except String (List (Text × Text)) := do
  let digests ← receipts.foldlM (readReceipt P policy) []
  if policy.tools.all fun tool => (digests.lookup (js tool)).isSome then return digests
  else raise missing

/-- `validated_ack_receipt_digests`. -/
def validatedAckReceiptDigests (context : Py) : Except String (List (Text × Text)) :=
  if !(context.isDict && (context.get "digest").isForm isDigest && isList (context.get "receipts")) then
    raise "Agent Context Kit receipt drift"
  else readReceipts P ackPolicy (elementsOf (context.get "receipts"))
    "Agent Context Kit required calls missing"

/-- `validated_mcp_receipt_digests`. -/
def validatedMcpReceiptDigests (reads : Py) : Except String (List (Text × Text) × Py) := do
  if !(reads.isDict
      && (reads.get "schemaVersion").isText (js "archon.official-datahub-mcp-read-receipts/v1")
      && (reads.get "status").isText (js "verified")
      && (reads.get "sequence").isTexts (MCP_CANONICAL_READ_TOOLS.map js)
      && (reads.get "digest").isForm isDigest && isList (reads.get "receipts")) then
    raise "official DataHub MCP receipts drift"
  else
    let own ← digestOf P (reads.without "digest")
    if !(reads.get "digest").isText own then raise "official DataHub MCP receipts digest drift"
    else
      let digests ← readReceipts P mcpPolicy (elementsOf (reads.get "receipts"))
        "official DataHub MCP read sequence drift"
      return (digests, reads.get "digest")

/-! ## 4. The execution receipts -/

/-- The calls of the tools with the digests of their receipts, if none is missing. -/
def satisfiedCalls (digests : List (Text × Text)) (tools : List String) :
    Option (List (String × Text)) :=
  tools.mapM fun tool => (digests.lookup (js tool)).map (tool, ·)

/-- A call that is satisfied. -/
def callValue (call : String × Text) : Py :=
  .object [("tool", .lit call.1), ("receiptDigest", .str call.2)]

/-- The `execution` of `ground_skills`. -/
def execution (skill : Skill) (artifactDigest planDigest : Text) (ack mcp : List (String × Text)) :
    List (String × Py) :=
  let plan := skillExecutionPlan skill
  [("schemaVersion", .lit "archon.datahub-skill-execution-receipt/v2"), ("skill", .lit skill.name),
    ("sourceArtifactDigest", .str artifactDigest), ("executionPlan", plan.value),
    ("executionPlanDigest", .str planDigest),
    ("status", .lit (if skill = .enrich then "previewed" else "executed")),
    ("satisfiedAckCalls", .list (ack.map callValue)),
    ("satisfiedOfficialMcpCalls", .list (mcp.map callValue)),
    ("ackReceiptDigests", .list (ack.map fun call => .str call.2)),
    ("officialMcpReadReceiptDigests", .list (mcp.map fun call => .str call.2)),
    ("mode", .lit plan.mode), ("requiredCallsSatisfied", .bool true), ("mutationsEnabled", .bool false),
    ("providerPayloadStored", .bool false)]

/-- A round of the loop of `ground_skills`.  The reviewed execution of an artifact is the one that is made
of its digest. -/
def executionReceipt (ackDigests mcpDigests : List (Text × Text)) (artifact : Skill × Text) :
    Except String Py := do
  let (plan, planDigest) ← reviewedSkillExecution P artifact.1 artifact.2
  match satisfiedCalls ackDigests plan.ack, satisfiedCalls mcpDigests plan.officialMcp with
  | some ack, some mcp =>
    let fields := execution artifact.1 artifact.2 planDigest ack mcp
    let own ← digestOf P (.object fields)
    return .object (fields ++ [("digest", .str own)])
  | _, _ => raise "DataHub Skill required calls missing"

/-- `ground_skills`. -/
def groundSkills (skills context officialMcpReads : Py) : Except String Py := do
  let artifacts ← validatedSkillArtifacts P skills
  let ackDigests ← validatedAckReceiptDigests P context
  let (mcpDigests, mcpEnvelopeDigest) ← validatedMcpReceiptDigests P officialMcpReads
  let grounding ← artifacts.mapM (executionReceipt P ackDigests mcpDigests)
  let envelope : List (String × Py) :=
    [("schemaVersion", .lit "archon.datahub-skill-grounding/v2"),
      ("skillsReceiptDigest", skills.get "digest"), ("ackContextDigest", context.get "digest"),
      ("officialMcpReadReceiptsDigest", mcpEnvelopeDigest),
      ("executionOrder", .list (SKILL_WORKFLOW.map .lit)), ("allRequiredCallsSatisfied", .bool true),
      ("receipts", .list grounding)]
  let own ← digestOf P (.object envelope)
  return .object (envelope ++ [("digest", .str own)])

end Grounding

/-! ## 5. The bytes of an execution receipt -/

section Sizes

/-- The bytes of a call that is satisfied, with its comma. -/
def callBytes (tool : String) : ℕ :=
  listedBytes (nameBytes "tool" + bytes (.lit tool) + (nameBytes "receiptDigest" + 73)) + 1

/-- The bytes of an execution receipt with its digest, and of its comma. -/
def executionBytes (skill : Skill) : ℕ :=
  let plan := skillExecutionPlan skill
  listedBytes [nameBytes "schemaVersion" + bytes (.lit "archon.datahub-skill-execution-receipt/v2"),
    nameBytes "skill" + bytes (.lit skill.name), nameBytes "sourceArtifactDigest" + 73,
    nameBytes "executionPlan" + bytes plan.value, nameBytes "executionPlanDigest" + 73,
    nameBytes "status" + bytes (.lit (if skill = .enrich then "previewed" else "executed")),
    nameBytes "satisfiedAckCalls" + listedBytes (plan.ack.map callBytes).sum,
    nameBytes "satisfiedOfficialMcpCalls" + listedBytes (plan.officialMcp.map callBytes).sum,
    nameBytes "ackReceiptDigests" + listedBytes (plan.ack.length * 74),
    nameBytes "officialMcpReadReceiptDigests" + listedBytes (plan.officialMcp.length * 74),
    nameBytes "mode" + bytes (.lit plan.mode), nameBytes "requiredCallsSatisfied" + 4,
    nameBytes "mutationsEnabled" + 5, nameBytes "providerPayloadStored" + 5,
    nameBytes "digest" + 73].sum + 1

/-- The six execution receipts with their commas. -/
theorem sum_executionBytes : (REVIEWED_SKILLS.map executionBytes).sum = 13437 := by
  decide +kernel

variable {calls : List (String × Text)} {tools : List String}

/-- Calls of the tools, with digests. -/
structure Called (calls : List (String × Text)) (tools : List String) : Prop where
  tools_eq : calls.map Prod.fst = tools
  isDigest : ∀ call ∈ calls, isDigest call.2 = true

theorem bytes_calls (h : Called calls tools) :
    bytes (.list (calls.map callValue)) = listedBytes (tools.map callBytes).sum := by
  rw [bytes, bytesItems_eq, List.map_map, ← h.tools_eq, List.map_map]
  congr 2
  refine List.map_congr_left fun call hcall => ?_
  rw [Function.comp_apply, Function.comp_apply, callValue, bytes_object, callBytes]
  simp [bytes_digest (h.isDigest call hcall)]

theorem bytes_callDigests (h : Called calls tools) :
    bytes (.list (calls.map fun call => .str call.2)) = listedBytes (tools.length * 74) := by
  have hmap : ((calls.map fun call => Py.str call.2).map fun v => bytes v + 1)
      = List.replicate tools.length 74 := by
    rw [← h.tools_eq, List.length_map, List.map_map, List.eq_replicate_iff]
    refine ⟨List.length_map _, fun n hn => ?_⟩
    obtain ⟨call, hcall, rfl⟩ := List.mem_map.mp hn
    rw [Function.comp_apply, bytes_digest (h.isDigest call hcall)]
  rw [bytes, bytesItems_eq, hmap, List.sum_replicate, nsmul_eq_mul, Nat.cast_id]

/-- **An execution receipt has as many bytes as its skill says.** -/
theorem bytes_execution {skill : Skill} {artifactDigest planDigest own : Text}
    {ack mcp : List (String × Text)} (hartifact : isDigest artifactDigest = true)
    (hplan : isDigest planDigest = true) (hown : isDigest own = true)
    (hack : Called ack (skillExecutionPlan skill).ack)
    (hmcp : Called mcp (skillExecutionPlan skill).officialMcp) :
    bytes (.object (execution skill artifactDigest planDigest ack mcp ++ [("digest", .str own)])) + 1
      = executionBytes skill := by
  have hsatisfied := bytes_calls hack
  have hsatisfied' := bytes_calls hmcp
  have hdigests := bytes_callDigests hack
  have hdigests' := bytes_callDigests hmcp
  rw [bytes_object, execution, executionBytes]
  simp only [List.cons_append, List.nil_append, List.map_cons, List.map_nil, bytes_digest hartifact,
    bytes_digest hplan, bytes_digest hown, hsatisfied, hsatisfied', hdigests, hdigests', bytes_bool,
    if_true, Bool.false_eq_true, if_false]

end Sizes

/-! ## 6. What a grounding is -/

section Grounded

variable {P : Remediation.Platform}

theorem get_of_get? {v w : Py} {key : String} (h : v.get? key = some w) : v.get key = w := by
  rw [Py.get, h, Option.getD_some]

/-- A receipt that is read adds its digest, and is verified. -/
theorem readReceipt_eq_ok {policy : CallPolicy} {digests digests' : List (Text × Text)} {receipt : Py}
    (h : readReceipt P policy digests receipt = .ok digests') :
    (∃ name d, digests' = digests ++ [(name, d)] ∧ isDigest d = true)
      ∧ (receipt.get "status").isText (js "verified") = true := by
  rw [readReceipt] at h
  split at h
  · cases h
  · split at h
    · rename_i name d _ _
      split at h
      · rename_i hchecked
        simp only [Bool.and_eq_true] at hchecked
        obtain ⟨own, -, h⟩ := bind_eq_ok.mp h
        split at h
        · cases h
          exact ⟨⟨name, d, rfl, hchecked.2⟩, hchecked.1.1.2⟩
        · cases h
      · cases h
    · cases h

theorem foldlM_readReceipt {policy : CallPolicy} {receipts : List Py} :
    ∀ {digests digests' : List (Text × Text)},
      receipts.foldlM (readReceipt P policy) digests = .ok digests' →
      (∀ p ∈ digests, isDigest p.2 = true) →
      (∀ p ∈ digests', isDigest p.2 = true)
        ∧ ∀ r ∈ receipts, (r.get "status").isText (js "verified") = true := by
  induction receipts with
  | nil =>
    intro digests digests' h hdigests
    cases h
    exact ⟨hdigests, fun r hr => absurd hr List.not_mem_nil⟩
  | cons receipt receipts ih =>
    intro digests digests' h hdigests
    rw [List.foldlM_cons] at h
    obtain ⟨between, hbetween, h⟩ := bind_eq_ok.mp h
    obtain ⟨⟨name, d, rfl, hd⟩, hverified⟩ := readReceipt_eq_ok hbetween
    obtain ⟨hall, hrest⟩ := ih h (by
      intro p hp
      rcases List.mem_append.mp hp with hp | hp
      · exact hdigests p hp
      · rw [List.mem_singleton.mp hp]
        exact hd)
    exact ⟨hall, List.forall_mem_cons.mpr ⟨hverified, hrest⟩⟩

theorem readReceipts_eq_ok {policy : CallPolicy} {receipts : List Py} {missing : String}
    {digests : List (Text × Text)} (h : readReceipts P policy receipts missing = .ok digests) :
    (∀ p ∈ digests, isDigest p.2 = true)
      ∧ ∀ r ∈ receipts, (r.get "status").isText (js "verified") = true := by
  rw [readReceipts] at h
  obtain ⟨digests', hdigests', h⟩ := bind_eq_ok.mp h
  split at h
  · cases h
    exact foldlM_readReceipt hdigests' fun p hp => absurd hp List.not_mem_nil
  · cases h

theorem validatedAck_eq_ok {context : Py} {digests : List (Text × Text)}
    (h : validatedAckReceiptDigests P context = .ok digests) :
    (∀ p ∈ digests, isDigest p.2 = true)
      ∧ ∀ r ∈ elementsOf (context.get "receipts"), (r.get "status").isText (js "verified") = true := by
  rw [validatedAckReceiptDigests] at h
  split at h
  · cases h
  · exact readReceipts_eq_ok h

theorem validatedMcp_eq_ok {reads own : Py} {digests : List (Text × Text)}
    (h : validatedMcpReceiptDigests P reads = .ok (digests, own)) :
    ∀ p ∈ digests, isDigest p.2 = true := by
  rw [validatedMcpReceiptDigests] at h
  split at h
  · cases h
  · obtain ⟨d, -, h⟩ := bind_eq_ok.mp h
    split at h
    · cases h
    · obtain ⟨digests', hdigests', h⟩ := bind_eq_ok.mp h
      cases h
      exact (readReceipts_eq_ok hdigests').1

theorem called_of_satisfied {digests : List (Text × Text)}
    (hdigests : ∀ p ∈ digests, isDigest p.2 = true) {tools : List String} : ∀ {calls : List (String × Text)}, satisfiedCalls digests tools = some calls →
      Called calls tools := by
  unfold satisfiedCalls
  induction tools with
  | nil =>
    intro calls h
    cases h
    exact ⟨rfl, fun call hcall => absurd hcall List.not_mem_nil⟩
  | cons tool tools ih =>
    intro calls h
    simp only [List.mapM_cons, bind, Option.bind_eq_some_iff, Option.map_eq_some_iff] at h
    obtain ⟨call, ⟨d, hd, rfl⟩, rest, hrest, h⟩ := h
    obtain rfl := Option.some.inj h
    have hcalled := ih hrest
    obtain ⟨before, after, hsplit, -⟩ := List.lookup_eq_some_iff.mp hd
    have hdigest : isDigest d = true := hdigests (js tool, d) (by simp [hsplit])
    exact ⟨by rw [List.map_cons, hcalled.tools_eq], List.forall_mem_cons.mpr ⟨hdigest, hcalled.isDigest⟩⟩

theorem reviewed_eq_ok {skill : Skill} {artifactDigest planDigest : Text} {plan : ExecutionPlan}
    (h : reviewedSkillExecution P skill artifactDigest = .ok (plan, planDigest)) :
    plan = skillExecutionPlan skill ∧ isDigest artifactDigest = true ∧ isDigest planDigest = true := by
  rw [reviewedSkillExecution] at h
  split at h
  · cases h
  · rename_i hartifact
    obtain ⟨d, hd, h⟩ := bind_eq_ok.mp h
    cases h
    exact ⟨rfl, by simpa using hartifact, (digestOf_eq_ok hd).1⟩

/-- An artifact that is accepted is one of its skill. -/
theorem validatedArtifact_eq_ok {skill : Skill} {item : Py} {artifact : Skill × Text}
    (h : validatedArtifact P skill item = .ok artifact) : artifact.1 = skill := by
  rw [validatedArtifact] at h
  split at h
  · split at h
    · cases h
    · obtain ⟨⟨plan, planDigest⟩, -, h⟩ := bind_eq_ok.mp h
      dsimp only at h
      split at h
      · cases h
        rfl
      · cases h
  · cases h

theorem mapM_validatedArtifact {skills : List Skill} : ∀ {items : List Py}
    {artifacts : List (Skill × Text)},
    items.length = skills.length →
    ((skills.zip items).mapM fun p => validatedArtifact P p.1 p.2) = .ok artifacts →
    artifacts.map Prod.fst = skills := by
  induction skills with
  | nil =>
    intro items artifacts _ h
    rw [List.zip_nil_left, List.mapM_nil] at h
    cases h
    rfl
  | cons skill skills ih =>
    intro items artifacts hlength h
    cases items with
    | nil => cases hlength
    | cons item items =>
      rw [List.zip_cons_cons, List.mapM_cons] at h
      obtain ⟨artifact, hartifact, h⟩ := bind_eq_ok.mp h
      obtain ⟨rest, hrest, h⟩ := bind_eq_ok.mp h
      cases h
      rw [List.map_cons, validatedArtifact_eq_ok hartifact, ih (by simpa using hlength) hrest]

theorem validatedSkillArtifacts_eq_ok {skills : Py} {artifacts : List (Skill × Text)}
    (h : validatedSkillArtifacts P skills = .ok artifacts) :
    artifacts.map Prod.fst = REVIEWED_SKILLS := by
  rw [validatedSkillArtifacts] at h
  split at h
  · cases h
  · obtain ⟨own, -, h⟩ := bind_eq_ok.mp h
    split at h
    · cases h
    · dsimp only at h
      split at h
      · rename_i hitems
        rw [Bool.and_eq_true, Py.isTexts_iff] at hitems
        have hlength := congrArg List.length (Py.list.inj hitems.2)
        exact mapM_validatedArtifact (by simpa using hlength) h
      · cases h

/-- An execution receipt has the bytes of its skill, and can be encoded. -/
theorem executionReceipt_eq_ok {ackDigests mcpDigests : List (Text × Text)} {artifact : Skill × Text}
    {r : Py}
    (hack : ∀ p ∈ ackDigests, isDigest p.2 = true) (hmcp : ∀ p ∈ mcpDigests, isDigest p.2 = true)
    (h : executionReceipt P ackDigests mcpDigests artifact = .ok r) :
    bytes r + 1 = executionBytes artifact.1 ∧ (dumps r).isSome = true := by
  rw [executionReceipt] at h
  obtain ⟨⟨plan, planDigest⟩, hreviewed, h⟩ := bind_eq_ok.mp h
  obtain ⟨rfl, hartifact, hplan⟩ := reviewed_eq_ok hreviewed
  dsimp only at h
  split at h
  · rename_i ack mcp hcalls hcalls'
    obtain ⟨own, hown, h⟩ := bind_eq_ok.mp h
    cases h
    obtain ⟨hdigest, hdumps⟩ := digestOf_eq_ok hown
    refine ⟨bytes_execution hartifact hplan hdigest (called_of_satisfied hack hcalls)
      (called_of_satisfied hmcp hcalls'), ?_⟩
    rw [dumps_object_isSome] at hdumps ⊢
    rw [List.all_append, hdumps]
    simp [encodable_of_isDigest hdigest]
  · cases h

theorem mapM_executionReceipt {ackDigests mcpDigests : List (Text × Text)}
    (hack : ∀ p ∈ ackDigests, isDigest p.2 = true) (hmcp : ∀ p ∈ mcpDigests, isDigest p.2 = true)
    {artifacts : List (Skill × Text)} : ∀ {receipts : List Py},
      artifacts.mapM (executionReceipt P ackDigests mcpDigests) = .ok receipts →
      bytesItems receipts = ((artifacts.map Prod.fst).map executionBytes).sum
        ∧ ∀ r ∈ receipts, (dumps r).isSome = true := by
  induction artifacts with
  | nil =>
    intro receipts h
    rw [List.mapM_nil] at h
    cases h
    exact ⟨rfl, fun r hr => absurd hr List.not_mem_nil⟩
  | cons artifact artifacts ih =>
    intro receipts h
    rw [List.mapM_cons] at h
    obtain ⟨r, hr, h⟩ := bind_eq_ok.mp h
    obtain ⟨rest, hrest, h⟩ := bind_eq_ok.mp h
    cases h
    obtain ⟨hbytes, hdumps⟩ := executionReceipt_eq_ok hack hmcp hr
    obtain ⟨hsum, hall⟩ := ih hrest
    refine ⟨?_, List.forall_mem_cons.mpr ⟨hdumps, hall⟩⟩
    rw [bytesItems, hbytes, hsum, List.map_cons, List.map_cons, List.sum_cons]

/-- What `ground_skills` returns, as far as an analysis reads it. -/
structure Grounded (grounding : Py) (d : Text) (receipts : List Py) : Prop where
  digest : grounding.get? "digest" = some (.str d)
  isDigest : isDigest d = true
  listed : grounding.get? "receipts" = some (.list receipts)
  encodable : ∀ r ∈ receipts, (dumps r).isSome = true
  bytes_eq : bytes (.list receipts) = 13438

/-- **A grounding**: its receipts always take as many bytes, and every receipt of the context is
verified. -/
theorem grounded_of_ok {skills context mcp grounding : Py}
    (h : groundSkills P skills context mcp = .ok grounding) :
    (∃ d receipts, Grounded grounding d receipts)
      ∧ ∀ r ∈ elementsOf (context.get "receipts"), (r.get "status").isText (js "verified") = true := by
  rw [groundSkills] at h
  obtain ⟨artifacts, hartifacts, h⟩ := bind_eq_ok.mp h
  obtain ⟨ackDigests, hack, h⟩ := bind_eq_ok.mp h
  obtain ⟨⟨mcpDigests, mcpEnvelopeDigest⟩, hmcp, h⟩ := bind_eq_ok.mp h
  obtain ⟨receipts, hreceipts, h⟩ := bind_eq_ok.mp h
  obtain ⟨own, hown, h⟩ := bind_eq_ok.mp h
  cases h
  obtain ⟨hackDigests, hverified⟩ := validatedAck_eq_ok hack
  obtain ⟨hsum, hall⟩ := mapM_executionReceipt hackDigests (validatedMcp_eq_ok hmcp) hreceipts
  rw [validatedSkillArtifacts_eq_ok hartifacts, sum_executionBytes] at hsum
  refine ⟨⟨own, receipts, ?_⟩, hverified⟩
  exact {
    digest := by simp [List.lookup]
    isDigest := (digestOf_eq_ok hown).1
    listed := by simp [List.lookup]
    encodable := hall
    bytes_eq := by
      rw [bytes, hsum]
      rfl }

end Grounded

/-! ## 7. What is accepted -/

section Accepted

variable {P : Remediation.Platform} {policy : CallPolicy} {name : String} {receipt : Py}

/-- A receipt of the call that is accepted, and that can be encoded. -/
structure Genuine (P : Remediation.Platform) (policy : CallPolicy) (name : String) (receipt : Py) :
    Prop where
  isDict : receipt.isDict = true
  tool : receipt.get "tool" = .lit name
  provider : (policy.provider.all fun p => (receipt.get "provider").isText (js p)) = true
  status : (receipt.get "status").isText (js "verified") = true
  resultDigest : (receipt.get "resultDigest").isForm isDigest = true
  digest : ∃ own, receipt.get "digest" = .str own ∧ digestOf P (receipt.without "digest") = .ok own
  encodable : (dumps receipt).isSome = true

theorem readReceipt_of_genuine (h : Genuine P policy name receipt) (hname : name ∈ policy.tools)
    {digests : List (Text × Text)} (hfresh : digests.lookup (js name) = none) :
    ∃ own, readReceipt P policy digests receipt = .ok (digests ++ [(js name, own)]) := by
  obtain ⟨own, hown, hdigest⟩ := h.digest
  refine ⟨own, ?_⟩
  have hcontains : (policy.tools.map js).contains (js name) = true :=
    List.contains_iff_mem.mpr (List.mem_map_of_mem hname)
  simp only [readReceipt, h.isDict, h.tool, Py.lit, hown, h.provider, h.status, h.resultDigest, hcontains,
    hfresh, (digestOf_eq_ok hdigest).1, hdigest, Option.isNone_none, Bool.not_true, Bool.false_eq_true,
    if_false, Bool.and_self, if_true, bind, Except.bind]
  rfl

theorem foldlM_genuine {names : List String} {receipts : List Py}
    (h : List.Forall₂ (Genuine P policy) names receipts) : ∀ digests : List (Text × Text),
      (∀ n ∈ names, n ∈ policy.tools) → names.Nodup → (∀ n ∈ names, js n ∉ digests.map Prod.fst) →
      ∃ added, receipts.foldlM (readReceipt P policy) digests = .ok added
        ∧ added.map Prod.fst = digests.map Prod.fst ++ names.map js := by
  induction h with
  | nil =>
    intro digests _ _ _
    exact ⟨digests, rfl, by simp⟩
  | @cons name receipt names receipts hreceipt _ ih =>
    intro digests htools hnodup hfresh
    obtain ⟨htool, htools⟩ := List.forall_mem_cons.mp htools
    obtain ⟨hname, hnodup⟩ := List.nodup_cons.mp hnodup
    obtain ⟨hfirst, hfresh⟩ := List.forall_mem_cons.mp hfresh
    have hnone : digests.lookup (js name) = none := by
      rw [List.lookup_eq_none_iff]
      intro p hp
      rw [bne_iff_ne]
      intro heq
      exact hfirst (heq ▸ List.mem_map_of_mem hp)
    obtain ⟨own, hown⟩ := readReceipt_of_genuine hreceipt htool hnone
    obtain ⟨added, hadded, hkeys⟩ := ih (digests ++ [(js name, own)]) htools hnodup (by
      intro n hn hmem
      rw [List.map_append, List.mem_append] at hmem
      rcases hmem with hmem | hmem
      · exact hfresh n hn hmem
      · have hsame : js n = js name := by simpa using hmem
        exact hname (js_inj.mp hsame ▸ hn))
    refine ⟨added, ?_, ?_⟩
    · rw [List.foldlM_cons, hown]
      exact hadded
    · simp [hkeys]

theorem lookup_of_keys {digests : List (Text × Text)} {names : List String}
    (h : digests.map Prod.fst = names.map js) {n : String} (hn : n ∈ names) :
    (digests.lookup (js n)).isSome = true := by
  rw [Option.isSome_iff_ne_none, ne_eq, List.lookup_eq_none_iff]
  intro hnone
  have hmem : js n ∈ digests.map Prod.fst := h ▸ List.mem_map_of_mem hn
  obtain ⟨p, hp, heq⟩ := List.mem_map.mp hmem
  have hne := hnone p hp
  rw [heq] at hne
  simp at hne

/-- Receipts of all tools in their order are accepted. -/
theorem readReceipts_of_genuine (policy : CallPolicy) (missing : String) {receipts : List Py}
    (h : List.Forall₂ (Genuine P policy) policy.tools receipts) (hnodup : policy.tools.Nodup) :
    ∃ digests, readReceipts P policy receipts missing = .ok digests
      ∧ digests.map Prod.fst = policy.tools.map js := by
  obtain ⟨digests, hdigests, hkeys⟩ := foldlM_genuine h [] (fun _ hn => hn) hnodup (by simp)
  have hkeys : digests.map Prod.fst = policy.tools.map js := by simpa using hkeys
  have hall : (policy.tools.all fun tool => (digests.lookup (js tool)).isSome) = true :=
    List.all_eq_true.mpr fun tool htool => lookup_of_keys hkeys htool
  refine ⟨digests, ?_, hkeys⟩
  simp only [readReceipts, hdigests, bind, Except.bind, hall, if_true]
  rfl

theorem satisfied_of_keys {digests : List (Text × Text)} {names : List String}
    (h : digests.map Prod.fst = names.map js) : ∀ {tools : List String}, (∀ t ∈ tools, t ∈ names) →
      ∃ calls, satisfiedCalls digests tools = some calls := by
  intro tools
  unfold satisfiedCalls
  induction tools with
  | nil =>
    intro _
    exact ⟨[], rfl⟩
  | cons tool tools ih =>
    intro htools
    obtain ⟨htool, htools⟩ := List.forall_mem_cons.mp htools
    obtain ⟨d, hd⟩ := Option.isSome_iff_exists.mp (lookup_of_keys h htool)
    obtain ⟨calls, hcalls⟩ := ih htools
    exact ⟨(tool, d) :: calls, by simp [List.mapM_cons, hd, hcalls]⟩

theorem dumps_plan (skill : Skill) : (dumps (skillExecutionPlan skill).value).isSome = true := by
  cases skill <;> decide

theorem plan_equals (skill : Skill) :
    (skillExecutionPlan skill).equals (skillExecutionPlan skill).value = true := by
  cases skill <;> decide

theorem plan_calls (skill : Skill) : (∀ t ∈ (skillExecutionPlan skill).ack, t ∈ ACK_CANONICAL_READ_TOOLS)
    ∧ ∀ t ∈ (skillExecutionPlan skill).officialMcp, t ∈ MCP_CANONICAL_READ_TOOLS := by
  cases skill <;> decide

/-- There is a reviewed execution of every digest. -/
theorem exists_reviewed (skill : Skill) {d : Text} (hd : isDigest d = true) :
    ∃ planDigest, reviewedSkillExecution P skill d = .ok (skillExecutionPlan skill, planDigest) := by
  obtain ⟨planDigest, hdigest⟩ := digestOf_of_isSome (P := P)
    (v := .object [("sourceArtifactDigest", .str d),
      ("executionPlan", (skillExecutionPlan skill).value)])
    (by simp [encodable_of_isDigest hd, dumps_plan])
  refine ⟨planDigest, ?_⟩
  simp only [reviewedSkillExecution, hd, hdigest, Bool.not_true, Bool.false_eq_true, if_false, bind,
    Except.bind]
  rfl

/-- There is an execution receipt where no call is missing. -/
theorem exists_executionReceipt {ackDigests mcpDigests : List (Text × Text)}
    (hack : ∀ p ∈ ackDigests, isDigest p.2 = true) (hmcp : ∀ p ∈ mcpDigests, isDigest p.2 = true)
    (hackKeys : ackDigests.map Prod.fst = ACK_CANONICAL_READ_TOOLS.map js)
    (hmcpKeys : mcpDigests.map Prod.fst = MCP_CANONICAL_READ_TOOLS.map js) {skill : Skill} {d : Text}
    (hd : isDigest d = true) : ∃ r, executionReceipt P ackDigests mcpDigests (skill, d) = .ok r := by
  obtain ⟨planDigest, hreviewed⟩ := exists_reviewed (P := P) skill hd
  have hplan := (reviewed_eq_ok hreviewed).2.2
  obtain ⟨ack, hcalls⟩ := satisfied_of_keys hackKeys (plan_calls skill).1
  obtain ⟨mcp, hcalls'⟩ := satisfied_of_keys hmcpKeys (plan_calls skill).2
  have hencodable : ∀ {calls : List (String × Text)} {tools}, Called calls tools →
      (calls.all fun call => (dumps (callValue call)).isSome) = true
        ∧ (calls.all fun call => encodable call.2) = true := by
    intro calls tools h
    rw [List.all_eq_true, List.all_eq_true]
    refine ⟨fun call hcall => ?_, fun call hcall => encodable_of_isDigest (h.isDigest call hcall)⟩
    simp [callValue, Py.lit, encodable_of_isDigest (h.isDigest call hcall)]
  have hack' := hencodable (called_of_satisfied hack hcalls)
  have hmcp' := hencodable (called_of_satisfied hmcp hcalls')
  obtain ⟨own, hown⟩ := digestOf_of_isSome (P := P)
    (v := .object (execution skill d planDigest ack mcp)) (by
    simp [execution, Py.lit, encodable_of_isDigest hd, encodable_of_isDigest hplan, dumps_plan, List.all_map,
      Function.comp_def, hack'.1, hack'.2, hmcp'.1, hmcp'.2])
  exact ⟨_, by simp only [executionReceipt, hreviewed, bind, Except.bind, hcalls, hcalls', hown]; rfl⟩

end Accepted

end Companion
