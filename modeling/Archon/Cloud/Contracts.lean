/-
# The contracts of the Cloud worker

The Cloud worker is Python, and reads its jobs from the same table as the Core host.  `contracts.py`
holds what its handlers have in common: the identity of a job, digests, instants, and the record of
the capabilities that the runtime registers.

The worker checks with `raise ContractError(code)`; a check here is a `demand` of that code.  Numbers
come from the table as whole numbers (`normalize_ddb`); the values that are checked below hold none.
-/
import Archon.Control.Canonical

namespace Cloud

open Ecma Remediation
open Jobs (Py isDigest)

/-! ## 1. What is raised -/

/-- What a handler raises. -/
inductive Rejection where
  /-- `ContractError`. -/
  | contract (code : String)
  /-- `RetryableFailure`. -/
  | retryable (code : String)
  /-- `AttributeError`, `KeyError` or `TypeError`, of an operation of the language. -/
  | language
deriving DecidableEq

/-- `if not condition: raise ContractError(code)`. -/
def demand (condition : Bool) (code : String) : Except Rejection Unit :=
  if condition then .ok () else .error (.contract code)

theorem bind_eq_ok {α β : Type} {x : Except Rejection α} {f : α → Except Rejection β} {b : β} :
    (x >>= f) = .ok b ↔ ∃ a, x = .ok a ∧ f a = .ok b := by
  cases x with
  | error e => exact ⟨nofun, fun ⟨_, h, _⟩ => nomatch h⟩
  | ok a => exact ⟨fun h => ⟨a, rfl, h⟩, fun ⟨_, h, hf⟩ => Except.ok.inj h ▸ hf⟩

@[simp] theorem demand_eq_ok {condition : Bool} {code : String} {u : Unit} :
    demand condition code = .ok u ↔ condition = true := by
  cases condition <;> simp [demand]

@[simp] theorem demand_true (code : String) : demand true code = .ok () := rfl

@[simp] theorem demand_false (code : String) : demand false code = .error (.contract code) := rfl

/-! ## 2. Jobs -/

/-- `PROFILE`. -/
def PROFILE : Text := js "cloud"

/-- `PII_TAG`. -/
def PII_TAG : Text := js "urn:li:tag:PII"

/-- `DATASET_URN`. -/
def DATASET_URN : Text :=
  js "urn:li:dataset:(urn:li:dataPlatform:sqlite,archon_demo.customers,PROD)"

/-- `COLUMN_PATH`. -/
def COLUMN_PATH : Text := js "customer_email"

/-- `RuntimeJob`, as far as the handlers read it. -/
structure RuntimeJob where
  jobId : Text
  auditId : Text
  runtimeEvidenceDigest : Text
  sessionId : Text
  generation : Text
  capabilityDigest : Text
  operation : Text
  request : Py

/-- What the worker takes from its environment and from the libraries it uses. -/
structure Host where
  P : Platform
  /-- `datetime.fromisoformat(t)`, of a text with an offset, in microseconds. -/
  fromisoformat : Text → Option Int

/-- Node.js, and a Python that reads the instants of Node.js. -/
def Host.sample : Host where
  P := Platform.node
  fromisoformat t := (Platform.node.dateParse (t.take (t.length - 6) ++ js "Z")).map (· * 1000)

section Contracts

variable (H : Host)

/-- `digest`. -/
def digest (v : Py) : Except Rejection Text :=
  match Jobs.digest H.P v with
  | some d => .ok d
  | none => .error (.contract "canonical_json_invalid")

/-- `parse_instant`. -/
def parseInstant (v : Py) : Except Rejection Int :=
  match v with
  | .str t =>
    if Jobs.len t ≤ 64 ∧ t.getLast? = some 0x5A then
      match H.fromisoformat (t.dropLast ++ js "+00:00") with
      | some μs => .ok μs
      | none => .error (.contract "timestamp_invalid")
    else .error (.contract "timestamp_invalid")
  | _ => .error (.contract "timestamp_invalid")

/-- `^urn:li:tag:[A-Za-z0-9_.:-]{1,220}$`. -/
def isTag (t : Text) : Bool :=
  (js "urn:li:tag:").isPrefixOf t && 12 ≤ t.length && t.length ≤ 231
    && (t.drop 11).all fun u => Jobs.isTokenUnit u || u == 0x2E || u == 0x3A

/-! ## 3. Capabilities -/

/-- `CAPABILITY_KEYS`. -/
def CAPABILITY_KEYS : List String :=
  ["mcpRead", "mcpGovernedWrite", "agentContextKit", "dataHubSkills", "analyticsAgent"]

/-- `type(v) is bool`. -/
def isBool : Py → Bool
  | .bool _ => true
  | _ => false

/-- `v is True`. -/
def isTrue : Py → Bool
  | .bool b => b
  | _ => false

/-- `capability_digest`. -/
def capabilityDigest (generation : Text) (capabilities : Py) : Except Rejection Text := do
  demand (capabilities.exact CAPABILITY_KEYS
    && CAPABILITY_KEYS.all fun key => isBool (capabilities.get key)) "runtime_capabilities_invalid"
  digest H (.object [("schemaVersion", .lit "archon.runtime-capabilities/v1"),
    ("profileId", .str PROFILE), ("generation", .str generation),
    ("capabilities", .object (CAPABILITY_KEYS.map fun key => (key, capabilities.get key)))])

/-- `validate_registry`, of what the table returns, at a time in microseconds. -/
def validateRegistry (value : Py) (job : RuntimeJob) (now : Int) : Except Rejection Py := do
  demand (value.exact ["pk", "sk", "status", "generation", "capabilityDigest", "capabilities",
        "checkedAt"]
      && (value.get "pk").isText (js "RUNTIME#cloud") && (value.get "sk").isText (js "HEALTH")
      && (value.get "status").isText (js "READY") && (value.get "generation").isText job.generation
      && (value.get "capabilityDigest").isText job.capabilityDigest)
    "cloud_runtime_registry_mismatch"
  let checked ← parseInstant H (value.get "checkedAt")
  demand (checked ≤ now && now - checked ≤ 2 * 60 * 1000000) "cloud_runtime_registry_stale"
  let capabilities := value.get "capabilities"
  if !capabilities.isDict then .error .language
  else
    demand (CAPABILITY_KEYS.all fun key => isTrue (capabilities.get key))
      "cloud_runtime_registry_incomplete"
    let d ← capabilityDigest H job.generation capabilities
    demand (d = job.capabilityDigest) "cloud_runtime_registry_incomplete"
    return value

end Contracts

/-! ## 4. What the worker finds in the table -/

theorem lookup_stored (key : Text) (fields : List (Text × Value)) :
    (Control.storedFields fields).lookup key = (Ecma.lookup key fields).map Control.stored := by
  induction fields with
  | nil => rfl
  | cons f fs ih =>
    rw [Control.storedFields, List.lookup_cons, Ecma.lookup_cons, ih]
    by_cases h : f.1 = key
    · rw [if_pos h, beq_iff_eq.mpr h.symm, Option.map_some]
    · rw [if_neg h, beq_false_of_ne (Ne.symm h)]

/-- The members are read as they were written. -/
theorem get_stored (fields : List (Text × Value)) (key : String) :
    (Control.stored (.obj fields)).get key = Control.stored ((Value.obj fields).get (js key)) := by
  rw [Control.stored, Py.get, Py.get?, lookup_stored, Value.get_obj]
  cases Ecma.lookup (js key) fields with
  | none => rw [Option.map_none, Option.getD_none, Option.getD_none, Control.stored]
  | some v => rfl

end Cloud
