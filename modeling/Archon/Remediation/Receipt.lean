/-
# Execution receipts

A receipt records an execution as a value of its own: the artifacts by digest, the projections
before and after, the acknowledgement of the write, the checks, and a chain of events whose
hashes bind one another.  `createExecutionReceipt` builds one and `verifyExecutionReceipt` is run
on receipts from anywhere, so it takes an arbitrary value and answers with a list of issues.

The two are written separately in the source, and they are related here the same way.  Both go
through `eventPayloads`, which reads the fields of `ReceiptContent` from whatever it is given.
`ReceiptFacts` is what an empty list of issues establishes; what the verifier takes on trust has
no field there.
-/
import Mathlib
import Archon.Remediation.Planner

namespace Remediation

open Ecma Ecma.Value

/-! ## 1. Names -/

/-- `ExecutionOutcome`. -/
inductive ExecutionOutcome where
  | VERIFIED
  | REJECTED
  | EXPIRED
  | STALE
  | MUTATION_FAILED
  | INDETERMINATE
  | VERIFICATION_FAILED
deriving DecidableEq

/-- The outcome as it stands in a receipt. -/
def ExecutionOutcome.name : ExecutionOutcome → Value
  | VERIFIED => lit "VERIFIED"
  | REJECTED => lit "REJECTED"
  | EXPIRED => lit "EXPIRED"
  | STALE => lit "STALE"
  | MUTATION_FAILED => lit "MUTATION_FAILED"
  | INDETERMINATE => lit "INDETERMINATE"
  | VERIFICATION_FAILED => lit "VERIFICATION_FAILED"

theorem ExecutionOutcome.name_inj {o o' : ExecutionOutcome} : o.name = o'.name ↔ o = o' := by
  cases o <;> cases o' <;> simp [name, lit]

/-- The kind of a receipt event. -/
inductive EventKind where
  | DOSSIER_BOUND
  | PLAN_BOUND
  | APPROVAL_BOUND
  | PRECONDITION_CHECKED
  | MUTATION_INVOKED
  | POSTCONDITION_CHECKED
  | ROLLBACK_ANCHORED
deriving DecidableEq

/-- The kind as it stands in an event. -/
def EventKind.name : EventKind → Text
  | DOSSIER_BOUND => js "DOSSIER_BOUND"
  | PLAN_BOUND => js "PLAN_BOUND"
  | APPROVAL_BOUND => js "APPROVAL_BOUND"
  | PRECONDITION_CHECKED => js "PRECONDITION_CHECKED"
  | MUTATION_INVOKED => js "MUTATION_INVOKED"
  | POSTCONDITION_CHECKED => js "POSTCONDITION_CHECKED"
  | ROLLBACK_ANCHORED => js "ROLLBACK_ANCHORED"

/-- The name of a check. -/
inductive CheckId where
  | TARGET_UNCHANGED
  | PREEXISTING_TAGS_PRESERVED
  | POLICY_TAG_PRESENT
  | NO_UNEXPECTED_TAGS
  | APPROVAL_BINDING_VALID
deriving DecidableEq

/-- The name as it stands in a check. -/
def CheckId.name : CheckId → Text
  | TARGET_UNCHANGED => js "TARGET_UNCHANGED"
  | PREEXISTING_TAGS_PRESERVED => js "PREEXISTING_TAGS_PRESERVED"
  | POLICY_TAG_PRESENT => js "POLICY_TAG_PRESENT"
  | NO_UNEXPECTED_TAGS => js "NO_UNEXPECTED_TAGS"
  | APPROVAL_BINDING_VALID => js "APPROVAL_BINDING_VALID"

/-! ## 2. Actions -/

/-- `try { return x; } catch { return false; }`. -/
def orFalse (x : Run Bool) : Bool :=
  match x with
  | .ok b => b
  | .error _ => false

theorem orFalse_eq_true {x : Run Bool} : orFalse x = true ↔ x = .ok true := by
  rcases x with e | b <;> simp [orFalse]

/-- `actionValid`. -/
def actionValid (P : Platform) (action : Value) : Bool :=
  orFalse <|
    eqText (action.path ["actionId"]) (js "datahub.add-classification-tag.v1") <&&>
    eqText (action.path ["tool"]) (js "add_tags") <&&>
    eqText (action.path ["inverse", "tool"]) (js "remove_tags") <&&>
    (do
      let arguments ← action.path ["arguments"]
      return decide (stringify arguments = stringify (← action.path ["inverse", "arguments"]))) <&&>
    (do verifyDigest P (← withoutDigest action) (← action.path ["digest"]))

/-- The request that stands for the arguments of an action, in `mutationRequest` and where its
digest is computed again. -/
def requestOf (arguments : Value) : Run Value := do
  let tags ← (← arguments.path ["tag_urns"]).spread
  let entities ← (← arguments.path ["entity_urns"]).spread
  let columns ← (← arguments.path ["column_paths"]).spread
  return object [("tagUrns", .arr tags), ("entityUrns", .arr entities), ("columnPaths", .arr columns)]

/-! ## 3. Events -/

/-- `GENESIS_HASH`. -/
def GENESIS_HASH (P : Platform) : Text := digestOf P (lit "archon-execution-receipt-chain-genesis-v1")

/-- `ReceiptEventPayload`. -/
structure ReceiptEventPayload where
  kind : EventKind
  payload : Value
  occurredAt : Value

/-- The fields `eventPayloads` reads, `undefined` where the object has none. -/
structure ReceiptContent where
  dossierDigest : Value
  planDigest : Value
  approvalDecisionDigest : Value
  before : Value
  after : Value
  mutation : Value
  checks : Value
  rollback : Value
  startedAt : Value
  completedAt : Value

/-- The fields of an object. -/
def contentOf (receipt : Value) : ReceiptContent where
  dossierDigest := receipt.getPath ["dossierDigest"]
  planDigest := receipt.getPath ["planDigest"]
  approvalDecisionDigest := receipt.getPath ["approvalDecisionDigest"]
  before := receipt.getPath ["before"]
  after := receipt.getPath ["after"]
  mutation := receipt.getPath ["mutation"]
  checks := receipt.getPath ["checks"]
  rollback := receipt.getPath ["rollback"]
  startedAt := receipt.getPath ["startedAt"]
  completedAt := receipt.getPath ["completedAt"]

/-- `v ?? null`. -/
def orNull (v : Value) : Value := if v.isNullish then .null else v

/-- Is the postcondition event due?  `input.after || input.checks.length > 0`. -/
def hasPostcondition (c : ReceiptContent) : Run Bool :=
  if c.after.truthy then .ok true else do (← c.checks.prop "length").exceeds 0

/-- The events, given whether there is one for the postcondition. -/
def payloadsWith (c : ReceiptContent) (post : Bool) : List ReceiptEventPayload :=
  [⟨.DOSSIER_BOUND, object [("dossierDigest", c.dossierDigest)], c.startedAt⟩,
    ⟨.PLAN_BOUND, object [("planDigest", c.planDigest)], c.startedAt⟩] ++
  (if c.approvalDecisionDigest.truthy then
    [⟨.APPROVAL_BOUND, object [("approvalDecisionDigest", c.approvalDecisionDigest)], c.startedAt⟩]
  else []) ++
  [⟨.PRECONDITION_CHECKED, object [("beforeDigest", orNull (c.before.getPath ["digest"]))],
    c.startedAt⟩] ++
  (if c.mutation.truthy then
    [⟨.MUTATION_INVOKED,
      object [("requestDigest", c.mutation.getPath ["requestDigest"]),
        ("responseDigest", c.mutation.getPath ["responseDigest"])],
      c.completedAt⟩]
  else []) ++
  (if post then
    [⟨.POSTCONDITION_CHECKED,
      object [("afterDigest", orNull (c.after.getPath ["digest"])), ("checks", c.checks)],
      c.completedAt⟩]
  else []) ++
  [⟨.ROLLBACK_ANCHORED, c.rollback, c.completedAt⟩]

/-- `eventPayloads`. -/
def eventPayloads (c : ReceiptContent) : Run (List ReceiptEventPayload) := do
  return payloadsWith c (← hasPostcondition c)

/-- The unsigned event at a place of the chain. -/
def unsignedEvent (index : Nat) (kind : Text) (occurredAt : Value) (payloadDigest : Text)
    (previousHash : Value) : List (String × Value) :=
  [("sequence", .num (.ofNat index)), ("kind", .str kind), ("occurredAt", occurredAt),
    ("payloadDigest", .str payloadDigest), ("previousHash", previousHash)]

/-- `buildEvents`, from a place of the chain on. -/
def buildEventsFrom (P : Platform) (index : Nat) (previousHash : Value) :
    List ReceiptEventPayload → Run (List Value)
  | [] => .ok []
  | value :: values => do
    let unsigned := unsignedEvent index value.kind.name value.occurredAt (← digest P value.payload)
      previousHash
    let eventHash ← digest P (object unsigned)
    let rest ← buildEventsFrom P (index + 1) (.str eventHash) values
    return object (unsigned ++ [("eventHash", .str eventHash)]) :: rest

/-- `buildEvents`. -/
def buildEvents (P : Platform) (values : List ReceiptEventPayload) : Run (List Value) :=
  buildEventsFrom P 0 (.str (GENESIS_HASH P)) values

/-! ## 4. createExecutionReceipt -/

/-- `CreateExecutionReceiptInput`; an optional member is `undefined` where it is absent. -/
structure CreateExecutionReceiptInput where
  executionId : Text
  outcome : ExecutionOutcome
  dossierDigest : Value
  planDigest : Value
  approvalDecisionDigest : Value
  action : Value
  idempotencyKey : Text
  before : Value
  after : Value
  mutation : Value
  checks : Value
  rollback : Value
  startedAt : Text
  completedAt : Text

/-- What `eventPayloads` reads from it. -/
def CreateExecutionReceiptInput.content (input : CreateExecutionReceiptInput) : ReceiptContent where
  dossierDigest := input.dossierDigest
  planDigest := input.planDigest
  approvalDecisionDigest := input.approvalDecisionDigest
  before := input.before
  after := input.after
  mutation := input.mutation
  checks := input.checks
  rollback := input.rollback
  startedAt := .str input.startedAt
  completedAt := .str input.completedAt

/-- `...(v ? { key: v } : {})`. -/
def optional (key : String) (v : Value) : List (String × Value) :=
  if v.truthy then [(key, v)] else []

/-- The receipt without its id and digest. -/
def unsignedReceipt (input : CreateExecutionReceiptInput) (events : List Value) :
    List (String × Value) :=
  [("schemaVersion", lit "archon.execution-receipt/v1"), ("executionId", .str input.executionId),
    ("outcome", input.outcome.name), ("dossierDigest", input.dossierDigest),
    ("planDigest", input.planDigest)] ++
  optional "approvalDecisionDigest" input.approvalDecisionDigest ++
  [("action", input.action), ("idempotencyKey", .str input.idempotencyKey)] ++
  optional "before" input.before ++ optional "after" input.after ++
  optional "mutation" input.mutation ++
  [("checks", input.checks), ("rollback", input.rollback), ("events", .arr events),
    ("startedAt", .str input.startedAt), ("completedAt", .str input.completedAt)]

/-- `input.before && !verifyTagProjection(input.before)`, negated. -/
def projectionOk (P : Platform) (v : Value) : Run Bool :=
  if v.truthy then verifyTagProjection P v else .ok true

/-- `createExecutionReceipt`. -/
def createExecutionReceipt (P : Platform) (input : CreateExecutionReceiptInput) : Run Value := do
  failIf (!actionValid P input.action) "Cannot issue a receipt for an invalid action."
  failIf (input.executionId.isEmpty || input.idempotencyKey.isEmpty)
    "A receipt requires an execution id and idempotency key."
  failIf (!(← projectionOk P input.before)) "Receipt before-state has an invalid digest."
  failIf (!(← projectionOk P input.after)) "Receipt after-state has an invalid digest."
  let events ← buildEvents P (← eventPayloads input.content)
  let unsigned := unsignedReceipt input events
  let receiptDigest ← digest P (object unsigned)
  return object (unsigned ++
    [("receiptId", .str (shortId "receipt-" receiptDigest)), ("digest", .str receiptDigest)])

/-! ## 5. verifyExecutionReceipt -/

/-- `if (condition) issues.push(issue)`. -/
def issueIf (condition : Bool) (issue : String) : List String := if condition then [issue] else []

/-- The loop over the events: each must be the expected one, and its hash goes into the next. -/
def eventIssues (P : Platform) (events : Value) (index : Nat) (previousHash : Value) :
    List ReceiptEventPayload → Run (List String)
  | [] => .ok []
  | expected :: rest => do
    let event ← events.index index
    let occurredAt ← event.prop "occurredAt"
    let payloadDigest ← digest P expected.payload
    let matching ←
      (do return (← event.prop "sequence").strictEq (.num (.ofNat index))) <&&>
      eqText (event.prop "kind") expected.kind.name <&&>
      eqText (event.prop "payloadDigest") payloadDigest <&&>
      (do return (← event.prop "previousHash").strictEq previousHash) <&&>
      (do
        let expectedHash ← digest P
          (object (unsignedEvent index expected.kind.name occurredAt payloadDigest previousHash))
        eqText (event.prop "eventHash") expectedHash)
    let eventHash ← event.prop "eventHash"
    let issues ← eventIssues P events (index + 1) eventHash rest
    return issueIf (!matching) ("EVENT_" ++ toString index) ++ issues

/-- `expectedCheckPasses`, in the order of the map. -/
def expectedCheckPasses (P : Platform) (receipt : Value) : Run (List (CheckId × Bool)) := do
  let before ← receipt.path ["before"]
  let after ← receipt.path ["after"]
  let tag ← (← receipt.path ["action", "arguments", "tag_urns"]).index 0
  let expectedRequestDigest ← digest P (← requestOf (← receipt.path ["action", "arguments"]))
  let both := before.truthy && after.truthy
  let targetUnchanged ← .ok both <&&>
    eqValue (before.path ["entityUrn"]) (after.path ["entityUrn"]) <&&>
    eqValue (before.path ["columnPath"]) (after.path ["columnPath"])
  let preserved ← .ok both <&&>
    (do (← before.path ["tags"]).every fun existing => do (← after.path ["tags"]).includes existing)
  let tagPresent ←
    (if after.isNullish then .ok false else do (← after.path ["tags"]).includes tag)
  let noUnexpected ← .ok both <&&>
    (do
      let tags ← after.path ["tags"]
      let expected ← uniqueSorted P (.arr ((← (← before.path ["tags"]).spread) ++ [tag]))
      return decide (stringify tags = stringify expected))
  let mutation ← receipt.path ["mutation"]
  let approvalBinding ←
    (do return (← receipt.path ["approvalDecisionDigest"]).truthy) <&&>
    (.ok ((mutation.getPath ["requestDigest"]).isText expectedRequestDigest))
  return [(.TARGET_UNCHANGED, targetUnchanged), (.PREEXISTING_TAGS_PRESERVED, preserved),
    (.POLICY_TAG_PRESENT, tagPresent), (.NO_UNEXPECTED_TAGS, noUnexpected),
    (.APPROVAL_BINDING_VALID, approvalBinding)]

/-- `v.some(p)`, on an array: up to the first element that passes. -/
def some' (v : Value) (p : Value → Run Bool) : Run Bool :=
  match v with
  | .arr items =>
    items.foldr (fun x rest => do (if ← p x then .ok true else rest)) (.ok false)
  | _ => .error .typeError

/-- Is some check not the expected one?  Compared place by place. -/
def checksDiffer : List Value → List (CheckId × Bool) → Run Bool
  | check :: checks, (checkId, expected) :: rest => do
    let same ← eqText (check.prop "checkId") checkId.name <&&>
      (do return (← check.prop "passed").strictEq (.bool expected))
    (if same then checksDiffer checks rest else .ok true)
  | _, _ => .ok false

/-- The issues about the checks, for a receipt that has any. -/
def checkIssues (P : Platform) (receipt : Value) : Run (List String) := do
  let expected ← expectedCheckPasses P receipt
  let checks ← receipt.path ["checks"]
  let length ← checks.prop "length"
  let differ ←
    (if length.strictEq (.num (.ofNat expected.length)) then
      match checks with
      | .arr items => checksDiffer items expected
      | _ => .error .typeError
    else .ok true)
  return issueIf differ "CHECK_SEMANTICS"

/-- The issues that only a verified outcome can raise. -/
def verifiedIssues (receipt : Value) : Run (List String) := do
  let before ← receipt.path ["before"]
  let after ← receipt.path ["after"]
  let mutation ← receipt.path ["mutation"]
  let components := issueIf (!(before.truthy && after.truthy && mutation.truthy))
    "VERIFIED_COMPONENTS"
  let checks ← receipt.path ["checks"]
  let length ← checks.prop "length"
  let failing ←
    (if length.strictEq (.num (.ofNat 5)) then
      some' checks fun check => do return !(← check.prop "passed").truthy
    else .ok true)
  let anchored ← eqText (receipt.path ["rollback", "availability"]) (js "ELIGIBLE")
  return components ++ issueIf failing "VERIFIED_CHECKS" ++ issueIf (!anchored) "ROLLBACK_ANCHOR"

/-- Is the anchor of an eligible rollback the action's inverse and the state before? -/
def rollbackBound (P : Platform) (receipt : Value) : Run Bool := do
  let before ← receipt.path ["before"]
  let after ← receipt.path ["after"]
  .ok (before.truthy && after.truthy) <&&>
    (do
      let inverse ← receipt.path ["rollback", "inverseActionDigest"]
      return inverse.isText (← digest P (← receipt.path ["action", "inverse"]))) <&&>
    eqValue (receipt.path ["rollback", "restoreStateDigest"]) (before.path ["digest"])

/-- Does the acknowledgement, if there is one, name the request of these arguments? -/
def requestBound (P : Platform) (mutation : Value) (arguments : Run Value) : Run Bool :=
  if mutation.truthy then
    (do
      let requestDigest ← mutation.prop "requestDigest"
      return requestDigest.isText (← digest P (← requestOf (← arguments))))
  else .ok true

/-- `receiptPayload`. -/
def receiptPayload (receipt : Value) : Run Value := receipt.without ["receiptId", "digest"]

/-- `verifyExecutionReceiptUnsafe`, the list of issues. -/
def verifyExecutionReceiptUnsafe (P : Platform) (receipt : Value) : Run (List String) := do
  let expectedDigest ← digest P (← receiptPayload receipt)
  let schema ← eqText (receipt.path ["schemaVersion"]) (js "archon.execution-receipt/v1")
  let digestOk ← eqText (receipt.path ["digest"]) expectedDigest
  let idOk ← eqText (receipt.path ["receiptId"]) (shortId "receipt-" expectedDigest)
  let action ← receipt.path ["action"]
  let beforeOk ← projectionOk P (← receipt.path ["before"])
  let afterOk ← projectionOk P (← receipt.path ["after"])
  let mutation ← receipt.path ["mutation"]
  let requestOk ← requestBound P mutation (receipt.path ["action", "arguments"])
  let expectedPayloads ← eventPayloads (contentOf receipt)
  let events ← receipt.path ["events"]
  let count ← events.prop "length"
  let eventProblems ←
    (if count.strictEq (.num (.ofNat expectedPayloads.length)) then
      eventIssues P events 0 (.str (GENESIS_HASH P)) expectedPayloads
    else .ok ["EVENT_COUNT"])
  let verified ← eqText (receipt.path ["outcome"]) (js "VERIFIED")
  let verifiedProblems ← (if verified then verifiedIssues receipt else .ok [])
  let checked ← (← (← receipt.path ["checks"]).prop "length").exceeds 0
  let checkProblems ← (if checked then checkIssues P receipt else .ok [])
  let eligible ← eqText (receipt.path ["rollback", "availability"]) (js "ELIGIBLE")
  let bound ← (if eligible then rollbackBound P receipt else .ok true)
  return issueIf (!schema) "SCHEMA_VERSION" ++ issueIf (!digestOk) "RECEIPT_DIGEST" ++
    issueIf (!idOk) "RECEIPT_ID" ++ issueIf (!actionValid P action) "ACTION_DIGEST" ++
    issueIf (!beforeOk) "BEFORE_DIGEST" ++ issueIf (!afterOk) "AFTER_DIGEST" ++
    issueIf (!requestOk) "MUTATION_REQUEST_BINDING" ++ eventProblems ++ verifiedProblems ++
    checkProblems ++ issueIf (!bound) "ROLLBACK_BINDING"

/-- `verifyExecutionReceipt`, the list of issues. -/
def verifyExecutionReceipt (P : Platform) (receipt : Value) : List String :=
  match verifyExecutionReceiptUnsafe P receipt with
  | .ok issues => issues
  | .error _ => ["MALFORMED_RECEIPT"]

/-- `verifyExecutionReceipt(receipt).valid`. -/
def receiptValid (P : Platform) (receipt : Value) : Bool := (verifyExecutionReceipt P receipt).isEmpty

/-! ## 6. What createExecutionReceipt builds -/

section Created

variable {P : Platform} {input : CreateExecutionReceiptInput} {receipt : Value}

theorem lookup_optional (key k : String) (v : Value) :
    (optional key v).lookup k = if k = key ∧ v.truthy = true then some v else none := by
  unfold optional
  cases v.truthy with
  | false => simp
  | true =>
    by_cases h : k = key
    · simp [h]
    · simp [h, List.lookup, beq_false_of_ne h]

/-- The receipt with these events, signed. -/
def signedReceipt (P : Platform) (input : CreateExecutionReceiptInput) (events : List Value) : Value :=
  object (unsignedReceipt input events ++
    [("receiptId", .str (shortId "receipt-" (digestOf P (object (unsignedReceipt input events))))),
      ("digest", .str (digestOf P (object (unsignedReceipt input events))))])

/-- What `createExecutionReceipt` has checked, and the receipt it returns. -/
structure Created (P : Platform) (input : CreateExecutionReceiptInput) (receipt : Value) : Prop where
  action : actionValid P input.action = true
  executionId : input.executionId ≠ []
  idempotencyKey : input.idempotencyKey ≠ []
  before : projectionOk P input.before = .ok true
  after : projectionOk P input.after = .ok true
  built : ∃ payloads events, eventPayloads input.content = .ok payloads ∧
    buildEvents P payloads = .ok events ∧ Canonicalizable (object (unsignedReceipt input events)) ∧
    receipt = signedReceipt P input events

theorem Created.after_verified (h : Created P input receipt) (ht : input.after.truthy = true) :
    ∃ p : TagProjection P, p.value = input.after := by
  have hok := h.after
  rw [projectionOk, if_pos ht] at hok
  exact verifyTagProjection_eq_true.mp hok

theorem createExecutionReceipt_eq_ok :
    createExecutionReceipt P input = .ok receipt ↔ Created P input receipt := by
  constructor
  · intro h
    obtain ⟨_, haction, h⟩ := bind_eq_ok.mp h
    obtain ⟨_, hids, h⟩ := bind_eq_ok.mp h
    obtain ⟨before, hbefore, h⟩ := bind_eq_ok.mp h
    obtain ⟨_, hbefore', h⟩ := bind_eq_ok.mp h
    obtain ⟨after, hafter, h⟩ := bind_eq_ok.mp h
    obtain ⟨_, hafter', h⟩ := bind_eq_ok.mp h
    obtain ⟨payloads, hpayloads, h⟩ := bind_eq_ok.mp h
    obtain ⟨events, hevents, h⟩ := bind_eq_ok.mp h
    obtain ⟨d, hd, h⟩ := bind_eq_ok.mp h
    obtain ⟨hcan, rfl⟩ := digest_eq_ok.mp hd
    simp only [failIf_eq_ok, Bool.not_eq_false', Bool.or_eq_false_iff, List.isEmpty_eq_false_iff]
      at haction hids hbefore' hafter'
    exact ⟨haction, hids.1, hids.2, hbefore'.symm ▸ hbefore, hafter'.symm ▸ hafter, payloads, events, hpayloads, hevents, hcan,
      (Except.ok.inj h).symm⟩
  · rintro ⟨haction, hid, hkey, hbefore, hafter, payloads, events, hpayloads, hevents, hcan, rfl⟩
    simp [createExecutionReceipt, haction, hid, hkey, hbefore, hafter, hpayloads, hevents,
      digest_ok hcan, failIf, signedReceipt]

/-- `v` if it is truthy, else `undefined`: what an optional member reads back as. -/
def ifTruthy (v : Value) : Value := if v.truthy then v else .undefined

theorem getD_lookup_optional (v : Value) :
    (if v.truthy = true then some v else none).getD .undefined = ifTruthy v := by
  unfold ifTruthy
  split <;> rfl

/-- The members of a signed receipt, an optional one being left out where it is falsy. -/
structure Members (input : CreateExecutionReceiptInput) (events : List Value) (receipt : Value) :
    Prop where
  schemaVersion : receipt.getPath ["schemaVersion"] = lit "archon.execution-receipt/v1"
  executionId : receipt.getPath ["executionId"] = .str input.executionId
  outcome : receipt.getPath ["outcome"] = input.outcome.name
  dossierDigest : receipt.getPath ["dossierDigest"] = input.dossierDigest
  planDigest : receipt.getPath ["planDigest"] = input.planDigest
  approvalDecisionDigest :
    receipt.getPath ["approvalDecisionDigest"] = ifTruthy input.approvalDecisionDigest
  action : receipt.getPath ["action"] = input.action
  idempotencyKey : receipt.getPath ["idempotencyKey"] = .str input.idempotencyKey
  before : receipt.getPath ["before"] = ifTruthy input.before
  after : receipt.getPath ["after"] = ifTruthy input.after
  mutation : receipt.getPath ["mutation"] = ifTruthy input.mutation
  checks : receipt.getPath ["checks"] = input.checks
  rollback : receipt.getPath ["rollback"] = input.rollback
  events : receipt.getPath ["events"] = .arr events
  startedAt : receipt.getPath ["startedAt"] = .str input.startedAt
  completedAt : receipt.getPath ["completedAt"] = .str input.completedAt

theorem signedReceipt_members (P : Platform) (input : CreateExecutionReceiptInput)
    (events : List Value) : Members input events (signedReceipt P input events) := by
  constructor <;>
    simp [getPath_cons, getPath_nil, signedReceipt, unsignedReceipt, List.lookup_append,
      List.lookup, lookup_optional, getD_lookup_optional]

end Created

end Remediation
