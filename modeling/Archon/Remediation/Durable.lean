/-
# The durable execution journal

`DynamoExecutionJournal` keeps the two maps of the in-memory journal in one table: an item under
`EXECUTION#key`, and an item under `APPROVAL_EXECUTION#id`.  An operation of the one is several calls
of the other.  A claim is a transaction that creates both items; where it is refused, the two items
are read, and a stale lease is taken over by a conditional update.  Between two calls of one worker
the others go on, and the answer of a call that was carried out can be lost.

`DynamoExecutionJournal.answer` puts these programs in the place of the journal's answers, so a
worker over the durable journal is the control loop, handled by it (`executeDurably`).
-/
import Archon.Remediation.Trace
import Archon.Remediation.Receipt
import Archon.Resumption.Handler

namespace Remediation

open Ecma Ecma.Value Resumption Resumption.Program

/-! ## 1. Errors of the table -/

/-- What the client of DynamoDB throws, as far as the journal looks at it. -/
structure AwsError where
  name : String
  status : Option Nat
  retryable : Bool
  /-- The codes of `CancellationReasons`, if that is an array. -/
  reasons : Option (List (Option String))

/-- The error, thrown on. -/
def AwsError.thrown (e : AwsError) : Exn Failure := .user (.service e.name e.status e.retryable)

/-- `isConditionalFailure`. -/
def isConditionalFailure (e : AwsError) : Bool :=
  if e.name = "TransactionCanceledException" then
    match e.reasons with
    | none => false
    | some reasons => reasons.any (· = some "ConditionalCheckFailed")
        && reasons.all fun code => code = some "ConditionalCheckFailed" || code = some "None"
          || code.isNone
  else e.status = some 409 || e.status = some 412 || e.name = "ConditionalCheckFailedException"
    || e.name = "PreconditionFailed"

/-- `isTransactionCancellationWithoutReasons`. -/
def isTransactionCancellationWithoutReasons (e : AwsError) : Bool :=
  e.name = "TransactionCanceledException" && (e.reasons.getD []).isEmpty

/-- `RetryableExecutionJournalError`. -/
def retryableExecutionJournalError : Exn Failure :=
  .user (.service "RetryableExecutionJournalError" none true)

/-! ## 2. The table -/

/-- The item under `EXECUTION#key`, as far as it is read.  A token that is no whole number is like
none. -/
structure ExecutionItem where
  status : Option Text
  approvalId : Option Text
  decisionDigest : Option Text
  fencingToken : Option Nat
  /-- In seconds. -/
  leaseExpiresAt : Option Int
  receipt : Option Text

/-- The item under `APPROVAL_EXECUTION#id`, as far as it is read. -/
structure ApprovalItem where
  idempotencyKey : Option Text
  decisionDigest : Option Text

/-- The statuses of an execution that is not over. -/
inductive OpenStatus where
  | IN_PROGRESS
  | RECONCILING
deriving DecidableEq

/-- The status as it is stored. -/
def OpenStatus.text : OpenStatus → Text
  | IN_PROGRESS => js "IN_PROGRESS"
  | RECONCILING => js "RECONCILING"

/-- The conditional writes to the table. -/
inductive JournalWrite where
  /-- The transaction of `claim`: two items that are not there yet. -/
  | create (input : ClaimInput) (leaseExpiresAt : Int)
  /-- The update of `claim`. -/
  | takeOver (idempotencyKey : Text) (status : OpenStatus) (currentLease : Int)
    (currentFencingToken : Nat) (newLease : Int)
  /-- The update of `resume`. -/
  | resume (lease : Lease) (nowEpoch newLease : Int)
  /-- The update of `complete`. -/
  | complete (lease : Lease) (decisionDigest receipt : Text)

/-- The items of the table. -/
structure JournalTable where
  executions : Text → Option ExecutionItem
  approvals : Text → Option ApprovalItem

namespace JournalTable

/-- The table with another execution under one key. -/
def put (s : JournalTable) (key : Text) (item : ExecutionItem) : JournalTable where
  executions k := if k = key then some item else s.executions k
  approvals := s.approvals

/-- An update of the execution under a key, on a condition. -/
def update (s : JournalTable) (key : Text) (condition : ExecutionItem → Bool)
    (change : ExecutionItem → ExecutionItem) : Option JournalTable :=
  match s.executions key with
  | some item => if condition item then some (s.put key (change item)) else none
  | none => none

/-- What the table becomes, where the condition of the write is met. -/
def write (s : JournalTable) : JournalWrite → Option JournalTable
  | .create input leaseExpiresAt =>
    if (s.executions input.idempotencyKey).isNone && (s.approvals input.approvalId).isNone then
      some
        { executions := fun k =>
            if k = input.idempotencyKey then
              some
                { status := some OpenStatus.IN_PROGRESS.text
                  approvalId := some input.approvalId
                  decisionDigest := some input.approvalDecisionDigest
                  fencingToken := some 1
                  leaseExpiresAt := some leaseExpiresAt
                  receipt := none }
            else s.executions k
          approvals := fun id =>
            if id = input.approvalId then
              some
                { idempotencyKey := some input.idempotencyKey
                  decisionDigest := some input.approvalDecisionDigest }
            else s.approvals id }
    else none
  | .takeOver key status currentLease currentFencingToken newLease =>
    s.update key
      (fun item => item.status = some status.text && item.leaseExpiresAt = some currentLease
        && item.fencingToken = some currentFencingToken)
      fun item =>
        { item with
          status := some OpenStatus.RECONCILING.text
          leaseExpiresAt := some newLease
          fencingToken := some (currentFencingToken + 1) }
  | .resume lease nowEpoch newLease =>
    s.update lease.idempotencyKey
      (fun item => item.status = some OpenStatus.RECONCILING.text
        && item.leaseExpiresAt.any (nowEpoch ≤ ·) && item.fencingToken = some lease.fencingToken)
      fun item =>
        { item with
          status := some OpenStatus.IN_PROGRESS.text
          leaseExpiresAt := some newLease }
  | .complete lease decisionDigest receipt =>
    s.update lease.idempotencyKey
      (fun item => (item.status = some OpenStatus.IN_PROGRESS.text
          || item.status = some OpenStatus.RECONCILING.text)
        && item.fencingToken = some lease.fencingToken
        && item.decisionDigest = some decisionDigest)
      fun item =>
        { item with
          status := some (js "COMPLETED")
          receipt := some receipt
          leaseExpiresAt := none }

end JournalTable

/-! ## 3. The journal -/

/-- The calls of a worker: those of the journal to its table, and those of the control loop that are
none of the journal. -/
inductive DurableEffect where
  /-- `clock()`, of the journal, in whole seconds. -/
  | now
  | write (w : JournalWrite)
  /-- A consistent read of an execution. -/
  | getExecution (idempotencyKey : Text)
  /-- A consistent read of an approval. -/
  | getApproval (approvalId : Text)
  /-- `clock()`, of the loop. -/
  | clock
  | readTagProjection (target : Value)
  | addTags (request : Value)

/-- What each is answered. -/
abbrev DurableEffect.Reply : DurableEffect → Type
  | now => Int
  | write _ => Except AwsError Unit
  | getExecution _ => Except AwsError (Option ExecutionItem)
  | getApproval _ => Except AwsError (Option ApprovalItem)
  | clock => Text
  | readTagProjection _ => Run Value
  | addTags _ => Run Value

/-- The asynchronous functions of the journal, and those of the worker over it. -/
abbrev Durable := Program DurableEffect DurableEffect.Reply (Exn Failure)

namespace DynamoExecutionJournal

/-- A call. -/
def send (e : DurableEffect) : Durable e.Reply := perform e

/-- What a call has come to, its error thrown on. -/
def orThrow {α : Type} (answer : Except AwsError α) : Run α :=
  match answer with
  | .ok a => .ok a
  | .error e => .error e.thrown

/-- `EXECUTION_LEASE_SECONDS`. -/
def EXECUTION_LEASE_SECONDS : Int := 10 * 60

/-- `Number.MAX_SAFE_INTEGER`. -/
def MAX_SAFE_INTEGER : Nat := 2 ^ 53 - 1

/-- The two reads, which are under way together: either can be served first. -/
def readBoth (approvalFirst : Bool) (input : ClaimInput) :
    Durable (Option ExecutionItem × Option ApprovalItem) :=
  if approvalFirst then do
    let approval ← lift (orThrow (← send (.getApproval input.approvalId)))
    let execution ← lift (orThrow (← send (.getExecution input.idempotencyKey)))
    return (execution, approval)
  else do
    let execution ← lift (orThrow (← send (.getExecution input.idempotencyKey)))
    let approval ← lift (orThrow (← send (.getApproval input.approvalId)))
    return (execution, approval)

/-- `sameBinding`. -/
def sameBinding (input : ClaimInput) (execution : ExecutionItem) (approval : Option ApprovalItem) :
    Bool :=
  execution.approvalId = some input.approvalId
    && execution.decisionDigest = some input.approvalDecisionDigest
    && approval.bind (·.idempotencyKey) = some input.idempotencyKey
    && approval.bind (·.decisionDigest) = some input.approvalDecisionDigest

/-- The status, of an execution that is not over. -/
def openStatus (execution : ExecutionItem) : Option OpenStatus :=
  if execution.status = some OpenStatus.IN_PROGRESS.text then some .IN_PROGRESS
  else if execution.status = some OpenStatus.RECONCILING.text then some .RECONCILING
  else none

/-- A claim on an execution that is not over. -/
def claimOpen (input : ClaimInput) (nowEpoch : Int) (execution : ExecutionItem)
    (status : OpenStatus) : Durable ExecutionClaim := do
  let invalid : Durable ExecutionClaim := .done (.error (.user (.workerContract "INVALID_EVIDENCE"
    "Execution journal has no valid bounded, fenced lease.")))
  match execution.leaseExpiresAt, execution.fencingToken with
  | some currentLease, some currentFencingToken =>
    if currentFencingToken < 1 || MAX_SAFE_INTEGER ≤ currentFencingToken then invalid
    else if nowEpoch < currentLease then return .IN_PROGRESS
    else
      match ← send (.write (.takeOver input.idempotencyKey status currentLease currentFencingToken
          (nowEpoch + EXECUTION_LEASE_SECONDS))) with
      | .ok () => return .RECONCILE (currentFencingToken + 1)
      | .error e => if isConditionalFailure e then return .IN_PROGRESS else .done (.error e.thrown)
  | _, _ => invalid

/-- A claim on an execution that is over, or of which nothing is known. -/
def claimOver (P : Platform) (input : ClaimInput) (execution : ExecutionItem) :
    Run ExecutionClaim := do
  if execution.status ≠ some (js "COMPLETED") then return .APPROVAL_ALREADY_USED
  match execution.receipt with
  | none => return .APPROVAL_ALREADY_USED
  | some text =>
    match parse text with
    | none => return .APPROVAL_ALREADY_USED
    | some receipt =>
      if !receiptValid P receipt then return .APPROVAL_ALREADY_USED
      if !((receipt.get (js "idempotencyKey")).isText input.idempotencyKey
          && (receipt.get (js "approvalDecisionDigest")).isText input.approvalDecisionDigest) then
        .error (.user (.workerContract "INVALID_EVIDENCE"
          "Completed journal receipt does not match its immutable execution binding."))
      return .COMPLETED receipt

/-- A claim whose transaction was refused. -/
def claimExisting (P : Platform) (approvalFirst : Bool) (input : ClaimInput) (nowEpoch : Int)
    (unclassified : Bool) : Durable ExecutionClaim := do
  match ← readBoth approvalFirst input with
  | (none, approval) =>
    if unclassified && approval.isNone then .done (.error retryableExecutionJournalError)
    else return .APPROVAL_ALREADY_USED
  | (some execution, approval) =>
    if !sameBinding input execution approval then return .APPROVAL_ALREADY_USED
    match openStatus execution with
    | some status => claimOpen input nowEpoch execution status
    | none => lift (claimOver P input execution)

/-- `claim`. -/
def claim (P : Platform) (approvalFirst : Bool) (input : ClaimInput) :
    Durable ExecutionClaim := do
  let nowEpoch : Int ← send .now
  match ← send (.write (.create input (nowEpoch + EXECUTION_LEASE_SECONDS))) with
  | .ok () => return .CLAIMED 1
  | .error e =>
    if isConditionalFailure e then claimExisting P approvalFirst input nowEpoch false
    else if isTransactionCancellationWithoutReasons e then
      claimExisting P approvalFirst input nowEpoch true
    else .done (.error e.thrown)

/-- `resume`. -/
def resume (lease : Lease) : Durable Bool := do
  let nowEpoch : Int ← send .now
  match ← send (.write (.resume lease nowEpoch (nowEpoch + EXECUTION_LEASE_SECONDS))) with
  | .ok () => return true
  | .error e => if isConditionalFailure e then return false else .done (.error e.thrown)

/-- A string attribute of a request; what is no string the service does not take. -/
def stringAttribute : Value → Run Text
  | .str t => .ok t
  | _ => .error (.user (.service "SerializationException" (some 400) false))

/-- `if (condition) throw new WorkerContractError("INVALID_EVIDENCE", message)`. -/
def invalidIf (condition : Bool) (message : String) : Run Unit :=
  if condition then .error (.user (.workerContract "INVALID_EVIDENCE" message)) else .ok ()

/-- What `complete` writes: the digest of the decision and the text of the receipt. -/
def completion (P : Platform) (lease : Lease) (receipt : Value) : Run (Text × Text) := do
  invalidIf (!receiptValid P receipt) "Journal rejected an invalid receipt."
  invalidIf (!(receipt.get (js "idempotencyKey")).isText lease.idempotencyKey)
    "Receipt idempotency key does not match the claimed execution."
  invalidIf (!(receipt.get (js "approvalDecisionDigest")).truthy)
    "Journal receipt has no approval decision binding."
  let text ← canonicalize receipt
  invalidIf (300 * 1024 < utf8Length text) "Receipt exceeds the journal limit."
  let decisionDigest ← stringAttribute (receipt.get (js "approvalDecisionDigest"))
  let _ ← stringAttribute (receipt.get (js "digest"))
  let _ ← stringAttribute (receipt.get (js "completedAt"))
  return (decisionDigest, text)

/-- `complete`. -/
def complete (P : Platform) (lease : Lease) (receipt : Value) : Durable Unit := do
  let (decisionDigest, text) ← lift (completion P lease receipt)
  match ← send (.write (.complete lease decisionDigest text)) with
  | .ok () => return ()
  | .error e =>
    if isConditionalFailure e then
      lift (reject .EXECUTION_IN_PROGRESS "A newer worker owns this execution lease.")
    else .done (.error e.thrown)

/-! ## 4. The control loop over it -/

/-- The calls of the loop, answered. -/
def answer (P : Platform) (approvalFirst : Bool) : (e : Effect) → Durable e.Reply
  | .clock => send .clock
  | .claim input => (claim P approvalFirst input).attempt
  | .resume lease => (resume lease).attempt
  | .complete lease receipt => (complete P lease receipt).attempt
  | .readTagProjection target => send (.readTagProjection target)
  | .addTags request => send (.addTags request)

end DynamoExecutionJournal

/-- `executeApprovedRemediation`, over the durable journal. -/
def executeDurably (P : Platform) (approvalFirst : Bool) (input : ExecuteApprovedRemediationInput) :
    Durable Value :=
  (executeApprovedRemediation P input).handle (DynamoExecutionJournal.answer P approvalFirst)

end Remediation
