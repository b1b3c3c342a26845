/-
# The queue worker

`AwsQueueWorker.process` takes one message from the queue and has to settle it: read it, run the
service behind it under a lease that is renewed as long as the work lasts, report to Step Functions,
and delete the message.  Each of these calls can fail, for the moment or for good, and each failure
has a route of its own: back to the queue with `retrySoon`, or into quarantine with `finalizePoison`.

What must not happen is that a message is deleted while nobody has been told.  `Settled` lists the
three ways in which somebody has; `deletesOnlySettled` is that a message is deleted in no other
case, for all outcomes of all calls, and that `process` does not throw.

The renewals that the lease's timer and the mutation port make while the service works are made in
sequence here; a renewal that a second caller joins is one renewal.
-/
import Archon.Resumption.Program
import Archon.Worker.Contracts

namespace Worker

open Ecma Ecma.Value Remediation Resumption Resumption.Program

/-! ## 1. Errors -/

/-- `awsErrorName`. -/
def awsErrorName : Exn Failure → String
  | .typeError => "TypeError"
  | .user (.error _) => "Error"
  | .user (.canonicalization _) => "CanonicalizationError"
  | .user (.remediation _ _) => "RemediationError"
  | .user (.definitiveMutation _) => "DefinitiveMutationError"
  | .user (.workerContract _ _) => "WorkerContractError"
  | .user (.workerLease _) => "WorkerLeaseError"
  | .user (.service name _ _) => name

/-- `isTerminalTaskError`. -/
def isTerminalTaskError (error : Exn Failure) : Bool :=
  ["TaskDoesNotExist", "TaskTimedOut", "InvalidToken"].contains (awsErrorName error)

/-- `errorStatus`. -/
def errorStatus : Exn Failure → Option Nat
  | .user (.service _ status _) => status
  | _ => none

/-- `error.retryable === true`. -/
def saysRetryable : Exn Failure → Bool
  | .user (.service _ _ retryable) => retryable
  | _ => false

/-- `RETRYABLE_ERROR_NAMES`. -/
def RETRYABLE_ERROR_NAMES : List String :=
  ["AbortError", "ECONNRESET", "EAI_AGAIN", "ETIMEDOUT", "InternalError", "InternalServerError",
    "NetworkingError", "RequestTimeout", "ServiceUnavailable", "SlowDown", "Throttling",
    "ThrottlingException", "TimeoutError", "TooManyRequestsException"]

/-- `TERMINAL_CONFIGURATION_ERROR_NAMES`. -/
def TERMINAL_CONFIGURATION_ERROR_NAMES : List String :=
  ["AccessDenied", "AccessDeniedException", "CredentialsProviderError", "InvalidSignatureException",
    "ResourceNotFoundException", "UnrecognizedClientException", "ValidationException"]

/-- `isRetryableError`. -/
def isRetryableError (error : Exn Failure) : Bool :=
  match error with
  | .user (.workerContract _ _) => false
  | _ =>
    if saysRetryable error then true
    else if RETRYABLE_ERROR_NAMES.contains (awsErrorName error) then true
    else if TERMINAL_CONFIGURATION_ERROR_NAMES.contains (awsErrorName error) then false
    else
      match errorStatus error with
      | none => true
      | some status =>
        if status = 408 ∨ status = 429 ∨ 500 ≤ status then true
        else !(400 ≤ status && status < 500)

/-- `error instanceof RemediationError && error.code === "EXECUTION_IN_PROGRESS"`. -/
def isInProgress : Exn Failure → Bool
  | .user (.remediation code _) => code = .EXECUTION_IN_PROGRESS
  | _ => false

/-- `retryVisibilitySeconds`. -/
def retryVisibilitySeconds (error : Exn Failure) : Nat := if isInProgress error then 180 else 5

/-- `shouldFinalizePoisonDelivery`. -/
def shouldFinalizePoisonDelivery (error : Exn Failure) (receiveCount maxReceiveCount : Nat) : Bool :=
  if isInProgress error then false
  else !isRetryableError error || decide (maxReceiveCount ≤ receiveCount)

/-- An error that is not the lease's.  `WorkerLeaseError` is private to the adapter: the audit
service is not given the lease, and the loop of the remediation service catches what it throws. -/
abbrev ServiceError := { error : Exn Failure // ∀ terminal, error ≠ .user (.workerLease terminal) }

/-! ## 2. Messages -/

/-- The two workers that answer to Step Functions: `CallbackWorkerKind`. -/
inductive CallbackWorkerKind where
  | audit
  | remediation
deriving DecidableEq

/-- The queue a worker reads. -/
def CallbackWorkerKind.queue : CallbackWorkerKind → AsyncMessageKind
  | audit => .audit
  | remediation => .remediation

/-- Its name in logs and records. -/
def CallbackWorkerKind.name : CallbackWorkerKind → Value
  | audit => lit "audit"
  | remediation => lit "remediation"

/-- A message that a callback worker accepts. -/
inductive CallbackMessage where
  | audit (message : AuditQueueMessage)
  | remediation (message : RemediationQueueMessage)

/-- Its task token. -/
def CallbackMessage.taskToken : CallbackMessage → Text
  | audit message => message.taskToken
  | remediation message => message.taskToken

/-- Its type. -/
def CallbackMessage.type : CallbackMessage → String
  | audit _ => "AUDIT_REQUESTED"
  | remediation _ => "REMEDIATION_REQUESTED"

/-- The message is read, and the worker is the one for it. -/
def acceptMessage (P : WorkerPlatform) (kind : CallbackWorkerKind) (body : Text) :
    Run CallbackMessage := do
  match kind, ← parseQueueMessage P kind.queue body with
  | .audit, .audit message => return .audit message
  | .remediation, .remediation message => return .remediation message
  | _, _ => invalidMessage "Queue and callback-worker capability do not match."

/-- `recoverTaskToken`. -/
def recoverTaskToken (body : Text) : Option Text :=
  match Ecma.parse body with
  | none => none
  | some parsed =>
    match parsed.getPath ["taskToken"] with
    | .str token => if 16 ≤ token.length ∧ token.length ≤ 1024 then some token else none
    | _ => none

/-- The task token of a message, as far as it can be had. -/
def taskTokenIn (P : WorkerPlatform) (kind : CallbackWorkerKind) (body : Text) : Option Text :=
  match acceptMessage P kind body with
  | .ok message => some message.taskToken
  | .error _ => recoverTaskToken body

/-- `Number.parseInt(t, 10)`; `none` for NaN. -/
def parseInt (t : Text) : Option Int :=
  let negative := (t.dropWhile isSpace).head? = some 0x2D
  let unsigned :=
    match t.dropWhile isSpace with
    | u :: rest => if u = 0x2D ∨ u = 0x2B then rest else u :: rest
    | [] => []
  match unsigned.takeWhile isDigit with
  | [] => none
  | ds => some (if negative then -digitsValue (ds.map digitValue) else digitsValue (ds.map digitValue))

/-- A message as SQS delivers it. -/
structure Received where
  messageId : Option Text
  receiptHandle : Option Text
  body : Option Text
  approximateReceiveCount : Option Text
  /-- SQS counts deliveries with integers that a double holds. -/
  count_lt : ∀ n, parseInt (approximateReceiveCount.getD (js "1")) = some n → n < 2 ^ 53

/-- `Math.max(1, Number.parseInt(count ?? "1", 10) || 1)`. -/
def Received.receiveCount (received : Received) : Nat :=
  max 1 ((parseInt (received.approximateReceiveCount.getD (js "1"))).getD 1).toNat

/-! ## 3. Calls -/

/-- The calls of the queue worker.  `renewals` asks how often the lease is renewed while the service
works, by its timer or by the mutation port; `serve` is the service itself. -/
inductive QueueEffect where
  | log (line : Text)
  | clock
  | heartbeat (taskToken : Text)
  | changeVisibility (receiptHandle : Text) (seconds : Nat)
  | renewals
  | serve (message : CallbackMessage)
  | success (taskToken output : Text)
  | failure (taskToken cause : Text)
  | quarantine (body : Text)
  | delete (receiptHandle : Text)

/-- What each is answered. -/
abbrev QueueEffect.Reply : QueueEffect → Type
  | log _ => Unit
  | clock => Text
  | renewals => Nat
  | serve _ => Except ServiceError Value
  | heartbeat _ | changeVisibility _ _ | success _ _ | failure _ _ | quarantine _ | delete _ => Run Unit

/-- The asynchronous functions of the queue worker. -/
abbrev Queueing := Program QueueEffect QueueEffect.Reply (Exn Failure)

/-- The calls made so far, with their replies. -/
abbrev QueueHistory := List (Event QueueEffect QueueEffect.Reply)

/-- A call of SQS or Step Functions, with its rejection. -/
def send (e : QueueEffect) : Queueing e.Reply := Program.perform e

/-- The members of a log line. -/
def logFields (kind : CallbackWorkerKind) (event : String) (messageId : Option Text)
    (type : Option String) (error : Option (Exn Failure)) (receiveCount : Option Nat) :
    List (String × Value) :=
  [("event", lit event), ("queueKind", kind.name)] ++
    (match messageId with
    | some id => if id.isEmpty then [] else [("messageId", .str id)]
    | none => []) ++
    (match type with
    | some t => [("type", lit t)]
    | none => []) ++
    (match error with
    | some e => [("error", lit (awsErrorName e))]
    | none => []) ++
    match receiveCount with
    | some n => [("receiveCount", .num (.ofNat n))]
    | none => []

/-- `log`. -/
def log (kind : CallbackWorkerKind) (event : String) (messageId : Option Text)
    (type : Option String) (error : Option (Exn Failure)) (receiveCount : Option Nat) :
    Queueing Unit := do
  let line ← Program.lift (canonicalize (object (logFields kind event messageId type error receiveCount)))
  send (.log line)

/-- `retrySoon`. -/
def retrySoon (kind : CallbackWorkerKind) (receiptHandle : Text) (messageId : Option Text)
    (type : Option String) (visibilitySeconds : Nat) : Queueing Unit := do
  match ← send (.changeVisibility receiptHandle visibilitySeconds) with
  | .ok () => return ()
  | .error error => log kind "retry_visibility_change_failed" messageId type (some error) none

/-- `this.delete(receiptHandle).catch(error => this.log(event, ..))`. -/
def deleteOrLog (kind : CallbackWorkerKind) (event : String) (receiptHandle : Text)
    (messageId : Option Text) (type : Option String) (receiveCount : Nat) : Queueing Unit := do
  match ← send (.delete receiptHandle) with
  | .ok () => return ()
  | .error error => log kind event messageId type (some error) (some receiveCount)

/-! ## 4. The lease -/

/-- A lease that was lost, with `terminal`; `none` while it is held. -/
abbrev Lost := Option Bool

/-- `renew`, inside the `try` of `assertActive`. -/
def renew (taskToken receiptHandle : Text) : Queueing Lost := do
  match ← send (.heartbeat taskToken) with
  | .error error => return some (isTerminalTaskError error)
  | .ok () =>
    match ← send (.changeVisibility receiptHandle 300) with
    | .error _ => return some false
    | .ok () => return none

/-- `CallbackLease.assertActive`.  A lease that was lost once stays lost. -/
def CallbackLease.assertActive (taskToken receiptHandle : Text) : Lost → Queueing Lost
  | some terminal => return some terminal
  | none => renew taskToken receiptHandle

/-- Renewals while the service works. -/
def CallbackLease.renewals (taskToken receiptHandle : Text) : Nat → Lost → Queueing Lost
  | 0, lost => return lost
  | n + 1, lost => do
    let lost ← CallbackLease.assertActive taskToken receiptHandle lost
    CallbackLease.renewals taskToken receiptHandle n lost

/-- `withLease`, with what it throws. -/
def withLease (message : CallbackMessage) (receiptHandle : Text) : Queueing (Run Value) := do
  match ← CallbackLease.assertActive message.taskToken receiptHandle none with
  | some terminal => return .error (.user (.workerLease terminal))
  | none =>
    let n ← send .renewals
    let lost ← CallbackLease.renewals message.taskToken receiptHandle n none
    match ← send (.serve message) with
    | .error error => return .error error.val
    | .ok output =>
      match ← CallbackLease.assertActive message.taskToken receiptHandle lost with
      | some terminal => return .error (.user (.workerLease terminal))
      | none => return .ok output

/-! ## 5. The worker -/

/-- The digest of a body in its quarantine record. -/
def bodyDigest (P : Platform) (body : Text) : Text := digestPrefix ++ P.sha256 body

/-- The quarantine record. -/
def quarantineRecord (P : Platform) (kind : CallbackWorkerKind) (received : Received) (body : Text)
    (error : Exn Failure) (failedAt : Text) : Value :=
  object [("schemaVersion", lit "archon.worker-quarantine/v1"), ("queueKind", kind.name),
    ("messageId", .str (received.messageId.getD (js "unknown"))), ("bodyDigest", .str (bodyDigest P body)),
    ("error", lit (awsErrorName error)), ("receiveCount", .num (.ofNat received.receiveCount)),
    ("failedAt", .str failedAt)]

/-- The first `try` of `finalizePoison`. -/
def writeQuarantine (P : Platform) (kind : CallbackWorkerKind) (received : Received) (body : Text)
    (error : Exn Failure) : Queueing (Run Unit) := do
  let failedAt ← send .clock
  match canonicalize (quarantineRecord P kind received body error failedAt) with
  | .error e => return .error e
  | .ok text => send (.quarantine text)

/-- `this.#callbacks.failure(taskToken, awsErrorName(error))`. -/
def reportFailure (taskToken : Text) (error : Exn Failure) : Queueing (Run Unit) := do
  match canonicalize (object [("code", .str (slice (js (awsErrorName error)) 0 128))]) with
  | .error e => return .error e
  | .ok cause => send (.failure taskToken cause)

/-- `finalizePoison`. -/
def finalizePoison (P : Platform) (kind : CallbackWorkerKind) (received : Received)
    (body receiptHandle : Text) (error : Exn Failure) (taskToken : Option Text)
    (type : Option String) : Queueing Unit := do
  match ← writeQuarantine P kind received body error with
  | .error e =>
    log kind "quarantine_write_failed" received.messageId type (some e) (some received.receiveCount)
    retrySoon kind receiptHandle received.messageId type 5
  | .ok () =>
    match taskToken with
    | none =>
      deleteOrLog kind "poison_message_delete_failed" receiptHandle received.messageId type
        received.receiveCount
    | some token =>
      match ← reportFailure token error with
      | .ok () =>
        deleteOrLog kind "poison_message_delete_failed" receiptHandle received.messageId type
          received.receiveCount
      | .error e =>
        if isTerminalTaskError e then
          deleteOrLog kind "poison_message_delete_failed" receiptHandle received.messageId type
            received.receiveCount
        else
          log kind "failure_callback_failed" received.messageId type (some e)
            (some received.receiveCount)
          retrySoon kind receiptHandle received.messageId type 5

/-- After the service, or the lease, has failed. -/
def onFailure (P : Platform) (kind : CallbackWorkerKind) (maxReceiveCount : Nat) (received : Received)
    (body receiptHandle : Text) (message : CallbackMessage) (error : Exn Failure) : Queueing Unit := do
  log kind "message_failed" received.messageId (some message.type) (some error)
    (some received.receiveCount)
  match error with
  | .user (.workerLease true) =>
    deleteOrLog kind "terminal_message_delete_failed" receiptHandle received.messageId
      (some message.type) received.receiveCount
  | .user (.workerLease false) =>
    retrySoon kind receiptHandle received.messageId (some message.type) 5
  | _ =>
    if shouldFinalizePoisonDelivery error received.receiveCount maxReceiveCount then
      finalizePoison P kind received body receiptHandle error (some message.taskToken)
        (some message.type)
    else
      retrySoon kind receiptHandle received.messageId (some message.type) (retryVisibilitySeconds error)

/-- The `try` around the success callback. -/
def reportSuccess (kind : CallbackWorkerKind) (received : Received) (receiptHandle : Text)
    (message : CallbackMessage) (output : Value) : Queueing (Run Unit) := do
  match canonicalize output with
  | .error e => return .error e
  | .ok text =>
    match ← send (.success message.taskToken text) with
    | .error e => return .error e
    | .ok () =>
      match ← send (.delete receiptHandle) with
      | .error e => return .error e
      | .ok () =>
        log kind "message_completed" received.messageId (some message.type) none
          (some received.receiveCount)
        return .ok ()

/-- After the service has returned. -/
def onSuccess (kind : CallbackWorkerKind) (received : Received) (receiptHandle : Text)
    (message : CallbackMessage) (output : Value) : Queueing Unit := do
  match ← reportSuccess kind received receiptHandle message output with
  | .ok () => return ()
  | .error error =>
    if isTerminalTaskError error then
      deleteOrLog kind "terminal_message_delete_failed" receiptHandle received.messageId
        (some message.type) received.receiveCount
    else
      log kind "success_callback_failed" received.messageId (some message.type) (some error)
        (some received.receiveCount)
      retrySoon kind receiptHandle received.messageId (some message.type) 5

/-- `process`, once the body and the handle are known to be there. -/
def processBody (P : WorkerPlatform) (kind : CallbackWorkerKind) (maxReceiveCount : Nat)
    (received : Received) (body receiptHandle : Text) : Queueing Unit := do
  match acceptMessage P kind body with
  | .error error =>
    log kind "message_rejected" received.messageId none (some error) (some received.receiveCount)
    finalizePoison P.toPlatform kind received body receiptHandle error (recoverTaskToken body) none
  | .ok message =>
    match ← withLease message receiptHandle with
    | .error error => onFailure P.toPlatform kind maxReceiveCount received body receiptHandle message error
    | .ok output => onSuccess kind received receiptHandle message output

/-- `AwsQueueWorker.process`. -/
def process (P : WorkerPlatform) (kind : CallbackWorkerKind) (maxReceiveCount : Nat)
    (received : Received) : Queueing Unit :=
  match received.body, received.receiptHandle with
  | some body, some receiptHandle =>
    if body.isEmpty || receiptHandle.isEmpty then return ()
    else processBody P kind maxReceiveCount received body receiptHandle
  | _, _ => return ()

end Worker
