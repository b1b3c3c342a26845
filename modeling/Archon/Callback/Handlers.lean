/-
# The two Lambdas

`index.js` (`handleDecide`) takes a steward's decision: it reads the approval, writes the decision
where it is still `PENDING`, makes sure that what is stored is this very decision, takes the
callback lease, reports to Step Functions and marks the approval as delivered, or as closed where
the token has ended.  `handoff.js` (`handoff`) stores the messages of the queue as approvals, and fails the token
of a message that it can not take.

Both are programs over their calls.  Any of them may fail, before or after it had its effect, and an
invocation may end after any of them.  A request is taken as `parseRequest` returns it.
-/
import Archon.Callback.Record
import Archon.Runtime.Binding

namespace Callback

open Ecma Ecma.Value Remediation Resumption Resumption.Program

/-! ## 1. Calls -/

/-- What a service answers with instead of a result. -/
inductive ServiceFault where
  /-- `ConditionalCheckFailedException`. -/
  | conditional
  /-- `TaskDoesNotExist`, `TaskTimedOut` or `InvalidToken`. -/
  | taskEnded
  /-- Anything else. -/
  | other
deriving DecidableEq

/-- What the handlers throw or catch. -/
inductive Fault where
  | service (fault : ServiceFault)
  /-- `TerminalHandoffError`. -/
  | terminal (code : String)
  /-- `Error`, of the code itself. -/
  | error (message : String)
deriving DecidableEq

/-- What the code is thrown where a service fails. -/
def thrown {α : Type} (r : Except ServiceFault α) : Except Fault α := r.mapError .service

/-- The calls of the handlers. -/
inductive Call where
  /-- `new Date()` and then `Date.now()`. -/
  | clocks
  /-- `Date.now()`, in `parse`. -/
  | parseClock (body : Text)
  /-- `new Date()`. -/
  | clock
  | read (approvalId : Text)
  | write (w : ApprovalWrite)
  | sendTaskSuccess (taskToken : Text) (output : Value)
  | sendTaskFailure (taskToken error cause : Text)
  /-- The item of `recordPoison`. -/
  | quarantine (messageId bodyDigest failureCode createdAt : Text) (expiresAt : Int)

/-- What each is answered.  The clock is not set back between two readings in a row. -/
abbrev Call.Reply : Call → Type
  | clocks => { readings : Int × Int // readings.1 ≤ readings.2 }
  | parseClock _ | clock => Int
  | read _ => Except ServiceFault (Option Item)
  | write _ | sendTaskSuccess _ _ | sendTaskFailure _ _ _ | quarantine _ _ _ _ _ =>
    Except ServiceFault Unit

/-- The functions of the two modules. -/
abbrev Handler := Program Call Call.Reply Fault

/-- The calls made so far, with their answers. -/
abbrev CallHistory := List (Event Call Call.Reply)

/-- A call, with what it throws. -/
def send (e : Call) : Handler e.Reply := Program.perform e

/-- The whole seconds of an instant in milliseconds. -/
def epoch (ms : Int) : Int := ms / 1000

/-! ## 2. Deciding -/

/-- A request that was parsed. -/
structure DecideRequest where
  requestId : Text
  approvalId : Text
  decision : DecisionName
  comment : Text
  subject : Text
  issuer : Text
deriving DecidableEq

/-- A response, without its headers. -/
structure Response where
  statusCode : Nat
  payload : Value

section Decide

variable (P : Platform)

/-- `canonicalDigest`. -/
def canonicalDigest (v : Value) : Text := js "sha256:" ++ P.sha256 ((stringify v).getD [])

/-- `decisionRecord`. -/
def decisionRecord (r : DecideRequest) : Value :=
  object [("approvalId", .str r.approvalId), ("decision", .str r.decision.text),
    ("comment", .str r.comment), ("approverSub", .str r.subject),
    ("approverIssuer", .str r.issuer)]

/-- The approver, as the evidence and the output have it. -/
def approver (subject issuer : Text) : Value :=
  object [("subject", .str subject), ("issuer", .str issuer), ("roles", .arr [lit "DataSteward"]),
    ("authenticated", .bool true)]

/-- `decisionEvidence`. -/
def decisionEvidence (r : DecideRequest) (current : Item) : Value :=
  object [("schemaVersion", lit "archon.approval-decision/v1"), ("approvalId", .str r.approvalId),
    ("executionId", .str current.executionId), ("evidenceDigest", .str current.evidenceDigest),
    ("planDigest", .str current.planDigest), ("requestDigest", .str current.requestDigest),
    ("decision", .str r.decision.text), ("approver", approver r.subject r.issuer),
    ("commentDigest", .str (canonicalDigest P (.str r.comment)))]

/-- What is written of the request. -/
def decidedOf (r : DecideRequest) (current : Item) (now : Text) : Decided where
  decision := r.decision
  comment := r.comment
  approverSub := r.subject
  approverIssuer := r.issuer
  decisionDigest := canonicalDigest P (decisionRecord r)
  decisionEvidenceDigest := canonicalDigest P (decisionEvidence P r current)
  decisionEvidence := (stringify (decisionEvidence P r current)).getD []
  decidedAt := now

/-- The output that goes to Step Functions. -/
def outputOf (approvalId : Text) (decision : DecisionName) (subject issuer decidedAt : Text) :
    Value :=
  object [("approvalId", .str approvalId),
    ("decision", object [("decision", .str decision.text), ("approver", approver subject issuer),
      ("decidedAt", .str decidedAt)])]

/-- `callbackAttemptId`. -/
def callbackAttemptId (r : DecideRequest) (decisionDigest now : Text) : Text :=
  canonicalDigest P (object [("decisionDigest", .str decisionDigest),
    ("requestId", .str (if r.requestId.isEmpty then js "unknown" else r.requestId)),
    ("attemptedAt", .str now)])

/-- `DECIDED_RETENTION_SECONDS`. -/
def DECIDED_RETENTION_SECONDS : Int := 90 * 24 * 60 * 60

/-- A response that tells of an error. -/
def failed (statusCode : Nat) (error : String) : Response :=
  ⟨statusCode, object [("error", lit error)]⟩

/-- A response that tells what became of the decision. -/
def recorded (r : DecideRequest) (statusCode : Nat) (disposition : String) : Response :=
  ⟨statusCode, object [("approvalId", .str r.approvalId), ("decision", .str r.decision.text),
    ("status", lit "recorded"), ("decisionId", .str (canonicalDigest P (decisionRecord r))),
    ("disposition", lit disposition)]⟩

/-- `readApproval(..).Item`. -/
def readApproval (approvalId : Text) : Handler (Option Item) := do
  lift (thrown (← send (.read approvalId)))

/-- The response, if the callback is over already. -/
def callbackOver (r : DecideRequest) (current : Item) : Option Response :=
  if current.callbackDelivered then some (recorded P r 200 "already_recorded")
  else if current.callbackClosed then some (recorded P r 202 "recorded_callback_closed")
  else none

/-- What is stored is not this decision. -/
def decidedOtherwise (r : DecideRequest) (evidenceDigest : Text) (current : Option Item) : Bool :=
  !current.any fun item => item.status = .DECIDED && item.decided.any fun d =>
    d.decisionDigest = canonicalDigest P (decisionRecord r)
      && d.decisionEvidenceDigest = evidenceDigest && d.approverSub = r.subject
      && d.approverIssuer = r.issuer

/-- The decision is written, and the approval read again. -/
def recordDecision (r : DecideRequest) (current : Item) (now : Text) (nowEpoch : Int) :
    Handler (Option Item) := do
  match ← send (.write (.decide r.approvalId (decidedOf P r current now)
      (nowEpoch + DECIDED_RETENTION_SECONDS))) with
  | .ok () | .error .conditional => readApproval r.approvalId
  | .error e => lift (thrown (.error e))

/-- Step Functions is told, and the approval marked. -/
def callBack (r : DecideRequest) (taskToken decidedAt attemptId now : Text) : Handler Response := do
  let digest := canonicalDigest P (decisionRecord r)
  match ← send (.sendTaskSuccess taskToken
      (outputOf r.approvalId r.decision r.subject r.issuer decidedAt)) with
  | .ok () =>
    lift (thrown (← send (.write (.deliver r.approvalId digest attemptId now))))
    return recorded P r 200 "recorded"
  | .error .taskEnded =>
    lift (thrown (← send (.write (.close r.approvalId digest attemptId now))))
    return recorded P r 202 "recorded_callback_closed"
  | .error e => lift (thrown (.error e))

/-- The callback lease, and the callback under it. -/
def attemptCallback (r : DecideRequest) (taskToken decidedAt now : Text) (nowEpoch : Int) :
    Handler Response := do
  let digest := canonicalDigest P (decisionRecord r)
  let attemptId := callbackAttemptId P r digest now
  match ← send (.write (.attempt r.approvalId digest attemptId now nowEpoch)) with
  | .ok () => callBack P r taskToken decidedAt attemptId now
  | .error .conditional =>
    match (← readApproval r.approvalId).bind (callbackOver P r) with
    | some response => return response
    | none => return recorded P r 202 "callback_delivery_in_progress"
  | .error e => lift (thrown (.error e))

/-- The decision is stored: go on to the callback. -/
def onDecided (r : DecideRequest) (evidenceDigest now : Text) (nowEpoch : Int)
    (current : Option Item) : Handler Response :=
  if decidedOtherwise P r evidenceDigest current then return failed 409 "approval_already_decided"
  else
    match current.bind (callbackOver P r) with
    | some response => return response
    | none =>
      match current.bind Item.taskToken with
      | none => lift (.error (.error "approval has no server-held callback token"))
      | some taskToken =>
        match (current.bind Item.decided).map Decided.decidedAt with
        | none => lift (.error (.error "approval has no valid server-held decision timestamp"))
        | some decidedAt =>
          if taskToken.isEmpty then
            lift (.error (.error "approval has no server-held callback token"))
          else if decidedAt.isEmpty || (P.dateParse decidedAt).isNone then
            lift (.error (.error "approval has no valid server-held decision timestamp"))
          else attemptCallback P r taskToken decidedAt now nowEpoch

/-- `handler` of `index.js`, of a request that was parsed. -/
def handleDecide (r : DecideRequest) : Handler Response := do
  let readings ← send .clocks
  let now := P.toISOString readings.val.1
  let nowEpoch := epoch readings.val.2
  match ← readApproval r.approvalId with
  | none => return failed 404 "approval_not_found"
  | some current =>
    match P.dateParse current.approvalExpiresAt with
    | none => lift (.error (.error "approval has no immutable deadline"))
    | some expires =>
      let evidenceDigest := canonicalDigest P (decisionEvidence P r current)
      if current.status = .PENDING then
        if epoch expires ≤ nowEpoch then return failed 410 "approval_expired"
        else
          let current ← recordDecision P r current now nowEpoch
          onDecided P r evidenceDigest now nowEpoch current
      else onDecided P r evidenceDigest now nowEpoch (some current)

end Decide

/-! ## 3. The hand-off -/

/-- A record of the queue. -/
structure QueueRecord where
  messageId : Text
  body : Text
deriving DecidableEq

/-- `terminal(code)`. -/
def terminal {α : Type} (code : String) : Except Fault α := .error (.terminal code)

/-- `strictString`. -/
def strictString (v : Value) (pattern : Text → Bool) (minLength maxLength : Nat) :
    Except Fault Text :=
  match v with
  | .str t =>
    if minLength ≤ t.length && t.length ≤ maxLength && pattern t then .ok t
    else terminal "INVALID_MESSAGE"
  | _ => terminal "INVALID_MESSAGE"

/-- `/^[^\u0000-\u001f\u007f]+$/`. -/
def isPlain (t : Text) : Bool := !t.isEmpty && t.all fun u => 0x20 ≤ u && u ≠ 0x7F

/-- `ID`, with the bounds of its length. -/
def isApprovalId (t : Text) : Bool :=
  8 ≤ t.length && t.length ≤ 160
    && t.all fun u => Runtime.isAlphanumeric u || u == 0x2E || u == 0x5F || u == 0x3A || u == 0x2D

/-- `DIGEST`. -/
def isDigest (t : Text) : Bool :=
  (js "sha256:").isPrefixOf t && t.length = 71 && (t.drop 7).all isHexDigit

/-- The parts of a text between its colons. -/
def splitColons (t : Text) : List Text := t.splitOn 0x3A

/-- `EXECUTION`, part by part: no part of it takes a colon. -/
def isExecution (t : Text) : Bool :=
  match splitColons t with
  | [arn, partition, states, region, account, execution, machine, name] =>
    arn = js "arn"
      && (partition = js "aws" || partition = js "aws-us-gov" || partition = js "aws-cn")
      && states = js "states" && !region.isEmpty
      && region.all (fun u => isDigit u || (0x61 ≤ u && u ≤ 0x7A) || u == 0x2D)
      && account.length = 12 && account.all isDigit && execution = js "execution"
      && !machine.isEmpty && machine.all (fun u => Runtime.isAlphanumeric u || u == 0x2D || u == 0x5F)
      && !name.isEmpty && name.all (fun u => Runtime.isAlphanumeric u || u == 0x2D || u == 0x5F)
  | _ => false

/-- `MAX_BODY_BYTES`. -/
def MAX_BODY_BYTES : Nat := 128 * 1024

/-- `RETENTION_SECONDS`. -/
def RETENTION_SECONDS : Int := 90 * 24 * 60 * 60

/-- The members of a message. -/
def MESSAGE_KEYS : List String :=
  ["type", "taskToken", "executionId", "approvalId", "planDigest", "evidenceDigest",
    "approvalRequestDigest", "requestedAt", "expiresAt"]

section Handoff

variable (P : Platform)

/-- `instant`, with the milliseconds it parses to. -/
def instant (v : Value) : Except Fault (Text × Int) :=
  match v with
  | .str t =>
    match P.dateParse t with
    | some ms => if 20 ≤ t.length && t.length ≤ 40 then .ok (t, ms) else terminal "INVALID_MESSAGE"
    | none => terminal "INVALID_MESSAGE"
  | _ => terminal "INVALID_MESSAGE"

/-- The members of a message that `parse` returns as they are. -/
def readMessage (input : Value) (requestedAt expiresAt : Text) (expiresEpoch : Int) :
    Except Fault Message := do
  let taskToken ← strictString (input.getPath ["taskToken"]) isPlain 16 1024
  let executionId ← strictString (input.getPath ["executionId"]) isExecution 32 2048
  let approvalId ← strictString (input.getPath ["approvalId"]) isApprovalId 8 160
  let planDigest ← strictString (input.getPath ["planDigest"]) isDigest 71 71
  let evidenceDigest ← strictString (input.getPath ["evidenceDigest"]) isDigest 71 71
  let approvalRequestDigest ← strictString (input.getPath ["approvalRequestDigest"]) isDigest 71 71
  return ⟨taskToken, executionId, approvalId, planDigest, evidenceDigest, approvalRequestDigest,
    requestedAt, expiresAt, expiresEpoch⟩

/-- The part of `parse` that does not look at the time: the members that are checked before it, and
what it goes on to return. -/
def readBody (body : Text) : Except Fault (Value × Text × Int × Text × Int) := do
  if MAX_BODY_BYTES < utf8Length body then terminal "BODY_TOO_LARGE"
  else
    match Ecma.parse body with
    | none => terminal "INVALID_JSON"
    | some input =>
      if !input.exactKeys MESSAGE_KEYS then terminal "INVALID_MESSAGE"
      else if !(input.getPath ["type"]).isText (js "APPROVAL_REQUESTED") then
        terminal "QUEUE_CONFUSION"
      else
        let (requestedAt, requested) ← instant P (input.getPath ["requestedAt"])
        let (expiresAt, expires) ← instant P (input.getPath ["expiresAt"])
        return (input, requestedAt, requested, expiresAt, expires)

/-- `parse`, at a reading of the clock. -/
def parse (body : Text) (now : Int) : Except Fault Message := do
  let (input, requestedAt, requested, expiresAt, expires) ← readBody P body
  if epoch expires ≤ epoch now || epoch expires ≤ epoch requested
      || 7 * 24 * 60 * 60 < epoch expires - epoch requested then
    terminal "INVALID_APPROVAL_WINDOW"
  else readMessage input requestedAt expiresAt (epoch expires)

/-- The item was stored from this very message. -/
def sameBinding (m : Message) (item : Item) : Bool :=
  item.executionId = m.executionId && item.evidenceDigest = m.evidenceDigest
    && item.planDigest = m.planDigest && item.requestDigest = m.approvalRequestDigest
    && item.requestedAt = m.requestedAt && item.approvalExpiresAt = m.expiresAt

/-- `persist`. -/
def persist (m : Message) : Handler Unit := do
  let createdAt ← send .clock
  match ← send (.write (.put m (P.toISOString createdAt))) with
  | .ok () => return ()
  | .error .conditional =>
    let current ← readApproval m.approvalId
    if current.any fun item => sameBinding m item
        && ((item.status = .PENDING && item.taskToken = some m.taskToken)
          || item.status = .DECIDED) then
      return ()
    else lift (terminal "IMMUTABLE_BINDING_CONFLICT")
  | .error e => lift (thrown (.error e))

/-- `recordPoison`. -/
def recordPoison (r : QueueRecord) (code : String) : Handler Unit := do
  let now ← send .clock
  match ← send (.quarantine r.messageId (js "sha256:" ++ P.sha256 r.body) (js code)
      (P.toISOString now) (epoch now + RETENTION_SECONDS)) with
  | .ok () | .error .conditional => return ()
  | .error e => lift (thrown (.error e))

/-- `recoverTaskToken`. -/
def recoverTaskToken (body : Text) : Option Text :=
  match (Ecma.parse body).map fun v => v.getPath ["taskToken"] with
  | some (Value.str token) => if 16 ≤ token.length ∧ token.length ≤ 1024 then some token else none
  | _ => none

/-- `failCallback`. -/
def failCallback (taskToken : Option Text) (code : String) : Handler Unit :=
  match taskToken with
  | none => return ()
  | some token => do
    match ← send (.sendTaskFailure token (js "ArchonApprovalHandoffRejected")
        ((stringify (object [("code", lit code)])).getD [])) with
    | .ok () | .error .taskEnded => return ()
    | .error e => lift (thrown (.error e))

/-- A record is parsed and stored. -/
def takeRecord (r : QueueRecord) : Handler Unit := do
  let now ← send (.parseClock r.body)
  let message ← lift (parse P r.body now)
  persist P message

/-- A record, with `true` if it has to be delivered again. -/
def handleRecord (r : QueueRecord) : Handler Bool := do
  match ← (takeRecord P r).attempt with
  | .ok () => return false
  | .error (.terminal code) =>
    recordPoison P r code
    failCallback (recoverTaskToken r.body) code
    return false
  | .error _ => return true

/-- `handler` of `handoff.js`: the ids of the messages that have to be delivered again. -/
def handoff : List QueueRecord → Handler (List Text)
  | [] => return []
  | r :: rs => do
    let again ← handleRecord P r
    let failures ← handoff rs
    return if again then r.messageId :: failures else failures

end Handoff

end Callback
