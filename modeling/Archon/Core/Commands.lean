/-
# The commands of the lease

`lifecycle.py` as programs over its calls: the table, a fresh operation id, the clock, and the
network and credential services, whose answers are theirs.  A command is taken as its validation
leaves it.  Between any two calls another command may run, and a run may end at any call, so all
that a handler knows about the lease is what the table told it.

`_ensure_endpoint`, the cleaning up of endpoints and the minting of credentials are calls here:
they go to other services and touch no lease.
-/
import Archon.Core.Lease

namespace Core

open Ecma Resumption Resumption.Program

/-! ## 1. Commands and decisions -/

/-- A binding, as far as the handlers read it, with the instant of its `leaseExpiresAt`. -/
structure CoreBinding where
  resolution : Text
  boundAt : Text
  leaseExpiresAt : Int

/-- The optional members of `REAP`, which its watchdog sends. -/
structure Watchdog where
  expectedSessionId : Text
  expectedRevision : Nat
  deadlineEpoch : Int

/-- A validated command. -/
inductive Command where
  | start (sessionId : Text) (expectedRevision : Nat) (binding : CoreBinding)
  | activity (sessionId : Text) (expectedRevision : Nat) (binding : CoreBinding)
  | stop (sessionId : Text) (expectedRevision : Nat) (binding : CoreBinding)
  | reap (watchdog : Option Watchdog)
  | finalize (decision : FinalizeDecision) (operationId sessionId : Text) (expectedRevision : Nat)

/-- The values of `decision`. -/
inductive DecisionKind where
  | NONE
  | REJECT
  | UPSCALE
  | DOWNSCALE
deriving DecidableEq

/-- What `_decision` returns. -/
structure Decision where
  decision : DecisionKind
  code : String
  operationId : Option Text
  sessionId : Option Text
  revision : Option Nat
  watchdogDeadline : Option Int
deriving DecidableEq

/-- `_decision(value, code=code)`. -/
def Decision.plain (value : DecisionKind) (code : String) : Decision :=
  ⟨value, code, none, none, none, none⟩

/-- `_decision` for an operation. -/
def Decision.operation (value : DecisionKind) (operationId sessionId : Text) (revision : Nat)
    (code : String) : Decision :=
  if operationId.isEmpty then .plain value code
  else ⟨value, code, some operationId, some sessionId, some revision, none⟩

/-- `_decision` with a watchdog. -/
def Decision.watched (sessionId : Text) (revision : Nat) (code : String) (deadline : Int) :
    Decision :=
  ⟨.NONE, code, none, some sessionId, some revision, some deadline⟩

/-! ## 2. Calls -/

/-- The exceptions, as far as a handler tells them apart. -/
inductive Fault where
  /-- A `ClientError` for which `_conditional_failure` holds. -/
  | conditional
  /-- Any other `ClientError`. -/
  | client
  /-- `ValueError`. -/
  | value
  | other
deriving DecidableEq

/-- The calls of the handlers. -/
inductive Call where
  | lease
  | write (w : LeaseWrite)
  | verifyAmi
  | uuid
  | clock
  | ensureEndpoint (capability : String) (sessionId : Text) (operationExpiresAt : Int)
  | mintAnalytics (sessionId : Text) (now : Int)
  | mintGateway (sessionId : Text) (now : Int)
  | cleanupSession (sessionId : Text) (endpointIds : List Text)
  | cleanupOrphans
  | deleteEndpoint (endpointId : Text)
  | publishStopped (sessionId : Text) (now : Int)

/-- What each is answered. -/
abbrev Call.Reply : Call → Type
  | lease => Except Fault (Option Lease)
  | uuid => Text
  | clock => Int
  | ensureEndpoint _ _ _ => Except Fault Text
  | mintAnalytics _ _ | mintGateway _ _ => Except Fault Credential
  | write _ | verifyAmi | cleanupSession _ _ | cleanupOrphans | deleteEndpoint _
  | publishStopped _ _ => Except Fault Unit

/-- The functions of the module. -/
abbrev Handler := Program Call Call.Reply Fault

/-- The calls made so far, with their answers. -/
abbrev CallHistory := List (Event Call Call.Reply)

/-- A call, with what it raises. -/
def send (e : Call) : Handler e.Reply := Program.perform e

/-- `_lease`. -/
def readLease : Handler (Option Lease) := do lift (← send .lease)

/-! ## 3. Starting -/

/-- The loop of `_abandon_start`: an attempt is repeated where it failed for no reason of the
table's. -/
def abandonAttempts (sessionId : Text) (revision : Nat) (operationId : Text) : Nat → Handler Unit
  | 0 => return ()
  | n + 1 => do
    let now ← send .clock
    match ← send (.write (.abandon sessionId revision operationId now)) with
    | .ok () => return ()
    | .error .conditional => return ()
    | .error .client => abandonAttempts sessionId revision operationId n
    | .error e => lift (.error e)

/-- `_abandon_start`. -/
def abandonStart (sessionId : Text) (revision : Nat) (operationId : Text)
    (endpointIds : List Text) : Handler Unit := do
  abandonAttempts sessionId revision operationId 3
  lift (← send (.cleanupSession sessionId endpointIds))

/-- `except Exception: _abandon_start(..); raise`. -/
def abandonAndRaise (sessionId : Text) (revision : Nat) (operationId : Text)
    (endpointIds : List Text) (e : Fault) : Handler Decision := do
  abandonStart sessionId revision operationId endpointIds
  lift (.error e)

/-- The lease that `_start` finds is its own reservation. -/
def sameReservation (S : Settings) (sessionId : Text) (revision : Nat) (binding : CoreBinding)
    (now : Int) (current : Lease) : Bool :=
  current.sessionId = sessionId && current.generation = S.generation
    && current.capabilityDigest = S.capabilityDigest && current.state = .STARTING
    && current.revision = revision && current.resolution = binding.resolution
    && current.boundAt = binding.boundAt && current.hardExpiresAt = epoch binding.leaseExpiresAt
    && current.operationId.isSome && epoch now < current.operationExpiresAt.getD 0

/-- The lease that `_start` finds is one that its session has started already. -/
def alreadyReady (S : Settings) (sessionId : Text) (revision : Nat) (current : Lease) : Bool :=
  current.sessionId = sessionId && current.generation = S.generation
    && current.capabilityDigest = S.capabilityDigest && current.state = .READY
    && revision ≤ current.revision

/-- Another run has recorded the same endpoints, with credentials that last. -/
def sameProvision (sessionId : Text) (revision : Nat) (operationId : Text) (p : Provision)
    (now : Int) (current : Lease) : Bool :=
  current.sessionId = sessionId && current.revision = revision
    && current.operationId = some operationId
    && current.inferenceEndpointId = some p.inferenceEndpointId
    && current.kmsEndpointId = some p.kmsEndpointId && current.stsEndpointId = some p.stsEndpointId
    && current.analyticsCredentials.any (fun c => epoch now + 900 < c.expiresAt)
    && current.gatewayCredentials.any fun c => epoch now + 900 < c.expiresAt

/-- The endpoints, in the order in which they are made. -/
def Provision.endpointIds (p : Provision) : List Text :=
  [p.kmsEndpointId, p.inferenceEndpointId, p.stsEndpointId]

/-- The last write of `_start`, and what it returns. -/
def attachProvision (sessionId : Text) (revision : Nat) (operationId : Text) (p : Provision)
    (now : Int) : Handler Decision := do
  let upscale := Decision.operation .UPSCALE operationId sessionId revision "OK"
  match ← send (.write (.attach sessionId revision operationId p now)) with
  | .ok () => return upscale
  | .error .conditional =>
    let current ← readLease
    if current.any (sameProvision sessionId revision operationId p now) then return upscale
    else
      abandonStart sessionId revision operationId p.endpointIds
      return Decision.plain .REJECT "LEASE_CONFLICT"
  | .error e => lift (.error e)

/-- `_start`, once it owns the lease. -/
def provision (sessionId : Text) (revision : Nat) (operationId : Text)
    (operationExpiresAt now : Int) : Handler Decision := do
  match ← send (.ensureEndpoint "kms" sessionId operationExpiresAt) with
  | .error e => abandonAndRaise sessionId revision operationId [] e
  | .ok kms =>
    match ← send (.ensureEndpoint "bedrock" sessionId operationExpiresAt) with
    | .error e => abandonAndRaise sessionId revision operationId [kms] e
    | .ok inference =>
      match ← send (.ensureEndpoint "sts" sessionId operationExpiresAt) with
      | .error e => abandonAndRaise sessionId revision operationId [kms, inference] e
      | .ok sts =>
        match ← send (.mintAnalytics sessionId now) with
        | .error e => abandonAndRaise sessionId revision operationId [kms, inference, sts] e
        | .ok analytics =>
          match ← send (.mintGateway sessionId now) with
          | .error e => abandonAndRaise sessionId revision operationId [kms, inference, sts] e
          | .ok gateway =>
            let p : Provision := ⟨inference, kms, sts, analytics, gateway⟩
            -- What is raised where the write was refused is caught as well.
            match ← (attachProvision sessionId revision operationId p now).attempt with
            | .ok decision => return decision
            | .error e => abandonAndRaise sessionId revision operationId p.endpointIds e

/-- `_start`. -/
def start (S : Settings) (sessionId : Text) (expected : Nat) (binding : CoreBinding) (now : Int) :
    Handler Decision := do
  lift (← send .verifyAmi)
  let hard := binding.leaseExpiresAt
  let idle := min (now + S.idleSeconds * 1000) hard
  let operationId ← send .uuid
  let operationExpiresAt := epoch now + S.operationSeconds
  match ← send (.write (.reserve
      ⟨sessionId, expected, binding.resolution, binding.boundAt, epoch idle, epoch hard, now,
        operationId, operationExpiresAt⟩)) with
  | .ok () => provision sessionId (expected + 1) operationId operationExpiresAt now
  | .error .conditional =>
    match ← readLease with
    | none => return Decision.plain .REJECT "LEASE_CONFLICT"
    | some current =>
      if sameReservation S sessionId (expected + 1) binding now current then
        provision sessionId (expected + 1) (current.operationId.getD [])
          (current.operationExpiresAt.getD 0) now
      else if alreadyReady S sessionId (expected + 1) current then
        return Decision.plain .NONE "IDEMPOTENT"
      else return Decision.plain .REJECT "LEASE_CONFLICT"
  | .error e => lift (.error e)

/-! ## 4. Activity -/

/-- `^acv_[0-9a-f]{32}$` and `^gcv_[0-9a-f]{32}$`. -/
def isVersion (start : String) (t : Text) : Bool :=
  (js start).isPrefixOf t && t.length = 36 && (t.drop 4).all Remediation.isHexDigit

/-- The lease is not the one the activity is about. -/
def staleActivity (S : Settings) (sessionId : Text) (expected : Nat) (hard now : Int)
    (current : Lease) : Bool :=
  current.sessionId ≠ sessionId || current.state ≠ .READY || current.revision ≠ expected
    || current.generation ≠ S.generation || current.capabilityDigest ≠ S.capabilityDigest
    || current.hardExpiresAt ≠ epoch hard || current.hardExpiresAt ≤ epoch now

/-- What `_activity` answers where it has not recorded anything: the activity may be recorded
already. -/
def activityUnrecorded (sessionId : Text) (revision : Nat) (now : Int) (current : Option Lease) :
    Decision :=
  match current with
  | some l =>
    if l.sessionId = sessionId && l.revision = revision && epoch now ≤ l.idleExpiresAt then
      Decision.watched sessionId revision "IDEMPOTENT" (l.idleExpiresAt * 1000)
    else Decision.plain .REJECT "STALE_ACTIVITY"
  | none => Decision.plain .REJECT "STALE_ACTIVITY"

/-- Credentials that end within twenty minutes are minted anew. -/
def rotate (previous : Credential) (now : Int) (mint : Handler (Except Fault Credential)) :
    Handler (Option Credential) := do
  if previous.expiresAt ≤ epoch now + 1200 then return some (← lift (← mint)) else return none

/-- `_activity`. -/
def activity (S : Settings) (sessionId : Text) (expected : Nat) (binding : CoreBinding)
    (now : Int) : Handler Decision := do
  let hard := binding.leaseExpiresAt
  let idle := min (now + S.idleSeconds * 1000) hard
  let found ← readLease
  match found with
  | none => return activityUnrecorded sessionId (expected + 1) now none
  | some current =>
    if staleActivity S sessionId expected hard now current then
      return activityUnrecorded sessionId (expected + 1) now (some current)
    else
      match current.analyticsCredentials, current.gatewayCredentials with
      | some previousAnalytics, some previousGateway =>
        if !isVersion "acv_" previousAnalytics.version || !isVersion "gcv_" previousGateway.version
            || !S.intNumbers then
          return Decision.plain .REJECT "INVALID_CREDENTIAL_BINDING"
        else
          let analytics ← rotate previousAnalytics now (send (.mintAnalytics sessionId now))
          let gateway ← rotate previousGateway now (send (.mintGateway sessionId now))
          match ← send (.write (.renew
              ⟨sessionId, expected, epoch idle, epoch hard, epoch now, now,
                previousAnalytics.version, previousGateway.version, analytics, gateway⟩)) with
          | .ok () =>
            return Decision.watched sessionId (expected + 1)
              (if analytics.isSome || gateway.isSome then "ACTIVITY_RECORDED_CREDENTIALS_ROTATED"
              else "ACTIVITY_RECORDED") idle
          | .error .conditional =>
            return activityUnrecorded sessionId (expected + 1) now (← readLease)
          | .error e => lift (.error e)
      | _, _ => return Decision.plain .REJECT "INVALID_CREDENTIAL_BINDING"

/-! ## 5. Going down -/

/-- `_begin_down`. -/
def beginDown (S : Settings) (current : Lease) (now : Int) (expected : Nat) (code : String) :
    Handler Decision := do
  if !Runtime.isSessionId current.sessionId then
    return Decision.plain .REJECT "INVALID_STORED_SESSION"
  else
    let operationId ← send .uuid
    match ← send (.write (.drain current.sessionId expected operationId (epoch now)
        (epoch now + S.operationSeconds) now)) with
    | .ok () =>
      return Decision.operation .DOWNSCALE operationId current.sessionId (expected + 1) code
    | .error .conditional => return Decision.plain .REJECT "LEASE_CONFLICT"
    | .error e => lift (.error e)

/-- `TERMINAL_STATES`. -/
def LeaseState.terminal (state : LeaseState) : Bool := state = .STOPPED || state = .EXPIRED

/-- `_stop`. -/
def stop (S : Settings) (sessionId : Text) (expected : Nat) (now : Int) : Handler Decision := do
  match ← readLease with
  | none => return Decision.plain .NONE "ALREADY_STOPPED"
  | some current =>
    if current.sessionId ≠ sessionId || current.generation ≠ S.generation
        || current.capabilityDigest ≠ S.capabilityDigest then
      return Decision.plain .REJECT "BINDING_MISMATCH"
    else if current.state.terminal then return Decision.plain .NONE "IDEMPOTENT"
    else if current.revision ≠ expected then return Decision.plain .REJECT "STALE_REVISION"
    else beginDown S current now expected "EXPLICIT_STOP"

/-- The watchdog's lease is not the current one, or its deadline has not come. -/
def staleWatchdog (w : Watchdog) (now : Int) (current : Lease) : Bool :=
  current.sessionId ≠ w.expectedSessionId || current.revision ≠ w.expectedRevision
    || epoch now < w.deadlineEpoch || current.idleExpiresAt ≠ w.deadlineEpoch

/-- A deadline of the lease, or of its operation, has passed. -/
def leaseExpired (now : Int) (current : Lease) : Bool :=
  current.hardExpiresAt ≤ epoch now || current.idleExpiresAt ≤ epoch now
    || (current.operationId.any (!·.isEmpty) && current.operationExpiresAt.getD 0 ≤ epoch now)

/-- `_reap`, of a lease that is not terminal. -/
def reapActive (S : Settings) (watchdog : Option Watchdog) (now : Int) (current : Lease) :
    Handler Decision := do
  if watchdog.any fun w => staleWatchdog w now current then
    return Decision.plain .NONE "STALE_WATCHDOG"
  else if !S.intNumbers then return Decision.plain .REJECT "INVALID_STORED_REVISION"
  else if !leaseExpired now current then return Decision.plain .NONE "LEASE_CURRENT"
  else beginDown S current now current.revision "LEASE_EXPIRED"

/-- `_reap`. -/
def reap (S : Settings) (watchdog : Option Watchdog) (now : Int) : Handler Decision := do
  match (← readLease).filter fun l => !l.state.terminal with
  | none =>
    lift (← send .cleanupOrphans)
    return Decision.plain .NONE "NO_ACTIVE_LEASE"
  | some current => reapActive S watchdog now current

/-! ## 6. Finishing an operation -/

/-- The state an operation that has come to its end leaves. -/
def FinalizeDecision.finalState : FinalizeDecision → LeaseState
  | UPSCALE => .STARTING
  | DOWNSCALE => .STOPPED

/-- `_finalize` where its write was refused: it may have been made before. -/
def finalizeRefused (decision : FinalizeDecision) (sessionId : Text) (expected : Nat)
    (current : Option Lease) : Decision :=
  match current with
  | some l =>
    if l.sessionId = sessionId && l.state = decision.finalState && l.operationId.isNone then
      match decision with
      | .UPSCALE => Decision.watched sessionId expected "IDEMPOTENT" (l.idleExpiresAt * 1000)
      | .DOWNSCALE => Decision.plain .NONE "IDEMPOTENT"
    else Decision.plain .REJECT "FINALIZE_CONFLICT"
  | none => Decision.plain .REJECT "FINALIZE_CONFLICT"

/-- Delete the endpoints one by one. -/
def deleteEndpoints : List Text → Handler Unit
  | [] => return ()
  | id :: ids => do
    lift (← send (.deleteEndpoint id))
    deleteEndpoints ids

/-- The endpoints of a lease; an absent one is the empty string. -/
def endpointsOf (before : Option Lease) : List Text :=
  match before with
  | some l => [l.inferenceEndpointId, l.kmsEndpointId, l.stsEndpointId].map (·.getD [])
  | none => []

/-- `_finalize`. -/
def finalize (decision : FinalizeDecision) (operationId sessionId : Text) (expected : Nat)
    (now : Int) : Handler Decision := do
  let before ← readLease
  match ← send (.write (.finalize decision sessionId expected operationId now)) with
  | .error .conditional => return finalizeRefused decision sessionId expected (← readLease)
  | .error e => lift (.error e)
  | .ok () =>
    match decision with
    | .DOWNSCALE =>
      deleteEndpoints (endpointsOf before)
      lift (← send .cleanupOrphans)
      lift (← send (.publishStopped sessionId now))
      return Decision.plain .NONE "STOPPED_COMMITTED"
    | .UPSCALE =>
      match ← readLease with
      | none => return Decision.plain .REJECT "FINALIZE_READ_FAILED"
      | some current =>
        return Decision.watched sessionId expected "STARTING_COMMITTED"
          (current.idleExpiresAt * 1000)

/-! ## 7. The handler and the host -/

/-- The dispatch of `handler`. -/
def dispatch (S : Settings) (command : Command) (now : Int) : Handler Decision :=
  match command with
  | .start sessionId expected binding => start S sessionId expected binding now
  | .activity sessionId expected binding => activity S sessionId expected binding now
  | .stop sessionId expected _ => stop S sessionId expected now
  | .reap watchdog => reap S watchdog now
  | .finalize decision operationId sessionId expected =>
    finalize decision operationId sessionId expected now

/-- `handler`, of a command that is valid. -/
def handler (S : Settings) (command : Command) (now : Int) : Handler Decision := do
  match ← (dispatch S command now).attempt with
  | .ok decision => return decision
  | .error .value => return Decision.plain .REJECT "INVALID_COMMAND"
  | .error e => lift (.error e)

/-- What happens to the lease: a command, or the host saying that it is ready or has failed. -/
inductive Work where
  | command (command : Command) (now : Int)
  | ready (sessionId : Text) (now : Int)
  | failed (sessionId : Text) (now : Int)

/-- The program of a piece of work, with its decision if it makes one.  What the host does after
its write does not concern the lease. -/
def Work.program (S : Settings) : Work → Handler (Option Decision)
  | command c now => do return some (← handler S c now)
  | ready sessionId now => do
    lift (← send (.write (.ready sessionId now)))
    return none
  | failed sessionId now => do
    lift (← send (.write (.failed sessionId now)))
    return none

end Core
