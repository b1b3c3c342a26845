/-
# The lease of the shared Core runtime

One item of one table says which session the Core runtime belongs to.  Everything that happens to
the runtime is decided by a conditional write to this item: `lifecycle.py` makes them for the
commands of the control plane and for the state machine that scales the host, and the host itself
marks the lease ready or failed.  A `LeaseWrite` is one of these writes, with the values that the
code puts into it; `LeaseWrite.condition` is its `ConditionExpression` and `LeaseWrite.result` its
`UpdateExpression`.

Instants are milliseconds, and `epoch` is the whole seconds in them, which is what the table holds
for deadlines.
-/
import Archon.Resumption.Guarded
import Archon.Runtime.Session

namespace Core

open Ecma Resumption

/-! ## 1. The item -/

/-- The values of the attribute `state`. -/
inductive LeaseState where
  | STARTING
  | READY
  | DRAINING
  | STOPPED
  | EXPIRED
  | FAILED
deriving DecidableEq

/-- Credentials as they are stored: encrypted, with the epoch at which they end and a version. -/
structure Credential where
  ciphertext : Text
  expiresAt : Int
  version : Text
deriving DecidableEq

/-- The item `CORE#LEASE`, `CURRENT`. -/
structure Lease where
  sessionId : Text
  state : LeaseState
  revision : Nat
  generation : Text
  capabilityDigest : Text
  resolution : Text
  boundAt : Text
  idleExpiresAt : Int
  hardExpiresAt : Int
  updatedAt : Int
  stoppedAt : Option Int
  readyAt : Option Int
  operationId : Option Text
  operationExpiresAt : Option Int
  expiresAt : Int
  inferenceEndpointId : Option Text
  kmsEndpointId : Option Text
  stsEndpointId : Option Text
  analyticsCredentials : Option Credential
  gatewayCredentials : Option Credential
deriving DecidableEq

/-- What the functions take from their environment.  `intNumbers` says whether the client library
hands numbers of the table on as `int`; boto3 hands them on as `Decimal`. -/
structure Settings where
  generation : Text
  capabilityDigest : Text
  idleSeconds : Int
  operationSeconds : Int
  intNumbers : Bool

/-- `_epoch`. -/
def epoch (ms : Int) : Int := ms / 1000

/-! ## 2. The writes -/

/-- What `_start` reserves the lease with. -/
structure Reservation where
  sessionId : Text
  expected : Nat
  resolution : Text
  boundAt : Text
  idle : Int
  hard : Int
  updatedAt : Int
  operationId : Text
  operationExpiresAt : Int

/-- What a session that owns the lease has got itself. -/
structure Provision where
  inferenceEndpointId : Text
  kmsEndpointId : Text
  stsEndpointId : Text
  analyticsCredentials : Credential
  gatewayCredentials : Credential

/-- A new deadline, with the credentials that are rotated along with it. -/
structure Renewal where
  sessionId : Text
  expected : Nat
  idle : Int
  hard : Int
  now : Int
  updatedAt : Int
  previousAnalyticsVersion : Text
  previousGatewayVersion : Text
  analyticsCredentials : Option Credential
  gatewayCredentials : Option Credential

/-- The state a finished operation leaves: `STARTING` after `UPSCALE`, `STOPPED` after
`DOWNSCALE`. -/
inductive FinalizeDecision where
  | UPSCALE
  | DOWNSCALE
deriving DecidableEq

/-- The conditional writes to the lease. -/
inductive LeaseWrite where
  /-- `_start`, winning the lease. -/
  | reserve (reservation : Reservation)
  /-- `_start`, recording endpoints and credentials. -/
  | attach (sessionId : Text) (revision : Nat) (operationId : Text) (provision : Provision)
      (updatedAt : Int)
  /-- `_abandon_start`. -/
  | abandon (sessionId : Text) (revision : Nat) (operationId : Text) (updatedAt : Int)
  /-- `_activity`. -/
  | renew (renewal : Renewal)
  /-- `_begin_down`. -/
  | drain (sessionId : Text) (expected : Nat) (operationId : Text) (now operationExpiresAt : Int)
      (updatedAt : Int)
  /-- `_finalize`. -/
  | finalize (decision : FinalizeDecision) (sessionId : Text) (revision : Nat) (operationId : Text)
      (updatedAt : Int)
  /-- `_publish_health` of the host, with `transition_ready`. -/
  | ready (sessionId : Text) (now : Int)
  /-- `_mark_failed` of the host. -/
  | failed (sessionId : Text) (now : Int)

namespace LeaseWrite

variable (S : Settings)

/-- The lease a reservation makes.  What it does not set and does not remove stays. -/
def reserved (r : Reservation) (before : Option Lease) : Lease where
  sessionId := r.sessionId
  state := .STARTING
  revision := r.expected + 1
  generation := S.generation
  capabilityDigest := S.capabilityDigest
  resolution := r.resolution
  boundAt := r.boundAt
  idleExpiresAt := r.idle
  hardExpiresAt := r.hard
  updatedAt := r.updatedAt
  stoppedAt := none
  readyAt := before.bind Lease.readyAt
  operationId := some r.operationId
  operationExpiresAt := some r.operationExpiresAt
  expiresAt := r.hard + 86400
  inferenceEndpointId := none
  kmsEndpointId := none
  stsEndpointId := none
  analyticsCredentials := none
  gatewayCredentials := none

/-- The lease without its endpoints and credentials, and without an operation. -/
def cleared (l : Lease) : Lease :=
  { l with
    operationId := none, operationExpiresAt := none, inferenceEndpointId := none
    kmsEndpointId := none, stsEndpointId := none, analyticsCredentials := none
    gatewayCredentials := none }

/-- `ConditionExpression`, on a lease that is there. -/
def meets (w : LeaseWrite) (l : Lease) : Bool :=
  match w with
  | reserve r =>
    (l.state = .STOPPED || l.state = .EXPIRED || l.state = .FAILED) && l.revision = r.expected
      && l.operationId.isNone
  | attach sessionId revision operationId _ _ | abandon sessionId revision operationId _ =>
    l.sessionId = sessionId && l.state = .STARTING && l.revision = revision
      && l.operationId = some operationId && l.generation = S.generation
      && l.capabilityDigest = S.capabilityDigest
  | renew r =>
    l.sessionId = r.sessionId && l.state = .READY && l.revision = r.expected
      && l.generation = S.generation && l.capabilityDigest = S.capabilityDigest
      && l.hardExpiresAt = r.hard && r.now < l.hardExpiresAt
      && l.analyticsCredentials.map Credential.version = some r.previousAnalyticsVersion
      && l.gatewayCredentials.map Credential.version = some r.previousGatewayVersion
      && l.operationId.isNone
  | drain sessionId expected _ now _ _ =>
    l.sessionId = sessionId && l.revision = expected
      && (l.state = .STARTING || l.state = .READY || l.state = .FAILED)
      && (l.operationId.isNone || l.operationExpiresAt.any (· ≤ now))
  | finalize _ sessionId revision operationId _ =>
    l.sessionId = sessionId && l.revision = revision && l.operationId = some operationId
  | ready sessionId _ =>
    l.sessionId = sessionId && l.state = .STARTING && l.generation = S.generation
      && l.capabilityDigest = S.capabilityDigest && l.operationId.isNone
  | failed sessionId _ => l.sessionId = sessionId && l.state = .STARTING

/-- `UpdateExpression`, on a lease that is there. -/
def update (w : LeaseWrite) (l : Lease) : Lease :=
  match w with
  | reserve r => reserved S r (some l)
  | attach _ _ _ p updatedAt =>
    { l with
      inferenceEndpointId := some p.inferenceEndpointId, kmsEndpointId := some p.kmsEndpointId
      stsEndpointId := some p.stsEndpointId, updatedAt
      analyticsCredentials := some p.analyticsCredentials
      gatewayCredentials := some p.gatewayCredentials }
  | abandon _ _ _ updatedAt => { cleared l with state := .FAILED, updatedAt }
  | renew r =>
    { l with
      idleExpiresAt := r.idle, updatedAt := r.updatedAt, revision := r.expected + 1
      analyticsCredentials := r.analyticsCredentials.or l.analyticsCredentials
      gatewayCredentials := r.gatewayCredentials.or l.gatewayCredentials }
  | drain _ expected operationId _ operationExpiresAt updatedAt =>
    { l with
      state := .DRAINING, revision := expected + 1, updatedAt, operationId := some operationId
      operationExpiresAt := some operationExpiresAt }
  | finalize .UPSCALE _ _ _ updatedAt =>
    { l with state := .STARTING, updatedAt, operationId := none, operationExpiresAt := none }
  | finalize .DOWNSCALE _ _ _ updatedAt =>
    { cleared l with state := .STOPPED, updatedAt, stoppedAt := some updatedAt }
  | ready _ now => { l with state := .READY, readyAt := some now, updatedAt := now }
  | failed _ now => { l with state := .FAILED, updatedAt := now }

/-- The condition on the item.  Only a reservation is met by a table without a lease. -/
def condition (w : LeaseWrite) : Option Lease → Bool
  | some l => w.meets S l
  | none =>
    match w with
    | reserve _ => true
    | _ => false

/-- The item after the write. -/
def result (w : LeaseWrite) : Option Lease → Option Lease
  | some l => some (w.update S l)
  | none =>
    match w with
    | reserve r => some (reserved S r none)
    | _ => none


end LeaseWrite

end Core
