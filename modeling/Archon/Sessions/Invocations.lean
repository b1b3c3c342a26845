/-
# What the Lambdas do to a stored session

Two Lambdas write the item of a session.  The one of the runtimes (`index.js`) starts a session, shows
it, extends it and stops it; each time it reads the item, brings the session up to date with the health
of its runtime (`reconcile`), and writes what changed.  The one of the runs (`runtime-v2.js`) extends a
session whenever a run is started in it, with a parser and an update of its own.  Both write on the
condition that the revision is still the one they have read.

Where the session is bound to the Core runtime they also send commands to its state machine.  The name
of an execution is made of the action, the session and a number: the revision of the session in the
one Lambda, the revision of the lease in the other.

An invocation is a program over its calls.  Authentication and the answers of the handlers are left
out; they neither read nor write what is modelled.
-/
import Archon.Cloud.Health
import Archon.Resumption.Pool
import Archon.Runtime.Refinement

namespace Sessions

open Ecma Ecma.Value Remediation Resumption Resumption.Program
open Runtime (Stamp RuntimeProfileId RuntimeRequest RuntimeSessionState RuntimeSessionFailureCode)
open Runtime.Deployed (spreadWith stateIn)

/-! ## 1. Calls -/

/-- The item of a session. -/
structure Item where
  payload : Text
  revision : Nat
  principalHash : Text

/-- The lease of the Core runtime; its revision counts up from 0. -/
structure Lease where
  revision : Option Nat
  sessionId : Option Text
  state : Option Text

/-- A command to the state machine of the Core runtime, with the number that its execution is named
by. -/
structure Command where
  action : String
  sessionId : Text
  number : Nat
  expectedRevision : Nat
  binding : Value

/-- What an invocation calls. -/
inductive Call where
  /-- `new Date().toISOString()`. -/
  | now
  | getSession (sessionId : Text)
  | getHealth (profileId : RuntimeProfileId)
  | getLease
  | startExecution (command : Command)
  /-- Where there is no item yet. -/
  | putSession (sessionId : Text) (item : Item)
  /-- Where the revision is the expected one. -/
  | updateSession (sessionId : Text) (expected : Nat) (payload : Text) (next : Nat)

/-- What a call returns; nothing, and `false`, where it throws. -/
def Answer (P : Platform) : Call → Type
  | .now => Stamp P
  | .getSession _ => Option (Option Item)
  | .getHealth _ => Option (Option Value)
  | .getLease => Option (Option Lease)
  | .startExecution _ => Bool
  | .putSession _ _ => Bool
  | .updateSession _ _ _ _ => Bool

/-- A part of an invocation. -/
abbrev Part (P : Platform) (α : Type) := Program Call (Answer P) (Exn String) α

section Calls

variable {P : Platform}

/-- `new Date().toISOString()`. -/
def readClock : Part P (Stamp P) := perform Call.now

/-- `getItem`, of a session. -/
def getSession (sessionId : Text) : Part P (Option (Option Item)) :=
  perform (Call.getSession sessionId)

/-- `getItem`, of the health of a runtime. -/
def getHealth (profileId : RuntimeProfileId) : Part P (Option (Option Value)) :=
  perform (Call.getHealth profileId)

/-- `getItem`, of the lease. -/
def getLease : Part P (Option (Option Lease)) := perform Call.getLease

/-- `StartExecutionCommand`. -/
def startExecution (command : Command) : Part P Bool := perform (Call.startExecution command)

/-- `PutItemCommand`. -/
def putItem (sessionId : Text) (item : Item) : Part P Bool := perform (Call.putSession sessionId item)

/-- `UpdateItemCommand`. -/
def updateItem (sessionId : Text) (expected : Nat) (payload : Text) (next : Nat) : Part P Bool :=
  perform (Call.updateSession sessionId expected payload next)

end Calls

/-- `throw`. -/
def fail {P : Platform} {α : Type} (message : String) : Part P α := lift (.error (.user message))

/-- A string member of a session that was validated. -/
def textOf (v : Value) (key : String) : Text :=
  match v.get (js key) with
  | .str t => t
  | _ => []

/-- The revision of a session that was validated. -/
def revisionOf (v : Value) : Nat := (v.get (js "revision")).counter.getD 0

/-- `JSON.stringify`, of an object. -/
def printed (v : Value) : Text := (stringify v).getD []

/-- The name of an execution. -/
def Command.name (c : Command) : Text :=
  (js (c.action.toLower ++ "-") ++ c.sessionId ++ js "-" ++ decimalText c.number).take 80

/-- The input of an execution. -/
def Command.input (c : Command) : Text :=
  printed (object [("schema", lit "archon.core-runtime-command/v1"), ("action", lit c.action),
    ("sessionId", .str c.sessionId), ("expectedRevision", .num (.ofNat c.expectedRevision)),
    ("binding", c.binding)])

/-! ## 2. index.js -/

section Control

variable (P : Platform)

/-- `readSession`. -/
def readSession (sessionId : Text) : Part P Value := do
  if !Runtime.isSessionId sessionId then fail "invalid_runtime_session_id"
  else
    match ← getSession sessionId with
    | some (some item) =>
      if item.payload.isEmpty then fail "runtime_session_not_found"
      else
        match parse item.payload with
        | none => fail "stored runtime session is invalid"
        | some payload =>
          let session ← lift (Runtime.Deployed.validateSession P payload)
          if !(session.get (js "revision")).strictEq (.num (.ofNat item.revision)) then
            fail "stored runtime session revision drift"
          else if !isDigestText item.principalHash then fail "stored runtime session owner is invalid"
          else return session
    | some none => fail "runtime_session_not_found"
    | none => fail "runtime_control_unavailable"

/-- `readHealth`, where it returns. -/
def healthRead (profileId : RuntimeProfileId) (read : Option (Option Value)) : Option Value :=
  match read with
  | some (some item) => (Cloud.healthFromItem (js (Named.name profileId)) item).toOption
  | _ => none

/-- `readCoreLease`: the revision, the session and the state. -/
def leaseRead (read : Option (Option Lease)) : Js String (Nat × Option Text × Text) :=
  match read with
  | none => .error (.user "runtime_control_unavailable")
  | some none => .ok (0, none, js "STOPPED")
  | some (some lease) =>
    match lease.revision, lease.state with
    | some revision, some state =>
      if (["STARTING", "READY", "DRAINING", "STOPPED", "EXPIRED", "FAILED"].any fun s => state = js s) then
        .ok (revision, lease.sessionId, state)
      else .error (.user "Core lease is malformed")
    | _, _ => .error (.user "Core lease is malformed")

/-- `updateSession`. -/
def updateSession (previous next : Value) : Part P Value := do
  if (previous.get (js "revision")).strictEq (next.get (js "revision")) then return next
  else if ← updateItem (textOf previous "sessionId") (revisionOf previous) (printed next)
      (revisionOf next) then
    return next
  else fail "runtime_session_conflict"

/-- `coreCommand`. -/
def coreCommand (action : String) (session : Value) (expectedRevision : Nat) : Part P Unit := do
  if ← startExecution ⟨action, textOf session "sessionId", revisionOf session, expectedRevision,
      session.get (js "binding")⟩ then
    return ()
  else fail "runtime_control_unavailable"

/-- `failSession`, with a code of the list. -/
def failWith (session : Value) (code : RuntimeSessionFailureCode) (now : Stamp P) : Js String Value :=
  Runtime.Deployed.failSession P session (nameValue code) (.str now.text)

/-- `healthMatchesSession`. -/
def healthMatches (health session : Value) : Bool :=
  let binding := session.get (js "binding")
  (health.get (js "generation")).strictEq (binding.get (js "generation"))
    && (health.get (js "capabilityDigest")).strictEq (binding.get (js "capabilityDigest"))
    && (!(binding.get (js "profileId")).isText (js "core")
      || (health.get (js "sessionId")).strictEq (session.get (js "sessionId")))

/-- What `reconcile` makes of a record of the Core runtime that is `READY`. -/
def withReady (session raw : Value) (now : Stamp P) : Js String Value := do
  let health ← Cloud.validateHealth P raw (js "core") (.str now.text) false
  if !healthMatches health session then failWith P session .RUNTIME_DRIFT now
  else if stateIn session [.STARTING] then
    Runtime.Deployed.markReady P session (session.get (js "binding")) (.str now.text)
  else return session

/-- What `reconcile` makes of the record of the Core runtime, or of its absence. -/
def withCore (session : Value) (raw : Option Value) (now : Stamp P) : Js String Value :=
  match raw with
  | none =>
    if stateIn session [.ACTIVE] then failWith P session .HEALTH_CHECK_FAILED now else .ok session
  | some raw =>
    let status := raw.get (js "status")
    if stateIn session [.STOPPING] && status.isText (js "STOPPED")
        && (raw.get (js "sessionId")).strictEq (session.get (js "sessionId")) then
      Runtime.Deployed.completeStop P session (.str now.text)
    else if status.isText (js "UNHEALTHY") then failWith P session .HEALTH_CHECK_FAILED now
    else if status.isText (js "READY") then
      match withReady P session raw now with
      | .ok next => .ok next
      | .error _ => failWith P session .HEALTH_CHECK_FAILED now
    else if stateIn session [.ACTIVE] then failWith P session .RUNTIME_DRIFT now
    else .ok session

/-- What `reconcile` makes of the record of the Cloud runtime. -/
def withCloud (session : Value) (raw : Option Value) (now : Stamp P) : Js String Value :=
  let checked : Js String Value :=
    match raw with
    | none => .error (.user "runtime health is absent")
    | some raw => do
      let health ← Cloud.validateHealth P raw (js "cloud") (.str now.text) false
      if !healthMatches health session then failWith P session .RUNTIME_DRIFT now else return session
  match checked with
  | .ok next => .ok next
  | .error _ => failWith P session .HEALTH_CHECK_FAILED now

/-- The profile that a session is bound to. -/
def isBoundTo (session : Value) (profile : String) : Bool :=
  ((session.get (js "binding")).get (js "profileId")).isText (js profile)

/-- What `reconcile` reads of the Core runtime, and makes of it. -/
def reconcileCore (session : Value) (now : Stamp P) : Part P Value := do
  if isBoundTo session "core" && stateIn session [.STARTING, .ACTIVE, .STOPPING] then
    let read ← getHealth .core
    lift (withCore P session (healthRead .core read) now)
  else return session

/-- What `reconcile` reads of the Cloud runtime, and makes of it. -/
def reconcileCloud (session : Value) (now : Stamp P) : Part P Value := do
  if isBoundTo session "cloud" && stateIn session [.ACTIVE] then
    let read ← getHealth .cloud
    lift (withCloud P session (healthRead .cloud read) now)
  else return session

/-- The command that follows an expiry. -/
def stopExpired (original session : Value) : Part P Unit := do
  if !stateIn original [.EXPIRED] && stateIn session [.EXPIRED] && isBoundTo session "core" then
    let lease ← lift (leaseRead (← getLease))
    coreCommand P "STOP" session lease.1
  else return ()

/-- `reconcile`. -/
def reconcile (value : Value) (now : Stamp P) : Part P Value := do
  let original ← lift (Runtime.Deployed.validateSession P value)
  let ticked ← lift (Runtime.Deployed.tick P original (.str now.text))
  let session ← reconcileCloud P (← reconcileCore P ticked now) now
  stopExpired P original session
  updateSession P original session

/-- `sessionStatus`. -/
def sessionStatus (sessionId : Text) : Part P Value := do
  let now ← readClock
  let stored ← readSession P sessionId
  let session ← reconcile P stored now
  lift (Runtime.Deployed.publicStatus P session (.str now.text))

/-- `recordActivity`. -/
def recordActivity (sessionId : Text) : Part P Value := do
  let now ← readClock
  let original ← reconcile P (← readSession P sessionId) now
  if !stateIn original [.ACTIVE] then fail "runtime_session_not_active"
  else
    if isBoundTo original "core" then
      let lease ← lift (leaseRead (← getLease))
      if lease.2.1 ≠ some (textOf original "sessionId") || lease.2.2 ≠ js "READY" then
        fail "runtime_identity_mismatch"
      else coreCommand P "ACTIVITY" original lease.1
    let next ← lift (Runtime.Deployed.activity P original (original.get (js "binding")) (.str now.text))
    let _ ← updateSession P original next
    lift (Runtime.Deployed.publicStatus P next (.str now.text))

/-- The end of `stopSession`, of a session of the Core runtime. -/
def stopCore (next : Value) (now : Stamp P) : Part P Value := do
  let sent ← attempt (do
    let lease ← lift (leaseRead (← getLease))
    coreCommand P "STOP" next lease.1)
  match sent with
  | .ok _ => lift (Runtime.Deployed.publicStatus P next (.str now.text))
  | .error _ =>
    let failed ← lift (failWith P next .CONTROL_PLANE_ERROR (← readClock))
    let _ ← attempt (updateSession P next failed)
    fail "runtime_stop_failed"

/-- `stopSession`. -/
def stopSession (sessionId : Text) : Part P Value := do
  let now ← readClock
  let original ← reconcile P (← readSession P sessionId) now
  let next ← lift (Runtime.Deployed.requestStop P original (.str now.text))
  if (next.get (js "revision")).strictEq (original.get (js "revision")) then
    lift (Runtime.Deployed.publicStatus P next (.str now.text))
  else
    let _ ← updateSession P original next
    if isBoundTo next "core" then stopCore P next now
    else
      let stopped ← lift (Runtime.Deployed.completeStop P next (.str now.text))
      let _ ← updateSession P next stopped
      lift (Runtime.Deployed.publicStatus P stopped (.str now.text))

/-- What `selectStartProfile` returns. -/
structure Selection where
  profileId : RuntimeProfileId
  health : Value
  state : RuntimeSessionState
  coreExpectedRevision : Nat

/-- The part of `selectStartProfile` that looks at the Cloud runtime. -/
def selectCloud (requested : RuntimeRequest) (raw : Option Value) (now : Stamp P) :
    Js String (Option Selection) :=
  match raw with
  | none => .ok none
  | some raw =>
    match Cloud.validateHealth P raw (js "cloud") (.str now.text) false with
    | .ok health =>
      if (health.get (js "status")).isText (js "READY") then .ok (some ⟨.cloud, health, .ACTIVE, 0⟩)
      else .ok none
    | .error _ =>
      if requested = .pinned .cloud then .error (.user "runtime_not_ready") else .ok none

/-- The part of `selectStartProfile` that looks at the Core runtime. -/
def selectCore (raw : Option Value) (now : Stamp P) : Part P Selection :=
  match raw with
  | none => fail "runtime_not_ready"
  | some raw =>
    match Cloud.validateHealth P raw (js "core") (.str now.text) true with
    | .error _ => fail "runtime_not_ready"
    | .ok core => do
      match leaseRead (← getLease) with
      | .error _ => fail "runtime_not_ready"
      | .ok lease =>
        if lease.2.2 ≠ js "STOPPED" && !(lease.2.2 = js "FAILED" && lease.2.1.isNone) then
          fail "runtime_busy"
        else return ⟨.core, core, .STARTING, lease.1⟩

/-- `selectStartProfile`. -/
def selectStartProfile (requested : RuntimeRequest) (now : Stamp P) : Part P Selection := do
  let cloudRead ← if requested = .pinned .core then pure none else getHealth .cloud
  let coreRead ← if requested = .pinned .cloud then pure none else getHealth .core
  let cloud ← lift (selectCloud P requested (healthRead .cloud cloudRead) now)
  match cloud with
  | some selected => return selected
  | none =>
    if requested = .pinned .cloud then fail "runtime_not_ready"
    else selectCore P (healthRead .core coreRead) now

/-- `bindingFor`. -/
def bindingFor (requested : RuntimeRequest) (selected : Selection) (now : Stamp P) : Value :=
  object [("schemaVersion", lit "archon.runtime-binding/v1"),
    ("profileId", selected.health.get (js "profileId")),
    ("generation", selected.health.get (js "generation")),
    ("capabilityDigest", selected.health.get (js "capabilityDigest")),
    ("resolution", lit (if requested = .auto then "auto" else "explicit")),
    ("boundAt", .str now.text), ("leaseExpiresAt", .str (P.toISOString (now.ms + 2 * 60 * 60000)))]

/-- `sessionItem`. -/
def sessionItem (session : Value) (principalHash : Text) : Item :=
  ⟨printed session, revisionOf session, principalHash⟩

/-- `startSession`, with the identifier that it generates and the digest of its owner. -/
def startSession (sessionId principalHash : Text) (requested : RuntimeRequest) : Part P Value := do
  let now ← readClock
  let selected ← selectStartProfile P requested now
  let session ← lift (Runtime.Deployed.createSession P (object [("sessionId", .str sessionId),
    ("requestedProfile", nameValue requested), ("binding", bindingFor P requested selected now),
    ("state", nameValue selected.state)]))
  if !isDigestText principalHash then fail "invalid runtime session owner digest"
  else if !(← putItem (textOf session "sessionId") (sessionItem session principalHash)) then
    fail "runtime_control_unavailable"
  else if isBoundTo session "core" then
    let sent ← attempt (coreCommand P "START" session selected.coreExpectedRevision)
    match sent with
    | .ok _ => lift (Runtime.Deployed.publicStatus P session (.str now.text))
    | .error _ =>
      let failed ← lift (failWith P session .PROVISIONING_FAILED (← readClock))
      let _ ← attempt (updateSession P session failed)
      fail "runtime_provisioning_failed"
  else lift (Runtime.Deployed.publicStatus P session (.str now.text))

end Control

/-! ## 3. runtime-v2.js -/

section Runs

variable (P : Platform)

/-- `instant`, of a value. -/
def isInstant (v : Value) : Bool :=
  match v with
  | .str t => Control.instant P t
  | _ => false

/-- `Date.parse(v)`, of an instant. -/
def timeOf (v : Value) : Int :=
  match v with
  | .str t => (P.dateParse t).getD 0
  | _ => 0

/-- `validateBinding`. -/
def runBinding (value : Value) : Js String Value := do
  let bound := value.get (js "boundAt")
  let lease := value.get (js "leaseExpiresAt")
  throwIf (!value.exactKeys Runtime.Deployed.BINDING_MEMBERS
      || !(value.get (js "schemaVersion")).isText (js "archon.runtime-binding/v1")
      || !(["cloud", "core"].any fun p => (value.get (js "profileId")).isText (js p)))
    "invalid stored runtime binding"
  throwIf (!(← Runtime.Deployed.test Runtime.isGeneration (value.get (js "generation"))))
    "invalid stored runtime binding"
  throwIf (!(← Runtime.Deployed.test isDigestText (value.get (js "capabilityDigest"))))
    "invalid stored runtime binding"
  throwIf (!(["auto", "explicit"].any fun r => (value.get (js "resolution")).isText (js r))
      || !isInstant P bound || !isInstant P lease || timeOf P lease ≤ timeOf P bound
      || 2 * 60 * 60 * 1000 < timeOf P lease - timeOf P bound)
    "invalid stored runtime binding"
  return value

/-- The request and the binding of a session disagree. -/
def inconsistent (session binding : Value) : Bool :=
  let requested := session.get (js "requestedProfile")
  let resolution := binding.get (js "resolution")
  (requested.isText (js "auto") && !resolution.isText (js "auto"))
    || (!requested.isText (js "auto")
      && (!resolution.isText (js "explicit") || !(binding.get (js "profileId")).strictEq requested))

/-- What `parseSessionItem` checks of the session. -/
def parsePayload (session : Value) (revision : Nat) : Js String Value := do
  throwIf (!session.exactKeys Runtime.RUNTIME_SESSION_KEYS
      || !(session.get (js "schemaVersion")).isText (js "archon.runtime-session/v1"))
    "stored runtime session has an invalid contract"
  throwIf (!(← Runtime.Deployed.test Runtime.isSessionId (session.get (js "sessionId"))))
    "stored runtime session has an invalid contract"
  throwIf (!(["auto", "cloud", "core"].any fun r => (session.get (js "requestedProfile")).isText (js r))
      || !stateIn session [.STARTING, .ACTIVE, .STOPPING, .STOPPED, .EXPIRED, .FAILED]
      || !(["createdAt", "updatedAt", "lastActivityAt", "idleExpiresAt", "hardExpiresAt"].all
        fun key => isInstant P (session.get (js key)))
      || !(session.get (js "revision")).strictEq (.num (.ofNat revision)))
    "stored runtime session has an invalid contract"
  let binding ← runBinding P (session.get (js "binding"))
  let created := timeOf P (session.get (js "createdAt"))
  let updated := timeOf P (session.get (js "updatedAt"))
  let activity := timeOf P (session.get (js "lastActivityAt"))
  let idle := timeOf P (session.get (js "idleExpiresAt"))
  throwIf (!(session.get (js "createdAt")).strictEq (binding.get (js "boundAt"))
      || !(session.get (js "hardExpiresAt")).strictEq (binding.get (js "leaseExpiresAt"))
      || updated < created || activity < created || updated < activity || idle ≤ activity
      || timeOf P (session.get (js "hardExpiresAt")) < idle || inconsistent session binding)
    "stored runtime session binding is inconsistent"
  return spreadWith session [("binding", binding)]

/-- `parseSessionItem`, without a session that is asked to be active; the revision is a safe
integer. -/
def parseSessionItem (item : Item) (ownerDigest : Option Text) : Js String Value := do
  throwIf (item.payload.isEmpty || 16 * 1024 < utf8Length item.payload
      || !isDigestText item.principalHash || maxSafeInteger < item.revision)
    "runtime session item is malformed"
  throwIf (ownerDigest.any fun owner => item.principalHash ≠ owner) "runtime_session_owner_mismatch"
  match parse item.payload with
  | none => .error (.user "runtime session payload is not JSON")
  | some session => parsePayload P session item.revision

/-- The session is active, at a time. -/
def activeAt (session : Value) (now : Stamp P) : Bool :=
  stateIn session [.ACTIVE] && now.ms < timeOf P (session.get (js "idleExpiresAt"))
    && now.ms < timeOf P (session.get (js "hardExpiresAt"))

/-- The binding of a session that was parsed. -/
def bindingOf (session : Value) : Control.Binding :=
  let binding := session.get (js "binding")
  ⟨textOf binding "schemaVersion", textOf binding "profileId", textOf binding "generation",
    textOf binding "capabilityDigest", textOf binding "resolution", textOf binding "boundAt",
    textOf binding "leaseExpiresAt"⟩

/-- What `recordActivity` writes. -/
def extended (session : Value) (now : Stamp P) : Value :=
  spreadWith session [("updatedAt", .str now.text), ("lastActivityAt", .str now.text),
    ("idleExpiresAt", .str (P.toISOString (min (now.ms + 30 * 60 * 1000)
      (timeOf P (session.get (js "hardExpiresAt")))))),
    ("revision", .num (.ofNat (revisionOf session + 1)))]

/-- The command of `recordActivity`, where the session is bound to the Core runtime. -/
def extendCore (session : Value) : Part P Unit := do
  match ← getLease with
  | some lease =>
    match lease.bind (fun lease => lease.revision), lease.bind (fun lease => lease.sessionId),
      lease.bind fun lease => lease.state with
    | some revision, some owner, some state =>
      if owner ≠ textOf session "sessionId" || state ≠ js "READY" then fail "runtime_identity_mismatch"
      else if ← startExecution ⟨"ACTIVITY", textOf session "sessionId", revision, revision,
          session.get (js "binding")⟩ then
        return ()
      else fail "runtime_control_unavailable"
    | _, _, _ => fail "runtime_identity_mismatch"
  | none => fail "runtime_control_unavailable"

/-- `recordActivity` of `runtime-v2.js`. -/
def extendSession (session : Value) (now : Stamp P) : Part P Value := do
  if isBoundTo session "core" then extendCore P session
  let next := extended P session now
  if ← updateItem (textOf session "sessionId") (revisionOf session) (printed next)
      (revisionOf session + 1) then
    return next
  else fail "runtime_session_conflict"

/-- `start`, up to the run and its jobs, with the digest of its owner. -/
def startRun (sessionId ownerDigest : Text) : Part P Value := do
  let now ← readClock
  if !Runtime.isSessionId sessionId then fail "invalid_runtime_session_id"
  else
    match ← getSession sessionId with
    | some (some item) =>
      let session ← lift (parseSessionItem P item (some ownerDigest))
      if !activeAt P session now then fail "runtime_session_not_active"
      else
        let profile : RuntimeProfileId := if isBoundTo session "cloud" then .cloud else .core
        match ← getHealth profile with
        | some (some health) =>
          if (Cloud.healthCapabilities P health (textOf session "sessionId") (bindingOf session)
              now.ms).isNone then
            fail "runtime_identity_mismatch"
          else extendSession P session now
        | some none => fail "runtime_runner_unavailable"
        | none => fail "runtime_control_unavailable"
    | some none => fail "runtime_session_not_found"
    | none => fail "runtime_control_unavailable"

end Runs

/-! ## 4. Invocations -/

/-- What is asked of the Lambdas. -/
inductive Request where
  | start (sessionId principalHash : Text) (requested : RuntimeRequest)
  | status (sessionId : Text)
  | activity (sessionId : Text)
  | stop (sessionId : Text)
  /-- A run, of an owner. -/
  | run (sessionId ownerDigest : Text)

/-- The program of a request. -/
def Request.program (P : Platform) : Request → Part P Value
  | .start sessionId principalHash requested => startSession P sessionId principalHash requested
  | .status sessionId => sessionStatus P sessionId
  | .activity sessionId => recordActivity P sessionId
  | .stop sessionId => stopSession P sessionId
  | .run sessionId ownerDigest => startRun P sessionId ownerDigest

end Sessions
