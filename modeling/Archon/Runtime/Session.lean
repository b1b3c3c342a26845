/-
# Runtime sessions

A session leases one runtime to one user: it starts, is active, and ends by a stop, by its idle
deadline, by its hard deadline or by a failure.  `transitionRuntimeSession` is the whole machine.
Before it looks at an event it lets a deadline that has passed expire the session
(`expireIfDue`), and whatever it builds goes through `validateRuntimeSession` once more
(`evolve`), so a session never leaves the module unvalidated.

Each kind of event has a definition of its own here (`onRuntimeReady` and so on); in the source
they are the branches of one function.  A revision of `-0` is read as `0`, which nothing in the
module tells apart from it.
-/
import Archon.Runtime.Binding

namespace Runtime

open Ecma Remediation

/-! ## 1. Closed lists -/

/-- `RuntimeRequest`: `"auto"`, or a profile by its name. -/
inductive RuntimeRequest where
  | auto
  | pinned (profile : RuntimeProfileId)
deriving DecidableEq

instance : Named RuntimeRequest where
  all := [.auto, .pinned .cloud, .pinned .core]
  name
    | .auto => "auto"
    | .pinned profile => Named.name profile
  mem_all := by rintro (_ | _ | _) <;> decide
  name_inj := by rintro (_ | _ | _) (_ | _ | _) <;> decide

/-- `RuntimeSessionState`. -/
inductive RuntimeSessionState where
  | STARTING
  | ACTIVE
  | STOPPING
  | STOPPED
  | EXPIRED
  | FAILED
deriving DecidableEq

instance : Named RuntimeSessionState where
  all := [.STARTING, .ACTIVE, .STOPPING, .STOPPED, .EXPIRED, .FAILED]
  name
    | .STARTING => "STARTING"
    | .ACTIVE => "ACTIVE"
    | .STOPPING => "STOPPING"
    | .STOPPED => "STOPPED"
    | .EXPIRED => "EXPIRED"
    | .FAILED => "FAILED"
  mem_all := by rintro (_ | _) <;> decide
  name_inj := by rintro (_ | _) (_ | _) <;> decide

/-- `RuntimeSessionFailureCode`. -/
inductive RuntimeSessionFailureCode where
  | PROVISIONING_FAILED
  | HEALTH_CHECK_FAILED
  | CONTROL_PLANE_ERROR
  | RUNTIME_DRIFT
deriving DecidableEq

instance : Named RuntimeSessionFailureCode where
  all := [.PROVISIONING_FAILED, .HEALTH_CHECK_FAILED, .CONTROL_PLANE_ERROR, .RUNTIME_DRIFT]
  name
    | .PROVISIONING_FAILED => "PROVISIONING_FAILED"
    | .HEALTH_CHECK_FAILED => "HEALTH_CHECK_FAILED"
    | .CONTROL_PLANE_ERROR => "CONTROL_PLANE_ERROR"
    | .RUNTIME_DRIFT => "RUNTIME_DRIFT"
  mem_all := by rintro (_ | _) <;> decide
  name_inj := by rintro (_ | _) (_ | _) <;> decide

/-- `RuntimeSessionEndReason`. -/
inductive RuntimeSessionEndReason where
  | USER_REQUEST
  | IDLE_TIMEOUT
  | HARD_TIMEOUT
  | CONTROL_FAILURE
deriving DecidableEq

instance : Named RuntimeSessionEndReason where
  all := [.USER_REQUEST, .IDLE_TIMEOUT, .HARD_TIMEOUT, .CONTROL_FAILURE]
  name
    | .USER_REQUEST => "USER_REQUEST"
    | .IDLE_TIMEOUT => "IDLE_TIMEOUT"
    | .HARD_TIMEOUT => "HARD_TIMEOUT"
    | .CONTROL_FAILURE => "CONTROL_FAILURE"
  mem_all := by rintro (_ | _) <;> decide
  name_inj := by rintro (_ | _) (_ | _) <;> decide

/-! ## 2. The session -/

/-- `RuntimeSession`.  Its `schemaVersion` is a constant. -/
structure RuntimeSession where
  sessionId : Text
  requestedProfile : RuntimeRequest
  binding : RuntimeBinding
  state : RuntimeSessionState
  createdAt : Text
  updatedAt : Text
  lastActivityAt : Text
  idleExpiresAt : Text
  hardExpiresAt : Text
  revision : Nat
  endReason : Option RuntimeSessionEndReason
  failureCode : Option RuntimeSessionFailureCode
deriving DecidableEq

/-- The object. -/
def RuntimeSession.toValue (s : RuntimeSession) : Value := .object
  [("schemaVersion", .lit "archon.runtime-session/v1"), ("sessionId", .str s.sessionId),
    ("requestedProfile", nameValue s.requestedProfile), ("binding", s.binding.toValue),
    ("state", nameValue s.state), ("createdAt", .str s.createdAt),
    ("updatedAt", .str s.updatedAt), ("lastActivityAt", .str s.lastActivityAt),
    ("idleExpiresAt", .str s.idleExpiresAt), ("hardExpiresAt", .str s.hardExpiresAt),
    ("revision", .num (.ofNat s.revision)), ("endReason", nullableName s.endReason),
    ("failureCode", nullableName s.failureCode)]

/-- The keys `validateRuntimeSession` expects. -/
def RUNTIME_SESSION_KEYS : List String :=
  ["schemaVersion", "sessionId", "requestedProfile", "binding", "state", "createdAt", "updatedAt",
    "lastActivityAt", "idleExpiresAt", "hardExpiresAt", "revision", "endReason", "failureCode"]

/-- `RUNTIME_IDLE_LEASE_MS`: half an hour. -/
def RUNTIME_IDLE_LEASE_MS : Int := 30 * 60000

/-- `SESSION_ID`, `/^rs_[A-Za-z0-9_-]{43}$/u`. -/
def isSessionId (t : Text) : Bool :=
  (js "rs_").isPrefixOf t && decide (t.length = 46)
    && (t.drop 3).all fun u => isAlphanumeric u || u == 0x5F || u == 0x2D

/-- Is the session neither over nor being stopped? -/
def RuntimeSessionState.live (state : RuntimeSessionState) : Bool :=
  state = .STARTING || state = .ACTIVE

/-- The request and the binding it was resolved to disagree. -/
def requestUnbound (requested : RuntimeRequest) (binding : RuntimeBinding) : Bool :=
  match requested with
  | .auto => binding.resolution ≠ .auto
  | .pinned profile => binding.resolution ≠ .explicit || binding.profileId ≠ profile

/-- The five instants are not in order. -/
def chronologyInvalid (created updated lastActivity idle hard : Int) : Bool :=
  updated < created || lastActivity < created || updated < lastActivity || idle ≤ lastActivity
    || hard < idle || hard ≤ created || RUNTIME_HARD_LEASE_MS < hard - created

/-- What `fail` throws. -/
def invalidSession (message : String) : RuntimeError := .session .INVALID_RUNTIME_SESSION message

/-- The checks on the state, the end reason and the failure code together. -/
def checkTerminal (state : RuntimeSessionState) (endReason : Option RuntimeSessionEndReason)
    (failureCode : Option RuntimeSessionFailureCode) : Js RuntimeError Unit := do
  throwIf (state.live && (endReason ≠ none || failureCode ≠ none))
    (invalidSession "live session contains terminal metadata")
  throwIf (state = .EXPIRED && endReason ≠ some .IDLE_TIMEOUT && endReason ≠ some .HARD_TIMEOUT)
    (invalidSession "expired session has no timeout")
  throwIf (state = .FAILED && (endReason ≠ some .CONTROL_FAILURE || failureCode = none))
    (invalidSession "failed session has no safe code")
  throwIf (if endReason = some .CONTROL_FAILURE then failureCode = none else failureCode ≠ none)
    (invalidSession "failure code and reason are inconsistent")

section

variable (P : Platform)

/-- `instant`. -/
def instant (v : Value) (label : String) : Js RuntimeError (Stamp P) :=
  readStamp P v (invalidSession (label ++ " is invalid"))
    (invalidSession (label ++ " must be an exact ISO-8601 UTC instant"))

/-- `parseRuntimeSessionId`. -/
def parseRuntimeSessionId (v : Value) : Js RuntimeError Text :=
  orThrow (readText isSessionId v) (.session .INVALID_SESSION_ID "runtime session id is invalid")

/-- `parseRequestedProfile`. -/
def parseRequestedProfile (v : Value) : Js RuntimeError RuntimeRequest :=
  orThrow (readNamed v) (invalidSession "requested profile is invalid")

/-- The binding of a session, whose own errors are not passed on. -/
def sessionBinding (v : Value) : Js RuntimeError RuntimeBinding :=
  match validateRuntimeBinding P v with
  | .ok binding => .ok binding
  | .error _ => .error (.user (invalidSession "runtime binding is invalid"))

/-- `validateRuntimeSession`. -/
def validateRuntimeSession (input : Value) : Js RuntimeError RuntimeSession := do
  throwIf (!input.isRecord) (invalidSession "runtime session must be an object")
  throwIf (!input.exactKeys RUNTIME_SESSION_KEYS)
    (invalidSession "runtime session must use the exact schema")
  throwIf (!(input.get (js "schemaVersion")).isText (js "archon.runtime-session/v1"))
    (invalidSession "unsupported session schema")
  let id ← parseRuntimeSessionId (input.get (js "sessionId"))
  let requested ← parseRequestedProfile (input.get (js "requestedProfile"))
  let binding ← sessionBinding P (input.get (js "binding"))
  throwIf (requestUnbound requested binding)
    (invalidSession "request is not bound to its resolved profile")
  let state ← orThrow (readNamed (input.get (js "state"))) (invalidSession "session state is invalid")
  let created ← instant P (input.get (js "createdAt")) "createdAt"
  let updated ← instant P (input.get (js "updatedAt")) "updatedAt"
  let lastActivity ← instant P (input.get (js "lastActivityAt")) "lastActivityAt"
  let idle ← instant P (input.get (js "idleExpiresAt")) "idleExpiresAt"
  let hard ← instant P (input.get (js "hardExpiresAt")) "hardExpiresAt"
  throwIf (created.text ≠ binding.boundAt || hard.text ≠ binding.leaseExpiresAt
      || chronologyInvalid created.ms updated.ms lastActivity.ms idle.ms hard.ms)
    (invalidSession "session lease chronology is invalid")
  let revision ← orThrow (input.get (js "revision")).counter
    (invalidSession "session revision is invalid")
  let endReason ← orThrow (readNullable (input.get (js "endReason")))
    (invalidSession "session terminal metadata is invalid")
  let failureCode ← orThrow (readNullable (input.get (js "failureCode")))
    (invalidSession "session terminal metadata is invalid")
  checkTerminal state endReason failureCode
  return { sessionId := id, requestedProfile := requested, binding, state,
           createdAt := created.text, updatedAt := updated.text,
           lastActivityAt := lastActivity.text, idleExpiresAt := idle.text,
           hardExpiresAt := hard.text, revision, endReason, failureCode }

/-- `iso(Math.min(from + RUNTIME_IDLE_LEASE_MS, hard))`. -/
def idleDeadline (start hard : Int) : Text := P.toISOString (min (start + RUNTIME_IDLE_LEASE_MS) hard)

/-- `createRuntimeSession`. -/
def createRuntimeSession (input : Value) : Js RuntimeError RuntimeSession := do
  let binding ← validateRuntimeBinding P (← input.prop "binding")
  let created ← instant P (.str binding.boundAt) "boundAt"
  let hard ← instant P (.str binding.leaseExpiresAt) "leaseExpiresAt"
  let sessionId ← parseRuntimeSessionId (input.get (js "sessionId"))
  let requestedProfile ← parseRequestedProfile (input.get (js "requestedProfile"))
  validateRuntimeSession P (RuntimeSession.toValue {
    sessionId, requestedProfile, binding
    state := .STARTING
    createdAt := binding.boundAt
    updatedAt := binding.boundAt
    lastActivityAt := binding.boundAt
    idleExpiresAt := idleDeadline P created.ms hard.ms
    hardExpiresAt := binding.leaseExpiresAt
    revision := 0
    endReason := none
    failureCode := none })

/-! ## 3. Transitions -/

/-- `nextRevision`. -/
def nextRevision (session : RuntimeSession) : Js RuntimeError Nat := do
  throwIf (maxSafeInteger ≤ session.revision) (invalidSession "session revision is exhausted")
  return session.revision + 1

/-- `evolve`, the changes being made already: what is left is the revision. -/
def evolve (session changed : RuntimeSession) : Js RuntimeError RuntimeSession := do
  let revision ← nextRevision session
  validateRuntimeSession P { changed with revision }.toValue

/-- `expireIfDue`. -/
def expireIfDue (session : RuntimeSession) (eventAt : Stamp P) : Js RuntimeError RuntimeSession := do
  if !session.state.live then return session
  let hard ← instant P (.str session.hardExpiresAt) "hardExpiresAt"
  let idle ← instant P (.str session.idleExpiresAt) "idleExpiresAt"
  if hard.ms ≤ eventAt.ms then
    evolve P session { session with
      state := .EXPIRED, updatedAt := eventAt.text, endReason := some .HARD_TIMEOUT }
  else if idle.ms ≤ eventAt.ms then
    evolve P session { session with
      state := .EXPIRED, updatedAt := eventAt.text, endReason := some .IDLE_TIMEOUT }
  else return session

/-- The branch of `RUNTIME_READY`. -/
def onRuntimeReady (session : RuntimeSession) (eventAt : Stamp P) (binding : Value) :
    Js RuntimeError RuntimeSession := do
  if session.state = .STARTING then
    assertPinnedRuntime P session.binding.toValue binding
    let hard ← instant P (.str session.hardExpiresAt) "hardExpiresAt"
    evolve P session { session with
      state := .ACTIVE, updatedAt := eventAt.text, lastActivityAt := eventAt.text
      idleExpiresAt := idleDeadline P eventAt.ms hard.ms }
  else if session.state = .ACTIVE then
    assertPinnedRuntime P session.binding.toValue binding
    return session
  else return session

/-- The branch of `ACTIVITY`. -/
def onActivity (session : RuntimeSession) (eventAt : Stamp P) (binding : Value) :
    Js RuntimeError RuntimeSession := do
  if session.state = .ACTIVE then
    assertPinnedRuntime P session.binding.toValue binding
    let hard ← instant P (.str session.hardExpiresAt) "hardExpiresAt"
    evolve P session { session with
      updatedAt := eventAt.text, lastActivityAt := eventAt.text
      idleExpiresAt := idleDeadline P eventAt.ms hard.ms }
  else if session.state = .STARTING then
    .error (.user (.session .INVALID_TRANSITION "activity requires an active session"))
  else return session

/-- The branch of `STOP_REQUESTED`. -/
def onStopRequested (session : RuntimeSession) (eventAt : Stamp P) :
    Js RuntimeError RuntimeSession :=
  if session.state = .STOPPING || session.state = .STOPPED then return session
  else
    evolve P session { session with
      state := .STOPPING, updatedAt := eventAt.text
      endReason := some (session.endReason.getD .USER_REQUEST) }

/-- The branch of `STOP_COMPLETED`. -/
def onStopCompleted (session : RuntimeSession) (eventAt : Stamp P) :
    Js RuntimeError RuntimeSession :=
  if session.state = .STOPPED then return session
  else if session.state ≠ .STOPPING then
    .error (.user (.session .INVALID_TRANSITION "stop completion requires STOPPING"))
  else evolve P session { session with state := .STOPPED, updatedAt := eventAt.text }

/-- The branch of `FAIL`. -/
def onFail (session : RuntimeSession) (eventAt : Stamp P) (failureCode : Value) :
    Js RuntimeError RuntimeSession := do
  let failureCode ← orThrow (readNamed failureCode)
    (.session .INVALID_SESSION_EVENT "failure code is not allowlisted")
  if session.state = .EXPIRED || session.state = .STOPPED || session.state = .FAILED then
    return session
  else
    evolve P session { session with
      state := .FAILED, updatedAt := eventAt.text
      endReason := some .CONTROL_FAILURE, failureCode := some failureCode }

/-- `transitionRuntimeSession`. -/
def transitionRuntimeSession (value event : Value) : Js RuntimeError RuntimeSession := do
  let original ← validateRuntimeSession P value
  throwIf (!event.isRecord) (.session .INVALID_SESSION_EVENT "session event must be an object")
  let eventAt ← instant P (event.get (js "at")) "event.at"
  let updated ← instant P (.str original.updatedAt) "updatedAt"
  throwIf (eventAt.ms < updated.ms)
    (.session .NON_MONOTONIC_TIME "session event time moved backwards")
  let session ← expireIfDue P original eventAt
  let type := event.get (js "type")
  if type.isText (js "TICK") then return session
  else if type.isText (js "RUNTIME_READY") then
    onRuntimeReady P session eventAt (event.get (js "binding"))
  else if type.isText (js "ACTIVITY") then
    onActivity P session eventAt (event.get (js "binding"))
  else if type.isText (js "STOP_REQUESTED") then onStopRequested P session eventAt
  else if type.isText (js "STOP_COMPLETED") then onStopCompleted P session eventAt
  else if type.isText (js "FAIL") then onFail P session eventAt (event.get (js "failureCode"))
  else .error (.user (.session .INVALID_SESSION_EVENT "unsupported session event"))

/-! ## 4. The public view -/

/-- `PublicRuntimeSessionState`, of a state. -/
def publicState : RuntimeSessionState → String
  | .ACTIVE => "READY"
  | .FAILED => "UNAVAILABLE"
  | state => Named.name state

/-- `Math.max(0, Math.ceil(ms / 1000))`. -/
def ceilSeconds (ms : Int) : Nat := (-(-ms / 1000)).toNat

/-- `publicRuntimeSessionStatus`. -/
def publicRuntimeSessionStatus (value now : Value) : Js RuntimeError Value := do
  let session ← transitionRuntimeSession P value (.object [("type", .lit "TICK"), ("at", now)])
  let idle ← instant P (.str session.idleExpiresAt) "idleExpiresAt"
  let hard ← instant P (.str session.hardExpiresAt) "hardExpiresAt"
  let nowMs ← instant P now "now"
  return .object
    [("schemaVersion", .lit "archon.runtime-session-status/v1"),
      ("sessionId", .str session.sessionId),
      ("requestedProfile", nameValue session.requestedProfile),
      ("resolvedProfile", nameValue session.binding.profileId),
      ("state", .lit (publicState session.state)),
      ("createdAt", .str session.createdAt),
      ("updatedAt", .str session.updatedAt),
      ("idleExpiresAt", .str session.idleExpiresAt),
      ("hardExpiresAt", .str session.hardExpiresAt),
      ("remainingSeconds", .num (.ofNat
        (if session.state.live then ceilSeconds (min idle.ms hard.ms - nowMs.ms) else 0))),
      ("canRun", .bool (session.state = .ACTIVE)),
      ("canExtend", .bool (session.state = .ACTIVE && session.idleExpiresAt ≠ session.hardExpiresAt))]

end

end Runtime
