/-
# The session machine as it is deployed

The control Lambda has a session machine of its own, `session.js`, written in plain JavaScript
over the objects themselves.  It is modelled as it is written: a session is a value, its members
are read from it, and a change is a spread that replaces members and leaves the others where they
stand.  Its errors are plain `Error`s, of which only the message is kept.

A regular expression is tested here without asking for a string first, so what is tested is the
value converted to a string; `validateBinding` does that to the generation and to the digest.
-/
import Archon.Runtime.Session

namespace Runtime.Deployed

open Ecma Remediation

/-! ## 1. Objects -/

/-- Set a member: in its place if the object has it, at the end if not. -/
def setMember (key : Text) (v : Value) : List (Text × Value) → List (Text × Value)
  | [] => [(key, v)]
  | (k, w) :: fs => if k = key then (k, v) :: fs else (k, w) :: setMember key v fs

/-- `{ ...v, ...change }`, for an object. -/
def spreadWith (v : Value) (change : List (String × Value)) : Value :=
  match v with
  | .obj fields => .obj (change.foldl (fun fs c => setMember (js c.1) c.2 fs) fields)
  | v => v

/-- `STATES.includes(session.state)`, for a list of states. -/
def stateIn (session : Value) (states : List RuntimeSessionState) : Bool :=
  states.any fun state => (session.get (js "state")).isText (js (Named.name state))

/-! ## 2. Validation -/

section

variable (P : Platform)

/-- `instant`. -/
def instant (v : Value) (label : String) : Js String (Stamp P) :=
  readStamp P v (label ++ " is invalid") (label ++ " must be an exact ISO-8601 UTC instant")

/-- `validateSessionId`. -/
def validateSessionId (v : Value) : Js String Value := do
  throwIf (readText isSessionId v).isNone "invalid session id"
  return v

/-- `FORM.test(v)`. -/
def test (form : Text → Bool) (v : Value) : Js String Bool := do return form (← v.toText)

/-- The members of a binding, which `sameBinding` compares as well. -/
def BINDING_MEMBERS : List String :=
  ["schemaVersion", "profileId", "generation", "capabilityDigest", "resolution", "boundAt",
    "leaseExpiresAt"]

/-- `validateBinding`. -/
def validateBinding (value : Value) : Js String Value := do
  throwIf (!value.exactKeys BINDING_MEMBERS
      || !(value.get (js "schemaVersion")).isText (js "archon.runtime-binding/v1")
      || (readNamed (value.get (js "profileId")) : Option RuntimeProfileId).isNone)
    "invalid runtime binding"
  throwIf (!(← test isGeneration (value.get (js "generation")))) "invalid runtime binding"
  throwIf (!(← test isDigestText (value.get (js "capabilityDigest")))) "invalid runtime binding"
  throwIf (readNamed (value.get (js "resolution")) : Option RuntimeResolution).isNone
    "invalid runtime binding"
  let boundAt ← instant P (value.get (js "boundAt")) "boundAt"
  let expiresAt ← instant P (value.get (js "leaseExpiresAt")) "leaseExpiresAt"
  throwIf (expiresAt.ms ≤ boundAt.ms || RUNTIME_HARD_LEASE_MS < expiresAt.ms - boundAt.ms)
    "invalid runtime binding lease"
  return value

/-- `sameBinding`. -/
def sameBinding (left right : Value) : Js String Bool := do
  let a ← validateBinding P left
  let b ← validateBinding P right
  return BINDING_MEMBERS.all fun key => (a.get (js key)).strictEq (b.get (js key))

/-- The request and the binding it was resolved to disagree. -/
def requestUnbound (requested binding : Value) : Bool :=
  (requested.isText (js "auto") && !(binding.get (js "resolution")).isText (js "auto"))
    || (!requested.isText (js "auto")
      && (!(binding.get (js "resolution")).isText (js "explicit")
        || !(binding.get (js "profileId")).strictEq requested))

/-- The checks on the state, the end reason and the failure code together. -/
def checkTerminal (value : Value) : Js String Unit := do
  let endReason := value.get (js "endReason")
  let failureCode := value.get (js "failureCode")
  let failed := endReason.isText (js "CONTROL_FAILURE")
  throwIf ((readNullable endReason : Option (Option RuntimeSessionEndReason)).isNone
      || (readNullable failureCode : Option (Option RuntimeSessionFailureCode)).isNone)
    "invalid runtime session terminal metadata"
  throwIf (stateIn value [.STARTING, .ACTIVE]
      && (!endReason.strictEq .null || !failureCode.strictEq .null))
    "live runtime session has terminal metadata"
  throwIf (stateIn value [.EXPIRED]
      && !(endReason.isText (js "IDLE_TIMEOUT") || endReason.isText (js "HARD_TIMEOUT")))
    "expired runtime session has no timeout"
  throwIf (stateIn value [.FAILED] && (!failed || failureCode.strictEq .null))
    "failed runtime session has no safe code"
  throwIf (if failed then failureCode.strictEq .null else !failureCode.strictEq .null)
    "runtime failure metadata is inconsistent"

/-- `validateSession`. -/
def validateSession (value : Value) : Js String Value := do
  throwIf (!value.exactKeys RUNTIME_SESSION_KEYS
      || !(value.get (js "schemaVersion")).isText (js "archon.runtime-session/v1")
      || (readNamed (value.get (js "requestedProfile")) : Option RuntimeRequest).isNone
      || (readNamed (value.get (js "state")) : Option RuntimeSessionState).isNone)
    "invalid runtime session"
  let _ ← validateSessionId (value.get (js "sessionId"))
  let binding ← validateBinding P (value.get (js "binding"))
  throwIf (requestUnbound (value.get (js "requestedProfile")) binding)
    "runtime request and binding do not match"
  let created ← instant P (value.get (js "createdAt")) "createdAt"
  let updated ← instant P (value.get (js "updatedAt")) "updatedAt"
  let activity ← instant P (value.get (js "lastActivityAt")) "lastActivityAt"
  let idle ← instant P (value.get (js "idleExpiresAt")) "idleExpiresAt"
  let hard ← instant P (value.get (js "hardExpiresAt")) "hardExpiresAt"
  throwIf (!(value.get (js "createdAt")).strictEq (binding.get (js "boundAt"))
      || !(value.get (js "hardExpiresAt")).strictEq (binding.get (js "leaseExpiresAt"))
      || updated.ms < created.ms || activity.ms < created.ms || updated.ms < activity.ms
      || idle.ms ≤ activity.ms || hard.ms < idle.ms || hard.ms ≤ created.ms)
    "invalid runtime session chronology"
  throwIf (value.get (js "revision")).counter.isNone "invalid runtime session revision"
  checkTerminal value
  return spreadWith value [("binding", binding)]

/-- `createSession`. -/
def createSession (input : Value) : Js String Value := do
  throwIf (!input.isRecord
      || (readNamed (input.get (js "requestedProfile")) : Option RuntimeRequest).isNone
      || !stateIn input [.STARTING, .ACTIVE])
    "invalid runtime session input"
  let binding ← validateBinding P (input.get (js "binding"))
  throwIf (requestUnbound (input.get (js "requestedProfile")) binding)
    "runtime request and binding do not match"
  let created ← instant P (binding.get (js "boundAt")) "boundAt"
  let hard ← instant P (binding.get (js "leaseExpiresAt")) "leaseExpiresAt"
  let sessionId ← validateSessionId (input.get (js "sessionId"))
  validateSession P (.object
    [("schemaVersion", .lit "archon.runtime-session/v1"), ("sessionId", sessionId),
      ("requestedProfile", input.get (js "requestedProfile")), ("binding", binding),
      ("state", input.get (js "state")), ("createdAt", binding.get (js "boundAt")),
      ("updatedAt", binding.get (js "boundAt")), ("lastActivityAt", binding.get (js "boundAt")),
      ("idleExpiresAt", .str (idleDeadline P created.ms hard.ms)),
      ("hardExpiresAt", binding.get (js "leaseExpiresAt")), ("revision", .num (.ofNat 0)),
      ("endReason", .null), ("failureCode", .null)])

/-! ## 3. Operations -/

/-- `evolve`.  The revision of a validated session is a counter. -/
def evolve (value : Value) (change : List (String × Value)) : Js String Value := do
  let session ← validateSession P value
  let revision := (session.get (js "revision")).counter.getD 0
  throwIf (maxSafeInteger ≤ revision) "runtime session revision exhausted"
  validateSession P (spreadWith session (change ++ [("revision", .num (.ofNat (revision + 1)))]))

/-- `tick`. -/
def tick (value now : Value) : Js String Value := do
  let session ← validateSession P value
  let nowMs ← instant P now "event.at"
  let updated ← instant P (session.get (js "updatedAt")) "updatedAt"
  throwIf (nowMs.ms < updated.ms) "runtime session clock moved backwards"
  if !stateIn session [.STARTING, .ACTIVE] then return session
  let hard ← instant P (session.get (js "hardExpiresAt")) "hardExpiresAt"
  if hard.ms ≤ nowMs.ms then
    evolve P session [("state", nameValue RuntimeSessionState.EXPIRED), ("updatedAt", now),
      ("endReason", nameValue RuntimeSessionEndReason.HARD_TIMEOUT)]
  else
    let idle ← instant P (session.get (js "idleExpiresAt")) "idleExpiresAt"
    if idle.ms ≤ nowMs.ms then
      evolve P session [("state", nameValue RuntimeSessionState.EXPIRED), ("updatedAt", now),
        ("endReason", nameValue RuntimeSessionEndReason.IDLE_TIMEOUT)]
    else return session

/-- `failSession`. -/
def failSession (value failureCode now : Value) : Js String Value := do
  let session ← validateSession P value
  throwIf (readNamed failureCode : Option RuntimeSessionFailureCode).isNone
    "invalid runtime failure code"
  if stateIn session [.EXPIRED, .STOPPED, .FAILED] then return session
  evolve P session [("state", nameValue RuntimeSessionState.FAILED), ("updatedAt", now),
    ("endReason", nameValue RuntimeSessionEndReason.CONTROL_FAILURE), ("failureCode", failureCode)]

/-- `markReady`. -/
def markReady (value binding now : Value) : Js String Value := do
  let session ← tick P value now
  if !stateIn session [.STARTING] then return session
  if !(← sameBinding P (session.get (js "binding")) binding) then
    failSession P session (nameValue RuntimeSessionFailureCode.RUNTIME_DRIFT) now
  else
    let nowMs ← instant P now "event.at"
    let hard ← instant P (session.get (js "hardExpiresAt")) "hardExpiresAt"
    evolve P session [("state", nameValue RuntimeSessionState.ACTIVE), ("updatedAt", now),
      ("lastActivityAt", now), ("idleExpiresAt", .str (idleDeadline P nowMs.ms hard.ms))]

/-- `activity`. -/
def activity (value binding now : Value) : Js String Value := do
  let session ← tick P value now
  if !stateIn session [.ACTIVE] then return session
  if !(← sameBinding P (session.get (js "binding")) binding) then
    failSession P session (nameValue RuntimeSessionFailureCode.RUNTIME_DRIFT) now
  else
    let nowMs ← instant P now "event.at"
    let hard ← instant P (session.get (js "hardExpiresAt")) "hardExpiresAt"
    evolve P session [("updatedAt", now), ("lastActivityAt", now),
      ("idleExpiresAt", .str (idleDeadline P nowMs.ms hard.ms))]

/-- `requestStop`. -/
def requestStop (value now : Value) : Js String Value := do
  let session ← tick P value now
  if stateIn session [.STOPPING, .STOPPED, .EXPIRED, .FAILED] then return session
  evolve P session [("state", nameValue RuntimeSessionState.STOPPING), ("updatedAt", now),
    ("endReason", nameValue RuntimeSessionEndReason.USER_REQUEST)]

/-- `completeStop`. -/
def completeStop (value now : Value) : Js String Value := do
  let session ← validateSession P value
  if stateIn session [.STOPPED] then return session
  throwIf (!stateIn session [.STOPPING]) "stop completion requires STOPPING"
  evolve P session [("state", nameValue RuntimeSessionState.STOPPED), ("updatedAt", now)]

/-- The public name of a session's state. -/
def publicStateOf (session : Value) : Value :=
  if stateIn session [.ACTIVE] then .lit "READY"
  else if stateIn session [.FAILED] then .lit "UNAVAILABLE"
  else session.get (js "state")

/-- `publicStatus`. -/
def publicStatus (value now : Value) : Js String Value := do
  let session ← tick P value now
  let idle ← instant P (session.get (js "idleExpiresAt")) "idleExpiresAt"
  let hard ← instant P (session.get (js "hardExpiresAt")) "hardExpiresAt"
  let nowMs ← instant P now "now"
  return .object
    [("schemaVersion", .lit "archon.runtime-session-status/v1"),
      ("sessionId", session.get (js "sessionId")),
      ("requestedProfile", session.get (js "requestedProfile")),
      ("resolvedProfile", (session.get (js "binding")).get (js "profileId")),
      ("state", publicStateOf session),
      ("createdAt", session.get (js "createdAt")),
      ("updatedAt", session.get (js "updatedAt")),
      ("idleExpiresAt", session.get (js "idleExpiresAt")),
      ("hardExpiresAt", session.get (js "hardExpiresAt")),
      ("remainingSeconds", .num (.ofNat
        (if stateIn session [.STARTING, .ACTIVE] then ceilSeconds (min idle.ms hard.ms - nowMs.ms)
        else 0))),
      ("canRun", .bool (stateIn session [.ACTIVE])),
      ("canExtend", .bool (stateIn session [.ACTIVE]
        && !(session.get (js "idleExpiresAt")).strictEq (session.get (js "hardExpiresAt"))))]

end

end Runtime.Deployed
