/-
# The jobs of the Core host

A job is an item of the lease table.  The adapter takes it, gives it back when its attempt has run
out of time, and completes it; the gateway marks the authorization of a mutation as consumed.  All of
these are conditional writes: a `JobWrite` is one of them.

The conditions name the session, the generation and the capabilities that the host was started for.
-/
import Archon.Jobs.Request
import Archon.Core.Lease
import Archon.Resumption.Guarded

namespace Jobs

open Ecma Remediation Resumption

/-! ## 1. Jobs -/

/-- What the adapter and the gateway of a host are started with, and what they take from the
libraries they use. -/
structure Settings where
  P : Platform
  stage : Text
  sessionId : Text
  generation : Text
  capabilityDigest : Text
  /-- `ARCHON_MUTATION_SIGNING_KEY_ARN`. -/
  keyArn : Text
  /-- A table resource returns the numbers of an item as `Decimal`. -/
  decimals : Bool
  /-- `base64.b64decode(t, validate=True)`. -/
  b64decode : Text → Option (List UInt8)
  /-- The public key verifies the signature of a digest. -/
  verify : Text → List UInt8 → Bool
  /-- `hashlib.sha256(bytes).hexdigest()`. -/
  bytesDigest : List UInt8 → Text
  /-- `str(v)`, of what is no string. -/
  strOf : Py → Text

/-- The values of `state`. -/
inductive JobState where
  | QUEUED
  | RUNNING
  | SUCCEEDED
  | FAILED
deriving DecidableEq

/-- `pk` and `sk`. -/
abbrev Key := Text × Text

/-- The attributes of a job, without its key. -/
structure Job where
  schema : Text
  profileId : Text
  jobId : Text
  operation : Text
  sessionId : Text
  generation : Text
  capabilityDigest : Text
  state : JobState
  request : Py
  startedAt : Option Text
  recoveredAt : Option Text
  completedAt : Option Text
  attemptId : Option Text
  attemptDeadlineEpoch : Option Int
  attemptCount : Option Int
  receipt : Option Py
  authorizationConsumedAt : Option Text
  authorizationEnvelopeDigest : Option Text

/-- `archon.runtime-bound-job/v2`. -/
def JOB_SCHEMA : Text := js "archon.runtime-bound-job/v2"

/-- The partition of the jobs that only read. -/
def sessionPartition (sessionId : Text) : Text := js "SESSION#" ++ sessionId

/-- The partition of the jobs that write. -/
def mutationPartition (sessionId : Text) : Text := js "MUTATION#" ++ sessionId

/-- The sort key of a job. -/
def jobKey (jobId : Text) : Text := js "JOB#" ++ jobId

/-- The job belongs to the session that the host was started for. -/
def Job.bound (S : Settings) (j : Job) : Bool :=
  j.schema = JOB_SCHEMA && j.profileId = js "core" && j.sessionId = S.sessionId
    && j.generation = S.generation && j.capabilityDigest = S.capabilityDigest

/-- `state` is `QUEUED` or `RUNNING`. -/
def Job.open (j : Job) : Bool := j.state = .QUEUED || j.state = .RUNNING

/-! ## 2. The writes -/

/-- The conditional writes to a job. -/
inductive JobWrite where
  /-- `_claim`. -/
  | claim (key : Key) (attemptId startedAt : Text) (deadline : Int)
  /-- `_recover_expired`. -/
  | requeue (key : Key) (attemptId : Text) (deadline : Int) (recoveredAt : Text)
  /-- `_complete`. -/
  | complete (key : Key) (attemptId : Text) (state : JobState) (completedAt : Text) (receipt : Py)
  /-- `_reject_invalid`. -/
  | reject (key : Key) (completedAt : Text) (receipt : Py)
  /-- `_consume`. -/
  | consume (key : Key) (jobId sessionId generation capabilityDigest envelopeDigest consumedAt : Text)

namespace JobWrite

/-- The item that is written. -/
def key : JobWrite → Key
  | claim k _ _ _ | requeue k _ _ _ | complete k _ _ _ _ | reject k _ _ | consume k _ _ _ _ _ _ => k

/-- `ConditionExpression`. -/
def meets (S : Settings) (w : JobWrite) (j : Job) : Bool :=
  match w with
  | claim _ _ _ _ => j.state = .QUEUED && j.bound S
  | requeue _ attemptId deadline _ =>
    j.state = .RUNNING && j.attemptId = some attemptId && j.attemptDeadlineEpoch = some deadline
      && j.bound S
  | complete _ attemptId _ _ _ => j.state = .RUNNING && j.attemptId = some attemptId && j.bound S
  | reject _ _ _ => j.open && j.bound S
  | consume _ jobId sessionId generation capabilityDigest _ _ =>
    j.state = .RUNNING && j.jobId = jobId && j.sessionId = sessionId && j.generation = generation
      && j.capabilityDigest = capabilityDigest && j.authorizationConsumedAt.isNone

/-- `UpdateExpression`. -/
def update (w : JobWrite) (j : Job) : Job :=
  match w with
  | claim _ attemptId startedAt deadline =>
    { j with
      state := .RUNNING, startedAt := some startedAt, attemptId := some attemptId
      attemptDeadlineEpoch := some deadline, attemptCount := some (j.attemptCount.getD 0 + 1) }
  | requeue _ _ _ recoveredAt =>
    { j with
      state := .QUEUED, recoveredAt := some recoveredAt, attemptId := none
      attemptDeadlineEpoch := none }
  | complete _ _ state completedAt receipt =>
    { j with
      state := state, completedAt := some completedAt, receipt := some receipt, attemptId := none
      attemptDeadlineEpoch := none }
  | reject _ completedAt receipt =>
    { j with
      state := .FAILED, completedAt := some completedAt, receipt := some receipt, attemptId := none
      attemptDeadlineEpoch := none }
  | consume _ _ _ _ _ envelopeDigest consumedAt =>
    { j with
      authorizationConsumedAt := some consumedAt
      authorizationEnvelopeDigest := some envelopeDigest }

end JobWrite

/-- The jobs of the table. -/
structure World where
  jobs : Key → Option Job

/-- The world with another item under one key. -/
def World.withJob (s : World) (key : Key) (job : Option Job) : World where
  jobs k := if k = key then job else s.jobs k

/-- The write as the table sees it.  None of them meets an item that is not there. -/
def JobWrite.guarded (S : Settings) (w : JobWrite) : Guarded World where
  condition s := (s.jobs w.key).any (w.meets S)
  result s := s.withJob w.key ((s.jobs w.key).map w.update)

@[simp] theorem World.withJob_self (s : World) (key : Key) (job : Option Job) :
    (s.withJob key job).jobs key = job := by
  simp [withJob]

theorem World.withJob_of_ne {s : World} {key k : Key} {job : Option Job} (h : k ≠ key) :
    (s.withJob key job).jobs k = s.jobs k := by
  simp [withJob, h]

/-- A write changes nothing but the course of a job and the mark of its authorization. -/
structure Job.Same (j j' : Job) : Prop where
  schema : j'.schema = j.schema
  profileId : j'.profileId = j.profileId
  jobId : j'.jobId = j.jobId
  operation : j'.operation = j.operation
  sessionId : j'.sessionId = j.sessionId
  generation : j'.generation = j.generation
  capabilityDigest : j'.capabilityDigest = j.capabilityDigest
  request : j'.request = j.request

theorem JobWrite.same (w : JobWrite) (j : Job) : j.Same (w.update j) := by
  cases w <;> exact ⟨rfl, rfl, rfl, rfl, rfl, rfl, rfl, rfl⟩

/-- **No write takes the mark of an authorization away.** -/
theorem JobWrite.consumed (w : JobWrite) {j : Job} (h : j.authorizationConsumedAt ≠ none) :
    (w.update j).authorizationConsumedAt ≠ none := by
  cases w with
  | consume => exact Option.some_ne_none _
  | _ => exact h

/-! ## 3. Calls -/

/-- What a service answers with instead of a result. -/
inductive ServiceFault where
  /-- `ConditionalCheckFailedException`. -/
  | conditional
  /-- Anything else. -/
  | other
deriving DecidableEq

/-- What the programs raise. -/
inductive Fault where
  | service (fault : ServiceFault)
  /-- `PermissionError`. -/
  | permission (message : String)
  /-- `RuntimeError`. -/
  | runtime (message : String)
  /-- `NameError`. -/
  | name (name : String)
  /-- `TypeError` or `ValueError`, of an operation of the language. -/
  | value
deriving DecidableEq

/-- What a program is raised where a service fails. -/
def raised {α : Type} (r : Except ServiceFault α) : Except Fault α := r.mapError .service

/-- A page of a query, with the key to go on from. -/
structure Page where
  items : List (Key × Job)
  lastEvaluatedKey : Option Key

/-- The calls of the adapter and of the gateway. -/
inductive Call where
  /-- `_iso()`. -/
  | iso
  /-- `int(time.time())`. -/
  | time
  /-- `uuid.uuid4().hex`. -/
  | uuid
  | query (pk : Text) (startKey : Option Key)
  | write (w : JobWrite)
  /-- `_companion`, up to the bounds of its response. -/
  | companion (path : String) (body : Py)
  /-- `_mcp_call`. -/
  | mcp (tool : String) (arguments : Py)
  /-- `_now()`, in microseconds. -/
  | now
  /-- `_public_key()`. -/
  | publicKey
  /-- `CORE#LEASE`, `CURRENT`. -/
  | lease
  /-- `_official_call`. -/
  | official (tool : Text) (arguments : Py)

/-- What each is answered. -/
abbrev Call.Reply : Call → Type
  | iso | uuid => Text
  | time | now => Int
  | query _ _ => Except ServiceFault Page
  | write _ | publicKey => Except ServiceFault Unit
  | companion _ _ | mcp _ _ | official _ _ => Except ServiceFault Py
  | lease => Except ServiceFault (Option Core.Lease)

/-- The functions of the two programs. -/
abbrev Handler := Program Call Call.Reply Fault

/-- The calls made so far, with their answers. -/
abbrev CallHistory := List (Event Call Call.Reply)

/-- A call, with what it raises. -/
def send (e : Call) : Handler e.Reply := Program.perform e

/-- `hmac.compare_digest` with the digest of a value. -/
def hasDigest (S : Settings) (v : Py) (expected : Py) : Except Fault Bool :=
  match digest S.P v with
  | some d => .ok (expected.isText d)
  | none => .error .value

/-- The digest of a value. -/
def digestOf (S : Settings) (v : Py) : Except Fault Text :=
  match digest S.P v with
  | some d => .ok d
  | none => .error .value

/-! ## 4. The tags of a column -/

mutual

/-- `walk` of `_column_tags`: whether the column was found, and the tags under it. -/
def walk (column : Text) : Py → (within : Bool) → Bool × List Text
  | .list items, within => walkItems column items within
  | .dict fields, within =>
    let matched := ["fieldPath", "columnPath", "path"].any fun key =>
      ((Py.dict fields).get key).isText column
    let (found, tags) := walkFields column fields (within || matched)
    (matched || found, tags)
  | _, _ => (false, [])

/-- `walk` of the elements of a list. -/
def walkItems (column : Text) : List Py → (within : Bool) → Bool × List Text
  | [], _ => (false, [])
  | v :: vs, within =>
    let (found, tags) := walk column v within
    let (found', tags') := walkItems column vs within
    (found || found', tags ++ tags')

/-- The members of a dict: a tag is taken, anything else is walked. -/
def walkFields (column : Text) : List (Text × Py) → (within : Bool) → Bool × List Text
  | [], _ => (false, [])
  | (_, v) :: fs, within =>
    let (found, tags) :=
      match v with
      | .str t =>
        if within && (js "urn:li:tag:").isPrefixOf t && len t ≤ 256 then (false, [t]) else (false, [])
      | _ => walk column v within
    let (found', tags') := walkFields column fs within
    (found || found', tags ++ tags')

end

/-- `sorted(tags)`, of the set of them. -/
def sortedTags (tags : List Text) : List Text :=
  tags.dedup.mergeSort fun a b => codePoints a ≤ codePoints b

/-- A tag state, with its digest. -/
def tagState (S : Settings) (entity column : Text) (tags : List Text) : Except Fault Py := do
  let state := [("entityUrn", Py.str entity), ("columnPath", .str column),
    ("tagUrns", .list ((sortedTags tags).map .str))]
  let d ← digestOf S (.object state)
  return .object (state ++ [("stateDigest", .str d)])

end Jobs
