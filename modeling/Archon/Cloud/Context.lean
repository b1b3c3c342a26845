/-
# The runtime a job belongs to

Before the Cloud worker claims a job it reads three items: the session of the job, the lease of the
Cloud runtime, and the record of its health (`validate_runtime_context`).  They must name one session,
one generation and one digest of the capabilities, none may be over, and two of them must end at the
same time.

Two of the three checks ask for exactly the attributes they list.  The one of the record lists the two
attributes of its key; the one of the lease does not, and the table returns an item with all of its
attributes, those of the key among them.  So whatever is stored, no job is accepted
(`context_refused`).
-/
import Archon.Cloud.Health

namespace Cloud

open Ecma Remediation
open Jobs (Py isDigest)

/-! ## 1. What the worker reads -/

/-- `RuntimeJob`, with what is compared with the session. -/
structure SubmittedJob extends RuntimeJob where
  submittedAt : Text
  /-- `expires_at`, in seconds. -/
  expiresAt : Int

/-- What `json.loads` comes to. -/
inductive Loaded where
  | value (v : Py)
  /-- `JSONDecodeError`. -/
  | malformed
  /-- `RecursionError`, of a text that nests too deeply. -/
  | tooDeep

/-- What the store takes from the libraries besides. -/
structure StoreHost extends Host where
  /-- `json.loads`. -/
  loads : Text → Loaded
  /-- The whole number that a `Decimal` is, if it is finite and one. -/
  whole : Text → Option Int
  /-- `str(v)`, of what is no string. -/
  strOf : Py → Text

/-- A table.  `get_item` may fail, and returns an item with all of its attributes. -/
structure Table where
  getItem : (pk sk : Text) → Option (Option (List (Text × Py)))
  keyed : ∀ {pk sk : Text} {attributes : List (Text × Py)}, getItem pk sk = some (some attributes) →
    attributes.lookup (js "pk") = some (.str pk) ∧ attributes.lookup (js "sk") = some (.str sk)

/-- `RuntimeStore`, as far as the context of a job is read from it. -/
structure RuntimeStore where
  sessions : Table
  leases : Table

section Store

variable (H : StoreHost)

/-- `str(v)`. -/
def StoreHost.str (v : Py) : Text :=
  match v with
  | .str t => t
  | v => H.strOf v

/-- `v in {"..", ..}`; a list or a dict cannot be looked up in a set. -/
def inSet (v : Py) (names : List String) : Except Rejection Bool :=
  match v with
  | .str t => .ok (names.any fun name => t = js name)
  | .list _ => .error .language
  | .dict _ => .error .language
  | _ => .ok false

mutual

/-- `normalize_ddb`. -/
def normalizeDdb : (v : Py) → (depth : Nat) → Except Rejection Py
  | v, depth =>
    if 16 < depth then .error (.contract "ddb_value_too_deep")
    else
      match v with
      | .decimal numeral =>
        match H.whole numeral with
        | some n =>
          if -(2 ^ 63) ≤ n ∧ n ≤ 2 ^ 63 - 1 then .ok (.int n)
          else .error (.contract "ddb_number_invalid")
        | none => .error (.contract "ddb_number_invalid")
      | .list items => do return .list (← normalizeItems items (depth + 1))
      | .dict fields => do return .dict (← normalizeFields fields (depth + 1))
      | .float _ _ => .error (.contract "ddb_value_invalid")
      | .none => .ok .none
      | .bool b => .ok (.bool b)
      | .int n => .ok (.int n)
      | .str t => .ok (.str t)

/-- The elements of a list. -/
def normalizeItems : List Py → (depth : Nat) → Except Rejection (List Py)
  | [], _ => .ok []
  | v :: vs, depth => do
    let w ← normalizeDdb v depth
    return w :: (← normalizeItems vs depth)

/-- The members of a dict. -/
def normalizeFields : List (Text × Py) → (depth : Nat) → Except Rejection (List (Text × Py))
  | [], _ => .ok []
  | (k, v) :: fs, depth => do
    let w ← normalizeDdb v depth
    return (k, w) :: (← normalizeFields fs depth)

end

/-- `_item`. -/
def itemOf (table : Table) (pk sk : Text) : Except Rejection Py :=
  match table.getItem pk sk with
  | none => .error (.retryable "ddb_read_failed")
  | some none => .error (.contract "runtime_binding_not_found")
  | some (some attributes) => normalizeDdb H (.dict attributes) 0

/-! ## 2. The three checks -/

/-- `type(v) is int and v >= 1`. -/
def isRevision : Py → Bool
  | .int n => 1 ≤ n
  | _ => false

/-- `v is None`. -/
def isNone : Py → Bool
  | .none => true
  | _ => false

/-- `v == w`, where one of them is a whole number. -/
def sameNumber (v w : Py) : Bool :=
  let number : Py → Option Int
    | .int n => some n
    | .bool b => some (if b then 1 else 0)
    | _ => none
  (number v).isSome && number v = number w

/-- `validate_binding`. -/
def validateBinding (value : Py) : Except Rejection Py := do
  demand (value.exact ["schemaVersion", "profileId", "generation", "capabilityDigest", "resolution",
        "boundAt", "leaseExpiresAt"]
      && (value.get "schemaVersion").isText (js "archon.runtime-binding/v1")
      && (value.get "profileId").isText PROFILE
      && Runtime.isGeneration (H.str (value.get "generation"))
      && isDigest (H.str (value.get "capabilityDigest")))
    "runtime_binding_invalid"
  demand (← inSet (value.get "resolution") ["auto", "explicit"]) "runtime_binding_invalid"
  let bound ← parseInstant H.toHost (value.get "boundAt")
  let expires ← parseInstant H.toHost (value.get "leaseExpiresAt")
  demand (bound < expires && expires - bound ≤ 2 * 3600 * 1000000) "runtime_binding_invalid"
  return value

/-- `validate_session_payload`, at a time in microseconds. -/
def validateSessionPayload (value : Py) (job : RuntimeJob) (now : Int) : Except Rejection Py := do
  demand (value.exact ["schemaVersion", "sessionId", "requestedProfile", "binding", "state",
        "createdAt", "updatedAt", "lastActivityAt", "idleExpiresAt", "hardExpiresAt", "revision",
        "endReason", "failureCode"]
      && (value.get "schemaVersion").isText (js "archon.runtime-session/v1")
      && (value.get "sessionId").isText job.sessionId)
    "runtime_session_inactive"
  demand (← inSet (value.get "requestedProfile") ["auto", "cloud"]) "runtime_session_inactive"
  demand ((value.get "state").isText (js "ACTIVE") && isRevision (value.get "revision")
      && isNone (value.get "endReason") && isNone (value.get "failureCode"))
    "runtime_session_inactive"
  let binding ← validateBinding H (value.get "binding")
  let created ← parseInstant H.toHost (value.get "createdAt")
  let updated ← parseInstant H.toHost (value.get "updatedAt")
  let activity ← parseInstant H.toHost (value.get "lastActivityAt")
  let idle ← parseInstant H.toHost (value.get "idleExpiresAt")
  let hard ← parseInstant H.toHost (value.get "hardExpiresAt")
  let lease ← parseInstant H.toHost (binding.get "leaseExpiresAt")
  demand ((binding.get "generation").isText job.generation
      && (binding.get "capabilityDigest").isText job.capabilityDigest
      && created ≤ activity && activity ≤ updated && updated ≤ now && updated < idle && idle ≤ hard
      && now < idle && now < hard && now < lease
      && (value.get "hardExpiresAt").text? = (binding.get "leaseExpiresAt").text?)
    "runtime_session_binding_mismatch"
  return value

/-- `validate_cloud_lease`. -/
def validateCloudLease (value : Py) (job : RuntimeJob) (now : Int) : Except Rejection Py := do
  demand (value.exact ["schemaVersion", "profileId", "state", "sessionId", "generation",
        "capabilityDigest", "leaseExpiresAt", "revision"]
      && (value.get "schemaVersion").isText (js "archon.cloud-runtime-lease/v1")
      && (value.get "profileId").isText PROFILE && (value.get "state").isText (js "ACTIVE")
      && (value.get "sessionId").isText job.sessionId
      && (value.get "generation").isText job.generation
      && (value.get "capabilityDigest").isText job.capabilityDigest
      && isRevision (value.get "revision"))
    "cloud_runtime_lease_mismatch"
  let expires ← parseInstant H.toHost (value.get "leaseExpiresAt")
  demand (now < expires) "cloud_runtime_lease_mismatch"
  return value

/-- What `validate_runtime_context` returns. -/
structure Context where
  session : Py
  lease : Py
  registry : Py

/-- The session of a job, from its item. -/
def sessionOf (item : Py) (job : SubmittedJob) (now : Int) : Except Rejection Py := do
  match item.get "payload" with
  | .str text =>
    if !Jobs.encodable text then .error .language
    else
      demand (utf8Length text ≤ 32 * 1024) "runtime_session_invalid"
      match H.loads text with
      | .malformed => .error (.contract "runtime_session_invalid")
      | .tooDeep => .error .language
      | .value payload =>
        let session ← validateSessionPayload H payload job.toRuntimeJob now
        demand ((item.get "pk").isText (js "SESSION#" ++ job.sessionId)
            && (item.get "sk").isText (js "RUNTIME")
            && sameNumber (item.get "revision") (session.get "revision")
            && now.tdiv 1000000 < job.expiresAt)
          "runtime_session_binding_mismatch"
        let submitted ← parseInstant H.toHost (.str job.submittedAt)
        let created ← parseInstant H.toHost (session.get "createdAt")
        demand (created ≤ submitted && submitted ≤ now) "runtime_session_binding_mismatch"
        return session
  | _ => .error (.contract "runtime_session_invalid")

/-- `validate_runtime_context`, at a time in microseconds. -/
def validateRuntimeContext (store : RuntimeStore) (job : SubmittedJob) (now : Int) :
    Except Rejection Context := do
  let item ← itemOf H store.sessions (js "SESSION#" ++ job.sessionId) (js "RUNTIME")
  let session ← sessionOf H item job now
  let lease ← validateCloudLease H (← itemOf H store.leases (js "CLOUD#LEASE") (js "CURRENT"))
    job.toRuntimeJob now
  let registry ← validateRegistry H.toHost
    (← itemOf H store.sessions (js "RUNTIME#cloud") (js "HEALTH")) job.toRuntimeJob now
  demand (((session.get "binding").get "leaseExpiresAt").text? = (lease.get "leaseExpiresAt").text?)
    "cloud_runtime_lease_mismatch"
  return ⟨session, lease, registry⟩

end Store

/-! ## 3. The attributes of a key -/

section Keys

variable {H : StoreHost}

theorem normalizeDdb_str {t : Text} {depth : Nat} (h : depth ≤ 16) :
    normalizeDdb H (.str t) depth = .ok (.str t) := by
  rw [normalizeDdb, if_neg (Nat.not_lt.mpr h)]

/-- A string attribute is found again, unchanged. -/
theorem lookup_normalizeFields {depth : Nat} (hdepth : depth ≤ 16) {key t : Text} :
    ∀ {fields normalized : List (Text × Py)}, normalizeFields H fields depth = .ok normalized →
      fields.lookup key = some (.str t) → normalized.lookup key = some (.str t) := by
  intro fields
  induction fields with
  | nil =>
    intro normalized _ hlookup
    cases hlookup
  | cons f fs ih =>
    obtain ⟨k, v⟩ := f
    intro normalized h hlookup
    rw [normalizeFields] at h
    obtain ⟨w, hw, h⟩ := bind_eq_ok.mp h
    obtain ⟨rest, hrest, h⟩ := bind_eq_ok.mp h
    obtain rfl := Except.ok.inj h
    rw [List.lookup_cons] at hlookup ⊢
    by_cases hkey : (key == k) = true
    · rw [hkey] at hlookup ⊢
      obtain rfl := Option.some.inj hlookup
      rw [normalizeDdb_str hdepth] at hw
      exact congrArg some (Except.ok.inj hw).symm
    · rw [Bool.not_eq_true] at hkey
      rw [hkey] at hlookup ⊢
      exact ih hrest hlookup

/-- What is read has the attributes of its key. -/
theorem itemOf_eq_ok {table : Table} {pk sk : Text} {item : Py} (h : itemOf H table pk sk = .ok item) :
    item.get? "pk" = some (.str pk) ∧ item.get? "sk" = some (.str sk) := by
  rw [itemOf] at h
  split at h
  · cases h
  · cases h
  case h_3 attributes hread =>
    rw [normalizeDdb, if_neg (by decide)] at h
    obtain ⟨normalized, hnormalized, h⟩ := bind_eq_ok.mp h
    obtain rfl := Except.ok.inj h
    obtain ⟨hpk, hsk⟩ := table.keyed hread
    exact ⟨lookup_normalizeFields (by decide) hnormalized hpk,
      lookup_normalizeFields (by decide) hnormalized hsk⟩

/-- What is exact has no member but those that are listed. -/
theorem mem_of_exact {v w : Py} {keys : List String} {key : String} (h : v.exact keys = true)
    (hget : v.get? key = some w) : key ∈ keys := by
  cases v with
  | dict fields =>
    rw [Py.exact, Bool.and_eq_true, List.all_eq_true, List.all_eq_true] at h
    obtain ⟨before, after, rfl, -⟩ := List.lookup_eq_some_iff.mp hget
    have hany := h.2 (js key, w) (List.mem_append_right before List.mem_cons_self)
    rw [List.any_eq_true] at hany
    obtain ⟨k, hk, hsame⟩ := hany
    rw [js_inj.mp (of_decide_eq_true hsame)]
    exact hk
  | _ => cases h

/-- **No lease that is read is accepted.** -/
theorem lease_refused {store : RuntimeStore} {pk sk : Text} {item lease : Py} {job : RuntimeJob}
    {now : Int} (hread : itemOf H store.leases pk sk = .ok item) :
    validateCloudLease H item job now ≠ .ok lease := by
  intro h
  rw [validateCloudLease] at h
  obtain ⟨_, hmembers, -⟩ := bind_eq_ok.mp h
  simp only [demand_eq_ok, Bool.and_eq_true] at hmembers
  have hpk := mem_of_exact hmembers.1.1.1.1.1.1.1 (itemOf_eq_ok hread).1
  revert hpk
  decide

theorem not_accepted (store : RuntimeStore) (job : SubmittedJob) (now : Int) (context : Context) :
    validateRuntimeContext H store job now ≠ .ok context := by
  intro h
  rw [validateRuntimeContext] at h
  obtain ⟨_, -, h⟩ := bind_eq_ok.mp h
  obtain ⟨_, -, h⟩ := bind_eq_ok.mp h
  obtain ⟨item, hread, h⟩ := bind_eq_ok.mp h
  obtain ⟨lease, hlease, -⟩ := bind_eq_ok.mp h
  exact lease_refused hread hlease

end Keys

/-! ## 4. Items that bind a job -/

/-- What a session stores beside what the job names. -/
structure StoredSession where
  requestedProfile : String
  resolution : String
  boundAt : Text
  createdAt : Text
  updatedAt : Text
  lastActivityAt : Text
  idleExpiresAt : Text
  hardExpiresAt : Text
  revision : Int

/-- The binding of a session, to what the job names. -/
def bindingOf (job : RuntimeJob) (s : StoredSession) : Py :=
  .object [("schemaVersion", .lit "archon.runtime-binding/v1"), ("profileId", .str PROFILE),
    ("generation", .str job.generation), ("capabilityDigest", .str job.capabilityDigest),
    ("resolution", .lit s.resolution), ("boundAt", .str s.boundAt),
    ("leaseExpiresAt", .str s.hardExpiresAt)]

/-- The session, active. -/
def payloadOf (job : RuntimeJob) (s : StoredSession) : Py :=
  .object [("schemaVersion", .lit "archon.runtime-session/v1"), ("sessionId", .str job.sessionId),
    ("requestedProfile", .lit s.requestedProfile), ("binding", bindingOf job s),
    ("state", .lit "ACTIVE"), ("createdAt", .str s.createdAt), ("updatedAt", .str s.updatedAt),
    ("lastActivityAt", .str s.lastActivityAt), ("idleExpiresAt", .str s.idleExpiresAt),
    ("hardExpiresAt", .str s.hardExpiresAt), ("revision", .int s.revision), ("endReason", .none),
    ("failureCode", .none)]

/-- The lease of the Cloud runtime, without the attributes of its key. -/
def leaseFields (job : RuntimeJob) (s : StoredSession) (revision : Int) : List (String × Py) :=
  [("schemaVersion", .lit "archon.cloud-runtime-lease/v1"), ("profileId", .str PROFILE),
    ("state", .lit "ACTIVE"), ("sessionId", .str job.sessionId), ("generation", .str job.generation),
    ("capabilityDigest", .str job.capabilityDigest), ("leaseExpiresAt", .str s.hardExpiresAt),
    ("revision", .int revision)]

/-- The times of a session and of its job, in microseconds. -/
structure Moments (H : StoreHost) (job : SubmittedJob) (s : StoredSession) where
  bound : Int
  created : Int
  activity : Int
  updated : Int
  idle : Int
  hard : Int
  submitted : Int
  bound_eq : parseInstant H.toHost (.str s.boundAt) = .ok bound
  created_eq : parseInstant H.toHost (.str s.createdAt) = .ok created
  activity_eq : parseInstant H.toHost (.str s.lastActivityAt) = .ok activity
  updated_eq : parseInstant H.toHost (.str s.updatedAt) = .ok updated
  idle_eq : parseInstant H.toHost (.str s.idleExpiresAt) = .ok idle
  hard_eq : parseInstant H.toHost (.str s.hardExpiresAt) = .ok hard
  submitted_eq : parseInstant H.toHost (.str job.submittedAt) = .ok submitted

/-- **Three items bind a job**, at a time after it was submitted and before its deadlines. -/
structure Bound (H : StoreHost) (store : RuntimeStore) (job : SubmittedJob) (now : Int)
    (s : StoredSession) (leaseRevision : Int) : Prop where
  requested : s.requestedProfile = "auto" ∨ s.requestedProfile = "cloud"
  resolved : s.resolution = "auto" ∨ s.resolution = "explicit"
  generated : Runtime.isGeneration job.generation = true
  digested : isDigest job.capabilityDigest = true
  written : 1 ≤ s.revision
  leased : 1 ≤ leaseRevision
  /-- The session is a text of the item, which carries its revision. -/
  session : ∃ item text,
    itemOf H store.sessions (js "SESSION#" ++ job.sessionId) (js "RUNTIME") = .ok item
      ∧ item.get "payload" = .str text ∧ Jobs.encodable text = true ∧ utf8Length text ≤ 32 * 1024
      ∧ H.loads text = .value (payloadOf job.toRuntimeJob s) ∧ item.get "revision" = .int s.revision
  /-- The lease is the item, with the attributes of its key. -/
  lease : itemOf H store.leases (js "CLOUD#LEASE") (js "CURRENT")
    = .ok (.object (("pk", .lit "CLOUD#LEASE") :: ("sk", .lit "CURRENT")
      :: leaseFields job.toRuntimeJob s leaseRevision))
  registry : ∃ item record,
    itemOf H store.sessions (js "RUNTIME#cloud") (js "HEALTH") = .ok item
      ∧ validateRegistry H.toHost item job.toRuntimeJob now = .ok record
  chronology : ∃ t : Moments H job s, t.bound < t.hard ∧ t.hard - t.bound ≤ 2 * 3600 * 1000000
    ∧ t.created ≤ t.activity ∧ t.activity ≤ t.updated ∧ t.updated ≤ now ∧ now < t.idle
    ∧ t.idle ≤ t.hard ∧ t.created ≤ t.submitted ∧ t.submitted ≤ now
  unexpired : now.tdiv 1000000 < job.expiresAt

section Refused

variable {H : StoreHost} {store : RuntimeStore} {job : SubmittedJob} {now : Int} {s : StoredSession}
  {leaseRevision : Int}

theorem inSet_lit {name : String} {names : List String} (h : name ∈ names) :
    inSet (.lit name) names = .ok true := by
  have hany : (names.any fun other => js name = js other) = true :=
    List.any_eq_true.mpr ⟨name, h, decide_eq_true rfl⟩
  rw [Py.lit, inSet, hany]

theorem members_bindingOf (job : RuntimeJob) (s : StoredSession) :
    (bindingOf job s).exact ["schemaVersion", "profileId", "generation", "capabilityDigest",
        "resolution", "boundAt", "leaseExpiresAt"] = true
      ∧ (bindingOf job s).get "schemaVersion" = .lit "archon.runtime-binding/v1"
      ∧ (bindingOf job s).get "profileId" = .str PROFILE
      ∧ (bindingOf job s).get "generation" = .str job.generation
      ∧ (bindingOf job s).get "capabilityDigest" = .str job.capabilityDigest
      ∧ (bindingOf job s).get "resolution" = .lit s.resolution
      ∧ (bindingOf job s).get "boundAt" = .str s.boundAt
      ∧ (bindingOf job s).get "leaseExpiresAt" = .str s.hardExpiresAt := by
  simp only [bindingOf, Py.get_object, Py.exact_object]
  exact ⟨rfl, rfl, rfl, rfl, rfl, rfl, rfl, rfl⟩

theorem members_payloadOf (job : RuntimeJob) (s : StoredSession) :
    (payloadOf job s).exact ["schemaVersion", "sessionId", "requestedProfile", "binding", "state",
        "createdAt", "updatedAt", "lastActivityAt", "idleExpiresAt", "hardExpiresAt", "revision",
        "endReason", "failureCode"] = true
      ∧ (payloadOf job s).get "schemaVersion" = .lit "archon.runtime-session/v1"
      ∧ (payloadOf job s).get "sessionId" = .str job.sessionId
      ∧ (payloadOf job s).get "requestedProfile" = .lit s.requestedProfile
      ∧ (payloadOf job s).get "binding" = bindingOf job s
      ∧ (payloadOf job s).get "state" = .lit "ACTIVE"
      ∧ (payloadOf job s).get "createdAt" = .str s.createdAt
      ∧ (payloadOf job s).get "updatedAt" = .str s.updatedAt
      ∧ (payloadOf job s).get "lastActivityAt" = .str s.lastActivityAt
      ∧ (payloadOf job s).get "idleExpiresAt" = .str s.idleExpiresAt
      ∧ (payloadOf job s).get "hardExpiresAt" = .str s.hardExpiresAt
      ∧ (payloadOf job s).get "revision" = .int s.revision
      ∧ (payloadOf job s).get "endReason" = .none ∧ (payloadOf job s).get "failureCode" = .none := by
  simp only [payloadOf, Py.get_object, Py.exact_object]
  exact ⟨rfl, rfl, rfl, rfl, rfl, rfl, rfl, rfl, rfl, rfl, rfl, rfl, rfl, rfl⟩

theorem members_leaseFields (job : RuntimeJob) (s : StoredSession) (revision : Int) :
    (Py.object (leaseFields job s revision)).exact ["schemaVersion", "profileId", "state",
        "sessionId", "generation", "capabilityDigest", "leaseExpiresAt", "revision"] = true
      ∧ (Py.object (leaseFields job s revision)).get "schemaVersion"
        = .lit "archon.cloud-runtime-lease/v1"
      ∧ (Py.object (leaseFields job s revision)).get "profileId" = .str PROFILE
      ∧ (Py.object (leaseFields job s revision)).get "state" = .lit "ACTIVE"
      ∧ (Py.object (leaseFields job s revision)).get "sessionId" = .str job.sessionId
      ∧ (Py.object (leaseFields job s revision)).get "generation" = .str job.generation
      ∧ (Py.object (leaseFields job s revision)).get "capabilityDigest" = .str job.capabilityDigest
      ∧ (Py.object (leaseFields job s revision)).get "leaseExpiresAt" = .str s.hardExpiresAt
      ∧ (Py.object (leaseFields job s revision)).get "revision" = .int revision := by
  simp only [leaseFields, Py.get_object, Py.exact_object]
  exact ⟨rfl, rfl, rfl, rfl, rfl, rfl, rfl, rfl, rfl⟩

theorem validateBinding_bindingOf (h : Bound H store job now s leaseRevision) :
    validateBinding H (bindingOf job.toRuntimeJob s) = .ok (bindingOf job.toRuntimeJob s) := by
  obtain ⟨t, hbound, hlease, -⟩ := h.chronology
  have hresolved : s.resolution ∈ ["auto", "explicit"] := by
    simpa using h.resolved
  obtain ⟨hexact, hschema, hprofile, hgeneration, hdigest, hresolution, hboundAt, hexpires⟩ :=
    members_bindingOf job.toRuntimeJob s
  have hname : ∀ name, (Py.lit name).isText (js name) = true := fun name => Py.isText_self _
  rw [validateBinding, hexact, hschema, hprofile, hgeneration, hdigest, hresolution, hboundAt,
    hexpires, hname, Py.isText_self, StoreHost.str, StoreHost.str, h.generated, h.digested,
    inSet_lit hresolved, t.bound_eq, t.hard_eq]
  simp only [Bool.and_self, demand_true, bind, Except.bind, decide_eq_true hbound,
    decide_eq_true hlease]
  rfl

theorem validateSessionPayload_payloadOf (h : Bound H store job now s leaseRevision) :
    validateSessionPayload H (payloadOf job.toRuntimeJob s) job.toRuntimeJob now
      = .ok (payloadOf job.toRuntimeJob s) := by
  obtain ⟨t, -, -, hactivity, hupdated, hnow, hidle, hhard, -, -⟩ := h.chronology
  have hrequested : s.requestedProfile ∈ ["auto", "cloud"] := by
    simpa using h.requested
  obtain ⟨hexact, hschema, hsession, hprofile, hbinding, hstate, hcreatedAt, hupdatedAt, hactivityAt,
    hidleAt, hhardAt, hrevision, hreason, hcode⟩ := members_payloadOf job.toRuntimeJob s
  obtain ⟨-, -, -, hgeneration, hdigest, -, -, hexpires⟩ := members_bindingOf job.toRuntimeJob s
  have hname : ∀ name, (Py.lit name).isText (js name) = true := fun name => Py.isText_self _
  have hwritten : isRevision (.int s.revision) = true := decide_eq_true h.written
  have hlate : now < t.hard := lt_of_lt_of_le hidle hhard
  have hearly : t.updated < t.idle := lt_of_le_of_lt hnow hidle
  rw [validateSessionPayload, hexact, hschema, hsession, hprofile, hbinding, hstate, hcreatedAt,
    hupdatedAt, hactivityAt, hidleAt, hhardAt, hrevision, hreason, hcode, hname, hname,
    Py.isText_self, inSet_lit hrequested, hwritten, validateBinding_bindingOf h, t.created_eq,
    t.updated_eq, t.activity_eq, t.idle_eq, t.hard_eq]
  simp only [isNone, Bool.and_self, demand_true, bind, Except.bind, hgeneration, hdigest, hexpires,
    t.hard_eq, Py.isText_self, hactivity, hupdated, hnow, hearly, hhard, hidle, hlate, decide_true]
  rfl

/-- The session is accepted. -/
theorem session_accepted (h : Bound H store job now s leaseRevision) : ∃ item,
    itemOf H store.sessions (js "SESSION#" ++ job.sessionId) (js "RUNTIME") = .ok item
      ∧ sessionOf H item job now = .ok (payloadOf job.toRuntimeJob s) := by
  obtain ⟨item, text, hread, hpayload, hencodable, hshort, hloads, hrevision⟩ := h.session
  obtain ⟨t, -, -, -, -, -, -, -, hsubmitted, hpast⟩ := h.chronology
  obtain ⟨hpk, hsk⟩ := itemOf_eq_ok hread
  have hpk : item.get "pk" = .str (js "SESSION#" ++ job.sessionId) := by rw [Py.get, hpk, Option.getD_some]
  have hsk : item.get "sk" = .str (js "RUNTIME") := by rw [Py.get, hsk, Option.getD_some]
  obtain ⟨-, -, -, -, -, -, hcreatedAt, -, -, -, -, hrevised, -, -⟩ :=
    members_payloadOf job.toRuntimeJob s
  have hsame : sameNumber (.int s.revision) (.int s.revision) = true := by
    rw [sameNumber, Option.isSome_some, decide_eq_true rfl]
    rfl
  refine ⟨item, hread, ?_⟩
  rw [sessionOf, hpayload]
  simp only [hencodable, Bool.not_true, Bool.false_eq_true, if_false, decide_eq_true hshort,
    demand_true, hloads, validateSessionPayload_payloadOf h, bind, Except.bind, hpk, hsk, hrevision,
    hrevised, hcreatedAt, Py.isText_self, hsame, h.unexpired, t.submitted_eq, t.created_eq,
    decide_eq_true hsubmitted, decide_eq_true hpast, Bool.and_self, decide_true]
  rfl

/-- Without the attributes of its key the lease would be accepted. -/
theorem lease_accepted (h : Bound H store job now s leaseRevision) :
    validateCloudLease H (.object (leaseFields job.toRuntimeJob s leaseRevision)) job.toRuntimeJob now
      = .ok (.object (leaseFields job.toRuntimeJob s leaseRevision)) := by
  obtain ⟨t, -, -, -, -, -, hidle, hhard, -⟩ := h.chronology
  have hlate : now < t.hard := lt_of_lt_of_le hidle hhard
  have hleased : isRevision (.int leaseRevision) = true := decide_eq_true h.leased
  have hname : ∀ name, (Py.lit name).isText (js name) = true := fun name => Py.isText_self _
  obtain ⟨hexact, hschema, hprofile, hstate, hsession, hgeneration, hdigest, hexpires, hrevision⟩ :=
    members_leaseFields job.toRuntimeJob s leaseRevision
  rw [validateCloudLease, hexact, hschema, hprofile, hstate, hsession, hgeneration, hdigest, hexpires,
    hrevision, hleased, hname, hname, t.hard_eq]
  simp only [Py.isText_self, Bool.and_self, demand_true, bind, Except.bind, decide_eq_true hlate]
  rfl

/-- With them it is not. -/
theorem lease_mismatch (job : RuntimeJob) (s : StoredSession) (revision now : Int) :
    validateCloudLease H (.object (("pk", .lit "CLOUD#LEASE") :: ("sk", .lit "CURRENT")
      :: leaseFields job s revision)) job now = .error (.contract "cloud_runtime_lease_mismatch") := by
  have hexact : (Py.object (("pk", .lit "CLOUD#LEASE") :: ("sk", .lit "CURRENT")
      :: leaseFields job s revision)).exact ["schemaVersion", "profileId", "state", "sessionId",
        "generation", "capabilityDigest", "leaseExpiresAt", "revision"] = false := by
    rw [← Bool.not_eq_true]
    intro h
    have hpk : "pk" ∈ _ := mem_of_exact h (Py.get?_object _ _)
    revert hpk
    decide
  rw [validateCloudLease, hexact]
  rfl

theorem refused_of_bound (h : Bound H store job now s leaseRevision) :
    validateRuntimeContext H store job now
      = .error (.contract "cloud_runtime_lease_mismatch") := by
  obtain ⟨item, hread, hsession⟩ := session_accepted h
  rw [validateRuntimeContext, hread, h.lease]
  simp only [bind, Except.bind, hsession, lease_mismatch]

end Refused

/-! ## 5. No job is accepted -/

/-- **No job is accepted**, whatever the three items are.  Where they bind the job it is the lease that
is refused, and without the attributes of its key it would be accepted. -/
theorem context_refused (H : StoreHost) (store : RuntimeStore) (job : SubmittedJob) (now : Int) :
    (∀ context, validateRuntimeContext H store job now ≠ .ok context)
      ∧ ∀ (s : StoredSession) (leaseRevision : Int), Bound H store job now s leaseRevision →
        validateRuntimeContext H store job now = .error (.contract "cloud_runtime_lease_mismatch")
          ∧ validateCloudLease H (.object (leaseFields job.toRuntimeJob s leaseRevision))
            job.toRuntimeJob now = .ok (.object (leaseFields job.toRuntimeJob s leaseRevision)) :=
  ⟨not_accepted store job now, fun _ _ h => ⟨refused_of_bound h, lease_accepted h⟩⟩

/-- A table that holds some items. -/
def Table.holding (items : List (Text × Text × List (String × Py))) : Table where
  getItem pk sk := some ((items.find? fun item => item.1 = pk && item.2.1 = sk).map fun item =>
    (js "pk", .str item.1) :: (js "sk", .str item.2.1) :: item.2.2.map fun f => (js f.1, f.2))
  keyed := by
    intro pk sk attributes h
    obtain ⟨item, hfind, rfl⟩ := Option.map_eq_some_iff.mp (Option.some.inj h)
    have hkey := List.find?_some hfind
    rw [Bool.and_eq_true, decide_eq_true_eq, decide_eq_true_eq] at hkey
    obtain ⟨rfl, rfl⟩ := hkey
    exact ⟨rfl, rfl⟩

/-- A job of a session in the Cloud. -/
def boundJob : SubmittedJob where
  jobId := js "job_AAAAAAAAAAAAAAAAAAAAAA"
  auditId := js "0123456789abcdef0123456789abcdef0123456789abcdef0123456789abcdef"
  runtimeEvidenceDigest :=
    js "sha256:0123456789abcdef0123456789abcdef0123456789abcdef0123456789abcdef"
  sessionId := js "rs_AAAAAAAAAAAAAAAAAAAAAAAAAAAAAAAAAAAAAAAAAAA"
  generation := js "g1"
  capabilityDigest := js "sha256:4cfff935c9aabd3fdd9a42a2446043f45b67b6eb447a101fb8c35a0d1c2f8cfc"
  operation := js "READ_COLUMN_TAGS"
  request := .object []
  submittedAt := js "2026-07-14T10:00:30.000Z"
  expiresAt := 1786615200

/-- Its session. -/
def sampleStored : StoredSession where
  requestedProfile := "auto"
  resolution := "auto"
  boundAt := js "2026-07-14T10:00:00.000Z"
  createdAt := js "2026-07-14T10:00:00.000Z"
  updatedAt := js "2026-07-14T10:00:30.000Z"
  lastActivityAt := js "2026-07-14T10:00:30.000Z"
  idleExpiresAt := js "2026-07-14T10:30:30.000Z"
  hardExpiresAt := js "2026-07-14T12:00:00.000Z"
  revision := 1

/-- The session as the control plane writes it. -/
def samplePayload : Text := (stringify (Value.object
  [("schemaVersion", .lit "archon.runtime-session/v1"), ("sessionId", .str boundJob.sessionId),
    ("requestedProfile", .lit "auto"),
    ("binding", .object [("schemaVersion", .lit "archon.runtime-binding/v1"),
      ("profileId", .lit "cloud"), ("generation", .lit "g1"),
      ("capabilityDigest", .str boundJob.capabilityDigest), ("resolution", .lit "auto"),
      ("boundAt", .str sampleStored.boundAt), ("leaseExpiresAt", .str sampleStored.hardExpiresAt)]),
    ("state", .lit "ACTIVE"), ("createdAt", .str sampleStored.createdAt),
    ("updatedAt", .str sampleStored.updatedAt),
    ("lastActivityAt", .str sampleStored.lastActivityAt),
    ("idleExpiresAt", .str sampleStored.idleExpiresAt),
    ("hardExpiresAt", .str sampleStored.hardExpiresAt), ("revision", .num (.ofNat 1)),
    ("endReason", .null), ("failureCode", .null)])).getD []

/-- A Python that reads what is written here. -/
def StoreHost.sample : StoreHost where
  toHost := Host.sample
  loads t := if t = samplePayload then .value (payloadOf boundJob.toRuntimeJob sampleStored) else .malformed
  whole t := if t = js "1" then some 1 else none
  strOf _ := []

/-- The items that bind the job, as the table holds them. -/
def boundStore : RuntimeStore where
  sessions := .holding
    [(js "SESSION#" ++ boundJob.sessionId, js "RUNTIME",
        [("payload", .str samplePayload), ("revision", .decimal (js "1"))]),
      (js "RUNTIME#cloud", js "HEALTH",
        [("status", .lit "READY"), ("generation", .lit "g1"),
          ("capabilityDigest", .str boundJob.capabilityDigest),
          ("capabilities", .object (CAPABILITY_KEYS.map fun key => (key, .bool true))),
          ("checkedAt", .lit "2026-07-14T10:00:00.000Z")])]
  leases := .holding
    [(js "CLOUD#LEASE", js "CURRENT", (leaseFields boundJob.toRuntimeJob sampleStored 1).dropLast
      ++ [("revision", .decimal (js "1"))])]

/-- Ten seconds later. -/
def boundTime : Int := 1784023240000000

def sampleMoments : Moments StoreHost.sample boundJob sampleStored where
  bound := 1784023200000000
  created := 1784023200000000
  activity := 1784023230000000
  updated := 1784023230000000
  idle := 1784025030000000
  hard := 1784030400000000
  submitted := 1784023230000000
  bound_eq := by decide +kernel
  created_eq := by decide +kernel
  activity_eq := by decide +kernel
  updated_eq := by decide +kernel
  idle_eq := by decide +kernel
  hard_eq := by decide +kernel
  submitted_eq := by decide +kernel

theorem capabilityDigest_sample : capabilityDigest Host.sample (js "g1")
    (.object (CAPABILITY_KEYS.map fun key => (key, .bool true))) = .ok boundJob.capabilityDigest := by
  have hrecord : Py.object [("schemaVersion", .lit "archon.runtime-capabilities/v1"),
      ("profileId", .str PROFILE), ("generation", .str (js "g1")),
      ("capabilities", .object (CAPABILITY_KEYS.map fun key =>
        (key, (Py.object (CAPABILITY_KEYS.map fun key => (key, .bool true))).get key)))]
      = Control.stored (cloudRecord (js "g1") sampleCapabilities) := rfl
  have hset : Capabilities sampleCapabilities := fun key hkey => by
    simp only [CAPABILITY_KEYS, List.mem_cons, List.not_mem_nil, or_false] at hkey
    rcases hkey with rfl | rfl | rfl | rfl | rfl <;> decide
  have hdigest : Control.digest Platform.node (cloudRecord (js "g1") sampleCapabilities)
      = some boundJob.capabilityDigest := by
    have hcanonical : cloudRecord (js "g1") sampleCapabilities
        = capabilityRecord (js "cloud") (js "g1") sampleCapabilities := rfl
    rw [hcanonical]
    simp only [capabilityRecord, sampleCapabilities, boundJob, Value.object, Value.lit, List.map_cons,
      List.map_nil]
    repeat rw [js_ofList]
    decide +kernel
  rw [capabilityDigest, hrecord, digest]
  have hstored : Jobs.digest Host.sample.P (Control.stored (cloudRecord (js "g1") sampleCapabilities))
      = some boundJob.capabilityDigest :=
    (Control.digest_stored Platform.node (plain_cloudRecord (by decide) hset)).trans hdigest
  rw [hstored]
  rfl

/-- What is read of the record. -/
def sampleRegistry : Py :=
  .object [("pk", .lit "RUNTIME#cloud"), ("sk", .lit "HEALTH"), ("status", .lit "READY"),
    ("generation", .lit "g1"), ("capabilityDigest", .str boundJob.capabilityDigest),
    ("capabilities", .object (CAPABILITY_KEYS.map fun key => (key, .bool true))),
    ("checkedAt", .lit "2026-07-14T10:00:00.000Z")]

theorem registry_sample :
    validateRegistry Host.sample sampleRegistry boundJob.toRuntimeJob boundTime
      = .ok sampleRegistry := by
  have hchecked : parseInstant Host.sample (sampleRegistry.get "checkedAt") = .ok 1784023200000000 := by
    decide +kernel
  have hcapabilities : sampleRegistry.get "capabilities"
      = .object (CAPABILITY_KEYS.map fun key => (key, .bool true)) := rfl
  rw [validateRegistry, hchecked, hcapabilities]
  have hgeneration : boundJob.generation = js "g1" := rfl
  simp only [hgeneration, capabilityDigest_sample]
  have hmembers : (sampleRegistry.exact ["pk", "sk", "status", "generation", "capabilityDigest",
        "capabilities", "checkedAt"]
      && (sampleRegistry.get "pk").isText (js "RUNTIME#cloud")
      && (sampleRegistry.get "sk").isText (js "HEALTH")
      && (sampleRegistry.get "status").isText (js "READY")
      && (sampleRegistry.get "generation").isText (js "g1")
      && (sampleRegistry.get "capabilityDigest").isText boundJob.capabilityDigest) = true := by
    decide +kernel
  have hset : (CAPABILITY_KEYS.all fun key => isTrue ((Py.object (CAPABILITY_KEYS.map fun key =>
      (key, Py.bool true))).get key)) = true := by
    decide +kernel
  rw [hmembers, hset]
  rfl

/-- What is read of the session. -/
def sampleItemRead : Py :=
  .object [("pk", .str (js "SESSION#" ++ boundJob.sessionId)), ("sk", .lit "RUNTIME"),
    ("payload", .str samplePayload), ("revision", .int 1)]

theorem session_sample :
    itemOf StoreHost.sample boundStore.sessions (js "SESSION#" ++ boundJob.sessionId) (js "RUNTIME")
      = .ok sampleItemRead := by
  rfl

theorem loads_sample {t : Text} (h : t = samplePayload) : StoreHost.sample.loads t
    = .value (payloadOf boundJob.toRuntimeJob sampleStored) :=
  if_pos h

theorem lease_sample :
    itemOf StoreHost.sample boundStore.leases (js "CLOUD#LEASE") (js "CURRENT")
      = .ok (.object (("pk", .lit "CLOUD#LEASE") :: ("sk", .lit "CURRENT")
        :: leaseFields boundJob.toRuntimeJob sampleStored 1)) := by
  rfl

theorem payload_sample : Jobs.encodable samplePayload = true ∧ utf8Length samplePayload ≤ 32 * 1024 := by
  simp only [samplePayload, boundJob, sampleStored, Value.object, Value.lit, List.map_cons, List.map_nil]
  repeat rw [js_ofList]
  constructor
  · decide +kernel
  · decide +kernel

theorem health_sample : itemOf StoreHost.sample boundStore.sessions (js "RUNTIME#cloud") (js "HEALTH")
    = .ok sampleRegistry := by
  rfl

theorem bound_sample : Bound StoreHost.sample boundStore boundJob boundTime sampleStored 1 where
  requested := .inl rfl
  resolved := .inl rfl
  generated := by decide
  digested := by decide
  written := by decide
  leased := by decide
  session := ⟨sampleItemRead, samplePayload, session_sample, rfl, payload_sample.1, payload_sample.2,
    loads_sample rfl, rfl⟩
  lease := lease_sample
  registry := ⟨sampleRegistry, sampleRegistry, health_sample, registry_sample⟩
  chronology := ⟨sampleMoments, by decide +kernel⟩
  unexpired := by decide

/-- A job that all three items bind is refused. -/
theorem bound_refused : Bound StoreHost.sample boundStore boundJob boundTime sampleStored 1
    ∧ ∀ context,
      validateRuntimeContext StoreHost.sample boundStore boundJob boundTime ≠ .ok context :=
  ⟨bound_sample, not_accepted boundStore boundJob boundTime⟩

/-- And it is the lease that is refused. -/
theorem context_refused_sample :
    validateRuntimeContext StoreHost.sample boundStore boundJob boundTime
      = .error (.contract "cloud_runtime_lease_mismatch") :=
  ((context_refused StoreHost.sample boundStore boundJob boundTime).2 sampleStored 1 bound_sample).1

end Cloud
