/-
# Checkpoints

The state of the analytics agent is kept in two places: its bytes are a version of an object of S3,
and a marker in the table names the version.  A save uploads first and registers then, on the
condition that nobody has registered in between; where the registration fails it deletes what it
has uploaded.

A call can fail after it was applied.  A registration whose answer is lost is taken for one that has
failed, so the version that the marker names by now is deleted (`committed_deleted`).  As long as no
registration ends so, whatever the workers do and whatever else fails, the version that a marker
names is there, and can be restored (`committed_loadable`).
-/
import Archon.Cloud.Contracts
import Archon.Resumption.Pool

namespace Cloud

open Ecma Remediation Resumption Resumption.Program
open Jobs (Py isDigest)

/-! ## 1. Objects and markers -/

/-- `MAX_CHECKPOINT_BYTES`. -/
def MAX_CHECKPOINT_BYTES : Nat := 12 * 1024 * 1024

/-- `VERSION_RE`: `^[A-Za-z0-9._~-]{1,1024}$`. -/
def isVersion (t : Text) : Bool :=
  1 ≤ t.length && t.length ≤ 1024 && t.all fun u => Jobs.isTokenUnit u || u == 0x2E || u == 0x7E

/-- The value of a hexadecimal digit of lower case. -/
def hexValue (u : UInt16) : Nat := if u ≤ 0x39 then u.toNat - 0x30 else u.toNat - 0x57

/-- `bytes.fromhex(t)`. -/
def fromHex : Text → List UInt8
  | u :: v :: t => UInt8.ofNat (16 * hexValue u + hexValue v) :: fromHex t
  | _ => []

/-- A digit of base 64. -/
def base64Digit (n : Nat) : UInt16 :=
  if n < 26 then UInt16.ofNat (0x41 + n)
  else if n < 52 then UInt16.ofNat (0x61 + n - 26)
  else if n < 62 then UInt16.ofNat (0x30 + n - 52)
  else if n = 62 then 0x2B
  else 0x2F

/-- `base64.b64encode(bytes).decode("ascii")`. -/
def base64 : List UInt8 → Text
  | [] => []
  | [a] =>
    let n := a.toNat * 65536
    [base64Digit (n / 262144), base64Digit (n / 4096 % 64), 0x3D, 0x3D]
  | [a, b] =>
    let n := a.toNat * 65536 + b.toNat * 256
    [base64Digit (n / 262144), base64Digit (n / 4096 % 64), base64Digit (n / 64 % 64), 0x3D]
  | a :: b :: c :: rest =>
    let n := a.toNat * 65536 + b.toNat * 256 + c.toNat
    base64Digit (n / 262144) :: base64Digit (n / 4096 % 64) :: base64Digit (n / 64 % 64)
      :: base64Digit (n % 64) :: base64 rest

/-- The checksum of S3, of bytes with this digest. -/
def checksumOf (stateDigest : Text) : Text := base64 (fromHex (stateDigest.drop 7))

/-- What the store takes from its environment. -/
structure CheckpointStore where
  H : Host
  kmsKeyArn : Text
  /-- `digest_bytes`. -/
  digestBytes : List UInt8 → Text
  digestBytes_form : ∀ bytes, isDigest (digestBytes bytes) = true

/-- `put_object`, as far as it decides what can be read again. -/
structure Upload where
  key : Text
  body : List UInt8
  serverSideEncryption : Text
  kmsKeyId : Text
  checksum : Text

/-- A version of an object, as `get_object` returns it. -/
structure Stored where
  body : List UInt8
  versionId : Text
  serverSideEncryption : Text
  kmsKeyId : Text
  checksum : Text

/-- What `put_object` returns; a bucket without versions names none. -/
structure Uploaded where
  versionId : Option Text
  serverSideEncryption : Text
  kmsKeyId : Text
  checksum : Text

/-- The item of a session under `CHECKPOINT#`. -/
structure Marker where
  schemaVersion : Text
  profileId : Text
  sessionId : Text
  generation : Text
  capabilityDigest : Text
  revision : Nat
  s3Key : Text
  versionId : Option Text
  stateDigest : Text
  bytes : Nat
  oauthKeyDigest : Text
  runHandleKeyDigest : Text
  updatedAt : Text

/-- `VERSION_RE.fullmatch(str(versionId))`; `str(None)` is a word. -/
def versionValid (versionId : Option Text) : Bool := isVersion (versionId.getD (js "None"))

/-- `_key`. -/
def keyOf (sessionId generation : Text) : Text :=
  js "cloud-runtime/v2/" ++ sessionId ++ js "/" ++ generation ++ js "/analytics-state.sqlite"

/-! ## 2. The two programs -/

/-- The calls of the store. -/
inductive StoreCall where
  /-- The marker of a session. -/
  | getItem (sessionId : Text)
  | getObject (key : Text) (versionId : Option Text)
  | putObject (upload : Upload)
  /-- A marker, where the revision is still the expected one; 0 expects none. -/
  | putItem (marker : Marker) (expectedRevision : Nat)
  | deleteObject (key : Text) (versionId : Option Text)

/-- What a call returns; nothing, and `false`, where it raises. -/
def StoreAnswer : StoreCall → Type
  | .getItem _ => Option (Option Marker)
  | .getObject _ _ => Option Stored
  | .putObject _ => Option Uploaded
  | .putItem _ _ => Bool
  | .deleteObject _ _ => Bool

/-- What the programs return. -/
inductive Outcome where
  /-- The receipt of `save`: the revision, the digest of the state and the one of the version. -/
  | saved (revision : Nat) (stateDigest objectVersionDigest : Text)
  /-- The revision that `restore` returns, and the bytes that it writes. -/
  | restored (revision : Nat) (body : List UInt8)

/-- A program of the store. -/
abbrev StoreProgram := Program StoreCall StoreAnswer Rejection Outcome

/-- The two digests that a checkpoint is sealed with. -/
structure Keys where
  oauthKeyDigest : Text
  runHandleKeyDigest : Text

section Programs

variable (S : CheckpointStore)

/-- The conditions of `restore` on a marker. -/
def markerValid (job : RuntimeJob) (keys : Keys) (m : Marker) : Bool :=
  m.schemaVersion = js "archon.analytics-checkpoint/v1" && m.profileId = PROFILE
    && m.sessionId = job.sessionId && m.generation = job.generation
    && m.capabilityDigest = job.capabilityDigest && m.s3Key = keyOf job.sessionId job.generation
    && 1 ≤ m.revision && 1 ≤ m.bytes && m.bytes ≤ MAX_CHECKPOINT_BYTES && isDigest m.stateDigest
    && versionValid m.versionId && m.oauthKeyDigest = keys.oauthKeyDigest
    && m.runHandleKeyDigest = keys.runHandleKeyDigest

/-- The conditions of `restore` on what it reads. -/
def objectValid (m : Marker) (o : Stored) : Bool :=
  o.body.length = m.bytes && o.body.length ≤ MAX_CHECKPOINT_BYTES && m.versionId = some o.versionId
    && o.serverSideEncryption = js "aws:kms" && o.kmsKeyId = S.kmsKeyArn
    && o.checksum = checksumOf m.stateDigest && S.digestBytes o.body = m.stateDigest

/-- `restore`, up to the file. -/
def restore (job : RuntimeJob) (keys : Keys) : StoreProgram :=
  .call (.getItem job.sessionId) fun
    | none => .done (.error (.retryable "checkpoint_registry_read_failed"))
    | some none => .done (.ok (.restored 0 []))
    | some (some m) =>
      if markerValid job keys m then
        .call (.getObject m.s3Key m.versionId) fun
          | none => .done (.error (.retryable "checkpoint_restore_failed"))
          | some o =>
            if objectValid S m o then .done (.ok (.restored m.revision o.body))
            else .done (.error (.contract "checkpoint_object_invalid"))
      else .done (.error (.contract "checkpoint_registry_invalid"))

/-- What `save` uploads. -/
def uploadOf (job : RuntimeJob) (state : List UInt8) : Upload where
  key := keyOf job.sessionId job.generation
  body := state
  serverSideEncryption := js "aws:kms"
  kmsKeyId := S.kmsKeyArn
  checksum := checksumOf (S.digestBytes state)

/-- The conditions of `save` on the answer to the upload, the version apart. -/
def uploadedValid (state : List UInt8) (u : Uploaded) : Bool :=
  u.serverSideEncryption = js "aws:kms" && u.kmsKeyId = S.kmsKeyArn
    && u.checksum = checksumOf (S.digestBytes state)

/-- The marker that `save` registers. -/
def markerOf (job : RuntimeJob) (keys : Keys) (state : List UInt8) (expectedRevision : Nat)
    (versionId : Option Text) (updatedAt : Text) : Marker where
  schemaVersion := js "archon.analytics-checkpoint/v1"
  profileId := PROFILE
  sessionId := job.sessionId
  generation := job.generation
  capabilityDigest := job.capabilityDigest
  revision := expectedRevision + 1
  s3Key := keyOf job.sessionId job.generation
  versionId := versionId
  stateDigest := S.digestBytes state
  bytes := state.length
  oauthKeyDigest := keys.oauthKeyDigest
  runHandleKeyDigest := keys.runHandleKeyDigest
  updatedAt := updatedAt

/-- A version, or `None`. -/
def ofVersion : Option Text → Py
  | some t => .str t
  | none => .none

/-- `delete_object` of an upload, whatever comes of it, and an error. -/
def discard (key : Text) (versionId : Option Text) (code : String) : StoreProgram :=
  .call (.deleteObject key versionId) fun _ => .done (.error (.retryable code))

/-- `save`, of a registration at the time `updatedAt`. -/
def save (job : RuntimeJob) (keys : Keys) (state : List UInt8) (expectedRevision : Nat)
    (updatedAt : Text) : StoreProgram :=
  if 1 ≤ state.length ∧ state.length ≤ MAX_CHECKPOINT_BYTES then
    let upload := uploadOf S job state
    .call (.putObject upload) fun
      | none => .done (.error (.retryable "checkpoint_upload_failed"))
      | some uploaded =>
        if versionValid uploaded.versionId then
          if uploadedValid S state uploaded then
            .call (.putItem (markerOf S job keys state expectedRevision uploaded.versionId updatedAt)
                expectedRevision) fun
              | false => discard upload.key uploaded.versionId "checkpoint_registry_cas_failed"
              | true =>
                match digest S.H (.object [("versionId", ofVersion uploaded.versionId)]) with
                | .ok d => .done (.ok (.saved (expectedRevision + 1) (S.digestBytes state) d))
                | .error e => .done (.error e)
          else discard upload.key uploaded.versionId "checkpoint_upload_unversioned"
        else .done (.error (.retryable "checkpoint_upload_unversioned"))
  else .done (.error (.contract "checkpoint_size_invalid"))

end Programs

/-! ## 3. The two stores -/

/-- S3 and the table. -/
structure Stores where
  /-- The versions of the objects, by key and version. -/
  objects : Text → Text → Option Stored
  /-- The versions that there have ever been. -/
  issued : List (Text × Text)
  /-- The markers, by session. -/
  registry : Text → Option Marker

namespace Stores

/-- Nothing has been saved yet. -/
def empty : Stores := ⟨fun _ _ => none, [], fun _ => none⟩

/-- The key has the version. -/
def upload (s : Stores) (key versionId : Text) (o : Stored) : Stores :=
  { s with
    objects := fun k v => if k = key ∧ v = versionId then some o else s.objects k v
    issued := (key, versionId) :: s.issued }

/-- The version is deleted. -/
def delete (s : Stores) (key versionId : Text) : Stores :=
  { s with objects := fun k v => if k = key ∧ v = versionId then none else s.objects k v }

/-- The marker is the one of its session. -/
def register (s : Stores) (m : Marker) : Stores :=
  { s with registry := fun id => if id = m.sessionId then some m else s.registry id }

theorem registry_register (s : Stores) (m : Marker) :
    (s.register m).registry m.sessionId = some m := by
  simp [register]

theorem objects_delete (s : Stores) (key versionId : Text) :
    (s.delete key versionId).objects key versionId = none := by
  simp [delete]

/-- The condition of a registration. -/
def registrable (s : Stores) (m : Marker) (expectedRevision : Nat) : Bool :=
  match s.registry m.sessionId with
  | none => expectedRevision = 0
  | some old => expectedRevision ≠ 0 && old.revision = expectedRevision

/-- What a call can do.  It can fail without an effect, and it can have its effect and fail.  The
bucket keeps versions, each of which it issues once, and returns what it has stored. -/
def Env (s : Stores) : (e : StoreCall) → StoreAnswer e → Stores → Prop
  | .getItem id, r, s' => s' = s ∧ (r = none ∨ r = some (s.registry id))
  | .getObject key v, r, s' => s' = s ∧ (r = none ∨ r = v.bind (s.objects key))
  | .putObject u, r, s' => (s' = s ∧ r = none) ∨ ∃ (v : Text) (o : Stored),
      (u.key, v) ∉ s.issued ∧ o.body = u.body ∧ o.versionId = v ∧ s' = s.upload u.key v o
        ∧ (r = none ∨ r = some ⟨some v, o.serverSideEncryption, o.kmsKeyId, o.checksum⟩)
  | .putItem m expected, r, s' => (s' = s ∧ r = false) ∨ (s.registrable m expected = true
      ∧ s' = s.register m)
  | .deleteObject key v, r, s' => (s' = s ∧ r = false) ∨ ∃ t, v = some t ∧ s' = s.delete key t

end Stores

/-! ## 4. What the programs do -/

/-- A call with its answer. -/
abbrev StoreEvent := Event StoreCall StoreAnswer

/-- The worker has uploaded the version. -/
def Sent (h : List StoreEvent) (key versionId : Text) : Prop :=
  ∃ (u : Upload) (r : Uploaded), (⟨.putObject u, some r⟩ : StoreEvent) ∈ h ∧ u.key = key
    ∧ r.versionId = some versionId

/-- A registration of the worker has succeeded. -/
def Registered (h : List StoreEvent) : Prop :=
  ∃ (m : Marker) (expected : Nat), (⟨.putItem m expected, true⟩ : StoreEvent) ∈ h

section Facts

variable (S : CheckpointStore)

/-- A marker that describes the version of an object, and that is as a `save` makes it. -/
structure Describes (m : Marker) (o : Stored) : Prop where
  schema : m.schemaVersion = js "archon.analytics-checkpoint/v1"
  profile : m.profileId = PROFILE
  key : m.s3Key = keyOf m.sessionId m.generation
  revision : 1 ≤ m.revision
  version : isVersion o.versionId = true
  bytes_pos : 1 ≤ m.bytes
  bytes_le : m.bytes ≤ MAX_CHECKPOINT_BYTES
  object : objectValid S m o = true

/-- What a worker may call, after what it has done. -/
def Legal (h : List StoreEvent) : StoreCall → Prop
  | .getItem _ | .getObject _ _ => True
  | .putObject _ => h = []
  | .putItem m _ => ∃ (u : Upload) (r : Uploaded), h = [⟨.putObject u, some r⟩] ∧ m.s3Key = u.key
      ∧ m.versionId = r.versionId
      ∧ ∀ v, r.versionId = some v → Describes S m
        ⟨u.body, v, r.serverSideEncryption, r.kmsKeyId, r.checksum⟩
  | .deleteObject key versionId => (∃ (u : Upload) (r : Uploaded),
      (⟨.putObject u, some r⟩ : StoreEvent) ∈ h ∧ u.key = key ∧ r.versionId = versionId)
        ∧ ¬ Registered h

theorem restore_obeys (job : RuntimeJob) (keys : Keys) :
    Obeys (Legal S) (fun _ _ => True) [] (restore S job keys) := by
  refine ⟨trivial, fun r => ?_⟩
  match r with
  | none => exact trivial
  | some none => exact trivial
  | some (some m) =>
    dsimp only
    split
    · refine ⟨trivial, fun r => ?_⟩
      match r with
      | none => exact trivial
      | some o =>
        dsimp only
        split <;> exact trivial
    · exact trivial

theorem save_obeys (job : RuntimeJob) (keys : Keys) (state : List UInt8) (expected : Nat)
    (updatedAt : Text) :
    Obeys (Legal S) (fun _ _ => True) [] (save S job keys state expected updatedAt) := by
  unfold save
  split
  case isFalse => exact trivial
  case isTrue hsize =>
    refine ⟨rfl, fun r => ?_⟩
    match r with
    | none => exact trivial
    | some uploaded =>
      have hsent : ∀ h : List StoreEvent, (⟨.putObject (uploadOf S job state), some uploaded⟩ :
          StoreEvent) ∈ [] ++ [⟨.putObject (uploadOf S job state), some uploaded⟩] ++ h := by
        simp
      dsimp only
      split
      case isFalse => exact trivial
      case isTrue hversion =>
        split
        case isTrue hvalid =>
          refine ⟨⟨_, _, rfl, rfl, rfl, fun v hv => ?_⟩, fun r => ?_⟩
          · rw [hv] at hversion
            simp only [uploadedValid, Bool.and_eq_true, decide_eq_true_eq] at hvalid
            refine ⟨rfl, rfl, rfl, Nat.succ_pos _, hversion, hsize.1, hsize.2, ?_⟩
            simp [objectValid, markerOf, uploadOf, hv, hvalid, hsize.2]
          · match r with
            | false =>
              refine ⟨⟨⟨_, _, hsent _, rfl, rfl⟩, ?_⟩, fun _ => trivial⟩
              rintro ⟨m, e, hmem⟩
              rcases List.mem_cons.mp hmem with h | h
              · cases h
              · cases List.mem_singleton.mp h
            | true =>
              dsimp only
              split <;> exact trivial
        case isFalse =>
          refine ⟨⟨⟨_, _, by simp, rfl, rfl⟩, ?_⟩, fun _ => trivial⟩
          rintro ⟨m, e, hmem⟩
          cases List.mem_singleton.mp hmem

end Facts

/-! ## 5. Runs -/

/-- What a worker is given to do. -/
inductive Task where
  | save (job : RuntimeJob) (keys : Keys) (state : List UInt8) (expectedRevision : Nat)
    (updatedAt : Text)
  | restore (job : RuntimeJob) (keys : Keys)

/-- Its program. -/
def Task.program (S : CheckpointStore) : Task → StoreProgram
  | .save job keys state expectedRevision updatedAt =>
    Cloud.save S job keys state expectedRevision updatedAt
  | .restore job keys => Cloud.restore S job keys

theorem Task.obeys (S : CheckpointStore) (t : Task) :
    Obeys (Legal S) (fun _ _ => True) [] (t.program S) := by
  cases t with
  | save job keys state expectedRevision updatedAt =>
    exact save_obeys S job keys state expectedRevision updatedAt
  | restore job keys => exact restore_obeys S job keys

section Runs

variable {ι : Type}

/-- What is known of the stores and of the workers. -/
structure Kept (S : CheckpointStore) (s : Stores) (h : ι → List StoreEvent) : Prop where
  /-- What a worker has uploaded was issued, and to nobody else. -/
  sent_issued : ∀ i key v, Sent (h i) key v → (key, v) ∈ s.issued
  sent_inj : ∀ i j key v, Sent (h i) key v → Sent (h j) key v → i = j
  versioned : ∀ i (u : Upload) (r : Uploaded), (⟨.putObject u, some r⟩ : StoreEvent) ∈ h i →
    ∃ v, r.versionId = some v
  /-- What a worker has just uploaded is there. -/
  pending : ∀ i (u : Upload) (r : Uploaded) v, h i = [⟨.putObject u, some r⟩] →
    r.versionId = some v → s.objects u.key v
      = some ⟨u.body, v, r.serverSideEncryption, r.kmsKeyId, r.checksum⟩
  /-- What a marker names is there, and its worker has registered it. -/
  named : ∀ id m, s.registry id = some m → m.sessionId = id ∧ ∃ v o, m.versionId = some v
    ∧ s.objects m.s3Key v = some o ∧ Describes S m o ∧ (m.s3Key, v) ∈ s.issued
    ∧ ∀ i, Sent (h i) m.s3Key v → Registered (h i)

theorem kept_empty (S : CheckpointStore) : Kept S Stores.empty fun _ : ι => [] where
  sent_issued := by
    rintro i key v ⟨u, r, hmem, -⟩
    cases hmem
  sent_inj := by
    rintro i j key v ⟨u, r, hmem, -⟩
    cases hmem
  versioned := by
    intro i u r hmem
    cases hmem
  pending := by
    intro i u r v h
    cases h
  named := by
    intro id m h
    cases h

theorem sent_append {h : List StoreEvent} {e : StoreEvent} {key v : Text} :
    Sent (h ++ [e]) key v ↔ Sent h key v ∨ Sent [e] key v := by
  simp only [Sent, List.mem_append, or_and_right, exists_or]

theorem Registered.append {h : List StoreEvent} (e : StoreEvent) (hr : Registered h) :
    Registered (h ++ [e]) := by
  obtain ⟨m, expected, hmem⟩ := hr
  exact ⟨m, expected, List.mem_append_left _ hmem⟩

variable [DecidableEq ι] {S : CheckpointStore} {s : Stores} {h : ι → List StoreEvent} {i : ι}

/-- The histories, after the next event of a worker. -/
abbrev after (h : ι → List StoreEvent) (i : ι) (e : StoreEvent) : ι → List StoreEvent :=
  Function.update h i (h i ++ [e])

theorem sent_after {e : StoreEvent} {j : ι} {key v : Text} :
    Sent (after h i e j) key v ↔ Sent (h j) key v ∨ j = i ∧ Sent [e] key v := by
  by_cases hj : j = i
  · subst hj
    rw [after, Function.update_self, sent_append]
    simp
  · rw [after, Function.update_of_ne hj]
    simp [hj]

theorem registered_after {e : StoreEvent} {j : ι} (hr : Registered (h j)) :
    Registered (after h i e j) := by
  by_cases hj : j = i
  · subst hj
    rw [after, Function.update_self]
    exact hr.append e
  · rwa [after, Function.update_of_ne hj]

theorem mem_after {e e' : StoreEvent} {j : ι} : e' ∈ after h i e j ↔ e' ∈ h j ∨ j = i ∧ e' = e := by
  by_cases hj : j = i
  · subst hj
    rw [after, Function.update_self, List.mem_append, List.mem_singleton]
    simp
  · rw [after, Function.update_of_ne hj]
    simp [hj]

/-- A history of one event is an old one, or new altogether. -/
theorem single_after {e e' : StoreEvent} {j : ι} (hj : after h i e j = [e']) :
    h j = [e'] ∧ j ≠ i ∨ j = i ∧ h i = [] ∧ e = e' := by
  by_cases hji : j = i
  · subst hji
    rw [after, Function.update_self] at hj
    refine Or.inr ⟨rfl, ?_⟩
    cases hh : h j with
    | nil =>
      rw [hh] at hj
      exact ⟨rfl, List.singleton_inj.mp hj⟩
    | cons a as =>
      rw [hh] at hj
      have hlen := congrArg List.length hj
      simp at hlen
  · rw [after, Function.update_of_ne hji] at hj
    exact Or.inl ⟨hj, hji⟩

/-- A call without an effect, that is answered with no upload. -/
theorem Kept.quiet (k : Kept S s h) {e : StoreEvent}
    (he : ∀ (u : Upload) (r : Uploaded), e ≠ ⟨.putObject u, some r⟩) : Kept S s (after h i e) := by
  have hsent : ∀ {j key v}, Sent (after h i e j) key v ↔ Sent (h j) key v := by
    intro j key v
    rw [sent_after]
    refine or_iff_left ?_
    rintro ⟨-, u, r, hmem, -⟩
    exact he u r (List.mem_singleton.mp hmem).symm
  constructor
  · intro j key v hj
    exact k.sent_issued j key v (hsent.mp hj)
  · intro j j' key v hj hj'
    exact k.sent_inj j j' key v (hsent.mp hj) (hsent.mp hj')
  · intro j u r hmem
    rcases mem_after.mp hmem with hmem | ⟨-, hmem⟩
    · exact k.versioned j u r hmem
    · exact absurd hmem.symm (he u r)
  · intro j u r v hj hv
    rcases single_after hj with ⟨hj, -⟩ | ⟨-, -, heq⟩
    · exact k.pending j u r v hj hv
    · exact absurd heq (he u r)
  · intro id m hm
    obtain ⟨hid, v, o, hv, ho, hdescribes, hissued, hreg⟩ := k.named id m hm
    exact ⟨hid, v, o, hv, ho, hdescribes, hissued,
      fun j hj => registered_after (hreg j (hsent.mp hj))⟩

/-- A new version is there. -/
theorem Kept.upload (k : Kept S s h) {e : StoreEvent} {key v : Text} {o : Stored}
    (hnew : (key, v) ∉ s.issued)
    (he' : ∀ (u : Upload) (r : Uploaded), e = ⟨.putObject u, some r⟩ → u.key = key ∧
      r.versionId = some v ∧ o = ⟨u.body, v, r.serverSideEncryption, r.kmsKeyId, r.checksum⟩) :
    Kept S (s.upload key v o) (after h i e) := by
  have he : ∀ key' v', Sent [e] key' v' → key' = key ∧ v' = v := by
    rintro key' v' ⟨u, r, hmem, rfl, hv⟩
    obtain ⟨hkey, hversion, -⟩ := he' u r (List.mem_singleton.mp hmem).symm
    exact ⟨hkey, Option.some.inj (hv.symm.trans hversion)⟩
  have hother : ∀ {key' v'}, (key', v') ∈ s.issued →
      (s.upload key v o).objects key' v' = s.objects key' v' := by
    intro key' v' hissued
    refine if_neg fun hsame => hnew ?_
    rwa [← hsame.1, ← hsame.2]
  constructor
  · intro j key' v' hj
    rcases sent_after.mp hj with hj | ⟨-, hj⟩
    · exact List.mem_cons_of_mem _ (k.sent_issued j key' v' hj)
    · obtain ⟨rfl, rfl⟩ := he key' v' hj
      exact List.mem_cons_self
  · intro j j' key' v' hj hj'
    rcases sent_after.mp hj with hold | ⟨hi, hsent⟩
    · rcases sent_after.mp hj' with hold' | ⟨-, hsent'⟩
      · exact k.sent_inj j j' key' v' hold hold'
      · obtain ⟨rfl, rfl⟩ := he key' v' hsent'
        exact absurd (k.sent_issued j _ _ hold) hnew
    · obtain ⟨rfl, rfl⟩ := he key' v' hsent
      rcases sent_after.mp hj' with hold' | ⟨hi', -⟩
      · exact absurd (k.sent_issued j' _ _ hold') hnew
      · rw [hi, hi']
  · intro j u r hmem
    rcases mem_after.mp hmem with hmem | ⟨-, hmem⟩
    · exact k.versioned j u r hmem
    · exact ⟨v, (he' u r hmem.symm).2.1⟩
  · intro j u r v' hj hv
    rcases single_after hj with ⟨hj, -⟩ | ⟨-, -, heq⟩
    · have hsent : Sent (h j) u.key v' := ⟨u, r, by rw [hj]; exact List.mem_singleton.mpr rfl, rfl, hv⟩
      rw [hother (k.sent_issued j _ _ hsent)]
      exact k.pending j u r v' hj hv
    · obtain ⟨hkey, hversion, ho⟩ := he' u r heq
      obtain rfl : v' = v := Option.some.inj (hv.symm.trans hversion)
      rw [← ho]
      exact if_pos ⟨hkey, rfl⟩
  · intro id m hm
    obtain ⟨hid, v', o', hv, ho, hdescribes, hissued, hreg⟩ := k.named id m hm
    refine ⟨hid, v', o', hv, (hother hissued).trans ho, hdescribes,
      List.mem_cons_of_mem _ hissued, fun j hj => ?_⟩
    rcases sent_after.mp hj with hj | ⟨-, hj⟩
    · exact registered_after (hreg j hj)
    · obtain ⟨rfl, rfl⟩ := he _ _ hj
      exact absurd hissued hnew

/-- The worker registers what it has just uploaded. -/
theorem Kept.register (k : Kept S s h) {m : Marker} {expected : Nat}
    (hlegal : Legal S (h i) (.putItem m expected)) :
    Kept S (s.register m) (after h i ⟨.putItem m expected, true⟩) := by
  obtain ⟨u, r, hh, hkey, hversion, hdescribes⟩ := hlegal
  have hquiet := k.quiet (i := i) (e := ⟨.putItem m expected, true⟩) (fun _ _ h => by cases h)
  refine { hquiet with named := ?_ }
  intro id m' hm'
  by_cases hid : id = m.sessionId
  · obtain rfl : m = m' := Option.some.inj ((if_pos hid).symm.trans hm')
    obtain ⟨v, hv⟩ := k.versioned i u r (by rw [hh]; exact List.mem_singleton.mpr rfl)
    have hsent : Sent (h i) u.key v :=
      ⟨u, r, by rw [hh]; exact List.mem_singleton.mpr rfl, rfl, hv⟩
    refine ⟨hid.symm, v, _, hversion.trans hv, ?_, hdescribes v hv, ?_, ?_⟩
    · rw [hkey]
      exact k.pending i u r v hh hv
    · rw [hkey]
      exact k.sent_issued i _ _ hsent
    · intro j hj
      rw [hkey] at hj
      rcases sent_after.mp hj with hj | ⟨rfl, -⟩
      · -- Nobody else has uploaded it.
        obtain rfl := k.sent_inj j i _ _ hj hsent
        exact ⟨m, expected, mem_after.mpr (Or.inr ⟨rfl, rfl⟩)⟩
      · exact ⟨m, expected, mem_after.mpr (Or.inr ⟨rfl, rfl⟩)⟩
  · exact hquiet.named id m' ((if_neg hid).symm.trans hm')

/-- The worker deletes what it has uploaded and not registered. -/
theorem Kept.delete (k : Kept S s h) {key v : Text} {r : Bool}
    (hlegal : Legal S (h i) (.deleteObject key (some v))) :
    Kept S (s.delete key v) (after h i ⟨.deleteObject key (some v), r⟩) := by
  obtain ⟨⟨u, r', hmem, hkey, hv⟩, hnot⟩ := hlegal
  have hsent : Sent (h i) key v := ⟨u, r', hmem, hkey, hv⟩
  have hquiet := k.quiet (i := i) (e := ⟨.deleteObject key (some v), r⟩) (fun _ _ h => by cases h)
  have hother : ∀ {key' v'}, ¬ (key' = key ∧ v' = v) →
      (s.delete key v).objects key' v' = s.objects key' v' := fun h => if_neg h
  refine { hquiet with pending := ?_, named := ?_ }
  · intro j u' r'' v' hafter hv'
    rcases single_after hafter with ⟨hj, hji⟩ | ⟨-, -, heq⟩
    · rw [hother]
      · exact k.pending j u' r'' v' hj hv'
      · rintro ⟨hkey', rfl⟩
        have hsent' : Sent (h j) key v' :=
          ⟨u', r'', by rw [hj]; exact List.mem_singleton.mpr rfl, hkey', hv'⟩
        exact hji (k.sent_inj j i _ _ hsent' hsent)
    · cases heq
  · intro id m hm
    obtain ⟨hid, v', o, hversion, ho, hdescribes, hissued, hreg⟩ := k.named id m hm
    refine ⟨hid, v', o, hversion, ?_, hdescribes, hissued, fun j hj => ?_⟩
    · rw [hother]
      · exact ho
      · -- A version that is named has been registered by the worker that uploaded it.
        rintro ⟨hkey', rfl⟩
        exact hnot (hreg i (by rwa [hkey']))
    · rcases sent_after.mp hj with hj | ⟨-, u', r'', hmem', -⟩
      · exact registered_after (hreg j hj)
      · cases List.mem_singleton.mp hmem'

/-- **Every registration that is answered with an error has failed.** -/
def Answered (P P' : Pool ι Stores StoreCall StoreAnswer Rejection Outcome) : Prop :=
  ∀ i m expected, P'.history i = P.history i ++ [⟨.putItem m expected, false⟩] → P'.shared = P.shared

/-- One call, which the program allows and the stores answer. -/
theorem Kept.step (k : Kept S s h) {e : StoreCall} {r : StoreAnswer e} {s' : Stores}
    (hlegal : Legal S (h i) e) (henv : s.Env e r s')
    (hanswered : ∀ m expected, (⟨e, r⟩ : StoreEvent) = ⟨.putItem m expected, false⟩ → s' = s) :
    Kept S s' (after h i ⟨e, r⟩) := by
  cases e with
  | getItem id =>
    obtain ⟨rfl, -⟩ := henv
    exact k.quiet fun _ _ h => by cases h
  | getObject key v =>
    obtain ⟨rfl, -⟩ := henv
    exact k.quiet fun _ _ h => by cases h
  | putObject u =>
    rcases henv with ⟨rfl, rfl⟩ | ⟨v, o, hnew, hbody, hversion, rfl, hr⟩
    · exact k.quiet fun _ _ h => by cases h
    · refine k.upload hnew ?_
      rintro u' r' heq
      rcases hr with rfl | rfl
      · cases heq
      · cases heq
        refine ⟨rfl, rfl, ?_⟩
        rw [← hbody, ← hversion]
  | putItem m expected =>
    rcases henv with ⟨rfl, rfl⟩ | ⟨hregistrable, rfl⟩
    · exact k.quiet fun _ _ h => by cases h
    · cases r with
      | true => exact k.register hlegal
      | false =>
        rw [hanswered m expected rfl]
        exact k.quiet fun _ _ h => by cases h
  | deleteObject key v =>
    rcases henv with ⟨rfl, rfl⟩ | ⟨t, rfl, rfl⟩
    · exact k.quiet fun _ _ h => by cases h
    · exact k.delete hlegal

/-- The stores and the workers of a run. -/
theorem kept_run (tasks : ι → Task)
    {P : Pool ι Stores StoreCall StoreAnswer Rejection Outcome}
    (hrun : Pool.Run Stores.Env Answered (Pool.start Stores.empty fun i => (tasks i).program S) P) :
    Kept S P.shared P.history := by
  have hwhole : Kept S P.shared P.history ∧ ∀ i, (P.program i).Obeys (Legal S) (fun _ _ => True)
      (P.history i) := by
    refine Pool.invariant hrun (fun i => (tasks i).obeys S) (kept_empty S) ?_
    intro P i e k r s hk hp hlegal henv hok
    exact hk.step hlegal henv fun m expected heq =>
      hok i m expected ((Function.update_self ..).trans (by rw [heq]))
  exact hwhole.1

/-- A job, and its keys, that the marker was made for. -/
structure MadeFor (job : RuntimeJob) (keys : Keys) (m : Marker) : Prop where
  sessionId : m.sessionId = job.sessionId
  generation : m.generation = job.generation
  capabilityDigest : m.capabilityDigest = job.capabilityDigest
  oauthKeyDigest : m.oauthKeyDigest = keys.oauthKeyDigest
  runHandleKeyDigest : m.runHandleKeyDigest = keys.runHandleKeyDigest

theorem Describes.restores {m : Marker} {o : Stored} (hd : Describes S m o) {job : RuntimeJob}
    {keys : Keys} (hm : MadeFor job keys m) : Reaches (restore S job keys)
      [⟨.getItem job.sessionId, some (some m)⟩, ⟨.getObject m.s3Key m.versionId, some o⟩]
      (.done (.ok (.restored m.revision o.body))) := by
  have hversion : m.versionId = some o.versionId := by
    have h := hd.object
    simp only [objectValid, Bool.and_eq_true, decide_eq_true_eq] at h
    exact h.1.1.1.1.2
  have hdigest : isDigest m.stateDigest = true := by
    have h := hd.object
    simp only [objectValid, Bool.and_eq_true, decide_eq_true_eq] at h
    rw [← h.2]
    exact S.digestBytes_form o.body
  have hmarker : markerValid job keys m = true := by
    simp [markerValid, hd.schema, hd.profile, hd.key, hd.revision, hd.bytes_pos, hd.bytes_le,
      versionValid, hversion, hd.version, hdigest, hm.sessionId, hm.generation, hm.capabilityDigest,
      hm.oauthKeyDigest, hm.runHandleKeyDigest]
  refine .step ?_
  dsimp only
  rw [if_pos hmarker]
  refine .step ?_
  dsimp only
  rw [if_pos hd.object]
  exact .refl _

/-- **The version that a marker names can be restored**, in every state of a run of any number of
workers, as long as every registration that is answered with an error has failed. -/
theorem committed_loadable (tasks : ι → Task)
    {P : Pool ι Stores StoreCall StoreAnswer Rejection Outcome}
    (hrun : Pool.Run Stores.Env Answered (Pool.start Stores.empty fun i => (tasks i).program S) P)
    {id : Text} {m : Marker} (hm : P.shared.registry id = some m) :
    ∃ v o, m.versionId = some v ∧ P.shared.objects m.s3Key v = some o
      ∧ ∀ job keys, MadeFor job keys m → Reaches (restore S job keys)
        [⟨.getItem job.sessionId, some (some m)⟩, ⟨.getObject m.s3Key m.versionId, some o⟩]
        (.done (.ok (.restored m.revision o.body))) := by
  obtain ⟨-, v, o, hv, ho, hdescribes, -⟩ := (kept_run tasks hrun).named id m hm
  exact ⟨v, o, hv, ho, fun job keys hmade => hdescribes.restores hmade⟩

end Runs

/-! ## 6. A save whose registration is answered, and one whose answer is lost -/

section Lost

variable (S : CheckpointStore) (job : RuntimeJob) (keys : Keys) (state : List UInt8)
  (v updatedAt : Text)

/-- The answer to an upload. -/
def answerOf : Uploaded :=
  ⟨some v, js "aws:kms", S.kmsKeyArn, checksumOf (S.digestBytes state)⟩

/-- The version that it speaks of. -/
def storedOf : Stored :=
  ⟨state, v, js "aws:kms", S.kmsKeyArn, checksumOf (S.digestBytes state)⟩

/-- The first marker of a session. -/
def firstMarker : Marker := markerOf S job keys state 0 (some v) updatedAt

/-- The upload, and the registration. -/
def savedEvents (registered : Bool) : List StoreEvent :=
  [⟨.putObject (uploadOf S job state), some (answerOf S state v)⟩,
    ⟨.putItem (firstMarker S job keys state v updatedAt) 0, registered⟩]

/-- The compensation. -/
def discarded : StoreEvent := ⟨.deleteObject (uploadOf S job state).key (some v), true⟩

variable {S job keys state v updatedAt}

/-- The stores, after the registration. -/
def savedStores (S : CheckpointStore) (job : RuntimeJob) (keys : Keys) (state : List UInt8)
    (v updatedAt : Text) : Stores :=
  (Stores.empty.upload (uploadOf S job state).key v (storedOf S state v)).register
    (firstMarker S job keys state v updatedAt)

theorem answer_valid (S : CheckpointStore) (state : List UInt8) (hv : isVersion v = true) :
    versionValid (answerOf S state v).versionId = true
      ∧ uploadedValid S state (answerOf S state v) = true :=
  ⟨hv, by simp [uploadedValid, answerOf]⟩

/-- The save is told that the registration has succeeded, and makes its receipt. -/
theorem save_registered (hsize : 1 ≤ state.length ∧ state.length ≤ MAX_CHECKPOINT_BYTES)
    (hv : isVersion v = true) : Reaches (save S job keys state 0 updatedAt)
      (savedEvents S job keys state v updatedAt true)
      (match digest S.H (.object [("versionId", .str v)]) with
        | .ok d => .done (.ok (.saved 1 (S.digestBytes state) d))
        | .error e => .done (.error e)) := by
  obtain ⟨hversion, hvalid⟩ := answer_valid S state hv
  rw [save, if_pos hsize]
  refine .step ?_
  dsimp only
  rw [if_pos hversion, if_pos hvalid]
  exact .step (.refl _)

/-- The save is told that the registration has failed, and deletes what it has uploaded. -/
theorem save_lost (hsize : 1 ≤ state.length ∧ state.length ≤ MAX_CHECKPOINT_BYTES)
    (hv : isVersion v = true) : Reaches (save S job keys state 0 updatedAt)
      (savedEvents S job keys state v updatedAt false ++ [discarded S job state v])
      (.done (.error (.retryable "checkpoint_registry_cas_failed"))) := by
  obtain ⟨hversion, hvalid⟩ := answer_valid S state hv
  rw [save, if_pos hsize]
  refine .step ?_
  dsimp only
  rw [if_pos hversion, if_pos hvalid]
  exact .step (.step (.refl _))

/-- Registered or not, the answer is the environment's. -/
theorem moves_saved (registered : Bool) {s : Stores} {h : List StoreEvent}
    (hm : Pool.Moves Stores.Env (savedStores S job keys state v updatedAt) h s) :
    Pool.Moves Stores.Env Stores.empty
      (savedEvents S job keys state v updatedAt registered ++ h) s := by
  have hupload : Stores.empty.Env (.putObject (uploadOf S job state)) (some (answerOf S state v))
      (Stores.empty.upload (uploadOf S job state).key v (storedOf S state v)) :=
    Or.inr ⟨v, storedOf S state v, List.not_mem_nil, rfl, rfl, rfl, Or.inr rfl⟩
  exact .cons hupload (.cons (Or.inr ⟨rfl, rfl⟩) hm)

end Lost

/-- A job. -/
def sampleJob : RuntimeJob where
  jobId := js "job_aaaaaaaaaaaaaaaaaaaaaa"
  auditId := List.replicate 64 0x61
  runtimeEvidenceDigest := js "sha256:" ++ List.replicate 64 0x61
  sessionId := js "rs_aaaaaaaaaaaaaaaaaaaaaaaaaaaaaaaaaaaaaaaaaaa"
  generation := js "g1"
  capabilityDigest := js "sha256:" ++ List.replicate 64 0x61
  operation := js "ANALYZE"
  request := .none

/-- A store, which digests bytes of ASCII. -/
def sampleStore : CheckpointStore where
  H := Host.sample
  kmsKeyArn := js "arn:aws:kms:eu-west-1:000000000000:key/1"
  digestBytes bytes := js "sha256:" ++ Platform.node.sha256 (bytes.map UInt8.toUInt16)
  digestBytes_form _ := Control.isDigest_sha256 Platform.node _

/-- The keys of a checkpoint. -/
def sampleKeys : Keys := ⟨js "sha256:" ++ List.replicate 64 0x62, js "sha256:" ++ List.replicate 64 0x63⟩

/-- The time of the registration. -/
def sampleTime : Text := js "2026-07-14T10:00:00.000Z"

/-- One worker saves the first state of a session. -/
def sampleTask : Task := .save sampleJob sampleKeys [0x53] 0 sampleTime

/-- The save, told how its registration ended. -/
def sampleEvents (registered : Bool) : List StoreEvent :=
  savedEvents sampleStore sampleJob sampleKeys [0x53] (js "v1") sampleTime registered

/-- What it leaves. -/
def sampleStores : Stores :=
  savedStores sampleStore sampleJob sampleKeys [0x53] (js "v1") sampleTime

/-- The workers of a run, of which there is one. -/
abbrev SamplePool := Pool Unit Stores StoreCall StoreAnswer Rejection Outcome

/-- It has not begun. -/
def samplePool : SamplePool := Pool.start Stores.empty fun _ => sampleTask.program sampleStore

/-- What it is answered leads to a state of the stores. -/
theorem run_sample (Ok : SamplePool → SamplePool → Prop) {h : List StoreEvent} {q : StoreProgram}
    {s : Stores} (hreaches : Reaches (sampleTask.program sampleStore) h q)
    (hmoves : Pool.Moves Stores.Env Stores.empty h s)
    (hok : ∀ (P : SamplePool) e r s q, (⟨e, r⟩ : StoreEvent) ∈ h → Ok P (P.after () e r s q)) :
    ∃ P, Pool.Run Stores.Env Ok samplePool P ∧ P.shared = s := by
  have hstart : Pool.Run Stores.Env Ok samplePool samplePool := .refl
  obtain ⟨P, hrun, hs, -, -⟩ := hstart.alone (i := ()) hreaches hmoves hok
  exact ⟨P, hrun, hs⟩

theorem sampleTask_size : 1 ≤ ([0x53] : List UInt8).length
    ∧ ([0x53] : List UInt8).length ≤ MAX_CHECKPOINT_BYTES := by
  decide

/-- The marker that is registered in it. -/
def sampleMarker : Marker :=
  firstMarker sampleStore sampleJob sampleKeys [0x53] (js "v1") sampleTime

theorem sampleMarker_registered :
    sampleStores.registry sampleJob.sessionId = some sampleMarker :=
  Stores.registry_register _ sampleMarker

/-- A worker that is alone saves, and the state can be restored. -/
theorem committed_loadable_saved : ∃ P : SamplePool,
    P.shared.registry sampleJob.sessionId = some sampleMarker ∧
      ∃ v o, sampleMarker.versionId = some v ∧ P.shared.objects sampleMarker.s3Key v = some o
        ∧ ∀ job keys, MadeFor job keys sampleMarker → Reaches (restore sampleStore job keys)
          [⟨.getItem job.sessionId, some (some sampleMarker)⟩,
            ⟨.getObject sampleMarker.s3Key sampleMarker.versionId, some o⟩]
          (.done (.ok (.restored sampleMarker.revision o.body))) := by
  have hreaches : Reaches (sampleTask.program sampleStore) (sampleEvents true) _ :=
    save_registered sampleTask_size (by decide)
  have hmoves : Pool.Moves Stores.Env Stores.empty (sampleEvents true) sampleStores :=
    moves_saved true (.nil _)
  have hok : ∀ (P : SamplePool) e r s q, (⟨e, r⟩ : StoreEvent) ∈ sampleEvents true →
      Answered P (P.after () e r s q) := by
    intro P e r s q hmem i m expected hhistory
    have hself : (P.after () e r s q).history () = P.history () ++ [⟨e, r⟩] := by
      simp [Pool.after]
    have hevent : (⟨e, r⟩ : StoreEvent) = ⟨.putItem m expected, false⟩ :=
      List.singleton_inj.mp (List.append_cancel_left (hself.symm.trans hhistory))
    rw [hevent] at hmem
    rcases List.mem_cons.mp hmem with h | h
    · cases h
    · cases List.mem_singleton.mp h
  obtain ⟨P, hrun, hs⟩ := run_sample Answered hreaches hmoves hok
  have hm : P.shared.registry sampleJob.sessionId = some sampleMarker := by
    rw [hs]
    exact sampleMarker_registered
  exact ⟨P, hm, committed_loadable (fun _ => sampleTask) hrun hm⟩

/-- **A registration whose answer is lost**: the marker names a version that the save has deleted. -/
theorem committed_deleted : ∃ P : SamplePool,
    Pool.Run Stores.Env (fun _ _ => True) samplePool P
      ∧ P.shared.registry sampleJob.sessionId = some sampleMarker
      ∧ ∃ v, sampleMarker.versionId = some v ∧ P.shared.objects sampleMarker.s3Key v = none := by
  have hreaches : Reaches (sampleTask.program sampleStore)
      (sampleEvents false ++ [discarded sampleStore sampleJob [0x53] (js "v1")]) _ :=
    save_lost sampleTask_size (by decide)
  have hmoves : Pool.Moves Stores.Env Stores.empty
      (sampleEvents false ++ [discarded sampleStore sampleJob [0x53] (js "v1")])
      (sampleStores.delete (uploadOf sampleStore sampleJob [0x53]).key (js "v1")) :=
    moves_saved false (.cons (Or.inr ⟨_, rfl, rfl⟩) (.nil _))
  obtain ⟨P, hrun, hs⟩ := run_sample (fun _ _ => True) hreaches hmoves fun _ _ _ _ _ _ => trivial
  refine ⟨P, hrun, ?_, js "v1", rfl, ?_⟩
  · rw [hs]
    exact sampleMarker_registered
  · rw [hs]
    exact Stores.objects_delete ..

end Cloud
