/-
# What holds of a session over any sequence of events

Every transition is at most two changes: an expiry, and what the event itself does.  `Change`
lists the changes there are, with the guards under which the code makes them, and
`changes_of_transition` is the only place where the branches of the machine are gone through.
What a session keeps over a run is then read off `Change`, one case for each.

The invariant that carries the deadlines is small: while a session is live, the time it was last
updated is the time of its last activity.  The validator keeps the last activity before the idle
deadline, and the idle deadline not after the hard one, so an active session has reached neither.
-/
import Archon.Runtime.Session
import Mathlib.Logic.Relation

namespace Runtime

open Ecma Remediation Relation

variable {P : Platform}

/-! ## 1. Reading the object -/

namespace RuntimeSession

variable (s : RuntimeSession)

theorem exactKeys_toValue : s.toValue.exactKeys RUNTIME_SESSION_KEYS = true :=
  Value.exactKeys_object (List.Perm.refl RUNTIME_SESSION_KEYS)

@[simp] theorem get_schemaVersion :
    s.toValue.get (js "schemaVersion") = .lit "archon.runtime-session/v1" := by
  simp [toValue, List.lookup]

@[simp] theorem get_sessionId : s.toValue.get (js "sessionId") = .str s.sessionId := by
  simp [toValue, List.lookup]

@[simp] theorem get_requestedProfile :
    s.toValue.get (js "requestedProfile") = nameValue s.requestedProfile := by
  simp [toValue, List.lookup]

@[simp] theorem get_binding : s.toValue.get (js "binding") = s.binding.toValue := by
  simp [toValue, List.lookup]

@[simp] theorem get_state : s.toValue.get (js "state") = nameValue s.state := by
  simp [toValue, List.lookup]

@[simp] theorem get_createdAt : s.toValue.get (js "createdAt") = .str s.createdAt := by
  simp [toValue, List.lookup]

@[simp] theorem get_updatedAt : s.toValue.get (js "updatedAt") = .str s.updatedAt := by
  simp [toValue, List.lookup]

@[simp] theorem get_lastActivityAt : s.toValue.get (js "lastActivityAt") = .str s.lastActivityAt := by
  simp [toValue, List.lookup]

@[simp] theorem get_idleExpiresAt : s.toValue.get (js "idleExpiresAt") = .str s.idleExpiresAt := by
  simp [toValue, List.lookup]

@[simp] theorem get_hardExpiresAt : s.toValue.get (js "hardExpiresAt") = .str s.hardExpiresAt := by
  simp [toValue, List.lookup]

@[simp] theorem get_revision : s.toValue.get (js "revision") = .num (.ofNat s.revision) := by
  simp [toValue, List.lookup]

@[simp] theorem get_endReason : s.toValue.get (js "endReason") = nullableName s.endReason := by
  simp [toValue, List.lookup]

@[simp] theorem get_failureCode : s.toValue.get (js "failureCode") = nullableName s.failureCode := by
  simp [toValue, List.lookup]

end RuntimeSession

/-! ## 2. What the validator asks for -/

/-- The times a session's five instants denote. -/
structure Times (P : Platform) (s : RuntimeSession) where
  created : Int
  updated : Int
  lastActivity : Int
  idle : Int
  hard : Int
  created_eq : instantOf P s.createdAt = some created
  updated_eq : instantOf P s.updatedAt = some updated
  lastActivity_eq : instantOf P s.lastActivityAt = some lastActivity
  idle_eq : instantOf P s.idleExpiresAt = some idle
  hard_eq : instantOf P s.hardExpiresAt = some hard

/-- What a session must satisfy beyond its type. -/
structure RuntimeSession.Valid (P : Platform) (s : RuntimeSession) : Prop where
  sessionId : isSessionId s.sessionId = true
  binding : s.binding.Valid P
  request : requestUnbound s.requestedProfile s.binding = false
  createdAt : s.createdAt = s.binding.boundAt
  hardExpiresAt : s.hardExpiresAt = s.binding.leaseExpiresAt
  chronology : ∃ t : Times P s,
    chronologyInvalid t.created t.updated t.lastActivity t.idle t.hard = false
  revision : s.revision ≤ maxSafeInteger
  terminal : checkTerminal s.state s.endReason s.failureCode = .ok ()

theorem instant_eq_ok {v : Value} {label : String} {x : Stamp P} :
    instant P v label = .ok x ↔ v = .str x.text :=
  readStamp_eq_ok

theorem instant_str {t : Text} {ms : Int} (h : instantOf P t = some ms) (label : String) :
    instant P (.str t) label = .ok ⟨t, ms, h⟩ :=
  instant_eq_ok.mpr rfl

theorem sessionBinding_eq_ok {v : Value} {b : RuntimeBinding} :
    sessionBinding P v = .ok b ↔ validateRuntimeBinding P v = .ok b := by
  unfold sessionBinding
  split <;> rename_i h <;> simp [h]

/-- The session is what stands in the value. -/
structure RuntimeSession.ReadFrom (P : Platform) (v : Value) (s : RuntimeSession) : Prop where
  sessionId : v.get (js "sessionId") = .str s.sessionId
  requestedProfile : v.get (js "requestedProfile") = nameValue s.requestedProfile
  binding : validateRuntimeBinding P (v.get (js "binding")) = .ok s.binding
  state : v.get (js "state") = nameValue s.state
  createdAt : v.get (js "createdAt") = .str s.createdAt
  updatedAt : v.get (js "updatedAt") = .str s.updatedAt
  lastActivityAt : v.get (js "lastActivityAt") = .str s.lastActivityAt
  idleExpiresAt : v.get (js "idleExpiresAt") = .str s.idleExpiresAt
  hardExpiresAt : v.get (js "hardExpiresAt") = .str s.hardExpiresAt
  revision : (v.get (js "revision")).counter = some s.revision
  endReason : readNullable (v.get (js "endReason")) = some s.endReason
  failureCode : readNullable (v.get (js "failureCode")) = some s.failureCode

/-- What the validator returns is valid, and is what it read. -/
theorem of_validateRuntimeSession {v : Value} {s : RuntimeSession}
    (h : validateRuntimeSession P v = .ok s) : s.Valid P ∧ s.ReadFrom P v := by
  unfold validateRuntimeSession at h
  obtain ⟨-, -, h⟩ := bind_eq_ok.mp h
  obtain ⟨-, -, h⟩ := bind_eq_ok.mp h
  obtain ⟨-, -, h⟩ := bind_eq_ok.mp h
  obtain ⟨id, hid, h⟩ := bind_eq_ok.mp h
  obtain ⟨requested, hrequested, h⟩ := bind_eq_ok.mp h
  obtain ⟨binding, hbinding, h⟩ := bind_eq_ok.mp h
  obtain ⟨_, hrequest, h⟩ := bind_eq_ok.mp h
  obtain ⟨state, hstate, h⟩ := bind_eq_ok.mp h
  obtain ⟨created, hcreated, h⟩ := bind_eq_ok.mp h
  obtain ⟨updated, hupdated, h⟩ := bind_eq_ok.mp h
  obtain ⟨lastActivity, hlastActivity, h⟩ := bind_eq_ok.mp h
  obtain ⟨idle, hidle, h⟩ := bind_eq_ok.mp h
  obtain ⟨hard, hhard, h⟩ := bind_eq_ok.mp h
  obtain ⟨_, hchron, h⟩ := bind_eq_ok.mp h
  obtain ⟨revision, hrevision, h⟩ := bind_eq_ok.mp h
  obtain ⟨endReason, hendReason, h⟩ := bind_eq_ok.mp h
  obtain ⟨failureCode, hfailureCode, h⟩ := bind_eq_ok.mp h
  obtain ⟨_, hterminal, h⟩ := bind_eq_ok.mp h
  obtain ⟨hid, hid'⟩ := readText_iff.mp (orThrow_eq_ok.mp hid)
  have hbinding := sessionBinding_eq_ok.mp hbinding
  have hrevision := orThrow_eq_ok.mp hrevision
  rw [throwIf_eq_ok] at hrequest
  rw [throwIf_eq_ok, Bool.or_eq_false_iff, Bool.or_eq_false_iff, decide_eq_false_iff_not,
    decide_eq_false_iff_not, not_ne_iff, not_ne_iff] at hchron
  obtain rfl := Except.ok.inj h
  constructor
  · exact {
      sessionId := hid'
      binding := (of_validateRuntimeBinding hbinding).1
      request := hrequest
      createdAt := hchron.1.1
      hardExpiresAt := hchron.1.2
      chronology := ⟨⟨created.ms, updated.ms, lastActivity.ms, idle.ms, hard.ms, created.exact,
        updated.exact, lastActivity.exact, idle.exact, hard.exact⟩, hchron.2⟩
      revision := Value.counter_le hrevision
      terminal := hterminal }
  · exact {
      sessionId := hid
      requestedProfile := readNamed_iff.mp (orThrow_eq_ok.mp hrequested)
      binding := hbinding
      state := readNamed_iff.mp (orThrow_eq_ok.mp hstate)
      createdAt := instant_eq_ok.mp hcreated
      updatedAt := instant_eq_ok.mp hupdated
      lastActivityAt := instant_eq_ok.mp hlastActivity
      idleExpiresAt := instant_eq_ok.mp hidle
      hardExpiresAt := instant_eq_ok.mp hhard
      revision := hrevision
      endReason := orThrow_eq_ok.mp hendReason
      failureCode := orThrow_eq_ok.mp hfailureCode }

/-- A valid session passes, and comes back as it was. -/
theorem validateRuntimeSession_toValue {s : RuntimeSession} (h : s.Valid P) :
    validateRuntimeSession P s.toValue = .ok s := by
  obtain ⟨t, hchron⟩ := h.chronology
  have hkeys := s.exactKeys_toValue
  have hid : parseRuntimeSessionId (.str s.sessionId) = .ok s.sessionId := by
    simp [parseRuntimeSessionId, readText_str h.sessionId]
  have hbinding : sessionBinding P s.binding.toValue = .ok s.binding :=
    sessionBinding_eq_ok.mpr (validateRuntimeBinding_toValue h.binding)
  have horder : (decide (s.createdAt ≠ s.binding.boundAt)
      || decide (s.hardExpiresAt ≠ s.binding.leaseExpiresAt)
      || chronologyInvalid t.created t.updated t.lastActivity t.idle t.hard) = false := by
    simp [h.createdAt, h.hardExpiresAt, hchron]
  simp only [validateRuntimeSession, hkeys, Value.isRecord_of_exactKeys hkeys,
    RuntimeSession.get_schemaVersion, RuntimeSession.get_sessionId,
    RuntimeSession.get_requestedProfile, RuntimeSession.get_binding, RuntimeSession.get_state,
    RuntimeSession.get_createdAt, RuntimeSession.get_updatedAt, RuntimeSession.get_lastActivityAt,
    RuntimeSession.get_idleExpiresAt, RuntimeSession.get_hardExpiresAt,
    RuntimeSession.get_revision, RuntimeSession.get_endReason, RuntimeSession.get_failureCode,
    hid, hbinding, h.request, instant_str t.created_eq, instant_str t.updated_eq,
    instant_str t.lastActivity_eq, instant_str t.idle_eq, instant_str t.hard_eq, horder,
    h.terminal, parseRequestedProfile, readNamed_nameValue, readNullable_nullableName,
    Value.counter_num_ofNat h.revision, Value.isText_lit, decide_true, Bool.not_true, orThrow_some,
    throwIf_false, ok_bind, pure_eq_ok]

theorem RuntimeSession.ReadFrom.eq {s t : RuntimeSession} (h : t.ReadFrom P s.toValue)
    (hrev : s.revision ≤ maxSafeInteger) : t = s := by
  obtain ⟨hid, hreq, hbinding, hstate, hcreated, hupdated, hactivity, hidle, hhard, hrevision, hend,
    hfail⟩ := h
  obtain ⟨-, hbinding⟩ := validateRuntimeBinding_toValue_iff.mp
    (by simpa only [RuntimeSession.get_binding] using hbinding)
  simp only [RuntimeSession.get_sessionId, RuntimeSession.get_requestedProfile,
    RuntimeSession.get_state, RuntimeSession.get_createdAt, RuntimeSession.get_updatedAt,
    RuntimeSession.get_lastActivityAt, RuntimeSession.get_idleExpiresAt,
    RuntimeSession.get_hardExpiresAt, RuntimeSession.get_revision, RuntimeSession.get_endReason,
    RuntimeSession.get_failureCode, Value.str.injEq, nameValue_inj, readNullable_nullableName,
    Option.some.injEq, Value.counter_num_ofNat hrev]
    at hid hreq hstate hcreated hupdated hactivity hidle hhard hrevision hend hfail
  cases s
  cases t
  simp_all

/-- An object of a session passes exactly if the session is valid. -/
theorem validateRuntimeSession_toValue_iff {s t : RuntimeSession}
    (hrev : s.revision ≤ maxSafeInteger) :
    validateRuntimeSession P s.toValue = .ok t ↔ s.Valid P ∧ t = s := by
  constructor
  · intro h
    obtain ⟨hvalid, hread⟩ := of_validateRuntimeSession h
    obtain rfl := hread.eq hrev
    exact ⟨hvalid, rfl⟩
  · rintro ⟨hs, rfl⟩
    exact validateRuntimeSession_toValue hs

/-! ## 3. A new session -/

/-- What a session is created from. -/
def sessionInput (sessionId : Text) (requested : RuntimeRequest) (binding : RuntimeBinding) : Value :=
  .object [("sessionId", .str sessionId), ("requestedProfile", nameValue requested),
    ("binding", binding.toValue)]

@[simp] theorem get_sessionId_sessionInput (id : Text) (r : RuntimeRequest) (b : RuntimeBinding) :
    (sessionInput id r b).get (js "sessionId") = .str id := by
  simp [sessionInput, List.lookup]

@[simp] theorem get_requestedProfile_sessionInput (id : Text) (r : RuntimeRequest)
    (b : RuntimeBinding) : (sessionInput id r b).get (js "requestedProfile") = nameValue r := by
  simp [sessionInput, List.lookup]

@[simp] theorem get_binding_sessionInput (id : Text) (r : RuntimeRequest) (b : RuntimeBinding) :
    (sessionInput id r b).get (js "binding") = b.toValue := by
  simp [sessionInput, List.lookup]

/-- The session of a binding that runs from `created` to `hard`. -/
def freshSession (P : Platform) (sessionId : Text) (requested : RuntimeRequest)
    (binding : RuntimeBinding) (created hard : Int) : RuntimeSession where
  sessionId := sessionId
  requestedProfile := requested
  binding := binding
  state := .STARTING
  createdAt := binding.boundAt
  updatedAt := binding.boundAt
  lastActivityAt := binding.boundAt
  idleExpiresAt := idleDeadline P created hard
  hardExpiresAt := binding.leaseExpiresAt
  revision := 0
  endReason := none
  failureCode := none

/-- A session is created from what would make a valid session, and only from that. -/
theorem createRuntimeSession_sessionInput {id : Text} {r : RuntimeRequest} {b : RuntimeBinding}
    {s : RuntimeSession} : createRuntimeSession P (sessionInput id r b) = .ok s ↔
      s.Valid P ∧ ∃ created hard, instantOf P b.boundAt = some created ∧
        instantOf P b.leaseExpiresAt = some hard ∧ s = freshSession P id r b created hard := by
  have hprop : ((sessionInput id r b).prop "binding" : Js RuntimeError Value) = .ok b.toValue := by
    rw [Value.prop_of_not_nullish rfl, get_binding_sessionInput]
  unfold createRuntimeSession
  rw [hprop, ok_bind, get_sessionId_sessionInput, get_requestedProfile_sessionInput]
  constructor
  · intro h
    obtain ⟨binding, hbinding, h'⟩ := bind_eq_ok.mp h
    obtain rfl := (validateRuntimeBinding_toValue_iff.mp hbinding).2
    obtain ⟨created, hcreated, h⟩ := bind_eq_ok.mp h'
    obtain ⟨hard, hhard, h⟩ := bind_eq_ok.mp h
    obtain ⟨sessionId, hid, h⟩ := bind_eq_ok.mp h
    obtain ⟨requested, hrequested, h⟩ := bind_eq_ok.mp h
    have hid : id = sessionId := Value.str.inj (readText_iff.mp (orThrow_eq_ok.mp hid)).1
    have hrequested : r = requested := by simpa [parseRequestedProfile] using hrequested
    obtain ⟨hvalid, rfl⟩ := (validateRuntimeSession_toValue_iff (Nat.zero_le _)).mp h
    refine ⟨hvalid, created.ms, hard.ms, ?_, ?_, by rw [hid, hrequested]; rfl⟩
    · rw [Value.str.inj (instant_eq_ok.mp hcreated), created.exact]
    · rw [Value.str.inj (instant_eq_ok.mp hhard), hard.exact]
  · rintro ⟨hvalid, created, hard, hcreated, hhard, rfl⟩
    have hid : parseRuntimeSessionId (.str id) = .ok id :=
      orThrow_eq_ok.mpr (readText_str hvalid.sessionId)
    have hbinding : validateRuntimeBinding P b.toValue = .ok b :=
      validateRuntimeBinding_toValue hvalid.binding
    have hrequested : parseRequestedProfile (nameValue r) = .ok r := by
      simp [parseRequestedProfile]
    rw [hbinding, ok_bind, instant_str hcreated, ok_bind, instant_str hhard, ok_bind, hid, ok_bind,
      hrequested, ok_bind]
    exact validateRuntimeSession_toValue hvalid

/-! ## 4. One change -/

theorem evolve_eq_ok {session changed t : RuntimeSession} :
    evolve P session changed = .ok t ↔ session.revision < maxSafeInteger ∧
      t = { changed with revision := session.revision + 1 } ∧ t.Valid P := by
  unfold evolve nextRevision
  constructor
  · intro h
    obtain ⟨revision, hrevision, h⟩ := bind_eq_ok.mp h
    obtain ⟨_, hlt, hrevision⟩ := bind_eq_ok.mp hrevision
    obtain rfl := Except.ok.inj hrevision
    have hlt : session.revision < maxSafeInteger := by simpa using hlt
    obtain ⟨hvalid, rfl⟩ := (validateRuntimeSession_toValue_iff (by exact hlt)).mp h
    exact ⟨hlt, rfl, hvalid⟩
  · rintro ⟨hlt, rfl, hvalid⟩
    have hge : decide (maxSafeInteger ≤ session.revision) = false := by simpa using hlt
    rw [hge]
    exact validateRuntimeSession_toValue hvalid

/-- What one evolution of a session is, at the time `now`. -/
inductive Change (P : Platform) (now : Stamp P) (s : RuntimeSession) : RuntimeSession → Prop
  | expired (reason : RuntimeSessionEndReason) (hlive : s.state.live = true) :
      Change P now s { s with
        state := .EXPIRED, updatedAt := now.text, endReason := some reason
        revision := s.revision + 1 }
  | renewed (idleExpiresAt : Text) (hlive : s.state.live = true) :
      Change P now s { s with
        state := .ACTIVE, updatedAt := now.text, lastActivityAt := now.text, idleExpiresAt
        revision := s.revision + 1 }
  | stopping (reason : RuntimeSessionEndReason) (hstate : s.state ≠ .STOPPED) :
      Change P now s { s with
        state := .STOPPING, updatedAt := now.text, endReason := some reason
        revision := s.revision + 1 }
  | stopped (hstate : s.state = .STOPPING) :
      Change P now s { s with
        state := .STOPPED, updatedAt := now.text, revision := s.revision + 1 }
  | failed (code : RuntimeSessionFailureCode) (hstate : s.state ≠ .STOPPED) :
      Change P now s { s with
        state := .FAILED, updatedAt := now.text, endReason := some .CONTROL_FAILURE
        failureCode := some code, revision := s.revision + 1 }

/-- A change that is not before the last one, to a valid session. -/
def Evolves (P : Platform) (s t : RuntimeSession) : Prop :=
  ∃ (now : Stamp P) (updated : Int), instantOf P s.updatedAt = some updated ∧ updated ≤ now.ms ∧
    Change P now s t ∧ t.Valid P

/-! ## 5. A transition is at most two changes -/

/-- Nothing, or one change to a valid session. -/
def AtMostOne (P : Platform) (now : Stamp P) (s t : RuntimeSession) : Prop :=
  t = s ∨ Change P now s t ∧ t.Valid P

theorem AtMostOne.none {now : Stamp P} {s t : RuntimeSession}
    (h : (pure s : Js RuntimeError RuntimeSession) = .ok t) : AtMostOne P now s t :=
  Or.inl (Except.ok.inj h).symm

theorem AtMostOne.evolve {now : Stamp P} {s changed t : RuntimeSession}
    (h : Runtime.evolve P s changed = .ok t)
    (hchange : Change P now s { changed with revision := s.revision + 1 }) :
    AtMostOne P now s t := by
  obtain ⟨-, rfl, hvalid⟩ := evolve_eq_ok.mp h
  exact Or.inr ⟨hchange, hvalid⟩

theorem change_of_expireIfDue {s t : RuntimeSession} {now : Stamp P}
    (h : expireIfDue P s now = .ok t) : AtMostOne P now s t := by
  unfold expireIfDue at h
  split at h
  · exact .none h
  · rename_i hlive
    obtain ⟨hard, -, h⟩ := bind_eq_ok.mp h
    obtain ⟨idle, -, h⟩ := bind_eq_ok.mp h
    have hlive : s.state.live = true := by simpa using hlive
    split at h
    · exact .evolve h (.expired _ hlive)
    · split at h
      · exact .evolve h (.expired _ hlive)
      · exact .none h

theorem change_of_onRuntimeReady {s t : RuntimeSession} {now : Stamp P} {binding : Value}
    (h : onRuntimeReady P s now binding = .ok t) : AtMostOne P now s t := by
  unfold onRuntimeReady at h
  split at h
  · rename_i hstate
    obtain ⟨-, -, h⟩ := bind_eq_ok.mp h
    obtain ⟨hard, -, h⟩ := bind_eq_ok.mp h
    exact .evolve h (.renewed _ (by simp [RuntimeSessionState.live, hstate]))
  · split at h
    · obtain ⟨-, -, h⟩ := bind_eq_ok.mp h
      exact .none h
    · exact .none h

theorem change_of_onActivity {s t : RuntimeSession} {now : Stamp P} {binding : Value}
    (h : onActivity P s now binding = .ok t) : AtMostOne P now s t := by
  unfold onActivity at h
  split at h
  · rename_i hstate
    obtain ⟨-, -, h⟩ := bind_eq_ok.mp h
    obtain ⟨hard, -, h⟩ := bind_eq_ok.mp h
    refine .evolve h ?_
    have hlive : s.state.live = true := by simp [RuntimeSessionState.live, hstate]
    have hrenewed : Change P now s _ := .renewed (idleDeadline P now.ms hard.ms) hlive
    rwa [← hstate] at hrenewed
  · split at h
    · cases h
    · exact .none h

theorem change_of_onStopRequested {s t : RuntimeSession} {now : Stamp P}
    (h : onStopRequested P s now = .ok t) : AtMostOne P now s t := by
  unfold onStopRequested at h
  split at h
  · exact .none h
  · rename_i hstate
    refine .evolve h (.stopping _ ?_)
    intro hstopped
    simp [hstopped] at hstate

theorem change_of_onStopCompleted {s t : RuntimeSession} {now : Stamp P}
    (h : onStopCompleted P s now = .ok t) : AtMostOne P now s t := by
  unfold onStopCompleted at h
  split at h
  · exact .none h
  · split at h
    · cases h
    · rename_i hstate
      exact .evolve h (.stopped (not_ne_iff.mp hstate))

theorem change_of_onFail {s t : RuntimeSession} {now : Stamp P} {failureCode : Value}
    (h : onFail P s now failureCode = .ok t) : AtMostOne P now s t := by
  unfold onFail at h
  obtain ⟨code, -, h⟩ := bind_eq_ok.mp h
  split at h
  · exact .none h
  · rename_i hstate
    refine .evolve h (.failed _ ?_)
    intro hstopped
    simp [hstopped] at hstate

/-- The event of a transition, once a passed deadline has been seen to. -/
theorem transition_parts {s t : RuntimeSession} {event : Value} (hs : s.Valid P)
    (h : transitionRuntimeSession P s.toValue event = .ok t) :
    ∃ (now : Stamp P) (updated : Int) (m : RuntimeSession),
      instantOf P s.updatedAt = some updated ∧ updated ≤ now.ms ∧
      AtMostOne P now s m ∧ AtMostOne P now m t := by
  unfold transitionRuntimeSession at h
  rw [validateRuntimeSession_toValue hs, ok_bind] at h
  obtain ⟨-, -, h⟩ := bind_eq_ok.mp h
  obtain ⟨now, -, h⟩ := bind_eq_ok.mp h
  obtain ⟨updated, hupdated, h⟩ := bind_eq_ok.mp h
  obtain ⟨_, hle, h⟩ := bind_eq_ok.mp h
  obtain ⟨m, hm, h⟩ := bind_eq_ok.mp h
  rw [throwIf_eq_ok, decide_eq_false_iff_not, not_lt] at hle
  have htext : s.updatedAt = updated.text := Value.str.inj (instant_eq_ok.mp hupdated)
  refine ⟨now, updated.ms, m, by rw [htext, updated.exact], hle, change_of_expireIfDue hm, ?_⟩
  simp only at h
  split at h
  · exact .none h
  split at h
  · exact change_of_onRuntimeReady h
  split at h
  · exact change_of_onActivity h
  split at h
  · exact change_of_onStopRequested h
  split at h
  · exact change_of_onStopCompleted h
  split at h
  · exact change_of_onFail h
  · cases h

/-- What a change leaves as it was, and what it moves on. -/
theorem Change.updatedAt {now : Stamp P} {s t : RuntimeSession} (h : Change P now s t) :
    t.updatedAt = now.text := by
  cases h <;> rfl

theorem changes_of_transition {s t : RuntimeSession} {event : Value} (hs : s.Valid P)
    (h : transitionRuntimeSession P s.toValue event = .ok t) : ReflTransGen (Evolves P) s t := by
  obtain ⟨now, updated, m, hupdated, hle, hfirst, hsecond⟩ := transition_parts hs h
  -- An expiry has moved the clock of the session to the event, and the event is not before itself.
  have hclock : ∃ u, instantOf P m.updatedAt = some u ∧ u ≤ now.ms := by
    rcases hfirst with rfl | ⟨hchange, -⟩
    · exact ⟨updated, hupdated, hle⟩
    · exact ⟨now.ms, by rw [hchange.updatedAt, now.exact], le_rfl⟩
  obtain ⟨u, hu, hle'⟩ := hclock
  have htail : ReflTransGen (Evolves P) m t := by
    rcases hsecond with rfl | ⟨hchange, hvalid⟩
    · exact ReflTransGen.refl
    · exact ReflTransGen.single ⟨now, u, hu, hle', hchange, hvalid⟩
  rcases hfirst with rfl | ⟨hchange, hvalid⟩
  · exact htail
  · exact ReflTransGen.head ⟨now, updated, hupdated, hle, hchange, hvalid⟩ htail

/-! ## 6. What changes keep -/

/-- How far a session has come.  Expiry, failure and stopping are one phase: a session can go
back and forth between the last two. -/
def RuntimeSessionState.phase : RuntimeSessionState → Nat
  | .STARTING => 0
  | .ACTIVE => 1
  | .EXPIRED => 2
  | .FAILED => 2
  | .STOPPING => 2
  | .STOPPED => 3

/-- What never changes, and what never decreases. -/
structure Extends (s t : RuntimeSession) : Prop where
  sessionId : t.sessionId = s.sessionId
  binding : t.binding = s.binding
  createdAt : t.createdAt = s.createdAt
  hardExpiresAt : t.hardExpiresAt = s.hardExpiresAt
  revision : s.revision ≤ t.revision
  phase : s.state.phase ≤ t.state.phase

theorem Extends.refl (s : RuntimeSession) : Extends s s := ⟨rfl, rfl, rfl, rfl, le_rfl, le_rfl⟩

theorem Extends.trans {s t u : RuntimeSession} (h : Extends s t) (h' : Extends t u) :
    Extends s u where
  sessionId := h'.sessionId.trans h.sessionId
  binding := h'.binding.trans h.binding
  createdAt := h'.createdAt.trans h.createdAt
  hardExpiresAt := h'.hardExpiresAt.trans h.hardExpiresAt
  revision := h.revision.trans h'.revision
  phase := h.phase.trans h'.phase

theorem phase_le_of_live {state : RuntimeSessionState} (h : state.live = true) :
    state.phase ≤ 1 := by
  cases state with
  | STARTING => decide
  | ACTIVE => decide
  | _ => cases h

theorem phase_le_of_ne_stopped {state : RuntimeSessionState} (h : state ≠ .STOPPED) :
    state.phase ≤ 2 := by
  cases state with
  | STOPPED => exact absurd rfl h
  | _ => decide

theorem Change.extends {now : Stamp P} {s t : RuntimeSession} (h : Change P now s t) :
    Extends s t := by
  cases h with
  | expired reason hlive =>
    exact ⟨rfl, rfl, rfl, rfl, Nat.le_succ _,
      (phase_le_of_live hlive).trans (show 1 ≤ 2 by decide)⟩
  | renewed idleExpiresAt hlive =>
    exact ⟨rfl, rfl, rfl, rfl, Nat.le_succ _, phase_le_of_live hlive⟩
  | stopping reason hstate =>
    exact ⟨rfl, rfl, rfl, rfl, Nat.le_succ _, phase_le_of_ne_stopped hstate⟩
  | stopped hstate =>
    exact ⟨rfl, rfl, rfl, rfl, Nat.le_succ _, by rw [hstate]; exact (show 2 ≤ 3 by decide)⟩
  | failed code hstate =>
    exact ⟨rfl, rfl, rfl, rfl, Nat.le_succ _, phase_le_of_ne_stopped hstate⟩

theorem extends_of_changes {s t : RuntimeSession} (h : ReflTransGen (Evolves P) s t) :
    Extends s t := by
  induction h with
  | refl => exact Extends.refl s
  | tail _ hstep ih =>
    obtain ⟨now, -, -, -, hchange, -⟩ := hstep
    exact ih.trans hchange.extends

/-- The clock of the session does not run backwards. -/
def ClockLe (P : Platform) (s t : RuntimeSession) : Prop :=
  ∃ a b, instantOf P s.updatedAt = some a ∧ instantOf P t.updatedAt = some b ∧ a ≤ b

theorem clockLe_of_changes {s t : RuntimeSession} (hs : s.Valid P)
    (h : ReflTransGen (Evolves P) s t) : ClockLe P s t := by
  induction h with
  | refl =>
    obtain ⟨times, -⟩ := hs.chronology
    exact ⟨_, _, times.updated_eq, times.updated_eq, le_rfl⟩
  | tail _ hstep ih =>
    obtain ⟨a, b, ha, hb, hab⟩ := ih
    obtain ⟨now, u, hu, hle, hchange, -⟩ := hstep
    obtain rfl : b = u := Option.some.inj (hb.symm.trans hu)
    exact ⟨a, now.ms, ha, by rw [hchange.updatedAt, now.exact], hab.trans hle⟩

/-- A valid session that, while it is live, was last updated by an activity. -/
structure Sound (P : Platform) (s : RuntimeSession) : Prop where
  valid : s.Valid P
  live : s.state.live = true → s.lastActivityAt = s.updatedAt

theorem Change.live {now : Stamp P} {s t : RuntimeSession} (h : Change P now s t)
    (hlive : t.state.live = true) : t.lastActivityAt = t.updatedAt := by
  cases h with
  | renewed idleExpiresAt _ => rfl
  | _ => cases hlive

theorem Sound.changes {s t : RuntimeSession} (hs : Sound P s) (h : ReflTransGen (Evolves P) s t) :
    Sound P t := by
  induction h with
  | refl => exact hs
  | tail _ hstep _ =>
    obtain ⟨now, -, -, -, hchange, hvalid⟩ := hstep
    exact ⟨hvalid, hchange.live⟩

theorem Change.not_stopped {now : Stamp P} {s t : RuntimeSession} (h : Change P now s t) :
    s.state ≠ .STOPPED := by
  intro hstopped
  cases h with
  | expired reason hlive => simp [hstopped, RuntimeSessionState.live] at hlive
  | renewed idleExpiresAt hlive => simp [hstopped, RuntimeSessionState.live] at hlive
  | stopping reason hstate => exact hstate hstopped
  | stopped hstate => simp [hstopped] at hstate
  | failed code hstate => exact hstate hstopped

theorem eq_of_stopped {s t : RuntimeSession} (hs : s.state = .STOPPED)
    (h : ReflTransGen (Evolves P) s t) : t = s := by
  rcases h.cases_head with rfl | ⟨m, ⟨now, -, -, -, hchange, -⟩, -⟩
  · rfl
  · exact absurd hs hchange.not_stopped

/-! ## 7. Runs -/

section

variable (P)

/-- The session after an event: what the transition returned, or the session as it was if the
transition threw. -/
def afterEvent (s : RuntimeSession) (event : Value) : RuntimeSession :=
  match transitionRuntimeSession P s.toValue event with
  | .ok t => t
  | .error _ => s

/-- The session after a sequence of events. -/
def afterEvents (s : RuntimeSession) (events : List Value) : RuntimeSession :=
  events.foldl (afterEvent P) s

end

theorem afterEvents_append (s : RuntimeSession) (es es' : List Value) :
    afterEvents P s (es ++ es') = afterEvents P (afterEvents P s es) es' :=
  List.foldl_append ..

theorem changes_of_afterEvent {s : RuntimeSession} (hs : Sound P s) (event : Value) :
    ReflTransGen (Evolves P) s (afterEvent P s event) := by
  unfold afterEvent
  split
  · rename_i t h
    exact changes_of_transition hs.valid h
  · exact ReflTransGen.refl

theorem changes_of_afterEvents {s : RuntimeSession} (hs : Sound P s) (events : List Value) :
    ReflTransGen (Evolves P) s (afterEvents P s events) := by
  induction events generalizing s with
  | nil => exact ReflTransGen.refl
  | cons event events ih =>
    have hfirst := changes_of_afterEvent hs event
    exact hfirst.trans (ih (hs.changes hfirst))

theorem Sound.afterEvents {s : RuntimeSession} (hs : Sound P s) (events : List Value) :
    Sound P (afterEvents P s events) :=
  hs.changes (changes_of_afterEvents hs events)

theorem Sound.created {input : Value} {s : RuntimeSession}
    (h : createRuntimeSession P input = .ok s) : Sound P s := by
  unfold createRuntimeSession at h
  obtain ⟨_, -, h⟩ := bind_eq_ok.mp h
  obtain ⟨binding, -, h⟩ := bind_eq_ok.mp h
  obtain ⟨created, -, h⟩ := bind_eq_ok.mp h
  obtain ⟨hard, -, h⟩ := bind_eq_ok.mp h
  obtain ⟨sessionId, -, h⟩ := bind_eq_ok.mp h
  obtain ⟨requestedProfile, -, h⟩ := bind_eq_ok.mp h
  obtain ⟨hvalid, rfl⟩ := (validateRuntimeSession_toValue_iff (Nat.zero_le _)).mp h
  exact ⟨hvalid, fun _ => rfl⟩

/-- The deadlines of a session at one moment. -/
structure WithinLease (P : Platform) (s : RuntimeSession) (t : Times P s) : Prop where
  idle_le_hard : t.idle ≤ t.hard
  two_hours : t.hard - t.created ≤ RUNTIME_HARD_LEASE_MS
  active : s.state = .ACTIVE → t.updated < t.idle ∧ t.updated < t.hard

theorem Sound.withinLease {s : RuntimeSession} (hs : Sound P s) : ∃ t, WithinLease P s t := by
  obtain ⟨t, horder⟩ := hs.valid.chronology
  simp only [chronologyInvalid, Bool.or_eq_false_iff, decide_eq_false_iff_not] at horder
  obtain ⟨⟨⟨⟨⟨⟨_, _⟩, _⟩, hactivity⟩, hidle⟩, _⟩, hhard⟩ := horder
  refine ⟨t, by omega, by omega, fun hactive => ?_⟩
  have hlast : t.lastActivity = t.updated := by
    have := t.lastActivity_eq
    rw [hs.live (by simp [RuntimeSessionState.live, hactive]), t.updated_eq] at this
    exact (Option.some.inj this).symm
  omega

/-- What a session keeps, whatever happens to it. -/
structure KeepsLease (P : Platform) (s : RuntimeSession) : Prop where
  sessionId : ∀ es, (afterEvents P s es).sessionId = s.sessionId
  binding : ∀ es, (afterEvents P s es).binding = s.binding
  createdAt : ∀ es, (afterEvents P s es).createdAt = s.createdAt
  hardExpiresAt : ∀ es, (afterEvents P s es).hardExpiresAt = s.hardExpiresAt
  revision : ∀ es es', (afterEvents P s es).revision ≤ (afterEvents P s (es ++ es')).revision
  updatedAt : ∀ es es', ClockLe P (afterEvents P s es) (afterEvents P s (es ++ es'))
  deadlines : ∀ es, ∃ t, WithinLease P (afterEvents P s es) t
  activeOnce : ∀ es es' es'', (afterEvents P s es).state = .ACTIVE →
    (afterEvents P s (es ++ es')).state ≠ .ACTIVE →
    (afterEvents P s (es ++ es' ++ es'')).state ≠ .ACTIVE
  stopped : ∀ es es', (afterEvents P s es).state = .STOPPED →
    afterEvents P s (es ++ es') = afterEvents P s es
  accepted : ∀ es event t, transitionRuntimeSession P (afterEvents P s es).toValue event = .ok t →
    validateRuntimeSession P t.toValue = .ok t

/-- **A session keeps its lease.**  Over any sequence of events from its creation, its identity and
its hard deadline stay, its revision and its clock do not go back, it is active only before both
deadlines, it is active in one stretch, it stays stopped, and every transition that is accepted
gives a session that the validator accepts. -/
theorem keepsLease (input : Value) (s : RuntimeSession)
    (h : createRuntimeSession P input = .ok s) : KeepsLease P s := by
  have hs := Sound.created h
  have hrun := fun es => changes_of_afterEvents hs es
  have hsound := fun es => hs.afterEvents es
  have hlater : ∀ es es', ReflTransGen (Evolves P) (afterEvents P s es)
      (afterEvents P s (es ++ es')) := by
    intro es es'
    rw [afterEvents_append]
    exact changes_of_afterEvents (hsound es) es'
  constructor
  · intro es
    exact (extends_of_changes (hrun es)).sessionId
  · intro es
    exact (extends_of_changes (hrun es)).binding
  · intro es
    exact (extends_of_changes (hrun es)).createdAt
  · intro es
    exact (extends_of_changes (hrun es)).hardExpiresAt
  · intro es es'
    exact (extends_of_changes (hlater es es')).revision
  · intro es es'
    exact clockLe_of_changes (hsound es).valid (hlater es es')
  · intro es
    exact (hsound es).withinLease
  · intro es es' es'' hactive hleft hagain
    have hup := (extends_of_changes (hlater es es')).phase
    have hdown := (extends_of_changes (hlater (es ++ es') es'')).phase
    rw [hactive] at hup
    rw [hagain] at hdown
    -- Between the two active sessions lies one whose phase is that of an active one.
    cases hstate : (afterEvents P s (es ++ es')).state with
    | ACTIVE => exact hleft hstate
    | STARTING => rw [hstate] at hup; exact absurd hup (by decide)
    | _ => rw [hstate] at hdown; exact absurd hdown (by decide)
  · intro es es' hstopped
    exact eq_of_stopped hstopped (hlater es es')
  · intro es event t ht
    have hchanges := changes_of_transition (hsound es).valid ht
    exact validateRuntimeSession_toValue ((hsound es).changes hchanges).valid

/-- A binding of two hours, and the session of it. -/
def sampleBinding : RuntimeBinding where
  profileId := .core
  generation := js "g1"
  capabilityDigest := js "sha256:0123456789abcdef0123456789abcdef0123456789abcdef0123456789abcdef"
  resolution := .auto
  boundAt := js "2026-07-14T10:00:00.000Z"
  leaseExpiresAt := js "2026-07-14T12:00:00.000Z"

def sampleId : Text := js "rs_AAAAAAAAAAAAAAAAAAAAAAAAAAAAAAAAAAAAAAAAAAA"

def sampleSession : RuntimeSession :=
  freshSession Platform.node sampleId .auto sampleBinding 1784023200000 1784030400000

theorem sampleBinding_valid : sampleBinding.Valid Platform.node where
  generation := by decide
  capabilityDigest := by decide
  lease := ⟨⟨js "2026-07-14T10:00:00.000Z", 1784023200000, by decide⟩,
    ⟨js "2026-07-14T12:00:00.000Z", 1784030400000, by decide⟩, rfl, rfl, by decide, by decide⟩

def sampleTimes : Times Platform.node sampleSession where
  created := 1784023200000
  updated := 1784023200000
  lastActivity := 1784023200000
  idle := 1784025000000
  hard := 1784030400000
  created_eq := by decide
  updated_eq := by decide
  lastActivity_eq := by decide
  idle_eq := by decide
  hard_eq := by decide

theorem sampleSession_valid : sampleSession.Valid Platform.node where
  sessionId := by decide
  binding := sampleBinding_valid
  request := by decide
  createdAt := rfl
  hardExpiresAt := rfl
  chronology := ⟨sampleTimes, by decide⟩
  revision := by decide
  terminal := rfl

theorem createRuntimeSession_sample :
    createRuntimeSession Platform.node (sessionInput sampleId .auto sampleBinding)
      = .ok sampleSession :=
  createRuntimeSession_sessionInput.mpr
    ⟨sampleSession_valid, 1784023200000, 1784030400000, by decide, by decide, rfl⟩

theorem keepsLease_sample : KeepsLease Platform.node sampleSession :=
  keepsLease (sessionInput sampleId .auto sampleBinding) sampleSession createRuntimeSession_sample

end Runtime
