/-
# Where the deployed session machine and the specified one agree

The deployed machine works on objects and the specified one on sessions, so the relation between
them is that the object is the session's (`RuntimeSession.toValue`).  Validation, an evolution of
the session, the expiry of a deadline and the public view are the same on both sides, and so is
each operation once the deadlines have been seen to, but for four of them.  `DivergesAt` lists
these four with the states they need, and `agree_iff` says that the list is exact: at any other
step the machines give the same answer, and at one of these they never do.

A run of the two machines side by side therefore stays together up to the first such step
(`deployed_agrees`).
-/
import Archon.Runtime.Deployed
import Archon.Runtime.Lifecycle

namespace Runtime

open Ecma Remediation

variable {P : Platform}

/-! ## 1. Answers -/

/-- Both accept, with the object of the one being the session of the other, or both refuse. -/
def Agree (deployed : Js String Value) (specified : Js RuntimeError RuntimeSession) : Prop :=
  deployed.toOption = specified.toOption.map RuntimeSession.toValue

@[simp] theorem agree_ok_ok {v : Value} {s : RuntimeSession} :
    Agree (.ok v) (.ok s) ↔ v = s.toValue := by
  simp [Agree, Except.toOption]

@[simp] theorem agree_error_error {e : Exn String} {e' : Exn RuntimeError} :
    Agree (.error e) (.error e') := rfl

@[simp] theorem agree_ok_error {v : Value} {e : Exn RuntimeError} :
    ¬ Agree (.ok v) (.error e) := by
  simp [Agree, Except.toOption]

@[simp] theorem agree_error_ok {e : Exn String} {s : RuntimeSession} :
    ¬ Agree (.error e) (.ok s) := by
  simp [Agree, Except.toOption]

/-- Answers agree when they accept the same sessions. -/
theorem agree_of_iff {x : Js String Value} {y : Js RuntimeError RuntimeSession}
    (h : ∀ v, x = .ok v ↔ ∃ s, y = .ok s ∧ v = s.toValue) : Agree x y := by
  cases y with
  | ok s =>
    obtain rfl := (h s.toValue).mpr ⟨s, rfl, rfl⟩
    simp
  | error e =>
    cases x with
    | ok v =>
      obtain ⟨s, hs, -⟩ := (h v).mp rfl
      cases hs
    | error e' => simp

/-! ## 2. Validation -/

theorem nameValue_isText {α : Type} [Named α] (a b : α) :
    (nameValue a).isText (js (Named.name b)) = true ↔ a = b := by
  rw [Value.isText_iff]
  exact nameValue_inj

theorem stateIn_toValue (s : RuntimeSession) (states : List RuntimeSessionState) :
    Deployed.stateIn s.toValue states = decide (s.state ∈ states) := by
  rw [Deployed.stateIn, Bool.eq_iff_iff, List.any_eq_true, decide_eq_true_iff,
    RuntimeSession.get_state]
  constructor
  · rintro ⟨state, hmem, h⟩
    obtain rfl := (nameValue_isText _ _).mp h
    exact hmem
  · intro hmem
    exact ⟨s.state, hmem, (nameValue_isText _ _).mpr rfl⟩

theorem deployedInstant_eq_ok {v : Value} {label : String} {x : Stamp P} :
    Deployed.instant P v label = .ok x ↔ v = .str x.text :=
  readStamp_eq_ok

theorem deployedInstant_str {t : Text} {ms : Int} (h : instantOf P t = some ms) (label : String) :
    Deployed.instant P (.str t) label = .ok ⟨t, ms, h⟩ :=
  deployedInstant_eq_ok.mpr rfl

@[simp] theorem test_str (form : Text → Bool) (t : Text) :
    Deployed.test form (.str t) = .ok (form t) := by
  simp [Deployed.test]

theorem validateBinding_toValue {b : RuntimeBinding} {v : Value} :
    Deployed.validateBinding P b.toValue = .ok v ↔ b.Valid P ∧ v = b.toValue := by
  have hkeys : b.toValue.exactKeys Deployed.BINDING_MEMBERS = true :=
    Value.exactKeys_object (List.Perm.refl Deployed.BINDING_MEMBERS)
  unfold Deployed.validateBinding
  simp only [hkeys, RuntimeBinding.get_schemaVersion, RuntimeBinding.get_profileId,
    RuntimeBinding.get_generation, RuntimeBinding.get_capabilityDigest,
    RuntimeBinding.get_resolution, RuntimeBinding.get_boundAt, RuntimeBinding.get_leaseExpiresAt,
    test_str, readNamed_nameValue, Value.isText_lit, decide_true, Bool.not_true, Option.isNone_some,
    Bool.or_false, throwIf_false, ok_bind]
  constructor
  · intro h
    obtain ⟨_, hgen, h⟩ := bind_eq_ok.mp h
    obtain ⟨_, hdig, h⟩ := bind_eq_ok.mp h
    obtain ⟨bound, hbound, h⟩ := bind_eq_ok.mp h
    obtain ⟨expires, hexpires, h⟩ := bind_eq_ok.mp h
    obtain ⟨_, hlease, h⟩ := bind_eq_ok.mp h
    rw [throwIf_eq_ok, Bool.not_eq_false'] at hgen hdig
    rw [throwIf_eq_ok, Bool.or_eq_false_iff, decide_eq_false_iff_not, decide_eq_false_iff_not,
      not_le, not_lt] at hlease
    exact ⟨⟨hgen, hdig, bound, expires, (Value.str.inj (deployedInstant_eq_ok.mp hbound)).symm,
      (Value.str.inj (deployedInstant_eq_ok.mp hexpires)).symm, hlease.1, hlease.2⟩,
      (Except.ok.inj h).symm⟩
  · rintro ⟨⟨hgen, hdig, bound, expires, hbound, hexpires, hlt, hle⟩, rfl⟩
    have hboundAt : Deployed.instant P (.str b.boundAt) "boundAt" = .ok bound :=
      deployedInstant_eq_ok.mpr (by rw [hbound])
    have hexpiresAt : Deployed.instant P (.str b.leaseExpiresAt) "leaseExpiresAt" = .ok expires :=
      deployedInstant_eq_ok.mpr (by rw [hexpires])
    have hlease : (decide (expires.ms ≤ bound.ms)
        || decide (RUNTIME_HARD_LEASE_MS < expires.ms - bound.ms)) = false := by
      simp [hlt, hle]
    simp [hgen, hdig, hboundAt, hexpiresAt, hlease]

theorem requestUnbound_toValue (r : RuntimeRequest) (b : RuntimeBinding) :
    Deployed.requestUnbound (nameValue r) b.toValue = requestUnbound r b := by
  obtain ⟨profile, generation, digest, resolution, bound, expires⟩ := b
  rw [Deployed.requestUnbound, RuntimeBinding.get_resolution, RuntimeBinding.get_profileId]
  rcases r with _ | (_ | _) <;> cases profile <;> cases resolution <;>
    simp [requestUnbound, nameValue, Named.name, Value.lit]

theorem strictEq_nullableName {α : Type} [Named α] (a : Option α) :
    (nullableName a).strictEq .null = decide (a = none) := by
  cases a <;> rfl

theorem nullableName_isText {α : Type} [Named α] [DecidableEq α] (a : Option α) (b : α) :
    (nullableName a).isText (js (Named.name b)) = decide (a = some b) := by
  cases a with
  | none => simp [nullableName, Value.isText, Value.strictEq]
  | some a =>
    rw [Bool.eq_iff_iff, decide_eq_true_iff, Option.some.injEq]
    exact nameValue_isText a b

theorem checkTerminal_toValue (s : RuntimeSession) :
    Deployed.checkTerminal s.toValue = .ok ()
      ↔ checkTerminal s.state s.endReason s.failureCode = .ok () := by
  have hreason := nullableName_isText s.endReason
  simp only [Deployed.checkTerminal, stateIn_toValue, RuntimeSession.get_endReason,
    RuntimeSession.get_failureCode, readNullable_nullableName, strictEq_nullableName,
    show js "CONTROL_FAILURE" = js (Named.name RuntimeSessionEndReason.CONTROL_FAILURE) from rfl,
    show js "IDLE_TIMEOUT" = js (Named.name RuntimeSessionEndReason.IDLE_TIMEOUT) from rfl,
    show js "HARD_TIMEOUT" = js (Named.name RuntimeSessionEndReason.HARD_TIMEOUT) from rfl,
    hreason, Option.isNone_some, Bool.or_self, throwIf_false, ok_bind]
  rcases s.state with _ | _ <;> rcases s.endReason with _ | (_ | _) <;>
    rcases s.failureCode with _ | _ <;> simp [checkTerminal, RuntimeSessionState.live, throwIf]

theorem validateSessionId_str {t : Text} {v : Value} :
    Deployed.validateSessionId (.str t) = .ok v ↔ isSessionId t = true ∧ v = .str t := by
  unfold Deployed.validateSessionId
  by_cases h : isSessionId t = true
  · simp [readText_str h, h, eq_comm]
  · have hnone : readText isSessionId (.str t) = none := if_neg h
    simp [hnone, h]

theorem spreadWith_binding (s : RuntimeSession) :
    Deployed.spreadWith s.toValue [("binding", s.binding.toValue)] = s.toValue := by
  simp [Deployed.spreadWith, RuntimeSession.toValue, Value.object, Deployed.setMember]

/-- The two validators accept the same sessions. -/
theorem validateSession_toValue {s : RuntimeSession} {v : Value} (hrev : s.revision ≤ maxSafeInteger) :
    Deployed.validateSession P s.toValue = .ok v ↔ s.Valid P ∧ v = s.toValue := by
  have hkeys := s.exactKeys_toValue
  unfold Deployed.validateSession
  simp only [hkeys, RuntimeSession.get_schemaVersion, RuntimeSession.get_sessionId,
    RuntimeSession.get_requestedProfile, RuntimeSession.get_binding, RuntimeSession.get_state,
    RuntimeSession.get_createdAt, RuntimeSession.get_updatedAt, RuntimeSession.get_lastActivityAt,
    RuntimeSession.get_idleExpiresAt, RuntimeSession.get_hardExpiresAt,
    RuntimeSession.get_revision, Value.counter_num_ofNat hrev, readNamed_nameValue,
    Value.isText_lit, decide_true, Bool.not_true, Option.isNone_some, Bool.or_false, throwIf_false,
    ok_bind]
  constructor
  · intro h
    obtain ⟨_, hid, h⟩ := bind_eq_ok.mp h
    obtain ⟨binding, hvalidated, h'⟩ := bind_eq_ok.mp h
    obtain ⟨hbinding, rfl⟩ := validateBinding_toValue.mp hvalidated
    obtain ⟨_, hrequest, h⟩ := bind_eq_ok.mp h'
    obtain ⟨created, hcreated, h⟩ := bind_eq_ok.mp h
    obtain ⟨updated, hupdated, h⟩ := bind_eq_ok.mp h
    obtain ⟨activity, hactivity, h⟩ := bind_eq_ok.mp h
    obtain ⟨idle, hidle, h⟩ := bind_eq_ok.mp h
    obtain ⟨hard, hhard, h⟩ := bind_eq_ok.mp h
    obtain ⟨_, hchron, h⟩ := bind_eq_ok.mp h
    obtain ⟨_, hterminal, h⟩ := bind_eq_ok.mp h
    have hid := (validateSessionId_str.mp hid).1
    rw [throwIf_eq_ok, requestUnbound_toValue] at hrequest
    simp only [throwIf_eq_ok, RuntimeBinding.get_boundAt, RuntimeBinding.get_leaseExpiresAt,
      Value.str_strictEq_str, Bool.or_eq_false_iff, Bool.not_eq_false', decide_eq_true_eq,
      decide_eq_false_iff_not, not_lt, not_le] at hchron
    obtain ⟨⟨⟨⟨⟨⟨⟨hbound, hexpires⟩, h₁⟩, h₂⟩, h₃⟩, h₄⟩, h₅⟩, h₆⟩ := hchron
    have hcreated := Value.str.inj (deployedInstant_eq_ok.mp hcreated)
    have hupdated := Value.str.inj (deployedInstant_eq_ok.mp hupdated)
    have hactivity := Value.str.inj (deployedInstant_eq_ok.mp hactivity)
    have hidle := Value.str.inj (deployedInstant_eq_ok.mp hidle)
    have hhard := Value.str.inj (deployedInstant_eq_ok.mp hhard)
    obtain ⟨start, stop, hstart, hstop, -, hlease⟩ := hbinding.lease
    rw [Stamp.ms_eq (x := start) (y := created) (by rw [hstart, ← hbound, hcreated]),
      Stamp.ms_eq (x := stop) (y := hard) (by rw [hstop, ← hexpires, hhard])] at hlease
    have hfinal : Deployed.spreadWith s.toValue [("binding", s.binding.toValue)] = v := Except.ok.inj h
    rw [spreadWith_binding] at hfinal
    refine ⟨?_, hfinal.symm⟩
    exact {
      sessionId := hid
      binding := hbinding
      request := hrequest
      createdAt := hbound
      hardExpiresAt := hexpires
      chronology := ⟨⟨created.ms, updated.ms, activity.ms, idle.ms, hard.ms,
        hcreated ▸ created.exact, hupdated ▸ updated.exact, hactivity ▸ activity.exact,
        hidle ▸ idle.exact, hhard ▸ hard.exact⟩, by simp [chronologyInvalid, *]⟩
      revision := hrev
      terminal := (checkTerminal_toValue s).mp hterminal }
  · rintro ⟨hvalid, rfl⟩
    obtain ⟨t, hchron⟩ := hvalid.chronology
    simp only [chronologyInvalid, Bool.or_eq_false_iff, decide_eq_false_iff_not, not_lt,
      not_le] at hchron
    obtain ⟨⟨⟨⟨⟨⟨h₁, h₂⟩, h₃⟩, h₄⟩, h₅⟩, h₆⟩, -⟩ := hchron
    rw [validateSessionId_str.mpr ⟨hvalid.sessionId, rfl⟩, ok_bind,
      validateBinding_toValue.mpr ⟨hvalid.binding, rfl⟩, ok_bind, requestUnbound_toValue,
      hvalid.request, throwIf_false, ok_bind, deployedInstant_str t.created_eq, ok_bind,
      deployedInstant_str t.updated_eq, ok_bind, deployedInstant_str t.lastActivity_eq, ok_bind,
      deployedInstant_str t.idle_eq, ok_bind, deployedInstant_str t.hard_eq, ok_bind]
    have hchron : (!(Value.str s.createdAt).strictEq (s.binding.toValue.get (js "boundAt"))
        || !(Value.str s.hardExpiresAt).strictEq (s.binding.toValue.get (js "leaseExpiresAt"))
        || decide (t.updated < t.created) || decide (t.lastActivity < t.created)
        || decide (t.updated < t.lastActivity) || decide (t.idle ≤ t.lastActivity)
        || decide (t.hard < t.idle) || decide (t.hard ≤ t.created)) = false := by
      simp [hvalid.createdAt, hvalid.hardExpiresAt, *]
    rw [hchron, throwIf_false, ok_bind, (checkTerminal_toValue s).mpr hvalid.terminal, ok_bind,
      spreadWith_binding]
    rfl

/-! ## 3. The shared steps -/

theorem Agree.eq_ok {x : Js String Value} {m : RuntimeSession} (h : Agree x (.ok m)) :
    x = .ok m.toValue := by
  cases x with
  | ok v => rw [agree_ok_ok.mp h]
  | error e => exact absurd h agree_error_ok

theorem Agree.error {x : Js String Value} {e : Exn RuntimeError} (h : Agree x (.error e)) :
    ∃ e', x = .error e' := by
  cases x with
  | ok v => exact absurd h agree_ok_error
  | error e' => exact ⟨e', rfl⟩

theorem evolve_agree {s changed : RuntimeSession} {change : List (String × Value)}
    (hs : s.Valid P)
    (hspread : Deployed.spreadWith s.toValue
        (change ++ [("revision", .num (.ofNat (s.revision + 1)))])
      = { changed with revision := s.revision + 1 }.toValue) :
    Agree (Deployed.evolve P s.toValue change) (evolve P s changed) := by
  have hvalidated := (validateSession_toValue (v := s.toValue) hs.revision).mpr ⟨hs, rfl⟩
  unfold Deployed.evolve evolve nextRevision
  rw [hvalidated, ok_bind]
  simp only [RuntimeSession.get_revision, Value.counter_num_ofNat hs.revision, Option.getD_some,
    hspread]
  by_cases hmax : maxSafeInteger ≤ s.revision
  · simp [hmax]
  · have hrev : ({ changed with revision := s.revision + 1 } : RuntimeSession).revision
        ≤ maxSafeInteger := by
      exact not_le.mp hmax
    simp only [hmax, decide_false, throwIf_false, ok_bind, pure_eq_ok]
    refine agree_of_iff fun v => ?_
    rw [validateSession_toValue hrev]
    constructor
    · rintro ⟨hvalid, rfl⟩
      exact ⟨_, validateRuntimeSession_toValue hvalid, rfl⟩
    · rintro ⟨t, ht, rfl⟩
      obtain ⟨hvalid, rfl⟩ := (validateRuntimeSession_toValue_iff hrev).mp ht
      exact ⟨hvalid, rfl⟩

theorem tick_agree {s : RuntimeSession} (hs : s.Valid P) {now : Stamp P} {updated : Int}
    (hupdated : instantOf P s.updatedAt = some updated) (hle : updated ≤ now.ms) :
    Agree (Deployed.tick P s.toValue (.str now.text)) (expireIfDue P s now) := by
  obtain ⟨t, -⟩ := hs.chronology
  have hvalidated := (validateSession_toValue (v := s.toValue) hs.revision).mpr ⟨hs, rfl⟩
  unfold Deployed.tick expireIfDue
  rw [hvalidated, ok_bind, deployedInstant_str now.exact, ok_bind, RuntimeSession.get_updatedAt,
    deployedInstant_str hupdated, ok_bind, decide_eq_false (not_lt.mpr hle), throwIf_false, ok_bind,
    stateIn_toValue]
  by_cases hlive : s.state.live = true
  · have hin : decide (s.state ∈ [RuntimeSessionState.STARTING, .ACTIVE]) = true := by
      simpa [RuntimeSessionState.live] using hlive
    rw [hin, hlive]
    simp only [RuntimeSession.get_hardExpiresAt, RuntimeSession.get_idleExpiresAt,
      deployedInstant_str t.hard_eq, deployedInstant_str t.idle_eq, instant_str t.hard_eq,
      instant_str t.idle_eq, ok_bind, Bool.not_true, Bool.false_eq_true, if_false]
    split
    · refine evolve_agree hs ?_
      simp [Deployed.spreadWith, RuntimeSession.toValue, Value.object, Deployed.setMember]
    · split
      · refine evolve_agree hs ?_
        simp [Deployed.spreadWith, RuntimeSession.toValue, Value.object, Deployed.setMember]
      · exact agree_ok_ok.mpr rfl
  · have hin : decide (s.state ∈ [RuntimeSessionState.STARTING, .ACTIVE]) = false := by
      simpa [RuntimeSessionState.live] using hlive
    rw [hin, eq_false_of_ne_true hlive]
    exact agree_ok_ok.mpr rfl

/-! ## 4. The operations -/

/-- An operation of either machine, on typed arguments. -/
inductive Operation where
  | health (binding : RuntimeBinding)
  | activity (binding : RuntimeBinding)
  | stop
  | stopped
  | failure (code : RuntimeSessionFailureCode)
  | tick

/-- An operation at a time. -/
structure Step (P : Platform) where
  now : Stamp P
  operation : Operation

namespace Step

variable (step : Step P)

/-- The event of the specified machine. -/
def event : Value :=
  match step.operation with
  | .health binding => .object
    [("type", .lit "RUNTIME_READY"), ("at", .str step.now.text), ("binding", binding.toValue)]
  | .activity binding => .object
    [("type", .lit "ACTIVITY"), ("at", .str step.now.text), ("binding", binding.toValue)]
  | .stop => .object [("type", .lit "STOP_REQUESTED"), ("at", .str step.now.text)]
  | .stopped => .object [("type", .lit "STOP_COMPLETED"), ("at", .str step.now.text)]
  | .failure code => .object
    [("type", .lit "FAIL"), ("at", .str step.now.text), ("failureCode", nameValue code)]
  | .tick => .object [("type", .lit "TICK"), ("at", .str step.now.text)]

/-- The answer of the specified machine. -/
def specified (s : RuntimeSession) : Js RuntimeError RuntimeSession :=
  transitionRuntimeSession P s.toValue step.event

/-- The answer of the deployed machine. -/
def deployed (v : Value) : Js String Value :=
  match step.operation with
  | .health binding => Deployed.markReady P v binding.toValue (.str step.now.text)
  | .activity binding => Deployed.activity P v binding.toValue (.str step.now.text)
  | .stop => Deployed.requestStop P v (.str step.now.text)
  | .stopped => Deployed.completeStop P v (.str step.now.text)
  | .failure code => Deployed.failSession P v (nameValue code) (.str step.now.text)
  | .tick => Deployed.tick P v (.str step.now.text)

/-- What the specified machine does once it has seen to the deadlines. -/
def branch (m : RuntimeSession) : Js RuntimeError RuntimeSession :=
  match step.operation with
  | .health binding => onRuntimeReady P m step.now binding.toValue
  | .activity binding => onActivity P m step.now binding.toValue
  | .stop => onStopRequested P m step.now
  | .stopped => onStopCompleted P m step.now
  | .failure code => onFail P m step.now (nameValue code)
  | .tick => .ok m

end Step

theorem specified_eq {s : RuntimeSession} (hs : s.Valid P) {step : Step P} {updated : Int}
    (hupdated : instantOf P s.updatedAt = some updated) (hle : updated ≤ step.now.ms) :
    step.specified s = expireIfDue P s step.now >>= step.branch := by
  have hlate : decide (step.now.ms < updated) = false := decide_eq_false (not_lt.mpr hle)
  obtain ⟨now, operation⟩ := step
  unfold Step.specified transitionRuntimeSession
  rw [validateRuntimeSession_toValue hs, ok_bind]
  cases operation <;>
    · simp [Step.event, List.lookup, instant_str now.exact, instant_str hupdated, hlate]
      rfl

theorem nameValue_strictEq {α : Type} [Named α] [DecidableEq α] (a b : α) :
    (nameValue a).strictEq (nameValue b) = decide (a = b) := by
  rw [Bool.eq_iff_iff, decide_eq_true_iff]
  exact nameValue_isText a b

theorem sameBinding_toValue {b c : RuntimeBinding} (hb : b.Valid P) (hc : c.Valid P) :
    Deployed.sameBinding P b.toValue c.toValue = .ok (decide (b = c)) := by
  unfold Deployed.sameBinding
  rw [validateBinding_toValue.mpr ⟨hb, rfl⟩, ok_bind, validateBinding_toValue.mpr ⟨hc, rfl⟩, ok_bind,
    pure_eq_ok]
  congr 1
  cases b
  cases c
  simp [Deployed.BINDING_MEMBERS, nameValue_strictEq, Value.lit]

theorem sameBinding_invalid {b c : RuntimeBinding} (hb : b.Valid P) (hc : ¬ c.Valid P) :
    ∃ e, Deployed.sameBinding P b.toValue c.toValue = .error e := by
  unfold Deployed.sameBinding
  rw [validateBinding_toValue.mpr ⟨hb, rfl⟩, ok_bind]
  cases h : Deployed.validateBinding P c.toValue with
  | ok v => exact absurd (validateBinding_toValue.mp h).1 hc
  | error e => exact ⟨e, rfl⟩

theorem assertPinned_self {b : RuntimeBinding} (hb : b.Valid P) :
    assertPinnedRuntime P b.toValue b.toValue = .ok () :=
  assertPinnedRuntime_toValue.mpr ⟨hb, rfl⟩

theorem assertPinned_other {b c : RuntimeBinding} (hne : c ≠ b) :
    ∃ e, assertPinnedRuntime P b.toValue c.toValue = .error e := by
  cases h : assertPinnedRuntime P b.toValue c.toValue with
  | error e => exact ⟨e, rfl⟩
  | ok u => exact absurd (assertPinnedRuntime_toValue.mp h).2.symm hne

/-- A session that goes on to another state, with metadata that fit it, stays valid. -/
theorem RuntimeSession.Valid.advance {m : RuntimeSession} (hm : m.Valid P) {now : Stamp P}
    {updated : Int} (hupdated : instantOf P m.updatedAt = some updated) (hle : updated ≤ now.ms)
    (hrev : m.revision < maxSafeInteger) {state : RuntimeSessionState}
    {endReason : Option RuntimeSessionEndReason} {failureCode : Option RuntimeSessionFailureCode}
    (hterminal : checkTerminal state endReason failureCode = .ok ()) :
    RuntimeSession.Valid P { m with
      state, updatedAt := now.text, endReason, failureCode, revision := m.revision + 1 } := by
  obtain ⟨t, hchron⟩ := hm.chronology
  obtain rfl : t.updated = updated := Option.some.inj (t.updated_eq.symm.trans hupdated)
  refine { hm with chronology := ⟨{ t with updated := now.ms, updated_eq := now.exact }, ?_⟩
                   revision := hrev, terminal := hterminal }
  simp only [chronologyInvalid, Bool.or_eq_false_iff, decide_eq_false_iff_not] at hchron ⊢
  omega

theorem failSession_agree {m : RuntimeSession} (hm : m.Valid P) (now : Stamp P)
    (code : RuntimeSessionFailureCode) :
    Agree (Deployed.failSession P m.toValue (nameValue code) (.str now.text))
      (onFail P m now (nameValue code)) := by
  have hvalidated := (validateSession_toValue (v := m.toValue) hm.revision).mpr ⟨hm, rfl⟩
  unfold Deployed.failSession onFail
  rw [hvalidated, ok_bind, readNamed_nameValue, orThrow_some, ok_bind, stateIn_toValue]
  simp only [Option.isNone_some, throwIf_false, ok_bind]
  by_cases hover : m.state = .EXPIRED ∨ m.state = .STOPPED ∨ m.state = .FAILED
  · rw [if_pos (by simpa using hover), if_pos (by simpa [or_assoc] using hover)]
    exact agree_ok_ok.mpr rfl
  · rw [if_neg (by simpa using hover), if_neg (by simpa [or_assoc] using hover)]
    refine evolve_agree hm ?_
    simp [Deployed.spreadWith, RuntimeSession.toValue, Value.object, Deployed.setMember]

theorem completeStop_agree {m : RuntimeSession} (hm : m.Valid P) (now : Stamp P) :
    Agree (Deployed.completeStop P m.toValue (.str now.text)) (onStopCompleted P m now) := by
  have hvalidated := (validateSession_toValue (v := m.toValue) hm.revision).mpr ⟨hm, rfl⟩
  unfold Deployed.completeStop onStopCompleted
  rw [hvalidated, ok_bind]
  simp only [stateIn_toValue, List.mem_singleton, decide_eq_true_eq]
  by_cases hstopped : m.state = .STOPPED
  · rw [if_pos hstopped, if_pos hstopped]
    exact agree_ok_ok.mpr rfl
  · rw [if_neg hstopped, if_neg hstopped]
    by_cases hstopping : m.state = .STOPPING
    · rw [if_neg (not_ne_iff.mpr hstopping), hstopping]
      simp only [decide_true, Bool.not_true, throwIf_false, ok_bind]
      refine evolve_agree hm ?_
      simp [Deployed.spreadWith, RuntimeSession.toValue, Value.object, Deployed.setMember]
    · rw [if_pos hstopping]
      simp [hstopping]

/-- A live session can be failed as long as its revision is not exhausted. -/
theorem onFail_live {m : RuntimeSession} (hm : m.Valid P) {now : Stamp P} {updated : Int}
    (hupdated : instantOf P m.updatedAt = some updated) (hle : updated ≤ now.ms)
    (code : RuntimeSessionFailureCode) (hlive : m.state.live = true) :
    (∃ t, onFail P m now (nameValue code) = .ok t) ↔ m.revision < maxSafeInteger := by
  have hover : ¬ (m.state = .EXPIRED ∨ m.state = .STOPPED ∨ m.state = .FAILED) := by
    rintro (h | h | h) <;> simp [h, RuntimeSessionState.live] at hlive
  unfold onFail
  rw [readNamed_nameValue, orThrow_some, ok_bind, if_neg (by simpa [or_assoc] using hover)]
  constructor
  · rintro ⟨t, ht⟩
    exact (evolve_eq_ok.mp ht).1
  · intro hrev
    have hterminal : checkTerminal .FAILED (some .CONTROL_FAILURE) (some code) = .ok () := by
      simp [checkTerminal, RuntimeSessionState.live]
    exact ⟨_, evolve_eq_ok.mpr ⟨hrev, rfl, hm.advance hupdated hle hrev hterminal⟩⟩

/-- **Where the two machines part**, at a session `m` that no deadline expires any more.  A health
report or an activity with another runtime's binding, an activity before the runtime is ready, a
stop of a session that has expired or failed, and a failure of a session that was live (`s`) and
has just expired. -/
def DivergesAt (P : Platform) (s m : RuntimeSession) : Operation → Prop
  | .health binding =>
    m.state = .STARTING ∧ binding.Valid P ∧ binding ≠ m.binding ∧ m.revision < maxSafeInteger
      ∨ m.state = .ACTIVE ∧ binding ≠ m.binding
  | .activity binding =>
    m.state = .STARTING
      ∨ m.state = .ACTIVE ∧ binding.Valid P ∧ binding ≠ m.binding ∧ m.revision < maxSafeInteger
  | .stop => m.state = .EXPIRED ∨ m.state = .FAILED
  | .stopped => False
  | .failure _ => s.state.live = true ∧ m.state = .EXPIRED
  | .tick => False

/-- The step is one where the two machines part. -/
def Diverges (P : Platform) (s : RuntimeSession) (step : Step P) : Prop :=
  ∃ m, expireIfDue P s step.now = .ok m ∧ DivergesAt P s m step.operation

/-! ## 5. One step -/

/-- Where one machine fails the session and the other refuses, they agree only if the failure is
refused as well. -/
theorem failSession_refused {m : RuntimeSession} (hm : m.Valid P) {now : Stamp P} {updated : Int}
    (hupdated : instantOf P m.updatedAt = some updated) (hle : updated ≤ now.ms)
    (code : RuntimeSessionFailureCode) (hlive : m.state.live = true) (e : Exn RuntimeError) :
    Agree (Deployed.failSession P m.toValue (nameValue code) (.str now.text)) (.error e)
      ↔ ¬ m.revision < maxSafeInteger := by
  have hagree := failSession_agree hm now code
  rw [← onFail_live hm hupdated hle code hlive]
  cases hfail : onFail P m now (nameValue code) with
  | ok t =>
    rw [hfail] at hagree
    rw [hagree.eq_ok]
    simp
  | error e' =>
    rw [hfail] at hagree
    obtain ⟨e'', he⟩ := hagree.error
    rw [he]
    simp

theorem markReady_agree {v : Value} {s m : RuntimeSession} (hm : m.Valid P) {now : Stamp P}
    {updated : Int} (hupdated : instantOf P m.updatedAt = some updated) (hle : updated ≤ now.ms)
    (htick : Deployed.tick P v (.str now.text) = .ok m.toValue) (b : RuntimeBinding) :
    Agree (Deployed.markReady P v b.toValue (.str now.text)) (onRuntimeReady P m now b.toValue)
      ↔ ¬ DivergesAt P s m (.health b) := by
  obtain ⟨t, -⟩ := hm.chronology
  unfold Deployed.markReady onRuntimeReady
  rw [htick, ok_bind, stateIn_toValue]
  simp only [List.mem_singleton, RuntimeSession.get_binding, DivergesAt]
  by_cases hstarting : m.state = .STARTING
  · simp only [hstarting, decide_true, Bool.not_true, Bool.false_eq_true, if_false, if_true,
      true_and, reduceCtorEq, false_and, or_false]
    by_cases hsame : b = m.binding
    · subst hsame
      rw [sameBinding_toValue hm.binding hm.binding, assertPinned_self hm.binding]
      simp only [decide_true, ok_bind, Bool.not_true, Bool.false_eq_true, if_false, ne_eq,
        not_true_eq_false, false_and, and_false, not_false_eq_true, iff_true,
        RuntimeSession.get_hardExpiresAt, deployedInstant_str now.exact,
        deployedInstant_str t.hard_eq, instant_str t.hard_eq]
      refine evolve_agree hm ?_
      simp [Deployed.spreadWith, RuntimeSession.toValue, Value.object, Deployed.setMember]
    · obtain ⟨e, he⟩ := assertPinned_other (P := P) hsame
      rw [he, error_bind]
      by_cases hvalid : b.Valid P
      · have hlive : m.state.live = true := by simp [hstarting, RuntimeSessionState.live]
        rw [sameBinding_toValue hm.binding hvalid, decide_eq_false (Ne.symm hsame), ok_bind]
        simp only [Bool.not_false, if_true, hvalid, hsame, ne_eq, not_false_eq_true, true_and]
        exact failSession_refused hm hupdated hle _ hlive e
      · obtain ⟨e', he'⟩ := sameBinding_invalid hm.binding hvalid
        simp [he', hvalid]
  · simp only [hstarting, decide_false, Bool.not_false, if_true, if_false, false_and, false_or]
    by_cases hactive : m.state = .ACTIVE
    · rw [if_pos hactive]
      by_cases hsame : b = m.binding
      · subst hsame
        simp [assertPinned_self hm.binding]
      · obtain ⟨e, he⟩ := assertPinned_other (P := P) hsame
        simp [he, hactive, hsame]
    · simp [hactive]

theorem activity_agree {v : Value} {s m : RuntimeSession} (hm : m.Valid P) {now : Stamp P}
    {updated : Int} (hupdated : instantOf P m.updatedAt = some updated) (hle : updated ≤ now.ms)
    (htick : Deployed.tick P v (.str now.text) = .ok m.toValue) (b : RuntimeBinding) :
    Agree (Deployed.activity P v b.toValue (.str now.text)) (onActivity P m now b.toValue)
      ↔ ¬ DivergesAt P s m (.activity b) := by
  obtain ⟨t, -⟩ := hm.chronology
  unfold Deployed.activity onActivity
  rw [htick, ok_bind, stateIn_toValue]
  simp only [List.mem_singleton, RuntimeSession.get_binding, DivergesAt]
  by_cases hactive : m.state = .ACTIVE
  · simp only [hactive, decide_true, Bool.not_true, Bool.false_eq_true, if_false, if_true,
      true_and, reduceCtorEq, false_or]
    by_cases hsame : b = m.binding
    · subst hsame
      rw [sameBinding_toValue hm.binding hm.binding, assertPinned_self hm.binding]
      simp only [decide_true, ok_bind, Bool.not_true, Bool.false_eq_true, if_false, ne_eq,
        not_true_eq_false, false_and, and_false, not_false_eq_true, iff_true,
        RuntimeSession.get_hardExpiresAt, deployedInstant_str now.exact,
        deployedInstant_str t.hard_eq, instant_str t.hard_eq]
      refine evolve_agree hm ?_
      simp [Deployed.spreadWith, RuntimeSession.toValue, Value.object, Deployed.setMember, hactive]
    · obtain ⟨e, he⟩ := assertPinned_other (P := P) hsame
      rw [he, error_bind]
      by_cases hvalid : b.Valid P
      · have hlive : m.state.live = true := by simp [hactive, RuntimeSessionState.live]
        rw [sameBinding_toValue hm.binding hvalid, decide_eq_false (Ne.symm hsame), ok_bind]
        simp only [Bool.not_false, if_true, hvalid, hsame, ne_eq, not_false_eq_true, true_and]
        exact failSession_refused hm hupdated hle _ hlive e
      · obtain ⟨e', he'⟩ := sameBinding_invalid hm.binding hvalid
        simp [he', hvalid]
  · simp only [hactive, decide_false, Bool.not_false, if_true, if_false, false_and, or_false]
    by_cases hstarting : m.state = .STARTING
    · simp [hstarting]
    · simp [hstarting]

theorem RuntimeSession.Valid.endReason_of_live {m : RuntimeSession} (hm : m.Valid P)
    (hlive : m.state.live = true) : m.endReason = none := by
  obtain ⟨_, hterminal, -⟩ := bind_eq_ok.mp hm.terminal
  rw [throwIf_eq_ok, hlive, Bool.true_and, Bool.or_eq_false_iff, decide_eq_false_iff_not,
    not_ne_iff] at hterminal
  exact hterminal.1

theorem RuntimeSession.Valid.failureCode_of_live {m : RuntimeSession} (hm : m.Valid P)
    (hlive : m.state.live = true) : m.failureCode = none := by
  obtain ⟨_, hterminal, -⟩ := bind_eq_ok.mp hm.terminal
  rw [throwIf_eq_ok, hlive, Bool.true_and, Bool.or_eq_false_iff, decide_eq_false_iff_not,
    decide_eq_false_iff_not, not_ne_iff, not_ne_iff] at hterminal
  exact hterminal.2

theorem requestStop_agree {v : Value} {s m : RuntimeSession} (hm : m.Valid P) {now : Stamp P}
    (htick : Deployed.tick P v (.str now.text) = .ok m.toValue) :
    Agree (Deployed.requestStop P v (.str now.text)) (onStopRequested P m now)
      ↔ ¬ DivergesAt P s m .stop := by
  unfold Deployed.requestStop onStopRequested
  rw [htick, ok_bind, stateIn_toValue]
  simp only [DivergesAt]
  by_cases hover : m.state = .EXPIRED ∨ m.state = .FAILED
  · have hstate : ¬ (m.state = .STOPPING ∨ m.state = .STOPPED) := by
      rcases hover with h | h <;> simp [h]
    have hin : m.state ∈ [RuntimeSessionState.STOPPING, .STOPPED, .EXPIRED, .FAILED] := by
      simp [hover]
    rw [if_pos (decide_eq_true hin), if_neg (by simpa using hstate)]
    simp only [hover, not_true_eq_false, iff_false]
    -- The one machine keeps the session, the other moves it to STOPPING or refuses.
    cases hstop : evolve P m { m with
        state := .STOPPING, updatedAt := now.text
        endReason := some (m.endReason.getD .USER_REQUEST) } with
    | error e => simp
    | ok t =>
      obtain ⟨-, rfl, -⟩ := evolve_eq_ok.mp hstop
      intro hagree
      have hsame := congrArg (Value.get · (js "state")) (agree_ok_ok.mp hagree)
      simp only [RuntimeSession.get_state, nameValue_inj] at hsame
      exact hstate (Or.inl hsame)
  · simp only [hover, not_false_eq_true, iff_true]
    by_cases hstopping : m.state = .STOPPING ∨ m.state = .STOPPED
    · have hin : m.state ∈ [RuntimeSessionState.STOPPING, .STOPPED, .EXPIRED, .FAILED] := by
        rcases hstopping with h | h <;> simp [h]
      rw [if_pos (decide_eq_true hin), if_pos (by simpa using hstopping)]
      exact agree_ok_ok.mpr rfl
    · have hlive : m.state.live = true := by
        cases hstate : m.state <;> simp_all [RuntimeSessionState.live]
      have hin : m.state ∉ [RuntimeSessionState.STOPPING, .STOPPED, .EXPIRED, .FAILED] := by
        intro h
        cases hstate : m.state <;> simp_all
      rw [if_neg (by simpa using hin), if_neg (by simpa using hstopping)]
      refine evolve_agree hm ?_
      simp [Deployed.spreadWith, RuntimeSession.toValue, Value.object, Deployed.setMember,
        hm.endReason_of_live hlive]

theorem expired_of_expireIfDue {s m : RuntimeSession} {now : Stamp P}
    (h : expireIfDue P s now = .ok m) : m = s ∨ s.state.live = true ∧ m.state = .EXPIRED := by
  unfold expireIfDue at h
  split at h
  · exact Or.inl (Except.ok.inj h).symm
  · rename_i hlive
    have hlive : s.state.live = true := by simpa using hlive
    obtain ⟨hard, -, h⟩ := bind_eq_ok.mp h
    obtain ⟨idle, -, h⟩ := bind_eq_ok.mp h
    split at h
    · obtain ⟨-, rfl, -⟩ := evolve_eq_ok.mp h
      exact Or.inr ⟨hlive, rfl⟩
    · split at h
      · obtain ⟨-, rfl, -⟩ := evolve_eq_ok.mp h
        exact Or.inr ⟨hlive, rfl⟩
      · exact Or.inl (Except.ok.inj h).symm

/-- Only an exhausted revision keeps a session from expiring. -/
theorem exhausted_of_expireIfDue {s : RuntimeSession} (hs : s.Valid P) {now : Stamp P}
    {updated : Int} (hupdated : instantOf P s.updatedAt = some updated) (hle : updated ≤ now.ms)
    {e : Exn RuntimeError} (h : expireIfDue P s now = .error e) :
    s.state.live = true ∧ ¬ s.revision < maxSafeInteger := by
  obtain ⟨t, -⟩ := hs.chronology
  unfold expireIfDue at h
  split at h
  · cases h
  · rename_i hlive
    have hlive : s.state.live = true := by simpa using hlive
    refine ⟨hlive, fun hrev => ?_⟩
    have hexpire : ∀ reason, checkTerminal .EXPIRED (some reason) s.failureCode = .ok () →
        ∃ m, evolve P s { s with
          state := .EXPIRED, updatedAt := now.text, endReason := some reason } = .ok m :=
      fun reason hterminal =>
        ⟨_, evolve_eq_ok.mpr ⟨hrev, rfl, hs.advance hupdated hle hrev hterminal⟩⟩
    have hcode : s.failureCode = none := hs.failureCode_of_live hlive
    rw [instant_str t.hard_eq, ok_bind, instant_str t.idle_eq, ok_bind] at h
    split at h
    · obtain ⟨m, hm⟩ := hexpire .HARD_TIMEOUT (by simp [hcode, checkTerminal, RuntimeSessionState.live])
      rw [hm] at h
      cases h
    · split at h
      · obtain ⟨m, hm⟩ := hexpire .IDLE_TIMEOUT
          (by simp [hcode, checkTerminal, RuntimeSessionState.live])
        rw [hm] at h
        cases h
      · cases h

/-- A session that is live cannot be completed by either machine. -/
theorem completeStop_live {s : RuntimeSession} (hs : s.Valid P) (now : Stamp P)
    (hlive : s.state.live = true) :
    ∃ e, Deployed.completeStop P s.toValue (.str now.text) = .error e := by
  have hagree := completeStop_agree hs now
  have hrefused : ∃ e, onStopCompleted P s now = .error e := by
    unfold onStopCompleted
    rw [if_neg (by rintro h; simp [h, RuntimeSessionState.live] at hlive),
      if_pos (by rintro h; simp [h, RuntimeSessionState.live] at hlive)]
    exact ⟨_, rfl⟩
  obtain ⟨e, he⟩ := hrefused
  rw [he] at hagree
  exact hagree.error

/-- Failing a live session makes it a failed one, not an expired one. -/
theorem failSession_not_expired {s m : RuntimeSession} (hs : s.Valid P) (now : Stamp P)
    (code : RuntimeSessionFailureCode) (hlive : s.state.live = true) (hm : m.state = .EXPIRED) :
    ¬ Agree (Deployed.failSession P s.toValue (nameValue code) (.str now.text)) (.ok m) := by
  intro h
  have hagree := failSession_agree hs now code
  rw [h.eq_ok] at hagree
  cases hfail : onFail P s now (nameValue code) with
  | error e =>
    rw [hfail] at hagree
    exact agree_ok_error hagree
  | ok t =>
    rw [hfail] at hagree
    have hsame := congrArg (Value.get · (js "state")) (agree_ok_ok.mp hagree)
    simp only [RuntimeSession.get_state, nameValue_inj] at hsame
    have hover : ¬ (s.state = .EXPIRED ∨ s.state = .STOPPED ∨ s.state = .FAILED) := by
      rintro (h | h | h) <;> simp [h, RuntimeSessionState.live] at hlive
    unfold onFail at hfail
    rw [readNamed_nameValue, orThrow_some, ok_bind, if_neg (by simpa [or_assoc] using hover)] at hfail
    obtain ⟨-, rfl, -⟩ := evolve_eq_ok.mp hfail
    rw [hm] at hsame
    cases hsame

theorem agree_refused {s : RuntimeSession} (hs : s.Valid P) {step : Step P} {updated : Int}
    (hupdated : instantOf P s.updatedAt = some updated) (hle : updated ≤ step.now.ms)
    {e : Exn RuntimeError} (hexpire : expireIfDue P s step.now = .error e) :
    Agree (step.deployed s.toValue) (.error e) := by
  have htick := tick_agree hs hupdated hle
  rw [hexpire] at htick
  obtain ⟨e', he'⟩ := htick.error
  obtain ⟨hlive, hrev⟩ := exhausted_of_expireIfDue hs hupdated hle hexpire
  obtain ⟨now, operation⟩ := step
  cases operation with
  | health b => simp [Step.deployed, Deployed.markReady, he']
  | activity b => simp [Step.deployed, Deployed.activity, he']
  | stop => simp [Step.deployed, Deployed.requestStop, he']
  | stopped =>
    obtain ⟨e'', he''⟩ := completeStop_live hs now hlive
    simp [Step.deployed, he'']
  | failure code => exact (failSession_refused hs hupdated hle code hlive e).mpr hrev
  | tick => simp [Step.deployed, he']

/-- **One step.**  From one valid session, at a time that is not before its last update, the two
machines give the same answer exactly if the step is not one where they part. -/
theorem agree_iff {s : RuntimeSession} (hs : s.Valid P) {step : Step P} {updated : Int}
    (hupdated : instantOf P s.updatedAt = some updated) (hle : updated ≤ step.now.ms) :
    Agree (step.deployed s.toValue) (step.specified s) ↔ ¬ Diverges P s step := by
  rw [specified_eq hs hupdated hle]
  cases hexpire : expireIfDue P s step.now with
  | error e =>
    simp [Diverges, hexpire, agree_refused hs hupdated hle hexpire]
  | ok m =>
    have htick := tick_agree hs hupdated hle
    rw [hexpire] at htick
    have htick := htick.eq_ok
    have hdiverges : Diverges P s step ↔ DivergesAt P s m step.operation := by
      simp [Diverges, hexpire]
    have hm : m.Valid P ∧ ∃ u, instantOf P m.updatedAt = some u ∧ u ≤ step.now.ms := by
      rcases change_of_expireIfDue hexpire with rfl | ⟨hchange, hvalid⟩
      · exact ⟨hs, updated, hupdated, hle⟩
      · exact ⟨hvalid, step.now.ms, by rw [hchange.updatedAt, step.now.exact], le_rfl⟩
    obtain ⟨hm, u, hu, hle'⟩ := hm
    have hexpired := expired_of_expireIfDue hexpire
    rw [hdiverges, ok_bind]
    obtain ⟨now, operation⟩ := step
    cases operation with
    | health b => exact markReady_agree hm hu hle' htick b
    | activity b => exact activity_agree hm hu hle' htick b
    | stop => exact requestStop_agree hm htick
    | stopped =>
      simp only [Step.deployed, Step.branch, DivergesAt, not_false_eq_true, iff_true]
      rcases hexpired with rfl | ⟨hlive, hstate⟩
      · exact completeStop_agree hs now
      · obtain ⟨e, he⟩ := completeStop_live hs now hlive
        simp [he, onStopCompleted, hstate]
    | failure code =>
      simp only [Step.deployed, Step.branch, DivergesAt]
      rcases hexpired with rfl | ⟨hlive, hstate⟩
      · have hnot : ¬ (m.state.live = true ∧ m.state = .EXPIRED) := by
          rintro ⟨hlive, hstate⟩
          rw [hstate] at hlive
          cases hlive
        simp only [hnot, not_false_eq_true, iff_true]
        exact failSession_agree hs now code
      · have hkeeps : onFail P m now (nameValue code) = .ok m := by simp [onFail, hstate]
        rw [hkeeps]
        simp only [hlive, hstate, and_self, not_true_eq_false, iff_false]
        exact failSession_not_expired hs now code hlive hstate
    | tick =>
      simp only [Step.deployed, Step.branch, DivergesAt, not_false_eq_true, iff_true]
      rw [htick]
      exact agree_ok_ok.mpr rfl

/-! ## 6. Creation and the public view -/

/-- What the deployed machine creates a starting session from. -/
def deployedInput (sessionId : Text) (requested : RuntimeRequest) (binding : RuntimeBinding) : Value :=
  .object [("sessionId", .str sessionId), ("requestedProfile", nameValue requested),
    ("binding", binding.toValue), ("state", nameValue RuntimeSessionState.STARTING)]

theorem createSession_agree (id : Text) (r : RuntimeRequest) (b : RuntimeBinding) :
    Agree (Deployed.createSession P (deployedInput id r b))
      (createRuntimeSession P (sessionInput id r b)) := by
  have hid : (deployedInput id r b).get (js "sessionId") = .str id := by
    simp [deployedInput, List.lookup]
  have hr : (deployedInput id r b).get (js "requestedProfile") = nameValue r := by
    simp [deployedInput, List.lookup]
  have hb : (deployedInput id r b).get (js "binding") = b.toValue := by
    simp [deployedInput, List.lookup]
  have hstate : (deployedInput id r b).get (js "state") = nameValue RuntimeSessionState.STARTING := by
    simp [deployedInput, List.lookup]
  have hlive : Deployed.stateIn (deployedInput id r b) [.STARTING, .ACTIVE] = true := by
    simp [Deployed.stateIn, hstate, nameValue, Named.name]
  have hguard : (!(deployedInput id r b).isRecord
      || (readNamed ((deployedInput id r b).get (js "requestedProfile")) : Option RuntimeRequest).isNone
      || !Deployed.stateIn (deployedInput id r b) [.STARTING, .ACTIVE]) = false := by
    rw [hr, hlive]
    simp [deployedInput]
  refine agree_of_iff fun v => ?_
  unfold Deployed.createSession
  rw [hguard, throwIf_false, ok_bind, hr, hb, hid, hstate]
  constructor
  · intro h
    obtain ⟨binding, hvalidated, h'⟩ := bind_eq_ok.mp h
    obtain ⟨hbinding, rfl⟩ := validateBinding_toValue.mp hvalidated
    obtain ⟨_, -, h⟩ := bind_eq_ok.mp h'
    obtain ⟨created, hcreated, h⟩ := bind_eq_ok.mp h
    obtain ⟨hard, hhard, h⟩ := bind_eq_ok.mp h
    obtain ⟨sessionId, hsessionId, h''⟩ := bind_eq_ok.mp h
    obtain ⟨-, rfl⟩ := validateSessionId_str.mp hsessionId
    rw [RuntimeBinding.get_boundAt] at hcreated h''
    rw [RuntimeBinding.get_leaseExpiresAt] at hhard h''
    have hfresh : Deployed.validateSession P (freshSession P id r b created.ms hard.ms).toValue = .ok v :=
      h''
    obtain ⟨hvalid, rfl⟩ := (validateSession_toValue (Nat.zero_le _)).mp hfresh
    refine ⟨_, createRuntimeSession_sessionInput.mpr ⟨hvalid, created.ms, hard.ms, ?_, ?_, rfl⟩, rfl⟩
    · rw [Value.str.inj (deployedInstant_eq_ok.mp hcreated), created.exact]
    · rw [Value.str.inj (deployedInstant_eq_ok.mp hhard), hard.exact]
  · rintro ⟨s, hs, rfl⟩
    obtain ⟨hvalid, created, hard, hcreated, hhard, rfl⟩ := createRuntimeSession_sessionInput.mp hs
    have hbinding : b.Valid P := hvalid.binding
    have hrequest : requestUnbound r b = false := hvalid.request
    have hsessionId : isSessionId id = true := hvalid.sessionId
    rw [validateBinding_toValue.mpr ⟨hbinding, rfl⟩, ok_bind, requestUnbound_toValue, hrequest,
      throwIf_false, ok_bind, RuntimeBinding.get_boundAt, RuntimeBinding.get_leaseExpiresAt,
      deployedInstant_str hcreated, ok_bind, deployedInstant_str hhard, ok_bind,
      validateSessionId_str.mpr ⟨hsessionId, rfl⟩, ok_bind]
    have hvalidated : Deployed.validateSession P (freshSession P id r b created hard).toValue
        = .ok (freshSession P id r b created hard).toValue :=
      (validateSession_toValue hvalid.revision).mpr ⟨hvalid, rfl⟩
    exact hvalidated

/-- Both machines show the session in the same way, or both refuse to. -/
def SameView (P : Platform) (v : Value) (s : RuntimeSession) : Prop :=
  ∀ now : Value, (Deployed.publicStatus P v now).toOption
    = (publicRuntimeSessionStatus P s.toValue now).toOption

theorem readStamp_refused {ε : Type} {v : Value} (h : ¬ ∃ x : Stamp P, v = .str x.text)
    (onType onText : ε) : ∃ e, readStamp P v onType onText = .error e := by
  cases hread : readStamp P v onType onText with
  | ok x => exact absurd ⟨x, readStamp_eq_ok.mp hread⟩ h
  | error e => exact ⟨e, rfl⟩

theorem tick_refused {s : RuntimeSession} (hs : s.Valid P) {now : Value}
    (h : ∀ x : Stamp P, now = .str x.text → ∀ u, instantOf P s.updatedAt = some u → x.ms < u) :
    (∃ e, Deployed.tick P s.toValue now = .error e) ∧
      ∃ e, transitionRuntimeSession P s.toValue (.object [("type", .lit "TICK"), ("at", now)])
        = .error e := by
  obtain ⟨t, -⟩ := hs.chronology
  have hvalidated := (validateSession_toValue (v := s.toValue) hs.revision).mpr ⟨hs, rfl⟩
  have hat : (Value.object [("type", .lit "TICK"), ("at", now)]).get (js "at") = now := by
    simp [List.lookup]
  unfold Deployed.tick transitionRuntimeSession
  rw [hvalidated, ok_bind, validateRuntimeSession_toValue hs, ok_bind, Value.isRecord_object,
    Bool.not_true, throwIf_false, ok_bind, hat]
  by_cases hstamp : ∃ x : Stamp P, now = .str x.text
  · obtain ⟨x, rfl⟩ := hstamp
    have hlate : decide (x.ms < t.updated) = true := decide_eq_true (h x rfl _ t.updated_eq)
    rw [deployedInstant_str x.exact, instant_str x.exact, ok_bind, ok_bind,
      RuntimeSession.get_updatedAt, deployedInstant_str t.updated_eq, instant_str t.updated_eq,
      ok_bind, ok_bind, hlate, throwIf_true, throwIf_true, error_bind, error_bind]
    exact ⟨⟨_, rfl⟩, ⟨_, rfl⟩⟩
  · obtain ⟨e, he⟩ := readStamp_refused hstamp ("event.at" ++ " is invalid")
      ("event.at" ++ " must be an exact ISO-8601 UTC instant")
    obtain ⟨e', he'⟩ := readStamp_refused hstamp (invalidSession ("event.at" ++ " is invalid"))
      (invalidSession ("event.at" ++ " must be an exact ISO-8601 UTC instant"))
    rw [Deployed.instant, he, error_bind, instant, he', error_bind]
    exact ⟨⟨_, rfl⟩, ⟨_, rfl⟩⟩

theorem publicStateOf_toValue (m : RuntimeSession) :
    Deployed.publicStateOf m.toValue = .lit (publicState m.state) := by
  simp only [Deployed.publicStateOf, stateIn_toValue, RuntimeSession.get_state]
  cases m.state <;> rfl

theorem sameView {s : RuntimeSession} (hs : s.Valid P) : SameView P s.toValue s := by
  obtain ⟨t, -⟩ := hs.chronology
  intro now
  by_cases hstamp : ∃ x : Stamp P, now = .str x.text ∧ t.updated ≤ x.ms
  · obtain ⟨x, rfl, hle⟩ := hstamp
    have htick := tick_agree hs t.updated_eq hle
    have htransition : transitionRuntimeSession P s.toValue
        (.object [("type", .lit "TICK"), ("at", .str x.text)]) = expireIfDue P s x := by
      have hspecified : (⟨x, .tick⟩ : Step P).specified s = _ := specified_eq hs t.updated_eq hle
      rw [Step.specified] at hspecified
      cases hexpire : expireIfDue P s x <;> simpa [Step.event, Step.branch, hexpire] using hspecified
    unfold Deployed.publicStatus publicRuntimeSessionStatus
    rw [htransition]
    cases hexpire : expireIfDue P s x with
    | error e =>
      rw [hexpire] at htick
      obtain ⟨e', he'⟩ := htick.error
      rw [he']
      rfl
    | ok m =>
      rw [hexpire] at htick
      have hm : m.Valid P := by
        rcases change_of_expireIfDue hexpire with rfl | ⟨-, hvalid⟩
        · exact hs
        · exact hvalid
      obtain ⟨u, -⟩ := hm.chronology
      have hlive : decide (m.state ∈ [RuntimeSessionState.STARTING, .ACTIVE]) = m.state.live := by
        simp [RuntimeSessionState.live]
      have hextend : (!decide (m.idleExpiresAt = m.hardExpiresAt))
          = decide (m.idleExpiresAt ≠ m.hardExpiresAt) := by
        simp
      rw [htick.eq_ok, ok_bind, ok_bind]
      simp only [RuntimeSession.get_idleExpiresAt, RuntimeSession.get_hardExpiresAt,
        deployedInstant_str u.idle_eq, deployedInstant_str u.hard_eq, deployedInstant_str x.exact,
        instant_str u.idle_eq, instant_str u.hard_eq, instant_str x.exact, ok_bind,
        RuntimeSession.get_sessionId, RuntimeSession.get_requestedProfile,
        RuntimeSession.get_binding, RuntimeBinding.get_profileId, publicStateOf_toValue,
        RuntimeSession.get_createdAt, RuntimeSession.get_updatedAt, stateIn_toValue,
        Value.str_strictEq_str, hlive, List.mem_singleton, hextend]
      rfl
  · have hlater : ∀ x : Stamp P, now = .str x.text → ∀ u, instantOf P s.updatedAt = some u →
        x.ms < u := fun x hx u hu => by
      obtain rfl : t.updated = u := Option.some.inj (t.updated_eq.symm.trans hu)
      exact not_le.mp fun hle => hstamp ⟨x, hx, hle⟩
    obtain ⟨⟨e, he⟩, e', he'⟩ := tick_refused hs hlater
    unfold Deployed.publicStatus publicRuntimeSessionStatus
    rw [he, he']
    rfl

/-! ## 7. Runs -/

theorem afterSpecified {s t : RuntimeSession} (hs : s.Valid P) {step : Step P} {updated : Int}
    (hupdated : instantOf P s.updatedAt = some updated) (hle : updated ≤ step.now.ms)
    (h : step.specified s = .ok t) :
    t.Valid P ∧ ∃ u, instantOf P t.updatedAt = some u ∧ u ≤ step.now.ms := by
  rw [specified_eq hs hupdated hle] at h
  obtain ⟨m, hexpire, hbranch⟩ := bind_eq_ok.mp h
  have hkeeps : ∀ {x y : RuntimeSession}, AtMostOne P step.now x y →
      (x.Valid P ∧ ∃ u, instantOf P x.updatedAt = some u ∧ u ≤ step.now.ms) →
      y.Valid P ∧ ∃ u, instantOf P y.updatedAt = some u ∧ u ≤ step.now.ms := by
    rintro x y (rfl | ⟨hchange, hvalid⟩) hx
    · exact hx
    · exact ⟨hvalid, step.now.ms, by rw [hchange.updatedAt, step.now.exact], le_rfl⟩
  have hm := hkeeps (change_of_expireIfDue hexpire) ⟨hs, updated, hupdated, hle⟩
  refine hkeeps ?_ hm
  obtain ⟨now, operation⟩ := step
  cases operation with
  | health b => exact change_of_onRuntimeReady hbranch
  | activity b => exact change_of_onActivity hbranch
  | stop => exact change_of_onStopRequested hbranch
  | stopped => exact change_of_onStopCompleted hbranch
  | failure code => exact change_of_onFail hbranch
  | tick => exact .none hbranch

/-- The object after a step of the deployed machine. -/
def Step.deployedAfter (step : Step P) (v : Value) : Value :=
  match step.deployed v with
  | .ok w => w
  | .error _ => v

/-- The session after a step of the specified machine. -/
def Step.specifiedAfter (step : Step P) (s : RuntimeSession) : RuntimeSession :=
  afterEvent P s step.event

/-- The times of the steps do not decrease, and none is before `last`. -/
def InOrder (last : Int) : List (Step P) → Prop
  | [] => True
  | step :: steps => last ≤ step.now.ms ∧ InOrder step.now.ms steps

/-- The two machines hold the same session and show it in the same way, they accept and refuse the
same steps, and so on after each step. -/
def SameRun : Value → RuntimeSession → List (Step P) → Prop
  | v, s, [] => v = s.toValue ∧ SameView P v s
  | v, s, step :: steps =>
    (v = s.toValue ∧ SameView P v s) ∧ Agree (step.deployed v) (step.specified s) ∧
      SameRun (step.deployedAfter v) (step.specifiedAfter s) steps

/-- No step of the run is one where the machines part. -/
def NeverDiverges : RuntimeSession → List (Step P) → Prop
  | _, [] => True
  | s, step :: steps => ¬ Diverges P s step ∧ NeverDiverges (step.specifiedAfter s) steps

theorem after_of_agree {s : RuntimeSession} {step : Step P}
    (h : Agree (step.deployed s.toValue) (step.specified s)) :
    step.deployedAfter s.toValue = (step.specifiedAfter s).toValue := by
  unfold Step.specifiedAfter afterEvent
  rw [Step.deployedAfter]
  cases hspecified : transitionRuntimeSession P s.toValue step.event with
  | ok t =>
    rw [Step.specified, hspecified] at h
    rw [h.eq_ok]
  | error e =>
    rw [Step.specified, hspecified] at h
    obtain ⟨e', he'⟩ := h.error
    rw [he']

theorem valid_after {s : RuntimeSession} (hs : s.Valid P) {step : Step P} {updated : Int}
    (hupdated : instantOf P s.updatedAt = some updated) (hle : updated ≤ step.now.ms) :
    (step.specifiedAfter s).Valid P ∧
      ∃ u, instantOf P (step.specifiedAfter s).updatedAt = some u ∧ u ≤ step.now.ms := by
  unfold Step.specifiedAfter afterEvent
  split
  · rename_i t ht
    exact afterSpecified hs hupdated hle ht
  · exact ⟨hs, updated, hupdated, hle⟩

/-- Side by side from one session, the machines stay together as long as they do not part. -/
theorem sameRun_iff {steps : List (Step P)} {s : RuntimeSession} (hs : s.Valid P) {updated last : Int}
    (hupdated : instantOf P s.updatedAt = some updated) (hle : updated ≤ last)
    (horder : InOrder last steps) : SameRun s.toValue s steps ↔ NeverDiverges s steps := by
  induction steps generalizing s updated last with
  | nil => exact ⟨fun _ => trivial, fun _ => ⟨rfl, sameView hs⟩⟩
  | cons step steps ih =>
    obtain ⟨hlast, horder⟩ := horder
    have hle := hle.trans hlast
    have hstep := agree_iff hs hupdated hle
    obtain ⟨hvalid, u, hu, hle'⟩ := valid_after hs hupdated hle
    have hrest := ih hvalid hu hle' horder
    constructor
    · rintro ⟨-, hagree, hrun⟩
      rw [after_of_agree hagree] at hrun
      exact ⟨hstep.mp hagree, hrest.mp hrun⟩
    · rintro ⟨hnot, hnever⟩
      have hagree := hstep.mpr hnot
      refine ⟨⟨rfl, sameView hs⟩, hagree, ?_⟩
      rw [after_of_agree hagree]
      exact hrest.mpr hnever

/-- **The deployed machine follows the specified one until they part.**  The two create the same
sessions; and over any operations whose times do not decrease, from a session they created, they
accept and refuse the same steps and hold and show the same session throughout, exactly if no step
is one of the four kinds where they part. -/
theorem deployed_agrees (id : Text) (r : RuntimeRequest) (b : RuntimeBinding) :
    Agree (Deployed.createSession P (deployedInput id r b))
        (createRuntimeSession P (sessionInput id r b)) ∧
      ∀ (s : RuntimeSession) (created : Int) (steps : List (Step P)),
        createRuntimeSession P (sessionInput id r b) = .ok s →
        instantOf P s.createdAt = some created → InOrder created steps →
        (SameRun s.toValue s steps ↔ NeverDiverges s steps) := by
  refine ⟨createSession_agree id r b, fun s created steps hcreate hcreated horder => ?_⟩
  obtain ⟨hvalid, _, _, _, _, rfl⟩ := createRuntimeSession_sessionInput.mp hcreate
  exact sameRun_iff hvalid hcreated le_rfl horder

/-- An operation at the time the sample session is created. -/
def sampleStep (operation : Operation) : Step Platform.node :=
  ⟨⟨sampleBinding.boundAt, 1784023200000, by decide⟩, operation⟩

theorem expireIfDue_sample (operation : Operation) :
    expireIfDue Platform.node sampleSession (sampleStep operation).now = .ok sampleSession := by
  unfold expireIfDue
  rw [if_neg (by decide), instant_str sampleTimes.hard_eq, ok_bind, instant_str sampleTimes.idle_eq,
    ok_bind]
  rfl

theorem deployed_agrees_sample :
    SameRun sampleSession.toValue sampleSession [sampleStep (.health sampleBinding)] := by
  refine ((deployed_agrees sampleId .auto sampleBinding).2 sampleSession 1784023200000
    [sampleStep (.health sampleBinding)]
    createRuntimeSession_sample (by decide) ⟨le_rfl, trivial⟩).mpr ⟨?_, trivial⟩
  rintro ⟨m, hm, hpart⟩
  rw [expireIfDue_sample] at hm
  obtain rfl := Except.ok.inj hm
  rcases hpart with ⟨-, -, hne, -⟩ | ⟨-, hne⟩
  · exact hne rfl
  · exact hne rfl

/-- The machines do part: an activity reported before the runtime is ready is refused by the
specified machine and let pass by the deployed one. -/
theorem not_alwaysSameRun :
    ¬ ∀ (P : Platform) (id : Text) (r : RuntimeRequest) (b : RuntimeBinding) (s : RuntimeSession)
      (created : Int) (steps : List (Step P)),
      createRuntimeSession P (sessionInput id r b) = .ok s →
      instantOf P s.createdAt = some created → InOrder created steps →
      SameRun s.toValue s steps := by
  intro h
  have hrun := h Platform.node sampleId .auto sampleBinding sampleSession 1784023200000
    [sampleStep (.activity sampleBinding)]
    createRuntimeSession_sample (by decide) ⟨le_rfl, trivial⟩
  have hnot := (agree_iff sampleSession_valid sampleTimes.updated_eq le_rfl).mp hrun.2.1
  exact hnot ⟨sampleSession, expireIfDue_sample _, Or.inl rfl⟩

end Runtime
