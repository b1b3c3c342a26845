/-
# What is written, of what was read

A session that is stored is printed, and both Lambdas read back what was printed.  Whatever an
operation of `session.js` makes of it at some time is the session itself or one change of it, and so is
what `runtime-v2.js` writes, as long as the time is not before the last update of the session.
-/
import Archon.Sessions.Invocations
import Archon.Worker.Brief

namespace Sessions

open Ecma Ecma.Value Remediation Runtime
open Worker (Brief brief_str brief_lit brief_object brief_fits brief_ofNat)

/-! ## 1. Stored sessions -/

/-- The instants of a session are instants of RFC 3339, which have years of four digits. -/
structure Dated (P : Platform) (s : RuntimeSession) : Prop where
  created : Control.instant P s.createdAt = true
  updated : Control.instant P s.updatedAt = true
  activity : Control.instant P s.lastActivityAt = true
  idle : Control.instant P s.idleExpiresAt = true
  hard : Control.instant P s.hardExpiresAt = true

/-- The item of a session and its owner. -/
def itemOf (s : RuntimeSession) (principalHash : Text) : Item :=
  ⟨printed s.toValue, s.revision, principalHash⟩

/-- A session as the two Lambdas leave it. -/
structure Kept (P : Platform) (s : RuntimeSession) : Prop where
  valid : s.Valid P
  dated : Dated P s

section Stored

variable {P : Platform} {s : RuntimeSession} {principalHash : Text} {n : Nat}

/-- The names of an enumeration are short. -/
def shortNames (α : Type) [Named α] : Bool :=
  (Named.all : List α).all fun a => Control.isName (Named.name a)

theorem brief_nameValue {α : Type} [Named α] (h : shortNames α = true) (a : α) :
    Brief (nameValue a) 386 := by
  obtain ⟨hascii, hlength⟩ := Bool.and_eq_true_iff.mp (List.all_eq_true.mp h a (Named.mem_all a))
  exact brief_lit ⟨hascii, (of_decide_eq_true hlength).trans (by decide)⟩

theorem brief_nullableName {α : Type} [Named α] (h : shortNames α = true) (a : Option α) :
    Brief (nullableName a) 386 := by
  cases a with
  | none =>
    have hnull : utf8Length Value.null.written ≤ 386 := by decide
    exact ⟨trivial, trivial, hnull⟩
  | some a => exact brief_nameValue h a

/-- The texts of a binding. -/
def bindingTexts (b : RuntimeBinding) : List Text :=
  [b.generation, b.capabilityDigest, b.boundAt, b.leaseExpiresAt]

/-- The texts of a session. -/
def textsOf (s : RuntimeSession) : List Text :=
  [s.sessionId, s.createdAt, s.updatedAt, s.lastActivityAt, s.idleExpiresAt, s.hardExpiresAt]
    ++ bindingTexts s.binding

theorem brief_binding {b : RuntimeBinding} (h : ∀ t ∈ bindingTexts b, Brief (.str t) n) :
    Brief b.toValue (4 * n + 1636) := by
  simp only [bindingTexts, List.forall_mem_cons] at h
  obtain ⟨hgeneration, hdigest, hbound, hexpires, -⟩ := h
  refine (@brief_object _ [386, 386, n, n, 386, n, n] Deployed.BINDING_MEMBERS rfl (by decide)
    (.cons (brief_lit (by decide)) (.cons (brief_nameValue (by decide) _) (.cons hgeneration
      (.cons hdigest (.cons (brief_nameValue (by decide) _) (.cons hbound (.cons hexpires
        .nil)))))))).mono ?_
  simp only [List.map_cons, List.map_nil, List.sum_cons, List.sum_nil]
  omega

/-- A session prints as briefly as its texts. -/
theorem brief_session (hrevision : s.revision ≤ maxSafeInteger + 1)
    (h : ∀ t ∈ textsOf s, Brief (.str t) n) : Brief s.toValue (10 * n + 4480) := by
  obtain ⟨htexts, hbinding⟩ := List.forall_mem_append.mp h
  simp only [List.forall_mem_cons] at htexts
  obtain ⟨hid, hcreated, hupdated, hactivity, hidle, hhard, -⟩ := htexts
  have hsafe : s.revision ≤ 2 ^ 53 := hrevision
  refine (@brief_object _ [386, n, 386, 4 * n + 1636, 386, n, n, n, n, n, 16, 386, 386]
    RUNTIME_SESSION_KEYS rfl (by decide)
    (.cons (brief_lit (by decide)) (.cons hid (.cons (brief_nameValue (by decide) _)
      (.cons (brief_binding hbinding) (.cons (brief_nameValue (by decide) _) (.cons hcreated
        (.cons hupdated (.cons hactivity (.cons hidle (.cons hhard (.cons (brief_ofNat hsafe)
          (.cons (brief_nullableName (by decide) _) (.cons (brief_nullableName (by decide) _)
            .nil)))))))))))))).mono ?_
  simp only [List.map_cons, List.map_nil, List.sum_cons, List.sum_nil]
  omega

theorem fits_isSessionId {t : Text} (h : isSessionId t = true) : Control.Fits t 46 := by
  simp only [isSessionId, Bool.and_eq_true, List.isPrefixOf_iff_prefix, decide_eq_true_eq] at h
  obtain ⟨⟨⟨rest, rfl⟩, hlength⟩, hunits⟩ := h
  have hstart : (js "rs_").length = 3 := by decide
  rw [← hstart, List.drop_left] at hunits
  refine Control.fits_ascii (Control.isAscii_append (by decide)
    (Control.isAscii_of_alphanumeric (List.all_eq_true.mpr fun u hu => ?_))) (le_of_eq hlength)
  have hu := List.all_eq_true.mp hunits u hu
  simp only [Bool.or_eq_true] at hu ⊢
  tauto

theorem Kept.brief (h : Kept P s) : Brief s.toValue (16 * 1024) := by
  have hb := h.valid.binding
  have hbound : Control.instant P s.binding.boundAt = true := h.valid.createdAt ▸ h.dated.created
  have hlease : Control.instant P s.binding.leaseExpiresAt = true :=
    h.valid.hardExpiresAt ▸ h.dated.hard
  have hinstant : ∀ {t : Text}, Control.instant P t = true → Brief (.str t) 258 := fun ht =>
    (brief_fits (Control.fits_instant ht)).mono (by decide)
  refine (brief_session (Nat.le_succ_of_le h.valid.revision) ?_).mono (show 10 * 258 + 4480 ≤ 16 * 1024 by decide)
  simp only [textsOf, bindingTexts, List.cons_append, List.nil_append, List.forall_mem_cons]
  exact ⟨(brief_fits (fits_isSessionId h.valid.sessionId)).mono (by decide),
    hinstant h.dated.created, hinstant h.dated.updated, hinstant h.dated.activity,
    hinstant h.dated.idle, hinstant h.dated.hard,
    brief_fits (Control.fits_isGeneration hb.generation),
    (brief_fits (Control.fits_isDigest hb.capabilityDigest)).mono (by decide), hinstant hbound,
    hinstant hlease, fun _ hmem => absurd hmem List.not_mem_nil⟩

/-- What was printed is read. -/
theorem parse_printed (h : s.revision ≤ maxSafeInteger + 1) : parse (printed s.toValue) = some s.toValue := by
  have htext : ∀ t ∈ textsOf s,
      Brief (.str t) ((textsOf s).map fun t => utf8Length (Value.str t).written).sum :=
    fun t ht => ⟨trivial, trivial, List.single_le_sum (fun _ _ => Nat.zero_le _) _
      (List.mem_map_of_mem ht)⟩
  exact (brief_session h htext).read.1

/-- Sessions are told apart by their texts. -/
theorem toValue_of_printed {t : RuntimeSession} (hs : s.revision ≤ maxSafeInteger + 1)
    (ht : t.revision ≤ maxSafeInteger + 1) (h : printed t.toValue = printed s.toValue) :
    t.toValue = s.toValue := by
  have hread := parse_printed ht
  rw [h, parse_printed hs] at hread
  exact (Option.some.inj hread).symm

/-- A valid session is told apart by its text. -/
theorem printed_inj {t : RuntimeSession} (hs : s.Valid P) (ht : t.revision ≤ maxSafeInteger)
    (h : printed t.toValue = printed s.toValue) : t = s := by
  have hvalue := toValue_of_printed (Nat.le_succ_of_le hs.revision) (Nat.le_succ_of_le ht) h
  have hvalid := validateRuntimeSession_toValue hs
  rw [← hvalue] at hvalid
  exact ((validateRuntimeSession_toValue_iff ht).mp hvalid).2.symm

end Stored

/-! ## 2. Moves -/

/-- The idle deadline is the one it was, or the one that a reading of the clock gives. -/
def Idle (P : Platform) (x : Stamp P) (s t : RuntimeSession) : Prop :=
  t.idleExpiresAt = s.idleExpiresAt ∨ ∃ hard, instantOf P s.hardExpiresAt = some hard
    ∧ t.idleExpiresAt = idleDeadline P x.ms hard

/-- Nothing, or one change to a valid session. -/
def Moved (P : Platform) (x : Stamp P) (s t : RuntimeSession) : Prop :=
  t = s ∨ Change P x s t ∧ t.Valid P ∧ Idle P x s t

/-- The value is a session that the session has moved to. -/
def Gives (P : Platform) (x : Stamp P) (s : RuntimeSession) (v : Value) : Prop :=
  ∃ t, v = t.toValue ∧ t.Valid P ∧ Moved P x s t

section Moves

variable {P : Platform} {x : Stamp P} {s : RuntimeSession} {v : Value}

theorem gives_self (hs : s.Valid P) : Gives P x s s.toValue := ⟨s, rfl, hs, Or.inl rfl⟩

theorem validated (hs : s.Valid P) : Deployed.validateSession P s.toValue = .ok s.toValue :=
  (validateSession_toValue hs.revision).mpr ⟨hs, rfl⟩

theorem gives_evolve (changed : RuntimeSession) {change : List (String × Value)} (hs : s.Valid P)
    (hspread : Deployed.spreadWith s.toValue
        (change ++ [("revision", .num (.ofNat (s.revision + 1)))])
      = { changed with revision := s.revision + 1 }.toValue)
    (hchange : Change P x s { changed with revision := s.revision + 1 }) (hidle : Idle P x s changed)
    (h : Deployed.evolve P s.toValue change = .ok v) : Gives P x s v := by
  have hagree := evolve_agree hs hspread
  rw [h] at hagree
  cases hevolve : Runtime.evolve P s changed with
  | error e =>
    rw [hevolve] at hagree
    exact absurd hagree agree_ok_error
  | ok t =>
    rw [hevolve] at hagree
    obtain ⟨-, rfl, hvalid⟩ := evolve_eq_ok.mp hevolve
    exact ⟨_, agree_ok_ok.mp hagree, hvalid, Or.inr ⟨hchange, hvalid, hidle⟩⟩

theorem gives_tick (hs : s.Valid P) (h : Deployed.tick P s.toValue (.str x.text) = .ok v) :
    ∃ m, v = m.toValue ∧ m.Valid P ∧ Moved P x s m ∧ (m = s ∨ m.state = .EXPIRED)
      ∧ ∃ u, instantOf P s.updatedAt = some u ∧ u ≤ x.ms := by
  obtain ⟨t, -⟩ := hs.chronology
  by_cases hle : t.updated ≤ x.ms
  · have hagree := tick_agree hs t.updated_eq hle
    rw [h] at hagree
    cases hexpire : expireIfDue P s x with
    | error e =>
      rw [hexpire] at hagree
      exact absurd hagree agree_ok_error
    | ok m =>
      rw [hexpire] at hagree
      have hstate := expired_of_expireIfDue hexpire
      rcases change_of_expireIfDue hexpire with rfl | ⟨hchange, hvalid⟩
      · exact ⟨m, agree_ok_ok.mp hagree, hs, Or.inl rfl, Or.inl rfl, _, t.updated_eq, hle⟩
      · refine ⟨m, agree_ok_ok.mp hagree, hvalid, Or.inr ⟨hchange, hvalid, ?_⟩,
          hstate.imp id fun h => h.2, _, t.updated_eq, hle⟩
        rcases hstate with rfl | ⟨-, hexpired⟩
        · exact Or.inl rfl
        · cases hchange with
          | renewed => cases hexpired
          | _ => exact Or.inl rfl
  · obtain ⟨⟨e, he⟩, -⟩ := @tick_refused _ _ hs (.str x.text) fun y hy u hu => by
      rw [Stamp.ms_eq (Value.str.inj hy).symm, Option.some.inj (hu.symm.trans t.updated_eq)]
      exact not_le.mp hle
    rw [he] at h
    cases h

theorem gives_failWith {code : RuntimeSessionFailureCode} (hs : s.Valid P)
    (h : failWith P s.toValue code x = .ok v) : Gives P x s v := by
  rw [failWith, Deployed.failSession, validated hs, ok_bind, readNamed_nameValue,
    Option.isNone_some, throwIf_false, ok_bind, stateIn_toValue] at h
  split at h
  case isTrue =>
    obtain rfl := Except.ok.inj h
    exact gives_self hs
  case isFalse hover =>
    have hstate : s.state ≠ .STOPPED := by
      intro hstopped
      exact hover (by simp [hstopped])
    exact gives_evolve { s with
      state := .FAILED, updatedAt := x.text, endReason := some .CONTROL_FAILURE
      failureCode := some code } hs
      (by simp [Deployed.spreadWith, RuntimeSession.toValue, Value.object, Deployed.setMember])
      (.failed code hstate) (Or.inl rfl) h

theorem gives_completeStop (hs : s.Valid P)
    (h : Deployed.completeStop P s.toValue (.str x.text) = .ok v) : Gives P x s v := by
  rw [Deployed.completeStop, validated hs, ok_bind, stateIn_toValue, stateIn_toValue] at h
  split at h
  case isTrue =>
    obtain rfl := Except.ok.inj h
    exact gives_self hs
  case isFalse =>
    obtain ⟨_, hstopping, h⟩ := bind_eq_ok.mp h
    have hstate : s.state = .STOPPING := by simpa using hstopping
    exact gives_evolve { s with state := .STOPPED, updatedAt := x.text } hs
      (by simp [Deployed.spreadWith, RuntimeSession.toValue, Value.object, Deployed.setMember])
      (.stopped hstate) (Or.inl rfl) h

/-- The session is bound to what it is bound to. -/
theorem sameBinding_self (hs : s.Valid P) :
    Deployed.sameBinding P (s.toValue.get (js "binding")) s.binding.toValue = .ok true := by
  rw [RuntimeSession.get_binding, sameBinding_toValue hs.binding hs.binding, decide_eq_true rfl]

theorem gives_markReady (hs : s.Valid P)
    (h : Deployed.markReady P s.toValue s.binding.toValue (.str x.text) = .ok v) : Gives P x s v := by
  obtain ⟨_, htick, h⟩ := bind_eq_ok.mp h
  obtain ⟨m, rfl, hm, hmoved, hstate, -⟩ := gives_tick hs htick
  rw [stateIn_toValue] at h
  split at h
  case isTrue =>
    obtain rfl := Except.ok.inj h
    exact ⟨m, rfl, hm, hmoved⟩
  case isFalse hstarting =>
    have hstarting : m.state = .STARTING := by simpa using hstarting
    rcases hstate with rfl | hexpired
    · obtain ⟨t, -⟩ := hs.chronology
      rw [sameBinding_self hs, ok_bind, Bool.not_true, if_neg Bool.false_ne_true,
        deployedInstant_str x.exact, ok_bind, RuntimeSession.get_hardExpiresAt,
        deployedInstant_str t.hard_eq, ok_bind] at h
      exact gives_evolve { m with
        state := .ACTIVE, updatedAt := x.text, lastActivityAt := x.text
        idleExpiresAt := idleDeadline P x.ms t.hard } hs
        (by simp [Deployed.spreadWith, RuntimeSession.toValue, Value.object, Deployed.setMember])
        (.renewed _ (by rw [hstarting]; rfl)) (Or.inr ⟨_, t.hard_eq, rfl⟩) h
    · rw [hexpired] at hstarting
      cases hstarting

theorem gives_activity (hs : s.Valid P)
    (h : Deployed.activity P s.toValue s.binding.toValue (.str x.text) = .ok v) : Gives P x s v := by
  obtain ⟨_, htick, h⟩ := bind_eq_ok.mp h
  obtain ⟨m, rfl, hm, hmoved, hstate, -⟩ := gives_tick hs htick
  rw [stateIn_toValue] at h
  split at h
  case isTrue =>
    obtain rfl := Except.ok.inj h
    exact ⟨m, rfl, hm, hmoved⟩
  case isFalse hactive =>
    have hactive : m.state = .ACTIVE := by simpa using hactive
    rcases hstate with rfl | hexpired
    · obtain ⟨t, -⟩ := hs.chronology
      rw [sameBinding_self hs, ok_bind, Bool.not_true, if_neg Bool.false_ne_true,
        deployedInstant_str x.exact, ok_bind, RuntimeSession.get_hardExpiresAt,
        deployedInstant_str t.hard_eq, ok_bind] at h
      exact gives_evolve { m with
        state := .ACTIVE, updatedAt := x.text, lastActivityAt := x.text
        idleExpiresAt := idleDeadline P x.ms t.hard } hs
        (by simp [Deployed.spreadWith, RuntimeSession.toValue, Value.object, Deployed.setMember, hactive])
        (.renewed _ (by rw [hactive]; rfl)) (Or.inr ⟨_, t.hard_eq, rfl⟩) h
    · rw [hexpired] at hactive
      cases hactive

theorem gives_requestStop (hs : s.Valid P)
    (h : Deployed.requestStop P s.toValue (.str x.text) = .ok v) : Gives P x s v := by
  obtain ⟨_, htick, hrest⟩ := bind_eq_ok.mp h
  obtain ⟨m, rfl, hm, hmoved, hstate, -⟩ := gives_tick hs htick
  rw [stateIn_toValue] at hrest
  split at hrest
  case isTrue =>
    obtain rfl := Except.ok.inj hrest
    exact ⟨m, rfl, hm, hmoved⟩
  case isFalse hover =>
    rcases hstate with rfl | hexpired
    · have hstopped : m.state ≠ .STOPPED := by
        intro hstopped
        exact hover (by simp [hstopped])
      exact gives_evolve { m with
        state := .STOPPING, updatedAt := x.text, endReason := some .USER_REQUEST } hs
        (by simp [Deployed.spreadWith, RuntimeSession.toValue, Value.object, Deployed.setMember])
        (.stopping .USER_REQUEST hstopped) (Or.inl rfl) hrest
    · exact absurd (by simp [hexpired]) hover

/-! ## 3. Reconciliation -/

theorem gives_withReady {raw : Value} (hs : s.Valid P) (h : withReady P s.toValue raw x = .ok v) :
    Gives P x s v := by
  obtain ⟨health, -, hrest⟩ := bind_eq_ok.mp h
  split at hrest
  · exact gives_failWith hs hrest
  · split at hrest
    · rw [RuntimeSession.get_binding] at hrest
      exact gives_markReady hs hrest
    · obtain rfl := Except.ok.inj hrest
      exact gives_self hs

theorem gives_withCore {raw : Option Value} (hs : s.Valid P)
    (h : withCore P s.toValue raw x = .ok v) : Gives P x s v := by
  cases raw with
  | none =>
    rw [withCore] at h
    split at h
    · exact gives_failWith hs h
    · obtain rfl := Except.ok.inj h
      exact gives_self hs
  | some raw =>
    simp only [withCore] at h
    split at h
    · exact gives_completeStop hs h
    split at h
    · exact gives_failWith hs h
    split at h
    · split at h
      case h_1 next hready =>
        obtain rfl := Except.ok.inj h
        exact gives_withReady hs hready
      case h_2 => exact gives_failWith hs h
    split at h
    · exact gives_failWith hs h
    · obtain rfl := Except.ok.inj h
      exact gives_self hs

theorem gives_withCloud {raw : Option Value} (hs : s.Valid P)
    (h : withCloud P s.toValue raw x = .ok v) : Gives P x s v := by
  simp only [withCloud] at h
  split at h
  case h_1 next hchecked =>
    obtain rfl := Except.ok.inj h
    cases raw with
    | none => cases hchecked
    | some raw =>
      obtain ⟨health, -, hrest⟩ := bind_eq_ok.mp hchecked
      split at hrest
      · exact gives_failWith hs hrest
      · obtain rfl := Except.ok.inj hrest
        exact gives_self hs
  case h_2 => exact gives_failWith hs h

/-- A move keeps the session and its binding. -/
theorem Moved.same {t : RuntimeSession} (h : Moved P x s t) :
    t.sessionId = s.sessionId ∧ t.binding = s.binding := by
  rcases h with rfl | ⟨hchange, -, -⟩
  · exact ⟨rfl, rfl⟩
  · exact ⟨hchange.extends.sessionId, hchange.extends.binding⟩

theorem isBoundTo_toValue (s : RuntimeSession) (profile : RuntimeProfileId) :
    isBoundTo s.toValue (Named.name profile) = decide (s.binding.profileId = profile) := by
  rw [isBoundTo, RuntimeSession.get_binding, RuntimeBinding.get_profileId, Bool.eq_iff_iff,
    decide_eq_true_iff]
  exact nameValue_isText _ _

theorem revision_of_change {t : RuntimeSession} (h : Change P x s t) : t.revision = s.revision + 1 := by
  cases h <;> rfl

end Moves

/-! ## 4. The other reader -/

/-- The two hours after a reading of the clock, as far as they are written: their instants have years
of four digits, and are read back. -/
structure InEra (P : Platform) (x : Stamp P) : Prop where
  reading : Control.instant P x.text = true
  idle : Control.instant P (P.toISOString (x.ms + RUNTIME_IDLE_LEASE_MS)) = true
  idle_exact : instantOf P (P.toISOString (x.ms + RUNTIME_IDLE_LEASE_MS))
    = some (x.ms + RUNTIME_IDLE_LEASE_MS)
  hard : Control.instant P (P.toISOString (x.ms + RUNTIME_HARD_LEASE_MS)) = true

section Reader

variable {P : Platform} {x : Stamp P} {s : RuntimeSession} {principalHash : Text}

theorem dateParse_of_instantOf {t : Text} {ms : Int} (h : instantOf P t = some ms) :
    P.dateParse t = some ms ∧ P.toISOString ms = t := by
  obtain ⟨hparse, htext⟩ := Option.filter_eq_some_iff.mp h
  exact ⟨hparse, of_decide_eq_true htext⟩

theorem timeOf_str {t : Text} {ms : Int} (h : instantOf P t = some ms) : timeOf P (.str t) = ms := by
  rw [timeOf, (dateParse_of_instantOf h).1, Option.getD_some]

theorem names_isText {α : Type} [Named α] {names : List String} (h : (Named.all : List α).all
    (fun a => names.contains (Named.name a)) = true) (a : α) :
    (names.any fun n => (nameValue a).isText (js n)) = true := by
  have hmem := List.all_eq_true.mp h a (Named.mem_all a)
  exact List.any_eq_true.mpr ⟨_, List.contains_iff_mem.mp hmem, Value.isText_iff.mpr rfl⟩

theorem runBinding_toValue (h : Kept P s) :
    runBinding P s.binding.toValue = .ok s.binding.toValue := by
  have hkeys : s.binding.toValue.exactKeys Deployed.BINDING_MEMBERS = true :=
    Value.exactKeys_object (List.Perm.refl Deployed.BINDING_MEMBERS)
  obtain ⟨start, stop, hstart, hstop, hlt, hle⟩ := h.valid.binding.lease
  have hbound : timeOf P (.str s.binding.boundAt) = start.ms := timeOf_str (hstart ▸ start.exact)
  have hlease : timeOf P (.str s.binding.leaseExpiresAt) = stop.ms := timeOf_str (hstop ▸ stop.exact)
  have hboundAt : isInstant P (.str s.binding.boundAt) = true := h.valid.createdAt ▸ h.dated.created
  have hleaseAt : isInstant P (.str s.binding.leaseExpiresAt) = true :=
    h.valid.hardExpiresAt ▸ h.dated.hard
  have hprofile : (["cloud", "core"].any fun p => (nameValue s.binding.profileId).isText (js p)) = true :=
    names_isText (by decide) _
  have hresolution :
      (["auto", "explicit"].any fun r => (nameValue s.binding.resolution).isText (js r)) = true :=
    names_isText (by decide) _
  have hwithin : (decide (stop.ms ≤ start.ms)
      || decide (2 * 60 * 60 * 1000 < stop.ms - start.ms)) = false := by
    have hhours : RUNTIME_HARD_LEASE_MS = 2 * 60 * 60 * 1000 := by decide
    rw [Bool.or_eq_false_iff, decide_eq_false_iff_not, decide_eq_false_iff_not]
    omega
  rw [Bool.or_eq_false_iff] at hwithin
  simp only [runBinding, hkeys, RuntimeBinding.get_schemaVersion, RuntimeBinding.get_profileId,
    RuntimeBinding.get_generation, RuntimeBinding.get_capabilityDigest,
    RuntimeBinding.get_resolution, RuntimeBinding.get_boundAt, RuntimeBinding.get_leaseExpiresAt,
    test_str, Value.isText_lit, decide_true, hprofile, hresolution, hboundAt, hleaseAt, hbound, hlease,
    h.valid.binding.generation, h.valid.binding.capabilityDigest, hwithin.1, hwithin.2, Bool.not_true,
    Bool.or_false, throwIf_false, ok_bind, pure_eq_ok]

theorem inconsistent_toValue (s : RuntimeSession) :
    inconsistent s.toValue s.binding.toValue = Runtime.requestUnbound s.requestedProfile s.binding := by
  rw [← requestUnbound_toValue, inconsistent, RuntimeSession.get_requestedProfile]
  rfl

/-- A session that is kept is accepted by the other reader too. -/
theorem parsePayload_toValue (h : Kept P s) :
    parsePayload P s.toValue s.revision = .ok s.toValue := by
  obtain ⟨t, hchron⟩ := h.valid.chronology
  simp only [chronologyInvalid, Bool.or_eq_false_iff] at hchron
  obtain ⟨⟨⟨⟨⟨⟨h₁, h₂⟩, h₃⟩, h₄⟩, h₅⟩, -⟩, -⟩ := hchron
  have hrequest : (["auto", "cloud", "core"].any
      fun r => (nameValue s.requestedProfile).isText (js r)) = true := names_isText (by decide) _
  have hstate : Deployed.stateIn s.toValue [.STARTING, .ACTIVE, .STOPPING, .STOPPED, .EXPIRED, .FAILED]
      = true := by
    rw [stateIn_toValue, decide_eq_true_iff]
    exact Named.mem_all s.state
  have hinstants : (["createdAt", "updatedAt", "lastActivityAt", "idleExpiresAt", "hardExpiresAt"].all
      fun key => isInstant P (s.toValue.get (js key))) = true := by
    simp [isInstant, h.dated.created, h.dated.updated, h.dated.activity, h.dated.idle, h.dated.hard]
  simp only [parsePayload, s.exactKeys_toValue, RuntimeSession.get_schemaVersion,
    RuntimeSession.get_sessionId, RuntimeSession.get_requestedProfile, RuntimeSession.get_binding,
    RuntimeSession.get_createdAt, RuntimeSession.get_updatedAt, RuntimeSession.get_lastActivityAt,
    RuntimeSession.get_idleExpiresAt, RuntimeSession.get_hardExpiresAt, RuntimeSession.get_revision,
    RuntimeBinding.get_boundAt, RuntimeBinding.get_leaseExpiresAt, test_str, Value.isText_lit,
    decide_true, hrequest, hstate, hinstants, h.valid.sessionId, Value.ofNat_strictEq_ofNat,
    runBinding_toValue h, inconsistent_toValue, h.valid.request,
    Value.str_strictEq_str, h.valid.createdAt, h.valid.hardExpiresAt,
    timeOf_str (h.valid.createdAt ▸ t.created_eq), timeOf_str t.updated_eq,
    timeOf_str t.lastActivity_eq, timeOf_str t.idle_eq,
    timeOf_str (h.valid.hardExpiresAt ▸ t.hard_eq), h₁, h₂, h₃, h₄, h₅, spreadWith_binding,
    Bool.not_true, Bool.or_false, throwIf_false, ok_bind, pure_eq_ok]

theorem printed_not_empty (h : s.revision ≤ maxSafeInteger + 1) : (printed s.toValue).isEmpty = false := by
  have hread := parse_printed h
  cases htext : printed s.toValue with
  | nil =>
    rw [htext] at hread
    cases hread
  | cons => rfl

/-- What the other reader makes of the item of a session that is kept. -/
theorem parseSessionItem_kept (h : Kept P s) (hhash : isDigestText principalHash = true) :
    parseSessionItem P (itemOf s principalHash) none = .ok s.toValue := by
  have hrevision := Nat.le_succ_of_le h.valid.revision
  have hbytes : utf8Length (printed s.toValue) ≤ 16 * 1024 := h.brief.read.2
  have hform : ((printed s.toValue).isEmpty || decide (16 * 1024 < utf8Length (printed s.toValue))
      || !isDigestText principalHash || decide (maxSafeInteger < s.revision)) = false := by
    rw [printed_not_empty hrevision, hhash, decide_eq_false (not_lt.mpr hbytes),
      decide_eq_false (not_lt.mpr h.valid.revision)]
    rfl
  rw [parseSessionItem, itemOf]
  simp only [hform, throwIf_false, ok_bind, parse_printed hrevision, parsePayload_toValue h]
  rfl

theorem runBinding_eq_ok {v w : Value} (h : runBinding P v = .ok w) : w = v := by
  rw [runBinding] at h
  obtain ⟨_, -, h⟩ := bind_eq_ok.mp h
  obtain ⟨_, -, h⟩ := bind_eq_ok.mp h
  obtain ⟨_, -, h⟩ := bind_eq_ok.mp h
  obtain ⟨_, -, h⟩ := bind_eq_ok.mp h
  obtain ⟨_, -, h⟩ := bind_eq_ok.mp h
  obtain ⟨_, -, h⟩ := bind_eq_ok.mp h
  exact (Except.ok.inj h).symm

/-- Whatever the other reader accepts it takes as it is, and its revision is a safe integer. -/
theorem parseSessionItem_eq_ok {owner : Option Text} {v : Value}
    (hrevision : s.revision ≤ maxSafeInteger + 1)
    (h : parseSessionItem P (itemOf s principalHash) owner = .ok v) :
    v = s.toValue ∧ s.revision ≤ maxSafeInteger := by
  rw [parseSessionItem] at h
  obtain ⟨_, hform, h⟩ := bind_eq_ok.mp h
  obtain ⟨_, -, h⟩ := bind_eq_ok.mp h
  have hread : parse (itemOf s principalHash).payload = some s.toValue := parse_printed hrevision
  rw [throwIf_eq_ok, Bool.or_eq_false_iff, decide_eq_false_iff_not, not_lt] at hform
  rw [hread] at h
  refine ⟨?_, hform.2⟩
  dsimp only at h
  rw [parsePayload] at h
  obtain ⟨_, -, h⟩ := bind_eq_ok.mp h
  obtain ⟨_, -, h⟩ := bind_eq_ok.mp h
  obtain ⟨_, -, h⟩ := bind_eq_ok.mp h
  obtain ⟨_, -, h⟩ := bind_eq_ok.mp h
  obtain ⟨binding, hbinding, h⟩ := bind_eq_ok.mp h
  obtain ⟨_, -, h⟩ := bind_eq_ok.mp h
  obtain rfl := runBinding_eq_ok hbinding
  rw [RuntimeSession.get_binding] at h
  rw [← Except.ok.inj h, spreadWith_binding]

/-- Only a valid session passes the first reader. -/
theorem valid_of_validateSession {v : Value} (hrevision : s.revision ≤ maxSafeInteger + 1)
    (h : Deployed.validateSession P s.toValue = .ok v) : s.Valid P ∧ v = s.toValue := by
  rcases Nat.lt_or_eq_of_le hrevision with hlt | heq
  · exact (validateSession_toValue (Nat.lt_succ_iff.mp hlt)).mp h
  · rw [Deployed.validateSession] at h
    obtain ⟨_, -, h⟩ := bind_eq_ok.mp h
    obtain ⟨_, -, h⟩ := bind_eq_ok.mp h
    obtain ⟨_, -, h⟩ := bind_eq_ok.mp h
    obtain ⟨_, -, h⟩ := bind_eq_ok.mp h
    obtain ⟨_, -, h⟩ := bind_eq_ok.mp h
    obtain ⟨_, -, h⟩ := bind_eq_ok.mp h
    obtain ⟨_, -, h⟩ := bind_eq_ok.mp h
    obtain ⟨_, -, h⟩ := bind_eq_ok.mp h
    obtain ⟨_, -, h⟩ := bind_eq_ok.mp h
    obtain ⟨_, -, h⟩ := bind_eq_ok.mp h
    obtain ⟨_, hcounter, -⟩ := bind_eq_ok.mp h
    have hexhausted : (Value.num (.ofNat (maxSafeInteger + 1))).counter.isNone = true := by
      decide +kernel
    rw [throwIf_eq_ok, RuntimeSession.get_revision, heq, hexhausted] at hcounter
    cases hcounter

/-- What `runtime-v2.js` writes, of an active session. -/
def renewed (P : Platform) (s : RuntimeSession) (x : Stamp P) : RuntimeSession :=
  { s with
    state := .ACTIVE, updatedAt := x.text, lastActivityAt := x.text
    idleExpiresAt := idleDeadline P x.ms (timeOf P (.str s.hardExpiresAt)), revision := s.revision + 1 }

theorem extended_toValue (hrevision : s.revision ≤ maxSafeInteger) (hstate : s.state = .ACTIVE) :
    extended P s.toValue x = (renewed P s x).toValue := by
  rw [extended, RuntimeSession.get_hardExpiresAt, revisionOf, RuntimeSession.get_revision,
    Value.counter_num_ofNat hrevision, Option.getD_some]
  simp [Deployed.spreadWith, RuntimeSession.toValue, Value.object, Deployed.setMember, renewed, hstate,
    idleDeadline, RUNTIME_IDLE_LEASE_MS]

/-- It is a change to a valid session, in an era, where the time is not before the last update. -/
theorem renewed_valid {updated hard : Int} (hs : s.Valid P)
    (hupdated : instantOf P s.updatedAt = some updated) (hle : updated ≤ x.ms)
    (hhard : instantOf P s.hardExpiresAt = some hard) (hlate : x.ms < hard)
    (hstate : s.state = .ACTIVE) (hrevision : s.revision < maxSafeInteger) (hx : InEra P x) :
    (renewed P s x).Valid P := by
  obtain ⟨t, hchron⟩ := hs.chronology
  obtain rfl : t.updated = updated := Option.some.inj (t.updated_eq.symm.trans hupdated)
  obtain rfl : t.hard = hard := Option.some.inj (t.hard_eq.symm.trans hhard)
  rw [renewed, timeOf_str t.hard_eq]
  have hdeadline : instantOf P (idleDeadline P x.ms t.hard)
      = some (min (x.ms + RUNTIME_IDLE_LEASE_MS) t.hard) := by
    rw [idleDeadline]
    rcases le_total (x.ms + RUNTIME_IDLE_LEASE_MS) t.hard with hmin | hmin
    · rw [min_eq_left hmin]
      exact hx.idle_exact
    · rw [min_eq_right hmin, (dateParse_of_instantOf t.hard_eq).2]
      exact t.hard_eq
  have hlease : (0 : Int) < RUNTIME_IDLE_LEASE_MS := by decide
  simp only [chronologyInvalid, Bool.or_eq_false_iff, decide_eq_false_iff_not, not_lt, not_le] at hchron
  obtain ⟨⟨⟨⟨⟨⟨h₁, h₂⟩, h₃⟩, h₄⟩, h₅⟩, h₆⟩, h₇⟩ := hchron
  have hmin : min (x.ms + RUNTIME_IDLE_LEASE_MS) t.hard ≤ t.hard := min_le_right _ _
  have hafter : x.ms < min (x.ms + RUNTIME_IDLE_LEASE_MS) t.hard := lt_min (by omega) hlate
  refine { hs with
    chronology := ⟨{ t with
      updated := x.ms, updated_eq := x.exact, lastActivity := x.ms, lastActivity_eq := x.exact
      idle := min (x.ms + RUNTIME_IDLE_LEASE_MS) t.hard, idle_eq := hdeadline }, ?_⟩
    revision := hrevision
    terminal := ?_ }
  · simp only [chronologyInvalid, Bool.or_eq_false_iff, decide_eq_false_iff_not, not_lt, not_le]
    refine ⟨⟨⟨⟨⟨⟨?_, ?_⟩, le_rfl⟩, hafter⟩, hmin⟩, h₆⟩, h₇⟩ <;> omega
  · have hterminal := hs.terminal
    rwa [hstate] at hterminal

/-- The instants of a session that has moved. -/
theorem dated_of_change {t : RuntimeSession} (hs : Dated P s) (hx : InEra P x) (h : Change P x s t)
    (hidle : Idle P x s t) : Dated P t := by
  have hdeadline : Control.instant P t.idleExpiresAt = true := by
    rcases hidle with hsame | ⟨hard, hhard, hnew⟩
    · rw [hsame]
      exact hs.idle
    · rw [hnew, idleDeadline]
      rcases le_total (x.ms + RUNTIME_IDLE_LEASE_MS) hard with hmin | hmin
      · rw [min_eq_left hmin]
        exact hx.idle
      · rw [min_eq_right hmin, (dateParse_of_instantOf hhard).2]
        exact hs.hard
  have hactivity : Control.instant P t.lastActivityAt = true := by
    cases h with
    | renewed => exact hx.reading
    | _ => exact hs.activity
  exact {
    created := h.extends.createdAt ▸ hs.created
    updated := h.updatedAt ▸ hx.reading
    activity := hactivity
    idle := hdeadline
    hard := h.extends.hardExpiresAt ▸ hs.hard }

end Reader

/-! ## 5. A new session -/

section Created

variable {P : Platform} {x : Stamp P}

/-- A record of a runtime that was accepted has strings for the members that a binding takes. -/
structure Healthy (health : Value) (profile : RuntimeProfileId) (generation digest : Text) : Prop where
  profileId : health.get (js "profileId") = nameValue profile
  generation : health.get (js "generation") = .str generation
  capabilityDigest : health.get (js "capabilityDigest") = .str digest

theorem healthy_of_validateHealth {raw now health : Value} {candidate : Bool} {profile : RuntimeProfileId}
    (h : Cloud.validateHealth P raw (js (Named.name profile)) now candidate = .ok health) :
    ∃ generation digest, Healthy health profile generation digest := by
  rw [Cloud.validateHealth] at h
  obtain ⟨_, -, h⟩ := bind_eq_ok.mp h
  obtain ⟨generation, -, h⟩ := bind_eq_ok.mp h
  obtain ⟨_, -, h⟩ := bind_eq_ok.mp h
  obtain ⟨digest, -, h⟩ := bind_eq_ok.mp h
  obtain ⟨_, -, h⟩ := bind_eq_ok.mp h
  obtain ⟨_, -, h⟩ := bind_eq_ok.mp h
  obtain ⟨_, -, h⟩ := bind_eq_ok.mp h
  obtain ⟨_, -, h⟩ := bind_eq_ok.mp h
  obtain ⟨_, -, h⟩ := bind_eq_ok.mp h
  obtain ⟨_, -, h⟩ := bind_eq_ok.mp h
  obtain ⟨_, -, h⟩ := bind_eq_ok.mp h
  obtain ⟨_, -, h⟩ := bind_eq_ok.mp h
  obtain rfl := Except.ok.inj h
  refine ⟨generation, digest, ?_, ?_, ?_⟩
  · rw [get_object]
    rfl
  · rw [get_object]
    rfl
  · rw [get_object]
    rfl

/-- The binding that a new session gets. -/
def newBinding (P : Platform) (requested : RuntimeRequest) (profile : RuntimeProfileId)
    (generation digest : Text) (x : Stamp P) : RuntimeBinding where
  profileId := profile
  generation := generation
  capabilityDigest := digest
  resolution := if requested = .auto then .auto else .explicit
  boundAt := x.text
  leaseExpiresAt := P.toISOString (x.ms + RUNTIME_HARD_LEASE_MS)

theorem bindingFor_toValue {requested : RuntimeRequest} {selected : Selection}
    {profile : RuntimeProfileId} {generation digest : Text}
    (h : Healthy selected.health profile generation digest) :
    bindingFor P requested selected x = (newBinding P requested profile generation digest x).toValue := by
  rw [bindingFor, h.profileId, h.generation, h.capabilityDigest]
  by_cases hauto : requested = .auto
  · simp only [newBinding, RuntimeBinding.toValue, if_pos hauto]
    rfl
  · simp only [newBinding, RuntimeBinding.toValue, if_neg hauto]
    rfl

/-- The session that is created, live and bound at `x`. -/
def newSession (P : Platform) (id : Text) (requested : RuntimeRequest) (binding : RuntimeBinding)
    (state : RuntimeSessionState) (created hard : Int) : RuntimeSession :=
  { freshSession P id requested binding created hard with state }

theorem createSession_new {id : Text} {requested : RuntimeRequest} {b : RuntimeBinding}
    {state : RuntimeSessionState} {v : Value} (h : Deployed.createSession P
      (object [("sessionId", .str id), ("requestedProfile", nameValue requested),
        ("binding", b.toValue), ("state", nameValue state)]) = .ok v) :
    ∃ created hard, instantOf P b.boundAt = some created ∧ instantOf P b.leaseExpiresAt = some hard
      ∧ v = (newSession P id requested b state created hard).toValue
      ∧ (newSession P id requested b state created hard).Valid P := by
  rw [Deployed.createSession] at h
  obtain ⟨_, -, h⟩ := bind_eq_ok.mp h
  obtain ⟨binding, hbinding, h⟩ := bind_eq_ok.mp h
  obtain ⟨_, -, h⟩ := bind_eq_ok.mp h
  obtain ⟨created, hcreated, h⟩ := bind_eq_ok.mp h
  obtain ⟨hard, hhard, h⟩ := bind_eq_ok.mp h
  obtain ⟨sessionId, hid, h⟩ := bind_eq_ok.mp h
  have hget : (object [("sessionId", .str id), ("requestedProfile", nameValue requested),
      ("binding", b.toValue), ("state", nameValue state)]).get (js "binding") = b.toValue := by
    rw [get_object]
    rfl
  rw [hget] at hbinding
  obtain ⟨-, rfl⟩ := validateBinding_toValue.mp hbinding
  have hid' : Deployed.validateSessionId (.str id) = .ok sessionId := by
    rw [← hid, get_object]
    rfl
  obtain ⟨-, rfl⟩ := validateSessionId_str.mp hid'
  have hbound : b.boundAt = created.text := by
    have := deployedInstant_eq_ok.mp hcreated
    rw [RuntimeBinding.get_boundAt] at this
    exact Value.str.inj this
  have hlease : b.leaseExpiresAt = hard.text := by
    have := deployedInstant_eq_ok.mp hhard
    rw [RuntimeBinding.get_leaseExpiresAt] at this
    exact Value.str.inj this
  have hfinal : Deployed.validateSession P
      (newSession P id requested b state created.ms hard.ms).toValue = .ok v := by
    rw [← h, RuntimeBinding.get_boundAt, RuntimeBinding.get_leaseExpiresAt, get_object, get_object]
    rfl
  obtain ⟨hvalid, rfl⟩ := (validateSession_toValue (Nat.zero_le _)).mp hfinal
  exact ⟨created.ms, hard.ms, by rw [hbound, created.exact], by rw [hlease, hard.exact], rfl, hvalid⟩

theorem newSession_dated {id : Text} {requested : RuntimeRequest} {profile : RuntimeProfileId}
    {generation digest : Text} {state : RuntimeSessionState} {created hard : Int} (hx : InEra P x)
    (hcreated : instantOf P (newBinding P requested profile generation digest x).boundAt = some created)
    (hhard : instantOf P (newBinding P requested profile generation digest x).leaseExpiresAt = some hard) :
    Dated P (newSession P id requested (newBinding P requested profile generation digest x) state
      created hard) := by
  obtain rfl : x.ms = created := Option.some.inj (x.exact.symm.trans hcreated)
  refine ⟨hx.reading, hx.reading, hx.reading, ?_, hx.hard⟩
  show Control.instant P (idleDeadline P x.ms hard) = true
  rw [idleDeadline]
  rcases le_total (x.ms + RUNTIME_IDLE_LEASE_MS) hard with hmin | hmin
  · rw [min_eq_left hmin]
    exact hx.idle
  · rw [min_eq_right hmin, (dateParse_of_instantOf hhard).2]
    exact hx.hard

end Created

end Sessions
