/-
# Two Lambdas over one table

Any number of invocations of the two Lambdas run over one table, in any interleaving; each of them may
fail at any call, may see a call fail that has taken effect, may stop for good, and reads a clock of its
own.

What an invocation writes or sends follows from what it has read (`Legal`): it writes over a session that
it knows, at a time that it has read, and sends commands about one.  That is what the texts of the
programs give (`Request.obedient`).  What holds in every run, whatever the clocks say, is that the items
of a session are texts of sessions with one binding, and that every command carries it (`Traced`).
-/
import Archon.Resumption.Pool
import Archon.Resumption.Relied
import Archon.Sessions.Steps

namespace Sessions

open Ecma Ecma.Value Remediation Runtime Resumption Resumption.Program

/-! ## 1. The table -/

/-- A call with its answer. -/
abbrev SessionEvent (P : Platform) := Event Call (Answer P)

/-- The sessions, and the commands that have been sent. -/
structure Store where
  /-- What has been stored under a session, the newest first. -/
  contents : Text → List Item
  executions : List Command

namespace Store

/-- The item is stored under the session. -/
def write (s : Store) (sessionId : Text) (item : Item) : Store :=
  { s with contents := fun id => if id = sessionId then item :: s.contents id else s.contents id }

theorem contents_write_self (s : Store) (id : Text) (item : Item) :
    (s.write id item).contents id = item :: s.contents id := if_pos rfl

theorem contents_write_other (s : Store) {id id' : Text} (item : Item) (h : id' ≠ id) :
    (s.write id item).contents id' = s.contents id' := if_neg h

/-- What a call can do.  It can fail without an effect, and it can have its effect and fail; a command
is sent either way. -/
def Env {P : Platform} (s : Store) : (e : Call) → Answer P e → Store → Prop
  | .now, _, s' => s' = s
  | .getSession id, r, s' => s' = s ∧ (r = none ∨ r = some (s.contents id).head?)
  | .getHealth _, _, s' => s' = s
  | .getLease, r, s' => s' = s ∧ ∀ lease n, r = some (some lease) → lease.revision = some n →
      n ≤ maxSafeInteger
  | .startExecution command, _, s' => s' = { s with executions := command :: s.executions }
  | .putSession id item, r, s' => (s' = s ∧ r = false) ∨ (s.contents id = [] ∧ s' = s.write id item)
  | .updateSession id expected payload next, r, s' => (s' = s ∧ r = false) ∨
      ∃ old older, s.contents id = old :: older ∧ old.revision = expected
        ∧ s' = s.write id ⟨payload, next, old.principalHash⟩

end Store

/-! ## 2. What an invocation knows -/

section Knowledge

variable (P : Platform)

/-- The invocation has seen an item with the payload and the revision, or has stored it. -/
def Known (h : List (SessionEvent P)) (sessionId payload : Text) (revision : Nat) : Prop :=
  (∃ hash, (⟨.getSession sessionId, some (some ⟨payload, revision, hash⟩)⟩ : SessionEvent P) ∈ h)
    ∨ (∃ expected,
      (⟨.updateSession sessionId expected payload revision, true⟩ : SessionEvent P) ∈ h)
    ∨ ∃ hash, (⟨.putSession sessionId ⟨payload, revision, hash⟩, true⟩ : SessionEvent P) ∈ h

/-- The invocation knows the session. -/
structure Has (h : List (SessionEvent P)) (s : RuntimeSession) : Prop where
  valid : s.Valid P
  known : Known P h s.sessionId (printed s.toValue) s.revision

/-- The invocation has read the time. -/
def Read (h : List (SessionEvent P)) (x : Stamp P) : Prop := (⟨.now, x⟩ : SessionEvent P) ∈ h

/-- The answers that an invocation relies on: what is stored is the text of some session. -/
def Proper : (e : Call) → Answer P e → Prop
  | .getSession id, r => ∀ item, r = some (some item) → ∃ s hash, item = itemOf s hash
      ∧ s.sessionId = id ∧ s.revision ≤ maxSafeInteger + 1
  | .getLease, r => ∀ lease n, r = some (some lease) → lease.revision = some n → n ≤ maxSafeInteger
  | _, _ => True

/-- One change of a valid session, at a time; the result is valid unless the time is before the last
update. -/
structure Proposes (x : Stamp P) (s t : RuntimeSession) : Prop where
  change : Change P x s t
  idle : Idle P x s t
  valid : ∀ updated, instantOf P s.updatedAt = some updated → updated ≤ x.ms →
    s.revision < maxSafeInteger → InEra P x → t.Valid P

/-- What is written over a session. -/
structure Rewrites (x : Stamp P) (s t : RuntimeSession) : Prop where
  sessionId : t.sessionId = s.sessionId
  binding : t.binding = s.binding
  revision : t.revision = s.revision + 1
  safe : s.revision ≤ maxSafeInteger
  proposes : s.Valid P → Proposes P x s t

/-- What the commands ask for. -/
def CORE_ACTIONS : List String := ["START", "ACTIVITY", "STOP"]

/-- What an invocation may call, after what it has done. -/
def Legal (h : List (SessionEvent P)) : Call → Prop
  | .putSession id item => ∃ s hash x, Read P h x ∧ item = itemOf s hash ∧ isDigestText hash = true
      ∧ s.sessionId = id ∧ s.Valid P ∧ (InEra P x → Dated P s)
  | .updateSession id expected payload next => ∃ (s t : RuntimeSession) (x : Stamp P), Read P h x
      ∧ Known P h s.sessionId (printed s.toValue) s.revision ∧ Rewrites P x s t ∧ s.sessionId = id
      ∧ s.revision = expected ∧ payload = printed t.toValue ∧ next = t.revision
  | .startExecution c => ∃ s : RuntimeSession, Known P h s.sessionId (printed s.toValue) s.revision
      ∧ s.revision ≤ maxSafeInteger ∧ c.sessionId = s.sessionId ∧ c.binding = s.binding.toValue
      ∧ c.action ∈ CORE_ACTIONS ∧ c.number ≤ maxSafeInteger ∧ c.expectedRevision ≤ maxSafeInteger
  | _ => True

variable {P} {h h' : List (SessionEvent P)} {s t : RuntimeSession} {x : Stamp P}

theorem Known.mono {id payload : Text} {n : Nat} (hk : Known P h id payload n) (hh : h <+: h') :
    Known P h' id payload n := by
  rcases hk with ⟨hash, hmem⟩ | ⟨expected, hmem⟩ | ⟨hash, hmem⟩
  · exact Or.inl ⟨hash, hh.subset hmem⟩
  · exact Or.inr (Or.inl ⟨expected, hh.subset hmem⟩)
  · exact Or.inr (Or.inr ⟨hash, hh.subset hmem⟩)

theorem Has.mono (hs : Has P h s) (hh : h <+: h') : Has P h' s := ⟨hs.valid, hs.known.mono hh⟩

theorem Has.later (hs : Has P h s) (ev : SessionEvent P) : Has P (h ++ [ev]) s :=
  hs.mono (List.prefix_append h [ev])

theorem Read.mono (hx : Read P h x) (hh : h <+: h') : Read P h' x := hh.subset hx

theorem Read.later (hx : Read P h x) (ev : SessionEvent P) : Read P (h ++ [ev]) x :=
  hx.mono (List.prefix_append h [ev])

theorem Moved.rewrites (hs : s.Valid P) (ht : t.Valid P) (hmoved : Moved P x s t) :
    t = s ∨ Rewrites P x s t := by
  rcases hmoved with rfl | ⟨hchange, hvalid, hidle⟩
  · exact Or.inl rfl
  · exact Or.inr {
      sessionId := hchange.extends.sessionId
      binding := hchange.extends.binding
      revision := revision_of_change hchange
      safe := hs.revision
      proposes := fun _ => ⟨hchange, hidle, fun _ _ _ _ _ => ht⟩ }

end Knowledge

/-! ## 3. What the invocations do -/

section Programs

variable {P : Platform} {h : List (SessionEvent P)} {s t : RuntimeSession} {x : Stamp P}

/-- The part returns a session that the invocation knows. -/
def Returns (P : Platform) (p : RuntimeSession → Prop) (h : List (SessionEvent P))
    (r : Except (Exn String) Value) : Prop :=
  ∀ v, r = .ok v → ∃ s, v = s.toValue ∧ Has P h s ∧ p s

theorem returns_error {p : RuntimeSession → Prop} (e : Exn String) : Returns P p h (.error e) :=
  fun _ hv => nomatch hv

/-- Where a part fails, it returns nothing. -/
theorem fail_relies {p : RuntimeSession → Prop} {message : String} :
    Relies (Proper P) (Legal P) (Returns P p) h (fail message) := returns_error _

theorem readSession_relies (id : Text) :
    Relies (Proper P) (Legal P) (Returns P fun s => s.sessionId = id) h (readSession P id) := by
  rw [readSession]
  split
  · exact fail_relies
  · refine relies_perform trivial fun r hr => ?_
    match r with
    | none => exact fail_relies
    | some none => exact fail_relies
    | some (some item) =>
      obtain ⟨s, hash, hitem, hid, hsafe⟩ := hr item rfl
      subst hitem
      dsimp only [itemOf]
      rw [printed_not_empty hsafe, if_neg Bool.false_ne_true, parse_printed hsafe]
      dsimp only
      cases hvalidated : Deployed.validateSession P s.toValue with
      | error e => exact returns_error e
      | ok v =>
        obtain ⟨hvalid, rfl⟩ := valid_of_validateSession hsafe hvalidated
        rw [lift_ok_bind]
        refine relies_if fail_relies (relies_if fail_relies ?_)
        rintro v hv
        obtain rfl := Except.ok.inj hv
        subst hid
        exact ⟨s, rfl, ⟨hvalid, Or.inl ⟨hash, List.mem_append_right h (List.mem_singleton.mpr rfl)⟩⟩,
          rfl⟩

/-- A revision and the next are told apart. -/
theorem strictEq_next {m n : Nat} (hm : m ≤ maxSafeInteger) (hn : n ≤ maxSafeInteger) (h : n = m + 1) :
    (Value.num (.ofNat m)).strictEq (.num (.ofNat n)) = false := by
  have hne : Number.ofNat m ≠ Number.ofNat n := by
    intro hsame
    have hcounter := Value.counter_num_ofNat hm
    rw [hsame, Value.counter_num_ofNat hn] at hcounter
    have := Option.some.inj hcounter
    omega
  have hnonzero : (Number.ofNat n).isZero = false := by
    have hsafe : n < 2 ^ 53 := Nat.lt_of_le_of_lt hn (by decide)
    obtain ⟨y, hy, -, hmagnitude⟩ := Number.ofNat_eq_exact hsafe
    rw [hy, Number.isZero, beq_eq_false_iff_ne]
    intro hman
    rw [Binary64.magnitude, hman] at hmagnitude
    have hzero : (n : ℚ) = 0 := by simpa using hmagnitude.symm
    have : n = 0 := by exact_mod_cast hzero
    omega
  rw [Value.strictEq]
  cases hx : Number.ofNat m with
  | nan => rfl
  | infinity neg =>
    cases hy : Number.ofNat n with
    | nan => rfl
    | _ => simp [Number.strictEq, ← hx, ← hy, hne, hnonzero]
  | finite a =>
    cases hy : Number.ofNat n with
    | nan => rfl
    | _ => simp [Number.strictEq, ← hx, ← hy, hne, hnonzero]

theorem textOf_sessionId (s : RuntimeSession) : textOf s.toValue "sessionId" = s.sessionId := by
  rw [textOf, RuntimeSession.get_sessionId]

theorem revisionOf_toValue (h : s.revision ≤ maxSafeInteger) : revisionOf s.toValue = s.revision := by
  rw [revisionOf, RuntimeSession.get_revision, Value.counter_num_ofNat h, Option.getD_some]

theorem updateSession_relies (hs : Has P h s) (ht : t.Valid P) (hx : Read P h x)
    (hmoved : Moved P x s t) : Relies (Proper P) (Legal P) (Returns P fun u => u = t) h
      (updateSession P s.toValue t.toValue) := by
  rw [updateSession, RuntimeSession.get_revision, RuntimeSession.get_revision]
  rcases hmoved.rewrites hs.valid ht with rfl | hrewrites
  · rw [Value.ofNat_strictEq_ofNat, if_pos rfl]
    rintro v hv
    obtain rfl := Except.ok.inj hv
    exact ⟨t, rfl, hs, rfl⟩
  · have hdiffer : (Value.num (.ofNat s.revision)).strictEq (.num (.ofNat t.revision)) = false :=
      strictEq_next hs.valid.revision ht.revision hrewrites.revision
    rw [hdiffer, if_neg Bool.false_ne_true, textOf_sessionId, revisionOf_toValue hs.valid.revision,
      revisionOf_toValue ht.revision]
    refine relies_perform ⟨s, t, x, hx, hs.known, hrewrites, rfl, rfl, rfl, rfl⟩ fun r _ => ?_
    cases r with
    | false => exact fail_relies
    | true =>
      rintro v hv
      obtain rfl := Except.ok.inj hv
      refine ⟨t, rfl, ⟨ht, Or.inr (Or.inl ⟨s.revision, ?_⟩)⟩, rfl⟩
      rw [hrewrites.sessionId]
      exact List.mem_append_right h (List.mem_singleton.mpr rfl)

theorem leaseRead_safe {read : Option (Option Lease)} {lease : Nat × Option Text × Text}
    (hread : Proper P .getLease read) (hlease : leaseRead read = .ok lease) :
    lease.1 ≤ maxSafeInteger := by
  match read with
  | none => cases hlease
  | some none =>
    obtain rfl := Except.ok.inj hlease
    exact Nat.zero_le _
  | some (some l) =>
    dsimp only [leaseRead] at hlease
    split at hlease
    case h_1 revision state hrevision hstate =>
      split at hlease
      · obtain rfl := Except.ok.inj hlease
        exact hread l revision rfl hrevision
      · cases hlease
    case h_2 => cases hlease

/-- A command about a session that the invocation knows. -/
theorem coreCommand_relies {action : String} {n : Nat} (haction : action ∈ CORE_ACTIONS)
    (hs : Has P h s) (ht : t.Valid P) (hid : t.sessionId = s.sessionId) (hbinding : t.binding = s.binding)
    (hn : n ≤ maxSafeInteger) (Q : List (SessionEvent P) → Except (Exn String) Unit → Prop) (hQ : ∀ h' r, Q h' r) :
    Relies (Proper P) (Legal P) Q h (coreCommand P action t.toValue n) := by
  refine relies_perform ⟨s, hs.known, hs.valid.revision, ?_, ?_, haction, ?_, hn⟩ fun r _ => ?_
  · rw [textOf_sessionId, hid]
  · rw [RuntimeSession.get_binding, hbinding]
  · rw [revisionOf_toValue ht.revision]
    exact ht.revision
  · cases r with
    | false => exact hQ _ _
    | true => exact hQ _ _

/-- The lease is read, and a command about a session that the invocation knows is sent. -/
theorem withLease_relies {action : String} (haction : action ∈ CORE_ACTIONS) (hs : Has P h s)
    (ht : t.Valid P) (hid : t.sessionId = s.sessionId) (hbinding : t.binding = s.binding)
    (Q : List (SessionEvent P) → Except (Exn String) Unit → Prop) (hQ : ∀ h' r, Q h' r) :
    Relies (Proper P) (Legal P) Q h (do
      let lease ← lift (leaseRead (← getLease))
      coreCommand P action t.toValue lease.1) := by
  refine relies_perform trivial fun r hr => ?_
  refine relies_lift (fun lease hlease => ?_) fun e => hQ _ _
  exact coreCommand_relies haction (hs.later _) ht hid hbinding (leaseRead_safe hr hlease) Q hQ

theorem stopExpired_relies (hs : Has P h s) (ht : t.Valid P) (hid : t.sessionId = s.sessionId)
    (hbinding : t.binding = s.binding) {v : Value} : Relies (Proper P) (Legal P) (fun _ _ => True) h
      (stopExpired P v t.toValue) := by
  rw [stopExpired]
  split
  · exact withLease_relies (by decide) hs ht hid hbinding _ fun _ _ => trivial
  · trivial

/-- What a part makes of a session, without storing it. -/
def Makes (P : Platform) (x : Stamp P) (s : RuntimeSession) (_ : List (SessionEvent P))
    (r : Except (Exn String) Value) : Prop :=
  ∀ v, r = .ok v → Gives P x s v

theorem makes_error (e : Exn String) : Makes P x s h (.error e) := fun _ hv => nomatch hv

theorem makes_self (hs : s.Valid P) : Makes P x s h (.ok s.toValue) := by
  rintro v hv
  obtain rfl := Except.ok.inj hv
  exact gives_self hs

theorem reconcileCore_relies (hs : s.Valid P) :
    Relies (Proper P) (Legal P) (Makes P x s) h (reconcileCore P s.toValue x) := by
  rw [reconcileCore]
  split
  · refine relies_perform trivial fun read _ => ?_
    intro v hv
    exact gives_withCore hs hv
  · exact makes_self hs

theorem reconcileCloud_relies (hs : s.Valid P) :
    Relies (Proper P) (Legal P) (Makes P x s) h (reconcileCloud P s.toValue x) := by
  rw [reconcileCloud]
  split
  · refine relies_perform trivial fun read _ => ?_
    intro v hv
    exact gives_withCloud hs hv
  · exact makes_self hs

theorem reconcileCore_skips (h : s.binding.profileId ≠ .core ∨ s.state = .EXPIRED) :
    reconcileCore P s.toValue x = .done (.ok s.toValue) := by
  have hskip : (isBoundTo s.toValue "core"
      && Deployed.stateIn s.toValue [.STARTING, .ACTIVE, .STOPPING]) = false := by
    rw [show "core" = Named.name RuntimeProfileId.core from rfl, isBoundTo_toValue, stateIn_toValue]
    rcases h with hother | hexpired
    · rw [decide_eq_false hother, Bool.false_and]
    · rw [hexpired, Bool.and_eq_false_iff]
      exact Or.inr (by decide)
  rw [reconcileCore, hskip]
  rfl

theorem reconcileCloud_skips (h : s.binding.profileId ≠ .cloud ∨ s.state = .EXPIRED) :
    reconcileCloud P s.toValue x = .done (.ok s.toValue) := by
  have hskip : (isBoundTo s.toValue "cloud" && Deployed.stateIn s.toValue [.ACTIVE]) = false := by
    rw [show "cloud" = Named.name RuntimeProfileId.cloud from rfl, isBoundTo_toValue, stateIn_toValue]
    rcases h with hother | hexpired
    · rw [decide_eq_false hother, Bool.false_and]
    · rw [hexpired, Bool.and_eq_false_iff]
      exact Or.inr (by decide)
  rw [reconcileCloud, hskip]
  rfl

/-- At most one of the two runtimes is looked at, and neither once a deadline has passed. -/
theorem reconciled_relies {m : RuntimeSession} (hs : s.Valid P) (hm : m.Valid P)
    (hmoved : Moved P x s m) (hstate : m = s ∨ m.state = .EXPIRED) :
    Relies (Proper P) (Legal P) (Makes P x s) h
      (reconcileCore P m.toValue x >>= fun v => reconcileCloud P v x) := by
  rcases hstate with rfl | hexpired
  · cases hprofile : m.binding.profileId with
    | cloud =>
      rw [reconcileCore_skips (Or.inl (by rw [hprofile]; decide))]
      exact reconcileCloud_relies hs
    | core =>
      refine (reconcileCore_relies hs).followed (fun h' v _ hv => ?_) fun _ e => makes_error e
      obtain ⟨t, rfl, ht, hmoved⟩ := hv v rfl
      rw [reconcileCloud_skips (Or.inl (by rw [hmoved.same.2, hprofile]; decide))]
      rintro v hv
      obtain rfl := Except.ok.inj hv
      exact ⟨t, rfl, ht, hmoved⟩
  · rw [reconcileCore_skips (Or.inr hexpired), done_ok_bind, reconcileCloud_skips (Or.inr hexpired)]
    rintro v hv
    obtain rfl := Except.ok.inj hv
    exact ⟨m, rfl, hm, hmoved⟩

/-- **Reconciliation stores at most one change of a session that is known**, and returns what is
stored. -/
theorem reconcile_relies (hs : Has P h s) (hx : Read P h x) : Relies (Proper P) (Legal P)
    (Returns P fun t => t.sessionId = s.sessionId) h (reconcile P s.toValue x) := by
  rw [reconcile, validated hs.valid, lift_ok_bind]
  refine relies_lift (fun v htick => ?_) fun e => returns_error e
  obtain ⟨m, rfl, hm, hmoved, hstate, -⟩ := gives_tick hs.valid htick
  have hlooked := reconciled_relies (h := h) hs.valid hm hmoved hstate
  rw [relies_bind] at hlooked
  refine relies_bind.mpr (hlooked.extends.mono (fun _ _ hi => hi) fun h₁ r hr => ?_)
  cases r with
  | error e => exact returns_error e
  | ok v₁ =>
    refine hr.1.followed (fun h₂ v₂ hprefix hv => ?_) fun _ e => returns_error e
    obtain ⟨t, rfl, ht, hmoved⟩ := hv v₂ rfl
    have hhas : Has P h₂ s := hs.mono (hr.2.trans hprefix)
    refine (stopExpired_relies hhas ht hmoved.same.1 hmoved.same.2).followed
      (fun h₃ _ hprefix' _ => ?_) fun _ e => returns_error e
    refine (updateSession_relies (hhas.mono hprefix') ht
      (hx.mono ((hr.2.trans hprefix).trans hprefix')) hmoved).mono (fun _ _ hi => hi) ?_
    rintro h₄ r hr v hv
    obtain ⟨u, rfl, hu, rfl⟩ := hr v hv
    exact ⟨u, rfl, hu, hmoved.same.1⟩

/-- What an invocation is, whatever it returns. -/
def Obedient (P : Platform) (h : List (SessionEvent P)) (p : Part P Value) : Prop :=
  Relies (Proper P) (Legal P) (fun _ _ => True) h p

/-- Every operation on a stored session begins so. -/
theorem reconciled (id : Text) {f : Stamp P → Value → Part P Value}
    (hf : ∀ x h s, Has P h s → Read P h x → Obedient P h (f x s.toValue)) :
    Obedient P [] (do
      let now ← readClock
      let stored ← readSession P id
      let session ← reconcile P stored now
      f now session) := by
  refine relies_perform trivial fun (x : Stamp P) _ => ?_
  have hx : Read P ([] ++ [⟨.now, x⟩]) x := List.mem_singleton.mpr rfl
  refine (readSession_relies id).followed (fun h₁ v hprefix hv => ?_) fun _ _ => trivial
  obtain ⟨s, rfl, hs, -⟩ := hv v rfl
  refine (reconcile_relies hs (hx.mono hprefix)).followed (fun h₂ v hprefix' hv => ?_) fun _ _ => trivial
  obtain ⟨t, rfl, ht, -⟩ := hv v rfl
  exact hf x h₂ t ht ((hx.mono hprefix).mono hprefix')

theorem sessionStatus_obedient (id : Text) : Obedient P [] (sessionStatus P id) :=
  reconciled id fun _ _ _ _ _ => trivial

theorem recordActivity_obedient (id : Text) : Obedient P [] (recordActivity P id) := by
  refine reconciled id fun x h s hs hx => ?_
  split
  · trivial
  · have hextend : ∀ h', h <+: h' → Obedient P h' (do
        let next ← lift (Deployed.activity P s.toValue (s.toValue.get (js "binding")) (.str x.text))
        let _ ← updateSession P s.toValue next
        lift (Deployed.publicStatus P next (.str x.text))) := by
      intro h' hprefix
      refine relies_lift (fun v hv => ?_) fun _ => trivial
      rw [RuntimeSession.get_binding] at hv
      obtain ⟨t, rfl, ht, hmoved⟩ := gives_activity hs.valid hv
      exact (updateSession_relies (hs.mono hprefix) ht (hx.mono hprefix) hmoved).followed
        (fun _ _ _ _ => trivial) fun _ _ => trivial
    split
    · refine relies_perform trivial fun r hr => ?_
      have hlater := List.prefix_append h [(⟨.getLease, r⟩ : SessionEvent P)]
      refine relies_lift (fun lease hlease => ?_) fun _ => trivial
      split
      · trivial
      · refine (coreCommand_relies (by decide) (hs.later _) hs.valid rfl rfl
          (leaseRead_safe hr hlease) (fun _ _ => True) fun _ _ => trivial).followed (fun h' _ hprefix _ => ?_) fun _ _ => trivial
        exact hextend h' (hlater.trans hprefix)
    · exact hextend h List.prefix_rfl

/-- The end of a stop, and of a start, whose command could not be sent: the session is failed, at a time
that is read then. -/
theorem failed_relies {code : RuntimeSessionFailureCode} {message : String} (hs : Has P h s) :
    Obedient P h (do
      let failed ← lift (failWith P s.toValue code (← readClock))
      let _ ← attempt (updateSession P s.toValue failed)
      fail message) := by
  refine relies_perform trivial fun y _ => ?_
  have hy : Read P (h ++ [⟨.now, y⟩]) y := List.mem_append_right h (List.mem_singleton.mpr rfl)
  refine relies_lift (fun v hv => ?_) fun _ => trivial
  obtain ⟨t, rfl, ht, hmoved⟩ := gives_failWith hs.valid hv
  have hstored : Relies (Proper P) (Legal P) (fun _ _ => True) (h ++ [⟨.now, y⟩])
      (attempt (updateSession P s.toValue t.toValue)) :=
    relies_attempt.mpr ((updateSession_relies (hs.later _) ht hy hmoved).mono (fun _ _ hi => hi)
      fun _ _ _ => trivial)
  exact hstored.followed (fun _ _ _ _ => trivial) fun _ _ => trivial

theorem stopCore_relies (hs : Has P h s) : Obedient P h (stopCore P s.toValue x) := by
  rw [stopCore]
  have hsent : Relies (Proper P) (Legal P) (fun _ _ => True) h (attempt (do
      let lease ← lift (leaseRead (← getLease))
      coreCommand P "STOP" s.toValue lease.1)) :=
    relies_attempt.mpr (withLease_relies (by decide) hs hs.valid rfl rfl _ fun _ _ => trivial)
  refine hsent.followed (fun h' sent hprefix _ => ?_) fun _ _ => trivial
  cases sent with
  | ok => trivial
  | error => exact failed_relies (hs.mono hprefix)

theorem stopSession_obedient (id : Text) : Obedient P [] (stopSession P id) := by
  refine reconciled id fun x h s hs hx => ?_
  refine relies_lift (fun v hv => ?_) fun _ => trivial
  obtain ⟨t, rfl, ht, hmoved⟩ := gives_requestStop hs.valid hv
  split
  · trivial
  · refine (updateSession_relies hs ht hx hmoved).followed (fun h' _ hprefix hv => ?_) fun _ _ => trivial
    obtain ⟨u, -, hu, rfl⟩ := hv _ rfl
    split
    · exact stopCore_relies hu
    · refine relies_lift (fun v hv => ?_) fun _ => trivial
      obtain ⟨w, rfl, hw, hmoved'⟩ := gives_completeStop hu.valid hv
      exact (updateSession_relies hu hw (hx.mono hprefix) hmoved').followed
        (fun _ _ _ _ => trivial) fun _ _ => trivial

/-- A record of health that a session can be bound to. -/
def Chosen (P : Platform) (_ : List (SessionEvent P)) (r : Except (Exn String) Selection) : Prop :=
  ∀ selected, r = .ok selected → selected.coreExpectedRevision ≤ maxSafeInteger
    ∧ ∃ profile generation digest, Healthy selected.health profile generation digest

theorem chosen_error (e : Exn String) : Chosen P h (.error e) := fun _ hv => nomatch hv

theorem selectCloud_chosen {requested : RuntimeRequest} {raw : Option Value} {selected : Selection}
    (hs : selectCloud P requested raw x = .ok (some selected)) : Chosen P h (.ok selected) := by
  cases raw with
  | none => cases hs
  | some raw =>
    dsimp only [selectCloud] at hs
    split at hs
    case h_1 health hhealth =>
      split at hs
      · obtain rfl := Option.some.inj (Except.ok.inj hs)
        rintro _ hr
        obtain rfl := Except.ok.inj hr
        exact ⟨Nat.zero_le _, .cloud, healthy_of_validateHealth hhealth⟩
      · cases hs
    case h_2 =>
      split at hs <;> cases hs

theorem selectCore_relies {raw : Option Value} :
    Relies (Proper P) (Legal P) (Chosen P) h (selectCore P raw x) := by
  cases raw with
  | none => exact chosen_error _
  | some raw =>
    dsimp only [selectCore]
    split
    case h_1 => exact chosen_error _
    case h_2 core hcore =>
      refine relies_perform trivial fun r hr => ?_
      split
      case h_1 => exact chosen_error _
      case h_2 lease hlease =>
        split
        · exact chosen_error _
        · rintro _ hv
          obtain rfl := Except.ok.inj hv
          exact ⟨leaseRead_safe hr hlease, .core, healthy_of_validateHealth hcore⟩

/-- The selection, once the health of both profiles is known. -/
def selectRead (P : Platform) (requested : RuntimeRequest) (x : Stamp P)
    (cloudRead coreRead : Option (Option Value)) : Part P Selection := do
  let cloud ← lift (selectCloud P requested (healthRead .cloud cloudRead) x)
  match cloud with
  | some selected => return selected
  | none =>
    if requested = .pinned .cloud then fail "runtime_not_ready"
    else selectCore P (healthRead .core coreRead) x

theorem selectStartProfile_relies {requested : RuntimeRequest} :
    Relies (Proper P) (Legal P) (Chosen P) h (selectStartProfile P requested x) := by
  have hselect : ∀ h (cloudRead coreRead : Option (Option Value)),
      Relies (Proper P) (Legal P) (Chosen P) h (selectRead P requested x cloudRead coreRead) := by
    intro h cloudRead coreRead
    refine relies_lift (fun cloud hcloud => ?_) fun e => chosen_error e
    cases cloud with
    | some selected => exact selectCloud_chosen hcloud
    | none =>
      dsimp only
      split
      · exact chosen_error _
      · exact selectCore_relies
  have hcore : ∀ h (cloudRead : Option (Option Value)), Relies (Proper P) (Legal P) (Chosen P) h (do
      let coreRead ← if requested = .pinned .cloud then pure none else getHealth .core
      selectRead P requested x cloudRead coreRead) := fun h cloudRead =>
    relies_if (hselect h cloudRead none)
      (relies_perform trivial fun coreRead _ => hselect _ cloudRead coreRead)
  exact relies_if (hcore h none) (relies_perform trivial fun cloudRead _ => hcore _ cloudRead)

theorem startSession_obedient (id hash : Text) (requested : RuntimeRequest) :
    Obedient P [] (startSession P id hash requested) := by
  refine relies_perform trivial fun (x : Stamp P) _ => ?_
  have hx : Read P ([] ++ [⟨.now, x⟩]) x := List.mem_singleton.mpr rfl
  refine selectStartProfile_relies.followed (fun h selected hprefix hselected => ?_) fun _ _ => trivial
  obtain ⟨hsafe, profile, generation, digest, hhealth⟩ := hselected _ rfl
  rw [bindingFor_toValue hhealth]
  refine relies_lift (fun v hv => ?_) fun _ => trivial
  obtain ⟨created, hard, hcreated, hhard, rfl, hvalid⟩ := createSession_new hv
  have hdated := fun hera : InEra P x =>
    @newSession_dated _ _ id requested _ _ _ selected.state _ _ hera hcreated hhard
  generalize newSession P id requested (newBinding P requested profile generation digest x)
    selected.state created hard = s at hvalid hdated
  split
  · trivial
  case isFalse hhash =>
    have hhash : isDigestText hash = true := by simpa using hhash
    have hitem : sessionItem s.toValue hash = itemOf s hash := by
      rw [sessionItem, revisionOf_toValue hvalid.revision, itemOf]
    rw [textOf_sessionId, hitem]
    refine relies_perform ⟨s, hash, x, hx.mono hprefix, rfl, hhash, rfl, hvalid, hdated⟩ fun r _ => ?_
    cases r with
    | false => trivial
    | true =>
      have hs : Has P (h ++ [⟨.putSession s.sessionId (itemOf s hash), true⟩]) s :=
        ⟨hvalid, Or.inr (Or.inr ⟨hash, List.mem_append_right h (List.mem_singleton.mpr rfl)⟩)⟩
      rw [Bool.not_true, if_neg Bool.false_ne_true]
      split
      · have hsent : Relies (Proper P) (Legal P) (fun _ _ => True)
            (h ++ [⟨.putSession s.sessionId (itemOf s hash), true⟩])
            (attempt (coreCommand P "START" s.toValue selected.coreExpectedRevision)) :=
          relies_attempt.mpr (coreCommand_relies (by decide) hs hvalid rfl rfl hsafe _
            fun _ _ => trivial)
        refine hsent.followed (fun h' sent hprefix' _ => ?_) fun _ _ => trivial
        cases sent with
        | ok => trivial
        | error => exact failed_relies (hs.mono hprefix')
      · trivial

/-- The command of `recordActivity` of `runtime-v2.js`. -/
theorem extendCore_relies (hs : Known P h s.sessionId (printed s.toValue) s.revision)
    (hsafe : s.revision ≤ maxSafeInteger) :
    Relies (Proper P) (Legal P) (fun _ _ => True) h (extendCore P s.toValue) := by
  refine relies_perform trivial fun r hr => ?_
  match r with
  | none => trivial
  | some lease =>
    dsimp only
    split
    case h_1 revision owner state hrevision howner hstate =>
      obtain ⟨l, rfl, hl⟩ := Option.bind_eq_some_iff.mp hrevision
      have hlease : revision ≤ maxSafeInteger := hr l revision rfl hl
      refine relies_if trivial (relies_perform ⟨s, hs.mono (List.prefix_append _ _), hsafe, ?_, ?_,
        (by decide : "ACTIVITY" ∈ CORE_ACTIONS), hlease, hlease⟩ fun r _ => ?_)
      · exact textOf_sessionId s
      · exact RuntimeSession.get_binding s
      · cases r <;> trivial
    case h_2 => trivial

/-- What `runtime-v2.js` writes over a session that it has found to be active. -/
theorem renewed_rewrites (hsafe : s.revision ≤ maxSafeInteger)
    (hactive : activeAt P s.toValue x = true) : s.state = .ACTIVE ∧ Rewrites P x s (renewed P s x) := by
  rw [activeAt, stateIn_toValue, RuntimeSession.get_hardExpiresAt, Bool.and_eq_true,
    Bool.and_eq_true] at hactive
  have hstate : s.state = .ACTIVE := List.mem_singleton.mp (of_decide_eq_true hactive.1.1)
  have hlate : x.ms < timeOf P (.str s.hardExpiresAt) := of_decide_eq_true hactive.2
  have hlive : s.state.live = true := by
    rw [hstate]
    rfl
  refine ⟨hstate, rfl, rfl, rfl, hsafe, fun hs => ?_⟩
  obtain ⟨t, -⟩ := hs.chronology
  rw [timeOf_str t.hard_eq] at hlate
  exact {
    change := .renewed _ hlive
    idle := Or.inr ⟨t.hard, t.hard_eq, by rw [renewed, timeOf_str t.hard_eq]⟩
    valid := fun updated hupdated hle hrevision hera =>
      renewed_valid hs hupdated hle t.hard_eq hlate hstate hrevision hera }

/-- An activity of `runtime-v2.js`, of a session that it has found to be active. -/
theorem extendSession_relies (hs : Known P h s.sessionId (printed s.toValue) s.revision)
    (hsafe : s.revision ≤ maxSafeInteger) (hx : Read P h x)
    (hactive : activeAt P s.toValue x = true) : Obedient P h (extendSession P s.toValue x) := by
  obtain ⟨hstate, hrewrites⟩ := renewed_rewrites hsafe hactive
  have hwrite : ∀ h', h <+: h' → Obedient P h' (do
      let next := extended P s.toValue x
      if ← updateItem (textOf s.toValue "sessionId") (revisionOf s.toValue) (printed next)
          (revisionOf s.toValue + 1) then
        return next
      else fail "runtime_session_conflict") := by
    intro h' hprefix
    rw [textOf_sessionId, revisionOf_toValue hsafe, extended_toValue hsafe hstate]
    refine relies_perform ⟨s, renewed P s x, x, hx.mono hprefix, hs.mono hprefix, hrewrites, rfl, rfl,
      rfl, rfl⟩ fun r _ => ?_
    cases r <;> trivial
  rw [extendSession]
  split
  · exact (extendCore_relies hs hsafe).followed (fun h' _ hprefix _ => hwrite h' hprefix)
      fun _ _ => trivial
  · exact hwrite h List.prefix_rfl

theorem startRun_obedient (id owner : Text) : Obedient P [] (startRun P id owner) := by
  refine relies_perform trivial fun (x : Stamp P) _ => ?_
  have hx : Read P ([] ++ [⟨.now, x⟩]) x := List.mem_singleton.mpr rfl
  split
  · trivial
  · refine relies_perform trivial fun r hr => ?_
    match r with
    | none => trivial
    | some none => trivial
    | some (some item) =>
      obtain ⟨s, hash, hitem, hid, hrevision⟩ := hr item rfl
      subst hitem
      have hs : Known P ([] ++ [⟨.now, x⟩] ++ [⟨.getSession id, some (some (itemOf s hash))⟩])
          s.sessionId (printed s.toValue) s.revision := by
        rw [hid]
        exact Or.inl ⟨hash, List.mem_concat_self⟩
      dsimp only
      cases hread : parseSessionItem P (itemOf s hash) (some owner) with
      | error => trivial
      | ok v =>
        obtain ⟨rfl, hsafe⟩ := parseSessionItem_eq_ok hrevision hread
        rw [lift_ok_bind]
        split
        · trivial
        case isFalse hactive =>
          have hactive : activeAt P s.toValue x = true := by simpa using hactive
          refine relies_perform trivial fun r _ => ?_
          have hlater := hs.mono (List.prefix_append _
            [⟨.getHealth (if isBoundTo s.toValue "cloud" then .cloud else .core), r⟩])
          match r with
          | none => trivial
          | some none => trivial
          | some (some health) =>
            exact relies_if trivial
              (extendSession_relies hlater hsafe ((hx.later _).later _) hactive)

theorem Request.obedient (request : Request) : Obedient P [] (request.program P) := by
  cases request with
  | start id hash requested => exact startSession_obedient id hash requested
  | status id => exact sessionStatus_obedient id
  | activity id => exact recordActivity_obedient id
  | stop id => exact stopSession_obedient id
  | run id owner => exact startRun_obedient id owner

end Programs

/-! ## 4. What holds in every run -/

section Runs

variable {ι : Type} [DecidableEq ι] {P : Platform}

/-- The invocations of a run. -/
abbrev SessionPool (ι : Type) (P : Platform) := Pool ι Store Call (Answer P) (Exn String) Value

/-- Nothing has been sent, and of each session there is at most one item, as the Lambdas leave it. -/
structure Initial (P : Platform) (s : Store) : Prop where
  contents : ∀ id, s.contents id = [] ∨ ∃ t hash, s.contents id = [itemOf t hash] ∧ t.sessionId = id
    ∧ Kept P t ∧ isDigestText hash = true
  executions : s.executions = []

/-- The item is the text of a session with the binding. -/
def TextOf (id : Text) (b : Value) (item : Item) : Prop :=
  isSessionId id = true ∧ ∃ s hash, item = itemOf s hash ∧ s.sessionId = id
    ∧ s.revision ≤ maxSafeInteger + 1 ∧ s.binding.toValue = b

/-- What is true of a command that was sent. -/
structure Sent (σ : Store) (c : Command) : Prop where
  action : c.action ∈ CORE_ACTIONS
  number : c.number ≤ maxSafeInteger
  expectedRevision : c.expectedRevision ≤ maxSafeInteger
  session : ∃ s hash, itemOf s hash ∈ σ.contents c.sessionId ∧ s.revision ≤ maxSafeInteger
    ∧ c.binding = s.binding.toValue

/-- What is true of the table and the invocations. -/
structure Traced (P : Platform) (σ : Store) (h : ι → List (SessionEvent P)) : Prop where
  proper : ∀ i, ∀ ev ∈ h i, Proper P ev.1 ev.2
  texts : ∀ id, ∃ b, ∀ item ∈ σ.contents id, TextOf id b item
  known : ∀ i id payload n, Known P (h i) id payload n → ∃ hash, ⟨payload, n, hash⟩ ∈ σ.contents id
  sent : ∀ c ∈ σ.executions, Sent σ c

/-- The event shows the item. -/
def Shows (ev : SessionEvent P) (id payload : Text) (n : Nat) : Prop := Known P [ev] id payload n

theorem known_append {h : List (SessionEvent P)} {ev : SessionEvent P} {id payload : Text} {n : Nat} :
    Known P (h ++ [ev]) id payload n ↔ Known P h id payload n ∨ Shows ev id payload n := by
  simp only [Shows, Known, List.mem_append]
  constructor
  · rintro (⟨hash, hmem | hmem⟩ | ⟨expected, hmem | hmem⟩ | ⟨hash, hmem | hmem⟩)
    · exact Or.inl (Or.inl ⟨hash, hmem⟩)
    · exact Or.inr (Or.inl ⟨hash, hmem⟩)
    · exact Or.inl (Or.inr (Or.inl ⟨expected, hmem⟩))
    · exact Or.inr (Or.inr (Or.inl ⟨expected, hmem⟩))
    · exact Or.inl (Or.inr (Or.inr ⟨hash, hmem⟩))
    · exact Or.inr (Or.inr (Or.inr ⟨hash, hmem⟩))
  · rintro ((⟨hash, hmem⟩ | ⟨expected, hmem⟩ | ⟨hash, hmem⟩) |
      (⟨hash, hmem⟩ | ⟨expected, hmem⟩ | ⟨hash, hmem⟩))
    · exact Or.inl ⟨hash, Or.inl hmem⟩
    · exact Or.inr (Or.inl ⟨expected, Or.inl hmem⟩)
    · exact Or.inr (Or.inr ⟨hash, Or.inl hmem⟩)
    · exact Or.inl ⟨hash, Or.inr hmem⟩
    · exact Or.inr (Or.inl ⟨expected, Or.inr hmem⟩)
    · exact Or.inr (Or.inr ⟨hash, Or.inr hmem⟩)

/-- The histories, after one more event. -/
abbrev after (h : ι → List (SessionEvent P)) (i : ι) (ev : SessionEvent P) : ι → List (SessionEvent P) :=
  Function.update h i (h i ++ [ev])

variable {σ σ' : Store} {h : ι → List (SessionEvent P)} {i : ι} {ev : SessionEvent P}

omit [DecidableEq ι] in
theorem traced_initial (hs : Initial P σ) : Traced P σ fun _ : ι => [] where
  proper := fun _ _ hmem => absurd hmem List.not_mem_nil
  texts := fun id => by
    rcases hs.contents id with hnone | ⟨t, hash, hone, hid, hkept, -⟩
    · refine ⟨.undefined, fun item hmem => ?_⟩
      rw [hnone] at hmem
      exact absurd hmem List.not_mem_nil
    · refine ⟨t.binding.toValue, fun item hmem => ?_⟩
      rw [hone] at hmem
      exact ⟨hid ▸ hkept.valid.sessionId, t, hash, List.mem_singleton.mp hmem, hid,
        Nat.le_succ_of_le hkept.valid.revision, rfl⟩
  known := by
    rintro _ _ _ _ (⟨_, hmem⟩ | ⟨_, hmem⟩ | ⟨_, hmem⟩) <;> exact absurd hmem List.not_mem_nil
  sent := fun c hc => by
    rw [hs.executions] at hc
    exact absurd hc List.not_mem_nil

/-- What is left to show where the table only grows. -/
theorem Traced.next (k : Traced P σ h) (hgrows : ∀ id, ∀ item ∈ σ.contents id, item ∈ σ'.contents id)
    (hproper : Proper P ev.1 ev.2) (htexts : ∀ id, ∃ b, ∀ item ∈ σ'.contents id, TextOf id b item)
    (hshows : ∀ id payload n, Shows ev id payload n → ∃ hash, ⟨payload, n, hash⟩ ∈ σ'.contents id)
    (hsent : ∀ c ∈ σ'.executions, c ∈ σ.executions ∨ Sent σ' c) : Traced P σ' (after h i ev) where
  proper := by
    intro j ev' hev'
    by_cases hj : j = i
    · subst hj
      rw [after, Function.update_self] at hev'
      rcases List.mem_append.mp hev' with hold | hnew
      · exact k.proper j ev' hold
      · obtain rfl := List.mem_singleton.mp hnew
        exact hproper
    · rw [after, Function.update_of_ne hj] at hev'
      exact k.proper j ev' hev'
  texts := htexts
  known := by
    intro j id payload n hknown
    by_cases hj : j = i
    · subst hj
      rw [after, Function.update_self, known_append] at hknown
      rcases hknown with hold | hnew
      · obtain ⟨hash, hmem⟩ := k.known j id payload n hold
        exact ⟨hash, hgrows id _ hmem⟩
      · exact hshows id payload n hnew
    · rw [after, Function.update_of_ne hj] at hknown
      obtain ⟨hash, hmem⟩ := k.known j id payload n hknown
      exact ⟨hash, hgrows id _ hmem⟩
  sent := by
    intro c hc
    rcases hsent c hc with hold | hnew
    · obtain ⟨haction, hnumber, hexpected, s, hash, hmem, hrest⟩ := k.sent c hold
      exact ⟨haction, hnumber, hexpected, s, hash, hgrows _ _ hmem, hrest⟩
    · exact hnew

theorem mem_write {id id' : Text} {item item' : Item} : item' ∈ (σ.write id item).contents id' ↔
    id' = id ∧ item' = item ∨ item' ∈ σ.contents id' := by
  by_cases hid : id' = id
  · subst hid
    rw [Store.contents_write_self, List.mem_cons]
    simp
  · rw [Store.contents_write_other _ _ hid]
    simp [hid]

/-- An item is written under a session, with the binding of what is there. -/
theorem Traced.write (k : Traced P σ h) {id : Text} {item : Item} (hproper : Proper P ev.1 ev.2)
    (htext : ∀ b, (∀ item ∈ σ.contents id, TextOf id b item) → ∃ b', TextOf id b' item
      ∧ ∀ item ∈ σ.contents id, TextOf id b' item)
    (hshows : ∀ id' payload n, Shows ev id' payload n → ∃ hash,
      (⟨payload, n, hash⟩ : Item) ∈ (σ.write id item).contents id') :
    Traced P (σ.write id item) (after h i ev) := by
  refine k.next (fun id' item' hmem => mem_write.mpr (Or.inr hmem)) hproper (fun id' => ?_) hshows
    fun c hc => Or.inl hc
  obtain ⟨b, hb⟩ := k.texts id'
  by_cases hid : id' = id
  · subst hid
    obtain ⟨b', hitem, hrest⟩ := htext b hb
    refine ⟨b', fun item' hmem => ?_⟩
    rcases mem_write.mp hmem with ⟨-, rfl⟩ | hold
    · exact hitem
    · exact hrest item' hold
  · refine ⟨b, fun item' hmem => ?_⟩
    rcases mem_write.mp hmem with ⟨heq, -⟩ | hold
    · exact absurd heq hid
    · exact hb item' hold

/-- Nothing is shown by an event that is not about an item. -/
theorem not_shows_now {x : Stamp P} {id payload : Text} {n : Nat} : ¬ Shows (P := P) ⟨.now, x⟩ id payload n := by
  rintro (⟨_, hmem⟩ | ⟨_, hmem⟩ | ⟨_, hmem⟩) <;> cases List.mem_singleton.mp hmem

theorem shows_getSession {id id' payload : Text} {n : Nat} {r : Option (Option Item)}
    (hshows : Shows (P := P) ⟨.getSession id, r⟩ id' payload n) :
    id' = id ∧ ∃ hash, r = some (some ⟨payload, n, hash⟩) := by
  rcases hshows with ⟨hash, hmem⟩ | ⟨_, hmem⟩ | ⟨_, hmem⟩
  · cases List.mem_singleton.mp hmem
    exact ⟨rfl, hash, rfl⟩
  · cases List.mem_singleton.mp hmem
  · cases List.mem_singleton.mp hmem

theorem shows_updateSession {id id' payload payload' : Text} {expected n next : Nat} {r : Bool}
    (hshows : Shows (P := P) ⟨.updateSession id expected payload next, r⟩ id' payload' n) :
    id' = id ∧ payload' = payload ∧ n = next ∧ r = true := by
  rcases hshows with ⟨_, hmem⟩ | ⟨_, hmem⟩ | ⟨_, hmem⟩
  · cases List.mem_singleton.mp hmem
  · cases List.mem_singleton.mp hmem
    exact ⟨rfl, rfl, rfl, rfl⟩
  · cases List.mem_singleton.mp hmem

theorem shows_putSession {id id' payload : Text} {n : Nat} {item : Item} {r : Bool}
    (hshows : Shows (P := P) ⟨.putSession id item, r⟩ id' payload n) :
    id' = id ∧ (∃ hash, item = ⟨payload, n, hash⟩) ∧ r = true := by
  rcases hshows with ⟨_, hmem⟩ | ⟨_, hmem⟩ | ⟨hash, hmem⟩
  · cases List.mem_singleton.mp hmem
  · cases List.mem_singleton.mp hmem
  · cases List.mem_singleton.mp hmem
    exact ⟨rfl, ⟨hash, rfl⟩, rfl⟩

/-- The items of a session that print alike have one binding. -/
theorem TextOf.binding {id : Text} {b : Value} {s : RuntimeSession} {hash : Text}
    (htext : TextOf id b ⟨printed s.toValue, s.revision, hash⟩) (hs : s.revision ≤ maxSafeInteger + 1) :
    s.binding.toValue = b := by
  obtain ⟨-, t, hash', heq, -, hrevision, rfl⟩ := htext
  have hvalue := toValue_of_printed hrevision hs (congrArg Item.payload heq)
  have hbinding := congrArg (Value.get · (js "binding")) hvalue
  simpa only [RuntimeSession.get_binding] using hbinding

/-- **One call, which the program allows and the table answers.** -/
theorem Traced.step (k : Traced P σ h) {e : Call} {r : Answer P e} (hlegal : Legal P (h i) e)
    (henv : σ.Env e r σ') : Traced P σ' (after h i ⟨e, r⟩) := by
  have hsame : ∀ {ev : SessionEvent P}, Proper P ev.1 ev.2 → (∀ id payload n, Shows ev id payload n →
      ∃ hash, (⟨payload, n, hash⟩ : Item) ∈ σ.contents id) → Traced P σ (after h i ev) :=
    fun hproper hshows => k.next (fun _ _ hmem => hmem) hproper k.texts hshows fun _ hc => Or.inl hc
  cases e with
  | now =>
    obtain rfl := henv
    exact hsame trivial fun _ _ _ hshows => absurd hshows not_shows_now
  | getSession id =>
    obtain ⟨rfl, hr⟩ := henv
    obtain ⟨b, hb⟩ := k.texts id
    have hmem : ∀ item, r = some (some item) → item ∈ σ'.contents id := by
      rintro item rfl
      rcases hr with hr | hr
      · cases hr
      · exact List.mem_of_mem_head? (Option.some.inj hr).symm
    refine hsame ?_ fun id' payload n hshows => ?_
    · rintro item hitem
      obtain ⟨-, s, hash, heq, hid, hrevision, -⟩ := hb item (hmem item hitem)
      exact ⟨s, hash, heq, hid, hrevision⟩
    · obtain ⟨rfl, hash, hread⟩ := shows_getSession hshows
      exact ⟨hash, hmem _ hread⟩
  | getHealth profile =>
    obtain rfl := henv
    refine hsame trivial fun _ _ _ hshows => ?_
    rcases hshows with ⟨_, hmem⟩ | ⟨_, hmem⟩ | ⟨_, hmem⟩ <;> cases List.mem_singleton.mp hmem
  | getLease =>
    obtain ⟨rfl, hr⟩ := henv
    refine hsame hr fun _ _ _ hshows => ?_
    rcases hshows with ⟨_, hmem⟩ | ⟨_, hmem⟩ | ⟨_, hmem⟩ <;> cases List.mem_singleton.mp hmem
  | startExecution c =>
    obtain rfl := henv
    obtain ⟨s, hknown, hrevision, hid, hbinding, haction, hnumber, hexpected⟩ := hlegal
    obtain ⟨hash, hmem⟩ := k.known i _ _ _ hknown
    refine k.next (fun _ _ hmem => hmem) trivial k.texts (fun _ _ _ hshows => ?_) fun c' hc' => ?_
    · rcases hshows with ⟨_, hmem⟩ | ⟨_, hmem⟩ | ⟨_, hmem⟩ <;> cases List.mem_singleton.mp hmem
    · rcases List.mem_cons.mp hc' with rfl | hold
      · exact Or.inr ⟨haction, hnumber, hexpected, s, hash, hid ▸ hmem, hrevision, hbinding⟩
      · exact Or.inl hold
  | putSession id item =>
    obtain ⟨s, hash, x, -, rfl, -, rfl, hvalid, -⟩ := hlegal
    rcases henv with ⟨rfl, rfl⟩ | ⟨hnone, rfl⟩
    · exact hsame trivial fun _ _ _ hshows => nomatch (shows_putSession hshows).2.2
    · refine k.write trivial (fun b _ => ⟨s.binding.toValue, ?_, ?_⟩) fun id' payload n hshows => ?_
      · exact ⟨hvalid.sessionId, s, hash, rfl, rfl, Nat.le_succ_of_le hvalid.revision, rfl⟩
      · intro item hmem
        rw [hnone] at hmem
        exact absurd hmem List.not_mem_nil
      · obtain ⟨rfl, ⟨hash', heq⟩, -⟩ := shows_putSession hshows
        exact ⟨hash', mem_write.mpr (Or.inl ⟨rfl, heq.symm⟩)⟩
  | updateSession id expected payload next =>
    obtain ⟨s, t, x, -, hknown, hrewrites, rfl, rfl, rfl, rfl⟩ := hlegal
    rcases henv with ⟨rfl, rfl⟩ | ⟨old, older, -, -, rfl⟩
    · exact hsame trivial fun _ _ _ hshows => nomatch (shows_updateSession hshows).2.2.2
    · obtain ⟨hash, hmem⟩ := k.known i _ _ _ hknown
      refine k.write trivial (fun b hb => ?_) fun id' payload n hshows => ?_
      · have htext := hb _ hmem
        have hbinding := htext.binding (Nat.le_succ_of_le hrewrites.safe)
        have hrevision : t.revision ≤ maxSafeInteger + 1 := by
          rw [hrewrites.revision]
          exact Nat.succ_le_succ hrewrites.safe
        exact ⟨b, ⟨htext.1, t, old.principalHash, rfl, hrewrites.sessionId, hrevision,
          hrewrites.binding ▸ hbinding⟩, hb⟩
      · obtain ⟨rfl, rfl, rfl, -⟩ := shows_updateSession hshows
        exact ⟨old.principalHash, mem_write.mpr (Or.inl ⟨rfl, rfl⟩)⟩

/-- The table and the invocations of a run. -/
theorem traced_run {Ok : SessionPool ι P → SessionPool ι P → Prop} (tasks : ι → Request) {start : Store}
    (hstart : Initial P start) {Q : SessionPool ι P}
    (hrun : Pool.Run Store.Env Ok (Pool.start start fun i => (tasks i).program P) Q) :
    Traced P Q.shared Q.history := by
  refine (Pool.invariant hrun (fun i => (tasks i).obedient.obeys) (traced_initial hstart) ?_).1
  intro Q i e k r s hk _ hlegal henv _
  exact hk.step (hlegal (hk.proper i)) henv

end Runs

end Sessions
