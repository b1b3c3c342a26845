/-
# The names of the commands

Step Functions refuses an execution whose name was used with another input.  The name of a command is
made of its action, its session and a number, and its input adds the binding of the session and the
revision of the lease.  The binding of a session never changes, so two commands of one name differ in
their input exactly where they carry different revisions of the lease (`named_once_iff`).

They do in a run: a session that has expired is stored only after its `STOP` was sent, so that another
request sends it again under the same name, with the revision that the lease has by then.
-/
import Archon.Resumption.Handler
import Archon.Sessions.Stored

namespace Sessions

open Ecma Ecma.Value Remediation Runtime Resumption Resumption.Program
open Worker (Brief brief_lit brief_object brief_fits brief_ofNat isDigit_decimalText)

/-! ## 1. Names and inputs -/

section Names

theorem length_decimalText {n : Nat} (h : n ≤ maxSafeInteger) : (decimalText n).length ≤ 16 := by
  rw [decimalText, List.length_map]
  rcases Nat.eq_zero_or_pos n with rfl | hpos
  · decide
  · exact length_decimalDigits hpos (Nat.lt_of_le_of_lt h (by decide))

/-- What the name of a command begins with. -/
def actionText (action : String) : Text := js (action.toLower ++ "-")

theorem length_actionText : ∀ action ∈ CORE_ACTIONS, (actionText action).length ≤ 9 := by
  decide +kernel

/-- No action begins another. -/
theorem actionText_inj : ∀ a ∈ CORE_ACTIONS, ∀ b ∈ CORE_ACTIONS,
    (actionText a).take 3 = (actionText b).take 3 → a = b := by
  decide +kernel

theorem three_le_actionText : ∀ action ∈ CORE_ACTIONS, 3 ≤ (actionText action).length := by
  decide +kernel

/-- A command that can be sent. -/
structure Sendable (c : Command) : Prop where
  action : c.action ∈ CORE_ACTIONS
  sessionId : isSessionId c.sessionId = true
  number : c.number ≤ maxSafeInteger
  expectedRevision : c.expectedRevision ≤ maxSafeInteger
  binding : ∃ b : RuntimeBinding, c.binding = b.toValue

variable {c c' : Command}

theorem length_sessionId {t : Text} (h : isSessionId t = true) : t.length = 46 := by
  simp only [isSessionId, Bool.and_eq_true, decide_eq_true_eq] at h
  exact h.1.2

/-- No name is cut. -/
theorem Sendable.name (h : Sendable c) :
    c.name = actionText c.action ++ (c.sessionId ++ (js "-" ++ decimalText c.number)) := by
  have haction := length_actionText _ h.action
  have hid := length_sessionId h.sessionId
  have hnumber := length_decimalText h.number
  rw [Command.name, List.take_of_length_le, actionText]
  · simp only [List.append_assoc]
  · have hdash : (js "-").length = 1 := by decide
    simp only [List.length_append, ← actionText.eq_def]
    omega

/-- **Commands are told apart by their names**, up to the revision of the lease and the binding. -/
theorem Sendable.name_inj (h : Sendable c) (h' : Sendable c') (hname : c.name = c'.name) :
    c.action = c'.action ∧ c.sessionId = c'.sessionId ∧ c.number = c'.number := by
  rw [h.name, h'.name] at hname
  have htake := congrArg (List.take 3) hname
  rw [List.take_append_of_le_length (three_le_actionText _ h.action),
    List.take_append_of_le_length (three_le_actionText _ h'.action)] at htake
  have haction := actionText_inj _ h.action _ h'.action htake
  rw [haction] at hname
  obtain ⟨hid, hrest⟩ := List.append_inj (List.append_cancel_left hname)
    ((length_sessionId h.sessionId).trans (length_sessionId h'.sessionId).symm)
  exact ⟨haction, hid, decimalText_inj (List.append_cancel_left hrest)⟩

/-- What the state machine is given. -/
def Command.body (c : Command) : Value :=
  object [("schema", lit "archon.core-runtime-command/v1"), ("action", lit c.action),
    ("sessionId", .str c.sessionId), ("expectedRevision", .num (.ofNat c.expectedRevision)),
    ("binding", c.binding)]

theorem brief_action : ∀ action ∈ CORE_ACTIONS, Brief (lit action) 386 := by
  intro action haction
  simp only [CORE_ACTIONS, List.mem_cons, List.not_mem_nil, or_false] at haction
  rcases haction with rfl | rfl | rfl
  · exact brief_lit (by decide)
  · exact brief_lit (by decide)
  · exact brief_lit (by decide)

/-- The input is read as it was printed. -/
theorem Sendable.parse_input (h : Sendable c) : parse c.input = some c.body := by
  obtain ⟨b, hb⟩ := h.binding
  have htexts : ∀ t ∈ bindingTexts b,
      Brief (.str t) ((bindingTexts b).map fun t => utf8Length (Value.str t).written).sum :=
    fun t ht => ⟨trivial, trivial, List.single_le_sum (fun _ _ => Nat.zero_le _) _
      (List.mem_map_of_mem ht)⟩
  have hexpected : c.expectedRevision ≤ 2 ^ 53 := h.expectedRevision.trans (by decide)
  have hbinding := brief_binding htexts
  rw [← hb] at hbinding
  have hbrief : Brief c.body _ := @brief_object _ [386, 386, 94, 16, _]
    ["schema", "action", "sessionId", "expectedRevision", "binding"] rfl (by decide)
    (.cons (brief_lit (by decide)) (.cons (brief_action _ h.action)
      (.cons (brief_fits (fits_isSessionId h.sessionId)) (.cons (brief_ofNat hexpected)
        (.cons hbinding .nil)))))
  exact hbrief.read.1

/-- **Commands that agree up to the revision of the lease have one input if and only if they agree.** -/
theorem Sendable.input_eq_iff (h : Sendable c) (h' : Sendable c') (haction : c.action = c'.action)
    (hid : c.sessionId = c'.sessionId) (hbinding : c.binding = c'.binding) :
    c.input = c'.input ↔ c.expectedRevision = c'.expectedRevision := by
  constructor
  · intro hinput
    have hread := h.parse_input
    rw [hinput, h'.parse_input] at hread
    have hbody := congrArg (Value.get · (js "expectedRevision")) (Option.some.inj hread)
    have hnumber : Value.num (.ofNat c'.expectedRevision) = .num (.ofNat c.expectedRevision) := by
      simpa [Command.body, List.lookup] using hbody
    have hcounter := congrArg Value.counter hnumber
    rw [Value.counter_num_ofNat h.expectedRevision, Value.counter_num_ofNat h'.expectedRevision]
      at hcounter
    exact (Option.some.inj hcounter).symm
  · intro hexpected
    rw [Command.input, Command.input, haction, hid, hexpected, hbinding]

end Names

/-! ## 2. What is sent in a run -/

section Runs

variable {ι : Type} [DecidableEq ι] {P : Platform} {σ : Store} {h : ι → List (SessionEvent P)}

/-- Every name is used with one input. -/
def NamedOnce (σ : Store) : Prop :=
  ∀ c ∈ σ.executions, ∀ c' ∈ σ.executions, c.name = c'.name → c.input = c'.input

/-- Where a session is sent one action twice under one number, the lease has one revision. -/
def LeaseKept (σ : Store) : Prop :=
  ∀ c ∈ σ.executions, ∀ c' ∈ σ.executions, c.action = c'.action → c.sessionId = c'.sessionId →
    c.number = c'.number → c.expectedRevision = c'.expectedRevision

omit [DecidableEq ι] in
theorem Traced.sendable (k : Traced P σ h) {c : Command} (hc : c ∈ σ.executions) : Sendable c := by
  obtain ⟨haction, hnumber, hexpected, s, hash, hmem, -, hbinding⟩ := k.sent c hc
  obtain ⟨b, hb⟩ := k.texts c.sessionId
  exact ⟨haction, (hb _ hmem).1, hnumber, hexpected, s.binding, hbinding⟩

omit [DecidableEq ι] in
/-- The commands about a session carry one binding. -/
theorem Traced.binding_eq (k : Traced P σ h) {c c' : Command} (hc : c ∈ σ.executions)
    (hc' : c' ∈ σ.executions) (hid : c.sessionId = c'.sessionId) : c.binding = c'.binding := by
  obtain ⟨b, hb⟩ := k.texts c.sessionId
  have hbound : ∀ {c₁ : Command}, c₁ ∈ σ.executions → c₁.sessionId = c.sessionId → c₁.binding = b := by
    intro c₁ hc₁ hid₁
    obtain ⟨-, -, -, s, hash, hmem, hrevision, hbinding⟩ := k.sent c₁ hc₁
    rw [hid₁] at hmem
    rw [hbinding]
    exact (hb _ hmem).binding (Nat.le_succ_of_le hrevision)
  exact (hbound hc rfl).trans (hbound hc' hid.symm).symm

omit [DecidableEq ι] in
theorem Traced.namedOnce_iff (k : Traced P σ h) : NamedOnce σ ↔ LeaseKept σ := by
  constructor
  · intro honce c hc c' hc' haction hid hnumber
    have hname : c.name = c'.name := by
      rw [(k.sendable hc).name, (k.sendable hc').name, haction, hid, hnumber]
    exact ((k.sendable hc).input_eq_iff (k.sendable hc') haction hid (k.binding_eq hc hc' hid)).mp
      (honce c hc c' hc' hname)
  · intro hkept c hc c' hc' hname
    obtain ⟨haction, hid, hnumber⟩ := (k.sendable hc).name_inj (k.sendable hc') hname
    exact ((k.sendable hc).input_eq_iff (k.sendable hc') haction hid (k.binding_eq hc hc' hid)).mpr
      (hkept c hc c' hc' haction hid hnumber)

end Runs

/-! ## 3. A stop that is sent again -/

section Again

/-- An active session of the Core runtime. -/
def leased : RuntimeSession := { held with binding := { heldBinding with profileId := .core } }

/-- The time at which its lease ends. -/
def endTime : Stamp Platform.node := ⟨js "2026-07-14T12:00:00.000Z", 1784030400000, by decide⟩

/-- The session, ended by its hard deadline. -/
def ended : RuntimeSession := { leased with
  state := .EXPIRED, updatedAt := endTime.text, endReason := some .HARD_TIMEOUT, revision := 3 }

def leasedTimes : Times Platform.node leased where
  created := heldTimes.created
  updated := heldTimes.updated
  lastActivity := heldTimes.lastActivity
  idle := heldTimes.idle
  hard := heldTimes.hard
  created_eq := heldTimes.created_eq
  updated_eq := heldTimes.updated_eq
  lastActivity_eq := heldTimes.lastActivity_eq
  idle_eq := heldTimes.idle_eq
  hard_eq := heldTimes.hard_eq

theorem leased_kept : Kept Platform.node leased where
  valid := {
    sessionId := held_kept.valid.sessionId
    binding := ⟨heldBinding_valid.generation, heldBinding_valid.capabilityDigest, heldBinding_valid.lease⟩
    request := by decide
    createdAt := rfl
    hardExpiresAt := rfl
    chronology := ⟨leasedTimes, by decide⟩
    revision := by decide
    terminal := rfl }
  dated :=
    let ⟨created, updated, activity, idle, hard⟩ := held_kept.dated
    ⟨created, updated, activity, idle, hard⟩

def endedTimes : Times Platform.node ended where
  created := heldTimes.created
  updated := endTime.ms
  lastActivity := heldTimes.lastActivity
  idle := heldTimes.idle
  hard := heldTimes.hard
  created_eq := heldTimes.created_eq
  updated_eq := endTime.exact
  lastActivity_eq := heldTimes.lastActivity_eq
  idle_eq := heldTimes.idle_eq
  hard_eq := heldTimes.hard_eq

theorem ended_valid : ended.Valid Platform.node where
  sessionId := held_kept.valid.sessionId
  binding := leased_kept.valid.binding
  request := by decide
  createdAt := rfl
  hardExpiresAt := rfl
  chronology := ⟨endedTimes, by decide⟩
  revision := by decide
  terminal := rfl

theorem nextRevision_leased : nextRevision leased = .ok 3 := by
  rw [nextRevision, decide_eq_false (by decide), throwIf_false, ok_bind]
  rfl

theorem expireIfDue_leased : expireIfDue Platform.node leased endTime = .ok ended := by
  unfold expireIfDue
  rw [if_neg (by decide), instant_str leasedTimes.hard_eq, ok_bind, instant_str leasedTimes.idle_eq, ok_bind,
    if_pos (by decide), Runtime.evolve, nextRevision_leased, ok_bind]
  exact validateRuntimeSession_toValue ended_valid

theorem tick_leased :
    Deployed.tick Platform.node leased.toValue (.str endTime.text) = .ok ended.toValue := by
  have hlate : leasedTimes.updated ≤ endTime.ms := by decide
  have hagree := tick_agree leased_kept.valid leasedTimes.updated_eq hlate
  rw [expireIfDue_leased] at hagree
  exact hagree.eq_ok

/-- The lease, at some revision. -/
def leaseAt (n : Nat) : Lease := ⟨some n, some sampleId, some (js "READY")⟩

/-- The command that is sent then. -/
def stopAt (n : Nat) : Command := ⟨"STOP", sampleId, 3, n, leased.binding.toValue⟩

/-- What a request for the status of the session calls, up to the command. -/
def stopEvents (n : Nat) : List (SessionEvent Platform.node) :=
  [⟨.now, endTime⟩, ⟨.getSession sampleId, some (some (itemOf leased heldOwner))⟩,
    ⟨.getLease, some (some (leaseAt n))⟩, ⟨.startExecution (stopAt n), true⟩]

theorem readSession_reaches {s : RuntimeSession} {hash : Text} (hs : s.Valid P)
    (hhash : isDigestText hash = true) : Reaches (readSession P s.sessionId)
      [⟨.getSession s.sessionId, some (some (itemOf s hash))⟩] (.done (.ok s.toValue)) := by
  have hsafe := Nat.le_succ_of_le hs.revision
  rw [readSession, hs.sessionId, Bool.not_true, if_neg Bool.false_ne_true]
  refine reaches_call (P := P) (e := Call.getSession s.sessionId) _ ?_
  dsimp only [itemOf]
  rw [printed_not_empty hsafe, if_neg Bool.false_ne_true, parse_printed hsafe]
  dsimp only
  rw [validated hs, lift_ok_bind, RuntimeSession.get_revision, Value.ofNat_strictEq_ofNat, Bool.not_true,
    if_neg Bool.false_ne_true, hhash, Bool.not_true, if_neg Bool.false_ne_true]
  exact .refl _

theorem stopExpired_reaches (n : Nat) : ∃ q, Reaches (stopExpired Platform.node leased.toValue ended.toValue)
    [⟨.getLease, some (some (leaseAt n))⟩, ⟨.startExecution (stopAt n), true⟩] q := by
  have hexpired : (!Deployed.stateIn leased.toValue [.EXPIRED] && Deployed.stateIn ended.toValue [.EXPIRED]
      && isBoundTo ended.toValue "core") = true := by decide
  have hlease : leaseRead (some (some (leaseAt n))) = .ok (n, some sampleId, js "READY") := by
    rw [leaseRead, leaseAt]
    exact if_pos (by decide)
  have hid : textOf ended.toValue "sessionId" = sampleId := textOf_sessionId ended
  have hrevision : revisionOf ended.toValue = 3 := revisionOf_toValue (by decide)
  have hbinding : ended.toValue.get (js "binding") = leased.binding.toValue :=
    RuntimeSession.get_binding ended
  refine ⟨.done (.ok ()), ?_⟩
  rw [stopExpired, if_pos hexpired]
  refine reaches_call (P := Platform.node) (e := Call.getLease) _ ?_
  rw [hlease, lift_ok_bind, coreCommand, hid, hrevision, hbinding]
  exact reaches_call (P := Platform.node) (e := Call.startExecution (stopAt n)) _ (.refl _)

/-- The session has expired, and the command is sent before that is stored. -/
theorem reconcile_reaches (n : Nat) : ∃ q, Reaches (reconcile Platform.node leased.toValue endTime)
    [⟨.getLease, some (some (leaseAt n))⟩, ⟨.startExecution (stopAt n), true⟩] q := by
  obtain ⟨q, hsent⟩ := stopExpired_reaches n
  have hcore : reconcileCore Platform.node ended.toValue endTime = .done (.ok ended.toValue) :=
    reconcileCore_skips (Or.inr rfl)
  have hcloud : reconcileCloud Platform.node ended.toValue endTime = .done (.ok ended.toValue) :=
    reconcileCloud_skips (Or.inr rfl)
  have hreaches := hsent.bind_left fun _ => updateSession Platform.node leased.toValue ended.toValue
  refine ⟨q >>= fun _ => updateSession Platform.node leased.toValue ended.toValue, ?_⟩
  rw [reconcile, validated leased_kept.valid, lift_ok_bind, tick_leased, lift_ok_bind, hcore, done_ok_bind,
    hcloud, done_ok_bind]
  exact hreaches

theorem stop_reaches (n : Nat) :
    ∃ q, Reaches (sessionStatus Platform.node sampleId) (stopEvents n) q := by
  obtain ⟨q, hsent⟩ := reconcile_reaches n
  have hread := readSession_reaches leased_kept.valid heldOwner_digest
  have hrest := hsent.bind_left fun session =>
    lift (Deployed.publicStatus Platform.node session (.str endTime.text))
  have hreaches := hread.bind (g := fun stored => do
    let session ← reconcile Platform.node stored endTime
    lift (Deployed.publicStatus Platform.node session (.str endTime.text))) hrest
  exact ⟨_, reaches_call (P := Platform.node) (e := Call.now) endTime hreaches⟩

/-- The table and the commands, after the commands of the list. -/
def stopped (ns : List Nat) : Store := { storeOf leased with executions := ns.map stopAt }

theorem stop_moves {n : Nat} (hn : n ≤ maxSafeInteger) (ns : List Nat) :
    Pool.Moves Store.Env (stopped ns) (stopEvents n) (stopped (n :: ns)) := by
  have hread : (stopped ns).Env (P := Platform.node) (.getSession sampleId)
      (some (some (itemOf leased heldOwner))) (stopped ns) :=
    ⟨rfl, Or.inr (by rw [stopped, storeOf_contents]; rfl)⟩
  have hlease : (stopped ns).Env (P := Platform.node) .getLease (some (some (leaseAt n))) (stopped ns) := by
    refine ⟨rfl, fun lease m hread hrevision => ?_⟩
    obtain rfl := Option.some.inj (Option.some.inj hread)
    obtain rfl := Option.some.inj hrevision
    exact hn
  exact .cons (e := Call.now) rfl (.cons hread (.cons hlease
    (.cons (e := Call.startExecution (stopAt n)) rfl (.nil _))))

/-- Two requests. -/
def stopTasks (_ : Bool) : Request := .status sampleId

/-- They are made of the table with the session. -/
def stopPool : SessionPool Bool Platform.node :=
  Pool.start (stopped []) fun i => (stopTasks i).program Platform.node

/-- A request is made up to its command, where it has not begun. -/
theorem stop_run {Q : SessionPool Bool Platform.node} {i : Bool} {ns : List Nat} {n : Nat}
    (hn : n ≤ maxSafeInteger) (hrun : Pool.Run Store.Env (fun _ _ => True) stopPool Q)
    (hshared : Q.shared = stopped ns)
    (hprogram : Q.program i = sessionStatus Platform.node sampleId) :
    ∃ Q', Pool.Run Store.Env (fun _ _ => True) stopPool Q' ∧ Q'.shared = stopped (n :: ns)
      ∧ ∀ j, j ≠ i → Q'.program j = Q.program j := by
  obtain ⟨q, hreaches⟩ := stop_reaches n
  rw [← hprogram] at hreaches
  have hmoves := stop_moves hn ns
  rw [← hshared] at hmoves
  obtain ⟨Q', hrun', hshared', hprograms, -⟩ := hrun.alone hreaches hmoves fun _ _ _ _ _ _ => trivial
  refine ⟨Q', hrun', hshared', fun j hj => ?_⟩
  rw [hprograms, Function.update_of_ne hj]

end Again

end Sessions
