/-
# What becomes of a job

A job that is well formed is to be taken, given back and completed, and never to be rejected as
invalid.  That it is so depends on what the table answers.  Numbers come back as `Decimal`, which the
scan does not take for an attempt, so a job that is met while it runs is rejected whether its
deadline has passed or not (`not_left_alone`); and an error of the table at a claim, a recovery or a
last completion is not caught, and ends in the rejection of the job as well.

`recovered` is what holds of every run that meets neither: `Spared` is that no scan meets the job
while it runs, unless numbers come back as `int`, and that no such write fails.
-/
import Archon.Jobs.Evidence

namespace Jobs

open Ecma Remediation Resumption Resumption.Program

variable {S : Settings} {key : Key} {j : Job}

/-! ## 1. Receipts -/

theorem encodable_of_isAudit {t : Text} (h : isAudit t = true) : encodable t = true :=
  encodable_of_isHex (Bool.and_eq_true_iff.mp h).2

theorem encodable_of_isAttemptId {t : Text} (h : isAttemptId t = true) : encodable t = true :=
  encodable_of_isHex (Bool.and_eq_true_iff.mp h).2

theorem formMember_dumps (name : String) (v : Py) {form : Text → Bool}
    (h : ∀ t, form t = true → encodable t = true) :
    ((formMember name v form).all fun f => (dumps f.2).isSome) = true := by
  unfold formMember
  split
  · rename_i hform
    obtain ⟨t, rfl, ht⟩ := Py.isForm_iff.mp hform
    simp [h t ht]
  · rfl

theorem receiptContext_dumps (j : Job) :
    ((receiptContext j).all fun f => (dumps f.2).isSome) = true := by
  have haudit := fun name v => formMember_dumps name v fun _ => encodable_of_isAudit
  have hdigest := fun name v => formMember_dumps name v fun _ => encodable_of_isDigest
  unfold receiptContext
  rw [List.all_append, Bool.and_eq_true]
  constructor
  · split
    · rename_i hoperation
      obtain ⟨o, -, ho⟩ := List.any_eq_true.mp hoperation
      simp [of_decide_eq_true ho]
    · rfl
  · split
    · simp only [List.all_append, Bool.and_eq_true]
      exact ⟨⟨⟨haudit _ _, hdigest _ _⟩, haudit _ _⟩, hdigest _ _⟩
    · rfl

/-- The receipt tells that the job was not one that the adapter takes. -/
def tellsInvalid (receipt : Py) : Prop :=
  (receipt.get "error").get "code" = .lit "INVALID_CORE_JOB"

theorem receiptContext_error (j : Job) : (receiptContext j).lookup "error" = none := by
  have hmember : ∀ (name : String) (v : Py) (form : Text → Bool), name ≠ "error" →
      (formMember name v form).lookup "error" = none := by
    intro name v form hname
    unfold formMember
    split
    · simp [List.lookup, beq_false_of_ne hname.symm]
    · rfl
  unfold receiptContext
  split <;> split <;>
    simp [List.lookup_append, List.lookup, hmember]

theorem receipt_get_error {jobId t : Text} {state : JobState} {d : Text}
    {attempt rest : List (String × Py)} (hattempt : attempt.lookup "error" = none) :
    (Py.object (receiptFields S j jobId state t attempt rest
      ++ [("receiptDigest", .str d)])).get "error" = (rest.lookup "error").getD .none := by
  unfold receiptFields
  simp [List.lookup_append, List.lookup, receiptContext_error, hattempt]

/-- A completion tells how the attempt ended, and not that the job is invalid. -/
theorem completion_receipt {a t : Text} {outcome : Outcome} {state : JobState} {receipt : Py}
    (houtcome : ∀ code retryable, outcome = .error code retryable → code ≠ "INVALID_CORE_JOB")
    (h : completion S j a t outcome = .ok (state, receipt)) :
    (state = .SUCCEEDED ∨ state = .FAILED) ∧ ¬ tellsInvalid receipt := by
  have hsealed : ∀ {outcome : Outcome} {receipt : Py},
      (∀ code retryable, outcome = .error code retryable → code ≠ "INVALID_CORE_JOB") →
      sealReceipt S (receiptFields S j j.jobId outcome.state t [("attemptId", .str a)]
        outcome.member) = .ok receipt →
      (outcome.state = .SUCCEEDED ∨ outcome.state = .FAILED) ∧ ¬ tellsInvalid receipt := by
    intro outcome receipt houtcome hreceipt
    obtain ⟨d, -, hreceipt⟩ := bind_eq_ok.mp hreceipt
    obtain rfl := Except.ok.inj hreceipt
    unfold tellsInvalid
    rw [receipt_get_error rfl]
    cases outcome with
    | result v => exact ⟨Or.inl rfl, nofun⟩
    | error code retryable =>
      refine ⟨Or.inr rfl, ?_⟩
      simpa [Outcome.member, receiptError, List.lookup, Py.lit] using houtcome code retryable rfl
  have hreplaced : ∀ {code : String} {x : JobState × Py}, code ≠ "INVALID_CORE_JOB" →
      (do return ((Outcome.error code false).state,
        ← sealReceipt S (receiptFields S j j.jobId (Outcome.error code false).state t
          [("attemptId", .str a)] (Outcome.error code false).member)) : Except Fault _) = .ok x →
      (x.1 = .SUCCEEDED ∨ x.1 = .FAILED) ∧ ¬ tellsInvalid x.2 := by
    intro code x hcode hx
    obtain ⟨receipt, hreceipt, hx⟩ := bind_eq_ok.mp hx
    obtain rfl := Except.ok.inj hx
    refine hsealed ?_ hreceipt
    rintro _ _ ⟨⟩
    exact hcode
  unfold completion at h
  dsimp only at h
  split at h
  · rename_i receipt' hreceipt
    split at h
    · obtain ⟨rfl, rfl⟩ := Prod.mk.inj (Except.ok.inj h)
      exact hsealed houtcome hreceipt
    · exact hreplaced (by decide) h
  · exact hreplaced (by decide) h

/-! ## 2. Jobs that are well formed -/

/-- A stored job that the adapter is to take.  Its texts can be encoded, as all that is stored. -/
structure Sound (S : Settings) (key : Key) (j : Job) : Prop where
  bound : j.bound S = true
  jobId : isJobId j.jobId = true
  key : key = (if j.operation = MUTATION_OPERATION then mutationPartition S.sessionId
    else sessionPartition S.sessionId, jobKey j.jobId)
  request : requestValid S.P j.operation j.request = true
  texts : encodable S.sessionId = true ∧ encodable S.generation = true ∧
    encodable S.capabilityDigest = true
  running : j.state = .RUNNING → ∃ a d n, j.attemptId = some a ∧ isAttemptId a = true ∧
    j.attemptDeadlineEpoch = some d ∧ j.attemptCount = some n
  receipt : ∀ r, j.receipt = some r → ¬ tellsInvalid r

/-- **A job that is well formed and open is taken.** -/
theorem Sound.valid (h : Sound S key j) (hopen : j.open = true) :
    Jobs.valid S key.1 key j = true := by
  have hkey := h.key
  have h₁ := congrArg Prod.fst hkey
  have h₂ := congrArg Prod.snd hkey
  dsimp only at h₁ h₂
  simp [Jobs.valid, h₁, h₂, h.jobId, h.bound, hopen, h.request]

/-- **A receipt can be sealed for it.** -/
theorem Sound.seals (h : Sound S key j) {t : Text} (ht : encodable t = true) (state : JobState)
    {attempt rest : List (String × Py)}
    (hattempt : (attempt.all fun f => (dumps f.2).isSome) = true)
    (hrest : (rest.all fun f => (dumps f.2).isSome) = true) :
    ∃ d, sealReceipt S (receiptFields S j j.jobId state t attempt rest)
      = .ok (.object (receiptFields S j j.jobId state t attempt rest
        ++ [("receiptDigest", .str d)])) := by
  have hcontext := receiptContext_dumps j
  have hjob := encodable_of_isJobId h.jobId
  have hstate : encodable state.text = true := by cases state <;> exact encodable_js _
  obtain ⟨hsession, hgeneration, hcapabilities⟩ := h.texts
  have hdumps : (dumps (.object (receiptFields S j j.jobId state t attempt rest))).isSome = true := by
    rw [dumps_object_isSome]
    unfold receiptFields
    simp only [List.all_append, hcontext, hattempt, hrest]
    simp [hjob, hsession, hgeneration, hcapabilities, ht, hstate, Py.lit]
  obtain ⟨text, htext⟩ := Option.isSome_iff_exists.mp hdumps
  unfold sealReceipt digestOf digest
  rw [htext]
  exact ⟨_, rfl⟩

theorem receiptError_dumps (code : String) (retryable : Bool) :
    (([("error", receiptError code retryable)] : List (String × Py)).all
      fun f => (dumps f.2).isSome) = true := by
  simp [receiptError, Py.lit]

/-- **It can be completed.** -/
theorem Sound.completes (h : Sound S key j) {a t : Text} (ha : encodable a = true)
    (ht : encodable t = true) (outcome : Outcome) :
    ∃ x, completion S j a t outcome = .ok x := by
  have hattempt : (([("attemptId", .str a)] : List (String × Py)).all
      fun f => (dumps f.2).isSome) = true := by simp [ha]
  unfold completion
  dsimp only
  split
  · split
    · exact ⟨_, rfl⟩
    · obtain ⟨d, hd⟩ := h.seals ht .FAILED hattempt
        (receiptError_dumps "CORE_JOB_RECEIPT_TOO_LARGE" false)
      exact ⟨_, bind_eq_ok.mpr ⟨_, hd, rfl⟩⟩
  · obtain ⟨d, hd⟩ := h.seals ht .FAILED hattempt
      (receiptError_dumps "CORE_JOB_RECEIPT_INVALID" false)
    exact ⟨_, bind_eq_ok.mpr ⟨_, hd, rfl⟩⟩

/-! ## 3. What may become of it -/

/-- What a scan may write to the job.  It claims what is queued; it completes what it has claimed
itself; and it puts back, or fails at the third attempt, what it met with a deadline that has passed
by its own clock. -/
inductive Change (S : Settings) (H : CallHistory) (key : Key) (j : Job) : JobWrite → Prop
  | claim {a started : Text} {now : Int} (hqueued : j.state = .QUEUED) (ha : isAttemptId a = true)
      (hnow : hadTime now ∈ H) : Change S H key j (.claim key a started (now + ATTEMPT_SECONDS))
  | complete {a t : Text} {state : JobState} {receipt : Py} (hrunning : j.state = .RUNNING)
      (hattempt : j.attemptId = some a) (hclaimed : Claimed H key a)
      (hstate : state = .SUCCEEDED ∨ state = .FAILED) (hreceipt : ¬ tellsInvalid receipt) :
      Change S H key j (.complete key a state t receipt)
  | requeue {a t : Text} {deadline attempts now : Int} {met : Job} (hrunning : j.state = .RUNNING)
      (hattempt : j.attemptId = some a) (hdeadline : j.attemptDeadlineEpoch = some deadline)
      (hnow : hadTime now ∈ H) (hexpired : deadline ≤ now) (hmet : Met H key.1 key met)
      (hattempted : Attempted S met a deadline attempts) (hattempts : attempts < MAX_ATTEMPTS) :
      Change S H key j (.requeue key a deadline t)
  | exhaust {a t : Text} {deadline attempts now : Int} {met : Job} {state : JobState} {receipt : Py}
      (hrunning : j.state = .RUNNING) (hattempt : j.attemptId = some a) (hnow : hadTime now ∈ H)
      (hexpired : deadline ≤ now) (hmet : Met H key.1 key met)
      (hattempted : Attempted S met a deadline attempts) (hattempts : MAX_ATTEMPTS ≤ attempts)
      (hstate : state = .FAILED) (hreceipt : ¬ tellsInvalid receipt) :
      Change S H key j (.complete key a state t receipt)

/-- No scan has met the job while it runs, unless it can read its attempt, and no error of the table
was left uncaught. -/
structure Calm (S : Settings) (key : Key) (H : CallHistory) : Prop where
  unmet : S.decimals = true → ∀ pk j, Met H pk key j → j.state ≠ .RUNNING
  caught : ∀ w, w.key = key → w.Uncaught S → wasWritten w (.error .other) ∉ H

/-- The job is well formed, and everything that is known of it is so. -/
structure Kept {ι : Type} (S : Settings) (key : Key) (s : World) (H : ι → CallHistory) : Prop where
  job : ∃ j, s.jobs key = some j ∧ Sound S key j
  met : ∀ i pk j, Met (H i) pk key j → Sound S key j ∧ pk = key.1
  uuid : ∀ i a, hadUuid a ∈ H i → isAttemptId a = true
  iso : ∀ i t, hadIso t ∈ H i → encodable t = true
  calm : ∀ i, Calm S key (H i)

section Runs

variable {ι : Type} {s s' : World} {H : ι → CallHistory} {i : ι}

/-- **A job that is well formed is not rejected.** -/
theorem Kept.no_cause (h : Kept S key s H) {pk : Text} (hmet : Met (H i) pk key j)
    (hrejectable : rejectable S key j = true) : ¬ Cause S (H i) pk key j := by
  obtain ⟨hsound, rfl⟩ := h.met i pk j hmet
  have hopen : j.open = true := by
    simp only [rejectable, Bool.and_eq_true] at hrejectable
    exact hrejectable.2
  intro hcause
  cases hcause with
  | invalid hinvalid =>
    rw [hsound.valid hopen] at hinvalid
    exact nomatch hinvalid
  | unread hrunning hunread =>
    obtain ⟨a, d, n, ha, hform, hd, hn⟩ := hsound.running hrunning
    have hint : ∀ x, intAttribute S x = x := by
      intro x
      unfold intAttribute
      split
      · rename_i hdecimals
        exact absurd hrunning ((h.calm i).unmet hdecimals _ _ hmet)
      · rfl
    exact hunread a d n ⟨hform, ha, (hint _).trans hd, (hint _).trans hn⟩
  | stored hkey hw hwritten => exact (h.calm i).caught _ hkey hw hwritten
  | unsealed _ ha ht hfails =>
    have ha' := ha.elim (h.uuid i _) id
    obtain ⟨x, hx⟩ := hsound.completes (encodable_of_isAttemptId ha') (h.iso i _ ht) _
    exact nomatch hx.symm.trans hfails

/-- **What a scan writes to the job is a change of it.** -/
theorem Kept.change (h : Kept S key s H) {w : JobWrite} (hw : ScanWrite S (H i) w)
    (hkey : w.key = key) (hmeets : w.meets S j = true) : Change S (H i) key j w := by
  cases hw with
  | claim hmet hvalid hqueued ha hnow =>
    obtain rfl := hkey
    simp only [JobWrite.meets, Bool.and_eq_true, decide_eq_true_eq] at hmeets
    exact .claim hmeets.1 (h.uuid i _ ha) hnow
  | complete hmet hvalid hqueued hclaimed houtcome hreceipt =>
    obtain rfl := hkey
    simp only [JobWrite.meets, Bool.and_eq_true, decide_eq_true_eq] at hmeets
    have hreceipt := completion_receipt (fun code retryable hcode => by
      rw [houtcome code retryable hcode]
      decide) hreceipt
    exact .complete hmeets.1.1 hmeets.1.2 ⟨_, _, hclaimed⟩ hreceipt.1 hreceipt.2
  | exhaust hmet hvalid hrunning hattempted hnow hdeadline hattempts hreceipt =>
    obtain rfl := hkey
    simp only [JobWrite.meets, Bool.and_eq_true, decide_eq_true_eq] at hmeets
    obtain ⟨-, rfl⟩ := h.met i _ _ hmet
    have hstate := completion_error hreceipt
    have hreceipt := completion_receipt (by rintro _ _ ⟨⟩; decide) hreceipt
    exact .exhaust hmeets.1.1 hmeets.1.2 hnow hdeadline hmet hattempted hattempts hstate hreceipt.2
  | requeue hmet hvalid hrunning hattempted hnow hdeadline hattempts =>
    obtain rfl := hkey
    simp only [JobWrite.meets, Bool.and_eq_true, decide_eq_true_eq] at hmeets
    obtain ⟨-, rfl⟩ := h.met i _ _ hmet
    exact .requeue hmeets.1.1.1 hmeets.1.1.2 hmeets.1.2 hnow hdeadline hmet hattempted hattempts
  | reject hmet hcause hrejectable =>
    obtain rfl := hkey
    exact absurd hcause (h.no_cause hmet hrejectable)

/-- A write that changes the course of a job alone keeps it well formed. -/
theorem Sound.update (h : Sound S key j) {w : JobWrite}
    (hrunning : (w.update j).state = .RUNNING → ∃ a d n, (w.update j).attemptId = some a ∧
      isAttemptId a = true ∧ (w.update j).attemptDeadlineEpoch = some d ∧
      (w.update j).attemptCount = some n)
    (hreceipt : ∀ r, (w.update j).receipt = some r → ¬ tellsInvalid r) :
    Sound S key (w.update j) := by
  have hsame := w.same j
  have hbound : (w.update j).bound S = true := by
    unfold Job.bound
    rw [hsame.schema, hsame.profileId, hsame.sessionId, hsame.generation, hsame.capabilityDigest]
    exact h.bound
  refine ⟨hbound, ?_, ?_, ?_, h.texts, hrunning, hreceipt⟩
  · rw [hsame.jobId]
    exact h.jobId
  · rw [hsame.jobId, hsame.operation]
    exact h.key
  · rw [hsame.operation, hsame.request]
    exact h.request

/-- **A change keeps the job well formed.** -/
theorem Change.sound {H : CallHistory} {w : JobWrite} (hchange : Change S H key j w)
    (h : Sound S key j) : Sound S key (w.update j) := by
  cases hchange with
  | claim hqueued ha hnow => exact h.update (fun _ => ⟨_, _, _, rfl, ha, rfl, rfl⟩) h.receipt
  | complete hrunning hattempt hclaimed hstate hreceipt =>
    refine h.update (fun hr => ?_) fun r hr => ?_
    · rcases hstate with rfl | rfl <;> exact nomatch hr
    · obtain rfl := Option.some.inj hr
      exact hreceipt
  | requeue => exact h.update (fun hr => nomatch hr) h.receipt
  | exhaust hrunning hattempt hnow hexpired hmet hattempted hattempts hstate hreceipt =>
    subst hstate
    refine h.update (fun hr => nomatch hr) fun r hr => ?_
    obtain rfl := Option.some.inj hr
    exact hreceipt

/-! ## 4. Every run -/

/-- What may become of the job when a program writes to it. -/
def Justified (S : Settings) (work : Work) (H : CallHistory) (key : Key) (j : Job)
    (w : JobWrite) : Prop :=
  match work with
  | .scan _ => Change S H key j w
  | .gateway jobId _ => ∃ envelopeDigest now, w = consumption S jobId envelopeDigest now

/-- **What is written to the job is justified, and keeps it well formed.** -/
theorem Kept.justified (h : Kept S key s H) {work : Work} {w : JobWrite}
    (hallowed : Allowed S work (H i) (.write w)) (hkey : w.key = key)
    (hmeets : w.meets S j = true) : Justified S work (H i) key j w := by
  cases work with
  | scan cursors => exact h.change hallowed hkey hmeets
  | gateway jobId request =>
    obtain ⟨now, v, -, -, rfl, -⟩ := hallowed
    exact ⟨_, now, rfl⟩

theorem Justified.sound {work : Work} {H : CallHistory} {w : JobWrite}
    (hw : Justified S work H key j w) (h : Sound S key j) : Sound S key (w.update j) := by
  cases work with
  | scan cursors => exact Change.sound hw h
  | gateway jobId request =>
    obtain ⟨d, now, rfl⟩ := hw
    exact h.update h.running h.receipt

/-- A new event of a history is the last. -/
theorem mem_update [DecidableEq ι] {ev ev' : Event Call Call.Reply} {i' : ι}
    (h : ev' ∈ Function.update H i (H i ++ [ev]) i') : ev' ∈ H i' ∨ ev' = ev := by
  by_cases hi : i' = i
  · subst hi
    rw [Function.update_self] at h
    exact (List.mem_append.mp h).imp_right List.mem_singleton.mp
  · rw [Function.update_of_ne hi] at h
    exact Or.inl h

/-- **One step.** -/
theorem kept_step [DecidableEq ι] {works : ι → Work} {e : Call} {r : e.Reply}
    (h : Kept S key s H) (hallowed : Allowed S (works i) (H i) e) (hs : Service S s e r s')
    (hcalm : ∀ i', Calm S key (Function.update H i (H i ++ [⟨e, r⟩]) i')) :
    Kept S key s' (Function.update H i (H i ++ [⟨e, r⟩])) := by
  refine ⟨?_, fun i' pk j hmet => ?_, fun i' a hmem => ?_, fun i' t hmem => ?_, hcalm⟩
  · obtain ⟨j, hj, hsound⟩ := h.job
    rcases hs.cases_write with rfl | ⟨w, j', rfl, hj', hmeets, rfl⟩
    · exact ⟨j, hj, hsound⟩
    · by_cases hkey : w.key = key
      · rw [hkey, hj] at hj'
        obtain rfl := Option.some.inj hj'
        refine ⟨w.update j, ?_, (h.justified hallowed hkey hmeets).sound hsound⟩
        rw [hkey, World.withJob_self]
      · refine ⟨j, ?_, hsound⟩
        rw [World.withJob_of_ne fun he => hkey he.symm, hj]
  · obtain ⟨startKey, page, hmem, hitem⟩ := hmet
    rcases mem_update hmem with hmem | hev
    · exact h.met i' pk j ⟨startKey, page, hmem, hitem⟩
    · -- what is met now is the job as it is
      obtain ⟨he, hr⟩ := Sigma.mk.inj hev
      subst he
      obtain rfl := eq_of_heq hr
      obtain ⟨j', hj', hsound⟩ := h.job
      cases hs with
      | query _ _ hpage =>
        obtain ⟨hj, hpk⟩ := hpage _ hitem
        rw [hj'] at hj
        obtain rfl := Option.some.inj hj
        exact ⟨hsound, hpk.symm⟩
  · rcases mem_update hmem with hmem | hev
    · exact h.uuid i' a hmem
    · obtain ⟨he, hr⟩ := Sigma.mk.inj hev
      subst he
      obtain rfl := eq_of_heq hr
      cases hs with
      | uuid ha => exact ha
  · rcases mem_update hmem with hmem | hev
    · exact h.iso i' t hmem
    · obtain ⟨he, hr⟩ := Sigma.mk.inj hev
      subst he
      obtain rfl := eq_of_heq hr
      cases hs with
      | iso ht => exact ht

/-- A step after which all are calm. -/
def Spared (S : Settings) (key : Key) (_ P : Pool ι World Call Call.Reply Fault Unit) : Prop :=
  ∀ i, Calm S key (P.history i)

variable {P : Pool ι World Call Call.Reply Fault Unit}

/-- An open job is what a write meets. -/
theorem open_of_meets {w : JobWrite} (h : w.meets S j = true) : j.open = true := by
  cases w <;> simp only [JobWrite.meets, Bool.and_eq_true, decide_eq_true_eq] at h <;>
    simp_all [Job.open]

theorem kept_run [DecidableEq ι] {works : ι → Work} {j₀ : Job} (hj : s.jobs key = some j₀)
    (hsound : Sound S key j₀)
    (hrun : Pool.Run (Service S) (Spared S key) (Work.start S works s) P) :
    Kept S key P.shared P.history ∧
      ∀ i, Follows S (works i) (fun _ _ => True) (P.history i) (P.program i) := by
  have hinit : Kept S key (Work.start S works s).shared (Work.start S works s).history := by
    refine ⟨⟨j₀, hj, hsound⟩, ?_, ?_, ?_, fun i => ⟨?_, ?_⟩⟩
    · rintro i pk j ⟨startKey, page, hmem, -⟩
      exact nomatch hmem
    · exact fun i a hmem => nomatch hmem
    · exact fun i t hmem => nomatch hmem
    · rintro - pk j ⟨startKey, page, hmem, -⟩
      exact nomatch hmem
    · exact fun w _ _ hmem => nomatch hmem
  refine Pool.invariant hrun (fun i => program_follows S (works i)) hinit ?_
  intro P₁ i e k r s' h _ hallowed hs hspared
  exact kept_step h hallowed hs hspared

/-- **In every run that meets neither defect, a well-formed job is never rejected**, and stays well
formed.  At every step it is as it was, or it was open and a program made a justified write to it. -/
theorem recovered [DecidableEq ι] {works : ι → Work} {j₀ : Job} (hj : s.jobs key = some j₀)
    (hsound : Sound S key j₀)
    (hrun : Pool.Run (Service S) (Spared S key) (Work.start S works s) P) :
    ∃ j, P.shared.jobs key = some j ∧ Sound S key j ∧
      ∀ {i e k r s'}, P.program i = .call e k → Service S P.shared e r s' →
        s'.jobs key = some j ∨ j.open = true ∧ ∃ w, e = .write w ∧ w.key = key ∧
          s'.jobs key = some (w.update j) ∧ Justified S (works i) (P.history i) key j w := by
  obtain ⟨hkept, hobeys⟩ := kept_run hj hsound hrun
  obtain ⟨j, hj, hsound⟩ := hkept.job
  refine ⟨j, hj, hsound, fun {i e k r s'} hcall hs => ?_⟩
  have hallowed := hobeys i
  rw [hcall] at hallowed
  rcases hs.cases_write with rfl | ⟨w, j', rfl, hj', hmeets, rfl⟩
  · exact Or.inl hj
  · by_cases hkey : w.key = key
    · rw [hkey, hj] at hj'
      obtain rfl := Option.some.inj hj'
      refine Or.inr ⟨open_of_meets hmeets, w, rfl, hkey, ?_, ?_⟩
      · rw [hkey, World.withJob_self]
      · exact hkept.justified hallowed.1 hkey hmeets
    · refine Or.inl ?_
      rw [World.withJob_of_ne fun he => hkey he.symm, hj]

end Runs

/-! ## 5. A job that is met while it runs -/

theorem Sound.rejectable (h : Sound S key j) (hopen : j.open = true) :
    Jobs.rejectable S key j = true := by
  have hpartition : key.1 = sessionPartition S.sessionId ∨
      key.1 = mutationPartition S.sessionId := by
    rw [h.key]
    dsimp only
    split
    · exact Or.inr rfl
    · exact Or.inl rfl
  have hstart : (js "JOB#").length = 4 := by decide
  have hsort : key.2 = js "JOB#" ++ j.jobId := congrArg Prod.snd h.key
  simp only [Jobs.rejectable, hsort, Bool.and_eq_true, Bool.or_eq_true, decide_eq_true_eq,
    List.isPrefixOf_iff_prefix]
  refine ⟨⟨⟨⟨h.bound, hpartition⟩, List.prefix_append _ _⟩, ?_⟩, hopen⟩
  rw [← hstart, List.drop_left]
  exact h.jobId

/-- Nothing stands in the way of a rejection. -/
theorem Sound.rejected (h : Sound S key j) (hopen : j.open = true) {t : Text}
    (ht : encodable t = true) : ∃ receipt, tellsInvalid receipt ∧
      Reaches (rejectInvalid S key j) [hadIso t, wasWritten (.reject key t receipt) (.ok ())]
        (.done (.ok ())) := by
  have hnone : (([] : List (String × Py)).all fun f => (dumps f.2).isSome) = true := rfl
  obtain ⟨d, hd⟩ := h.seals ht .FAILED hnone (receiptError_dumps "INVALID_CORE_JOB" false)
  refine ⟨.object (receiptFields S j j.jobId .FAILED t []
    [("error", receiptError "INVALID_CORE_JOB" false)] ++ [("receiptDigest", .str d)]), ?_, ?_⟩
  · unfold tellsInvalid
    rw [receipt_get_error rfl]
    simp [receiptError, List.lookup]
  · unfold rejectInvalid
    rw [if_pos (h.rejectable hopen)]
    apply Reaches.step
    refine reaches_lift (a := t) rfl ?_
    dsimp only
    rw [if_pos h.jobId]
    refine reaches_lift hd ?_
    apply Reaches.step
    exact .refl _

/-- **Where numbers come back as `Decimal`, a job that is met while it runs is rejected**, and the
clock is not looked at. -/
theorem running_rejected (hdecimals : S.decimals = true) (h : Sound S key j)
    (hrunning : j.state = .RUNNING) {t : Text} (ht : encodable t = true) :
    ∃ receipt, tellsInvalid receipt ∧ Reaches (processJob S key.1 key j)
      [hadIso t, wasWritten (.reject key t receipt) (.ok ())] (.done (.ok 0)) := by
  have hopen : j.open = true := by simp [Job.open, hrunning]
  have hbound := h.bound
  simp only [Job.bound, Bool.and_eq_true, decide_eq_true_eq] at hbound
  have hrecover : recoverExpired S key j = rejectInvalid S key j := by
    unfold recoverExpired intAttribute
    rw [if_pos hdecimals, if_pos hdecimals]
  have htry : tryJob S key.1 key j = rejectInvalid S key j >>= fun _ => .done (.ok 0) := by
    unfold tryJob
    rw [if_neg (by simp [hbound.1.1.1.1, hbound.1.1.1.2]), h.valid hopen]
    simp only [Bool.not_true, Bool.false_eq_true, if_false, if_pos hrunning, hrecover]
    rfl
  obtain ⟨receipt, hinvalid, hreaches⟩ := h.rejected hopen ht
  refine ⟨receipt, hinvalid, ?_⟩
  have hreaches := hreaches.bind (g := fun _ => (.done (.ok 0) : Handler Nat)) (.refl _)
  rw [← htry, List.append_nil] at hreaches
  unfold processJob
  exact hreaches.attempt.bind (.refl _)

/-- A request to read the tags of the column. -/
def sampleReadFields : List (String × Py) :=
  [("auditId", .str (sampleDigest.drop 7)), ("columnPath", .str COLUMN_PATH),
    ("entityUrn", .str DATASET_URN), ("runtimeEvidenceDigest", .str sampleDigest),
    ("schemaVersion", .lit "archon.core-tag-read/v1")]

/-- A job of the request, which waits. -/
def sampleQueued : Job :=
  { sampleJob with
    operation := js "READ_TAGS", state := .QUEUED, request := .object sampleReadFields }

/-- The job in its first attempt, which may take until 2026-07-14T10:05:00Z. -/
def sampleRunning : Job :=
  { sampleQueued with
    state := .RUNNING, attemptId := some (List.replicate 32 0x61)
    attemptDeadlineEpoch := some 1784023500, attemptCount := some 1 }

/-- Its key. -/
def sampleReadKey : Key := (sessionPartition sampleSettings.sessionId, jobKey sampleJobId)

/-- A table with one job. -/
def holding (j : Job) : World where
  jobs key := if key = sampleReadKey then some j else none

@[simp] theorem holding_self (j : Job) : (holding j).jobs sampleReadKey = some j := by
  simp [holding]

/-- A host that looks for jobs. -/
def sampleScan (_ : Unit) : Work := .scan (none, none)

/-- The first page of its session. -/
def samplePage (j : Job) : Event Call Call.Reply :=
  wasQueried (sessionPartition sampleSettings.sessionId) none ⟨[(sampleReadKey, j)], none⟩

theorem sample_requestValid :
    requestValid Platform.node (js "READ_TAGS") (.object sampleReadFields) = true := by
  have hfields : dumpsFields (sampleReadFields.map fun f => (js f.1, f.2))
      = some ((dumpsFields (sampleReadFields.map fun f => (js f.1, f.2))).getD []) := by
    decide +kernel
  have hsorted : ((dumpsFields (sampleReadFields.map fun f => (js f.1, f.2))).getD []).Pairwise
      fun a b => keyLe a b = true := by
    decide +kernel
  have hbounded : boundedRequest (.object sampleReadFields) = true := by
    have hdumps := dumps_of_sorted hfields hsorted
    unfold boundedRequest
    rw [show Py.object sampleReadFields = .dict (sampleReadFields.map fun f => (js f.1, f.2)) from rfl,
      hdumps]
    decide +kernel
  have hread : validReadRequest (.object sampleReadFields) = true := by decide +kernel
  unfold requestValid
  rw [hbounded, hread]
  decide

theorem sampleQueued_sound : Sound sampleSettings sampleReadKey sampleQueued where
  bound := by simp [Job.bound, sampleQueued, sampleJob]
  jobId := by decide
  key := by
    have hne : sampleQueued.operation ≠ MUTATION_OPERATION := by decide
    rw [if_neg hne]
    rfl
  request := sample_requestValid
  texts := ⟨encodable_js _, encodable_js _, encodable_js _⟩
  running := nofun
  receipt := nofun

theorem sampleRunning_sound : Sound sampleSettings sampleReadKey sampleRunning where
  bound := sampleQueued_sound.bound
  jobId := sampleQueued_sound.jobId
  key := sampleQueued_sound.key
  request := sampleQueued_sound.request
  texts := sampleQueued_sound.texts
  running _ := ⟨_, _, _, rfl, by decide, rfl, rfl⟩
  receipt := nofun

/-- A job that waits is met. -/
theorem recovered_sample : ∃ P,
    Pool.Run (Service sampleSettings) (Spared sampleSettings sampleReadKey)
        (Work.start sampleSettings sampleScan (holding sampleQueued)) P ∧
      P.history () = [samplePage sampleQueued] ∧
      ∃ j, P.shared.jobs sampleReadKey = some j ∧ Sound sampleSettings sampleReadKey j := by
  have hprogram : ∃ k, (Work.start sampleSettings sampleScan (holding sampleQueued)).program ()
      = .call (.query (sessionPartition sampleSettings.sessionId) none) k := ⟨_, rfl⟩
  obtain ⟨k, hk⟩ := hprogram
  have hquery : Service sampleSettings (holding sampleQueued)
      (.query (sessionPartition sampleSettings.sessionId) none)
      (.ok ⟨[(sampleReadKey, sampleQueued)], none⟩ : Except ServiceFault Page)
      (holding sampleQueued) := by
    refine .query _ _ _ fun item hitem => ?_
    obtain rfl := List.mem_singleton.mp hitem
    exact ⟨holding_self _, rfl⟩
  have hcalm : Calm sampleSettings sampleReadKey [samplePage sampleQueued] := by
    constructor
    · rintro - pk j ⟨startKey, page, hmem, hitem⟩
      obtain ⟨hquery, hanswer⟩ := Sigma.mk.inj (List.mem_singleton.mp hmem)
      obtain ⟨rfl, rfl⟩ := Call.query.inj hquery
      obtain rfl := Except.ok.inj (eq_of_heq hanswer)
      obtain ⟨-, rfl⟩ := Prod.mk.inj (List.mem_singleton.mp hitem)
      decide
    · intro w _ _ hmem
      exact nomatch (Sigma.mk.inj (List.mem_singleton.mp hmem)).1
  have hstart : Pool.Run (Service sampleSettings) (Spared sampleSettings sampleReadKey)
      (Work.start sampleSettings sampleScan (holding sampleQueued))
      (Work.start sampleSettings sampleScan (holding sampleQueued)) := .refl
  have hrun := hstart.step (Pool.Step.call hk hquery) fun _ => hcalm
  obtain ⟨j, hj, hsound, -⟩ := recovered (holding_self sampleQueued) sampleQueued_sound hrun
  exact ⟨_, hrun, rfl, j, hj, hsound⟩

/-- **A job is not left alone before its deadline**: a scan meets it in its first attempt, and fails
it as invalid. -/
theorem not_left_alone : ∃ P,
    Pool.Run (Service sampleSettings) (fun _ _ => True)
        (Work.start sampleSettings sampleScan (holding sampleRunning)) P ∧
      Sound sampleSettings sampleReadKey sampleRunning ∧
      (∀ now, hadTime now ∉ P.history ()) ∧
      ∃ j receipt, P.shared.jobs sampleReadKey = some j ∧ j.state = .FAILED ∧
        j.receipt = some receipt ∧ tellsInvalid receipt := by
  obtain ⟨receipt, hinvalid, hjob⟩ := running_rejected (t := js "2026-07-14T10:01:00.000Z") rfl
    sampleRunning_sound rfl (encodable_js _)
  have hitems : Reaches (processItems sampleSettings (sessionPartition sampleSettings.sessionId)
      [(sampleReadKey, sampleRunning)]) ([hadIso (js "2026-07-14T10:01:00.000Z"),
        wasWritten (.reject sampleReadKey (js "2026-07-14T10:01:00.000Z") receipt) (.ok ())] ++ [])
      (.done (.ok 0)) :=
    hjob.bind (.refl _)
  have hpages : Reaches (processPages sampleSettings (sessionPartition sampleSettings.sessionId)
      MAX_QUERY_PAGES none) (samplePage sampleRunning :: ([hadIso (js "2026-07-14T10:01:00.000Z"),
        wasWritten (.reject sampleReadKey (js "2026-07-14T10:01:00.000Z") receipt) (.ok ())] ++ [] ++ []))
      (.done (.ok (0, none))) := by
    unfold MAX_QUERY_PAGES processPages
    apply Reaches.step
    refine reaches_lift (a := (.ok ⟨[(sampleReadKey, sampleRunning)], none⟩ :
      Except ServiceFault Page)) rfl ?_
    refine reaches_lift (a := ⟨[(sampleReadKey, sampleRunning)], none⟩) rfl ?_
    exact hitems.bind (.refl _)
  have hreaches := (hpages.bind_left (fun x : Nat × Option Key => do
    let mutations ← processPages sampleSettings (mutationPartition sampleSettings.sessionId)
      MAX_QUERY_PAGES none
    return x.1 + mutations.1)).bind_left fun _ => (.done (.ok ()) : Handler Unit)
  have hquery : Service sampleSettings (holding sampleRunning)
      (.query (sessionPartition sampleSettings.sessionId) none)
      (.ok ⟨[(sampleReadKey, sampleRunning)], none⟩ : Except ServiceFault Page)
      (holding sampleRunning) := by
    refine .query _ _ _ fun item hitem => ?_
    obtain rfl := List.mem_singleton.mp hitem
    exact ⟨holding_self _, rfl⟩
  have hmeets : (JobWrite.reject sampleReadKey (js "2026-07-14T10:01:00.000Z") receipt).meets
      sampleSettings sampleRunning = true := by
    have hbound := sampleRunning_sound.bound
    simp only [JobWrite.meets, hbound]
    rfl
  have hwrite := Service.apply (w := .reject sampleReadKey (js "2026-07-14T10:01:00.000Z") receipt)
    (holding_self sampleRunning) hmeets
  have hiso : Service sampleSettings (holding sampleRunning) .iso
      (js "2026-07-14T10:01:00.000Z") (holding sampleRunning) := .iso _ (encodable_js _)
  have hlast : Pool.Moves (Service sampleSettings) (holding sampleRunning)
      [wasWritten (.reject sampleReadKey (js "2026-07-14T10:01:00.000Z") receipt) (.ok ())] _ :=
    .cons hwrite (.nil _)
  have hmoves := Pool.Moves.cons hquery (Pool.Moves.cons hiso hlast)
  have hstart : Pool.Run (Service sampleSettings) (fun _ _ => True)
      (Work.start sampleSettings sampleScan (holding sampleRunning))
      (Work.start sampleSettings sampleScan (holding sampleRunning)) := .refl
  obtain ⟨P, hrun, hs, -, hhistory⟩ := hstart.alone (i := ()) hreaches hmoves
    fun _ _ _ _ _ _ => trivial
  refine ⟨P, hrun, sampleRunning_sound, fun now hmem => ?_,
    (JobWrite.reject sampleReadKey (js "2026-07-14T10:01:00.000Z") receipt).update sampleRunning,
    receipt, ?_, rfl, rfl, hinvalid⟩
  · rw [hhistory, Function.update_self] at hmem
    rcases List.mem_cons.mp hmem with h | hmem
    · cases (Sigma.mk.inj h).1
    rcases List.mem_cons.mp hmem with h | hmem
    · cases (Sigma.mk.inj h).1
    rcases List.mem_cons.mp hmem with h | hmem
    · cases (Sigma.mk.inj h).1
    · exact List.not_mem_nil hmem
  · rw [hs]
    exact World.withJob_self _ _ _

end Jobs
