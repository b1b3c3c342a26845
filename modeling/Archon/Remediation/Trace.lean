/-
# What the control loop has done before each call

The text of `executeApprovedRemediation` fixes the history before every call: a write comes after
a claim that was granted and a read that matched, a receipt is completed at one of nine places.
The predicates below name the places (`Recovering`, `Granted`, `Due`, `Ready`, `Failed`,
`Acknowledged`, and the nine constructors of `Exit`), each with the checks that have passed on the
way, and `executeApprovedRemediation_obeys` says that the program is nowhere else.  It is proved
once, by following the text; what is said later about a worker, alone or among others, is read
off `Allowed` and `Ends`.
-/
import Archon.Remediation.ControlLoop

namespace Remediation

open Ecma Ecma.Value Resumption Resumption.Program

/-! ## 1. Events -/

/-- The clock was read. -/
def clocked (now : Text) : Event Effect Effect.Reply := ⟨.clock, now⟩

/-- The journal answered a claim. -/
def claimed (input : ClaimInput) (answer : Run ExecutionClaim) : Event Effect Effect.Reply :=
  ⟨.claim input, answer⟩

/-- The journal answered a resumption. -/
def resumed (lease : Lease) (answer : Run Bool) : Event Effect Effect.Reply := ⟨.resume lease, answer⟩

/-- The journal answered a completion. -/
def completed (lease : Lease) (receipt : Value) (answer : Run Unit) : Event Effect Effect.Reply :=
  ⟨.complete lease receipt, answer⟩

/-- The reader answered. -/
def wasRead (target : Value) (answer : Run Value) : Event Effect Effect.Reply :=
  ⟨.readTagProjection target, answer⟩

/-- The mutation port answered. -/
def written (request : Value) (answer : Run Value) : Event Effect Effect.Reply :=
  ⟨.addTags request, answer⟩

/-! ## 2. Places -/

section Places

variable (P : Platform) (input : ExecuteApprovedRemediationInput)

/-- The target every read names. -/
def readTarget : Value := input.artifacts.dossier.getPath ["target"]

/-- The binding of an execution that holds a token. -/
def bindingOf (fencingToken : Nat) (startedAt : Text) : ReceiptBinding :=
  ⟨input.artifacts, input.idempotencyKey, fencingToken, startedAt⟩

/-- The checks before the claim have passed. -/
structure Begun (startedAt : Text) (claim : ClaimInput) : Prop where
  artifacts : checkArtifacts P input = .ok ()
  start : checkStart P input startedAt = .ok ()
  claim : claimInput input = .ok claim

/-- A stale lease has been taken over. -/
inductive Recovering : History → ReceiptBinding → Prop
  | mk {startedAt : Text} {claim : ClaimInput} {token : Nat} (begun : Begun P input startedAt claim) :
    Recovering [clocked startedAt, claimed claim (.ok (.RECONCILE token))]
      (bindingOf input token startedAt)

/-- The worker may go on: the journal granted its claim, or a recovered lease was resumed on the
approved state. -/
inductive Granted : History → ReceiptBinding → Prop
  | claimed {startedAt : Text} {claim : ClaimInput} {token : Nat}
    (begun : Begun P input startedAt claim) :
    Granted [clocked startedAt, claimed claim (.ok (.CLAIMED token))]
      (bindingOf input token startedAt)
  | resumed {h : History} {b : ReceiptBinding} {observed : Value} (recovering : Recovering P input h b)
    (unchanged : isExpectedBefore P b observed = .ok true) :
    Granted (h ++ [wasRead (readTarget input) (.ok observed), resumed b.lease (.ok true)]) b

/-- The decision is no rejection and has not expired. -/
structure Due (h : History) (b : ReceiptBinding) : Prop where
  granted : Granted P input h b
  approved : (input.artifacts.decision.getPath ["decision"]).isText (js "REJECT") = false
  inTime : isExpired P b = .ok false

/-- The approved state has been read. -/
inductive Ready : History → ReceiptBinding → Value → Prop
  | mk {h : History} {b : ReceiptBinding} {current : Value} (due : Due P input h b)
    (unchanged : isExpectedBefore P b current = .ok true) :
    Ready (h ++ [wasRead (readTarget input) (.ok current)]) b current

/-- The write has thrown, or its request could not be formed. -/
inductive Failed : History → ReceiptBinding → Value → Exn Failure → Prop
  | request {h : History} {b : ReceiptBinding} {current : Value} {error : Exn Failure}
    (ready : Ready P input h b current)
    (malformed : mutationRequest input.artifacts.plan = .error error) : Failed h b current error
  | call {h : History} {b : ReceiptBinding} {current request : Value} {error : Exn Failure}
    (ready : Ready P input h b current)
    (formed : mutationRequest input.artifacts.plan = .ok request) :
    Failed (h ++ [written request (.error error)]) b current error

/-- The write has been acknowledged. -/
inductive Acknowledged : History → ReceiptBinding → Value → Value → Prop
  | mk {h : History} {b : ReceiptBinding} {current request mutation : Value}
    (ready : Ready P input h b current)
    (formed : mutationRequest input.artifacts.plan = .ok request) :
    Acknowledged (h ++ [written request (.ok mutation)]) b current mutation

/-- The nine places at which a terminal receipt is built, with its members. -/
inductive Exit : History → ReceiptBinding → TerminalInput → Prop
  | unreadableRecovery {h : History} {b : ReceiptBinding} {error : Exn Failure} {completedAt : Text}
    (recovering : Recovering P input h b) :
    Exit (h ++ [wasRead (readTarget input) (.error error), clocked completedAt]) b
      { outcome := .INDETERMINATE, completedAt := completedAt,
        rollback := blocked .UNREADABLE_RECOVERY }
  | diverged {h : History} {b : ReceiptBinding} {observed after : Value} {reached : Bool}
    {completedAt : Text} (recovering : Recovering P input h b)
    (changed : isExpectedBefore P b observed = .ok false)
    (verified : ifVerified P observed = .ok after)
    (compared : digestIs observed input.artifacts.plan "expectedAfter" = .ok reached) :
    Exit (h ++ [wasRead (readTarget input) (.ok observed), clocked completedAt]) b
      { outcome := .INDETERMINATE, completedAt := completedAt, after := after,
        rollback := blocked (if reached then .POST_STATE_EXISTS else .DIVERGED_RECOVERY) }
  | rejected {h : History} {b : ReceiptBinding} {completedAt : Text} (granted : Granted P input h b)
    (decision : (input.artifacts.decision.getPath ["decision"]).isText (js "REJECT") = true) :
    Exit (h ++ [clocked completedAt]) b { outcome := .REJECTED, completedAt := completedAt }
  | expired {h : History} {b : ReceiptBinding} {completedAt : Text} (granted : Granted P input h b)
    (approved : (input.artifacts.decision.getPath ["decision"]).isText (js "REJECT") = false)
    (late : isExpired P b = .ok true) :
    Exit (h ++ [clocked completedAt]) b { outcome := .EXPIRED, completedAt := completedAt }
  | unreadable {h : History} {b : ReceiptBinding} {error : Exn Failure} {completedAt : Text}
    (due : Due P input h b) :
    Exit (h ++ [wasRead (readTarget input) (.error error), clocked completedAt]) b
      { outcome := .STALE, completedAt := completedAt, rollback := blocked .UNREADABLE }
  | changed {h : History} {b : ReceiptBinding} {current before : Value} {completedAt : Text}
    (due : Due P input h b) (changed : isExpectedBefore P b current = .ok false)
    (verified : ifVerified P current = .ok before) :
    Exit (h ++ [wasRead (readTarget input) (.ok current), clocked completedAt]) b
      { outcome := .STALE, completedAt := completedAt, before := before,
        rollback := blocked .PRE_STATE_CHANGED }
  | failed {h : History} {b : ReceiptBinding} {current after : Value} {error : Exn Failure}
    {observed : Run Value} {completedAt : Text} (failed : Failed P input h b current error)
    (verified : (match observed with
      | .ok observed => if observed.truthy then ifVerified P observed else .ok .undefined
      | .error _ => .ok .undefined) = .ok after) :
    Exit (h ++ [wasRead (readTarget input) observed, clocked completedAt]) b
      { outcome := if isDefinitive error then .MUTATION_FAILED else .INDETERMINATE,
        completedAt := completedAt, before := current, after := after,
        rollback := blocked (if isDefinitive error then .REJECTED_MUTATION else .UNPROVEN_MUTATION) }
  | unreadableAfter {h : History} {b : ReceiptBinding} {current mutation : Value}
    {error : Exn Failure} {completedAt : Text}
    (acknowledged : Acknowledged P input h b current mutation) :
    Exit (h ++ [wasRead (readTarget input) (.error error), clocked completedAt]) b
      { outcome := .INDETERMINATE, completedAt := completedAt, before := current,
        mutation := mutation, rollback := blocked .UNREADABLE_AFTER }
  | judged {h : History} {b : ReceiptBinding} {current mutation after checks rollback : Value}
    {verified : Bool} {completedAt : Text}
    (acknowledged : Acknowledged P input h b current mutation)
    (judgement : judge P input.artifacts.plan current after mutation
      = .ok (verified, checks, rollback)) :
    Exit (h ++ [wasRead (readTarget input) (.ok after), clocked completedAt]) b
      { outcome := if verified then .VERIFIED else .VERIFICATION_FAILED,
        completedAt := completedAt, before := current, after := after, mutation := mutation,
        checks := checks, rollback := rollback }

/-- The calls the text allows after a history. -/
def Allowed (h : History) : Effect → Prop
  | .clock => True
  | .claim claim => ∃ startedAt, Begun P input startedAt claim ∧ h = [clocked startedAt]
  | .resume lease => ∃ h' b observed, Recovering P input h' b ∧
      isExpectedBefore P b observed = .ok true ∧
      h = h' ++ [wasRead (readTarget input) (.ok observed)] ∧ lease = b.lease
  | .complete lease receipt => ∃ b t, Exit P input h b t ∧ receiptFor P b t = .ok receipt ∧
      lease = b.lease
  | .readTagProjection target => target = readTarget input
  | .addTags request => ∃ b current, Ready P input h b current ∧
      mutationRequest input.artifacts.plan = .ok request

/-- How it can end, where it does not throw. -/
def Ends (h : History) : Except (Exn Failure) Value → Prop
  | .ok receipt =>
    (∃ startedAt claim, Begun P input startedAt claim ∧
      h = [clocked startedAt, claimed claim (.ok (.COMPLETED receipt))]) ∨
    ∃ h' b t, Exit P input h' b t ∧ receiptFor P b t = .ok receipt ∧
      h = h' ++ [completed b.lease receipt (.ok ())]
  | .error _ => True

end Places

/-! ## 3. The text is followed -/

section Calls

variable {α : Type} {I : History → Effect → Prop} {Q : History → Except (Exn Failure) α → Prop}
  {h : History}

theorem obeys_pureRun {β : Type} {r : Run β} {f : β → Remediating α}
    (hok : ∀ a, r = .ok a → Obeys I Q h (f a)) (herr : ∀ e, Q h (.error e)) :
    Obeys I Q h (pureRun r >>= f) := by
  rcases r with e | a
  · exact herr e
  · exact hok a rfl

theorem obeys_clock {f : Text → Remediating α} (hI : I h .clock)
    (hf : ∀ now, Obeys I Q (h ++ [clocked now]) (f now)) : Obeys I Q h (clock >>= f) :=
  ⟨hI, hf⟩

theorem obeys_read {target : Value} {f : Run Value → Remediating α}
    (hI : I h (.readTagProjection target))
    (hf : ∀ answer, Obeys I Q (h ++ [wasRead target answer]) (f answer)) :
    Obeys I Q h (readTagProjection target >>= f) :=
  ⟨hI, hf⟩

theorem obeys_addTags {request : Value} {f : Run Value → Remediating α} (hI : I h (.addTags request))
    (hf : ∀ answer, Obeys I Q (h ++ [written request answer]) (f answer)) :
    Obeys I Q h (addTags request >>= f) :=
  ⟨hI, hf⟩

theorem obeys_claim {input : ClaimInput} {f : Run ExecutionClaim → Remediating α}
    (hI : I h (.claim input))
    (hf : ∀ answer, Obeys I Q (h ++ [claimed input answer]) (f answer)) :
    Obeys I Q h (claim input >>= f) :=
  ⟨hI, hf⟩

theorem obeys_resume {lease : Lease} {f : Run Bool → Remediating α} (hI : I h (.resume lease))
    (hf : ∀ answer, Obeys I Q (h ++ [resumed lease answer]) (f answer)) :
    Obeys I Q h (resume lease >>= f) :=
  ⟨hI, hf⟩

theorem obeys_complete {lease : Lease} {receipt : Value} {f : Run Unit → Remediating α}
    (hI : I h (.complete lease receipt))
    (hf : ∀ answer, Obeys I Q (h ++ [completed lease receipt answer]) (f answer)) :
    Obeys I Q h (complete lease receipt >>= f) :=
  ⟨hI, hf⟩

end Calls

section Reach

variable {α : Type} {h : History} {q : Remediating α}

theorem reaches_pureRun {β : Type} {r : Run β} {f : β → Remediating α} {a : β} (hr : r = .ok a)
    (hf : Reaches (f a) h q) : Reaches (pureRun r >>= f) h q := by
  subst hr
  exact hf

theorem reaches_clock {f : Text → Remediating α} (now : Text) (hf : Reaches (f now) h q) :
    Reaches (clock >>= f) (clocked now :: h) q :=
  .step hf

theorem reaches_read {target : Value} {f : Run Value → Remediating α} (answer : Run Value)
    (hf : Reaches (f answer) h q) :
    Reaches (readTagProjection target >>= f) (wasRead target answer :: h) q :=
  .step hf

theorem reaches_addTags {request : Value} {f : Run Value → Remediating α} (answer : Run Value)
    (hf : Reaches (f answer) h q) :
    Reaches (addTags request >>= f) (written request answer :: h) q :=
  .step hf

theorem reaches_complete {lease : Lease} {receipt : Value} {f : Run Unit → Remediating α}
    (answer : Run Unit) (hf : Reaches (f answer) h q) :
    Reaches (complete lease receipt >>= f) (completed lease receipt answer :: h) q :=
  .step hf

theorem reaches_claim {input : ClaimInput} {f : Run ExecutionClaim → Remediating α}
    (answer : Run ExecutionClaim) (hf : Reaches (f answer) h q) :
    Reaches (claim input >>= f) (claimed input answer :: h) q :=
  .step hf

end Reach

section Follow

variable {P : Platform} {input : ExecuteApprovedRemediationInput} {h : History} {b : ReceiptBinding}

theorem Recovering.artifacts (hr : Recovering P input h b) : b.artifacts = input.artifacts := by
  cases hr; rfl

theorem Granted.artifacts (hg : Granted P input h b) : b.artifacts = input.artifacts := by
  cases hg with
  | claimed => rfl
  | resumed hr _ => exact hr.artifacts

theorem Ready.artifacts {current : Value} (hr : Ready P input h b current) :
    b.artifacts = input.artifacts := by
  cases hr with
  | mk due _ => exact due.granted.artifacts

theorem Recovering.begun (hr : Recovering P input h b) : ∃ startedAt claim, Begun P input startedAt claim := by
  cases hr with
  | mk begun => exact ⟨_, _, begun⟩

theorem Granted.begun (hg : Granted P input h b) : ∃ startedAt claim, Begun P input startedAt claim := by
  cases hg with
  | claimed begun => exact ⟨_, _, begun⟩
  | resumed hr _ => exact hr.begun

theorem Begun.accepted {startedAt : Text} {claim : ClaimInput} (hb : Begun P input startedAt claim) :
    approvalArtifactsValid P input.artifacts = .ok true := by
  obtain ⟨valid, hv, h⟩ := bind_eq_ok.mp hb.artifacts
  obtain ⟨_, hr, -⟩ := bind_eq_ok.mp h
  have ht : valid = true := by simpa using rejectIf_eq_ok.mp hr
  rw [hv, ht]

theorem Begun.nonBlank_key {startedAt : Text} {claim : ClaimInput}
    (hb : Begun P input startedAt claim) : nonBlank input.idempotencyKey = true := by
  obtain ⟨valid, -, h⟩ := bind_eq_ok.mp hb.artifacts
  obtain ⟨_, -, h⟩ := bind_eq_ok.mp h
  simpa using rejectIf_eq_ok.mp h

theorem terminalReceipt_obeys {t : TerminalInput} (he : Exit P input h b t) :
    Obeys (Allowed P input) (Ends P input) h (terminalReceipt P b t) := by
  refine obeys_pureRun (fun receipt hr => ?_) fun _ => trivial
  refine obeys_complete ⟨b, t, he, hr, rfl⟩ fun answer => ?_
  refine obeys_pureRun (fun u hu => ?_) fun _ => trivial
  subst hu
  exact Or.inr ⟨h, b, t, he, hr, rfl⟩

theorem mutationFailed_obeys {current : Value} {error : Exn Failure}
    (hf : Failed P input h b current error) (ha : b.artifacts = input.artifacts) :
    Obeys (Allowed P input) (Ends P input) h (mutationFailed P b current error) := by
  unfold mutationFailed
  rw [ha]
  refine obeys_read rfl fun observed => ?_
  refine obeys_clock trivial fun completedAt => ?_
  refine obeys_pureRun (fun after hafter => ?_) fun _ => trivial
  rw [List.append_assoc]
  exact terminalReceipt_obeys (.failed hf hafter)

theorem mutationAcknowledged_obeys {current mutation : Value}
    (hk : Acknowledged P input h b current mutation) (ha : b.artifacts = input.artifacts) :
    Obeys (Allowed P input) (Ends P input) h (mutationAcknowledged P b current mutation) := by
  unfold mutationAcknowledged
  rw [ha]
  refine obeys_read rfl fun answer => ?_
  cases answer with
  | error e =>
    refine obeys_clock trivial fun completedAt => ?_
    rw [List.append_assoc]
    exact terminalReceipt_obeys (.unreadableAfter hk)
  | ok after =>
    refine obeys_pureRun (fun judgement hj => ?_) fun _ => trivial
    obtain ⟨verified, checks, rollback⟩ := judgement
    refine obeys_clock trivial fun completedAt => ?_
    rw [List.append_assoc]
    exact terminalReceipt_obeys (.judged hk hj)

theorem write_obeys {current : Value} (hr : Ready P input h b current) :
    Obeys (Allowed P input) (Ends P input) h (write P b current) := by
  have ha := hr.artifacts
  unfold write
  rw [ha]
  cases hq : mutationRequest input.artifacts.plan with
  | error e => exact mutationFailed_obeys (.request hr hq) ha
  | ok request =>
    refine obeys_addTags ⟨b, current, hr, hq⟩ fun answer => ?_
    cases answer with
    | error e => exact mutationFailed_obeys (.call hr hq) ha
    | ok mutation => exact mutationAcknowledged_obeys (.mk hr hq) ha

theorem checkAndWrite_obeys (hd : Due P input h b) :
    Obeys (Allowed P input) (Ends P input) h (checkAndWrite P b) := by
  have ha := hd.granted.artifacts
  unfold checkAndWrite
  rw [ha]
  refine obeys_read rfl fun answer => ?_
  cases answer with
  | error e =>
    refine obeys_clock trivial fun completedAt => ?_
    rw [List.append_assoc]
    exact terminalReceipt_obeys (.unreadable hd)
  | ok current =>
    refine obeys_pureRun (fun unchanged hu => ?_) fun _ => trivial
    cases unchanged with
    | true => exact write_obeys (.mk hd hu)
    | false =>
      refine obeys_clock trivial fun completedAt => ?_
      refine obeys_pureRun (fun before hbefore => ?_) fun _ => trivial
      rw [List.append_assoc]
      exact terminalReceipt_obeys (.changed hd hu hbefore)

theorem granted_obeys (hg : Granted P input h b) :
    Obeys (Allowed P input) (Ends P input) h (granted P b) := by
  have ha := hg.artifacts
  unfold granted
  rw [ha]
  cases hd : (input.artifacts.decision.getPath ["decision"]).isText (js "REJECT") with
  | true =>
    exact obeys_clock trivial fun completedAt => terminalReceipt_obeys (.rejected hg hd)
  | false =>
    refine obeys_pureRun (fun late hl => ?_) fun _ => trivial
    cases late with
    | true => exact obeys_clock trivial fun completedAt => terminalReceipt_obeys (.expired hg hd hl)
    | false => exact checkAndWrite_obeys ⟨hg, hd, hl⟩

theorem reconcile_obeys (hr : Recovering P input h b) :
    Obeys (Allowed P input) (Ends P input) h (reconcile P b) := by
  have ha := hr.artifacts
  unfold reconcile
  rw [ha]
  refine obeys_read rfl fun answer => ?_
  cases answer with
  | error e =>
    refine obeys_clock trivial fun completedAt => ?_
    rw [List.append_assoc]
    exact terminalReceipt_obeys (.unreadableRecovery hr)
  | ok observed =>
    refine obeys_pureRun (fun unchanged hu => ?_) fun _ => trivial
    cases unchanged with
    | true =>
      refine obeys_resume ⟨h, b, observed, hr, hu, rfl, rfl⟩ fun answer => ?_
      refine obeys_pureRun (fun again hagain => ?_) fun _ => trivial
      subst hagain
      cases again with
      | true =>
        rw [List.append_assoc]
        exact granted_obeys (.resumed hr hu)
      | false => exact trivial
    | false =>
      refine obeys_clock trivial fun completedAt => ?_
      refine obeys_pureRun (fun after hafter => ?_) fun _ => trivial
      refine obeys_pureRun (fun reached hreached => ?_) fun _ => trivial
      rw [List.append_assoc]
      exact terminalReceipt_obeys (.diverged hr hu hafter hreached)

/-- **The loop makes no call that the text does not allow, and ends nowhere else.** -/
theorem executeApprovedRemediation_obeys (P : Platform) (input : ExecuteApprovedRemediationInput) :
    Obeys (Allowed P input) (Ends P input) [] (executeApprovedRemediation P input) := by
  refine obeys_pureRun (fun _ hartifacts => ?_) fun _ => trivial
  refine obeys_clock trivial fun startedAt => ?_
  refine obeys_pureRun (fun _ hstart => ?_) fun _ => trivial
  refine obeys_pureRun (fun claim hclaim => ?_) fun _ => trivial
  have hb : Begun P input startedAt claim := ⟨hartifacts, hstart, hclaim⟩
  refine obeys_claim ⟨startedAt, hb, rfl⟩ fun answer => ?_
  refine obeys_pureRun (fun result hresult => ?_) fun _ => trivial
  subst hresult
  cases result with
  | COMPLETED receipt => exact Or.inl ⟨startedAt, claim, hb, rfl⟩
  | IN_PROGRESS => exact trivial
  | APPROVAL_ALREADY_USED => exact trivial
  | RECONCILE token => exact reconcile_obeys (.mk hb)
  | CLAIMED token => exact granted_obeys (.claimed hb)

end Follow

end Remediation
