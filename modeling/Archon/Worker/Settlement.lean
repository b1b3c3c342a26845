/-
# No message is lost

`process` deletes a message when somebody has been told of it (`Settled`): Step Functions accepted
the output, or said that nobody waits for it any more, or the message stands in quarantine and its
task, where it has one, was failed.  The proof follows the text with one rule for each piece: what
has been answered when the piece is done, and that it throws nothing.
-/
import Archon.Worker.Queue
import Archon.Remediation.Trace

namespace Worker

open Ecma Ecma.Value Remediation Resumption Resumption.Program

/-! ## 1. Settled messages -/

/-- A call was answered. -/
def answered (e : QueueEffect) (r : e.Reply) : Event QueueEffect QueueEffect.Reply := ⟨e, r⟩

/-- Step Functions accepted the output. -/
def Accepted (H : QueueHistory) (taskToken : Text) : Prop :=
  ∃ output, answered (.success taskToken output) (.ok ()) ∈ H

/-- A callback or a heartbeat said that the task is over. -/
def Over (H : QueueHistory) (taskToken : Text) : Prop :=
  ∃ error, isTerminalTaskError error = true ∧
    (answered (.heartbeat taskToken) (.error error) ∈ H ∨
      (∃ output, answered (.success taskToken output) (.error error) ∈ H) ∨
      ∃ cause, answered (.failure taskToken cause) (.error error) ∈ H)

/-- The body stands in quarantine. -/
def Quarantined (P : Platform) (H : QueueHistory) (body : Text) : Prop :=
  ∃ record, record.getPath ["bodyDigest"] = .str (bodyDigest P body) ∧
    answered (.quarantine (canonicalText record)) (.ok ()) ∈ H

/-- The task was failed, or is over. -/
def Failed (H : QueueHistory) (taskToken : Text) : Prop :=
  (∃ cause, answered (.failure taskToken cause) (.ok ()) ∈ H) ∨
    ∃ cause error, isTerminalTaskError error = true ∧
      answered (.failure taskToken cause) (.error error) ∈ H

/-- Somebody has been told of the message. -/
inductive Settled (P : Platform) (taskToken : Option Text) (body : Text) (H : QueueHistory) : Prop
  | accepted (token : Text) (htoken : taskToken = some token) (h : Accepted H token)
  | ended (token : Text) (htoken : taskToken = some token) (h : Over H token)
  | quarantined (h : Quarantined P H body) (hfailed : ∀ token, taskToken = some token → Failed H token)

section Grow

variable {P : Platform} {H H' : QueueHistory} {token body : Text}

theorem Quarantined.grow (h : Quarantined P H body) (hsub : H ⊆ H') : Quarantined P H' body := by
  obtain ⟨record, hrecord, hm⟩ := h
  exact ⟨record, hrecord, hsub hm⟩

theorem Accepted.grow (h : Accepted H token) (hsub : H ⊆ H') : Accepted H' token := by
  obtain ⟨output, hm⟩ := h
  exact ⟨output, hsub hm⟩

theorem Over.grow (h : Over H token) (hsub : H ⊆ H') : Over H' token := by
  obtain ⟨error, he, hm | ⟨output, hm⟩ | ⟨cause, hm⟩⟩ := h
  · exact ⟨error, he, Or.inl (hsub hm)⟩
  · exact ⟨error, he, Or.inr (Or.inl ⟨output, hsub hm⟩)⟩
  · exact ⟨error, he, Or.inr (Or.inr ⟨cause, hsub hm⟩)⟩

theorem Failed.grow (h : Failed H token) (hsub : H ⊆ H') : Failed H' token := by
  rcases h with ⟨cause, hm⟩ | ⟨cause, error, he, hm⟩
  · exact Or.inl ⟨cause, hsub hm⟩
  · exact Or.inr ⟨cause, error, he, hsub hm⟩

theorem Settled.grow {taskToken : Option Text} (h : Settled P taskToken body H) (hsub : H ⊆ H') :
    Settled P taskToken body H' := by
  cases h with
  | accepted token htoken h => exact .accepted token htoken (h.grow hsub)
  | ended token htoken h => exact .ended token htoken (h.grow hsub)
  | quarantined h hfailed => exact .quarantined (h.grow hsub) fun token ht => (hfailed token ht).grow hsub

end Grow

/-! ## 2. What the text allows -/

section Follow

variable (P : WorkerPlatform) (taskToken : Option Text) (body receiptHandle : Text)

/-- A delete is about this delivery, and comes after the message was settled. -/
def DeleteAllowed (H : QueueHistory) : QueueEffect → Prop
  | .delete handle => handle = receiptHandle ∧ Settled P.toPlatform taskToken body H
  | _ => True

/-- A piece of the program: it deletes as allowed, throws nothing, and its value and the answers by
its end satisfy `Q`. -/
def Does {α : Type} (Q : QueueHistory → α → Prop) (H : QueueHistory) (p : Queueing α) : Prop :=
  Obeys (DeleteAllowed P taskToken body receiptHandle)
    (fun H' r => H ⊆ H' ∧ ∃ a, r = .ok a ∧ Q H' a) H p

variable {P taskToken body receiptHandle} {α β : Type} {H : QueueHistory}

/-- **The rule for sequencing.** -/
theorem Does.bind {Q : QueueHistory → α → Prop} {Q' : QueueHistory → β → Prop} {p : Queueing α}
    {f : α → Queueing β} (hp : Does P taskToken body receiptHandle Q H p)
    (hf : ∀ H' a, H ⊆ H' → Q H' a → Does P taskToken body receiptHandle Q' H' (f a)) :
    Does P taskToken body receiptHandle Q' H (p >>= f) := by
  refine obeys_bind.mpr (hp.mono (fun _ _ h => h) fun H' r hr => ?_)
  obtain ⟨hsub, a, rfl, ha⟩ := hr
  refine (hf H' a hsub ha).mono (fun _ _ h => h) fun H'' r' hr' => ?_
  exact ⟨fun x hx => hr'.1 (hsub hx), hr'.2⟩

theorem Does.pure {Q : QueueHistory → α → Prop} {a : α} (ha : Q H a) :
    Does P taskToken body receiptHandle Q H (pure a) :=
  ⟨List.Subset.refl H, a, rfl, ha⟩

theorem Does.from {Q : QueueHistory → α → Prop} {p : Queueing α} {H₀ : QueueHistory}
    (hp : Does P taskToken body receiptHandle Q H p) (hsub : H₀ ⊆ H) :
    Obeys (DeleteAllowed P taskToken body receiptHandle)
      (fun H' r => H₀ ⊆ H' ∧ ∃ a, r = .ok a ∧ Q H' a) H p :=
  hp.mono (fun _ _ h => h) fun _ _ hr => ⟨fun _ hx => hr.1 (hsub hx), hr.2⟩

/-- A call that is allowed, and what follows it. -/
theorem Does.send {Q : QueueHistory → β → Prop} {e : QueueEffect} {f : e.Reply → Queueing β}
    (he : DeleteAllowed P taskToken body receiptHandle H e)
    (hf : ∀ r, Does P taskToken body receiptHandle Q (H ++ [answered e r]) (f r)) :
    Does P taskToken body receiptHandle Q H (send e >>= f) :=
  ⟨he, fun r => (hf r).from (List.subset_append_left H _)⟩

/-- A log line has a canonical text, the delivery count being small. -/
theorem canonicalizable_logFields {kind : CallbackWorkerKind} {event : String} {messageId : Option Text}
    {type : Option String} {error : Option (Exn Failure)} {receiveCount : Option Nat}
    (hcount : ∀ n, receiveCount = some n → n < 2 ^ 53) :
    Canonicalizable (object (logFields kind event messageId type error receiveCount)) := by
  rw [canonicalizable_object]
  simp only [logFields, List.forall_mem_append, List.forall_mem_cons, List.not_mem_nil, false_imp_iff,
    implies_true, and_true, canonicalizable_lit, true_and]
  refine ⟨⟨⟨⟨?_, ?_⟩, ?_⟩, ?_⟩, ?_⟩
  · cases kind <;> exact canonicalizable_lit _
  · rcases messageId with _ | id
    · simp
    · cases id <;> simp
  · cases type <;> simp
  · cases error <;> simp
  · rcases receiveCount with _ | n
    · simp
    · simpa using canonicalizable_ofNat (hcount n rfl)

theorem log_does {kind : CallbackWorkerKind} {event : String} {messageId : Option Text}
    {type : Option String} {error : Option (Exn Failure)} {receiveCount : Option Nat}
    (hcount : ∀ n, receiveCount = some n → n < 2 ^ 53) :
    Does P taskToken body receiptHandle (fun _ _ => True) H
      (log kind event messageId type error receiveCount) := by
  unfold log
  rw [canonicalize_eq_ok.mpr ⟨canonicalizable_logFields hcount, rfl⟩, lift_ok_bind]
  exact ⟨trivial, fun r => ⟨List.subset_append_left H _, r, rfl, trivial⟩⟩

theorem Received.receiveCount_lt (received : Received) : received.receiveCount < 2 ^ 53 := by
  unfold Received.receiveCount
  cases h : parseInt (received.approximateReceiveCount.getD (js "1")) with
  | none => decide
  | some n =>
    have hn := received.count_lt n h
    simp only [Option.getD_some]
    omega

theorem log_counted {kind : CallbackWorkerKind} {event : String} {messageId : Option Text}
    {type : Option String} {error : Option (Exn Failure)} (received : Received) :
    Does P taskToken body receiptHandle (fun _ _ => True) H
      (log kind event messageId type error (some received.receiveCount)) := by
  refine log_does fun n hn => ?_
  obtain rfl := Option.some.inj hn
  exact received.receiveCount_lt

theorem retrySoon_does {kind : CallbackWorkerKind} {messageId : Option Text} {type : Option String}
    {seconds : Nat} : Does P taskToken body receiptHandle (fun _ _ => True) H
      (retrySoon kind receiptHandle messageId type seconds) := by
  unfold retrySoon
  refine Does.send trivial fun answer => ?_
  cases answer with
  | ok _ => exact Does.pure trivial
  | error e => exact log_does (by simp)

theorem deleteOrLog_does {kind : CallbackWorkerKind} {event : String} {messageId : Option Text}
    {type : Option String} (received : Received) (hs : Settled P.toPlatform taskToken body H) :
    Does P taskToken body receiptHandle (fun _ _ => True) H
      (deleteOrLog kind event receiptHandle messageId type received.receiveCount) := by
  unfold deleteOrLog
  refine Does.send ⟨rfl, hs⟩ fun answer => ?_
  cases answer with
  | ok _ => exact Does.pure trivial
  | error e => exact log_counted received

/-! ## 3. The lease -/

theorem renew_does {token : Text} :
    Does P taskToken body receiptHandle (fun H' lost => lost = some true → Over H' token) H
      (renew token receiptHandle) := by
  unfold renew
  refine Does.send trivial fun answer => ?_
  cases answer with
  | error error =>
    refine Does.pure fun he => ?_
    exact ⟨error, Option.some.inj he, Or.inl List.mem_concat_self⟩
  | ok _ =>
    refine Does.send trivial fun answer => ?_
    cases answer with
    | error error => exact Does.pure fun he => by cases he
    | ok _ => exact Does.pure fun he => by cases he

/-- **One renewal.**  The lease is lost for good only if a heartbeat said so. -/
theorem assertActive_does {token : Text} {lost : Lost} (hlost : lost = some true → Over H token) :
    Does P taskToken body receiptHandle (fun H' lost => lost = some true → Over H' token) H
      (CallbackLease.assertActive token receiptHandle lost) := by
  cases lost with
  | some terminal => exact Does.pure hlost
  | none => exact renew_does

/-- **Any number of renewals.** -/
theorem renewals_does {token : Text} (n : Nat) :
    ∀ {H : QueueHistory} {lost : Lost}, (lost = some true → Over H token) →
      Does P taskToken body receiptHandle (fun H' lost => lost = some true → Over H' token) H
        (CallbackLease.renewals token receiptHandle n lost) := by
  induction n with
  | zero =>
    intro H lost hlost
    exact Does.pure hlost
  | succ n ih =>
    intro H lost hlost
    exact (assertActive_does hlost).bind fun H' lost' _ hlost' => ih hlost'

theorem withLease_does {message : CallbackMessage} :
    Does P taskToken body receiptHandle
      (fun H' r => r = .error (.user (.workerLease true)) → Over H' message.taskToken) H
      (withLease message receiptHandle) := by
  unfold withLease
  refine (assertActive_does (by simp)).bind fun H' lost _ hlost => ?_
  cases lost with
  | some terminal =>
    refine Does.pure fun he => ?_
    cases he
    exact hlost rfl
  | none =>
    refine Does.send trivial fun n => ?_
    refine (renewals_does n (by simp)).bind fun H'' lost' _ hlost' => ?_
    refine Does.send trivial fun answer => ?_
    cases answer with
    | error error => exact Does.pure fun he => absurd (Except.error.inj he) (error.property true)
    | ok output =>
      refine (assertActive_does fun he => (hlost' he).grow (List.subset_append_left _ _)).bind
        fun H₃ lost'' _ hlost'' => ?_
      cases lost'' with
      | none => exact Does.pure fun he => by cases he
      | some terminal =>
        refine Does.pure fun he => ?_
        cases he
        exact hlost'' rfl

/-! ## 4. Quarantine -/

theorem writeQuarantine_does {kind : CallbackWorkerKind} {received : Received}
    {error : Exn Failure} :
    Does P taskToken body receiptHandle (fun H' r => r = .ok () → Quarantined P.toPlatform H' body) H
      (writeQuarantine P.toPlatform kind received body error) := by
  unfold writeQuarantine
  refine Does.send trivial fun failedAt => ?_
  cases hc : canonicalize (quarantineRecord P.toPlatform kind received body error failedAt) with
  | error e => exact Does.pure fun he => by cases he
  | ok text =>
    obtain ⟨-, rfl⟩ := canonicalize_eq_ok.mp hc
    refine ⟨trivial, fun r => ⟨List.subset_append_left _ _, r, rfl, ?_⟩⟩
    rintro rfl
    refine ⟨_, ?_, List.mem_concat_self⟩
    simp [quarantineRecord, getPath, List.lookup]

theorem reportFailure_does {token : Text} {error : Exn Failure} :
    Does P taskToken body receiptHandle (fun H' r =>
      match r with
      | .ok () => Failed H' token
      | .error e => isTerminalTaskError e = true → Failed H' token) H
      (reportFailure token error) := by
  unfold reportFailure
  rw [canonicalize_eq_ok.mpr ⟨by simp, rfl⟩]
  refine ⟨trivial, fun r => ⟨List.subset_append_left _ _, r, rfl, ?_⟩⟩
  cases r with
  | ok _ => exact Or.inl ⟨_, List.mem_concat_self⟩
  | error e =>
    intro he
    exact Or.inr ⟨_, e, he, List.mem_concat_self⟩

theorem finalizePoison_does {kind : CallbackWorkerKind} {received : Received}
    {error : Exn Failure} {type : Option String} :
    Does P taskToken body receiptHandle (fun _ _ => True) H
      (finalizePoison P.toPlatform kind received body receiptHandle error taskToken type) := by
  unfold finalizePoison
  refine writeQuarantine_does.bind fun H₁ answer _ hq => ?_
  cases answer with
  | error e => exact (log_counted received).bind fun _ _ _ _ => retrySoon_does
  | ok _ =>
    have hquarantined := hq rfl
    cases taskToken with
    | none => exact deleteOrLog_does received (.quarantined hquarantined (by simp))
    | some token =>
      refine reportFailure_does.bind fun H₂ answer hsub hfailed => ?_
      have hsettled : Failed H₂ token → Settled P.toPlatform (some token) body H₂ := fun hf =>
        .quarantined (hquarantined.grow hsub) fun t ht => Option.some.inj ht ▸ hf
      cases answer with
      | ok _ => exact deleteOrLog_does received (hsettled hfailed)
      | error e =>
        dsimp only
        split
        · rename_i hterminal
          exact deleteOrLog_does received (hsettled (hfailed hterminal))
        · exact (log_counted received).bind fun _ _ _ _ => retrySoon_does

/-! ## 5. The whole -/

theorem onFailure_does {kind : CallbackWorkerKind} {maxReceiveCount : Nat} {received : Received}
    {message : CallbackMessage} {error : Exn Failure} (htoken : taskToken = some message.taskToken)
    (hover : error = .user (.workerLease true) → Over H message.taskToken) :
    Does P taskToken body receiptHandle (fun _ _ => True) H
      (onFailure P.toPlatform kind maxReceiveCount received body receiptHandle message error) := by
  unfold onFailure
  refine (log_counted received).bind fun H' _ hsub _ => ?_
  split
  · exact deleteOrLog_does received (.ended _ htoken ((hover rfl).grow hsub))
  · exact retrySoon_does
  · split
    · rw [← htoken]
      exact finalizePoison_does
    · exact retrySoon_does

theorem not_terminal_of_canonicalize {v : Value} {e : Exn Failure} (h : canonicalize v = .error e) :
    isTerminalTaskError e = false := by
  obtain ⟨message, rfl⟩ := canonicalize_error h
  simp [isTerminalTaskError, awsErrorName]

theorem reportSuccess_does {kind : CallbackWorkerKind} {received : Received}
    {message : CallbackMessage} {output : Value} (htoken : taskToken = some message.taskToken) :
    Does P taskToken body receiptHandle (fun H' r => ∀ e, r = .error e →
      isTerminalTaskError e = true → Settled P.toPlatform taskToken body H') H
      (reportSuccess kind received receiptHandle message output) := by
  unfold reportSuccess
  cases hc : canonicalize output with
  | error e =>
    refine Does.pure fun e' he hterminal => ?_
    obtain rfl := Except.error.inj he
    exact absurd hterminal (by simp [not_terminal_of_canonicalize hc])
  | ok text =>
    refine Does.send trivial fun answer => ?_
    cases answer with
    | error e =>
      refine Does.pure fun e' he hterminal => ?_
      obtain rfl := Except.error.inj he
      exact .ended _ htoken ⟨e, hterminal, Or.inr (Or.inl ⟨text, List.mem_append_right _
        (List.mem_singleton.mpr rfl)⟩)⟩
    | ok _ =>
      have haccepted : Settled P.toPlatform taskToken body
          (H ++ [answered (.success message.taskToken text) (.ok ())]) :=
        .accepted _ htoken ⟨text, List.mem_concat_self⟩
      refine Does.send ⟨rfl, haccepted⟩ fun answer => ?_
      cases answer with
      | error e => exact Does.pure fun _ _ _ => haccepted.grow (List.subset_append_left _ _)
      | ok _ => exact (log_counted received).bind fun _ _ _ _ => Does.pure fun _ he => by cases he

theorem onSuccess_does {kind : CallbackWorkerKind} {received : Received} {message : CallbackMessage}
    {output : Value} (htoken : taskToken = some message.taskToken) :
    Does P taskToken body receiptHandle (fun _ _ => True) H
      (onSuccess kind received receiptHandle message output) := by
  unfold onSuccess
  refine (reportSuccess_does htoken).bind fun H' answer _ hs => ?_
  cases answer with
  | ok _ => exact Does.pure trivial
  | error error =>
    dsimp only
    split
    · rename_i hterminal
      exact deleteOrLog_does received (hs error rfl hterminal)
    · exact (log_counted received).bind fun _ _ _ _ => retrySoon_does

theorem processBody_does {kind : CallbackWorkerKind} {maxReceiveCount : Nat} {received : Received} :
    Does P (taskTokenIn P kind body) body receiptHandle (fun _ _ => True) H
      (processBody P kind maxReceiveCount received body receiptHandle) := by
  unfold processBody taskTokenIn
  cases hm : acceptMessage P kind body with
  | error error => exact (log_counted received).bind fun _ _ _ _ => finalizePoison_does
  | ok message =>
    refine withLease_does.bind fun H' answer _ hover => ?_
    cases answer with
    | error error => exact onFailure_does rfl fun he => hover (by rw [he])
    | ok output => exact onSuccess_does rfl

end Follow

/-- **A message is deleted only when it is settled, and nothing is thrown.**  Whatever the calls of
SQS, Step Functions and the service are answered. -/
theorem deletesOnlySettled (P : WorkerPlatform) (kind : CallbackWorkerKind) (maxReceiveCount : Nat)
    (received : Received) :
    (∀ H handle k, Reaches (process P kind maxReceiveCount received) H (.call (.delete handle) k) →
      ∃ body, received.body = some body ∧ received.receiptHandle = some handle ∧
        Settled P.toPlatform (taskTokenIn P kind body) body H) ∧
    ∀ H r, Reaches (process P kind maxReceiveCount received) H (.done r) → r = .ok () := by
  unfold process
  split
  · rename_i body receiptHandle hbody hhandle
    split
    · constructor
      · intro H handle k hr
        cases hr
      · intro H r hr
        cases hr
        rfl
    · have hdoes : Does P (taskTokenIn P kind body) body receiptHandle (fun _ _ => True) []
          (processBody P kind maxReceiveCount received body receiptHandle) := processBody_does
      constructor
      · intro H handle k hr
        obtain ⟨rfl, hs⟩ := hdoes.call_of_reaches hr
        exact ⟨body, hbody, hhandle, hs⟩
      · intro H r hr
        obtain ⟨-, a, rfl, -⟩ := hdoes.done_of_reaches hr
        rfl
  · constructor
    · intro H handle k hr
      cases hr
    · intro H r hr
      cases hr
      rfl

end Worker
