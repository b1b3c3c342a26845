/-
# The programs at one table

Any number of scans of the adapter and of calls of the gateway.  `Service` is how their calls are
answered: a query tells items as they are, a write is applied or not as a conditional write is, and
a condition is only said to fail where it does.  The companion, the MCP servers, the clocks and the
lease answer anything.

What a program has done before a call is `Allowed`, and `program_follows` is that it is so of every
call of both programs; `execute_obeys` tells as well what the gateway returns.
-/
import Archon.Jobs.Gateway
import Archon.Jobs.Adapter

namespace Jobs

open Ecma Remediation Resumption Resumption.Program

/-! ## 1. The services -/

/-- What a call is answered, and what becomes of the jobs. -/
inductive Service (S : Settings) : World → (e : Call) → e.Reply → World → Prop
  | iso (s : World) {t : Text} (ht : encodable t = true) : Service S s .iso t s
  | time (s : World) (now : Int) : Service S s .time now s
  | uuid (s : World) {t : Text} (ht : isAttemptId t = true) : Service S s .uuid t s
  | query (s : World) (pk : Text) (startKey : Option Key) {page : Page}
      (hpage : ∀ item ∈ page.items, s.jobs item.1 = some item.2 ∧ item.1.1 = pk) :
      Service S s (.query pk startKey) (.ok page) s
  | unqueried (s : World) (pk : Text) (startKey : Option Key) (e : ServiceFault) :
      Service S s (.query pk startKey) (.error e) s
  | write {s s' : World} {w : JobWrite} {r : Except ServiceFault Unit}
      (h : (w.guarded S).Outcome s r s')
      (hr : r = .error .conditional → (w.guarded S).condition s' = false) :
      Service S s (.write w) r s'
  | companion (s : World) (path : String) (body : Py) (r : Except ServiceFault Py) :
      Service S s (.companion path body) r s
  | mcp (s : World) (tool : String) (arguments : Py) (r : Except ServiceFault Py) :
      Service S s (.mcp tool arguments) r s
  | now (s : World) (now : Int) : Service S s .now now s
  | publicKey (s : World) (r : Except ServiceFault Unit) : Service S s .publicKey r s
  | lease (s : World) (r : Except ServiceFault (Option Core.Lease)) : Service S s .lease r s
  | official (s : World) (tool : Text) (arguments : Py) (r : Except ServiceFault Py) :
      Service S s (.official tool arguments) r s

/-- The event of a write that was answered so. -/
def wasWritten (w : JobWrite) (r : Except ServiceFault Unit) : Event Call Call.Reply :=
  ⟨.write w, r⟩

/-- The event of a query that told something. -/
def wasQueried (pk : Text) (startKey : Option Key) (page : Page) : Event Call Call.Reply :=
  ⟨.query pk startKey, (.ok page : Except ServiceFault Page)⟩

/-- The event of a reading of the clock, in seconds. -/
def hadTime (now : Int) : Event Call Call.Reply := ⟨.time, now⟩

/-- The event of a reading of the clock, as a text. -/
def hadIso (t : Text) : Event Call Call.Reply := ⟨.iso, t⟩

/-- The event of a new id. -/
def hadUuid (t : Text) : Event Call Call.Reply := ⟨.uuid, t⟩

/-- The event of a reading of the gateway's clock. -/
def hadNow (now : Int) : Event Call Call.Reply := ⟨.now, now⟩

/-- A write that is applied meets its item. -/
theorem applied_spec {S : Settings} {s : World} {w : JobWrite}
    (hcondition : (w.guarded S).condition s = true) :
    ∃ j, s.jobs w.key = some j ∧ w.meets S j = true ∧
      (w.guarded S).result s = s.withJob w.key (some (w.update j)) := by
  obtain ⟨j, hj, hmeets⟩ := (Option.any_eq_true _ _).mp hcondition
  have hresult : (w.guarded S).result s = s.withJob w.key ((s.jobs w.key).map w.update) := rfl
  rw [hj] at hresult
  exact ⟨j, hj, hmeets, hresult⟩

/-- A step changes the jobs by a write that meets its item, or it does not. -/
theorem Service.cases_write {S : Settings} {s s' : World} {e : Call} {r : e.Reply}
    (h : Service S s e r s') :
    s' = s ∨ ∃ w j, e = .write w ∧ s.jobs w.key = some j ∧ w.meets S j = true ∧
      s' = s.withJob w.key (some (w.update j)) := by
  cases h with
  | @write _ w _ hw _ =>
    cases hw with
    | applied hcondition =>
      obtain ⟨j, hj, hmeets, hresult⟩ := applied_spec hcondition
      exact Or.inr ⟨w, j, rfl, hj, hmeets, hresult⟩
    | refused => exact Or.inl rfl
  | _ => exact Or.inl rfl

/-- A write that is answered `ok` met its item. -/
theorem Service.of_written {S : Settings} {s s' : World} {w : JobWrite}
    (h : Service S s (.write w) (.ok ()) s') :
    ∃ j, s.jobs w.key = some j ∧ w.meets S j = true ∧
      s' = s.withJob w.key (some (w.update j)) := by
  cases h with
  | write hw _ =>
    cases hw with
    | applied hcondition => exact applied_spec hcondition

/-- A write that meets its item can be applied. -/
theorem Service.apply {S : Settings} {s : World} {w : JobWrite} {j : Job}
    (hj : s.jobs w.key = some j) (hmeets : w.meets S j = true) :
    Service S s (.write w) (.ok ()) (s.withJob w.key (some (w.update j))) := by
  have hcondition : (w.guarded S).condition s = true := (Option.any_eq_true _ _).mpr ⟨j, hj, hmeets⟩
  have hresult : (w.guarded S).result s = s.withJob w.key ((s.jobs w.key).map w.update) := rfl
  have h : (w.guarded S).Outcome s (.ok () : Except ServiceFault Unit) ((w.guarded S).result s) :=
    .applied hcondition _
  rw [hresult, hj] at h
  exact .write h nofun

/-! ## 2. A validated request -/

/-- The second computation follows the first. -/
theorem bind_eq_ok {α β : Type} {x : Except Fault α} {f : α → Except Fault β} {b : β} :
    (x >>= f) = .ok b ↔ ∃ a, x = .ok a ∧ f a = .ok b := by
  rcases x with e | a <;> simp [Bind.bind, Except.bind]

/-- What the gateway has found of a request, at a reading of its clock. -/
structure Authorized (S : Settings) (jobId : Text) (request : Py) (now : Int) (v : Validated) :
    Prop where
  keys : isJobId jobId = true ∧ request.exact GOVERNED_KEYS = true
  policy : withinPolicy request = true
  approval : ((request.get "approval").get "approvalId").isForm isApprovalId = true ∧
    ((request.get "approval").get "decidedAt").isForm isIso = true
  bound : hasDigest S (request.without "requestDigest") (request.get "requestDigest") = .ok true
  digests : ∀ d ∈ governedDigests request, d.isForm isDigest = true
  binds : bindsEnvelope S jobId request ((request.get "authorization").get "envelope") = true
  window : ∃ issuedAt,
    parseInstant (((request.get "authorization").get "envelope").get "issuedAt") = .ok issuedAt ∧
    parseInstant (((request.get "authorization").get "envelope").get "expiresAt") = .ok v.expiresAt ∧
    inWindow issuedAt v.expiresAt now = true
  digest : digestOf S ((request.get "authorization").get "envelope") = .ok v.envelopeDigest
  describes : describesSignature S ((request.get "authorization").get "signature")
    v.envelopeDigest = true
  bytes : (((request.get "authorization").get "signature").get "signatureBase64").text?.bind
    S.b64decode = some v.signatureBytes
  tool : v.tool = toolOf request
  verified : S.verify v.envelopeDigest v.signatureBytes = true

/-- **What is validated is authorized**, once the signature is verified. -/
theorem validate_spec {S : Settings} {jobId : Text} {request : Py} {now : Int} {v : Validated}
    (h : validate S jobId request now = .ok v)
    (hverified : S.verify v.envelopeDigest v.signatureBytes = true) :
    Authorized S jobId request now v := by
  unfold validate at h
  obtain ⟨_, hkeys, h⟩ := bind_eq_ok.mp h
  obtain ⟨_, hpolicy, h⟩ := bind_eq_ok.mp h
  obtain ⟨_, hdigests, h⟩ := bind_eq_ok.mp h
  obtain ⟨_, happroval, h⟩ := bind_eq_ok.mp h
  obtain ⟨_, hbound, h⟩ := bind_eq_ok.mp h
  obtain ⟨_, hsame, h⟩ := bind_eq_ok.mp h
  obtain ⟨_, -, h⟩ := bind_eq_ok.mp h
  obtain ⟨_, -, h⟩ := bind_eq_ok.mp h
  obtain ⟨_, hbinds, h⟩ := bind_eq_ok.mp h
  obtain ⟨issuedAt, hissued, h⟩ := bind_eq_ok.mp h
  obtain ⟨expiresAt, hexpires, h⟩ := bind_eq_ok.mp h
  obtain ⟨_, hwindow, h⟩ := bind_eq_ok.mp h
  obtain ⟨d, hdigest, h⟩ := bind_eq_ok.mp h
  obtain ⟨_, hdescribes, h⟩ := bind_eq_ok.mp h
  split at h
  · exact nomatch h
  · rename_i bytes hbytes
    obtain ⟨_, -, h⟩ := bind_eq_ok.mp h
    obtain rfl := Except.ok.inj h
    rw [permit_eq_ok.mp hsame] at hbound
    exact ⟨Bool.and_eq_true_iff.mp (permit_eq_ok.mp hkeys), permit_eq_ok.mp hpolicy,
      Bool.and_eq_true_iff.mp (permit_eq_ok.mp happroval), hbound,
      List.all_eq_true.mp (permit_eq_ok.mp hdigests), permit_eq_ok.mp hbinds, ⟨issuedAt, hissued, hexpires, permit_eq_ok.mp hwindow⟩, hdigest,
      permit_eq_ok.mp hdescribes, hbytes, rfl, hverified⟩

/-! ## 3. What a call needs -/

/-- A program at the table. -/
inductive Work where
  | scan (cursors : Option Key × Option Key)
  | gateway (jobId : Text) (request : Py)

/-- Its text. -/
def Work.program (S : Settings) : Work → Handler Unit
  | scan cursors => do
    let _ ← processOnce S cursors
    return ()
  | gateway jobId request => do
    let _ ← execute S jobId request
    return ()

/-- A page of the partition held the job. -/
def Met (H : CallHistory) (pk : Text) (key : Key) (j : Job) : Prop :=
  ∃ startKey page, wasQueried pk startKey page ∈ H ∧ (key, j) ∈ page.items

/-- The attempt of a running job, as the scan reads it. -/
structure Attempted (S : Settings) (j : Job) (attemptId : Text) (deadline attempts : Int) : Prop where
  form : isAttemptId attemptId = true
  started : j.attemptId = some attemptId
  ends : intAttribute S j.attemptDeadlineEpoch = some deadline
  counted : intAttribute S j.attemptCount = some attempts

/-- The outcomes of an attempt that are not followed by another one. -/
def lastOutcomes : List Outcome :=
  [.error "CORE_JOB_FAILED" true, .error "CORE_JOB_ATTEMPTS_EXHAUSTED" false]

/-- An error of the table at the write is not caught by the program. -/
def JobWrite.Uncaught (S : Settings) : JobWrite → Prop
  | claim _ _ _ _ | requeue _ _ _ _ => True
  | complete _ attemptId state completedAt receipt => ∃ j outcome, outcome ∈ lastOutcomes ∧
      completion S j attemptId completedAt outcome = .ok (state, receipt)
  | reject _ _ _ | consume _ _ _ _ _ _ _ => False

/-- Why a job is rejected. -/
inductive Cause (S : Settings) (H : CallHistory) (pk : Text) (key : Key) (j : Job) : Prop
  /-- It is not one that the adapter takes. -/
  | invalid (h : valid S pk key j = false)
  /-- It runs, and its attempt can not be read. -/
  | unread (hrunning : j.state = .RUNNING) (h : ∀ a d n, ¬ Attempted S j a d n)
  /-- The table failed. -/
  | stored {w : JobWrite} (hkey : w.key = key) (hw : w.Uncaught S)
      (h : wasWritten w (.error .other) ∈ H)
  /-- No receipt could be sealed for it. -/
  | unsealed {a t : Text} {outcome : Outcome} {e : Fault} (hvalid : valid S pk key j = true)
      (ha : hadUuid a ∈ H ∨ isAttemptId a = true) (ht : hadIso t ∈ H)
      (h : completion S j a t outcome = .error e)

/-- The writes of a scan. -/
inductive ScanWrite (S : Settings) (H : CallHistory) : JobWrite → Prop
  | claim {pk : Text} {key : Key} {j : Job} {a started : Text} {now : Int} (hmet : Met H pk key j)
      (hvalid : valid S pk key j = true) (hqueued : j.state = .QUEUED) (ha : hadUuid a ∈ H)
      (hnow : hadTime now ∈ H) : ScanWrite S H (.claim key a started (now + ATTEMPT_SECONDS))
  | complete {pk : Text} {key : Key} {j : Job} {a started t : Text} {deadline : Int}
      {outcome : Outcome} {state : JobState} {receipt : Py} (hmet : Met H pk key j)
      (hvalid : valid S pk key j = true) (hqueued : j.state = .QUEUED)
      (hclaimed : wasWritten (.claim key a started deadline) (.ok ()) ∈ H)
      (houtcome : ∀ code retryable, outcome = .error code retryable → code = "CORE_JOB_FAILED")
      (hreceipt : completion S j a t outcome = .ok (state, receipt)) :
      ScanWrite S H (.complete key a state t receipt)
  | exhaust {pk : Text} {key : Key} {j : Job} {a t : Text} {deadline attempts now : Int}
      {state : JobState} {receipt : Py} (hmet : Met H pk key j)
      (hvalid : valid S pk key j = true) (hrunning : j.state = .RUNNING)
      (hattempted : Attempted S j a deadline attempts) (hnow : hadTime now ∈ H)
      (hdeadline : deadline ≤ now) (hattempts : MAX_ATTEMPTS ≤ attempts)
      (hreceipt : completion S j a t (.error "CORE_JOB_ATTEMPTS_EXHAUSTED" false)
        = .ok (state, receipt)) :
      ScanWrite S H (.complete key a state t receipt)
  | requeue {pk : Text} {key : Key} {j : Job} {a t : Text} {deadline attempts now : Int}
      (hmet : Met H pk key j) (hvalid : valid S pk key j = true) (hrunning : j.state = .RUNNING)
      (hattempted : Attempted S j a deadline attempts) (hnow : hadTime now ∈ H)
      (hdeadline : deadline ≤ now) (hattempts : attempts < MAX_ATTEMPTS) :
      ScanWrite S H (.requeue key a deadline t)
  | reject {pk : Text} {key : Key} {j : Job} {t : Text} {receipt : Py} (hmet : Met H pk key j)
      (hcause : Cause S H pk key j) (hrejectable : rejectable S key j = true) :
      ScanWrite S H (.reject key t receipt)

/-- The call makes a write. -/
def Call.writes : Call → Bool
  | write _ => true
  | _ => false

/-- The call asks for something other than entities of the official server: it changes tags. -/
def Call.mutates : Call → Bool
  | official tool _ => tool ≠ js "get_entities"
  | _ => false

/-- The authorization of the request was consumed. -/
def Consumed (S : Settings) (jobId : Text) (request : Py) (H : CallHistory) (v : Validated) :
    Prop :=
  ∃ now, hadNow now ∈ H ∧ Authorized S jobId request now v ∧
    wasWritten (consumption S jobId v.envelopeDigest now) (.ok ()) ∈ H

/-- The calls that the program may make after its history. -/
def Allowed (S : Settings) (work : Work) (H : CallHistory) : Call → Prop
  | .write w =>
    match work with
    | .scan _ => ScanWrite S H w
    | .gateway jobId request => ∃ now v, hadNow now ∈ H ∧ Authorized S jobId request now v ∧
        w = consumption S jobId v.envelopeDigest now ∧ ∀ ev ∈ H, ev.1.writes = false
  | .official tool arguments =>
    match work with
    | .scan _ => False
    | .gateway jobId request => tool = js "get_entities" ∨ ∃ v, Consumed S jobId request H v ∧
        tool = v.tool ∧ arguments = OFFICIAL_ARGUMENTS ∧ ∀ ev ∈ H, ev.1.mutates = false
  | _ => True

/-- Every call of the program is allowed, and its end is as told. -/
abbrev Follows (S : Settings) (work : Work) {α : Type}
    (Q : CallHistory → Except Fault α → Prop) (H : CallHistory) (p : Handler α) : Prop :=
  Obeys (Allowed S work) Q H p

theorem mem_last {H : CallHistory} {ev : Event Call Call.Reply} : ev ∈ H ++ [ev] := List.mem_concat_self

theorem mem_before {H : CallHistory} {ev ev' : Event Call Call.Reply} (h : ev ∈ H) :
    ev ∈ H ++ [ev'] :=
  List.mem_append_left _ h

/-! ## 4. The gateway -/

section Gateway

variable {S : Settings} {jobId : Text} {request : Py} {H : CallHistory}

/-- What a result of the gateway is made of. -/
inductive Given (S : Settings) (jobId : Text) (request : Py) : Py → Prop
  | intro {now : Int} {v : Validated} {before after response : Py} {responseDigest receiptDigest : Text}
      (hauthorized : Authorized S jobId request now v)
      (hbefore : sameText (request.get "expectedBeforeDigest") (before.get "stateDigest") = true)
      (hafter : sameText (request.get "expectedAfterDigest") (after.get "stateDigest") = true)
      (hresponse : digestOf S response = .ok responseDigest)
      (hreceipt : digestOf S (.object (resultFields S request before after v now responseDigest))
        = .ok receiptDigest) :
      Given S jobId request (.object (resultFields S request before after v now responseDigest
        ++ [("receiptDigest", .str receiptDigest)]))

theorem validateRequest_obeys {I : CallHistory → Call → Prop} {now : Int}
    (hkey : ∀ H, I H .publicKey) (hlease : ∀ H, I H .lease) :
    Obeys I (fun H' r => ∀ v, r = .ok v →
        Authorized S jobId request now v ∧ ∃ a b, H' = H ++ [⟨.publicKey, a⟩] ++ [⟨.lease, b⟩]) H
      (validateRequest S jobId request now) := by
  unfold validateRequest
  refine obeys_lift (fun v hv => ?_) fun _ => nofun
  refine obeys_perform (hkey _) fun a => obeys_lift (fun _ _ => ?_) fun _ => nofun
  refine obeys_lift (fun _ hverified => ?_) fun _ => nofun
  refine obeys_perform (hlease _) fun b => obeys_lift (fun _ _ => ?_) fun _ => nofun
  refine obeys_lift (fun _ _ => ?_) fun _ => nofun
  intro v' hv'
  obtain rfl := Except.ok.inj hv'
  exact ⟨validate_spec hv (permit_eq_ok.mp hverified), a, b, rfl⟩

theorem readState_obeys {I : CallHistory → Call → Prop}
    (hread : ∀ H arguments, I H (.official (js "get_entities") arguments)) :
    Obeys I (fun H' _ => ∃ arguments a, H' = H ++ [⟨.official (js "get_entities") arguments, a⟩]) H
      (readState S) := by
  unfold readState
  refine obeys_perform (hread _ _) fun a => ?_
  rw [obeys_bind]
  cases a with
  | error e => exact ⟨_, _, rfl⟩
  | ok raw =>
    change Obeys I _ _ (if _ then _ else _)
    split <;> exact ⟨_, _, rfl⟩

theorem consume_obeys {I : CallHistory → Call → Prop} {envelopeDigest : Text} {now : Int}
    (hwrite : I H (.write (consumption S jobId envelopeDigest now))) :
    Obeys I (fun H' r => ∀ u, r = .ok u →
        H' = H ++ [wasWritten (consumption S jobId envelopeDigest now) (.ok ())]) H
      (consume S jobId envelopeDigest now) := by
  unfold consume
  refine obeys_perform hwrite fun a => ?_
  split
  · exact fun _ _ => rfl
  · exact nofun
  · exact nofun

/-- **What the gateway does is allowed**, and what it returns was made so. -/
theorem execute_obeys : Follows S (.gateway jobId request)
    (fun _ r => ∀ result, r = .ok result → Given S jobId request result) []
    (execute S jobId request) := by
  unfold execute
  refine obeys_perform trivial fun now => ?_
  rw [obeys_bind]
  refine (validateRequest_obeys (fun _ => trivial) fun _ => trivial).mono (fun _ _ h => h)
    fun H r hr => ?_
  cases r with
  | error e => exact nofun
  | ok v =>
    obtain ⟨hauthorized, a, b, rfl⟩ := hr v rfl
    dsimp only
    rw [obeys_bind]
    refine (consume_obeys ?_).mono (fun _ _ h => h) fun H r hr => ?_
    · refine ⟨now, v, ?_, hauthorized, rfl, ?_⟩
      · simp [hadNow]
      · simp [Call.writes]
    · cases r with
      | error e => exact nofun
      | ok u =>
        obtain rfl := hr u rfl
        dsimp only
        rw [obeys_bind]
        refine (readState_obeys fun _ _ => Or.inl rfl).mono (fun _ _ h => h) fun H r hr => ?_
        obtain ⟨arguments, answer, rfl⟩ := hr
        cases r with
        | error e => exact nofun
        | ok before =>
          dsimp only
          refine obeys_lift (fun _ hbefore => ?_) fun _ => nofun
          refine obeys_perform ?_ fun official => ?_
          · refine Or.inr ⟨v, ⟨now, ?_, hauthorized, ?_⟩, rfl, rfl, ?_⟩
            · simp [hadNow]
            · simp
            · simp [Call.mutates, wasWritten]
          · refine obeys_lift (fun result _ => ?_) fun _ => nofun
            refine obeys_lift (fun _ _ => ?_) fun _ => nofun
            rw [obeys_bind]
            refine (readState_obeys fun _ _ => Or.inl rfl).mono (fun _ _ h => h) fun H r _ => ?_
            cases r with
            | error e => exact nofun
            | ok after =>
              dsimp only
              refine obeys_lift (fun _ hafter => ?_) fun _ => nofun
              refine obeys_lift (fun responseDigest hresponse => ?_) fun _ => nofun
              refine obeys_lift (fun receiptDigest hreceipt => ?_) fun _ => nofun
              intro result' hresult
              obtain rfl := Except.ok.inj hresult
              exact .intro hauthorized (insist_eq_ok.mp hbefore) (insist_eq_ok.mp hafter) hresponse
                hreceipt

end Gateway

/-! ## 5. The adapter -/

section Adapter

variable {S : Settings} {cursors : Option Key × Option Key} {H H' : CallHistory} {pk : Text}
  {key : Key} {j : Job} {α β : Type}

theorem Follows.bind {work : Work} {T : CallHistory → Except Fault α → Prop}
    {Q : CallHistory → Except Fault β → Prop} {p : Handler α} {f : α → Handler β}
    (hp : Follows S work T H p)
    (hok : ∀ H' a, H <+: H' → T H' (.ok a) → Follows S work Q H' (f a))
    (herror : ∀ H' e, H <+: H' → T H' (.error e) → Q H' (.error e)) :
    Follows S work Q H (p >>= f) := by
  refine obeys_bind.mpr (hp.extends.mono (fun _ _ h => h) fun H' r hr => ?_)
  cases r with
  | error e => exact herror H' e hr.2 hr.1
  | ok a => exact hok H' a hr.2 hr.1

theorem Met.mono (h : Met H pk key j) (hH : H <+: H') : Met H' pk key j := by
  obtain ⟨startKey, page, hmem, hitem⟩ := h
  exact ⟨startKey, page, hH.subset hmem, hitem⟩

theorem Cause.mono (h : Cause S H pk key j) (hH : H <+: H') : Cause S H' pk key j := by
  cases h with
  | invalid h => exact .invalid h
  | unread hrunning h => exact .unread hrunning h
  | stored hkey hw h => exact .stored hkey hw (hH.subset h)
  | unsealed hvalid ha ht h =>
    exact .unsealed hvalid (ha.imp (fun ha => hH.subset ha) id) (hH.subset ht) h

theorem rejectInvalid_follows (hmet : Met H pk key j) (hcause : Cause S H pk key j) :
    Follows S (.scan cursors) (fun _ _ => True) H (rejectInvalid S key j) := by
  unfold rejectInvalid
  split
  · rename_i hrejectable
    refine obeys_perform trivial fun t => obeys_lift (fun receipt _ => ?_) fun _ => trivial
    have hgrow : H <+: H ++ [hadIso t] := List.prefix_append _ _
    refine obeys_perform (.reject (hmet.mono hgrow) (hcause.mono hgrow) hrejectable) fun r => ?_
    split <;> trivial
  · trivial

/-- How a completion fails. -/
def Incomplete (S : Settings) (H : CallHistory) (key : Key) (j : Job) (a : Text)
    (outcome : Outcome) : Prop :=
  ∃ t, hadIso t ∈ H ∧ ((∃ e, completion S j a t outcome = .error e) ∨
    ∃ state receipt, completion S j a t outcome = .ok (state, receipt) ∧
      wasWritten (.complete key a state t receipt) (.error .other) ∈ H)

theorem complete_follows {a : Text} {outcome : Outcome}
    (hwrite : ∀ H' t state receipt, H <+: H' →
      completion S j a t outcome = .ok (state, receipt) →
      ScanWrite S H' (.complete key a state t receipt)) :
    Follows S (.scan cursors)
      (fun H' r => ∀ e, r = .error e → Incomplete S H' key j a outcome) H
      (complete S key j a outcome) := by
  unfold complete
  refine obeys_perform trivial fun t => ?_
  cases hc : completion S j a t outcome with
  | error e => exact fun _ _ => ⟨t, mem_last, Or.inl ⟨e, hc⟩⟩
  | ok x =>
    obtain ⟨state, receipt⟩ := x
    refine obeys_perform (hwrite _ t state receipt (List.prefix_append _ _) hc) fun r => ?_
    split
    · exact nofun
    · exact nofun
    · rename_i e he
      intro _ _
      cases e with
      | conditional => exact absurd rfl he
      | other => exact ⟨t, mem_before mem_last, Or.inr ⟨state, receipt, hc, mem_last⟩⟩

/-- The last completion of an attempt fails for one of the causes. -/
theorem Incomplete.cause {a : Text} {outcome : Outcome} (h : Incomplete S H key j a outcome)
    (hlast : outcome ∈ lastOutcomes) (hvalid : valid S pk key j = true)
    (ha : hadUuid a ∈ H ∨ isAttemptId a = true) : Cause S H pk key j := by
  obtain ⟨t, ht, ⟨e, he⟩ | ⟨state, receipt, hreceipt, hwritten⟩⟩ := h
  · exact .unsealed hvalid ha ht he
  · exact .stored (w := .complete key a state t receipt) rfl ⟨j, outcome, hlast, hreceipt⟩ hwritten

/-- A program that writes nothing, and leaves the official tool alone. -/
abbrev Reads (H : CallHistory) (p : Handler α) : Prop :=
  Obeys (fun _ e => e.writes = false ∧ ∀ tool arguments, e ≠ .official tool arguments)
    (fun _ _ => True) H p

theorem Reads.follows {p : Handler α} (h : Reads H p) :
    Follows S (.scan cursors) (fun _ _ => True) H p := by
  refine h.mono (fun H e he => ?_) fun _ _ _ => trivial
  cases e with
  | write w => exact absurd he.1 (by simp [Call.writes])
  | official tool arguments => exact absurd rfl (he.2 tool arguments)
  | _ => trivial

theorem Reads.bind {p : Handler α} {f : α → Handler β} (hp : Reads H p)
    (hf : ∀ H a, Reads H (f a)) : Reads H (p >>= f) := by
  refine obeys_bind.mpr (hp.mono (fun _ _ h => h) fun H' r _ => ?_)
  cases r with
  | error e => trivial
  | ok a => exact hf H' a

theorem companion_reads (path : String) (body : Py) : Reads H (companion path body) := by
  refine obeys_perform ⟨rfl, nofun⟩ fun r => obeys_lift (fun _ _ => ?_) fun _ => trivial
  exact obeys_lift (fun _ _ => trivial) fun _ => trivial

theorem readTags_reads (entity column : Text) : Reads H (readTags S entity column) := by
  refine obeys_perform ⟨rfl, nofun⟩ fun r => obeys_lift (fun raw _ => ?_) fun _ => trivial
  refine obeys_lift (fun _ _ => obeys_lift (fun _ _ => ?_) fun _ => trivial) fun _ => trivial
  exact obeys_lift (fun _ _ => trivial) fun _ => trivial

theorem postMutation_reads (analyze : Bool) (request : Py) :
    Reads H (postMutation S analyze request) := by
  unfold postMutation
  refine obeys_lift (fun _ _ => (readTags_reads _ _).bind fun H live => ?_) fun _ => trivial
  refine obeys_lift (fun _ _ => ?_) fun _ => trivial
  dsimp only
  split
  · exact (companion_reads _ _).bind fun H postResult =>
      obeys_lift (fun _ _ => trivial) fun _ => trivial
  · exact obeys_lift (fun _ _ => obeys_lift (fun _ _ => trivial) fun _ => trivial) fun _ => trivial

theorem governedMutation_reads : Reads H (governedMutation S j) := by
  unfold governedMutation
  refine obeys_lift (fun _ _ => ?_) fun _ => trivial
  exact obeys_perform ⟨rfl, nofun⟩ fun r => obeys_lift (fun _ _ => trivial) fun _ => trivial

theorem perform_reads : Reads H (perform S j) := by
  unfold Jobs.perform
  split
  · exact companion_reads _ _
  split
  · exact companion_reads _ _
  split
  · exact readTags_reads _ _
  split
  · exact postMutation_reads _ _
  split
  · exact postMutation_reads _ _
  split
  · exact governedMutation_reads
  · trivial

/-- A job was claimed by the scan. -/
def Claimed (H : CallHistory) (key : Key) (a : Text) : Prop :=
  ∃ started deadline, wasWritten (.claim key a started deadline) (.ok ()) ∈ H

theorem claim_follows (hmet : Met H pk key j) (hvalid : valid S pk key j = true) :
    Follows S (.scan cursors) (fun H' r =>
      (∀ a, r = .ok (some a) → j.state = .QUEUED ∧ hadUuid a ∈ H' ∧ Claimed H' key a) ∧
        ∀ e, r = .error e → Cause S H' pk key j) H (claim key j) := by
  unfold claim
  split
  · exact ⟨nofun, nofun⟩
  · rename_i hqueued
    have hqueued : j.state = .QUEUED := not_not.mp hqueued
    refine obeys_perform trivial fun a => obeys_perform trivial fun started => ?_
    refine obeys_perform trivial fun now => ?_
    have hgrow : H <+: H ++ [hadUuid a] ++ [hadIso started] ++ [hadTime now] := by
      simp only [List.append_assoc]
      exact List.prefix_append _ _
    refine obeys_perform (.claim (hmet.mono hgrow) hvalid hqueued
      (mem_before (mem_before mem_last)) mem_last) fun r => ?_
    split
    · refine ⟨fun a' ha' => ?_, nofun⟩
      obtain rfl := Option.some.inj (Except.ok.inj ha')
      exact ⟨hqueued, mem_before (mem_before (mem_before mem_last)), _, _, mem_last⟩
    · exact ⟨nofun, nofun⟩
    · rename_i e he
      refine ⟨nofun, fun _ _ => ?_⟩
      cases e with
      | conditional => exact absurd rfl he
      | other =>
        exact .stored (w := .claim key a started (now + ATTEMPT_SECONDS)) rfl trivial mem_last

theorem recoverExpired_follows (hmet : Met H pk key j) (hvalid : valid S pk key j = true)
    (hrunning : j.state = .RUNNING) :
    Follows S (.scan cursors) (fun H' r => ∀ e, r = .error e → Cause S H' pk key j) H
      (recoverExpired S key j) := by
  have hreject : (∀ a d n, ¬ Attempted S j a d n) →
      Follows S (.scan cursors) (fun H' r => ∀ e, r = .error e → Cause S H' pk key j) H
        (rejectInvalid S key j) := by
    intro hunread
    have hcause : Cause S H pk key j := .unread hrunning hunread
    refine (rejectInvalid_follows hmet hcause).extends.mono (fun _ _ h => h) fun H' r hr _ _ => ?_
    exact hcause.mono hr.2
  unfold recoverExpired
  split
  · rename_i deadline a attempts hdeadline ha hattempts
    split
    · rename_i hform
      refine hreject fun a' d n h => ?_
      obtain rfl := Option.some.inj (ha.symm.trans h.started)
      exact absurd h.form (by simpa using hform)
    · rename_i hform
      have hform : isAttemptId a = true := by simpa using hform
      have hattempted : Attempted S j a deadline attempts := ⟨hform, ha, hdeadline, hattempts⟩
      refine obeys_perform trivial fun now => ?_
      have hgrow : H <+: H ++ [hadTime now] := List.prefix_append _ _
      split
      · exact nofun
      · rename_i hexpired
        split
        · rename_i hexhausted
          refine (complete_follows fun H' t state receipt hH hreceipt => ?_).bind
            (fun _ _ _ _ => nofun) fun H' e hH hr _ _ => ?_
          · exact .exhaust (hmet.mono (hgrow.trans hH)) hvalid hrunning hattempted
              (hH.subset mem_last) (not_lt.mp hexpired) hexhausted hreceipt
          · exact (hr e rfl).cause (by simp [lastOutcomes]) hvalid (Or.inr hform)
        · rename_i hexhausted
          refine obeys_perform trivial fun recovered => ?_
          have hgrow' : H <+: H ++ [hadTime now] ++ [hadIso recovered] :=
            hgrow.trans (List.prefix_append _ _)
          refine obeys_perform (.requeue (hmet.mono hgrow') hvalid hrunning hattempted
            (mem_before mem_last) (not_lt.mp hexpired) (not_le.mp hexhausted)) fun r => ?_
          split
          · exact nofun
          · exact nofun
          · rename_i e he
            intro _ _
            cases e with
            | conditional => exact absurd rfl he
            | other => exact .stored (w := .requeue key a deadline recovered) rfl trivial mem_last
  · rename_i hunread
    refine hreject fun a d n h => ?_
    exact hunread d a n h.ends h.started h.counted

theorem executeJob_follows {a : Text} (hmet : Met H pk key j) (hvalid : valid S pk key j = true)
    (hqueued : j.state = .QUEUED) (ha : hadUuid a ∈ H) (hclaimed : Claimed H key a) :
    Follows S (.scan cursors) (fun H' r => ∀ e, r = .error e → Cause S H' pk key j) H
      (executeJob S key j a) := by
  obtain ⟨started, deadline, hclaimed⟩ := hclaimed
  have hcomplete : ∀ {H₁ : CallHistory} (outcome : Outcome), H <+: H₁ →
      (∀ code retryable, outcome = .error code retryable → code = "CORE_JOB_FAILED") →
      Follows S (.scan cursors)
        (fun H' r => ∀ e, r = .error e → Incomplete S H' key j a outcome) H₁
        (complete S key j a outcome) := fun outcome hH₁ houtcome =>
    complete_follows fun H₂ t state receipt hH₂ hreceipt =>
      .complete (hmet.mono (hH₁.trans hH₂)) hvalid hqueued ((hH₁.trans hH₂).subset hclaimed)
        houtcome hreceipt
  unfold executeJob
  refine Follows.bind (T := fun _ r => ∃ x, r = .ok x) (obeys_attempt.mpr ?_)
    (fun H₁ r hH₁ _ => ?_) fun _ e _ he => nomatch he
  · refine Follows.bind perform_reads.follows (fun H₁ result hH₁ _ => ?_) fun _ e _ _ => ⟨_, rfl⟩
    exact (hcomplete (.result result) hH₁ fun _ _ h => nomatch h).bind (fun _ _ _ _ => ⟨_, rfl⟩) fun _ _ _ _ => ⟨_, rfl⟩
  · split
    · exact nofun
    · have houtcome : ∀ code retryable, Outcome.error "CORE_JOB_FAILED" true = .error code retryable →
          code = "CORE_JOB_FAILED" := by
        rintro _ _ ⟨⟩
        rfl
      refine (hcomplete _ hH₁ houtcome).bind (fun _ _ _ _ => nofun) fun H₂ e hH₂ hr _ _ => ?_
      exact (hr e rfl).cause (by simp [lastOutcomes]) hvalid
        (Or.inl ((hH₁.trans hH₂).subset ha))

theorem tryJob_follows (hmet : Met H pk key j) :
    Follows S (.scan cursors) (fun H' r => ∀ e, r = .error e → Cause S H' pk key j) H
      (tryJob S pk key j) := by
  unfold tryJob
  split
  · exact nofun
  · split
    · rename_i hinvalid
      have hcause : Cause S H pk key j := .invalid (by simpa using hinvalid)
      exact (rejectInvalid_follows hmet hcause).bind (fun _ _ _ _ => nofun)
        fun _ _ hH _ _ _ => hcause.mono hH
    · rename_i hvalid
      have hvalid : valid S pk key j = true := by simpa using hvalid
      split
      · rename_i hrunning
        exact (recoverExpired_follows hmet hvalid hrunning).bind (fun _ _ _ _ => nofun)
          fun _ e _ hr _ _ => hr e rfl
      · refine (claim_follows hmet hvalid).bind (fun H₁ o hH₁ hr => ?_)
          fun _ e _ hr _ _ => hr.2 e rfl
        cases o with
        | none => exact nofun
        | some a =>
          obtain ⟨hqueued, ha, hclaimed⟩ := hr.1 a rfl
          exact (executeJob_follows (hmet.mono hH₁) hvalid hqueued ha hclaimed).bind
            (fun _ _ _ _ => nofun) fun _ e _ hr _ _ => hr e rfl

theorem processJob_follows (hmet : Met H pk key j) :
    Follows S (.scan cursors) (fun _ _ => True) H (processJob S pk key j) := by
  unfold processJob
  refine Follows.bind (T := fun H' r => ∀ e, r = .ok (.error e) → Cause S H' pk key j)
    (obeys_attempt.mpr ((tryJob_follows hmet).mono (fun _ _ h => h) ?_))
    (fun H' r hH hr => ?_) fun _ _ _ _ => trivial
  · exact fun _ r hr e he => hr e (Except.ok.inj he)
  split
  · trivial
  · rename_i e
    exact (rejectInvalid_follows (hmet.mono hH) (hr e rfl)).bind (fun _ _ _ _ => trivial)
      fun _ _ _ _ => trivial

theorem processItems_follows : ∀ {items : List (Key × Job)} {H : CallHistory},
    (∀ item ∈ items, Met H pk item.1 item.2) →
      Follows S (.scan cursors) (fun _ _ => True) H (processItems S pk items)
  | [], _, _ => trivial
  | (key, j) :: items, H, hmet => by
    refine (processJob_follows (hmet _ List.mem_cons_self)).bind (fun H₁ _ hH₁ _ => ?_)
      fun _ _ _ _ => trivial
    refine (processItems_follows fun item hitem => ?_).bind (fun _ _ _ _ => trivial)
      fun _ _ _ _ => trivial
    exact (hmet item (List.mem_cons_of_mem _ hitem)).mono hH₁

theorem processPages_follows : ∀ {pages : Nat} {cursor : Option Key} {H : CallHistory},
    Follows S (.scan cursors) (fun _ _ => True) H (processPages S pk pages cursor)
  | 0, _, _ => trivial
  | pages + 1, cursor, H => by
    unfold processPages
    refine obeys_perform trivial fun r => obeys_lift (fun page hpage => ?_) fun _ => trivial
    have hqueried : wasQueried pk cursor page ∈ H ++ [⟨.query pk cursor, r⟩] := by
      cases r with
      | error e => exact nomatch hpage
      | ok page' =>
        obtain rfl := Except.ok.inj hpage
        exact mem_last
    refine (processItems_follows fun item hitem => ⟨cursor, page, hqueried, hitem⟩).bind
      (fun H₁ _ hH₁ _ => ?_) fun _ _ _ _ => trivial
    split
    · trivial
    · exact processPages_follows.bind (fun _ _ _ _ => trivial) fun _ _ _ _ => trivial

/-- **What a scan does is allowed.** -/
theorem processOnce_follows :
    Follows S (.scan cursors) (fun _ _ => True) [] (processOnce S cursors) := by
  refine processPages_follows.bind (fun H₁ _ _ _ => ?_) fun _ _ _ _ => trivial
  exact processPages_follows.bind (fun _ _ _ _ => trivial) fun _ _ _ _ => trivial

end Adapter

/-- **What a program does is allowed.** -/
theorem program_follows (S : Settings) (work : Work) :
    Follows S work (fun _ _ => True) [] (work.program S) := by
  cases work with
  | scan cursors =>
    exact processOnce_follows.bind (fun _ _ _ _ => trivial) fun _ _ _ _ => trivial
  | gateway jobId request =>
    exact execute_obeys.bind (fun _ _ _ _ => trivial) fun _ _ _ _ => trivial

/-- The programs, before any of them has done anything. -/
def Work.start {ι : Type} (S : Settings) (works : ι → Work) (s : World) :
    Pool ι World Call Call.Reply Fault Unit :=
  Pool.start s fun i => (works i).program S

end Jobs
