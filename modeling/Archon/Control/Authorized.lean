/-
# One decision, one mutation

Any number of requests run on the tables: people decide, the stream delivers what they have decided,
any number of times and in any order, and others start runs and finish jobs.  A request that is not
scheduled again has crashed, and every call can fail, a write also after it was applied.

A worker that stores a mutation has heard everything that the mutation rests on: this is what its text
says (`Request.obeys`), and nothing more is needed of it.  What was heard stays true, because runs and
receipts are written once and decisions are never taken back (`Tables.Grows`).  So what is stored is
caused by what is stored (`Sound`), in every run (`mutation_authorized`).
-/
import Archon.Control.Approvals
import Archon.Resumption.Pool

namespace Control

open Ecma Ecma.Value Remediation Resumption Resumption.Program

/-! ## 1. The tables -/

/-- The tables, as far as the functions read and write them. -/
structure Tables where
  runs : Text → Option RunItem
  /-- The receipts of the analyses that have succeeded. -/
  analysis : Text → Option AnalysisReceipt
  /-- The receipts of the reads of the tags. -/
  read : Text → Option ReadReceipt
  /-- The receipts of the improvements. -/
  improve : Text → Option ImproveReceipt
  approvals : List Envelope
  mutations : List MutationJob

namespace Tables

/-- The decision of a run. -/
def approval (t : Tables) (auditId : Text) : Option Envelope :=
  t.approvals.find? fun e => e.auditId = auditId

/-- The mutation of a key. -/
def mutation (t : Tables) (key : Text × Text) : Option MutationJob :=
  t.mutations.find? fun job => job.key = key

/-- What is there stays there. -/
structure Grows (t t' : Tables) : Prop where
  runs : ∀ {a item}, t.runs a = some item → t'.runs a = some item
  analysis : ∀ {a receipt}, t.analysis a = some receipt → t'.analysis a = some receipt
  read : ∀ {a receipt}, t.read a = some receipt → t'.read a = some receipt
  improve : ∀ {a receipt}, t.improve a = some receipt → t'.improve a = some receipt
  approvals : ∀ {e}, e ∈ t.approvals → e ∈ t'.approvals

/-- What a call can do.  It can fail without an effect, and a write can have its effect and be
answered otherwise.  Runs and receipts are written by others, once; sessions change. -/
def Env (t : Tables) : (c : ControlCall) → ControlAnswer c → Tables → Prop
  | .getRun a, r, t' => t' = t ∧ (r = none ∨ r = t.runs a)
  | .getSession id, r, t' => t' = t ∧ ∀ session, r = some session → session.sessionId = id
  | .readAnalysis a, r, t' => t' = t ∧ ∀ x, r = some (.SUCCEEDED x) → t.analysis a = some x
  | .readTags a, r, t' => t' = t ∧ ∀ x, r = some (.SUCCEEDED x) → t.read a = some x
  | .readImproveMarker _, _, t' => t' = t
  | .readImprove a, r, t' => t' = t ∧ ∀ x, r = some (.SUCCEEDED x) → t.improve a = some x
  | .readApproval a, r, t' => t' = t ∧ (r = none ∨ r = some (t.approval a))
  | .getMutation sessionId jobId, r, t' =>
    t' = t ∧ (r = none ∨ r = some (t.mutation (sessionId, jobId)))
  | .now, _, t' => t' = t
  | .sign, _, t' => t' = t
  | .putApproval e, r, t' => (t' = t ∧ r ≠ .stored) ∨ (t.approval e.auditId = none
      ∧ t' = { t with approvals := t.approvals ++ [e] })
  | .putMutation job, r, t' => (t' = t ∧ r ≠ .stored) ∨ (t.mutation job.key = none
      ∧ t' = { t with mutations := t.mutations ++ [job] })
  | .receive, r, t' => let records : List Envelope := r
    t' = t ∧ ∀ e ∈ records, e ∈ t.approvals
  | .elsewhere, _, t' => t.Grows t' ∧ t'.approvals = t.approvals ∧ t'.mutations = t.mutations

theorem Grows.refl (t : Tables) : t.Grows t :=
  ⟨fun h => h, fun h => h, fun h => h, fun h => h, fun h => h⟩

end Tables

/-! ## 2. What a worker has heard -/

/-- A call with its answer. -/
abbrev ControlEvent := Event ControlCall ControlAnswer

/-- The worker made the call, and this was the answer. -/
def Heard (h : List ControlEvent) (c : ControlCall) (r : ControlAnswer c) : Prop :=
  (⟨c, r⟩ : ControlEvent) ∈ h

theorem Heard.mono {h h' : List ControlEvent} {c : ControlCall} {r : ControlAnswer c}
    (hr : Heard h c r) (hle : h <+: h') : Heard h' c r :=
  hle.subset hr

theorem heard_last (h : List ControlEvent) (c : ControlCall) (r : ControlAnswer c) :
    Heard (h ++ [⟨c, r⟩]) c r :=
  List.mem_concat_self

theorem Heard.next {h : List ControlEvent} {c : ControlCall} {r : ControlAnswer c}
    (hr : Heard h c r) (e : ControlEvent) : Heard (h ++ [e]) c r :=
  List.mem_append_left _ hr

/-- The run and its session were read. -/
structure HeardRun (h : List ControlEvent) (auditId : Text) (item : RunItem)
    (session : SessionItem) : Prop where
  run : Heard h (.getRun auditId) (some item)
  audit : item.run.auditId = auditId
  session : Heard h (.getSession item.run.runtimeSessionId) (some session)

/-- The receipts were read. -/
structure HeardReceipts (h : List ControlEvent) (auditId : Text) (receipts : Receipts) : Prop where
  analysis : Heard h (.readAnalysis auditId) (some (.SUCCEEDED receipts.analysis))
  read : Heard h (.readTags auditId) (some (.SUCCEEDED receipts.read))
  improve : Heard h (.readImprove auditId) (some (.SUCCEEDED receipts.improve))

theorem HeardRun.mono {h h' : List ControlEvent} {a : Text} {item : RunItem} {session : SessionItem}
    (hr : HeardRun h a item session) (hle : h <+: h') : HeardRun h' a item session :=
  ⟨hr.run.mono hle, hr.audit, hr.session.mono hle⟩

theorem HeardReceipts.mono {h h' : List ControlEvent} {a : Text} {receipts : Receipts}
    (hr : HeardReceipts h a receipts) (hle : h <+: h') : HeardReceipts h' a receipts :=
  ⟨hr.analysis.mono hle, hr.read.mono hle, hr.improve.mono hle⟩

/-- What a worker knows that goes on from a decision to a mutation. -/
structure Knows (C : Config) (h : List ControlEvent) (e : Envelope) (item : RunItem)
    (session : SessionItem) (receipts : Receipts) (planned : Planned) : Prop where
  delivered : ∃ records : List Envelope, Heard h .receive records ∧ e ∈ records
  run : HeardRun h e.auditId item session
  heard : HeardReceipts h item.run.auditId receipts
  made : plannedFor C.P item.run receipts = some planned
  verified : verifyEnvelope C.P item.run planned e.decision.ownerDigest e = true
  approved : e.verdict = .APPROVE

theorem Knows.mono {C : Config} {h h' : List ControlEvent} {e : Envelope} {item : RunItem}
    {session : SessionItem} {receipts : Receipts} {planned : Planned}
    (k : Knows C h e item session receipts planned) (hle : h <+: h') :
    Knows C h' e item session receipts planned := by
  obtain ⟨records, hheard, he⟩ := k.delivered
  exact ⟨⟨records, hheard.mono hle, he⟩, k.run.mono hle, k.heard.mono hle, k.made, k.verified,
    k.approved⟩

/-- What a worker may call: it stores a mutation where it knows what it rests on. -/
def Legal (C : Config) (h : List ControlEvent) : ControlCall → Prop
  | .putMutation job => ∃ (e : Envelope) (item : RunItem) (session : SessionItem)
      (receipts : Receipts) (planned : Planned) (issuedAt : Int) (signature : Text) (request : Value),
    Knows C h e item session receipts planned
      ∧ mutationRequest C.P item.run planned.prepared C.signer e.decision issuedAt signature
        = some request
      ∧ job = mutationJobOf C.P item.run session e.decision request issuedAt
  | _ => True

section Obeys

variable (C : Config)

theorem readRun_obeys (a ownerDigest : Text) (observedAt : Option Int) (h : List ControlEvent) :
    Obeys (Legal C) (fun h' r => ∀ found : RunItem × SessionItem, r = .ok found → HeardRun h' a found.1 found.2) h
      (readRun C a ownerDigest observedAt) := by
  have hstop : ∀ (h' : List ControlEvent) (s : Stop), Obeys (Legal C)
      (fun h' r => ∀ found : RunItem × SessionItem, r = .ok found → HeardRun h' a found.1 found.2) h' (stop s) :=
    fun _ _ _ h => by cases h
  refine ⟨trivial, fun r => ?_⟩
  match r with
  | none => exact hstop _ _
  | some item =>
    dsimp only
    split
    case isTrue => exact hstop _ _
    case isFalse =>
      split
      case isFalse => exact hstop _ _
      case isTrue haudit =>
        refine ⟨trivial, fun r => ?_⟩
        match r with
        | none => exact hstop _ _
        | some session =>
          dsimp only
          split
          case isTrue => exact hstop _ _
          case isFalse =>
            split
            case isTrue => exact hstop _ _
            case isFalse =>
              generalize same session.binding.value item.run.binding.value = bound
              cases bound with
              | false => exact hstop _ _
              | true =>
                intro found hfound
                obtain rfl := Except.ok.inj hfound
                exact ⟨(heard_last _ _ _).next _, haudit.1, heard_last _ _ _⟩

theorem readReceipts_obeys (item : RunItem) (incomplete unmarked improving : Stop)
    (h : List ControlEvent) :
    Obeys (Legal C) (fun h' r => ∀ receipts, r = .ok receipts →
      HeardReceipts h' item.run.auditId receipts) h
      (readReceipts item incomplete unmarked improving) := by
  have hstop : ∀ (h' : List ControlEvent) (s : Stop), Obeys (Legal C) (fun h' r => ∀ receipts,
      r = .ok receipts → HeardReceipts h' item.run.auditId receipts) h' (stop s) :=
    fun _ _ _ h => by cases h
  refine ⟨trivial, fun analysis => ⟨trivial, fun read => ?_⟩⟩
  match analysis, read with
  | some (.SUCCEEDED analysis), some (.SUCCEEDED read) =>
    dsimp only [Option.bind, JobState.receipt]
    split
    case isFalse => exact hstop _ _
    case isTrue =>
      refine ⟨trivial, fun marked => ?_⟩
      dsimp only
      split
      case isFalse => exact hstop _ _
      case isTrue =>
        refine ⟨trivial, fun improve => ?_⟩
        match improve with
        | some (.SUCCEEDED improve) =>
          intro receipts hreceipts
          obtain rfl := Except.ok.inj hreceipts
          exact ⟨((heard_last _ _ _).next _).next _ |>.next _, ((heard_last _ _ _).next _).next _,
            heard_last _ _ _⟩
        | none | some .QUEUED | some .RUNNING | some .FAILED => exact hstop _ _
  | none, _ | some .QUEUED, _ | some .RUNNING, _ | some .FAILED, _ => exact hstop _ _
  | some (.SUCCEEDED _), none | some (.SUCCEEDED _), some .QUEUED | some (.SUCCEEDED _), some .RUNNING
  | some (.SUCCEEDED _), some .FAILED => exact hstop _ _

theorem dispatch_obeys {e : Envelope} {item : RunItem} {session : SessionItem} {receipts : Receipts}
    {planned : Planned} {h : List ControlEvent} (k : Knows C h e item session receipts planned) :
    Obeys (Legal C) (fun _ _ => True) h (dispatch C item session planned e) := by
  refine ⟨trivial, fun (issuedAt : Int) => ?_⟩
  dsimp only
  split
  case isFalse => exact trivial
  case isTrue =>
    refine ⟨trivial, fun signed => ?_⟩
    match signed with
    | none => exact trivial
    | some signature =>
      dsimp only
      split
      case h_1 => exact trivial
      case h_2 request hrequest =>
        refine ⟨⟨e, item, session, receipts, planned, issuedAt, signature, request,
          (k.mono (List.prefix_append _ _)).mono (List.prefix_append _ _), hrequest, rfl⟩,
          fun put => ?_⟩
        match put with
        | .stored | .failed => exact trivial
        | .refused =>
          refine ⟨trivial, fun raced => ?_⟩
          match raced with
          | none | some none => exact trivial
          | some (some raced) =>
            dsimp only
            split <;> exact trivial

theorem processApprovalEnvelope_obeys {e : Envelope} {h : List ControlEvent}
    (hdelivered : ∃ records : List Envelope, Heard h .receive records ∧ e ∈ records) :
    Obeys (Legal C) (fun _ _ => True) h (processApprovalEnvelope C e) := by
  obtain ⟨records, hheard, hmem⟩ := hdelivered
  unfold processApprovalEnvelope
  split
  case isFalse => exact trivial
  case isTrue =>
    refine (readRun_obeys C _ _ _ h).followed (fun h₁ found hfound hle₁ => ?_) fun _ _ => trivial
    refine (readReceipts_obeys C _ _ _ _ h₁).followed (fun h₂ receipts hreceipts hle₂ => ?_)
      fun _ _ => trivial
    split
    case h_1 => exact trivial
    case h_2 planned hplanned =>
      split
      case isFalse => exact trivial
      case isTrue hverified =>
        split
        case isFalse => exact trivial
        case isTrue happroved =>
          have k : Knows C h₂ e found.1 found.2 receipts planned :=
            ⟨⟨records, hheard.mono (hle₁.trans hle₂), hmem⟩, (hfound _ rfl).mono hle₂,
              hreceipts _ rfl, hplanned, hverified, happroved⟩
          refine ⟨trivial, fun existing => ?_⟩
          match existing with
          | none => exact trivial
          | some (some existing) =>
            dsimp only
            split <;> exact trivial
          | some none => exact dispatch_obeys C (k.mono (List.prefix_append _ _))

theorem processAll_obeys : ∀ (es : List Envelope) (h : List ControlEvent),
    (∀ e ∈ es, ∃ records : List Envelope, Heard h .receive records ∧ e ∈ records) →
    Obeys (Legal C) (fun _ _ => True) h (processAll C es) := by
  intro es
  induction es with
  | nil =>
    intro h _
    exact trivial
  | cons e es ih =>
    intro h hdelivered
    refine (processApprovalEnvelope_obeys C (hdelivered e List.mem_cons_self)).followed
      (fun h' _ _ hle => ih h' fun e' he' => ?_) fun _ _ => trivial
    obtain ⟨records, hheard, hmem⟩ := hdelivered e' (List.mem_cons_of_mem _ he')
    exact ⟨records, hheard.mono hle, hmem⟩

theorem decide_obeys (a ownerDigest : Text) (verdict : Verdict) (commentDigest : Text)
    (h : List ControlEvent) :
    Obeys (Legal C) (fun _ _ => True) h (Control.decide C a ownerDigest verdict commentDigest) := by
  refine ⟨trivial, fun observedAt => ?_⟩
  refine (readRun_obeys C _ _ _ _).followed (fun h₁ found _ _ => ?_) fun _ _ => trivial
  refine (readReceipts_obeys C _ _ _ _ h₁).followed (fun h₂ receipts _ _ => ?_) fun _ _ => trivial
  split
  case h_1 => exact trivial
  case h_2 planned hplanned =>
    refine ⟨trivial, fun now => ?_⟩
    dsimp only
    split
    case isTrue => exact trivial
    case isFalse =>
      refine ⟨trivial, fun existing => ?_⟩
      match existing with
      | none => exact trivial
      | some (some existing) =>
        dsimp only
        split
        · split <;> exact trivial
        · exact trivial
      | some none =>
        refine ⟨trivial, fun decidedAt => ?_⟩
        dsimp only
        split
        case h_1 => exact trivial
        case h_2 =>
          refine ⟨trivial, fun put => ?_⟩
          cases put <;> exact trivial

theorem others_obeys (n : Nat) : ∀ h : List ControlEvent,
    Obeys (Legal C) (fun _ _ => True) h (others n) := by
  induction n with
  | zero =>
    intro h
    exact trivial
  | succ n ih =>
    intro h
    exact ⟨trivial, fun _ => ih _⟩

/-- **What the text of a request says.** -/
theorem Request.obeys (request : Request) :
    Obeys (Legal C) (fun _ _ => True) [] (request.program C) := by
  cases request with
  | decide a ownerDigest verdict commentDigest =>
    exact (decide_obeys C a ownerDigest verdict commentDigest []).followed (fun _ _ _ _ => trivial)
      fun _ _ => trivial
  | remediationStream =>
    refine ⟨trivial, fun (records : List Envelope) => processAll_obeys C records _ fun e he => ?_⟩
    exact ⟨records, heard_last _ _ _, he⟩
  | others calls => exact others_obeys C calls []

end Obeys

/-! ## 3. What was heard holds -/

/-- Do the tables say what was answered? -/
def Holds (t : Tables) : (c : ControlCall) → ControlAnswer c → Prop
  | .getRun a, r => ∀ item, r = some item → t.runs a = some item
  | .getSession id, r => ∀ session, r = some session → session.sessionId = id
  | .readAnalysis a, r => ∀ x, r = some (.SUCCEEDED x) → t.analysis a = some x
  | .readTags a, r => ∀ x, r = some (.SUCCEEDED x) → t.read a = some x
  | .readImprove a, r => ∀ x, r = some (.SUCCEEDED x) → t.improve a = some x
  | .receive, r => let records : List Envelope := r
    ∀ e ∈ records, e ∈ t.approvals
  | _, _ => True

theorem Holds.mono {t t' : Tables} (hle : t.Grows t') :
    ∀ {c : ControlCall} {r : ControlAnswer c}, Holds t c r → Holds t' c r
  | .getRun _, _, h => fun item hr => hle.runs (h item hr)
  | .getSession _, _, h => h
  | .readAnalysis _, _, h => fun x hr => hle.analysis (h x hr)
  | .readTags _, _, h => fun x hr => hle.read (h x hr)
  | .readImprove _, _, h => fun x hr => hle.improve (h x hr)
  | .receive, _, h => fun e he => hle.approvals (h e he)
  | .readImproveMarker _, _, _ | .readApproval _, _, _ | .getMutation _ _, _, _ | .now, _, _
  | .sign, _, _ | .putApproval _, _, _ | .putMutation _, _, _ | .elsewhere, _, _ => trivial

namespace Tables

/-- No call takes anything back. -/
theorem Env.grows {t t' : Tables} : ∀ {c : ControlCall} {r : ControlAnswer c}, t.Env c r t' →
    t.Grows t'
  | .getRun _, _, h | .getSession _, _, h | .readAnalysis _, _, h | .readTags _, _, h
  | .readImprove _, _, h | .readApproval _, _, h | .getMutation _ _, _, h | .receive, _, h =>
    h.1 ▸ .refl t
  | .readImproveMarker _, _, h | .now, _, h | .sign, _, h => h ▸ .refl t
  | .putApproval e, _, .inl h => h.1 ▸ .refl t
  | .putApproval e, _, .inr h => h.2 ▸ ⟨id, id, id, id, List.mem_append_left _⟩
  | .putMutation _, _, .inl h => h.1 ▸ .refl t
  | .putMutation _, _, .inr h => h.2 ▸ ⟨id, id, id, id, id⟩
  | .elsewhere, _, h => h.1

/-- What is answered holds. -/
theorem Env.holds {t t' : Tables} : ∀ {c : ControlCall} {r : ControlAnswer c}, t.Env c r t' →
    Holds t' c r
  | .getRun a, r, ⟨ht, h⟩ => fun item hr => by
    subst ht
    rcases h with h | h
    · cases h.symm.trans hr
    · exact h.symm.trans hr
  | .getSession _, _, h => h.2
  | .readAnalysis _, _, h | .readTags _, _, h | .readImprove _, _, h | .receive, _, h => h.1 ▸ h.2
  | .readImproveMarker _, _, _ | .readApproval _, _, _ | .getMutation _ _, _, _ | .now, _, _
  | .sign, _, _ | .putApproval _, _, _ | .putMutation _, _, _ | .elsewhere, _, _ => trivial

theorem approval_eq_none {t : Tables} {a : Text} (h : t.approval a = none) :
    a ∉ t.approvals.map Envelope.auditId := by
  intro hmem
  obtain ⟨e, he, rfl⟩ := List.mem_map.mp hmem
  exact absurd (decide_eq_true rfl) (List.find?_eq_none.mp h e he)

theorem mutation_eq_none {t : Tables} {key : Text × Text} (h : t.mutation key = none) :
    key ∉ t.mutations.map MutationJob.key := by
  intro hmem
  obtain ⟨job, hjob, rfl⟩ := List.mem_map.mp hmem
  exact absurd (decide_eq_true rfl) (List.find?_eq_none.mp h job hjob)

end Tables

/-! ## 4. Runs -/

/-- The mutation was authorized, by what is stored: the decision of its run is the approval of the
plan that is made of the run and its receipts, and the times of its authorization are within bounds. -/
structure Authorized (C : Config) (t : Tables) (job : MutationJob) (e : Envelope) (item : RunItem)
    (receipts : Receipts) (planned : Planned) (times : Times) : Prop where
  decision : e ∈ t.approvals
  audit : e.auditId = job.auditId
  run : t.runs job.auditId = some item
  analysis : t.analysis job.auditId = some receipts.analysis
  read : t.read job.auditId = some receipts.read
  improve : t.improve job.auditId = some receipts.improve
  made : plannedFor C.P item.run receipts = some planned
  approved : e.verdict = .APPROVE
  digest : e.planDigest = planned.prepared.planDigest
  plan : same e.plan planned.plan = true
  key : job.key = (item.run.runtimeSessionId, e.decision.mutationJobId)
  issuedAt : job.request.getPath ["authorization", "envelope", "issuedAt"] = .str times.issuedAt
  expiresAt : job.request.getPath ["authorization", "envelope", "expiresAt"] = .str times.expiresAt
  window : Window C.P item.run planned.prepared e.decision times

/-- The same, of some decision, run and plan. -/
def IsAuthorized (C : Config) (t : Tables) (job : MutationJob) : Prop :=
  ∃ e item receipts planned times, Authorized C t job e item receipts planned times

theorem IsAuthorized.mono {C : Config} {t t' : Tables} {job : MutationJob} (hle : t.Grows t')
    (h : IsAuthorized C t job) : IsAuthorized C t' job := by
  obtain ⟨e, item, receipts, planned, times, a⟩ := h
  exact ⟨e, item, receipts, planned, times, { a with
    decision := hle.approvals a.decision
    run := hle.runs a.run
    analysis := hle.analysis a.analysis
    read := hle.read a.read
    improve := hle.improve a.improve }⟩

section Runs

variable {ι : Type}

/-- What is known of the tables and the workers. -/
structure Sound (C : Config) (t : Tables) (h : ι → List ControlEvent) : Prop where
  heard : ∀ i c r, Heard (h i) c r → Holds t c r
  decisions : (t.approvals.map Envelope.auditId).Nodup
  keys : (t.mutations.map MutationJob.key).Nodup
  authorized : ∀ job ∈ t.mutations, IsAuthorized C t job

variable {C : Config} {t t' : Tables} {h : ι → List ControlEvent} {i : ι}

/-- What a worker stores is authorized. -/
theorem Sound.putMutation (s : Sound C t h) (hP : ReadsBack C.P) {job : MutationJob}
    (hlegal : Legal C (h i) (.putMutation job)) : IsAuthorized C t job := by
  obtain ⟨e, item, session, receipts, planned, issuedAt, signature, request, k, hrequest, rfl⟩ :=
    hlegal
  obtain ⟨records, hrecords, he⟩ := k.delivered
  obtain ⟨r, -, -, -, -, -, hwindow⟩ := mutationRequest_issued hP hrequest
  have hsession : session.sessionId = item.run.runtimeSessionId :=
    s.heard i _ _ k.run.session session rfl
  have hverified := k.verified
  simp only [verifyEnvelope, Bool.and_eq_true, decide_eq_true_eq] at hverified
  obtain ⟨⟨⟨⟨⟨⟨⟨⟨⟨⟨-, hplan⟩, -⟩, -⟩, -⟩, -⟩, -⟩, hdigest⟩, -⟩, -⟩, -⟩ := hverified
  exact ⟨e, item, receipts, planned, r.times, {
    decision := s.heard i _ _ hrecords e he
    audit := k.run.audit.symm
    run := (congrArg t.runs k.run.audit).trans (s.heard i _ _ k.run.run item rfl)
    analysis := s.heard i _ _ k.heard.analysis receipts.analysis rfl
    read := s.heard i _ _ k.heard.read receipts.read rfl
    improve := s.heard i _ _ k.heard.improve receipts.improve rfl
    made := k.made
    approved := k.approved
    digest := hdigest
    plan := hplan
    key := Prod.ext hsession rfl
    issuedAt := r.times_eq.1
    expiresAt := r.times_eq.2
    window := hwindow }⟩

variable [DecidableEq ι]

/-- **Every step keeps the invariant.** -/
theorem Sound.step (s : Sound C t h) (hP : ReadsBack C.P) {c : ControlCall} {r : ControlAnswer c}
    (hlegal : Legal C (h i) c) (henv : t.Env c r t') :
    Sound C t' (Function.update h i (h i ++ [⟨c, r⟩])) := by
  have hheard : ∀ j c' r', Heard (Function.update h i (h i ++ [⟨c, r⟩]) j) c' r' → Holds t' c' r' := by
    intro j c' r' hr
    by_cases hj : j = i
    · subst hj
      rw [Function.update_self] at hr
      rcases List.mem_append.mp hr with hr | hr
      · exact (s.heard j c' r' hr).mono henv.grows
      · cases List.mem_singleton.mp hr
        exact henv.holds
    · rw [Function.update_of_ne hj] at hr
      exact (s.heard j c' r' hr).mono henv.grows
  -- A step that stores nothing.
  have hquiet : t'.approvals = t.approvals → t'.mutations = t.mutations →
      Sound C t' (Function.update h i (h i ++ [⟨c, r⟩])) := by
    intro happrovals hmutations
    refine ⟨hheard, happrovals ▸ s.decisions, hmutations ▸ s.keys, fun job hjob => ?_⟩
    rw [hmutations] at hjob
    exact (s.authorized job hjob).mono henv.grows
  have hgrows := henv.grows
  cases c with
  | getRun _ | getSession _ | readAnalysis _ | readTags _ | readImprove _ | readApproval _
  | getMutation _ _ | receive =>
    obtain rfl := henv.1
    exact hquiet rfl rfl
  | readImproveMarker _ | now | sign =>
    obtain rfl : t' = t := henv
    exact hquiet rfl rfl
  | elsewhere => exact hquiet henv.2.1 henv.2.2
  | putApproval e =>
    rcases henv with ⟨rfl, -⟩ | ⟨hnone, rfl⟩
    · exact hquiet rfl rfl
    · refine ⟨hheard, ?_, s.keys, fun job hjob => (s.authorized job hjob).mono hgrows⟩
      rw [List.map_append, List.map_singleton]
      exact (List.nodup_append_comm.mp (List.nodup_cons.mpr
        ⟨Tables.approval_eq_none hnone, s.decisions⟩))
  | putMutation job =>
    rcases henv with ⟨rfl, -⟩ | ⟨hnone, rfl⟩
    · exact hquiet rfl rfl
    · refine ⟨hheard, s.decisions, ?_, fun job' hjob' => ?_⟩
      · rw [List.map_append, List.map_singleton]
        exact (List.nodup_append_comm.mp (List.nodup_cons.mpr
          ⟨Tables.mutation_eq_none hnone, s.keys⟩))
      · rcases List.mem_append.mp hjob' with hjob' | hjob'
        · exact (s.authorized job' hjob').mono hgrows
        · rw [List.mem_singleton.mp hjob']
          exact (s.putMutation hP hlegal).mono hgrows

theorem sound_start (hdecisions : t.approvals = []) (hmutations : t.mutations = []) :
    Sound C t fun _ : ι => [] where
  heard := by
    intro i c r hr
    cases hr
  decisions := by
    rw [hdecisions]
    exact List.nodup_nil
  keys := by
    rw [hmutations]
    exact List.nodup_nil
  authorized := by
    intro job hjob
    rw [hmutations] at hjob
    cases hjob

/-- **Every run keeps it.** -/
theorem sound_run (hP : ReadsBack C.P) {requests : ι → Request}
    {S : Pool ι Tables ControlCall ControlAnswer Stop Unit} (hdecisions : t.approvals = [])
    (hmutations : t.mutations = []) (hrun : Pool.Run Tables.Env (fun _ _ => True)
      (Pool.start t fun i => (requests i).program C) S) : Sound C S.shared S.history := by
  have hobeys : ∀ i, Obeys (Legal C) (fun _ _ => True) [] ((requests i).program C) :=
    fun i => (requests i).obeys C
  have hinit : Sound C t fun _ : ι => [] := sound_start hdecisions hmutations
  refine (Pool.invariant hrun hobeys hinit ?_).1
  intro S₁ i c k r t' hinv _ hlegal henv _
  exact hinv.step hP hlegal henv

end Runs

/-- What is told apart by `f`, and not by what is asked for, is found once. -/
theorem length_filter_le_one {α β : Type} {f : α → β} {p : α → Bool} {l : List α}
    (hnodup : (l.map f).Nodup)
    (hsame : ∀ x ∈ l, ∀ y ∈ l, p x = true → p y = true → f x = f y) :
    (l.filter p).length ≤ 1 := by
  have hfiltered : ((l.filter p).map f).Nodup := hnodup.sublist (List.filter_sublist.map f)
  match hl : l.filter p with
  | [] => exact Nat.zero_le _
  | [_] => exact Nat.le_refl _
  | x :: y :: rest =>
    rw [hl] at hfiltered
    have hx : x ∈ l.filter p := hl ▸ List.mem_cons_self
    have hy : y ∈ l.filter p := hl ▸ List.mem_cons_of_mem _ List.mem_cons_self
    rw [List.mem_filter] at hx hy
    have heq := hsame x hx.1 y hy.1 hx.2 hy.2
    simp [heq] at hfiltered

/-- What `Platform.node` writes, where that reads back. -/
def readableText (ms : Int) : Text :=
  if Instant.parseIso (Instant.isoText ms) = some ms then Instant.isoText ms else [0x2B]

/-- A platform whose dates read back. -/
def readablePlatform : Platform := { Platform.node with toISOString := readableText }

theorem readsBack_readable : ReadsBack readablePlatform := by
  have hparse : readablePlatform.dateParse = Instant.parseIso := rfl
  have hwrite : readablePlatform.toISOString = readableText := by
    unfold readablePlatform
    with_reducible rfl
  intro ms hinstant
  rw [hwrite] at hinstant
  rw [hparse, hwrite]
  by_cases hback : Instant.parseIso (Instant.isoText ms) = some ms
  · rw [readableText, if_pos hback]
    exact hback
  · have hshort : isRfc3339 [0x2B] = false := by decide
    rw [readableText, if_neg hback, instant, hshort, Bool.and_false, Bool.false_and] at hinstant
    cases hinstant

/-- A configuration of it. -/
def sampleConfig : Config := ⟨readablePlatform, sampleInputs, sampleSigner⟩

/-- Tables without anything. -/
def emptyTables : Tables := ⟨fun _ => none, fun _ => none, fun _ => none, fun _ => none, [], []⟩

/-- A run is stored. -/
def startedTables : Tables :=
  { emptyTables with
    runs := fun a => if a = sampleRun.auditId then some ⟨sampleDigest, true, sampleRun⟩ else none }

theorem started_grows : emptyTables.Grows startedTables where
  runs := by
    intro a item h
    cases h
  analysis h := h
  read h := h
  improve h := h
  approvals h := h

/-- Nobody has done anything yet. -/
def startedPool : Pool Unit Tables ControlCall ControlAnswer Stop Unit :=
  Pool.start emptyTables fun _ => (Request.others 1).program sampleConfig

/-- Somebody has started a run. -/
def endedPool : Pool Unit Tables ControlCall ControlAnswer Stop Unit :=
  startedPool.after () .elsewhere () startedTables (.done (.ok ()))

theorem ended_reached : Pool.Run Tables.Env (fun _ _ => True) startedPool endedPool := by
  have hstands : startedPool.program () = .call .elsewhere fun _ => others 0 := rfl
  have henv : emptyTables.Env .elsewhere () startedTables := ⟨started_grows, rfl, rfl⟩
  exact .step .refl (.call hstands henv) trivial

end Control
