/-
# The Lambdas at one table and one Step Functions

Any number of invocations of the two Lambdas.  `Service` is how their calls are answered: a read
tells the item as it is or fails, a write is applied or not as a conditional write is, and a
condition is only said to fail where it does, be it because the write was applied before; a token
ends once, by a call that Step Functions accepts or by a workflow that waits no longer.  A call that
was accepted may be answered with any error all the same.

What an invocation has done before a call is `Allowed`; `program_follows` is that it is so of every
call of both programs.
-/
import Archon.Callback.Handlers

namespace Callback

open Ecma Ecma.Value Remediation Resumption Resumption.Program

/-! ## 1. The services -/

/-- The token has not ended. -/
def World.Open (s : World) (token : Text) : Prop := ∀ ending, (token, ending) ∉ s.ended

/-- A token ends. -/
def World.finish (s : World) (token : Text) (ending : Ending) : World :=
  { s with ended := (token, ending) :: s.ended }

/-- What Step Functions answers where it is asked to end a token. -/
inductive Answered (s : World) (token : Text) (ending : Ending) :
    Except ServiceFault Unit → World → Prop
  | accepted (hopen : s.Open token) (r : Except ServiceFault Unit) :
      Answered s token ending r (s.finish token ending)
  | lapsed (hopen : s.Open token) :
      Answered s token ending (.error .taskEnded) (s.finish token .lapsed)
  | ended (hover : ¬ s.Open token) : Answered s token ending (.error .taskEnded) s
  | failed {e : ServiceFault} (he : e ≠ .taskEnded) : Answered s token ending (.error e) s

/-- What a call is answered, and what becomes of the world. -/
inductive Service : World → (e : Call) → e.Reply → World → Prop
  | clocks (s : World) (r : Call.Reply .clocks) : Service s .clocks r s
  | parseClock (s : World) (body : Text) (now : Int) : Service s (.parseClock body) now s
  | clock (s : World) (now : Int) : Service s .clock now s
  | read (s : World) (id : Text) : Service s (.read id) (.ok (s.approvals id)) s
  | unread (s : World) (id : Text) (e : ServiceFault) : Service s (.read id) (.error e) s
  | write {s s' : World} {w : ApprovalWrite} {r : Except ServiceFault Unit}
      (h : w.guarded.Outcome s r s')
      (hr : r = .error .conditional → w.condition (s'.approvals w.key) = false) :
      Service s (.write w) r s'
  | sendTaskSuccess {s s' : World} {token : Text} {output : Value} {r : Except ServiceFault Unit}
      (h : Answered s token (.success output) r s') :
      Service s (.sendTaskSuccess token output) r s'
  | sendTaskFailure {s s' : World} {token error cause : Text} {r : Except ServiceFault Unit}
      (h : Answered s token (.failure error cause) r s') :
      Service s (.sendTaskFailure token error cause) r s'
  | quarantine (s : World) (messageId bodyDigest failureCode createdAt : Text) (expiresAt : Int)
      (r : Except ServiceFault Unit) :
      Service s (.quarantine messageId bodyDigest failureCode createdAt expiresAt) r s

/-- The event of a read that told something. -/
def wasRead (id : Text) (found : Option Item) : Event Call Call.Reply :=
  ⟨.read id, (.ok found : Except ServiceFault (Option Item))⟩

/-- The event of two readings of the clock. -/
def hadClocks (r : Call.Reply .clocks) : Event Call Call.Reply := ⟨.clocks, r⟩

/-- The event of a reading of the clock for a body. -/
def hadParseClock (body : Text) (now : Int) : Event Call Call.Reply := ⟨.parseClock body, now⟩

/-- The event of a success that was answered so. -/
def wasSent (token : Text) (output : Value) (r : Except ServiceFault Unit) :
    Event Call Call.Reply := ⟨.sendTaskSuccess token output, r⟩

/-- The event of a write that was answered so. -/
def wasWritten (w : ApprovalWrite) (r : Except ServiceFault Unit) : Event Call Call.Reply :=
  ⟨.write w, r⟩

theorem Answered.approvals {s s' : World} {token : Text} {ending : Ending}
    {r : Except ServiceFault Unit} (h : Answered s token ending r s') :
    s'.approvals = s.approvals ∧ s'.applied = s.applied := by
  cases h <;> exact ⟨rfl, rfl⟩

/-- A step changes the table by a write, or it does not. -/
theorem Service.cases_write {s s' : World} {e : Call} {r : e.Reply} (h : Service s e r s') :
    (s'.approvals = s.approvals ∧ s'.applied = s.applied) ∨
      ∃ w, e = .write w ∧ w.condition (s.approvals w.key) = true ∧
        s' = s.withItem w.key (w.result (s.approvals w.key)) w := by
  cases h with
  | @write _ w _ hw _ =>
    cases hw with
    | applied hcondition => exact Or.inr ⟨w, rfl, hcondition, rfl⟩
    | refused => exact Or.inl ⟨rfl, rfl⟩
  | sendTaskSuccess hs => exact Or.inl hs.approvals
  | sendTaskFailure hs => exact Or.inl hs.approvals
  | _ => exact Or.inl ⟨rfl, rfl⟩

theorem Answered.ended_subset {s s' : World} {token : Text} {ending : Ending}
    {r : Except ServiceFault Unit} (h : Answered s token ending r s') : s.ended ⊆ s'.ended := by
  cases h with
  | accepted => exact List.subset_cons_self _ _
  | lapsed => exact List.subset_cons_self _ _
  | ended => exact List.Subset.refl _
  | failed => exact List.Subset.refl _

/-- What has ended stays so. -/
theorem Service.ended_subset {s s' : World} {e : Call} {r : e.Reply} (h : Service s e r s') :
    s.ended ⊆ s'.ended := by
  cases h with
  | write hw => cases hw <;> exact List.Subset.refl _
  | sendTaskSuccess hs => exact hs.ended_subset
  | sendTaskFailure hs => exact hs.ended_subset
  | _ => exact List.Subset.refl _

/-- What a read tells is the item. -/
theorem Service.of_read {s s' : World} {id : Text} {r : Except ServiceFault (Option Item)}
    (h : Service s (.read id) r s') : s' = s ∧ ∀ found, r = .ok found → found = s.approvals id := by
  cases h with
  | read => exact ⟨rfl, fun _ hf => (Except.ok.inj hf).symm⟩
  | unread => exact ⟨rfl, fun _ hf => nomatch hf⟩

/-- A success that is answered is accepted. -/
theorem Service.of_sent {s s' : World} {token : Text} {output : Value}
    (h : Service s (.sendTaskSuccess token output) (.ok ()) s') :
    (token, .success output) ∈ s'.ended := by
  cases h with
  | sendTaskSuccess hs =>
    cases hs with
    | accepted => exact List.mem_cons_self ..

/-! ## 2. What a call needs -/

/-- An invocation. -/
inductive Work where
  | decide (request : DecideRequest)
  | handoff (records : List QueueRecord)

/-- Its program. -/
def Work.program (P : Platform) : Work → Handler Unit
  | decide r => do
    let _ ← handleDecide P r
    return ()
  | handoff records => do
    let _ ← Callback.handoff P records
    return ()

/-- The item was found to be this one. -/
def Found (H : CallHistory) (id : Text) (item : Item) : Prop := wasRead id (some item) ∈ H

/-- The decision of the request, and of nobody else, was found to be stored, with the token. -/
structure Stored (P : Platform) (r : DecideRequest) (H : CallHistory) (d : Decided)
    (token : Text) : Prop where
  found : ∃ item, Found H r.approvalId item ∧ item.decided = some d ∧ item.taskToken = some token
  digest : d.decisionDigest = canonicalDigest P (decisionRecord r)
  subject : d.approverSub = r.subject
  issuer : d.approverIssuer = r.issuer

/-- The output that the request sends where this is stored. -/
def sentOutput (r : DecideRequest) (d : Decided) : Value :=
  outputOf r.approvalId r.decision r.subject r.issuer d.decidedAt

/-- The call reports a decision, or marks the approval after that. -/
def Call.callsBack : Call → Bool
  | sendTaskSuccess _ _ | write (.close _ _ _ _) | write (.deliver _ _ _ _) => true
  | _ => false

/-- Nothing has been reported. -/
def Silent (H : CallHistory) : Prop := ∀ ev ∈ H, ev.1.callsBack = false

/-- The callback lease was taken for the request. -/
def Leased (P : Platform) (r : DecideRequest) (H : CallHistory) (attemptId now : Text) : Prop :=
  ∃ nowEpoch, wasWritten (.attempt r.approvalId (canonicalDigest P (decisionRecord r)) attemptId now
    nowEpoch) (.ok ()) ∈ H

/-- All that has been reported is the decision, and this was the answer. -/
structure Reported (P : Platform) (r : DecideRequest) (H : CallHistory) (attemptId now : Text)
    (answer : Except ServiceFault Unit) (d : Decided) (token : Text) (H₀ : CallHistory) : Prop where
  silent : Silent H₀
  stored : Stored P r H₀ d token
  leased : Leased P r H₀ attemptId now
  last : H = H₀ ++ [wasSent token (sentOutput r d) answer]

/-- A record can not be taken: it does not parse at the reading of the clock, or it was not stored,
and what was then found under its approval was stored from another message. -/
def Refused (P : Platform) (r : QueueRecord) (H : CallHistory) (code : String) : Prop :=
  ∃ now, hadParseClock r.body now ∈ H ∧
    (parse P r.body now = .error (.terminal code) ∨
      ∃ m createdAt found H₁ H₂, parse P r.body now = .ok m ∧
        H = H₁ ++ wasRead m.approvalId found :: H₂ ∧
        wasWritten (.put m createdAt) (.error .conditional) ∈ H₁ ∧
        ∀ item, found = some item → sameBinding m item = true →
          item.status = .PENDING ∧ item.taskToken ≠ some m.taskToken)

/-- The calls that the work may make after its history. -/
def Allowed (P : Platform) (work : Work) (H : CallHistory) : Call → Prop
  | .write (.put m _) => ∃ records r now, work = .handoff records ∧ r ∈ records ∧
      hadParseClock r.body now ∈ H ∧ parse P r.body now = .ok m
  | .write (.decide id d _) => ∃ r readings item expires, work = .decide r ∧ id = r.approvalId ∧
      hadClocks readings ∈ H ∧ Found H id item ∧
      d = decidedOf P r item (P.toISOString readings.val.1) ∧
      P.dateParse item.approvalExpiresAt = some expires ∧ epoch readings.val.2 < epoch expires
  | .write (.attempt id digest attemptId now nowEpoch) => ∃ r readings d token,
      work = .decide r ∧ id = r.approvalId ∧ digest = canonicalDigest P (decisionRecord r) ∧
      Silent H ∧ Stored P r H d token ∧ hadClocks readings ∈ H ∧
      now = P.toISOString readings.val.1 ∧ nowEpoch = epoch readings.val.2 ∧
      attemptId = callbackAttemptId P r digest now
  | .write (.close id digest attemptId now) => ∃ r d token H₀, work = .decide r ∧
      id = r.approvalId ∧ digest = canonicalDigest P (decisionRecord r) ∧
      Reported P r H attemptId now (.error .taskEnded) d token H₀
  | .write (.deliver id digest attemptId now) => ∃ r d token H₀, work = .decide r ∧
      id = r.approvalId ∧ digest = canonicalDigest P (decisionRecord r) ∧
      Reported P r H attemptId now (.ok ()) d token H₀
  | .sendTaskSuccess token output => ∃ r d attemptId now, work = .decide r ∧ Silent H ∧
      Stored P r H d token ∧ Leased P r H attemptId now ∧ output = sentOutput r d
  | .sendTaskFailure token _ _ => ∃ records r code, work = .handoff records ∧ r ∈ records ∧
      recoverTaskToken r.body = some token ∧ Refused P r H code
  | _ => True

/-- Every call of the program is allowed. -/
abbrev Follows (P : Platform) (work : Work) (H : CallHistory) {α : Type} (p : Handler α) : Prop :=
  Obeys (Allowed P work) (fun _ _ => True) H p

section Follow

variable {P : Platform} {work : Work} {H : CallHistory} {α β : Type}

theorem Follows.send {e : Call} {f : e.Reply → Handler β} (he : Allowed P work H e)
    (hf : ∀ r, Follows P work (H ++ [⟨e, r⟩]) (f r)) : Follows P work H (send e >>= f) :=
  obeys_perform he hf

theorem Follows.lift {r : Except Fault α} {f : α → Handler β}
    (hf : ∀ a, r = .ok a → Follows P work H (f a)) : Follows P work H (lift r >>= f) :=
  obeys_lift hf fun _ => trivial

theorem Follows.read {id : Text} {f : Option Item → Handler β}
    (hf : ∀ found, Follows P work (H ++ [wasRead id found]) (f found)) :
    Follows P work H (readApproval id >>= f) := by
  refine ⟨trivial, fun r => ?_⟩
  cases r with
  | error e => trivial
  | ok found => exact hf found

theorem mem_last {ev : Event Call Call.Reply} : ev ∈ H ++ [ev] := List.mem_concat_self

theorem mem_before {ev ev' : Event Call Call.Reply} (h : ev ∈ H) : ev ∈ H ++ [ev'] :=
  List.mem_append_left _ h

theorem silent_nil : Silent [] := fun _ hev => nomatch hev

theorem Silent.grow {ev : Event Call Call.Reply} (h : Silent H) (hev : ev.1.callsBack = false) :
    Silent (H ++ [ev]) := by
  intro ev' hmem
  rcases List.mem_append.mp hmem with hmem | hmem
  · exact h ev' hmem
  · rw [List.mem_singleton.mp hmem]
    exact hev

theorem Stored.grow {r : DecideRequest} {d : Decided} {token : Text}
    {ev : Event Call Call.Reply} (h : Stored P r H d token) : Stored P r (H ++ [ev]) d token := by
  obtain ⟨⟨item, hfound, hitem⟩, hdigest, hsubject, hissuer⟩ := h
  exact ⟨⟨item, mem_before hfound, hitem⟩, hdigest, hsubject, hissuer⟩

/-! ### Deciding -/

variable {r : DecideRequest} {d : Decided} {token : Text} {readings : Call.Reply .clocks}

theorem callBack_follows {attemptId now : Text} (hsilent : Silent H)
    (hstored : Stored P r H d token) (hleased : Leased P r H attemptId now) :
    Follows P (.decide r) H (callBack P r token d.decidedAt attemptId now) := by
  unfold callBack
  refine .send ⟨r, d, attemptId, now, rfl, hsilent, hstored, hleased, rfl⟩ fun answer => ?_
  split
  · exact .send ⟨r, d, token, H, rfl, rfl, rfl, hsilent, hstored, hleased, rfl⟩
      fun _ => .lift fun _ _ => trivial
  · exact .send ⟨r, d, token, H, rfl, rfl, rfl, hsilent, hstored, hleased, rfl⟩
      fun _ => .lift fun _ _ => trivial
  · trivial

theorem attemptCallback_follows (hsilent : Silent H) (hstored : Stored P r H d token)
    (hclocks : hadClocks readings ∈ H) :
    Follows P (.decide r) H (attemptCallback P r token d.decidedAt
      (P.toISOString readings.val.1) (epoch readings.val.2)) := by
  unfold attemptCallback
  refine .send ⟨r, readings, d, token, rfl, rfl, rfl, hsilent, hstored, hclocks, rfl, rfl, rfl⟩
    fun answer => ?_
  split
  · exact callBack_follows (hsilent.grow rfl) hstored.grow ⟨_, mem_last⟩
  · refine .read fun found => ?_
    split <;> trivial
  · trivial

/-- What `decidedOtherwise` has seen to. -/
theorem stored_of_guard {evidenceDigest decidedAt : Text} {current : Option Item}
    (hread : ∀ item, current = some item → Found H r.approvalId item)
    (hguard : decidedOtherwise P r evidenceDigest current = false)
    (htoken : current.bind Item.taskToken = some token)
    (hdecided : (current.bind Item.decided).map Decided.decidedAt = some decidedAt) :
    ∃ d, Stored P r H d token ∧ d.decidedAt = decidedAt := by
  cases current with
  | none => exact absurd htoken (by simp)
  | some item =>
    obtain ⟨d, hd, rfl⟩ := Option.map_eq_some_iff.mp hdecided
    simp only [Option.bind_some] at hd htoken
    simp only [decidedOtherwise, Option.any_some, hd, Bool.not_eq_false', Bool.and_eq_true,
      decide_eq_true_eq] at hguard
    obtain ⟨-, ⟨⟨hdigest, -⟩, hsubject⟩, hissuer⟩ := hguard
    exact ⟨d, ⟨⟨item, hread item rfl, hd, htoken⟩, hdigest, hsubject, hissuer⟩, rfl⟩

theorem onDecided_follows {evidenceDigest : Text} {current : Option Item} (hsilent : Silent H)
    (hclocks : hadClocks readings ∈ H)
    (hread : ∀ item, current = some item → Found H r.approvalId item) :
    Follows P (.decide r) H (onDecided P r evidenceDigest (P.toISOString readings.val.1)
      (epoch readings.val.2) current) := by
  unfold onDecided
  split
  · trivial
  · rename_i hguard
    split
    · trivial
    · split
      · trivial
      · rename_i token htoken
        split
        · trivial
        · rename_i decidedAt hdecided
          obtain ⟨d, hstored, rfl⟩ :=
            stored_of_guard hread (Bool.eq_false_iff.mpr hguard) htoken hdecided
          split
          · trivial
          · split
            · trivial
            · exact attemptCallback_follows hsilent hstored hclocks

theorem recordDecision_follows {current : Item} {expires : Int} {f : Option Item → Handler β}
    (hclocks : hadClocks readings ∈ H) (hfound : Found H r.approvalId current)
    (hexpires : P.dateParse current.approvalExpiresAt = some expires)
    (htime : epoch readings.val.2 < epoch expires)
    (hf : ∀ w answer found, w = ApprovalWrite.decide r.approvalId
        (decidedOf P r current (P.toISOString readings.val.1))
        (epoch readings.val.2 + DECIDED_RETENTION_SECONDS) →
      Follows P (.decide r) ((H ++ [wasWritten w answer]) ++ [wasRead r.approvalId found])
        (f found)) :
    Follows P (.decide r) H (recordDecision P r current (P.toISOString readings.val.1)
      (epoch readings.val.2) >>= f) := by
  refine ⟨⟨r, readings, current, expires, rfl, rfl, hclocks, hfound, rfl, hexpires, htime⟩,
    fun answer => ?_⟩
  rcases answer with (_ | _ | _) | _
  · exact Follows.read fun found => hf _ (.error .conditional) found rfl
  · trivial
  · trivial
  · exact Follows.read fun found => hf _ (.ok ()) found rfl

theorem handleDecide_follows : Follows P (.decide r) [] (handleDecide P r) := by
  unfold handleDecide
  refine .send trivial fun readings => .read fun found => ?_
  cases found with
  | none => trivial
  | some current =>
    have hclocks : hadClocks readings ∈
        ([] ++ [⟨.clocks, readings⟩] ++ [wasRead r.approvalId (some current)] : CallHistory) :=
      mem_before mem_last
    have hsilent : Silent
        ([] ++ [⟨.clocks, readings⟩] ++ [wasRead r.approvalId (some current)]) :=
      (silent_nil.grow rfl).grow rfl
    simp only
    split
    · trivial
    · rename_i expires hexpires
      split
      · split
        · trivial
        · rename_i htime
          refine recordDecision_follows hclocks mem_last hexpires (not_le.mp htime) ?_
          rintro w answer found rfl
          refine onDecided_follows ((hsilent.grow rfl).grow rfl)
            (mem_before (mem_before hclocks)) ?_
          rintro item rfl
          exact mem_last
      · refine onDecided_follows hsilent hclocks ?_
        rintro item ⟨rfl⟩
        exact mem_last

/-! ### The hand-off -/

variable {records : List QueueRecord} {q : QueueRecord} {m : Message} {now : Int}

theorem Refused.grow {code : String} {ev : Event Call Call.Reply} (h : Refused P q H code) :
    Refused P q (H ++ [ev]) code := by
  obtain ⟨now, hclock, h | ⟨m, createdAt, found, H₁, H₂, hm, rfl, hput, hother⟩⟩ := h
  · exact ⟨now, mem_before hclock, Or.inl h⟩
  · exact ⟨now, mem_before hclock, Or.inr ⟨m, createdAt, found, H₁, H₂ ++ [ev], hm,
      List.append_assoc .., hput, hother⟩⟩

/-- What `persist` has seen of an approval that stands in its way. -/
theorem otherwise_of_conflict {found : Option Item}
    (h : ¬(found.any fun item => sameBinding m item
      && ((item.status = .PENDING && item.taskToken = some m.taskToken)
        || item.status = .DECIDED)) = true) (item : Item) (hitem : found = some item)
    (hsame : sameBinding m item = true) :
    item.status = .PENDING ∧ item.taskToken ≠ some m.taskToken := by
  subst hitem
  simp only [Option.any_some, hsame, Bool.true_and, Bool.or_eq_true, Bool.and_eq_true,
    decide_eq_true_eq, not_or, not_and] at h
  obtain ⟨htoken, hstatus⟩ := h
  cases hs : item.status with
  | PENDING => exact ⟨rfl, htoken hs⟩
  | DECIDED => exact absurd hs hstatus

/-- `persist` ends as `takeRecord` may. -/
theorem persist_obeys (hq : q ∈ records) (hclock : hadParseClock q.body now ∈ H)
    (hm : parse P q.body now = .ok m) :
    Obeys (Allowed P (.handoff records))
      (fun H' x => ∀ code, x = .error (.terminal code) → Refused P q H' code) H (persist P m) := by
  unfold persist
  refine obeys_perform trivial fun createdAt =>
    obeys_perform ⟨records, q, now, rfl, hq, mem_before hclock, hm⟩ fun answer => ?_
  rcases answer with (_ | _ | _) | _
  · refine ⟨trivial, fun r => ?_⟩
    rcases r with e | found
    · exact fun _ h => nomatch h
    · show Obeys _ _ _ (if _ then _ else _)
      split
      · exact fun _ h => nomatch h
      · rename_i hconflict
        exact fun _ _ => ⟨now, mem_before (mem_before (mem_before hclock)),
          Or.inr ⟨m, _, found, _, [], hm, rfl, mem_last, otherwise_of_conflict hconflict⟩⟩
  · exact fun _ h => nomatch h
  · exact fun _ h => nomatch h
  · exact fun _ h => nomatch h

theorem takeRecord_obeys (hq : q ∈ records) :
    Obeys (Allowed P (.handoff records))
      (fun H' x => ∀ code, x = .error (.terminal code) → Refused P q H' code) H
      (takeRecord P q) := by
  unfold takeRecord
  refine obeys_perform trivial fun now => ?_
  cases hm : parse P q.body now with
  | error e =>
    rintro code ⟨⟩
    exact ⟨now, mem_last, Or.inl hm⟩
  | ok m => exact persist_obeys hq mem_last hm

theorem failCallback_follows {code : String} (hq : q ∈ records) (hrefused : Refused P q H code) :
    Follows P (.handoff records) H (failCallback (recoverTaskToken q.body) code) := by
  unfold failCallback
  split
  · trivial
  · rename_i token htoken
    refine .send ⟨records, q, code, rfl, hq, htoken, hrefused⟩ fun answer => ?_
    split <;> trivial

theorem handleRecord_follows (hq : q ∈ records) :
    Follows P (.handoff records) H (handleRecord P q) := by
  unfold handleRecord
  rw [Follows, obeys_bind, obeys_attempt]
  refine (takeRecord_obeys hq).mono (fun _ _ h => h) fun H' x hx => ?_
  rcases x with e | u
  · cases e with
    | terminal code =>
      have hrefused := hx code rfl
      refine ⟨trivial, fun now => ⟨trivial, fun answer => ?_⟩⟩
      have hfail : ∀ {H'' : CallHistory}, Refused P q H'' code → Follows P (.handoff records) H''
          (failCallback (recoverTaskToken q.body) code >>= fun _ => pure false) := by
        intro H'' h
        rw [Follows, obeys_bind]
        exact (failCallback_follows hq h).mono (fun _ _ h => h) fun _ y _ => by
          cases y <;> trivial
      rcases answer with (_ | _ | _) | _
      · exact hfail hrefused.grow.grow
      · trivial
      · trivial
      · exact hfail hrefused.grow.grow
    | service => trivial
    | error => trivial
  · trivial

theorem handoff_follows : ∀ {rest : List QueueRecord} {H : CallHistory}, rest ⊆ records →
    Follows P (.handoff records) H (Callback.handoff P rest)
  | [], _, _ => trivial
  | q :: rest, H, hsub => by
    unfold Callback.handoff
    rw [Follows, obeys_bind]
    refine (handleRecord_follows (hsub (List.mem_cons_self ..))).mono (fun _ _ h => h)
      fun H' x _ => ?_
    cases x with
    | error e => trivial
    | ok again =>
      show Obeys _ _ _ (Callback.handoff P rest >>= _)
      rw [obeys_bind]
      exact (handoff_follows fun q' hq' => hsub (List.mem_cons_of_mem _ hq')).mono
        (fun _ _ h => h) fun _ y _ => by cases y <;> trivial

/-- **Every call of an invocation is allowed.** -/
theorem program_follows : ∀ work : Work, Follows P work [] (work.program P)
  | .decide r => by
    unfold Work.program
    rw [Follows, obeys_bind]
    exact handleDecide_follows.mono (fun _ _ h => h) fun _ y _ => by cases y <;> trivial
  | .handoff records => by
    unfold Work.program
    rw [Follows, obeys_bind]
    exact (handoff_follows (List.Subset.refl _)).mono (fun _ _ h => h)
      fun _ y _ => by cases y <;> trivial

end Follow

end Callback
