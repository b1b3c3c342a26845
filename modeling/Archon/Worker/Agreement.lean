/-
# One result for an audit

Any number of workers over one table and one bucket, each with any message.  `Services` is how their
calls are answered: a consistent read tells an item as it is, a put is carried out where there is
nothing yet, and an error can hide one that was; the harvest, the tags, the clock and the nonce answer
anything, every time anew.  Nothing is deleted.

Two deliveries of one audit can harvest different catalogs.  Still all that is returned for an
execution is one result (`audits_agree`), and a request that is not the one of the result gets none.
The evidence that the result names is in the bucket (`audit_evidence_stored`): its digest is the one of
the document there, and the document holds the report whose digest the result names.
-/
import Archon.Resumption.Guarded
import Archon.Resumption.Once
import Archon.Worker.Audit

namespace Worker

open Ecma Ecma.Value Remediation Resumption Resumption.Program

variable {P : Platform}

/-! ## 1. Results in texts -/

/-- The members of the result stand in the value. -/
def Reads (v : Value) (o : AuditOutput) : Prop := ∀ f ∈ o.fields, v.get (js f.1) = f.2

/-- The result is read off the text. -/
def Yields (text : Text) (o : AuditOutput) : Prop := ∃ v, parse text = some v ∧ Reads v o

theorem Reads.unique {v : Value} {o o' : AuditOutput} (h : Reads v o) (h' : Reads v o') : o = o' := by
  unfold Reads at h h'
  cases o <;> cases o' <;>
    simp only [AuditOutput.fields, List.forall_mem_cons, List.not_mem_nil, false_implies,
      implies_true, and_true] at h h' <;>
    grind

theorem Yields.unique {text : Text} {o o' : AuditOutput} (h : Yields text o) (h' : Yields text o') :
    o = o' := by
  obtain ⟨v, hv, hreads⟩ := h
  obtain ⟨v', hv', hreads'⟩ := h'
  obtain rfl := Option.some.inj (hv.symm.trans hv')
  exact hreads.unique hreads'

theorem textThat_eq_some {check : Text → Bool} {v : Value} {t : Text} (h : textThat check v = some t) :
    v = .str t := by
  unfold textThat at h
  split at h
  · split at h
    · rw [Option.some.inj h]
    · cases h
  · cases h

theorem isCanonicalReplayInstant_eq_some {v : Value} {x : Text × Int}
    (h : isCanonicalReplayInstant P v = some x) : v = .str x.1 := by
  unfold isCanonicalReplayInstant at h
  split at h
  · split at h
    · obtain ⟨epoch, -, h⟩ := Option.bind_eq_some_iff.mp h
      split at h
      · rw [← Option.some.inj h]
      · cases h
    · cases h
  · cases h

theorem outputOf_reads {fields : List (Text × Value)} {o : AuditOutput}
    (h : outputOf P fields = some o) : Reads (.obj fields) o := by
  unfold outputOf at h
  simp only [Option.bind_eq_bind, Option.bind_eq_some_iff, Option.guard_eq_some'] at h
  obtain ⟨_, hversion, reportDigest, hreport, evidenceDigest, hevidence, h⟩ := h
  have hversion := isText_iff.mp hversion
  have hreport := textThat_eq_some hreport
  have hevidence := textThat_eq_some hevidence
  split at h
  · rename_i happroval
    simp only [Option.bind_eq_some_iff] at h
    obtain ⟨_, -, approvalId, hid, planDigest, hplan, requestDigest, hrequest, ⟨requestedAt, requested⟩,
      hrequested, ⟨expiresAt, expires⟩, hexpires, _, -, h⟩ := h
    obtain rfl := Option.some.inj h
    simp only [Reads, AuditOutput.fields, List.forall_mem_cons, List.not_mem_nil, false_implies,
      implies_true, and_true]
    exact ⟨hversion, happroval, hreport, hevidence, textThat_eq_some hid,
      textThat_eq_some hplan, textThat_eq_some hrequest,
      isCanonicalReplayInstant_eq_some hrequested, isCanonicalReplayInstant_eq_some hexpires⟩
  · rename_i hmanual
    simp only [Option.bind_eq_some_iff] at h
    obtain ⟨_, -, reason, hreason, h⟩ := h
    obtain rfl := Option.some.inj h
    simp only [Reads, AuditOutput.fields, List.forall_mem_cons, List.not_mem_nil, false_implies,
      implies_true, and_true]
    exact ⟨hversion, hmanual, hreport, hevidence, textThat_eq_some hreason⟩
  · cases h

theorem auditOutput_yields {text : Option Text} {o : AuditOutput} (h : auditOutput P text = some o) :
    ∃ t, text = some t ∧ Yields t o := by
  unfold auditOutput at h
  obtain ⟨t, rfl, hread⟩ := Option.bind_eq_some_iff.mp h
  refine ⟨t, rfl, ?_⟩
  split at hread
  · rename_i fields hparse
    exact ⟨_, hparse, outputOf_reads hread⟩
  · cases hread

theorem AuditOutput.keys_nodup (o : AuditOutput) :
    ((o.fields.map fun f => (js f.1, f.2)).map Prod.fst).Nodup := by
  have hnames : (o.fields.map Prod.fst).Nodup := by
    cases o <;> simp [fields]
  have hnames := hnames.map (f := js) fun _ _ h => js_inj.mp h
  rwa [List.map_map] at hnames ⊢

/-- The members are left as they are when the result is normalized. -/
theorem AuditOutput.plain (o : AuditOutput) :
    ∀ f ∈ o.fields, norm f.2 = f.2 ∧ js f.1 ≠ protoKey := by
  cases o <;> simp [fields, protoKey, lit, Remediation.norm]

/-- A result that was written is read back. -/
theorem yields_of_canonicalize {text : Text} {o : AuditOutput} (h : canonicalize o.value = .ok text) :
    Yields text o := by
  obtain ⟨hcanonical, rfl⟩ := canonicalize_eq_ok.mp h
  refine ⟨_, parse_canonicalText hcanonical, fun f hf => ?_⟩
  obtain ⟨hplain, hkey⟩ := o.plain f hf
  have hget : o.value.get (js f.1) = f.2 := by
    rw [AuditOutput.value, object, get_obj,
      lookup_of_mem o.keys_nodup (List.mem_map_of_mem (f := fun f => (js f.1, f.2)) hf)]
    rfl
  rw [AuditOutput.value, object, norm_get o.keys_nodup hkey]
  exact (congrArg norm hget).trans hplain

/-! ## 2. The services -/

/-- The results of the table and the objects of the bucket. -/
structure AuditStore where
  results : Text → Option ResultItem
  objects : Text → Option Text

/-- A result, where there is none. -/
def AuditStore.bind (executionId requestDigest output : Text) : Guarded AuditStore where
  condition s := (s.results executionId).isNone
  result s := ⟨Function.update s.results executionId (some ⟨some requestDigest, some output⟩), s.objects⟩

/-- An object, where there is none. -/
def AuditStore.keep (key body : Text) : Guarded AuditStore where
  condition s := (s.objects key).isNone
  result s := ⟨s.results, Function.update s.objects key (some body)⟩

/-- Calls to other services. -/
def AuditEffect.elsewhere : AuditEffect → Bool
  | runPipeline _ | clock | readTagProjection _ | nonce => true
  | _ => false

/-- What a call is answered, and what becomes of the store. -/
inductive Services : AuditStore → (e : AuditEffect) → e.Reply → AuditStore → Prop
  | gotResult (s : AuditStore) (id : Text) : Services s (.getResult id) (.ok (s.results id)) s
  | ungotResult (s : AuditStore) (id : Text) (e : AwsError) : Services s (.getResult id) (.error e) s
  | putResult {s s' : AuditStore} {id d text : Text} {r : Except AwsError Unit}
      (h : (AuditStore.bind id d text).Outcome s r s') : Services s (.putResult id d text) r s'
  | putObject {s s' : AuditStore} {key body : Text} {r : Except AwsError Unit}
      (h : (AuditStore.keep key body).Outcome s r s') : Services s (.putObject key body) r s'
  | readObject {s : AuditStore} {key body : Text} (hbody : s.objects key = some body) :
      Services s (.readText key) (.ok body) s
  | unreadObject (s : AuditStore) (key : Text) (e : Exn Failure) :
      Services s (.readText key) (.error e) s
  | other (s : AuditStore) {e : AuditEffect} (r : e.Reply) (he : e.elsewhere = true) : Services s e r s

theorem Services.results {s s' : AuditStore} {e : AuditEffect} {r : e.Reply} (h : Services s e r s')
    {id : Text} {item : ResultItem} (hitem : s.results id = some item) : s'.results id = some item := by
  cases h with
  | putResult h =>
    cases h with
    | applied hfree =>
      refine (Function.update_of_ne ?_ _ _).trans hitem
      rintro rfl
      exact nomatch (Option.isNone_iff_eq_none.mp hfree).symm.trans hitem
    | refused => exact hitem
  | putObject h => cases h <;> exact hitem
  | _ => exact hitem

theorem Services.objects {s s' : AuditStore} {e : AuditEffect} {r : e.Reply} (h : Services s e r s')
    {key body : Text} (hbody : s.objects key = some body) : s'.objects key = some body := by
  cases h with
  | putObject h =>
    cases h with
    | applied hfree =>
      refine (Function.update_of_ne ?_ _ _).trans hbody
      rintro rfl
      exact nomatch (Option.isNone_iff_eq_none.mp hfree).symm.trans hbody
    | refused => exact hbody
  | putResult h => cases h <;> exact hbody
  | _ => exact hbody

/-- A new item was put by the call. -/
theorem Services.new_result {s s' : AuditStore} {e : AuditEffect} {r : e.Reply}
    (h : Services s e r s') {id : Text} {item : ResultItem} (hitem : s'.results id = some item) :
    s.results id = some item ∨ ∃ d text, e = .putResult id d text ∧ item = ⟨some d, some text⟩ := by
  cases h with
  | @putResult _ k d text _ h =>
    cases h with
    | applied hfree =>
      by_cases hk : id = k
      · subst hk
        have hself : ((AuditStore.bind id d text).result s).results id = some ⟨some d, some text⟩ :=
          Function.update_self ..
        exact .inr ⟨d, text, rfl, Option.some.inj (hitem.symm.trans hself)⟩
      · exact .inl ((Function.update_of_ne hk _ _).symm.trans hitem)
    | refused => exact .inl hitem
  | putObject h => cases h <;> exact .inl hitem
  | _ => exact .inl hitem

/-- The calls of a worker so far, with their answers. -/
abbrev AuditHistory := List (Event AuditEffect AuditEffect.Reply)

/-- The event tells the result of the execution. -/
def tellsResult (id d text : Text) : Event AuditEffect AuditEffect.Reply → Prop
  | ⟨.putResult k d' text', r⟩ => k = id ∧ d' = d ∧ text' = text ∧ r = .ok ()
  | ⟨.getResult k, r⟩ => k = id ∧ r = .ok (some ⟨some d, some text⟩)
  | _ => False

/-- The event tells that the object is there. -/
def tellsObject (key body : Text) : Event AuditEffect AuditEffect.Reply → Prop
  | ⟨.putObject k body', r⟩ => k = key ∧ body' = body ∧ r = .ok ()
  | ⟨.readText k, r⟩ => k = key ∧ r = .ok body
  | _ => False

theorem Services.told_result {s s' : AuditStore} {e : AuditEffect} {r : e.Reply}
    (h : Services s e r s') {id d text : Text} (htells : tellsResult id d text ⟨e, r⟩) :
    s'.results id = some ⟨some d, some text⟩ := by
  cases h with
  | gotResult k =>
    obtain ⟨rfl, hitem⟩ := htells
    exact Except.ok.inj hitem
  | ungotResult => exact nomatch htells.2
  | putResult h =>
    obtain ⟨rfl, rfl, rfl, rfl⟩ := htells
    cases h
    exact Function.update_self ..
  | @other e _ he => cases e <;> first | exact htells.elim | exact nomatch he
  | _ => exact htells.elim

theorem Services.told_object {s s' : AuditStore} {e : AuditEffect} {r : e.Reply}
    (h : Services s e r s') {key body : Text} (htells : tellsObject key body ⟨e, r⟩) :
    s'.objects key = some body := by
  cases h with
  | putObject h =>
    obtain ⟨rfl, rfl, rfl⟩ := htells
    cases h
    exact Function.update_self ..
  | readObject hbody =>
    obtain ⟨rfl, hread⟩ := htells
    rw [hbody, Except.ok.inj hread]
  | unreadObject => exact nomatch htells.2
  | @other e _ he => cases e <;> first | exact htells.elim | exact nomatch he
  | _ => exact htells.elim

/-! ## 3. What a worker does -/

/-- The text is the evidence that the result was drawn from: a document with its own digest, which
names the execution and holds the report and the remediation. -/
def Evidences (P : Platform) (job : AuditJob) (o : AuditOutput) (body : Text) : Prop :=
  ∃ report disposition createdAt,
    canonicalize (signed P (auditEvidenceFields job report (digestOf P report) disposition createdAt))
        = .ok body ∧
      auditResult (digestOf P report) (digestOf P (object (auditEvidenceFields job report
        (digestOf P report) disposition createdAt))) disposition = .ok o

/-- What a put of a result rests on. -/
def Rests (P : Platform) (job : AuditJob) (H : AuditHistory) (d text : Text) : Prop :=
  digest P job.message.request.value = .ok d ∧
    ∃ o body, Yields text o ∧ Evidences P job o body ∧
      ∃ ev ∈ H, tellsObject (evidenceKey o.evidenceDigest) body ev

/-- A result is put for the execution, when its evidence is there. -/
def Permitted (P : Platform) (job : AuditJob) (H : AuditHistory) : AuditEffect → Prop
  | .putResult id d text => id = job.message.executionId ∧ Rests P job H d text
  | _ => True

/-- A worker that returns a result has been told it. -/
def Returns (P : Platform) (job : AuditJob) (H : AuditHistory)
    (r : Except (Exn Failure) AuditOutput) : Prop :=
  ∀ o, r = .ok o → ∃ d text, digest P job.message.request.value = .ok d ∧ Yields text o ∧
    ∃ ev ∈ H, tellsResult job.message.executionId d text ev

section Worker

variable {job : AuditJob} {H : AuditHistory} {d : Text}

theorem checkedOutput_eq_ok {item : ResultItem} {o : AuditOutput}
    (h : checkedOutput P d item = .ok o) : ∃ text, item = ⟨some d, some text⟩ ∧ Yields text o := by
  unfold checkedOutput at h
  split at h
  · cases h
  · rename_i hdigest
    split at h
    · cases h
    · rename_i output hread
      obtain ⟨text, htext, hyields⟩ := auditOutput_yields hread
      refine ⟨text, ?_, Except.ok.inj h ▸ hyields⟩
      rw [← not_not.mp hdigest, ← htext]

/-- A result that is read has been told. -/
theorem getCheckpoint_obeys : Obeys (Permitted P job) (fun H' r => ∀ o, r = .ok (some o) →
    ∃ text, Yields text o ∧ ∃ ev ∈ H', tellsResult job.message.executionId d text ev) H
    (getCheckpoint P job.message.executionId d) := by
  unfold getCheckpoint
  refine obeys_perform trivial fun r => ?_
  rcases r with e | _ | item
  · exact nofun
  · exact nofun
  · refine obeys_lift (fun output hchecked => ?_) fun _ => nofun
    rintro o ho
    obtain rfl := Option.some.inj (Except.ok.inj ho)
    obtain ⟨text, rfl, hyields⟩ := checkedOutput_eq_ok hchecked
    exact ⟨text, hyields, _, List.mem_concat_self, rfl, rfl⟩

/-- The evidence is there when `put` returns. -/
theorem putEvidence_obeys {document : Value} : Obeys (Permitted P job) (fun H' r => r = .ok () →
    ∃ body, canonicalize document = .ok body ∧ ∃ ev ∈ H', tellsObject (evidenceKey d) body ev) H
    (putEvidence d document) := by
  unfold putEvidence
  refine obeys_lift (fun body hbody => ?_) fun _ => nofun
  refine obeys_perform trivial fun r => ?_
  cases r with
  | ok u =>
    exact fun _ => ⟨body, hbody, _, List.mem_concat_self, rfl, rfl, rfl⟩
  | error e =>
    dsimp only
    split
    · exact nofun
    · refine obeys_perform trivial fun r => ?_
      refine obeys_lift (fun existing hexisting => ?_) fun _ => nofun
      split
      · rename_i hsame
        refine fun _ => ⟨body, hbody, _, List.mem_concat_self, rfl, ?_⟩
        rw [hexisting, hsame]
      · exact nofun

theorem putCheckpoint_obeys {o : AuditOutput} {body : Text}
    (hdigest : digest P job.message.request.value = .ok d) (hevidence : Evidences P job o body)
    (hstored : ∃ ev ∈ H, tellsObject (evidenceKey o.evidenceDigest) body ev) :
    Obeys (Permitted P job) (Returns P job) H
      (putCheckpoint P job.message.executionId d o) := by
  unfold putCheckpoint
  refine obeys_lift (fun text htext => ?_) fun _ => nofun
  have hyields := yields_of_canonicalize htext
  refine obeys_perform ⟨rfl, hdigest, o, body, hyields, hevidence, hstored⟩ fun r => ?_
  cases r with
  | ok u =>
    rintro o' ho
    obtain rfl := Except.ok.inj ho
    exact ⟨d, text, hdigest, hyields, _, List.mem_concat_self, rfl, rfl, rfl, rfl⟩
  | error e =>
    dsimp only
    split
    · exact nofun
    · refine getCheckpoint_obeys.followed (fun H' existing hexisting _ => ?_) fun _ _ => nofun
      cases existing with
      | none => exact nofun
      | some existing =>
        rintro o' ho
        obtain rfl := Except.ok.inj ho
        obtain ⟨text, hyields, hev⟩ := hexisting _ rfl
        exact ⟨d, text, hdigest, hyields, hev⟩

theorem dispositionOf_obeys {mode : Option AuditMode} {report : Value} {createdAt : Text}
    {candidate : Option (Value × Text)} : Obeys (Permitted P job) (fun _ _ => True) H
      (dispositionOf P mode report createdAt candidate) := by
  unfold dispositionOf
  split
  · trivial
  · split
    · trivial
    · rename_i finding columnPath
      have hplanned : Obeys (Permitted P job) (fun _ _ => True) H
          (planned P report finding columnPath createdAt) := by
        unfold planned
        refine obeys_perform trivial fun r => ?_
        refine obeys_lift (fun before _ => ?_) fun _ => trivial
        refine obeys_lift (fun input _ => ?_) fun _ => trivial
        refine obeys_lift (fun plan _ => ?_) fun _ => trivial
        cases plan with
        | MANUAL_ONLY => trivial
        | ACTIONABLE dossier plan =>
          refine obeys_lift (fun expiresAt _ => ?_) fun _ => trivial
          refine obeys_perform trivial fun nonce => ?_
          exact obeys_lift (fun _ _ => trivial) fun _ => trivial
      rw [obeys_bind, obeys_attempt]
      refine hplanned.mono (fun _ _ h => h) fun H' r _ => ?_
      cases r <;> trivial

theorem contentAddressed_eq_ok {fields : List (String × Value)} {document : Value}
    (h : contentAddressedAuditEvidence P fields = .ok (d, document)) :
    d = digestOf P (object fields) ∧ document = signed P fields := by
  unfold contentAddressedAuditEvidence at h
  dsimp only at h
  split at h
  · cases h
  · obtain ⟨d', hd, h⟩ := bind_eq_ok.mp h
    obtain ⟨rfl, rfl⟩ := Prod.mk.inj (Except.ok.inj h)
    obtain ⟨-, rfl⟩ := digest_eq_ok.mp hd
    exact ⟨rfl, rfl⟩

theorem auditResult_evidenceDigest {reportDigest : Text} {disposition : Disposition} {o : AuditOutput}
    (h : auditResult reportDigest d disposition = .ok o) : o.evidenceDigest = d := by
  cases disposition with
  | MANUAL_ONLY reason =>
    obtain rfl := Except.ok.inj h
    rfl
  | ACTIONABLE dossier plan approvalRequest =>
    obtain ⟨_, -, h⟩ := bind_eq_ok.mp h
    obtain ⟨_, -, h⟩ := bind_eq_ok.mp h
    obtain ⟨_, -, h⟩ := bind_eq_ok.mp h
    obtain ⟨_, -, h⟩ := bind_eq_ok.mp h
    obtain ⟨_, -, h⟩ := bind_eq_ok.mp h
    obtain rfl := Except.ok.inj h
    rfl

theorem returns_error (e : Exn Failure) : Returns P job H (.error e) := fun _ h => nomatch h

theorem concluded_obeys {report : Value} {createdAt : Text} {disposition : Disposition}
    (hdigest : digest P job.message.request.value = .ok d) :
    Obeys (Permitted P job) (Returns P job) H (concluded P job d report createdAt disposition) := by
  unfold concluded
  refine obeys_lift (fun reportDigest hreport => ?_) returns_error
  generalize hr : contentAddressedAuditEvidence P _ = r
  refine obeys_lift (fun evidence hevidence => ?_) returns_error
  obtain ⟨d', document⟩ := evidence
  obtain ⟨-, rfl⟩ := digest_eq_ok.mp hreport
  obtain ⟨hd', hdocument⟩ := contentAddressed_eq_ok (hr.trans hevidence)
  refine putEvidence_obeys.followed (fun H' _ hput _ => ?_) fun _ => returns_error
  refine obeys_lift (fun output houtput => ?_) returns_error
  obtain ⟨body, hbody, hstored⟩ := hput rfl
  rw [hdocument] at hbody
  rw [← auditResult_evidenceDigest houtput] at hstored
  rw [hd'] at houtput
  exact putCheckpoint_obeys hdigest ⟨report, disposition, createdAt, hbody, houtput⟩ hstored

theorem auditAnew_obeys (hdigest : digest P job.message.request.value = .ok d) :
    Obeys (Permitted P job) (Returns P job) H (auditAnew P job d) := by
  unfold auditAnew
  refine obeys_perform trivial fun r => ?_
  refine obeys_lift (fun report _ => ?_) returns_error
  refine obeys_perform trivial fun createdAt => ?_
  refine obeys_lift (fun candidate _ => ?_) returns_error
  exact dispositionOf_obeys.followed (fun _ _ _ _ => concluded_obeys hdigest) fun _ => returns_error

/-- **A worker puts a result when its evidence is there**, and returns what it was told. -/
theorem audit_obeys : Obeys (Permitted P job) (Returns P job) [] (audit P job) := by
  unfold audit
  refine obeys_lift (fun d hdigest => ?_) fun _ => nofun
  refine getCheckpoint_obeys.followed (fun H' checkpoint hcheckpoint _ => ?_) fun _ _ => nofun
  cases checkpoint with
  | none => exact auditAnew_obeys hdigest
  | some checkpoint =>
    rintro o ho
    obtain rfl := Except.ok.inj ho
    obtain ⟨text, hyields, hev⟩ := hcheckpoint _ rfl
    exact ⟨d, text, hdigest, hyields, hev⟩

end Worker

/-! ## 4. Runs -/

section Runs

variable {ι : Type} [DecidableEq ι] {jobs : ι → AuditJob}

/-- The workers and the store. -/
abbrev AuditWorkers (ι : Type) :=
  Pool ι AuditStore AuditEffect AuditEffect.Reply (Exn Failure) AuditOutput

/-- Nobody has begun. -/
def AuditJob.start (P : Platform) (jobs : ι → AuditJob) (s : AuditStore) : AuditWorkers ι :=
  Pool.start s fun i => audit P (jobs i)

/-- Any number of steps. -/
abbrev AuditRun (S S' : AuditWorkers ι) : Prop := Pool.Run Services (fun _ _ => True) S S'

/-- The result of the execution, as the table has it. -/
def HasResult (id d text : Text) (s : AuditStore) : Prop := s.results id = some ⟨some d, some text⟩

theorem result_telling (id d text : Text) :
    Pool.Telling Services (tellsResult id d text) (HasResult id d text) where
  told := fun h => h.told_result
  stays := fun h => h.results

theorem object_telling (key body : Text) :
    Pool.Telling Services (tellsObject key body) fun s => s.objects key = some body where
  told := fun h => h.told_object
  stays := fun h => h.objects

/-- What a worker has returned is what the table has. -/
theorem returned_bound {s : AuditStore} {S : AuditWorkers ι}
    (hrun : AuditRun (AuditJob.start P jobs s) S) {i : ι} {o : AuditOutput}
    (hi : S.program i = .done (.ok o)) : ∃ d text, digest P (jobs i).message.request.value = .ok d ∧
      Yields text o ∧ HasResult (jobs i).message.executionId d text S.shared := by
  have hobeys := hrun.obeys (fun i => audit_obeys) i
  rw [hi] at hobeys
  obtain ⟨d, text, hdigest, hyields, htold⟩ := hobeys o rfl
  exact ⟨d, text, hdigest, hyields, hrun.told (result_telling _ d text) i htold⟩

/-- **One result.**  All workers that return a result for an execution return the same, for the same
request, and whatever happens then the table keeps it. -/
theorem audits_agree {s : AuditStore} {S : AuditWorkers ι}
    (hrun : AuditRun (AuditJob.start P jobs s) S) :
    ∀ i j o o', (jobs i).message.executionId = (jobs j).message.executionId →
      S.program i = .done (.ok o) → S.program j = .done (.ok o') →
      o = o' ∧ digest P (jobs i).message.request.value = digest P (jobs j).message.request.value ∧
        ∃ d text, Yields text o ∧
          ∀ S', AuditRun S S' → HasResult (jobs i).message.executionId d text S'.shared := by
  intro i j o o' hid hi hj
  obtain ⟨d, text, hdigest, hyields, hresult⟩ := returned_bound hrun hi
  obtain ⟨d', text', hdigest', hyields', hresult'⟩ := returned_bound hrun hj
  rw [← hid] at hresult'
  obtain ⟨hd, htext⟩ := ResultItem.mk.inj (Option.some.inj (hresult.symm.trans hresult'))
  obtain rfl := Option.some.inj hd
  obtain rfl := Option.some.inj htext
  exact ⟨hyields.unique hyields', hdigest.trans hdigest'.symm, d, text, hyields, fun S' hlater =>
    hlater.stays (result_telling _ d text).stays hresult⟩

/-- The evidence of a result is in the bucket: a worker of the execution put it, for its request. -/
def Stored (P : Platform) (jobs : ι → AuditJob) (id : Text) (d : Text) (o : AuditOutput)
    (s : AuditStore) : Prop :=
  ∃ k body, (jobs k).message.executionId = id ∧ digest P (jobs k).message.request.value = .ok d ∧
    Evidences P (jobs k) o body ∧ s.objects (evidenceKey o.evidenceDigest) = some body

omit [DecidableEq ι] in
theorem Stored.step {id d : Text} {o : AuditOutput} {s s' : AuditStore} {e : AuditEffect}
    {r : e.Reply} (h : Services s e r s') (hs : Stored P jobs id d o s) : Stored P jobs id d o s' := by
  obtain ⟨k, body, hid, hd, hevidence, hbody⟩ := hs
  exact ⟨k, body, hid, hd, hevidence, h.objects hbody⟩

/-- **The results rest on evidence**, where there was none at first. -/
theorem results_stored {s : AuditStore} {S : AuditWorkers ι}
    (hrun : AuditRun (AuditJob.start P jobs s) S) {id : Text} (hfresh : s.results id = none) :
    ∀ d text, HasResult id d text S.shared → ∃ o, Yields text o ∧ Stored P jobs id d o S.shared := by
  -- carried along the run: what is told of the bucket is so, and every result has its evidence
  let Inv : AuditStore → (ι → AuditHistory) → Prop := fun s H =>
    (∀ key body i, (∃ ev ∈ H i, tellsObject key body ev) → s.objects key = some body) ∧
      ∀ d text, HasResult id d text s → ∃ o, Yields text o ∧ Stored P jobs id d o s
  have hinit : Inv s fun _ => [] :=
    ⟨fun _ _ i ⟨_, hev, _⟩ => absurd hev List.not_mem_nil, fun d text h => nomatch hfresh.symm.trans h⟩
  suffices h : Inv S.shared S.history by exact h.2
  refine (Pool.invariant hrun (fun i => audit_obeys) hinit
    fun S₁ i e k r s' hinv _ hpermitted henv _ => ⟨fun key body => ?_, fun d text hresult => ?_⟩).1
  · exact (object_telling key body).step henv (hinv.1 key body)
  · rcases henv.new_result hresult with hold | ⟨d', text', rfl, hitem⟩
    · obtain ⟨o, hyields, hstored⟩ := hinv.2 d text hold
      exact ⟨o, hyields, hstored.step henv⟩
    · -- the put of the result: its worker has been told of the evidence
      obtain ⟨hd, htext⟩ := ResultItem.mk.inj hitem
      obtain rfl := Option.some.inj hd
      obtain rfl := Option.some.inj htext
      obtain ⟨hid, hdigest, o, body, hyields, hevidence, htold⟩ := hpermitted
      exact ⟨o, hyields, i, body, hid.symm, hdigest, hevidence, henv.objects (hinv.1 _ _ i htold)⟩

/-- **The evidence of a result is in the bucket.**  A result that is returned for an execution which
had none at first names the evidence that a worker of this execution and this request has put: it is
there, and stays there. -/
theorem audit_evidence_stored {s : AuditStore} {S : AuditWorkers ι}
    (hrun : AuditRun (AuditJob.start P jobs s) S) :
    ∀ i o, s.results (jobs i).message.executionId = none → S.program i = .done (.ok o) →
      ∃ d, digest P (jobs i).message.request.value = .ok d ∧
        ∀ S', AuditRun S S' → Stored P jobs (jobs i).message.executionId d o S'.shared := by
  intro i o hfresh hi
  obtain ⟨d, text, hdigest, hyields, hresult⟩ := returned_bound hrun hi
  obtain ⟨o', hyields', hstored⟩ := results_stored hrun hfresh d text hresult
  obtain rfl := hyields.unique hyields'
  exact ⟨d, hdigest, fun S' hlater => hlater.stays (fun h hs => hs.step h) hstored⟩

end Runs

/-! ## 5. A run -/

/-- A store without results and objects. -/
def AuditStore.empty : AuditStore := ⟨fun _ => none, fun _ => none⟩

/-- One audit, which is only to read. -/
def sampleJobs : Unit → AuditJob := fun _ =>
  ⟨⟨js "audit-task-token", js "audit-0001", ⟨js "request-0001", js "2026-07-14T10:00:00.000Z", none,
    some .READ_ONLY⟩⟩, js "0123abc"⟩

/-- The members of its evidence, of an empty report. -/
def sampleEvidence : List (String × Value) :=
  auditEvidenceFields (sampleJobs ()) (object []) (digestOf .node (object []))
    (.MANUAL_ONLY "READ_ONLY_REQUEST") (js "2026-07-14T10:00:01.000Z")

theorem sampleRequest_canonical : Canonicalizable (sampleJobs ()).message.request.value := by
  simp [AuditRequest.value, sampleJobs, AuditMode.name, lit]

theorem sampleEvidence_canonical : Canonicalizable (object sampleEvidence) := by
  have hrequest := sampleRequest_canonical
  simp [sampleEvidence, auditEvidenceFields, Disposition.value, hrequest, lit]

theorem sampleEvidence_addressed : contentAddressedAuditEvidence .node sampleEvidence
    = .ok (digestOf .node (object sampleEvidence), signed .node sampleEvidence) := by
  have hsmall : ¬ MAX_EVIDENCE_BYTES < utf8Length ((stringify (object sampleEvidence)).getD []) := by
    decide +kernel
  unfold contentAddressedAuditEvidence
  dsimp only
  rw [if_neg hsmall, digest_ok sampleEvidence_canonical]
  rfl

/-- Its result. -/
def sampleOutput : AuditOutput :=
  .manual (digestOf .node (object [])) (digestOf .node (object sampleEvidence)) (js "READ_ONLY_REQUEST")

/-- The audit finds no result, and stores its evidence and its own. -/
theorem sample_audited : ∃ S : AuditWorkers Unit,
    AuditRun (AuditJob.start .node sampleJobs .empty) S ∧ S.program () = .done (.ok sampleOutput) := by
  have hbody : canonicalize (signed .node sampleEvidence)
      = .ok (canonicalText (signed .node sampleEvidence)) :=
    canonicalize_eq_ok.mpr ⟨Issue.signed_canonical sampleEvidence_canonical, rfl⟩
  have htext : canonicalize sampleOutput.value = .ok (canonicalText sampleOutput.value) :=
    canonicalize_eq_ok.mpr ⟨by simp [sampleOutput, AuditOutput.value, AuditOutput.fields, lit], rfl⟩
  have hreach : Reaches (audit .node (sampleJobs ()))
      [⟨.getResult (sampleJobs ()).message.executionId, (.ok none : Except AwsError (Option ResultItem))⟩,
        ⟨.runPipeline none, (.ok (object []) : Run Value)⟩,
        ⟨.clock, js "2026-07-14T10:00:01.000Z"⟩,
        ⟨.putObject (evidenceKey (digestOf .node (object sampleEvidence)))
          (canonicalText (signed .node sampleEvidence)), (.ok () : Except AwsError Unit)⟩,
        ⟨.putResult (sampleJobs ()).message.executionId
          (digestOf .node (sampleJobs ()).message.request.value) (canonicalText sampleOutput.value),
          (.ok () : Except AwsError Unit)⟩]
      (.done (.ok sampleOutput)) := by
    have hreport : digest .node (object []) = .ok (digestOf .node (object [])) := digest_ok (by simp)
    unfold audit
    refine reaches_lift (digest_ok sampleRequest_canonical) (reaches_perform _ ?_)
    unfold auditAnew
    refine reaches_perform _ (reaches_lift rfl (reaches_perform _ (reaches_lift rfl ?_)))
    unfold concluded
    refine reaches_lift (a := .MANUAL_ONLY "READ_ONLY_REQUEST") rfl (reaches_lift hreport ?_)
    rw [← sampleEvidence, sampleEvidence_addressed]
    refine reaches_lift rfl ?_
    rw [putEvidence, hbody]
    refine .step (reaches_lift (a := sampleOutput) rfl ?_)
    unfold putCheckpoint
    exact reaches_lift htext (reaches_perform _ (.refl _))
  have hstart : AuditRun (AuditJob.start .node sampleJobs .empty)
      (AuditJob.start .node sampleJobs .empty) := .refl
  obtain ⟨S, hrun, -, hprogram, -⟩ := hstart.alone (i := ()) hreach
    (.cons (.gotResult _ _) (.cons (.other _ _ rfl) (.cons (.other _ _ rfl)
      (.cons (.putObject (.applied rfl _)) (.cons (.putResult (.applied rfl _)) (.nil _))))))
    fun _ _ _ _ _ _ => trivial
  refine ⟨S, hrun, ?_⟩
  rw [hprogram, Function.update_self]

/-- Whoever returns a result returns this one, and the table keeps it. -/
theorem audits_agree_sample : ∃ S : AuditWorkers Unit,
    AuditRun (AuditJob.start .node sampleJobs .empty) S ∧ S.program () = .done (.ok sampleOutput) ∧
      ∃ d text, Yields text sampleOutput ∧ HasResult (js "audit-0001") d text S.shared := by
  obtain ⟨S, hrun, hdone⟩ := sample_audited
  obtain ⟨-, -, d, text, hyields, hkept⟩ := audits_agree hrun () () _ _ rfl hdone hdone
  exact ⟨S, hrun, hdone, d, text, hyields, hkept S .refl⟩

/-- Its evidence is in the bucket. -/
theorem audit_evidence_stored_sample : ∃ S : AuditWorkers Unit,
    AuditRun (AuditJob.start .node sampleJobs .empty) S ∧
      ∃ d, Stored .node sampleJobs (js "audit-0001") d sampleOutput S.shared := by
  obtain ⟨S, hrun, hdone⟩ := sample_audited
  obtain ⟨d, -, hstored⟩ := audit_evidence_stored hrun () _ rfl hdone
  exact ⟨S, hrun, d, hstored S .refl⟩

end Worker
