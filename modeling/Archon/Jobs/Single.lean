/-
# One mutation for one job

Scans take jobs, lose them and take them again, the gateway is called any number of times with any
requests, programs crash and answers are lost.  `mutates_once` is what holds all the same: the
official tool is called to change tags at most once for a job, after the authorization of the job
was marked as consumed, and as an envelope says that was signed for this job and the configured
column and had not ended when it was consumed.

All of it rests on one write.  The gateway marks the authorization between the validation and the
call, on the condition that it is not marked, and no write of either program takes a mark away.
-/
import Archon.Jobs.Evidence

namespace Jobs

open Ecma Remediation Resumption Resumption.Program

/-! ## 1. The mark of an authorization -/

/-- The key of the job that a mutation belongs to. -/
def mutationKey (S : Settings) (jobId : Text) : Key :=
  (mutationPartition S.sessionId, jobKey jobId)

/-- The authorization of the job is marked as consumed. -/
def Marked (S : Settings) (s : World) (jobId : Text) : Prop :=
  ∃ j, s.jobs (mutationKey S jobId) = some j ∧ j.authorizationConsumedAt ≠ none

/-- **A mark stays.** -/
theorem Marked.step {S : Settings} {s s' : World} {e : Call} {r : e.Reply} {jobId : Text}
    (h : Marked S s jobId) (hs : Service S s e r s') : Marked S s' jobId := by
  obtain ⟨j, hj, hmark⟩ := h
  rcases hs.cases_write with rfl | ⟨w, j', -, hj', -, rfl⟩
  · exact ⟨j, hj, hmark⟩
  · by_cases hkey : mutationKey S jobId = w.key
    · rw [hkey, hj'] at hj
      obtain rfl := Option.some.inj hj
      refine ⟨w.update j', ?_, w.consumed hmark⟩
      rw [hkey, World.withJob_self]
    · refine ⟨j, ?_, hmark⟩
      rw [World.withJob_of_ne hkey, hj]

/-- The program has marked the authorization of the job. -/
def Took (S : Settings) (jobId : Text) (H : CallHistory) : Prop :=
  ∃ envelopeDigest now, wasWritten (consumption S jobId envelopeDigest now) (.ok ()) ∈ H

theorem Took.grow {S : Settings} {jobId : Text} {H : CallHistory} {ev : Event Call Call.Reply}
    (h : Took S jobId H) : Took S jobId (H ++ [ev]) := by
  obtain ⟨d, now, hmem⟩ := h
  exact ⟨d, now, mem_before hmem⟩

/-- The mark was made before, or by this call. -/
theorem Took.cases {S : Settings} {jobId : Text} {H : CallHistory} {e : Call} {r : e.Reply}
    (h : Took S jobId (H ++ [⟨e, r⟩])) : Took S jobId H ∨
      ∃ d now, (⟨e, r⟩ : Event Call Call.Reply) = wasWritten (consumption S jobId d now) (.ok ()) := by
  obtain ⟨d, now, hmem⟩ := h
  rcases List.mem_append.mp hmem with hmem | hmem
  · exact Or.inl ⟨d, now, hmem⟩
  · exact Or.inr ⟨d, now, (List.mem_singleton.mp hmem).symm⟩

/-- A mark is made where there is none. -/
theorem marks {S : Settings} {s s' : World} {e : Call} {r : e.Reply} {jobId d : Text} {now : Int}
    (h : (⟨e, r⟩ : Event Call Call.Reply) = wasWritten (consumption S jobId d now) (.ok ()))
    (hs : Service S s e r s') : ¬ Marked S s jobId ∧ Marked S s' jobId := by
  obtain ⟨rfl, h⟩ := Sigma.mk.inj h
  obtain rfl := eq_of_heq h
  obtain ⟨j, hj, hmeets, rfl⟩ := hs.of_written
  constructor
  · rintro ⟨j', hj', hmark⟩
    obtain rfl := Option.some.inj (hj.symm.trans hj')
    simp only [consumption, JobWrite.meets, Bool.and_eq_true, Option.isNone_iff_eq_none] at hmeets
    exact hmark hmeets.2
  · exact ⟨_, World.withJob_self _ _ _, Option.some_ne_none _⟩

/-! ## 2. Every run -/

section Runs

variable {ι : Type} {S : Settings} {works : ι → Work} {jobId : Text}

/-- The program is a call of the gateway for the job. -/
def Work.serves (work : Work) (jobId : Text) : Prop := ∃ request, work = .gateway jobId request

/-- Who has changed tags for the job has marked its authorization, nobody else has, and has done so
once. -/
structure Singly (S : Settings) (works : ι → Work) (jobId : Text) (s : World)
    (H : ι → CallHistory) : Prop where
  marked : ∀ i, (works i).serves jobId → Took S jobId (H i) → Marked S s jobId
  single : ∀ i i', (works i).serves jobId → (works i').serves jobId → Took S jobId (H i) →
    Took S jobId (H i') → i = i'
  took : ∀ i, (works i).serves jobId → ∀ ev ∈ H i, ev.1.mutates = true → Took S jobId (H i)
  once : ∀ i, (works i).serves jobId → (H i).countP (fun ev => ev.1.mutates) ≤ 1

theorem Consumed.took {request : Py} {H : CallHistory} {v : Validated}
    (h : Consumed S jobId request H v) : Took S jobId H := by
  obtain ⟨now, -, -, hmem⟩ := h
  exact ⟨_, now, hmem⟩

/-- A call that changes tags follows the mark, and no other such call. -/
theorem allowed_mutates {work : Work} {H : CallHistory} {e : Call} (hwork : work.serves jobId)
    (h : Allowed S work H e) (hmutates : e.mutates = true) :
    Took S jobId H ∧ ∀ ev ∈ H, ev.1.mutates = false := by
  obtain ⟨request, rfl⟩ := hwork
  cases e with
  | official tool arguments =>
    have hne : tool ≠ js "get_entities" := of_decide_eq_true hmutates
    obtain hread | ⟨v, hconsumed, -, -, hsilent⟩ := h
    · exact absurd hread hne
    · exact ⟨hconsumed.took, hsilent⟩
  | _ => exact nomatch hmutates

variable [DecidableEq ι]

/-- **One step.** -/
theorem singly_step {s s' : World} {H : ι → CallHistory} {i : ι} {e : Call} {r : e.Reply}
    (h : Singly S works jobId s H) (hallowed : Allowed S (works i) (H i) e)
    (hs : Service S s e r s') :
    Singly S works jobId s' (Function.update H i (H i ++ [⟨e, r⟩])) := by
  have hnew : ∀ i', (works i').serves jobId →
      Took S jobId (Function.update H i (H i ++ [⟨e, r⟩]) i') → Took S jobId (H i') ∨
        i' = i ∧ ∃ d now,
          (⟨e, r⟩ : Event Call Call.Reply) = wasWritten (consumption S jobId d now) (.ok ()) := by
    intro i' hserves htook
    by_cases hi : i' = i
    · subst hi
      rw [Function.update_self] at htook
      exact htook.cases.imp_right fun hev => ⟨rfl, hev⟩
    · rw [Function.update_of_ne hi] at htook
      exact Or.inl htook
  refine ⟨fun i' hserves htook => ?_, fun i₁ i₂ hserves₁ hserves₂ htook₁ htook₂ => ?_, ?_, ?_⟩
  · rcases hnew i' hserves htook with htook | ⟨-, d, now, hev⟩
    · exact (h.marked i' hserves htook).step hs
    · exact (marks hev hs).2
  · -- whoever marks now finds no mark, so nobody marked before
    rcases hnew i₁ hserves₁ htook₁ with hold₁ | ⟨rfl, d, now, hev⟩
    · rcases hnew i₂ hserves₂ htook₂ with hold₂ | ⟨rfl, d, now, hev⟩
      · exact h.single i₁ i₂ hserves₁ hserves₂ hold₁ hold₂
      · exact absurd (h.marked i₁ hserves₁ hold₁) (marks hev hs).1
    · rcases hnew i₂ hserves₂ htook₂ with hold₂ | ⟨rfl, -⟩
      · exact absurd (h.marked i₂ hserves₂ hold₂) (marks hev hs).1
      · rfl
  · intro i' hserves ev hmem hmutates
    by_cases hi : i' = i
    · subst hi
      rw [Function.update_self] at hmem ⊢
      rcases List.mem_append.mp hmem with hmem | hmem
      · exact (h.took i' hserves ev hmem hmutates).grow
      · obtain rfl := List.mem_singleton.mp hmem
        exact (allowed_mutates hserves hallowed hmutates).1.grow
    · rw [Function.update_of_ne hi] at hmem ⊢
      exact h.took i' hserves ev hmem hmutates
  · intro i' hserves
    by_cases hi : i' = i
    · subst hi
      rw [Function.update_self, List.countP_append, List.countP_singleton]
      by_cases hmutates : e.mutates = true
      · have hsilent := (allowed_mutates hserves hallowed hmutates).2
        have hzero : (H i').countP (fun ev => ev.1.mutates) = 0 :=
          List.countP_eq_zero.mpr fun ev hev => by simp [hsilent ev hev]
        rw [hzero, if_pos hmutates]
      · rw [if_neg hmutates]
        exact h.once i' hserves
    · rw [Function.update_of_ne hi]
      exact h.once i' hserves

theorem singly_run {s : World} {P : Pool ι World Call Call.Reply Fault Unit}
    {Ok : Pool ι World Call Call.Reply Fault Unit → Pool ι World Call Call.Reply Fault Unit → Prop}
    (hrun : Pool.Run (Service S) Ok (Work.start S works s) P) (jobId : Text) :
    Singly S works jobId P.shared P.history ∧
      ∀ i, Follows S (works i) (fun _ _ => True) (P.history i) (P.program i) := by
  have hinit : Singly S works jobId (Work.start S works s).shared
      (Work.start S works s).history := by
    refine ⟨?_, ?_, ?_, ?_⟩
    · rintro i - ⟨d, now, h⟩
      exact nomatch h
    · rintro i i' - - ⟨d, now, h⟩
      exact nomatch h
    · intro i _ ev h
      exact nomatch h
    · exact fun _ _ => Nat.zero_le _
  refine Pool.invariant hrun (fun i => program_follows S (works i)) hinit ?_
  intro P₁ i e k r s' h _ hallowed hs _
  exact singly_step h hallowed hs

/-! ## 3. The envelope -/

/-- What a call of the official tool was signed for. -/
structure Licence (S : Settings) (jobId : Text) (envelope signature : Py) (tool : Text)
    (arguments : Py) (now : Int) : Prop where
  signed : ∃ d bytes, digestOf S envelope = .ok d ∧
    (signature.get "signatureBase64").text?.bind S.b64decode = some bytes ∧ S.verify d bytes = true
  session : envelope.get "sessionId" = .str S.sessionId
  job : envelope.get "jobId" = .str jobId
  target : (envelope.get "target").get "entityUrn" = .str DATASET_URN ∧
    (envelope.get "target").get "columnPath" = .str COLUMN_PATH
  tool : envelope.get "tool" = .str tool
  arguments : (envelope.get "arguments").exact ["tag_urns", "entity_urns", "column_paths"] = true ∧
    ∀ key ∈ ["tag_urns", "entity_urns", "column_paths"],
      arguments.get key = (envelope.get "arguments").get key
  unexpired : ∃ issuedAt expiresAt, parseInstant (envelope.get "issuedAt") = .ok issuedAt ∧
    parseInstant (envelope.get "expiresAt") = .ok expiresAt ∧
    issuedAt * 1000 ≤ now + 30000000 ∧ now < expiresAt * 1000

/-- **What is authorized is licensed.** -/
theorem licence_of_authorized {request : Py} {now : Int} {v : Validated}
    (h : Authorized S jobId request now v) :
    Licence S jobId ((request.get "authorization").get "envelope")
      ((request.get "authorization").get "signature") v.tool OFFICIAL_ARGUMENTS now := by
  have hbinds := h.binds
  simp only [bindsEnvelope, Bool.and_eq_true, Py.isText_iff, Py.isTexts_iff] at hbinds
  obtain ⟨⟨⟨⟨⟨⟨⟨⟨⟨⟨⟨⟨⟨⟨⟨⟨-, -⟩, hsession⟩, -⟩, -⟩, hjob⟩, -⟩, -⟩, -⟩, -⟩, hentity⟩, hcolumn⟩, htool⟩,
    hexact⟩, htags⟩, hentities⟩, hcolumns⟩ := hbinds
  obtain ⟨issuedAt, hissued, hexpires, hwindow⟩ := h.window
  simp only [inWindow, Bool.and_eq_true, decide_eq_true_eq] at hwindow
  refine ⟨⟨_, _, h.digest, h.bytes, h.verified⟩, hsession, hjob, ⟨hentity, hcolumn⟩, ?_,
    ⟨hexact, ?_⟩, ⟨issuedAt, v.expiresAt, hissued, hexpires, hwindow.1.1.1, hwindow.1.1.2⟩⟩
  · rw [htool, h.tool]
  · intro key hkey
    simp only [List.mem_cons, List.not_mem_nil, or_false] at hkey
    rcases hkey with rfl | rfl | rfl
    · rw [htags]
      simp [OFFICIAL_ARGUMENTS, List.lookup]
    · rw [hentities]
      simp [OFFICIAL_ARGUMENTS, List.lookup]
    · rw [hcolumns]
      simp [OFFICIAL_ARGUMENTS, List.lookup]

/-! ## 4. The result -/

/-- The calls that a program has made to change tags for the job. -/
def mutationsFor (works : ι → Work) (P : Pool ι World Call Call.Reply Fault Unit) (jobId : Text)
    (i : ι) : CallHistory :=
  match works i with
  | .scan _ => []
  | .gateway id _ => if id = jobId then (P.history i).filter fun ev => ev.1.mutates else []

omit [DecidableEq ι] in
theorem mutationsFor_eq {P : Pool ι World Call Call.Reply Fault Unit} {i : ι}
    (h : mutationsFor works P jobId i ≠ []) : (works i).serves jobId ∧
      mutationsFor works P jobId i = (P.history i).filter fun ev => ev.1.mutates := by
  unfold mutationsFor at h ⊢
  split at h
  · exact absurd rfl h
  · rename_i id request hwork
    split at h
    · rename_i hid
      subst hid
      exact ⟨⟨request, hwork⟩, if_pos rfl⟩
    · exact absurd rfl h

/-- A call that changes tags is about to be made. -/
structure Mutating (S : Settings) (works : ι → Work) (P : Pool ι World Call Call.Reply Fault Unit)
    (i : ι) (jobId : Text) (request : Py) (tool : Text) (arguments : Py) : Prop where
  serves : works i = .gateway jobId request
  marked : Marked S P.shared jobId
  first : ∀ i', mutationsFor works P jobId i' = []
  licensed : ∃ envelopeDigest now,
    wasWritten (consumption S jobId envelopeDigest now) (.ok ()) ∈ P.history i ∧ Licence S jobId ((request.get "authorization").get "envelope")
      ((request.get "authorization").get "signature") tool arguments now

/-- **The official tool changes tags at most once for a job**: at most one program calls it, and at
most once; and whoever is about to call it serves a job whose authorization is marked, for which it
was not called before, with the tool and the arguments of an envelope that was signed for the job
and had not ended at the reading of the clock that the authorization was consumed at. -/
theorem mutates_once {s : World} {P : Pool ι World Call Call.Reply Fault Unit}
    (hrun : Pool.Run (Service S) (fun _ _ => True) (Work.start S works s) P) :
    (∀ jobId i i', mutationsFor works P jobId i ≠ [] → mutationsFor works P jobId i' ≠ [] → i = i') ∧
      (∀ jobId i, (mutationsFor works P jobId i).length ≤ 1) ∧
      ∀ {i tool arguments k}, P.program i = .call (.official tool arguments) k →
        tool ≠ js "get_entities" →
          ∃ jobId request, Mutating S works P i jobId request tool arguments := by
  have htook : ∀ {jobId i}, mutationsFor works P jobId i ≠ [] →
      (works i).serves jobId ∧ Took S jobId (P.history i) := by
    intro jobId i h
    obtain ⟨hserves, heq⟩ := mutationsFor_eq h
    rw [heq] at h
    obtain ⟨ev, hev⟩ := List.exists_mem_of_ne_nil _ h
    obtain ⟨hmem, hmutates⟩ := List.mem_filter.mp hev
    exact ⟨hserves, (singly_run hrun jobId).1.took i hserves ev hmem hmutates⟩
  refine ⟨fun jobId i i' h h' => ?_, fun jobId i => ?_, fun {i tool arguments k} hcall htool => ?_⟩
  · obtain ⟨hserves, htook₁⟩ := htook h
    obtain ⟨hserves', htook₂⟩ := htook h'
    exact (singly_run hrun jobId).1.single i i' hserves hserves' htook₁ htook₂
  · by_cases h : mutationsFor works P jobId i = []
    · rw [h]
      exact Nat.zero_le _
    · obtain ⟨hserves, heq⟩ := mutationsFor_eq h
      rw [heq, ← List.countP_eq_length_filter]
      exact (singly_run hrun jobId).1.once i hserves
  · have hobeys := (singly_run hrun (js "")).2 i
    rw [hcall] at hobeys
    have hallowed := hobeys.1
    cases hwork : works i with
    | scan cursors =>
      rw [hwork] at hallowed
      exact absurd hallowed id
    | gateway jobId request =>
      rw [hwork] at hallowed
      obtain hread | ⟨v, hconsumed, rfl, rfl, hsilent⟩ := hallowed
      · exact absurd hread htool
      · have hserves : (works i).serves jobId := ⟨request, hwork⟩
        have hsingly := (singly_run hrun jobId).1
        refine ⟨jobId, request, hwork, hsingly.marked i hserves hconsumed.took, fun i' => ?_, ?_⟩
        · by_contra hne
          obtain ⟨hserves', htook'⟩ := htook hne
          obtain rfl := hsingly.single i i' hserves hserves' hconsumed.took htook'
          obtain ⟨-, heq⟩ := mutationsFor_eq hne
          rw [heq] at hne
          refine hne (List.filter_eq_nil_iff.mpr fun ev hev => ?_)
          simp [hsilent ev hev]
        · obtain ⟨now, -, hauthorized, hwritten⟩ := hconsumed
          exact ⟨_, now, hwritten, licence_of_authorized hauthorized⟩

end Runs

/-- A gateway that serves the request. -/
def sampleGateway (_ : Unit) : Work := .gateway sampleJobId sampleRequest

/-- The table with the job. -/
def sampleWorld : World where
  jobs key := if key = mutationKey sampleSettings sampleJobId then some sampleJob else none

/-- The table after the authorization is consumed. -/
def sampleConsumed : World :=
  sampleWorld.withJob (mutationKey sampleSettings sampleJobId)
    (some ((consumption sampleSettings sampleJobId sampleValidated.envelopeDigest
      sampleNow).update sampleJob))

theorem sample_moves : Pool.Moves (Service sampleSettings) sampleWorld sampleCalls sampleConsumed := by
  have hjob : sampleWorld.jobs (mutationKey sampleSettings sampleJobId) = some sampleJob := by
    simp [sampleWorld]
  have hmeets : (consumption sampleSettings sampleJobId sampleValidated.envelopeDigest
      sampleNow).meets sampleSettings sampleJob = true := by
    simp [consumption, JobWrite.meets, sampleJob]
  have hwrite := Service.apply (w := consumption sampleSettings sampleJobId
    sampleValidated.envelopeDigest sampleNow) hjob hmeets
  refine .cons (.now _ _) (.cons (.publicKey _ _) (.cons (.lease _ _) (.cons hwrite ?_)))
  exact .cons (.official _ _ _ _) (.cons (.official _ _ _ _) (.cons (.official _ _ _ _) (.nil _)))

/-- A mutation that is made, once. -/
theorem mutates_once_sample : ∃ P,
    Pool.Run (Service sampleSettings) (fun _ _ => True)
        (Work.start sampleSettings sampleGateway sampleWorld) P ∧
      mutationsFor sampleGateway P sampleJobId () ≠ [] ∧
      (mutationsFor sampleGateway P sampleJobId ()).length ≤ 1 := by
  have hreaches : ((Work.start sampleSettings sampleGateway sampleWorld).program ()).Reaches
      (sampleCalls ++ []) (.done (.ok ())) :=
    sample_executed.bind (.refl _)
  rw [List.append_nil] at hreaches
  have hstart : Pool.Run (Service sampleSettings) (fun _ _ => True)
      (Work.start sampleSettings sampleGateway sampleWorld)
      (Work.start sampleSettings sampleGateway sampleWorld) := .refl
  obtain ⟨P, hrun, -, -, hhistory⟩ := hstart.alone (i := ()) hreaches sample_moves
    fun _ _ _ _ _ _ => trivial
  refine ⟨P, hrun, ?_, (mutates_once hrun).2.1 sampleJobId ()⟩
  have hcalls : P.history () = sampleCalls := by
    rw [hhistory, Function.update_self]
    rfl
  have hmutations : mutationsFor sampleGateway P sampleJobId ()
      = (P.history ()).filter fun ev => ev.1.mutates := by
    simp [mutationsFor, sampleGateway]
  rw [hmutations, hcalls]
  refine List.ne_nil_of_mem (a := ⟨.official (js "add_tags") OFFICIAL_ARGUMENTS,
    (.ok sampleOfficial : Except ServiceFault Py)⟩) (List.mem_filter.mpr ⟨?_, by decide⟩)
  simp [sampleCalls]

end Jobs
