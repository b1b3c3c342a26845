/-
# One decision for one approval

Any number of stewards decide, the queue delivers its messages again, invocations crash and answers
are lost.  `decided_once` is what holds all the same: the decisions that were ever written under an
approval are the one that is stored, which was taken before the deadline; a report to Step Functions
is of the stored decision, with the token of the message that the approval was stored from; and an
approval that is marked as delivered was reported so, and the report accepted.

The report is made of the request, and not of what is stored.  That they agree rests on the digest
of the decision, so the texts of the requests have to be told apart by their hashes.
-/
import Archon.Callback.Runs

namespace Callback

open Ecma Ecma.Value Remediation Resumption Resumption.Program

/-! ## 1. What was written under an approval -/

/-- The message that a write stores. -/
def ApprovalWrite.message? : ApprovalWrite → Option Message
  | put m _ => some m
  | _ => none

/-- The decision that a write stores. -/
def ApprovalWrite.decided? : ApprovalWrite → Option Decided
  | decide _ d _ => some d
  | _ => none

/-- The messages that were stored under an approval. -/
def World.messages (s : World) (id : Text) : List Message :=
  (s.applied.filter (·.key = id)).filterMap ApprovalWrite.message?

/-- The decisions that were written under an approval. -/
def World.decisions (s : World) (id : Text) : List Decided :=
  (s.applied.filter (·.key = id)).filterMap ApprovalWrite.decided?

/-- The item was stored from the message, and has its token or none; one that is not decided has
it. -/
structure Item.From (item : Item) (m : Message) : Prop where
  execution : item.executionId = m.executionId
  evidence : item.evidenceDigest = m.evidenceDigest
  plan : item.planDigest = m.planDigest
  request : item.requestDigest = m.approvalRequestDigest
  requested : item.requestedAt = m.requestedAt
  deadline : item.approvalExpiresAt = m.expiresAt
  token : ∀ t, item.taskToken = some t → t = m.taskToken
  pending : item.status = .PENDING → item.decided = none ∧ item.taskToken = some m.taskToken

/-- One message was stored where there is an item, and the decision of the item was written, and no
other. -/
def Kept (messages : List Message) (decisions : List Decided) : Option Item → Prop
  | none => messages = [] ∧ decisions = []
  | some item => (∃ m, messages = [m] ∧ item.From m) ∧ decisions = item.decided.toList

theorem World.messages_withItem {s : World} {id key : Text} {item : Option Item}
    {w : ApprovalWrite} : (s.withItem key item w).messages id =
      if w.key = id then w.message?.toList ++ s.messages id else s.messages id := by
  unfold messages
  rw [withItem_applied, List.filter_cons]
  by_cases h : w.key = id
  · cases hm : w.message? <;> simp [h, hm]
  · simp [h]

theorem World.decisions_withItem {s : World} {id key : Text} {item : Option Item}
    {w : ApprovalWrite} : (s.withItem key item w).decisions id =
      if w.key = id then w.decided?.toList ++ s.decisions id else s.decisions id := by
  unfold decisions
  rw [withItem_applied, List.filter_cons]
  by_cases h : w.key = id
  · cases hd : w.decided? <;> simp [h, hd]
  · simp [h]

/-- What has a digest is decided. -/
theorem decided_of_hasDigest {item : Item} {digest : Text}
    (h : ApprovalWrite.hasDigest item digest = true) : item.decided ≠ none := by
  intro hnone
  rw [ApprovalWrite.hasDigest, hnone] at h
  exact Bool.false_ne_true h

/-- **A write keeps the account.** -/
theorem kept_write {w : ApprovalWrite} {messages : List Message} {decisions : List Decided}
    {item : Option Item} (h : Kept messages decisions item) (hcondition : w.condition item = true) :
    Kept (w.message?.toList ++ messages) (w.decided?.toList ++ decisions) (w.result item) := by
  cases item with
  | none =>
    obtain ⟨rfl, rfl⟩ := h
    cases w with
    | put m createdAt =>
      exact ⟨⟨m, rfl, ⟨rfl, rfl, rfl, rfl, rfl, rfl, fun _ ht => (Option.some.inj ht).symm,
        fun _ => ⟨rfl, rfl⟩⟩⟩, rfl⟩
    | _ => exact absurd hcondition Bool.false_ne_true
  | some item =>
    obtain ⟨⟨m, rfl, hfrom⟩, rfl⟩ := h
    have hpending : ∀ digest, ApprovalWrite.hasDigest item digest = true → item.status ≠ .PENDING :=
      fun digest hdigest hp => decided_of_hasDigest hdigest (hfrom.pending hp).1
    cases w with
    | put => exact absurd hcondition Bool.false_ne_true
    | decide id d retention =>
      have hp : item.status = .PENDING := of_decide_eq_true hcondition
      refine ⟨⟨m, rfl, { hfrom with pending := nofun }⟩, ?_⟩
      rw [(hfrom.pending hp).1]
      rfl
    | attempt => exact ⟨⟨m, rfl, { hfrom with }⟩, rfl⟩
    | close id digest attemptId now =>
      simp only [ApprovalWrite.condition, ApprovalWrite.meets, Bool.and_eq_true] at hcondition
      have hp := hpending digest hcondition.1.1
      exact ⟨⟨m, rfl, { hfrom with token := nofun, pending := fun h => absurd h hp }⟩, rfl⟩
    | deliver id digest attemptId now =>
      simp only [ApprovalWrite.condition, ApprovalWrite.meets, Bool.and_eq_true] at hcondition
      have hp := hpending digest hcondition.1.1
      exact ⟨⟨m, rfl, { hfrom with token := nofun, pending := fun h => absurd h hp }⟩, rfl⟩

/-! ## 2. The report is of what is stored -/

/-- What is digested of a request. -/
def DecideRequest.recordText (r : DecideRequest) : Text := (stringify (decisionRecord r)).getD []

/-- The requests of the works are told apart by the hashes of what is digested of them. -/
def SeparateRequests {ι : Type} (P : Platform) (work : ι → Work) : Prop :=
  ∀ i j r r', work i = .decide r → work j = .decide r' → P.Separates r.recordText r'.recordText

/-- The output that reports a decision. -/
def Decided.output (d : Decided) (approvalId : Text) : Value :=
  outputOf approvalId d.decision d.approverSub d.approverIssuer d.decidedAt

theorem exact_decisionRecord (r : DecideRequest) : Exact (decisionRecord r) := by
  refine ⟨?_, trivial, trivial, trivial, trivial, trivial, trivial⟩
  have hkeys : (["approvalId", "decision", "comment", "approverSub", "approverIssuer"].map
      js).Pairwise fun a b => a ≠ b ∧ goesBefore b a = false := by decide +kernel
  rw [Ordered, ← List.pairwise_map (f := Prod.fst) (R := fun a b => a ≠ b ∧ goesBefore b a = false)]
  simpa only [List.map_cons, List.map_nil] using hkeys

theorem decisionRecord_of_recordText {r r' : DecideRequest} (h : r.recordText = r'.recordText) :
    decisionRecord r = decisionRecord r' := by
  obtain ⟨t, ht⟩ := stringify_of_exact (exact_decisionRecord r)
  obtain ⟨t', ht'⟩ := stringify_of_exact (exact_decisionRecord r')
  have htt : t = t' := by simpa [DecideRequest.recordText, ht, ht'] using h
  have hparse := parse_stringify (exact_decisionRecord r) ht
  rw [htt, parse_stringify (exact_decisionRecord r') ht'] at hparse
  exact (Option.some.inj hparse).symm

/-- Requests of one digest decide the same. -/
theorem decision_of_digest {P : Platform} {r r' : DecideRequest}
    (hsep : P.Separates r.recordText r'.recordText)
    (h : canonicalDigest P (decisionRecord r) = canonicalDigest P (decisionRecord r')) :
    r.decision = r'.decision := by
  have hrecord := decisionRecord_of_recordText (hsep (List.append_cancel_left h))
  have hget : ∀ q, (decisionRecord q).get (js "decision") = .str q.decision.text := by
    intro q
    simp [decisionRecord, List.lookup]
  exact DecisionName.text_inj (Value.str.inj (by rw [← hget, ← hget, hrecord]))

/-! ## 3. The invariant -/

/-- A decision was taken by a request that had found the approval, before its deadline. -/
def Taken {ι : Type} (P : Platform) (work : ι → Work) (s : World) (id : Text) (d : Decided) : Prop :=
  ∃ i r readings item m expires, work i = .decide r ∧ id = r.approvalId ∧
    d = decidedOf P r item (P.toISOString (Subtype.val readings : Int × Int).1) ∧
    m ∈ s.messages id ∧ P.dateParse m.expiresAt = some expires ∧
    (readings : { x : Int × Int // x.1 ≤ x.2 }).val.1 < expires

/-- The decision of an approval was reported with the token it was stored with, and the report was
accepted. -/
def Told (s : World) (id : Text) : Prop :=
  ∃ m ∈ s.messages id, ∃ d ∈ s.decisions id, (m.taskToken, .success (d.output id)) ∈ s.ended

/-- What is stored, and what was found, is what was written. -/
structure Accounted {ι : Type} (s : World) (H : ι → CallHistory) : Prop where
  kept : ∀ id, Kept (s.messages id) (s.decisions id) (s.approvals id)
  found : ∀ i id item, Found (H i) id item →
    ∃ m ∈ s.messages id, item.From m ∧ ∀ d, item.decided = some d → d ∈ s.decisions id

/-- The invariant of the runs. -/
structure Agreed {ι : Type} (P : Platform) (work : ι → Work) (s : World)
    (H : ι → CallHistory) : Prop extends Accounted s H where
  taken : ∀ id, ∀ d ∈ s.decisions id, Taken P work s id d
  sent : ∀ i token output, wasSent token output (.ok ()) ∈ H i → (token, .success output) ∈ s.ended
  delivered : ∀ id item, s.approvals id = some item → item.callbackDelivered = true → Told s id

section Invariant

variable {ι : Type} {P : Platform} {work : ι → Work} {s s' : World}
  {H : ι → CallHistory} {id : Text} {e : Call} {r : e.Reply}

theorem Service.messages_subset (h : Service s e r s') : s.messages id ⊆ s'.messages id := by
  rcases h.cases_write with ⟨-, he⟩ | ⟨w, -, -, rfl⟩
  · rw [World.messages, World.messages, he]
    exact List.Subset.refl _
  · rw [World.messages_withItem]
    split
    · exact List.subset_append_right _ _
    · exact List.Subset.refl _

theorem Service.decisions_subset (h : Service s e r s') : s.decisions id ⊆ s'.decisions id := by
  rcases h.cases_write with ⟨-, he⟩ | ⟨w, -, -, rfl⟩
  · rw [World.decisions, World.decisions, he]
    exact List.Subset.refl _
  · rw [World.decisions_withItem]
    split
    · exact List.subset_append_right _ _
    · exact List.Subset.refl _

theorem Told.mono (h : Told s id) (hs : Service s e r s') : Told s' id := by
  obtain ⟨m, hm, d, hd, hended⟩ := h
  exact ⟨m, hs.messages_subset hm, d, hs.decisions_subset hd, hs.ended_subset hended⟩

theorem Taken.mono {d : Decided} (h : Taken P work s id d) (hs : Service s e r s') :
    Taken P work s' id d := by
  obtain ⟨i, r, readings, item, m, expires, hi, hid, hd, hm, hexpires⟩ := h
  exact ⟨i, r, readings, item, m, expires, hi, hid, hd, hs.messages_subset hm, hexpires⟩

/-- An event of a history that has grown by one. -/
theorem mem_grown [DecidableEq ι] {i j : ι} {ev new : Event Call Call.Reply}
    (h : ev ∈ Function.update H i (H i ++ [new]) j) : ev ∈ H j ∨ j = i ∧ ev = new := by
  by_cases hij : j = i
  · subst hij
    rw [Function.update_self] at h
    rcases List.mem_append.mp h with h | h
    · exact Or.inl h
    · exact Or.inr ⟨rfl, List.mem_singleton.mp h⟩
  · rw [Function.update_of_ne hij] at h
    exact Or.inl h

theorem kept_step (h : ∀ id, Kept (s.messages id) (s.decisions id) (s.approvals id))
    (hs : Service s e r s') (id : Text) :
    Kept (s'.messages id) (s'.decisions id) (s'.approvals id) := by
  rcases hs.cases_write with ⟨happrovals, happlied⟩ | ⟨w, -, hcondition, rfl⟩
  · rw [World.messages, World.decisions, happlied, happrovals]
    exact h id
  · rw [World.messages_withItem, World.decisions_withItem]
    by_cases hid : w.key = id
    · subst hid
      rw [if_pos rfl, if_pos rfl, World.withItem_self]
      exact kept_write (h w.key) hcondition
    · rw [if_neg hid, if_neg hid, World.withItem_of_ne (Ne.symm hid)]
      exact h id

/-- A stored item is of its message. -/
theorem Kept.found {messages : List Message} {decisions : List Decided} {item : Item}
    (h : Kept messages decisions (some item)) :
    ∃ m ∈ messages, item.From m ∧ ∀ d, item.decided = some d → d ∈ decisions := by
  obtain ⟨⟨m, rfl, hfrom⟩, rfl⟩ := h
  exact ⟨m, List.mem_singleton_self m, hfrom, fun d hd => by rw [hd]; exact List.mem_singleton_self d⟩

/-- The decision of a stored item, and its token, as they were written. -/
theorem Stored.of_accounted {i : ι} {q : DecideRequest} {d : Decided} {token : Text}
    {H₀ : CallHistory} (h : Accounted s H) (hstored : Stored P q H₀ d token)
    (hsub : H₀ ⊆ H i) :
    d ∈ s.decisions q.approvalId ∧ ∃ m ∈ s.messages q.approvalId, token = m.taskToken := by
  obtain ⟨item, hfound, hd, htoken⟩ := hstored.found
  obtain ⟨m, hm, hfrom, hdecided⟩ := h.found i _ item (hsub hfound)
  exact ⟨hdecided d hd, m, hm, hfrom.token token htoken⟩

/-- **The report is of the stored decision.** -/
theorem sentOutput_eq (hsep : SeparateRequests P work) (h : Agreed P work s H) {i : ι}
    {q : DecideRequest} {d : Decided} {token : Text} {H₀ : CallHistory} (hi : work i = .decide q)
    (hstored : Stored P q H₀ d token) (hd : d ∈ s.decisions q.approvalId) :
    sentOutput q d = d.output q.approvalId := by
  obtain ⟨j, q', readings, item, -, -, hj, -, rfl, -⟩ := h.taken _ d hd
  have hdecision := decision_of_digest (hsep j i q' q hj hi) hstored.digest
  rw [sentOutput, Decided.output, ← hdecision, ← hstored.subject, ← hstored.issuer]
  rfl

/-- An item that is marked as delivered was so, or is marked now. -/
theorem delivered_write {w : ApprovalWrite} {old : Option Item} {item : Item}
    (hitem : w.result old = some item) (hdelivered : item.callbackDelivered = true) :
    (∃ before, old = some before ∧ before.callbackDelivered = true) ∨
      ∃ digest attemptId now, w = .deliver w.key digest attemptId now := by
  cases old with
  | none =>
    cases w with
    | put =>
      obtain rfl := Option.some.inj hitem
      exact absurd hdelivered Bool.false_ne_true
    | _ => exact nomatch hitem
  | some before =>
    obtain rfl := Option.some.inj hitem
    cases w with
    | put => exact absurd hdelivered Bool.false_ne_true
    | decide => exact absurd hdelivered Bool.false_ne_true
    | attempt => exact Or.inl ⟨before, rfl, hdelivered⟩
    | close => exact Or.inl ⟨before, rfl, hdelivered⟩
    | deliver id digest attemptId now => exact Or.inr ⟨digest, attemptId, now, rfl⟩

theorem epoch_lt {a b : Int} (h : epoch a < epoch b) : a < b := by
  unfold epoch at h
  omega

theorem accounted_step [DecidableEq ι] {i : ι} (h : Accounted s H) (hs : Service s e r s') :
    Accounted s' (Function.update H i (H i ++ [⟨e, r⟩])) := by
  refine ⟨kept_step h.kept hs, ?_⟩
  intro j id item hfound
  rcases mem_grown hfound with hfound | ⟨rfl, hnew⟩
  · obtain ⟨m, hm, hfrom, hdecided⟩ := h.found j id item hfound
    exact ⟨m, hs.messages_subset hm, hfrom, fun d hd => hs.decisions_subset (hdecided d hd)⟩
  · obtain ⟨rfl, hr⟩ := Sigma.mk.inj hnew
    obtain rfl := eq_of_heq hr
    obtain ⟨rfl, hitem⟩ := hs.of_read
    have hkept := h.kept id
    rw [← hitem _ rfl] at hkept
    exact hkept.found

/-- **Every call keeps the invariant.** -/
theorem agreed_step [DecidableEq ι] (hsep : SeparateRequests P work) {i : ι} (h : Agreed P work s H)
    (hallowed : Allowed P (work i) (H i) e) (hs : Service s e r s') :
    Agreed P work s' (Function.update H i (H i ++ [⟨e, r⟩])) := by
  refine ⟨accounted_step h.toAccounted hs, ?_, ?_, ?_⟩
  · intro id d hd
    rcases hs.cases_write with ⟨-, happlied⟩ | ⟨w, rfl, -, hs'⟩
    · rw [World.decisions, happlied] at hd
      exact (h.taken id d hd).mono hs
    · have hd' := hd
      rw [hs', World.decisions_withItem] at hd'
      split at hd'
      · rename_i hid
        rcases List.mem_append.mp hd' with hd' | hd'
        · cases w with
          | decide key d' retention =>
            obtain ⟨q, readings, item, expires, hi, hkey, -, hfound, hd'', hexpires, htime⟩ :=
              hallowed
            obtain rfl := List.mem_singleton.mp hd'
            obtain rfl : key = id := hid
            obtain ⟨m, hm, hfrom, -⟩ := h.found i _ item hfound
            refine ⟨i, q, readings, item, m, expires, hi, hkey, hd'', hs.messages_subset hm, ?_,
              readings.property.trans_lt (epoch_lt htime)⟩
            rw [← hfrom.deadline]
            exact hexpires
          | _ => exact nomatch hd'
        · exact (h.taken id d hd').mono hs
      · exact (h.taken id d hd').mono hs
  · intro j token output hsent
    rcases mem_grown hsent with hsent | ⟨rfl, hnew⟩
    · exact hs.ended_subset (h.sent j token output hsent)
    · obtain ⟨rfl, hr⟩ := Sigma.mk.inj hnew
      obtain rfl := eq_of_heq hr
      exact hs.of_sent
  · intro id item hitem hdelivered
    rcases hs.cases_write with ⟨happrovals, -⟩ | ⟨w, rfl, -, hs'⟩
    · rw [happrovals] at hitem
      exact (h.delivered id item hitem hdelivered).mono hs
    · by_cases hid : id = w.key
      · subst hid
        rw [hs', World.withItem_self] at hitem
        rcases delivered_write hitem hdelivered with ⟨before, hbefore, hdelivered⟩ |
          ⟨digest, attemptId, now, hw⟩
        · exact (h.delivered _ before hbefore hdelivered).mono hs
        · rw [hw] at hallowed
          obtain ⟨q, d, token, H₀, hi, hid, -, hreported⟩ := hallowed
          have hsub : H₀ ⊆ H i := by
            rw [hreported.last]
            exact List.subset_append_left _ _
          obtain ⟨hd, m, hm, rfl⟩ := hreported.stored.of_accounted h.toAccounted hsub
          have hsent := h.sent i m.taskToken (sentOutput q d) (by
            rw [hreported.last]
            exact mem_last)
          rw [sentOutput_eq hsep h hi hreported.stored hd] at hsent
          rw [hid]
          exact ⟨m, hs.messages_subset hm, d, hs.decisions_subset hd, hs.ended_subset hsent⟩
      · rw [hs', World.withItem_of_ne hid] at hitem
        exact (h.delivered id item hitem hdelivered).mono hs

end Invariant

/-! ## 4. Every run -/

/-- Any number of invocations. -/
abbrev Lambdas (ι : Type) := Pool ι World Call Call.Reply Fault Unit

/-- Nothing has happened yet. -/
def Work.start {ι : Type} (P : Platform) (work : ι → Work) : Lambdas ι :=
  Pool.start .empty fun i => (work i).program P

/-- The item of an approval, and the one message it was stored from. -/
structure World.Holds (s : World) (id : Text) (item : Item) (m : Message) : Prop where
  stored : s.approvals id = some item
  messages : s.messages id = [m]
  deadline : item.approvalExpiresAt = m.expiresAt
  token : item.taskToken = none ∨ item.taskToken = some m.taskToken

/-- The decision was taken before the deadline of its approval. -/
def InTime (P : Platform) (item : Item) (d : Decided) : Prop :=
  ∃ now expires, d.decidedAt = P.toISOString now ∧
    P.dateParse item.approvalExpiresAt = some expires ∧ now < expires

section Runs

variable {ι : Type} {P : Platform} {work : ι → Work} {C : Lambdas ι}

theorem accounted_empty : Accounted .empty fun _ : ι => [] := by
  refine ⟨fun _ => ⟨rfl, rfl⟩, ?_⟩
  rintro _ _ _ ⟨⟩

theorem agreed_empty : Agreed P work .empty fun _ => [] := by
  refine ⟨accounted_empty, ?_, ?_, ?_⟩
  · rintro _ _ ⟨⟩
  · rintro _ _ _ ⟨⟩
  · rintro _ _ ⟨⟩

theorem agreed_run [DecidableEq ι] {Ok : Lambdas ι → Lambdas ι → Prop} (hsep : SeparateRequests P work)
    (hrun : Pool.Run Service Ok (Work.start P work) C) :
    Agreed P work C.shared C.history ∧
      ∀ i, Follows P (work i) (C.history i) (C.program i) := by
  refine Pool.invariant hrun (fun i => program_follows (work i)) agreed_empty ?_
  intro C₁ i e k r s' h _ hallowed hs _
  exact agreed_step hsep h hallowed hs

theorem Accounted.holds {s : World} {H : ι → CallHistory} {id : Text} {m : Message}
    (h : Accounted s H) (hm : m ∈ s.messages id) : ∃ item, s.Holds id item m := by
  have hkept := h.kept id
  cases hitem : s.approvals id with
  | none =>
    rw [hitem] at hkept
    rw [hkept.1] at hm
    exact nomatch hm
  | some item =>
    rw [hitem] at hkept
    obtain ⟨⟨m', hmessages, hfrom⟩, -⟩ := hkept
    rw [hmessages] at hm
    obtain rfl := List.mem_singleton.mp hm
    refine ⟨item, hitem, hmessages, hfrom.deadline, ?_⟩
    cases htoken : item.taskToken with
    | none => exact Or.inl rfl
    | some t => exact Or.inr (by rw [hfrom.token t htoken])

theorem Accounted.decisions_eq {s : World} {H : ι → CallHistory} (h : Accounted s H) (id : Text) :
    s.decisions id = ((s.approvals id).bind Item.decided).toList := by
  have hkept := h.kept id
  cases hitem : s.approvals id with
  | none =>
    rw [hitem] at hkept
    exact hkept.2
  | some item =>
    rw [hitem] at hkept
    exact hkept.2

/-- A decision that was written is the stored one. -/
theorem Accounted.decided {s : World} {H : ι → CallHistory} {id : Text} {item : Item} {d : Decided}
    (h : Accounted s H) (hitem : s.approvals id = some item) :
    d ∈ s.decisions id ↔ item.decided = some d := by
  rw [h.decisions_eq id, hitem, Option.bind_some, Option.mem_toList]

/-- **One decision for one approval**, in every state of every run: the decisions that were written
are the stored one, and it was taken in time; who stands before a report reports it, with the token
of the approval; and an approval that is marked as delivered was reported so. -/
theorem decided_once [DecidableEq ι] (hsep : SeparateRequests P work)
    (hrun : Pool.Run Service (fun _ _ => True) (Work.start P work) C) :
    (∀ id, C.shared.decisions id = ((C.shared.approvals id).bind Item.decided).toList) ∧
    (∀ id item d, C.shared.approvals id = some item → item.decided = some d → InTime P item d) ∧
    (∀ i token output k, C.program i = .call (.sendTaskSuccess token output) k →
      ∃ id item m d, C.shared.Holds id item m ∧ token = m.taskToken ∧ item.decided = some d ∧
        output = d.output id) ∧
    ∀ id item, C.shared.approvals id = some item → item.callbackDelivered = true →
      ∃ m d, C.shared.Holds id item m ∧ item.decided = some d ∧
        (m.taskToken, .success (d.output id)) ∈ C.shared.ended := by
  obtain ⟨h, hfollows⟩ := agreed_run hsep hrun
  refine ⟨h.decisions_eq, ?_, ?_, ?_⟩
  · intro id item d hitem hd
    obtain ⟨i, r, readings, item', m, expires, -, -, rfl, hm, hexpires, htime⟩ :=
      h.taken id d ((h.decided hitem).mpr hd)
    obtain ⟨item'', hholds⟩ := h.holds hm
    obtain rfl := Option.some.inj (hitem.symm.trans hholds.stored)
    exact ⟨_, expires, rfl, by rw [hholds.deadline, hexpires], htime⟩
  · intro i token output k hi
    have hcall := hfollows i
    rw [hi] at hcall
    obtain ⟨q, d, attemptId, now, hwork, -, hstored, -, rfl⟩ := hcall.1
    obtain ⟨hd, m, hm, rfl⟩ := hstored.of_accounted h.toAccounted (List.Subset.refl _)
    obtain ⟨item, hholds⟩ := h.holds hm
    exact ⟨_, item, m, d, hholds, rfl, (h.decided hholds.stored).mp hd,
      sentOutput_eq hsep h hwork hstored hd⟩
  · intro id item hitem hdelivered
    obtain ⟨m, hm, d, hd, hended⟩ := h.delivered id item hitem hdelivered
    obtain ⟨item', hholds⟩ := h.holds hm
    obtain rfl := Option.some.inj (hitem.symm.trans hholds.stored)
    exact ⟨m, d, hholds, (h.decided hitem).mp hd, hended⟩

end Runs

/-! ## 5. A run -/

section Sample

/-- A digest. -/
def sampleDigest : Text := js "sha256:" ++ List.replicate 64 0x61

/-- A message. -/
def sampleMessage : Message where
  taskToken := js "AQCEAAAAKgAAAAMA"
  executionId := js "arn:aws:states:eu-west-1:123456789012:execution:archon:run-1"
  approvalId := js "approval-1"
  planDigest := sampleDigest
  evidenceDigest := sampleDigest
  approvalRequestDigest := sampleDigest
  requestedAt := js "2026-01-01T00:00:00.000Z"
  expiresAt := js "2026-01-02T00:00:00.000Z"
  expiresEpoch := 1767312000

/-- The message as it stands on the queue. -/
def sampleRecord : QueueRecord where
  messageId := js "message-1"
  body := (stringify (object [("type", lit "APPROVAL_REQUESTED"),
    ("taskToken", .str sampleMessage.taskToken), ("executionId", .str sampleMessage.executionId),
    ("approvalId", .str sampleMessage.approvalId), ("planDigest", .str sampleMessage.planDigest),
    ("evidenceDigest", .str sampleMessage.evidenceDigest),
    ("approvalRequestDigest", .str sampleMessage.approvalRequestDigest),
    ("requestedAt", .str sampleMessage.requestedAt),
    ("expiresAt", .str sampleMessage.expiresAt)])).getD []

/-- Noon, in milliseconds. -/
def sampleNoon : Int := 1767268800000

/-- The approval. -/
def sampleRequest : DecideRequest :=
  ⟨js "request-1", js "approval-1", .APPROVE, [], js "steward", js "https://issuer"⟩

theorem sample_parse : parse Platform.node sampleRecord.body sampleNoon = .ok sampleMessage := by
  have h : (parse Platform.node sampleRecord.body sampleNoon).toOption = some sampleMessage := by
    simp only [sampleRecord, sampleMessage, object, lit, List.map_cons, List.map_nil]
    repeat rw [js_ofList]
    decide +kernel
  cases hp : parse Platform.node sampleRecord.body sampleNoon with
  | error e =>
    rw [hp] at h
    cases h
  | ok m =>
    rw [hp] at h
    exact congrArg Except.ok (Option.some.inj h)

/-- The calls that store a message. -/
def storing (P : Platform) (q : QueueRecord) (m : Message) (now : Int) : CallHistory :=
  [hadParseClock q.body now, ⟨.clock, now⟩, wasWritten (.put m (P.toISOString now)) (.ok ())]

theorem storing_reaches {P : Platform} {q : QueueRecord} {m : Message} {now : Int}
    (hm : parse P q.body now = .ok m) :
    ((Work.handoff [q]).program P).Reaches (storing P q m now) (.done (.ok ())) := by
  refine .step ?_
  dsimp only [Program.bind]
  rw [hm]
  exact .step (.step (.refl _))

/-- What goes on to the callback. -/
theorem onDecided_eq {P : Platform} {r : DecideRequest} {item current : Item} {token at_ now : Text}
    {nowEpoch : Int} (hstatus : item.status = .DECIDED)
    (hd : item.decided = some (decidedOf P r current at_)) (hdelivered : item.callbackDelivered = false)
    (hclosed : item.callbackClosed = false) (htoken : item.taskToken = some token)
    (hne : token.isEmpty = false)
    (hat : at_.isEmpty = false ∧ (P.dateParse at_).isNone = false) :
    onDecided P r (canonicalDigest P (decisionEvidence P r current)) now nowEpoch (some item)
      = attemptCallback P r token at_ now nowEpoch := by
  have hguard : decidedOtherwise P r (canonicalDigest P (decisionEvidence P r current)) (some item)
      = false := by
    simp [decidedOtherwise, hstatus, hd, decidedOf]
  simp only [onDecided, hguard, Bool.false_eq_true, if_false, Option.bind_some, callbackOver,
    hdelivered, hclosed, htoken, hd, Option.map_some, hne]
  simp [decidedOf, hat.1, hat.2]

/-- The write of the first decision of a request. -/
def firstDecision (P : Platform) (r : DecideRequest) (item : Item) (now : Int) : ApprovalWrite :=
  .decide r.approvalId (decidedOf P r item (P.toISOString now)) (epoch now + DECIDED_RETENTION_SECONDS)

/-- The callback lease of a request. -/
def leaseOf (P : Platform) (r : DecideRequest) (now : Int) : ApprovalWrite :=
  .attempt r.approvalId (canonicalDigest P (decisionRecord r))
    (callbackAttemptId P r (canonicalDigest P (decisionRecord r)) (P.toISOString now))
    (P.toISOString now) (epoch now)

/-- The calls of a request that decides, up to the callback. -/
def deciding (P : Platform) (r : DecideRequest) (item : Item) (now : Int) : CallHistory :=
  [hadClocks ⟨(now, now), le_rfl⟩, wasRead r.approvalId (some item),
    wasWritten (firstDecision P r item now) (.ok ()),
    wasRead r.approvalId (some ((firstDecision P r item now).update item)),
    wasWritten (leaseOf P r now) (.ok ())]

/-- The request stands before its report. -/
def calling (P : Platform) (r : DecideRequest) (token decidedAt : Text) (now : Int) : Handler Unit :=
  callBack P r token decidedAt
    (callbackAttemptId P r (canonicalDigest P (decisionRecord r)) (P.toISOString now))
    (P.toISOString now) >>= fun _ => pure ()

theorem deciding_reaches {P : Platform} {r : DecideRequest} {m : Message} {createdAt : Text}
    {now expires : Int} (hexpires : P.dateParse m.expiresAt = some expires)
    (htime : epoch now < epoch expires) (hne : m.taskToken.isEmpty = false)
    (hat : (P.toISOString now).isEmpty = false ∧ (P.dateParse (P.toISOString now)).isNone = false) :
    ((Work.decide r).program P).Reaches (deciding P r (m.item createdAt) now)
      (calling P r m.taskToken (P.toISOString now) now) := by
  have hexpires' : P.dateParse (m.item createdAt).approvalExpiresAt = some expires := hexpires
  have honward : onDecided P r (canonicalDigest P (decisionEvidence P r (m.item createdAt)))
      (P.toISOString now) (epoch now) (some ((firstDecision P r (m.item createdAt) now).update
        (m.item createdAt))) = attemptCallback P r m.taskToken (P.toISOString now)
          (P.toISOString now) (epoch now) :=
    onDecided_eq rfl rfl rfl rfl rfl hne hat
  refine .step (.step ?_)
  dsimp only [Program.bind, Program.lift, thrown, Except.mapError]
  rw [hexpires']
  dsimp only
  rw [if_pos (show (m.item createdAt).status = .PENDING from rfl), if_neg (not_le.mpr htime)]
  refine .step (.step ?_)
  dsimp only [Program.bind, Program.lift, thrown, Except.mapError]
  rw [honward]
  exact .step (.refl _)

/-- The mark of a request that was heard. -/
def markOf (P : Platform) (r : DecideRequest) (now : Int) : ApprovalWrite :=
  .deliver r.approvalId (canonicalDigest P (decisionRecord r))
    (callbackAttemptId P r (canonicalDigest P (decisionRecord r)) (P.toISOString now))
    (P.toISOString now)

/-- A report that was accepted, and the mark. -/
def delivering (P : Platform) (r : DecideRequest) (token decidedAt : Text) (now : Int) :
    CallHistory :=
  [wasSent token (outputOf r.approvalId r.decision r.subject r.issuer decidedAt) (.ok ()),
    wasWritten (markOf P r now) (.ok ())]

theorem delivering_reaches {P : Platform} {r : DecideRequest} {token decidedAt : Text} {now : Int} :
    (calling P r token decidedAt now).Reaches (delivering P r token decidedAt now) (.done (.ok ())) :=
  .step <| .step <| .refl _

/-! ### What the services make of it -/

variable {P : Platform} {s : World} {r : DecideRequest} {m : Message} {item : Item} {now : Int}

/-- The world after a write. -/
def ApprovalWrite.applyTo (w : ApprovalWrite) (s : World) : World := w.guarded.result s

theorem applyTo_approvals {w : ApprovalWrite} {id : Text} (hid : w.key = id)
    (hitem : s.approvals id = some item) : (w.applyTo s).approvals id = some (w.update item) := by
  subst hid
  rw [ApprovalWrite.applyTo, ApprovalWrite.guarded, World.withItem_self, hitem]
  rfl

theorem Service.tells {id : Text} {found : Option Item} (h : s.approvals id = found) :
    Service s (.read id) (.ok found) s := by
  subst h
  exact .read s id

theorem Service.writes {w : ApprovalWrite} {id : Text} (hid : w.key = id)
    (hitem : s.approvals id = some item) (hmeets : w.meets item = true) :
    Service s (.write w) (.ok ()) (w.applyTo s) := by
  subst hid
  refine .write (.applied ?_ (.ok ())) nofun
  show w.condition (s.approvals w.key) = true
  rw [hitem]
  exact hmeets

theorem moves_storing {q : QueueRecord} (hnone : s.approvals m.approvalId = none) :
    Pool.Moves Service s (storing P q m now)
      ((ApprovalWrite.put m (P.toISOString now)).applyTo s) :=
  .cons (.parseClock _ _ _) <| .cons (.clock _ _) <| .cons (.write (.applied (by
    show ApprovalWrite.condition (.put m _) (s.approvals m.approvalId) = true
    rw [hnone]
    rfl) _) nofun) <| .nil _

theorem moves_deciding (hitem : s.approvals r.approvalId = some item)
    (hpending : item.status = .PENDING) (hlease : item.callbackLeaseUntil = none) :
    Pool.Moves Service s (deciding P r item now)
      ((leaseOf P r now).applyTo ((firstDecision P r item now).applyTo s)) := by
  have hpending' : (firstDecision P r item now).meets item = true := decide_eq_true hpending
  have hfirst : Service s (.write (firstDecision P r item now)) (.ok ())
      ((firstDecision P r item now).applyTo s) := .writes rfl hitem hpending'
  have hdecided : ((firstDecision P r item now).applyTo s).approvals r.approvalId
      = some ((firstDecision P r item now).update item) := applyTo_approvals rfl hitem
  have hmeets : (leaseOf P r now).meets ((firstDecision P r item now).update item) = true := by
    simp [leaseOf, ApprovalWrite.meets, firstDecision, ApprovalWrite.update,
      ApprovalWrite.hasDigest, decidedOf, hlease]
  have hlease : Service ((firstDecision P r item now).applyTo s) (.write (leaseOf P r now)) (.ok ())
      ((leaseOf P r now).applyTo ((firstDecision P r item now).applyTo s)) :=
    .writes rfl hdecided hmeets
  exact .cons (.clocks _ _) <| .cons (.tells hitem) <| .cons hfirst <| .cons (.tells hdecided) <|
    .cons hlease <| .nil _

theorem moves_delivering {token decidedAt : Text} (hopen : s.Open token)
    (hitem : s.approvals r.approvalId = some item) (hmeets : (markOf P r now).meets item = true) :
    Pool.Moves Service s (delivering P r token decidedAt now)
      ((markOf P r now).applyTo (s.finish token
        (.success (outputOf r.approvalId r.decision r.subject r.issuer decidedAt)))) := by
  have hmark : Service (s.finish token
      (.success (outputOf r.approvalId r.decision r.subject r.issuer decidedAt)))
      (.write (markOf P r now)) (.ok ()) ((markOf P r now).applyTo (s.finish token
        (.success (outputOf r.approvalId r.decision r.subject r.issuer decidedAt)))) :=
    .writes rfl hitem hmeets
  exact .cons (.sendTaskSuccess (.accepted hopen _)) <| .cons hmark <| .nil _

/-- The request, made again. -/
def sampleRetry : DecideRequest := { sampleRequest with requestId := js "request-2" }

/-- A message is stored, a request decides, and is made again. -/
def sampleWork : Fin 3 → Work
  | 0 => .handoff [sampleRecord]
  | 1 => .decide sampleRequest
  | 2 => .decide sampleRetry

/-- The approval that the message is stored as. -/
def sampleItem : Item := sampleMessage.item (Platform.node.toISOString sampleNoon)

/-- The world after the callback lease. -/
def sampleLeased : World :=
  (leaseOf Platform.node sampleRequest sampleNoon).applyTo
    ((firstDecision Platform.node sampleRequest sampleItem sampleNoon).applyTo
      ((ApprovalWrite.put sampleMessage (Platform.node.toISOString sampleNoon)).applyTo .empty))

/-- The item under the callback lease. -/
def sampleHeld : Item :=
  (leaseOf Platform.node sampleRequest sampleNoon).update
    ((firstDecision Platform.node sampleRequest sampleItem sampleNoon).update sampleItem)

theorem sample_held : sampleLeased.approvals sampleRequest.approvalId = some sampleHeld := by
  have hput : ((ApprovalWrite.put sampleMessage (Platform.node.toISOString sampleNoon)).applyTo
      .empty).approvals sampleRequest.approvalId = some sampleItem := World.withItem_self ..
  exact applyTo_approvals rfl (applyTo_approvals rfl hput)

theorem sample_iso : (Platform.node.toISOString sampleNoon).isEmpty = false ∧
    (Platform.node.dateParse (Platform.node.toISOString sampleNoon)).isNone = false := by
  decide +kernel

theorem sample_expires : Platform.node.dateParse sampleMessage.expiresAt = some 1767312000000 := by
  decide +kernel

/-- The message is stored, and the request stands before its report. -/
theorem sample_calling : ∃ C, Pool.Run Service (fun _ _ => True)
    (Work.start Platform.node sampleWork) C ∧ C.shared = sampleLeased ∧
      C.program 1 = calling Platform.node sampleRequest sampleMessage.taskToken
        (Platform.node.toISOString sampleNoon) sampleNoon ∧
      C.program 2 = (Work.decide sampleRetry).program Platform.node := by
  have hstart : Pool.Run Service (fun _ _ => True) (Work.start Platform.node sampleWork)
      (Work.start Platform.node sampleWork) := .refl
  have hfirst : (Work.start Platform.node sampleWork).program 0
      = (Work.handoff [sampleRecord]).program Platform.node := rfl
  obtain ⟨C₁, hrun₁, hs₁, hp₁, -⟩ := hstart.alone (i := 0)
    (hfirst ▸ storing_reaches sample_parse) (moves_storing rfl) fun _ _ _ _ _ _ => trivial
  have hprogram : C₁.program 1 = (Work.decide sampleRequest).program Platform.node := by
    rw [hp₁, Function.update_of_ne (by decide)]
    rfl
  have hitem : C₁.shared.approvals sampleRequest.approvalId = some sampleItem := by
    rw [hs₁]
    exact World.withItem_self ..
  obtain ⟨C₂, hrun₂, hs₂, hp₂, -⟩ := hrun₁.alone (i := 1)
    (hprogram ▸ deciding_reaches sample_expires (by decide) (by decide) sample_iso)
    (moves_deciding hitem rfl rfl) fun _ _ _ _ _ _ => trivial
  refine ⟨C₂, hrun₂, ?_, ?_, ?_⟩
  · rw [hs₂, hs₁]
    rfl
  · rw [hp₂, Function.update_self]
  · rw [hp₂, Function.update_of_ne (by decide), hp₁, Function.update_of_ne (by decide)]
    rfl

theorem sampleRetry_recordText : sampleRetry.recordText = sampleRequest.recordText := by
  unfold DecideRequest.recordText decisionRecord
  rw [sampleRetry]

theorem sample_recordText {i : Fin 3} {r : DecideRequest} (hi : sampleWork i = .decide r) :
    r.recordText = sampleRequest.recordText := by
  match i with
  | 0 => exact nomatch hi
  | 1 => rw [← Work.decide.inj hi]
  | 2 => rw [← Work.decide.inj hi, sampleRetry_recordText]

theorem sample_separate : SeparateRequests Platform.node sampleWork :=
  fun _ _ _ _ hi hj _ => (sample_recordText hi).trans (sample_recordText hj).symm

/-- What `decided_once` says where the approval is delivered. -/
theorem decided_once_sample : ∃ (C : Lambdas (Fin 3)) (item : Item) (m : Message) (d : Decided),
    Pool.Run Service (fun _ _ => True) (Work.start Platform.node sampleWork) C ∧
    item.callbackDelivered = true ∧ C.shared.Holds sampleRequest.approvalId item m ∧
    item.decided = some d ∧
    (m.taskToken, .success (d.output sampleRequest.approvalId)) ∈ C.shared.ended := by
  obtain ⟨C₁, hrun₁, hs₁, hp₁, -⟩ := sample_calling
  have hopen : C₁.shared.Open sampleMessage.taskToken := by
    rw [hs₁]
    exact fun _ => List.not_mem_nil
  have hitem : C₁.shared.approvals sampleRequest.approvalId = some sampleHeld := by
    rw [hs₁]
    exact sample_held
  have hmeets : (markOf Platform.node sampleRequest sampleNoon).meets sampleHeld = true := by
    simp [markOf, sampleHeld, leaseOf, firstDecision, ApprovalWrite.meets, ApprovalWrite.update,
      ApprovalWrite.hasDigest, decidedOf]
  have hdelivering : Pool.Moves Service C₁.shared (delivering Platform.node sampleRequest
      sampleMessage.taskToken (Platform.node.toISOString sampleNoon) sampleNoon) _ :=
    moves_delivering hopen hitem hmeets
  obtain ⟨C₂, hrun₂, hs₂, -, -⟩ := hrun₁.alone (i := 1) (hp₁ ▸ delivering_reaches) hdelivering
    fun _ _ _ _ _ _ => trivial
  have hitem₂ : C₂.shared.approvals sampleRequest.approvalId
      = some ((markOf Platform.node sampleRequest sampleNoon).update sampleHeld) := by
    rw [hs₂]
    exact applyTo_approvals rfl hitem
  obtain ⟨-, -, -, hdelivered⟩ := decided_once sample_separate hrun₂
  obtain ⟨m, d, hholds, hd, hended⟩ := hdelivered _ _ hitem₂ rfl
  exact ⟨C₂, _, m, d, hrun₂, rfl, hholds, hd, hended⟩

end Sample

end Callback
