/-
# Approvals that are closed

Where Step Functions says that a token has ended, the approval is marked as closed: its decision is
recorded, and the workflow can not be told of it.  What the code knows then is only that its own
report came too late.  The token may have lapsed, or another attempt may have used it.

`closed_unheard` says both halves.  In every run an attempt closes only on such an answer to its own
report, of the stored decision with the stored token, and never after a report that was answered
`ok`.  And as long as no callback lease is taken over when it has run out, and no accepted report
loses its answer, an approval that Step Functions has accepted a decision of is never closed.
Without the second part it is not so: `closed_heard` is a run in which the first attempt is heard and
crashes, and the next one closes the approval.
-/
import Archon.Callback.Redelivery

namespace Callback

open Ecma Ecma.Value Remediation Resumption Resumption.Program

/-! ## 1. Who holds the callback lease -/

/-- Step Functions has accepted a decision of the approval. -/
def World.Heard (s : World) (id : Text) : Prop :=
  ∃ token output, output.get (js "approvalId") = .str id ∧ (token, .success output) ∈ s.ended

/-- The call marks an approval as closed. -/
def Call.closes : Call → Bool
  | write (.close _ _ _ _) => true
  | _ => false

/-- Nothing was closed. -/
def Unclosed (H : CallHistory) : Prop := ∀ ev ∈ H, ev.1.closes = false

/-- The event takes the callback lease of an approval. -/
def TakesLease (id : Text) (ev : Event Call Call.Reply) : Prop :=
  ∃ digest attemptId now nowEpoch,
    ev = wasWritten (.attempt id digest attemptId now nowEpoch) (.ok ())

/-- The invocation has taken the callback lease of an approval, and not given it back by closing. -/
def Holder {ι : Type} (H : ι → CallHistory) (id : Text) (i : ι) : Prop :=
  (∃ ev ∈ H i, TakesLease id ev) ∧ Unclosed (H i)

/-- No callback lease is taken over, and no report that is accepted loses its answer. -/
structure Steady {ι : Type} (C C' : Lambdas ι) : Prop where
  lease : ∀ id digest attemptId now nowEpoch item,
    C'.shared.applied = .attempt id digest attemptId now nowEpoch :: C.shared.applied →
      C.shared.approvals id = some item → item.callbackLeaseUntil = none
  answer : ∀ token output, C'.shared.ended = (token, .success output) :: C.shared.ended →
    ∃ i, C'.history i = C.history i ++ [wasSent token output (.ok ())]

section Histories

variable {ι : Type} {H : ι → CallHistory} {H₀ : CallHistory} {i j : ι} {id : Text}
  {ev new : Event Call Call.Reply}

theorem Silent.unclosed (h : Silent H₀) : Unclosed H₀ := by
  rintro ⟨e, r⟩ hev
  have hcalls := h _ hev
  cases e with
  | write w =>
    cases w with
    | close => exact absurd (show true = false from hcalls) (by decide)
    | _ => rfl
  | _ => rfl

theorem Unclosed.grow (h : Unclosed H₀) (hnew : new.1.closes = false) : Unclosed (H₀ ++ [new]) := by
  intro ev hev
  rcases List.mem_append.mp hev with hev | hev
  · exact h ev hev
  · rw [List.mem_singleton.mp hev]
    exact hnew

/-- Who holds the lease after a call held it before, or has taken it. -/
theorem Holder.before [DecidableEq ι]
    (h : Holder (Function.update H i (H i ++ [new])) id j) :
    Holder H id j ∨ j = i ∧ TakesLease id new := by
  obtain ⟨⟨ev, hev, htakes⟩, hunclosed⟩ := h
  rcases mem_grown hev with hev' | ⟨hij, rfl⟩
  · refine Or.inl ⟨⟨ev, hev', htakes⟩, fun ev' hev' => hunclosed ev' ?_⟩
    by_cases hij : j = i
    · subst hij
      rw [Function.update_self]
      exact List.mem_append_left _ hev'
    · rwa [Function.update_of_ne hij]
  · exact Or.inr ⟨hij, htakes⟩

/-- Who holds the lease holds it after a call that does not close. -/
theorem Holder.after [DecidableEq ι] (h : Holder H id j) (hnew : j = i → new.1.closes = false) :
    Holder (Function.update H i (H i ++ [new])) id j := by
  obtain ⟨⟨ev, hev, htakes⟩, hunclosed⟩ := h
  by_cases hij : j = i
  · subst hij
    refine ⟨⟨ev, ?_, htakes⟩, ?_⟩
    · rw [Function.update_self]
      exact List.mem_append_left _ hev
    · rw [Function.update_self]
      exact hunclosed.grow (hnew rfl)
  · refine ⟨⟨ev, ?_, htakes⟩, ?_⟩
    · rwa [Function.update_of_ne hij]
    · rwa [Function.update_of_ne hij]

/-- Who has closed holds no lease. -/
theorem not_holder_of_closes [DecidableEq ι] (hnew : new.1.closes = true) :
    ¬ Holder (Function.update H i (H i ++ [new])) id i := by
  rintro ⟨-, hunclosed⟩
  have h := hunclosed new (by rw [Function.update_self]; exact mem_last)
  rw [hnew] at h
  exact absurd h (by decide)

end Histories

/-! ## 2. The invariant -/

/-- The invariant of the runs that are steady. -/
structure Tidy {ι : Type} (s : World) (H : ι → CallHistory) : Prop extends Accounted s H where
  known : ∀ id i, Holder H id i → ∃ item, s.approvals id = some item ∧ item.status ≠ .PENDING
  alone : ∀ id item, s.approvals id = some item → item.callbackDelivered = false →
    ∀ i j, Holder H id i → Holder H id j → i = j
  free : ∀ id item, s.approvals id = some item → item.callbackDelivered = false →
    item.callbackLeaseUntil = none → ∀ i, ¬ Holder H id i
  heard : ∀ id, s.Heard id → ∃ i, Holder H id i ∧ ∃ token output,
    wasSent token output (.ok ()) ∈ H i
  ended : ∀ i token output, wasSent token output (.error .taskEnded) ∈ H i → ¬ s.Open token
  closed : ∀ id item, s.approvals id = some item → item.callbackClosed = true →
    ¬ s.Heard id ∧ ∀ m ∈ s.messages id, ¬ s.Open m.taskToken

section Step

variable {ι : Type} {P : Platform} {work : ι → Work} {s s' : World} {H : ι → CallHistory} {i : ι}
  {id : Text} {e : Call} {r : e.Reply}

/-- A write that is answered was applied. -/
theorem Service.of_written {w : ApprovalWrite} (h : Service s (.write w) (.ok ()) s') :
    w.condition (s.approvals w.key) = true ∧ s'.applied = w :: s.applied := by
  cases h with
  | write hw =>
    cases hw with
    | applied hcondition => exact ⟨hcondition, rfl⟩

/-- Whoever takes a lease changes its approval. -/
theorem Service.of_takesLease (hs : Service s e r s') (htakes : TakesLease id ⟨e, r⟩) :
    ∃ digest attemptId now nowEpoch, e = .write (.attempt id digest attemptId now nowEpoch) ∧
      s'.applied = .attempt id digest attemptId now nowEpoch :: s.applied := by
  obtain ⟨digest, attemptId, now, nowEpoch, hev⟩ := htakes
  obtain ⟨rfl, hr⟩ := Sigma.mk.inj hev
  obtain rfl := eq_of_heq hr
  exact ⟨digest, attemptId, now, nowEpoch, rfl, hs.of_written.2⟩

/-- A step ends a token, or it does not. -/
theorem Service.cases_ended (hs : Service s e r s') :
    s'.ended = s.ended ∨ ∃ token ending, s'.ended = (token, ending) :: s.ended ∧ s.Open token ∧
      ∀ output, ending = .success output → e = .sendTaskSuccess token output := by
  cases hs with
  | write hw => cases hw <;> exact Or.inl rfl
  | @sendTaskSuccess _ token output _ h =>
    cases h with
    | accepted hopen =>
      exact Or.inr ⟨token, _, rfl, hopen, fun _ he => by rw [Ending.success.inj he]⟩
    | lapsed hopen => exact Or.inr ⟨token, _, rfl, hopen, nofun⟩
    | ended => exact Or.inl rfl
    | failed => exact Or.inl rfl
  | sendTaskFailure h =>
    cases h with
    | accepted hopen => exact Or.inr ⟨_, _, rfl, hopen, nofun⟩
    | lapsed hopen => exact Or.inr ⟨_, _, rfl, hopen, nofun⟩
    | ended => exact Or.inl rfl
    | failed => exact Or.inl rfl
  | _ => exact Or.inl rfl

/-- What has ended does not open again. -/
theorem Service.not_open {token : Text} (hs : Service s e r s') (h : ¬ s.Open token) :
    ¬ s'.Open token :=
  fun hopen => h fun ending hmem => hopen ending (hs.ended_subset hmem)

/-- An approval that is decided stays so. -/
theorem status_write {w : ApprovalWrite} {item : Item} (hcondition : w.condition (some item) = true)
    (h : item.status ≠ .PENDING) : (w.update item).status ≠ .PENDING := by
  cases w with
  | put => exact absurd hcondition Bool.false_ne_true
  | decide => exact nofun
  | _ => exact h

/-- An item that has a digest is decided. -/
theorem Accounted.status_of_hasDigest {item : Item} {digest : Text} (h : Accounted s H)
    (hitem : s.approvals id = some item) (hdigest : ApprovalWrite.hasDigest item digest = true) :
    item.status ≠ .PENDING := by
  have hkept := h.kept id
  rw [hitem] at hkept
  obtain ⟨⟨m, -, hfrom⟩, -⟩ := hkept
  exact fun hp => decided_of_hasDigest hdigest (hfrom.pending hp).1

theorem known_step [DecidableEq ι] (h : Tidy s H) (hs : Service s e r s') (j : ι)
    (hholder : Holder (Function.update H i (H i ++ [⟨e, r⟩])) id j) :
    ∃ item, s'.approvals id = some item ∧ item.status ≠ .PENDING := by
  have hold : ∃ item, s.approvals id = some item ∧ item.status ≠ .PENDING := by
    rcases hholder.before with hholder | ⟨-, digest, attemptId, now, nowEpoch, hev⟩
    · exact h.known id j hholder
    · obtain ⟨rfl, hr⟩ := Sigma.mk.inj hev
      obtain rfl := eq_of_heq hr
      obtain ⟨hcondition, -⟩ := hs.of_written
      cases hitem : s.approvals id with
      | none =>
        rw [show (ApprovalWrite.attempt id digest attemptId now nowEpoch).key = id from rfl,
          hitem] at hcondition
        exact absurd hcondition Bool.false_ne_true
      | some item =>
        rw [show (ApprovalWrite.attempt id digest attemptId now nowEpoch).key = id from rfl,
          hitem] at hcondition
        simp only [ApprovalWrite.condition, ApprovalWrite.meets, Bool.and_eq_true] at hcondition
        exact ⟨item, rfl, h.toAccounted.status_of_hasDigest hitem hcondition.1.1⟩
  obtain ⟨item, hitem, hstatus⟩ := hold
  rcases hs.cases_write with ⟨happrovals, -⟩ | ⟨w, -, hcondition, rfl⟩
  · exact ⟨item, by rw [happrovals, hitem], hstatus⟩
  · by_cases hid : id = w.key
    · subst hid
      rw [hitem] at hcondition
      refine ⟨w.update item, ?_, status_write hcondition hstatus⟩
      rw [World.withItem_self, hitem]
      rfl
    · exact ⟨item, by rw [World.withItem_of_ne hid, hitem], hstatus⟩

/-- Who has taken the lease, and not closed, holds it. -/
theorem Leased.holder {q : DecideRequest} {attemptId now : Text}
    (h : Leased P q (H i) attemptId now) (hunclosed : Unclosed (H i)) : Holder H q.approvalId i := by
  obtain ⟨nowEpoch, hleased⟩ := h
  exact ⟨⟨_, hleased, _, _, _, _, rfl⟩, hunclosed⟩

/-- Who stands before closing holds the lease, and was told that the token has ended. -/
theorem Reported.holder {q : DecideRequest} {attemptId now token : Text} {d : Decided}
    {answer : Except ServiceFault Unit} {H₀ : CallHistory}
    (h : Reported P q (H i) attemptId now answer d token H₀) :
    Holder H q.approvalId i ∧ wasSent token (sentOutput q d) answer ∈ H i := by
  obtain ⟨nowEpoch, hleased⟩ := h.leased
  have hleased' : Leased P q (H i) attemptId now := by
    rw [h.last]
    exact ⟨nowEpoch, mem_before hleased⟩
  have hunclosed : Unclosed (H i) := by
    rw [h.last]
    exact h.silent.unclosed.grow rfl
  refine ⟨hleased'.holder hunclosed, ?_⟩
  rw [h.last]
  exact mem_last

/-- A report has one answer. -/
theorem Reported.answer_eq {q : DecideRequest} {attemptId now token token' : Text} {d : Decided}
    {answer answer' : Except ServiceFault Unit} {output : Value} {H₀ : CallHistory}
    (h : Reported P q (H i) attemptId now answer d token H₀)
    (hsent : wasSent token' output answer' ∈ H i) : answer' = answer := by
  rw [h.last] at hsent
  rcases List.mem_append.mp hsent with hsent | hsent
  · exact absurd (h.silent _ hsent) (by simp [wasSent, Call.callsBack])
  · obtain ⟨hcall, hr⟩ := Sigma.mk.inj (List.mem_singleton.mp hsent)
    cases hcall
    exact eq_of_heq hr

/-- What the lease of an approval is worth after a write to it. -/
theorem holders_write [DecidableEq ι] {w : ApprovalWrite} (h : Tidy s H)
    (hallowed : Allowed P (work i) (H i) (.write w)) (hid : w.key = id)
    (hcondition : w.condition (s.approvals id) = true)
    (hlease : ∀ digest attemptId now nowEpoch, w = .attempt id digest attemptId now nowEpoch →
      ∀ item, s.approvals id = some item → item.callbackLeaseUntil = none)
    {item : Item} (hitem : w.result (s.approvals id) = some item)
    (hdelivered : item.callbackDelivered = false) {r : Except ServiceFault Unit} :
    (∀ j k, Holder (Function.update H i (H i ++ [wasWritten w r])) id j →
      Holder (Function.update H i (H i ++ [wasWritten w r])) id k → j = k) ∧
    (item.callbackLeaseUntil = none →
      ∀ j, ¬ Holder (Function.update H i (H i ++ [wasWritten w r])) id j) := by
  cases w with
  | put m createdAt =>
    have hnone : ∀ j, ¬ Holder (Function.update H i (H i ++ [wasWritten (.put m createdAt) r])) id j := by
      intro j hholder
      rcases hholder.before with hholder | ⟨-, _, _, _, _, hev⟩
      · obtain ⟨before, hbefore, -⟩ := h.known id j hholder
        rw [hbefore] at hcondition
        exact Bool.false_ne_true hcondition
      · exact nomatch (Sigma.mk.inj hev).1
    exact ⟨fun j _ hj => absurd hj (hnone j), fun _ => hnone⟩
  | decide key d retention =>
    have hnone : ∀ j,
        ¬ Holder (Function.update H i (H i ++ [wasWritten (.decide key d retention) r])) id j := by
      intro j hholder
      rcases hholder.before with hholder | ⟨-, _, _, _, _, hev⟩
      · obtain ⟨before, hbefore, hstatus⟩ := h.known id j hholder
        rw [hbefore] at hcondition
        exact hstatus (of_decide_eq_true hcondition)
      · exact nomatch (Sigma.mk.inj hev).1
    exact ⟨fun j _ hj => absurd hj (hnone j), fun _ => hnone⟩
  | attempt key digest attemptId now nowEpoch =>
    obtain rfl : key = id := hid
    cases hbefore : s.approvals key with
    | none =>
      rw [hbefore] at hcondition
      exact absurd hcondition Bool.false_ne_true
    | some before =>
      rw [hbefore] at hcondition hitem
      obtain rfl := Option.some.inj hitem
      have hfree := h.free key before hbefore hdelivered (hlease _ _ _ _ rfl before hbefore)
      have hnew : ∀ j, Holder (Function.update H i
          (H i ++ [wasWritten (.attempt key digest attemptId now nowEpoch) r])) key j → j = i := by
        intro j hj
        rcases hj.before with hj | ⟨hj, -⟩
        · exact absurd hj (hfree j)
        · exact hj
      exact ⟨fun j k hj hk => (hnew j hj).trans (hnew k hk).symm, nofun⟩
  | close key digest attemptId now =>
    obtain rfl : key = id := hid
    obtain ⟨q, d, token, H₀, -, hkey, -, hreported⟩ := hallowed
    cases hbefore : s.approvals key with
    | none =>
      rw [hbefore] at hcondition
      exact absurd hcondition Bool.false_ne_true
    | some before =>
      rw [hbefore] at hcondition hitem
      obtain rfl := Option.some.inj hitem
      have hi : Holder H key i := hkey ▸ hreported.holder.1
      have hnone : ∀ j, ¬ Holder (Function.update H i
          (H i ++ [wasWritten (.close key digest attemptId now) r])) key j := by
        intro j hj
        rcases hj.before with hj' | ⟨-, _, _, _, _, hev⟩
        · obtain rfl := h.alone key before hbefore hdelivered j i hj' hi
          exact not_holder_of_closes rfl hj
        · exact nomatch (Sigma.mk.inj hev).1
      exact ⟨fun j _ hj => absurd hj (hnone j), fun _ => hnone⟩
  | deliver key digest attemptId now =>
    cases hbefore : s.approvals id with
    | none =>
      rw [hbefore] at hcondition
      exact absurd hcondition Bool.false_ne_true
    | some before =>
      rw [hbefore] at hitem
      obtain rfl := Option.some.inj hitem
      exact absurd hdelivered.symm Bool.false_ne_true

/-- The holders of a lease and the item after a step. -/
theorem holders_step [DecidableEq ι] (h : Tidy s H) (hallowed : Allowed P (work i) (H i) e)
    (hs : Service s e r s')
    (hlease : ∀ digest attemptId now nowEpoch item,
      s'.applied = .attempt id digest attemptId now nowEpoch :: s.applied →
        s.approvals id = some item → item.callbackLeaseUntil = none)
    {item : Item} (hitem : s'.approvals id = some item) (hdelivered : item.callbackDelivered = false) :
    (∀ j k, Holder (Function.update H i (H i ++ [⟨e, r⟩])) id j →
      Holder (Function.update H i (H i ++ [⟨e, r⟩])) id k → j = k) ∧
    (item.callbackLeaseUntil = none →
      ∀ j, ¬ Holder (Function.update H i (H i ++ [⟨e, r⟩])) id j) := by
  have hsame : s.approvals id = some item → ¬ TakesLease id ⟨e, r⟩ →
      (∀ j k, Holder (Function.update H i (H i ++ [⟨e, r⟩])) id j →
        Holder (Function.update H i (H i ++ [⟨e, r⟩])) id k → j = k) ∧
      (item.callbackLeaseUntil = none →
        ∀ j, ¬ Holder (Function.update H i (H i ++ [⟨e, r⟩])) id j) := by
    intro hitem htakes
    have hbefore : ∀ j, Holder (Function.update H i (H i ++ [⟨e, r⟩])) id j → Holder H id j := by
      intro j hj
      rcases hj.before with hj | ⟨-, hnew⟩
      · exact hj
      · exact absurd hnew htakes
    exact ⟨fun j k hj hk => h.alone id item hitem hdelivered j k (hbefore j hj) (hbefore k hk),
      fun hnone j hj => h.free id item hitem hdelivered hnone j (hbefore j hj)⟩
  rcases hs.cases_write with ⟨happrovals, happlied⟩ | ⟨w, rfl, hcondition, rfl⟩
  · rw [happrovals] at hitem
    refine hsame hitem fun htakes => ?_
    obtain ⟨_, _, _, _, -, hcons⟩ := hs.of_takesLease htakes
    rw [happlied] at hcons
    exact List.cons_ne_self _ _ hcons.symm
  · by_cases hid : w.key = id
    · subst hid
      rw [World.withItem_self] at hitem
      refine holders_write h hallowed rfl hcondition ?_ hitem hdelivered
      intro digest attemptId now nowEpoch hw before hbefore
      exact hlease digest attemptId now nowEpoch before (by rw [World.withItem_applied, ← hw]) hbefore
    · rw [World.withItem_of_ne (Ne.symm hid)] at hitem
      refine hsame hitem ?_
      rintro ⟨digest, attemptId, now, nowEpoch, hev⟩
      have hcall := (Sigma.mk.inj hev).1
      obtain rfl := Call.write.inj hcall
      exact hid rfl

/-- What the report of a request is about. -/
theorem sentOutput_approvalId (q : DecideRequest) (d : Decided) :
    (sentOutput q d).get (js "approvalId") = .str q.approvalId := by
  simp [sentOutput, outputOf, List.lookup]

theorem heard_step [DecidableEq ι] (h : Tidy s H) (hallowed : Allowed P (work i) (H i) e)
    (hs : Service s e r s')
    (hanswer : ∀ token output, s'.ended = (token, .success output) :: s.ended →
      (⟨e, r⟩ : Event Call Call.Reply) = wasSent token output (.ok ()))
    (hheard : s'.Heard id) :
    ∃ j, Holder (Function.update H i (H i ++ [⟨e, r⟩])) id j ∧ ∃ token output,
      wasSent token output (.ok ()) ∈ Function.update H i (H i ++ [⟨e, r⟩]) j := by
  have hold : s.Heard id → ∃ j, Holder (Function.update H i (H i ++ [⟨e, r⟩])) id j ∧
      ∃ token output, wasSent token output (.ok ()) ∈ Function.update H i (H i ++ [⟨e, r⟩]) j := by
    intro hheard
    obtain ⟨j, hj, token, output, hsent⟩ := h.heard id hheard
    have hcloses : j = i → e.closes = false := by
      rintro rfl
      cases e with
      | write w =>
        cases w with
        | close =>
          obtain ⟨q, d, token', H₀, -, -, -, hreported⟩ := hallowed
          exact nomatch hreported.answer_eq hsent
        | _ => rfl
      | _ => rfl
    refine ⟨j, hj.after hcloses, token, output, ?_⟩
    by_cases hij : j = i
    · subst hij
      rw [Function.update_self]
      exact mem_before hsent
    · rwa [Function.update_of_ne hij]
  obtain ⟨token, output, hid, hended⟩ := hheard
  rcases hs.cases_ended with hsame | ⟨token', ending, hcons, -, -⟩
  · rw [hsame] at hended
    exact hold ⟨token, output, hid, hended⟩
  · rw [hcons] at hended
    rcases List.mem_cons.mp hended with hnew | hended
    · obtain ⟨rfl, rfl⟩ := Prod.mk.inj hnew
      have hev := hanswer token output hcons
      obtain ⟨rfl, hr⟩ := Sigma.mk.inj hev
      obtain rfl := eq_of_heq hr
      obtain ⟨q, d, attemptId, now, -, hsilent, -, hleased, rfl⟩ := hallowed
      rw [sentOutput_approvalId] at hid
      obtain rfl := Value.str.inj hid
      refine ⟨i, (hleased.holder hsilent.unclosed).after fun _ => rfl, token, sentOutput q d, ?_⟩
      rw [Function.update_self]
      exact mem_last
    · exact hold ⟨token, output, hid, hended⟩

theorem over_step [DecidableEq ι] (h : Tidy s H) (hs : Service s e r s')
    {j : ι} {token : Text} {output : Value}
    (hsent : wasSent token output (.error .taskEnded) ∈ Function.update H i (H i ++ [⟨e, r⟩]) j) :
    ¬ s'.Open token := by
  rcases mem_grown hsent with hsent | ⟨-, hnew⟩
  · exact hs.not_open (h.ended j token output hsent)
  · obtain ⟨rfl, hr⟩ := Sigma.mk.inj hnew
    obtain rfl := eq_of_heq hr
    cases hs with
    | sendTaskSuccess hs =>
      cases hs with
      | accepted => exact fun hopen => hopen _ (List.mem_cons_self ..)
      | lapsed => exact fun hopen => hopen _ (List.mem_cons_self ..)
      | ended hover => exact hover
      | failed he => exact absurd rfl he

/-- An item that is marked as closed was so, or is marked now. -/
theorem closed_write {w : ApprovalWrite} {old : Option Item} {item : Item}
    (hitem : w.result old = some item) (hclosed : item.callbackClosed = true) :
    (∃ before, old = some before ∧ before.callbackClosed = true) ∨
      ∃ digest attemptId now, w = .close w.key digest attemptId now := by
  cases old with
  | none =>
    cases w with
    | put =>
      obtain rfl := Option.some.inj hitem
      exact absurd hclosed Bool.false_ne_true
    | _ => exact nomatch hitem
  | some before =>
    obtain rfl := Option.some.inj hitem
    cases w with
    | put => exact absurd hclosed Bool.false_ne_true
    | decide => exact Or.inl ⟨before, rfl, hclosed⟩
    | attempt => exact Or.inl ⟨before, rfl, hclosed⟩
    | close id digest attemptId now => exact Or.inr ⟨digest, attemptId, now, rfl⟩
    | deliver => exact Or.inl ⟨before, rfl, hclosed⟩

/-- There is one message of an approval. -/
theorem Accounted.message_eq {m m' : Message} (h : Accounted s H) (hm : m ∈ s.messages id)
    (hm' : m' ∈ s.messages id) : m = m' := by
  obtain ⟨item, hholds⟩ := h.holds hm
  rw [hholds.messages] at hm'
  exact (List.mem_singleton.mp hm').symm

/-- The message of an approval that is stored stays its message. -/
theorem Accounted.message_of_step {H' : ι → CallHistory} {m : Message} (h : Accounted s H)
    (h' : Accounted s' H') (hs : Service s e r s') {item : Item} (hitem : s.approvals id = some item)
    (hm : m ∈ s'.messages id) : m ∈ s.messages id := by
  have hkept := h.kept id
  rw [hitem] at hkept
  obtain ⟨m', hm', -⟩ := hkept.found
  rwa [h'.message_eq hm (hs.messages_subset hm')]

/-- Nobody hears of an approval whose token has ended. -/
theorem unheard_step (h : Tidy s H) (hallowed : Allowed P (work i) (H i) e) (hs : Service s e r s')
    (hunheard : ¬ s.Heard id) (hover : ∀ m ∈ s.messages id, ¬ s.Open m.taskToken) :
    ¬ s'.Heard id := by
  rintro ⟨token, output, hid, hended⟩
  rcases hs.cases_ended with hsame | ⟨token', ending, hcons, hopen, hsuccess⟩
  · rw [hsame] at hended
    exact hunheard ⟨token, output, hid, hended⟩
  · rw [hcons] at hended
    rcases List.mem_cons.mp hended with hnew | hended
    · obtain ⟨rfl, rfl⟩ := Prod.mk.inj hnew
      obtain rfl := hsuccess output rfl
      obtain ⟨q, d, attemptId, now, -, -, hstored, -, rfl⟩ := hallowed
      rw [sentOutput_approvalId] at hid
      obtain rfl := Value.str.inj hid
      obtain ⟨-, m, hm, rfl⟩ := hstored.of_accounted h.toAccounted (List.Subset.refl _)
      exact hover m hm hopen
    · exact hunheard ⟨token, output, hid, hended⟩

theorem closed_step [DecidableEq ι] (h : Tidy s H) (hallowed : Allowed P (work i) (H i) e)
    (hs : Service s e r s') {item : Item} (hitem : s'.approvals id = some item)
    (hclosed : item.callbackClosed = true) :
    ¬ s'.Heard id ∧ ∀ m ∈ s'.messages id, ¬ s'.Open m.taskToken := by
  have h' := accounted_step (i := i) h.toAccounted hs
  have hold : ∀ before, s.approvals id = some before → before.callbackClosed = true →
      ¬ s'.Heard id ∧ ∀ m ∈ s'.messages id, ¬ s'.Open m.taskToken := by
    intro before hbefore hclosed
    obtain ⟨hunheard, hover⟩ := h.closed id before hbefore hclosed
    exact ⟨unheard_step h hallowed hs hunheard hover, fun m hm =>
      hs.not_open (hover m (h.toAccounted.message_of_step h' hs hbefore hm))⟩
  rcases hs.cases_write with ⟨happrovals, -⟩ | ⟨w, rfl, hcondition, hs'⟩
  · rw [happrovals] at hitem
    exact hold item hitem hclosed
  · by_cases hid : id = w.key
    · subst hid
      rw [hs', World.withItem_self] at hitem
      rcases closed_write hitem hclosed with ⟨before, hbefore, hclosed⟩ |
        ⟨digest, attemptId, now, hw⟩
      · exact hold before hbefore hclosed
      · rw [hw] at hallowed
        obtain ⟨q, d, token, H₀, -, hkey, -, hreported⟩ := hallowed
        obtain ⟨hholder, hsent⟩ := hreported.holder
        cases hbefore : s.approvals w.key with
        | none =>
          rw [hw] at hcondition hbefore
          rw [hbefore] at hcondition
          exact absurd hcondition Bool.false_ne_true
        | some before =>
          have hundelivered : before.callbackDelivered = false := by
            rw [hw] at hcondition hbefore
            rw [hbefore] at hcondition
            simp only [ApprovalWrite.condition, ApprovalWrite.meets, Bool.and_eq_true,
              Bool.not_eq_true'] at hcondition
            exact hcondition.2
          have hunheard : ¬ s.Heard w.key := by
            intro hheard
            obtain ⟨j, hj, token', output, hok⟩ := h.heard _ hheard
            obtain rfl := h.alone _ before hbefore hundelivered j i hj (hkey ▸ hholder)
            cases hreported.answer_eq hok
          have hsub : H₀ ⊆ H i := by
            rw [hreported.last]
            exact List.subset_append_left _ _
          obtain ⟨-, m', hm', rfl⟩ := hreported.stored.of_accounted h.toAccounted hsub
          refine ⟨?_, ?_⟩
          · rintro ⟨token', output, houtput, hended⟩
            rw [hs', World.withItem_ended] at hended
            exact hunheard ⟨token', output, houtput, hended⟩
          · intro m hm
            have hm := h.toAccounted.message_of_step h' hs hbefore hm
            rw [h.toAccounted.message_eq hm (hkey ▸ hm')]
            exact hs.not_open (h.ended i _ _ hsent)
    · rw [hs', World.withItem_of_ne hid] at hitem
      exact hold item hitem hclosed

/-- **Every steady call keeps the invariant.** -/
theorem tidy_step [DecidableEq ι] (h : Tidy s H) (hallowed : Allowed P (work i) (H i) e)
    (hs : Service s e r s')
    (hlease : ∀ id digest attemptId now nowEpoch item,
      s'.applied = .attempt id digest attemptId now nowEpoch :: s.applied →
        s.approvals id = some item → item.callbackLeaseUntil = none)
    (hanswer : ∀ token output, s'.ended = (token, .success output) :: s.ended →
      (⟨e, r⟩ : Event Call Call.Reply) = wasSent token output (.ok ())) :
    Tidy s' (Function.update H i (H i ++ [⟨e, r⟩])) where
  toAccounted := accounted_step h.toAccounted hs
  known _ j hj := known_step h hs j hj
  alone id _ hitem hdelivered := (holders_step h hallowed hs (hlease id) hitem hdelivered).1
  free id _ hitem hdelivered := (holders_step h hallowed hs (hlease id) hitem hdelivered).2
  heard _ hheard := heard_step h hallowed hs hanswer hheard
  ended _ _ _ hsent := over_step h hs hsent
  closed _ _ hitem hclosed := closed_step h hallowed hs hitem hclosed

end Step

/-! ## 3. Every run -/

section Run

variable {ι : Type} {P : Platform} {work : ι → Work} {C : Lambdas ι}

theorem tidy_empty : Tidy .empty fun _ : ι => [] where
  toAccounted := accounted_empty
  known := by rintro _ _ ⟨⟨_, ⟨⟩, -⟩, -⟩
  alone := by rintro _ _ ⟨⟩
  free := by rintro _ _ ⟨⟩
  heard := by rintro _ ⟨_, _, -, ⟨⟩⟩
  ended := by rintro _ _ _ ⟨⟩
  closed := by rintro _ _ ⟨⟩

theorem tidy_run [DecidableEq ι] (hrun : Pool.Run Service Steady (Work.start P work) C) :
    Tidy C.shared C.history := by
  refine (Pool.invariant hrun (fun i => program_follows (work i)) tidy_empty ?_).1
  intro C₁ i e k r s' h _ hallowed hs hsteady
  refine tidy_step h hallowed hs hsteady.lease ?_
  intro token output hended
  obtain ⟨j, hj⟩ := hsteady.answer token output hended
  by_cases hij : j = i
  · subst hij
    dsimp only [Pool.after] at hj
    rw [Function.update_self] at hj
    exact List.singleton_inj.mp (List.append_cancel_left hj)
  · dsimp only [Pool.after] at hj
    rw [Function.update_of_ne hij] at hj
    exact absurd hj (by simp)

/-- The invocation has reported on the approval with the token it was stored with, was answered that
the token has ended, and no report of it was answered `ok`. -/
def ToldEnded (H : CallHistory) (s : World) (id : Text) : Prop :=
  (∃ m ∈ s.messages id, ∃ output, output.get (js "approvalId") = .str id ∧
    wasSent m.taskToken output (.error .taskEnded) ∈ H) ∧
  ∀ token output, wasSent token output (.ok ()) ∉ H

/-- **When an approval is closed.**  In every run, who stands before closing was told by its own
report that the token has ended.  In every steady run, no approval is closed of which a decision was
accepted. -/
theorem closed_unheard [DecidableEq ι] (P : Platform) (work : ι → Work) :
    (∀ C, Pool.Run Service (fun _ _ => True) (Work.start P work) C →
      ∀ i id digest attemptId now k,
        C.program i = .call (.write (.close id digest attemptId now)) k →
          ToldEnded (C.history i) C.shared id) ∧
    ∀ C, Pool.Run Service Steady (Work.start P work) C →
      ∀ id item, C.shared.approvals id = some item → item.callbackClosed = true →
        ¬ C.shared.Heard id := by
  refine ⟨?_, fun C hrun id item hitem hclosed => ((tidy_run hrun).closed id item hitem hclosed).1⟩
  intro C hrun i id digest attemptId now k hp
  obtain ⟨h, hfollows⟩ := occupied_run hrun
  have hcall := hfollows i
  rw [hp] at hcall
  obtain ⟨q, d, token, H₀, -, rfl, -, hreported⟩ := hcall.1
  have hsub : H₀ ⊆ C.history i := by
    rw [hreported.last]
    exact List.subset_append_left _ _
  obtain ⟨-, m, hm, rfl⟩ := hreported.stored.of_accounted h.toAccounted hsub
  refine ⟨⟨m, hm, _, sentOutput_approvalId q d, hreported.holder.2⟩, ?_⟩
  intro token output hsent
  exact nomatch hreported.answer_eq hsent

end Run

/-! ## 4. A decision that was heard, and closed -/

section Sample

variable {P : Platform} {r : DecideRequest} {s : World} {item : Item} {now : Int}

/-- The calls of a request that finds its decision stored, up to the callback. -/
def resuming (P : Platform) (r : DecideRequest) (item : Item) (now : Int) : CallHistory :=
  [hadClocks ⟨(now, now), Int.le_refl now⟩, wasRead r.approvalId (some item),
    wasWritten (leaseOf P r now) (.ok ())]

theorem resuming_reaches {current : Item} {at_ token : Text} {expires : Int}
    (hexpires : P.dateParse item.approvalExpiresAt = some expires) (hstatus : item.status = .DECIDED)
    (hd : item.decided = some (decidedOf P r current at_))
    (hevidence : decisionEvidence P r item = decisionEvidence P r current)
    (hdelivered : item.callbackDelivered = false) (hclosed : item.callbackClosed = false)
    (htoken : item.taskToken = some token) (hne : token.isEmpty = false)
    (hat : at_.isEmpty = false ∧ (P.dateParse at_).isNone = false) :
    ((Work.decide r).program P).Reaches (resuming P r item now) (calling P r token at_ now) := by
  refine .step (.step ?_)
  dsimp only [Program.bind, Program.lift, thrown, Except.mapError]
  rw [hexpires]
  dsimp only
  rw [if_neg (by rw [hstatus]; exact nofun), hevidence,
    onDecided_eq hstatus hd hdelivered hclosed htoken hne hat]
  exact .step (.refl _)

/-- The mark of a request whose token has ended. -/
def closeOf (P : Platform) (r : DecideRequest) (now : Int) : ApprovalWrite :=
  .close r.approvalId (canonicalDigest P (decisionRecord r))
    (callbackAttemptId P r (canonicalDigest P (decisionRecord r)) (P.toISOString now))
    (P.toISOString now)

/-- A report that was answered with the end of the token, and the mark. -/
def closing (P : Platform) (r : DecideRequest) (token decidedAt : Text) (now : Int) : CallHistory :=
  [wasSent token (outputOf r.approvalId r.decision r.subject r.issuer decidedAt) (.error .taskEnded),
    wasWritten (closeOf P r now) (.ok ())]

theorem closing_reaches {token decidedAt : Text} :
    (calling P r token decidedAt now).Reaches (closing P r token decidedAt now) (.done (.ok ())) :=
  .step <| .step <| .refl _

/-- A request that is heard of no more after its report. -/
theorem heard_reaches {token decidedAt : Text} :
    ∃ q, (calling P r token decidedAt now).Reaches
      [wasSent token (outputOf r.approvalId r.decision r.subject r.issuer decidedAt) (.ok ())] q :=
  ⟨_, .step (.refl _)⟩

theorem moves_resuming (hitem : s.approvals r.approvalId = some item)
    (hmeets : (leaseOf P r now).meets item = true) :
    Pool.Moves Service s (resuming P r item now) ((leaseOf P r now).applyTo s) := by
  have hlease : Service s (.write (leaseOf P r now)) (.ok ()) ((leaseOf P r now).applyTo s) :=
    .writes rfl hitem hmeets
  exact .cons (.clocks _ _) <| .cons (.tells hitem) <| .cons hlease <| .nil _

theorem moves_closing {token decidedAt : Text} (hover : ¬ s.Open token)
    (hitem : s.approvals r.approvalId = some item) (hmeets : (closeOf P r now).meets item = true) :
    Pool.Moves Service s (closing P r token decidedAt now) ((closeOf P r now).applyTo s) := by
  have hclose : Service s (.write (closeOf P r now)) (.ok ()) ((closeOf P r now).applyTo s) :=
    .writes rfl hitem hmeets
  exact .cons (.sendTaskSuccess (.ended hover)) <| .cons hclose <| .nil _

/-- A minute later. -/
def sampleLater : Int := sampleNoon + 60000

/-- The item under the lease of the second attempt. -/
def sampleAgain : Item := (leaseOf Platform.node sampleRetry sampleLater).update sampleHeld

theorem sampleRetry_decided : decidedOf Platform.node sampleRetry sampleItem
    = decidedOf Platform.node sampleRequest sampleItem := by
  unfold decidedOf decisionRecord decisionEvidence
  rw [sampleRetry]

theorem sampleRetry_digest : canonicalDigest Platform.node (decisionRecord sampleRetry)
    = canonicalDigest Platform.node (decisionRecord sampleRequest) := by
  unfold decisionRecord
  rw [sampleRetry]

theorem sampleRetry_reaches : ((Work.decide sampleRetry).program Platform.node).Reaches
    (resuming Platform.node sampleRetry sampleHeld sampleLater)
    (calling Platform.node sampleRetry sampleMessage.taskToken
      (Platform.node.toISOString sampleNoon) sampleLater) := by
  have hdecided : sampleHeld.decided = some (decidedOf Platform.node sampleRetry sampleItem
      (Platform.node.toISOString sampleNoon)) := by
    rw [sampleRetry_decided]
    rfl
  exact resuming_reaches sample_expires rfl hdecided rfl rfl rfl rfl (by decide) sample_iso

theorem sampleHeld_meets :
    (leaseOf Platform.node sampleRetry sampleLater).meets sampleHeld = true := by
  simp only [leaseOf, ApprovalWrite.meets, ApprovalWrite.hasDigest, sampleRetry_digest]
  simp [sampleHeld, leaseOf, firstDecision, ApprovalWrite.update, decidedOf, sampleItem,
    sampleMessage, sampleLater, sampleNoon, Message.item, epoch]

theorem sampleAgain_meets :
    (closeOf Platform.node sampleRetry sampleLater).meets sampleAgain = true := by
  simp only [closeOf, ApprovalWrite.meets, ApprovalWrite.hasDigest, sampleRetry_digest]
  simp [sampleAgain, sampleHeld, leaseOf, firstDecision, ApprovalWrite.update, decidedOf,
    sampleRetry_digest]

/-- The first attempt is heard, and crashes; a minute later the next one closes the approval. -/
theorem closed_heard : ∃ (C : Lambdas (Fin 3)) (item : Item),
    Pool.Run Service (fun _ _ => True) (Work.start Platform.node sampleWork) C ∧
    C.shared.approvals sampleRequest.approvalId = some item ∧ item.callbackClosed = true ∧
    C.shared.Heard sampleRequest.approvalId := by
  obtain ⟨C₁, hrun₁, hs₁, hp₁, hretry₁⟩ := sample_calling
  have hopen : C₁.shared.Open sampleMessage.taskToken := by
    rw [hs₁]
    exact fun _ => List.not_mem_nil
  have hheard : Pool.Moves Service C₁.shared [wasSent sampleMessage.taskToken
      (outputOf sampleRequest.approvalId sampleRequest.decision sampleRequest.subject
        sampleRequest.issuer (Platform.node.toISOString sampleNoon)) (.ok ())] _ :=
    .cons (.sendTaskSuccess (.accepted hopen _)) (.nil _)
  obtain ⟨q, hq⟩ : ∃ q, (calling Platform.node sampleRequest sampleMessage.taskToken
      (Platform.node.toISOString sampleNoon) sampleNoon).Reaches
      [wasSent sampleMessage.taskToken (outputOf sampleRequest.approvalId sampleRequest.decision
        sampleRequest.subject sampleRequest.issuer (Platform.node.toISOString sampleNoon)) (.ok ())]
      q := heard_reaches
  obtain ⟨C₂, hrun₂, hs₂, hp₂, -⟩ := hrun₁.alone (i := 1) (hp₁ ▸ hq) hheard
    fun _ _ _ _ _ _ => trivial
  have hretry₂ : C₂.program 2 = (Work.decide sampleRetry).program Platform.node := by
    rw [hp₂, Function.update_of_ne (by decide), hretry₁]
  have hitem₂ : C₂.shared.approvals sampleRetry.approvalId = some sampleHeld := by
    rw [hs₂]
    show C₁.shared.approvals sampleRetry.approvalId = some sampleHeld
    rw [hs₁]
    exact sample_held
  obtain ⟨C₃, hrun₃, hs₃, hp₃, -⟩ := hrun₂.alone (i := 2) (hretry₂ ▸ sampleRetry_reaches)
    (moves_resuming hitem₂ sampleHeld_meets) fun _ _ _ _ _ _ => trivial
  have hcalling : C₃.program 2 = calling Platform.node sampleRetry sampleMessage.taskToken
      (Platform.node.toISOString sampleNoon) sampleLater := by
    rw [hp₃, Function.update_self]
  have hitem₃ : C₃.shared.approvals sampleRetry.approvalId = some sampleAgain := by
    rw [hs₃]
    exact applyTo_approvals rfl hitem₂
  have hended : (sampleMessage.taskToken, .success (outputOf sampleRequest.approvalId
      sampleRequest.decision sampleRequest.subject sampleRequest.issuer
      (Platform.node.toISOString sampleNoon))) ∈ C₃.shared.ended := by
    rw [hs₃, hs₂]
    exact List.mem_cons_self ..
  obtain ⟨C₄, hrun₄, hs₄, -, -⟩ := hrun₃.alone (i := 2) (hcalling ▸ closing_reaches)
    (moves_closing (fun hopen => hopen _ hended) hitem₃ sampleAgain_meets)
    fun _ _ _ _ _ _ => trivial
  have habout := sentOutput_approvalId sampleRequest
    (decidedOf Platform.node sampleRequest sampleItem (Platform.node.toISOString sampleNoon))
  refine ⟨C₄, (closeOf Platform.node sampleRetry sampleLater).update sampleAgain, hrun₄, ?_, rfl,
    sampleMessage.taskToken, _, habout, ?_⟩
  · rw [hs₄]
    exact applyTo_approvals rfl hitem₃
  · rw [hs₄]
    exact hended

end Sample

end Callback
