/-
# Tokens and receipts of the durable journal

Any number of workers over one table, each with any artifacts and any key.  `Database` is how their
calls are answered: a consistent read tells an item as it is, a conditional write is carried out or
not, and an error can hide one that was; the reader, the catalog and the clocks answer anything.
Nothing is deleted.

A token of an execution is handed out once (`durably_fenced`): the transaction finds the key free,
and an update finds the token before it.  A worker calls the catalog at most once, and only after it was
handed a token of its key.  What an execution has completed with stays, and every receipt that a
worker returns for its key is that one (`receipts_agree`).
-/
import Archon.Remediation.Durable
import Archon.Remediation.Workers
import Archon.Resumption.Once

namespace Remediation

open Ecma Ecma.Value Resumption Resumption.Program

/-! ## 1. The table -/

namespace JournalTable

@[simp] theorem put_self (s : JournalTable) (key : Text) (item : ExecutionItem) :
    (s.put key item).executions key = some item := by
  simp [put]

theorem put_of_ne {s : JournalTable} {key k : Text} {item : ExecutionItem} (h : k ≠ key) :
    (s.put key item).executions k = s.executions k := by
  simp [put, h]

/-- An update that is carried out. -/
theorem update_eq_some {s s' : JournalTable} {key : Text} {condition : ExecutionItem → Bool}
    {change : ExecutionItem → ExecutionItem} :
    s.update key condition change = some s' ↔
      ∃ item, s.executions key = some item ∧ condition item = true ∧ s' = s.put key (change item) := by
  unfold update
  constructor
  · intro h
    split at h
    · rename_i item hitem
      split at h
      · rename_i hc
        exact ⟨item, hitem, hc, (Option.some.inj h).symm⟩
      · cases h
    · cases h
  · rintro ⟨item, hitem, hc, rfl⟩
    rw [hitem]
    exact if_pos hc

end JournalTable

/-- What a later item keeps: the token does not go down, and nothing changes once it is completed. -/
structure ExecutionItem.Later (item item' : ExecutionItem) : Prop where
  token : ∀ t, item.fencingToken = some t → ∃ t', item'.fencingToken = some t' ∧ t ≤ t'
  completed : item.status = some (js "COMPLETED") → item' = item

theorem ExecutionItem.Later.refl (item : ExecutionItem) : item.Later item :=
  ⟨fun t h => ⟨t, h, le_rfl⟩, fun _ => rfl⟩

theorem OpenStatus.text_ne (status : OpenStatus) : status.text ≠ js "COMPLETED" := by
  cases status <;> decide

/-- An update of an execution that is not over. -/
theorem ExecutionItem.Later.of_open {item item' : ExecutionItem} (status : OpenStatus)
    (hopen : item.status = some status.text)
    (htoken : ∀ t, item.fencingToken = some t → ∃ t', item'.fencingToken = some t' ∧ t ≤ t') :
    item.Later item' :=
  ⟨htoken, fun h => absurd (Option.some.inj (hopen.symm.trans h)) status.text_ne⟩

/-- **No write takes anything back.** -/
theorem JournalTable.write_later {s s' : JournalTable} {w : JournalWrite} (h : s.write w = some s')
    {key : Text} {item : ExecutionItem} (hitem : s.executions key = some item) :
    ∃ item', s'.executions key = some item' ∧ item.Later item' := by
  -- an update of one key, of an execution that is not over
  have hupdate : ∀ {k : Text} {condition : ExecutionItem → Bool} {change : ExecutionItem → ExecutionItem},
      s.update k condition change = some s' →
      (∀ item, condition item = true → item.Later (change item)) →
      ∃ item', s'.executions key = some item' ∧ item.Later item' := by
    intro k condition change hup hlater
    obtain ⟨old, hold, hcondition, rfl⟩ := update_eq_some.mp hup
    by_cases hk : key = k
    · subst hk
      obtain rfl := Option.some.inj (hitem.symm.trans hold)
      exact ⟨_, put_self _ _ _, hlater _ hcondition⟩
    · exact ⟨item, (put_of_ne hk).trans hitem, .refl item⟩
  cases w with
  | create input lease =>
    simp only [write, Option.ite_none_right_eq_some, Bool.and_eq_true, Option.isNone_iff_eq_none] at h
    obtain ⟨⟨hfree, -⟩, h⟩ := h
    obtain rfl := Option.some.inj h
    have hne : key ≠ input.idempotencyKey := by
      rintro rfl
      exact nomatch hfree.symm.trans hitem
    exact ⟨item, (if_neg hne).trans hitem, .refl item⟩
  | takeOver k status lease token newLease =>
    refine hupdate h fun item hc => ?_
    simp only [Bool.and_eq_true, decide_eq_true_eq] at hc
    refine .of_open status hc.1.1 fun t ht => ⟨token + 1, rfl, ?_⟩
    rw [Option.some.inj (ht.symm.trans hc.2)]
    exact Nat.le_succ _
  | resume lease now newLease =>
    refine hupdate h fun item hc => ?_
    simp only [Bool.and_eq_true, decide_eq_true_eq] at hc
    exact .of_open .RECONCILING hc.1.1 fun t ht => ⟨t, ht, le_rfl⟩
  | complete lease decisionDigest receipt =>
    refine hupdate h fun item hc => ?_
    simp only [Bool.and_eq_true, Bool.or_eq_true, decide_eq_true_eq] at hc
    obtain hopen | hopen := hc.1.1
    · exact .of_open .IN_PROGRESS hopen fun t ht => ⟨t, ht, le_rfl⟩
    · exact .of_open .RECONCILING hopen fun t ht => ⟨t, ht, le_rfl⟩

/-! ## 2. The services -/

/-- What a call is answered, and what becomes of the table. -/
inductive Database : JournalTable → (e : DurableEffect) → e.Reply → JournalTable → Prop
  | now (s : JournalTable) (t : Int) : Database s .now t s
  | written {s s' : JournalTable} {w : JournalWrite} (h : s.write w = some s') :
      Database s (.write w) (.ok ()) s'
  | unheard {s s' : JournalTable} {w : JournalWrite} (h : s.write w = some s') (e : AwsError) :
      Database s (.write w) (.error e) s'
  | refused (s : JournalTable) (w : JournalWrite) (e : AwsError) : Database s (.write w) (.error e) s
  | readExecution (s : JournalTable) (key : Text) :
      Database s (.getExecution key) (.ok (s.executions key)) s
  | unreadExecution (s : JournalTable) (key : Text) (e : AwsError) :
      Database s (.getExecution key) (.error e) s
  | readApproval (s : JournalTable) (id : Text) : Database s (.getApproval id) (.ok (s.approvals id)) s
  | unreadApproval (s : JournalTable) (id : Text) (e : AwsError) :
      Database s (.getApproval id) (.error e) s
  | clock (s : JournalTable) (t : Text) : Database s .clock t s
  | readTags (s : JournalTable) (target : Value) (r : Run Value) :
      Database s (.readTagProjection target) r s
  | addTags (s : JournalTable) (request : Value) (r : Run Value) : Database s (.addTags request) r s

theorem Database.later {s s' : JournalTable} {e : DurableEffect} {r : e.Reply}
    (h : Database s e r s') {key : Text} {item : ExecutionItem}
    (hitem : s.executions key = some item) :
    ∃ item', s'.executions key = some item' ∧ item.Later item' := by
  cases h with
  | written hw | unheard hw => exact JournalTable.write_later hw hitem
  | _ => exact ⟨item, hitem, .refl item⟩

/-- The calls of a worker so far, with their answers. -/
abbrev DurableHistory := List (Event DurableEffect DurableEffect.Reply)

/-- The token, or a later one, was handed out for the key. -/
def Handed (key : Text) (t : Nat) (s : JournalTable) : Prop :=
  ∃ item u, s.executions key = some item ∧ item.fencingToken = some u ∧ t ≤ u

/-- The key and the token that the write hands out. -/
def JournalWrite.hands : JournalWrite → Option (Text × Nat)
  | create input _ => some (input.idempotencyKey, 1)
  | takeOver key _ _ token _ => some (key, token + 1)
  | _ => none

/-- What an event hands out. -/
def handed : Event DurableEffect DurableEffect.Reply → Option (Text × Nat)
  | ⟨.write w, .ok ()⟩ => w.hands
  | _ => none

/-- The event hands the token of the key out. -/
def hands (key : Text) (t : Nat) (ev : Event DurableEffect DurableEffect.Reply) : Bool :=
  handed ev = some (key, t)

/-- It hands some token out. -/
def handsAny (key : Text) (ev : Event DurableEffect DurableEffect.Reply) : Bool :=
  (handed ev).any (·.1 = key)

/-- The call changes the catalog. -/
def DurableEffect.mutates : DurableEffect → Bool
  | addTags _ => true
  | _ => false

/-- The execution of the key is completed, with this text. -/
def CompletedWith (key text : Text) (s : JournalTable) : Prop :=
  ∃ item, s.executions key = some item ∧ item.status = some (js "COMPLETED") ∧
    item.receipt = some text

/-- The event tells that the execution of the key is completed, with this text. -/
def shows (key text : Text) : Event DurableEffect DurableEffect.Reply → Prop
  | ⟨.write (.complete lease _ receipt), r⟩ => lease.idempotencyKey = key ∧ receipt = text ∧ r = .ok ()
  | ⟨.getExecution k, r⟩ => k = key ∧ ∃ item : ExecutionItem, r = .ok (some item) ∧
      item.status = some (js "COMPLETED") ∧ item.receipt = some text
  | _ => False

theorem Handed.step {key : Text} {t : Nat} {s s' : JournalTable} {e : DurableEffect} {r : e.Reply}
    (h : Database s e r s') (hs : Handed key t s) : Handed key t s' := by
  obtain ⟨item, u, hitem, hu, hle⟩ := hs
  obtain ⟨item', hitem', hlater⟩ := h.later hitem
  obtain ⟨u', hu', hle'⟩ := hlater.token u hu
  exact ⟨item', u', hitem', hu', hle.trans hle'⟩

theorem CompletedWith.step {key text : Text} {s s' : JournalTable} {e : DurableEffect} {r : e.Reply}
    (h : Database s e r s') (hs : CompletedWith key text s) : CompletedWith key text s' := by
  obtain ⟨item, hitem, hstatus, htext⟩ := hs
  obtain ⟨item', hitem', hlater⟩ := h.later hitem
  obtain rfl := hlater.completed hstatus
  exact ⟨item', hitem', hstatus, htext⟩

theorem CompletedWith.unique {key text text' : Text} {s : JournalTable}
    (h : CompletedWith key text s) (h' : CompletedWith key text' s) : text = text' := by
  obtain ⟨item, hitem, -, htext⟩ := h
  obtain ⟨item', hitem', -, htext'⟩ := h'
  obtain rfl := Option.some.inj (hitem.symm.trans hitem')
  exact Option.some.inj (htext.symm.trans htext')

/-- **A token is handed out where it was not.** -/
theorem JournalTable.hands_write {s s' : JournalTable} {w : JournalWrite} {key : Text} {t : Nat}
    (h : s.write w = some s') (hands : w.hands = some (key, t)) :
    ¬ Handed key t s ∧ Handed key t s' := by
  cases w with
  | create input lease =>
    obtain ⟨rfl, rfl⟩ := Prod.mk.inj (Option.some.inj hands)
    simp only [write, Option.ite_none_right_eq_some, Bool.and_eq_true, Option.isNone_iff_eq_none] at h
    obtain ⟨⟨hfree, -⟩, h⟩ := h
    obtain rfl := Option.some.inj h
    refine ⟨?_, _, 1, if_pos rfl, rfl, le_rfl⟩
    rintro ⟨item, u, hitem, -⟩
    exact nomatch hfree.symm.trans hitem
  | takeOver k status lease token newLease =>
    obtain ⟨rfl, rfl⟩ := Prod.mk.inj (Option.some.inj hands)
    obtain ⟨item, hitem, hc, rfl⟩ := update_eq_some.mp h
    simp only [Bool.and_eq_true, decide_eq_true_eq] at hc
    refine ⟨?_, _, token + 1, put_self _ _ _, rfl, le_rfl⟩
    rintro ⟨item', u, hitem', hu, hle⟩
    obtain rfl := Option.some.inj (hitem.symm.trans hitem')
    obtain rfl := Option.some.inj (hc.2.symm.trans hu)
    exact Nat.not_succ_le_self _ hle
  | _ => exact nomatch hands

theorem hands_exclusive (key : Text) (t : Nat) :
    Pool.Exclusive Database (Handed key t) (hands key t) where
  fresh := by
    intro s e r s' h htakes
    have hhanded := of_decide_eq_true htakes
    cases h with
    | written hw => exact JournalTable.hands_write hw hhanded
    | _ => exact nomatch hhanded
  stays := fun h hs => hs.step h

/-- What an event tells is so. -/
theorem completed_of_shows {key text : Text} {s s' : JournalTable} {e : DurableEffect} {r : e.Reply}
    (h : Database s e r s') (hshows : shows key text ⟨e, r⟩) : CompletedWith key text s' := by
  cases h with
  | @written _ w hw =>
    cases w with
    | complete lease decisionDigest receipt =>
      obtain ⟨rfl, rfl, -⟩ := hshows
      obtain ⟨item, -, -, rfl⟩ := JournalTable.update_eq_some.mp hw
      exact ⟨_, JournalTable.put_self _ _ _, rfl, rfl⟩
    | _ => exact hshows.elim
  | @unheard _ w =>
    cases w with
    | complete => exact nomatch hshows.2.2
    | _ => exact hshows.elim
  | refused w =>
    cases w with
    | complete => exact nomatch hshows.2.2
    | _ => exact hshows.elim
  | readExecution k =>
    obtain ⟨rfl, item, hitem, hstatus, htext⟩ := hshows
    exact ⟨item, Except.ok.inj hitem, hstatus, htext⟩
  | unreadExecution k =>
    obtain ⟨-, item, hitem, -⟩ := hshows
    exact nomatch hitem
  | _ => exact hshows.elim

theorem exists_hands {key : Text} {H : DurableHistory} (h : 0 < H.countP (handsAny key)) :
    ∃ t, 0 < H.countP (hands key t) := by
  obtain ⟨ev, hev, hany⟩ := List.countP_pos_iff.mp h
  obtain ⟨⟨k, t⟩, hhanded, hk⟩ := (Option.any_eq_true _ _).mp hany
  obtain rfl : k = key := of_decide_eq_true hk
  exact ⟨t, List.countP_pos_iff.mpr ⟨ev, hev, decide_eq_true hhanded⟩⟩

/-! ## 3. What the journal does -/

/-- What an answer to a claim rests on. -/
def Grounded (key : Text) (H : DurableHistory) : ExecutionClaim → Prop
  | .CLAIMED _ | .RECONCILE _ => 0 < H.countP (handsAny key)
  | .COMPLETED receipt => ∃ text, parse text = some receipt ∧ ∃ ev ∈ H, shows key text ev
  | .IN_PROGRESS | .APPROVAL_ALREADY_USED => True

/-- The text is the one of the receipt. -/
def Records (text : Text) (receipt : Value) : Prop :=
  canonicalize receipt = .ok text ∨ parse text = some receipt

/-- A call that does not change the catalog. -/
abbrev Tame : DurableHistory → DurableEffect → Prop := fun _ e => e.mutates = false

namespace DynamoExecutionJournal

variable {H : DurableHistory} {P : Platform} {approvalFirst : Bool} {input : ClaimInput}

/-- The execution was read. -/
def gotExecution (key : Text) (item : ExecutionItem) : Event DurableEffect DurableEffect.Reply :=
  ⟨.getExecution key, (.ok (some item) : Except AwsError (Option ExecutionItem))⟩

theorem orThrow_eq_ok {α : Type} {answer : Except AwsError α} {a : α} :
    orThrow answer = .ok a ↔ answer = .ok a := by
  cases answer <;> simp [orThrow]

theorem readBoth_obeys : Obeys Tame (fun H' r => ∀ item approval, r = .ok (some item, approval) →
    gotExecution input.idempotencyKey item ∈ H') H (readBoth approvalFirst input) := by
  unfold readBoth
  split
  · refine obeys_perform rfl fun approval => ?_
    refine obeys_lift (fun approval' _ => ?_) fun _ => nofun
    refine obeys_perform rfl fun execution => ?_
    refine obeys_lift (fun execution' hexecution => ?_) fun _ => nofun
    rintro item approval'' h
    obtain ⟨rfl, -⟩ := Prod.mk.inj (Except.ok.inj h)
    rw [orThrow_eq_ok.mp hexecution]
    exact List.mem_concat_self
  · refine obeys_perform rfl fun execution => ?_
    refine obeys_lift (fun execution' hexecution => ?_) fun _ => nofun
    refine obeys_perform rfl fun approval => ?_
    refine obeys_lift (fun approval' _ => ?_) fun _ => nofun
    rintro item approval'' h
    obtain ⟨rfl, -⟩ := Prod.mk.inj (Except.ok.inj h)
    rw [orThrow_eq_ok.mp hexecution]
    exact List.mem_append_left _ List.mem_concat_self

theorem claimOpen_obeys {nowEpoch : Int} {execution : ExecutionItem} {status : OpenStatus} :
    Obeys Tame (fun H' r => ∀ x, r = .ok x → Grounded input.idempotencyKey H' x) H
      (claimOpen input nowEpoch execution status) := by
  unfold claimOpen
  dsimp only
  split
  · split
    · exact nofun
    · split
      · rintro x ⟨⟩
        trivial
      · refine obeys_perform rfl fun r => ?_
        cases r with
        | ok u =>
          rintro x ⟨⟩
          exact List.countP_pos_iff.mpr ⟨_, List.mem_concat_self,
            decide_eq_true rfl⟩
        | error e =>
          dsimp only
          split
          · rintro x ⟨⟩
            trivial
          · exact nofun
  · exact nofun

/-- A claim on an execution that is over is answered by what was read. -/
theorem claimOver_grounded {execution : ExecutionItem} {x : ExecutionClaim}
    (hread : gotExecution input.idempotencyKey execution ∈ H)
    (h : claimOver P input execution = .ok x) : Grounded input.idempotencyKey H x := by
  unfold claimOver at h
  split at h
  · obtain rfl := Except.ok.inj h
    trivial
  · rename_i hstatus
    split at h
    · obtain rfl := Except.ok.inj h
      trivial
    · rename_i text htext
      split at h
      · obtain rfl := Except.ok.inj h
        trivial
      · rename_i receipt hparse
        split at h
        · obtain rfl := Except.ok.inj h
          trivial
        · split at h
          · cases h
          · obtain rfl := Except.ok.inj h
            exact ⟨text, hparse, _, hread, rfl, execution, rfl, not_not.mp hstatus, htext⟩

theorem claimExisting_obeys {nowEpoch : Int} {unclassified : Bool} :
    Obeys Tame (fun H' r => ∀ x, r = .ok x → Grounded input.idempotencyKey H' x) H
      (claimExisting P approvalFirst input nowEpoch unclassified) := by
  unfold claimExisting
  refine readBoth_obeys.followed (fun H' both hboth _ => ?_) fun _ _ => nofun
  obtain ⟨_ | execution, approval⟩ := both
  · dsimp only
    split
    · exact nofun
    · rintro x ⟨⟩
      trivial
  · dsimp only
    split
    · rintro x ⟨⟩
      trivial
    · split
      · exact claimOpen_obeys
      · exact fun x h => claimOver_grounded (hboth _ _ rfl) h

theorem claim_obeys : Obeys Tame
    (fun H' r => ∀ x, r = .ok x → Grounded input.idempotencyKey H' x) H
    (claim P approvalFirst input) := by
  unfold claim
  refine obeys_perform rfl fun nowEpoch => ?_
  refine obeys_perform rfl fun r => ?_
  cases r with
  | ok u =>
    rintro x ⟨⟩
    exact List.countP_pos_iff.mpr ⟨_, List.mem_concat_self,
      decide_eq_true rfl⟩
  | error e =>
    dsimp only
    split
    · exact claimExisting_obeys
    · split
      · exact claimExisting_obeys
      · exact nofun

theorem resume_obeys {lease : Lease} : Obeys Tame (fun _ _ => True) H (resume lease) := by
  unfold resume
  refine obeys_perform rfl fun nowEpoch => ?_
  refine obeys_perform rfl fun r => ?_
  cases r with
  | ok u => trivial
  | error e =>
    dsimp only
    split <;> trivial

theorem completion_text {lease : Lease} {receipt : Value} {d text : Text}
    (h : completion P lease receipt = .ok (d, text)) : canonicalize receipt = .ok text := by
  unfold completion at h
  obtain ⟨_, -, h⟩ := bind_eq_ok.mp h
  obtain ⟨_, -, h⟩ := bind_eq_ok.mp h
  obtain ⟨_, -, h⟩ := bind_eq_ok.mp h
  obtain ⟨t, ht, h⟩ := bind_eq_ok.mp h
  obtain ⟨_, -, h⟩ := bind_eq_ok.mp h
  obtain ⟨_, -, h⟩ := bind_eq_ok.mp h
  obtain ⟨_, -, h⟩ := bind_eq_ok.mp h
  obtain ⟨_, -, h⟩ := bind_eq_ok.mp h
  obtain ⟨-, rfl⟩ := Prod.mk.inj (Except.ok.inj h)
  exact ht

theorem complete_obeys {lease : Lease} {receipt : Value} :
    Obeys Tame (fun H' r => r = .ok () → ∃ text, canonicalize receipt = .ok text ∧
      ∃ ev ∈ H', shows lease.idempotencyKey text ev) H (complete P lease receipt) := by
  unfold complete
  refine obeys_lift (fun written hwritten => ?_) fun _ => nofun
  obtain ⟨decisionDigest, text⟩ := written
  refine obeys_perform rfl fun r => ?_
  cases r with
  | ok u =>
    exact fun _ => ⟨text, completion_text hwritten, _,
      List.mem_concat_self, rfl, rfl, rfl⟩
  | error e =>
    dsimp only
    split <;> exact nofun

end DynamoExecutionJournal

/-! ## 4. What a worker does -/

section Worker

variable {P : Platform} {approvalFirst : Bool} {input : ExecuteApprovedRemediationInput}
  {key : Text} {h : History} {H : DurableHistory}

theorem Grounded.append {x : ExecutionClaim} (hg : Grounded key H x) (t : DurableHistory) :
    Grounded key (H ++ t) x := by
  cases x with
  | CLAIMED | RECONCILE =>
    have hpos : 0 < H.countP (handsAny key) := hg
    change 0 < (H ++ t).countP (handsAny key)
    rw [List.countP_append]
    exact Nat.lt_of_lt_of_le hpos (Nat.le_add_right _ _)
  | COMPLETED receipt =>
    obtain ⟨text, hparse, ev, hev, hshows⟩ := hg
    exact ⟨text, hparse, ev, List.mem_append_left _ hev, hshows⟩
  | IN_PROGRESS | APPROVAL_ALREADY_USED => trivial

/-- The worker has not called the catalog. -/
def Idle (H : DurableHistory) : Prop := H.countP (fun ev => ev.1.mutates) = 0

theorem Idle.append {t : DurableHistory} (hi : Idle H) (ht : ∀ ev ∈ t, ev.1.mutates = false) :
    Idle (H ++ t) := by
  unfold Idle at hi ⊢
  rw [List.countP_append, hi, Nat.zero_add, List.countP_eq_zero]
  exact fun ev hev => by rw [ht ev hev]; exact Bool.false_ne_true

/-- What ties a history of the loop to the one of its worker. -/
structure DurablyTied (key : Text) (h : History) (H : DurableHistory) : Prop where
  claim : ∀ c x, c.idempotencyKey = key → claimed c (.ok x) ∈ h → Grounded key H x
  complete : ∀ lease receipt, lease.idempotencyKey = key → completed lease receipt (.ok ()) ∈ h →
    ∃ text, canonicalize receipt = .ok text ∧ ∃ ev ∈ H, shows key text ev
  idle : (∀ request answer, written request answer ∉ h) → Idle H

/-- One more call. -/
theorem DurablyTied.append (ht : DurablyTied key h H) {ev : Event Effect Effect.Reply}
    {t : DurableHistory}
    (hclaim : ∀ c x, c.idempotencyKey = key → ev = claimed c (.ok x) → Grounded key (H ++ t) x)
    (hcomplete : ∀ lease receipt, lease.idempotencyKey = key → ev = completed lease receipt (.ok ()) →
      ∃ text, canonicalize receipt = .ok text ∧ ∃ ev ∈ H ++ t, shows key text ev)
    (hidle : (∀ request answer, ev ≠ written request answer) → ∀ ev ∈ t, ev.1.mutates = false) :
    DurablyTied key (h ++ [ev]) (H ++ t) where
  claim := fun c x hc hmem => by
    rcases List.mem_append.mp hmem with hmem | hmem
    · exact (ht.claim c x hc hmem).append t
    · exact hclaim c x hc (List.mem_singleton.mp hmem).symm
  complete := fun lease receipt hlease hmem => by
    rcases List.mem_append.mp hmem with hmem | hmem
    · obtain ⟨text, htext, ev, hev, hshows⟩ := ht.complete lease receipt hlease hmem
      exact ⟨text, htext, ev, List.mem_append_left _ hev, hshows⟩
    · exact hcomplete lease receipt hlease (List.mem_singleton.mp hmem).symm
  idle := fun hnone => by
    refine (ht.idle fun request answer hmem => ?_).append (hidle fun request answer hev => ?_)
    · exact hnone request answer (List.mem_append_left _ hmem)
    · exact hnone request answer (hev ▸ List.mem_concat_self)

/-- Before the write nothing is written. -/
theorem Granted.unwritten {b : ReceiptBinding} (hg : Granted P input h b) (request : Value)
    (answer : Run Value) : written request answer ∉ h := by
  have hrecovering : ∀ {h : History} {b : ReceiptBinding}, Recovering P input h b →
      written request answer ∉ h := by
    rintro h b hr hmem
    cases hr with
    | mk begun => simp [clocked, Remediation.claimed, written] at hmem
  cases hg with
  | claimed begun =>
    intro hmem
    simp [clocked, Remediation.claimed, written] at hmem
  | resumed hr _ =>
    intro hmem
    rcases List.mem_append.mp hmem with hmem | hmem
    · exact hrecovering hr hmem
    · simp [wasRead, Remediation.resumed, written] at hmem

theorem Ready.unwritten {b : ReceiptBinding} {current : Value} (hr : Ready P input h b current)
    (request : Value) (answer : Run Value) : written request answer ∉ h := by
  cases hr with
  | mk due _ =>
    intro hmem
    rcases List.mem_append.mp hmem with hmem | hmem
    · exact due.granted.unwritten request answer hmem
    · simp [wasRead, written] at hmem

/-- A worker that returns a receipt has seen it recorded. -/
def Recorded (key : Text) (H : DurableHistory) (r : Except (Exn Failure) Value) : Prop :=
  ∀ receipt, r = .ok receipt → ∃ text, Records text receipt ∧ ∃ ev ∈ H, shows key text ev

theorem licensed_of_tame {e : DurableEffect} (he : e.mutates = false) :
    Pool.Licensed (handsAny key) DurableEffect.mutates H e :=
  fun h => absurd (he.symm.trans h) Bool.false_ne_true

/-- **The calls of the loop are answered by calls that are licensed.** -/
theorem answer_obeys (ht : DurablyTied input.idempotencyKey h H) {e : Effect}
    (he : Allowed P input h e) :
    Obeys (Pool.Licensed (handsAny input.idempotencyKey) DurableEffect.mutates) (fun H' r =>
      match r with
      | .ok a => DurablyTied input.idempotencyKey (h ++ [⟨e, a⟩]) H'
      | .error x => Recorded input.idempotencyKey H' (.error x)) H
      (DynamoExecutionJournal.answer P approvalFirst e) := by
  cases e with
  | clock =>
    refine ⟨licensed_of_tame rfl, fun now => ht.append (fun _ _ _ h => ?_) (fun _ _ _ h => ?_) ?_⟩
    · exact nomatch congrArg Sigma.fst h
    · exact nomatch congrArg Sigma.fst h
    · exact fun _ ev hev => by rw [List.mem_singleton.mp hev]; rfl
  | readTagProjection target =>
    refine ⟨licensed_of_tame rfl, fun r => ht.append (fun _ _ _ h => ?_) (fun _ _ _ h => ?_) ?_⟩
    · exact nomatch congrArg Sigma.fst h
    · exact nomatch congrArg Sigma.fst h
    · exact fun _ ev hev => by rw [List.mem_singleton.mp hev]; rfl
  | claim c =>
    refine obeys_attempt.mpr (DynamoExecutionJournal.claim_obeys.adds.mono
      (fun _ _ hi => licensed_of_tame hi) ?_)
    rintro H' r ⟨hr, t, rfl, htame⟩
    refine ht.append (fun c' x hc' hev => ?_) (fun _ _ _ hev => nomatch congrArg Sigma.fst hev)
      fun _ => htame
    cases hev
    exact hc' ▸ hr x rfl
  | resume lease =>
    refine obeys_attempt.mpr (DynamoExecutionJournal.resume_obeys.adds.mono
      (fun _ _ hi => licensed_of_tame hi) ?_)
    rintro H' r ⟨-, t, rfl, htame⟩
    exact ht.append (fun _ _ _ hev => nomatch congrArg Sigma.fst hev)
      (fun _ _ _ hev => nomatch congrArg Sigma.fst hev) fun _ => htame
  | complete lease receipt =>
    refine obeys_attempt.mpr (DynamoExecutionJournal.complete_obeys.adds.mono
      (fun _ _ hi => licensed_of_tame hi) ?_)
    rintro H' r ⟨hr, t, rfl, htame⟩
    refine ht.append (fun _ _ _ hev => nomatch congrArg Sigma.fst hev) (fun lease' _ hl hev => ?_)
      fun _ => htame
    cases hev
    exact hl ▸ hr rfl
  | addTags request =>
    obtain ⟨b, current, hready, -⟩ := he
    obtain ⟨c, hc, ⟨u, hgranted⟩, -⟩ := goesOn_ready hready
    have hkey := claimInput_key hc
    have hidle := ht.idle hready.unwritten
    refine ⟨fun _ => ⟨?_, hidle⟩, fun r => ?_⟩
    · rcases hgranted with hgranted | hgranted
      · exact ht.claim c _ hkey hgranted
      · exact ht.claim c _ hkey hgranted
    · exact ht.append (fun _ _ _ hev => nomatch congrArg Sigma.fst hev)
        (fun _ _ _ hev => nomatch congrArg Sigma.fst hev) fun hnone => absurd rfl (hnone request r)

/-- **What a worker does is licensed**, and what it returns is recorded. -/
theorem executeDurably_obeys :
    Obeys (Pool.Licensed (handsAny input.idempotencyKey) DurableEffect.mutates)
      (Recorded input.idempotencyKey) [] (executeDurably P approvalFirst input) := by
  refine obeys_handle (S := DurablyTied input.idempotencyKey) (fun h H e ht he => ?_)
    (fun h H r ht hr => ?_) ⟨fun _ _ _ hmem => absurd hmem List.not_mem_nil,
      fun _ _ _ hmem => absurd hmem List.not_mem_nil, fun _ => rfl⟩
    (executeApprovedRemediation_obeys P input)
  · exact (answer_obeys ht he).mono (fun _ _ hi => hi) fun _ r hr => by cases r <;> exact hr
  · rintro receipt rfl
    obtain ⟨startedAt, c, hbegun, rfl⟩ | ⟨h', b, t, hexit, -, rfl⟩ := hr
    · obtain ⟨text, hparse, ev, hev, hshows⟩ := ht.claim c (.COMPLETED receipt)
        (claimInput_key hbegun.claim) (List.mem_cons_of_mem _ (List.mem_singleton.mpr rfl))
      exact ⟨text, Or.inr hparse, ev, hev, hshows⟩
    · obtain ⟨c, hc, -, hkey⟩ := goesOn_exit hexit
      obtain ⟨text, htext, ev, hev, hshows⟩ := ht.complete b.lease receipt
        (hkey.trans (claimInput_key hc)) List.mem_concat_self
      exact ⟨text, Or.inl htext, ev, hev, hshows⟩

end Worker

/-! ## 5. Runs -/

/-- A worker: its artifacts and its key, and which of its two reads is served first. -/
structure DurableWork where
  input : ExecuteApprovedRemediationInput
  approvalFirst : Bool

section Runs

variable {ι : Type} [DecidableEq ι] {P : Platform} {works : ι → DurableWork}

/-- The workers of a run. -/
abbrev DurableWorkers (ι : Type) :=
  Pool ι JournalTable DurableEffect DurableEffect.Reply (Exn Failure) Value

/-- All of them at their start. -/
def DurableWork.start (P : Platform) (works : ι → DurableWork) (s : JournalTable) : DurableWorkers ι :=
  Pool.start s fun i => executeDurably P (works i).approvalFirst (works i).input

/-- How often a worker has called the catalog. -/
def writes (S : DurableWorkers ι) (i : ι) : Nat := (S.history i).countP fun ev => ev.1.mutates

/-- How often a worker was handed this token of its key. -/
def tokens (works : ι → DurableWork) (S : DurableWorkers ι) (i : ι) (t : Nat) : Nat :=
  (S.history i).countP (hands (works i).input.idempotencyKey t)

/-- **Every write has a token of its own.**  A worker writes at most once; if it has written, it was
handed a token of its key, which is not ahead of the table's; and a token is handed out once, to one
worker. -/
theorem durably_fenced {s : JournalTable} {S : DurableWorkers ι}
    (hrun : Pool.Run Database (fun _ _ => True) (DurableWork.start P works s) S) :
    (∀ i, writes S i ≤ 1) ∧
      (∀ i, 0 < writes S i → ∃ t, 0 < tokens works S i t ∧
        Handed (works i).input.idempotencyKey t S.shared) ∧
      (∀ i t, tokens works S i t ≤ 1) ∧
      ∀ i j t, (works i).input.idempotencyKey = (works j).input.idempotencyKey →
        0 < tokens works S i t → 0 < tokens works S j t → i = j := by
  have hsingle := fun key t =>
    hrun.single (hands_exclusive key t) (Pool.single_start (Handed key t) (hands key t) s)
  have hobedient : ∀ i, Pool.Obedient (handsAny (works i).input.idempotencyKey) DurableEffect.mutates
      (S.history i) := fun i =>
    hrun.obedient (· = i)
      (fun j => executeDurably_obeys.mono (fun _ _ h hj => hj ▸ h) fun _ _ _ => trivial) i rfl
  refine ⟨fun i => (hobedient i).2, fun i hpos => ?_, fun i t => (hsingle _ t).once i,
    fun i j t hkey hi hj => ?_⟩
  · obtain ⟨t, ht⟩ := exists_hands ((hobedient i).1 hpos)
    exact ⟨t, ht, (hsingle _ t).marked i ht⟩
  · refine (hsingle (works i).input.idempotencyKey t).alone i j hi ?_
    rw [hkey]
    exact hj

/-- What tells that an execution is completed is so, and stays so. -/
theorem shows_telling (key text : Text) :
    Pool.Telling Database (shows key text) (CompletedWith key text) where
  told := completed_of_shows
  stays := fun h hs => hs.step h

/-- All receipts that workers of one key have returned are one, which the table holds and keeps. -/
def ReceiptsAgree (works : ι → DurableWork) (S : DurableWorkers ι) : Prop :=
  ∀ i j receipt receipt', (works i).input.idempotencyKey = (works j).input.idempotencyKey →
    S.program i = .done (.ok receipt) → S.program j = .done (.ok receipt') →
    ∃ text, Records text receipt ∧ Records text receipt' ∧
      ∀ S', Pool.Run Database (fun _ _ => True) S S' →
        CompletedWith (works i).input.idempotencyKey text S'.shared

end Runs

/-! ## 6. A run -/

/-- A table without items. -/
def JournalTable.empty : JournalTable := ⟨fun _ => none, fun _ => none⟩

/-- One worker, with the sample's artifacts. -/
def sampleDurable : Unit → DurableWork := fun _ => ⟨inputOf (.sample [] (js "APPROVE")), false⟩

/-- The worker creates its execution, reads the approved state and writes. -/
theorem sample_written : ∃ S : DurableWorkers Unit,
    Pool.Run Database (fun _ _ => True) (DurableWork.start .node sampleDurable .empty) S ∧
      0 < writes S () := by
  obtain ⟨now, c, v, k, hr⟩ := reaches_standing (accepted_inputOf (.sample [] (js "APPROVE")))
    (by decide) (by decide +kernel) (mutationRequest_arrays (argumentArrays_inputOf _))
  have hclock : Reaches (DynamoExecutionJournal.answer .node false .clock) [⟨.clock, now⟩]
      (.done (.ok now)) := .step (.refl _)
  have hclaim : Reaches (DynamoExecutionJournal.answer .node false (.claim c))
      [⟨.now, (0 : Int)⟩, ⟨.write (.create c 600), (.ok () : Except AwsError Unit)⟩]
      (.done (.ok (.ok (.CLAIMED 1)))) := .step (.step (.refl _))
  have hread : ∀ target, Reaches (DynamoExecutionJournal.answer .node false (.readTagProjection target))
      [⟨.readTagProjection target, (.ok v : Run Value)⟩] (.done (.ok (.ok v))) :=
    fun _ => .step (.refl _)
  have hanswered := Answered.cons hclock (.cons hclaim (.cons (hread (readTarget (inputOf
    (.sample [] (js "APPROVE"))))) .nil))
  have hreach := (hanswered.reaches hr).trans (.step (r := .ok .null) (.refl _))
  have hstart : Pool.Run Database (fun _ _ => True) (DurableWork.start .node sampleDurable .empty)
      (DurableWork.start .node sampleDurable .empty) := .refl
  obtain ⟨S, hrun, -, -, hhistory⟩ := hstart.alone (i := ()) hreach
    (.cons (.clock _ now) (.cons (.now _ 0) (.cons (.written rfl) (.cons (.readTags _ _ _)
      (.cons (.addTags _ _ _) (.nil _)))))) fun _ _ _ _ _ _ => trivial
  refine ⟨S, hrun, ?_⟩
  rw [writes, hhistory, Function.update_self]
  exact List.countP_pos_iff.mpr ⟨_, List.mem_append_right _ (List.mem_append_right _
    (List.mem_singleton.mpr rfl)), rfl⟩

/-- It was handed a token, and has written once. -/
theorem durably_fenced_sample : ∃ S : DurableWorkers Unit,
    Pool.Run Database (fun _ _ => True) (DurableWork.start .node sampleDurable .empty) S ∧
      writes S () = 1 ∧ ∃ t, 0 < tokens sampleDurable S () t := by
  obtain ⟨S, hrun, hwritten⟩ := sample_written
  have hfenced := durably_fenced hrun
  obtain ⟨t, ht, -⟩ := hfenced.2.1 () hwritten
  exact ⟨S, hrun, Nat.le_antisymm (hfenced.1 ()) hwritten, t, ht⟩

end Remediation
