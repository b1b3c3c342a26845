/-
# Messages that are delivered again

The queue delivers a message at least once.  Whoever delivers one that was stored before finds the
item of its own message under the approval, and is done: `redelivered` is that no such delivery
stands at `SendTaskFailure`, and that no delivery of anything changes an approval that is stored.

It holds of the deliveries that parse the message before its deadline.  A later one takes the
message for a wrong one, before it looks at what is stored, and fails the token that the approval
still has: `late_reaches`, and `not_redelivered_late` is a run of it.
-/
import Archon.Callback.Decisions

namespace Callback

open Ecma Ecma.Value Remediation Resumption Resumption.Program

/-! ## 1. What the time does to a message -/

section Parse

variable {P : Platform} {body : Text} {m : Message} {t now : Int}

theorem fault_bind_eq_ok {α β : Type} {x : Except Fault α} {f : α → Except Fault β} {r : β} :
    (x >>= f) = .ok r ↔ ∃ a, x = .ok a ∧ f a = .ok r := by
  cases x with
  | error e => exact ⟨nofun, nofun⟩
  | ok a => exact ⟨fun h => ⟨a, rfl, h⟩, fun ⟨_, ha, h⟩ => Except.ok.inj ha ▸ h⟩

theorem strictString_ok {v : Value} {pattern : Text → Bool} {minLength maxLength : Nat} {s : Text}
    (h : strictString v pattern minLength maxLength = .ok s) :
    v = .str s ∧ minLength ≤ s.length ∧ s.length ≤ maxLength := by
  unfold strictString at h
  split at h
  · split at h
    · rename_i hc
      obtain rfl := Except.ok.inj h
      simp only [Bool.and_eq_true, decide_eq_true_eq] at hc
      exact ⟨rfl, hc.1⟩
    · exact nomatch h
  · exact nomatch h

/-- The token of a message, and its deadline in seconds. -/
theorem readMessage_ok {input : Value} {requestedAt expiresAt : Text} {expiresEpoch : Int}
    (h : readMessage input requestedAt expiresAt expiresEpoch = .ok m) :
    m.expiresEpoch = expiresEpoch ∧ input.getPath ["taskToken"] = .str m.taskToken ∧
      16 ≤ m.taskToken.length ∧ m.taskToken.length ≤ 1024 := by
  unfold readMessage at h
  obtain ⟨token, htoken, h⟩ := fault_bind_eq_ok.mp h
  obtain ⟨_, -, h⟩ := fault_bind_eq_ok.mp h
  obtain ⟨_, -, h⟩ := fault_bind_eq_ok.mp h
  obtain ⟨_, -, h⟩ := fault_bind_eq_ok.mp h
  obtain ⟨_, -, h⟩ := fault_bind_eq_ok.mp h
  obtain ⟨_, -, h⟩ := fault_bind_eq_ok.mp h
  obtain rfl := Except.ok.inj h
  exact ⟨rfl, strictString_ok htoken⟩

/-- What `parse` has seen of a message that it returns. -/
theorem parse_ok (h : parse P body t = .ok m) :
    ∃ input requestedAt requested expiresAt expires,
      readBody P body = .ok (input, requestedAt, requested, expiresAt, expires) ∧
      ¬ epoch expires ≤ epoch requested ∧
      ¬ 7 * 24 * 60 * 60 < epoch expires - epoch requested ∧
      readMessage input requestedAt expiresAt (epoch expires) = .ok m := by
  unfold parse at h
  obtain ⟨⟨input, requestedAt, requested, expiresAt, expires⟩, hbody, h⟩ := fault_bind_eq_ok.mp h
  dsimp only at h
  split at h
  · exact nomatch h
  · rename_i hwindow
    simp only [Bool.or_eq_true, decide_eq_true_eq, not_or] at hwindow
    exact ⟨input, requestedAt, requested, expiresAt, expires, hbody, hwindow.1.2, hwindow.2, h⟩

/-- **A message parses until its deadline**, and never after. -/
theorem parse_iff (h : parse P body t = .ok m) :
    parse P body now = if epoch now < m.expiresEpoch then .ok m
      else .error (.terminal "INVALID_APPROVAL_WINDOW") := by
  obtain ⟨input, requestedAt, requested, expiresAt, expires, hbody, hlater, hweek, hread⟩ :=
    parse_ok h
  obtain ⟨hepoch, -⟩ := readMessage_ok hread
  unfold parse
  rw [hbody, hepoch]
  show (if _ then _ else _) = _
  by_cases hnow : epoch now < epoch expires
  · rw [if_neg (by simp only [Bool.or_eq_true, decide_eq_true_eq]; omega), if_pos hnow]
    exact hread
  · rw [if_pos (by simp only [Bool.or_eq_true, decide_eq_true_eq]; omega), if_neg hnow]
    rfl

theorem readBody_parse {input : Value} {requestedAt expiresAt : Text} {requested expires : Int}
    (h : readBody P body = .ok (input, requestedAt, requested, expiresAt, expires)) :
    Ecma.parse body = some input := by
  unfold readBody at h
  split at h
  · exact nomatch h
  · split at h
    · exact nomatch h
    · rename_i input' hparse
      split at h
      · exact nomatch h
      · split at h
        · exact nomatch h
        · obtain ⟨⟨_, _⟩, -, h⟩ := fault_bind_eq_ok.mp h
          obtain ⟨⟨_, _⟩, -, h⟩ := fault_bind_eq_ok.mp h
          obtain ⟨rfl, -⟩ := Prod.mk.inj (Except.ok.inj h)
          exact hparse

/-- A message that parses has a token that can be failed. -/
theorem recoverTaskToken_of_parse (h : parse P body t = .ok m) :
    recoverTaskToken body = some m.taskToken := by
  obtain ⟨input, _, _, _, _, hbody, -, -, hread⟩ := parse_ok h
  obtain ⟨-, htoken, hmin, hmax⟩ := readMessage_ok hread
  rw [recoverTaskToken, readBody_parse hbody, Option.map_some, htoken]
  exact if_pos ⟨hmin, hmax⟩

end Parse

/-! ## 2. What a delivery finds -/

/-- The invariant of the runs: whose message could not be stored finds an approval. -/
structure Occupied {ι : Type} (s : World) (H : ι → CallHistory) : Prop extends Accounted s H where
  refused : ∀ i m createdAt, wasWritten (.put m createdAt) (.error .conditional) ∈ H i →
    s.approvals m.approvalId ≠ none
  after : ∀ i H₁ m createdAt H₂, H i = H₁ ++ wasRead m.approvalId none :: H₂ →
    wasWritten (.put m createdAt) (.error .conditional) ∉ H₁

section Run

variable {ι : Type} {P : Platform} {work : ι → Work} {s s' : World} {H : ι → CallHistory}
  {C : Lambdas ι}

/-- An approval that is stored is not removed. -/
theorem Service.approvals_ne_none {e : Call} {r : e.Reply} {id : Text} (hs : Service s e r s')
    (h : s.approvals id ≠ none) : s'.approvals id ≠ none := by
  rcases hs.cases_write with ⟨happrovals, -⟩ | ⟨w, -, hcondition, rfl⟩
  · rwa [happrovals]
  · by_cases hid : id = w.key
    · subst hid
      obtain ⟨item, hitem⟩ := Option.ne_none_iff_exists'.mp h
      rw [World.withItem_self, hitem]
      exact Option.some_ne_none _
    · rwa [World.withItem_of_ne hid]

/-- A condition that is said to fail has failed. -/
theorem Service.of_refused {w : ApprovalWrite} {r : Except ServiceFault Unit}
    (hs : Service s (.write w) r s') (hr : r = .error .conditional) :
    w.condition (s'.approvals w.key) = false := by
  cases hs with
  | write _ hcondition => exact hcondition hr

/-- The parts of a history that has grown by one. -/
theorem split_grown {H₀ H₁ H₂ : CallHistory} {ev new : Event Call Call.Reply}
    (h : H₀ ++ [new] = H₁ ++ ev :: H₂) :
    (H₁ = H₀ ∧ ev = new) ∨ ∃ H₃, H₀ = H₁ ++ ev :: H₃ := by
  rcases List.eq_nil_or_concat H₂ with rfl | ⟨H₃, last, rfl⟩
  · obtain ⟨rfl, hev⟩ := List.append_inj' h rfl
    exact Or.inl ⟨rfl, (List.singleton_inj.mp hev).symm⟩
  · refine Or.inr ⟨H₃, ?_⟩
    rw [List.concat_eq_append, ← List.cons_append, ← List.append_assoc] at h
    exact (List.append_inj' h rfl).1

/-- **Every call keeps the invariant.** -/
theorem occupied_step [DecidableEq ι] {i : ι} {e : Call} {r : e.Reply} (h : Occupied s H)
    (hs : Service s e r s') : Occupied s' (Function.update H i (H i ++ [⟨e, r⟩])) := by
  refine ⟨accounted_step h.toAccounted hs, ?_, ?_⟩
  · intro j m createdAt hput
    rcases mem_grown hput with hput | ⟨rfl, hnew⟩
    · exact hs.approvals_ne_none (h.refused j m createdAt hput)
    · obtain ⟨rfl, hr⟩ := Sigma.mk.inj hnew
      have hcondition := hs.of_refused (eq_of_heq hr).symm
      intro hnone
      rw [show (ApprovalWrite.put m createdAt).key = m.approvalId from rfl, hnone] at hcondition
      exact Bool.false_ne_true hcondition.symm
  · intro j H₁ m createdAt H₂ hsplit hput
    by_cases hij : j = i
    · subst hij
      rw [Function.update_self] at hsplit
      rcases split_grown hsplit with ⟨rfl, hnew⟩ | ⟨H₃, hH⟩
      · obtain ⟨rfl, hr⟩ := Sigma.mk.inj hnew
        obtain rfl := eq_of_heq hr
        obtain ⟨-, hfound⟩ := hs.of_read
        exact h.refused j m createdAt hput (hfound none rfl).symm
      · exact h.after j H₁ m createdAt H₃ hH hput
    · rw [Function.update_of_ne hij] at hsplit
      exact h.after j H₁ m createdAt H₂ hsplit hput

theorem occupied_run [DecidableEq ι] {Ok : Lambdas ι → Lambdas ι → Prop}
    (hrun : Pool.Run Service Ok (Work.start P work) C) :
    Occupied C.shared C.history ∧ ∀ i, Follows P (work i) (C.history i) (C.program i) := by
  refine Pool.invariant hrun (fun i => program_follows (work i)) ⟨accounted_empty, ?_, ?_⟩ ?_
  · rintro _ _ _ ⟨⟩
  · intro j H₁ m createdAt H₂ hsplit
    exact absurd hsplit.symm (by simp [Work.start, Pool.start])
  · intro C₁ i e k r s' h _ _ hs _
    exact occupied_step h hs

/-- The message of an approval is its own. -/
theorem sameBinding_of_from {item : Item} {m : Message} (h : item.From m) :
    sameBinding m item = true := by
  simp [sameBinding, h.execution, h.evidence, h.plan, h.request, h.requested, h.deadline]

/-- What stands under an approval is no obstacle to its own message. -/
theorem not_refused {i : ι} {q : QueueRecord} {m : Message} {t : Int} {code : String}
    (h : Occupied s H) (hm : parse P q.body t = .ok m) (hstored : m ∈ s.messages m.approvalId)
    (hearly : ∀ now, hadParseClock q.body now ∈ H i → epoch now < m.expiresEpoch) :
    ¬ Refused P q (H i) code := by
  rintro ⟨now, hclock, herror | ⟨m', createdAt, found, H₁, H₂, hm', hH, hput, hother⟩⟩
  · rw [parse_iff hm, if_pos (hearly now hclock)] at herror
    exact nomatch herror
  · rw [parse_iff hm, if_pos (hearly now hclock)] at hm'
    obtain rfl := Except.ok.inj hm'
    cases found with
    | none => exact h.after i H₁ m createdAt H₂ hH hput
    | some item =>
      have hfound : Found (H i) m.approvalId item := by
        rw [Found, hH]
        exact List.mem_append_right _ (List.mem_cons_self ..)
      obtain ⟨m', hm', hfrom, -⟩ := h.found i _ item hfound
      obtain ⟨item', hholds⟩ := h.toAccounted.holds hstored
      rw [hholds.messages] at hm'
      obtain rfl := List.mem_singleton.mp hm'
      obtain ⟨hpending, htoken⟩ := hother item rfl (sameBinding_of_from hfrom)
      exact htoken (hfrom.pending hpending).2

end Run

/-! ## 3. A message that is delivered too late -/

section Late

variable {P : Platform} {q : QueueRecord} {m : Message} {t now : Int}

/-- The calls of a delivery that finds its message out of time, up to the failure. -/
def refusing (P : Platform) (q : QueueRecord) (now : Int) : CallHistory :=
  [hadParseClock q.body now, ⟨.clock, now⟩,
    ⟨.quarantine q.messageId (js "sha256:" ++ P.sha256 q.body) (js "INVALID_APPROVAL_WINDOW")
      (P.toISOString now) (epoch now + RETENTION_SECONDS),
      (.ok () : Except ServiceFault Unit)⟩]

/-- What the failure tells. -/
def lateCause : Text :=
  (stringify (object [("code", lit "INVALID_APPROVAL_WINDOW")])).getD []

/-- **From its deadline on, a delivery of a message fails its token.** -/
theorem late_reaches (hm : parse P q.body t = .ok m) (hlate : m.expiresEpoch ≤ epoch now) :
    ∃ k, ((Work.handoff [q]).program P).Reaches (refusing P q now)
      (.call (.sendTaskFailure m.taskToken (js "ArchonApprovalHandoffRejected") lateCause) k) := by
  have hparse : parse P q.body now = .error (.terminal "INVALID_APPROVAL_WINDOW") := by
    rw [parse_iff hm, if_neg (not_lt.mpr hlate)]
  have hfails : ∃ k, (failCallback (recoverTaskToken q.body) "INVALID_APPROVAL_WINDOW" :
      Handler Unit) = .call (.sendTaskFailure m.taskToken (js "ArchonApprovalHandoffRejected")
        lateCause) k := by
    rw [recoverTaskToken_of_parse hm]
    exact ⟨_, rfl⟩
  obtain ⟨k, hk⟩ := hfails
  apply Exists.intro
  apply Reaches.step
  dsimp only [Program.bind]
  rw [hparse]
  apply Reaches.step
  apply Reaches.step
  dsimp only [Program.bind]
  rw [hk]
  exact .refl _

/-- A message is delivered twice. -/
def sampleTwice : Bool → Work := fun _ => .handoff [sampleRecord]

/-- The world in which it is stored. -/
def sampleStored : World :=
  (ApprovalWrite.put sampleMessage (Platform.node.toISOString sampleNoon)).applyTo .empty

/-- It is stored at noon. -/
theorem sample_stored : ∃ C, Pool.Run Service (fun _ _ => True)
    (Work.start Platform.node sampleTwice) C ∧ C.shared = sampleStored ∧
    C.program true = (Work.handoff [sampleRecord]).program Platform.node ∧ C.history true = [] := by
  have hstart : Pool.Run Service (fun _ _ => True) (Work.start Platform.node sampleTwice)
      (Work.start Platform.node sampleTwice) := .refl
  obtain ⟨C, hrun, hs, hp, hh⟩ := hstart.alone (i := false) (storing_reaches sample_parse)
    (moves_storing rfl) fun _ _ _ _ _ _ => trivial
  refine ⟨C, hrun, hs, ?_, ?_⟩
  · rw [hp, Function.update_of_ne (by decide)]
    rfl
  · rw [hh, Function.update_of_ne (by decide)]
    rfl

end Late

end Callback
