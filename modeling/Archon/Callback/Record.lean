/-
# The approvals that Step Functions waits for

An execution that needs a human hands its task token off on a queue, and waits.  `handoff.js` stores
the message as an item of the approval table, `index.js` records a steward's decision in it and
returns the decision to Step Functions with the token.  Both are run by any number of Lambda
invocations at once, and the item is changed by conditional writes only: an `ApprovalWrite` is one
of them.

An item is kept as its attributes, and the table as the items by approval id.  `World` holds beside
it how the task tokens have ended.
-/
import Archon.Resumption.Guarded
import Archon.Remediation.Platform

namespace Callback

open Ecma Ecma.Value Remediation Resumption

/-! ## 1. Messages, decisions and items -/

/-- A message of the queue, as `parse` returns it.  Its `type` is `APPROVAL_REQUESTED`. -/
structure Message where
  taskToken : Text
  executionId : Text
  approvalId : Text
  planDigest : Text
  evidenceDigest : Text
  approvalRequestDigest : Text
  requestedAt : Text
  expiresAt : Text
  expiresEpoch : Int
deriving DecidableEq

/-- The values of `decision`. -/
inductive DecisionName where
  | APPROVE
  | REJECT
deriving DecidableEq

/-- Its text. -/
def DecisionName.text : DecisionName → Text
  | APPROVE => js "APPROVE"
  | REJECT => js "REJECT"

theorem DecisionName.text_inj {a b : DecisionName} (h : a.text = b.text) : a = b := by
  cases a <;> cases b <;> first | rfl | exact absurd (js_inj.mp h) (by decide)

/-- What the write of a decision sets, beside the status, the retention and the callback. -/
structure Decided where
  decision : DecisionName
  comment : Text
  approverSub : Text
  approverIssuer : Text
  decisionDigest : Text
  decisionEvidenceDigest : Text
  decisionEvidence : Text
  decidedAt : Text
deriving DecidableEq

/-- The values of `status`. -/
inductive Status where
  | PENDING
  | DECIDED
deriving DecidableEq

/-- The values of `callbackState`. -/
inductive CallbackState where
  | DELIVERING
  | CLOSED
  | DELIVERED
deriving DecidableEq

/-- The attributes of `APPROVAL#id`, `STATE`. -/
structure Item where
  status : Status
  taskToken : Option Text
  executionId : Text
  evidenceDigest : Text
  planDigest : Text
  requestDigest : Text
  requestedAt : Text
  createdAt : Text
  approvalExpiresAt : Text
  expiresAt : Int
  decided : Option Decided
  callbackDelivered : Bool
  callbackClosed : Bool
  callbackState : Option CallbackState
  callbackAttemptId : Option Text
  callbackAttemptedAt : Option Text
  callbackLeaseUntil : Option Int
  callbackDeliveredAt : Option Text
  callbackClosedAt : Option Text
deriving DecidableEq

/-- The item that a message is stored as. -/
def Message.item (m : Message) (createdAt : Text) : Item where
  status := .PENDING
  taskToken := some m.taskToken
  executionId := m.executionId
  evidenceDigest := m.evidenceDigest
  planDigest := m.planDigest
  requestDigest := m.approvalRequestDigest
  requestedAt := m.requestedAt
  createdAt := createdAt
  approvalExpiresAt := m.expiresAt
  expiresAt := m.expiresEpoch
  decided := none
  callbackDelivered := false
  callbackClosed := false
  callbackState := none
  callbackAttemptId := none
  callbackAttemptedAt := none
  callbackLeaseUntil := none
  callbackDeliveredAt := none
  callbackClosedAt := none

/-! ## 2. The writes -/

/-- The conditional writes to an approval. -/
inductive ApprovalWrite where
  /-- `persist`. -/
  | put (message : Message) (createdAt : Text)
  /-- The decision. -/
  | decide (approvalId : Text) (decided : Decided) (retentionExpiresAt : Int)
  /-- The callback lease. -/
  | attempt (approvalId : Text) (digest attemptId now : Text) (nowEpoch : Int)
  /-- `callbackClosed`. -/
  | close (approvalId : Text) (digest attemptId now : Text)
  /-- `callbackDelivered`. -/
  | deliver (approvalId : Text) (digest attemptId now : Text)
deriving DecidableEq

namespace ApprovalWrite

/-- The approval whose item is written. -/
def key : ApprovalWrite → Text
  | put m _ => m.approvalId
  | decide id _ _ | attempt id _ _ _ _ | close id _ _ _ | deliver id _ _ _ => id

/-- `decisionDigest = :digest`. -/
def hasDigest (item : Item) (digest : Text) : Bool :=
  item.decided.any fun d => d.decisionDigest = digest

/-- `ConditionExpression`, on an item that is there. -/
def meets (w : ApprovalWrite) (item : Item) : Bool :=
  match w with
  | put _ _ => false
  | decide _ _ _ => item.status = .PENDING
  | attempt _ digest _ _ nowEpoch =>
    hasDigest item digest && !item.callbackDelivered
      && (item.callbackLeaseUntil.isNone || item.callbackLeaseUntil.any (· < nowEpoch))
  | close _ digest attemptId _ | deliver _ digest attemptId _ =>
    hasDigest item digest && item.callbackAttemptId = some attemptId && !item.callbackDelivered

/-- `UpdateExpression`, on an item that is there. -/
def update (w : ApprovalWrite) (item : Item) : Item :=
  match w with
  | put m createdAt => m.item createdAt
  | decide _ decided retentionExpiresAt =>
    { item with
      status := .DECIDED, decided := some decided, callbackDelivered := false
      expiresAt := retentionExpiresAt }
  | attempt _ _ attemptId now nowEpoch =>
    { item with
      callbackState := some .DELIVERING, callbackAttemptId := some attemptId
      callbackAttemptedAt := some now, callbackLeaseUntil := some (nowEpoch + 30) }
  | close _ _ _ now =>
    { item with
      callbackState := some .CLOSED, callbackClosed := true, callbackClosedAt := some now
      taskToken := none, callbackLeaseUntil := none }
  | deliver _ _ _ now =>
    { item with
      callbackState := some .DELIVERED, callbackDelivered := true, callbackDeliveredAt := some now
      taskToken := none, callbackLeaseUntil := none }

/-- The condition on the item.  Only `persist` writes where there is none. -/
def condition (w : ApprovalWrite) : Option Item → Bool
  | some item => w.meets item
  | none =>
    match w with
    | put _ _ => true
    | _ => false

/-- The item after the write. -/
def result (w : ApprovalWrite) : Option Item → Option Item
  | some item => some (w.update item)
  | none =>
    match w with
    | put m createdAt => some (m.item createdAt)
    | _ => none

end ApprovalWrite

/-! ## 3. Step Functions, and the whole -/

/-- How a token has ended. -/
inductive Ending where
  /-- `SendTaskSuccess` was accepted. -/
  | success (output : Value)
  /-- `SendTaskFailure` was accepted. -/
  | failure (error cause : Text)
  /-- The workflow waits no longer: the task timed out, or the execution was stopped. -/
  | lapsed

/-- The table, the writes that were applied to it, and the tokens that Step Functions has ended,
the last one first.  Nobody reads the second. -/
structure World where
  approvals : Text → Option Item
  applied : List ApprovalWrite
  ended : List (Text × Ending)

/-- Nothing has happened yet. -/
def World.empty : World := ⟨fun _ => none, [], []⟩

/-- Another item under one key. -/
def World.withItem (s : World) (id : Text) (item : Option Item) (w : ApprovalWrite) : World where
  approvals key := if key = id then item else s.approvals key
  applied := w :: s.applied
  ended := s.ended

/-- The write as the table sees it. -/
def ApprovalWrite.guarded (w : ApprovalWrite) : Guarded World where
  condition s := w.condition (s.approvals w.key)
  result s := s.withItem w.key (w.result (s.approvals w.key)) w

@[simp] theorem World.withItem_applied (s : World) (id : Text) (item : Option Item)
    (w : ApprovalWrite) : (s.withItem id item w).applied = w :: s.applied := rfl

@[simp] theorem World.withItem_ended (s : World) (id : Text) (item : Option Item)
    (w : ApprovalWrite) : (s.withItem id item w).ended = s.ended := rfl

@[simp] theorem World.withItem_self (s : World) (id : Text) (item : Option Item)
    (w : ApprovalWrite) : (s.withItem id item w).approvals id = item := by
  simp [withItem]

theorem World.withItem_of_ne {s : World} {id key : Text} {item : Option Item} {w : ApprovalWrite}
    (h : key ≠ id) : (s.withItem id item w).approvals key = s.approvals key := by
  simp [withItem, h]

end Callback
