/-
# Approved rollbacks

A verified receipt can be undone once more under approval: `createRollbackProposal` derives the
proposal from the receipt and the state the catalog shows, a steward approves its digest, and
`executeApprovedRollback` derives the proposal AGAIN from what it reads and compares the two by
the digest each of them carries.  The proposal it was handed is never verified itself, and the
arguments of the removal are taken from it, not from the one just derived
(`removesInverse_iff`).  Nothing records that an approval was used, so whether it removes twice is
decided by what the catalog shows (`removals_le_one`).
-/
import Archon.Remediation.Verified

namespace Remediation

open Ecma Ecma.Value Resumption Resumption.Program

/-! ## 1. Proposals -/

/-- `rollbackPayload`. -/
def rollbackPayload (proposal : Value) : Run Value := proposal.without ["rollbackId", "digest"]

/-- `proposal.digest.slice("sha256:".length, "sha256:".length + 24)`, on a string. -/
def rollbackIdOf (digest : Value) : Run Value :=
  match digest with
  | .str d => .ok (.str (shortId "rollback-" d))
  | _ => .error .typeError

/-- `verifyRollbackProposal`. -/
def verifyRollbackProposal (P : Platform) (proposal : Value) : Bool :=
  orFalse <|
    eqText (proposal.path ["schemaVersion"]) (js "archon.rollback-proposal/v1") <&&>
    (do return (← proposal.path ["requiresFreshApproval"]).strictEq (.bool true)) <&&>
    (do verifyDigest P (← rollbackPayload proposal) (← proposal.path ["digest"])) <&&>
    eqValue (proposal.path ["rollbackId"]) (do rollbackIdOf (← proposal.path ["digest"]))

/-- Is there something to roll back, and does the catalog still show what was left?  The two guards
before the tag is looked at. -/
def eligible (P : Platform) (receipt current : Value) : Run Bool :=
  eqText (receipt.path ["outcome"]) (js "VERIFIED") <&&>
  eqText (receipt.path ["rollback", "availability"]) (js "ELIGIBLE") <&&>
  (do return (← receipt.path ["before"]).truthy) <&&>
  (do return (← receipt.path ["after"]).truthy) <&&>
  verifyTagProjection P current <&&>
  eqValue (current.path ["digest"]) (receipt.path ["after", "digest"])

/-- Was the tag added, and is it there? -/
def tagAdded (receipt : Value) : Run Bool := do
  let tag ← (← receipt.path ["action", "arguments", "tag_urns"]).index 0
  if ← (← receipt.path ["before", "tags"]).includes tag then return false
  (← receipt.path ["after", "tags"]).includes tag

/-- The members of a proposal without its id and digest. -/
def proposalFields (receipt : Value) (currentDigest : Value) : List (String × Value) :=
  [("schemaVersion", lit "archon.rollback-proposal/v1"),
    ("originalReceiptDigest", receipt.getPath ["digest"]), ("expectedCurrentDigest", currentDigest),
    ("restoreStateDigest", receipt.getPath ["before", "digest"]),
    ("inverseAction", receipt.getPath ["action", "inverse"]), ("requiresFreshApproval", .bool true)]

/-- `createRollbackProposal`; `none` for null. -/
def createRollbackProposal (P : Platform) (receipt current : Value) : Run (Option Value) := do
  if !receiptValid P receipt then return none
  if !(← eligible P receipt current) then return none
  if !(← tagAdded receipt) then return none
  let unsigned := proposalFields receipt (current.getPath ["digest"])
  let proposalDigest ← digest P (object unsigned)
  let proposal := object (unsigned ++
    [("rollbackId", .str (shortId "rollback-" proposalDigest)), ("digest", .str proposalDigest)])
  failIf (!verifyRollbackProposal P proposal) "Failed to bind rollback proposal."
  return some proposal

section Proposals

variable {P : Platform} {receipt v w : Value}

/-- An eligible state is a projection with the digest of the state the receipt left. -/
theorem eligible_digest (h : eligible P receipt v = .ok true) :
    (∃ p : TagProjection P, p.value = v) ∧ receipt.getPath ["after", "digest"] = v.getPath ["digest"] := by
  simp only [eligible, andM_eq_true] at h
  obtain ⟨-, -, -, -, hv, hd⟩ := h
  obtain ⟨p, rfl⟩ := verifyTagProjection_eq_true.mp hv
  exact ⟨⟨p, rfl⟩, by rw [p.digest_eq]; exact eqValue_paths hd p.digest_eq⟩

/-- The proposal depends on the state only through its digest. -/
theorem createRollbackProposal_congr (hv : eligible P receipt v = .ok true)
    (hw : eligible P receipt w = .ok true) :
    createRollbackProposal P receipt v = createRollbackProposal P receipt w := by
  have hdigest : v.getPath ["digest"] = w.getPath ["digest"] :=
    (eligible_digest hv).2.symm.trans (eligible_digest hw).2
  simp only [createRollbackProposal, hv, hw, hdigest]

/-- What there is a proposal for is eligible. -/
theorem eligible_of_proposal {proposal : Value}
    (h : createRollbackProposal P receipt v = .ok (some proposal)) :
    receiptValid P receipt = true ∧ eligible P receipt v = .ok true := by
  unfold createRollbackProposal at h
  cases hr : receiptValid P receipt with
  | false =>
    rw [hr] at h
    cases h
  | true =>
    rw [hr] at h
    obtain ⟨e, he, h⟩ := bind_eq_ok.mp h
    cases e with
    | true => exact ⟨rfl, he⟩
    | false => cases h

/-- If some state is eligible, the one the receipt left is. -/
theorem eligible_after (hr : receiptValid P receipt = true) (h : eligible P receipt v = .ok true) :
    eligible P receipt (receipt.getPath ["after"]) = .ok true := by
  obtain ⟨⟨p, rfl⟩, hdigest⟩ := eligible_digest h
  simp only [eligible, andM_eq_true] at h ⊢
  obtain ⟨houtcome, havailable, hbefore, hafter, -, -⟩ := h
  obtain ⟨after, hpath, htruthy⟩ := bind_eq_ok.mp hafter
  obtain rfl := getPath_of_path hpath
  have hok := (receiptValid_iff.mp hr).after
  rw [projectionOk, if_pos (Except.ok.inj htruthy)] at hok
  refine ⟨houtcome, havailable, hbefore, hafter, hok, ?_⟩
  rw [p.digest_eq] at hdigest
  have hd : ((receipt.getPath ["after"]).path ["digest"] : Run Value)
      = .ok (.str (digestOf P (p.value.rest ["digest"]))) := by
    have h : (receipt.getPath ["after"]).getPath ["digest"] = _ := hdigest
    rw [path_of_getPath (by rw [h]; simp), h]
  exact eqValue_of_str hd (by rw [path_of_getPath (by rw [hdigest]; simp), hdigest])

/-- The proposal for a receipt and the digest of the current state. -/
def proposalOf (P : Platform) (receipt currentDigest : Value) : Value :=
  object (proposalFields receipt currentDigest ++
    [("rollbackId", .str (shortId "rollback-" (digestOf P (object (proposalFields receipt currentDigest))))),
      ("digest", .str (digestOf P (object (proposalFields receipt currentDigest))))])

theorem rest_proposalOf (currentDigest : Value) :
    (proposalOf P receipt currentDigest).rest ["rollbackId", "digest"]
      = object (proposalFields receipt currentDigest) := by
  rw [proposalOf, rest_object]
  rfl

/-- What `createRollbackProposal` builds verifies. -/
theorem verifyRollbackProposal_proposalOf {currentDigest : Value}
    (hcan : Canonicalizable (object (proposalFields receipt currentDigest))) :
    verifyRollbackProposal P (proposalOf P receipt currentDigest) = true := by
  have hpayload : rollbackPayload (proposalOf P receipt currentDigest)
      = .ok (object (proposalFields receipt currentDigest)) :=
    without_eq_ok.mpr ⟨rfl, rest_proposalOf currentDigest⟩
  have hdigest : verifyDigest P (object (proposalFields receipt currentDigest))
      (.str (digestOf P (object (proposalFields receipt currentDigest)))) = .ok true :=
    verifyDigest_eq_true.mpr ⟨hcan, rfl⟩
  refine orFalse_eq_true.mpr ?_
  simp only [hpayload, ok_bind]
  simp [proposalOf, proposalFields, path, List.lookup, eqText, eqValue, rollbackIdOf] at hdigest ⊢
  simp [hdigest]

/-- The members of a proposal for a valid receipt have canonical texts. -/
theorem proposalFields_canonical (hr : receiptValid P receipt = true)
    (he : eligible P receipt v = .ok true) :
    Canonicalizable (object (proposalFields receipt (v.getPath ["digest"]))) := by
  have f := receiptValid_iff.mp hr
  obtain ⟨⟨p, rfl⟩, -⟩ := eligible_digest he
  simp only [eligible, andM_eq_true] at he
  obtain ⟨-, -, hbefore, -, -, -⟩ := he
  obtain ⟨before, hpath, htruthy⟩ := bind_eq_ok.mp hbefore
  obtain rfl := getPath_of_path hpath
  have hok := f.before
  rw [projectionOk, if_pos (Except.ok.inj htruthy)] at hok
  obtain ⟨q, hq⟩ := verifyTagProjection_eq_true.mp hok
  have hrestore : receipt.getPath ["before", "digest"] = .str q.digest := by
    have h : (receipt.getPath ["before"]).getPath ["digest"] = .str q.digest := by
      rw [← hq]
      exact q.digest_eq
    exact h
  have hinverse : Canonicalizable (receipt.getPath ["action", "inverse"]) := by
    have haction := orFalse_eq_true.mp f.action
    simp only [andM_eq_true, eqText_eq_true] at haction
    obtain ⟨-, -, htool, -, hdigest⟩ := haction
    obtain ⟨payload, hpayload, hdigest⟩ := bind_eq_ok.mp hdigest
    obtain ⟨-, rfl⟩ := without_eq_ok.mp hpayload
    obtain ⟨d, -, hdigest⟩ := bind_eq_ok.mp hdigest
    obtain ⟨hcan, -⟩ := verifyDigest_eq_true.mp hdigest
    have htool' : (receipt.getPath ["action"]).getPath ["inverse", "tool"] = lit "remove_tags" :=
      getPath_of_path htool
    have hne : (receipt.getPath ["action"]).getPath ["inverse"] ≠ .undefined := by
      intro hu
      rw [getPath_pair, hu] at htool'
      cases htool'
    obtain ⟨fields, hfields⟩ := obj_of_get (js "inverse") (v := receipt.getPath ["action"]) hne (by decide)
      (by decide)
    have hrest : ((receipt.getPath ["action"]).rest ["digest"]).getPath ["inverse"]
        = (receipt.getPath ["action"]).getPath ["inverse"] := by
      rw [hfields, getPath_cons, getPath_nil, get_rest _ (by decide)]
      rfl
    show Canonicalizable ((receipt.getPath ["action"]).getPath ["inverse"])
    rw [← hrest] at hne ⊢
    exact Everywhere.getPath hcan hne (by decide) (by decide)
  simp [proposalFields, f.digest, p.digest_eq, hrestore, hinverse]

/-- **When there is a proposal, and which.** -/
theorem createRollbackProposal_eq (hr : receiptValid P receipt = true)
    (he : eligible P receipt v = .ok true) (ht : tagAdded receipt = .ok true) :
    createRollbackProposal P receipt v = .ok (some (proposalOf P receipt (v.getPath ["digest"]))) := by
  have hcan := proposalFields_canonical hr he
  have hverified := verifyRollbackProposal_proposalOf (P := P) hcan
  unfold proposalOf at hverified ⊢
  simp [createRollbackProposal, hr, he, ht, digest_ok hcan, hverified, failIf]

end Proposals

/-! ## 2. Approvals -/

namespace Rollback

/-- `instant`, of this module: the text must be the one the instant is written as. -/
def instant (P : Platform) (value : Value) (field : String) : Run Int := do
  match ← P.parseDate value with
  | some parsed =>
    if (Value.str (P.toISOString parsed)).strictEq value then .ok parsed
    else fail (field ++ " must be a canonical ISO-8601 instant.")
  | none => fail (field ++ " must be a canonical ISO-8601 instant.")

/-- `v.trim().length > 0`. -/
def hasText : Value → Run Bool
  | .str s => .ok (nonBlank s)
  | _ => .error .typeError

/-- `approvalValid`. -/
def approvalValid (P : Platform) (approval proposal : Value) : Bool :=
  orFalse <|
    eqText (approval.path ["schemaVersion"]) (js "archon.rollback-approval/v1") <&&>
    eqValue (approval.path ["proposalDigest"]) (proposal.path ["digest"]) <&&>
    (do return (← approval.path ["approver", "authenticated"]).strictEq (.bool true)) <&&>
    (do hasText (← approval.path ["approver", "subject"])) <&&>
    (do hasText (← approval.path ["approver", "issuer"])) <&&>
    (do (← approval.path ["approver", "roles"]).includes (lit "DataSteward")) <&&>
    (do
      let _ ← instant P (← approval.path ["decidedAt"]) "decidedAt"
      return true) <&&>
    (do verifyDigest P (← withoutDigest approval) (← approval.path ["digest"]))

/-! ## 3. The rollback -/

/-- The calls a rollback makes. -/
inductive Effect where
  | clock
  | readTagProjection (target : Value)
  | removeTags (request : Value)

/-- What each is answered. -/
abbrev Effect.Reply : Effect → Type
  | clock => Text
  | readTagProjection _ => Run Value
  | removeTags _ => Run Value

/-- The asynchronous function of a rollback. -/
abbrev RollingBack := Program Effect Effect.Reply (Exn Failure)

/-- The calls made so far, with their replies. -/
abbrev History := List (Event Effect Effect.Reply)

/-- A computation that awaits nothing. -/
def pureRun {α : Type} (r : Run α) : RollingBack α := Program.lift r

/-- The argument of `executeApprovedRollback`, without its collaborators. -/
structure Input where
  originalReceipt : Value
  proposal : Value
  approval : Value

/-- The names of `RollbackReceiptV1["outcome"]` that a rollback ends in. -/
inductive Outcome where
  | REJECTED
  | INDETERMINATE
  | STALE
  | VERIFIED
  | VERIFICATION_FAILED

/-- The outcome as it stands in a receipt. -/
def Outcome.name : Outcome → Value
  | REJECTED => lit "REJECTED"
  | INDETERMINATE => lit "INDETERMINATE"
  | STALE => lit "STALE"
  | VERIFIED => lit "VERIFIED"
  | VERIFICATION_FAILED => lit "VERIFICATION_FAILED"

/-- `receipt`, of this module. -/
def receipt (P : Platform) (fields : List (String × Value)) : Run Value := do
  let unsigned := ("schemaVersion", lit "archon.rollback-receipt/v1") :: fields
  return object (unsigned ++ [("digest", .str (← digest P (object unsigned)))])

/-- `finish`. -/
def finish (P : Platform) (base : List (String × Value)) (outcome : Outcome)
    (evidence : List (String × Value)) : RollingBack Value := do
  let completedAt ← Program.perform Effect.clock
  pureRun (receipt P (base ++ [("outcome", outcome.name)] ++ evidence ++
    [("completedAt", .str completedAt)]))

/-- The checks before the clock is read. -/
def checkArtifacts (P : Platform) (input : Input) : Run Unit := do
  failIf (!receiptValid P input.originalReceipt)
    "Rollback requires a valid original execution receipt."
  failIf (!approvalValid P input.approval input.proposal)
    "Rollback approval is not bound to the exact proposal."
  let bound ← eqValue (input.proposal.path ["originalReceiptDigest"])
    (input.originalReceipt.path ["digest"])
  failIf (!bound) "Rollback proposal is not bound to the original receipt."

/-- The checks on the time of the start. -/
def checkStart (P : Platform) (input : Input) (startedAt : Text) : Run Unit := do
  let started ← instant P (.str startedAt) "startedAt"
  let decided ← P.parseDate (← input.approval.path ["decidedAt"])
  failIf (laterThan decided (some started)) "Rollback cannot begin before the approval decision."

/-- `base`. -/
def baseOf (input : Input) (startedAt : Text) : List (String × Value) :=
  [("rollbackId", input.proposal.getPath ["rollbackId"]),
    ("proposalDigest", input.proposal.getPath ["digest"]),
    ("approvalDigest", input.approval.getPath ["digest"]),
    ("originalReceiptDigest", input.originalReceipt.getPath ["digest"]),
    ("startedAt", .str startedAt)]

/-- The field that arguments name: the first entity and the first column. -/
def targetOf (v : Value) (path : List String) : Run Value := do
  let entity ← (← v.path (path ++ ["entity_urns"])).index 0
  let column ← (← v.path (path ++ ["column_paths"])).index 0
  return object [("entityUrn", entity), ("columnPath", column)]

/-- The argument of `removeTags`, from the arguments at the end of a path. -/
def removal (v : Value) (path : List String) : Run Value := do
  let tags ← v.path (path ++ ["tag_urns"])
  let entities ← v.path (path ++ ["entity_urns"])
  let columns ← v.path (path ++ ["column_paths"])
  return object [("tagUrns", tags), ("entityUrns", entities), ("columnPaths", columns)]

/-- Was the state restored?  The last check. -/
def isRestored (P : Platform) (input : Input) (after : Value) : Run Bool :=
  verifyTagProjection P after <&&>
  eqValue (after.path ["digest"]) (input.proposal.path ["restoreStateDigest"]) <&&>
  eqValue (.ok (input.originalReceipt.getPath ["before", "digest"])) (after.path ["digest"])

/-- After the tags were removed. -/
def observe (P : Platform) (input : Input) (base : List (String × Value)) (before mutation : Value) :
    RollingBack Value := do
  match targetOf input.proposal ["inverseAction", "arguments"] with
  | .error _ => finish P base .INDETERMINATE [("before", before), ("mutation", mutation)]
  | .ok target =>
    match ← Program.perform (Effect.readTagProjection target) with
    | .error _ => finish P base .INDETERMINATE [("before", before), ("mutation", mutation)]
    | .ok after =>
      let restored ← pureRun (isRestored P input after)
      finish P base (if restored then .VERIFIED else .VERIFICATION_FAILED)
        [("before", before), ("after", after), ("mutation", mutation)]

/-- The removal.  Reading its arguments stands inside the `try`. -/
def remove (P : Platform) (input : Input) (base : List (String × Value)) (before : Value) :
    RollingBack Value := do
  match removal input.proposal ["inverseAction", "arguments"] with
  | .error _ => finish P base .INDETERMINATE [("before", before)]
  | .ok request =>
    match ← Program.perform (Effect.removeTags request) with
    | .error _ => finish P base .INDETERMINATE [("before", before)]
    | .ok mutation => observe P input base before mutation

/-- `recreated && recreated.digest === input.proposal.digest`. -/
def isRecreated (P : Platform) (input : Input) (before : Value) : Run Bool := do
  match ← createRollbackProposal P input.originalReceipt before with
  | none => return false
  | some recreated =>
    return (recreated.getPath ["digest"]).strictEq (input.proposal.getPath ["digest"])

/-- Once the approval stands. -/
def rollBack (P : Platform) (input : Input) (base : List (String × Value)) : RollingBack Value := do
  match targetOf input.originalReceipt ["action", "arguments"] with
  | .error _ => finish P base .INDETERMINATE []
  | .ok target =>
    match ← Program.perform (Effect.readTagProjection target) with
    | .error _ => finish P base .INDETERMINATE []
    | .ok before =>
      if ← pureRun (isRecreated P input before) then remove P input base before
      else finish P base .STALE [("before", before)]

/-- `executeApprovedRollback`. -/
def executeApprovedRollback (P : Platform) (input : Input) : RollingBack Value := do
  pureRun (checkArtifacts P input)
  let startedAt ← Program.perform Effect.clock
  pureRun (checkStart P input startedAt)
  if (input.approval.getPath ["decision"]).isText (js "REJECT") then
    finish P (baseOf input startedAt) .REJECTED []
  else rollBack P input (baseOf input startedAt)

/-! ## 4. What has been checked before a removal -/

variable {P : Platform} {input : Input}

/-- The clock was read. -/
def clocked (now : Text) : Event Effect Effect.Reply := ⟨.clock, now⟩

/-- The reader answered. -/
def wasRead (target : Value) (answer : Run Value) : Event Effect Effect.Reply :=
  ⟨.readTagProjection target, answer⟩

/-- The mutation port answered. -/
def removed (request : Value) (answer : Run Value) : Event Effect Effect.Reply :=
  ⟨.removeTags request, answer⟩

/-- The approval stands: what is checked before the catalog is read. -/
structure Approved (P : Platform) (input : Input) : Prop where
  artifacts : checkArtifacts P input = .ok ()
  decision : (input.approval.getPath ["decision"]).isText (js "REJECT") = false

/-- The calls the text allows after a history: a removal comes straight after the one read that
showed the state the proposal is about. -/
def Allowed (P : Platform) (input : Input) (h : History) : Effect → Prop
  | .removeTags request => Approved P input ∧
      removal input.proposal ["inverseAction", "arguments"] = .ok request ∧
      ∃ startedAt target before, h = [clocked startedAt, wasRead target (.ok before)] ∧
        targetOf input.originalReceipt ["action", "arguments"] = .ok target ∧
        isRecreated P input before = .ok true
  | _ => True

theorem reaches_clock {α : Type} {f : Text → RollingBack α} {h : History} {q : RollingBack α} (now : Text)
    (hf : Reaches (f now) h q) :
    Reaches ((Program.perform Effect.clock : RollingBack Text) >>= f) (clocked now :: h) q :=
  .step hf

theorem reaches_read {α : Type} {target : Value} {f : Run Value → RollingBack α} {h : History}
    {q : RollingBack α} (answer : Run Value) (hf : Reaches (f answer) h q) :
    Reaches ((Program.perform (Effect.readTagProjection target) : RollingBack (Run Value)) >>= f)
      (wasRead target answer :: h) q :=
  .step hf

theorem reaches_removed {α : Type} {request : Value} {f : Run Value → RollingBack α} {h : History}
    {q : RollingBack α} (answer : Run Value) (hf : Reaches (f answer) h q) :
    Reaches ((Program.perform (Effect.removeTags request) : RollingBack (Run Value)) >>= f)
      (removed request answer :: h) q :=
  .step hf

theorem finish_obeys {base evidence : List (String × Value)} {outcome : Outcome} {h : History} :
    Obeys (Allowed P input) (fun _ _ => True) h (finish P base outcome evidence) := by
  exact obeys_perform trivial fun completedAt => trivial

theorem observe_obeys {base : List (String × Value)} {before mutation : Value} {h : History} :
    Obeys (Allowed P input) (fun _ _ => True) h (observe P input base before mutation) := by
  unfold observe
  cases targetOf input.proposal ["inverseAction", "arguments"] with
  | error e => exact finish_obeys
  | ok target =>
    refine obeys_perform trivial fun answer => ?_
    cases answer with
    | error e => exact finish_obeys
    | ok after => exact obeys_lift (fun restored _ => finish_obeys) fun _ => trivial

theorem remove_obeys {base : List (String × Value)} {startedAt : Text} {target before : Value}
    (approved : Approved P input)
    (htarget : targetOf input.originalReceipt ["action", "arguments"] = .ok target)
    (hrecreated : isRecreated P input before = .ok true) :
    Obeys (Allowed P input) (fun _ _ => True) [clocked startedAt, wasRead target (.ok before)]
      (remove P input base before) := by
  unfold remove
  cases hr : removal input.proposal ["inverseAction", "arguments"] with
  | error e => exact finish_obeys
  | ok request =>
    refine obeys_perform ⟨approved, hr, startedAt, target, before, rfl, htarget, hrecreated⟩
      fun answer => ?_
    cases answer with
    | error e => exact finish_obeys
    | ok mutation => exact observe_obeys

/-- **A rollback makes no call that the text does not allow.** -/
theorem executeApprovedRollback_obeys (P : Platform) (input : Input) :
    Obeys (Allowed P input) (fun _ _ => True) [] (executeApprovedRollback P input) := by
  refine obeys_lift (fun _ hartifacts => ?_) fun _ => trivial
  refine obeys_perform trivial fun startedAt => ?_
  refine obeys_lift (fun _ hstart => ?_) fun _ => trivial
  cases hd : (input.approval.getPath ["decision"]).isText (js "REJECT") with
  | true => exact finish_obeys
  | false =>
    rw [if_neg (by simp)]
    unfold rollBack
    cases ht : targetOf input.originalReceipt ["action", "arguments"] with
    | error e => exact finish_obeys
    | ok target =>
      refine obeys_perform trivial fun answer => ?_
      cases answer with
      | error e => exact finish_obeys
      | ok before =>
        refine obeys_lift (fun recreated hrecreated => ?_) fun _ => trivial
        cases recreated with
        | true => exact remove_obeys ⟨hartifacts, hd⟩ ht hrecreated
        | false => exact finish_obeys

/-! ## 5. What is removed -/

/-- Every removal names the arrays of the receipt's inverse action. -/
def RemovesInverse (P : Platform) (input : Input) : Prop :=
  ∀ h request k, Reaches (executeApprovedRollback P input) h (.call (.removeTags request) k) →
    removal input.originalReceipt ["action", "inverse", "arguments"] = .ok request

/-- The approval authorises a removal: it stands, and the proposal derived from the receipt and the
state it left carries the digest of the proposal that was handed over. -/
structure Authorises (P : Platform) (input : Input) : Prop where
  approved : Approved P input
  target : ∃ target, targetOf input.originalReceipt ["action", "arguments"] = .ok target
  recreated : isRecreated P input (input.originalReceipt.getPath ["after"]) = .ok true

theorem isRecreated_after {before : Value} (h : isRecreated P input before = .ok true) :
    isRecreated P input (input.originalReceipt.getPath ["after"]) = .ok true := by
  unfold isRecreated at h ⊢
  obtain ⟨proposal, hproposal, h⟩ := bind_eq_ok.mp h
  cases proposal with
  | none => cases h
  | some proposal =>
    obtain ⟨hvalid, helig⟩ := eligible_of_proposal hproposal
    rw [← createRollbackProposal_congr helig (eligible_after hvalid helig), hproposal]
    exact h

theorem instant_eq_ok {value : Value} {field : String} {d : Int} (h : instant P value field = .ok d) :
    ∃ t, value = .str t ∧ P.dateParse t = some d ∧ P.toISOString d = t := by
  obtain ⟨parsed, hparsed, h⟩ := bind_eq_ok.mp h
  cases parsed with
  | none => cases h
  | some parsed =>
    dsimp only at h
    split at h
    · rename_i hiso
      obtain rfl := Except.ok.inj h
      obtain rfl := str_strictEq.mp hiso
      exact ⟨_, rfl, Except.ok.inj ((P.parseDate_str _).symm.trans hparsed), rfl⟩
    · cases h

/-- A standing approval lets the rollback begin at the instant of the decision. -/
theorem checkStart_decided (h : Approved P input) :
    ∃ startedAt, checkStart P input startedAt = .ok () := by
  have hartifacts := h.artifacts
  simp only [checkArtifacts, bind_eq_ok] at hartifacts
  obtain ⟨_, -, _, hvalid, -⟩ := hartifacts
  have hvalid' : approvalValid P input.approval input.proposal = true := by simpa using hvalid
  have hchecks := orFalse_eq_true.mp hvalid'
  simp only [andM_eq_true] at hchecks
  obtain ⟨-, -, -, -, -, -, hdecided, -⟩ := hchecks
  obtain ⟨value, hvalue, hdecided⟩ := bind_eq_ok.mp hdecided
  obtain ⟨d, hd, -⟩ := bind_eq_ok.mp hdecided
  obtain ⟨t, rfl, hparse, hiso⟩ := instant_eq_ok hd
  refine ⟨t, ?_⟩
  have hstarted : instant P (.str t) "startedAt" = .ok d := by
    simp [instant, hparse, hiso]
  rw [checkStart, hstarted, ok_bind, hvalue]
  simp [hparse, laterThan]

/-- Under an approval that authorises a removal there is a run that comes to it: the clock shows the
instant of the decision, and the reader returns the state the receipt left. -/
theorem reaches_toRemoval (h : Authorises P input) :
    ∃ startedAt target, targetOf input.originalReceipt ["action", "arguments"] = .ok target ∧
      ∀ {h' : History} {q : RollingBack Value}, Reaches (remove P input (baseOf input startedAt)
          (input.originalReceipt.getPath ["after"])) h' q →
        Reaches (executeApprovedRollback P input) (clocked startedAt ::
          wasRead target (.ok (input.originalReceipt.getPath ["after"])) :: h') q := by
  obtain ⟨startedAt, hstart⟩ := checkStart_decided h.approved
  obtain ⟨target, htarget⟩ := h.target
  refine ⟨startedAt, target, htarget, fun {h' q} hremove => ?_⟩
  have hroll : Reaches (rollBack P input (baseOf input startedAt))
      (wasRead target (.ok (input.originalReceipt.getPath ["after"])) :: h') q := by
    unfold rollBack
    rw [htarget]
    exact reaches_read _ (reaches_lift h.recreated hremove)
  refine reaches_lift h.approved.artifacts (reaches_clock startedAt (reaches_lift hstart ?_))
  rw [h.approved.decision, if_neg (by simp)]
  exact hroll

/-- A removal that answers is followed by the look at what it left. -/
theorem reaches_remove {base : List (String × Value)} {before request mutation : Value} {h : History}
    {q : RollingBack Value} (hr : removal input.proposal ["inverseAction", "arguments"] = .ok request)
    (hobserve : Reaches (observe P input base before mutation) h q) :
    Reaches (remove P input base before) (removed request (.ok mutation) :: h) q := by
  unfold remove
  rw [hr]
  exact reaches_removed (.ok mutation) hobserve

/-- A look that shows the state restored ends the rollback. -/
theorem reaches_observe {base : List (String × Value)} {before after target : Value} (mutation : Value)
    (ht : targetOf input.proposal ["inverseAction", "arguments"] = .ok target)
    (hrestored : isRestored P input after = .ok true) (now : Text) : ∃ r,
    Reaches (observe P input base before mutation) [wasRead target (.ok after), clocked now] (.done r) := by
  unfold observe
  rw [ht]
  exact ⟨_, reaches_read _ (reaches_lift hrestored (reaches_clock now (.refl _)))⟩

/-- An authorised removal is made. -/
theorem reaches_removal (h : Authorises P input) {request : Value}
    (hr : removal input.proposal ["inverseAction", "arguments"] = .ok request) :
    ∃ h k, Reaches (executeApprovedRollback P input) h (.call (.removeTags request) k) := by
  obtain ⟨startedAt, target, -, hreach⟩ := reaches_toRemoval h
  have hremove : ∃ k, Reaches (remove P input (baseOf input startedAt)
      (input.originalReceipt.getPath ["after"])) [] (.call (.removeTags request) k) := by
    unfold remove
    rw [hr]
    exact ⟨_, .refl _⟩
  obtain ⟨k, hremove⟩ := hremove
  exact ⟨_, k, hreach hremove⟩

/-- **When a rollback removes what its receipt says.**  Exactly when the approval authorises
nothing, or the proposal that was handed over names the arrays of the receipt's inverse action. -/
theorem removesInverse_iff : RemovesInverse P input ↔
    (Authorises P input → ∀ request, removal input.proposal ["inverseAction", "arguments"] = .ok request →
      removal input.originalReceipt ["action", "inverse", "arguments"] = .ok request) := by
  constructor
  · intro hinverse hauth request hr
    obtain ⟨h, k, hreach⟩ := reaches_removal hauth hr
    exact hinverse h request k hreach
  · intro hcond h request k hreach
    obtain ⟨approved, hr, _, target, before, -, htarget, hrecreated⟩ :=
      (executeApprovedRollback_obeys P input).call_of_reaches hreach
    exact hcond ⟨approved, ⟨target, htarget⟩, isRecreated_after hrecreated⟩ request hr

/-! ## 6. A proposal that was altered -/

/-- The members of an approval of a proposal's digest without its own digest. -/
def approvalFields (proposalDigest decidedAt : Text) : List (String × Value) :=
  [("schemaVersion", lit "archon.rollback-approval/v1"), ("proposalDigest", .str proposalDigest),
    ("decision", lit "APPROVE"), ("approver", Issue.approver), ("decidedAt", .str decidedAt)]

/-- The approval, as `createRollbackApproval` signs it. -/
def approvalOf (P : Platform) (proposalDigest decidedAt : Text) : Value :=
  signed P (approvalFields proposalDigest decidedAt)

theorem approvalValid_approvalOf {proposal : Value} {proposalDigest decidedAt : Text} {d : Int}
    (hp : (proposal.path ["digest"] : Run Value) = .ok (.str proposalDigest))
    (hd : instant P (.str decidedAt) "decidedAt" = .ok d) :
    approvalValid P (approvalOf P proposalDigest decidedAt) proposal = true := by
  have hcan : Canonicalizable (object (approvalFields proposalDigest decidedAt)) := by
    simp [approvalFields, Issue.approver]
  have hpayload : withoutDigest (approvalOf P proposalDigest decidedAt)
      = .ok (object (approvalFields proposalDigest decidedAt)) :=
    without_eq_ok.mpr ⟨rfl, rest_signed (by simp [approvalFields])⟩
  have hdigest : verifyDigest P (object (approvalFields proposalDigest decidedAt))
      (.str (digestOf P (object (approvalFields proposalDigest decidedAt)))) = .ok true :=
    verifyDigest_eq_true.mpr ⟨hcan, rfl⟩
  have hread : ((approvalOf P proposalDigest decidedAt).path ["digest"] : Run Value)
      = .ok (.str (digestOf P (object (approvalFields proposalDigest decidedAt)))) := by
    simp [path, approvalOf, signed, approvalFields, List.lookup]
  have hsubject : hasText (lit "steward") = .ok true := by decide +kernel
  have hissuer : hasText (lit "https://issuer.example") = .ok true := by decide +kernel
  have hp' : (proposal.prop "digest" : Run Value) = .ok (.str proposalDigest) := by
    obtain ⟨w, hw, h⟩ := bind_eq_ok.mp hp
    obtain rfl := Except.ok.inj h
    exact hw
  refine orFalse_eq_true.mpr ?_
  simp only [hpayload, ok_bind, hread, hdigest]
  simp [path, approvalOf, signed, approvalFields, List.lookup, eqText, eqValue, hp', hd, Issue.approver,
    includes, hsubject, hissuer]

/-- The digest of the sample's genuine proposal. -/
def sampleDigest : Text :=
  digestOf .node (object (proposalFields sampleReceipt (Issue.sampleAfter.value.getPath ["digest"])))

/-- A proposal with the members and the digest of the genuine one, but for the tag it removes. -/
def forgedProposal : Value :=
  object [("schemaVersion", lit "archon.rollback-proposal/v1"),
    ("originalReceiptDigest", sampleReceipt.getPath ["digest"]),
    ("expectedCurrentDigest", Issue.sampleAfter.value.getPath ["digest"]),
    ("restoreStateDigest", sampleReceipt.getPath ["before", "digest"]),
    ("inverseAction", object [("tool", lit "remove_tags"), ("arguments", object
      [("tag_urns", .arr [lit "urn:li:tag:Restricted"]),
        ("entity_urns", .arr [lit "urn:li:dataset:crm.contacts"]), ("column_paths", .arr [lit "email"])])]),
    ("requiresFreshApproval", .bool true), ("rollbackId", .str (shortId "rollback-" sampleDigest)),
    ("digest", .str sampleDigest)]

/-- A member of an object literal. -/
theorem path_object {fields : List (String × Value)} {key : String} {v : Value}
    (h : fields.lookup key = some v) : ((object fields).path [key] : Run Value) = .ok v := by
  simp [path, h]

/-- A removal names the tags that stand at its place. -/
theorem tags_of_removal {v request tags : Value} {ks : List String} (h : removal v ks = .ok request)
    (ht : (v.path (ks ++ ["tag_urns"]) : Run Value) = .ok tags) : ∃ entities columns,
    request = object [("tagUrns", tags), ("entityUrns", entities), ("columnPaths", columns)] := by
  rw [removal, ht, ok_bind] at h
  obtain ⟨entities, -, h⟩ := bind_eq_ok.mp h
  obtain ⟨columns, -, h⟩ := bind_eq_ok.mp h
  exact ⟨entities, columns, (Except.ok.inj h).symm⟩

/-- The rollback of the sample's receipt under the approval of its genuine proposal, with this one. -/
def rollbackWith (proposal : Value) : Input :=
  ⟨sampleReceipt, proposal, approvalOf .node sampleDigest (js "2026-07-14T12:00:00.000Z")⟩

theorem rollbackWith_originalReceipt (proposal : Value) :
    (rollbackWith proposal).originalReceipt = sampleReceipt := rfl

theorem rollbackWith_proposal (proposal : Value) : (rollbackWith proposal).proposal = proposal := rfl

theorem sample_eligible : eligible .node sampleReceipt Issue.sampleAfter.value = .ok true := by
  have f := sampleReceipt_facts
  have hdigest : sampleReceipt.getPath ["after", "digest"] = .str Issue.sampleAfter.digest := by
    rw [getPath_head, f.after]
    exact Issue.sampleAfter.getPath_digest
  simp only [eligible, andM_eq_true]
  refine ⟨?_, ?_, ?_, ?_, Issue.sampleAfter.verified, ?_⟩
  · rw [path_one f.object, f.outcome]; rfl
  · rw [path_of_getPath (by rw [f.availability]; simp [lit]), f.availability]; rfl
  · rw [path_one f.object, f.before, ok_bind, Issue.sampleBefore.truthy_value]; rfl
  · rw [path_one f.object, f.after, ok_bind, Issue.sampleAfter.truthy_value]; rfl
  · exact eqValue_of_str Issue.sampleAfter.path_digest
      (by rw [path_of_getPath (by rw [hdigest]; simp), hdigest])

/-- The arrays of the sample's action. -/
theorem sample_arguments :
    (sampleReceipt.path ["action", "arguments", "tag_urns"] : Run Value)
        = .ok (.arr [lit "urn:li:tag:Pii"]) ∧
      (sampleReceipt.path ["action", "arguments", "entity_urns"] : Run Value)
        = .ok (.arr [lit "urn:li:dataset:crm.contacts"]) ∧
      (sampleReceipt.path ["action", "arguments", "column_paths"] : Run Value)
        = .ok (.arr [lit "email"]) ∧
      (sampleReceipt.path ["action", "inverse", "arguments", "tag_urns"] : Run Value)
        = .ok (.arr [lit "urn:li:tag:Pii"]) := by
  have f := sampleReceipt_facts
  have hne : signed .node (Issue.sample [] (js "APPROVE")).actionFields ≠ .undefined := by
    simp [signed]
  refine ⟨?_, ?_, ?_, ?_⟩ <;> rw [path_under f.action hne] <;>
    simp [path, signed, Issue.actionFields, Issue.arguments, List.lookup, Issue.sample, lit] <;> rfl

theorem sample_tagAdded : tagAdded sampleReceipt = .ok true := by
  have f := sampleReceipt_facts
  have hbefore : (sampleReceipt.path ["before", "tags"] : Run Value) = .ok (.arr []) := by
    rw [path_under f.before Issue.sampleBefore.value_ne_undefined]
    rw [Issue.sampleBefore.path_tags, Issue.sampleBefore_tags]
    rfl
  have hafter : (sampleReceipt.path ["after", "tags"] : Run Value)
      = .ok (.arr [lit "urn:li:tag:Pii"]) := by
    rw [path_under f.after Issue.sampleAfter.value_ne_undefined]
    rw [Issue.sampleAfter.path_tags, Issue.sampleAfter_tags]
    rfl
  simp only [tagAdded, sample_arguments.1, hbefore, hafter, ok_bind, index_arr]
  rfl

/-- The sample's approval authorises a removal with any proposal that carries the genuine digest and
names the receipt. -/
theorem rollbackWith_authorises {proposal : Value}
    (hd : (proposal.path ["digest"] : Run Value) = .ok (.str sampleDigest))
    (ho : (proposal.path ["originalReceiptDigest"] : Run Value)
      = .ok (sampleReceipt.getPath ["digest"])) :
    Authorises .node (rollbackWith proposal) := by
  have f := sampleReceipt_facts
  have hrecreated := createRollbackProposal_eq f.valid sample_eligible sample_tagAdded
  have hpdigest : (proposalOf .node sampleReceipt (Issue.sampleAfter.value.getPath ["digest"])).getPath
      ["digest"] = .str sampleDigest := by
    rw [proposalOf, getPath_cons, getPath_nil, get_object]
    rfl
  have hreceipt : (sampleReceipt.path ["digest"] : Run Value) = .ok (sampleReceipt.getPath ["digest"]) :=
    path_one f.object "digest"
  have hsigned := (receiptValid_iff.mp f.valid).digest
  have happroved : approvalValid .node (rollbackWith proposal).approval proposal = true :=
    approvalValid_approvalOf hd (d := 1784030400000) (by decide +kernel)
  refine ⟨⟨?_, ?_⟩, ?_, ?_⟩
  · have hbound : eqValue (proposal.path ["originalReceiptDigest"]) (sampleReceipt.path ["digest"])
        = (.ok true : Run Bool) := by
      rw [ho, hreceipt, hsigned]
      simp [eqValue]
    rw [checkArtifacts, rollbackWith_originalReceipt, rollbackWith_proposal, f.valid, happroved, hbound]
    rfl
  · simp [rollbackWith, approvalOf, signed, approvalFields, getPath_cons, getPath_nil, List.lookup]
  · obtain ⟨-, hentities, hcolumns, -⟩ := sample_arguments
    rw [rollbackWith_originalReceipt, targetOf]
    simp [hentities, hcolumns]
  · rw [rollbackWith_originalReceipt, f.after, isRecreated, rollbackWith_originalReceipt,
      rollbackWith_proposal, hrecreated, ok_bind]
    dsimp only
    rw [hpdigest, getPath_of_path hd]
    simp

/-- **An altered proposal removes another tag.** -/
theorem not_removesInverse_forged : ¬ RemovesInverse .node (rollbackWith forgedProposal) := by
  intro hinverse
  have hauth : Authorises .node (rollbackWith forgedProposal) :=
    rollbackWith_authorises (by rw [forgedProposal]; exact path_object rfl)
      (by rw [forgedProposal]; exact path_object rfl)
  have hrequest : removal forgedProposal ["inverseAction", "arguments"] = .ok (object
      [("tagUrns", .arr [lit "urn:li:tag:Restricted"]),
        ("entityUrns", .arr [lit "urn:li:dataset:crm.contacts"]), ("columnPaths", .arr [lit "email"])]) := by
    simp [removal, path, forgedProposal, List.lookup]
  rw [← rollbackWith_proposal forgedProposal] at hrequest
  obtain ⟨h, k, hreach⟩ := reaches_removal hauth hrequest
  have hsame := hinverse h _ k hreach
  rw [rollbackWith_originalReceipt] at hsame
  obtain ⟨entities, columns, hsame⟩ := tags_of_removal hsame sample_arguments.2.2.2
  simp [object, lit] at hsame

/-! ## 7. Calls one after another -/

/-- What the catalog shows of each field. -/
abbrev Catalog := Value → Value

/-- The catalog along a history: a read shows it or fails, and a removal leaves what it leaves. -/
inductive Follows : Catalog → History → Catalog → Prop
  | done (c : Catalog) : Follows c [] c
  | clocked {c c' : Catalog} {now : Text} {h : History} (rest : Follows c h c') :
    Follows c (clocked now :: h) c'
  | read {c c' : Catalog} {target : Value} {answer : Run Value} {h : History}
    (shown : ∀ v, answer = .ok v → v = c target) (rest : Follows c h c') :
    Follows c (wasRead target answer :: h) c'
  | removed {c left c' : Catalog} {request : Value} {answer : Run Value} {h : History}
    (rest : Follows left h c') : Follows c (removed request answer :: h) c'

/-- Is the event a removal? -/
def isRemoval : Event Effect Effect.Reply → Bool
  | ⟨.removeTags _, _⟩ => true
  | _ => false

/-- The catalog, and how often tags were removed under the approval. -/
structure State where
  catalog : Catalog
  removals : Nat

/-- What happens between two moments: others change the catalog, or a call is made, which may also
end early. -/
inductive Entry where
  | changed (catalog : Catalog)
  | called (h : History)

/-- One step of a sequence of calls with one receipt, one proposal and one approval. -/
inductive Step (P : Platform) (input : Input) : State → Entry → State → Prop
  | changed (s : State) (catalog : Catalog) : Step P input s (.changed catalog) ⟨catalog, s.removals⟩
  | called {s : State} {h : History} {q : RollingBack Value} {catalog : Catalog}
    (reached : Reaches (executeApprovedRollback P input) h q) (follows : Follows s.catalog h catalog) :
    Step P input s (.called h) ⟨catalog, s.removals + h.countP isRemoval⟩

/-- A sequence of steps, each of which satisfies `Ok` of the state before it. -/
inductive Sequence (P : Platform) (input : Input) (Ok : State → Entry → Prop) :
    State → List Entry → State → Prop
  | done (s : State) : Sequence P input Ok s [] s
  | step {s s' s'' : State} {e : Entry} {es : List Entry} (hok : Ok s e) (hstep : Step P input s e s')
    (rest : Sequence P input Ok s' es s'') : Sequence P input Ok s (e :: es) s''

/-- The catalog shows the state the receipt left. -/
def ShowsLeft (input : Input) (c : Catalog) : Prop :=
  ∃ target, targetOf input.originalReceipt ["action", "arguments"] = .ok target ∧
    (c target).getPath ["digest"] = input.originalReceipt.getPath ["after", "digest"]

/-- Once tags were removed, no call finds the catalog as the receipt left it. -/
def NotRecreated (input : Input) (s : State) : Entry → Prop
  | .changed _ => True
  | .called _ => 0 < s.removals → ¬ ShowsLeft input s.catalog

/-- A removal is the third call of a rollback. -/
theorem length_of_removal {h₁ h₂ : History} {request : Value} {answer : Run Value}
    {q : RollingBack Value}
    (hr : Reaches (executeApprovedRollback P input) (h₁ ++ removed request answer :: h₂) q) :
    h₁.length = 2 := by
  obtain ⟨k, hk⟩ := hr.at_call
  obtain ⟨-, -, _, _, _, rfl, -⟩ := (executeApprovedRollback_obeys P input).call_of_reaches hk
  rfl

theorem isRemoval_eq {event : Event Effect Effect.Reply} (h : isRemoval event = true) :
    ∃ request answer, event = removed request answer := by
  obtain ⟨e, r⟩ := event
  cases e with
  | removeTags request => exact ⟨request, r, rfl⟩
  | clock => cases h
  | readTagProjection target => cases h

/-- One call removes at most once, and only where the catalog shows what the receipt left. -/
theorem removal_of_call {h : History} {q : RollingBack Value} {c c' : Catalog}
    (hr : Reaches (executeApprovedRollback P input) h q) (hf : Follows c h c') :
    h.countP isRemoval = 0 ∨ (h.countP isRemoval = 1 ∧ ShowsLeft input c) := by
  rcases Nat.eq_zero_or_pos (h.countP isRemoval) with h0 | hpos
  · exact Or.inl h0
  · obtain ⟨event, hmem, hevent⟩ := List.countP_pos_iff.mp hpos
    obtain ⟨h₁, h₂, rfl⟩ := List.append_of_mem hmem
    obtain ⟨request, answer, rfl⟩ := isRemoval_eq hevent
    have hlength := length_of_removal hr
    -- a second removal would be a third call as well
    have hnone₁ : h₁.countP isRemoval = 0 := by
      rw [List.countP_eq_zero]
      intro event' hmem' hevent'
      obtain ⟨a, b, rfl⟩ := List.append_of_mem hmem'
      obtain ⟨request', answer', rfl⟩ := isRemoval_eq hevent'
      rw [List.append_assoc, List.cons_append] at hr
      have hlength' := length_of_removal hr
      simp [hlength'] at hlength
    have hnone₂ : h₂.countP isRemoval = 0 := by
      rw [List.countP_eq_zero]
      intro event' hmem' hevent'
      obtain ⟨a, b, rfl⟩ := List.append_of_mem hmem'
      obtain ⟨request', answer', rfl⟩ := isRemoval_eq hevent'
      rw [← List.cons_append, ← List.append_assoc] at hr
      have hlength' := length_of_removal hr
      simp [hlength] at hlength'
    refine Or.inr ⟨by simp [hnone₁, hnone₂, hevent], ?_⟩
    obtain ⟨k, hk⟩ := hr.at_call
    obtain ⟨-, -, startedAt, target, before, rfl, htarget, hrecreated⟩ :=
      (executeApprovedRollback_obeys P input).call_of_reaches hk
    have hshown : before = c target := by
      cases hf with
      | clocked hf =>
        cases hf with
        | read shown _ => exact shown before rfl
    subst hshown
    obtain ⟨proposal, hproposal, hsame⟩ := bind_eq_ok.mp hrecreated
    cases proposal with
    | none => cases hsame
    | some proposal =>
      obtain ⟨-, helig⟩ := eligible_of_proposal hproposal
      exact ⟨target, htarget, (eligible_digest helig).2.symm⟩

/-- One step of a sequence without re-creation keeps to one removal. -/
theorem step_removals {s s' : State} {e : Entry} (hstep : Step P input s e s')
    (hok : NotRecreated input s e) (h : s.removals ≤ 1) : s'.removals ≤ 1 := by
  cases hstep with
  | changed catalog => exact h
  | called hr hf =>
    rcases removal_of_call hr hf with h0 | ⟨h1, hshows⟩
    · simpa [h0] using h
    · have hzero : ¬ 0 < s.removals := fun hpos => hok hpos hshows
      show s.removals + _ ≤ 1
      omega

theorem sequence_removals {s s' : State} {es : List Entry}
    (h : Sequence P input (NotRecreated input) s es s') (hs : s.removals ≤ 1) : s'.removals ≤ 1 := by
  induction h with
  | done s => exact hs
  | step hok hstep _ ih => exact ih (step_removals hstep hok hs)

/-- The sample's genuine proposal. -/
def genuineProposal : Value :=
  proposalOf .node sampleReceipt (Issue.sampleAfter.value.getPath ["digest"])

theorem genuine_authorises : Authorises .node (rollbackWith genuineProposal) :=
  rollbackWith_authorises (by rw [genuineProposal, proposalOf]; exact path_object rfl)
    (by rw [genuineProposal, proposalOf]; exact path_object rfl)

/-- One call with the genuine proposal, made where the catalog shows what the receipt left: the tag
is removed, and the state before is read back. -/
theorem sample_call : ∃ (h : History) (r : Except (Exn Failure) Value),
    Reaches (executeApprovedRollback .node (rollbackWith genuineProposal)) h (.done r) ∧
    Follows (fun _ => Issue.sampleAfter.value) h (fun _ => Issue.sampleBefore.value) ∧
    h.countP isRemoval = 1 := by
  have f := sampleReceipt_facts
  obtain ⟨startedAt, target, -, hreach⟩ := reaches_toRemoval genuine_authorises
  rw [rollbackWith_originalReceipt, f.after] at hreach
  have hinverse : genuineProposal.getPath ["inverseAction"]
      = object [("tool", lit "remove_tags"), ("arguments", (Issue.sample [] (js "APPROVE")).arguments)] := by
    have h : genuineProposal.getPath ["inverseAction"] = sampleReceipt.getPath ["action", "inverse"] := by
      rw [genuineProposal, proposalOf]
      exact getPath_of_path (ε := Failure) (path_object rfl)
    rw [h, getPath_head, f.action]
    simp [getPath, signed, Issue.actionFields, List.lookup]
  have hpath : ∀ ks, (genuineProposal.path ("inverseAction" :: ks) : Run Value) = _ := fun ks =>
    path_under hinverse (by simp)
  have hremoval : ∃ request, removal genuineProposal ["inverseAction", "arguments"] = .ok request := by
    simp only [removal, List.cons_append, List.nil_append, hpath]
    simp [path, Issue.arguments, List.lookup]
  have htarget : ∃ target, targetOf genuineProposal ["inverseAction", "arguments"] = .ok target := by
    simp only [targetOf, List.cons_append, List.nil_append, hpath]
    simp [path, Issue.arguments, List.lookup]
  have hrestored : isRestored .node (rollbackWith genuineProposal) Issue.sampleBefore.value = .ok true := by
    have hrestore : (genuineProposal.path ["restoreStateDigest"] : Run Value)
        = .ok (.str Issue.sampleBefore.digest) := by
      have h : sampleReceipt.getPath ["before", "digest"] = .str Issue.sampleBefore.digest := by
        rw [getPath_head, f.before]
        exact Issue.sampleBefore.getPath_digest
      rw [genuineProposal, proposalOf, ← h]
      exact path_object rfl
    have hbefore : sampleReceipt.getPath ["before", "digest"] = .str Issue.sampleBefore.digest := by
      rw [getPath_head, f.before]
      exact Issue.sampleBefore.getPath_digest
    simp [isRestored, rollbackWith_proposal, rollbackWith_originalReceipt, hrestore, hbefore, eqValue]
  obtain ⟨request, hrequest⟩ := hremoval
  obtain ⟨target', htarget'⟩ := htarget
  rw [← rollbackWith_proposal genuineProposal] at hrequest htarget'
  obtain ⟨r, hobserve⟩ := reaches_observe (lit "acknowledged") htarget' hrestored startedAt
  have hremove := reaches_remove hrequest hobserve
  refine ⟨_, r, hreach hremove, ?_, rfl⟩
  have hrest : Follows (fun _ => Issue.sampleBefore.value)
      [wasRead target' (.ok Issue.sampleBefore.value), clocked startedAt]
      (fun _ => Issue.sampleBefore.value) :=
    .read (fun v hv => (Except.ok.inj hv).symm) (.clocked (.done _))
  exact .clocked (.read (fun v hv => (Except.ok.inj hv).symm) (.removed hrest))

/-- **When an approval removes at most once.**  In every sequence of calls in which no call finds
the catalog as the receipt left it once tags were removed. -/
theorem removals_le_one {c : Catalog} {s : State} {es : List Entry}
    (h : Sequence P input (NotRecreated input) ⟨c, 0⟩ es s) : s.removals ≤ 1 :=
  sequence_removals h (Nat.zero_le 1)

/-- The sample's approval, used once. -/
theorem removals_le_one_sample : ∃ (es : List Entry) (s : State),
    Sequence .node (rollbackWith genuineProposal) (NotRecreated (rollbackWith genuineProposal))
      ⟨fun _ => Issue.sampleAfter.value, 0⟩ es s ∧ s.removals = 1 ∧ s.removals ≤ 1 := by
  obtain ⟨h, r, hreach, hfollows, hcount⟩ := sample_call
  have hseq : Sequence .node (rollbackWith genuineProposal) (NotRecreated (rollbackWith genuineProposal))
      ⟨fun _ => Issue.sampleAfter.value, 0⟩ [.called h]
      ⟨fun _ => Issue.sampleBefore.value, 0 + h.countP isRemoval⟩ :=
    .step (fun hpos => absurd hpos (Nat.lt_irrefl 0)) (.called hreach hfollows) (.done _)
  exact ⟨_, _, hseq, by simp [hcount], removals_le_one hseq⟩

/-- **The approval used twice.**  The tag is removed, others add it again, and the same approval
removes it once more. -/
theorem removals_two : ∃ (es : List Entry) (s : State),
    Sequence .node (rollbackWith genuineProposal) (fun _ _ => True)
      ⟨fun _ => Issue.sampleAfter.value, 0⟩ es s ∧ s.removals = 2 := by
  obtain ⟨h, r, hreach, hfollows, hcount⟩ := sample_call
  refine ⟨[.called h, .changed fun _ => Issue.sampleAfter.value, .called h],
    ⟨fun _ => Issue.sampleBefore.value, 0 + h.countP isRemoval + h.countP isRemoval⟩, ?_, by simp [hcount]⟩
  exact .step trivial (.called hreach hfollows) (.step trivial (.changed _ _)
    (.step trivial (.called hreach hfollows) (.done _)))

end Rollback

end Remediation
