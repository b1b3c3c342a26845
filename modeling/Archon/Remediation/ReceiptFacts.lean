/-
# What a receipt without issues establishes

`receiptValid_iff` takes the verifier apart: a receipt is valid exactly when the facts of
`ReceiptFacts` hold, one for each place where the verifier can push an issue.  Two things are
proved from it.  A receipt that `createExecutionReceipt` has just signed needs only the facts its
signature does not give (`signedReceipt_valid_iff`).  And a valid receipt of a verified outcome is
a faithful record of the execution except where the verifier looks at nothing: the field the
action names, what the argument arrays hold after their first element, and the times of the events
(`faithful_iff`).
-/
import Archon.Remediation.Receipt

namespace Remediation

open Ecma Ecma.Value

variable {P : Platform}

/-! ## 1. Issues -/

@[simp] theorem issueIf_eq_nil {condition : Bool} {issue : String} :
    issueIf condition issue = [] ↔ condition = false := by
  cases condition <;> simp [issueIf]

theorem path_one {v : Value} (h : v.isNullish = false) (k : String) :
    (v.path [k] : Run Value) = .ok (v.getPath [k]) := by
  simp [path, prop_of_not_nullish h, getPath]

theorem eqText_ok {v : Value} {s : Text} : (eqText (.ok v) s : Run Bool) = .ok (v.isText s) := rfl

/-- The events agree with what is expected of them, from a place of the chain on: all but the
time is compared, and the hash is computed from the time that stands in the event. -/
def EventsMatch (P : Platform) (events : Value) : Nat → Value → List ReceiptEventPayload → Prop
  | _, _, [] => True
  | index, previousHash, expected :: rest =>
    ∃ event, events.index index = (.ok event : Run Value) ∧ event.isNullish = false ∧
      Canonicalizable expected.payload ∧
      (event.getPath ["sequence"]).strictEq (.num (.ofNat index)) = true ∧
      event.getPath ["kind"] = .str expected.kind.name ∧
      event.getPath ["payloadDigest"] = .str (digestOf P expected.payload) ∧
      (event.getPath ["previousHash"]).strictEq previousHash = true ∧
      Canonicalizable (object (unsignedEvent index expected.kind.name (event.getPath ["occurredAt"])
        (digestOf P expected.payload) previousHash)) ∧
      event.getPath ["eventHash"] = .str (digestOf P
        (object (unsignedEvent index expected.kind.name (event.getPath ["occurredAt"])
          (digestOf P expected.payload) previousHash))) ∧
      EventsMatch P events (index + 1) (event.getPath ["eventHash"]) rest

theorem prop_one {v : Value} (h : v.isNullish = false) (k : String) :
    (v.prop k : Run Value) = .ok (v.getPath [k]) :=
  prop_of_not_nullish h k

theorem eventIssues_eq_nil {events : Value} : ∀ {payloads : List ReceiptEventPayload} {index : Nat}
    {previousHash : Value}, eventIssues P events index previousHash payloads = .ok [] ↔
      EventsMatch P events index previousHash payloads
  | [], _, _ => by simp [eventIssues, EventsMatch]
  | expected :: rest, index, previousHash => by
    constructor
    · intro h
      obtain ⟨event, hevent, h⟩ := bind_eq_ok.mp h
      obtain ⟨occurredAt, hoccurred, h⟩ := bind_eq_ok.mp h
      obtain ⟨hn, rfl⟩ := prop_eq_ok.mp hoccurred
      obtain ⟨d, hd, h⟩ := bind_eq_ok.mp h
      obtain ⟨hcan, rfl⟩ := digest_eq_ok.mp hd
      obtain ⟨matching, hm, h⟩ := bind_eq_ok.mp h
      obtain ⟨hash, hhash, h⟩ := bind_eq_ok.mp h
      obtain ⟨-, rfl⟩ := prop_eq_ok.mp hhash
      obtain ⟨issues, hissues, h⟩ := bind_eq_ok.mp h
      simp only [pure_eq_ok, Except.ok.injEq, List.append_eq_nil_iff, issueIf_eq_nil,
        Bool.not_eq_false'] at h
      obtain ⟨rfl, rfl⟩ := h
      simp only [andM_eq_true, prop_one hn, ok_bind, eqText_ok, pure_eq_ok, Except.ok.injEq,
        isText_iff] at hm
      obtain ⟨hseq, hkind, hpayload, hprev, hlast⟩ := hm
      obtain ⟨expectedHash, he, hlast⟩ := bind_eq_ok.mp hlast
      obtain ⟨hcan', rfl⟩ := digest_eq_ok.mp he
      exact ⟨event, hevent, hn, hcan, hseq, hkind, hpayload, hprev, hcan',
        isText_iff.mp (Except.ok.inj hlast), eventIssues_eq_nil.mp hissues⟩
    · rintro ⟨event, hevent, hn, hcan, hseq, hkind, hpayload, hprev, hcan', hhash, hrest⟩
      simp only [eventIssues, hevent, ok_bind, prop_one hn, digest_ok hcan, eqText_ok, hseq, hkind, hpayload,
        hprev, digest_ok hcan', hhash, isText_str, decide_true, pure_eq_ok, andM_ok_true]
      rw [hhash] at hrest
      rw [eventIssues_eq_nil.mpr hrest]
      rfl

/-! ## 2. The verifier taken apart -/

/-- Is the list of checks one that is compared?  `receipt.checks.length > 0`. -/
def hasChecks (receipt : Value) : Run Bool := do
  (← (receipt.getPath ["checks"]).prop "length").exceeds 0

/-- Every fact behind a receipt without issues. -/
structure ReceiptFacts (P : Platform) (receipt : Value) : Prop where
  present : receipt.isNullish = false
  unsigned : Canonicalizable (receipt.rest ["receiptId", "digest"])
  schemaVersion : receipt.getPath ["schemaVersion"] = lit "archon.execution-receipt/v1"
  digest : receipt.getPath ["digest"] = .str (digestOf P (receipt.rest ["receiptId", "digest"]))
  receiptId : receipt.getPath ["receiptId"]
    = .str (shortId "receipt-" (digestOf P (receipt.rest ["receiptId", "digest"])))
  action : actionValid P (receipt.getPath ["action"]) = true
  before : projectionOk P (receipt.getPath ["before"]) = .ok true
  after : projectionOk P (receipt.getPath ["after"]) = .ok true
  request : requestBound P (receipt.getPath ["mutation"]) (receipt.path ["action", "arguments"])
    = .ok true
  events : ∃ payloads, eventPayloads (contentOf receipt) = .ok payloads ∧
    (receipt.getPath ["events"]).isNullish = false ∧
    (receipt.getPath ["events", "length"]).strictEq (.num (.ofNat payloads.length)) = true ∧
    EventsMatch P (receipt.getPath ["events"]) 0 (.str (GENESIS_HASH P)) payloads
  verified : receipt.getPath ["outcome"] = lit "VERIFIED" → verifiedIssues receipt = .ok []
  checks : ∃ checked, hasChecks receipt = .ok checked ∧
    (checked = true → checkIssues P receipt = .ok [])
  rollback : ∃ eligible,
    eqText (receipt.path ["rollback", "availability"]) (js "ELIGIBLE") = (.ok eligible : Run Bool) ∧
      (eligible = true → rollbackBound P receipt = .ok true)

theorem ifIssues_eq_nil {condition : Bool} {issues : Run (List String)} :
    (if condition then issues else .ok []) = .ok [] ↔ (condition = true → issues = .ok []) := by
  cases condition <;> simp

theorem ifTrue_eq_true {condition : Bool} {x : Run Bool} :
    (if condition then x else .ok true) = .ok true ↔ (condition = true → x = .ok true) := by
  cases condition <;> simp

theorem verifyUnsafe_eq_nil {receipt : Value} :
    verifyExecutionReceiptUnsafe P receipt = .ok [] ↔ ReceiptFacts P receipt := by
  constructor
  · intro h
    obtain ⟨payload, hpayload, h⟩ := bind_eq_ok.mp h
    obtain ⟨hn, rfl⟩ := without_eq_ok.mp hpayload
    simp only [path_one hn, ok_bind, eqText_ok] at h
    obtain ⟨d, hd, h⟩ := bind_eq_ok.mp h
    obtain ⟨hcan, rfl⟩ := digest_eq_ok.mp hd
    obtain ⟨before, hbefore, h⟩ := bind_eq_ok.mp h
    obtain ⟨after, hafter, h⟩ := bind_eq_ok.mp h
    obtain ⟨request, hrequest, h⟩ := bind_eq_ok.mp h
    obtain ⟨payloads, hpayloads, h⟩ := bind_eq_ok.mp h
    obtain ⟨count, hcount, h⟩ := bind_eq_ok.mp h
    obtain ⟨hevents, rfl⟩ := prop_eq_ok.mp hcount
    obtain ⟨problems, hproblems, h⟩ := bind_eq_ok.mp h
    obtain ⟨verified, hverified, h⟩ := bind_eq_ok.mp h
    obtain ⟨length, hlength, h⟩ := bind_eq_ok.mp h
    obtain ⟨checked, hchecked, h⟩ := bind_eq_ok.mp h
    obtain ⟨checks, hchecks, h⟩ := bind_eq_ok.mp h
    obtain ⟨eligible, heligible, h⟩ := bind_eq_ok.mp h
    obtain ⟨bound, hbound, h⟩ := bind_eq_ok.mp h
    simp only [pure_eq_ok, Except.ok.injEq, List.append_eq_nil_iff, issueIf_eq_nil,
      Bool.not_eq_false', isText_iff] at h
    obtain ⟨⟨⟨⟨⟨⟨⟨⟨⟨⟨hschema, hdigest⟩, hid⟩, haction⟩, rfl⟩, rfl⟩, rfl⟩, rfl⟩, rfl⟩, rfl⟩, rfl⟩ := h
    refine ⟨hn, hcan, hschema, hdigest, hid, haction, hbefore, hafter, hrequest, ?_, ?_, ?_, ?_⟩
    · refine ⟨payloads, hpayloads, hevents, ?_⟩
      split at hproblems
      · rename_i hlen
        exact ⟨hlen, eventIssues_eq_nil.mp hproblems⟩
      · exact absurd (Except.ok.inj hproblems) (by simp)
    · intro ho
      exact ifIssues_eq_nil.mp hverified (isText_iff.mpr ho)
    · exact ⟨checked, bind_eq_ok.mpr ⟨length, hlength, hchecked⟩, ifIssues_eq_nil.mp hchecks⟩
    · exact ⟨eligible, heligible, ifTrue_eq_true.mp hbound⟩
  · intro f
    obtain ⟨payloads, hpayloads, hevents, hlen, hmatch⟩ := f.events
    obtain ⟨checked, hchecked, hchecks⟩ := f.checks
    obtain ⟨length, hlength, hchecked⟩ := bind_eq_ok.mp hchecked
    obtain ⟨eligible, heligible, hbound⟩ := f.rollback
    have hpayload : receiptPayload receipt = .ok (receipt.rest ["receiptId", "digest"]) :=
      without_eq_ok.mpr ⟨f.present, rfl⟩
    have hverified := ifIssues_eq_nil.mpr fun h => f.verified (isText_iff.mp h)
    have hcount : (receipt.getPath ["events"]).prop "length"
        = (.ok (receipt.getPath ["events", "length"]) : Run Value) :=
      prop_one hevents "length"
    simp only [verifyExecutionReceiptUnsafe, path_one f.present, ok_bind, hpayload,
      digest_ok f.unsigned, eqText_ok, f.schemaVersion, f.digest, f.receiptId, f.before, f.after,
      f.request, hpayloads, hcount, hlen, eventIssues_eq_nil.mpr hmatch, if_true, hverified, hlength,
      hchecked, ifIssues_eq_nil.mpr hchecks, heligible, ifTrue_eq_true.mpr hbound, f.action]
    simp [issueIf]

/-- **A receipt is valid exactly when these facts hold of it.** -/
theorem receiptValid_iff {receipt : Value} : receiptValid P receipt = true ↔ ReceiptFacts P receipt := by
  rw [← verifyUnsafe_eq_nil, receiptValid, verifyExecutionReceipt]
  rcases verifyExecutionReceiptUnsafe P receipt with e | issues <;> simp

/-! ## 3. Chains of events -/

/-- The hash of an expected event at a place of the chain. -/
def chainedHash (P : Platform) (index : Nat) (previousHash : Value) (p : ReceiptEventPayload) : Text :=
  digestOf P (object (unsignedEvent index p.kind.name p.occurredAt (digestOf P p.payload) previousHash))

/-- The expected event itself. -/
def chainedEvent (P : Platform) (index : Nat) (previousHash : Value) (p : ReceiptEventPayload) : Value :=
  object (unsignedEvent index p.kind.name p.occurredAt (digestOf P p.payload) previousHash ++
    [("eventHash", .str (chainedHash P index previousHash p))])

/-- The events `buildEvents` builds, where it does not throw. -/
def chain (P : Platform) : Nat → Value → List ReceiptEventPayload → List Value
  | _, _, [] => []
  | index, previousHash, p :: ps =>
    chainedEvent P index previousHash p :: chain P (index + 1) (.str (chainedHash P index previousHash p)) ps

@[simp] theorem chain_length : ∀ (payloads : List ReceiptEventPayload) (index : Nat) (previousHash : Value),
    (chain P index previousHash payloads).length = payloads.length
  | [], _, _ => rfl
  | _ :: ps, _, _ => by rw [chain, List.length_cons, List.length_cons, chain_length ps]

theorem canonicalizable_unsignedEvent {index : Nat} {kind payloadDigest : Text} {occurredAt : Value}
    {previousHash : Text} (h : index < 2 ^ 53) :
    Canonicalizable (object (unsignedEvent index kind occurredAt payloadDigest (.str previousHash)))
      ↔ Canonicalizable occurredAt := by
  simp [unsignedEvent, canonicalizable_ofNat h]

/-- The events that can be built are those whose payloads and times have canonical texts. -/
theorem buildEventsFrom_eq_ok : ∀ {payloads : List ReceiptEventPayload} {index : Nat}
    (previousHash : Text) {built : List Value}, index + payloads.length < 2 ^ 53 →
    (buildEventsFrom P index (.str previousHash) payloads = .ok built ↔
      (∀ p ∈ payloads, Canonicalizable p.payload ∧ Canonicalizable p.occurredAt) ∧
        built = chain P index (.str previousHash) payloads)
  | [], index, previousHash, built, _ => by
    simp [buildEventsFrom, chain, eq_comm]
  | value :: values, index, previousHash, built, hlt => by
    rw [List.length_cons] at hlt
    have hindex : index < 2 ^ 53 := by omega
    have hnext : index + 1 + values.length < 2 ^ 53 := by omega
    constructor
    · intro h
      obtain ⟨d, hd, h⟩ := bind_eq_ok.mp h
      obtain ⟨hcan, rfl⟩ := digest_eq_ok.mp hd
      obtain ⟨hash, hhash, h⟩ := bind_eq_ok.mp h
      obtain ⟨hcan', rfl⟩ := digest_eq_ok.mp hhash
      obtain ⟨rest, hrest, h⟩ := bind_eq_ok.mp h
      obtain ⟨hall, rfl⟩ := (buildEventsFrom_eq_ok _ hnext).mp hrest
      obtain rfl := Except.ok.inj h
      exact ⟨List.forall_mem_cons.mpr ⟨⟨hcan, (canonicalizable_unsignedEvent hindex).mp hcan'⟩, hall⟩,
        rfl⟩
    · rintro ⟨hall, rfl⟩
      obtain ⟨⟨hcan, hcan'⟩, hall⟩ := List.forall_mem_cons.mp hall
      simp only [buildEventsFrom, digest_ok hcan, ok_bind,
        digest_ok ((canonicalizable_unsignedEvent hindex).mpr hcan')]
      rw [(buildEventsFrom_eq_ok _ hnext).mpr ⟨hall, rfl⟩]
      rfl

/-- What is read from an expected event. -/
theorem chainedEvent_getPath (index : Nat) (previousHash : Value) (p : ReceiptEventPayload) :
    (chainedEvent P index previousHash p).getPath ["sequence"] = .num (.ofNat index) ∧
      (chainedEvent P index previousHash p).getPath ["kind"] = .str p.kind.name ∧
      (chainedEvent P index previousHash p).getPath ["occurredAt"] = p.occurredAt ∧
      (chainedEvent P index previousHash p).getPath ["payloadDigest"] = .str (digestOf P p.payload) ∧
      (chainedEvent P index previousHash p).getPath ["previousHash"] = previousHash ∧
      (chainedEvent P index previousHash p).getPath ["eventHash"]
        = .str (chainedHash P index previousHash p) := by
  refine ⟨?_, ?_, ?_, ?_, ?_, ?_⟩ <;>
    simp [getPath_cons, getPath_nil, chainedEvent, unsignedEvent, List.lookup]

/-- The built chain is one that the verifier accepts. -/
theorem eventsMatch_chain : ∀ {payloads : List ReceiptEventPayload} {index : Nat} {previousHash : Text}
    (before : List Value), before.length = index → index + payloads.length < 2 ^ 53 →
    (∀ p ∈ payloads, Canonicalizable p.payload ∧ Canonicalizable p.occurredAt) →
    EventsMatch P (.arr (before ++ chain P index (.str previousHash) payloads)) index (.str previousHash)
      payloads
  | [], _, _, _, _, _, _ => trivial
  | p :: ps, index, previousHash, before, hb, hlt, hall => by
    obtain ⟨⟨hcan, hcan'⟩, hall⟩ := List.forall_mem_cons.mp hall
    rw [List.length_cons] at hlt
    obtain ⟨hseq, hkind, htime, hpayload, hprev, hhash⟩ :=
      chainedEvent_getPath (P := P) index (.str previousHash) p
    refine ⟨chainedEvent P index (.str previousHash) p, ?_, isNullish_object _, hcan, ?_, hkind, hpayload, ?_,
      ?_, ?_, ?_⟩
    · rw [index_arr, ← hb]
      simp [chain]
    · rw [hseq]; simp
    · rw [hprev]; simp
    · rw [htime]
      exact (canonicalizable_unsignedEvent (by omega)).mpr hcan'
    · rw [htime, hhash]
      rfl
    · rw [hhash, chain, List.append_cons]
      exact eventsMatch_chain _ (by simp [hb]) (by omega) hall

/-! ## 4. Receipts just signed -/

section Signed

variable {input : CreateExecutionReceiptInput} {events : List Value} {receipt : Value}

theorem ifTruthy_of_truthy {v : Value} (h : v.truthy = true) : ifTruthy v = v := by
  simp [ifTruthy, h]

theorem ifTruthy_of_falsy {v : Value} (h : v.truthy = false) : ifTruthy v = .undefined := by
  simp [ifTruthy, h]

/-- What is falsy has no members to lose. -/
theorem getPath_ifTruthy (v : Value) {k : String} (hlen : js k ≠ js "length")
    (hidx : arrayIndex (js k) = none) : (ifTruthy v).getPath [k] = v.getPath [k] := by
  cases h : v.truthy with
  | true => rw [ifTruthy_of_truthy h]
  | false =>
    rw [ifTruthy_of_falsy h, getPath_undefined]
    by_contra hne
    have ht := truthy_of_get (v := v) (js k) (fun hu => hne hu.symm) hlen hidx
    rw [h] at ht
    exact absurd ht (by simp)

theorem projectionOk_ifTruthy (v : Value) : projectionOk P (ifTruthy v) = projectionOk P v := by
  cases h : v.truthy with
  | true => rw [ifTruthy_of_truthy h]
  | false => rw [ifTruthy_of_falsy h, projectionOk, projectionOk, h]; rfl

theorem payloadsWith_length_le (c : ReceiptContent) (post : Bool) : (payloadsWith c post).length ≤ 7 := by
  unfold payloadsWith
  split <;> split <;> split <;> simp

theorem eventPayloads_length_lt {c : ReceiptContent} {payloads : List ReceiptEventPayload}
    (h : eventPayloads c = .ok payloads) : 0 + payloads.length < 2 ^ 53 := by
  obtain ⟨post, -, h⟩ := bind_eq_ok.mp h
  obtain rfl := Except.ok.inj h
  have := payloadsWith_length_le c post
  omega

@[simp] theorem truthy_ifTruthy (v : Value) : (ifTruthy v).truthy = v.truthy := by
  cases h : v.truthy with
  | true => rw [ifTruthy_of_truthy h, h]
  | false => rw [ifTruthy_of_falsy h]; rfl

/-- The content of a receipt whose optional members are left out where they are falsy. -/
def ReceiptContent.stored (c : ReceiptContent) : ReceiptContent :=
  { c with
    approvalDecisionDigest := ifTruthy c.approvalDecisionDigest
    before := ifTruthy c.before
    after := ifTruthy c.after
    mutation := ifTruthy c.mutation }

theorem eventPayloads_stored (c : ReceiptContent) : eventPayloads c.stored = eventPayloads c := by
  have hd : ∀ v : Value, (ifTruthy v).getPath ["digest"] = v.getPath ["digest"] := fun v =>
    getPath_ifTruthy v (by decide) (by decide)
  cases ha : c.approvalDecisionDigest.truthy <;> cases hm : c.mutation.truthy <;>
    cases ht : c.after.truthy <;>
    simp [eventPayloads, hasPostcondition, payloadsWith, ReceiptContent.stored, ifTruthy_of_truthy,
      hd, ha, hm, ht]

/-- The events expected of a signed receipt are those of what was signed. -/
theorem eventPayloads_of_members (hm : Members input events receipt) :
    eventPayloads (contentOf receipt) = eventPayloads input.content := by
  have hstored : contentOf receipt = input.content.stored := by
    simp only [contentOf, CreateExecutionReceiptInput.content, ReceiptContent.stored, hm.dossierDigest,
      hm.planDigest, hm.approvalDecisionDigest, hm.before, hm.after, hm.mutation, hm.checks, hm.rollback,
      hm.startedAt, hm.completedAt]
  rw [hstored, eventPayloads_stored]

theorem rest_signedReceipt (input : CreateExecutionReceiptInput) (events : List Value) :
    (signedReceipt P input events).rest ["receiptId", "digest"] = object (unsignedReceipt input events) := by
  have hkeys : ∀ f ∈ unsignedReceipt input events, ["receiptId", "digest"].contains f.1 = false := by
    have hoptional : ∀ (k : String) (v : Value), ["receiptId", "digest"].contains k = false →
        ∀ f ∈ optional k v, ["receiptId", "digest"].contains f.1 = false := by
      intro k v hk f hf
      unfold optional at hf
      split at hf
      · rwa [List.mem_singleton.mp hf]
      · exact absurd hf List.not_mem_nil
    simp only [unsignedReceipt, List.forall_mem_append, List.forall_mem_cons]
    refine ⟨⟨⟨⟨⟨⟨?_, hoptional _ _ (by decide)⟩, ?_⟩, hoptional _ _ (by decide)⟩,
      hoptional _ _ (by decide)⟩, hoptional _ _ (by decide)⟩, ?_⟩ <;> decide
  rw [signedReceipt, rest_object, List.filter_append,
    List.filter_eq_self.mpr fun f hf => by rw [hkeys f hf]; rfl]
  simp

theorem signedReceipt_digest (input : CreateExecutionReceiptInput) (events : List Value) :
    (signedReceipt P input events).getPath ["digest"]
        = .str (digestOf P (object (unsignedReceipt input events))) ∧
      (signedReceipt P input events).getPath ["receiptId"]
        = .str (shortId "receipt-" (digestOf P (object (unsignedReceipt input events)))) := by
  constructor <;>
    simp [getPath_cons, getPath_nil, signedReceipt, unsignedReceipt, List.lookup_append, List.lookup,
      lookup_optional]

/-- **What its signature does not give a signed receipt.** -/
theorem signedReceipt_valid_iff (hc : Created P input receipt) : receiptValid P receipt = true ↔
    requestBound P (receipt.getPath ["mutation"]) (receipt.path ["action", "arguments"]) = .ok true ∧
    (receipt.getPath ["outcome"] = lit "VERIFIED" → verifiedIssues receipt = .ok []) ∧
    (∃ checked, hasChecks receipt = .ok checked ∧ (checked = true → checkIssues P receipt = .ok [])) ∧
    ∃ eligible,
      eqText (receipt.path ["rollback", "availability"]) (js "ELIGIBLE") = (.ok eligible : Run Bool) ∧
      (eligible = true → rollbackBound P receipt = .ok true) := by
  rw [receiptValid_iff]
  constructor
  · intro f
    exact ⟨f.request, f.verified, f.checks, f.rollback⟩
  · rintro ⟨hrequest, hverified, hchecks, hrollback⟩
    obtain ⟨payloads, events, hpayloads, hevents, hcan, rfl⟩ := hc.built
    have hm := signedReceipt_members P input events
    have hlt := eventPayloads_length_lt hpayloads
    obtain ⟨hall, rfl⟩ := (buildEventsFrom_eq_ok _ hlt).mp hevents
    refine ⟨rfl, ?_, hm.schemaVersion, ?_, ?_, ?_, ?_, ?_, hrequest, ?_, hverified, hchecks, hrollback⟩
    · rw [rest_signedReceipt]; exact hcan
    · rw [rest_signedReceipt]; exact (signedReceipt_digest input _).1
    · rw [rest_signedReceipt]; exact (signedReceipt_digest input _).2
    · rw [hm.action]; exact hc.action
    · rw [hm.before, projectionOk_ifTruthy]; exact hc.before
    · rw [hm.after, projectionOk_ifTruthy]; exact hc.after
    · refine ⟨payloads, (eventPayloads_of_members hm).trans hpayloads, ?_, ?_, ?_⟩
      · rw [hm.events]; rfl
      · have hlength : (signedReceipt P input (chain P 0 (.str (GENESIS_HASH P)) payloads)).getPath
            ["events", "length"] = .num (.ofNat payloads.length) := by
          rw [getPath_pair, hm.events, get_length_arr, chain_length]
        rw [hlength, ofNat_strictEq_ofNat]
      · rw [hm.events]
        exact eventsMatch_chain [] rfl hlt hall

end Signed

end Remediation
