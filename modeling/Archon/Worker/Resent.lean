/-
# A message sent again

A message that a worker has accepted is printed and parsed again.  What is in it has been checked, and
every member but one is kept as it came: an issuer is replaced by its URL, without a slash at the end.  So
an audit or an approval always comes back as it was (`parse_audit_again`, `parse_approval_again`), and a
remediation exactly where the URL of its issuer neither ends in two slashes nor is longer than an issuer
may be (`parse_again_iff`): of two slashes one is taken away each time.
-/
import Archon.Control.Bounds
import Archon.Ecma.Printing
import Archon.Worker.Brief
import Archon.Worker.Contracts

namespace Worker

open Ecma Ecma.Value Remediation

/-! ## 1. A message as a value -/

/-- The message, as `parseAuditMessage` returns it. -/
def AuditQueueMessage.value (m : AuditQueueMessage) : Value :=
  object [("type", lit "AUDIT_REQUESTED"), ("taskToken", .str m.taskToken),
    ("executionId", .str m.executionId), ("request", m.request.value)]

/-- The message, as `parseApprovalMessage` returns it. -/
def ApprovalQueueMessage.value (m : ApprovalQueueMessage) : Value :=
  object [("type", lit "APPROVAL_REQUESTED"), ("taskToken", .str m.taskToken),
    ("executionId", .str m.executionId), ("approvalId", .str m.approvalId),
    ("planDigest", .str m.planDigest), ("evidenceDigest", .str m.evidenceDigest),
    ("approvalRequestDigest", .str m.approvalRequestDigest), ("requestedAt", .str m.requestedAt),
    ("expiresAt", .str m.expiresAt)]

/-- The approver, as `parseApprovalCallback` returns it. -/
def ApprovalCallback.approverValue (c : ApprovalCallback) : Value :=
  object [("subject", .str c.subject), ("issuer", .str c.issuer), ("roles", .arr [lit "DataSteward"]),
    ("authenticated", .bool true)]

/-- The decision. -/
def ApprovalCallback.decisionValue (c : ApprovalCallback) : Value :=
  object [("decision", c.decision.name), ("approver", c.approverValue), ("decidedAt", .str c.decidedAt)]

/-- The callback. -/
def ApprovalCallback.value (c : ApprovalCallback) : Value :=
  object [("approvalId", .str c.approvalId), ("decision", c.decisionValue)]

/-- The message, as `parseRemediationMessage` returns it. -/
def RemediationQueueMessage.value (m : RemediationQueueMessage) : Value :=
  object [("type", lit "REMEDIATION_REQUESTED"), ("taskToken", .str m.taskToken),
    ("executionId", .str m.executionId), ("approvalId", .str m.approvalId),
    ("planDigest", .str m.planDigest), ("evidenceDigest", .str m.evidenceDigest),
    ("approvalResult", m.approvalResult.value)]

/-- What `parseQueueMessage` returns. -/
def WorkerQueueMessage.value : WorkerQueueMessage → Value
  | .audit m => m.value
  | .approval m => m.value
  | .remediation m => m.value

/-- `JSON.stringify(message)`. -/
def WorkerQueueMessage.body (m : WorkerQueueMessage) : Text := (stringify m.value).getD []

/-! ## 2. Members -/

section Members

variable {P : Platform} {v : Value} {label : String} {t : Text} {lo hi : Nat}

theorem stringValue_eq_ok : stringValue v label lo hi = .ok t ↔ v = .str t ∧ Plain t lo hi := by
  cases v with
  | str s =>
    rw [stringValue]
    constructor
    · intro h
      split at h
      case isTrue => cases h
      case isFalse hbad =>
        obtain rfl := Except.ok.inj h
        simp only [Bool.or_eq_true, decide_eq_true_eq, not_or, not_lt, Bool.not_eq_true,
          List.any_eq_false, beq_eq_false_iff_ne] at hbad
        refine ⟨rfl, hbad.1.1, hbad.1.2, fun u hu => ⟨?_, (hbad.2 u hu).2⟩⟩
        have hlt := UInt16.not_le.mp (hbad.2 u hu).1
        rw [UInt16.lt_iff_toNat_lt] at hlt
        rw [UInt16.le_iff_toNat_le]
        simp only [UInt16.reduceToNat] at hlt ⊢
        omega
    · rintro ⟨heq, hleast, hmost, hcalm⟩
      obtain rfl := Value.str.inj heq
      rw [if_neg]
      simp only [Bool.or_eq_true, decide_eq_true_eq, not_or, not_lt, Bool.not_eq_true,
        List.any_eq_false, beq_eq_false_iff_ne]
      refine ⟨⟨hleast, hmost⟩, fun u hu => ⟨UInt16.not_le.mpr ?_, (hcalm u hu).2⟩⟩
      have hle := (hcalm u hu).1
      rw [UInt16.le_iff_toNat_le] at hle
      rw [UInt16.lt_iff_toNat_lt]
      simp only [UInt16.reduceToNat] at hle ⊢
      omega
  | _ => simp [stringValue, invalidMessage, refuse]

/-- What a checked member is worth: the value is this text, it is within its bounds, and checked again it is
the same. -/
structure Kept (check : Value → Run Text) (hi : Nat) (v : Value) (t : Text) : Prop where
  value : v = .str t
  plain : Plain t 0 hi
  again : check (.str t) = .ok t

theorem kept_of_checked {check : Value → Run Text} (hcheck : ∀ v t, check v = .ok t → v = .str t ∧ Plain t lo hi)
    (h : check v = .ok t) : Kept check hi v t := by
  obtain ⟨hv, hplain⟩ := hcheck v t h
  exact ⟨hv, ⟨Nat.zero_le _, hplain.most, hplain.calm⟩, hv ▸ h⟩

theorem stringValue_kept (h : stringValue v label lo hi = .ok t) :
    Kept (fun v => stringValue v label lo hi) hi v t := by
  have hcheck : ∀ v t, stringValue v label lo hi = .ok t → v = .str t ∧ Plain t lo hi :=
    fun _ _ h => stringValue_eq_ok.mp h
  exact kept_of_checked hcheck h

/-- A text with one more condition. -/
theorem checked_of_stringValue {p : Text → Bool} {message : String}
    (h : (do let t ← stringValue v label lo hi; invalidIf (p t) message; return t) = Except.ok t) :
    v = .str t ∧ Plain t lo hi := by
  obtain ⟨s, hs, h⟩ := bind_eq_ok.mp h
  obtain ⟨_, -, h⟩ := bind_eq_ok.mp h
  obtain rfl := Except.ok.inj h
  exact stringValue_eq_ok.mp hs

theorem taskToken_kept (h : taskTokenOf v = .ok t) : Kept taskTokenOf 1024 v t :=
  stringValue_kept h

theorem instantText_kept (h : instantText P v label = .ok t) :
    Kept (fun v => instantText P v label) 40 v t :=
  kept_of_checked (fun _ _ h => checked_of_stringValue h) h

theorem executionId_kept (h : executionIdOf v = .ok t) : Kept executionIdOf 2048 v t :=
  kept_of_checked (fun _ _ h => checked_of_stringValue h) h

theorem identifier_kept (h : identifier v label = .ok t) : Kept (fun v => identifier v label) 160 v t :=
  kept_of_checked (fun _ _ h => checked_of_stringValue h) h

theorem digestText_kept (h : digestText v label = .ok t) : Kept (fun v => digestText v label) 71 v t :=
  kept_of_checked (fun _ _ h => checked_of_stringValue h) h

end Members

/-! ## 3. Values parsed again -/

section Again

variable {P : Platform} {v : Value}

theorem modeOf_name (mode : Option AuditMode) :
    modeOf ((mode.map AuditMode.name).getD .undefined) = .ok mode := by
  cases mode with
  | none => rfl
  | some m => cases m <;> decide

theorem queryOf_again {q : Option Text} (h : queryOf v = .ok q) :
    queryOf ((q.map Value.str).getD .undefined) = .ok q ∧ ∀ t ∈ q, Plain t 0 512 := by
  unfold queryOf at h
  split at h
  case isTrue =>
    obtain rfl := Except.ok.inj h
    exact ⟨rfl, fun t ht => by cases ht⟩
  case isFalse =>
    obtain ⟨t, ht, h⟩ := bind_eq_ok.mp h
    obtain rfl := Except.ok.inj h
    have hkept := stringValue_kept ht
    refine ⟨?_, fun u hu => Option.some.inj hu ▸ hkept.plain⟩
    have hagain : stringValue (.str t) "request.query" 1 512 = .ok t := hkept.again
    rw [queryOf, Option.map_some, Option.getD_some, if_neg (by simp [strictEq]), hagain]
    rfl

/-- The members of a request. -/
theorem request_getPath (r : AuditRequest) :
    r.value.getPath ["schemaVersion"] = lit "archon.audit-request/v1"
      ∧ r.value.getPath ["requestId"] = .str r.requestId
      ∧ r.value.getPath ["requestedAt"] = .str r.requestedAt
      ∧ r.value.getPath ["query"] = (r.query.map Value.str).getD .undefined
      ∧ r.value.getPath ["mode"] = (r.mode.map AuditMode.name).getD .undefined := by
  obtain ⟨requestId, requestedAt, query, mode⟩ := r
  cases query <;> cases mode <;>
    simp [AuditRequest.value, getPath_cons, getPath_nil, List.lookup]

theorem request_keys (r : AuditRequest) :
    exactKeys r.value ["schemaVersion", "requestId", "requestedAt", "query", "mode"]
      ["schemaVersion", "requestId", "requestedAt"] "request" = .ok () := by
  refine exactKeys_object _ ?_ ?_
  · cases r.query <;> cases r.mode <;> simp
  · cases r.query <;> cases r.mode <;> simp

/-- What is known of a request that was parsed. -/
structure RequestKept (P : Platform) (r : AuditRequest) : Prop where
  again : parseAuditRequest P r.value = .ok r
  requestId : Plain r.requestId 0 160
  requestedAt : Plain r.requestedAt 0 40
  query : ∀ t ∈ r.query, Plain t 0 512

theorem parseAuditRequest_again {r : AuditRequest} (h : parseAuditRequest P v = .ok r) :
    RequestKept P r := by
  obtain ⟨input, -, h⟩ := bind_eq_ok.mp h
  obtain ⟨_, -, h⟩ := bind_eq_ok.mp h
  obtain ⟨_, -, h⟩ := bind_eq_ok.mp h
  obtain ⟨query, hquery, h⟩ := bind_eq_ok.mp h
  obtain ⟨mode, -, h⟩ := bind_eq_ok.mp h
  obtain ⟨requestId, hid, h⟩ := bind_eq_ok.mp h
  obtain ⟨requestedAt, hat, h⟩ := bind_eq_ok.mp h
  obtain rfl := Except.ok.inj h
  have hid := identifier_kept hid
  have hat := instantText_kept hat
  obtain ⟨hagain, hplain⟩ := queryOf_again hquery
  refine ⟨?_, hid.plain, hat.plain, hplain⟩
  obtain ⟨hschema, hrequestId, hrequestedAt, hq, hm⟩ :=
    request_getPath ⟨requestId, requestedAt, query, mode⟩
  have hrecord : record (AuditRequest.value ⟨requestId, requestedAt, query, mode⟩) "request"
      = .ok (AuditRequest.value ⟨requestId, requestedAt, query, mode⟩) := rfl
  have hversion : invalidIf (!(lit "archon.audit-request/v1").isText (js "archon.audit-request/v1"))
      "request.schemaVersion is unsupported." = .ok () := by decide
  rw [parseAuditRequest, hrecord, ok_bind, request_keys, ok_bind, hschema, hversion, ok_bind, hq, hagain,
    ok_bind, hm, modeOf_name, ok_bind, hrequestId, hid.again, ok_bind, hrequestedAt, hat.again]
  rfl

/-- What is known of an audit that was parsed. -/
structure AuditKept (P : Platform) (m : AuditQueueMessage) : Prop where
  again : parseAuditMessage P m.value = .ok m
  taskToken : Plain m.taskToken 0 1024
  executionId : Plain m.executionId 0 2048
  request : RequestKept P m.request

/-- **An audit comes back.** -/
theorem parseAuditMessage_again {m : AuditQueueMessage} (h : parseAuditMessage P v = .ok m) :
    AuditKept P m := by
  obtain ⟨_, -, h⟩ := bind_eq_ok.mp h
  obtain ⟨taskToken, htoken, h⟩ := bind_eq_ok.mp h
  obtain ⟨executionId, hexecution, h⟩ := bind_eq_ok.mp h
  obtain ⟨request, hrequest, h⟩ := bind_eq_ok.mp h
  obtain rfl := Except.ok.inj h
  have htoken := taskToken_kept htoken
  have hexecution := executionId_kept hexecution
  have hrequest := parseAuditRequest_again hrequest
  refine ⟨?_, htoken.plain, hexecution.plain, hrequest⟩
  have hkeys : exactKeys (AuditQueueMessage.value ⟨taskToken, executionId, request⟩)
      ["type", "taskToken", "executionId", "request"] ["type", "taskToken", "executionId", "request"]
      "AUDIT_REQUESTED" = .ok () := exactKeys_object _ (by simp) (by simp)
  have hget : (AuditQueueMessage.value ⟨taskToken, executionId, request⟩).getPath ["taskToken"]
        = .str taskToken
      ∧ (AuditQueueMessage.value ⟨taskToken, executionId, request⟩).getPath ["executionId"]
        = .str executionId
      ∧ (AuditQueueMessage.value ⟨taskToken, executionId, request⟩).getPath ["request"]
        = request.value := by
    simp [AuditQueueMessage.value, getPath_cons, getPath_nil, List.lookup]
  rw [parseAuditMessage, hkeys, ok_bind, hget.1, htoken.again, ok_bind, hget.2.1, hexecution.again,
    ok_bind, hget.2.2, hrequest.again]
  rfl

/-- What is known of an approval that was parsed. -/
structure ApprovalKept (P : Platform) (m : ApprovalQueueMessage) : Prop where
  again : parseApprovalMessage P m.value = .ok m
  taskToken : Plain m.taskToken 0 1024
  executionId : Plain m.executionId 0 2048
  approvalId : Plain m.approvalId 0 160
  planDigest : Plain m.planDigest 0 71
  evidenceDigest : Plain m.evidenceDigest 0 71
  approvalRequestDigest : Plain m.approvalRequestDigest 0 71
  requestedAt : Plain m.requestedAt 0 40
  expiresAt : Plain m.expiresAt 0 40

/-- **An approval comes back.** -/
theorem parseApprovalMessage_again {m : ApprovalQueueMessage} (h : parseApprovalMessage P v = .ok m) :
    ApprovalKept P m := by
  obtain ⟨_, -, h⟩ := bind_eq_ok.mp h
  obtain ⟨requestedAt, hrequested, h⟩ := bind_eq_ok.mp h
  obtain ⟨expiresAt, hexpires, h⟩ := bind_eq_ok.mp h
  obtain ⟨_, hlater, h⟩ := bind_eq_ok.mp h
  obtain ⟨taskToken, htoken, h⟩ := bind_eq_ok.mp h
  obtain ⟨executionId, hexecution, h⟩ := bind_eq_ok.mp h
  obtain ⟨approvalId, happroval, h⟩ := bind_eq_ok.mp h
  obtain ⟨planDigest, hplan, h⟩ := bind_eq_ok.mp h
  obtain ⟨evidenceDigest, hevidence, h⟩ := bind_eq_ok.mp h
  obtain ⟨approvalRequestDigest, hrequest, h⟩ := bind_eq_ok.mp h
  obtain rfl := Except.ok.inj h
  have hrequested := instantText_kept hrequested
  have hexpires := instantText_kept hexpires
  have htoken := taskToken_kept htoken
  have hexecution := executionId_kept hexecution
  have happroval := identifier_kept happroval
  have hplan := digestText_kept hplan
  have hevidence := digestText_kept hevidence
  have hrequest := digestText_kept hrequest
  refine ⟨?_, htoken.plain, hexecution.plain, happroval.plain, hplan.plain, hevidence.plain,
    hrequest.plain, hrequested.plain, hexpires.plain⟩
  generalize hm : ApprovalQueueMessage.mk taskToken executionId approvalId planDigest evidenceDigest
    approvalRequestDigest requestedAt expiresAt = m
  have hkeys : exactKeys m.value ["type", "taskToken", "executionId", "approvalId", "planDigest",
      "evidenceDigest", "approvalRequestDigest", "requestedAt", "expiresAt"] ["type", "taskToken",
      "executionId", "approvalId", "planDigest", "evidenceDigest", "approvalRequestDigest", "requestedAt",
      "expiresAt"] "APPROVAL_REQUESTED" = .ok () := exactKeys_object _ (by simp) (by simp)
  have hget : m.value.getPath ["requestedAt"] = .str requestedAt
      ∧ m.value.getPath ["expiresAt"] = .str expiresAt ∧ m.value.getPath ["taskToken"] = .str taskToken
      ∧ m.value.getPath ["executionId"] = .str executionId
      ∧ m.value.getPath ["approvalId"] = .str approvalId ∧ m.value.getPath ["planDigest"] = .str planDigest
      ∧ m.value.getPath ["evidenceDigest"] = .str evidenceDigest
      ∧ m.value.getPath ["approvalRequestDigest"] = .str approvalRequestDigest := by
    subst hm
    simp [ApprovalQueueMessage.value, getPath_cons, getPath_nil, List.lookup]
  obtain ⟨h1, h2, h3, h4, h5, h6, h7, h8⟩ := hget
  rw [parseApprovalMessage, hkeys, ok_bind, h1, hrequested.again, ok_bind, h2, hexpires.again, ok_bind, hlater, ok_bind, h3,
    htoken.again, ok_bind, h4, hexecution.again, ok_bind, h5, happroval.again, ok_bind, h6, hplan.again,
    ok_bind, h7, hevidence.again, ok_bind, h8, hrequest.again, ok_bind, ← hm]
  rfl

end Again

/-! ## 4. Issuers -/

/-- What the URLs of the platform are relied on for, where the scheme is `https:`. -/
structure UrlFacts (P : WorkerPlatform) : Prop where
  /-- What a URL is printed as is parsed as this URL. -/
  reparse : ∀ t url, P.parseUrl t = some url → url.protocol = js "https:" →
    P.parseUrl url.href = some url
  /-- Without its last slash it is the same URL with a shorter path or query; a slash comes back only where
  it was the whole path. -/
  unslash : ∀ t url s, P.parseUrl t = some url → url.protocol = js "https:" → url.hash = [] →
    url.href = s ++ [0x2F] → ∃ url', P.parseUrl s = some url' ∧ url'.protocol = url.protocol
      ∧ url'.username = url.username ∧ url'.password = url.password ∧ url'.hash = []
      ∧ (url'.href = s ∨ (url'.href = url.href ∧ s.getLast? ≠ some 0x2F))
  /-- It is printed without control characters. -/
  calm : ∀ t url, P.parseUrl t = some url → ∀ u ∈ url.href, 0x20 ≤ u ∧ u ≠ 0x7F
  /-- It has a host. -/
  length : ∀ t url, P.parseUrl t = some url → url.protocol = js "https:" → 9 ≤ url.href.length

/-- A URL that is an identity issuer. -/
structure IsIssuer (url : Url) : Prop where
  protocol : url.protocol = js "https:"
  username : url.username = []
  password : url.password = []
  hash : url.hash = []

theorem isIssuer_iff {url : Url} : (!(decide (url.protocol = js "https:") && url.username.isEmpty
    && url.password.isEmpty && url.hash.isEmpty)) = false ↔ IsIssuer url := by
  simp only [Bool.not_eq_false', decide_eq_true_eq, Bool.and_eq_true, List.isEmpty_iff]
  constructor
  · rintro ⟨⟨⟨hprotocol, husername⟩, hpassword⟩, hhash⟩
    exact ⟨hprotocol, husername, hpassword, hhash⟩
  · intro h
    exact ⟨⟨⟨h.protocol, h.username⟩, h.password⟩, h.hash⟩

/-- A URL whose text, without a slash at its end, is an issuer that is kept. -/
structure Settles (url : Url) : Prop where
  slashes : ¬ js "//" <:+ url.href
  length : (withoutTrailingSlash url.href).length ≤ 2048

/-- The text ends in a slash, or it is left as it is. -/
theorem withoutTrailingSlash_cases (t : Text) :
    (∃ s, t = s ++ [0x2F] ∧ withoutTrailingSlash t = s)
      ∨ (t.getLast? ≠ some 0x2F ∧ withoutTrailingSlash t = t) := by
  by_cases h : t.getLast? = some 0x2F
  · obtain ⟨s, rfl⟩ := List.getLast?_eq_some_iff.mp h
    refine Or.inl ⟨s, rfl, ?_⟩
    rw [withoutTrailingSlash, if_pos h, List.dropLast_concat]
  · exact Or.inr ⟨h, by rw [withoutTrailingSlash, if_neg h]⟩

theorem suffix_slashes {s : Text} : js "//" <:+ s ++ [0x2F] ↔ s.getLast? = some 0x2F := by
  have hjs : js "//" = [0x2F] ++ [0x2F] := by decide
  rw [hjs, List.getLast?_eq_some_iff]
  constructor
  · rintro ⟨r, hr⟩
    rw [← List.append_assoc] at hr
    exact ⟨r, (List.append_cancel_right hr).symm⟩
  · rintro ⟨r, rfl⟩
    exact ⟨r, by rw [List.append_assoc]⟩

theorem withoutTrailingSlash_eq_self {t : Text} : withoutTrailingSlash t = t ↔ t.getLast? ≠ some 0x2F := by
  rcases withoutTrailingSlash_cases t with ⟨s, rfl, h⟩ | ⟨hlast, h⟩
  · rw [h]
    constructor
    · intro heq
      have hlength := congrArg List.length heq
      simp at hlength
    · intro hlast
      simp at hlast
  · exact iff_of_true h hlast

/-- **An issuer is kept exactly where its URL does not end in two slashes**, and is not too long. -/
theorem issuer_again_iff {P : WorkerPlatform} (hP : UrlFacts P) {t : Text} {url : Url} {label : String}
    (hurl : P.parseUrl t = some url) (hissuer : IsIssuer url) :
    (stringValue (.str (withoutTrailingSlash url.href)) label 8 2048 = .ok (withoutTrailingSlash url.href)
        ∧ ∃ url', P.parseUrl (withoutTrailingSlash url.href) = some url' ∧ IsIssuer url'
          ∧ withoutTrailingSlash url'.href = withoutTrailingSlash url.href)
      ↔ Settles url := by
  have hleast := hP.length t url hurl hissuer.protocol
  have hplain : (withoutTrailingSlash url.href).length ≤ 2048 →
      Plain (withoutTrailingSlash url.href) 8 2048 := by
    intro hmost
    refine ⟨?_, hmost, fun u hu => hP.calm t url hurl u ?_⟩
    · rcases withoutTrailingSlash_cases url.href with ⟨s, hs, h⟩ | ⟨-, h⟩
      · rw [h]
        rw [hs, List.length_append, List.length_singleton] at hleast
        omega
      · rw [h]
        omega
    · rcases withoutTrailingSlash_cases url.href with ⟨s, hs, h⟩ | ⟨-, h⟩
      · rw [hs]
        exact List.mem_append_left _ (h ▸ hu)
      · exact h ▸ hu
  rw [stringValue_eq_ok]
  rcases withoutTrailingSlash_cases url.href with ⟨s, hs, h⟩ | ⟨hlast, h⟩
  · obtain ⟨url', hurl', hprotocol, husername, hpassword, hhash, hhref⟩ :=
      hP.unslash t url s hurl hissuer.protocol hissuer.hash hs
    rw [h] at hplain ⊢
    constructor
    · rintro ⟨⟨-, hplain⟩, url'', hurl'', -, hkept⟩
      obtain rfl := Option.some.inj (hurl'.symm.trans hurl'')
      refine ⟨?_, h ▸ hplain.most⟩
      rw [hs, suffix_slashes]
      intro hlast
      rcases hhref with hhref | ⟨-, hlast'⟩
      · rw [hhref] at hkept
        exact withoutTrailingSlash_eq_self.mp hkept hlast
      · exact hlast' hlast
    · rintro ⟨hslashes, hlength⟩
      rw [hs, suffix_slashes] at hslashes
      rw [h] at hlength
      refine ⟨⟨rfl, hplain hlength⟩, url', hurl', ⟨hprotocol.trans hissuer.protocol,
        husername.trans hissuer.username, hpassword.trans hissuer.password, hhash⟩, ?_⟩
      rcases hhref with hhref | ⟨hhref, -⟩
      · rw [hhref]
        exact withoutTrailingSlash_eq_self.mpr hslashes
      · rw [hhref, h]
  · have hslashes : ¬ js "//" <:+ url.href := by
      rintro ⟨r, hr⟩
      have hjs : js "//" = [0x2F] ++ [0x2F] := by decide
      rw [← hr, hjs, ← List.append_assoc, List.getLast?_append_of_ne_nil _ (List.cons_ne_nil _ _)] at hlast
      exact hlast rfl
    rw [h] at hplain ⊢
    constructor
    · rintro ⟨⟨-, hplain⟩, -⟩
      exact ⟨hslashes, by rw [h]; exact hplain.most⟩
    · rintro ⟨-, hlength⟩
      rw [h] at hlength
      exact ⟨⟨rfl, hplain hlength⟩, url, hP.reparse t url hurl hissuer.protocol, hissuer, h⟩

/-! ## 5. Remediations parsed again -/

section Remediations

variable {P : WorkerPlatform} {v : Value}

/-- Where the issuer stands in a callback. -/
def issuerOf (callback : Value) : Value := callback.getPath ["decision", "approver", "issuer"]

/-- What is known of a callback that was parsed. -/
structure CallbackKept (P : WorkerPlatform) (v : Value) (c : ApprovalCallback) : Prop where
  issuer : ∃ t url, issuerOf v = .str t ∧ P.parseUrl t = some url ∧ IsIssuer url
    ∧ c.issuer = withoutTrailingSlash url.href
  approvalId : Kept (fun v => identifier v "approvalResult.approvalId") 160 (v.getPath ["approvalId"])
    c.approvalId
  subject : stringValue (.str c.subject) "approvalResult.decision.approver.subject" 1 256 = .ok c.subject
    ∧ Plain c.subject 0 256
  decidedAt : instantText P.toPlatform (.str c.decidedAt) "approvalResult.decision.decidedAt"
    = .ok c.decidedAt ∧ Plain c.decidedAt 0 40

theorem parseApprovalCallback_kept {c : ApprovalCallback} (h : parseApprovalCallback P v = .ok c) :
    CallbackKept P v c := by
  obtain ⟨callback, hcallback, h⟩ := bind_eq_ok.mp h
  obtain ⟨_, -, h⟩ := bind_eq_ok.mp h
  obtain ⟨decision, hdecision, h⟩ := bind_eq_ok.mp h
  obtain ⟨_, -, h⟩ := bind_eq_ok.mp h
  obtain ⟨answer, -, h⟩ := bind_eq_ok.mp h
  obtain ⟨approver, happrover, h⟩ := bind_eq_ok.mp h
  obtain ⟨_, -, h⟩ := bind_eq_ok.mp h
  obtain ⟨_, -, h⟩ := bind_eq_ok.mp h
  obtain ⟨issuer, hissuer, h⟩ := bind_eq_ok.mp h
  have hsame : ∀ {u w : Value} {label : String}, record u label = .ok w → u = w := by
    intro u w label h
    obtain ⟨_, -, h⟩ := bind_eq_ok.mp h
    exact Except.ok.inj h
  obtain rfl := hsame hcallback
  obtain rfl := hsame hdecision
  obtain rfl := hsame happrover
  split at h
  case h_1 => cases h
  case h_2 url hurl =>
    obtain ⟨_, hhttps, h⟩ := bind_eq_ok.mp h
    obtain ⟨approvalId, hid, h⟩ := bind_eq_ok.mp h
    obtain ⟨subject, hsubject, h⟩ := bind_eq_ok.mp h
    obtain ⟨decidedAt, hat, h⟩ := bind_eq_ok.mp h
    obtain rfl := Except.ok.inj h
    have hsubject := stringValue_kept hsubject
    have hat := instantText_kept hat
    refine ⟨⟨issuer, url, ?_, hurl, isIssuer_iff.mp (invalidIf_eq_ok.mp hhttps), rfl⟩, identifier_kept hid,
      ⟨hsubject.again, hsubject.plain⟩, ⟨hat.again, hat.plain⟩⟩
    have hvalue := (stringValue_eq_ok.mp hissuer).1
    rw [← hvalue]
    rfl

/-- The members of a callback, as it is returned. -/
theorem callback_again (c : ApprovalCallback) : parseApprovalCallback P c.value = (do
    let issuer ← stringValue (.str c.issuer) "approvalResult.decision.approver.issuer" 8 2048
    match P.parseUrl issuer with
    | none => invalidMessage "approvalResult.decision.approver.issuer is not a URL."
    | some url =>
      invalidIf (!(decide (url.protocol = js "https:") && url.username.isEmpty && url.password.isEmpty &&
        url.hash.isEmpty)) "approvalResult.decision.approver.issuer is not an HTTPS identity issuer."
      let approvalId ← identifier (.str c.approvalId) "approvalResult.approvalId"
      let subject ← stringValue (.str c.subject) "approvalResult.decision.approver.subject" 1 256
      let decidedAt ← instantText P.toPlatform (.str c.decidedAt) "approvalResult.decision.decidedAt"
      return ⟨approvalId, c.decision, subject, withoutTrailingSlash url.href, decidedAt⟩) := by
  have hk1 : exactKeys c.value ["approvalId", "decision"] ["approvalId", "decision"] "approvalResult"
      = .ok () := exactKeys_object _ (by simp) (by simp)
  have hk2 : exactKeys c.decisionValue ["decision", "approver", "decidedAt"]
      ["decision", "approver", "decidedAt"] "approvalResult.decision" = .ok () :=
    exactKeys_object _ (by simp) (by simp)
  have hk3 : exactKeys c.approverValue ["subject", "issuer", "roles", "authenticated"]
      ["subject", "issuer", "roles", "authenticated"] "approvalResult.decision.approver" = .ok () :=
    exactKeys_object _ (by simp) (by simp)
  have hr1 : record c.value "approvalResult" = .ok c.value := rfl
  have hr2 : record c.decisionValue "approvalResult.decision" = .ok c.decisionValue := rfl
  have hr3 : record c.approverValue "approvalResult.decision.approver" = .ok c.approverValue := rfl
  have hdecision : c.value.getPath ["decision"] = c.decisionValue := by
    simp [ApprovalCallback.value, getPath_cons, getPath_nil, List.lookup]
  have hid : c.value.getPath ["approvalId"] = .str c.approvalId := by
    simp [ApprovalCallback.value, getPath_cons, getPath_nil, List.lookup]
  have hanswer : decisionOf (c.decisionValue.getPath ["decision"]) = .ok c.decision := by
    have hname : c.decisionValue.getPath ["decision"] = c.decision.name := by
      simp [ApprovalCallback.decisionValue, getPath_cons, getPath_nil, List.lookup]
    rw [hname]
    cases c.decision <;> decide
  have happrover : c.decisionValue.getPath ["approver"] = c.approverValue := by
    simp [ApprovalCallback.decisionValue, getPath_cons, getPath_nil, List.lookup]
  have hat : c.decisionValue.getPath ["decidedAt"] = .str c.decidedAt := by
    simp [ApprovalCallback.decisionValue, getPath_cons, getPath_nil, List.lookup]
  have hsteward : holdsDataSteward c.approverValue = true := by
    simp [holdsDataSteward, ApprovalCallback.approverValue, getPath_cons, getPath_nil, List.lookup, lit,
      strictEq]
  have hissuer : c.approverValue.getPath ["issuer"] = .str c.issuer := by
    simp [ApprovalCallback.approverValue, getPath_cons, getPath_nil, List.lookup]
  have hsubject : c.approverValue.getPath ["subject"] = .str c.subject := by
    simp [ApprovalCallback.approverValue, getPath_cons, getPath_nil, List.lookup]
  rw [parseApprovalCallback, hr1, ok_bind, hk1, ok_bind, hdecision, hr2, ok_bind, hk2, ok_bind, hanswer,
    ok_bind, happrover, hr3, ok_bind, hk3, ok_bind, hsteward, hissuer, hid, hsubject, hat]
  rfl

/-- **A callback comes back exactly where its issuer is kept.** -/
theorem parseApprovalCallback_again_iff (hP : UrlFacts P) {c : ApprovalCallback} (h : CallbackKept P v c) :
    parseApprovalCallback P c.value = .ok c
      ↔ ∀ t url, issuerOf v = .str t → P.parseUrl t = some url → Settles url := by
  obtain ⟨t, url, hvalue, hurl, hissuer, hc⟩ := h.issuer
  have hsettles : (∀ t url, issuerOf v = .str t → P.parseUrl t = some url → Settles url)
      ↔ Settles url := by
    constructor
    · intro hall
      exact hall t url hvalue hurl
    · intro hurls t' url' hvalue' hurl'
      obtain rfl := Value.str.inj (hvalue.symm.trans hvalue')
      obtain rfl := Option.some.inj (hurl.symm.trans hurl')
      exact hurls
  have hid : identifier (.str c.approvalId) "approvalResult.approvalId" = .ok c.approvalId :=
    h.approvalId.again
  have hissuerAgain := @issuer_again_iff P hP t url "approvalResult.decision.approver.issuer" hurl hissuer
  rw [hsettles, ← hissuerAgain, ← hc, callback_again]
  constructor
  · intro hagain
    obtain ⟨issuer, hissuer', hagain⟩ := bind_eq_ok.mp hagain
    obtain rfl := Value.str.inj (stringValue_eq_ok.mp hissuer').1
    refine ⟨hissuer', ?_⟩
    split at hagain
    case h_1 => cases hagain
    case h_2 url' hurl' =>
      obtain ⟨_, hhttps, hagain⟩ := bind_eq_ok.mp hagain
      rw [hid, ok_bind, h.subject.1, ok_bind, h.decidedAt.1, ok_bind] at hagain
      exact ⟨url', hurl', isIssuer_iff.mp (invalidIf_eq_ok.mp hhttps),
        congrArg ApprovalCallback.issuer (Except.ok.inj hagain)⟩
  · rintro ⟨hissuer', url', hurl', hhttps, hkept⟩
    have hvalid : ∀ message, invalidIf (!(decide (url'.protocol = js "https:") && url'.username.isEmpty
        && url'.password.isEmpty && url'.hash.isEmpty)) message = .ok () := fun _ =>
      invalidIf_eq_ok.mpr (isIssuer_iff.mpr hhttps)
    rw [hissuer', ok_bind, hurl']
    dsimp only
    rw [hvalid, ok_bind, hid, ok_bind, h.subject.1, ok_bind, h.decidedAt.1, ok_bind, hkept]
    rfl

/-- What is known of a remediation that was parsed. -/
structure RemediationKept (P : WorkerPlatform) (v : Value) (m : RemediationQueueMessage) : Prop where
  callback : CallbackKept P (v.getPath ["approvalResult"]) m.approvalResult
  again : parseRemediationMessage P m.value = (do
    let callback ← parseApprovalCallback P m.approvalResult.value
    invalidIf (!decide (callback.approvalId = m.approvalId)) "approvalResult is not bound to approvalId."
    return ⟨m.taskToken, m.executionId, m.approvalId, m.planDigest, m.evidenceDigest, callback⟩)
  bound : m.approvalResult.approvalId = m.approvalId
  taskToken : Plain m.taskToken 0 1024
  executionId : Plain m.executionId 0 2048
  approvalId : Plain m.approvalId 0 160
  planDigest : Plain m.planDigest 0 71
  evidenceDigest : Plain m.evidenceDigest 0 71

theorem parseRemediationMessage_kept {m : RemediationQueueMessage}
    (h : parseRemediationMessage P v = .ok m) : RemediationKept P v m := by
  obtain ⟨_, -, h⟩ := bind_eq_ok.mp h
  obtain ⟨callback, hcallback, h⟩ := bind_eq_ok.mp h
  obtain ⟨approvalId, happroval, h⟩ := bind_eq_ok.mp h
  obtain ⟨_, hbound, h⟩ := bind_eq_ok.mp h
  obtain ⟨taskToken, htoken, h⟩ := bind_eq_ok.mp h
  obtain ⟨executionId, hexecution, h⟩ := bind_eq_ok.mp h
  obtain ⟨planDigest, hplan, h⟩ := bind_eq_ok.mp h
  obtain ⟨evidenceDigest, hevidence, h⟩ := bind_eq_ok.mp h
  obtain rfl := Except.ok.inj h
  have happroval := identifier_kept happroval
  have htoken := taskToken_kept htoken
  have hexecution := executionId_kept hexecution
  have hplan := digestText_kept hplan
  have hevidence := digestText_kept hevidence
  refine ⟨parseApprovalCallback_kept hcallback, ?_, by simpa using hbound, htoken.plain, hexecution.plain,
    happroval.plain, hplan.plain, hevidence.plain⟩
  generalize hm : RemediationQueueMessage.mk taskToken executionId approvalId planDigest evidenceDigest
    callback = m
  have hkeys : exactKeys m.value ["type", "taskToken", "executionId", "approvalId", "planDigest",
      "evidenceDigest", "approvalResult"] ["type", "taskToken", "executionId", "approvalId", "planDigest",
      "evidenceDigest", "approvalResult"] "REMEDIATION_REQUESTED" = .ok () :=
    exactKeys_object _ (by simp) (by simp)
  have hget : m.value.getPath ["approvalResult"] = m.approvalResult.value
      ∧ m.value.getPath ["approvalId"] = .str approvalId ∧ m.value.getPath ["taskToken"] = .str taskToken
      ∧ m.value.getPath ["executionId"] = .str executionId
      ∧ m.value.getPath ["planDigest"] = .str planDigest
      ∧ m.value.getPath ["evidenceDigest"] = .str evidenceDigest := by
    subst hm
    simp [RemediationQueueMessage.value, getPath_cons, getPath_nil, List.lookup]
  obtain ⟨h1, h2, h3, h4, h5, h6⟩ := hget
  rw [parseRemediationMessage, hkeys, ok_bind, h1]
  refine congrArg _ (funext fun c => ?_)
  rw [h2, happroval.again, ok_bind, h3, htoken.again, ok_bind, h4, hexecution.again, ok_bind, h5,
    hplan.again, ok_bind, h6, hevidence.again, ok_bind, ← hm]

/-- **A remediation comes back exactly where its issuer is kept.** -/
theorem parseRemediationMessage_again_iff (hP : UrlFacts P) {m : RemediationQueueMessage}
    (h : RemediationKept P v m) : parseRemediationMessage P m.value = .ok m
      ↔ ∀ t url, issuerOf (v.getPath ["approvalResult"]) = .str t → P.parseUrl t = some url →
        Settles url := by
  rw [h.again, ← parseApprovalCallback_again_iff hP h.callback]
  constructor
  · intro hagain
    obtain ⟨callback, hcallback, hagain⟩ := bind_eq_ok.mp hagain
    obtain ⟨_, -, hagain⟩ := bind_eq_ok.mp hagain
    have hsame : callback = m.approvalResult :=
      congrArg RemediationQueueMessage.approvalResult (Except.ok.inj hagain)
    rw [hcallback, hsame]
  · intro hagain
    have hbound : invalidIf (!decide (m.approvalResult.approvalId = m.approvalId))
        "approvalResult is not bound to approvalId." = .ok () :=
      invalidIf_eq_ok.mpr (by simp [h.bound])
    rw [hagain, ok_bind, hbound, ok_bind]
    rfl

end Remediations

/-! ## 6. Printed messages -/

section Bodies

variable {P : Platform}

/-- The members of the objects that a printed message is made of. -/
def PRINTED : List (List String) := [
  ["schemaVersion", "requestId", "requestedAt"],
  ["schemaVersion", "requestId", "requestedAt", "mode"],
  ["schemaVersion", "requestId", "requestedAt", "query"],
  ["schemaVersion", "requestId", "requestedAt", "query", "mode"],
  ["type", "taskToken", "executionId", "request"],
  ["type", "taskToken", "executionId", "approvalId", "planDigest", "evidenceDigest",
    "approvalRequestDigest", "requestedAt", "expiresAt"],
  ["subject", "issuer", "roles", "authenticated"],
  ["decision", "approver", "decidedAt"],
  ["approvalId", "decision"],
  ["type", "taskToken", "executionId", "approvalId", "planDigest", "evidenceDigest", "approvalResult"]]

theorem areNames_printed {names : List String} (h : names ∈ PRINTED) : areNames names = true := by
  have hall : PRINTED.all areNames = true := by decide +kernel
  exact List.all_eq_true.mp hall names h

theorem brief_request {r : AuditRequest} (h : RequestKept P r) : Brief r.value 6000 := by
  have hversion := brief_lit (s := "archon.audit-request/v1") (by decide)
  have hid := brief_str h.requestId
  have hat := brief_str h.requestedAt
  obtain ⟨requestId, requestedAt, query, mode⟩ := r
  have hmode : ∀ m : AuditMode, Brief m.name 386 := by
    intro m
    cases m with
    | READ_ONLY => exact brief_lit (by decide)
    | GOVERNED => exact brief_lit (by decide)
  cases query with
  | none =>
    cases mode with
    | none =>
      exact (brief_object ["schemaVersion", "requestId", "requestedAt"] rfl (areNames_printed (by simp [PRINTED]))
        (.cons hversion (.cons hid (.cons hat .nil)))).mono (by simp)
    | some m =>
      exact (brief_object ["schemaVersion", "requestId", "requestedAt", "mode"] rfl (areNames_printed (by simp [PRINTED]))
        (.cons hversion (.cons hid (.cons hat (.cons (hmode m) .nil))))).mono (by simp)
  | some q =>
    have hquery := brief_str (h.query q rfl)
    cases mode with
    | none =>
      exact (brief_object ["schemaVersion", "requestId", "requestedAt", "query"] rfl (areNames_printed (by simp [PRINTED]))
        (.cons hversion (.cons hid (.cons hat (.cons hquery .nil))))).mono (by simp)
    | some m =>
      exact (brief_object ["schemaVersion", "requestId", "requestedAt", "query", "mode"] rfl
        (areNames_printed (by simp [PRINTED]))
        (.cons hversion (.cons hid (.cons hat (.cons hquery (.cons (hmode m) .nil)))))).mono (by simp)

/-- An execution and what it is about. -/
theorem brief_audit {m : AuditQueueMessage} (h : AuditKept P m) : Brief m.value 30000 :=
  (brief_object ["type", "taskToken", "executionId", "request"] rfl (areNames_printed (by simp [PRINTED]))
    (.cons (brief_lit (by decide)) (.cons (brief_str h.taskToken) (.cons (brief_str h.executionId)
      (.cons (brief_request h.request) .nil))))).mono (by simp)

theorem brief_approval {m : ApprovalQueueMessage} (h : ApprovalKept P m) : Brief m.value 30000 :=
  (brief_object ["type", "taskToken", "executionId", "approvalId", "planDigest", "evidenceDigest",
      "approvalRequestDigest", "requestedAt", "expiresAt"] rfl (areNames_printed (by simp [PRINTED]))
    (.cons (brief_lit (by decide)) (.cons (brief_str h.taskToken) (.cons (brief_str h.executionId)
      (.cons (brief_str h.approvalId) (.cons (brief_str h.planDigest) (.cons (brief_str h.evidenceDigest)
        (.cons (brief_str h.approvalRequestDigest) (.cons (brief_str h.requestedAt)
          (.cons (brief_str h.expiresAt) .nil)))))))))).mono (by simp)

theorem brief_callback {P : WorkerPlatform} {v : Value} {c : ApprovalCallback} {k : Nat}
    (h : CallbackKept P v c) (hissuer : Plain c.issuer 0 k) : Brief c.value (6 * k + 6000) := by
  have hroles : Brief (.arr [lit "DataSteward"]) 388 := by
    have hrole := brief_lit (s := "DataSteward") (by decide)
    have hwritten : ∀ v ∈ [lit "DataSteward"], Value.Written v := by simp [hrole.written]
    refine ⟨⟨hrole.exact, trivial⟩, everywhere_arr.mpr ⟨trivial, hwritten⟩, ?_⟩
    rw [written_arr]
    decide
  have htrue : Brief (.bool true) 4 := ⟨trivial, trivial, by decide⟩
  have happrover : Brief c.approverValue (6 * k + 3000) :=
    (brief_object ["subject", "issuer", "roles", "authenticated"] rfl (areNames_printed (by simp [PRINTED]))
      (.cons (brief_str h.subject.2) (.cons (brief_str hissuer) (.cons hroles
        (.cons htrue .nil))))).mono (by simp; omega)
  have hname : Brief c.decision.name 386 := by
    cases c.decision with
    | APPROVE => exact brief_lit (by decide)
    | REJECT => exact brief_lit (by decide)
  have hdecision : Brief c.decisionValue (6 * k + 4000) :=
    (brief_object ["decision", "approver", "decidedAt"] rfl (areNames_printed (by simp [PRINTED]))
      (.cons hname (.cons happrover (.cons (brief_str h.decidedAt.2) .nil)))).mono (by simp; omega)
  exact (brief_object ["approvalId", "decision"] rfl (areNames_printed (by simp [PRINTED]))
    (.cons (brief_str h.approvalId.plain) (.cons hdecision .nil))).mono (by simp; omega)

theorem brief_remediation {P : WorkerPlatform} {v : Value} {m : RemediationQueueMessage} {k : Nat}
    (h : RemediationKept P v m) (hissuer : Plain m.approvalResult.issuer 0 k) :
    Brief m.value (6 * k + 30000) :=
  (brief_object ["type", "taskToken", "executionId", "approvalId", "planDigest", "evidenceDigest",
      "approvalResult"] rfl (areNames_printed (by simp [PRINTED]))
    (.cons (brief_lit (by decide)) (.cons (brief_str h.taskToken) (.cons (brief_str h.executionId)
      (.cons (brief_str h.approvalId) (.cons (brief_str h.planDigest) (.cons (brief_str h.evidenceDigest)
        (.cons (brief_callback h.callback hissuer) .nil)))))))).mono (by simp; omega)

end Bodies

/-! ## 7. The round trip -/

section RoundTrip

variable {P : WorkerPlatform} {kind : AsyncMessageKind} {body : Text} {m m' : WorkerQueueMessage} {n : Nat}

theorem parseQueueMessage_eq_ok : parseQueueMessage P kind body = .ok m ↔
    utf8Length body ≤ MAX_SQS_BODY_BYTES ∧ ∃ v, Ecma.parse body = some v
      ∧ parseMessageValue P kind v = .ok m := by
  unfold parseQueueMessage
  by_cases hlarge : MAX_SQS_BODY_BYTES < utf8Length body
  · rw [if_pos hlarge]
    refine iff_of_false (fun h => ?_) fun h => absurd h.1 (by omega)
    obtain ⟨_, h, -⟩ := bind_eq_ok.mp h
    cases h
  · rw [if_neg hlarge]
    cases hparse : Ecma.parse body with
    | none =>
      refine iff_of_false (fun h => ?_) ?_
      · cases h
      · rintro ⟨-, v, hv, -⟩
        cases hv
    | some v =>
      constructor
      · intro h
        exact ⟨by omega, v, rfl, h⟩
      · rintro ⟨-, w, hw, h⟩
        obtain rfl := Option.some.inj hw
        exact h

/-- A printed message is parsed as the value it was printed of. -/
theorem parse_body (h : Brief m.value n) : Ecma.parse m.body = some m.value
    ∧ utf8Length m.body ≤ n :=
  h.read

theorem parseQueueMessage_body (h : Brief m.value n) (hn : n ≤ MAX_SQS_BODY_BYTES) :
    parseQueueMessage P kind m.body = .ok m' ↔ parseMessageValue P kind m.value = .ok m' := by
  obtain ⟨hparse, hbytes⟩ := parse_body h
  rw [parseQueueMessage_eq_ok]
  constructor
  · rintro ⟨-, v, hv, h⟩
    obtain rfl := Option.some.inj (hparse.symm.trans hv)
    exact h
  · intro h
    exact ⟨hbytes.trans hn, m.value, hparse, h⟩

/-- **A message printed and parsed again is the message, exactly where its issuer is kept**: every audit
and every approval, and the remediations whose issuer has a URL that does not end in two slashes, and that
without a slash at its end is no longer than an issuer may be. -/
theorem parse_again_iff (hP : UrlFacts P) (h : parseQueueMessage P kind body = .ok m) :
    parseQueueMessage P kind m.body = .ok m ↔ ∀ v t url, kind = .remediation →
      Ecma.parse body = some v → issuerOf (v.getPath ["approvalResult"]) = .str t →
      P.parseUrl t = some url → Settles url := by
  obtain ⟨-, v, hv, h⟩ := parseQueueMessage_eq_ok.mp h
  obtain ⟨input, hinput, h⟩ := bind_eq_ok.mp h
  obtain rfl : v = input := by
    obtain ⟨_, -, hinput⟩ := bind_eq_ok.mp hinput
    exact Except.ok.inj hinput
  cases kind with
  | approval =>
    obtain ⟨_, -, h⟩ := bind_eq_ok.mp h
    obtain ⟨a, ha, h⟩ := bind_eq_ok.mp h
    obtain rfl := Except.ok.inj h
    have hkept := parseApprovalMessage_again ha
    refine iff_of_true ?_ fun _ _ _ hkind => by cases hkind
    have htype : a.value.getPath ["type"] = lit "APPROVAL_REQUESTED" := by
      simp [ApprovalQueueMessage.value, getPath_cons, getPath_nil, List.lookup]
    have hrecord : record a.value "message" = .ok a.value := rfl
    have hvalid : invalidIf (!(lit "APPROVAL_REQUESTED").isText (js "APPROVAL_REQUESTED"))
        "The approval queue accepts only APPROVAL_REQUESTED." = .ok () := by decide
    rw [parseQueueMessage_body (m := .approval a) (brief_approval hkept) (by decide)]
    show parseMessageValue P .approval a.value = _
    rw [parseMessageValue, hrecord, ok_bind]
    dsimp only
    rw [htype, hvalid, ok_bind, hkept.again]
    rfl
  | audit =>
    obtain ⟨_, -, h⟩ := bind_eq_ok.mp h
    obtain ⟨a, ha, h⟩ := bind_eq_ok.mp h
    obtain rfl := Except.ok.inj h
    have hkept := parseAuditMessage_again ha
    refine iff_of_true ?_ fun _ _ _ hkind => by cases hkind
    have htype : a.value.getPath ["type"] = lit "AUDIT_REQUESTED" := by
      simp [AuditQueueMessage.value, getPath_cons, getPath_nil, List.lookup]
    have hrecord : record a.value "message" = .ok a.value := rfl
    have hvalid : invalidIf (!(lit "AUDIT_REQUESTED").isText (js "AUDIT_REQUESTED"))
        "The audit queue accepts only AUDIT_REQUESTED." = .ok () := by decide
    rw [parseQueueMessage_body (m := .audit a) (brief_audit hkept) (by decide)]
    show parseMessageValue P .audit a.value = _
    rw [parseMessageValue, hrecord, ok_bind]
    dsimp only
    rw [htype, hvalid, ok_bind, hkept.again]
    rfl
  | remediation =>
    obtain ⟨_, -, h⟩ := bind_eq_ok.mp h
    obtain ⟨a, ha, h⟩ := bind_eq_ok.mp h
    obtain rfl := Except.ok.inj h
    have hkept := parseRemediationMessage_kept ha
    have htype : a.value.getPath ["type"] = lit "REMEDIATION_REQUESTED" := by
      simp [RemediationQueueMessage.value, getPath_cons, getPath_nil, List.lookup]
    have hrecord : record a.value "message" = .ok a.value := rfl
    have hvalid : invalidIf (!(lit "REMEDIATION_REQUESTED").isText (js "REMEDIATION_REQUESTED"))
        "The remediation queue accepts only REMEDIATION_REQUESTED." = .ok () := by decide
    have hvalue : parseMessageValue P .remediation (WorkerQueueMessage.remediation a).value
        = .ok (.remediation a) ↔ parseRemediationMessage P a.value = .ok a := by
      show parseMessageValue P .remediation a.value = _ ↔ _
      rw [parseMessageValue, hrecord, ok_bind]
      dsimp only
      rw [htype, hvalid, ok_bind]
      constructor
      · intro h
        obtain ⟨b, hb, h⟩ := bind_eq_ok.mp h
        rw [hb, WorkerQueueMessage.remediation.inj (Except.ok.inj h)]
      · intro h
        rw [h, ok_bind]
        rfl
    obtain ⟨t, url, hissuer, hurl, his, hc⟩ := hkept.callback.issuer
    have hcalm : ∀ u ∈ a.approvalResult.issuer, 0x20 ≤ u ∧ u ≠ 0x7F := by
      intro u hu
      refine hP.calm t url hurl u ?_
      rcases withoutTrailingSlash_cases url.href with ⟨s, hs, heq⟩ | ⟨-, heq⟩
      · rw [hs]
        exact List.mem_append_left _ (heq ▸ hc ▸ hu)
      · exact heq ▸ hc ▸ hu
    have hsettles : (∀ v' t' url', AsyncMessageKind.remediation = .remediation → Ecma.parse body = some v' →
        issuerOf (v'.getPath ["approvalResult"]) = .str t' → P.parseUrl t' = some url' → Settles url')
        ↔ ∀ t url, issuerOf (v.getPath ["approvalResult"]) = .str t → P.parseUrl t = some url →
          Settles url := by
      constructor
      · intro hall t url ht hurl
        exact hall v t url rfl hv ht hurl
      · intro hall v' t' url' _ hv' ht' hurl'
        obtain rfl := Option.some.inj (hv.symm.trans hv')
        exact hall t' url' ht' hurl'
    rw [hsettles, ← parseRemediationMessage_again_iff hP hkept, ← hvalue]
    constructor
    · intro h
      obtain ⟨-, w, hw, h⟩ := parseQueueMessage_eq_ok.mp h
      have hbrief := brief_remediation hkept ⟨Nat.zero_le _, le_refl _, hcalm⟩
      obtain rfl := Option.some.inj ((parse_body (m := .remediation a) hbrief).1.symm.trans hw)
      exact h
    · intro h
      have hurls := (parseRemediationMessage_again_iff hP hkept).mp (hvalue.mp h) t url hissuer hurl
      have hlength : a.approvalResult.issuer.length ≤ 2048 := hc ▸ hurls.length
      exact (parseQueueMessage_body (m := .remediation a)
        (brief_remediation hkept ⟨Nat.zero_le _, hlength, hcalm⟩) (by decide)).mpr h

end RoundTrip

/-! ## 8. Issuers with a path -/

/-- A unit of a host or of a path. -/
def isPathUnit (u : UInt16) : Bool := isLower u || isDigit u || u == 0x2E || u == 0x2F

/-- Node, its URLs cut down to `https:`, a host and a path without dots for names. -/
def WorkerPlatform.paths : WorkerPlatform where
  toPlatform := Platform.node
  parseUrl t :=
    let rest := t.drop 8
    if (js "https://").isPrefixOf t && rest.all isPathUnit && rest.head?.any (· != 0x2F) then
      some ⟨js "https:", [], [], [], if rest.contains 0x2F then t else t ++ [0x2F]⟩
    else none

/-- What is parsed is a scheme, a host and a path. -/
theorem parseUrl_paths {t : Text} {url : Url} : WorkerPlatform.paths.parseUrl t = some url ↔
    ∃ u rest, t = js "https://" ++ u :: rest ∧ u ≠ 0x2F ∧ (∀ w ∈ u :: rest, isPathUnit w = true)
      ∧ url = ⟨js "https:", [], [], [], if 0x2F ∈ rest then t else t ++ [0x2F]⟩ := by
  have hstart : (js "https://").length = 8 := by decide
  constructor
  · intro h
    simp only [WorkerPlatform.paths] at h
    split at h
    case isFalse => cases h
    case isTrue hvalid =>
      simp only [Bool.and_eq_true, List.isPrefixOf_iff_prefix] at hvalid
      obtain ⟨⟨⟨rest, rfl⟩, hall⟩, hhead⟩ := hvalid
      rw [← hstart, List.drop_left] at hall hhead h
      cases rest with
      | nil => cases hhead
      | cons u rest =>
        have hu : u ≠ 0x2F := by simpa using hhead
        refine ⟨u, rest, rfl, hu, List.all_eq_true.mp hall, ?_⟩
        rw [← Option.some.inj h]
        simp [hu.symm]
  · rintro ⟨u, rest, rfl, hu, hall, rfl⟩
    simp only [WorkerPlatform.paths]
    rw [← hstart, List.drop_left, if_pos]
    · simp [hu.symm]
    · simp only [Bool.and_eq_true, List.isPrefixOf_iff_prefix, List.prefix_append, List.all_eq_true]
      exact ⟨⟨trivial, hall⟩, by simpa using hu⟩

theorem calm_of_isPathUnit {u : UInt16} (h : isPathUnit u = true) : 0x20 ≤ u ∧ u ≠ 0x7F := by
  simp only [isPathUnit, isLower, isDigit, Bool.or_eq_true, Bool.and_eq_true, decide_eq_true_eq,
    beq_iff_eq, UInt16.le_iff_toNat_le, ← UInt16.toNat_inj, UInt16.reduceToNat] at h
  simp only [UInt16.le_iff_toNat_le, ne_eq, ← UInt16.toNat_inj, UInt16.reduceToNat]
  omega

theorem urlFacts_paths : UrlFacts .paths where
  reparse t url h _ := by
    obtain ⟨u, rest, rfl, hu, hall, rfl⟩ := parseUrl_paths.mp h
    rw [parseUrl_paths]
    by_cases hslash : 0x2F ∈ rest
    · rw [if_pos hslash]
      exact ⟨u, rest, rfl, hu, hall, by rw [if_pos hslash]⟩
    · rw [if_neg hslash]
      refine ⟨u, rest ++ [0x2F], by rw [List.append_assoc, List.cons_append], hu, ?_, ?_⟩
      · intro w hw
        rw [← List.cons_append] at hw
        rcases List.mem_append.mp hw with hw | hw
        · exact hall w hw
        · rw [List.mem_singleton.mp hw]
          decide
      · rw [if_pos (List.mem_append_right _ List.mem_cons_self)]
  unslash t url s h _ _ hs := by
    obtain ⟨u, rest, rfl, hu, hall, rfl⟩ := parseUrl_paths.mp h
    dsimp only at hs ⊢
    by_cases hslash : 0x2F ∈ rest
    · rw [if_pos hslash] at hs ⊢
      -- The slash is the last unit of the path, for the host begins with another.
      obtain ⟨path, rfl⟩ : ∃ path, rest = path ++ [0x2F] := by
        have hlast : (js "https://" ++ u :: rest).getLast? = some 0x2F := by
          rw [hs, List.getLast?_concat]
        rw [List.getLast?_append_of_ne_nil _ (List.cons_ne_nil _ _), List.getLast?_cons] at hlast
        cases hrest : rest.getLast? with
        | none => simp [List.getLast?_eq_none_iff.mp hrest] at hslash
        | some w =>
          rw [hrest, Option.getD_some] at hlast
          rw [Option.some.inj hlast] at hrest
          exact List.getLast?_eq_some_iff.mp hrest
      have heq : s = js "https://" ++ u :: path := by
        rw [← List.cons_append, ← List.append_assoc] at hs
        exact (List.append_cancel_right hs).symm
      refine ⟨_, parseUrl_paths.mpr ⟨u, path, heq, hu, fun w hw => hall w ?_, rfl⟩, rfl, rfl, rfl, rfl, ?_⟩
      · rw [← List.cons_append]
        exact List.mem_append_left _ hw
      · by_cases hpath : 0x2F ∈ path
        · exact Or.inl (if_pos hpath)
        · refine Or.inr ⟨?_, ?_⟩
          · rw [if_neg hpath, hs]
          · rw [heq, List.getLast?_append_of_ne_nil _ (List.cons_ne_nil _ _)]
            intro hlast
            rcases List.mem_cons.mp (List.mem_of_getLast? hlast) with hlast | hlast
            · exact hu hlast.symm
            · exact hpath hlast
    · rw [if_neg hslash] at hs ⊢
      obtain rfl := List.append_cancel_right hs
      refine ⟨_, h, rfl, rfl, rfl, rfl, Or.inr ⟨if_neg hslash, ?_⟩⟩
      rw [List.getLast?_append_of_ne_nil _ (List.cons_ne_nil _ _)]
      intro hlast
      rcases List.mem_cons.mp (List.mem_of_getLast? hlast) with hlast | hlast
      · exact hu hlast.symm
      · exact hslash hlast
  calm t url h := by
    obtain ⟨u, rest, rfl, hu, hall, rfl⟩ := parseUrl_paths.mp h
    have hstart : ((js "https://").all fun w => decide (0x20 ≤ w ∧ w ≠ 0x7F)) = true := by decide
    have hwhole : ∀ w ∈ js "https://" ++ u :: rest, 0x20 ≤ w ∧ w ≠ 0x7F := by
      intro w hw
      rcases List.mem_append.mp hw with hw | hw
      · exact of_decide_eq_true (List.all_eq_true.mp hstart w hw)
      · exact calm_of_isPathUnit (hall w hw)
    intro w hw
    dsimp only at hw
    split at hw
    · exact hwhole w hw
    · rcases List.mem_append.mp hw with hw | hw
      · exact hwhole w hw
      · rw [List.mem_singleton.mp hw]
        decide
  length t url h _ := by
    obtain ⟨u, rest, rfl, hu, hall, rfl⟩ := parseUrl_paths.mp h
    have hstart : (js "https://").length = 8 := by decide
    dsimp only
    split
    · rw [List.length_append, hstart, List.length_cons]
      omega
    · rw [List.length_append, List.length_append, hstart, List.length_cons]
      omega

/-- The body of a remediation with an issuer. -/
def remediationBody (issuer : String) : Text :=
  (stringify (object [("type", lit "REMEDIATION_REQUESTED"),
    ("taskToken", lit "opaque-remediation-task-token-0001"),
    ("executionId", lit "arn:aws:states:us-east-1:123456789012:execution:remediate:run-0001"),
    ("approvalId", lit "approval-1"),
    ("planDigest", lit "sha256:0000000000000000000000000000000000000000000000000000000000000000"),
    ("evidenceDigest", lit "sha256:1111111111111111111111111111111111111111111111111111111111111111"),
    ("approvalResult", object [("approvalId", lit "approval-1"),
      ("decision", object [("decision", lit "APPROVE"),
        ("approver", object [("subject", lit "steward"), ("issuer", lit issuer),
          ("roles", .arr [lit "DataSteward"]), ("authenticated", .bool true)]),
        ("decidedAt", lit "2026-07-14T10:05:00.000Z")])])])).getD []

/-- The issuer that a message comes with, if it is one. -/
def readIssuer (body : Text) : Option Text :=
  match parseQueueMessage .paths .remediation body with
  | .ok (.remediation m) => some m.approvalResult.issuer
  | _ => none

/-- The issuer that its message comes with when it is sent again. -/
def rereadIssuer (body : Text) : Option Text :=
  match parseQueueMessage .paths .remediation body with
  | .ok m => readIssuer m.body
  | _ => none

theorem exists_of_readIssuer {body issuer : Text} (h : readIssuer body = some issuer) :
    ∃ m, parseQueueMessage .paths .remediation body = .ok (.remediation m)
      ∧ m.approvalResult.issuer = issuer ∧ rereadIssuer body = readIssuer (WorkerQueueMessage.remediation m).body := by
  unfold readIssuer at h
  split at h
  case h_1 m hm => exact ⟨m, hm, Option.some.inj h, by rw [rereadIssuer, hm]⟩
  case h_2 => cases h

/-- Where the issuer of the body stands, if it is a text. -/
def issuerText (body : Text) : Option Text :=
  match (Ecma.parse body).map fun v => issuerOf (v.getPath ["approvalResult"]) with
  | some (.str t) => some t
  | _ => none

/-- What the two bodies below are read as, and the second once more. -/
theorem bodies_read :
    (readIssuer (remediationBody "https://idp.example.test/tenant/")
        = some (js "https://idp.example.test/tenant")
      ∧ issuerText (remediationBody "https://idp.example.test/tenant/")
        = some (js "https://idp.example.test/tenant/"))
    ∧ readIssuer (remediationBody "https://idp.example.test//") = some (js "https://idp.example.test/")
      ∧ rereadIssuer (remediationBody "https://idp.example.test//")
        = some (js "https://idp.example.test")
      ∧ ∀ url ∈ WorkerPlatform.paths.parseUrl (js "https://idp.example.test/tenant/"),
        ¬js "//" <:+ url.href ∧ (withoutTrailingSlash url.href).length ≤ 2048 := by
  simp only [remediationBody, object, lit, List.map_cons, List.map_nil]
  repeat rw [js_ofList]
  constructor
  · decide +kernel
  · decide +kernel

/-- An issuer with a path and a slash after it is kept. -/
theorem parse_again_path : ∃ m,
    parseQueueMessage .paths .remediation (remediationBody "https://idp.example.test/tenant/") = .ok m
      ∧ parseQueueMessage .paths .remediation m.body = .ok m := by
  obtain ⟨⟨hread, hissuer⟩, -, -, hsettles⟩ := bodies_read
  obtain ⟨m, hm, -⟩ := exists_of_readIssuer hread
  refine ⟨_, hm, (parse_again_iff urlFacts_paths hm).mpr ?_⟩
  intro v t url _ hv ht hurl
  rw [issuerText, hv, Option.map_some, ht] at hissuer
  rw [Option.some.inj hissuer] at hurl
  obtain ⟨hslashes, hlength⟩ := hsettles url hurl
  exact ⟨hslashes, hlength⟩

/-- **Of two slashes one is taken away each time**: a remediation that is accepted is another message when
it is sent again. -/
theorem issuer_with_two_slashes : ∃ m,
    parseQueueMessage .paths .remediation (remediationBody "https://idp.example.test//") = .ok m
      ∧ parseQueueMessage .paths .remediation m.body ≠ .ok m := by
  obtain ⟨-, hread, hagain, -⟩ := bodies_read
  obtain ⟨m, hm, hissuer, hreread⟩ := exists_of_readIssuer hread
  refine ⟨_, hm, ?_⟩
  intro hsame
  rw [hreread, readIssuer, hsame] at hagain
  have heq : js "https://idp.example.test/" = js "https://idp.example.test" :=
    hissuer.symm.trans (Option.some.inj hagain)
  exact absurd heq (by decide)

end Worker
