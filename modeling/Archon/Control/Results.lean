/-
# What the control function makes of the results

The two jobs after the mutation are answered by results that the adapter builds: of the second read,
and of the second analysis.  The control function takes them from the table again (`received`) and
compares the tags with those that the plan expects.

A run whose column carried no tag but the one that is added is served to its end; any other is
refused by the adapter, after the mutation (`served_iff`).
-/
import Archon.Control.Accepted
import Archon.Jobs.Runs

namespace Control

open Ecma Ecma.Value Remediation Resumption Resumption.Program

/-! ## 1. What is read back -/

/-- `Number` of what the table holds as a number, where it is finite. -/
def receivedNumber (numeral : Text) : Option Value :=
  if (Number.ofText numeral).isFinite then some (.num (Number.ofText numeral)) else none

mutual

/-- What `fromAttribute` returns of what boto3 wrote.  It does not write a `float`. -/
def received : Jobs.Py → Option Value
  | .none => some .null
  | .bool b => some (.bool b)
  | .int n => receivedNumber (Jobs.intText n)
  | .float _ _ => none
  | .decimal numeral => receivedNumber numeral
  | .str t => some (.str t)
  | .list items => (receivedItems items).map .arr
  | .dict fields => (receivedFields fields).map .obj

/-- The elements of a list. -/
def receivedItems : List Jobs.Py → Option (List Value)
  | [] => some []
  | v :: vs => do
    let w ← received v
    let ws ← receivedItems vs
    return w :: ws

/-- The members of a dict. -/
def receivedFields : List (Text × Jobs.Py) → Option (List (Text × Value))
  | [] => some []
  | (k, v) :: fs => do
    let w ← received v
    let ws ← receivedFields fs
    return (k, w) :: ws

end

theorem received_texts (ts : List Text) :
    received (.list (ts.map Jobs.Py.str)) = some (texts ts) := by
  have hitems : receivedItems (ts.map Jobs.Py.str) = some (ts.map .str) := by
    induction ts with
    | nil => rfl
    | cons t ts ih => simp [receivedItems, received, ih]
  rw [received, hitems, Option.map_some, texts]

/-- An object literal is read back member by member. -/
theorem received_object {fields : List (String × Jobs.Py)} {members : List (String × Value)}
    (h : List.Forall₂ (fun f m => f.1 = m.1 ∧ received f.2 = some m.2) fields members) :
    received (.object fields) = some (object members) := by
  have hfields : receivedFields (fields.map fun f => (js f.1, f.2))
      = some (members.map fun m => (js m.1, m.2)) := by
    induction h with
    | nil => rfl
    | cons hf hfs ih =>
      obtain ⟨hname, hvalue⟩ := hf
      simp [receivedFields, hvalue, hname, ih]
  rw [Jobs.Py.object, received, hfields, Option.map_some, object]

/-! ## 2. The second read -/

section Read

variable {P : Platform} {S : Jobs.Settings} {run : Run} {prepared : Prepared} {receiptDigest : Text}

/-- Every answer about the dataset shows the column with the tags. -/
def Shows (column : Text) (tags : List Text) (h : Jobs.CallHistory) : Prop :=
  ∀ arguments raw, (⟨.mcp "get_entities" arguments, .ok raw⟩ : Event Jobs.Call Jobs.Call.Reply) ∈ h →
    Jobs.sortedTags (Jobs.walk column raw false).2 = tags

/-- What `_read_tags` returns of a state. -/
def readResult (entity column : Text) (tags : List Text) (stateDigest : Text) :
    List (String × Jobs.Py) :=
  [("schemaVersion", .lit "archon.core-tag-read-result/v1"), ("entityUrn", .str entity),
    ("columnPath", .str column), ("tagUrns", .list (tags.map .str)),
    ("stateDigest", .str stateDigest)]

/-- A state that Python digests. -/
def stateOf (entity column : Text) (tags : List Text) : Jobs.Py :=
  .object [("entityUrn", .str entity), ("columnPath", .str column), ("tagUrns", .list (tags.map .str))]

theorem stored_stateFields (entity column : Text) (tags : List Text) :
    stored (object (stateFields entity column tags)) = stateOf entity column tags := by
  simp [stateFields, stateOf]

theorem digestOf_eq_ok {v : Jobs.Py} {d : Text} :
    Jobs.digestOf S v = .ok d ↔ Jobs.digest S.P v = some d := by
  unfold Jobs.digestOf
  cases Jobs.digest S.P v <;> simp

/-- **What a read returns** is the state that the answer showed. -/
theorem readTags_obeys (entity column : Text) (tags : List Text) {h : Jobs.CallHistory} :
    Obeys (fun _ _ => True) (fun h' r => ∀ live, r = .ok live → Shows column tags h' →
      ∃ d, Jobs.digest S.P (stateOf entity column tags) = some d ∧
        live = .object (readResult entity column tags d)) h (Jobs.readTags S entity column) := by
  unfold Jobs.readTags
  refine obeys_perform trivial fun answer => obeys_lift (fun raw hraw => ?_) fun _ => nofun
  refine obeys_lift (fun _ _ => ?_) fun _ => nofun
  have hanswer : answer = .ok raw := by
    cases answer with
    | error e => cases hraw
    | ok v => exact congrArg Except.ok (Except.ok.inj hraw)
  subst hanswer
  refine obeys_lift (fun _ _ => ?_) fun _ => nofun
  refine obeys_lift (fun state hstate => ?_) fun _ => nofun
  intro live hlive hshows
  have htags := hshows _ raw (List.mem_append_right _ List.mem_cons_self)
  rw [Jobs.tagState, htags] at hstate
  obtain ⟨d, hd, hstate⟩ := Jobs.bind_eq_ok.mp hstate
  obtain rfl := Except.ok.inj hstate
  obtain rfl := Except.ok.inj hlive
  refine ⟨d, digestOf_eq_ok.mp hd, ?_⟩
  simp [readResult, List.lookup]

/-- What the adapter makes of a job after the mutation. -/
def postResult (schemaVersion : String) (run : Run) (prepared : Prepared) (receiptDigest : Text)
    (result : Jobs.Py) (resultDigest : Text) : List (String × Jobs.Py) :=
  [("schemaVersion", .lit schemaVersion), ("sourceMutationAuditId", .str run.auditId),
    ("sourceMutationReceiptDigest", .str receiptDigest),
    ("postMutationExpectedTagState", stored prepared.expectedAfter.value),
    ("postMutationResult", result), ("postMutationResultDigest", .str resultDigest)]

/-- **What is returned of the second read** carries the state that was read. -/
theorem postRead_obeys (hp : PlanFits S.P run prepared) :
    Obeys (fun _ _ => True) (fun h r => ∀ result, r = .ok result →
      Shows run.governedColumnPath prepared.expectedAfter.tagUrns h →
      ∃ d e, Jobs.digest S.P (stateOf run.datasetUrn run.governedColumnPath
          prepared.expectedAfter.tagUrns) = some d ∧
        Jobs.digest S.P (.object (readResult run.datasetUrn run.governedColumnPath
          prepared.expectedAfter.tagUrns d)) = some e ∧
        result = .object (postResult "archon.core-post-mutation-tag-read-result/v1" run prepared
          receiptDigest (.object (readResult run.datasetUrn run.governedColumnPath
            prepared.expectedAfter.tagUrns d)) e)) []
      (Jobs.postMutation S false (stored (readRequest run prepared receiptDigest))) := by
  have hrequest := stored_post "archon.core-post-mutation-tag-read/v1" (readTagsRequest run) run
    prepared receiptDigest
  have hstate := stored_state prepared.expectedAfter
  have hentity : Jobs.textOf ((stored prepared.expectedAfter.value).get "entityUrn")
      = run.datasetUrn := by
    rw [hstate]
    simp [Jobs.textOf, List.lookup, hp.entityUrn]
  have hcolumn : Jobs.textOf ((stored prepared.expectedAfter.value).get "columnPath")
      = run.governedColumnPath := by
    rw [hstate]
    simp [Jobs.textOf, List.lookup, hp.columnPath]
  have hexpected : (stored (readRequest run prepared receiptDigest)).get
      "postMutationExpectedTagState" = stored prepared.expectedAfter.value := by
    change (stored (postRequest _ _ _ _ _)).get _ = _
    rw [hrequest]
    simp [List.lookup]
  have hsource : (stored (readRequest run prepared receiptDigest)).get "sourceMutationAuditId"
      = .str run.auditId := by
    change (stored (postRequest _ _ _ _ _)).get _ = _
    rw [hrequest]
    simp [List.lookup]
  have hreceipt : (stored (readRequest run prepared receiptDigest)).get
      "sourceMutationReceiptDigest" = .str receiptDigest := by
    change (stored (postRequest _ _ _ _ _)).get _ = _
    rw [hrequest]
    simp [List.lookup]
  unfold Jobs.postMutation
  rw [hexpected, hsource, hreceipt]
  dsimp only
  rw [hentity, hcolumn]
  refine obeys_lift (fun _ _ => ?_) fun _ => nofun
  refine obeys_bind.mpr ((readTags_obeys run.datasetUrn run.governedColumnPath
    prepared.expectedAfter.tagUrns).mono (fun _ _ h => h) fun h r hlive => ?_)
  cases r with
  | error e => exact nofun
  | ok live =>
    refine obeys_lift (fun _ _ => ?_) fun _ => nofun
    change Obeys _ _ _ (lift (Jobs.digestOf S live) >>= _)
    refine obeys_lift (fun e he => ?_) fun _ => nofun
    intro result hresult hshows
    obtain ⟨d, hd, rfl⟩ := hlive live rfl hshows
    obtain rfl := Except.ok.inj hresult
    exact ⟨d, e, hd, digestOf_eq_ok.mp he, rfl⟩

/-- The state that is read back of a read. -/
def readValue (entity column : Text) (tags : List Text) (stateDigest : Text) :
    List (String × Value) :=
  [("schemaVersion", lit "archon.core-tag-read-result/v1"), ("entityUrn", .str entity),
    ("columnPath", .str column), ("tagUrns", texts tags), ("stateDigest", .str stateDigest)]

theorem received_readResult (entity column : Text) (tags : List Text) (d : Text) :
    received (.object (readResult entity column tags d)) = some (object (readValue entity column tags d)) := by
  have hstr : ∀ t, received (.str t) = some (.str t) := fun t => by rw [received]
  exact received_object (.cons ⟨rfl, hstr _⟩ (.cons ⟨rfl, hstr _⟩ (.cons ⟨rfl, hstr _⟩
    (.cons ⟨rfl, received_texts tags⟩ (.cons ⟨rfl, hstr _⟩ .nil)))))

theorem stored_readValue (entity column : Text) (tags : List Text) (d : Text) :
    stored (object (readValue entity column tags d)) = .object (readResult entity column tags d) := by
  simp [readValue, readResult]

theorem received_state (s : TagState) : received (stored s.value) = some s.value := by
  have hstr : ∀ t, received (.str t) = some (.str t) := fun t => by rw [received]
  rw [stored_state]
  exact received_object (.cons ⟨rfl, hstr _⟩ (.cons ⟨rfl, hstr _⟩
    (.cons ⟨rfl, received_texts s.tagUrns⟩ (.cons ⟨rfl, hstr _⟩ .nil))))

/-- A result as it is read back. -/
def postValue (schemaVersion : String) (run : Run) (prepared : Prepared) (receiptDigest : Text)
    (result : Value) (resultDigest : Text) : List (String × Value) :=
  [("schemaVersion", lit schemaVersion), ("sourceMutationAuditId", .str run.auditId),
    ("sourceMutationReceiptDigest", .str receiptDigest),
    ("postMutationExpectedTagState", prepared.expectedAfter.value), ("postMutationResult", result),
    ("postMutationResultDigest", .str resultDigest)]

theorem received_postResult {schemaVersion : String} {result : Jobs.Py} {w : Value} {e : Text}
    (hw : received result = some w) :
    received (.object (postResult schemaVersion run prepared receiptDigest result e))
      = some (object (postValue schemaVersion run prepared receiptDigest w e)) := by
  have hstr : ∀ t, received (.str t) = some (.str t) := fun t => by rw [received]
  exact received_object (.cons ⟨rfl, hstr _⟩ (.cons ⟨rfl, hstr _⟩ (.cons ⟨rfl, hstr _⟩
    (.cons ⟨rfl, received_state _⟩ (.cons ⟨rfl, hw⟩ (.cons ⟨rfl, hstr _⟩ .nil))))))

theorem canonical_state (h : RunFits run) (hp : PlanFits P run prepared)
    (hafter : prepared.expectedAfter.tagUrns = [PII_TAG]) :
    ∃ t, canonicalize prepared.expectedAfter.value = some t := by
  have htag : Jobs.encodable PII_TAG = true := Jobs.encodable_js _
  refine Option.isSome_iff_exists.mp (canonicalize_isSome (plain_object
    (by simp only [stateFields, List.cons_append, List.nil_append, List.map_cons, List.map_nil]
        decide) ?_))
  simp [stateFields, hafter, htag, hp.entityUrn, hp.columnPath, h.dataset_fits.encodable,
    h.column_fits.encodable, (fits_isDigest (isDigest_digest hp.after_digest)).encodable]

/-- A state that was read, with its digest. -/
theorem tagState_read {run : Run} {tags : List Text} {d : Text} (hvalid : tagsValid tags = true)
    (hdigest : digest P (object (stateFields run.datasetUrn run.governedColumnPath tags)) = some d) :
    tagState P (object (readValue run.datasetUrn run.governedColumnPath tags d)) run
      = some ⟨run.datasetUrn, run.governedColumnPath, tags, d⟩ := by
  have hkeys : (object (readValue run.datasetUrn run.governedColumnPath tags d)).exactKeys
      ["schemaVersion", "entityUrn", "columnPath", "tagUrns", "stateDigest"] = true :=
    exactKeys_object (.refl _)
  simp only [readValue] at hkeys ⊢
  simp [tagState, getPath_cons, getPath_nil, List.lookup, texts, hvalid, hdigest]
  exact hkeys

theorem tagState_expected (hp : PlanFits P run prepared)
    (hafter : prepared.expectedAfter.tagUrns = [PII_TAG]) :
    tagState P (object (readValue run.datasetUrn run.governedColumnPath
        prepared.expectedAfter.tagUrns prepared.expectedAfter.stateDigest)) run
      = some prepared.expectedAfter := by
  have hvalid : tagsValid prepared.expectedAfter.tagUrns = true := by
    rw [hafter]
    decide
  rw [tagState_read hvalid hp.after_digest, ← hp.entityUrn, ← hp.columnPath]

/-- **A result that carries the expected state is verified.** -/
theorem verified_of_read (h : RunFits run) (hp : PlanFits S.P run prepared)
    (hafter : prepared.expectedAfter.tagUrns = [PII_TAG]) {d e : Text}
    (hd : Jobs.digest S.P (stateOf run.datasetUrn run.governedColumnPath
      prepared.expectedAfter.tagUrns) = some d)
    (he : Jobs.digest S.P (.object (readResult run.datasetUrn run.governedColumnPath
      prepared.expectedAfter.tagUrns d)) = some e) :
    ∃ v, received (.object (postResult "archon.core-post-mutation-tag-read-result/v1" run prepared
        receiptDigest (.object (readResult run.datasetUrn run.governedColumnPath
          prepared.expectedAfter.tagUrns d)) e)) = some v ∧
      governedStateVerified S.P run prepared receiptDigest v = true := by
  have htag : Jobs.encodable PII_TAG = true := Jobs.encodable_js _
  have hstate : Plain (object (stateFields run.datasetUrn run.governedColumnPath
      prepared.expectedAfter.tagUrns)) := by
    refine plain_object (by simp only [stateFields, List.map_cons, List.map_nil]; decide) ?_
    simp [stateFields, hafter, htag, h.dataset_fits.encodable, h.column_fits.encodable]
  -- Python and the control function digest the state alike.
  rw [← stored_stateFields, digest_stored S.P hstate, hp.after_digest] at hd
  obtain rfl := Option.some.inj hd
  have hread : Plain (object (readValue run.datasetUrn run.governedColumnPath
      prepared.expectedAfter.tagUrns prepared.expectedAfter.stateDigest)) := by
    refine plain_object (by simp only [readValue, List.map_cons, List.map_nil]; decide) ?_
    simp [readValue, hafter, htag, h.dataset_fits.encodable, h.column_fits.encodable,
      (fits_isDigest (isDigest_digest hp.after_digest)).encodable]
  rw [← stored_readValue, digest_stored S.P hread] at he
  refine ⟨_, received_postResult (received_readResult _ _ _ _), ?_⟩
  obtain ⟨t, ht⟩ := canonical_state h hp hafter
  have hsame := same_self ht
  have hraw : postMutationResult S.P (object (postValue
      "archon.core-post-mutation-tag-read-result/v1" run prepared receiptDigest
        (object (readValue run.datasetUrn run.governedColumnPath prepared.expectedAfter.tagUrns
          prepared.expectedAfter.stateDigest)) e))
      "archon.core-post-mutation-tag-read-result/v1" run prepared receiptDigest
      = some (object (readValue run.datasetUrn run.governedColumnPath
        prepared.expectedAfter.tagUrns prepared.expectedAfter.stateDigest)) := by
    have hkeys : (object (postValue "archon.core-post-mutation-tag-read-result/v1" run prepared
        receiptDigest (object (readValue run.datasetUrn run.governedColumnPath
          prepared.expectedAfter.tagUrns prepared.expectedAfter.stateDigest)) e)).exactKeys
        ["schemaVersion", "sourceMutationAuditId", "sourceMutationReceiptDigest",
          "postMutationExpectedTagState", "postMutationResult", "postMutationResultDigest"] = true :=
      exactKeys_object (.refl _)
    simp only [postValue] at hkeys ⊢
    simp [postMutationResult, getPath_cons, getPath_nil, List.lookup, hkeys, hsame, he]
  rw [governedStateVerified, hraw]
  dsimp only
  rw [tagState_expected hp hafter]
  simp [hsame, hafter]

/-- Every result carries the state of its request. -/
theorem postMutation_obeys (S : Jobs.Settings) (analyze : Bool) (request : Jobs.Py) :
    Obeys (fun _ _ => True) (fun _ r => ∀ result, r = .ok result →
      result.get "postMutationExpectedTagState" = request.get "postMutationExpectedTagState") []
      (Jobs.postMutation S analyze request) := by
  unfold Jobs.postMutation
  refine obeys_lift (fun _ _ => ?_) fun _ => nofun
  refine obeys_bind_any (fun _ live => ?_) fun _ _ => nofun
  refine obeys_lift (fun _ _ => ?_) fun _ => nofun
  cases analyze with
  | false =>
    change Obeys _ _ _ (lift (Jobs.digestOf S live) >>= _)
    refine obeys_lift (fun d _ => ?_) fun _ => nofun
    intro result hresult
    obtain rfl := Except.ok.inj hresult
    simp [List.lookup]
  | true =>
    refine obeys_bind_any (p := Jobs.companion _ _) (fun _ postResult => ?_) fun _ _ => nofun
    refine obeys_lift (fun d _ => ?_) fun _ => nofun
    intro result hresult
    obtain rfl := Except.ok.inj hresult
    simp [List.lookup]

end Read

/-! ## 3. A run, from its first read to its last -/

/-- The tags that were read. -/
def ReadReceipt.tags (read : ReadReceipt) : List Text :=
  match read.result.getPath ["tagUrns"] with
  | .arr items => (asTexts items).getD []
  | _ => []

theorem tagState_tags {P : Platform} {read : ReadReceipt} {run : Run} {s : TagState}
    (h : tagState P read.result run = some s) : s.tagUrns = read.tags := by
  unfold tagState at h
  unfold ReadReceipt.tags
  split at h
  · rename_i items stateDigest hitems hdigest
    rw [hitems]
    split at h
    · rename_i tags htags
      split at h
      · obtain rfl := Option.some.inj h
        simp [htags]
      · cases h
    · cases h
  · cases h

theorem planFor_before {P : Platform} {run : Run} {analysis : AnalysisReceipt} {read : ReadReceipt}
    {improve : ImproveReceipt} {prepared : Prepared}
    (h : planFor P run analysis read improve = some prepared) :
    prepared.before.tagUrns = read.tags := by
  simp only [planFor, Option.bind_eq_bind, Option.bind_eq_some_iff] at h
  obtain ⟨before, hbefore, afterDigest, -, policyDigest, -, evidenceDigest, -, planDigest, -,
    completed, -, lease, -, h⟩ := h
  obtain rfl := Option.some.inj h
  exact tagState_tags hbefore

/-- **A governed run whose column has been mutated**, with what the control function accepted on the
way. -/
structure Dispatched (P : Platform) where
  inputs : Inputs
  signer : Signer
  run : Run
  analysis : AnalysisReceipt
  read : ReadReceipt
  improve : ImproveReceipt
  prepared : Prepared
  decision : Decision
  issuedAt : Int
  signatureBase64 : Text
  /-- The request of the mutation. -/
  request : Value
  /-- `receiptDigest` of the receipt of the mutation. -/
  receiptDigest : Text
  core : run.binding.profileId = js "core"
  verified : verifyAuditRecord P inputs run = true
  planned : planFor P run analysis read improve = some prepared
  decided : verifyApprovalEnvelope P decision = true
  requested : mutationRequest P run prepared signer decision issuedAt signatureBase64 = some request
  receipt_form : Jobs.isDigest receiptDigest = true

section Served

variable {P : Platform}

/-- The adapter takes every request of the run, and what it makes of the state that was approved
passes the comparison of the tags. -/
structure Served (d : Dispatched P) : Prop where
  readTags : Accepts P "READ_TAGS" (readTagsRequest d.run)
  mutation : Accepts P "GOVERNED_TAG_MUTATION" d.request
  analyze : Accepts P "POST_ANALYZE" (analysisRequest d.run d.prepared d.receiptDigest)
  readAgain : Accepts P "POST_READ_TAGS" (readRequest d.run d.prepared d.receiptDigest)
  analyzed : ∀ S : Jobs.Settings, S.P = P → ∀ h result,
    Reaches (Jobs.postMutation S true (stored (analysisRequest d.run d.prepared d.receiptDigest))) h
      (.done (.ok result)) →
    Shows d.run.governedColumnPath d.prepared.expectedAfter.tagUrns h →
    ∃ v, received (result.get "postMutationExpectedTagState") = some v ∧
      same v d.prepared.expectedAfter.value = true
  verified : ∀ S : Jobs.Settings, S.P = P → ∀ h result,
    Reaches (Jobs.postMutation S false (stored (readRequest d.run d.prepared d.receiptDigest))) h
      (.done (.ok result)) →
    Shows d.run.governedColumnPath d.prepared.expectedAfter.tagUrns h →
    ∃ v, received result = some v ∧
      governedStateVerified P d.run d.prepared d.receiptDigest v = true

theorem Dispatched.planFits (d : Dispatched P) : PlanFits P d.run d.prepared := planFor_fits d.planned

theorem Dispatched.runFits (d : Dispatched P) : RunFits d.run := run_fits d.verified

/-- The state that is expected holds no other tag. -/
theorem Dispatched.expected_of_tags (d : Dispatched P) (htags : ∀ t ∈ d.read.tags, t = PII_TAG) :
    d.prepared.expectedAfter.tagUrns = [PII_TAG] := by
  rw [d.planFits.tagUrns, sortedSet_eq_singleton, planFor_before d.planned]
  exact htags

theorem analyzed_of_tags (d : Dispatched P) (htags : ∀ t ∈ d.read.tags, t = PII_TAG)
    {S : Jobs.Settings} {h : Jobs.CallHistory} {result : Jobs.Py}
    (hrun : Reaches (Jobs.postMutation S true
      (stored (analysisRequest d.run d.prepared d.receiptDigest))) h (.done (.ok result))) :
    ∃ v, received (result.get "postMutationExpectedTagState") = some v ∧
      same v d.prepared.expectedAfter.value = true := by
  obtain ⟨t, ht⟩ := canonical_state d.runFits d.planFits (d.expected_of_tags htags)
  have hrequest : (stored (analysisRequest d.run d.prepared d.receiptDigest)).get
      "postMutationExpectedTagState" = stored d.prepared.expectedAfter.value := by
    have hpost := stored_post "archon.datahub-post-mutation-analysis/v1" (companionRequest d.run)
      d.run d.prepared d.receiptDigest
    change (stored (postRequest _ (companionRequest d.run) _ _ _)).get _ = _
    rw [hpost]
    simp [List.lookup]
  have hresult := (postMutation_obeys S true _).done_of_reaches hrun result rfl
  rw [hresult, hrequest]
  exact ⟨_, received_state _, same_self ht⟩

theorem verified_of_tags {S : Jobs.Settings} (d : Dispatched S.P)
    (htags : ∀ t ∈ d.read.tags, t = PII_TAG) {h : Jobs.CallHistory} {result : Jobs.Py}
    (hrun : Reaches (Jobs.postMutation S false
      (stored (readRequest d.run d.prepared d.receiptDigest))) h (.done (.ok result)))
    (hshows : Shows d.run.governedColumnPath d.prepared.expectedAfter.tagUrns h) :
    ∃ v, received result = some v ∧
      governedStateVerified S.P d.run d.prepared d.receiptDigest v = true := by
  obtain ⟨stateDigest, resultDigest, hstate, hdigest, rfl⟩ :=
    (postRead_obeys d.planFits).done_of_reaches hrun result rfl hshows
  exact verified_of_read d.runFits d.planFits (d.expected_of_tags htags) hstate hdigest

/-- **A run is served if and only if its column carried no tag but the one that is added.** -/
theorem served_iff (hP : WritesInstants P) (d : Dispatched P) :
    Served d ↔ ∀ t ∈ d.read.tags, t = PII_TAG := by
  have hread := readRequest_accepted_iff d.runFits d.planFits d.receipt_form
  have hanalysis := analysisRequest_accepted_iff d.runFits d.planFits d.receipt_form
  rw [planFor_before d.planned] at hread hanalysis
  constructor
  · intro h
    exact hread.mp h.readAgain
  · intro htags
    obtain ⟨r⟩ := mutationRequest_requested d.requested
    exact {
      readTags := readTags_accepted d.runFits
      mutation := mutation_accepted hP d.runFits d.planFits (decision_fits d.decided) r
      analyze := hanalysis.mpr htags
      readAgain := hread.mpr htags
      analyzed := fun S _ h result hrun _ => analyzed_of_tags d htags hrun
      verified := by
        intro S hS h result hrun hshows
        subst hS
        exact verified_of_tags d htags hrun hshows }

end Served

/-! ## 4. Two runs -/

@[simp] theorem canonicalize_str (t : Text) : (canonicalize (.str t)).isSome = true := by
  rw [canonicalize]
  rfl

@[simp] theorem canonicalize_texts (ts : List Text) : (canonicalize (texts ts)).isSome = true := by
  have hitems := @canonicalItems_isSome (ts.map .str) (by simp)
  rw [texts, canonicalize, Option.isSome_map, hitems]

/-- The end of a lease. -/
def sampleLease : Text := js "2026-07-14T11:00:00.000Z"

/-- A run for the dataset. -/
def sampleRun : Run where
  auditId := List.replicate 64 0x61
  query := js "urn:li:dataset:(urn:li:dataPlatform:postgres,people,PROD)"
  question := js "Which columns hold personal data?"
  datasetUrn := js "urn:li:dataset:(urn:li:dataPlatform:postgres,people,PROD)"
  governedColumnPath := js "email"
  runtimeSessionId := js "rs_aaaaaaaaaaaaaaaaaaaaaaaaaaaaaaaaaaaaaaaaaaa"
  evidenceDigest := js "sha256:" ++ List.replicate 64 0x61
  binding := {
    schemaVersion := js "archon.runtime-binding/v1"
    profileId := js "core"
    generation := js "g1"
    capabilityDigest := js "sha256:" ++ List.replicate 64 0x61
    resolution := js "explicit"
    boundAt := js "2026-07-14T09:30:00.000Z"
    leaseExpiresAt := sampleLease }

/-- Its inputs. -/
def sampleInputs : Inputs where
  datasetUrn := sampleRun.datasetUrn
  question := sampleRun.question
  columnPath := sampleRun.governedColumnPath
  datasetUrn_form := by decide
  question_bounded := by decide
  columnPath_bounded := by decide
  datasetUrn_encodable := by decide
  question_encodable := by decide
  columnPath_encodable := by decide

theorem sampleRun_verified : verifyAuditRecord Platform.node sampleInputs sampleRun = true := by
  simp only [verifyAuditRecord, sampleInputs, sampleRun, sampleLease]
  repeat rw [js_ofList]
  decide +kernel

/-- A digest. -/
def sampleDigest : Text := js "sha256:" ++ List.replicate 64 0x62

/-- A receipt of the analysis. -/
def sampleAnalysis : AnalysisReceipt := ⟨sampleDigest, sampleDigest⟩

/-- A receipt of the improvement. -/
def sampleImprove : ImproveReceipt := ⟨sampleDigest, sampleDigest, js "2026-07-14T10:00:00.000Z"⟩

/-- A key. -/
def sampleSigner : Signer where
  stage := js "prod"
  keyArn := js "arn:aws:kms:eu-west-1:000000000000:key/1"
  stage_form := by decide
  keyArn_ascii := by decide
  keyArn_length := by decide

/-- An approval, at 2026-07-14T10:01:00Z. -/
def sampleDecision : Decision where
  ownerDigest := sampleDigest
  mutationJobId := js "job_aaaaaaaaaaaaaaaaaaaaaa"
  decidedAt := 1784023260000

/-- A signature, in base64. -/
def sampleSignature : Text := List.replicate 96 0x41

theorem digest_isSome {P : Platform} {v : Value} (h : (canonicalize v).isSome) :
    ∃ d, digest P v = some d := by
  obtain ⟨t, ht⟩ := Option.isSome_iff_exists.mp h
  exact ⟨_, by rw [digest, ht, Option.map_some]⟩

theorem canonicalize_object {fields : List (String × Value)}
    (h : ∀ f ∈ fields, (canonicalize f.2).isSome) : (canonicalize (object fields)).isSome := by
  rw [object, canonicalize, Option.isSome_map]
  refine canonicalFields_isSome fun f hf => ?_
  obtain ⟨g, hg, rfl⟩ := List.mem_map.mp hf
  exact h g hg

theorem canonicalize_state (entity column : Text) (tags : List Text) :
    (canonicalize (object (stateFields entity column tags))).isSome :=
  canonicalize_object (by simp [stateFields])

theorem canonicalize_tagState (s : TagState) : (canonicalize s.value).isSome :=
  canonicalize_object (by simp [stateFields])

@[simp] theorem canonicalize_lit (s : String) : (canonicalize (lit s)).isSome = true :=
  canonicalize_str _

@[simp] theorem canonicalize_true : (canonicalize (.bool true)).isSome = true := by
  rw [canonicalize]
  rfl

/-- A platform that tells the times of the run. -/
structure Tells (P : Platform) : Prop where
  dates : P.dateParse = Instant.parseIso
  texts : ∀ ms ∈ [1784023260000, 1784023270000, 1784023570000, 1784025000000],
    P.toISOString ms = Instant.isoText ms

theorem tells_node : Tells Platform.node := ⟨rfl, fun _ _ => rfl⟩

section Sampled

variable {P : Platform} (hP : Tells P) (run : Run) (hrun : run.binding.leaseExpiresAt = sampleLease)

include hP hrun

/-- Any tags can have been read. -/
theorem planned_of_tags {tags : List Text} (h : tagsValid tags = true) : ∃ read prepared,
    read.tags = tags ∧ planFor P run sampleAnalysis read sampleImprove = some prepared ∧
    prepared.expiresAt = js "2026-07-14T10:30:00.000Z" := by
  obtain ⟨d, hd⟩ := digest_isSome (P := P)
    (canonicalize_state run.datasetUrn run.governedColumnPath tags)
  have hbefore := tagState_read h hd
  let before : TagState := ⟨run.datasetUrn, run.governedColumnPath, tags, d⟩
  obtain ⟨afterDigest, hafter⟩ := digest_isSome (P := P)
    (canonicalize_state run.datasetUrn run.governedColumnPath
      (sortedSet (tags ++ [PII_TAG])))
  let expectedAfter : TagState := ⟨run.datasetUrn, run.governedColumnPath,
    sortedSet (tags ++ [PII_TAG]), afterDigest⟩
  obtain ⟨policyDigest, hpolicy⟩ := digest_isSome (P := P) (v := policyOf run)
    (canonicalize_object (by simp))
  let read : ReadReceipt := ⟨object (readValue run.datasetUrn run.governedColumnPath
    tags d), sampleDigest⟩
  obtain ⟨evidenceDigest, hevidence⟩ := digest_isSome (P := P)
    (v := evidenceOf sampleAnalysis read sampleImprove) (canonicalize_object (by simp))
  have harguments : (canonicalize (planArguments run)).isSome :=
    canonicalize_object (by simp)
  obtain ⟨planDigest, hplan⟩ := digest_isSome (P := P)
    (v := planPayload run sampleAnalysis read sampleImprove evidenceDigest policyDigest before
      expectedAfter)
    (canonicalize_object (by simp [harguments, canonicalize_tagState]))
  have hcompleted : P.dateParse sampleImprove.completedAt = some 1784023200000 := by
    rw [hP.dates]
    decide
  have hlease : P.dateParse run.binding.leaseExpiresAt = some 1784026800000 := by
    rw [hP.dates, hrun]
    decide
  have hexpires : P.toISOString (min (1784023200000 + 30 * 60 * 1000) 1784026800000)
      = js "2026-07-14T10:30:00.000Z" := by
    rw [hP.texts _ (by decide)]
    decide
  refine ⟨read, ⟨before, expectedAfter, evidenceDigest, policyDigest, planDigest,
    js "approval-" ++ slice planDigest 7 31, js "2026-07-14T10:30:00.000Z"⟩, ?_, ?_, rfl⟩
  · rw [← tagState_tags hbefore]
  · simp only [planFor, Option.bind_eq_bind, Option.bind_eq_some_iff]
    refine ⟨before, hbefore, afterDigest, hafter, policyDigest, hpolicy, evidenceDigest, hevidence,
      planDigest, hplan, _, hcompleted, _, hlease, ?_⟩
    rw [hexpires]
    rfl

end Sampled

theorem printable_text {t : Text} {depth : Nat} (h : isAscii t = true) (hdepth : depth ≤ 12) :
    printable (.str t) depth = true := by
  rw [printable, Bool.and_eq_true, decide_eq_true_eq]
  exact ⟨hdepth, h⟩

theorem printable_single {t : Text} {depth : Nat} (h : isAscii t = true) (hdepth : depth + 1 ≤ 12) :
    printable (texts [t]) depth = true := by
  rw [texts, printable, Bool.and_eq_true, decide_eq_true_eq]
  refine ⟨by omega, ?_⟩
  simp [printableItems, printable_text h hdepth]

theorem printable_members {fields : List (String × Value)} {depth : Nat} (hdepth : depth ≤ 12)
    (hnames : (fields.map Prod.fst).all (fun k => !(js k).isEmpty && isAscii (js k)) = true)
    (h : ∀ f ∈ fields, printable f.2 (depth + 1) = true) : printable (object fields) depth = true := by
  have hfields : ∀ {fields : List (String × Value)},
      (fields.map Prod.fst).all (fun k => !(js k).isEmpty && isAscii (js k)) = true →
      (∀ f ∈ fields, printable f.2 (depth + 1) = true) →
      printableFields (fields.map fun f => (js f.1, f.2)) (depth + 1) = true := by
    intro fields
    induction fields with
    | nil => exact fun _ _ => rfl
    | cons f fields ih =>
      intro hnames h
      obtain ⟨hf, hfields⟩ := List.forall_mem_cons.mp h
      rw [List.map_cons, List.all_cons, Bool.and_eq_true] at hnames
      rw [List.map_cons, printableFields, hnames.1, hf, ih hnames.2 hfields]
      rfl
  rw [object, printable, Bool.and_eq_true, decide_eq_true_eq]
  exact ⟨hdepth, hfields hnames h⟩

/-- What is signed of a run is ASCII. -/
def signsAscii (run : Run) (signer : Signer) : Bool :=
  isAscii run.datasetUrn && isAscii run.governedColumnPath && isAscii run.runtimeSessionId
    && isAscii run.binding.generation && isAscii run.binding.capabilityDigest && isAscii signer.stage
    && isAscii sampleDecision.mutationJobId && isAscii PII_TAG

section Requests

variable {P : Platform} (hP : Tells P) {run : Run} (signer : Signer) {prepared : Prepared}
  (htexts : signsAscii run signer = true) (hp : PlanFits P run prepared)

include htexts hp

theorem printable_envelope (times : Times) (hissued : isAscii times.issuedAt = true)
    (hexpires : isAscii times.expiresAt = true) :
    printable (authorizationEnvelope run prepared signer sampleDecision times) 0 = true := by
  simp only [signsAscii, Bool.and_eq_true] at htexts
  obtain ⟨⟨⟨⟨⟨⟨⟨hdataset, hcolumn⟩, hsession⟩, hgeneration⟩, hcapabilities⟩, hstage⟩, hjob⟩, htag⟩ :=
    htexts
  have happroval : isAscii prepared.approvalId = true := hp.approvalId ▸ (approvalId_form hp.plan).2.1
  have hplan := isAscii_of_isDigest hp.plan
  have hpolicy := isAscii_of_isDigest hp.policy
  have hlit : ∀ s ∈ ["archon.core-mutation-authorization/v1", "add_tags"], isAscii (js s) = true := by
    decide
  refine printable_members (by decide) (by simp only [List.map_cons, List.map_nil]; decide) ?_
  have htarget : printable (object [("entityUrn", .str run.datasetUrn),
      ("columnPath", .str run.governedColumnPath)]) 1 = true := by
    refine printable_members (by decide) (by simp only [List.map_cons, List.map_nil]; decide) ?_
    simp [printable_text hdataset, printable_text hcolumn]
  have harguments : printable (object [("tag_urns", texts [PII_TAG]),
      ("entity_urns", texts [run.datasetUrn]),
      ("column_paths", texts [run.governedColumnPath])]) 1 = true := by
    refine printable_members (by decide) (by simp only [List.map_cons, List.map_nil]; decide) ?_
    simp [printable_single htag, printable_single hdataset, printable_single hcolumn]
  simp [htarget, harguments, lit, printable_text (hlit _ (.head _)),
    printable_text (hlit _ (.tail _ (.head _))), printable_text hstage, printable_text hsession,
    printable_text hgeneration, printable_text hcapabilities, printable_text hjob,
    printable_text happroval, printable_text hplan, printable_text hpolicy, printable_text hissued,
    printable_text hexpires]

include hP

/-- An approved plan is requested to be carried out. -/
theorem requested_of_plan (hrun : run.binding.leaseExpiresAt = sampleLease)
    (hexpires : prepared.expiresAt = js "2026-07-14T10:30:00.000Z") :
    ∃ request, mutationRequest P run prepared signer sampleDecision
      1784023270000 sampleSignature = some request := by
  have htimes : authorizationTimes P run prepared 1784023270000
      = some ⟨js "2026-07-14T10:01:10.000Z", js "2026-07-14T10:06:10.000Z"⟩ := by
    have hissued : P.toISOString 1784023270000 = js "2026-07-14T10:01:10.000Z" := by
      rw [hP.texts _ (by decide)]
      decide
    have hend : P.toISOString 1784023570000 = js "2026-07-14T10:06:10.000Z" := by
      rw [hP.texts _ (by decide)]
      decide
    have hdates : P.dateParse (js "2026-07-14T10:01:10.000Z") = some 1784023270000
        ∧ P.dateParse (js "2026-07-14T10:30:00.000Z") = some 1784025000000
        ∧ P.dateParse sampleLease = some 1784026800000
        ∧ P.dateParse (js "2026-07-14T10:06:10.000Z") = some 1784023570000 := by
      rw [hP.dates]
      decide
    simp only [authorizationTimes, hexpires, hrun, hissued, hdates, Option.bind_eq_bind,
      Option.bind_some]
    norm_num [hend, hdates]
  obtain ⟨approvalDigest, happroval⟩ := digest_isSome (P := P)
    (v := object (approvalFields P prepared sampleDecision))
    (canonicalize_object (by simp [approvalFields]))
  have hprintable := printable_envelope signer htexts hp
    ⟨js "2026-07-14T10:01:10.000Z", js "2026-07-14T10:06:10.000Z"⟩ (by decide) (by decide)
  have htarget : (canonicalize (object [("entityUrn", .str run.datasetUrn),
      ("columnPath", .str run.governedColumnPath)])).isSome :=
    canonicalize_object (by simp)
  have harguments : (canonicalize (object [("tag_urns", texts [PII_TAG]),
      ("entity_urns", texts [run.datasetUrn]),
      ("column_paths", texts [run.governedColumnPath])])).isSome :=
    canonicalize_object (by simp)
  have henvelope : (canonicalize (authorizationEnvelope run prepared signer
      sampleDecision ⟨js "2026-07-14T10:01:10.000Z", js "2026-07-14T10:06:10.000Z"⟩)).isSome :=
    canonicalize_object (by simp [htarget, harguments])
  obtain ⟨t, ht⟩ := Option.isSome_iff_exists.mp henvelope
  have happrovalObject : (canonicalize (object (approvalFields P prepared sampleDecision
      ++ [("digest", .str approvalDigest)]))).isSome :=
    canonicalize_object (by simp [approvalFields])
  have hplanArguments : (canonicalize (planArguments run)).isSome := canonicalize_object (by simp)
  have hsigned : ∀ envelopeDigest, (canonicalize (object [("keyArn", .str signer.keyArn),
      ("algorithm", lit "ECDSA_SHA_256"), ("canonicalization", lit "archon.sorted-json-utf8/v1"),
      ("envelopeDigest", .str envelopeDigest),
      ("signatureBase64", .str sampleSignature)])).isSome := fun _ => canonicalize_object (by simp)
  have hauthorization : ∀ envelopeDigest, (canonicalize (authorizationOf (authorizationEnvelope
      run prepared signer sampleDecision
      ⟨js "2026-07-14T10:01:10.000Z", js "2026-07-14T10:06:10.000Z"⟩) signer envelopeDigest
      sampleSignature)).isSome := fun d => canonicalize_object (by simp [henvelope, hsigned])
  obtain ⟨requestDigest, hrequest⟩ := digest_isSome (P := P)
    (v := object (mutationFields P run prepared sampleDecision approvalDigest
      (authorizationOf (authorizationEnvelope run prepared signer sampleDecision
        ⟨js "2026-07-14T10:01:10.000Z", js "2026-07-14T10:06:10.000Z"⟩) signer
        (js "sha256:" ++ P.sha256 t) sampleSignature)))
    (canonicalize_object (by simp [mutationFields, happrovalObject, hplanArguments, hauthorization]))
  have hverified : verifyMutationRequestAuthorization P sampleDecision
      ⟨js "2026-07-14T10:01:10.000Z", js "2026-07-14T10:06:10.000Z"⟩ sampleSignature = true := by
    rw [verifyMutationRequestAuthorization, instant, instant, Decision.decidedText,
      hP.texts sampleDecision.decidedAt (by decide), hP.dates]
    decide
  have hcreated : createMutationAuthorization P run prepared signer
      sampleDecision ⟨js "2026-07-14T10:01:10.000Z", js "2026-07-14T10:06:10.000Z"⟩ sampleSignature
      = some (authorizationOf (authorizationEnvelope run prepared signer sampleDecision
        ⟨js "2026-07-14T10:01:10.000Z", js "2026-07-14T10:06:10.000Z"⟩) signer
        (js "sha256:" ++ P.sha256 t) sampleSignature) := by
    simp [createMutationAuthorization, canonicalMutationEnvelope, hprintable, ht]
  rw [mutationRequest, htimes]
  simp only [Option.bind_eq_bind, Option.bind_some, happroval, hcreated, hrequest]
  exact ⟨_, if_pos hverified⟩

end Requests

/-- A governed run whose column carried the tags. -/
theorem sample_dispatched (tags : List Text) (h : tagsValid tags = true) :
    ∃ d : Dispatched Platform.node, d.read.tags = tags := by
  obtain ⟨read, prepared, htags, hplanned, hexpires⟩ := planned_of_tags tells_node sampleRun rfl h
  obtain ⟨request, hrequest⟩ := requested_of_plan tells_node sampleSigner (by decide)
    (planFor_fits hplanned) rfl hexpires
  exact ⟨{
    inputs := sampleInputs
    signer := sampleSigner
    run := sampleRun
    analysis := sampleAnalysis
    read := read
    improve := sampleImprove
    prepared := prepared
    decision := sampleDecision
    issuedAt := 1784023270000
    signatureBase64 := sampleSignature
    request := request
    receiptDigest := sampleDigest
    core := rfl
    verified := sampleRun_verified
    planned := hplanned
    decided := by decide
    requested := hrequest
    receipt_form := by decide }, htags⟩

/-- A column without tags. -/
theorem served_untagged : ∃ d : Dispatched Platform.node, d.read.tags = [] ∧ Served d := by
  obtain ⟨d, hd⟩ := sample_dispatched [] (by decide)
  refine ⟨d, hd, (served_iff writesInstants_node d).mpr ?_⟩
  rw [hd]
  exact nofun

/-- **A column that carried another tag**: the catalog is changed, and the adapter refuses to look. -/
theorem not_served_sensitive : ∃ d : Dispatched Platform.node,
    d.read.tags = [js "urn:li:tag:Sensitive"] ∧ ¬ Served d := by
  obtain ⟨d, hd⟩ := sample_dispatched [js "urn:li:tag:Sensitive"] (by decide)
  refine ⟨d, hd, fun h => ?_⟩
  have htags := (readRequest_accepted_iff d.runFits d.planFits d.receipt_form).mp h.readAgain
  rw [planFor_before d.planned, hd] at htags
  exact absurd (htags _ List.mem_cons_self) (by decide)

end Control
