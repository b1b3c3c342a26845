/-
# The bounded reads of a live harvest

`searchWithinPolicy` and `completeSchemaWithinPolicy` of `mcp-client-live.ts`, with the checks of a
page that are in `live-mappers.ts`.  Both ask the server for one page after another from the offset
that they have come to, until the total that was declared is there.  The server is anything: a call
may be answered with any value, or throw.

What bounds the calls is not the server's total alone: a page that is empty before the total is
refused, so each page that is accepted has something new (`searched`, `completed`).
-/
import Archon.Runtime.Deployed
import Archon.Streams.Rounds

namespace Harvest

open Ecma Rounds Runtime.Deployed

/-! ## 1. Errors and numbers -/

/-- `DataHubHarvestErrorCode`. -/
inductive HarvestErrorCode where
  | mcpToolError
  | mcpResponseInvalid
  | searchLimitExceeded
  | searchResponseIncomplete
  | entityResponseIncomplete
  | schemaResponseIncomplete
  | schemaLimitExceeded
  | lineageResponseIncomplete
  | historyCapabilityRequired
  | harvestDeadlineExceeded
  | pipelineDeadlineExceeded
deriving DecidableEq

/-- What is thrown: a `DataHubHarvestError`, a `RangeError`, or what a call is rejected with. -/
inductive Thrown where
  | harvest (code : HarvestErrorCode) (message : Text)
  | rangeError (message : Text)
  | rejected (reason : Text)
deriving DecidableEq

/-- A computation of the client. -/
abbrev Client := Js Thrown

def fail {α : Type} (code : HarvestErrorCode) (message : Text) : Client α :=
  .error (.user (.harvest code message))

/-- `schemaFailure(message)`. -/
def schemaFailure {α : Type} (message : Text) : Client α := fail .schemaResponseIncomplete message

/-- The integer that a value is, if `Number.isInteger(value)`. -/
def integerOf : Value → Option ℤ
  | .num (.finite x) =>
    let scale := 2 ^ (-x.exp).toNat
    let n := x.man * 2 ^ x.exp.toNat
    if n % scale = 0 then some (if x.neg then -↑(n / scale) else ↑(n / scale)) else none
  | _ => none

/-- `value - n`, of an integer: the nearest double. -/
def minus (value : Value) (n : ℕ) : Value :=
  match integerOf value with
  | some i => .num (Binary64.ofMagnitude (decide (i - n < 0)) (i - n).natAbs)
  | none => .num .nan

/-- `value && typeof value === "object"`. -/
def isObjectLike : Value → Bool
  | .obj _ | .arr _ => true
  | _ => false

/-- A string that is not empty. -/
def nonEmptyText : Value → Option Text
  | .str [] => none
  | .str s => some s
  | _ => none

/-! ## 2. The pages of a search -/

/-- The limits of a `LiveHarvestPolicy` that the two reads use. -/
structure LiveHarvestPolicy where
  maxEntities : ℕ
  schemaFieldPageSize : ℕ
  maxSchemaFieldsPerEntity : ℕ
  maxSchemaFieldPages : ℕ

/-- `StrictSearchPage`. -/
structure StrictSearchPage where
  urns : List Text
  total : ℕ

/-- `result.entity?.urn`. -/
def urnOfResult (result : Value) : Client Value := do
  let entity ← result.prop "entity"
  return entity.get (js "urn")

/-- The URNs, if each is a string that is not empty and no two are equal. -/
def distinctTexts (values : List Value) : Option (List Text) :=
  match values.mapM nonEmptyText with
  | some texts => if texts.Nodup then some texts else none
  | none => none

/-- `mapSearchPageStrict(res, expectedOffset, maxEntities)`. -/
def mapSearchPageStrict (res : Value) (expectedOffset maxEntities : ℕ) : Client StrictSearchPage :=
  match integerOf (res.get (js "start")), integerOf (res.get (js "count")),
    integerOf (res.get (js "total")), res.get (js "searchResults") with
  | some start, some count, some total, .arr results =>
    if start ≠ expectedOffset ∨ count < 0 ∨ total < 0 ∨ count < results.length
        ∨ total < expectedOffset + results.length then
      fail .searchResponseIncomplete (js "DataHub search returned an invalid or incomplete page.")
    else if (maxEntities : ℤ) < total then
      fail .searchLimitExceeded (js "DataHub search matched more than the " ++ decimalText maxEntities
        ++ js "-entity hosted safety limit. Use a narrower query.")
    else do
      let urns ← results.mapM urnOfResult
      match distinctTexts urns with
      | some urns => return { urns, total := total.toNat }
      | none =>
        fail .searchResponseIncomplete <|
          js "DataHub search returned a missing or duplicate dataset URN."
  | _, _, _, _ =>
    fail .searchResponseIncomplete (js "DataHub search returned an invalid or incomplete page.")

/-! ## 3. The search -/

def SEARCH_PAGE_SIZE : ℕ := 50

/-- What a call sends: the name of a tool and its arguments. -/
structure Request where
  name : Text
  args : Value

/-- A server: what the call of each number comes to.  It may depend on all that went before, which
the number stands for, and be what it likes. -/
abbrev Server := ℕ → Request → Client Value

/-- The state of a search. -/
structure Search where
  urns : List Text := []
  offset : ℕ := 0
  declaredTotal : Option ℕ := none

/-- The request for the page at an offset. -/
def searchRequest (query : Option Text) (offset : ℕ) : Request where
  name := js "search"
  args := .object [
    ("query", .str (match query with
      | some query => if 0 < (trim query).length then query else js "*"
      | none => js "*")),
    ("filter", .lit "entity_type = dataset"),
    ("num_results", .num (.ofNat SEARCH_PAGE_SIZE)),
    ("offset", .num (.ofNat offset))]

local instance : LawfulBEq Text := inferInstance

/-- The URNs of a page are added one by one, and one that was seen is refused. -/
def addUrns (urns : List Text) : List Text → Client (List Text)
  | [] => .ok urns
  | urn :: rest =>
    if urn ∈ urns then
      fail .searchResponseIncomplete (js "DataHub search returned a duplicate URN across pages.")
    else addUrns (urns ++ [urn]) rest

/-- A page is taken. -/
def takeSearchPage (state : Search) (page : StrictSearchPage) : Client Search :=
  if state.declaredTotal.any (· ≠ page.total) then
    fail .searchResponseIncomplete (js "DataHub search total changed during the bounded harvest.")
  else
    let declaredTotal := state.declaredTotal.getD page.total
    if page.urns.length = 0 ∧ state.offset < declaredTotal then
      fail .searchResponseIncomplete
        (js "DataHub search ended before its declared total was returned.")
    else do
      let urns ← addUrns state.urns page.urns
      return { urns, offset := state.offset + page.urns.length, declaredTotal := some declaredTotal }

/-- The loop of the search. -/
def searchLoop (query : Option Text) (policy : LiveHarvestPolicy) :
    Loop Search Request Value (Exn Thrown) where
  more state := state.declaredTotal.all fun declaredTotal => state.offset < declaredTotal
  ask state := .ok (searchRequest query state.offset)
  take state response := do
    takeSearchPage state (← mapSearchPageStrict response state.offset policy.maxEntities)

/-- What is left to check when the loop is over. -/
def endSearch (state : Search) : Client (List Text) :=
  if state.declaredTotal ≠ some state.urns.length then
    fail .searchResponseIncomplete
      (js "DataHub search did not return its complete declared result set.")
  else .ok state.urns

/-- `searchWithinPolicy(query, policy)`, in less than so many rounds: what it comes to, and the number
of calls. -/
def searchWithinPolicy (server : Server) (query : Option Text) (policy : LiveHarvestPolicy)
    (fuel : ℕ) : Option (Client (List Text) × ℕ) :=
  (run (searchLoop query policy) server fuel 0 {}).map fun done => (done.1 >>= endSearch, done.2)

/-! ## 4. The fields of a schema -/

/-- The entries of the lists that are there, as `strictSortedUnion` checks and gathers them; its one
caller here does not look at the result, and the sorting is left out. -/
def strictUnion (fieldPath : Text) (metadataName : String) : List Value → Client (List Text)
  | [] => .ok []
  | .undefined :: rest => strictUnion fieldPath metadataName rest
  | .arr items :: rest =>
    match items.mapM nonEmptyText with
    | some strings => do return strings ++ (← strictUnion fieldPath metadataName rest)
    | none => schemaFailure (js "DataHub schema field " ++ fieldPath ++ js " returned an invalid "
        ++ js metadataName ++ js " entry.")
  | _ :: _ => schemaFailure (js "DataHub schema field " ++ fieldPath ++ js " returned a non-array "
      ++ js metadataName ++ js " value.")

/-- `value !== undefined && value !== null && typeof value !== "string"`. -/
def isForeign : Value → Bool
  | .undefined | .null | .str _ => false
  | _ => true

/-- `field.fieldPath`, of a field that has been checked. -/
def fieldPath (field : Value) : Text := (nonEmptyText (field.get (js "fieldPath"))).getD []

/-- `validateCleanedSchemaField(value, context)`. -/
def validateCleanedSchemaField (context : String) (value : Value) : Client Unit :=
  if !isObjectLike value || (nonEmptyText (value.get (js "fieldPath"))).isNone
      || isForeign (value.get (js "type")) || isForeign (value.get (js "nativeDataType")) then
    schemaFailure (js "DataHub " ++ js context ++ js " returned a malformed schema field.")
  else do
    discard (strictUnion (fieldPath value) "tag" [value.get (js "tags"), value.get (js "editedTags")])
    discard (strictUnion (fieldPath value) "glossary-term"
      [value.get (js "glossaryTerms"), value.get (js "editedGlossaryTerms")])

/-- `validateSchemaFields(value, context)`. -/
def validateSchemaFields (context : String) : Value → Client (List Value)
  | .undefined => .ok []
  | .arr fields => do
    fields.forM (validateCleanedSchemaField context)
    if (fields.map fieldPath).Nodup then return fields
    else schemaFailure (js "DataHub " ++ js context ++ js " returned duplicate schema field paths.")
  | _ => schemaFailure (js "DataHub " ++ js context ++ js " returned a non-array schema field list.")

/-- `SchemaCompletionRequirement`. -/
structure SchemaCompletionRequirement where
  required : Bool
  totalFields : ℕ

/-- The limit on the fields is exceeded. -/
def fieldsExceeded {α : Type} (maxFields : ℕ) : Client α :=
  fail .schemaLimitExceeded
    (js "DataHub schema exceeds the " ++ decimalText maxFields ++ js "-field hosted safety limit.")

/-- `entity.schemaMetadata?.fields`, validated. -/
def fieldsOf (context : String) (entity : Value) : Client (List Value) := do
  validateSchemaFields context ((← entity.prop "schemaMetadata").get (js "fields"))

/-- `schemaCompletionRequirement(entity, maxFields)`. -/
def schemaCompletionRequirement (entity : Value) (maxFields : ℕ) :
    Client SchemaCompletionRequirement := do
  let fields ← fieldsOf "get_entities" entity
  let marker := (← entity.prop "schemaMetadata").get (js "schemaFieldsTruncated")
  match marker with
  | .undefined =>
    if maxFields < fields.length then fieldsExceeded maxFields
    else return { required := false, totalFields := fields.length }
  | .obj _ =>
    match integerOf (marker.get (js "totalFields")), integerOf (marker.get (js "includedFields")) with
    | some totalFields, some includedFields =>
      if integerOf (marker.get (js "offset")) ≠ some 0 ∨ totalFields < 1 ∨ includedFields < 0
          ∨ includedFields ≠ fields.length ∨ totalFields ≤ includedFields then
        schemaFailure (js "DataHub get_entities returned an invalid schemaFieldsTruncated marker.")
      else if (maxFields : ℤ) < totalFields then fieldsExceeded maxFields
      else return { required := true, totalFields := totalFields.toNat }
    | _, _ =>
      schemaFailure (js "DataHub get_entities returned an invalid schemaFieldsTruncated marker.")
  | _ => schemaFailure (js "DataHub get_entities returned an invalid schemaFieldsTruncated marker.")

/-- `StrictSchemaFieldPage`. -/
structure StrictSchemaFieldPage where
  fields : List Value
  total : ℕ

/-- `mapSchemaFieldPageStrict(response, expectedUrn, expectedOffset, pageSize, maxFields)`. -/
def mapSchemaFieldPageStrict (response : Value) (expectedUrn : Text)
    (expectedOffset pageSize maxFields : ℕ) : Client StrictSchemaFieldPage :=
  if pageSize < 1 then
    .error (.user (.rangeError (js "Schema paging bounds must be non-negative integers "
      ++ js "and pageSize must be positive.")))
  else if !isObjectLike response then
    schemaFailure (js "DataHub list_schema_fields returned no response object.")
  else if !(response.get (js "fields")).isArr then
    schemaFailure (js "DataHub list_schema_fields returned no schema field array.")
  else do
    let fields ← validateSchemaFields "list_schema_fields" (response.get (js "fields"))
    let total := response.get (js "totalFields")
    let remaining := response.get (js "remainingCount")
    match integerOf total, integerOf (response.get (js "returned")), integerOf remaining with
    | some totalFields, some returned, some remainingCount =>
      if !(response.get (js "urn")).isText expectedUrn
          ∨ integerOf (response.get (js "offset")) ≠ some (expectedOffset : ℤ)
          ∨ totalFields < 0 ∨ returned < 0 ∨ returned ≠ fields.length ∨ pageSize < returned
          ∨ remainingCount < 0 ∨ totalFields < expectedOffset ∨ totalFields < expectedOffset + returned
          ∨ !remaining.strictEq (minus (minus total expectedOffset) fields.length)
          ∨ !(response.get (js "matchingCount")).isNullish then
        schemaFailure (js "DataHub list_schema_fields returned invalid pagination metadata.")
      else if (maxFields : ℤ) < totalFields then fieldsExceeded maxFields
      else if fields.length = 0 ∧ (expectedOffset : ℤ) < totalFields then
        schemaFailure
          (js "DataHub list_schema_fields made no progress before reaching its declared total.")
      else return { fields, total := totalFields.toNat }
    | _, _, _ => schemaFailure (js "DataHub list_schema_fields returned invalid pagination metadata.")

/-- `completeEntitySchema(entity, fields, expectedTotal)`. -/
def completeEntitySchema (entity : Value) (fields : List Value) (expectedTotal : ℕ) : Client Value :=
  if fields.length ≠ expectedTotal then
    schemaFailure (js "DataHub schema completion did not collect its exact declared field count.")
  else do
    let completed ← validateSchemaFields "completed schema" (.arr fields)
    let schemaMetadata ← entity.prop "schemaMetadata"
    let preservedSchemaMetadata :=
      (if schemaMetadata.isNullish then .obj [] else schemaMetadata).rest ["schemaFieldsTruncated"]
    return spreadWith entity [
      ("schemaMetadata", spreadWith preservedSchemaMetadata [("fields", .arr completed)])]

/-! ## 5. The completion of a schema -/

/-- The state of a completion. -/
structure Completion where
  fields : List Value := []
  offset : ℕ := 0
  pages : ℕ := 0

/-- The request for the fields at an offset. -/
def schemaRequest (urn : Text) (policy : LiveHarvestPolicy) (offset : ℕ) : Request where
  name := js "list_schema_fields"
  args := .object [("urn", .str urn), ("limit", .num (.ofNat policy.schemaFieldPageSize)),
    ("offset", .num (.ofNat offset))]

/-- The fields of a page are added one by one, and one whose path was seen is refused. -/
def addFields (fields : List Value) : List Value → Client (List Value)
  | [] => .ok fields
  | field :: rest =>
    if fieldPath field ∈ fields.map fieldPath then
      schemaFailure (js "DataHub list_schema_fields returned a duplicate field across pages.")
    else addFields (fields ++ [field]) rest

/-- A page is taken. -/
def takeSchemaPage (totalFields : ℕ) (state : Completion) (page : StrictSchemaFieldPage) :
    Client Completion :=
  if page.total ≠ totalFields then
    schemaFailure (js "DataHub schema total changed between get_entities and list_schema_fields.")
  else do
    let fields ← addFields state.fields page.fields
    return { fields, offset := state.offset + page.fields.length, pages := state.pages + 1 }

/-- The loop of the completion. -/
def schemaLoop (urn : Text) (totalFields : ℕ) (policy : LiveHarvestPolicy) :
    Loop Completion Request Value (Exn Thrown) where
  more state := state.offset < totalFields
  ask state :=
    if policy.maxSchemaFieldPages ≤ state.pages then
      fail .schemaLimitExceeded (js "DataHub schema completion exceeded the "
        ++ decimalText policy.maxSchemaFieldPages ++ js "-page hosted safety limit.")
    else .ok (schemaRequest urn policy state.offset)
  take state response := do
    takeSchemaPage totalFields state (← mapSchemaFieldPageStrict response urn state.offset
      policy.schemaFieldPageSize policy.maxSchemaFieldsPerEntity)

/-- `completeSchemaWithinPolicy(entity, policy)`, in less than so many rounds: what it comes to, and
the number of calls. -/
def completeSchemaWithinPolicy (server : Server) (entity : Value) (policy : LiveHarvestPolicy)
    (fuel : ℕ) : Option (Client Value × ℕ) :=
  match schemaCompletionRequirement entity policy.maxSchemaFieldsPerEntity with
  | .error e => some (.error e, 0)
  | .ok requirement =>
    if !requirement.required then some (.ok entity, 0)
    else match nonEmptyText (entity.get (js "urn")) with
      | none => some (fail .entityResponseIncomplete
          (js "A schema completion request requires its validated entity URN."), 0)
      | some urn => (run (schemaLoop urn requirement.totalFields policy) server fuel 0 {}).map fun done =>
          (do completeEntitySchema entity (← done.1).fields requirement.totalFields, done.2)

/-! ## 6. What a search comes to -/

section Search

variable {server : Server} {query : Option Text} {policy : LiveHarvestPolicy} {state state' : Search}
  {calls : ℕ}

/-- Call `n` asked for the URNs from an offset on, and was answered with a page of a total. -/
def SearchedPage (server : Server) (query : Option Text) (policy : LiveHarvestPolicy)
    (total n offset : ℕ) (page : StrictSearchPage) : Prop :=
  page.total = total ∧ ∃ response, server n (searchRequest query offset) = .ok response
    ∧ mapSearchPageStrict response offset policy.maxEntities = .ok page

theorem total_le_of_mapSearchPageStrict {res : Value} {expectedOffset maxEntities : ℕ}
    {page : StrictSearchPage} (h : mapSearchPageStrict res expectedOffset maxEntities = .ok page) :
    page.total ≤ maxEntities := by
  rw [mapSearchPageStrict] at h
  split at h
  case h_2 => cases h
  case h_1 start count total results _ _ _ _ =>
    split at h
    case isTrue => cases h
    case isFalse =>
      split at h
      case isTrue => cases h
      case isFalse hle =>
        obtain ⟨urns, -, h⟩ := bind_eq_ok.mp h
        split at h
        case h_2 => cases h
        case h_1 =>
          obtain rfl := Except.ok.inj h
          simp only
          omega

theorem SearchedPage.total_le {total n offset : ℕ} {page : StrictSearchPage}
    (h : SearchedPage server query policy total n offset page) : total ≤ policy.maxEntities := by
  obtain ⟨rfl, response, -, hmap⟩ := h
  exact total_le_of_mapSearchPageStrict hmap

theorem addUrns_spec {urns page result : List Text} (h : addUrns urns page = .ok result) :
    result = urns ++ page ∧ (urns.Nodup → result.Nodup) := by
  induction page generalizing urns with
  | nil =>
    obtain rfl := Except.ok.inj h
    exact ⟨(List.append_nil _).symm, id⟩
  | cons urn page ih =>
    rw [addUrns] at h
    split at h
    case isTrue => cases h
    case isFalse hnew =>
      obtain ⟨heq, hnodup⟩ := ih h
      refine ⟨by rw [heq, List.append_assoc, List.singleton_append], fun hurns => hnodup ?_⟩
      rw [← List.concat_eq_append]
      exact hurns.concat hnew

/-- **What one round of a search does.** -/
theorem search_taken (h : Taken (searchLoop query policy) server calls state state') :
    ∃ page, SearchedPage server query policy page.total calls state.offset page
      ∧ (∀ total, state.declaredTotal = some total → total = page.total ∧ state.offset < total)
      ∧ (state.offset < page.total → 0 < page.urns.length)
      ∧ state'.urns = state.urns ++ page.urns
      ∧ (state.urns.Nodup → state'.urns.Nodup)
      ∧ state'.offset = state.offset + page.urns.length
      ∧ state'.declaredTotal = some page.total := by
  obtain ⟨hmore, request, response, hask, hserve, htake⟩ := h
  obtain rfl := Except.ok.inj hask
  obtain ⟨page, hpage, htake⟩ := bind_eq_ok.mp htake
  rw [takeSearchPage] at htake
  split at htake
  case isTrue => cases htake
  case isFalse hsame =>
    have htotal : state.declaredTotal.getD page.total = page.total := by
      cases hdeclared : state.declaredTotal with
      | none => rfl
      | some total =>
        rw [hdeclared] at hsame
        simpa using hsame
    simp only [htotal] at htake
    split at htake
    case isTrue => cases htake
    case isFalse hsome =>
      obtain ⟨urns, hurns, htake⟩ := bind_eq_ok.mp htake
      obtain rfl := Except.ok.inj htake
      obtain ⟨rfl, hnodup⟩ := addUrns_spec hurns
      refine ⟨page, ⟨rfl, response, hserve, hpage⟩, ?_, ?_, rfl, hnodup, rfl, rfl⟩
      · intro total hdeclared
        rw [hdeclared] at htotal
        refine ⟨htotal, ?_⟩
        change state.declaredTotal.all (fun total => decide (state.offset < total)) = true at hmore
        rw [hdeclared] at hmore
        simpa using hmore
      · intro hless
        exact Nat.pos_of_ne_zero fun hnone => hsome ⟨hnone, hless⟩

/-- What holds of a search after so many calls. -/
def Searching (server : Server) (query : Option Text) (policy : LiveHarvestPolicy) (calls : ℕ)
    (state : Search) : Prop :=
  match state.declaredTotal with
  | none => calls = 0 ∧ state.urns = [] ∧ state.offset = 0
  | some total => 0 < calls ∧ total ≤ policy.maxEntities ∧ state.offset = state.urns.length
      ∧ state.urns.Nodup
      ∧ Gathered (SearchedPage server query policy total) (·.urns) calls state.urns

theorem searching_taken (hinv : Searching server query policy calls state)
    (h : Taken (searchLoop query policy) server calls state state') :
    Searching server query policy (calls + 1) state' := by
  obtain ⟨page, hpage, hdeclared, -, hurns, hnodup, hoffset, htotal⟩ := search_taken h
  have hle := hpage.total_le
  rw [Searching, htotal]
  rw [Searching] at hinv
  split at hinv
  case h_1 hnone =>
    obtain ⟨rfl, hempty, hzero⟩ := hinv
    rw [hempty, List.nil_append] at hurns
    rw [hzero, Nat.zero_add] at hoffset
    have hgathered : Gathered (SearchedPage server query policy page.total) (·.urns) 0 [] := .start
    refine ⟨by omega, hle, by rw [hurns, hoffset], hnodup (hempty ▸ List.nodup_nil), ?_⟩
    rw [hurns]
    rw [hzero] at hpage
    exact hgathered.turn hpage
  case h_2 total hsome =>
    obtain ⟨rfl, -⟩ := hdeclared total hsome
    obtain ⟨-, -, hlength, hdistinct, hgathered⟩ := hinv
    refine ⟨by omega, hle, by rw [hurns, List.length_append, hoffset, hlength], hnodup hdistinct, ?_⟩
    rw [hurns]
    rw [hlength] at hpage
    exact hgathered.turn hpage

/-- The URNs that are still missing; before the first page, as many as there can be. -/
def missing (policy : LiveHarvestPolicy) (state : Search) : ℕ :=
  match state.declaredTotal with
  | none => max 1 policy.maxEntities
  | some total => total - state.offset

theorem missing_taken (hinv : Searching server query policy calls state)
    (h : Taken (searchLoop query policy) server calls state state') :
    missing policy state' < missing policy state := by
  obtain ⟨page, hpage, hdeclared, hpos, -, -, hoffset, htotal⟩ := search_taken h
  have hle := hpage.total_le
  rw [Searching] at hinv
  rw [missing, htotal, missing]
  split at hinv
  case h_1 hnone =>
    obtain ⟨-, -, hzero⟩ := hinv
    omega
  case h_2 total hsome =>
    obtain ⟨rfl, hless⟩ := hdeclared total hsome
    have hnew := hpos hless
    omega

/-- What a search may return: URNs that are different from each other, as many as every page has
declared, each page asked for where those before it end. -/
structure SearchedAll (server : Server) (query : Option Text) (policy : LiveHarvestPolicy) (calls : ℕ)
    (urns : List Text) : Prop where
  nodup : urns.Nodup
  called : 0 < calls
  gathered : Gathered (SearchedPage server query policy urns.length) (·.urns) calls urns

/-- **A search ends.** -/
theorem searched (server : Server) (query : Option Text) (policy : LiveHarvestPolicy) :
    ∃ outcome calls, Ends (searchWithinPolicy server query policy) (outcome, calls)
      ∧ calls ≤ max 1 policy.maxEntities
      ∧ ∀ urns, outcome = .ok urns → SearchedAll server query policy calls urns := by
  obtain ⟨outcome, calls, hrun, hcalls, hend⟩ :=
    ends (Searching server query policy) (missing policy) (fun _ _ _ => searching_taken) (fun _ _ _ => missing_taken)
      (by
        intro calls state _ hinv hmore _
        change state.declaredTotal.all (fun total => decide (state.offset < total)) = true at hmore
        rw [missing]
        split
        case h_1 => omega
        case h_2 total hsome =>
          rw [hsome] at hmore
          have : state.offset < total := by simpa using hmore
          omega)
      (max 1 policy.maxEntities) 0 {} ⟨rfl, rfl, rfl⟩ le_rfl
  refine ⟨outcome >>= endSearch, calls, ?_, by omega, ?_⟩
  · exact Ends.map ⟨_, fun fuel hfuel => hrun fuel hfuel⟩ fun done => (done.1 >>= endSearch, done.2)
  · intro urns hurns
    obtain ⟨state, hstate, hreturn⟩ := bind_eq_ok.mp hurns
    obtain ⟨hinv, -⟩ := hend state hstate
    rw [endSearch] at hreturn
    split at hreturn
    case isTrue => cases hreturn
    case isFalse hall =>
      obtain rfl := Except.ok.inj hreturn
      rw [Searching, not_not.mp hall] at hinv
      obtain ⟨hpos, -, -, hnodup, hgathered⟩ := hinv
      exact ⟨hnodup, hpos, hgathered⟩

end Search

/-! ## 7. What a completion comes to -/

section Completion

variable {server : Server} {policy : LiveHarvestPolicy} {entity result : Value} {urn : Text}
  {totalFields calls : ℕ} {state state' : Completion}

/-- The fields that an entity lists. -/
def schemaFields (entity : Value) : List Value :=
  match (entity.get (js "schemaMetadata")).get (js "fields") with
  | .arr fields => fields
  | _ => []

/-- Call `n` asked for the fields from an offset on, and was answered with a page of a total. -/
def SchemaPage (server : Server) (urn : Text) (policy : LiveHarvestPolicy) (totalFields n offset : ℕ)
    (page : StrictSchemaFieldPage) : Prop :=
  page.total = totalFields ∧ ∃ response, server n (schemaRequest urn policy offset) = .ok response
    ∧ mapSchemaFieldPageStrict response urn offset policy.schemaFieldPageSize
        policy.maxSchemaFieldsPerEntity = .ok page

theorem validateSchemaFields_spec {context : String} {value : Value} {fields : List Value}
    (h : validateSchemaFields context value = .ok fields) :
    (value = .undefined ∧ fields = [] ∨ value = .arr fields) ∧ (fields.map fieldPath).Nodup := by
  rw [validateSchemaFields.eq_def] at h
  split at h
  case h_1 =>
    obtain rfl := Except.ok.inj h
    exact ⟨.inl ⟨rfl, rfl⟩, List.nodup_nil⟩
  case h_2 fields' =>
    obtain ⟨-, -, h⟩ := bind_eq_ok.mp h
    split at h
    case isTrue hnodup =>
      obtain rfl := Except.ok.inj h
      exact ⟨.inr rfl, hnodup⟩
    case isFalse => cases h
  case h_3 => cases h

theorem fieldsOf_spec {context : String} {fields : List Value} (h : fieldsOf context entity = .ok fields) :
    schemaFields entity = fields ∧ (fields.map fieldPath).Nodup := by
  obtain ⟨metadata, hmetadata, h⟩ := bind_eq_ok.mp h
  obtain ⟨-, rfl⟩ := Value.prop_eq_ok.mp hmetadata
  obtain ⟨hvalue, hnodup⟩ := validateSchemaFields_spec h
  refine ⟨?_, hnodup⟩
  rw [schemaFields]
  rcases hvalue with ⟨hvalue, rfl⟩ | hvalue
  · rw [hvalue]
  · rw [hvalue]

theorem schemaCompletionRequirement_spec {maxFields : ℕ} {requirement : SchemaCompletionRequirement}
    (h : schemaCompletionRequirement entity maxFields = .ok requirement) :
    ((schemaFields entity).map fieldPath).Nodup
      ∧ (requirement.required = false → (schemaFields entity).length = requirement.totalFields) := by
  obtain ⟨fields, hfields, h⟩ := bind_eq_ok.mp h
  obtain ⟨rfl, hnodup⟩ := fieldsOf_spec hfields
  refine ⟨hnodup, ?_⟩
  obtain ⟨metadata, -, h⟩ := bind_eq_ok.mp h
  simp only at h
  split at h
  case h_1 =>
    split at h
    case isTrue => cases h
    case isFalse =>
      obtain rfl := Except.ok.inj h
      exact fun _ => rfl
  case h_2 =>
    split at h
    case h_2 => cases h
    case h_1 =>
      split at h
      case isTrue => cases h
      case isFalse =>
        split at h
        case isTrue => cases h
        case isFalse =>
          obtain rfl := Except.ok.inj h
          exact nofun
  case h_3 => cases h

theorem addFields_spec {fields page result : List Value} (h : addFields fields page = .ok result) :
    result = fields ++ page ∧ ((fields.map fieldPath).Nodup → (result.map fieldPath).Nodup) := by
  induction page generalizing fields with
  | nil =>
    obtain rfl := Except.ok.inj h
    exact ⟨(List.append_nil _).symm, id⟩
  | cons field page ih =>
    rw [addFields] at h
    split at h
    case isTrue => cases h
    case isFalse hnew =>
      obtain ⟨heq, hnodup⟩ := ih h
      refine ⟨by rw [heq, List.append_assoc, List.singleton_append], fun hfields => hnodup ?_⟩
      rw [List.map_append, List.map_singleton, ← List.concat_eq_append]
      exact hfields.concat hnew

/-- **What one round of a completion does.** -/
theorem schema_taken (h : Taken (schemaLoop urn totalFields policy) server calls state state') :
    state.pages < policy.maxSchemaFieldPages
      ∧ ∃ page, SchemaPage server urn policy totalFields calls state.offset page
        ∧ state'.fields = state.fields ++ page.fields
        ∧ ((state.fields.map fieldPath).Nodup → (state'.fields.map fieldPath).Nodup)
        ∧ state'.offset = state.offset + page.fields.length
        ∧ state'.pages = state.pages + 1 := by
  obtain ⟨-, request, response, hask, hserve, htake⟩ := h
  change (if policy.maxSchemaFieldPages ≤ state.pages then _ else _) = _ at hask
  split at hask
  case isTrue => cases hask
  case isFalse hpages =>
    obtain rfl := Except.ok.inj hask
    obtain ⟨page, hpage, htake⟩ := bind_eq_ok.mp htake
    rw [takeSchemaPage] at htake
    split at htake
    case isTrue => cases htake
    case isFalse hsame =>
      obtain ⟨fields, hfields, htake⟩ := bind_eq_ok.mp htake
      obtain rfl := Except.ok.inj htake
      obtain ⟨rfl, hnodup⟩ := addFields_spec hfields
      exact ⟨by omega, page, ⟨not_not.mp hsame, response, hserve, hpage⟩, rfl, hnodup, rfl, rfl⟩

/-- What holds of a completion after so many calls. -/
structure Completing (server : Server) (urn : Text) (totalFields : ℕ) (policy : LiveHarvestPolicy)
    (calls : ℕ) (state : Completion) : Prop where
  pages : state.pages = calls
  offset : state.offset = state.fields.length
  nodup : (state.fields.map fieldPath).Nodup
  gathered : Gathered (SchemaPage server urn policy totalFields) (·.fields) calls state.fields

theorem completing_taken (hinv : Completing server urn totalFields policy calls state)
    (h : Taken (schemaLoop urn totalFields policy) server calls state state') :
    Completing server urn totalFields policy (calls + 1) state' := by
  obtain ⟨-, page, hpage, hfields, hnodup, hoffset, hpages⟩ := schema_taken h
  refine ⟨by rw [hpages, hinv.pages], ?_, hnodup hinv.nodup, ?_⟩
  · rw [hfields, List.length_append, hoffset, hinv.offset]
  · rw [hinv.offset] at hpage
    rw [hfields]
    exact hinv.gathered.turn hpage

theorem lookup_setMember (key : Text) (v : Value) (fields : List (Text × Value)) :
    lookup key (setMember key v fields) = some v := by
  induction fields with
  | nil => simp [setMember]
  | cons f fields ih =>
    obtain ⟨k, w⟩ := f
    rw [setMember]
    split
    case isTrue hk => rw [lookup_cons, if_pos hk]
    case isFalse hk => rw [lookup_cons, if_neg hk, ih]

/-- The member that a spread sets. -/
theorem get_spreadWith (fields : List (Text × Value)) (key : String) (v : Value) :
    (spreadWith (.obj fields) [(key, v)]).get (js key) = v := by
  rw [spreadWith, List.foldl_cons, List.foldl_nil, Value.get_obj, lookup_setMember, Option.getD_some]

/-- Only an object has a URN. -/
theorem exists_fields_of_urn (h : nonEmptyText (entity.get (js "urn")) = some urn) :
    ∃ fields, entity = .obj fields := by
  cases entity with
  | obj fields => exact ⟨fields, rfl⟩
  | arr | str =>
    simp only [Value.get] at h
    rw [if_neg (by decide)] at h
    cases h
  | undefined | null | bool | num => cases h

theorem completeEntitySchema_spec {fields : List Value} {expectedTotal : ℕ}
    (hentity : ∃ members, entity = .obj members)
    (h : completeEntitySchema entity fields expectedTotal = .ok result) :
    schemaFields result = fields ∧ fields.length = expectedTotal := by
  obtain ⟨members, rfl⟩ := hentity
  rw [completeEntitySchema] at h
  split at h
  case isTrue => cases h
  case isFalse hlength =>
    obtain ⟨completed, hcompleted, h⟩ := bind_eq_ok.mp h
    obtain ⟨hvalue, -⟩ := validateSchemaFields_spec hcompleted
    obtain ⟨metadata, -, h⟩ := bind_eq_ok.mp h
    obtain rfl := Except.ok.inj h
    have hfields : completed = fields := by
      rcases hvalue with ⟨hvalue, -⟩ | hvalue
      · cases hvalue
      · exact (Value.arr.inj hvalue).symm
    refine ⟨?_, not_not.mp hlength⟩
    rw [schemaFields, get_spreadWith, Value.rest, get_spreadWith, hfields]

/-- What a completion may return: an entity whose fields have different paths and are as many as were
declared.  Where the entity came with a part of them, each page is asked for where those before it
end, and declares the total that the entity declared. -/
structure CompletedAll (server : Server) (entity : Value) (policy : LiveHarvestPolicy) (calls : ℕ)
    (result : Value) (requirement : SchemaCompletionRequirement) : Prop where
  required : schemaCompletionRequirement entity policy.maxSchemaFieldsPerEntity = .ok requirement
  length : (schemaFields result).length = requirement.totalFields
  nodup : ((schemaFields result).map fieldPath).Nodup
  unchanged : requirement.required = false → result = entity
  gathered : requirement.required = true → ∃ urn, nonEmptyText (entity.get (js "urn")) = some urn
    ∧ Gathered (SchemaPage server urn policy requirement.totalFields) (·.fields) calls
      (schemaFields result)

/-- **A completion ends.** -/
theorem completed (server : Server) (entity : Value) (policy : LiveHarvestPolicy) :
    ∃ outcome calls, Ends (completeSchemaWithinPolicy server entity policy) (outcome, calls)
      ∧ calls ≤ policy.maxSchemaFieldPages
      ∧ ∀ result, outcome = .ok result → ∃ requirement,
        CompletedAll server entity policy calls result requirement := by
  cases hrequirement : schemaCompletionRequirement entity policy.maxSchemaFieldsPerEntity with
  | error e =>
    exact ⟨.error e, 0, ⟨0, fun _ _ => by rw [completeSchemaWithinPolicy, hrequirement]⟩,
      Nat.zero_le _, nofun⟩
  | ok requirement =>
    obtain ⟨hnodup, hpartial⟩ := schemaCompletionRequirement_spec hrequirement
    cases hrequired : requirement.required with
    | false =>
      refine ⟨.ok entity, 0, ⟨0, fun _ _ => ?_⟩, Nat.zero_le _, ?_⟩
      · rw [completeSchemaWithinPolicy, hrequirement]
        simp only [hrequired, Bool.not_false, if_true]
      · intro result hresult
        obtain rfl := Except.ok.inj hresult
        exact ⟨requirement, hrequirement, hpartial hrequired, hnodup, fun _ => rfl,
          fun h => absurd (hrequired.symm.trans h) (by decide)⟩
    | true =>
      cases hurn : nonEmptyText (entity.get (js "urn")) with
      | none =>
        refine ⟨fail .entityResponseIncomplete
          (js "A schema completion request requires its validated entity URN."), 0,
          ⟨0, fun _ _ => ?_⟩, Nat.zero_le _, nofun⟩
        rw [completeSchemaWithinPolicy, hrequirement]
        simp only [hrequired, Bool.not_true, if_neg Bool.false_ne_true, hurn]
      | some urn =>
        obtain ⟨outcome, calls, hrun, hcalls, hend⟩ :=
          ends (Completing server urn requirement.totalFields policy)
            (fun state => policy.maxSchemaFieldPages - state.pages) (fun _ _ _ => completing_taken)
            (by
              intro calls state state' _ htaken
              obtain ⟨hless, _, -, -, -, -, hpages⟩ := schema_taken htaken
              omega)
            (by
              intro calls state request _ _ hask
              change (if policy.maxSchemaFieldPages ≤ state.pages then _ else _) = _ at hask
              split at hask
              case isTrue => cases hask
              case isFalse => omega)
            policy.maxSchemaFieldPages 0 {} ⟨rfl, rfl, List.nodup_nil, .start⟩ (Nat.sub_le _ _)
        refine ⟨do completeEntitySchema entity (← outcome).fields requirement.totalFields, calls,
          ⟨policy.maxSchemaFieldPages + 1, fun fuel hfuel => ?_⟩, by omega, ?_⟩
        · rw [completeSchemaWithinPolicy, hrequirement]
          simp only [hrequired, Bool.not_true, if_neg Bool.false_ne_true, hurn, hrun fuel hfuel,
            Option.map_some]
        · intro result hresult
          obtain ⟨state, hstate, hresult⟩ := bind_eq_ok.mp hresult
          obtain ⟨hinv, -⟩ := hend state hstate
          obtain ⟨hfields, hlength⟩ := completeEntitySchema_spec (exists_fields_of_urn hurn) hresult
          refine ⟨requirement, hrequirement, hfields ▸ hlength, hfields ▸ hinv.nodup,
            fun h => absurd (hrequired.symm.trans h) (by decide), fun _ => ⟨urn, hurn, ?_⟩⟩
          rw [hfields]
          exact hinv.gathered

/-- **The two reads, whatever the server does.**  Each makes a number of calls that the policy bounds,
and then it throws or has all there is. -/
theorem reads_bounded (server : Server) (query : Option Text) (entity : Value)
    (policy : LiveHarvestPolicy) :
    (∃ outcome calls, Ends (searchWithinPolicy server query policy) (outcome, calls)
      ∧ calls ≤ max 1 policy.maxEntities
      ∧ ∀ urns, outcome = .ok urns → SearchedAll server query policy calls urns)
    ∧ ∃ outcome calls, Ends (completeSchemaWithinPolicy server entity policy) (outcome, calls)
      ∧ calls ≤ policy.maxSchemaFieldPages
      ∧ ∀ result, outcome = .ok result → ∃ requirement,
        CompletedAll server entity policy calls result requirement :=
  ⟨searched server query policy, completed server entity policy⟩

end Completion

end Harvest
