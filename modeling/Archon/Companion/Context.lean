/-
# The context of an analysis

`collect_ack_context` searches the catalog for datasets, reads the first of what it has found with five
tools, and keeps a receipt of every call.  A search that fails ends the call; every other tool that fails
leaves a receipt that says so.

Whatever the tools answer, there are six receipts in the order of the tools, at most five datasets, and
every text in the context can be encoded (`collected_of_ok`).
-/
import Archon.Companion.Stream

namespace Companion

open Ecma Jobs
open Cloud (codePointLe)

/-! ## 1. The datasets of a search -/

/-- `ACK_CANONICAL_READ_TOOLS`. -/
def ACK_CANONICAL_READ_TOOLS : List String :=
  ["search", "get_entities", "list_schema_fields", "get_lineage_upstream", "get_lineage_downstream",
    "get_dataset_assertions"]

/-- A unit in upper case, as far as it becomes a letter of ASCII: the long s is one that does. -/
def upperUnit (u : UInt16) : UInt16 :=
  if 0x61 ≤ u ∧ u ≤ 0x7A then u - 0x20 else if u = 0x17F then 0x53 else u

/-- `entity_type.upper() == "DATASET"`. -/
def isDatasetType (t : Text) : Bool := t.map upperUnit = js "DATASET"

/-- `^urn:li:dataset:.{1,900}$`. -/
def isDatasetUrn (t : Text) : Bool :=
  let start := js "urn:li:dataset:"
  let rest := t.drop start.length
  start.isPrefixOf t && 1 ≤ len rest && len rest ≤ 900 && !rest.contains 0x0A

/-- The dataset of an entry, if it is one. -/
def datasetUrn? (entry : Py) : Option Text :=
  let entity := entry.get "entity"
  match entity.get "type", entity.get "urn" with
  | .str type, .str urn => if isDatasetType type && isDatasetUrn urn then some urn else none
  | _, _ => none

/-- `dataset_urns`. -/
def datasetUrns (searchResult : Py) : List Text :=
  match searchResult.get "searchResults" with
  | .list results =>
    (((results.take 50).filterMap datasetUrn?).dedup.mergeSort codePointLe).take 5
  | _ => []

/-! ## 2. The tools -/

/-- The tools of the Agent Context Kit, of their arguments. -/
structure ContextKit where
  search : Py → Except String Py
  getEntities : Py → Except String Py
  listSchemaFields : Py → Except String Py
  getLineage : Py → Except String Py
  getDatasetAssertions : Py → Except String Py

section Collecting

variable (P : Remediation.Platform) (kit : ContextKit)

/-- `tool_receipt`, where it may raise. -/
def receiptOf (name : String) (arguments result : Py) (status : String) : Except String Py :=
  match toolReceipt P (js name) arguments result status with
  | some receipt => .ok receipt
  | none => raise "surrogates not allowed"

/-- `guarded_tool`. -/
def guardedTool (name : String) (arguments : Py) (operation : Py → Except String Py) :
    Except String Py :=
  match operation arguments >>= fun result => receiptOf P name arguments result "verified" with
  | .ok receipt => .ok receipt
  | .error _ => receiptOf P name arguments (.object [("reason", .lit "tool unavailable")]) "unknown"

/-- The receipts where no dataset was found. -/
def unresolvedReceipts : Except String (List Py) :=
  ["get_entities", "list_schema_fields", "get_lineage_upstream", "get_lineage_downstream",
    "get_dataset_assertions"].mapM fun name =>
      receiptOf P name (.object []) (.object [("reason", .lit "no resolved dataset")]) "unknown"

/-- The receipts of the reads about the datasets and the first of them. -/
def resolvedReceipts (selected : List Text) (root : Text) : Except String (List Py) := do
  let lineageArgs (upstream : Bool) : Py := .object [("urn", .str root), ("upstream", .bool upstream),
    ("max_hops", .int 2), ("max_results", .int 30)]
  let entities ← guardedTool P "get_entities" (.object [("urns", .list (selected.map .str))])
    kit.getEntities
  let schema ← guardedTool P "list_schema_fields"
    (.object [("urn", .str root), ("limit", .int 50), ("offset", .int 0)]) kit.listSchemaFields
  let upstream ← guardedTool P "get_lineage_upstream" (lineageArgs true) kit.getLineage
  let downstream ← guardedTool P "get_lineage_downstream" (lineageArgs false) kit.getLineage
  let assertions ← guardedTool P "get_dataset_assertions"
    (.object [("urn", .str root), ("start", .int 0), ("count", .int 20)]) kit.getDatasetAssertions
  return [entities, schema, upstream, downstream, assertions]

/-- The receipts of all reads but the search. -/
def otherReceipts (selected : List Text) : Except String (List Py) :=
  match selected with
  | [] => unresolvedReceipts P
  | root :: _ => resolvedReceipts P kit selected root

/-- The arguments of the search. -/
def searchArgs (query : Text) : Py :=
  .object [("query", .str query), ("filter", .lit "entity_type = dataset"), ("num_results", .int 5)]

/-- The context without its digest. -/
def contextEnvelope (query : Text) (selected : List Text) (receipts : List Py) : List (String × Py) :=
  [("schemaVersion", .lit "archon.datahub-context/v2"), ("query", .str query),
    ("entityUrns", .list (selected.map .str)), ("receipts", .list receipts),
    ("unknownPreserved", .bool (receipts.any fun r => (r.get "status").isText (js "unknown")))]

/-- `collect_ack_context`. -/
def collectAckContext (query : Text) : Except String Py := do
  let searchResult ← kit.search (searchArgs query)
  let found ← receiptOf P "search" (searchArgs query) searchResult "verified"
  let selected := datasetUrns searchResult
  let rest ← otherReceipts P kit selected
  let envelope := contextEnvelope query selected (found :: rest)
  let own ← digestOf P (.object envelope)
  return .object (envelope ++ [("digest", .str own)])

end Collecting

/-! ## 3. What is collected -/

section Collected

variable {P : Remediation.Platform} {kit : ContextKit}

/-- A receipt of the tool. -/
structure Receipted (name : String) (r : Py) : Prop where
  tool : r.get? "tool" = some (.lit name)
  status : ∃ status, r.get? "status" = some (.lit status)
  resultDigest : ∃ d, r.get? "resultDigest" = some (.str d) ∧ isDigest d = true
  result : ∃ v, r.get? "result" = some v ∧ (dumps v).isSome = true

/-- A digest is that of a text. -/
theorem digest_eq_some_iff {v : Py} {d : Text} : digest P v = some d ↔
    ∃ t, dumps v = some t ∧ js "sha256:" ++ P.sha256 t = d := by
  rw [digest, Option.map_eq_some_iff]

theorem digest_of_digestOf {v : Py} {d : Text} (h : digestOf P v = .ok d) : digest P v = some d := by
  rw [digestOf] at h
  cases hd : digest P v with
  | none =>
    rw [hd] at h
    cases h
  | some d' =>
    rw [hd] at h
    cases h
    rfl

theorem digestOf_eq_ok {v : Py} {d : Text} (h : digestOf P v = .ok d) :
    isDigest d = true ∧ (dumps v).isSome = true := by
  obtain ⟨t, ht, rfl⟩ := digest_eq_some_iff.mp (digest_of_digestOf h)
  exact ⟨Control.isDigest_sha256 P t, by rw [ht]; rfl⟩

theorem digestOf_of_isSome {v : Py} (h : (dumps v).isSome = true) : ∃ d, digestOf P v = .ok d := by
  obtain ⟨d, hd, -⟩ := digest_eq_some (P := P) h
  exact ⟨d, by rw [digestOf, hd]⟩

theorem receipted_of_ok {name status : String} {arguments result r : Py}
    (h : receiptOf P name arguments result status = .ok r) : Receipted name r := by
  rw [receiptOf] at h
  cases hr : toolReceipt P (js name) arguments result status with
  | none =>
    rw [hr] at h
    cases h
  | some r' =>
    rw [hr] at h
    cases h
    simp only [toolReceipt, bind, Option.bind_eq_some_iff] at hr
    obtain ⟨d, -, d', hd', d'', -, hr⟩ := hr
    obtain rfl := Option.some.inj hr
    obtain ⟨t, ht, rfl⟩ := digest_eq_some_iff.mp hd'
    exact {
      tool := by simp [List.lookup, Py.lit]
      status := ⟨status, by simp [List.lookup]⟩
      resultDigest := ⟨_, by simp [List.lookup], Control.isDigest_sha256 P t⟩
      result := ⟨sanitized result, by simp [List.lookup], by rw [ht]; rfl⟩ }

theorem receipted_guarded {name : String} {arguments r : Py} {operation : Py → Except String Py}
    (h : guardedTool P name arguments operation = .ok r) : Receipted name r := by
  rw [guardedTool] at h
  split at h
  · rename_i receipt hreceipt
    cases h
    obtain ⟨result, -, hresult⟩ := bind_eq_ok.mp hreceipt
    exact receipted_of_ok hresult
  · exact receipted_of_ok h

theorem receipted_unresolved {names : List String} : ∀ {rest : List Py},
    (names.mapM fun name => receiptOf P name (.object [])
      (.object [("reason", .lit "no resolved dataset")]) "unknown") = .ok rest →
    List.Forall₂ Receipted names rest := by
  induction names with
  | nil =>
    intro rest h
    rw [List.mapM_nil] at h
    cases h
    exact .nil
  | cons name names ih =>
    intro rest h
    rw [List.mapM_cons] at h
    obtain ⟨r, hr, h⟩ := bind_eq_ok.mp h
    obtain ⟨rs, hrs, h⟩ := bind_eq_ok.mp h
    cases h
    exact .cons (receipted_of_ok hr) (ih hrs)

theorem receipted_resolved {selected : List Text} {root : Text} {rest : List Py}
    (h : resolvedReceipts P kit selected root = .ok rest) :
    List.Forall₂ Receipted ACK_CANONICAL_READ_TOOLS.tail rest := by
  rw [resolvedReceipts] at h
  obtain ⟨entities, hentities, h⟩ := bind_eq_ok.mp h
  obtain ⟨schema, hschema, h⟩ := bind_eq_ok.mp h
  obtain ⟨upstream, hupstream, h⟩ := bind_eq_ok.mp h
  obtain ⟨downstream, hdownstream, h⟩ := bind_eq_ok.mp h
  obtain ⟨assertions, hassertions, h⟩ := bind_eq_ok.mp h
  cases h
  exact .cons (receipted_guarded hentities) (.cons (receipted_guarded hschema)
    (.cons (receipted_guarded hupstream) (.cons (receipted_guarded hdownstream)
      (.cons (receipted_guarded hassertions) .nil))))

/-- What `collect_ack_context` returns, as far as an analysis reads it. -/
structure Collected (context : Py) (d : Text) (urns : List Text) (receipts : List Py) : Prop where
  isDict : context.isDict = true
  digest : context.get? "digest" = some (.str d)
  isDigest : isDigest d = true
  entityUrns : context.get? "entityUrns" = some (.list (urns.map .str))
  encodable : ∀ u ∈ urns, encodable u = true
  listed : context.get? "receipts" = some (.list receipts)
  receipted : List.Forall₂ Receipted ACK_CANONICAL_READ_TOOLS receipts

theorem collected_envelope {query : Text} {urns : List Text} {receipts : List Py} {own : Text}
    (hown : digestOf P (.object (contextEnvelope query urns receipts)) = .ok own)
    (hreceipts : List.Forall₂ Receipted ACK_CANONICAL_READ_TOOLS receipts) :
    Collected (.object (contextEnvelope query urns receipts ++ [("digest", .str own)])) own urns
      receipts := by
  obtain ⟨hdigest, hdumps⟩ := digestOf_eq_ok hown
  have hurns : ∀ u ∈ urns, encodable u = true := by
    rw [dumps_object_isSome, List.all_eq_true] at hdumps
    have hlist := hdumps ("entityUrns", .list (urns.map .str)) (by simp [contextEnvelope])
    rw [dumps_list_isSome, List.all_map, List.all_eq_true] at hlist
    intro u hu
    simpa using hlist u hu
  exact {
    isDict := rfl
    digest := by simp [contextEnvelope, List.lookup]
    isDigest := hdigest
    entityUrns := by simp [contextEnvelope, List.lookup]
    encodable := hurns
    listed := by simp [contextEnvelope, List.lookup]
    receipted := hreceipts }

/-- **The context that is collected**, whatever the tools answer. -/
theorem collected_of_ok {query : Text} {context : Py} (h : collectAckContext P kit query = .ok context) :
    ∃ d urns receipts, Collected context d urns receipts := by
  rw [collectAckContext] at h
  obtain ⟨searchResult, -, h⟩ := bind_eq_ok.mp h
  obtain ⟨found, hfound, h⟩ := bind_eq_ok.mp h
  obtain ⟨rest, hrest, h⟩ := bind_eq_ok.mp h
  obtain ⟨own, hown, h⟩ := bind_eq_ok.mp h
  cases h
  refine ⟨own, datasetUrns searchResult, found :: rest, collected_envelope hown ?_⟩
  refine .cons (receipted_of_ok hfound) ?_
  cases hselected : datasetUrns searchResult with
  | nil =>
    rw [hselected, otherReceipts] at hrest
    exact receipted_unresolved hrest
  | cons root others =>
    rw [hselected, otherReceipts] at hrest
    exact receipted_resolved hrest

end Collected

/-! ## 4. What can be encoded -/

section Encoded

@[simp] theorem dumps_int_isSome (n : Int) : (dumps (.int n)).isSome = true := rfl

/-- A text that is cut between its characters. -/
theorem encodable_takePoints {t : Text} (h : encodable t = true) (n : Nat) :
    encodable (takePoints n t) = true := by
  rw [encodable, List.all_eq_true] at h ⊢
  intro c hc
  rw [codePoints_takePoints] at hc
  exact h c (List.mem_of_mem_take hc)

/-- A member that is kept is one of the dict, under its key as far as that is kept. -/
theorem mem_foldl_keep {fields : List (Text × Py)} : ∀ {l result : List (Text × Py)},
    (∀ f ∈ l, f ∈ fields) → (∀ f ∈ result, ∃ g ∈ fields, f = (takePoints 128 g.1, g.2)) →
    ∀ f ∈ l.foldl keep result, ∃ g ∈ fields, f = (takePoints 128 g.1, g.2) := by
  intro l
  induction l with
  | nil =>
    intro result _ hresult
    exact hresult
  | cons f l ih =>
    intro result hl hresult
    obtain ⟨hf, hl⟩ := List.forall_mem_cons.mp hl
    refine ih hl ?_
    intro g hg
    rw [keep] at hg
    split at hg
    · exact hresult g hg
    · rw [setItem] at hg
      split at hg
      · obtain ⟨g', hg', rfl⟩ := List.mem_map.mp hg
        split
        · exact ⟨f, hf, rfl⟩
        · exact hresult g' hg'
      · rcases List.mem_append.mp hg with hg | hg
        · exact hresult g hg
        · exact ⟨f, hf, List.mem_singleton.mp hg⟩

theorem mem_kept {fields : List (Text × Py)} {f : Text × Py} (h : f ∈ kept fields) :
    ∃ g ∈ fields, f = (takePoints 128 g.1, g.2) := by
  refine mem_foldl_keep (fun g hg => ?_) (fun g hg => absurd hg List.not_mem_nil) f h
  exact List.mem_mergeSort.mp (List.mem_of_mem_take hg)

/-- **What is kept of a value that can be encoded can be encoded.** -/
theorem dumps_sanitizedAt (n : Nat) : ∀ {v : Py}, (dumps v).isSome = true →
    (dumps (sanitizedAt n v)).isSome = true := by
  induction n with
  | zero =>
    intro v _
    rw [sanitizedAt]
    decide
  | succ n ih =>
    intro v h
    cases v with
    | none | bool | int => exact h
    | decimal => cases h
    | float repr isFinite =>
      cases isFinite
      · cases h
      · exact h
    | str t =>
      rw [dumps_str_isSome] at h
      rw [sanitizedAt, dumps_str_isSome]
      exact encodable_takePoints h 2048
    | list items =>
      rw [dumps_list_isSome, List.all_eq_true] at h
      rw [sanitizedAt, dumps_list_isSome, List.all_map, List.all_eq_true]
      intro w hw
      exact ih (h w (List.mem_of_mem_take hw))
    | dict fields =>
      rw [dumps, Option.isSome_map, dumpsFields_isSome, List.all_eq_true] at h
      rw [sanitizedAt, dumps, Option.isSome_map, dumpsFields_isSome, List.all_map, List.all_eq_true]
      intro f hf
      obtain ⟨g, hg, rfl⟩ := mem_kept hf
      obtain ⟨hkey, hvalue⟩ := Bool.and_eq_true_iff.mp (h g hg)
      exact Bool.and_eq_true_iff.mpr ⟨encodable_takePoints hkey 128, ih hvalue⟩

end Encoded

end Companion
