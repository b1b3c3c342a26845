/-
# The tags of the column, in the answer of the managed tool

The managed server answers `list_schema_fields` with structured content and with texts that may be
JSON, of any shape.  `extract_column_tags` looks in all of them for the scopes of the column, the
dicts that name it under one of four keys and the values that stand under its name, and takes from
the scopes every string that `TAG_RE` matches.  Both walks count what they visit and refuse an
answer with more than 20 000 values.

`mem_extractColumnTags` says exactly what is returned, and `extractColumnTags_ok_iff` when something
is.  A tag whose name is spelled otherwise than `TAG_RE` asks is passed by without a word, and that
is the only way to miss one (`extractColumnTags_reads_iff`).
-/
import Archon.Cloud.Context
import Archon.Jobs.ColumnTags
import Archon.Streams.Counter
import Archon.Streams.Fallible

namespace Cloud

open Ecma Counter
open Jobs (Py)
open Jobs.Py (Inside)

/-! ## 1. What the extractor does -/

/-- The result of a tool call that was admitted: every item of the content is a text. -/
structure ToolResult where
  structuredContent : Py
  content : List Text

/-- A text of the content; what is not JSON is passed by. -/
def parsedText (loads : Text → Loaded) (text : Text) : Except Rejection (List Py) :=
  match loads text with
  | .value v => .ok [v]
  | .malformed => .ok []
  | .tooDeep => .error .language

/-- `_structured_payloads`. -/
def structuredPayloads (loads : Text → Loaded) (result : ToolResult) :
    Except Rejection (List Py) := do
  let structured := if result.structuredContent.isDict then [result.structuredContent] else []
  let parsed ← result.content.mapM (parsedText loads)
  let payloads := structured ++ parsed.flatten
  demand (!payloads.isEmpty) "mcp_structured_result_required"
  return payloads

/-- The most values that a walk visits. -/
def MAX_VISITED : Nat := 20000

/-- What a walk raises that visits more. -/
def tooLarge : Rejection := .contract "mcp_tag_result_too_large"

mutual

/-- `_subtree_strings`. -/
def subtreeStrings : Py → StateT Nat (Except Rejection) (List Text)
  | .str t => do
    tick MAX_VISITED tooLarge
    return [t]
  | .list items => do
    tick MAX_VISITED tooLarge
    itemStrings items
  | .dict fields => do
    tick MAX_VISITED tooLarge
    memberStrings fields
  | _ => do
    tick MAX_VISITED tooLarge
    return []

/-- The strings of the elements of a list. -/
def itemStrings : List Py → StateT Nat (Except Rejection) (List Text)
  | [] => return []
  | v :: vs => do
    let strings ← subtreeStrings v
    let rest ← itemStrings vs
    return strings ++ rest

/-- The strings of the members of a dict, their keys among them. -/
def memberStrings : List (Text × Py) → StateT Nat (Except Rejection) (List Text)
  | [] => return []
  | (key, v) :: fs => do
    let strings ← subtreeStrings v
    let rest ← memberStrings fs
    return key :: strings ++ rest

end

/-- The keys that a field is named under. -/
def SCOPE_KEYS : List Text := [js "fieldPath", js "field_path", js "path", js "name"]

/-- `direct_match`. -/
def directMatch (fields : List (Text × Py)) : Bool :=
  fields.any fun f => SCOPE_KEYS.contains f.1 && f.2.isText COLUMN_PATH

mutual

/-- `_column_scopes`. -/
def columnScopes : Py → StateT Nat (Except Rejection) (List Py)
  | .list items => do
    tick MAX_VISITED tooLarge
    itemScopes items
  | .dict fields => do
    tick MAX_VISITED tooLarge
    let scopes ← memberScopes fields
    return if directMatch fields then scopes ++ [.dict fields] else scopes
  | _ => do
    tick MAX_VISITED tooLarge
    return []

/-- The scopes among the elements of a list. -/
def itemScopes : List Py → StateT Nat (Except Rejection) (List Py)
  | [] => return []
  | v :: vs => do
    let scopes ← columnScopes v
    let rest ← itemScopes vs
    return scopes ++ rest

/-- The scopes among the members of a dict: a value under the name of the column is one. -/
def memberScopes : List (Text × Py) → StateT Nat (Except Rejection) (List Py)
  | [] => return []
  | (key, v) :: fs => do
    let scopes ← columnScopes v
    let rest ← memberScopes fs
    return (if key = COLUMN_PATH then v :: scopes else scopes) ++ rest

end

/-- The tags of a scope. -/
def scopeTags (scope : Py) : Except Rejection (List Text) := do
  let strings ← (subtreeStrings scope).run' 0
  return strings.filter isTag

/-- The tags of a payload. -/
def payloadTags (payload : Py) : Except Rejection (List Text) := do
  let scopes ← (columnScopes payload).run' 0
  let tags ← scopes.mapM scopeTags
  return tags.flatten

/-- `extract_column_tags`. -/
def extractColumnTags (loads : Text → Loaded) (result : ToolResult) :
    Except Rejection (List Text) := do
  let payloads ← structuredPayloads loads result
  let found ← payloads.mapM payloadTags
  return Jobs.sortedTags found.flatten

/-! ## 2. What stands in a field -/

/-- A string that stands inside a value, as a value or as the key of a member. -/
def Carries (t : Text) (v : Py) : Prop :=
  Inside (.str t) v ∨ ∃ fields, Inside (.dict fields) v ∧ ∃ f ∈ fields, f.1 = t

/-- A field of the column inside a value: a dict that names the column, or what stands under its
name. -/
def ColumnField (field v : Py) : Prop :=
  (∃ fields, field = .dict fields ∧ Inside field v ∧ directMatch fields = true)
    ∨ ∃ fields, Inside (.dict fields) v ∧ (COLUMN_PATH, field) ∈ fields

section Places

variable {t s : Text} {items : List Py} {fields : List (Text × Py)} {field v : Py}

theorem not_carries (hstr : ∀ s, ¬ Inside (.str s) v)
    (hdict : ∀ fields, ¬ Inside (.dict fields) v) : ¬ Carries t v := by
  rintro (hinside | ⟨members, hinside, -⟩)
  · exact hstr t hinside
  · exact hdict members hinside

theorem not_columnField (hdict : ∀ fields, ¬ Inside (.dict fields) v) : ¬ ColumnField field v := by
  rintro (⟨members, rfl, hinside, -⟩ | ⟨members, hinside, -⟩)
  · exact hdict members hinside
  · exact hdict members hinside

theorem carries_str : Carries t (.str s) ↔ t = s := by
  constructor
  · rintro (hinside | ⟨members, hinside, -⟩)
    · cases hinside
      rfl
    · cases hinside
  · rintro rfl
    exact .inl .here

theorem carries_list : Carries t (.list items) ↔ ∃ v ∈ items, Carries t v := by
  constructor
  · rintro (hinside | ⟨members, hinside, hkey⟩)
    · cases hinside with
      | item hmem hinside => exact ⟨_, hmem, .inl hinside⟩
    · cases hinside with
      | item hmem hinside => exact ⟨_, hmem, .inr ⟨members, hinside, hkey⟩⟩
  · rintro ⟨v, hv, hinside | ⟨members, hinside, hkey⟩⟩
    · exact .inl (.item hv hinside)
    · exact .inr ⟨members, .item hv hinside, hkey⟩

theorem carries_dict : Carries t (.dict fields) ↔ ∃ f ∈ fields, f.1 = t ∨ Carries t f.2 := by
  constructor
  · rintro (hinside | ⟨members, hinside, f, hf, hkey⟩)
    · cases hinside with
      | member hmem hinside => exact ⟨_, hmem, .inr (.inl hinside)⟩
    · cases hinside with
      | here => exact ⟨f, hf, .inl hkey⟩
      | member hmem hinside => exact ⟨_, hmem, .inr (.inr ⟨members, hinside, f, hf, hkey⟩)⟩
  · rintro ⟨f, hf, hkey | hinside | ⟨members, hinside, hkey⟩⟩
    · exact .inr ⟨fields, .here, f, hf, hkey⟩
    · exact .inl (.member hf hinside)
    · exact .inr ⟨members, .member hf hinside, hkey⟩

theorem columnField_list : ColumnField field (.list items) ↔ ∃ v ∈ items, ColumnField field v := by
  constructor
  · rintro (⟨members, rfl, hinside, hmatch⟩ | ⟨members, hinside, hkey⟩)
    · cases hinside with
      | item hmem hinside => exact ⟨_, hmem, .inl ⟨members, rfl, hinside, hmatch⟩⟩
    · cases hinside with
      | item hmem hinside => exact ⟨_, hmem, .inr ⟨members, hinside, hkey⟩⟩
  · rintro ⟨v, hv, ⟨members, rfl, hinside, hmatch⟩ | ⟨members, hinside, hkey⟩⟩
    · exact .inl ⟨members, rfl, .item hv hinside, hmatch⟩
    · exact .inr ⟨members, .item hv hinside, hkey⟩

theorem columnField_dict : ColumnField field (.dict fields) ↔
    (directMatch fields = true ∧ field = .dict fields)
      ∨ ∃ f ∈ fields, f = (COLUMN_PATH, field) ∨ ColumnField field f.2 := by
  constructor
  · rintro (⟨members, rfl, hinside, hmatch⟩ | ⟨members, hinside, hkey⟩)
    · cases hinside with
      | here => exact .inl ⟨hmatch, rfl⟩
      | member hmem hinside => exact .inr ⟨_, hmem, .inr (.inl ⟨members, rfl, hinside, hmatch⟩)⟩
    · cases hinside with
      | here => exact .inr ⟨_, hkey, .inl rfl⟩
      | member hmem hinside => exact .inr ⟨_, hmem, .inr (.inr ⟨members, hinside, hkey⟩)⟩
  · rintro (⟨hmatch, rfl⟩ | ⟨f, hf, rfl | hfield⟩)
    · exact .inl ⟨fields, rfl, .here, hmatch⟩
    · exact .inr ⟨fields, .here, hf⟩
    · rcases hfield with ⟨members, rfl, hinside, hmatch⟩ | ⟨members, hinside, hkey⟩
      · exact .inl ⟨members, rfl, .member hf hinside, hmatch⟩
      · exact .inr ⟨members, .member hf hinside, hkey⟩

end Places

/-! ## 3. How much a walk visits -/

mutual

/-- The values inside a value, itself among them. -/
def visits : Py → Nat
  | .list items => 1 + itemVisits items
  | .dict fields => 1 + memberVisits fields
  | _ => 1

/-- The values inside the elements of a list. -/
def itemVisits : List Py → Nat
  | [] => 0
  | v :: vs => visits v + itemVisits vs

/-- The values inside the members of a dict. -/
def memberVisits : List (Text × Py) → Nat
  | [] => 0
  | (_, v) :: fs => visits v + memberVisits fs

end

theorem visits_le_items {v : Py} {items : List Py} (hv : v ∈ items) :
    visits v ≤ itemVisits items := by
  induction items with
  | nil => cases hv
  | cons w ws ih =>
    rw [itemVisits]
    rcases List.mem_cons.mp hv with rfl | hv
    · omega
    · have := ih hv
      omega

theorem visits_le_members {f : Text × Py} {fields : List (Text × Py)} (hf : f ∈ fields) :
    visits f.2 ≤ memberVisits fields := by
  induction fields with
  | nil => cases hf
  | cons g gs ih =>
    rw [memberVisits]
    rcases List.mem_cons.mp hf with rfl | hf
    · omega
    · have := ih hf
      omega

theorem visits_inside {w v : Py} (h : Inside w v) : visits w ≤ visits v := by
  induction h with
  | here => exact le_rfl
  | item hmem _ ih =>
    rw [visits]
    have := visits_le_items hmem
    omega
  | member hmem _ ih =>
    rw [visits]
    have := visits_le_members hmem
    omega

/-- A field is no larger than the answer it stands in. -/
theorem visits_columnField {field v : Py} (h : ColumnField field v) : visits field ≤ visits v := by
  rcases h with ⟨fields, rfl, hinside, -⟩ | ⟨fields, hinside, hkey⟩
  · exact visits_inside hinside
  · refine le_trans ?_ (visits_inside hinside)
    exact visits_inside (.member hkey .here)

/-! ## 4. What the walks find -/

/-- A walk of so many visits finds exactly the things of a kind. -/
abbrev Finds {α : Type} (m : StateT Nat (Except Rejection) (List α)) (cost : Nat)
    (Found : α → Prop) : Prop :=
  Spends MAX_VISITED tooLarge m cost fun as => ∀ a, a ∈ as ↔ Found a

theorem finds_leaf {α : Type} {found : List α} {Found : α → Prop} (h : ∀ a, a ∈ found ↔ Found a) :
    Finds (do tick MAX_VISITED tooLarge; return found) 1 Found :=
  spends_tick.bind_pure fun _ _ => h

theorem finds_nothing {α : Type} {Found : α → Prop} (h : ∀ a, ¬ Found a) :
    Finds (do tick MAX_VISITED tooLarge; return []) 1 Found :=
  finds_leaf fun a => iff_of_false List.not_mem_nil (h a)

theorem finds_itemStrings {items : List Py}
    (h : ∀ v ∈ items, Finds (subtreeStrings v) (visits v) fun t => Carries t v) :
    Finds (itemStrings items) (itemVisits items) fun t => ∃ v ∈ items, Carries t v := by
  induction items with
  | nil =>
    rw [itemStrings, itemVisits]
    exact spends_pure (by simp)
  | cons v vs ih =>
    obtain ⟨hv, hvs⟩ := List.forall_mem_cons.mp h
    rw [itemStrings, itemVisits]
    refine hv.bind fun strings hstrings => (ih hvs).bind_pure fun rest hrest t => ?_
    rw [List.mem_append, hstrings, hrest]
    exact (List.exists_mem_cons_iff ..).symm

theorem finds_memberStrings {fields : List (Text × Py)}
    (h : ∀ f ∈ fields, Finds (subtreeStrings f.2) (visits f.2) fun t => Carries t f.2) :
    Finds (memberStrings fields) (memberVisits fields)
      fun t => ∃ f ∈ fields, f.1 = t ∨ Carries t f.2 := by
  induction fields with
  | nil =>
    rw [memberStrings, memberVisits]
    exact spends_pure (by simp)
  | cons f fs ih =>
    obtain ⟨hf, hfs⟩ := List.forall_mem_cons.mp h
    rw [memberStrings, memberVisits]
    refine hf.bind fun strings hstrings => (ih hfs).bind_pure fun rest hrest t => ?_
    change t ∈ f.1 :: strings ++ rest ↔ ∃ g ∈ f :: fs, g.1 = t ∨ Carries t g.2
    rw [List.exists_mem_cons_iff, List.cons_append, List.mem_cons, List.mem_append, hstrings, hrest,
      or_assoc, eq_comm]

/-- **The strings of a value** are all that it carries. -/
theorem finds_subtreeStrings (v : Py) :
    Finds (subtreeStrings v) (visits v) fun t => Carries t v := by
  refine Jobs.Py.induct v ?_ ?_ ?_ ?_ ?_ ?_ ?_ ?_
  · exact finds_nothing fun t => not_carries nofun nofun
  · exact fun b => finds_nothing fun t => not_carries nofun nofun
  · exact fun n => finds_nothing fun t => not_carries nofun nofun
  · exact fun repr isFinite => finds_nothing fun t => not_carries nofun nofun
  · exact fun numeral => finds_nothing fun t => not_carries nofun nofun
  · intro s
    exact finds_leaf fun t => by rw [List.mem_singleton, carries_str]
  · intro items ih
    rw [subtreeStrings, visits]
    refine spends_tick.bind fun _ _ => (finds_itemStrings ih).imp fun found hfound t => ?_
    exact (hfound t).trans carries_list.symm
  · intro fields ih
    rw [subtreeStrings, visits]
    refine spends_tick.bind fun _ _ => (finds_memberStrings ih).imp fun found hfound t => ?_
    exact (hfound t).trans carries_dict.symm

theorem finds_itemScopes {items : List Py}
    (h : ∀ v ∈ items, Finds (columnScopes v) (visits v) fun field => ColumnField field v) :
    Finds (itemScopes items) (itemVisits items) fun field => ∃ v ∈ items, ColumnField field v := by
  induction items with
  | nil =>
    rw [itemScopes, itemVisits]
    exact spends_pure (by simp)
  | cons v vs ih =>
    obtain ⟨hv, hvs⟩ := List.forall_mem_cons.mp h
    rw [itemScopes, itemVisits]
    refine hv.bind fun scopes hscopes => (ih hvs).bind_pure fun rest hrest field => ?_
    rw [List.mem_append, hscopes, hrest]
    exact (List.exists_mem_cons_iff ..).symm

theorem finds_memberScopes {fields : List (Text × Py)}
    (h : ∀ f ∈ fields, Finds (columnScopes f.2) (visits f.2) fun field => ColumnField field f.2) :
    Finds (memberScopes fields) (memberVisits fields)
      fun field => ∃ f ∈ fields, f = (COLUMN_PATH, field) ∨ ColumnField field f.2 := by
  induction fields with
  | nil =>
    rw [memberScopes, memberVisits]
    exact spends_pure (by simp)
  | cons f fs ih =>
    obtain ⟨key, v⟩ := f
    obtain ⟨hf, hfs⟩ := List.forall_mem_cons.mp h
    rw [memberScopes, memberVisits]
    refine hf.bind fun scopes hscopes => (ih hfs).bind_pure fun rest hrest field => ?_
    have hown : field ∈ (if key = COLUMN_PATH then v :: scopes else scopes) ↔
        (key, v) = (COLUMN_PATH, field) ∨ ColumnField field v := by
      rw [Prod.mk.injEq]
      by_cases hkey : key = COLUMN_PATH
      · rw [if_pos hkey, List.mem_cons, hscopes, eq_comm]
        simp [hkey]
      · rw [if_neg hkey, hscopes]
        simp [hkey]
    change field ∈ (if key = COLUMN_PATH then v :: scopes else scopes) ++ rest ↔
      ∃ g ∈ (key, v) :: fs, g = (COLUMN_PATH, field) ∨ ColumnField field g.2
    rw [List.exists_mem_cons_iff, List.mem_append, hown, hrest]

/-- **The scopes of a value** are all fields of the column inside it. -/
theorem finds_columnScopes (v : Py) :
    Finds (columnScopes v) (visits v) fun field => ColumnField field v := by
  refine Jobs.Py.induct v ?_ ?_ ?_ ?_ ?_ ?_ ?_ ?_
  · exact finds_nothing fun field => not_columnField nofun
  · exact fun b => finds_nothing fun field => not_columnField nofun
  · exact fun n => finds_nothing fun field => not_columnField nofun
  · exact fun repr isFinite => finds_nothing fun field => not_columnField nofun
  · exact fun numeral => finds_nothing fun field => not_columnField nofun
  · exact fun s => finds_nothing fun field => not_columnField nofun
  · intro items ih
    rw [columnScopes, visits]
    refine spends_tick.bind fun _ _ => (finds_itemScopes ih).imp fun found hfound field => ?_
    exact (hfound field).trans columnField_list.symm
  · intro fields ih
    rw [columnScopes, visits]
    refine spends_tick.bind fun _ _ => (finds_memberScopes ih).bind_pure ?_
    intro found hfound field
    have hin : field ∈ found ↔
        ∃ f ∈ fields, f = (COLUMN_PATH, field) ∨ ColumnField field f.2 := hfound field
    change field ∈ (if directMatch fields then found ++ [.dict fields] else found) ↔
      ColumnField field (.dict fields)
    rw [columnField_dict, ← hin]
    by_cases hmatch : directMatch fields = true
    · simp [hmatch, or_comm]
    · simp [hmatch]

/-! ## 5. What is returned -/

section Answers

variable (loads : Text → Loaded) (result : ToolResult)

/-- The values that an answer holds: its structured content, where that is a dict, and what its
texts are. -/
def IsPayload (payload : Py) : Prop :=
  (payload = result.structuredContent ∧ result.structuredContent.isDict = true)
    ∨ ∃ text ∈ result.content, loads text = .value payload

/-- An answer that can be read: it holds something, no text breaks the parser, and nothing is too
large. -/
structure Readable : Prop where
  held : ∃ payload, IsPayload loads result payload
  parsed : ∀ text ∈ result.content, loads text ≠ .tooDeep
  small : ∀ payload, IsPayload loads result payload → visits payload ≤ MAX_VISITED

variable {loads result}

theorem parsedText_ok_iff {text : Text} :
    (∃ vs, parsedText loads text = .ok vs) ↔ loads text ≠ .tooDeep := by
  rw [parsedText]
  cases loads text <;> simp

theorem mem_parsedText {text : Text} {v : Py} :
    (∃ vs, parsedText loads text = .ok vs ∧ v ∈ vs) ↔ loads text = .value v := by
  rw [parsedText]
  cases loads text <;> simp [eq_comm]

theorem mem_payloads {parsed : List (List Py)}
    (h : result.content.mapM (parsedText loads) = .ok parsed) {payload : Py} :
    payload ∈ (if result.structuredContent.isDict then [result.structuredContent] else [])
      ++ parsed.flatten ↔ IsPayload loads result payload := by
  rw [List.mem_append, Fallible.mem_flatten_of_mapM h, IsPayload]
  simp only [mem_parsedText]
  by_cases hdict : result.structuredContent.isDict = true
  · simp [hdict]
  · simp [hdict]

theorem mem_structuredPayloads {payloads : List Py}
    (h : structuredPayloads loads result = .ok payloads) {payload : Py} :
    payload ∈ payloads ↔ IsPayload loads result payload := by
  obtain ⟨parsed, hparsed, h⟩ := bind_eq_ok.mp h
  obtain ⟨_, -, h⟩ := bind_eq_ok.mp h
  obtain rfl := Except.ok.inj h
  exact mem_payloads hparsed

theorem structuredPayloads_ok_iff :
    (∃ payloads, structuredPayloads loads result = .ok payloads) ↔
      (∃ payload, IsPayload loads result payload)
        ∧ ∀ text ∈ result.content, loads text ≠ .tooDeep := by
  constructor
  · rintro ⟨payloads, h⟩
    obtain ⟨parsed, hparsed, h⟩ := bind_eq_ok.mp h
    obtain ⟨_, hsome, -⟩ := bind_eq_ok.mp h
    have hheld := demand_eq_ok.mp hsome
    rw [Bool.not_eq_true', List.isEmpty_eq_false_iff_exists_mem] at hheld
    obtain ⟨payload, hpayload⟩ := hheld
    refine ⟨⟨payload, (mem_payloads hparsed).mp hpayload⟩, ?_⟩
    intro text htext
    obtain ⟨vs, -, hvs⟩ := Fallible.ok_of_mapM hparsed htext
    exact parsedText_ok_iff.mp ⟨vs, hvs⟩
  · rintro ⟨⟨payload, hpayload⟩, hparses⟩
    obtain ⟨parsed, hparsed⟩ := Fallible.exists_mapM
      fun text htext => parsedText_ok_iff.mpr (hparses text htext)
    have hheld := List.isEmpty_eq_false_iff_exists_mem.mpr
      ⟨payload, (mem_payloads hparsed).mpr hpayload⟩
    refine ⟨_, bind_eq_ok.mpr ⟨parsed, hparsed, bind_eq_ok.mpr ⟨(), demand_eq_ok.mpr ?_, rfl⟩⟩⟩
    rw [hheld]
    rfl

/-- The tags of a field are those of its strings that are spelled as `TAG_RE` asks. -/
theorem scopeTags_ok {scope : Py} (h : visits scope ≤ MAX_VISITED) :
    ∃ tags, scopeTags scope = .ok tags ∧ ∀ t, t ∈ tags ↔ isTag t = true ∧ Carries t scope := by
  obtain ⟨strings, hstrings, hmem⟩ := (finds_subtreeStrings scope).run'.1 h
  refine ⟨_, bind_eq_ok.mpr ⟨strings, hstrings, rfl⟩, fun t => ?_⟩
  rw [List.mem_filter, hmem, and_comm]

/-- **The tags of a payload** are those of the fields of the column; no field is too large where the
payload is not. -/
theorem payloadTags_ok {payload : Py} (h : visits payload ≤ MAX_VISITED) :
    ∃ tags, payloadTags payload = .ok tags ∧ ∀ t, t ∈ tags ↔
      isTag t = true ∧ ∃ field, ColumnField field payload ∧ Carries t field := by
  obtain ⟨scopes, hscopes, hfields⟩ := (finds_columnScopes payload).run'.1 h
  have hsmall : ∀ field ∈ scopes, visits field ≤ MAX_VISITED := by
    intro field hfield
    exact (visits_columnField ((hfields field).mp hfield)).trans h
  obtain ⟨tags, htags⟩ := Fallible.exists_mapM fun field hfield =>
    (scopeTags_ok (hsmall field hfield)).imp fun _ htags => htags.1
  refine ⟨_, bind_eq_ok.mpr ⟨scopes, hscopes, bind_eq_ok.mpr ⟨tags, htags, rfl⟩⟩, fun t => ?_⟩
  rw [Fallible.mem_flatten_of_mapM htags]
  constructor
  · rintro ⟨field, hfield, own, hown, ht⟩
    obtain ⟨own', hown', hmem⟩ := scopeTags_ok (hsmall field hfield)
    obtain rfl := Except.ok.inj (hown.symm.trans hown')
    obtain ⟨htag, hcarries⟩ := (hmem t).mp ht
    exact ⟨htag, field, (hfields field).mp hfield, hcarries⟩
  · rintro ⟨htag, field, hfield, hcarries⟩
    have hscope := (hfields field).mpr hfield
    obtain ⟨own, hown, hmem⟩ := scopeTags_ok (hsmall field hscope)
    exact ⟨field, hscope, own, hown, (hmem t).mpr ⟨htag, hcarries⟩⟩

theorem payloadTags_error {payload : Py} (h : MAX_VISITED < visits payload) :
    payloadTags payload = .error tooLarge := by
  rw [payloadTags, (finds_columnScopes payload).run'.2 h]
  rfl

/-- **When an answer is returned.** -/
theorem extractColumnTags_ok_iff :
    (∃ tags, extractColumnTags loads result = .ok tags) ↔ Readable loads result := by
  constructor
  · rintro ⟨tags, h⟩
    obtain ⟨payloads, hpayloads, h⟩ := bind_eq_ok.mp h
    obtain ⟨found, hfound, -⟩ := bind_eq_ok.mp h
    obtain ⟨hheld, hparsed⟩ := structuredPayloads_ok_iff.mp ⟨payloads, hpayloads⟩
    refine ⟨hheld, hparsed, fun payload hpayload => ?_⟩
    have hmem := (mem_structuredPayloads hpayloads).mpr hpayload
    obtain ⟨own, -, hown⟩ := Fallible.ok_of_mapM hfound hmem
    by_contra hlarge
    rw [payloadTags_error (not_le.mp hlarge)] at hown
    cases hown
  · intro h
    obtain ⟨payloads, hpayloads⟩ := structuredPayloads_ok_iff.mpr ⟨h.held, h.parsed⟩
    obtain ⟨found, hfound⟩ := Fallible.exists_mapM fun payload (hpayload : payload ∈ payloads) =>
      (payloadTags_ok (h.small payload ((mem_structuredPayloads hpayloads).mp hpayload))).imp
        fun _ htags => htags.1
    exact ⟨_, bind_eq_ok.mpr ⟨payloads, hpayloads, bind_eq_ok.mpr ⟨found, hfound, rfl⟩⟩⟩

/-- **What is returned**: the tags of the fields of the column that are spelled as `TAG_RE` asks. -/
theorem mem_extractColumnTags {tags : List Text} (h : extractColumnTags loads result = .ok tags)
    {t : Text} : t ∈ tags ↔ isTag t = true
      ∧ ∃ payload, IsPayload loads result payload
        ∧ ∃ field, ColumnField field payload ∧ Carries t field := by
  have hsmall := (extractColumnTags_ok_iff.mp ⟨tags, h⟩).small
  obtain ⟨payloads, hpayloads, h⟩ := bind_eq_ok.mp h
  obtain ⟨found, hfound, h⟩ := bind_eq_ok.mp h
  obtain rfl := Except.ok.inj h
  rw [Jobs.mem_sortedTags, Fallible.mem_flatten_of_mapM hfound]
  constructor
  · rintro ⟨payload, hmem, own, hown, ht⟩
    have hpayload := (mem_structuredPayloads hpayloads).mp hmem
    obtain ⟨own', hown', hfields⟩ := payloadTags_ok (hsmall payload hpayload)
    obtain rfl := Except.ok.inj (hown.symm.trans hown')
    obtain ⟨htag, hfield⟩ := (hfields t).mp ht
    exact ⟨htag, payload, hpayload, hfield⟩
  · rintro ⟨htag, payload, hpayload, hfield⟩
    obtain ⟨own, hown, hfields⟩ := payloadTags_ok (hsmall payload hpayload)
    exact ⟨payload, (mem_structuredPayloads hpayloads).mpr hpayload, own, hown,
      (hfields t).mpr ⟨htag, hfield⟩⟩

end Answers

/-! ## 6. When nothing is missed -/

/-- The URN of a tag: the scheme and a name. -/
def isTagUrn (t : Text) : Bool := (js "urn:li:tag:").isPrefixOf t && 11 < t.length

section Answers

variable (loads : Text → Loaded) (result : ToolResult)

/-- What is to be read off an answer: the tags of the fields of the column, sorted, each of them
once. -/
structure ReadsTags (tags : List Text) : Prop where
  sorted : tags.Pairwise fun a b => Jobs.codePoints a ≤ Jobs.codePoints b
  nodup : tags.Nodup
  complete : ∀ payload, IsPayload loads result payload → ∀ field, ColumnField field payload →
    ∀ t, isTagUrn t = true → Carries t field → t ∈ tags
  sound : ∀ t ∈ tags, ∃ payload, IsPayload loads result payload
    ∧ ∃ field, ColumnField field payload ∧ Carries t field

/-- Every tag of a field of the column is spelled as `TAG_RE` asks. -/
def Spelled : Prop :=
  ∀ payload, IsPayload loads result payload → ∀ field, ColumnField field payload →
    ∀ t, isTagUrn t = true → Carries t field → isTag t = true

/-- **When no tag of the column is missed.**  Either nothing is returned, or every tag of its fields
is spelled as `TAG_RE` asks. -/
theorem extractColumnTags_reads_iff :
    (∀ tags, extractColumnTags loads result = .ok tags → ReadsTags loads result tags)
      ↔ ¬ Readable loads result ∨ Spelled loads result := by
  constructor
  · intro h
    by_cases hreadable : Readable loads result
    · right
      intro payload hpayload field hfield t ht hcarries
      obtain ⟨tags, htags⟩ := extractColumnTags_ok_iff.mpr hreadable
      have hmem := (h tags htags).complete payload hpayload field hfield t ht hcarries
      exact ((mem_extractColumnTags htags).mp hmem).1
    · exact .inl hreadable
  · intro h tags htags
    have hspelled : Spelled loads result :=
      h.resolve_left (not_not_intro (extractColumnTags_ok_iff.mp ⟨tags, htags⟩))
    obtain ⟨payloads, -, hfound⟩ := bind_eq_ok.mp htags
    obtain ⟨found, -, hsorted⟩ := bind_eq_ok.mp hfound
    obtain rfl := Except.ok.inj hsorted
    constructor
    · exact Jobs.pairwise_sortedTags _
    · exact Jobs.nodup_sortedTags _
    · intro payload hpayload field hfield t ht hcarries
      refine (mem_extractColumnTags htags).mpr ⟨?_, payload, hpayload, field, hfield, hcarries⟩
      exact hspelled payload hpayload field hfield t ht hcarries
    · intro t ht
      exact ((mem_extractColumnTags htags).mp ht).2

end Answers

/-- A field of the column whose tag has a slash in its name. -/
def slashedField : Py :=
  .object [("fieldPath", .str COLUMN_PATH), ("tags", .list [.str (js "urn:li:tag:finance/pii")])]

/-- The answer that holds it, as text. -/
def slashedText : Text :=
  js "\x7b\"fields\":[\x7b\"fieldPath\":\"customer_email\","
    ++ js "\"tags\":[\"urn:li:tag:finance/pii\"]\x7d]\x7d"

/-- The value that it is the text of. -/
def slashedPayload : Py := .object [("fields", .list [slashedField])]

/-- `json.loads`, on that text. -/
def slashedLoads (text : Text) : Loaded :=
  if text = slashedText then .value slashedPayload else .malformed

/-- A result of the tool whose one text it is. -/
def slashedResult : ToolResult where
  structuredContent := .none
  content := [slashedText]

/-- **A tag that is spelled otherwise is dropped without a word.** -/
theorem not_reads_slashed : extractColumnTags slashedLoads slashedResult = .ok []
    ∧ ¬ ∀ tags, extractColumnTags slashedLoads slashedResult = .ok tags →
        ReadsTags slashedLoads slashedResult tags := by
  have hanswer : extractColumnTags slashedLoads slashedResult = .ok [] := by decide +kernel
  refine ⟨hanswer, fun h => ?_⟩
  have hpayload : IsPayload slashedLoads slashedResult slashedPayload :=
    .inr ⟨slashedText, List.mem_cons_self, if_pos rfl⟩
  have hinside : Inside slashedField slashedPayload :=
    .member List.mem_cons_self (.item List.mem_cons_self .here)
  have hfield : ColumnField slashedField slashedPayload :=
    .inl ⟨_, rfl, hinside, by decide +kernel⟩
  have hcarries : Carries (js "urn:li:tag:finance/pii") slashedField :=
    .inl (.member (List.mem_cons_of_mem _ List.mem_cons_self) (.item List.mem_cons_self .here))
  exact List.not_mem_nil
    ((h [] hanswer).complete _ hpayload slashedField hfield _ (by decide +kernel) hcarries)

end Cloud
