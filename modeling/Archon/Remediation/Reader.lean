/-
# The projection read from DataHub

`parseTagProjectionResponse` looks for one field in two lists: the schema that was ingested, which
has to name it, and the edits made to the schema, which may.  Both lists go through a map by path
that refuses a path seen before, so the field found in a list is the only one of its path there
(`fieldsByPath_eq_ok`).  A tag that is no tag URN is refused and not left out (`tagUrns_eq_ok`).

So a projection that is returned has the tags of that field in the one list and in the other, and no
others (`parseTagProjectionResponse_reads`).
-/
import Archon.Ecma.Maps
import Archon.Remediation.Planning

namespace ProjectionReader

open Ecma Ecma.Value Remediation

/-! ## 1. The response -/

/-- The codes of a `TagProjectionReadError`. -/
inductive TagProjectionReadErrorCode where
  | INVALID_CONFIGURATION
  | INVALID_TARGET
  | HTTP_ERROR
  | INVALID_RESPONSE
deriving DecidableEq

/-- What reading a projection throws: an error of the reader, or one of `createTagProjection`. -/
inductive Thrown where
  | tagProjectionReadError (code : TagProjectionReadErrorCode) (message : String)
  | planner (e : Exn Failure)

/-- A computation of the reader. -/
abbrev Read := Except Thrown

/-- `fail("INVALID_RESPONSE", message)`. -/
def fail {α : Type} (message : String) : Read α :=
  .error (.tagProjectionReadError .INVALID_RESPONSE message)

/-- The URN of an entry of `tags`. -/
def tagUrn (entry : Value) : Read Text :=
  match entry with
  | .obj _ =>
    match entry.get (js "tag") with
    | .str t => if isTagUrn t then .ok t else fail "Field tag identity must be a DataHub tag URN."
    | _ => fail "Field tag identity must be a DataHub tag URN."
  | _ => fail "Field tag identity must be a DataHub tag URN."

/-- `tagUrns`. -/
def tagUrns (P : Platform) (value : Value) : Read (List Text) :=
  match value with
  | .undefined => .ok []
  | .obj _ =>
    match value.get (js "tags") with
    | .arr tags => do return P.sortTexts (distinct (← tags.mapM tagUrn))
    | _ => fail "Field globalTags.tags must be an array."
  | _ => fail "Field globalTags must be an object."

/-- `record`. -/
def record (value : Value) (message : String) : Read Value :=
  match value with
  | .obj _ => .ok value
  | _ => fail message

/-- The value of a wrapper of an aspect. -/
def wrappedValue (aspectName : String) (envelope : List (Text × Value)) : Read Value :=
  match lookup (js "value") envelope with
  | none => fail s!"DataHub {aspectName} wrapper is missing value."
  | some v => record v s!"DataHub {aspectName} value must be an object."

/-- `aspectValue`. -/
def aspectValue (entity : Value) (aspectName : String) (required : Bool) : Read (Option Value) :=
  match entity.get (js aspectName), required with
  | .undefined, false => .ok none
  | .obj envelope, _ => (wrappedValue aspectName envelope).map some
  | _, _ => fail s!"DataHub response is missing a valid {aspectName} wrapper."

/-- A round of the loop of `fieldsByPath`. -/
def setField (collectionName : String) (fields : JsMap Text Value) (candidate : Value) :
    Read (JsMap Text Value) := do
  let field ← record candidate s!"Every {collectionName} entry must be an object."
  match field.get (js "fieldPath") with
  | .str fieldPath =>
    if !nonBlank fieldPath then fail s!"Every {collectionName} entry must have a fieldPath."
    else if fields.has fieldPath then fail s!"DataHub {collectionName} contains a duplicate fieldPath."
    else return fields.set fieldPath field
  | _ => fail s!"Every {collectionName} entry must have a fieldPath."

/-- `fieldsByPath`. -/
def fieldsByPath (value : Value) (collectionName : String) : Read (JsMap Text Value) :=
  match value with
  | .arr candidates => candidates.foldlM (setField collectionName) .empty
  | _ => fail s!"DataHub {collectionName} must be an array."

/-- The field that is asked for. -/
structure Target where
  entityUrn : Text
  columnPath : Text

/-- The entity of the response. -/
def entityOf (value : Value) (target : Target) : Read Value :=
  match value with
  | .arr [candidate] => do
    let entity ← record candidate "DataHub tag projection batchGet entity must be an object."
    if (entity.get (js "urn")).isText target.entityUrn then return entity
    else fail "DataHub tag projection batchGet returned the wrong entity."
  | _ => fail "DataHub tag projection batchGet must return exactly one entity."

/-- The requested field of the ingested schema, which has to be there. -/
def schemaFieldOf (entity : Value) (target : Target) : Read Value := do
  let schemaMetadata := (← aspectValue entity "schemaMetadata" true).getD .undefined
  let schemaFields ← fieldsByPath (schemaMetadata.get (js "fields")) "schemaMetadata.fields"
  match schemaFields.get target.columnPath with
  | some schemaField => return schemaField
  | none => fail "The requested field must resolve to exactly one schemaMetadata field."

/-- The requested field of the edited schema. -/
def editableFieldOf (entity : Value) (target : Target) : Read (Option Value) := do
  match ← aspectValue entity "editableSchemaMetadata" false with
  | some editable => do
    let fields ← fieldsByPath (editable.get (js "editableSchemaFieldInfo"))
      "editableSchemaMetadata.editableSchemaFieldInfo"
    return fields.get target.columnPath
  | none => return none

/-- `parseTagProjectionResponse`. -/
def parseTagProjectionResponse (P : Platform) (value : Value) (target : Target) : Read Value := do
  let entity ← entityOf value target
  let schemaField ← schemaFieldOf entity target
  let editableField ← editableFieldOf entity target
  let ingested ← tagUrns P (schemaField.get (js "globalTags"))
  let edited ← tagUrns P ((editableField.map fun field => field.get (js "globalTags")).getD .undefined)
  (createTagProjection P (.str target.entityUrn) (.str target.columnPath)
    ((P.sortTexts (distinct (ingested ++ edited))).map .str)).mapError .planner

/-! ## 2. The fields of a list -/

/-- A field that a list of an aspect holds for a path. -/
def FieldAt (entity : Value) (aspectName collection : String) (path : Text) (field : Value) : Prop :=
  ∃ fields, entity.getPath [aspectName, "value", collection] = .arr fields ∧ field ∈ fields
    ∧ field.get (js "fieldPath") = .str path

/-- The path of a field, where it has one. -/
def pathOf (field : Value) : Text :=
  match field.get (js "fieldPath") with
  | .str path => path
  | _ => []

/-- What the loop goes on with. -/
def Named (field : Value) : Prop :=
  (∃ members, field = .obj members) ∧ ∃ path, field.get (js "fieldPath") = .str path
    ∧ nonBlank path = true

theorem setField_eq_ok (collectionName : String) (m : JsMap Text Value) (field : Value)
    (m' : JsMap Text Value) : setField collectionName m field = .ok m' ↔
      Named field ∧ m.has (pathOf field) = false ∧ m' = m.set (pathOf field) field := by
  cases field with
  | obj members =>
    rw [setField, record, pathOf]
    cases hpath : (Value.obj members).get (js "fieldPath") with
    | str path =>
      have hnamed : Named (.obj members) ↔ nonBlank path = true := by
        constructor
        · rintro ⟨-, p, hp, hblank⟩
          rw [hpath] at hp
          rwa [Value.str.inj hp]
        · exact fun hblank => ⟨⟨members, rfl⟩, path, hpath, hblank⟩
      rw [hnamed]
      cases hblank : nonBlank path with
      | false => simp [hpath, hblank, fail, bind, Except.bind]
      | true =>
        cases hhas : m.has path with
        | true => simp [hpath, hblank, hhas, fail, bind, Except.bind]
        | false => simp [hpath, hblank, hhas, bind, Except.bind, pure, Except.pure, eq_comm]
    | _ =>
      refine iff_of_false (fun h => ?_) (fun h => ?_)
      · simp [hpath, fail, bind, Except.bind] at h
      · obtain ⟨⟨-, p, hp, -⟩, -⟩ := h
        rw [hpath] at hp
        cases hp
  | _ =>
    refine iff_of_false (fun h => ?_) (fun h => ?_)
    · cases h
    · obtain ⟨⟨⟨members, hobj⟩, -⟩, -⟩ := h
      cases hobj

/-- **A list whose fields are told apart by their paths**: what the map has for a path is the one
field of that path. -/
theorem fieldsByPath_eq_ok {value : Value} {collectionName : String} {m : JsMap Text Value}
    (h : fieldsByPath value collectionName = .ok m) : ∃ fields, value = .arr fields
      ∧ ∀ path field, m.get path = some field ↔
        field ∈ fields ∧ field.get (js "fieldPath") = .str path := by
  cases value with
  | arr fields =>
    obtain ⟨hall, hnodup, rfl⟩ := (foldlM_set_eq_ok (setField_eq_ok collectionName)).mp h
    refine ⟨fields, rfl, fun path field => ?_⟩
    have hpath : ∀ f ∈ fields, f.get (js "fieldPath") = .str (pathOf f) := by
      intro f hf
      obtain ⟨-, p, hp, -⟩ := (hall f hf).1
      rw [pathOf, hp]
    rw [← JsMap.mem_iff_get, entries_foldl_set (fun _ _ => rfl) hnodup]
    constructor
    · intro hmem
      rcases List.mem_append.mp hmem with hmem | hmem
      · cases hmem
      · obtain ⟨f, hf, heq⟩ := List.mem_map.mp hmem
        obtain ⟨rfl, rfl⟩ := Prod.mk.inj heq
        exact ⟨hf, hpath f hf⟩
    · rintro ⟨hf, hp⟩
      rw [hpath field hf] at hp
      rw [← Value.str.inj hp]
      exact List.mem_append_right _ (List.mem_map_of_mem (f := fun f => (pathOf f, f)) hf)
  | _ => cases h

/-! ## 3. The tags of a field -/

/-- A tag that a field holds, given what stands under `globalTags`. -/
def TagIn (globalTags : Value) (t : Text) : Prop :=
  ∃ entries, globalTags.get (js "tags") = .arr entries
    ∧ ∃ entry ∈ entries, entry.get (js "tag") = .str t

theorem tagUrn_eq_ok {entry : Value} {t : Text} (h : tagUrn entry = .ok t) :
    entry.get (js "tag") = .str t := by
  cases entry with
  | obj members =>
    rw [tagUrn] at h
    cases htag : (Value.obj members).get (js "tag") with
    | str u =>
      simp only [htag] at h
      split at h
      case isTrue => rw [Except.ok.inj h]
      case isFalse => cases h
    | _ =>
      simp only [htag] at h
      cases h
  | _ => cases h

theorem mem_of_mapM {α β ε : Type} {f : α → Except ε β} {as : List α} {bs : List β}
    (h : as.mapM f = .ok bs) :
    (∀ b ∈ bs, ∃ a ∈ as, f a = .ok b) ∧ ∀ a ∈ as, ∃ b ∈ bs, f a = .ok b := by
  induction as generalizing bs with
  | nil =>
    obtain rfl := Except.ok.inj h
    exact ⟨fun b hb => absurd hb List.not_mem_nil, fun a ha => absurd ha List.not_mem_nil⟩
  | cons a as ih =>
    rw [List.mapM_cons] at h
    cases ha : f a with
    | error e =>
      rw [ha] at h
      cases h
    | ok c =>
      cases has : as.mapM f with
      | error e =>
        rw [ha, has] at h
        cases h
      | ok cs =>
        rw [ha, has] at h
        obtain rfl := Except.ok.inj h
        obtain ⟨hleft, hright⟩ := ih has
        constructor
        · intro b hb
          rcases List.mem_cons.mp hb with rfl | hb
          · exact ⟨a, List.mem_cons_self, ha⟩
          · obtain ⟨d, hd, hdb⟩ := hleft b hb
            exact ⟨d, List.mem_cons_of_mem a hd, hdb⟩
        · intro d hd
          rcases List.mem_cons.mp hd with rfl | hd
          · exact ⟨c, List.mem_cons_self, ha⟩
          · obtain ⟨b, hb, hdb⟩ := hright d hd
            exact ⟨b, List.mem_cons_of_mem c hb, hdb⟩

/-- **No tag of a field is left out.** -/
theorem tagUrns_eq_ok {P : Platform} {globalTags : Value} {ts : List Text}
    (h : tagUrns P globalTags = .ok ts) (t : Text) : t ∈ ts ↔ TagIn globalTags t := by
  cases globalTags with
  | undefined =>
    obtain rfl := Except.ok.inj h
    refine iff_of_false List.not_mem_nil ?_
    rintro ⟨entries, hentries, -⟩
    cases hentries
  | obj members =>
    rw [tagUrns] at h
    cases htags : (Value.obj members).get (js "tags") with
    | arr entries =>
      simp only [htags] at h
      cases hurns : entries.mapM tagUrn with
      | error e =>
        rw [hurns] at h
        cases h
      | ok urns =>
        rw [hurns] at h
        obtain rfl := Except.ok.inj h
        obtain ⟨hleft, hright⟩ := mem_of_mapM hurns
        rw [(P.sortTexts_perm _).mem_iff, mem_distinct]
        constructor
        · intro ht
          obtain ⟨entry, hentry, hurn⟩ := hleft t ht
          exact ⟨entries, htags, entry, hentry, tagUrn_eq_ok hurn⟩
        · rintro ⟨entries', hentries, entry, hentry, htag⟩
          rw [htags] at hentries
          obtain rfl := Value.arr.inj hentries
          obtain ⟨u, hu, hurn⟩ := hright entry hentry
          have htag' := tagUrn_eq_ok hurn
          rw [htag] at htag'
          rwa [Value.str.inj htag']
    | _ =>
      simp only [htags] at h
      cases h
  | _ => cases h

/-! ## 4. The projection -/

theorem wrappedValue_eq_ok {aspectName : String} {envelope : List (Text × Value)} {w : Value}
    (h : wrappedValue aspectName envelope = .ok w) : lookup (js "value") envelope = some w := by
  rw [wrappedValue] at h
  cases hlookup : lookup (js "value") envelope with
  | none =>
    rw [hlookup] at h
    cases h
  | some v =>
    rw [hlookup] at h
    cases v with
    | obj members => rw [Except.ok.inj h]
    | _ => cases h

/-- The value of an aspect that the response has. -/
theorem aspectValue_eq_ok {entity : Value} {aspectName : String} {required : Bool} {v : Option Value}
    (h : aspectValue entity aspectName required = .ok v) :
    (∃ w, v = some w ∧ entity.getPath [aspectName, "value"] = w)
      ∨ v = none ∧ required = false ∧ entity.get (js aspectName) = .undefined := by
  unfold aspectValue at h
  cases hget : entity.get (js aspectName) with
  | undefined =>
    rw [hget] at h
    cases required with
    | true => cases h
    | false => exact .inr ⟨(Except.ok.inj h).symm, rfl, rfl⟩
  | obj envelope =>
    rw [hget] at h
    have hvalue : (wrappedValue aspectName envelope).map some = .ok v := by
      cases required <;> exact h
    cases hw : wrappedValue aspectName envelope with
    | error e =>
      rw [hw] at hvalue
      cases hvalue
    | ok w =>
      rw [hw] at hvalue
      refine .inl ⟨w, (Except.ok.inj hvalue).symm, ?_⟩
      rw [getPath_cons, hget, getPath_cons, get_obj, wrappedValue_eq_ok hw]
      rfl
  | _ =>
    rw [hget] at h
    cases required <;> cases h

/-- The fields that a list of an aspect holds, by their paths. -/
theorem get_fieldsByPath {entity : Value} {aspectName collection name : String}
    {m : JsMap Text Value}
    (h : fieldsByPath (entity.getPath [aspectName, "value", collection]) name = .ok m) (path : Text)
    (field : Value) : m.get path = some field ↔ FieldAt entity aspectName collection path field := by
  obtain ⟨fields, hfields, hget⟩ := fieldsByPath_eq_ok h
  rw [hget]
  constructor
  · rintro ⟨hmem, hpath⟩
    exact ⟨fields, hfields, hmem, hpath⟩
  · rintro ⟨fields', hfields', hmem, hpath⟩
    rw [hfields] at hfields'
    rw [Value.arr.inj hfields']
    exact ⟨hmem, hpath⟩

/-- A tag of a field of an entity, as one of its two aspects holds it. -/
def Tagged (entity : Value) (aspectName collection : String) (path t : Text) : Prop :=
  ∃ field, FieldAt entity aspectName collection path field ∧ TagIn (field.get (js "globalTags")) t

/-- A projection is read from a response: it has one entity, the one that was asked for, whose
ingested schema has one field of the path, and the tags are those of that field, ingested and
edited. -/
structure ReadFrom (P : Platform) (value : Value) (target : Target) (projection entity : Value)
    (tags : List Text) : Prop where
  value_eq : value = .arr [entity]
  urn_eq : entity.get (js "urn") = .str target.entityUrn
  field : ∃! field, FieldAt entity "schemaMetadata" "fields" target.columnPath field
  projection_eq : projection = signed P (projectionFields target.entityUrn target.columnPath tags)
  nodup : tags.Nodup
  mem_tags : ∀ t, t ∈ tags ↔ Tagged entity "schemaMetadata" "fields" target.columnPath t
    ∨ Tagged entity "editableSchemaMetadata" "editableSchemaFieldInfo" target.columnPath t

theorem read_bind_eq_ok {α β : Type} {x : Read α} {f : α → Read β} {b : β} (h : x >>= f = .ok b) :
    ∃ a, x = .ok a ∧ f a = .ok b := by
  cases x with
  | error e => cases h
  | ok a => exact ⟨a, rfl, h⟩

theorem entityOf_eq_ok {value entity : Value} {target : Target} (h : entityOf value target = .ok entity) :
    value = .arr [entity] ∧ entity.get (js "urn") = .str target.entityUrn := by
  unfold entityOf at h
  split at h
  case h_1 candidate =>
    obtain ⟨e, hrecord, h⟩ := read_bind_eq_ok h
    cases candidate with
    | obj members =>
      obtain rfl := Except.ok.inj hrecord
      split at h
      case isTrue hurn =>
        obtain rfl := Except.ok.inj h
        exact ⟨rfl, isText_iff.mp hurn⟩
      case isFalse => cases h
    | _ => cases hrecord
  case h_2 => cases h

/-- **The requested field is the only one of its path.** -/
theorem schemaFieldOf_eq_ok {entity field : Value} {target : Target}
    (h : schemaFieldOf entity target = .ok field) (f : Value) :
    FieldAt entity "schemaMetadata" "fields" target.columnPath f ↔ f = field := by
  obtain ⟨v, haspect, hrest⟩ := read_bind_eq_ok h
  obtain ⟨m, hfields, hfound⟩ := read_bind_eq_ok hrest
  rcases aspectValue_eq_ok haspect with ⟨w, rfl, hvalue⟩ | ⟨-, hrequired, -⟩
  · rw [Option.getD_some, ← hvalue] at hfields
    rw [← get_fieldsByPath hfields]
    cases hget : m.get target.columnPath with
    | none =>
      rw [hget] at hfound
      cases hfound
    | some g =>
      rw [hget] at hfound
      obtain rfl := Except.ok.inj hfound
      rw [Option.some.injEq, eq_comm]
  · cases hrequired

theorem editableFieldOf_eq_ok {entity : Value} {target : Target} {field : Option Value}
    (h : editableFieldOf entity target = .ok field) (f : Value) :
    FieldAt entity "editableSchemaMetadata" "editableSchemaFieldInfo" target.columnPath f
      ↔ field = some f := by
  obtain ⟨v, haspect, h⟩ := read_bind_eq_ok h
  rcases aspectValue_eq_ok haspect with ⟨w, rfl, hvalue⟩ | ⟨rfl, -, hget⟩
  · obtain ⟨m, hfields, h⟩ := read_bind_eq_ok h
    rw [← hvalue] at hfields
    rw [← get_fieldsByPath hfields, ← Except.ok.inj h]
  · obtain rfl := Except.ok.inj h
    refine iff_of_false ?_ (by simp)
    rintro ⟨fields, hfields, -⟩
    rw [getPath_cons, hget] at hfields
    cases hfields

/-- **The tags of a projection are those of the field**, ingested and edited, none of them left out
and none of another field among them. -/
theorem parseTagProjectionResponse_reads {P : Platform} {value projection : Value} {target : Target}
    (h : parseTagProjectionResponse P value target = .ok projection) :
    ∃ entity tags, ReadFrom P value target projection entity tags := by
  obtain ⟨entity, hentity, h₁⟩ := read_bind_eq_ok h
  obtain ⟨field, hfield, h₂⟩ := read_bind_eq_ok h₁
  obtain ⟨editable, heditable, h₃⟩ := read_bind_eq_ok h₂
  obtain ⟨ingested, hingested, h₄⟩ := read_bind_eq_ok h₃
  obtain ⟨edited, hedited, hlast⟩ := read_bind_eq_ok h₄
  obtain ⟨rfl, hurn⟩ := entityOf_eq_ok hentity
  have hschema := schemaFieldOf_eq_ok hfield
  have hedit := editableFieldOf_eq_ok heditable
  cases hcreated : createTagProjection P (.str target.entityUrn) (.str target.columnPath)
      ((P.sortTexts (distinct (ingested ++ edited))).map .str) with
  | error e =>
    rw [hcreated] at hlast
    cases hlast
  | ok p =>
    rw [hcreated] at hlast
    obtain rfl := Except.ok.inj hlast
    obtain ⟨tags, htags, rfl⟩ := createTagProjection_eq_ok hcreated
    have htags := List.map_injective_iff.mpr (fun _ _ => Value.str.inj) htags
    have hunique : ∃! f, FieldAt entity "schemaMetadata" "fields" target.columnPath f :=
      ⟨field, (hschema field).mpr rfl, fun f hf => (hschema f).mp hf⟩
    refine ⟨entity, _, rfl, hurn, hunique, rfl, (P.sortTexts_perm _).nodup_iff.mpr (nodup_distinct _),
      fun t => ?_⟩
    have hmem : t ∈ P.sortTexts (distinct tags) ↔ t ∈ ingested ∨ t ∈ edited := by
      rw [(P.sortTexts_perm _).mem_iff, mem_distinct, ← htags, (P.sortTexts_perm _).mem_iff,
        mem_distinct, List.mem_append]
    rw [hmem, tagUrns_eq_ok hingested, tagUrns_eq_ok hedited]
    refine or_congr ⟨fun h => ⟨field, (hschema field).mpr rfl, h⟩, ?_⟩ ⟨fun h => ?_, ?_⟩
    · rintro ⟨f, hf, ht⟩
      rwa [(hschema f).mp hf] at ht
    · cases editable with
      | none =>
        obtain ⟨entries, hentries, -⟩ := h
        cases hentries
      | some f => exact ⟨f, (hedit f).mpr rfl, h⟩
    · rintro ⟨f, hf, ht⟩
      rw [(hedit f).mp hf]
      exact ht

/-- An entry of `tags`. -/
def tagEntry (t : String) : Value := object [("tag", lit t)]

/-- A field with tags. -/
def fieldOf (path : String) (tags : List String) : Value :=
  object [("fieldPath", lit path), ("globalTags", object [("tags", .arr (tags.map tagEntry))])]

/-- An entity whose `email` has been ingested with one tag and edited to have two. -/
def sampleEntity : Value :=
  object [("urn", lit "urn:li:dataset:a"),
    ("schemaMetadata", object [("value", object [("fields",
      .arr [fieldOf "id" ["urn:li:tag:Key"], fieldOf "email" ["urn:li:tag:PII"]])])]),
    ("editableSchemaMetadata", object [("value", object [("editableSchemaFieldInfo",
      .arr [fieldOf "email" ["urn:li:tag:PII", "urn:li:tag:GDPR"]])])])]

/-- Its field `email`. -/
def sampleTarget : Target := ⟨js "urn:li:dataset:a", js "email"⟩

/-- The projection of that field has both tags. -/
theorem parseTagProjectionResponse_sample : ∃ projection,
    projection.get (js "tags") = .arr [lit "urn:li:tag:GDPR", lit "urn:li:tag:PII"]
      ∧ ∃ entity tags, ReadFrom .node (.arr [sampleEntity]) sampleTarget projection entity tags := by
  have hrefused : ¬ Refused sampleTarget.entityUrn sampleTarget.columnPath
      [js "urn:li:tag:GDPR", js "urn:li:tag:PII"] := not_refused_iff.mpr (by decide +kernel)
  have hentity : entityOf (.arr [sampleEntity]) sampleTarget = .ok sampleEntity := rfl
  have hfield : schemaFieldOf sampleEntity sampleTarget = .ok (fieldOf "email" ["urn:li:tag:PII"]) := rfl
  have heditable : editableFieldOf sampleEntity sampleTarget
      = .ok (some (fieldOf "email" ["urn:li:tag:PII", "urn:li:tag:GDPR"])) := rfl
  have hingested : tagUrns .node ((fieldOf "email" ["urn:li:tag:PII"]).get (js "globalTags"))
      = .ok [js "urn:li:tag:PII"] := rfl
  have hedited : tagUrns .node
      ((fieldOf "email" ["urn:li:tag:PII", "urn:li:tag:GDPR"]).get (js "globalTags"))
      = .ok [js "urn:li:tag:GDPR", js "urn:li:tag:PII"] := rfl
  have hunion : Platform.node.sortTexts (distinct ([js "urn:li:tag:PII"]
      ++ [js "urn:li:tag:GDPR", js "urn:li:tag:PII"])) = [js "urn:li:tag:GDPR", js "urn:li:tag:PII"] := by
    decide +kernel
  have hsorted : Platform.node.sortTexts (distinct [js "urn:li:tag:GDPR", js "urn:li:tag:PII"])
      = [js "urn:li:tag:GDPR", js "urn:li:tag:PII"] := by
    decide +kernel
  refine ⟨signed .node (projectionFields sampleTarget.entityUrn sampleTarget.columnPath
    [js "urn:li:tag:GDPR", js "urn:li:tag:PII"]), get_tags_signed, parseTagProjectionResponse_reads ?_⟩
  simp only [parseTagProjectionResponse, hentity, hfield, heditable, hingested, Option.map_some,
    Option.getD_some, hedited, bind, Except.bind, hunion, createTagProjection_ok hrefused, hsorted]
  rfl

end ProjectionReader
